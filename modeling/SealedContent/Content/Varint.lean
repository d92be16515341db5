import SealedContent.Bytes.Basic

/-!
Numbers in groups of seven bits, least significant first; the high bit of a byte says that more
follow. One reader accepts only the shortest form, the other any form of at most ten bytes.
-/

namespace SealedContent.Content.Varint

def bound : Nat := UInt64.size

def maxLength : Nat := 10

def write (value : Nat) : Bytes :=
  if value < 128 then [UInt8.ofNat value]
  else UInt8.ofNat (value % 128 + 128) :: write (value / 128)
termination_by value
decreasing_by omega

inductive Fault where
  | overflow
  | truncated
deriving DecidableEq, Repr

/-- Reads at most `remaining` groups, of which the last may only hold the topmost bit. -/
def readGroups : Nat → Bytes → Except Fault (Nat × Bytes)
  | 0, _ => .error .truncated
  | _ + 1, [] => .error .truncated
  | remaining + 1, byte :: rest =>
      let bits := byte.toNat % 128
      if remaining = 0 ∧ 1 < bits then .error .overflow
      else if byte.toNat < 128 then .ok (bits, rest)
      else
        match readGroups remaining rest with
        | .error fault => .error fault
        | .ok (higher, after) => .ok (bits + 128 * higher, after)

def read (input : Bytes) : Except Fault (Nat × Bytes) :=
  readGroups maxLength input

/-- Reads at most `remaining` groups; a final group of zero after others is refused. -/
def readMinimalGroups? (first : Bool) : Nat → Bytes → Option (Nat × Bytes)
  | 0, _ => none
  | _ + 1, [] => none
  | remaining + 1, byte :: rest =>
      if byte.toNat < 128 then
        if byte = 0 ∧ ¬ first then none else some (byte.toNat, rest)
      else do
        let (higher, after) ← readMinimalGroups? false remaining rest
        return (byte.toNat % 128 + 128 * higher, after)

/-- The shortest form only. What a tenth byte adds beyond the bound is dropped. -/
def readMinimal? (input : Bytes) : Option (UInt64 × Bytes) := do
  let (value, rest) ← readMinimalGroups? true maxLength input
  return (UInt64.ofNat value, rest)

end SealedContent.Content.Varint
