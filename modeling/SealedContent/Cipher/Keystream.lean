import SealedContent.Cipher.Block
import SealedContent.Cipher.Counter

/-!
Counter mode. The keystream is the encryption of consecutive counters; what a buffer leaves of
the last block is kept for the next buffer, so the cut between buffers never shows.
-/

namespace SealedContent.Cipher

structure Keystream where
  encrypt : Block → Block
  base : Counter
  /-- Blocks generated so far; the next one uses the counter this far past the base. -/
  blocksConsumed : Nat
  /-- The unused end of the last block. -/
  carry : Bytes

namespace Keystream

def countBound : Nat := UInt64.size

def start (encrypt : Block → Block) (base : Counter) : Keystream :=
  ⟨encrypt, base, 0, []⟩

def nextBlock (stream : Keystream) : Except CipherError (Block × Keystream) := do
  let counter ← stream.base.increment stream.blocksConsumed
  if stream.blocksConsumed + 1 < countBound then
    return (stream.encrypt counter.bytes,
      { stream with blocksConsumed := stream.blocksConsumed + 1 })
  else throw (.counterOverflow stream.blocksConsumed)

/-- A buffer after masking. On failure its end is left as it was given. -/
structure Applied where
  data : Bytes
  after : Keystream
  failure : Option CipherError

/-- Masks data with whole blocks. `done` holds the pieces masked before, last first. -/
def applyBlocks (stream : Keystream) (done : List Bytes) (data : Bytes) : Applied :=
  if data.isEmpty then ⟨done.reverse.flatten, stream, none⟩
  else
    match stream.nextBlock with
    | .error failure => ⟨(data :: done).reverse.flatten, stream, some failure⟩
    | .ok (block, next) =>
        let piece := data.take 16
        applyBlocks { next with carry := block.toList.drop piece.length }
          (Bytes.mask piece block.toList :: done) (data.drop 16)
termination_by data.length
decreasing_by
  cases data with
  | nil => simp_all
  | cons byte rest => simp only [List.length_drop, List.length_cons]; omega

/-- Masks a buffer with the bytes of the keystream that follow those already used. -/
def apply (stream : Keystream) (data : Bytes) : Applied :=
  let head := data.take stream.carry.length
  applyBlocks { stream with carry := stream.carry.drop head.length }
    [Bytes.mask head stream.carry] (data.drop stream.carry.length)

end Keystream

end SealedContent.Cipher
