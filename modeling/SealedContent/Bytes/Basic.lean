/-!
Byte strings as lists, with positional numbers, masking and division into pieces of one size.
-/

namespace SealedContent

abbrev Bytes := List UInt8

namespace Bytes

/-- Combines data with a mask by exclusive or; the shorter of the two decides the length. -/
def mask (data key : Bytes) : Bytes :=
  List.zipWith (fun byte keyByte => byte ^^^ keyByte) data key

@[simp] theorem length_mask (data key : Bytes) :
    (mask data key).length = min data.length key.length := by
  simp [mask]

theorem getElem?_mask {data key : Bytes} {index : Nat} {byte keyByte : UInt8}
    (given : data[index]? = some byte) (used : key[index]? = some keyByte) :
    (mask data key)[index]? = some (byte ^^^ keyByte) := by
  rw [mask, List.getElem?_zipWith, given, used]

def bigEndian (bytes : Bytes) : Nat :=
  bytes.foldl (fun value byte => value * 256 + byte.toNat) 0

def littleEndian : Bytes → Nat
  | [] => 0
  | byte :: rest => byte.toNat + 256 * littleEndian rest

/-- The low `width` bytes of a number, least significant first. -/
def ofNatLittle : Nat → Nat → Bytes
  | 0, _ => []
  | width + 1, value => UInt8.ofNat value :: ofNatLittle width (value / 256)

def ofNatBig (width value : Nat) : Bytes :=
  (ofNatLittle width value).reverse

@[simp] theorem length_ofNatLittle (width value : Nat) :
    (ofNatLittle width value).length = width := by
  induction width generalizing value with
  | zero => rfl
  | succ width induction => simp [ofNatLittle, induction]

@[simp] theorem length_ofNatBig (width value : Nat) : (ofNatBig width value).length = width := by
  simp [ofNatBig]

/-- Feeds data to `step` in pieces of exactly `size` bytes; what is left over is shorter than
one piece. -/
def foldPieces {State : Type} (size : Nat) (step : State → Bytes → State) (state : State)
    (data : Bytes) : State × Bytes :=
  if 0 < size ∧ (data.take size).length = size then
    foldPieces size step (step state (data.take size)) (data.drop size)
  else (state, data)
termination_by data.length
decreasing_by simp_all [List.length_take, List.length_drop]; omega

/-- Data cut into pieces of `size` bytes, the last one possibly shorter. A size of zero leaves
the data in one piece. -/
def pieces (size : Nat) (data : Bytes) : List Bytes :=
  let (reversed, rest) := foldPieces size (fun done piece => piece :: done) [] data
  (if rest.isEmpty then reversed else rest :: reversed).reverse

def toVector? (size : Nat) (bytes : Bytes) : Option (Vector UInt8 size) :=
  if bound : bytes.length = size then some ⟨bytes.toArray, by simp [bound]⟩ else none

@[simp] theorem toVector?_toList {size : Nat} (vector : Vector UInt8 size) :
    toVector? size vector.toList = some vector := by
  obtain ⟨⟨bytes⟩, bound⟩ := vector
  have count : bytes.length = size := bound
  simp [toVector?, Vector.toList, count]

/-- The UTF-8 form of a text. -/
def ofText (text : String) : Bytes :=
  text.toUTF8.data.toList

def toText? (bytes : Bytes) : Option String :=
  String.fromUTF8? ⟨bytes.toArray⟩

theorem toText?_ofText (text : String) : toText? (ofText text) = some text := by
  have valid : (ByteArray.mk text.toByteArray.data).IsValidUTF8 := text.isValidUTF8
  simp [toText?, ofText, String.fromUTF8?, String.fromUTF8, valid]

end Bytes

end SealedContent
