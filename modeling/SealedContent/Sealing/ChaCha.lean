import SealedContent.Bytes.Basic

/-!
The stream cipher of the sealed box: a block of 64 bytes from a key, a nonce and a counter.
-/

namespace SealedContent.Sealing.ChaCha

abbrev Words := Vector UInt32 16

def rotate (word : UInt32) (amount : UInt32) : UInt32 :=
  word <<< amount ||| word >>> (32 - amount)

/-- Mixes the words at four places. -/
def quarter (words : Words) (places : Fin 16 × Fin 16 × Fin 16 × Fin 16) : Words :=
  let (i, j, k, l) := places
  let a := words[i] + words[j]
  let d := rotate (words[l] ^^^ a) 16
  let c := words[k] + d
  let b := rotate (words[j] ^^^ c) 12
  let a := a + b
  let d := rotate (d ^^^ a) 8
  let c := c + d
  let b := rotate (b ^^^ c) 7
  (((words.set i a).set j b).set k c).set l d

/-- The columns of the square of words, and then its diagonals. -/
def places : List (Fin 16 × Fin 16 × Fin 16 × Fin 16) :=
  [(0, 4, 8, 12), (1, 5, 9, 13), (2, 6, 10, 14), (3, 7, 11, 15),
    (0, 5, 10, 15), (1, 6, 11, 12), (2, 7, 8, 13), (3, 4, 9, 14)]

def doubleRound (words : Words) : Words :=
  places.foldl quarter words

def rounds : Nat → Words → Words
  | 0, words => words
  | count + 1, words => rounds count (doubleRound words)

def constants : List UInt32 :=
  [0x61707865, 0x3320646E, 0x79622D32, 0x6B206574]

def wordsOf : Bytes → List UInt32
  | a :: b :: c :: d :: rest => UInt32.ofNat (Bytes.littleEndian [a, b, c, d]) :: wordsOf rest
  | _ => []

/-- Constants, the key, the number of the block and the nonce. -/
def start (key nonce : Bytes) (counter : Nat) : Words :=
  let words := constants ++ wordsOf key ++ UInt32.ofNat counter :: wordsOf nonce
  Vector.ofFn fun place => words.getD place.val 0

def block (key nonce : Bytes) (counter : Nat) : Bytes :=
  let words := start key nonce counter
  let mixed := rounds 10 words
  (List.finRange 16).flatMap fun place =>
    Bytes.ofNatLittle 4 (words[place] + mixed[place]).toNat

/-- Keystream from the given block on, as much as the data is long. -/
def keystream (key nonce : Bytes) (counter length : Nat) : Bytes :=
  ((List.range ((length + 63) / 64)).flatMap fun index => block key nonce (counter + index)).take
    length

def apply (key nonce : Bytes) (counter : Nat) (data : Bytes) : Bytes :=
  Bytes.mask data (keystream key nonce counter data.length)

end SealedContent.Sealing.ChaCha
