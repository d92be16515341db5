import SealedContent.Bytes.Basic

/-!
The SHA-256 digest, absorbed piece by piece. A hasher keeps the chaining words, the bytes that do
not yet fill a 64-byte block, and the number of bytes absorbed.
-/

namespace SealedContent.Hash

structure Words256 where
  a : UInt32
  b : UInt32
  c : UInt32
  d : UInt32
  e : UInt32
  f : UInt32
  g : UInt32
  h : UInt32
deriving DecidableEq

namespace Words256

def initial : Words256 :=
  ⟨0x6a09e667, 0xbb67ae85, 0x3c6ef372, 0xa54ff53a, 0x510e527f, 0x9b05688c, 0x1f83d9ab, 0x5be0cd19⟩

def add (left right : Words256) : Words256 :=
  ⟨left.a + right.a, left.b + right.b, left.c + right.c, left.d + right.d,
    left.e + right.e, left.f + right.f, left.g + right.g, left.h + right.h⟩

def toBytes (words : Words256) : Bytes :=
  [words.a, words.b, words.c, words.d, words.e, words.f, words.g, words.h].flatMap
    fun word => Bytes.ofNatBig 4 word.toNat

end Words256

namespace Sha256

def constants : List UInt32 :=
  [0x428a2f98, 0x71374491, 0xb5c0fbcf, 0xe9b5dba5, 0x3956c25b, 0x59f111f1, 0x923f82a4, 0xab1c5ed5,
    0xd807aa98, 0x12835b01, 0x243185be, 0x550c7dc3, 0x72be5d74, 0x80deb1fe, 0x9bdc06a7, 0xc19bf174,
    0xe49b69c1, 0xefbe4786, 0x0fc19dc6, 0x240ca1cc, 0x2de92c6f, 0x4a7484aa, 0x5cb0a9dc, 0x76f988da,
    0x983e5152, 0xa831c66d, 0xb00327c8, 0xbf597fc7, 0xc6e00bf3, 0xd5a79147, 0x06ca6351, 0x14292967,
    0x27b70a85, 0x2e1b2138, 0x4d2c6dfc, 0x53380d13, 0x650a7354, 0x766a0abb, 0x81c2c92e, 0x92722c85,
    0xa2bfe8a1, 0xa81a664b, 0xc24b8b70, 0xc76c51a3, 0xd192e819, 0xd6990624, 0xf40e3585, 0x106aa070,
    0x19a4c116, 0x1e376c08, 0x2748774c, 0x34b0bcb5, 0x391c0cb3, 0x4ed8aa4a, 0x5b9cca4f, 0x682e6ff3,
    0x748f82ee, 0x78a5636f, 0x84c87814, 0x8cc70208, 0x90befffa, 0xa4506ceb, 0xbef9a3f7, 0xc67178f2]

def rotateRight (word : UInt32) (count : UInt32) : UInt32 :=
  (word >>> count) ||| (word <<< (32 - count))

/-- The sixteen words of a block, then each later word from four before it. -/
def schedule (block : Bytes) : Array UInt32 :=
  let first := (Bytes.pieces 4 block).map fun piece => UInt32.ofNat (Bytes.bigEndian piece)
  (List.range 48).foldl (fun words index =>
    let early := words.getD (index + 1) 0
    let late := words.getD (index + 14) 0
    let mixEarly := rotateRight early 7 ^^^ rotateRight early 18 ^^^ (early >>> 3)
    let mixLate := rotateRight late 17 ^^^ rotateRight late 19 ^^^ (late >>> 10)
    words.push (words.getD index 0 + mixEarly + words.getD (index + 9) 0 + mixLate)) first.toArray

def round (state : Words256) (input : UInt32) : Words256 :=
  let mixE := rotateRight state.e 6 ^^^ rotateRight state.e 11 ^^^ rotateRight state.e 25
  let choice := (state.e &&& state.f) ^^^ (~~~state.e &&& state.g)
  let first := state.h + mixE + choice + input
  let mixA := rotateRight state.a 2 ^^^ rotateRight state.a 13 ^^^ rotateRight state.a 22
  let majority := (state.a &&& state.b) ^^^ (state.a &&& state.c) ^^^ (state.b &&& state.c)
  ⟨first + (mixA + majority), state.a, state.b, state.c, state.d + first, state.e, state.f, state.g⟩

def compress (chain : Words256) (block : Bytes) : Words256 :=
  chain.add (((schedule block).toList.zip constants).foldl
    (fun state pair => round state (pair.1 + pair.2)) chain)

end Sha256

structure Sha256Hasher where
  chain : Words256
  pending : Bytes
  absorbed : Nat

namespace Sha256Hasher

def empty : Sha256Hasher :=
  ⟨Words256.initial, [], 0⟩

def update (hasher : Sha256Hasher) (data : Bytes) : Sha256Hasher :=
  let (chain, pending) := Bytes.foldPieces 64 Sha256.compress hasher.chain (hasher.pending ++ data)
  ⟨chain, pending, hasher.absorbed + data.length⟩

/-- A one bit, zeros up to eight bytes short of a block, then the length in bits. -/
def padding (absorbed : Nat) : Bytes :=
  0x80 :: List.replicate ((119 - absorbed % 64) % 64) 0 ++ Bytes.ofNatBig 8 (8 * absorbed)

def digest (hasher : Sha256Hasher) : Bytes :=
  (hasher.update (padding hasher.absorbed)).chain.toBytes

end Sha256Hasher

def sha256 (data : Bytes) : Bytes :=
  (Sha256Hasher.empty.update data).digest

theorem length_sha256 (data : Bytes) : (sha256 data).length = 32 := by
  simp [sha256, Sha256Hasher.digest, Words256.toBytes]

end SealedContent.Hash
