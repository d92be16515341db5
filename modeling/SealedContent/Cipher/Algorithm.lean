/-!
The names of the ciphers and of the key-custody strategies.
-/

namespace SealedContent.Cipher

inductive CipherAlgorithm where
  | aesCtr
  | aesCbc
deriving DecidableEq, Repr

namespace CipherAlgorithm

def standard : CipherAlgorithm := .aesCtr

def name : CipherAlgorithm → String
  | .aesCtr => "aes-ctr"
  | .aesCbc => "aes-cbc"

def ofName? (text : String) : Option CipherAlgorithm :=
  if text = "aes-ctr" then some .aesCtr
  else if text = "aes-cbc" then some .aesCbc
  else none

theorem ofName?_name (algorithm : CipherAlgorithm) : ofName? algorithm.name = some algorithm := by
  cases algorithm <;> rfl

end CipherAlgorithm

end SealedContent.Cipher
