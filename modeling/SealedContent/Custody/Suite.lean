import SealedContent.Curve.Edwards
import SealedContent.Sealing.AgeFile

/-!
The public-key methods that custody of keys rests on, and what calls take from outside.
-/

namespace SealedContent.Custody

structure Suite where
  signing : Curve.SignatureScheme
  sealing : Sealing.SealingScheme

def Suite.standard : Suite := ⟨Curve.ed25519, Sealing.age⟩

/-- What an invocation takes from outside: the time, and twelve random bytes. -/
structure Moment where
  now : Nat
  nonce : Bytes

/-- What a wrap takes from outside: the moment of its call, and random bytes to seal with. -/
structure Chance where
  moment : Moment
  sealing : Sealing.SealEntropy

end SealedContent.Custody
