/-!
The two ways in which a content key can be kept: by a key service, or by a threshold network.
-/

namespace SealedContent.Custody

inductive CustodyKind where
  | keyService
  | thresholdNetwork
deriving DecidableEq, Repr

namespace CustodyKind

def name : CustodyKind → String
  | .keyService => "kms"
  | .thresholdNetwork => "threshold-network"

/-- The threshold network also answers to an older name. -/
def ofName? (text : String) : Option CustodyKind :=
  if text = "kms" then some .keyService
  else if text = "threshold-network" ∨ text = "lit" then some .thresholdNetwork
  else none

theorem ofName?_name (kind : CustodyKind) : ofName? kind.name = some kind := by
  cases kind <;> rfl

end CustodyKind

end SealedContent.Custody
