import SealedContent.Content.Error

/-!
What can go wrong at a gateway, and how it is worded. A star stands for a reason that lies in the
reading of an address or in the network.
-/

namespace SealedContent.Retrieval

open Content (BlockError Cid)

inductive AddressFault where
  | malformed
  | unsupportedScheme (scheme : String)
deriving DecidableEq

inductive VerificationFault where
  | archive (error : BlockError)
  | otherRoot (root : Cid)
  | noBlock
  | extraBlocks (count : Nat)
  | block (error : BlockError)
deriving DecidableEq

def VerificationFault.message : VerificationFault → String
  | .archive error => error.message
  | .otherRoot root => s!"archive root is {root.toText}"
  | .noBlock => "archive does not contain the requested block"
  | .extraBlocks count => s!"archive holds {count} blocks, expected only the root"
  | .block error => error.message

inductive GatewayError where
  | invalidCid (error : BlockError)
  | invalidAddress (address : String) (fault : AddressFault)
  | insecure (address : String)
  | fetchFailed (address : String) (status : Nat)
  | tooLarge (size limit : Nat)
  | unverified (expected : Cid) (fault : VerificationFault)
  | invalidRecord (error : BlockError)
  | http
deriving DecidableEq

def GatewayError.message : GatewayError → String
  | .invalidCid error => s!"invalid CID: {error.message}"
  | .invalidAddress address .malformed => s!"invalid gateway URL '{address}': *"
  | .invalidAddress address (.unsupportedScheme scheme) =>
      s!"invalid gateway URL '{address}': unsupported scheme '{scheme}'"
  | .insecure address =>
      s!"gateway uses plaintext HTTP ({address}), but enforce_tls is enabled. " ++
        "Use an HTTPS gateway or set gateway.enforce_tls = false for local development."
  | .fetchFailed address status =>
      s!"gateway fetch of {address} failed with HTTP status {status}"
  | .tooLarge size limit => s!"gateway response exceeds {limit} bytes (received {size})"
  | .unverified expected fault =>
      s!"CID verification failed for {expected.toText}: {fault.message}"
  | .invalidRecord error => s!"gateway returned an invalid metadata record: {error.message}"
  | .http => "HTTP error: *"

end SealedContent.Retrieval
