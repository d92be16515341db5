import SealedContent.Cipher.Stream
import SealedContent.Custody.KeyService
import SealedContent.Custody.Threshold

/-!
A content cipher together with a custodian for its keys.
-/

namespace SealedContent.Custody

open Cipher (CipherAlgorithm KeyMaterial StreamItem)
open Record (Metadata)

/-- Who keeps keys, with the way to reach it. -/
inductive Custodian (σ : Type) where
  | keyService (service : KeyService) (peer : Peer σ)
  | threshold (network : ThresholdNetwork σ)

namespace Custodian

variable {σ : Type}

def kind : Custodian σ → CustodyKind
  | .keyService .. => .keyService
  | .threshold _ => .thresholdNetwork

def wrap (suite : Suite) (chance : Chance) (material : KeyMaterial) (requester : Requester) :
    Custodian σ → σ → Except CustodyError WrappedKey × σ
  | .keyService service peer, state => service.wrap suite peer chance material requester state
  | .threshold network, state => network.wrap material requester state

def unwrap (suite : Suite) (moment : Moment) (encryptedKey : String) (metadata : Metadata)
    (requester : Requester) : Custodian σ → σ → Except CustodyError KeyMaterial × σ
  | .keyService service peer, state =>
      service.unwrap suite peer moment encryptedKey metadata requester state
  | .threshold network, state =>
      network.unwrap suite moment encryptedKey metadata requester state

end Custodian

structure Adapter (σ : Type) where
  cipher : CipherAlgorithm
  custodian : Custodian σ

namespace Adapter

variable {σ : Type}

def describe (adapter : Adapter σ) : String :=
  let cipher := match adapter.cipher with
    | .aesCtr => "AesCtr"
    | .aesCbc => "AesCbc"
  let custodian := match adapter.custodian.kind with
    | .keyService => "Kms"
    | .thresholdNetwork => "ThresholdNetwork"
  s!"CryptoAdapter \x7b cipher: {cipher}, key_wrap: {custodian} \x7d"

def decryptRecord (suite : Suite) (cipher : Cipher.BlockCipher) (adapter : Adapter σ)
    (moment : Moment) (ciphertext : List StreamItem) (metadata : Metadata)
    (requester : Requester) (state : σ) : Except CustodyError (List StreamItem) × σ :=
  match adapter.custodian.unwrap suite moment metadata.encryptedKey metadata requester state with
  | (.error error, after) => (.error error, after)
  | (.ok material, after) =>
      (.ok (Cipher.decryptStream cipher adapter.cipher material ciphertext), after)

end Adapter

end SealedContent.Custody
