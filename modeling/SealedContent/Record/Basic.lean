import SealedContent.Content.Archive
import SealedContent.Custody.Kind
import SealedContent.Json.Value

/-!
Metadata records: which content they describe, and what is needed to get its key back. A record is
kept by a key service or by a threshold network, and each kind has a version tag.
-/

namespace SealedContent.Record

open Content (Cid BlockError Archive)
open Custody (CustodyKind)

/-- A comparison that a threshold network makes before it releases a key. -/
structure ReturnValueTest where
  comparator : String
  value : String
deriving DecidableEq

structure AccessCondition where
  contractAddress : String
  standardContractType : String
  chain : String
  method : String
  parameters : List String
  returnValueTest : ReturnValueTest
deriving DecidableEq

/-- Release only to a caller with authority over the space. -/
def AccessCondition.spaceAuthority (space : String) : AccessCondition where
  contractAddress := ""
  standardContractType := ""
  chain := "ethereum"
  method := ""
  parameters := [":currentActionIpfsId", space]
  returnValueTest := ⟨"=", space⟩

structure ServiceKeyInfo where
  provider : String
  keyId : String
  algorithm : String
deriving DecidableEq

structure ServiceRecord where
  dataCid : Cid
  encryptedKey : String
  space : String
  keyInfo : ServiceKeyInfo
deriving DecidableEq

structure ThresholdRecord where
  dataCid : Cid
  ciphertext : String
  keyHash : String
  conditions : List AccessCondition
deriving DecidableEq

inductive Metadata where
  | service (fields : ServiceRecord)
  | threshold (fields : ThresholdRecord)
deriving DecidableEq

namespace Metadata

def thresholdTag : String := "encrypted-metadata@0.1"

def serviceTag : String := "encrypted-metadata@0.2"

def tag : Metadata → String
  | .service _ => serviceTag
  | .threshold _ => thresholdTag

def kind : Metadata → CustodyKind
  | .service _ => .keyService
  | .threshold _ => .thresholdNetwork

def dataCid : Metadata → Cid
  | .service fields => fields.dataCid
  | .threshold fields => fields.dataCid

def encryptedKey : Metadata → String
  | .service fields => fields.encryptedKey
  | .threshold fields => fields.ciphertext

/-- The fields that must not be blank, in the order in which they are checked. -/
def requiredTexts : Metadata → List (String × String)
  | .service fields =>
      [("encryptedSymmetricKey", fields.encryptedKey), ("space", fields.space),
        ("kms.provider", fields.keyInfo.provider), ("kms.keyId", fields.keyInfo.keyId),
        ("kms.algorithm", fields.keyInfo.algorithm)]
  | .threshold fields =>
      [("identityBoundCiphertext", fields.ciphertext), ("plaintextKeyHash", fields.keyHash)]

/-- The first required field that is blank; a threshold record also needs a condition. -/
def missingField? (record : Metadata) : Option String :=
  match record.requiredTexts.find? fun field => Text.onlyBlank field.2 with
  | some (name, _) => some name
  | none =>
      match record with
      | .service _ => none
      | .threshold fields =>
          if fields.conditions.isEmpty then some "accessControlConditions" else none

def validate (record : Metadata) : Except BlockError Unit :=
  match record.missingField? with
  | some field => .error (.missingField record.tag field)
  | none => .ok ()

def validated (record : Metadata) : Except BlockError Metadata :=
  match record.validate with
  | .ok () => .ok record
  | .error fault => .error fault

end Metadata

end SealedContent.Record
