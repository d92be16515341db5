import SealedContent.Json.Record
import SealedContent.Record.Basic

/-!
The readable view of a metadata record as JSON, with identifiers as text. Access conditions are
also read back from JSON, as an object or as the list of their fields in order.
-/

namespace SealedContent.Record

open Json (Value)

def ReturnValueTest.view (test : ReturnValueTest) : Value :=
  .ofFields [("comparator", .string test.comparator), ("value", .string test.value)]

def AccessCondition.view (condition : AccessCondition) : Value :=
  .ofFields [("contractAddress", .string condition.contractAddress),
    ("standardContractType", .string condition.standardContractType),
    ("chain", .string condition.chain), ("method", .string condition.method),
    ("parameters", .array (condition.parameters.map .string)),
    ("returnValueTest", condition.returnValueTest.view)]

def ReturnValueTest.ofView? (value : Value) : Option ReturnValueTest :=
  match value.record? ["comparator", "value"] with
  | some [.string comparator, .string value] => some ⟨comparator, value⟩
  | _ => none

def AccessCondition.ofView? (value : Value) : Option AccessCondition := do
  let names := ["contractAddress", "standardContractType", "chain", "method", "parameters",
    "returnValueTest"]
  match ← value.record? names with
  | [.string address, .string contractType, .string chain, .string method, .array parameters,
      test] =>
      let parameters ← parameters.mapM Value.text?
      let test ← ReturnValueTest.ofView? test
      return ⟨address, contractType, chain, method, parameters, test⟩
  | _ => none

def AccessCondition.listOfView? : Value → Option (List AccessCondition)
  | .array items => items.mapM ofView?
  | _ => none

def ServiceKeyInfo.view (info : ServiceKeyInfo) : Value :=
  .ofFields [("provider", .string info.provider), ("keyId", .string info.keyId),
    ("algorithm", .string info.algorithm)]

def ServiceRecord.view (fields : ServiceRecord) : Value :=
  .ofFields [("encryptedDataCID", .string fields.dataCid.toText),
    ("encryptedSymmetricKey", .string fields.encryptedKey), ("space", .string fields.space),
    ("kms", fields.keyInfo.view)]

def ThresholdRecord.view (fields : ThresholdRecord) : Value :=
  .ofFields [("encryptedDataCID", .string fields.dataCid.toText),
    ("identityBoundCiphertext", .string fields.ciphertext),
    ("plaintextKeyHash", .string fields.keyHash),
    ("accessControlConditions", .array (fields.conditions.map AccessCondition.view))]

def Metadata.view (record : Metadata) : Value :=
  .ofFields [(record.tag, match record with
    | .service fields => fields.view
    | .threshold fields => fields.view)]

end SealedContent.Record
