import SealedContent.Record.Basic

/-!
The binary form of a metadata record: a map with the version tag as its only key. A record is
shipped as an archive of this one block.
-/

namespace SealedContent.Record

open Content (Cid BlockError Archive)
open Cbor (Value Shape)

namespace ReturnValueTest

def toValue (test : ReturnValueTest) : Value :=
  .map [("value", .text test.value), ("comparator", .text test.comparator)]

def shape : Shape :=
  .record [("value", .text), ("comparator", .text)]

def ofValue? : Value → Option ReturnValueTest
  | .map [(_, .text value), (_, .text comparator)] => some ⟨comparator, value⟩
  | _ => none

end ReturnValueTest

def textsOf? : List Value → Option (List String)
  | [] => some []
  | .text value :: rest => (textsOf? rest).map (value :: ·)
  | _ :: _ => none

namespace AccessCondition

def toValue (condition : AccessCondition) : Value :=
  .map [("chain", .text condition.chain), ("method", .text condition.method),
    ("parameters", .list (condition.parameters.map .text)),
    ("contractAddress", .text condition.contractAddress),
    ("returnValueTest", condition.returnValueTest.toValue),
    ("standardContractType", .text condition.standardContractType)]

def shape : Shape :=
  .record [("chain", .text), ("method", .text), ("parameters", .list .text),
    ("contractAddress", .text), ("returnValueTest", ReturnValueTest.shape),
    ("standardContractType", .text)]

def ofValue? : Value → Option AccessCondition
  | .map [(_, .text chain), (_, .text method), (_, .list parameters), (_, .text address),
      (_, test), (_, .text contractType)] => do
      let parameters ← textsOf? parameters
      let test ← ReturnValueTest.ofValue? test
      return ⟨address, contractType, chain, method, parameters, test⟩
  | _ => none

end AccessCondition

namespace ServiceKeyInfo

def toValue (info : ServiceKeyInfo) : Value :=
  .map [("keyId", .text info.keyId), ("provider", .text info.provider),
    ("algorithm", .text info.algorithm)]

def shape : Shape :=
  .record [("keyId", .text), ("provider", .text), ("algorithm", .text)]

def ofValue? : Value → Option ServiceKeyInfo
  | .map [(_, .text keyId), (_, .text provider), (_, .text algorithm)] =>
      some ⟨provider, keyId, algorithm⟩
  | _ => none

end ServiceKeyInfo

namespace ServiceRecord

def toValue (fields : ServiceRecord) : Value :=
  .map [("kms", fields.keyInfo.toValue), ("space", .text fields.space),
    ("encryptedDataCID", .link fields.dataCid),
    ("encryptedSymmetricKey", .text fields.encryptedKey)]

def shape : Shape :=
  .record [("kms", ServiceKeyInfo.shape), ("space", .text), ("encryptedDataCID", .link),
    ("encryptedSymmetricKey", .text)]

def ofValue? : Value → Option ServiceRecord
  | .map [(_, info), (_, .text space), (_, .link cid), (_, .text key)] =>
      (ServiceKeyInfo.ofValue? info).map fun info => ⟨cid, key, space, info⟩
  | _ => none

end ServiceRecord

namespace ThresholdRecord

def toValue (fields : ThresholdRecord) : Value :=
  .map [("plaintextKeyHash", .text fields.keyHash), ("encryptedDataCID", .link fields.dataCid),
    ("accessControlConditions", .list (fields.conditions.map AccessCondition.toValue)),
    ("identityBoundCiphertext", .text fields.ciphertext)]

def shape : Shape :=
  .record [("plaintextKeyHash", .text), ("encryptedDataCID", .link),
    ("accessControlConditions", .list AccessCondition.shape), ("identityBoundCiphertext", .text)]

def ofValue? : Value → Option ThresholdRecord
  | .map [(_, .text hash), (_, .link cid), (_, .list conditions), (_, .text ciphertext)] =>
      (conditions.mapM AccessCondition.ofValue?).map fun conditions =>
        ⟨cid, ciphertext, hash, conditions⟩
  | _ => none

end ThresholdRecord

namespace Metadata

def toValue (record : Metadata) : Value :=
  .map [(record.tag, match record with
    | .service fields => fields.toValue
    | .threshold fields => fields.toValue)]

def shapes : List (String × Shape) :=
  [(thresholdTag, ThresholdRecord.shape), (serviceTag, ServiceRecord.shape)]

def ofTagged? (tagged : String × Value) : Option Metadata :=
  if tagged.1 = thresholdTag then (ThresholdRecord.ofValue? tagged.2).map .threshold
  else if tagged.1 = serviceTag then (ServiceRecord.ofValue? tagged.2).map .service
  else none

def toBlock (record : Metadata) : Content.Block :=
  let data := record.toValue.encode
  ⟨.ofData Content.Codec.dagCbor data, data⟩

def ofBlock (data : Bytes) : Except BlockError Metadata :=
  match (Cbor.readTagged? shapes data).bind ofTagged? with
  | none => .error .decode
  | some record => record.validated

structure Archived where
  cid : Cid
  bytes : Bytes
deriving DecidableEq

/-- The archive of a valid record, which holds its block and has that block's identifier. -/
def archive (record : Metadata) : Except BlockError Archived :=
  match record.validate with
  | .error fault => .error fault
  | .ok () =>
      let block := record.toBlock
      .ok ⟨block.cid, (Archive.mk block.cid [block]).encode⟩

/-- Reads a record from an archive whose root block is present and has the root's hash. -/
def extract (input : Bytes) : Except BlockError Metadata :=
  match Archive.decode input with
  | .error fault => .error fault
  | .ok archive =>
      match archive.verifiedRoot with
      | .error fault => .error fault
      | .ok block => ofBlock block.data

end Metadata

end SealedContent.Record
