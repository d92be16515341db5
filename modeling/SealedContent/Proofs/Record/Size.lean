import SealedContent.Proofs.Record.Form

/-!
How long the block of a record can be. Apart from its texts it holds only names and lengths.
-/

namespace SealedContent

namespace Cbor

theorem length_encodeText (text : String) :
    (encodeText text).length ≤ 9 + (Bytes.ofText text).length := by
  have lead := length_head 3 (Bytes.ofText text).length
  rw [encodeText, List.length_append]
  omega

theorem length_encodeField (key : String) (value : Value) :
    (encodeField (key, value)).length ≤
      9 + (Bytes.ofText key).length + value.encode.length := by
  have keyLength := length_encodeText key
  rw [encodeField, List.length_append]
  dsimp only
  omega

theorem length_encode_text (text : String) :
    (Value.text text).encode.length ≤ 9 + (Bytes.ofText text).length := by
  rw [Value.encode]
  exact length_encodeText text

theorem length_encode_link (cid : Content.Cid) : (Value.link cid).encode.length ≤ 114 := by
  rw [Value.encode]
  exact length_encodeLink cid

end Cbor

namespace Record

open Cbor

theorem ServiceKeyInfo.length_encode (info : ServiceKeyInfo) :
    info.toValue.encode.length ≤ 100 + (Bytes.ofText info.keyId).length +
      (Bytes.ofText info.provider).length + (Bytes.ofText info.algorithm).length := by
  have lead := length_head 5 3
  have keyIdField := length_encodeField "keyId" (.text info.keyId)
  have keyId := length_encode_text info.keyId
  have providerField := length_encodeField "provider" (.text info.provider)
  have provider := length_encode_text info.provider
  have algorithmField := length_encodeField "algorithm" (.text info.algorithm)
  have algorithm := length_encode_text info.algorithm
  have names : (Bytes.ofText "keyId").length + (Bytes.ofText "provider").length +
    (Bytes.ofText "algorithm").length ≤ 37 := by decide
  rw [toValue, length_encode_map]
  simp only [List.length_cons, List.length_nil, List.flatMap_cons, List.flatMap_nil,
    List.length_append, Nat.zero_add, Nat.reduceAdd]
  omega

theorem ServiceRecord.length_encode (fields : ServiceRecord) :
    fields.toValue.encode.length ≤ 400 + (Bytes.ofText fields.encryptedKey).length +
      (Bytes.ofText fields.space).length + (Bytes.ofText fields.keyInfo.keyId).length +
      (Bytes.ofText fields.keyInfo.provider).length +
      (Bytes.ofText fields.keyInfo.algorithm).length := by
  have lead := length_head 5 4
  have infoField := length_encodeField "kms" fields.keyInfo.toValue
  have info := fields.keyInfo.length_encode
  have spaceField := length_encodeField "space" (.text fields.space)
  have space := length_encode_text fields.space
  have cidField := length_encodeField "encryptedDataCID" (.link fields.dataCid)
  have cid := length_encode_link fields.dataCid
  have keyField := length_encodeField "encryptedSymmetricKey" (.text fields.encryptedKey)
  have key := length_encode_text fields.encryptedKey
  have names : (Bytes.ofText "kms").length + (Bytes.ofText "space").length +
    (Bytes.ofText "encryptedDataCID").length + (Bytes.ofText "encryptedSymmetricKey").length ≤
      45 := by decide
  rw [toValue, length_encode_map]
  simp only [List.length_cons, List.length_nil, List.flatMap_cons, List.flatMap_nil,
    List.length_append, Nat.zero_add, Nat.reduceAdd]
  omega

theorem Metadata.length_toBlock_service (fields : ServiceRecord) :
    (service fields).toBlock.data.length ≤ 500 + (Bytes.ofText fields.encryptedKey).length +
      (Bytes.ofText fields.space).length + (Bytes.ofText fields.keyInfo.keyId).length +
      (Bytes.ofText fields.keyInfo.provider).length +
      (Bytes.ofText fields.keyInfo.algorithm).length := by
  have lead := length_head 5 1
  have body := fields.length_encode
  have tagField := length_encodeField serviceTag fields.toValue
  have name : (Bytes.ofText serviceTag).length ≤ 25 := by decide
  rw [toBlock]
  dsimp only
  rw [toValue, length_encode_map]
  simp only [List.length_cons, List.length_nil, List.flatMap_cons, List.flatMap_nil,
    List.length_append, Nat.zero_add]
  change _ + ((encodeField (serviceTag, fields.toValue)).length + 0) ≤ _
  omega

end Record

end SealedContent
