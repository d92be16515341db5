import SealedContent.Proofs.Cbor.Node
import SealedContent.Proofs.Content.CidText
import SealedContent.Proofs.Json.Record
import SealedContent.Proofs.Record.Form
import SealedContent.Record.View

/-!
The readable view of a record says what its block says: it is the block read as any DAG-CBOR value, with
the texts of identifiers in place of links. Different records have different views.
-/

namespace SealedContent.Record

open Cbor (Fits Node Value viewFields? viewItems?_map)
open Json.Value (ofFields_inj)

theorem view?_texts (texts : List String) :
    (Value.list (texts.map .text)).node.view? = some (.array (texts.map .string)) := by
  rw [Value.node, Node.view?, viewItems?_map fun _ _ => rfl, Option.map_some]

theorem AccessCondition.view?_node (condition : AccessCondition) :
    condition.toValue.node.view? = some condition.view := by
  have form : condition.toValue.node = .map [("chain", .text condition.chain),
      ("method", .text condition.method),
      ("parameters", (Value.list (condition.parameters.map .text)).node),
      ("contractAddress", .text condition.contractAddress),
      ("returnValueTest", condition.returnValueTest.toValue.node),
      ("standardContractType", .text condition.standardContractType)] := rfl
  have test : condition.returnValueTest.toValue.node.view? =
    some condition.returnValueTest.view := rfl
  simp only [form, Node.view?, viewFields?, view?_texts, test]
  rfl

theorem ServiceRecord.view?_node (fields : ServiceRecord) :
    fields.toValue.node.view? = some fields.view :=
  rfl

theorem ThresholdRecord.view?_node (fields : ThresholdRecord) :
    fields.toValue.node.view? = some fields.view := by
  have form : fields.toValue.node = .map [("encryptedDataCID", .link fields.dataCid),
      ("plaintextKeyHash", .text fields.keyHash),
      ("accessControlConditions", (Value.list (fields.conditions.map AccessCondition.toValue)).node),
      ("identityBoundCiphertext", .text fields.ciphertext)] := rfl
  have conditions : (Value.list (fields.conditions.map AccessCondition.toValue)).node.view? =
      some (.array (fields.conditions.map AccessCondition.view)) := by
    rw [Value.node, Node.view?, viewItems?_map fun condition _ => condition.view?_node,
      Option.map_some]
  simp only [form, Node.view?, viewFields?, conditions]
  -- The keys of a block stand in another order than those of an object.
  change some (Json.Value.ofFields [("encryptedDataCID", .string fields.dataCid.toText),
    ("plaintextKeyHash", .string fields.keyHash),
    ("accessControlConditions", .array (fields.conditions.map AccessCondition.view)),
    ("identityBoundCiphertext", .string fields.ciphertext)]) = some fields.view
  simp (disch := decide) only [view, Json.Value.ofFields, Json.Fields.ofList, List.foldl_cons,
    List.foldl_nil, Json.Fields.insert_nil, Json.Fields.insert_before, Json.Fields.insert_behind]

theorem Metadata.view?_node (record : Metadata) :
    record.toValue.node.view? = some record.view := by
  have form (tag : String) (value : Value) {view : Json.Value} (viewed : value.node.view? = some view) :
      (Value.map [(tag, value)]).node.view? = some (.ofFields [(tag, view)]) := by
    change Node.view? (.map [(tag, value.node)]) = _
    simp only [Node.view?, viewFields?, viewed]
    rfl
  cases record with
  | service fields => exact form _ _ fields.view?_node
  | threshold fields => exact form _ _ fields.view?_node

theorem map_string_injective : Function.Injective (List.map Json.Value.string) :=
  List.map_injective_iff.mpr fun _ _ => Json.Value.string.inj

theorem ReturnValueTest.view_injective : Function.Injective view := by
  rintro ⟨comparator, value⟩ ⟨otherComparator, otherValue⟩ same
  rw [view, view] at same
  have fields := ofFields_inj same rfl (by simp)
  simpa using fields

theorem AccessCondition.view_injective : Function.Injective view := by
  rintro ⟨address, contractType, chain, method, parameters, test⟩
    ⟨otherAddress, otherType, otherChain, otherMethod, otherParameters, otherTest⟩ same
  rw [view, view] at same
  have fields := ofFields_inj same rfl (by simp)
  simpa [map_string_injective.eq_iff, ReturnValueTest.view_injective.eq_iff] using fields

theorem ServiceKeyInfo.view_injective : Function.Injective view := by
  rintro ⟨provider, keyId, algorithm⟩ ⟨otherProvider, otherKeyId, otherAlgorithm⟩ same
  rw [view, view] at same
  have fields := ofFields_inj same rfl (by simp)
  simpa using fields

theorem ServiceRecord.view_injective : Function.Injective view := by
  rintro ⟨cid, key, space, info⟩ ⟨otherCid, otherKey, otherSpace, otherInfo⟩ same
  rw [view, view] at same
  have fields := ofFields_inj same rfl (by simp)
  simpa [Content.Cid.toText_injective.eq_iff, ServiceKeyInfo.view_injective.eq_iff] using fields

theorem ThresholdRecord.view_injective : Function.Injective view := by
  rintro ⟨cid, ciphertext, keyHash, conditions⟩ ⟨otherCid, otherCiphertext, otherKeyHash, others⟩ same
  rw [view, view] at same
  have fields := ofFields_inj same rfl (by simp)
  simpa [Content.Cid.toText_injective.eq_iff,
    (List.map_injective_iff.mpr AccessCondition.view_injective).eq_iff] using fields

theorem Metadata.view_injective : Function.Injective view := by
  intro left right same
  have fields := List.cons.inj (Json.Value.object.inj same)
  obtain ⟨tags, bodies⟩ := Prod.mk.inj fields.1
  have differ : serviceTag ≠ thresholdTag := by decide
  cases left with
  | service fields =>
      cases right with
      | service others => rw [ServiceRecord.view_injective bodies]
      | threshold others => exact absurd tags differ
  | threshold fields =>
      cases right with
      | service others => exact absurd tags.symm differ
      | threshold others => rw [ThresholdRecord.view_injective bodies]

theorem Metadata.exists_fits (record : Metadata) :
    ∃ depth shape, Fits depth shape record.toValue := by
  have tagged (tag : String) {depth : Nat} {shape : Cbor.Shape} {value : Value}
      (fits : Fits depth shape value) :
      Fits (depth + 1) (.record [(tag, shape)]) (.map [(tag, value)]) := by
    refine Fits.of_fields rfl ?_ ?_
    · exact List.nodup_singleton tag
    · exact Cbor.fitsFields_cons.mpr ⟨fits, Cbor.fitsFields_nil depth⟩
  cases record with
  | service fields => exact ⟨_, _, tagged _ (fields.fits 0)⟩
  | threshold fields => exact ⟨_, _, tagged _ (fields.fits 0)⟩

/-- A record's view is its block, read as a DAG-CBOR value of any kind and shown as JSON. No two records
have the same view. -/
theorem Metadata.view_says_block :
    (∀ record : Metadata, record.toBlock.data.length < 2 ^ 63 →
      (Node.ofBytes? record.toBlock.data).bind Node.view? = some record.view) ∧
    ∀ left right : Metadata, left.view = right.view → left = right := by
  refine ⟨fun record bounded => ?_, fun left right same => Metadata.view_injective same⟩
  obtain ⟨depth, shape, fits⟩ := record.exists_fits
  have narrow : record.toValue.encode.length < UInt64.size :=
    Nat.lt_trans bounded (by decide)
  have read : Node.ofBytes? record.toBlock.data = some record.toValue.node :=
    Node.ofBytes?_encode fits narrow
  rw [read, Option.bind_some, record.view?_node]

/-- A record that a threshold network keeps for the holders of a space. -/
def spaceRecord : Metadata :=
  .threshold ⟨.ofData Content.Codec.raw [1, 2, 3], "c2VhbGVk", "9f86d081",
    [.spaceAuthority "did:key:z6MkSpace"]⟩

theorem spaceRecord_viewed :
    spaceRecord.toBlock.data.length < 2 ^ 63 ∧
      (Node.ofBytes? spaceRecord.toBlock.data).bind Node.view? = some spaceRecord.view :=
  have bounded : spaceRecord.toBlock.data.length < 2 ^ 63 := by decide +kernel
  ⟨bounded, Metadata.view_says_block.1 spaceRecord bounded⟩

end SealedContent.Record
