import SealedContent.Proofs.Cbor.Canonical
import SealedContent.Record.Block

/-!
The value that stands for a record has the shape that records are read with, at a known depth, and
gives the record back.
-/

namespace SealedContent.Record

open Cbor (Fits Value Shape)

theorem textsOf?_map (texts : List String) : textsOf? (texts.map .text) = some texts := by
  induction texts with
  | nil => rfl
  | cons text rest induction => rw [List.map_cons, textsOf?, induction, Option.map_some]

theorem fits_texts (depth : Nat) (texts : List String) :
    Fits (depth + 1) (.list .text) (.list (texts.map .text)) := by
  apply Fits.list
  intro item member
  obtain ⟨text, -, rfl⟩ := List.mem_map.mp member
  exact .text text

namespace ReturnValueTest

theorem fits (test : ReturnValueTest) (depth : Nat) : Fits (depth + 1) shape test.toValue := by
  apply Fits.of_fields rfl (by decide)
  simp only [Cbor.fitsFields_cons, Cbor.fitsFields_nil, and_true]
  exact ⟨.text _, .text _⟩

theorem ofValue?_toValue (test : ReturnValueTest) : ofValue? test.toValue = some test := rfl

end ReturnValueTest

namespace AccessCondition

theorem fits (condition : AccessCondition) (depth : Nat) :
    Fits (depth + 2) shape condition.toValue := by
  apply Fits.of_fields rfl (by decide)
  simp only [Cbor.fitsFields_cons, Cbor.fitsFields_nil, and_true]
  exact ⟨.text _, .text _, fits_texts depth _, .text _, ReturnValueTest.fits _ depth, .text _⟩

theorem ofValue?_toValue (condition : AccessCondition) :
    ofValue? condition.toValue = some condition := by
  simp [toValue, ofValue?, textsOf?_map, ReturnValueTest.ofValue?_toValue]

end AccessCondition

namespace ServiceKeyInfo

theorem fits (info : ServiceKeyInfo) (depth : Nat) : Fits (depth + 1) shape info.toValue := by
  apply Fits.of_fields rfl (by decide)
  simp only [Cbor.fitsFields_cons, Cbor.fitsFields_nil, and_true]
  exact ⟨.text _, .text _, .text _⟩

theorem ofValue?_toValue (info : ServiceKeyInfo) : ofValue? info.toValue = some info := rfl

end ServiceKeyInfo

namespace ServiceRecord

theorem fits (fields : ServiceRecord) (depth : Nat) : Fits (depth + 2) shape fields.toValue := by
  apply Fits.of_fields rfl (by decide)
  simp only [Cbor.fitsFields_cons, Cbor.fitsFields_nil, and_true]
  exact ⟨ServiceKeyInfo.fits _ depth, .text _, .link _, .text _⟩

theorem ofValue?_toValue (fields : ServiceRecord) : ofValue? fields.toValue = some fields := rfl

end ServiceRecord

namespace ThresholdRecord

theorem fits (fields : ThresholdRecord) (depth : Nat) :
    Fits (depth + 4) shape fields.toValue := by
  have conditions : Fits (depth + 3) (.list AccessCondition.shape)
      (.list (fields.conditions.map AccessCondition.toValue)) := by
    apply Fits.list
    intro item member
    obtain ⟨condition, -, rfl⟩ := List.mem_map.mp member
    exact condition.fits depth
  apply Fits.of_fields rfl (by decide)
  simp only [Cbor.fitsFields_cons, Cbor.fitsFields_nil, and_true]
  exact ⟨.text _, .link _, conditions, .text _⟩

theorem ofValue?_conditions (conditions : List AccessCondition) :
    (conditions.map AccessCondition.toValue).mapM AccessCondition.ofValue? = some conditions := by
  induction conditions with
  | nil => rfl
  | cons condition rest induction =>
      rw [List.map_cons, List.mapM_cons, AccessCondition.ofValue?_toValue, induction]
      rfl

theorem ofValue?_toValue (fields : ThresholdRecord) : ofValue? fields.toValue = some fields := by
  simp only [toValue, ofValue?, ofValue?_conditions, Option.map_some]

end ThresholdRecord

end SealedContent.Record
