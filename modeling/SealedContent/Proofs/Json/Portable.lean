import Mathlib.Data.List.Induction
import SealedContent.Proofs.Json.Text

/-!
Values that survive their own text. Where numbers are integers of 64 bits, keys stand in order and
the levels are few enough for a reader, the value that is read from the compact text is the one that
was written.
-/

namespace SealedContent.Json

/-- At most so many levels of arrays and objects, integers of 64 bits and no doubles, and the keys of
each object in strictly ascending order. -/
inductive Value.Portable : Nat → Value → Prop
  | null {levels : Nat} : Portable levels .null
  | bool {levels : Nat} (value : Bool) : Portable levels (.bool value)
  | integer {levels : Nat} {value : Int} (low : -(2 ^ 63) ≤ value) (high : value < 2 ^ 64) :
      Portable levels (.integer value)
  | string {levels : Nat} (text : String) : Portable levels (.string text)
  | array {levels : Nat} {items : List Value} (each : ∀ item ∈ items, Portable levels item) :
      Portable (levels + 1) (.array items)
  | object {levels : Nat} {fields : List (String × Value)}
      (ascending : (fields.map Prod.fst).Pairwise (· < ·))
      (each : ∀ field ∈ fields, Portable levels field.2) : Portable (levels + 1) (.object fields)

namespace Fields

variable {α : Type}

theorem insert_last {key : String} {value : α} {fields : List (String × α)}
    (after : ∀ field ∈ fields, field.1 < key) :
    insert key value fields = fields ++ [(key, value)] := by
  induction fields with
  | nil => rfl
  | cons field fields induction =>
      have before := after field List.mem_cons_self
      have later := induction fun other member => after other (List.mem_cons_of_mem _ member)
      rw [insert, if_neg (String.lt_asymm before), if_neg (String.ne_of_lt before).symm, later,
        List.cons_append]

/-- Fields that stand in order already are kept as they are. -/
theorem ofList_ascending {fields : List (String × α)}
    (ascending : (fields.map Prod.fst).Pairwise (· < ·)) : ofList fields = fields := by
  induction fields using List.reverseRecOn with
  | nil => rfl
  | append_singleton fields field induction =>
      rw [List.map_append, List.pairwise_append] at ascending
      obtain ⟨before, -, last⟩ := ascending
      have kept := induction before
      rw [ofList] at kept
      rw [ofList, List.foldl_append, kept]
      apply insert_last
      intro other member
      exact last other.1 (List.mem_map_of_mem member) field.1 (by simp)

end Fields

theorem NumberLiteral.toValue?_ofInt {value : Int} (low : -(2 ^ 63) ≤ value)
    (high : value < 2 ^ 64) : (ofInt value).toValue? = some (.integer value) := by
  have word : wordBound = 2 ^ 64 := rfl
  have half : UInt64.size / 2 = 2 ^ 63 := rfl
  rw [toValue?]
  simp only [ofInt, natural_figures, word, half, decide_eq_true_eq]
  by_cases negative : value < 0
  · have magnitude : 0 < value.natAbs ∧ value.natAbs ≤ 2 ^ 63 := by omega
    have same : -(value.natAbs : Int) = value := by omega
    rw [if_neg (by simp [negative]), if_pos ⟨trivial, negative, magnitude⟩, same]
  · have magnitude : value.natAbs < 2 ^ 64 := by omega
    have same : (value.natAbs : Int) = value := by omega
    rw [if_pos ⟨trivial, negative, magnitude⟩, same]

namespace Written

theorem toValues?_spelled {levels : Nat} {items : List Value}
    (each : ∀ item ∈ items, toValue? levels item.spelled = some item) :
    toValues? levels (Value.spelledItems items) = some items := by
  induction items with
  | nil => rfl
  | cons item items induction =>
      have later := induction fun other member => each other (List.mem_cons_of_mem _ member)
      rw [Value.spelledItems, toValues?, each item List.mem_cons_self, later]
      rfl

theorem toFields?_spelled {levels : Nat} {fields : List (String × Value)}
    (each : ∀ field ∈ fields, toValue? levels field.2.spelled = some field.2) :
    toFields? levels (Value.spelledFields fields) = some fields := by
  induction fields with
  | nil => rfl
  | cons field fields induction =>
      obtain ⟨key, value⟩ := field
      have first : toValue? levels value.spelled = some value := each _ List.mem_cons_self
      have later := induction fun other member => each other (List.mem_cons_of_mem _ member)
      simp only [Value.spelledFields, toFields?, first, later, Option.map_some]

end Written

namespace Value.Portable

variable {levels : Nat} {value : Value}

theorem isExact (portable : Portable levels value) : value.IsExact := by
  induction portable with
  | null => exact .null
  | bool value => exact .bool value
  | integer => exact .integer _
  | string text => exact .string text
  | array each induction => exact .array induction
  | object ascending each induction => exact .object induction

theorem mono {more : Nat} (portable : Portable levels value) (enough : levels ≤ more) :
    Portable more value := by
  induction portable generalizing more with
  | null => exact .null
  | bool value => exact .bool value
  | integer low high => exact .integer low high
  | string text => exact .string text
  | array each induction =>
      obtain ⟨more, rfl⟩ := Nat.exists_eq_add_of_le' (Nat.le_trans (Nat.le_add_left 1 _) enough)
      exact .array fun item member => induction item member (Nat.le_of_succ_le_succ enough)
  | object ascending each induction =>
      obtain ⟨more, rfl⟩ := Nat.exists_eq_add_of_le' (Nat.le_trans (Nat.le_add_left 1 _) enough)
      exact .object ascending fun field member =>
        induction field member (Nat.le_of_succ_le_succ enough)

/-- A reader that goes down as many levels makes the value of what its text spells. -/
theorem toValue?_spelled (portable : Portable levels value) :
    Written.toValue? levels value.spelled = some value := by
  induction portable with
  | null => rfl
  | bool value => rfl
  | integer low high => exact NumberLiteral.toValue?_ofInt low high
  | string text => rfl
  | array each induction =>
      rw [spelled, Written.toValue?, Written.toValues?_spelled induction]
      rfl
  | object ascending each induction =>
      rw [spelled, Written.toValue?, Written.toFields?_spelled induction, Option.map_some,
        Fields.ofList_ascending ascending]

end Value.Portable

end SealedContent.Json
