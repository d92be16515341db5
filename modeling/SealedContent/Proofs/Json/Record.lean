import SealedContent.Json.Record
import SealedContent.Proofs.Cbor.Fields

/-!
Structures of known fields, read from an object by the values of its fields. An object that is made of
fields with different keys holds each of them, so it tells the fields.
-/

namespace SealedContent.Json

namespace Fields

variable {α : Type}

theorem insert_nil (key : String) (value : α) : insert key value [] = [(key, value)] := rfl

theorem insert_before {key other : String} (before : key < other) (value present : α)
    (rest : List (String × α)) :
    insert key value ((other, present) :: rest) = (key, value) :: (other, present) :: rest :=
  if_pos before

theorem insert_behind {key other : String} (behind : other < key) (value present : α)
    (rest : List (String × α)) :
    insert key value ((other, present) :: rest) = (other, present) :: insert key value rest := by
  rw [insert, if_neg (String.lt_asymm behind), if_neg (String.ne_of_lt behind).symm]

theorem lookup_cons_ite (key other : String) (value : α) (rest : List (String × α)) :
    ((key, value) :: rest).lookup other = if other = key then some value else rest.lookup other := by
  rw [List.lookup_cons]
  by_cases same : other = key
  · simp [same]
  · simp [same, beq_eq_false_iff_ne.mpr same]

theorem lookup_insert (key other : String) (value : α) (fields : List (String × α)) :
    (insert key value fields).lookup other =
      if other = key then some value else fields.lookup other := by
  induction fields with
  | nil => exact lookup_cons_ite key other value []
  | cons field rest induction =>
      rw [insert]
      split
      · exact lookup_cons_ite key other value _
      split
      case isTrue same =>
        rw [lookup_cons_ite, lookup_cons_ite, same]
        split <;> rfl
      case isFalse different =>
        rw [lookup_cons_ite, lookup_cons_ite, induction]
        by_cases here : other = field.1
        · rw [if_pos here, if_pos here, if_neg fun same => different (same.symm.trans here)]
        · rw [if_neg here, if_neg here]

theorem lookup_foldl_insert {fields sorted : List (String × α)} {key : String}
    (distinct : (fields.map Prod.fst).Nodup) :
    (fields.foldl (fun sorted field => insert field.1 field.2 sorted) sorted).lookup key =
      (fields.lookup key).or (sorted.lookup key) := by
  induction fields generalizing sorted with
  | nil => rfl
  | cons field rest induction =>
      rw [List.map_cons, List.nodup_cons] at distinct
      rw [List.foldl_cons, induction distinct.2, lookup_insert, lookup_cons_ite]
      by_cases here : key = field.1
      · rw [if_pos here, if_pos here, here, Cbor.lookup_of_not_mem distinct.1]
        rfl
      · rw [if_neg here, if_neg here]

theorem lookup_ofList {fields : List (String × α)} (distinct : (fields.map Prod.fst).Nodup)
    (key : String) : (ofList fields).lookup key = fields.lookup key := by
  have looked : (ofList fields).lookup key = (fields.lookup key).or (List.lookup key []) :=
    lookup_foldl_insert distinct
  rw [List.lookup_nil, Option.or_none] at looked
  exact looked

theorem eq_of_lookup {left right : List (String × α)} (keys : left.map Prod.fst = right.map Prod.fst)
    (distinct : (left.map Prod.fst).Nodup) (same : ∀ key, left.lookup key = right.lookup key) :
    left = right := by
  induction left generalizing right with
  | nil => exact (List.map_eq_nil_iff.mp keys.symm).symm
  | cons field rest induction =>
      cases right with
      | nil => cases keys
      | cons other others =>
          obtain ⟨key, value⟩ := field
          obtain ⟨otherKey, otherValue⟩ := other
          rw [List.map_cons, List.map_cons, List.cons.injEq] at keys
          obtain ⟨rfl, rest_keys⟩ := keys
          rw [List.map_cons, List.nodup_cons] at distinct
          simp only [lookup_cons_ite] at same
          have values : value = otherValue := by simpa using same key
          have others_same : rest = others := by
            apply induction rest_keys distinct.2
            intro name
            by_cases here : name = key
            · rw [here, Cbor.lookup_of_not_mem distinct.1,
                Cbor.lookup_of_not_mem (rest_keys ▸ distinct.1)]
            · simpa [here] using same name
          rw [values, others_same]

/-- Objects made of the same keys are equal only if the fields are. -/
theorem ofList_inj {left right : List (String × α)} (keys : left.map Prod.fst = right.map Prod.fst)
    (distinct : (left.map Prod.fst).Nodup) (same : ofList left = ofList right) : left = right := by
  apply eq_of_lookup keys distinct
  intro key
  rw [← lookup_ofList distinct, same, lookup_ofList (keys ▸ distinct)]

end Fields

namespace Value

theorem field?_object (fields : List (String × Value)) (key : String) :
    field? (.object fields) key = fields.lookup key := by
  rw [field?]
  induction fields with
  | nil => rfl
  | cons field fields induction =>
      rw [List.find?_cons, List.lookup_cons]
      by_cases same : field.1 = key
      · simp [same]
      · have other : (key == field.1) = false := by
          rw [beq_eq_false_iff_ne]
          exact fun reversed => same reversed.symm
        simp only [same, other]
        exact induction

/-- Where a field has a value there is an object, and each name is looked up in it. -/
theorem record?_of_field? {value present : Value} {key : String}
    (found : value.field? key = some present) (names : List String) :
    value.record? names = names.mapM value.field? := by
  cases value with
  | object fields =>
      rw [record?]
      congr 1
      funext name
      exact (field?_object fields name).symm
  | _ => cases found

theorem ofFields_inj {left right : List (String × Value)} (same : ofFields left = ofFields right)
    (keys : left.map Prod.fst = right.map Prod.fst) (distinct : (left.map Prod.fst).Nodup) :
    left = right :=
  Fields.ofList_inj keys distinct (Value.object.inj same)

end Value

end SealedContent.Json
