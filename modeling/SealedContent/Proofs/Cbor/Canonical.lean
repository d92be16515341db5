import SealedContent.Proofs.Bytes.Chunks
import SealedContent.Proofs.Cbor.Fields
import SealedContent.Proofs.Cbor.Head

/-!
The reader of a shape gives back every value of that shape from its canonical form, in front of any
other bytes, as long as the form itself has a length that fits in eight bytes.
-/

namespace SealedContent.Cbor

theorem encodeItems_eq_flatMap (items : List Value) :
    encodeItems items = items.flatMap Value.encode := by
  induction items with
  | nil => rfl
  | cons item rest induction => rw [encodeItems, induction, List.flatMap_cons]

theorem encodeFields_eq_map (fields : List (String × Value)) :
    encodeFields fields = fields.map fun field => (field.1, field.2.encode) := by
  induction fields with
  | nil => rfl
  | cons field rest induction => rw [encodeFields, induction, List.map_cons]

theorem fieldReaders_eq_map (shapes : List (String × Shape)) :
    fieldReaders shapes = shapes.map fun field => (field.1, field.2.reader) := by
  induction shapes with
  | nil => rfl
  | cons field rest induction => rw [fieldReaders, induction, List.map_cons]

def encodeField (field : String × Value) : Bytes :=
  encodeText field.1 ++ field.2.encode

theorem encode_list (items : List Value) :
    (Value.list items).encode = head 4 items.length ++ items.flatMap Value.encode := by
  rw [Value.encode, encodeItems_eq_flatMap]

theorem encode_map (fields : List (String × Value)) :
    (Value.map fields).encode =
      head 5 fields.length ++ (sortFields fields).flatMap encodeField := by
  rw [Value.encode, encodeFields_eq_map, sortFields_map, List.flatMap_map]
  rfl

theorem length_encode_map (fields : List (String × Value)) :
    (Value.map fields).encode.length =
      (head 5 fields.length).length + (fields.flatMap encodeField).length := by
  have same := ((sortFields_perm fields).flatMap_right encodeField).length_eq
  rw [encode_map, List.length_append, same]

theorem encode_ne_nil (value : Value) : value.encode ≠ [] := by
  cases value <;>
    simp [Value.encode, encodeText, encodeLink, head_ne_nil]

theorem encodeField_ne_nil (field : String × Value) : encodeField field ≠ [] := by
  simp [encodeField, encode_ne_nil]

theorem readItems?_encode {read : Bytes → Option (Value × Bytes)} {items : List Value}
    (each : ∀ item ∈ items, ∀ rest, read (item.encode ++ rest) = some (item, rest))
    (rest : Bytes) :
    readItems? read items.length (items.flatMap Value.encode ++ rest) = some (items, rest) := by
  induction items with
  | nil => rfl
  | cons item items induction =>
      have first := each item List.mem_cons_self
      have later := induction fun other member => each other (List.mem_cons_of_mem _ member)
      rw [List.flatMap_cons, List.append_assoc, List.length_cons, readItems?, first]
      simp only [Option.bind_eq_bind, Option.bind_some, later]
      rfl

/-- A field that the readers know and give back from its canonical form. -/
def ReadsField (readers : List (String × Reader)) (depth : Nat) (field : String × Value) : Prop :=
  (Bytes.ofText field.1).length < UInt64.size ∧
    ∃ read, readers.lookup field.1 = some read ∧
      ∀ rest, read depth (field.2.encode ++ rest) = some (field.2, rest)

theorem readFields?_encode {readers : List (String × Reader)} {depth : Nat}
    {fields done : List (String × Value)} (distinct : (fields.map Prod.fst).Nodup)
    (fresh : ∀ field ∈ fields, field.1 ∉ done.map Prod.fst)
    (each : ∀ field ∈ fields, ReadsField readers depth field) (rest : Bytes) :
    readFields? readers depth fields.length done (fields.flatMap encodeField ++ rest) =
      some (fields.reverse ++ done, rest) := by
  induction fields generalizing done with
  | nil => rfl
  | cons field fields induction =>
      rw [List.map_cons, List.nodup_cons] at distinct
      obtain ⟨bounded, read, known, first⟩ := each field List.mem_cons_self
      have absent := lookup_of_not_mem (fresh field List.mem_cons_self)
      have fresh_later : ∀ other ∈ fields, other.1 ∉ (field :: done).map Prod.fst := by
        intro other member
        rw [List.map_cons, List.mem_cons, not_or]
        refine ⟨?_, fresh other (List.mem_cons_of_mem _ member)⟩
        intro same
        exact distinct.1 (same ▸ List.mem_map_of_mem member)
      have later := induction distinct.2 fresh_later
        fun other member => each other (List.mem_cons_of_mem _ member)
      rw [List.flatMap_cons, encodeField, List.append_assoc, List.append_assoc, List.length_cons,
        readFields?, readText?_encodeText bounded]
      simp only [Option.bind_eq_bind, Option.bind_some, known, absent, Option.isSome_none,
        Bool.false_eq_true, if_false, first, later]
      simp

theorem readList?_encode {read : Reader} {depth : Nat} {items : List Value}
    (count : items.length < UInt64.size)
    (each : ∀ item ∈ items, ∀ rest, read depth (item.encode ++ rest) = some (item, rest))
    (rest : Bytes) :
    readList? read (depth + 1) ((Value.list items).encode ++ rest) = some (.list items, rest) := by
  rw [encode_list, List.append_assoc, readList?, readHead?_head (by decide) (by decide) count]
  simp only [Option.bind_eq_bind, Option.bind_some, readItems?_encode each]
  rfl

/-- The fields arrive in canonical order, and go back into the order of the readers. -/
theorem readRecord?_encode {readers : List (String × Reader)} {depth : Nat}
    {fields : List (String × Value)} (keys : readers.map Prod.fst = fields.map Prod.fst)
    (distinct : (fields.map Prod.fst).Nodup) (count : fields.length < UInt64.size)
    (each : ∀ field ∈ fields, ReadsField readers depth field) (rest : Bytes) :
    readRecord? readers (depth + 1) ((Value.map fields).encode ++ rest) =
      some (.map fields, rest) := by
  have sorted := sortFields_perm fields
  have sorted_distinct : ((sortFields fields).map Prod.fst).Nodup :=
    (sorted.map Prod.fst).nodup_iff.mpr distinct
  have fresh : ∀ field ∈ sortFields fields,
      field.1 ∉ ([] : List (String × Value)).map Prod.fst := by simp
  have collected := readFields?_encode sorted_distinct fresh
    (fun field member => each field (sorted.mem_iff.mp member)) rest
  rw [List.append_nil, sorted.length_eq] at collected
  have arranged : arrange? (fields.map Prod.fst) (sortFields fields).reverse = some fields := by
    apply arrange?_of_lookup
    intro field member
    apply lookup_of_mem
    · rw [List.map_reverse, List.nodup_reverse]
      exact sorted_distinct
    · exact List.mem_reverse.mpr (sorted.mem_iff.mpr member)
  rw [encode_map, List.append_assoc, readRecord?, readHead?_head (by decide) (by decide) count]
  simp only [Option.bind_eq_bind, Option.bind_some, collected, keys, arranged]
  rfl

/-- A value as a shape describes it, nested in at most so many levels: numbers fit in eight bytes,
and a record has the fields of its shape, in their order. -/
inductive Fits : Nat → Shape → Value → Prop
  | unsigned {depth value : Nat} (bounded : value < UInt64.size) :
      Fits depth .unsigned (.unsigned value)
  | text {depth : Nat} (value : String) : Fits depth .text (.text value)
  | link {depth : Nat} (cid : Content.Cid) : Fits depth .link (.link cid)
  | list {depth : Nat} {shape : Shape} {items : List Value}
      (each : ∀ item ∈ items, Fits depth shape item) : Fits (depth + 1) (.list shape) (.list items)
  | record {depth : Nat} {shapes : List (String × Shape)} {fields : List (String × Value)}
      (keys : fields.map Prod.fst = shapes.map Prod.fst) (distinct : (shapes.map Prod.fst).Nodup)
      (each : ∀ pair ∈ shapes.zip fields, Fits depth pair.1.2 pair.2.2) :
      Fits (depth + 1) (.record shapes) (.map fields)

/-- Fields that fit the shapes opposite them. -/
def FitsFields (depth : Nat) (shapes : List (String × Shape)) (fields : List (String × Value)) :
    Prop :=
  ∀ pair ∈ shapes.zip fields, Fits depth pair.1.2 pair.2.2

theorem fitsFields_nil (depth : Nat) : FitsFields depth [] [] := by
  intro pair member
  cases member

theorem fitsFields_cons {depth : Nat} {shape : String × Shape} {field : String × Value}
    {shapes : List (String × Shape)} {fields : List (String × Value)} :
    FitsFields depth (shape :: shapes) (field :: fields) ↔
      Fits depth shape.2 field.2 ∧ FitsFields depth shapes fields := by
  rw [FitsFields, List.zip_cons_cons, List.forall_mem_cons]
  rfl

theorem Fits.of_fields {depth : Nat} {shapes : List (String × Shape)}
    {fields : List (String × Value)} (keys : fields.map Prod.fst = shapes.map Prod.fst)
    (distinct : (shapes.map Prod.fst).Nodup) (each : FitsFields depth shapes fields) :
    Fits (depth + 1) (.record shapes) (.map fields) :=
  .record keys distinct each

theorem reader_encode {depth : Nat} {shape : Shape} {value : Value} (fits : Fits depth shape value)
    (bounded : value.encode.length < UInt64.size) (rest : Bytes) :
    shape.reader depth (value.encode ++ rest) = some (value, rest) := by
  -- Each part of a value has a shorter form, so the bound passes down the derivation.
  induction fits generalizing rest with
  | unsigned small =>
      rw [Value.encode, Shape.reader]
      dsimp only
      rw [readHead?_head (by decide) (by decide) small]
      rfl
  | text value =>
      have content : (Bytes.ofText value).length < UInt64.size := by
        rw [Value.encode, encodeText, List.length_append] at bounded
        omega
      rw [Value.encode, Shape.reader]
      dsimp only
      rw [readText?_encodeText content]
      rfl
  | link cid =>
      rw [Value.encode, Shape.reader]
      dsimp only
      rw [readLink?_encodeLink]
      rfl
  | list each induction =>
      rw [encode_list, List.length_append] at bounded
      rw [Shape.reader]
      apply readList?_encode
      · exact lt_of_le_of_lt (Bytes.length_le_flatMap encode_ne_nil _) (by omega)
      · intro item member rest
        have part := Bytes.length_form_le Value.encode member
        exact induction item member (by omega) rest
  | @record depth shapes fields keys distinct each induction =>
      rw [← keys] at distinct
      rw [length_encode_map] at bounded
      have names : (fieldReaders shapes).map Prod.fst = fields.map Prod.fst := by
        rw [fieldReaders_eq_map, List.map_map, keys]
        rfl
      rw [Shape.reader]
      apply readRecord?_encode names distinct
      · exact lt_of_le_of_lt (Bytes.length_le_flatMap encodeField_ne_nil _) (by omega)
      · intro field member
        have part := Bytes.length_form_le encodeField member
        rw [encodeField, encodeText, List.length_append, List.length_append] at part
        obtain ⟨shape, known, opposite⟩ := exists_opposite keys member
        have value_bounded : field.2.encode.length < UInt64.size := by omega
        refine ⟨by omega, shape.reader, ?_, induction _ opposite value_bounded⟩
        apply lookup_of_mem (names ▸ distinct)
        rw [fieldReaders_eq_map]
        exact List.mem_map.mpr ⟨_, known, rfl⟩

theorem Shape.read?_encode {shape : Shape} {value : Value} (fits : Fits depthLimit shape value)
    (bounded : value.encode.length < UInt64.size) : shape.read? value.encode = some value := by
  have whole := reader_encode fits bounded []
  rw [List.append_nil] at whole
  rw [Shape.read?, whole]

/-- A map of one entry whose key is the tag. -/
theorem readTagged?_encode {shapes : List (String × Shape)} {tag : String} {shape : Shape}
    (known : shapes.lookup tag = some shape) {value : Value} (fits : Fits depthLimit shape value)
    (bounded : (Value.map [(tag, value)]).encode.length < UInt64.size) :
    readTagged? shapes (Value.map [(tag, value)]).encode = some (tag, value) := by
  have form : (Value.map [(tag, value)]).encode = 0xa1 :: (encodeText tag ++ value.encode) := by
    rw [encode_map]
    simp [sortFields, insertField, encodeField, head]
  rw [form] at bounded ⊢
  rw [List.length_cons, List.length_append, encodeText, List.length_append] at bounded
  simp only [readTagged?, List.head?_cons, List.drop_one, List.tail_cons, Option.bind_eq_bind,
    Option.bind_some, if_true]
  rw [readText?_encodeText (by omega)]
  simp only [Option.bind_some, known]
  rw [Shape.read?_encode fits (by omega)]
  rfl

end SealedContent.Cbor
