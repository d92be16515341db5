import SealedContent.Json.Value
import SealedContent.Proofs.Bytes.Text
import SealedContent.Proofs.Cbor.Canonical

/-!
DAG-CBOR values of any kind, read without a shape: heads in their shortest form, keys in canonical
order, links under their tag, and nothing else that plain CBOR allows. The canonical form of a value
is read as that value, whatever shape it has.
-/

namespace SealedContent.Cbor

open Content (Cid)

/-- Any value that DAG-CBOR can hold. A float is given by its sixty-four bits. -/
inductive Node where
  | null
  | bool (value : Bool)
  | integer (value : Int)
  | float (bits : Nat)
  | bytes (content : Bytes)
  | text (value : String)
  | list (items : List Node)
  | map (fields : List (String × Node))
  | link (cid : Cid)

/-- The head of an item in its shortest form: major type, argument and what follows. -/
def readCanonicalHead? (input : Bytes) : Option (Nat × Nat × Bytes) := do
  let first ← input.head?
  let major := first.toNat / 32
  let (argument, rest) ← readHead? [major] input
  if head major argument ++ rest = input then some (major, argument, rest) else none

/-- The values that stand in their head. Floats that are infinite or no number are refused. -/
def readSimple? (input : Bytes) : Option (Node × Bytes) :=
  match input with
  | 0xf4 :: rest => some (.bool false, rest)
  | 0xf5 :: rest => some (.bool true, rest)
  | 0xf6 :: rest => some (.null, rest)
  | 0xfb :: rest => do
      let (content, after) ← takeExactly? 8 rest
      let bits := Bytes.bigEndian content
      if bits / Nat.pow 2 52 % 2048 = 2047 then none else some (.float bits, after)
  | _ => none

def readMany? {α : Type} (read : Bytes → Option (α × Bytes)) : Nat → Bytes → Option (List α × Bytes)
  | 0, input => some ([], input)
  | count + 1, input => do
      let (item, after) ← read input
      let (items, rest) ← readMany? read count after
      return (item :: items, rest)

def readField? (read : Bytes → Option (Node × Bytes)) (input : Bytes) :
    Option ((String × Node) × Bytes) :=
  match read input with
  | some (.text key, after) => (read after).map fun (value, rest) => ((key, value), rest)
  | _ => none

/-- Keys in the canonical order, none of them twice. -/
def ascending : List String → Bool
  | [] => true
  | key :: rest => rest.head?.all (keyBefore key) && ascending rest

/-- Reads one value in its canonical form, whatever it is, nested in at most so many levels. -/
def readNode? : Nat → Bytes → Option (Node × Bytes)
  | 0, _ => none
  | inner + 1, input =>
      match readSimple? input with
      | some found => some found
      | none => do
          let (major, argument, after) ← readCanonicalHead? input
          match major with
          | 0 => some (.integer argument, after)
          | 1 => some (.integer (-1 - argument), after)
          | 2 => do
              let (content, rest) ← takeExactly? argument after
              some (.bytes content, rest)
          | 3 => do
              let (content, rest) ← takeExactly? argument after
              let text ← Bytes.toText? content
              some (.text text, rest)
          | 4 => do
              let (items, rest) ← readMany? (readNode? inner) argument after
              some (.list items, rest)
          | 5 => do
              let (fields, rest) ← readMany? (readField? (readNode? inner)) argument after
              if ascending (fields.map Prod.fst) then some (.map fields, rest) else none
          | 6 =>
              match readNode? inner after with
              | some (.bytes (0 :: content), rest) => do
                  let cid ← Cid.ofBytes? content
                  if argument = linkTag ∧ cid.toBytes = content then some (.link cid, rest) else none
              | _ => none
          | _ => none

/-- The value that the whole input is the canonical form of. A level of nesting takes a byte at least. -/
def Node.ofBytes? (input : Bytes) : Option Node :=
  match readNode? input.length input with
  | some (node, []) => some node
  | _ => none

mutual

/-- The node that the canonical form of a value reads as. -/
def Value.node : Value → Node
  | .unsigned value => .integer value
  | .text value => .text value
  | .list items => .list (nodeItems items)
  | .map fields => .map (sortFields (nodeFields fields))
  | .link cid => .link cid

def nodeItems : List Value → List Node
  | [] => []
  | item :: rest => item.node :: nodeItems rest

def nodeFields : List (String × Value) → List (String × Node)
  | [] => []
  | (key, value) :: rest => (key, value.node) :: nodeFields rest

end

mutual

/-- The value as JSON, with links as the texts of their identifiers. Bytes and floats have no place
in it. -/
def Node.view? : Node → Option Json.Value
  | .null => some .null
  | .bool value => some (.bool value)
  | .integer value => some (.integer value)
  | .float _ => none
  | .bytes _ => none
  | .text value => some (.string value)
  | .list items => (viewItems? items).map .array
  | .map fields => (viewFields? fields).map .ofFields
  | .link cid => some (.string cid.toText)

def viewItems? : List Node → Option (List Json.Value)
  | [] => some []
  | item :: rest => do
      let first ← item.view?
      let others ← viewItems? rest
      return first :: others

def viewFields? : List (String × Node) → Option (List (String × Json.Value))
  | [] => some []
  | (key, value) :: rest => do
      let first ← value.view?
      let others ← viewFields? rest
      return (key, first) :: others

end

theorem keyBefore_of_not {left right : String} (unordered : keyBefore left right = false)
    (different : left ≠ right) : keyBefore right left = true := by
  simp only [keyBefore, decide_eq_false_iff_not, not_or, not_and, Nat.not_lt] at unordered
  simp only [keyBefore, decide_eq_true_eq]
  rcases Nat.lt_or_eq_of_le unordered.1 with shorter | same
  · exact .inl shorter
  · refine .inr ⟨same, ?_⟩
    by_contra greater
    have equal := List.le_antisymm (List.not_lt.mp greater) (List.not_lt.mp (unordered.2 same.symm))
    exact different (Bytes.ofText_injective equal)

theorem insertField_head? {α : Type} (field : String × α) (fields : List (String × α)) :
    (insertField field fields).head? = some field ∨
      (insertField field fields).head? = fields.head? := by
  cases fields with
  | nil => exact .inl rfl
  | cons other rest =>
      rw [insertField]
      split
      · exact .inl rfl
      · exact .inr rfl

theorem ascending_insertField {α : Type} {field : String × α} {fields : List (String × α)}
    (sorted : ascending (fields.map Prod.fst) = true) (fresh : field.1 ∉ fields.map Prod.fst) :
    ascending ((insertField field fields).map Prod.fst) = true := by
  induction fields with
  | nil => rfl
  | cons other rest induction =>
      rw [List.map_cons, List.mem_cons, not_or] at fresh
      rw [insertField]
      split
      case isTrue before => simp [ascending, before, ← sorted]
      case isFalse unordered =>
        have after := keyBefore_of_not (Bool.eq_false_iff.mpr unordered) fresh.1
        rw [List.map_cons, ascending, List.head?_map, Bool.and_eq_true] at sorted ⊢
        refine ⟨?_, induction sorted.2 fresh.2⟩
        rcases insertField_head? field rest with first | kept
        · rw [first, Option.map_some, Option.all_some, after]
        · rw [kept]
          exact sorted.1

theorem ascending_sortFields {α : Type} {fields : List (String × α)}
    (distinct : (fields.map Prod.fst).Nodup) :
    ascending ((sortFields fields).map Prod.fst) = true := by
  induction fields with
  | nil => rfl
  | cons field rest induction =>
      rw [List.map_cons, List.nodup_cons] at distinct
      rw [sortFields, List.foldr_cons, ← sortFields]
      apply ascending_insertField (induction distinct.2)
      intro member
      exact distinct.1 (((sortFields_perm rest).map Prod.fst).mem_iff.mp member)

theorem nodeItems_eq_map (items : List Value) : nodeItems items = items.map Value.node := by
  induction items with
  | nil => rfl
  | cons item rest induction => rw [nodeItems, induction, List.map_cons]

theorem nodeFields_eq_map (fields : List (String × Value)) :
    nodeFields fields = fields.map fun field => (field.1, field.2.node) := by
  induction fields with
  | nil => rfl
  | cons field rest induction => rw [nodeFields, induction, List.map_cons]

theorem readCanonicalHead?_head {major argument : Nat} (kind : major < 8)
    (bounded : argument < UInt64.size) (rest : Bytes) :
    readCanonicalHead? (head major argument ++ rest) = some (major, argument, rest) := by
  obtain ⟨code, narrow, tail, cut⟩ := head_eq_cons major argument
  have lead : (UInt8.ofNat (major * 32 + code)).toNat / 32 = major := by
    rw [toNat_lead kind (by omega)]
    omega
  have first : (head major argument ++ rest).head? = some (UInt8.ofNat (major * 32 + code)) := by
    rw [cut]
    rfl
  have read : readHead? [major] (head major argument ++ rest) = some (argument, rest) :=
    readHead?_head List.mem_cons_self kind bounded rest
  simp only [readCanonicalHead?, first, Option.bind_eq_bind, Option.bind_some, lead, read, if_true]

/-- Only heads of the last major type stand for a value by themselves. -/
theorem readSimple?_head {major : Nat} (kind : major < 7) (argument : Nat) (rest : Bytes) :
    readSimple? (head major argument ++ rest) = none := by
  obtain ⟨code, narrow, tail, cut⟩ := head_eq_cons major argument
  have low : (UInt8.ofNat (major * 32 + code)).toNat < 0xe0 := by
    rw [toNat_lead (by omega) (by omega)]
    omega
  rw [cut, List.cons_append, readSimple?]
  all_goals
    intro after same
    rw [(List.cons.inj same).1] at low
    exact absurd low (by decide)

theorem readMany?_flatMap {α β : Type} {read : Bytes → Option (β × Bytes)} {form : α → Bytes}
    {value : α → β} {items : List α}
    (each : ∀ item ∈ items, ∀ rest, read (form item ++ rest) = some (value item, rest))
    (rest : Bytes) :
    readMany? read items.length (items.flatMap form ++ rest) = some (items.map value, rest) := by
  induction items with
  | nil => rfl
  | cons item items induction =>
      have first := each item List.mem_cons_self
      have later := induction fun other member => each other (List.mem_cons_of_mem _ member)
      rw [List.flatMap_cons, List.append_assoc, List.length_cons, readMany?, first]
      simp only [Option.bind_eq_bind, Option.bind_some, later]
      rfl

section Levels

variable {inner : Nat}

theorem readNode?_text {text : String} (bounded : (Bytes.ofText text).length < UInt64.size)
    (rest : Bytes) :
    readNode? (inner + 1) (encodeText text ++ rest) = some (.text text, rest) := by
  rw [encodeText, List.append_assoc, readNode?, readSimple?_head (by decide),
    readCanonicalHead?_head (by decide) bounded]
  simp only [Option.bind_eq_bind, Option.bind_some, takeExactly?_append, Bytes.toText?_ofText]

theorem readNode?_link (cid : Cid) (rest : Bytes) :
    readNode? (inner + 2) (encodeLink cid ++ rest) = some (.link cid, rest) := by
  have narrow : (0 :: cid.toBytes).length < UInt64.size :=
    lt_of_le_of_lt (Nat.succ_le_succ cid.length_toBytes) (by decide)
  have content : readNode? (inner + 1)
      (head 2 (0 :: cid.toBytes).length ++ (0 :: cid.toBytes ++ rest)) =
        some (.bytes (0 :: cid.toBytes), rest) := by
    rw [readNode?, readSimple?_head (by decide), readCanonicalHead?_head (by decide) narrow]
    simp only [Option.bind_eq_bind, Option.bind_some, takeExactly?_append]
  rw [encodeLink, List.append_assoc, List.append_assoc, readNode?, readSimple?_head (by decide),
    readCanonicalHead?_head (by decide) (by decide)]
  simp only [Option.bind_eq_bind, Option.bind_some, content, Cid.ofBytes?_toBytes, and_self, if_true]

end Levels

theorem exists_level {value : Value} {levels : Nat} (room : value.encode.length ≤ levels) :
    ∃ inner, levels = inner + 1 :=
  Nat.exists_eq_add_one.mpr (Nat.lt_of_lt_of_le (List.length_pos_iff.mpr (encode_ne_nil value)) room)

/-- A field of a map is read as its key with the node of its value. -/
theorem readField?_encodeField {inner : Nat} {field : String × Value}
    (bounded : (Bytes.ofText field.1).length < UInt64.size)
    (read : ∀ rest, readNode? (inner + 1) (field.2.encode ++ rest) = some (field.2.node, rest))
    (rest : Bytes) :
    readField? (readNode? (inner + 1)) (encodeField field ++ rest) =
      some ((field.1, field.2.node), rest) := by
  rw [encodeField, List.append_assoc, readField?, readNode?_text bounded]
  simp only [read, Option.map_some]

theorem readNode?_encode {depth levels : Nat} {shape : Shape} {value : Value}
    (fits : Fits depth shape value) (bounded : value.encode.length < UInt64.size)
    (room : value.encode.length ≤ levels) (rest : Bytes) :
    readNode? levels (value.encode ++ rest) = some (value.node, rest) := by
  -- Each part of a value has a shorter form, so the bound and the levels pass down the derivation.
  induction fits generalizing levels rest with
  | unsigned small =>
      obtain ⟨inner, rfl⟩ := exists_level room
      rw [Value.encode, readNode?, readSimple?_head (by decide),
        readCanonicalHead?_head (by decide) small]
      rfl
  | text value =>
      obtain ⟨inner, rfl⟩ := exists_level room
      rw [Value.encode, encodeText, List.length_append] at bounded
      rw [Value.encode, readNode?_text (by omega)]
      rfl
  | link cid =>
      rw [Value.encode, encodeLink, List.length_append, List.length_append, List.length_cons] at room
      have tag := List.length_pos_iff.mpr (head_ne_nil 6 linkTag)
      obtain ⟨inner, rfl⟩ : ∃ inner, levels = inner + 2 := Nat.exists_eq_add_of_le' (by omega)
      rw [Value.encode, readNode?_link]
      rfl
  | @list depth shape items each induction =>
      obtain ⟨inner, rfl⟩ := exists_level room
      rw [encode_list, List.length_append] at bounded room
      have lead := List.length_pos_iff.mpr (head_ne_nil 4 items.length)
      have count : items.length < UInt64.size :=
        lt_of_le_of_lt (Bytes.length_le_flatMap encode_ne_nil _) (by omega)
      have read : readMany? (readNode? inner) items.length (items.flatMap Value.encode ++ rest) =
          some (items.map Value.node, rest) := by
        apply readMany?_flatMap
        intro item member rest
        have part := Bytes.length_form_le Value.encode member
        exact induction item member (by omega) (by omega) rest
      rw [encode_list, List.append_assoc, readNode?, readSimple?_head (by decide),
        readCanonicalHead?_head (by decide) count]
      simp only [Option.bind_eq_bind, Option.bind_some, read, Value.node, nodeItems_eq_map]
  | @record depth shapes fields keys distinct each induction =>
      obtain ⟨inner, rfl⟩ := exists_level room
      have sorted := sortFields_perm fields
      rw [← keys] at distinct
      rw [length_encode_map] at bounded room
      have lead := List.length_pos_iff.mpr (head_ne_nil 5 fields.length)
      have count : (sortFields fields).length < UInt64.size := by
        rw [sorted.length_eq]
        exact lt_of_le_of_lt (Bytes.length_le_flatMap encodeField_ne_nil _) (by omega)
      have read : readMany? (readField? (readNode? inner)) (sortFields fields).length
          ((sortFields fields).flatMap encodeField ++ rest) =
            some ((sortFields fields).map fun field => (field.1, field.2.node), rest) := by
        apply readMany?_flatMap
        intro field stored rest
        have member := sorted.mem_iff.mp stored
        have part := Bytes.length_form_le encodeField member
        rw [encodeField, encodeText, List.length_append, List.length_append] at part
        obtain ⟨shape, -, opposite⟩ := exists_opposite keys member
        have room : field.2.encode.length ≤ inner := by omega
        obtain ⟨below, rfl⟩ := exists_level room
        have value_bounded : field.2.encode.length < UInt64.size := by omega
        have value_room : field.2.encode.length ≤ below + 1 := by omega
        have key_bounded : (Bytes.ofText field.1).length < UInt64.size := by omega
        exact readField?_encodeField key_bounded (induction _ opposite value_bounded value_room) rest
      have ordered : ascending (((sortFields fields).map fun field => (field.1, field.2.node)).map
          Prod.fst) = true := by
        rw [List.map_map]
        exact ascending_sortFields distinct
      rw [encode_map, List.append_assoc, ← sorted.length_eq, readNode?, readSimple?_head (by decide),
        readCanonicalHead?_head (by decide) count]
      simp only [Option.bind_eq_bind, Option.bind_some, read, ordered, if_true, Value.node,
        nodeFields_eq_map, sortFields_map]

theorem Node.ofBytes?_encode {depth : Nat} {shape : Shape} {value : Value}
    (fits : Fits depth shape value) (bounded : value.encode.length < UInt64.size) :
    Node.ofBytes? value.encode = some value.node := by
  have whole := readNode?_encode fits bounded (Nat.le_refl _) []
  rw [List.append_nil] at whole
  rw [Node.ofBytes?, whole]

theorem viewItems?_map {α : Type} {form : α → Value} {view : α → Json.Value} {items : List α}
    (each : ∀ item ∈ items, (form item).node.view? = some (view item)) :
    viewItems? (nodeItems (items.map form)) = some (items.map view) := by
  induction items with
  | nil => rfl
  | cons item items induction =>
      have first := each item List.mem_cons_self
      have later := induction fun other member => each other (List.mem_cons_of_mem _ member)
      rw [List.map_cons, nodeItems, viewItems?, first, later]
      rfl

end SealedContent.Cbor
