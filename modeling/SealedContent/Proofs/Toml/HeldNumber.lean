import SealedContent.Toml.Document

/-!
No document holds a number that is too large: from the digits on, every step of the reader keeps all
numbers below one bound.
-/

namespace SealedContent.Toml

open Lexeme

/-- Every number in the value is below the bound of the reader. -/
inductive Value.IsHeld : Value → Prop where
  | string (text : String) : IsHeld (.string text)
  | integer {value : Int} (small : value < integerBound) : IsHeld (.integer value)
  | boolean (value : Bool) : IsHeld (.boolean value)
  | float (literal : String) : IsHeld (.float literal)
  | moment (literal : String) : IsHeld (.moment literal)
  | array {items : List Value} (held : ∀ item ∈ items, IsHeld item) : IsHeld (.array items)
  | table {fields : List (String × Value)} (held : ∀ field ∈ fields, IsHeld field.2) :
      IsHeld (.table fields)

inductive Item.IsHeld : Item → Prop where
  | value {value : Value} (held : value.IsHeld) : IsHeld (.value value)
  | table {origin : Origin} {fields : Fields} (held : ∀ field ∈ fields, IsHeld field.2) :
      IsHeld (.table origin fields)
  | tables {last : Fields} {earlier : List Fields} (held : ∀ field ∈ last, IsHeld field.2)
      (before : ∀ fields ∈ earlier, ∀ field ∈ fields, IsHeld field.2) :
      IsHeld (.tables last earlier)

def Fields.IsHeld (fields : Fields) : Prop :=
  ∀ field ∈ fields, field.2.IsHeld

theorem holds_of_lookup {α : Type} {holds : α → Prop} {fields : List (String × α)}
    (all : ∀ field ∈ fields, holds field.2) {key : String} {found : α}
    (present : fields.lookup key = some found) : holds found := by
  obtain ⟨before, after, same, -⟩ := List.lookup_eq_some_iff.mp present
  exact all (key, found) (by rw [same]; exact List.mem_append_right _ List.mem_cons_self)

section Values

theorem radixInteger?_held {radix : Nat} {input rest : List Char} {value : Int}
    (found : radixInteger? radix input = some (value, rest)) : value < integerBound := by
  obtain ⟨⟨digits, after⟩, -, bounded⟩ := Option.bind_eq_some_iff.mp found
  dsimp only at bounded
  split at bounded
  case isTrue small =>
    cases bounded
    exact Int.ofNat_lt.mpr small
  case isFalse => cases bounded

theorem integer?_held {input rest : List Char} {value : Int}
    (found : integer? input = some (value, rest)) : value < integerBound := by
  rw [integer?.eq_def] at found
  split at found
  case h_1 => exact radixInteger?_held found
  case h_2 => exact radixInteger?_held found
  case h_3 => exact radixInteger?_held found
  case h_4 =>
    obtain ⟨⟨negative, digits, after⟩, -, bounded⟩ := Option.bind_eq_some_iff.mp found
    dsimp only at bounded
    split at bounded
    · split at bounded
      · cases bounded
        have positive : 0 < integerBound := by decide
        omega
      · cases bounded
    · split at bounded
      case isTrue small =>
        cases bounded
        exact Int.ofNat_lt.mpr small
      case isFalse => cases bounded

theorem readNumber?_held {input rest : List Char} {value : Value}
    (found : readNumber? input = some (value, rest)) : value.IsHeld := by
  rw [readNumber?] at found
  split at found
  · cases found
    exact .moment _
  · split at found
    · cases found
      exact .float _
    · obtain ⟨⟨number, after⟩, read, same⟩ := Option.map_eq_some_iff.mp found
      cases same
      exact .integer (integer?_held read)

end Values

namespace Fields

variable {fields parent table : Fields} {key : String}

theorem IsHeld.nil : IsHeld [] := by
  intro field member
  cases member

theorem IsHeld.append (held : fields.IsHeld) {item : Item} (last : item.IsHeld) :
    IsHeld (fields ++ [(key, item)]) := by
  intro field member
  rcases List.mem_append.mp member with before | added
  · exact held field before
  · rw [List.mem_singleton.mp added]
    exact last

theorem IsHeld.lookup (held : fields.IsHeld) {item : Item}
    (found : fields.lookup key = some item) : item.IsHeld :=
  holds_of_lookup held found

theorem IsHeld.replace (held : fields.IsHeld) {item : Item} (new : item.IsHeld) :
    (Fields.replace key item fields).IsHeld := by
  induction fields with
  | nil => exact IsHeld.nil.append new
  | cons field fields induction =>
      obtain ⟨first, others⟩ := List.forall_mem_cons.mp held
      rw [Fields.replace]
      split
      · exact List.forall_mem_cons.mpr ⟨new, others⟩
      · exact List.forall_mem_cons.mpr ⟨first, induction others⟩

theorem updateAt_held {byDots : Bool} {change : Bool → Fields → Option Fields}
    (keeps : ∀ isDotted before after, change isDotted before = some after → before.IsHeld →
      after.IsHeld) {path : List String} {isDotted : Bool} {changed : Fields}
    (found : updateAt byDots change path isDotted fields = some changed) (held : fields.IsHeld) :
    changed.IsHeld := by
  induction path generalizing isDotted fields changed with
  | nil => exact keeps isDotted fields changed found held
  | cons key path induction =>
      rw [updateAt] at found
      split at found
      case h_1 =>
        obtain ⟨inner, made, same⟩ := Option.bind_eq_some_iff.mp found
        cases same
        exact held.append (.table (induction made IsHeld.nil))
      case h_2 => cases found
      case h_3 present =>
        obtain ⟨inner, made, same⟩ := Option.bind_eq_some_iff.mp found
        cases same
        cases held.lookup present with
        | tables last before => exact held.replace (.tables (induction made last) before)
      case h_4 present =>
        split at found
        · cases found
        · obtain ⟨inner, made, same⟩ := Option.bind_eq_some_iff.mp found
          cases same
          cases held.lookup present with
          | table inner => exact held.replace (.table (induction made inner))

theorem insertValue?_held {path : List String} {value : Value} {changed : Fields}
    (found : insertValue? path value fields = some changed) (held : fields.IsHeld)
    (small : value.IsHeld) : changed.IsHeld := by
  rw [insertValue?] at found
  split at found
  · cases found
  · refine updateAt_held ?_ found held
    intro isDotted before after added kept
    split at added
    · cases added
      exact kept.append (.value small)
    · cases added

theorem openTable?_held (found : openTable? key parent = some table) (held : parent.IsHeld) :
    table.IsHeld := by
  rw [openTable?] at found
  split at found
  case h_1 =>
    cases found
    exact IsHeld.nil
  case h_2 present =>
    cases found
    cases held.lookup present with
    | table inner => exact inner
  case h_3 => cases found

theorem closeTable?_held (found : closeTable? key table parent = some fields)
    (inner : table.IsHeld) (held : parent.IsHeld) : fields.IsHeld := by
  rw [closeTable?] at found
  split at found
  · cases found
    exact held.append (.table inner)
  · cases found
    exact held.replace (.table inner)
  · cases found

theorem appendTable?_held (found : appendTable? key table parent = some fields)
    (inner : table.IsHeld) (held : parent.IsHeld) : fields.IsHeld := by
  rw [appendTable?] at found
  split at found
  case h_1 =>
    cases found
    exact held.append (.tables inner fun fields member => nomatch member)
  case h_2 present =>
    cases found
    cases held.lookup present with
    | tables last before =>
        exact held.replace (.tables inner (List.forall_mem_cons.mpr ⟨last, before⟩))
  case h_3 => cases found

end Fields

section Tables

theorem fieldValues_eq_map (fields : Fields) :
    fieldValues fields = fields.map fun field => (field.1, field.2.toValue) := by
  induction fields with
  | nil => rfl
  | cons field fields induction => rw [fieldValues, induction, List.map_cons]

theorem tableValues_held {tables : List Fields} {after : List Value}
    (held : ∀ fields ∈ tables, (Value.table (fieldValues fields)).IsHeld)
    (others : ∀ value ∈ after, value.IsHeld) : ∀ value ∈ tableValues tables after, value.IsHeld := by
  induction tables generalizing after with
  | nil => exact others
  | cons fields tables induction =>
      obtain ⟨first, rest⟩ := List.forall_mem_cons.mp held
      exact induction rest (List.forall_mem_cons.mpr ⟨first, others⟩)

theorem fieldValues_held {fields : Fields} (held : ∀ field ∈ fields, field.2.toValue.IsHeld) :
    ∀ field ∈ fieldValues fields, field.2.IsHeld := by
  rw [fieldValues_eq_map]
  intro field member
  obtain ⟨source, present, rfl⟩ := List.mem_map.mp member
  exact held source present

theorem Item.toValue_held {item : Item} (held : item.IsHeld) : item.toValue.IsHeld := by
  induction held with
  | value held => exact held
  | table held induction => exact .table (fieldValues_held induction)
  | tables held before first others =>
      refine .array (tableValues_held ?_ ?_)
      · exact fun fields member => .table (fieldValues_held (others fields member))
      · exact List.forall_mem_singleton.mpr (.table (fieldValues_held first))

theorem Fields.IsHeld.values {fields : Fields} (held : fields.IsHeld) :
    ∀ field ∈ fieldValues fields, field.2.IsHeld :=
  fieldValues_held fun field member => Item.toValue_held (held field member)

end Tables

/-- A reader of values that keeps to the bound. -/
def KeepsBound (read : List Char → Option (Value × List Char)) : Prop :=
  ∀ input value rest, read input = some (value, rest) → value.IsHeld

section Containers

variable {read : List Char → Option (Value × List Char)}

theorem readItems?_held (bounded : KeepsBound read) {fuel : Nat} {done items : List Value}
    {input rest : List Char} (found : readItems? read fuel done input = some (items, rest))
    (held : ∀ item ∈ done, item.IsHeld) : ∀ item ∈ items, item.IsHeld := by
  induction fuel generalizing done input with
  | zero => cases found
  | succ fuel induction =>
      rw [readItems?] at found
      split at found
      case h_1 =>
        cases found
        exact fun item member => held item (List.mem_reverse.mp member)
      case h_2 =>
        obtain ⟨⟨value, afterValue⟩, one, more⟩ := Option.bind_eq_some_iff.mp found
        have extended : ∀ item ∈ value :: done, item.IsHeld :=
          List.forall_mem_cons.mpr ⟨bounded _ _ _ one, held⟩
        dsimp only at more
        split at more
        · cases more
          exact fun item member => extended item (List.mem_reverse.mp member)
        · exact induction more extended
        · cases more

theorem readPair?_held (bounded : KeepsBound read) {input rest : List Char} {path : List String}
    {value : Value} (found : readPair? read input = some ((path, value), rest)) : value.IsHeld := by
  obtain ⟨⟨keys, afterKey⟩, -, found⟩ := Option.bind_eq_some_iff.mp found
  obtain ⟨afterSign, -, found⟩ := Option.bind_eq_some_iff.mp found
  obtain ⟨⟨one, after⟩, readOne, same⟩ := Option.bind_eq_some_iff.mp found
  cases same
  exact bounded _ _ _ readOne

theorem readPairs?_held (bounded : KeepsBound read) {fuel : Nat} {fields changed : Fields}
    {input rest : List Char} (found : readPairs? read fuel fields input = some (changed, rest))
    (held : fields.IsHeld) : changed.IsHeld := by
  induction fuel generalizing fields input with
  | zero => cases found
  | succ fuel induction =>
      obtain ⟨⟨⟨path, value⟩, afterPair⟩, pair, found⟩ := Option.bind_eq_some_iff.mp found
      obtain ⟨extended, inserted, found⟩ := Option.bind_eq_some_iff.mp found
      have kept : extended.IsHeld :=
        Fields.insertValue?_held inserted held (readPair?_held bounded pair)
      split at found
      · cases found
        exact kept
      · exact induction found kept
      · cases found

/-- Only the values inside a container are read with one level less. -/
theorem readValue?_step {depth : Nat}
    (inner : ∀ less, depth = less + 1 → KeepsBound (readValue? less)) :
    KeepsBound (readValue? depth) := by
  intro input value rest found
  rw [readValue?.eq_def] at found
  split at found
  case h_1 => cases found
  case h_2 | h_3 =>
    obtain ⟨⟨text, after⟩, -, same⟩ := Option.map_eq_some_iff.mp found
    cases same
    exact .string text
  case h_4 =>
    split at found
    case h_1 => cases found
    case h_2 less =>
      obtain ⟨⟨items, after⟩, read, same⟩ := Option.map_eq_some_iff.mp found
      cases same
      exact .array (readItems?_held (inner less rfl) read fun item member => nomatch member)
  case h_5 =>
    split at found
    case h_1 => cases found
    case h_2 less =>
      split at found
      · cases found
        exact .table fun field member => nomatch member
      · obtain ⟨⟨fields, after⟩, read, same⟩ := Option.map_eq_some_iff.mp found
        cases same
        exact .table (readPairs?_held (inner less rfl) read Fields.IsHeld.nil).values
  case h_6 | h_7 =>
    obtain ⟨after, -, same⟩ := Option.map_eq_some_iff.mp found
    cases same
    exact .boolean _
  case h_8 => exact readNumber?_held found

theorem readValue?_held (depth : Nat) : KeepsBound (readValue? depth) := by
  induction depth with
  | zero => exact readValue?_step fun less same => nomatch same
  | succ depth induction =>
      apply readValue?_step
      intro less same
      cases same
      exact induction

end Containers

namespace Reading

variable {reading next : Reading}

/-- The tables of a reading hold no number that is too large. -/
structure IsHeld (reading : Reading) : Prop where
  root : reading.root.IsHeld
  current : reading.current.fields.IsHeld

theorem close?_held {root : Fields} (found : reading.close? = some root) (held : reading.IsHeld) :
    root.IsHeld := by
  rw [close?] at found
  split at found
  · cases found
    exact held.current
  · refine Fields.updateAt_held ?_ found held.root
    intro isDotted before after put kept
    split at put
    · exact Fields.appendTable?_held put held.current kept
    · exact Fields.closeTable?_held put held.current kept

theorem fieldsAt?_held {path : List String} {fields inner : Fields}
    (found : fieldsAt? path fields = some inner) (held : fields.IsHeld) : inner.IsHeld := by
  induction path generalizing fields with
  | nil =>
      cases found
      exact held
  | cons key path induction =>
      rw [fieldsAt?] at found
      split at found
      case h_1 =>
        cases found
        exact Fields.IsHeld.nil
      case h_2 => cases found
      case h_3 present =>
        cases held.lookup present with
        | tables last before => exact induction found last
      case h_4 present =>
        cases held.lookup present with
        | table inner => exact induction found inner

theorem header?_held {repeated : Bool} {path : List String}
    (found : reading.header? repeated path = some next) (held : reading.IsHeld) : next.IsHeld := by
  obtain ⟨root, closed, found⟩ := Option.bind_eq_some_iff.mp found
  obtain ⟨key, -, found⟩ := Option.bind_eq_some_iff.mp found
  obtain ⟨parent, above, found⟩ := Option.bind_eq_some_iff.mp found
  have kept : root.IsHeld := close?_held closed held
  dsimp only at found
  split at found
  case isTrue =>
    split at found
    · cases found
      exact ⟨kept, Fields.IsHeld.nil⟩
    · cases found
      exact ⟨kept, Fields.IsHeld.nil⟩
    · cases found
  case isFalse =>
    obtain ⟨fields, opened, same⟩ := Option.bind_eq_some_iff.mp found
    cases same
    exact ⟨kept, Fields.openTable?_held opened (fieldsAt?_held above kept)⟩

theorem pair?_held {path : List String} {value : Value}
    (found : reading.pair? path value = some next) (held : reading.IsHeld) (small : value.IsHeld) :
    next.IsHeld := by
  obtain ⟨fields, inserted, same⟩ := Option.bind_eq_some_iff.mp found
  cases same
  exact ⟨held.root, Fields.insertValue?_held inserted held.current small⟩

theorem readHeader?_held {repeated : Bool} {input rest : List Char}
    (found : reading.readHeader? repeated input = some (next, rest)) (held : reading.IsHeld) :
    next.IsHeld := by
  obtain ⟨⟨path, afterKey⟩, -, found⟩ := Option.bind_eq_some_iff.mp found
  obtain ⟨afterClose, -, found⟩ := Option.bind_eq_some_iff.mp found
  have opens : ∀ {afterBrackets : List Char}, (do
      let rest ← endLine? afterBrackets
      let opened ← reading.header? repeated path
      return (opened, rest)) = some (next, rest) → next.IsHeld := by
    intro afterBrackets found
    obtain ⟨after, -, found⟩ := Option.bind_eq_some_iff.mp found
    obtain ⟨started, opened, same⟩ := Option.bind_eq_some_iff.mp found
    cases same
    exact header?_held opened held
  dsimp only at found
  split at found
  · obtain ⟨afterSecond, -, found⟩ := Option.bind_eq_some_iff.mp found
    exact opens found
  · exact opens found

theorem readLine?_held {input rest : List Char}
    (found : reading.readLine? input = some (next, rest)) (held : reading.IsHeld) :
    next.IsHeld := by
  rw [readLine?] at found
  split at found
  case h_1 | h_2 => exact readHeader?_held found held
  case h_3 =>
    split at found
    · obtain ⟨after, -, same⟩ := Option.map_eq_some_iff.mp found
      cases same
      exact held
    · obtain ⟨⟨⟨path, value⟩, afterPair⟩, pair, found⟩ := Option.bind_eq_some_iff.mp found
      obtain ⟨after, -, found⟩ := Option.bind_eq_some_iff.mp found
      obtain ⟨extended, inserted, same⟩ := Option.bind_eq_some_iff.mp found
      cases same
      exact pair?_held inserted held (readPair?_held (readValue?_held depthLimit) pair)
  case h_4 =>
    cases found
    exact held

theorem readLines?_held {fuel : Nat} {input : List Char}
    (found : readLines? fuel input reading = some next) (held : reading.IsHeld) : next.IsHeld := by
  induction fuel generalizing input reading with
  | zero =>
      cases found
      exact held
  | succ fuel induction =>
      rw [readLines?] at found
      split at found
      · cases found
        exact held
      · obtain ⟨⟨after, rest⟩, line, found⟩ := Option.bind_eq_some_iff.mp found
        exact induction found (readLine?_held line held)

end Reading

theorem read?_held {text : String} {fields : List (String × Value)}
    (found : read? text = some fields) : ∀ field ∈ fields, field.2.IsHeld := by
  obtain ⟨reading, lines, found⟩ := Option.bind_eq_some_iff.mp found
  obtain ⟨root, closed, same⟩ := Option.bind_eq_some_iff.mp found
  cases same
  have start : Reading.start.IsHeld := ⟨Fields.IsHeld.nil, Fields.IsHeld.nil⟩
  exact (Reading.close?_held closed (Reading.readLines?_held lines start)).values

end SealedContent.Toml
