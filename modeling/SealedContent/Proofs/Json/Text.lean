import SealedContent.Proofs.Json.Literal

/-!
The compact text of a value without doubles reads back, in front of anything that may follow a value.
So no two such values have one text: every quote, comma and bracket is where the value put it.
-/

namespace SealedContent.Json

namespace Value

/-- Values in which no number is a double. -/
inductive IsExact : Value → Prop
  | null : IsExact .null
  | bool (value : Bool) : IsExact (.bool value)
  | integer (value : Int) : IsExact (.integer value)
  | string (text : String) : IsExact (.string text)
  | array {items : List Value} (each : ∀ item ∈ items, IsExact item) : IsExact (.array items)
  | object {fields : List (String × Value)} (each : ∀ field ∈ fields, IsExact field.2) :
      IsExact (.object fields)

mutual

/-- What a reader makes of the compact text of a value. -/
def spelled : Value → Written
  | .null => .null
  | .bool value => .bool value
  | .integer value => .number (.ofInt value)
  | .double value => ((Written.readValue? 1 value.render.toList).map Prod.fst).getD .null
  | .string text => .string (some text)
  | .array items => .array (spelledItems items)
  | .object fields => .object (spelledFields fields)

def spelledItems : List Value → List Written
  | [] => []
  | item :: rest => spelled item :: spelledItems rest

def spelledFields : List (String × Value) → List (Option String × Written)
  | [] => []
  | (key, value) :: rest => (some key, spelled value) :: spelledFields rest

end

theorem writeString_append (text : String) (rest : List Char) :
    writeString text ++ rest = '"' :: (text.toList.flatMap escape ++ '"' :: rest) := by
  rw [writeString, List.cons_append, List.cons_append, List.append_assoc, List.singleton_append]

theorem writeItems_cons (item next : Value) (rest : List Value) :
    writeItems (item :: next :: rest) = write item ++ ',' :: writeItems (next :: rest) := rfl

theorem writeFields_cons (key : String) (value : Value) (next : String × Value)
    (rest : List (String × Value)) : writeFields ((key, value) :: next :: rest) =
      writeString key ++ ':' :: write value ++ ',' :: writeFields (next :: rest) := rfl

/-- The text of a value starts with a character that is neither space nor a closing bracket. -/
theorem exists_lead {value : Value} (exact : IsExact value) :
    ∃ char more, value.write = char :: more ∧ Written.isSpace char = false ∧ char ≠ ']' := by
  cases exact with
  | null => exact ⟨'n', "ull".toList, rfl, rfl, by decide⟩
  | bool value =>
      cases value with
      | false => exact ⟨'f', "alse".toList, rfl, rfl, by decide⟩
      | true => exact ⟨'t', "rue".toList, rfl, rfl, by decide⟩
  | integer value =>
      obtain ⟨char, more, text, lead⟩ := Written.exists_integer_lead value
      obtain ⟨notSpace, -, -, notClosing, -⟩ := Written.lead_cases lead
      exact ⟨char, more, text, notSpace, notClosing⟩
  | string text => exact ⟨'"', _, rfl, rfl, by decide⟩
  | array each => exact ⟨'[', _, rfl, rfl, by decide⟩
  | object each => exact ⟨'\x7b', _, rfl, rfl, by decide⟩

theorem exists_items_lead {item : Value} (exact : IsExact item) (rest : List Value) :
    ∃ char more, writeItems (item :: rest) = char :: more ∧ Written.isSpace char = false ∧
      char ≠ ']' := by
  obtain ⟨char, more, text, notSpace, notClosing⟩ := exists_lead exact
  cases rest with
  | nil => exact ⟨char, more, text, notSpace, notClosing⟩
  | cons next rest =>
      refine ⟨char, more ++ ',' :: writeItems (next :: rest), ?_, notSpace, notClosing⟩
      rw [writeItems_cons, text, List.cons_append]

end Value

namespace Written

open Value

theorem skipSpace_write {value : Value} (exact : IsExact value) (after : List Char) :
    skipSpace (value.write ++ after) = value.write ++ after := by
  obtain ⟨char, more, text, notSpace, -⟩ := exists_lead exact
  rw [text]
  exact skipSpace_cons notSpace _

theorem skipSpace_writeItems {item : Value} (exact : IsExact item) (items : List Value)
    (after : List Char) : skipSpace (writeItems (item :: items) ++ after) =
      writeItems (item :: items) ++ after := by
  obtain ⟨char, more, text, notSpace, -⟩ := exists_items_lead exact items
  rw [text]
  exact skipSpace_cons notSpace _

theorem skipSpace_writeFields (field : String × Value) (fields : List (String × Value))
    (after : List Char) : skipSpace (writeFields (field :: fields) ++ after) =
      writeFields (field :: fields) ++ after := by
  cases fields <;> exact skipSpace_cons (by decide) _

theorem readItems?_last {fuel : Nat} {input after : List Char} {item : Written}
    (read : readValue? fuel input = some (item, ']' :: after)) (done : List Written) :
    readItems? (fuel + 1) done input = some (.array (item :: done).reverse, after) := by
  rw [readItems?, read]
  simp only [skipSpace_cons (show isSpace ']' = false from rfl)]

theorem readItems?_next {fuel : Nat} {input after : List Char} {item : Written}
    (read : readValue? fuel input = some (item, ',' :: after)) (done : List Written) :
    readItems? (fuel + 1) done input = readItems? fuel (item :: done) (skipSpace after) := by
  rw [readItems?, read]
  simp only [skipSpace_cons (show isSpace ',' = false from rfl)]

theorem readFields?_writeString_last {fuel : Nat} {input after : List Char} {value : Written}
    (read : readValue? fuel (skipSpace input) = some (value, '\x7d' :: after)) (key : String)
    (done : List (Option String × Written)) :
    readFields? (fuel + 1) done (writeString key ++ ':' :: input) =
      some (.object ((some key, value) :: done).reverse, after) := by
  rw [writeString_append]
  exact readFields?_last (readString?_text key _) (skipSpace_cons rfl _) read (skipSpace_cons rfl _)
    done

theorem readFields?_writeString_next {fuel : Nat} {input after : List Char} {value : Written}
    (read : readValue? fuel (skipSpace input) = some (value, ',' :: after)) (key : String)
    (done : List (Option String × Written)) :
    readFields? (fuel + 1) done (writeString key ++ ':' :: input) =
      readFields? fuel ((some key, value) :: done) (skipSpace after) := by
  rw [writeString_append]
  exact readFields?_next (readString?_text key _) (skipSpace_cons rfl _) read (skipSpace_cons rfl _)
    done

/-- The text of a value reads back where as many steps are allowed as it has characters. -/
def ReadsBack (value : Value) : Prop :=
  ∀ fuel rest, value.write.length ≤ fuel → Separated rest →
    readValue? fuel (value.write ++ rest) = some (value.spelled, rest)

theorem ReadsBack.of_step {value : Value} (exact : IsExact value)
    (step : ∀ fuel rest, value.write.length ≤ fuel + 1 → Separated rest →
      readValue? (fuel + 1) (value.write ++ rest) = some (value.spelled, rest)) :
    ReadsBack value := by
  intro fuel rest enough separated
  obtain ⟨char, more, text, -⟩ := exists_lead exact
  cases fuel with
  | zero => simp [text] at enough
  | succ fuel => exact step fuel rest enough separated

theorem readItems?_writeItems {items : List Value} (exact : ∀ item ∈ items, IsExact item)
    (each : ∀ item ∈ items, ReadsBack item) (present : items ≠ []) (done : List Written)
    {fuel : Nat} (enough : (writeItems items).length < fuel) (rest : List Char) :
    readItems? fuel done (writeItems items ++ ']' :: rest) =
      some (.array (done.reverse ++ spelledItems items), rest) := by
  induction items generalizing fuel done with
  | nil => cases present rfl
  | cons item items induction =>
      obtain ⟨fuel, rfl⟩ : ∃ fewer, fuel = fewer + 1 := ⟨fuel - 1, by omega⟩
      have first := each item List.mem_cons_self
      cases items with
      | nil =>
          have read := first fuel (']' :: rest) (by simpa [writeItems, Nat.lt_succ_iff] using enough)
            (separated_cons (by decide) rest)
          rw [writeItems, readItems?_last read, List.reverse_cons]
          rfl
      | cons next items =>
          rw [writeItems_cons, List.length_append, List.length_cons] at enough
          have read := first fuel (',' :: (writeItems (next :: items) ++ ']' :: rest)) (by omega)
            (separated_cons (by decide) _)
          have left : (writeItems (next :: items)).length < fuel := by omega
          have later := induction (fun other member => exact other (List.mem_cons_of_mem _ member))
            (fun other member => each other (List.mem_cons_of_mem _ member))
            (List.cons_ne_nil _ _) (item.spelled :: done) left
          rw [writeItems_cons, List.append_assoc, List.cons_append, readItems?_next read,
            skipSpace_writeItems (exact next (by simp)), later, List.reverse_cons,
            List.append_assoc]
          rfl

theorem readFields?_writeFields {fields : List (String × Value)}
    (exact : ∀ field ∈ fields, IsExact field.2) (each : ∀ field ∈ fields, ReadsBack field.2)
    (present : fields ≠ []) (done : List (Option String × Written)) {fuel : Nat}
    (enough : (writeFields fields).length < fuel) (rest : List Char) :
    readFields? fuel done (writeFields fields ++ '\x7d' :: rest) =
      some (.object (done.reverse ++ spelledFields fields), rest) := by
  induction fields generalizing fuel done with
  | nil => cases present rfl
  | cons field fields induction =>
      obtain ⟨key, value⟩ := field
      obtain ⟨fuel, rfl⟩ : ∃ fewer, fuel = fewer + 1 := ⟨fuel - 1, by omega⟩
      have first : ReadsBack value := each (key, value) List.mem_cons_self
      have unspaced := skipSpace_write (exact (key, value) List.mem_cons_self)
      cases fields with
      | nil =>
          simp only [writeFields, List.length_append, List.length_cons] at enough
          have read := first fuel ('\x7d' :: rest) (by omega) (separated_cons (by decide) rest)
          rw [← unspaced] at read
          rw [writeFields, List.append_assoc, List.cons_append,
            readFields?_writeString_last read,
            List.reverse_cons]
          rfl
      | cons next fields =>
          rw [writeFields_cons] at enough
          simp only [List.length_append, List.length_cons] at enough
          have read := first fuel (',' :: (writeFields (next :: fields) ++ '\x7d' :: rest))
            (by omega) (separated_cons (by decide) _)
          rw [← unspaced] at read
          have left : (writeFields (next :: fields)).length < fuel := by omega
          have later := induction (fun other member => exact other (List.mem_cons_of_mem _ member))
            (fun other member => each other (List.mem_cons_of_mem _ member))
            (List.cons_ne_nil _ _) ((some key, value.spelled) :: done) left
          rw [writeFields_cons, List.append_assoc, List.append_assoc, List.cons_append,
            List.cons_append, readFields?_writeString_next read, skipSpace_writeFields, later,
            List.reverse_cons, List.append_assoc]
          rfl

theorem readValue?_number {char : Char} (lead : char = '-' ∨ char.isDigit = true) (fuel : Nat)
    (more : List Char) : readValue? (fuel + 1) (char :: more) =
      (readNumber? (char :: more)).map fun (literal, after) => (.number literal, after) := by
  obtain ⟨-, notQuote, notBracket, -, notBrace, notN, notT, notF⟩ := lead_cases lead
  rw [readValue?.eq_def]
  split
  · contradiction
  · rename_i fewer input same
    cases same
    split <;> simp_all

theorem readValue?_items {item : Value} (exact : IsExact item) (items : List Value) (fuel : Nat)
    (rest : List Char) : readValue? (fuel + 1) ('[' :: (writeItems (item :: items) ++ rest)) =
      readItems? fuel [] (writeItems (item :: items) ++ rest) := by
  have unspaced := skipSpace_writeItems exact items rest
  obtain ⟨char, more, text, -, notClosing⟩ := exists_items_lead exact items
  rw [text, List.cons_append] at unspaced ⊢
  rw [readValue?]
  simp only [unspaced]
  split
  · rename_i same
    cases notClosing (List.cons.inj same).1
  · rfl

theorem readValue?_fields (field : String × Value) (fields : List (String × Value)) (fuel : Nat)
    (rest : List Char) :
    readValue? (fuel + 1) ('\x7b' :: (writeFields (field :: fields) ++ rest)) =
      readFields? fuel [] (writeFields (field :: fields) ++ rest) := by
  rw [readValue?]
  simp only [skipSpace_writeFields]
  cases fields <;> rfl

theorem readsBack {value : Value} (exact : IsExact value) : ReadsBack value := by
  induction exact with
  | null => exact .of_step .null fun _ _ _ _ => rfl
  | bool value => cases value <;> exact .of_step (.bool _) fun _ _ _ _ => rfl
  | integer value =>
      refine .of_step (.integer value) fun fuel rest enough separated => ?_
      obtain ⟨char, more, text, lead⟩ := exists_integer_lead value
      have read := readNumber?_toString value separated
      rw [text, List.cons_append] at read
      rw [write, text, List.cons_append, readValue?_number lead, read]
      rfl
  | string text =>
      refine .of_step (.string text) fun fuel rest enough separated => ?_
      rw [write, writeString_append, readValue?, readString?_text]
      rfl
  | @array items each induction =>
      refine .of_step (.array each) fun fuel rest enough separated => ?_
      cases items with
      | nil => rfl
      | cons item items =>
          simp only [write, List.length_append, List.length_cons, List.length_nil] at enough
          rw [write, List.cons_append, List.cons_append, List.append_assoc, List.singleton_append,
            readValue?_items (each item List.mem_cons_self),
            readItems?_writeItems each induction (List.cons_ne_nil _ _) [] (by omega)]
          rfl
  | @object fields each induction =>
      refine .of_step (.object each) fun fuel rest enough separated => ?_
      cases fields with
      | nil => rfl
      | cons field fields =>
          simp only [write, List.length_append, List.length_cons, List.length_nil] at enough
          rw [write, List.cons_append, List.cons_append, List.append_assoc, List.singleton_append,
            readValue?_fields,
            readFields?_writeFields each induction (List.cons_ne_nil _ _) [] (by omega)]
          rfl

/-- What is read from the whole text of a value. -/
theorem read?_render {value : Value} (exact : IsExact value) :
    read? value.render = some value.spelled := by
  have unspaced := skipSpace_write exact []
  have read := readsBack exact (2 * value.write.length + 2) [] (by omega) separated_nil
  rw [List.append_nil] at unspaced read
  rw [read?, render, String.toList_ofList, unspaced]
  simp only [read]
  rfl

end Written

namespace Value

theorem spelledItems_injective {items others : List Value}
    (each : ∀ item ∈ items, ∀ other, IsExact other → item.spelled = other.spelled → item = other)
    (exact : ∀ other ∈ others, IsExact other) (same : spelledItems items = spelledItems others) :
    items = others := by
  induction items generalizing others with
  | nil =>
      cases others with
      | nil => rfl
      | cons other others => cases same
  | cons item items induction =>
      cases others with
      | nil => cases same
      | cons other others =>
          obtain ⟨first, later⟩ := List.cons.inj same
          rw [each item List.mem_cons_self other (exact other List.mem_cons_self) first,
            induction (fun _ member => each _ (List.mem_cons_of_mem _ member))
              (fun _ member => exact _ (List.mem_cons_of_mem _ member)) later]

theorem spelledFields_injective {fields others : List (String × Value)}
    (each : ∀ field ∈ fields, ∀ other, IsExact other → field.2.spelled = other.spelled →
      field.2 = other)
    (exact : ∀ other ∈ others, IsExact other.2)
    (same : spelledFields fields = spelledFields others) : fields = others := by
  induction fields generalizing others with
  | nil =>
      cases others with
      | nil => rfl
      | cons other others => cases same
  | cons field fields induction =>
      cases others with
      | nil => cases same
      | cons other others =>
          obtain ⟨first, later⟩ := List.cons.inj same
          obtain ⟨keys, values⟩ := Prod.mk.inj first
          rw [induction (fun _ member => each _ (List.mem_cons_of_mem _ member))
            (fun _ member => exact _ (List.mem_cons_of_mem _ member)) later,
            Prod.ext (Option.some.inj keys) (each field List.mem_cons_self other.2
              (exact other List.mem_cons_self) values)]

/-- Values that are spelled alike are the same value. -/
theorem spelled_injective {left right : Value} (leftExact : IsExact left)
    (rightExact : IsExact right) (same : left.spelled = right.spelled) : left = right := by
  induction leftExact generalizing right with
  | null => cases rightExact <;> first | rfl | cases same
  | bool value =>
      cases rightExact with
      | bool other => cases same; rfl
      | _ => cases same
  | integer value =>
      cases rightExact with
      | integer other =>
          simp only [spelled, Written.number.injEq] at same
          rw [NumberLiteral.ofInt_injective same]
      | _ => cases same
  | string text =>
      cases rightExact with
      | string other => cases same; rfl
      | _ => cases same
  | array each induction =>
      cases rightExact with
      | array others =>
          simp only [spelled, Written.array.injEq] at same
          rw [spelledItems_injective (fun item member other exact => induction item member exact)
            others same]
      | _ => cases same
  | object each induction =>
      cases rightExact with
      | object others =>
          simp only [spelled, Written.object.injEq] at same
          rw [spelledFields_injective (fun field member other exact => induction field member exact)
            others same]
      | _ => cases same

/-- Two values have one text only if they are the same value. -/
theorem render_injective {left right : Value} (leftExact : IsExact left)
    (rightExact : IsExact right) (same : left.render = right.render) : left = right := by
  apply spelled_injective leftExact rightExact
  have read := Written.read?_render leftExact
  rw [same, Written.read?_render rightExact] at read
  exact (Option.some.inj read).symm

end Value

end SealedContent.Json
