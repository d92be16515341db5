import SealedContent.Proofs.Text.Split
import SealedContent.Proofs.Toml.WrittenLine

/-!
A written document reads back. Its lines are read one after another: a field joins the section under the
last header, and a header puts the section before it into the document.
-/

namespace SealedContent.Toml

open Lexeme

/-- With fuel for all of the input, it is read to its end. -/
def Reads (input : List Char) (reading final : Reading) : Prop :=
  ∀ fuel, input.length < fuel → Reading.readLines? fuel input reading = some final

theorem Reads.nil (reading : Reading) : Reads [] reading reading := by
  intro fuel enough
  cases fuel with
  | zero => rfl
  | succ fuel => rfl

theorem Reads.step {input rest : List Char} {reading next final : Reading}
    (line : reading.readLine? input = some (next, rest)) (shorter : rest.length < input.length)
    (later : Reads rest next final) : Reads input reading final := by
  intro fuel enough
  cases fuel with
  | zero => cases enough
  | succ fuel =>
      have present : input.isEmpty = false := by
        cases input with
        | nil => cases shorter
        | cons char more => rfl
      rw [Reading.readLines?, present, line]
      exact later fuel (by omega)

theorem lookup_fresh {fields : Fields} {name : String} {others : List String}
    (distinct : (fields.map Prod.fst ++ name :: others).Nodup) : fields.lookup name = none := by
  rw [List.lookup_eq_none_iff]
  intro field member
  rw [bne_iff_ne]
  exact ((List.nodup_append.mp distinct).2.2 field.1 (List.mem_map_of_mem member) name
    List.mem_cons_self).symm

/-- A key that is not yet in the table is put at its end. -/
theorem Fields.insertValue?_fresh {key : String} {fields : Fields}
    (fresh : fields.lookup key = none) (value : Value) :
    Fields.insertValue? [key] value fields = some (fields ++ [(key, .value value)]) := by
  simp only [Fields.insertValue?, List.getLast?_singleton, List.dropLast_singleton,
    Fields.updateAt, List.isEmpty_nil, or_true, fresh, Option.isNone_none, and_self, if_true]

theorem Reading.header?_fresh {reading : Reading} {root : Fields} {name : String}
    (closed : reading.close? = some root) (fresh : root.lookup name = none) :
    reading.header? false [name] = some ⟨root, ⟨[name], false, []⟩⟩ := by
  simp only [Reading.header?, closed, List.getLast?_singleton, List.dropLast_singleton,
    Reading.fieldsAt?, Fields.openTable?, fresh, Option.bind_eq_bind, Option.bind_some,
    Bool.false_eq_true, if_false]
  rfl

theorem Reading.close?_fresh {root : Fields} {name : String}
    (fresh : root.lookup name = none) (fields : Fields) :
    (Reading.mk root ⟨[name], false, fields⟩).close? =
      some (root ++ [(name, .table .header fields)]) := by
  simp only [Reading.close?, List.getLast?_singleton, List.dropLast_singleton, Fields.updateAt,
    Fields.closeTable?, fresh, Bool.false_eq_true, if_false]

def storedFields (fields : List (String × Scalar)) : Fields :=
  fields.map fun field => (field.1, .value field.2.value)

section Runs

variable {fields : List (String × Scalar)} {rest : List Char} {final : Reading}

theorem reads_fields (bare : ∀ field ∈ fields, IsBareName field.1)
    (held : ∀ field ∈ fields, field.2.value.IsHeld) {root stored : Fields} {path : List String}
    (distinct : (stored.map Prod.fst ++ fields.map Prod.fst).Nodup)
    (later : Reads rest ⟨root, ⟨path, false, stored ++ storedFields fields⟩⟩ final) :
    Reads (fields.flatMap writeField ++ rest) ⟨root, ⟨path, false, stored⟩⟩ final := by
  induction fields generalizing stored with
  | nil =>
      rw [storedFields, List.map_nil, List.append_nil] at later
      exact later
  | cons field fields induction =>
      rw [List.forall_mem_cons] at bare held
      have line := readLine?_field bare.1 held.1 ⟨root, ⟨path, false, stored⟩⟩
        (fields.flatMap writeField ++ rest)
      rw [Reading.pair?, Fields.insertValue?_fresh (lookup_fresh distinct)] at line
      rw [List.flatMap_cons, List.append_assoc]
      refine Reads.step line ?_ (induction bare.2 held.2 ?_ ?_)
      · have length : 0 < (writeField field).length := by
          simp [writeField]
        rw [@List.length_append _ (writeField field)]
        omega
      · rw [List.map_append, List.append_assoc]
        exact distinct
      · rw [List.append_assoc]
        exact later

/-- A section that is written so that it reads back: its names need no quotes, and no key stands
twice. -/
structure WrittenSection.IsSound (part : WrittenSection) : Prop where
  name : IsBareName part.name
  keys : ∀ field ∈ part.fields, IsBareName field.1
  held : ∀ field ∈ part.fields, field.2.value.IsHeld
  distinct : (part.fields.map Prod.fst).Nodup

/-- The names of a section are among names that need no quotes and that differ. -/
theorem WrittenSection.IsSound.of_names {part : WrittenSection} {names : List String}
    (listed : (part.fields.map Prod.fst).Sublist names)
    (bare : ∀ name ∈ part.name :: names, IsBareName name) (distinct : names.Nodup)
    (held : ∀ field ∈ part.fields, field.2.value.IsHeld) : part.IsSound where
  name := bare part.name List.mem_cons_self
  keys field member :=
    bare field.1 (List.mem_cons_of_mem _ (listed.subset (List.mem_map_of_mem member)))
  held := held
  distinct := distinct.sublist listed

theorem WrittenSection.write_eq (part : WrittenSection) :
    part.write = '[' :: (part.name.toList ++ (']' :: '\n' :: part.fields.flatMap writeField)) := by
  rw [write, List.cons_append]
  refine congrArg (fun fields => '[' :: (part.name.toList ++ (']' :: '\n' :: fields))) ?_
  apply List.flatMap_congr
  rintro ⟨key, value⟩ -
  simp only [List.append_assoc]
  rfl

/-- The field that a section becomes in the table of its document. -/
def WrittenSection.stored (part : WrittenSection) : String × Item :=
  (part.name, .table .header (storedFields part.fields))

/-- A section is opened by its header, and its lines are read into it. -/
theorem reads_section {part : WrittenSection} (sound : part.IsSound) {reading : Reading}
    {root : Fields} (closed : reading.close? = some root)
    (fresh : root.lookup part.name = none)
    (later : Reads rest ⟨root, ⟨[part.name], false, storedFields part.fields⟩⟩ final) :
    Reads (part.write ++ rest) reading final := by
  have line := readLine?_header sound.name reading (part.fields.flatMap writeField ++ rest)
  rw [Reading.header?_fresh closed fresh] at line
  have fields : Reads (part.fields.flatMap writeField ++ rest) ⟨root, ⟨[part.name], false, []⟩⟩
      final := reads_fields sound.keys sound.held sound.distinct later
  rw [WrittenSection.write_eq, List.cons_append, List.append_assoc, List.cons_append,
    List.cons_append]
  refine Reads.step line ?_ fields
  simp only [List.length_cons, List.length_append]
  omega

def writeSections (parts : List WrittenSection) : List Char :=
  ((parts.map WrittenSection.write).intersperse ['\n']).flatten

theorem toList_writeDocument (parts : List WrittenSection) :
    (writeDocument parts).toList = writeSections parts := by
  rw [writeDocument, String.toList_ofList, writeSections]

/-- No byte order mark is written. -/
theorem writeSections_unmarked (parts : List WrittenSection) :
    (writeSections parts).head? ≠ some '\uFEFF' := by
  cases parts with
  | nil => exact fun same => nomatch same
  | cons part parts =>
      cases parts with
      | nil => simp [writeSections, WrittenSection.write_eq]
      | cons next more => simp [writeSections, WrittenSection.write_eq]

theorem reads_sections {parts : List WrittenSection} (sound : ∀ part ∈ parts, part.IsSound)
    {reading : Reading} {root : Fields} (closed : reading.close? = some root)
    (distinct : (root.map Prod.fst ++ parts.map WrittenSection.name).Nodup) :
    ∃ final, Reads (writeSections parts) reading final ∧
      final.close? = some (root ++ parts.map WrittenSection.stored) := by
  induction parts generalizing reading root with
  | nil => exact ⟨reading, Reads.nil reading, by rw [closed, List.map_nil, List.append_nil]⟩
  | cons part parts induction =>
      rw [List.forall_mem_cons] at sound
      have fresh : root.lookup part.name = none := lookup_fresh distinct
      have together := Reading.close?_fresh fresh (storedFields part.fields)
      have others : ((root ++ [part.stored]).map Prod.fst ++
          parts.map WrittenSection.name).Nodup := by
        rw [List.map_append, List.append_assoc]
        exact distinct
      obtain ⟨final, reads, ended⟩ := induction sound.2 together others
      refine ⟨final, ?_, by rw [ended, List.append_assoc]; rfl⟩
      cases parts with
      | nil =>
          have alone : writeSections [part] = part.write ++ writeSections [] := by
            simp [writeSections]
          rw [alone]
          exact reads_section sound.1 closed fresh reads
      | cons next more =>
          have followed : writeSections (part :: next :: more) =
              part.write ++ '\n' :: writeSections (next :: more) := by
            simp [writeSections]
          rw [followed]
          apply reads_section sound.1 closed fresh
          exact Reads.step (readLine?_empty _ _) (Nat.lt_succ_self _) reads

end Runs

section Refusals

/-- A writer that can refuse: it has no form for a number that is too large. -/
def Scalar.write? (scalar : Scalar) : Option (List Char) :=
  match scalar with
  | .natural value => if value < integerBound then some scalar.write else none
  | _ => some scalar.write

def writeField? (field : String × Scalar) : Option (List Char) := do
  let value ← field.2.write?
  return field.1.toList ++ ([' ', '=', ' '] ++ (value ++ ['\n']))

def WrittenSection.write? (part : WrittenSection) : Option (List Char) := do
  let lines ← part.fields.mapM writeField?
  return '[' :: (part.name.toList ++ (']' :: '\n' :: lines.flatten))

def writeDocument? (parts : List WrittenSection) : Option String := do
  let texts ← parts.mapM WrittenSection.write?
  return String.ofList (texts.intersperse ['\n']).flatten

theorem Scalar.write?_eq {scalar : Scalar} (held : scalar.value.IsHeld) :
    scalar.write? = some scalar.write := by
  cases scalar with
  | natural value =>
      cases held with
      | integer small => exact if_pos (Int.ofNat_lt.mp small)
  | string text => rfl
  | boolean value => rfl

theorem WrittenSection.write?_eq {part : WrittenSection}
    (held : ∀ field ∈ part.fields, field.2.value.IsHeld) : part.write? = some part.write := by
  have lines : part.fields.mapM writeField? = some (part.fields.map writeField) := by
    apply Text.mapM_eq_map
    intro field member
    rw [writeField?, Scalar.write?_eq (held field member)]
    rfl
  rw [WrittenSection.write?, lines, write_eq]
  rfl

/-- Nothing is refused where every number is below the bound. -/
theorem writeDocument?_eq {parts : List WrittenSection}
    (held : ∀ part ∈ parts, ∀ field ∈ part.fields, field.2.value.IsHeld) :
    writeDocument? parts = some (writeDocument parts) := by
  have texts : parts.mapM WrittenSection.write? = some (parts.map WrittenSection.write) :=
    Text.mapM_eq_map fun part member => WrittenSection.write?_eq (held part member)
  rw [writeDocument?, texts]
  rfl

end Refusals

def WrittenSection.value (part : WrittenSection) : Value :=
  .table (part.fields.map fun field => (field.1, field.2.value))

theorem WrittenSection.fieldValues_stored (parts : List WrittenSection) :
    fieldValues (parts.map stored) = parts.map fun part => (part.name, part.value) := by
  rw [fieldValues_eq_map, List.map_map]
  apply List.map_congr_left
  intro part member
  have fields : fieldValues (storedFields part.fields) =
      part.fields.map fun field => (field.1, field.2.value) := by
    rw [storedFields, fieldValues_eq_map, List.map_map]
    rfl
  rw [value, ← fields]
  rfl

theorem read?_of_reads {text : String} (marked : text.toList.head? ≠ some '\uFEFF')
    {final : Reading} (reads : Reads text.toList Reading.start final) {root : Fields}
    (closed : final.close? = some root) : read? text = some (fieldValues root) := by
  have lines := reads (text.toList.length + 1) (Nat.lt_succ_self _)
  simp only [read?, if_neg marked, lines, Option.bind_eq_bind, Option.bind_some, closed]
  rfl

section Document

variable {parts : List WrittenSection}

/-- Sections under names that differ are read back as they were written. -/
theorem read?_writeDocument (sound : ∀ part ∈ parts, part.IsSound)
    (distinct : (parts.map WrittenSection.name).Nodup) :
    read? (writeDocument parts) = some (parts.map fun part => (part.name, part.value)) := by
  obtain ⟨final, reads, closed⟩ := @reads_sections parts sound Reading.start [] rfl distinct
  rw [← WrittenSection.fieldValues_stored]
  apply read?_of_reads ?_ (by rw [toList_writeDocument]; exact reads) closed
  rw [toList_writeDocument]
  exact writeSections_unmarked parts

/-- So they are under a line of comment. -/
theorem read?_commented (sound : ∀ part ∈ parts, part.IsSound)
    (distinct : (parts.map WrittenSection.name).Nodup) {comment : List Char}
    (plain : ∀ char ∈ comment, isPlain char = true) :
    read? (String.ofList ('#' :: (comment ++ '\n' :: (writeDocument parts).toList))) =
      some (parts.map fun part => (part.name, part.value)) := by
  obtain ⟨final, reads, closed⟩ := @reads_sections parts sound Reading.start [] rfl distinct
  rw [← WrittenSection.fieldValues_stored]
  apply read?_of_reads ?_ ?_ closed
  · rw [String.toList_ofList, List.head?_cons]
    decide
  · rw [String.toList_ofList, toList_writeDocument]
    apply Reads.step (readLine?_comment plain _ _) ?_ reads
    simp only [List.length_cons, List.length_append]
    omega

end Document

end SealedContent.Toml
