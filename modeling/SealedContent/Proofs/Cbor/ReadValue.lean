import SealedContent.Proofs.Cbor.Canonical

/-!
Whatever bytes a reader is given, what it reads is a value of its shape: the fields of a record come out
under their names and in their order, the items of a list are all of one shape, and numbers fit in eight
bytes.
-/

namespace SealedContent.Cbor

theorem readArgument?_lt {code argument : Nat} {input rest : Bytes}
    (read : readArgument? code input = some (argument, rest)) : argument < UInt64.size := by
  have wide : ∀ size ≤ 8, (if (input.take size).length = size then
      some (Bytes.bigEndian (input.take size), input.drop size) else none) = some (argument, rest) →
        argument < UInt64.size := by
    intro size narrow found
    split at found
    · rename_i whole
      cases found
      calc
        Bytes.bigEndian (input.take size) < 256 ^ (input.take size).length := Bytes.bigEndian_lt _
        _ ≤ 256 ^ 8 := Nat.pow_le_pow_right (by decide) (by omega)
        _ = UInt64.size := by decide
    · cases found
  have small : 24 < UInt64.size := by decide
  simp only [readArgument?] at read
  split at read
  · cases read
    omega
  split at read
  · exact wide 1 (by decide) read
  split at read
  · exact wide 2 (by decide) read
  split at read
  · exact wide 4 (by decide) read
  split at read
  · exact wide 8 (by decide) read
  · cases read

theorem readHead?_lt {majors : List Nat} {argument : Nat} {input rest : Bytes}
    (read : readHead? majors input = some (argument, rest)) : argument < UInt64.size := by
  rw [readHead?.eq_def] at read
  split at read
  · cases read
  split at read
  · exact readArgument?_lt read
  · cases read

theorem readItems?_forall {read : Bytes → Option (Value × Bytes)} {holds : Value → Prop}
    (each : ∀ {input item rest}, read input = some (item, rest) → holds item) {count : Nat}
    {input rest : Bytes} {items : List Value}
    (found : readItems? read count input = some (items, rest)) : ∀ item ∈ items, holds item := by
  induction count generalizing input items with
  | zero =>
      cases found
      exact List.forall_mem_nil _
  | succ count induction =>
      rw [readItems?] at found
      simp only [Option.bind_eq_bind, Option.bind_eq_some_iff] at found
      obtain ⟨⟨item, after⟩, first, ⟨later, last⟩, others, found⟩ := found
      cases found
      exact List.forall_mem_cons.mpr ⟨each first, induction others⟩

theorem readFields?_forall {readers : List (String × Reader)} {depth : Nat}
    (holds : String → Value → Prop)
    (each : ∀ {key read input value rest}, readers.lookup key = some read →
      read depth input = some (value, rest) → holds key value)
    {count : Nat} {done fields : List (String × Value)} {input rest : Bytes}
    (earlier : ∀ field ∈ done, holds field.1 field.2)
    (found : readFields? readers depth count done input = some (fields, rest)) :
    ∀ field ∈ fields, holds field.1 field.2 := by
  induction count generalizing done input with
  | zero =>
      cases found
      exact earlier
  | succ count induction =>
      rw [readFields?] at found
      simp only [Option.bind_eq_bind, Option.bind_eq_some_iff] at found
      obtain ⟨⟨key, afterKey⟩, -, found⟩ := found
      dsimp only at found
      split at found
      · simp only [Option.bind_eq_some_iff] at found
        obtain ⟨after, -, found⟩ := found
        exact induction earlier found
      · rename_i read known
        split at found
        · cases found
        · simp only [Option.bind_eq_some_iff] at found
          obtain ⟨⟨value, after⟩, first, found⟩ := found
          exact induction (List.forall_mem_cons.mpr ⟨each known first, earlier⟩) found

/-- Arranged fields have the names that were asked for, in that order, each with the value found. -/
theorem lookup_of_arrange? {names : List String} {stored fields : List (String × Value)}
    (arranged : arrange? names stored = some fields) :
    fields.map Prod.fst = names ∧ ∀ field ∈ fields, stored.lookup field.1 = some field.2 := by
  induction names generalizing fields with
  | nil =>
      cases arranged
      exact ⟨rfl, List.forall_mem_nil _⟩
  | cons name names induction =>
      rw [arrange?, List.mapM_cons] at arranged
      simp only [Option.bind_eq_bind, Option.bind_eq_some_iff, Option.map_eq_some_iff] at arranged
      obtain ⟨_, ⟨value, found, rfl⟩, later, others, made⟩ := arranged
      cases made
      obtain ⟨keys, each⟩ := induction others
      exact ⟨congrArg (name :: ·) keys, List.forall_mem_cons.mpr ⟨found, each⟩⟩

theorem lookup_fieldReaders (shapes : List (String × Shape)) (key : String) :
    (fieldReaders shapes).lookup key = (shapes.lookup key).map Shape.reader := by
  induction shapes with
  | nil => rfl
  | cons field rest induction =>
      obtain ⟨name, shape⟩ := field
      rw [fieldReaders, List.lookup_cons, List.lookup_cons, induction]
      cases key == name <;> rfl

/-- No record in the shape names a field twice. -/
inductive Shape.Distinct : Shape → Prop
  | unsigned : Distinct .unsigned
  | text : Distinct .text
  | link : Distinct .link
  | list {item : Shape} (inner : Distinct item) : Distinct (.list item)
  | record {fields : List (String × Shape)} (names : (fields.map Prod.fst).Nodup)
      (each : ∀ field ∈ fields, Distinct field.2) : Distinct (.record fields)

theorem same_key_of_zip {α β : Type} {left : List (String × α)} {right : List (String × β)}
    (keys : right.map Prod.fst = left.map Prod.fst) {pair : (String × α) × (String × β)}
    (member : pair ∈ left.zip right) : pair.1.1 = pair.2.1 := by
  induction left generalizing right with
  | nil => cases member
  | cons first others induction =>
      cases right with
      | nil => cases member
      | cons second rest =>
          rw [List.map_cons, List.map_cons, List.cons.injEq] at keys
          rcases List.mem_cons.mp member with rfl | later
          · exact keys.1.symm
          · exact induction keys.2 later

theorem mem_of_lookup {α : Type} {fields : List (String × α)} {key : String} {value : α}
    (found : fields.lookup key = some value) : (key, value) ∈ fields := by
  obtain ⟨before, after, parts, -⟩ := List.lookup_eq_some_iff.mp found
  rw [parts]
  exact List.mem_append_right _ List.mem_cons_self

theorem Shape.Distinct.fits {shape : Shape} (distinct : shape.Distinct) {depth : Nat}
    {input rest : Bytes} {value : Value} (read : shape.reader depth input = some (value, rest)) :
    Fits depth shape value := by
  induction distinct generalizing depth input value rest with
  | unsigned =>
      rw [Shape.reader, Option.map_eq_some_iff] at read
      obtain ⟨⟨number, after⟩, head, made⟩ := read
      cases made
      exact .unsigned (readHead?_lt head)
  | text =>
      rw [Shape.reader, Option.map_eq_some_iff] at read
      obtain ⟨⟨text, after⟩, -, made⟩ := read
      cases made
      exact .text text
  | link =>
      rw [Shape.reader, Option.map_eq_some_iff] at read
      obtain ⟨⟨cid, after⟩, -, made⟩ := read
      cases made
      exact .link cid
  | list inner induction =>
      rw [Shape.reader] at read
      cases depth with
      | zero => cases read
      | succ depth =>
          simp only [readList?, Option.bind_eq_bind, Option.bind_eq_some_iff] at read
          obtain ⟨⟨count, after⟩, -, ⟨items, last⟩, found, made⟩ := read
          cases made
          exact .list (readItems?_forall induction found)
  | @record shapes names each induction =>
      rw [Shape.reader] at read
      cases depth with
      | zero => cases read
      | succ depth =>
          simp only [readRecord?, Option.bind_eq_bind, Option.bind_eq_some_iff] at read
          obtain ⟨⟨count, after⟩, -, ⟨stored, last⟩, found, fields, arranged, made⟩ := read
          cases made
          obtain ⟨keys, looked_up⟩ := lookup_of_arrange? arranged
          rw [fieldReaders_eq_map, List.map_map] at keys
          -- Fields are stored as they come and looked up by name, so a value fits what its name says.
          let holds (key : String) (value : Value) : Prop :=
            ∀ shape, shapes.lookup key = some shape → Fits depth shape value
          have stored_fits : ∀ field ∈ stored, holds field.1 field.2 := by
            refine readFields?_forall holds ?_ (List.forall_mem_nil _) found
            intro key read input value rest known first shape listed
            rw [lookup_fieldReaders, listed] at known
            cases known
            exact induction _ (mem_of_lookup listed) first
          refine .record keys names fun pair member => ?_
          obtain ⟨shape_listed, field_listed⟩ := List.of_mem_zip member
          apply stored_fits _ (mem_of_lookup (looked_up _ field_listed))
          rw [← same_key_of_zip keys member]
          exact lookup_of_mem names shape_listed

theorem Shape.Distinct.fits_whole {shape : Shape} (distinct : shape.Distinct) {input : Bytes}
    {value : Value} (read : shape.read? input = some value) : Fits depthLimit shape value := by
  rw [Shape.read?] at read
  split at read
  · rename_i found
    cases read
    exact distinct.fits found
  · cases read

end SealedContent.Cbor
