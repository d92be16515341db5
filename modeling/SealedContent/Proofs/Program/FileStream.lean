import SealedContent.Proofs.Program.Action

/-!
A file that is made from a stream takes its place complete or not at all. Until then nothing changes but
what is at its partial path.
-/

namespace SealedContent.Program

theorem FileSystem.chunks_of_read? {files : FileSystem} {path : String} {content : Bytes}
    (read : files.read? path = some content) (size : Nat) :
    files.chunks size path = (content.pieces size).map .ok := by
  rw [chunks, read]

namespace Action

open Cipher (StreamItem)
open FileSystem (KeepsBut)

variable {σ : Type} {world after : World σ} {room : Room} {stream : FileSystem → List StreamItem}
  {path : String} {part place : Place} {chunks : List Bytes} {trouble : Trouble}

/-- The files once a file has been made from chunks, with nothing left at its partial path. -/
def persisted (files : FileSystem) (part place : Place) (chunks : List Bytes) : FileSystem :=
  (files.set place (some (.file chunks.flatten))).set part none

theorem partial_ne_place {files : FileSystem} (partly : files.Leads (partialPath path) part)
    (wholly : files.Leads path place) : part ≠ place := by
  rintro rfl
  exact FileSystem.apart_partialPath files path part wholly.place?_eq partly.place?_eq

section Persisted

variable {files : FileSystem} (chunks)

theorem sameDirectories_persisted (partly : files.Leads (partialPath path) part)
    (wholly : files.Leads path place) :
    (persisted files part place chunks).SameDirectories files := by
  have replaced := wholly.sameDirectories_file chunks.flatten
  have free := (replaced.isDirectoryAt_eq part).trans partly.free
  exact (FileSystem.sameDirectories_set free (by simp)).trans replaced

theorem lookup?_persisted (partly : files.Leads (partialPath path) part)
    (wholly : files.Leads path place) (other : String) :
    (persisted files part place chunks).lookup? other =
      if files.place? other = some part then none
      else if files.place? other = some place then some (.file chunks.flatten)
      else files.lookup? other := by
  have replaced := wholly.sameDirectories_file chunks.flatten
  have free := (replaced.isDirectoryAt_eq part).trans partly.free
  rw [persisted, FileSystem.lookup?_set free (by simp), replaced.place?_eq,
    FileSystem.lookup?_set wholly.free (by simp)]

theorem lookup?_persisted_self (partly : files.Leads (partialPath path) part)
    (wholly : files.Leads path place) :
    (persisted files part place chunks).lookup? path = some (.file chunks.flatten) := by
  have apart : files.place? path ≠ some part := by
    rw [wholly.place?_eq]
    exact fun same => partial_ne_place partly wholly (Option.some.inj same).symm
  rw [lookup?_persisted chunks partly wholly, if_neg apart, if_pos wholly.place?_eq]

theorem lookup?_persisted_partial (partly : files.Leads (partialPath path) part)
    (wholly : files.Leads path place) :
    (persisted files part place chunks).lookup? (partialPath path) = none := by
  rw [lookup?_persisted chunks partly wholly, if_pos partly.place?_eq]

theorem lookup?_persisted_apart (partly : files.Leads (partialPath path) part)
    (wholly : files.Leads path place) {other : String} (elsewhere : files.Apart other path)
    (aside : files.Apart other (partialPath path)) :
    (persisted files part place chunks).lookup? other = files.lookup? other := by
  rw [lookup?_persisted chunks partly wholly, if_neg fun leads => aside part leads partly.place?_eq,
    if_neg fun leads => elsewhere place leads wholly.place?_eq]

end Persisted

section Pour

variable {items : List StreamItem} {written : Bytes}

theorem mapM_id_cons {chunk : Bytes}
    (streamed : (.ok chunk :: items : List StreamItem).mapM id = .ok chunks) :
    ∃ rest, items.mapM id = .ok rest ∧ chunks = chunk :: rest := by
  rw [List.mapM_cons] at streamed
  cases later : items.mapM id with
  | error failure =>
      rw [later] at streamed
      cases streamed
  | ok rest =>
      rw [later] at streamed
      exact ⟨rest, rfl, (Except.ok.inj streamed).symm⟩

theorem pour_cons_of_fitting {base : FileSystem} {network : σ} {chunk : Bytes}
    (partly : base.Leads path part)
    (fits : base.fitting room path (written ++ chunk) = written ++ chunk) :
    pour room path written (.ok chunk :: items)
        ⟨base.set part (some (.file written)), network⟩ =
      (do
        let chunks ← pour room path (written ++ chunk) items
        return chunk :: chunks : Action σ (List Bytes))
        ⟨base.set part (some (.file (written ++ chunk))), network⟩ := by
  have same := partly.sameDirectories_file written
  let begun : World σ := ⟨base.set part (some (.file written)), network⟩
  have fitting : begun.files.fitting room path (written ++ chunk) = written ++ chunk := by
    rw [same.fitting_eq, fits]
  rw [pour]
  exact bind_of_ok (during_of_ok _ (writeFile_of_fitting fitting (partly.rewrite?_eq _ _)))

theorem pour_of_ok {base : FileSystem} {network : σ} (partly : base.Leads path part)
    (streamed : items.mapM id = .ok chunks)
    (fits : base.fitting room path (written ++ chunks.flatten) = written ++ chunks.flatten) :
    pour room path written items ⟨base.set part (some (.file written)), network⟩ =
      .ok chunks ⟨base.set part (some (.file (written ++ chunks.flatten))), network⟩ := by
  induction items generalizing written chunks with
  | nil =>
      rw [List.mapM_nil] at streamed
      cases streamed
      rw [List.flatten_nil, List.append_nil]
      rfl
  | cons item items induction =>
      cases item with
      | error failure => cases streamed
      | ok chunk =>
          obtain ⟨rest, later, rfl⟩ := mapM_id_cons streamed
          rw [List.flatten_cons, ← List.append_assoc] at fits ⊢
          rw [pour_cons_of_fitting partly (FileSystem.fitting_of_append fits)]
          exact bind_of_ok (induction later fits)

theorem pour_of_failure {base : FileSystem} {network : σ} {failure : Cipher.CipherError}
    {later : List StreamItem} (partly : base.Leads path part) (roomy : room part = none)
    (released : List Bytes) :
    pour room path written (released.map .ok ++ .error failure :: later)
        ⟨base.set part (some (.file written)), network⟩ =
      .error (Trouble.ofCipher failure)
        ⟨base.set part (some (.file (written ++ released.flatten))), network⟩ := by
  induction released generalizing written with
  | nil =>
      rw [List.flatten_nil, List.append_nil]
      rfl
  | cons chunk released induction =>
      rw [List.flatten_cons, ← List.append_assoc, List.map_cons, List.cons_append,
        pour_cons_of_fitting partly (partly.fitting_eq roomy)]
      exact bind_of_error induction

theorem pour_eq_ok (begun : world.files.fitting room path written = written)
    (done : pour room path written items world = .ok chunks after) :
    items.mapM id = .ok chunks ∧
      world.files.fitting room path (written ++ chunks.flatten) = written ++ chunks.flatten := by
  induction items generalizing written world chunks with
  | nil =>
      cases done
      rw [List.flatten_nil, List.append_nil]
      exact ⟨rfl, begun⟩
  | cons item items induction =>
      cases item with
      | error failure => cases done
      | ok chunk =>
          rw [pour] at done
          obtain ⟨_, between, stored, done⟩ := bind_eq_ok done
          obtain ⟨fits, _, put, rfl⟩ := writeFile_eq_ok (during_eq_ok stored)
          obtain ⟨place, leads, rfl⟩ := FileSystem.exists_leads_of_write? put
          obtain ⟨rest, last, poured, done⟩ := bind_eq_ok done
          cases done
          have same := leads.sameDirectories_file (written ++ chunk)
          obtain ⟨streamed, whole⟩ := induction (by rw [same.fitting_eq, fits]) poured
          rw [same.fitting_eq] at whole
          rw [List.mapM_cons, streamed, List.flatten_cons, ← List.append_assoc]
          exact ⟨rfl, whole⟩

/-- However much was written before a failure, nothing but the file that is written has changed. -/
theorem pour_eq_error {base : FileSystem} {network : σ} (partly : base.Leads path part)
    (failed : pour room path written items ⟨base.set part (some (.file written)), network⟩ =
      .error trouble after) :
    ∃ content, after = ⟨base.set part (some (.file content)), network⟩ := by
  induction items generalizing written with
  | nil => cases failed
  | cons item items induction =>
      cases item with
      | error failure =>
          cases failed
          exact ⟨written, rfl⟩
      | ok chunk =>
          rw [pour] at failed
          rcases bind_eq_error failed with failed | ⟨_, between, stored, failed⟩
          · obtain ⟨_, -, broken⟩ := during_eq_error failed
            rcases writeFile_eq_error broken with rfl | ⟨-, _, cut, rfl⟩
            · exact ⟨written, rfl⟩
            · cases (partly.rewrite?_eq _ _).symm.trans cut
              exact ⟨_, rfl⟩
          obtain ⟨-, _, whole, rfl⟩ := writeFile_eq_ok (during_eq_ok stored)
          cases (partly.rewrite?_eq _ _).symm.trans whole
          rcases bind_eq_error failed with failed | ⟨rest, last, -, impossible⟩
          · exact induction failed
          · cases impossible

theorem mapM_id_of_failure (released : List Bytes) (failure : Cipher.CipherError)
    (later : List StreamItem) :
    (released.map .ok ++ .error failure :: later : List StreamItem).mapM id = .error failure := by
  induction released with
  | nil => rfl
  | cons chunk released induction =>
      rw [List.map_cons, List.cons_append, List.mapM_cons, induction]
      rfl

end Pour

theorem fill_of_created (partly : world.files.Leads path part) :
    fill room path stream world =
      pour room path [] (stream (world.files.set part (some (.file []))))
        { world with files := world.files.set part (some (.file [])) } := by
  have created : during s!"creating {path}" (changeFiles fun files => files.write? path []) world =
      .ok () { world with files := world.files.set part (some (.file [])) } :=
    during_of_ok _ (changeFiles_of_some (partly.write?_eq []))
  rw [fill, bind_of_ok created, bind_files]

theorem fill_of_ok (partly : world.files.Leads path part)
    (streamed : (stream (world.files.set part (some (.file [])))).mapM id = .ok chunks)
    (fits : world.files.fitting room path chunks.flatten = chunks.flatten) :
    fill room path stream world =
      .ok chunks { world with files := world.files.set part (some (.file chunks.flatten)) } := by
  rw [fill_of_created partly]
  exact pour_of_ok partly streamed fits

/-- A file that cannot be created leaves everything as it is. -/
theorem fill_eq_error_or (failed : fill room path stream world = .error trouble after) :
    after = world ∧ world.files.write? path [] = none ∨ ∃ part content,
      world.files.Leads path part ∧
        after = { world with files := world.files.set part (some (.file content)) } := by
  cases created : world.files.write? path [] with
  | none =>
      have refused : during s!"creating {path}" (changeFiles fun files => files.write? path [])
          world = .error (s!"creating {path}" :: Trouble.system) world := by
        rw [during, changeFiles, created]
      rw [fill, bind_of_error refused] at failed
      cases failed
      exact .inl ⟨rfl, rfl⟩
  | some begun =>
      obtain ⟨part, partly, -⟩ := FileSystem.exists_leads_of_write? created
      rw [fill_of_created partly] at failed
      obtain ⟨content, same⟩ := pour_eq_error partly failed
      exact .inr ⟨part, content, partly, same⟩

theorem fill_eq_ok (done : fill room path stream world = .ok chunks after) :
    ∃ part, world.files.Leads path part ∧
      (stream (world.files.set part (some (.file [])))).mapM id = .ok chunks ∧
      world.files.fitting room path chunks.flatten = chunks.flatten := by
  have whole := done
  rw [fill] at done
  obtain ⟨_, begun, created, -⟩ := bind_eq_ok done
  obtain ⟨_, written, -⟩ := changeFiles_eq_ok (during_eq_ok created)
  obtain ⟨part, partly, -⟩ := FileSystem.exists_leads_of_write? written
  rw [fill_of_created partly] at whole
  have same := partly.sameDirectories_file []
  obtain ⟨streamed, fits⟩ := pour_eq_ok (FileSystem.fitting_nil _ _ _) whole
  rw [same.fitting_eq] at fits
  exact ⟨part, partly, streamed, fits⟩

theorem fill_eq_error (failed : fill room path stream world = .error trouble after) :
    KeepsBut (fun place => world.files.place? path = some place) world.files after.files := by
  rcases fill_eq_error_or failed with ⟨rfl, -⟩ | ⟨part, content, partly, rfl⟩
  · exact .refl _ _
  · exact (KeepsBut.refl _ world.files).set partly.place?_eq partly.free (by simp)

/-- A stream that does not break off becomes the file if there is room for it. It is read when the
partial file is there. -/
theorem persist_of_ok (partly : world.files.Leads (partialPath path) part)
    (wholly : world.files.Leads path place)
    (streamed : (stream (world.files.set part (some (.file [])))).mapM id = .ok chunks)
    (fits : world.files.fitting room (partialPath path) chunks.flatten = chunks.flatten) :
    persist room stream path world =
      .ok chunks { world with files := persisted world.files part place chunks } := by
  let full := world.files.set part (some (.file chunks.flatten))
  have apart := partial_ne_place partly wholly
  have filled : orRemove (partialPath path) (fill room (partialPath path) stream) world =
      .ok chunks { world with files := full } :=
    orRemove_of_ok (fill_of_ok partly streamed fits)
  have same : full.SameDirectories world.files := partly.sameDirectories_file chunks.flatten
  have moved : full.rename? (partialPath path) path =
      some ((full.set place (some (.file chunks.flatten))).set part none) := by
    apply FileSystem.Leads.rename?_eq (same.leads_iff.mpr partly) (same.leads_iff.mpr wholly) apart
    rw [FileSystem.entryAt_set, if_pos rfl]
  have complete : (full.set place (some (.file chunks.flatten))).set part none =
      persisted world.files part place chunks := by
    apply FileSystem.ext_entryAt
    · rfl
    · intro other
      by_cases atPart : other = part <;> by_cases atPlace : other = place <;>
        simp [full, persisted, FileSystem.entryAt_set, atPart, atPlace]
  rw [complete] at moved
  rw [persist, bind_of_ok filled]
  exact bind_of_ok (during_of_ok _ (changeFiles_of_some moved))

theorem persist_eq_ok (done : persist room stream path world = .ok chunks after) :
    ∃ part place, world.files.Leads (partialPath path) part ∧ world.files.Leads path place ∧
      (stream (world.files.set part (some (.file [])))).mapM id = .ok chunks ∧
      after = { world with files := persisted world.files part place chunks } := by
  have whole := done
  rw [persist] at done
  obtain ⟨made, between, filled, done⟩ := bind_eq_ok done
  obtain ⟨_, moved, renamed, done⟩ := bind_eq_ok done
  cases done
  have unmoved := orRemove_eq_ok filled
  obtain ⟨part, partly, streamed, fits⟩ := fill_eq_ok unmoved
  cases unmoved.symm.trans (fill_of_ok partly streamed fits)
  obtain ⟨_, replaced, -⟩ := changeFiles_eq_ok (during_eq_ok renamed)
  obtain ⟨place, onto⟩ := FileSystem.exists_leads_of_rename? replaced
  have wholly := (partly.sameDirectories_file chunks.flatten).leads_iff.mp onto
  cases whole.symm.trans (persist_of_ok partly wholly streamed fits)
  exact ⟨part, place, partly, wholly, streamed, rfl⟩

theorem persist_eq_error (failed : persist room stream path world = .error trouble after) :
    KeepsBut (fun place => world.files.place? (partialPath path) = some place) world.files
      after.files := by
  rw [persist] at failed
  rcases bind_eq_error failed with failed | ⟨made, between, filled, failed⟩
  · obtain ⟨between, broken, rfl⟩ := orRemove_eq_error failed
    exact (fill_eq_error broken).remove fun _ leads => leads
  · have unmoved := orRemove_eq_ok filled
    obtain ⟨part, partly, streamed, fits⟩ := fill_eq_ok unmoved
    cases unmoved.symm.trans (fill_of_ok partly streamed fits)
    rcases bind_eq_error failed with failed | ⟨_, moved, renamed, impossible⟩
    · obtain ⟨_, -, refused⟩ := during_eq_error failed
      rw [eq_of_changeFiles_error refused]
      exact (KeepsBut.refl _ world.files).set partly.place?_eq partly.free (by simp)
    · cases impossible

/-- What is found under a path after a failure where the partial file of `out` is written: what was there,
or nothing, unless the file was complete and could not be moved into its place. -/
def PartialLeft (out : String) (trouble : Trouble) (before after : FileSystem) (path : String) : Prop :=
  after.lookup? path = before.lookup? path ∨ after.lookup? path = none ∨
    s!"moving {out} into place" ∈ trouble ∧ ∃ content, after.lookup? path = some (.file content)

theorem PartialLeft.cons {out other : String} {before after : FileSystem}
    (left : PartialLeft out trouble before after other) (attempt : String) :
    PartialLeft out (attempt :: trouble) before after other := by
  rcases left with kept | gone | ⟨unmoved, stands⟩
  · exact .inl kept
  · exact .inr (.inl gone)
  · exact .inr (.inr ⟨List.mem_cons_of_mem _ unmoved, stands⟩)

theorem partialLeft_of_persist_error (failed : persist room stream path world = .error trouble after) :
    PartialLeft path trouble world.files after.files (partialPath path) := by
  rw [persist] at failed
  rcases bind_eq_error failed with failed | ⟨made, between, filled, failed⟩
  · obtain ⟨between, broken, rfl⟩ := orRemove_eq_error failed
    rcases fill_eq_error_or broken with ⟨rfl, uncreated⟩ | ⟨part, content, partly, rfl⟩
    · dsimp only
      rw [FileSystem.remove_of_unwritten uncreated]
      exact .inl rfl
    · dsimp only
      rw [partly.remove_set content]
      exact .inr (.inl (partly.lookup?_set_self (by simp)))
  · have unmoved := orRemove_eq_ok filled
    obtain ⟨part, partly, streamed, fits⟩ := fill_eq_ok unmoved
    cases unmoved.symm.trans (fill_of_ok partly streamed fits)
    rcases bind_eq_error failed with failed | ⟨_, moved, renamed, impossible⟩
    · obtain ⟨cause, rfl, refused⟩ := during_eq_error failed
      rw [eq_of_changeFiles_error refused]
      exact .inr (.inr ⟨List.mem_cons_self, made.flatten, partly.lookup?_set_self (by simp)⟩)
    · cases impossible

/-- A file that cannot be begun leaves everything as it is. -/
theorem persist_of_uncreated (uncreated : world.files.write? (partialPath path) [] = none) :
    persist room stream path world =
      .error (s!"creating {partialPath path}" :: Trouble.system) world := by
  have refused : fill room (partialPath path) stream world =
      .error (s!"creating {partialPath path}" :: Trouble.system) world := by
    apply bind_of_error
    rw [during, changeFiles, uncreated]
  rw [persist]
  apply bind_of_error
  rw [orRemove, refused]
  dsimp only
  rw [FileSystem.remove_of_unwritten uncreated]

/-- A stream that breaks off leaves nothing of what was written of it, however much that was. The failure
is that of the stream if there was room for all that came before it. -/
theorem persist_of_failure {failure : Cipher.CipherError} {released : List Bytes}
    {later : List StreamItem} (partly : world.files.Leads (partialPath path) part)
    (broken : stream (world.files.set part (some (.file []))) =
      released.map .ok ++ .error failure :: later) :
    ∃ trouble, persist room stream path world =
        .error trouble { world with files := world.files.set part none } ∧
      (room part = none → trouble = Trouble.ofCipher failure) := by
  have begun : fill room (partialPath path) stream world = _ := fill_of_created partly
  rw [broken] at begun
  cases filled : fill room (partialPath path) stream world with
  | ok chunks after =>
      obtain ⟨other, leads, streamed, -⟩ := fill_eq_ok filled
      cases leads.place?_eq.symm.trans partly.place?_eq
      rw [broken, mapM_id_of_failure] at streamed
      cases streamed
  | error trouble after =>
      rw [begun] at filled
      refine ⟨trouble, ?_, fun roomy => ?_⟩
      · obtain ⟨content, rfl⟩ := pour_eq_error partly filled
        rw [persist]
        apply bind_of_error
        rw [orRemove, begun, filled]
        dsimp only
        rw [partly.remove_set content]
      · rw [pour_of_failure partly roomy] at filled
        cases filled
        rfl

end Action

end SealedContent.Program
