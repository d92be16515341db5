import SealedContent.Program.FileStream
import SealedContent.Proofs.Text.Split

/-!
Paths and the files they lead to. Nothing but directories is on the way of a path, so files come and go
without changing where paths lead, and a change at one place is seen along the paths that lead there
and along no others. A path and the partial path beside it never lead to the same place.
-/

namespace SealedContent

namespace Program.FileSystem

variable {files others : FileSystem} {place here : Place} {path first second : String}

theorem ext_entryAt (here : files.workingDirectory = others.workingDirectory)
    (same : ∀ place, files.entryAt place = others.entryAt place) : files = others := by
  obtain ⟨entries, start⟩ := files
  obtain ⟨otherEntries, otherStart⟩ := others
  cases here
  cases funext same
  rfl

/-- The same directories are in both, and the program runs in the same one. -/
structure SameDirectories (files others : FileSystem) : Prop where
  workingDirectory_eq : files.workingDirectory = others.workingDirectory
  isDirectoryAt_eq : ∀ place, files.isDirectoryAt place = others.isDirectoryAt place

theorem SameDirectories.refl (files : FileSystem) : files.SameDirectories files :=
  ⟨rfl, fun _ => rfl⟩

theorem SameDirectories.trans {between : FileSystem} (first : files.SameDirectories between)
    (second : between.SameDirectories others) : files.SameDirectories others where
  workingDirectory_eq := first.workingDirectory_eq.trans second.workingDirectory_eq
  isDirectoryAt_eq place := (first.isDirectoryAt_eq place).trans (second.isDirectoryAt_eq place)

theorem SameDirectories.walk_eq (same : files.SameDirectories others) (here : Place)
    (names : List String) : files.walk here names = others.walk here names := by
  induction names generalizing here with
  | nil => rfl
  | cons name names induction => simp only [walk, same.isDirectoryAt_eq here, induction]

theorem SameDirectories.place?_eq (same : files.SameDirectories others) (path : String) :
    files.place? path = others.place? path := by
  simp only [place?, same.walk_eq, same.workingDirectory_eq]

/-- The path leads to the place, and no directory is there. -/
structure Leads (files : FileSystem) (path : String) (place : Place) : Prop where
  place?_eq : files.place? path = some place
  free : files.isDirectoryAt place = false

/-- A file of any content can be written under the path. -/
def Writable (files : FileSystem) (room : Room) (path : String) : Prop :=
  ∃ place, files.Leads path place ∧ room place = none

/-- The two paths never lead to the same place. -/
def Apart (files : FileSystem) (first second : String) : Prop :=
  ∀ place, files.place? first = some place → files.place? second ≠ some place

theorem Apart.symm (apart : files.Apart first second) : files.Apart second first :=
  fun place leads meets => apart place meets leads

theorem apart_of_ne (different : files.place? first ≠ files.place? second) :
    files.Apart first second :=
  fun _ leads meets => different (leads.trans meets.symm)

theorem SameDirectories.leads_iff (same : files.SameDirectories others) :
    files.Leads path place ↔ others.Leads path place := by
  constructor
  · intro leads
    exact ⟨by rw [← same.place?_eq, leads.place?_eq], by rw [← same.isDirectoryAt_eq, leads.free]⟩
  · intro leads
    exact ⟨by rw [same.place?_eq, leads.place?_eq], by rw [same.isDirectoryAt_eq, leads.free]⟩

theorem SameDirectories.apart_iff (same : files.SameDirectories others) :
    files.Apart first second ↔ others.Apart first second := by
  simp only [Apart, same.place?_eq]

theorem Leads.lookup?_eq (leads : files.Leads path place) :
    files.lookup? path = files.entryAt place := by
  simp [lookup?, leads.place?_eq, leads.free]

theorem lookup?_congr (same : files.place? first = files.place? second) :
    files.lookup? first = files.lookup? second := by
  rw [lookup?, lookup?, same]

theorem entryAt_ne_directory (free : files.isDirectoryAt place = false) :
    files.entryAt place ≠ some .directory := by
  simp only [isDirectoryAt, decide_eq_false_iff_not, not_or] at free
  exact free.2

theorem read?_eq_some_iff {content : Bytes} :
    files.read? path = some content ↔ files.lookup? path = some (.file content) := by
  rw [read?]
  split
  · rename_i found entry
    simp [entry]
  · rename_i other
    simp only [reduceCtorEq, false_iff]
    exact other content

theorem found_of_read? {content : Bytes} (read : files.read? path = some content) :
    (files.lookup? path).isSome := by
  rw [read?_eq_some_iff.mp read]
  rfl

/-- Under a path that leads nowhere or to a directory, no file is read and none is written. -/
theorem exists_leads_or (files : FileSystem) (path : String) :
    (∃ place, files.Leads path place) ∨
      files.read? path = none ∧ ∀ content, files.write? path content = none := by
  cases leads : files.place? path with
  | none => exact .inr (by simp [read?, lookup?, write?, leads])
  | some place =>
      cases directory : files.isDirectoryAt place with
      | true => exact .inr (by simp [read?, lookup?, write?, leads, directory])
      | false => exact .inl ⟨place, leads, directory⟩

theorem exists_leads_of_read? {content : Bytes} (read : files.read? path = some content) :
    ∃ place, files.Leads path place ∧ files.entryAt place = some (.file content) := by
  rcases files.exists_leads_or path with ⟨place, leads⟩ | ⟨unread, -⟩
  · rw [read?_eq_some_iff, leads.lookup?_eq] at read
    exact ⟨place, leads, read⟩
  · rw [unread] at read
    cases read

section Fitting

variable {room : Room} {content : Bytes}

theorem fitting_prefix (files : FileSystem) (room : Room) (path : String) (content : Bytes) :
    files.fitting room path content <+: content := by
  rw [fitting]
  split
  · exact List.take_prefix _ _
  · exact List.prefix_refl _

theorem SameDirectories.fitting_eq (same : files.SameDirectories others) :
    files.fitting room path content = others.fitting room path content := by
  rw [fitting, fitting, same.place?_eq]

theorem Leads.fitting_eq (leads : files.Leads path place) (roomy : room place = none) :
    files.fitting room path content = content := by
  rw [fitting, leads.place?_eq, Option.bind_some, roomy]

theorem fitting_nil (files : FileSystem) (room : Room) (path : String) :
    files.fitting room path [] = [] := by
  rw [fitting]
  split
  · exact List.take_nil
  · rfl

/-- The beginning of what there is room for has room too. -/
theorem fitting_of_append {more : Bytes}
    (fits : files.fitting room path (content ++ more) = content ++ more) :
    files.fitting room path content = content := by
  rw [fitting] at fits ⊢
  split
  · rename_i size limited
    rw [limited] at fits
    have short := congrArg List.length fits
    rw [List.length_take, List.length_append] at short
    exact List.take_of_length_le (by omega)
  · rfl

theorem exists_room_of_fitting_ne (full : files.fitting room path content ≠ content) :
    ∃ size, (files.place? path).bind room = some size := by
  rw [fitting] at full
  split at full
  · rename_i size found
    exact ⟨size, found⟩
  · exact absurd rfl full

end Fitting

section Set

variable {entry : Option Entry}

theorem set_set (files : FileSystem) (place : Place) (former latter : Option Entry) :
    (files.set place former).set place latter = files.set place latter := by
  apply ext_entryAt
  · rfl
  · intro other
    rw [entryAt_set, entryAt_set, entryAt_set]
    split <;> rfl

theorem sameDirectories_set (free : files.isDirectoryAt place = false)
    (plain : entry ≠ some .directory) : (files.set place entry).SameDirectories files where
  workingDirectory_eq := rfl
  isDirectoryAt_eq other := by
    have before := entryAt_ne_directory free
    by_cases same : other = place
    · simp [isDirectoryAt, set, same, plain, before]
    · simp [isDirectoryAt, set, same]

theorem Leads.sameDirectories_file (leads : files.Leads path place) (content : Bytes) :
    (files.set place (some (.file content))).SameDirectories files :=
  sameDirectories_set leads.free (by simp)

theorem lookup?_set (free : files.isDirectoryAt place = false) (plain : entry ≠ some .directory)
    (path : String) : (files.set place entry).lookup? path =
      if files.place? path = some place then entry else files.lookup? path := by
  have same := sameDirectories_set free plain
  cases leads : files.place? path with
  | none => simp [lookup?, same.place?_eq, leads]
  | some other =>
      by_cases meets : other = place
      · subst meets
        simp [lookup?, same.place?_eq, leads, same.isDirectoryAt_eq other, free, entryAt_set]
      · simp [lookup?, same.place?_eq, leads, same.isDirectoryAt_eq other, entryAt_set, meets]

theorem Leads.lookup?_set_self (leads : files.Leads path place) (plain : entry ≠ some .directory) :
    (files.set place entry).lookup? path = entry := by
  rw [lookup?_set leads.free plain, if_pos leads.place?_eq]

theorem Apart.lookup?_set_eq (apart : files.Apart first second) (leads : files.Leads second place)
    (plain : entry ≠ some .directory) : (files.set place entry).lookup? first = files.lookup? first := by
  have elsewhere : files.place? first ≠ some place := fun meets => apart place meets leads.place?_eq
  rw [lookup?_set leads.free plain, if_neg elsewhere]

theorem Apart.read?_set_eq (apart : files.Apart first second) (leads : files.Leads second place)
    (plain : entry ≠ some .directory) : (files.set place entry).read? first = files.read? first := by
  rw [read?, read?, apart.lookup?_set_eq leads plain]

theorem Leads.write?_eq (leads : files.Leads path place) (content : Bytes) :
    files.write? path content = some (files.set place (some (.file content))) := by
  simp [write?, leads.place?_eq, leads.free]

theorem Leads.rewrite?_eq (leads : files.Leads path place) (former latter : Bytes) :
    (files.set place (some (.file former))).write? path latter =
      some (files.set place (some (.file latter))) := by
  have still := (leads.sameDirectories_file former).leads_iff.mpr leads
  rw [still.write?_eq, set_set]

theorem exists_leads_of_write? {content : Bytes} {after : FileSystem}
    (written : files.write? path content = some after) :
    ∃ place, files.Leads path place ∧ after = files.set place (some (.file content)) := by
  rcases files.exists_leads_or path with ⟨place, leads⟩ | ⟨-, unwritten⟩
  · rw [leads.write?_eq] at written
    exact ⟨place, leads, (Option.some.inj written).symm⟩
  · rw [unwritten] at written
    cases written

theorem exists_leads_of_rename? {after : FileSystem}
    (renamed : files.rename? first second = some after) : ∃ place, files.Leads second place := by
  rw [rename?] at renamed
  obtain ⟨content, -, renamed⟩ := Option.bind_eq_some_iff.mp renamed
  obtain ⟨moved, written, -⟩ := Option.bind_eq_some_iff.mp renamed
  obtain ⟨place, leads, -⟩ := exists_leads_of_write? written
  exact ⟨place, leads⟩

theorem Leads.remove_eq (leads : files.Leads path place) {content : Bytes}
    (found : files.entryAt place = some (.file content)) :
    files.remove path = files.set place none := by
  have read : files.read? path = some content := by
    rw [read?_eq_some_iff, leads.lookup?_eq, found]
  rw [remove, leads.place?_eq, read]

/-- What was written to a file goes with it. -/
theorem Leads.remove_set (leads : files.Leads path place) (content : Bytes) :
    (files.set place (some (.file content))).remove path = files.set place none := by
  have still := (leads.sameDirectories_file content).leads_iff.mpr leads
  have stands : (files.set place (some (.file content))).entryAt place = some (.file content) := by
    rw [entryAt_set, if_pos rfl]
  rw [still.remove_eq stands, set_set]

theorem remove_of_unwritten {content : Bytes} (unwritten : files.write? path content = none) :
    files.remove path = files := by
  rcases files.exists_leads_or path with ⟨place, leads⟩ | ⟨unread, -⟩
  · rw [leads.write?_eq] at unwritten
    cases unwritten
  · rw [remove, unread]
    split
    · rename_i read
      cases read
    · rfl

theorem Leads.rename?_eq {source target : Place} {content : Bytes}
    (leads : files.Leads first source) (onto : files.Leads second target)
    (apart : source ≠ target) (found : files.entryAt source = some (.file content)) :
    files.rename? first second =
      some ((files.set target (some (.file content))).set source none) := by
  have read : files.read? first = some content := by
    rw [read?_eq_some_iff, leads.lookup?_eq, found]
  have same := onto.sameDirectories_file content
  have still : (files.set target (some (.file content))).entryAt source = some (.file content) := by
    rw [entryAt_set, if_neg apart, found]
  have different : files.place? first ≠ files.place? second := by
    rw [leads.place?_eq, onto.place?_eq]
    exact fun meets => apart (Option.some.inj meets)
  simp only [rename?, read, onto.write?_eq, Option.bind_eq_bind, Option.bind_some, if_neg different,
    (same.leads_iff.mpr leads).remove_eq still]

end Set

section Changed

/-- Both hold the same directories, and they differ at most at the changed places. -/
structure KeepsBut (changed : Place → Prop) (files after : FileSystem) : Prop where
  sameDirectories : after.SameDirectories files
  entryAt_eq : ∀ place, ¬ changed place → after.entryAt place = files.entryAt place

variable {changed : Place → Prop} {after : FileSystem} {entry : Option Entry}

theorem KeepsBut.refl (changed : Place → Prop) (files : FileSystem) : KeepsBut changed files files :=
  ⟨.refl files, fun _ _ => rfl⟩

theorem KeepsBut.set (keeps : KeepsBut changed files after) (meant : changed place)
    (free : files.isDirectoryAt place = false) (plain : entry ≠ some .directory) :
    KeepsBut changed files (after.set place entry) := by
  have same : (after.set place entry).SameDirectories after :=
    sameDirectories_set (by rw [keeps.sameDirectories.isDirectoryAt_eq, free]) plain
  refine ⟨same.trans keeps.sameDirectories, ?_⟩
  intro other kept
  have elsewhere : other ≠ place := fun meets => kept (meets ▸ meant)
  rw [entryAt_set, if_neg elsewhere, keeps.entryAt_eq other kept]

theorem KeepsBut.write? (keeps : KeepsBut changed files after)
    (meant : ∀ place, files.place? path = some place → changed place) {content : Bytes}
    {later : FileSystem} (written : after.write? path content = some later) :
    KeepsBut changed files later := by
  obtain ⟨place, leads, rfl⟩ := exists_leads_of_write? written
  have before := keeps.sameDirectories.leads_iff.mp leads
  exact keeps.set (meant place before.place?_eq) before.free (by simp)

theorem KeepsBut.remove (keeps : KeepsBut changed files after)
    (meant : ∀ place, files.place? path = some place → changed place) :
    KeepsBut changed files (after.remove path) := by
  rw [FileSystem.remove]
  split
  · rename_i place content leads read
    obtain ⟨same, found, -⟩ := exists_leads_of_read? read
    cases found.place?_eq.symm.trans leads
    have before := keeps.sameDirectories.leads_iff.mp found
    exact keeps.set (meant _ before.place?_eq) before.free (by simp)
  · exact keeps

theorem KeepsBut.lookup?_eq (keeps : KeepsBut changed files after)
    (apart : ∀ place, files.place? path = some place → ¬ changed place) :
    after.lookup? path = files.lookup? path := by
  rw [lookup?, lookup?, keeps.sameDirectories.place?_eq]
  cases leads : files.place? path with
  | none => rfl
  | some place =>
      simp only [Option.bind_eq_bind, Option.bind_some, keeps.sameDirectories.isDirectoryAt_eq place,
        keeps.entryAt_eq place (apart place leads)]

end Changed

section Partial

open Program.Action (partialPath)

theorem walk_append (files : FileSystem) (here : Place) (names more : List String) :
    files.walk here (names ++ more) =
      (files.walk here names).bind fun there => files.walk there more := by
  induction names generalizing here with
  | nil => rfl
  | cons name names induction =>
      simp only [List.cons_append, walk]
      split
      · rfl
      · split
        · exact induction here
        · split
          · exact induction (outer here)
          · exact induction (here ++ [name])

/-- Where a last name leads to is never beside it under the longer name. -/
theorem walk_partial (here : Place) (name : String) :
    ∀ place, files.walk here [name] = some place → files.walk here [name ++ ".part"] ≠ some place := by
  intro place leads meets
  have long : (name ++ ".part").length = name.length + 5 := String.length_append name ".part"
  have other (short : String) (bound : short.length < 5) : name ++ ".part" ≠ short := by
    intro same
    rw [← same, long] at bound
    omega
  have grown (inner : Place) (bound : inner.length ≤ here.length) :
      inner ≠ here ++ [name ++ ".part"] := by
    intro same
    have length := congrArg List.length same
    rw [List.length_append, List.length_singleton] at length
    omega
  have directory : files.isDirectoryAt here = true := by
    cases found : files.isDirectoryAt here with
    | true => rfl
    | false => simp [walk, found] at leads
  have beside : place = here ++ [name ++ ".part"] := by
    simpa [walk, directory, other "" (by decide), other "." (by decide), other ".." (by decide)]
      using meets.symm
  simp only [walk, directory, not_true, if_false] at leads
  split at leads
  · exact grown here (Nat.le_refl _) ((Option.some.inj leads).trans beside)
  · split at leads
    · have upward : here.dropLast = here ++ [name ++ ".part"] := (Option.some.inj leads).trans beside
      exact grown here.dropLast (by rw [List.length_dropLast]; omega) upward
    · have same := List.append_cancel_left ((Option.some.inj leads).trans beside)
      have length := congrArg String.length (List.singleton_inj.mp same)
      omega

theorem names_partial (path : List Char) :
    ∃ outward last, names path = outward ++ [last] ∧
      names (path ++ ".part".toList) = outward ++ [last ++ ".part"] := by
  have plain : ∀ char ∈ ".part".toList, decide (char = '/') = false := by simp
  obtain ⟨pieces, last, whole, extended⟩ := Text.splitWhere_append plain path
  refine ⟨pieces.map String.ofList, String.ofList last, ?_, ?_⟩
  · rw [names, whole, List.map_append, List.map_singleton]
  · rw [names, extended, List.map_append, List.map_singleton, String.ofList_append,
      String.ofList_toList]

theorem walk_names_partial (here : Place) (path : List Char) :
    ∀ place, files.walk here (names path) = some place →
      files.walk here (names (path ++ ".part".toList)) ≠ some place := by
  intro place leads meets
  obtain ⟨outward, last, whole, extended⟩ := names_partial path
  rw [whole, walk_append] at leads
  rw [extended, walk_append] at meets
  cases inner : files.walk here outward with
  | none => simp [inner] at leads
  | some there =>
      simp only [inner, Option.bind_some] at leads meets
      exact walk_partial there last place leads meets

theorem apart_partialPath (files : FileSystem) (path : String) :
    files.Apart path (partialPath path) := by
  intro place leads
  rw [place?, partialPath, String.toList_append]
  rw [place?] at leads
  split at leads
  · cases leads
  · rename_i rest absolute
    rw [absolute]
    exact walk_names_partial [] rest place leads
  · rename_i present relative
    split
    · rename_i empty
      exact absurd (List.append_eq_nil_iff.mp empty).1 present
    · rename_i rest absolute
      obtain ⟨head, tail, parts⟩ := List.exists_cons_of_ne_nil present
      rw [parts, List.cons_append] at absolute
      exact absurd (by rw [parts, (List.cons.inj absolute).1]) (relative tail)
    · exact walk_names_partial files.workingDirectory path.toList place leads

end Partial

end Program.FileSystem

end SealedContent
