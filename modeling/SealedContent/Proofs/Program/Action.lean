import SealedContent.Proofs.Program.FileSystem

/-!
Steps of tasks one after another: a task fails where one of its steps fails, and what is known of every
step is known of the task. Most steps leave the files as they are.
-/

namespace SealedContent.Program.Action

variable {σ α β ε : Type} {world between after : World σ} {trouble : Trouble} {value : α}

section Sequence

variable {action : Action σ α} {next : α → Action σ β}

theorem bind_of_ok (done : action world = .ok value between) :
    (action >>= next) world = next value between := by
  change EStateM.bind action next world = _
  rw [EStateM.bind, done]

theorem bind_of_error (failed : action world = .error trouble between) :
    (action >>= next) world = .error trouble between := by
  change EStateM.bind action next world = _
  rw [EStateM.bind, failed]

theorem bind_eq_ok {result : β} (done : (action >>= next) world = .ok result after) :
    ∃ value between, action world = .ok value between ∧ next value between = .ok result after := by
  change EStateM.bind action next world = _ at done
  rw [EStateM.bind] at done
  cases first : action world with
  | ok value between =>
      rw [first] at done
      exact ⟨value, between, rfl, done⟩
  | error trouble between =>
      rw [first] at done
      cases done

theorem bind_eq_error (failed : (action >>= next) world = .error trouble after) :
    action world = .error trouble after ∨
      ∃ value between, action world = .ok value between ∧
        next value between = .error trouble after := by
  change EStateM.bind action next world = _ at failed
  rw [EStateM.bind] at failed
  cases first : action world with
  | ok value between =>
      rw [first] at failed
      exact .inr ⟨value, between, rfl, failed⟩
  | error trouble between =>
      rw [first] at failed
      cases failed
      exact .inl rfl

theorem bind_files (next : FileSystem → Action σ β) (world : World σ) :
    (files >>= next) world = next world.files world :=
  rfl

end Sequence

theorem during_of_ok {action : Action σ α} (attempt : String)
    (done : action world = .ok value after) : during attempt action world = .ok value after := by
  rw [during, done]

theorem during_of_error {action : Action σ α} (attempt : String)
    (failed : action world = .error trouble after) :
    during attempt action world = .error (attempt :: trouble) after := by
  rw [during, failed]

theorem during_eq_ok {action : Action σ α} {attempt : String}
    (done : during attempt action world = .ok value after) : action world = .ok value after := by
  rw [during] at done
  split at done
  · rename_i same
    cases done
    exact same
  · cases done

theorem during_eq_error {action : Action σ α} {attempt : String}
    (failed : during attempt action world = .error trouble after) :
    ∃ cause, trouble = attempt :: cause ∧ action world = .error cause after := by
  rw [during] at failed
  split at failed
  · cases failed
  · rename_i cause between same
    cases failed
    exact ⟨cause, rfl, same⟩

theorem ofResult_eq_ok {explain : ε → Trouble} {result : Except ε α}
    (done : ofResult explain result world = .ok value after) :
    result = .ok value ∧ after = world := by
  cases result <;> cases done
  exact ⟨rfl, rfl⟩

theorem changeFiles_eq_ok {change : FileSystem → Option FileSystem} {result : Unit}
    (done : changeFiles change world = .ok result after) :
    ∃ changed, change world.files = some changed ∧ after = { world with files := changed } := by
  rw [changeFiles] at done
  split at done
  · rename_i changed same
    cases done
    exact ⟨changed, same, rfl⟩
  · cases done

theorem changeFiles_of_some {change : FileSystem → Option FileSystem} {changed : FileSystem}
    (possible : change world.files = some changed) :
    changeFiles change world = .ok () { world with files := changed } := by
  rw [changeFiles, possible]

theorem eq_of_changeFiles_error {change : FileSystem → Option FileSystem}
    (failed : changeFiles change world = .error trouble after) : after = world := by
  rw [changeFiles] at failed
  split at failed
  · cases failed
  · cases failed
    rfl

section WriteFile

variable {room : Room} {path : String} {content : Bytes}

theorem writeFile_of_fitting {changed : FileSystem}
    (fits : world.files.fitting room path content = content)
    (written : world.files.write? path content = some changed) :
    writeFile room path content world = .ok () { world with files := changed } := by
  have stored : changeFiles (fun files => files.write? path content) world = .ok () _ :=
    changeFiles_of_some written
  rw [writeFile, bind_files, fits,
    bind_of_ok stored, if_neg (not_not_intro rfl)]
  rfl

theorem writeFile_of_full {changed : FileSystem}
    (full : world.files.fitting room path content ≠ content)
    (written : world.files.write? path (world.files.fitting room path content) = some changed) :
    writeFile room path content world = .error Trouble.system { world with files := changed } := by
  have stored : changeFiles (fun files =>
      files.write? path (world.files.fitting room path content)) world = .ok () _ :=
    changeFiles_of_some written
  rw [writeFile, bind_files, bind_of_ok stored, if_pos full]
  rfl

/-- A file that was written holds all of its content. -/
theorem writeFile_eq_ok {result : Unit}
    (done : writeFile room path content world = .ok result after) :
    world.files.fitting room path content = content ∧
      ∃ changed, world.files.write? path content = some changed ∧
        after = { world with files := changed } := by
  rw [writeFile, bind_files] at done
  obtain ⟨_, between, stored, done⟩ := bind_eq_ok done
  obtain ⟨changed, written, rfl⟩ := changeFiles_eq_ok stored
  by_cases fits : world.files.fitting room path content = content
  · rw [if_neg (not_not_intro fits)] at done
    cases done
    rw [fits] at written
    exact ⟨fits, changed, written, rfl⟩
  · rw [if_pos fits] at done
    cases done

/-- A file that was not written is as it was, or it holds a beginning of its content, not all of it. -/
theorem writeFile_eq_error (failed : writeFile room path content world = .error trouble after) :
    after = world ∨
      world.files.fitting room path content ≠ content ∧
        ∃ changed, world.files.write? path (world.files.fitting room path content) = some changed ∧
          after = { world with files := changed } := by
  rw [writeFile, bind_files] at failed
  rcases bind_eq_error failed with refused | ⟨_, between, stored, failed⟩
  · exact .inl (eq_of_changeFiles_error refused)
  · obtain ⟨changed, written, rfl⟩ := changeFiles_eq_ok stored
    by_cases fits : world.files.fitting room path content = content
    · rw [if_neg (not_not_intro fits)] at failed
      cases failed
    · rw [if_pos fits] at failed
      cases failed
      exact .inr ⟨fits, changed, written, rfl⟩

end WriteFile

section OrRemove

variable {action : Action σ α} {path : String}

theorem orRemove_of_ok (done : action world = .ok value after) :
    orRemove path action world = .ok value after := by
  rw [orRemove, done]

theorem orRemove_eq_ok (done : orRemove path action world = .ok value after) :
    action world = .ok value after := by
  rw [orRemove] at done
  split at done
  · rename_i same
    cases done
    exact same
  · cases done

theorem orRemove_eq_error (failed : orRemove path action world = .error trouble after) :
    ∃ between, action world = .error trouble between ∧
      after = { between with files := between.files.remove path } := by
  rw [orRemove] at failed
  split at failed
  · cases failed
  · rename_i cause between same
    cases failed
    exact ⟨between, same, rfl⟩

end OrRemove

theorem exchange_of_ok {explain : ε → Trouble} {talk : σ → Except ε α × σ} {network : σ}
    (talked : talk world.network = (.ok value, network)) :
    exchange explain talk world = .ok value { world with network := network } := by
  rw [exchange, talked]

theorem openAt_of_found {path : String} (found : (world.files.lookup? path).isSome) :
    openAt path world = .ok () world := by
  rw [openAt, if_pos found]

theorem readText_of_read? {path text : String} {content : Bytes}
    (found : world.files.read? path = some content) (spelled : content.toText? = some text) :
    readText path world = .ok text world := by
  rw [readText, found]
  dsimp only
  rw [spelled]

/-- The files stay as they are, and of every failure something is told. -/
structure LeavesFiles (tells : Trouble → Prop) (action : Action σ α) : Prop where
  of_ok : ∀ {world value after}, action world = .ok value after → after.files = world.files
  of_error : ∀ {world trouble after}, action world = .error trouble after →
    after.files = world.files ∧ tells trouble

section LeavesFiles

variable {tells tellsInside : Trouble → Prop}

theorem pure_leavesFiles (value : α) : (pure value : Action σ α).LeavesFiles tells where
  of_ok done := by
    cases done
    rfl
  of_error failed := by cases failed

theorem throw_leavesFiles (told : tells trouble) :
    (throw trouble : Action σ α).LeavesFiles tells where
  of_ok done := by cases done
  of_error failed := by
    cases failed
    exact ⟨rfl, told⟩

theorem LeavesFiles.bind {action : Action σ α} {next : α → Action σ β}
    (first : action.LeavesFiles tells) (second : ∀ value, (next value).LeavesFiles tells) :
    (action >>= next).LeavesFiles tells where
  of_ok done := by
    obtain ⟨value, between, before, later⟩ := bind_eq_ok done
    rw [(second value).of_ok later, first.of_ok before]
  of_error failed := by
    rcases bind_eq_error failed with before | ⟨value, between, before, later⟩
    · exact first.of_error before
    · obtain ⟨same, told⟩ := (second value).of_error later
      exact ⟨same.trans (first.of_ok before), told⟩

/-- A failure comes from the first step, which has left the files alone, or from what follows it. -/
theorem LeavesFiles.bind_eq_error {action : Action σ α} {next : α → Action σ β}
    (first : action.LeavesFiles tells) (failed : (action >>= next) world = .error trouble after) :
    (after.files = world.files ∧ tells trouble) ∨
      ∃ value between, action world = .ok value between ∧ between.files = world.files ∧
        next value between = .error trouble after := by
  rcases Action.bind_eq_error failed with before | ⟨value, between, before, later⟩
  · exact .inl (first.of_error before)
  · exact .inr ⟨value, between, before, first.of_ok before, later⟩

theorem LeavesFiles.during {action : Action σ α} {attempt : String}
    (inside : action.LeavesFiles tellsInside) (told : ∀ cause, tells (attempt :: cause)) :
    (during attempt action).LeavesFiles tells where
  of_ok done := inside.of_ok (during_eq_ok done)
  of_error failed := by
    obtain ⟨cause, rfl, before⟩ := during_eq_error failed
    exact ⟨(inside.of_error before).1, told cause⟩

theorem ofResult_leavesFiles (explain : ε → Trouble) (result : Except ε α) :
    (ofResult explain result : Action σ α).LeavesFiles fun _ => True where
  of_ok done := by
    cases result <;> cases done
    rfl
  of_error failed := by
    cases result <;> cases failed
    exact ⟨rfl, trivial⟩

theorem exchange_leavesFiles (explain : ε → Trouble) (talk : σ → Except ε α × σ) :
    (exchange explain talk).LeavesFiles fun _ => True where
  of_ok done := by
    rw [exchange] at done
    split at done <;> cases done
    rfl
  of_error failed := by
    rw [exchange] at failed
    split at failed <;> cases failed
    exact ⟨rfl, trivial⟩

theorem readText_leavesFiles (path : String) :
    (readText path : Action σ String).LeavesFiles fun _ => True where
  of_ok done := by
    rw [readText] at done
    split at done
    · cases done
    · split at done <;> cases done
      rfl
  of_error failed := by
    rw [readText] at failed
    split at failed
    · cases failed
      exact ⟨rfl, trivial⟩
    · split at failed <;> cases failed
      exact ⟨rfl, trivial⟩

theorem openAt_leavesFiles {path : String} (told : tells (s!"opening {path}" :: Trouble.system)) :
    (openAt path : Action σ Unit).LeavesFiles tells where
  of_ok done := by
    rw [openAt] at done
    split at done <;> cases done
    rfl
  of_error failed := by
    rw [openAt] at failed
    split at failed <;> cases failed
    exact ⟨rfl, told⟩

end LeavesFiles

end SealedContent.Program.Action
