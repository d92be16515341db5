import SealedContent.Config.Basic
import SealedContent.Config.HomePath
import SealedContent.Proofs.Text.Split

/-!
Paths and the parts that they consist of. A path that is joined to an absolute one goes on with its own
steps, so what stands behind a tilde and a slash goes on from the home directory. Only a rest that starts
with another slash does not: it is a path from the root, and it is all that is left.
-/

namespace SealedContent.Config

/-- A part of a path. The first two say where a path starts and lead nowhere by themselves. -/
inductive Component where
  | root
  | here
  | above
  | name (text : List Char)
deriving DecidableEq

namespace Component

def isStep : Component → Bool
  | root | here => false
  | above | name _ => true

/-- The step by a piece between slashes; by an empty one or a dot there is none. -/
def ofPiece? (piece : List Char) : Option Component :=
  if piece = [] ∨ piece = ['.'] then none
  else if piece = ['.', '.'] then some above
  else some (name piece)

end Component

def steps (path : List Char) : List Component :=
  (Text.splitWhere (· = '/') path).filterMap Component.ofPiece?

/-- A path starts at the root, at a dot that stands for the directory at hand, or with its steps. -/
def start (path : List Char) : List Component :=
  if path.head? = some '/' then [.root]
  else if (Text.splitWhere (· = '/') path).head? = some ['.'] then [.here]
  else []

def components (path : String) : List Component :=
  start path.toList ++ steps path.toList

def IsAbsolute (path : String) : Prop :=
  path.toList.head? = some '/'

instance (path : String) : Decidable (IsAbsolute path) :=
  inferInstanceAs (Decidable (_ = _))

section Steps

theorem isStep_of_ofPiece? {piece : List Char} {component : Component}
    (leads : Component.ofPiece? piece = some component) : component.isStep = true := by
  unfold Component.ofPiece? at leads
  split at leads
  · cases leads
  · split at leads <;> cases leads <;> rfl

/-- A path without its start consists of its steps. -/
theorem filter_components (path : String) :
    (components path).filter Component.isStep = steps path.toList := by
  have start_nowhere : (start path.toList).filter Component.isStep = [] := by
    unfold start
    split
    · rfl
    · split <;> rfl
  have all_steps : ∀ component ∈ steps path.toList, component.isStep = true := by
    intro component member
    obtain ⟨piece, -, leads⟩ := List.mem_filterMap.mp member
    exact isStep_of_ofPiece? leads
  rw [components, List.filter_append, start_nowhere, List.filter_eq_self.mpr all_steps,
    List.nil_append]

theorem components_of_absolute {path : String} (absolute : IsAbsolute path) :
    components path = .root :: steps path.toList := by
  unfold IsAbsolute at absolute
  rw [components, start, if_pos absolute, List.singleton_append]

theorem steps_append_slash (first second : List Char) :
    steps (first ++ '/' :: second) = steps first ++ steps second := by
  rw [steps, Text.splitWhere_append_separator (by rfl), List.filterMap_append, steps, steps]

end Steps

section Join

variable {directory path : List Char}

/-- Two texts are joined by one slash, which may be the last character of the first. -/
theorem exists_joined (filled : directory ≠ []) (relative : path.head? ≠ some '/') :
    ∃ front, joinPath directory path = front ++ '/' :: path ∧
      (directory = front ∨ directory = front ++ ['/']) := by
  have kept : directory.isEmpty = false := List.isEmpty_eq_false_iff.mpr filled
  rw [joinPath, if_neg relative, kept]
  by_cases slash : directory.getLast? = some '/'
  · obtain ⟨front, ends⟩ := List.getLast?_eq_some_iff.mp slash
    refine ⟨front, ?_, .inr ends⟩
    rw [if_pos (.inr slash), ends, List.append_assoc, List.singleton_append]
  · exact ⟨directory, if_neg (by simp [slash]), .inl rfl⟩

theorem steps_joinPath (filled : directory ≠ []) (relative : path.head? ≠ some '/') :
    steps (joinPath directory path) = steps directory ++ steps path := by
  obtain ⟨front, joined, rfl | rfl⟩ := exists_joined filled relative
  · rw [joined, steps_append_slash]
  · have last : steps (front ++ ['/']) = steps front :=
      (steps_append_slash front []).trans (List.append_nil _)
    rw [joined, steps_append_slash, last]

theorem joinPath_of_absolute (absolute : path.head? = some '/') : joinPath directory path = path :=
  if_pos absolute

/-- Followed from the root or from an absolute path, every path is absolute. -/
theorem head?_joinPath (absolute : directory.head? = some '/') (path : List Char) :
    (joinPath directory path).head? = some '/' := by
  unfold joinPath
  split
  · assumption
  · obtain ⟨rest, rfl⟩ := List.head?_eq_some_iff.mp absolute
    split <;> rfl

end Join

section Expand

variable {home : String}

theorem expandHome_tilde (home rest : String) :
    expandHome home ("~/" ++ rest) = String.ofList (joinPath home.toList rest.toList) := by
  unfold expandHome
  rw [String.toList_append]
  rfl

theorem expandHome_of_plain {path : String} (plain : ∀ rest, path ≠ "~/" ++ rest) :
    expandHome home path = path := by
  unfold expandHome
  split
  · rename_i rest spelled
    refine absurd ?_ (plain (String.ofList rest))
    apply String.toList_injective
    rw [spelled, String.toList_append, String.toList_ofList, String.toList_ofList]
    rfl
  · rfl

theorem ne_nil_of_absolute (absolute : IsAbsolute home) : home.toList ≠ [] := by
  intro empty
  rw [IsAbsolute, empty] at absolute
  cases absolute

theorem expandHome_absolute (absolute : IsAbsolute home) (rest : String) :
    IsAbsolute (expandHome home ("~/" ++ rest)) := by
  rw [IsAbsolute, expandHome_tilde, String.toList_ofList]
  exact head?_joinPath absolute rest.toList

/-- A path that has been written out has no tilde left in front. -/
theorem expandHome_expandHome (absolute : IsAbsolute home) (path : String) :
    expandHome home (expandHome home path) = expandHome home path := by
  by_cases tilde : ∃ rest, path = "~/" ++ rest
  · obtain ⟨rest, rfl⟩ := tilde
    apply expandHome_of_plain
    intro other same
    have slash := expandHome_absolute absolute rest
    rw [same, IsAbsolute, String.toList_append] at slash
    cases slash
  · have plain : expandHome home path = path := expandHome_of_plain (not_exists.mp tilde)
    rw [plain, plain]

theorem expandHome_of_slash {rest : String} (absolute : IsAbsolute rest) :
    expandHome home ("~/" ++ rest) = rest := by
  rw [expandHome_tilde, joinPath_of_absolute absolute, String.ofList_toList]

theorem components_expandHome (absolute : IsAbsolute home) {rest : String}
    (relative : ¬ IsAbsolute rest) :
    components (expandHome home ("~/" ++ rest)) = components home ++ steps rest.toList := by
  rw [components_of_absolute (expandHome_absolute absolute rest), components_of_absolute absolute,
    expandHome_tilde, String.toList_ofList, steps_joinPath (ne_nil_of_absolute absolute) relative,
    List.cons_append]

/-- The rest follows the home directory, if it is not a path of its own or if home is the root. -/
theorem components_expandHome_iff (absolute : IsAbsolute home) (rest : String) :
    components (expandHome home ("~/" ++ rest)) =
        components home ++ (components rest).filter Component.isStep ↔
      ¬ IsAbsolute rest ∨ components home = [.root] := by
  rw [filter_components]
  by_cases rooted : IsAbsolute rest
  · rw [expandHome_of_slash rooted, components_of_absolute rooted, components_of_absolute absolute]
    simp [rooted]
  · exact iff_of_true (components_expandHome absolute rooted) (.inl rooted)

end Expand

def Identity.writtenOut (home : String) (identity : Identity) : Identity :=
  { identity with
    signingKeyFile := identity.signingKeyFile.map (expandHome home)
    proofFile := identity.proofFile.map (expandHome home) }

end SealedContent.Config
