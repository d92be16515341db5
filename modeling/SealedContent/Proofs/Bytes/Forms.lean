import Mathlib.Data.List.Infix
import SealedContent.Bytes.Basic

/-!
Readers that tell by themselves where a form ends. Such a reader takes a form off the front of its input
without looking past it, so the form may stand before anything, and one reader may follow another.
-/

namespace SealedContent.Bytes

variable {α β : Type}

/-- What was read is a form at the front, and the form reads alike in front of any other bytes. -/
structure TakesForm (read : Bytes → Option (α × Bytes)) : Prop where
  exists_form : ∀ {input : Bytes} {value : α} {rest : Bytes}, read input = some (value, rest) →
    ∃ form, input = form ++ rest ∧ ∀ more, read (form ++ more) = some (value, more)

namespace TakesForm

variable {read : Bytes → Option (α × Bytes)} {input rest : Bytes} {value : α}

theorem suffix (takes : TakesForm read) (found : read input = some (value, rest)) :
    rest <:+ input := by
  obtain ⟨form, rfl, -⟩ := takes.exists_form found
  exact List.suffix_append form rest

theorem append (takes : TakesForm read) (found : read input = some (value, rest)) (more : Bytes) :
    read (input ++ more) = some (value, rest ++ more) := by
  obtain ⟨form, rfl, alike⟩ := takes.exists_form found
  rw [List.append_assoc]
  exact alike (rest ++ more)

theorem eq_some_iff (takes : TakesForm read) :
    read input = some (value, rest) ↔ ∃ form, read form = some (value, []) ∧ input = form ++ rest := by
  constructor
  · intro found
    obtain ⟨form, cut, alike⟩ := takes.exists_form found
    have alone := alike []
    rw [List.append_nil] at alone
    exact ⟨form, alone, cut⟩
  · rintro ⟨form, alone, rfl⟩
    exact takes.append alone rest

theorem bind (takes : TakesForm read) {next : α → Bytes → Option (β × Bytes)}
    (takesNext : ∀ value, TakesForm (next value)) :
    TakesForm fun input => (read input).bind fun pair => next pair.1 pair.2 := by
  refine ⟨fun {input result rest} found => ?_⟩
  obtain ⟨⟨value, after⟩, first, second⟩ := Option.bind_eq_some_iff.mp found
  obtain ⟨form, rfl, alike⟩ := takes.exists_form first
  obtain ⟨nextForm, rfl, alikeNext⟩ := (takesNext value).exists_form second
  refine ⟨form ++ nextForm, (List.append_assoc _ _ _).symm, fun more => ?_⟩
  rw [List.append_assoc, alike (nextForm ++ more)]
  exact alikeNext more

/-- Nothing is taken for a value that is given. -/
theorem given (value : α) : TakesForm fun input => some (value, input) := by
  refine ⟨fun {input result rest} found => ?_⟩
  cases found
  exact ⟨[], rfl, fun more => rfl⟩

theorem refused : TakesForm fun _ => (none : Option (α × Bytes)) :=
  ⟨fun found => nomatch found⟩

end TakesForm

/-- A form of a length that is known before it is read. -/
theorem takesForm_take {size : Nat} {make : Bytes → Option α}
    (sized : ∀ bytes value, make bytes = some value → bytes.length = size) :
    TakesForm fun input => (make (input.take size)).map fun value => (value, input.drop size) := by
  refine ⟨fun {input value rest} found => ?_⟩
  obtain ⟨_, made, cut⟩ := Option.map_eq_some_iff.mp found
  cases cut
  refine ⟨input.take size, (List.take_append_drop size input).symm, fun more => ?_⟩
  have whole := sized _ _ made
  rw [List.take_left' whole, List.drop_left' whole, made]
  rfl

end SealedContent.Bytes
