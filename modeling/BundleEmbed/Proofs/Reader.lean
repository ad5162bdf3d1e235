import Mathlib

/-!
Readers that may fail.

A reader takes a text from the left and gives what it has read with the rest of the text, or a
fault. `Gives` says of a step what its result is like and with which faults it may fail, and
steps put together keep what they say. `Leaves` is the case of a step whose rest is an end of
the whole text. So a fault that a step blames on the text before it is one that the reader
blames on the whole text.
-/

namespace BundleEmbed

variable {ε σ α β : Type}

/-! ### Steps that succeed -/

/-- A chain of two steps succeeds when both do. -/
theorem bind_eq_ok_iff {first : Except ε α} {second : α → Except ε β} {b : β} :
    first >>= second = .ok b ↔ ∃ a, first = .ok a ∧ second a = .ok b := by
  cases first <;> simp [bind, Except.bind]

/-- A step without effect succeeds with its value. -/
theorem pure_eq_ok_iff {a b : α} : (pure a : Except ε α) = .ok b ↔ a = b := by
  simp [pure, Except.pure]

/-! ### What steps give -/

/-- A step gives something of a kind, or fails with a fault that is allowed. -/
def Gives (allowed : ε → Prop) (kind : α → Prop) : Except ε α → Prop
  | .ok a => kind a
  | .error fault => allowed fault

/-- A step of a reader leaves an end of the whole text, or fails with a fault that is due to
something in it. -/
abbrev Leaves (due : List σ → ε → Prop) (whole : List σ) (step : Except ε (α × List σ)) : Prop :=
  Gives (due whole) (fun found => found.2 <:+ whole) step

/-- What follows the first member of an end is an end too. -/
theorem suffix_of_cons_suffix {c : σ} {rest whole : List σ} (inside : c :: rest <:+ whole) :
    rest <:+ whole :=
  (List.suffix_cons c rest).trans inside

namespace Gives

variable {allowed : ε → Prop} {kind : α → Prop} {step : Except ε α}

/-- Two steps, the second of which is taken with what the first gives. -/
theorem bind {next : α → Except ε β} {later : β → Prop} (first : Gives allowed kind step)
    (second : ∀ a, kind a → Gives allowed later (next a)) :
    Gives allowed later (step >>= next) := by
  cases step with
  | error fault => exact first
  | ok a => exact second a first

/-- A step whose result is turned into something else. -/
theorem map {f : α → β} {other : β → Prop} (gives : Gives allowed kind step)
    (turned : ∀ a, kind a → other (f a)) : Gives allowed other (f <$> step) := by
  cases step with
  | error fault => exact gives
  | ok a => exact turned a gives

/-- What a step gives is of a wider kind as well. -/
theorem mono {wider : α → Prop} (gives : Gives allowed kind step)
    (implied : ∀ a, kind a → wider a) : Gives allowed wider step := by
  cases step with
  | error fault => exact gives
  | ok a => exact implied a gives

/-- A step that fails does so with a fault that is allowed. -/
theorem allowed_of_eq_error {fault : ε} (gives : Gives allowed kind step)
    (failed : step = .error fault) : allowed fault := by
  rw [failed] at gives
  exact gives

end Gives

end BundleEmbed
