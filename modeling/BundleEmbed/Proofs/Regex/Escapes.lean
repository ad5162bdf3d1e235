import BundleEmbed.Proofs.Reader
import BundleEmbed.Text.Sign

/-!
Texts that end within an escape.

A backslash escapes the character after it, whatever that is, so the backslashes of a text are
paired with what follows them from the left. A text ends within an escape when its last backslash
has nothing left to escape. A reader that takes escapes as a whole leaves such an end as it is.

* `escapeInduction`: induction on a text by escapes and single characters.
* `endsInEscape_append`, `endsInEscape_append_cons`: how a text that goes on ends.
* `IsRest`: what is left of a text that is read by escapes and single characters.
-/

namespace BundleEmbed.Regex

/-! ### The end of a text -/

/-- The last backslash of a text has nothing to escape. Backslashes are paired with what follows
them from the left. -/
def endsInEscape : List Sign → Bool
  | [] => false
  | [.char '\\'] => true
  | .char '\\' :: _ :: rest => endsInEscape rest
  | _ :: rest => endsInEscape rest

@[simp] theorem endsInEscape_nil : endsInEscape [] = false := rfl

@[simp] theorem endsInEscape_backslash : endsInEscape [.char '\\'] = true := rfl

@[simp] theorem endsInEscape_escape (c : Sign) (rest : List Sign) :
    endsInEscape (.char '\\' :: c :: rest) = endsInEscape rest := rfl

@[simp] theorem endsInEscape_cons {c : Sign} (rest : List Sign) (single : c ≠ .char '\\') :
    endsInEscape (c :: rest) = endsInEscape rest := by
  rw [endsInEscape.eq_def]
  split <;> simp_all

/-- Induction on a text by escapes and single characters. -/
theorem escapeInduction {motive : List Sign → Prop} (nil : motive []) (lone : motive [.char '\\'])
    (escape : ∀ c rest, motive rest → motive (.char '\\' :: c :: rest))
    (single : ∀ c rest, c ≠ .char '\\' → motive rest → motive (c :: rest)) (text : List Sign) :
    motive text := by
  induction text using endsInEscape.induct with
  | case1 => exact nil
  | case2 => exact lone
  | case3 c rest ih => exact escape c rest ih
  | case4 c rest notLone notEscape ih =>
      refine single c rest ?_ ih
      rintro rfl
      cases rest with
      | nil => exact notLone rfl rfl
      | cons d rest => exact notEscape d rest rfl rfl

/-- What follows a text that does not end within an escape decides how the whole ends. -/
theorem endsInEscape_append {text : List Sign} (closed : endsInEscape text = false)
    (more : List Sign) : endsInEscape (text ++ more) = endsInEscape more := by
  induction text using escapeInduction with
  | nil => rfl
  | lone => cases closed
  | escape c rest ih => exact ih closed
  | single c rest notEscape ih =>
      rw [endsInEscape_cons rest notEscape] at closed
      rw [List.cons_append, endsInEscape_cons _ notEscape, ih closed]

/-- What follows a text that ends within an escape gives it something to escape. -/
theorem endsInEscape_append_cons {text : List Sign} (ends : endsInEscape text = true) (c : Sign)
    (more : List Sign) : endsInEscape (text ++ c :: more) = endsInEscape more := by
  induction text using escapeInduction with
  | nil => cases ends
  | lone => rfl
  | escape d rest ih => exact ih ends
  | single d rest notEscape ih =>
      rw [endsInEscape_cons rest notEscape] at ends
      rw [List.cons_append, endsInEscape_cons _ notEscape, ih ends]

/-- The backslash within which a text ends can be taken away. -/
theorem exists_append_backslash {text : List Sign} (ends : endsInEscape text = true) :
    ∃ before, text = before ++ [.char '\\'] ∧ endsInEscape before = false := by
  induction text using escapeInduction with
  | nil => cases ends
  | lone => exact ⟨[], rfl, rfl⟩
  | escape c rest ih =>
      obtain ⟨before, rfl, closed⟩ := ih ends
      exact ⟨.char '\\' :: c :: before, rfl, closed⟩
  | single c rest notEscape ih =>
      rw [endsInEscape_cons rest notEscape] at ends
      obtain ⟨before, rfl, closed⟩ := ih ends
      exact ⟨c :: before, rfl, by rw [endsInEscape_cons _ notEscape, closed]⟩

/-- What is left of a text that is read construct by construct: an end of it that does not end
within an escape. -/
structure IsRest (whole rest : List Sign) : Prop where
  isSuffix : rest <:+ whole
  closed : endsInEscape rest = false

namespace IsRest

variable {whole rest after : List Sign} {c : Sign}

theorem ne_backslash (left : IsRest whole rest) : rest ≠ [.char '\\'] := by
  rintro rfl
  cases left.closed

theorem tail (left : IsRest whole (c :: rest)) (single : c ≠ .char '\\') : IsRest whole rest where
  isSuffix := suffix_of_cons_suffix left.isSuffix
  closed := by simpa [single] using left.closed

theorem ofEscape (left : IsRest whole (.char '\\' :: c :: rest)) : IsRest whole rest where
  isSuffix := suffix_of_cons_suffix (suffix_of_cons_suffix left.isSuffix)
  closed := left.closed

theorem within (left : IsRest rest after) (inside : rest <:+ whole) : IsRest whole after where
  isSuffix := left.isSuffix.trans inside
  closed := left.closed

end IsRest

end BundleEmbed.Regex
