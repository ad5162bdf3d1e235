import BundleEmbed.Text.Sign
import Mathlib.Data.List.Basic

/-!
Texts that are joined by a mark.

Nothing is escaped where texts are joined, so they are read back by splitting at the mark
exactly as long as none of them holds it.

* `splitOn_intercalate_texts`: texts without the mark are read back.
* `not_mem_of_mem_splitOn`: what is read back never holds it.
* `infix_of_mem_splitOn`: it is a part of what was split.
-/

namespace BundleEmbed

/-- Texts without a mark are what stands between the marks when they have been joined. -/
theorem splitOn_intercalate_texts {separator : Text} {mark : Sign} {texts : List Text}
    (isMark : separator.toList = [mark]) (someText : texts ≠ [])
    (unmarked : ∀ text ∈ texts, mark ∉ text.toList) :
    ((separator.intercalate texts).toList.splitOn mark).map Text.ofList = texts := by
  have parts : (separator.intercalate texts).toList.splitOn mark = texts.map Text.toList := by
    rw [Text.toList_intercalate, isMark]
    exact List.splitOn_intercalate mark (by simpa using unmarked) (by simpa using someText)
  have textAgain : Text.ofList ∘ Text.toList = id := funext Text.ofList_toList
  rw [parts, List.map_map, textAgain, List.map_id]

/-- What a list was split at is in none of the parts. -/
theorem not_mem_of_mem_splitOn {α : Type} [DecidableEq α] {a : α} {list part : List α}
    (isPart : part ∈ list.splitOn a) : a ∉ part := by
  induction list generalizing part with
  | nil =>
      rw [List.splitOn_nil, List.mem_singleton] at isPart
      rw [isPart]
      exact List.not_mem_nil
  | cons b list ih =>
      rw [List.splitOn_cons_eq_if_modifyHead] at isPart
      split at isPart
      · rcases List.mem_cons.mp isPart with rfl | isLater
        · exact List.not_mem_nil
        · exact ih isLater
      · rename_i differ
        obtain ⟨first, later, split⟩ := List.exists_cons_of_ne_nil (List.splitOn_ne_nil a list)
        rw [split, List.modifyHead_cons] at isPart
        rcases List.mem_cons.mp isPart with rfl | isLater
        · have notInFirst : a ∉ first := ih (by rw [split]; exact List.mem_cons_self)
          have notHere : a ≠ b := fun same => differ (beq_iff_eq.mpr same.symm)
          exact List.not_mem_cons_of_ne_of_not_mem notHere notInFirst
        · exact ih (by rw [split]; exact List.mem_cons_of_mem _ isLater)

/-- What is joined is a part of the whole. -/
theorem infix_intercalate_of_mem {α : Type} {separator part : List α} {parts : List (List α)}
    (isPart : part ∈ parts) : part <:+: separator.intercalate parts := by
  induction parts with
  | nil => cases isPart
  | cons first later ih =>
      cases later with
      | nil => exact ⟨[], [], by simp [List.mem_singleton.mp isPart]⟩
      | cons second later =>
          rw [List.intercalate_cons_cons]
          rcases List.mem_cons.mp isPart with rfl | isLater
          · rw [List.append_assoc]
            exact (List.prefix_append _ _).isInfix
          · exact (ih isLater).trans (List.suffix_append _ _).isInfix

/-- What a list was split into are parts of it. -/
theorem infix_of_mem_splitOn {α : Type} [DecidableEq α] {a : α} {list part : List α}
    (isPart : part ∈ list.splitOn a) : part <:+: list := by
  have isInside : part <:+: [a].intercalate (list.splitOn a) := infix_intercalate_of_mem isPart
  rwa [List.intercalate_splitOn] at isInside

end BundleEmbed
