import Mathlib

/-!
Runs of members of a kind in a list, such as the digits in a text.

A list may be written anew, with other members in some places. Where none of the new
members is of a kind, every run of members of that kind stood in the list before.

* `RunIn.of_rewritten`: no run comes from writing a list anew.
* `RunIn.of_append_cons`: a run does not go on past a member of another kind.
-/

namespace BundleEmbed

variable {α : Type}

/-- Members that stand in a list one after the other are all of a kind. -/
structure RunIn (kind : α → Bool) (text run : List α) : Prop where
  inside : run <:+: text
  ofKind : ∀ c ∈ run, kind c = true

/-- A list is written anew: its members stay, but for some that make place for others, and
none of the others is of a kind. -/
inductive Rewritten (kind : α → Bool) : List α → List α → Prop where
  | nil : Rewritten kind [] []
  | same {text written : List α} (c : α) (later : Rewritten kind text written) :
      Rewritten kind (c :: text) (c :: written)
  | other {text written : List α} (old new : List α) (isOther : ∀ c ∈ new, kind c = false)
      (nonempty : new ≠ []) (later : Rewritten kind text written) :
      Rewritten kind (old ++ text) (new ++ written)

variable {kind : α → Bool} {run text written first second whole : List α} {c : α}

/-- A run in a part of a list is one in the list. -/
theorem RunIn.trans (isRun : RunIn kind text run) (part : text <:+: whole) : RunIn kind whole run :=
  ⟨isRun.inside.trans part, isRun.ofKind⟩

/-! ### Runs at the beginning -/

/-- No run of a kind begins with a member of another kind. -/
theorem eq_nil_of_prefix_cons (ofKind : ∀ c ∈ run, kind c = true) (isOther : kind c = false)
    (found : run <+: c :: text) : run = [] := by
  cases run with
  | nil => rfl
  | cons first later =>
      rw [List.cons_prefix_cons] at found
      have same := ofKind first List.mem_cons_self
      rw [found.1, isOther] at same
      cases same

/-- A run at the beginning was there before the list was written anew. -/
theorem Rewritten.start_of_written (rewritten : Rewritten kind text written)
    (ofKind : ∀ c ∈ run, kind c = true) (found : run <+: written) : run <+: text := by
  induction rewritten generalizing run with
  | nil => exact found
  | same c later ih =>
      cases run with
      | nil => exact List.nil_prefix
      | cons first others =>
          rw [List.cons_prefix_cons] at found ⊢
          exact ⟨found.1, ih (fun c inside => ofKind c (.tail _ inside)) found.2⟩
  | other old new isOther nonempty later ih =>
      obtain ⟨first, others, rfl⟩ := List.exists_cons_of_ne_nil nonempty
      rw [eq_nil_of_prefix_cons ofKind (isOther first List.mem_cons_self) found]
      exact List.nil_prefix

/-- A run at the beginning does not go on past a member of another kind. -/
theorem prefix_of_prefix_append_cons (ofKind : ∀ c ∈ run, kind c = true)
    (isOther : kind c = false) (found : run <+: first ++ c :: second) : run <+: first := by
  induction first generalizing run with
  | nil => rw [eq_nil_of_prefix_cons ofKind isOther found]
  | cons a first ih =>
      cases run with
      | nil => exact List.nil_prefix
      | cons b run =>
          rw [List.cons_append, List.cons_prefix_cons] at found
          rw [List.cons_prefix_cons]
          exact ⟨found.1, ih (fun c inside => ofKind c (.tail _ inside)) found.2⟩

/-! ### Runs anywhere -/

/-- A run was there before the list was written anew. -/
theorem RunIn.of_rewritten (isRun : RunIn kind written run)
    (rewritten : Rewritten kind text written) : RunIn kind text run := by
  obtain ⟨found, ofKind⟩ := isRun
  refine ⟨?_, ofKind⟩
  induction rewritten with
  | nil => exact found
  | @same text written c later ih =>
      rcases List.infix_cons_iff.mp found with atStart | inside
      · exact ((later.same c).start_of_written ofKind atStart).isInfix
      · exact (ih inside).trans (List.suffix_cons c text).isInfix
  | @other text written old new isOther nonempty later ih =>
      suffices inside : run <:+: written from
        (ih inside).trans (List.suffix_append old text).isInfix
      clear nonempty later
      induction new with
      | nil => exact found
      | cons first others more =>
          rcases List.infix_cons_iff.mp found with atStart | inside
          · rw [eq_nil_of_prefix_cons ofKind (isOther _ List.mem_cons_self) atStart]
            exact List.nil_infix
          · exact more (fun c isNew => isOther c (.tail _ isNew)) inside

/-- A run in two lists with a member of another kind between them is one in one of them. -/
theorem RunIn.of_append_cons (isRun : RunIn kind (first ++ c :: second) run)
    (isOther : kind c = false) : RunIn kind first run ∨ RunIn kind second run := by
  obtain ⟨found, ofKind⟩ := isRun
  induction first with
  | nil =>
      rcases List.infix_cons_iff.mp found with atStart | inside
      · rw [eq_nil_of_prefix_cons ofKind isOther atStart]
        exact .inl ⟨List.nil_infix, by simp⟩
      · exact .inr ⟨inside, ofKind⟩
  | cons a first ih =>
      rcases List.infix_cons_iff.mp found with atStart | inside
      · exact .inl ⟨(prefix_of_prefix_append_cons ofKind isOther atStart).isInfix, ofKind⟩
      · exact (ih inside).imp_left fun isRun => isRun.trans (List.suffix_cons a first).isInfix

end BundleEmbed
