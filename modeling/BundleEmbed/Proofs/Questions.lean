import BundleEmbed.Proofs.Refusal

/-!
The questions of a pass, in the order in which they are asked.

A clause asks one question after the other, each about the dependencies that the ones before
have let through. Which dependencies these are is known without asking, so the questions of a
pass can be written down beforehand, and a pass fails with the fault of the first question that
has one.

* `Pass.failure_run_eq_findSome?`: what a pass fails with.
* `Pass.failure_run_congr`: the order of the dependencies has no part in it.
-/

namespace BundleEmbed

open Regex (Release)

/-- What an attribute of a clause is asked, and about which dependencies. -/
structure Question where
  entry : Text × Text
  asked : List Dependency

/-- Why a question has no answer, if it has none: the attribute is refused, or its search in
one of the dependencies comes to nothing. -/
def Question.fault? [Release] (question : Question) : Option ClauseFault :=
  (attributeFault? question.entry).or
    (if question.asked.any (·.crosses question.entry) then some (.matching .crossedGroup)
      else none)

/-- The questions of attributes that are asked one after the other. -/
def questionsOf [Release] : List (Text × Text) → List Dependency → List Question
  | [], _ => []
  | entry :: later, asked => ⟨entry, asked⟩ :: questionsOf later (asked.filter (·.passes entry))

/-- The questions of a clause, of which the first is about its pattern. -/
def Clause.questions [Release] (clause : Clause) (candidates : List Dependency) :
    List Question :=
  questionsOf clause.entries candidates

/-- An attribute narrows a selection unless its question has no answer. -/
theorem Selection.narrow_eq_fault? [Release] (selection : Selection) (entry : Text × Text) :
    selection.narrow entry =
      match Question.fault? ⟨entry, selection.dependencies⟩ with
      | some fault => .error fault
      | none => .ok ⟨selection.dependencies.filter (·.passes entry),
          if entry.1 = inlineKey then isTrueText entry.2 else selection.inline⟩ := by
  rw [Selection.narrow_eq, Question.fault?]
  cases attributeFault? entry with
  | some fault => rfl
  | none => cases selection.dependencies.any (·.crosses entry) <;> rfl

/-- Attributes are refused with the fault of the first question that has one. -/
theorem Selection.foldlM_narrow_eq_error_iff [Release] {entries : List (Text × Text)}
    {selection : Selection} {fault : ClauseFault} :
    entries.foldlM Selection.narrow selection = .error fault ↔
      (questionsOf entries selection.dependencies).findSome? Question.fault? = some fault := by
  induction entries generalizing selection with
  | nil => simp [questionsOf, pure, Except.pure]
  | cons entry entries ih =>
      rw [List.foldlM_cons, Selection.narrow_eq_fault?, questionsOf, List.findSome?_cons]
      cases Question.fault? ⟨entry, selection.dependencies⟩ with
      | some first => simp [bind, Except.bind]
      | none => exact ih

theorem Clause.select_eq_error_iff [Release] {clause : Clause} {candidates : List Dependency}
    {fault : ClauseFault} :
    clause.select candidates = .error fault ↔
      (clause.questions candidates).findSome? Question.fault? = some fault := by
  rw [Clause.select_eq_foldlM]
  exact Selection.foldlM_narrow_eq_error_iff

/-- A pass fails with the fault of the first question that has one. -/
theorem Pass.failure_run_eq_findSome? [Release] (candidates : List Dependency)
    (clauses : List Clause) (c : Classification) :
    (run candidates clauses c).failure =
      (clauses.flatMap (·.questions candidates)).findSome? Question.fault? := by
  induction clauses generalizing c with
  | nil => rfl
  | cons clause clauses ih =>
      rw [List.flatMap_cons, List.findSome?_append, run]
      cases selected : clause.select candidates with
      | error fault => rw [Clause.select_eq_error_iff.mp selected, Option.some_or]
      | ok selection =>
          have noFault : (clause.questions candidates).findSome? Question.fault? = none := by
            rw [Option.eq_none_iff_forall_ne_some]
            intro fault faulty
            rw [Clause.select_eq_error_iff.mpr faulty] at selected
            cases selected
          rw [noFault, Option.none_or]
          exact ih _

/-- Dependencies with the same members are asked alike, in any order. -/
theorem findSome?_questionsOf_congr [Release] {entries : List (Text × Text)}
    {first second : List Dependency} (sameMembers : ∀ d, d ∈ first ↔ d ∈ second) :
    (questionsOf entries first).findSome? Question.fault? =
      (questionsOf entries second).findSome? Question.fault? := by
  induction entries generalizing first second with
  | nil => rfl
  | cons entry entries ih =>
      have sameCrossing : first.any (·.crosses entry) = second.any (·.crosses entry) := by
        rw [Bool.eq_iff_iff]
        simp only [List.any_eq_true, sameMembers]
      have sameLater := @ih (first.filter (·.passes entry)) (second.filter (·.passes entry))
        fun d => by simp only [List.mem_filter, sameMembers]
      simp only [questionsOf, List.findSome?_cons, Question.fault?, sameCrossing]
      cases (attributeFault? entry).or _ with
      | some fault => rfl
      | none => exact sameLater

/-- A pass fails alike for candidates with the same members, whatever it starts from. -/
theorem Pass.failure_run_congr [Release] {first second : List Dependency}
    (sameMembers : ∀ d, d ∈ first ↔ d ∈ second) (clauses : List Clause) (c c' : Classification) :
    (run first clauses c).failure = (run second clauses c').failure := by
  rw [failure_run_eq_findSome?, failure_run_eq_findSome?]
  induction clauses with
  | nil => rfl
  | cons clause clauses ih =>
      rw [List.flatMap_cons, List.flatMap_cons, List.findSome?_append, List.findSome?_append, ih,
        Clause.questions, Clause.questions, findSome?_questionsOf_congr sameMembers]

end BundleEmbed
