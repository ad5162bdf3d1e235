import BundleEmbed.Proofs.Listing
import BundleEmbed.Proofs.Selection

/-!
What a pass leaves behind.

A pass adds what its clauses select, clause by clause, until a clause is refused or all of
them have been applied. Only in the second case is what is inlined taken out of what is
embedded.

* `Pass.run_cases`: how a pass ends, with the classification it leaves in each case.
* `Classification.mem_addAll_inlined`, `Classification.mem_addAll_embedded`: which
  dependencies a list of clauses adds to the two sets.
-/

namespace BundleEmbed

open Regex (Release)

/-! ### Adding what clauses select -/

/-- The dependencies, each once, at their first places. -/
def Dependency.distinct (dependencies : List Dependency) : List Dependency :=
  (OrderedSet.ofList dependencies).toList

@[simp] theorem Dependency.mem_distinct {dependencies : List Dependency} {d : Dependency} :
    d ∈ Dependency.distinct dependencies ↔ d ∈ dependencies :=
  (OrderedSet.toList_ofList dependencies).mem_iff d

namespace Classification

/-- The classification with what clauses that are not refused select from candidates. -/
def addAll [Release] (c : Classification) (candidates : List Dependency)
    (clauses : List Clause) : Classification :=
  clauses.foldl (fun c clause => c.add ⟨candidates.filter clause.accepts, clause.asksInline⟩) c

variable {candidates : List Dependency} {clauses : List Clause} {c : Classification}
  {d : Dependency}

/-- Adding what one clause selects puts in what it inlines and what it embeds. -/
theorem add_filter [Release] (c : Classification) (candidates : List Dependency)
    (clause : Clause) : c.add ⟨candidates.filter clause.accepts, clause.asksInline⟩ =
      ⟨c.inlined.insertAll (candidates.filter clause.inlines),
        c.embedded.insertAll (candidates.filter clause.embeds)⟩ := by
  change _ = Classification.mk
    (c.inlined.insertAll (candidates.filter fun d => clause.asksInline && clause.accepts d))
    (c.embedded.insertAll (candidates.filter fun d => !clause.asksInline && clause.accepts d))
  cases asks : clause.asksInline <;> simp [add]

/-- Adding what clauses select puts in what they inline and what they embed, clause after
clause. -/
theorem addAll_eq [Release] (c : Classification) (candidates : List Dependency)
    (clauses : List Clause) : c.addAll candidates clauses =
      ⟨c.inlined.insertAll (clauses.flatMap fun clause => candidates.filter clause.inlines),
        c.embedded.insertAll (clauses.flatMap fun clause => candidates.filter clause.embeds)⟩ := by
  induction clauses generalizing c with
  | nil => rfl
  | cons clause clauses ih =>
      rw [List.flatMap_cons, List.flatMap_cons, OrderedSet.insertAll_append,
        OrderedSet.insertAll_append]
      change addAll (c.add _) candidates clauses = _
      rw [ih, add_filter]

/-- What is inlined after clauses have added what they select. -/
theorem mem_addAll_inlined [Release] :
    d ∈ (c.addAll candidates clauses).inlined ↔
      d ∈ c.inlined ∨ d ∈ candidates ∧ ∃ clause ∈ clauses, clause.inlines d = true := by
  rw [addAll_eq, OrderedSet.mem_insertAll, mem_flatMap_filter]

/-- What is embedded after clauses have added what they select. -/
theorem mem_addAll_embedded [Release] :
    d ∈ (c.addAll candidates clauses).embedded ↔
      d ∈ c.embedded ∨ d ∈ candidates ∧ ∃ clause ∈ clauses, clause.embeds d = true := by
  rw [addAll_eq, OrderedSet.mem_insertAll, mem_flatMap_filter]

/-- At the start nothing is classified. -/
theorem not_mem_empty (d : Dependency) : d ∉ empty.inlined ∧ d ∉ empty.embedded :=
  ⟨List.not_mem_nil, List.not_mem_nil⟩

/-- Once inlining is preferred, no dependency is in both sets. -/
theorem not_mem_preferInlined_embedded (inlined : d ∈ c.preferInlined.inlined) :
    d ∉ c.preferInlined.embedded := by
  intro embedded
  have notInlined := (List.mem_filter.mp embedded).2
  exact of_decide_eq_true notInlined inlined

end Classification

/-! ### The end of a pass -/

/-- The clauses before the first one that is refused for the candidates. -/
def Clause.untilRefused [Release] (candidates : List Dependency) (clauses : List Clause) :
    List Clause :=
  clauses.takeWhile fun clause => (clause.select candidates).toBool

namespace Pass

/-- A pass either applies all its clauses and takes what is inlined out of what is
embedded, or it ends with the first clause that is refused, with what the clauses before it
have added. -/
theorem run_cases [Release] (candidates : List Dependency) (clauses : List Clause)
    (c : Classification) : ((∀ clause ∈ clauses, (clause.select candidates).toBool = true) ∧
        (run candidates clauses c).failure = none ∧
        (run candidates clauses c).classification =
          (c.addAll candidates clauses).preferInlined) ∨
      ∃ refused later fault,
        clauses = Clause.untilRefused candidates clauses ++ refused :: later ∧
        refused.select candidates = .error fault ∧
        (run candidates clauses c).failure = some fault ∧
        (run candidates clauses c).classification =
          c.addAll candidates (Clause.untilRefused candidates clauses) := by
  induction clauses generalizing c with
  | nil => exact .inl ⟨by simp, rfl, rfl⟩
  | cons clause clauses ih =>
      cases selected : clause.select candidates with
      | error fault =>
          have none : Clause.untilRefused candidates (clause :: clauses) = [] := by
            simp [Clause.untilRefused, selected, Except.toBool]
          rw [none]
          exact .inr ⟨clause, clauses, fault, rfl, selected, by simp [run, selected],
            by simp [run, selected, Classification.addAll]⟩
      | ok selection =>
          have whole := Clause.eq_of_select_ok selected
          have more : Clause.untilRefused candidates (clause :: clauses) =
              clause :: Clause.untilRefused candidates clauses := by
            simp [Clause.untilRefused, selected, Except.toBool]
          have failure : (run candidates (clause :: clauses) c).failure =
              (run candidates clauses (c.add selection)).failure := by simp [run, selected]
          have classification : (run candidates (clause :: clauses) c).classification =
              (run candidates clauses (c.add selection)).classification := by
            simp [run, selected]
          rw [more, failure, classification, whole]
          rcases ih (c.add ⟨candidates.filter clause.accepts, clause.asksInline⟩) with
            ⟨selects, noFailure, result⟩ | ⟨refused, later, fault, split, refusal, ended, result⟩
          · refine .inl ⟨?_, noFailure, result⟩
            rintro other (_ | ⟨_, isLater⟩)
            · rw [selected]; rfl
            · exact selects other isLater
          · refine .inr ⟨refused, later, fault, ?_, refusal, ended, result⟩
            exact congrArg (clause :: ·) split

/-- A pass none of whose clauses is refused applies all of them. -/
theorem run_of_select_ok [Release] {candidates : List Dependency} {clauses : List Clause}
    (selects : ∀ clause ∈ clauses, (clause.select candidates).toBool = true)
    (c : Classification) :
    (run candidates clauses c).failure = none ∧
      (run candidates clauses c).classification =
        (c.addAll candidates clauses).preferInlined := by
  rcases run_cases candidates clauses c with ⟨-, ended⟩ | ⟨refused, later, fault, split, refusal, -⟩
  · exact ended
  · have selected := selects refused (by rw [split]; simp)
    rw [refusal] at selected
    cases selected

/-- A pass comes to its end when none of its clauses is refused, whatever it starts from. -/
theorem failure_run_eq_none_iff [Release] {candidates : List Dependency} {clauses : List Clause}
    {c : Classification} :
    (run candidates clauses c).failure = none ↔
      ∀ clause ∈ clauses, (clause.select candidates).toBool = true := by
  refine ⟨fun whole => ?_, fun selects => (run_of_select_ok selects c).1⟩
  rcases run_cases candidates clauses c with ⟨selects, -⟩ | ⟨-, -, fault, -, -, ended, -⟩
  · exact selects
  · rw [whole] at ended
    cases ended

/-- What a pass leaves that comes to its end. -/
theorem classification_of_whole [Release] {candidates : List Dependency} {clauses : List Clause}
    {c : Classification} (whole : (run candidates clauses c).failure = none) :
    (run candidates clauses c).classification = (c.addAll candidates clauses).preferInlined :=
  (run_of_select_ok (failure_run_eq_none_iff.mp whole) c).2

end Pass

end BundleEmbed
