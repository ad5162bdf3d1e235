import BundleEmbed.Proofs.Restriction

/-!
Passes one after the other.

A pass over two lists of clauses can be split into two. The first half then takes what is
inlined out of what is embedded once more than the whole pass does. That changes nothing:
what it takes out stays inlined, so if the second half embeds it again, it takes it out
again, and everything else keeps its place.

* `Classification.preferInlined_addAll_preferInlined`: taking out once more on the way changes
  nothing in the end.
* `Pass.classification_run`: what a pass leaves, whether it comes to its end or not.
* `classify_append`: a pass over two lists of clauses is two passes, and a pass that is
  repeated changes nothing.
-/

namespace BundleEmbed

open Regex (Release)

/-! ### Putting in what is there -/

/-- Putting in members that a set has already changes nothing. -/
theorem OrderedSet.insertAll_of_subset {α : Type} [DecidableEq α] {s : OrderedSet α}
    {members : List α} (known : ∀ a ∈ members, a ∈ s) : s.insertAll members = s := by
  induction members with
  | nil => rfl
  | cons a members ih =>
      have same : s.insert a = s := by
        apply OrderedSet.ext
        rw [toList_insert, if_pos (known a List.mem_cons_self)]
      rw [insertAll_cons, same]
      exact ih fun b isLater => known b (.tail _ isLater)

namespace Classification

variable [Release] (c : Classification) (candidates : List Dependency)
    (first second clauses : List Clause)

/-- Two lists of clauses add what they select one after the other. -/
theorem addAll_append :
    c.addAll candidates (first ++ second) =
      (c.addAll candidates first).addAll candidates second :=
  List.foldl_append

/-- What clauses have added they do not add again. -/
theorem addAll_addAll :
    (c.addAll candidates clauses).addAll candidates clauses = c.addAll candidates clauses := by
  rw [addAll_eq, addAll_eq]
  dsimp only
  rw [OrderedSet.insertAll_of_subset fun d selected => OrderedSet.mem_insertAll.mpr (.inr selected),
    OrderedSet.insertAll_of_subset fun d selected => OrderedSet.mem_insertAll.mpr (.inr selected)]

/-- What clauses leave when what is inlined in the end is taken out at once, of what was
embedded before and of what they embed. -/
theorem preferInlined_addAll :
    let inlined := c.inlined.insertAll (clauses.flatMap fun clause =>
      candidates.filter clause.inlines)
    (c.addAll candidates clauses).preferInlined =
      ⟨inlined, (c.embedded.filter (· ∉ inlined)).insertAll
        ((clauses.flatMap fun clause => candidates.filter clause.embeds).filter
          (· ∉ inlined))⟩ := by
  intro inlined
  rw [addAll_eq, ← OrderedSet.filter_insertAll]
  rfl

/-- What is inlined may be taken out of what is embedded before clauses add more, as it is
taken out after that anyway. -/
theorem preferInlined_addAll_preferInlined :
    (c.preferInlined.addAll candidates clauses).preferInlined =
      (c.addAll candidates clauses).preferInlined := by
  have unchanged : c.preferInlined.inlined = c.inlined := rfl
  rw [preferInlined_addAll, preferInlined_addAll, unchanged, Classification.mk.injEq]
  refine ⟨rfl, congrArg (fun known : OrderedSet Dependency => known.insertAll _)
    (OrderedSet.ext ?_)⟩
  -- what was taken out before is inlined still
  rw [preferInlined, OrderedSet.toList_filter, OrderedSet.toList_filter, OrderedSet.toList_filter,
    List.filter_filter]
  refine List.filter_congr fun d _ => ?_
  by_cases isInlined : d ∈ c.inlined
  · simp [OrderedSet.mem_insertAll, isInlined]
  · simp [isInlined]

end Classification

/-! ### Passes one after the other -/

section Passes

variable [Release] {candidates : List Dependency} {first second clauses : List Clause}

/-- A pass over two lists of clauses comes to its end when passes over both do, whatever
they start from. -/
theorem Pass.failure_run_append_eq_none_iff {c c' : Classification} :
    (run candidates (first ++ second) c).failure = none ↔
      (run candidates first c).failure = none ∧ (run candidates second c').failure = none := by
  simp only [failure_run_eq_none_iff, List.forall_mem_append]

/-- What a pass leaves: its clauses up to the first that is refused have added what they
select, and if there is none, what is inlined has been taken out of what is embedded. -/
theorem Pass.classification_run (c : Classification) :
    let added := c.addAll candidates (Clause.untilRefused candidates clauses)
    (run candidates clauses c).classification =
      if (run candidates clauses c).failure = none then added.preferInlined else added := by
  intro added
  rcases run_cases candidates clauses c with
    ⟨selects, whole, result⟩ | ⟨-, -, fault, -, -, ended, result⟩
  · have allApplied : Clause.untilRefused candidates clauses = clauses :=
      List.takeWhile_eq_self_iff.mpr selects
    rw [if_pos whole, result]
    simp only [added, allApplied]
  · rw [if_neg (by rw [ended]; nofun), result]

/-- A pass into what it has left before changes nothing, whether it comes to its end or
not. -/
theorem Pass.classification_run_run (c : Classification) :
    let left := (run candidates clauses c).classification
    (run candidates clauses left).classification = left := by
  intro left
  have again : (run candidates clauses left).failure = none ↔
      (run candidates clauses c).failure = none := by
    rw [failure_run_eq_none_iff, failure_run_eq_none_iff]
  have form : left = _ := classification_run c
  rw [classification_run left]
  by_cases whole : (run candidates clauses c).failure = none
  · rw [if_pos (again.mpr whole), form, if_pos whole,
      Classification.preferInlined_addAll_preferInlined, Classification.addAll_addAll]
  · rw [if_neg (mt again.mp whole), form, if_neg whole, Classification.addAll_addAll]

end Passes

/-- A pass over two lists of clauses comes to its end exactly when a pass over the first and
then a pass over the second into its outcome do, and it leaves the same, in the same order.
A pass that is repeated changes nothing, even one that fails. -/
theorem classify_append [Release] (dependencies : List Dependency) (first second : List Clause)
    (start : Classification) :
    let whole := classify dependencies (first ++ second) start
    let before := classify dependencies first start
    let after := classify dependencies second before.classification
    (whole.failure = none ↔ before.failure = none ∧ after.failure = none) ∧
      (whole.failure = none → whole.classification = after.classification) ∧
      (classify dependencies first before.classification).classification =
        before.classification := by
  intro whole before after
  have succeeds : whole.failure = none ↔ before.failure = none ∧ after.failure = none :=
    Pass.failure_run_append_eq_none_iff
  refine ⟨succeeds, fun ended => ?_, Pass.classification_run_run start⟩
  obtain ⟨endedBefore, endedAfter⟩ := succeeds.mp ended
  let candidates := Dependency.distinct dependencies
  calc whole.classification
      = (start.addAll candidates (first ++ second)).preferInlined :=
        Pass.classification_of_whole ended
    _ = ((start.addAll candidates first).addAll candidates second).preferInlined := by
        rw [Classification.addAll_append]
    _ = ((start.addAll candidates first).preferInlined.addAll candidates second).preferInlined :=
        (Classification.preferInlined_addAll_preferInlined _ _ _).symm
    _ = (before.classification.addAll candidates second).preferInlined := by
        have left : before.classification = (start.addAll candidates first).preferInlined :=
          Pass.classification_of_whole endedBefore
        rw [left]
    _ = after.classification := (Pass.classification_of_whole endedAfter).symm

end BundleEmbed
