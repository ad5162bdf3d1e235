import BundleEmbed.Proofs.Pass

/-!
Classifying only some of the dependencies.

Clauses ask about one dependency at a time, and what is put in a set keeps its order. So of
what clauses make of all candidates, the dependencies that satisfy a test are what they make
of the candidates that satisfy it.

* `Dependency.distinct_filter`: first places, seen from some of the dependencies.
* `Classification.restrict_addAll`, `Classification.restrict_preferInlined`: the two sets,
  seen from some of the dependencies.
-/

namespace BundleEmbed

open Regex (Release)

namespace OrderedSet

variable {α : Type} [DecidableEq α]

/-- Putting in one more member, seen from the members that satisfy a test. -/
theorem filter_insert (s : OrderedSet α) (a : α) (p : α → Bool) :
    (s.insert a).filter p = if p a then (s.filter p).insert a else s.filter p := by
  apply OrderedSet.ext
  by_cases passes : p a = true
  · have known : a ∈ s.filter p ↔ a ∈ s :=
      List.mem_filter.trans (and_iff_left passes)
    simp only [if_pos passes, toList_filter, toList_insert, known]
    split
    · rfl
    · rw [List.filter_append, List.filter_cons_of_pos passes, List.filter_nil]
  · rw [if_neg passes, toList_filter, toList_insert, toList_filter]
    split
    · rfl
    · rw [List.filter_append, List.filter_cons_of_neg passes, List.filter_nil, List.append_nil]

/-- Putting in more members, seen from the members that satisfy a test. -/
theorem filter_insertAll (s : OrderedSet α) (members : List α) (p : α → Bool) :
    (s.insertAll members).filter p = (s.filter p).insertAll (members.filter p) := by
  induction members generalizing s with
  | nil => rfl
  | cons a members ih =>
      rw [insertAll_cons, ih, filter_insert]
      by_cases passes : p a = true
      · rw [if_pos passes, List.filter_cons_of_pos passes, insertAll_cons]
      · rw [if_neg passes, List.filter_cons_of_neg passes]

end OrderedSet

/-- The dependencies that satisfy a test, each once, at their first places. -/
theorem Dependency.distinct_filter (dependencies : List Dependency) (p : Dependency → Bool) :
    Dependency.distinct (dependencies.filter p) = (Dependency.distinct dependencies).filter p :=
  (congrArg OrderedSet.toList (OrderedSet.filter_insertAll .empty dependencies p)).symm

namespace Classification

/-- What is classified of the dependencies that satisfy a test. -/
def restrict (c : Classification) (p : Dependency → Bool) : Classification :=
  ⟨c.inlined.filter p, c.embedded.filter p⟩

@[simp] theorem toList_inlined_restrict (c : Classification) (p : Dependency → Bool) :
    (c.restrict p).inlined.toList = c.inlined.toList.filter p := rfl

@[simp] theorem toList_embedded_restrict (c : Classification) (p : Dependency → Bool) :
    (c.restrict p).embedded.toList = c.embedded.toList.filter p := rfl

/-- Clauses add of the dependencies that satisfy a test what they select of these. -/
theorem restrict_addAll [Release] (c : Classification) (candidates : List Dependency)
    (clauses : List Clause) (p : Dependency → Bool) :
    (c.addAll candidates clauses).restrict p =
      (c.restrict p).addAll (candidates.filter p) clauses := by
  have selected : ∀ holds : Clause → Dependency → Bool,
      (clauses.flatMap fun clause => candidates.filter (holds clause)).filter p =
        clauses.flatMap fun clause => (candidates.filter p).filter (holds clause) := by
    intro holds
    simp only [List.filter_flatMap, List.filter_filter, Bool.and_comm]
  rw [addAll_eq, addAll_eq, restrict, OrderedSet.filter_insertAll, OrderedSet.filter_insertAll,
    selected, selected]
  rfl

/-- Preferring what is inlined does not depend on dependencies that fail a test. -/
theorem restrict_preferInlined (c : Classification) (p : Dependency → Bool) :
    c.preferInlined.restrict p = (c.restrict p).preferInlined := by
  have embedded : c.preferInlined.embedded.filter p =
      (c.embedded.filter p).filter (· ∉ c.inlined.filter p) := by
    apply OrderedSet.ext
    simp only [preferInlined, OrderedSet.toList_filter, List.filter_filter]
    refine List.filter_congr fun d _ => ?_
    by_cases passes : p d = true
    · have known : d ∈ c.inlined.filter p ↔ d ∈ c.inlined :=
        List.mem_filter.trans (and_iff_left passes)
      simp only [passes, known, Bool.true_and, Bool.and_true]
    · simp only [passes, Bool.false_and, Bool.and_false]
  rw [restrict, embedded]
  rfl

end Classification

end BundleEmbed
