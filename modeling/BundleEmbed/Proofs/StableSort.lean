import BundleEmbed.Dependency
import Mathlib

/-!
Sorting dependencies keeps the order of those with the same key.

* `Dependency.sort_isStable`: `Dependency.sort` is a stable sort by the key.
* `IsStableSort.eq_of_filter_eq`: a stable sort is settled by the elements with each key, in
  their order.
* `IsStableSort.agreeUpToTies`: without their order it is settled but for ties.
-/

namespace BundleEmbed

/-- A list in the order of its keys, in which elements with the same key are in the order
of another list. -/
structure IsStableSort {α κ : Type} [LinearOrder κ] (key : α → κ) (list sorted : List α) :
    Prop where
  perm : sorted.Perm list
  ordered : sorted.Pairwise fun a b => key a ≤ key b
  stable : ∀ k, (sorted.filter fun a => key a = k) = list.filter fun a => key a = k

/-- Two lists have the same elements, and at each place the same key. -/
structure AgreeUpToTies {α κ : Type} (key : α → κ) (first second : List α) : Prop where
  perm : first.Perm second
  keys : first.map key = second.map key

/-- Merge sort by a key is stable. -/
theorem mergeSort_isStable {α κ : Type} [LinearOrder κ] (key : α → κ) (le : α → α → Bool)
    (le_iff : ∀ a b, le a b = true ↔ key a ≤ key b) (list : List α) :
    IsStableSort key list (list.mergeSort le) := by
  have trans : ∀ a b c, le a b = true → le b c = true → le a c = true := fun a b c first second =>
    (le_iff a c).mpr (((le_iff a b).mp first).trans ((le_iff b c).mp second))
  have total : ∀ a b, (le a b || le b a) = true := fun a b => by
    rw [Bool.or_eq_true, le_iff, le_iff]
    exact le_total (key a) (key b)
  refine ⟨List.mergeSort_perm list le, ?_, fun k => ?_⟩
  · exact (List.pairwise_mergeSort trans total list).imp fun {a b} => (le_iff a b).mp
  -- the elements with one key are ordered as they are, so they are a sublist of the result
  have tied : (list.filter fun a => key a = k).Pairwise fun a b => le a b = true :=
    List.pairwise_of_forall_mem_list fun a inA b inB => by
      have keyA : key a = k := of_decide_eq_true (List.mem_filter.mp inA).2
      have keyB : key b = k := of_decide_eq_true (List.mem_filter.mp inB).2
      exact (le_iff a b).mpr (keyA.trans keyB.symm).le
  have inside := (List.sublist_mergeSort trans total tied List.filter_sublist).filter
    fun a => decide (key a = k)
  rw [List.filter_filter] at inside
  simp only [Bool.and_self] at inside
  have sameLength := ((List.mergeSort_perm list le).filter fun a => decide (key a = k)).length_eq
  exact (inside.eq_of_length sameLength.symm).symm

/-! ### What settles a sorted list -/

section Ordered

variable {α κ : Type} [LinearOrder κ] {key : α → κ} {first second : List α}

/-- Lists that have the same elements with each key have the same elements. -/
theorem mem_iff_of_filter_eq
    (same : ∀ k, (first.filter fun a => key a = k) = second.filter fun a => key a = k) (a : α) :
    a ∈ first ↔ a ∈ second := by
  have tied : a ∈ (first.filter fun b => key b = key a) ↔
      a ∈ second.filter fun b => key b = key a := by rw [same]
  simpa using tied

/-- The head of an ordered list has the least key. -/
theorem key_head_le {a b : α} {later : List α}
    (ordered : (a :: later).Pairwise fun a b => key a ≤ key b) (isOne : b ∈ a :: later) :
    key a ≤ key b := by
  rcases List.mem_cons.mp isOne with rfl | isLater
  · exact le_rfl
  · exact (List.pairwise_cons.mp ordered).1 b isLater

/-- An ordered list is settled by its elements with each key. -/
theorem eq_of_ordered_of_filter_eq (orderedFirst : first.Pairwise fun a b => key a ≤ key b)
    (orderedSecond : second.Pairwise fun a b => key a ≤ key b)
    (same : ∀ k, (first.filter fun a => key a = k) = second.filter fun a => key a = k) :
    first = second := by
  induction first generalizing second with
  | nil =>
      exact (List.eq_nil_iff_forall_not_mem.mpr fun a inSecond =>
        List.not_mem_nil ((mem_iff_of_filter_eq same a).mpr inSecond)).symm
  | cons a first ih =>
      have sameMembers := mem_iff_of_filter_eq same
      cases second with
      | nil => exact absurd ((sameMembers a).mp List.mem_cons_self) List.not_mem_nil
      | cons b second =>
          -- both heads have the least key, and so they are the first ones with this key
          have sameKey : key b = key a :=
            le_antisymm (key_head_le orderedSecond ((sameMembers a).mp List.mem_cons_self))
              (key_head_le orderedFirst ((sameMembers b).mpr List.mem_cons_self))
          have heads := same (key a)
          simp only [List.filter_cons, sameKey, decide_true, if_true] at heads
          obtain ⟨rfl, -⟩ := List.cons.inj heads
          have sameLater : ∀ k,
              (first.filter fun a => key a = k) = second.filter fun a => key a = k := fun k => by
            have whole := same k
            rw [List.filter_cons, List.filter_cons] at whole
            split at whole
            · exact (List.cons.inj whole).2
            · exact whole
          rw [ih orderedFirst.of_cons orderedSecond.of_cons sameLater]

/-- Stable sorts are settled by the elements with each key, in their order. -/
theorem IsStableSort.eq_of_filter_eq {list list' : List α} (sorted : IsStableSort key list first)
    (sorted' : IsStableSort key list' second)
    (same : ∀ k, (list.filter fun a => key a = k) = list'.filter fun a => key a = k) :
    first = second :=
  eq_of_ordered_of_filter_eq sorted.ordered sorted'.ordered fun k => by
    rw [sorted.stable, sorted'.stable, same]

/-- Ordered lists with the same elements differ in the places of elements with the same key
only. -/
theorem AgreeUpToTies.of_ordered (perm : first.Perm second)
    (orderedFirst : first.Pairwise fun a b => key a ≤ key b)
    (orderedSecond : second.Pairwise fun a b => key a ≤ key b) :
    AgreeUpToTies key first second :=
  ⟨perm, List.Perm.eq_of_pairwise' (List.pairwise_map.mpr orderedFirst)
    (List.pairwise_map.mpr orderedSecond) (perm.map key)⟩

/-- Of ordered lists that agree up to ties, the elements that satisfy a test do so as well. -/
theorem AgreeUpToTies.filter (agree : AgreeUpToTies key first second)
    (ordered : first.Pairwise fun a b => key a ≤ key b) (p : α → Bool) :
    AgreeUpToTies key (first.filter p) (second.filter p) := by
  have ordered' : second.Pairwise fun a b => key a ≤ key b := by
    rw [← List.pairwise_map (R := (· ≤ ·)), ← agree.keys, List.pairwise_map]
    exact ordered
  exact .of_ordered (agree.perm.filter p) (ordered.filter p) (ordered'.filter p)

/-- Stable sorts of the same elements agree up to ties. -/
theorem IsStableSort.agreeUpToTies {list list' : List α} (sorted : IsStableSort key list first)
    (sorted' : IsStableSort key list' second) (perm : list.Perm list') :
    AgreeUpToTies key first second :=
  .of_ordered ((sorted.perm.trans perm).trans sorted'.perm.symm) sorted.ordered sorted'.ordered

end Ordered

/-! ### The order of texts -/

instance : LinearOrder Sign := LinearOrder.lift' Sign.toNat fun _ _ => Sign.toNat_inj.mp

instance : LinearOrder Text := LinearOrder.lift' Text.toList fun _ _ => Text.toList_inj.mp

/-! ### Dependencies -/

/-- Dependencies are sorted by their keys, and those with the same key stay in their
order. -/
theorem Dependency.sort_isStable (dependencies : List Dependency) :
    IsStableSort Dependency.sortKey dependencies (Dependency.sort dependencies) :=
  mergeSort_isStable Dependency.sortKey _ (fun a b => by simp) dependencies

/-- Dependencies that are in the order of their keys stay as they are. -/
theorem Dependency.sort_of_ordered {dependencies : List Dependency}
    (ordered : dependencies.Pairwise fun a b => ¬ b.sortKey < a.sortKey) :
    Dependency.sort dependencies = dependencies :=
  List.mergeSort_of_pairwise (ordered.imp fun {a b} notBefore => by simpa using notBefore)

end BundleEmbed
