import BundleEmbed.OrderedSet
import Mathlib

/-!
The order in which an ordered set lists what is put in.

* `IsListing.map`, `IsListing.append`: listings of what a function gives, and of two kinds of
  members.
* `OrderedSet.toList_insertAll`: new members come after the known ones, each once, in the
  order of their first places.
* `OrderedSet.toList_insertAll_flatMap`: of members that several tests let through, one
  test after the other, those come first that an earlier test lets through.
-/

namespace BundleEmbed

/-- A list has exactly the given members, each once, and those that come before others
stand before them. -/
structure IsListing {α : Type} (isMember : α → Prop) (before : α → α → Prop) (list : List α) :
    Prop where
  mem_iff : ∀ a, a ∈ list ↔ isMember a
  nodup : list.Nodup
  ordered : list.Pairwise before

variable {α β : Type}

/-- A listing in one order is one in every order that its members obey as well. -/
theorem IsListing.imp {isMember isMember' : α → Prop} {before before' : α → α → Prop}
    {list : List α} (listing : IsListing isMember before list)
    (sameMembers : ∀ a, isMember a ↔ isMember' a)
    (obeyed : ∀ a b, isMember a → isMember b → before a b → before' a b) :
    IsListing isMember' before' list where
  mem_iff a := (listing.mem_iff a).trans (sameMembers a)
  nodup := listing.nodup
  ordered := listing.ordered.imp_of_mem fun inA inB =>
    obeyed _ _ ((listing.mem_iff _).mp inA) ((listing.mem_iff _).mp inB)

/-- A listing of members that are described in other words. -/
theorem IsListing.congr {isMember isMember' : α → Prop} {before : α → α → Prop} {list : List α}
    (listing : IsListing isMember before list) (sameMembers : ∀ a, isMember a ↔ isMember' a) :
    IsListing isMember' before list :=
  listing.imp sameMembers fun _ _ _ _ before => before

/-- A listing of what a function gives, where it keeps the order and what differs. -/
theorem IsListing.map {isMember : α → Prop} {before : α → α → Prop} {before' : β → β → Prop}
    {list : List α} {f : α → β} (listing : IsListing isMember before list)
    (injective : f.Injective) (keeps : ∀ a b, before a b → before' (f a) (f b)) :
    IsListing (fun b => ∃ a, isMember a ∧ b = f a) before' (list.map f) where
  mem_iff b := by simp only [List.mem_map, listing.mem_iff, eq_comm]
  nodup := listing.nodup.map injective
  ordered := List.pairwise_map.mpr (listing.ordered.imp (keeps _ _))

/-- Two listings, of which the members of the first come before those of the second. -/
theorem IsListing.append {isMember isMember' : α → Prop} {before : α → α → Prop}
    {first second : List α} (listing : IsListing isMember before first)
    (listing' : IsListing isMember' before second) (irrefl : ∀ a, ¬ before a a)
    (order : ∀ a b, isMember a → isMember' b → before a b) :
    IsListing (fun a => isMember a ∨ isMember' a) before (first ++ second) where
  mem_iff a := by rw [List.mem_append, listing.mem_iff, listing'.mem_iff]
  nodup := by
    refine List.Nodup.append listing.nodup listing'.nodup fun a inFirst inSecond => ?_
    exact irrefl a (order a a ((listing.mem_iff a).mp inFirst) ((listing'.mem_iff a).mp inSecond))
  ordered := by
    refine List.pairwise_append.mpr ⟨listing.ordered, listing'.ordered, ?_⟩
    intro a inFirst b inSecond
    exact order a b ((listing.mem_iff a).mp inFirst) ((listing'.mem_iff b).mp inSecond)

/-- A member of a list that some test holds of. -/
theorem mem_flatMap_filter {tests : List β} {holds : β → α → Bool} {members : List α}
    {a : α} : a ∈ (tests.flatMap fun test => members.filter (holds test)) ↔
      a ∈ members ∧ ∃ test ∈ tests, holds test a = true := by
  rw [List.mem_flatMap]
  constructor
  · rintro ⟨test, isTest, kept⟩
    obtain ⟨isMember, passes⟩ := List.mem_filter.mp kept
    exact ⟨isMember, test, isTest, passes⟩
  · rintro ⟨isMember, test, isTest, passes⟩
    exact ⟨test, isTest, List.mem_filter.mpr ⟨isMember, passes⟩⟩

/-- Sets list the same, in some order, when they have the same members. -/
theorem OrderedSet.toList_perm_iff {s t : OrderedSet α} :
    s.toList.Perm t.toList ↔ ∀ a, a ∈ s ↔ a ∈ t :=
  List.perm_ext_iff_of_nodup s.nodup t.nodup

variable [DecidableEq α]

/-- The first place of one element in a list is before that of another. -/
def firstIn (list : List α) (a b : α) : Prop := list.idxOf a < list.idxOf b

/-- An earlier test holds of one element than of another, or the same test is the first to
hold of both and the one is before the other in a list. -/
def firstPassed (tests : List β) (holds : β → α → Bool) (list : List α) (a b : α) : Prop :=
  tests.findIdx (holds · a) < tests.findIdx (holds · b) ∨
    tests.findIdx (holds · a) = tests.findIdx (holds · b) ∧ firstIn list a b

/-- In an ordered list an element is before those with a later first place. -/
theorem ordered_of_firstIn {list : List α} {before : α → α → Prop} (ordered : list.Pairwise before)
    {a b : α} (inB : b ∈ list) (first : firstIn list a b) : before a b := by
  have bound : list.idxOf b < list.length := List.idxOf_lt_length_iff.mpr inB
  have steps := List.pairwise_iff_getElem.mp ordered _ _ (lt_trans first bound) bound first
  rwa [List.getElem_idxOf, List.getElem_idxOf] at steps

namespace OrderedSet

/-- Putting in two lists is putting in one after the other. -/
theorem insertAll_append (s : OrderedSet α) (first second : List α) :
    s.insertAll (first ++ second) = (s.insertAll first).insertAll second :=
  List.foldl_append

/-- Of what is put in one after the other, the new members come last, each once, in the
order of their first places. -/
theorem toList_insertAll (s : OrderedSet α) (members : List α) :
    ∃ fresh, (s.insertAll members).toList = s.toList ++ fresh ∧
      IsListing (fun a => a ∉ s ∧ a ∈ members) (firstIn members) fresh := by
  induction members generalizing s with
  | nil => exact ⟨[], by simp, by simp, List.nodup_nil, .nil⟩
  | cons first members ih =>
      obtain ⟨fresh, whole, listing⟩ := ih (s.insert first)
      have differ : ∀ a ∈ fresh, a ≠ first := fun a isFresh same =>
        ((listing.mem_iff a).mp isFresh).1 (mem_insert.mpr (.inr same))
      have later : ∀ a ∈ fresh, (first :: members).idxOf a = members.idxOf a + 1 :=
        fun a isFresh => List.idxOf_cons_ne _ (Ne.symm (differ a isFresh))
      have ordered : fresh.Pairwise (firstIn (first :: members)) :=
        listing.ordered.imp_of_mem fun {a b} inA inB before => by
          unfold firstIn at before ⊢
          rw [later a inA, later b inB]
          exact Nat.succ_lt_succ before
      by_cases known : first ∈ s
      · refine ⟨fresh, ?_, ⟨fun a => ?_, listing.nodup, ordered⟩⟩
        · rw [insertAll_cons, whole, toList_insert, if_pos known]
        · rw [listing.mem_iff, mem_insert]
          constructor
          · rintro ⟨isNew, isMember⟩
            exact ⟨fun old => isNew (.inl old), .tail _ isMember⟩
          · rintro ⟨isNew, isMember⟩
            have notFirst : a ≠ first := fun same => isNew (same ▸ known)
            exact ⟨fun either => either.elim isNew notFirst,
              (List.mem_cons.mp isMember).resolve_left notFirst⟩
      · refine ⟨first :: fresh, ?_, ⟨fun a => ?_, ?_, ?_⟩⟩
        · rw [insertAll_cons, whole, toList_insert, if_neg known, List.append_assoc]
          rfl
        · rw [List.mem_cons, listing.mem_iff, mem_insert, List.mem_cons]
          constructor
          · rintro (rfl | ⟨isNew, isMember⟩)
            · exact ⟨known, .inl rfl⟩
            · exact ⟨fun old => isNew (.inl old), .inr isMember⟩
          · rintro ⟨isNew, same | isMember⟩
            · exact .inl same
            · by_cases same : a = first
              · exact .inl same
              · exact .inr ⟨fun either => either.elim isNew same, isMember⟩
        · exact List.nodup_cons.mpr ⟨fun isFresh => differ first isFresh rfl, listing.nodup⟩
        · refine List.pairwise_cons.mpr ⟨fun a isFresh => ?_, ordered⟩
          unfold firstIn
          rw [later a isFresh, List.idxOf_cons_self]
          exact Nat.succ_pos _

/-- The members of a list, each once, in the order of their first places. -/
theorem toList_ofList (members : List α) :
    IsListing (· ∈ members) (firstIn members) (ofList members).toList := by
  obtain ⟨fresh, whole, listing⟩ := toList_insertAll empty members
  rw [ofList, whole, toList_empty, List.nil_append]
  exact listing.congr fun a => and_iff_right List.not_mem_nil

end OrderedSet

/-- In what tests let through one after the other, an earlier place is due to an earlier
test, or to the order of the members. -/
theorem firstPassed_of_firstIn {tests : List β} {holds : β → α → Bool} {list members : List α}
    (ordered : members.Pairwise (firstIn list)) {a b : α} (memberA : a ∈ members)
    (memberB : b ∈ members) (passedB : ∃ test ∈ tests, holds test b = true)
    (first : firstIn (tests.flatMap fun test => members.filter (holds test)) a b) :
    firstPassed tests holds list a b := by
  induction tests with
  | nil => simp at passedB
  | cons test tests ih =>
      rw [firstIn, List.flatMap_cons, List.idxOf_append, List.idxOf_append] at first
      rw [firstPassed, List.findIdx_cons, List.findIdx_cons]
      by_cases passesB : holds test b = true
      · have inB : b ∈ members.filter (holds test) := List.mem_filter.mpr ⟨memberB, passesB⟩
        by_cases passesA : holds test a = true
        · -- both are in the first block, which is ordered as the members are
          have inA : a ∈ members.filter (holds test) := List.mem_filter.mpr ⟨memberA, passesA⟩
          rw [if_pos inA, if_pos inB] at first
          have before := ordered_of_firstIn (ordered.filter (holds test)) inB first
          simp [passesA, passesB, before]
        · have notInA : a ∉ members.filter (holds test) :=
            fun inA => passesA (List.mem_filter.mp inA).2
          rw [if_neg notInA, if_pos inB] at first
          have bound := List.idxOf_lt_length_iff.mpr inB
          omega
      · have notInB : b ∉ members.filter (holds test) :=
          fun inB => passesB (List.mem_filter.mp inB).2
        by_cases passesA : holds test a = true
        · simp [passesA, passesB]
        · have notInA : a ∉ members.filter (holds test) :=
            fun inA => passesA (List.mem_filter.mp inA).2
          rw [if_neg notInA, if_neg notInB] at first
          obtain ⟨other, isTest, passes⟩ := passedB
          have isLater : other ∈ tests := by
            rcases List.mem_cons.mp isTest with rfl | isLater
            · exact absurd passes passesB
            · exact isLater
          have before := ih ⟨other, isLater, passes⟩ (by unfold firstIn; omega)
          simpa [passesA, passesB, firstPassed] using before

/-- Of what tests let through one after the other, the new members come last, each once;
those that an earlier test lets through come first, and within one test those that come
first in a list that orders the members. -/
theorem OrderedSet.toList_insertAll_flatMap (s : OrderedSet α) (tests : List β)
    (holds : β → α → Bool) {list members : List α} (ordered : members.Pairwise (firstIn list)) :
    ∃ fresh, (s.insertAll (tests.flatMap fun test => members.filter (holds test))).toList =
        s.toList ++ fresh ∧
      IsListing (fun a => a ∉ s ∧ a ∈ members ∧ ∃ test ∈ tests, holds test a = true)
        (firstPassed tests holds list) fresh := by
  obtain ⟨fresh, whole, listing⟩ := toList_insertAll s
    (tests.flatMap fun test => members.filter (holds test))
  refine ⟨fresh, whole, listing.imp (fun a => ?_) ?_⟩
  · rw [mem_flatMap_filter]
  · rintro a b ⟨-, inA⟩ ⟨-, inB⟩ first
    obtain ⟨memberA, -⟩ := mem_flatMap_filter.mp inA
    obtain ⟨memberB, passedB⟩ := mem_flatMap_filter.mp inB
    exact firstPassed_of_firstIn ordered memberA memberB passedB first

end BundleEmbed
