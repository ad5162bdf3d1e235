/-!
Finite sets that remember the order in which their members were put in.

A member that is put in again keeps its place.
-/

namespace BundleEmbed

/-- A set with its members in the order of their insertion. -/
structure OrderedSet (α : Type) where
  toList : List α
  nodup : toList.Nodup
  deriving DecidableEq

namespace OrderedSet

variable {α : Type}

@[ext] theorem ext {s t : OrderedSet α} (same : s.toList = t.toList) : s = t := by
  cases s; cases t; simp_all

/-- The set without members. -/
def empty : OrderedSet α := ⟨[], List.nodup_nil⟩

instance : Membership α (OrderedSet α) := ⟨fun s a => a ∈ s.toList⟩

@[simp] theorem mem_toList {s : OrderedSet α} {a : α} : a ∈ s.toList ↔ a ∈ s := Iff.rfl

@[simp] theorem toList_empty : (empty : OrderedSet α).toList = [] := rfl

/-- The members that satisfy a test, in their order. -/
def filter (s : OrderedSet α) (p : α → Bool) : OrderedSet α :=
  ⟨s.toList.filter p, s.nodup.filter p⟩

@[simp] theorem toList_filter (s : OrderedSet α) (p : α → Bool) :
    (s.filter p).toList = s.toList.filter p := rfl

/-- The members that satisfy a test. -/
@[simp] theorem mem_filter {s : OrderedSet α} {p : α → Bool} {a : α} :
    a ∈ s.filter p ↔ a ∈ s ∧ p a = true :=
  List.mem_filter

variable [DecidableEq α]

instance (s : OrderedSet α) (a : α) : Decidable (a ∈ s) :=
  inferInstanceAs (Decidable (a ∈ s.toList))

/-- The set with one more member, which comes last if it is new. -/
def insert (s : OrderedSet α) (a : α) : OrderedSet α :=
  if h : a ∈ s.toList then s
  else
    ⟨s.toList ++ [a], List.nodup_append.mpr
      ⟨s.nodup, by simp, fun b inOld c isNew same =>
        h (by rw [← List.mem_singleton.mp isNew, ← same]; exact inOld)⟩⟩

theorem toList_insert (s : OrderedSet α) (a : α) :
    (s.insert a).toList = if a ∈ s then s.toList else s.toList ++ [a] := by
  unfold insert
  split <;> rename_i h <;> rw [mem_toList] at h <;> simp [h]

/-- The members of a set with one more. -/
@[simp] theorem mem_insert {s : OrderedSet α} {a b : α} : b ∈ s.insert a ↔ b ∈ s ∨ b = a := by
  rw [← mem_toList, toList_insert]
  split
  · rename_i h
    exact ⟨.inl, fun either => either.elim id fun same => same ▸ h⟩
  · simp

/-- The set with more members, put in one after the other. -/
def insertAll (s : OrderedSet α) (members : List α) : OrderedSet α := members.foldl insert s

@[simp] theorem insertAll_nil (s : OrderedSet α) : s.insertAll [] = s := rfl

@[simp] theorem insertAll_cons (s : OrderedSet α) (a : α) (members : List α) :
    s.insertAll (a :: members) = (s.insert a).insertAll members := rfl

/-- The members of a set with more of them. -/
@[simp] theorem mem_insertAll {s : OrderedSet α} {members : List α} {b : α} :
    b ∈ s.insertAll members ↔ b ∈ s ∨ b ∈ members := by
  induction members generalizing s with
  | nil => simp
  | cons a members ih => simp [ih, or_assoc]

/-- The set of the members of a list, in the order of their first places. -/
def ofList (members : List α) : OrderedSet α := empty.insertAll members

end OrderedSet

end BundleEmbed
