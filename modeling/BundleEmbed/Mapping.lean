import BundleEmbed.Text.Sign

/-!
Values under keys, in the order in which the keys were set first.
-/

namespace BundleEmbed

/-- Keys with their values. -/
abbrev Mapping (α : Type) := List (Text × α)

namespace Mapping

variable {α : Type}

/-- The mapping with a value under a key, which keeps its place if it has one. -/
def set : Mapping α → Text → α → Mapping α
  | [], key, value => [(key, value)]
  | (known, old) :: later, key, value =>
      if known = key then (key, value) :: later else (known, old) :: set later key value

/-- The mapping without a key. -/
def unset (mapping : Mapping α) (key : Text) : Mapping α :=
  mapping.filter (·.1 ≠ key)

/-- The mapping of pairs, the last of which counts where keys are repeated. -/
def ofPairs (pairs : List (Text × α)) : Mapping α :=
  pairs.foldl (fun mapping (key, value) => set mapping key value) []

/-- Under the key that was set stands the value it was set to. -/
theorem lookup_set_self (mapping : Mapping α) (key : Text) (value : α) :
    (set mapping key value).lookup key = some value := by
  induction mapping with
  | nil => simp [set]
  | cons pair later ih =>
      obtain ⟨known, old⟩ := pair
      by_cases same : known = key
      · simp [set, same]
      · have differ : (key == known) = false := beq_false_of_ne (Ne.symm same)
        simp only [set, if_neg same, List.lookup_cons, differ]
        exact ih

/-- Setting a key leaves what stands under the others. -/
theorem lookup_set_of_ne {mapping : Mapping α} {key other : Text} (value : α)
    (differ : other ≠ key) : (set mapping key value).lookup other = mapping.lookup other := by
  induction mapping with
  | nil => simp [set, List.lookup_cons, beq_false_of_ne differ]
  | cons pair later ih =>
      obtain ⟨known, old⟩ := pair
      by_cases same : known = key
      · simp [set, same, List.lookup_cons, beq_false_of_ne differ]
      · simp only [set, if_neg same, List.lookup_cons]
        split
        · rfl
        · exact ih

/-- A key that is new is set at the end. -/
theorem set_of_not_mem {mapping : Mapping α} {key : Text} (isNew : key ∉ mapping.map Prod.fst)
    (value : α) : set mapping key value = mapping ++ [(key, value)] := by
  induction mapping with
  | nil => rfl
  | cons pair later ih =>
      rw [List.map_cons, List.mem_cons, not_or] at isNew
      rw [set, if_neg (Ne.symm isNew.1), ih isNew.2, List.cons_append]

/-- What stands in a mapping after a key has been set is the new pair, or stood there before. -/
theorem eq_or_mem_of_mem_set {mapping : Mapping α} {key : Text} {value : α} {pair : Text × α}
    (isOne : pair ∈ set mapping key value) : pair = (key, value) ∨ pair ∈ mapping := by
  induction mapping with
  | nil => exact .inl (List.mem_singleton.mp isOne)
  | cons first later ih =>
      obtain ⟨known, old⟩ := first
      rw [set] at isOne
      split at isOne
      · exact (List.mem_cons.mp isOne).imp_right (List.mem_cons_of_mem _)
      · rcases List.mem_cons.mp isOne with rfl | isLater
        · exact .inr List.mem_cons_self
        · exact (ih isLater).imp_right (List.mem_cons_of_mem _)

/-- A mapping of pairs holds some of them. -/
theorem mem_of_mem_ofPairs {pairs : List (Text × α)} {pair : Text × α}
    (isOne : pair ∈ ofPairs pairs) : pair ∈ pairs := by
  suffices extended : ∀ known : Mapping α,
      pair ∈ pairs.foldl (fun mapping pair => set mapping pair.1 pair.2) known →
        pair ∈ known ∨ pair ∈ pairs from
    (extended [] isOne).resolve_left List.not_mem_nil
  clear isOne
  induction pairs with
  | nil => exact fun _ => .inl
  | cons first later ih =>
      intro known isOne
      rcases ih _ isOne with isKnown | isLater
      · rcases eq_or_mem_of_mem_set isKnown with rfl | isKnown
        · exact .inr List.mem_cons_self
        · exact .inl isKnown
      · exact .inr (List.mem_cons_of_mem _ isLater)

/-- A mapping of pairs whose keys differ is the pairs. -/
theorem ofPairs_of_nodup {pairs : List (Text × α)} (differ : (pairs.map Prod.fst).Nodup) :
    ofPairs pairs = pairs := by
  suffices extended : ∀ known : Mapping α, (known.map Prod.fst ++ pairs.map Prod.fst).Nodup →
      pairs.foldl (fun mapping pair => set mapping pair.1 pair.2) known = known ++ pairs from
    extended [] differ
  clear differ
  induction pairs with
  | nil => simp
  | cons pair later ih =>
      intro known differ
      have isNew : pair.1 ∉ known.map Prod.fst := fun isOld =>
        (List.nodup_append.mp differ).2.2 _ isOld _ List.mem_cons_self rfl
      rw [List.foldl_cons, set_of_not_mem isNew, ih]
      · simp
      · simpa using differ

end Mapping

end BundleEmbed
