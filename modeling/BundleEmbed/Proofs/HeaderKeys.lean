import BundleEmbed.Headers
import Mathlib

/-!
The two headers among the other properties.

* `Mapping.restrict_set`, `Mapping.keys_set`: setting a key touches one place, or adds one at
  the end.
* `Headers.lookup_applyTo`, `Headers.ofProperties_applyTo`: what stands in properties after
  headers have been written into them.
* `Headers.restrict_applyTo`, `Headers.keys_applyTo`: what writing headers leaves, and where it
  puts them.
-/

namespace BundleEmbed

namespace Mapping

variable {α : Type}

/-- The part of a mapping whose keys a test lets through. -/
def restrict (mapping : Mapping α) (test : Text → Bool) : Mapping α :=
  mapping.filter fun pair => test pair.1

/-- A key that is set is seen in a part only if the test lets it through. -/
theorem restrict_set (mapping : Mapping α) (key : Text) (value : α) (test : Text → Bool) :
    (set mapping key value).restrict test =
      if test key then set (mapping.restrict test) key value else mapping.restrict test := by
  unfold restrict
  induction mapping with
  | nil => cases passes : test key <;> simp [set, passes]
  | cons pair later ih =>
      obtain ⟨known, old⟩ := pair
      by_cases same : known = key
      · subst same
        cases passes : test known <;> simp [set, passes]
      · rw [set, if_neg same, List.filter_cons, List.filter_cons, ih]
        cases test known <;> cases test key <;> simp [set, same]

theorem restrict_restrict (mapping : Mapping α) (test : Text → Bool) :
    (mapping.restrict test).restrict test = mapping.restrict test := by
  simp [restrict, List.filter_filter]

/-- Taking a key away and looking at a part can be done in any order. -/
theorem restrict_unset (mapping : Mapping α) (key : Text) (test : Text → Bool) :
    (unset mapping key).restrict test = unset (mapping.restrict test) key := by
  simp only [restrict, unset, List.filter_filter, Bool.and_comm]

/-- What stands under a key stands under it in every part that has the key. -/
theorem lookup_restrict (mapping : Mapping α) (test : Text → Bool) {key : Text}
    (passes : test key = true) :
    (mapping.restrict test).lookup key = List.lookup key mapping := by
  unfold restrict
  induction mapping with
  | nil => rfl
  | cons pair later ih =>
      obtain ⟨known, old⟩ := pair
      by_cases same : key = known
      · subst same
        simp [passes]
      · have differ : (key == known) = false := beq_false_of_ne same
        cases passesKnown : test known <;>
          simp [passesKnown, List.lookup_cons, differ, ih]

/-- Taking a key away leaves what stands under the others. -/
theorem lookup_unset_of_ne (mapping : Mapping α) {key other : Text} (differ : other ≠ key) :
    (unset mapping key).lookup other = List.lookup other mapping :=
  lookup_restrict mapping (fun known => known ≠ key) (decide_eq_true differ)

/-- A key that is set keeps its place, and one that is new comes last. -/
theorem keys_set (mapping : Mapping α) (key : Text) (value : α) :
    (set mapping key value).map Prod.fst =
      mapping.map Prod.fst ++ if key ∈ mapping.map Prod.fst then [] else [key] := by
  induction mapping with
  | nil => rfl
  | cons pair later ih =>
      obtain ⟨known, old⟩ := pair
      by_cases same : known = key
      · simp [set, same]
      · have elsewhere : key ∈ known :: later.map Prod.fst ↔ key ∈ later.map Prod.fst := by
          rw [List.mem_cons]
          exact or_iff_right (Ne.symm same)
        rw [set, if_neg same, List.map_cons, List.map_cons, ih, List.cons_append]
        simp only [elsewhere]

end Mapping

namespace Headers

/-- The keys of the headers. -/
def keys : List Text := [classPathKey, resourcesKey]

/-- Writing headers sets the class path first, where it has a value, and then the
resources. -/
theorem applyTo_eq (headers : Headers) (properties : Properties) :
    headers.applyTo properties =
      headers.resources.elim
        (headers.classPath.elim properties fun text => properties.set classPathKey (some text))
        fun text =>
          Mapping.set
            (headers.classPath.elim properties fun text => properties.set classPathKey (some text))
            resourcesKey (some text) := by
  obtain ⟨classPath, resources⟩ := headers
  cases classPath <;> cases resources <;> rfl

/-- What is written under the key of the class path is the class path. -/
theorem lookup_toPairs_classPath (headers : Headers) :
    headers.toPairs.lookup classPathKey = headers.classPath := by
  obtain ⟨classPath, resources⟩ := headers
  cases classPath <;> cases resources <;> rfl

/-- What is written under the key of the resources are the resources. -/
theorem lookup_toPairs_resources (headers : Headers) :
    headers.toPairs.lookup resourcesKey = headers.resources := by
  obtain ⟨classPath, resources⟩ := headers
  cases classPath <;> cases resources <;> rfl

/-- Nothing is written under other keys. -/
theorem lookup_toPairs_of_not_mem (headers : Headers) {key : Text} (other : key ∉ keys) :
    headers.toPairs.lookup key = none := by
  refine List.lookup_eq_none_iff.mpr fun pair isOne => ?_
  have isHeader : pair.1 ∈ keys := by
    rcases List.mem_append.mp isOne with written | written <;>
      obtain ⟨text, -, rfl⟩ := Option.map_eq_some_iff.mp (Option.mem_toList.mp written)
    · exact List.mem_cons_self
    · exact List.mem_cons_of_mem _ List.mem_cons_self
  exact bne_iff_ne.mpr fun same => other (same ▸ isHeader)

/-- Under a key stands what has been written under it, else what stood there. -/
theorem lookup_applyTo (headers : Headers) (properties : Properties) (key : Text) :
    (headers.applyTo properties).lookup key =
      ((headers.toPairs.lookup key).map some).or (properties.lookup key) := by
  have differ : classPathKey ≠ resourcesKey := by decide
  rw [applyTo_eq]
  by_cases isHeader : key ∈ keys
  · rcases List.mem_pair.mp isHeader with rfl | rfl
    · rw [lookup_toPairs_classPath]
      cases headers.classPath <;> cases headers.resources <;>
        simp [Mapping.lookup_set_self, Mapping.lookup_set_of_ne _ differ]
    · rw [lookup_toPairs_resources]
      cases headers.classPath <;> cases headers.resources <;>
        simp [Mapping.lookup_set_self, Mapping.lookup_set_of_ne _ differ.symm]
  · have others : key ≠ classPathKey ∧ key ≠ resourcesKey := by
      simpa [keys] using isHeader
    rw [lookup_toPairs_of_not_mem headers isHeader]
    cases headers.classPath <;> cases headers.resources <;>
      simp [Mapping.lookup_set_of_ne _ others.1, Mapping.lookup_set_of_ne _ others.2]

/-- What has been written is read, and what has not been written is as before. -/
theorem ofProperties_applyTo (headers : Headers) (properties : Properties) :
    ofProperties (headers.applyTo properties) =
      ⟨headers.classPath.or (ofProperties properties).classPath,
        headers.resources.or (ofProperties properties).resources⟩ := by
  simp only [ofProperties, Properties.text?, lookup_applyTo, lookup_toPairs_classPath,
    lookup_toPairs_resources]
  cases headers.classPath <;> cases headers.resources <;> rfl

/-- Writing headers leaves every part of the properties that has none of their keys. -/
theorem restrict_applyTo (headers : Headers) (properties : Properties) {test : Text → Bool}
    (others : ∀ key ∈ keys, test key = false) :
    (headers.applyTo properties).restrict test = properties.restrict test := by
  have classPath : test classPathKey = false := others _ (by decide)
  have resources : test resourcesKey = false := others _ (by decide)
  rw [applyTo_eq]
  cases headers.resources <;> cases headers.classPath <;>
    simp [Mapping.restrict_set, classPath, resources]

/-- Writing headers keeps the keys that are there in their order. Those that are new come
last, the class path before the resources. -/
theorem keys_applyTo (headers : Headers) (properties : Properties) :
    (headers.applyTo properties).map Prod.fst =
      properties.map Prod.fst ++
        (headers.toPairs.map Prod.fst).filter (· ∉ properties.map Prod.fst) := by
  have differ : resourcesKey ≠ classPathKey := by decide
  obtain ⟨classPath, resources⟩ := headers
  rw [applyTo_eq]
  by_cases hasClassPath : classPathKey ∈ properties.map Prod.fst <;>
    by_cases hasResources : resourcesKey ∈ properties.map Prod.fst <;>
      cases classPath <;> cases resources <;>
        simp [Mapping.keys_set, toPairs, hasClassPath, hasResources, differ]

end Headers

end BundleEmbed
