import BundleEmbed.Proofs.Additions
import BundleEmbed.Proofs.Questions
import BundleEmbed.Proofs.Restriction

/-!
Runs over the same dependencies in another order.

What refuses a clause (`Pass.failure_run_congr`) and what is classified depend on the
dependencies alone. The sorted lists depend on their order as well, but only through ties:
dependencies with the same key stay in the order in which they were classified, and the key
leaves out most of the fields.

* `process_reordered`: what two runs have in common, and when they give the same.
* `not_reproducible_of_tie`: two dependencies that differ in their scope only are enough for
  runs that do not.
-/

namespace BundleEmbed

open Regex (Release)

/-! ### Passes -/

/-- The same dependencies in another order are the same, each once. -/
theorem Dependency.distinct_perm {first second : List Dependency} (reordered : first.Perm second) :
    (Dependency.distinct first).Perm (Dependency.distinct second) := by
  refine OrderedSet.toList_perm_iff.mpr fun d => ?_
  exact Dependency.mem_distinct.trans (reordered.mem_iff.trans Dependency.mem_distinct.symm)

/-- The dependencies with the same key are met first in the same order in two lists. -/
def Dependency.SameTies (first second : List Dependency) : Prop :=
  ∀ key, Dependency.distinct (first.filter (·.sortKey = key)) =
    Dependency.distinct (second.filter (·.sortKey = key))

/-- Where no two different dependencies have the same key, ties do not depend on the order. -/
theorem Dependency.sameTies_of_injective {first second : List Dependency}
    (reordered : first.Perm second)
    (injective : ∀ a ∈ first, ∀ b ∈ first, a.sortKey = b.sortKey → a = b) :
    Dependency.SameTies first second := by
  intro key
  have perm := Dependency.distinct_perm (reordered.filter fun d => d.sortKey = key)
  -- all elements are the same, so every relation orders them
  refine perm.eq_of_pairwise (fun a b inFirst inSecond _ _ => ?_)
    (List.pairwise_of_forall fun _ _ => trivial) (List.pairwise_of_forall fun _ _ => trivial)
  obtain ⟨isA, keyA⟩ := List.mem_filter.mp (Dependency.mem_distinct.mp inFirst)
  obtain ⟨isB, keyB⟩ := List.mem_filter.mp (Dependency.mem_distinct.mp (perm.mem_iff.mpr inSecond))
  exact injective a isA b isB ((of_decide_eq_true keyA).trans (of_decide_eq_true keyB).symm)

/-- Clauses add the same dependencies, whatever their order is. -/
theorem Classification.preferInlined_addAll_perm [Release] {first second : List Dependency}
    (reordered : first.Perm second) (clauses : List Clause) (c : Classification) :
    let classified := (c.addAll first clauses).preferInlined
    let classified' := (c.addAll second clauses).preferInlined
    classified.inlined.toList.Perm classified'.inlined.toList ∧
      classified.embedded.toList.Perm classified'.embedded.toList := by
  have inlined : ∀ d, d ∈ (c.addAll first clauses).inlined ↔
      d ∈ (c.addAll second clauses).inlined := fun d => by
    rw [mem_addAll_inlined, mem_addAll_inlined, reordered.mem_iff]
  have embedded : ∀ d, d ∈ (c.addAll first clauses).embedded ↔
      d ∈ (c.addAll second clauses).embedded := fun d => by
    rw [mem_addAll_embedded, mem_addAll_embedded, reordered.mem_iff]
  refine ⟨OrderedSet.toList_perm_iff.mpr inlined, OrderedSet.toList_perm_iff.mpr fun d => ?_⟩
  simp only [preferInlined, OrderedSet.mem_filter, inlined, embedded]

section Passes

variable {settings : Settings} {first second : List Dependency}

/-- Candidates are chosen one by one. -/
theorem Settings.candidates_perm (settings : Settings) (reordered : first.Perm second) :
    (settings.candidates first).Perm (settings.candidates second) := by
  unfold candidates
  split
  · exact reordered
  · exact reordered.filter _

/-- A pass fails alike over the same dependencies in another order. -/
theorem Settings.failure_pass_of_perm [Release] (reordered : first.Perm second) :
    (settings.pass first).failure = (settings.pass second).failure :=
  Pass.failure_run_congr
    (fun _ => (Dependency.distinct_perm (settings.candidates_perm reordered)).mem_iff) _ _ _

/-- A pass of which no clause is refused classifies the same dependencies in another order,
and so the sorted lists agree up to ties. -/
theorem Settings.sorted_agreeUpToTies [Release] (reordered : first.Perm second)
    (whole : (settings.pass first).failure = none) :
    let classified := (settings.pass first).classification
    let classified' := (settings.pass second).classification
    AgreeUpToTies Dependency.sortKey classified.sortedInlined classified'.sortedInlined ∧
      AgreeUpToTies Dependency.sortKey classified.sortedEmbedded classified'.sortedEmbedded := by
  intro classified classified'
  have form : classified = _ := Settings.classification_pass whole
  have form' : classified' = _ :=
    Settings.classification_pass ((Settings.failure_pass_of_perm reordered).symm.trans whole)
  have perms := Classification.preferInlined_addAll_perm
    (Dependency.distinct_perm (settings.candidates_perm reordered)) settings.clauses .empty
  rw [← form, ← form'] at perms
  exact ⟨(Dependency.sort_isStable _).agreeUpToTies (Dependency.sort_isStable _) perms.1,
    (Dependency.sort_isStable _).agreeUpToTies (Dependency.sort_isStable _) perms.2⟩

/-- A pass of which no clause is refused leaves the same sorted lists over the same
dependencies in another order, as long as ties are in the same order. -/
theorem Settings.sorted_eq_of_sameTies [Release] (reordered : first.Perm second)
    (ties : Dependency.SameTies (settings.candidates first) (settings.candidates second))
    (whole : (settings.pass first).failure = none) :
    let classified := (settings.pass first).classification
    let classified' := (settings.pass second).classification
    classified.sortedInlined = classified'.sortedInlined ∧
      classified.sortedEmbedded = classified'.sortedEmbedded := by
  intro classified classified'
  have form : classified = _ := Settings.classification_pass whole
  have form' : classified' = _ :=
    Settings.classification_pass ((Settings.failure_pass_of_perm reordered).symm.trans whole)
  have tied : ∀ key, classified.restrict (·.sortKey = key) =
      classified'.restrict (·.sortKey = key) := fun key => by
    rw [form, form', Classification.restrict_preferInlined, Classification.restrict_preferInlined,
      Classification.restrict_addAll, Classification.restrict_addAll,
      ← Dependency.distinct_filter, ← Dependency.distinct_filter, ties key]
  constructor <;>
    refine (Dependency.sort_isStable _).eq_of_filter_eq (Dependency.sort_isStable _) fun key => ?_
  -- the order of the keys brings its own test of equality
  · have same := congrArg (·.inlined.toList) (tied key)
    rw [Classification.toList_inlined_restrict, Classification.toList_inlined_restrict] at same
    convert same
  · have same := congrArg (·.embedded.toList) (tied key)
    rw [Classification.toList_embedded_restrict, Classification.toList_embedded_restrict] at same
    convert same

/-- Among what is listed after a pass of which no clause is refused, those whose files cannot
be asked for have the same keys in their order, inlined before embedded. -/
theorem Settings.keys_unasked [Release] (reordered : first.Perm second)
    (whole : (settings.pass first).failure = none) (files : FileTree) :
    let unasked := fun classified : Classification =>
      (classified.sortedInlined ++ classified.sortedEmbedded).filter fun d =>
        (fileFailure? files d).isSome
    (unasked (settings.pass first).classification).map Dependency.sortKey =
      (unasked (settings.pass second).classification).map Dependency.sortKey := by
  obtain ⟨inlined, embedded⟩ := Settings.sorted_agreeUpToTies reordered whole
  have inlinedKeys := (inlined.filter (Dependency.sort_isStable _).ordered
    fun d => (fileFailure? files d).isSome).keys
  have embeddedKeys := (embedded.filter (Dependency.sort_isStable _).ordered
    fun d => (fileFailure? files d).isSome).keys
  simp only [List.filter_append, List.map_append, inlinedKeys, embeddedKeys]

end Passes

/-! ### Files that cannot be asked for -/

/-- The first answer over a list is that of the first element that has one. -/
theorem findSome?_eq_bind_head? {α β : Type} (f : α → Option β) (list : List α) :
    list.findSome? f = (list.filter fun a => (f a).isSome).head?.bind f := by
  induction list with
  | nil => rfl
  | cons a list ih =>
      rw [List.findSome?_cons, List.filter_cons]
      cases answer : f a with
      | none => exact ih
      | some b => exact answer.symm

/-- If the elements that have an answer have the same keys in two lists, there are first
answers in both lists, of elements with the same key, or in neither. -/
theorem findSome?_cases_of_keys {α β κ : Type} {f : α → Option β} {key : α → κ}
    {first second : List α}
    (keys : (first.filter fun a => (f a).isSome).map key =
      (second.filter fun a => (f a).isSome).map key) :
    first.findSome? f = none ∧ second.findSome? f = none ∨
      ∃ a ∈ first, ∃ b ∈ second, key a = key b ∧ first.findSome? f = f a ∧
        second.findSome? f = f b ∧ (f a).isSome = true ∧ (f b).isSome = true := by
  rw [findSome?_eq_bind_head?, findSome?_eq_bind_head?]
  cases answers : first.filter fun a => (f a).isSome with
  | nil =>
      rw [answers, List.map_nil, eq_comm, List.map_eq_nil_iff] at keys
      rw [keys]
      exact .inl ⟨rfl, rfl⟩
  | cons a later =>
      rw [answers, List.map_cons, eq_comm, List.map_eq_cons_iff] at keys
      obtain ⟨b, later', answers', sameKey, -⟩ := keys
      obtain ⟨inFirst, answerA⟩ := List.mem_filter.mp (answers ▸ List.mem_cons_self)
      obtain ⟨inSecond, answerB⟩ := List.mem_filter.mp (answers' ▸ List.mem_cons_self)
      rw [answers']
      exact .inr ⟨a, inFirst, b, inSecond, sameKey.symm, rfl, rfl, answerA, answerB⟩

/-! ### Runs -/

/-- Two outcomes differ in the places of dependencies with the same key only: both runs
return and append the same entries to the headers, or the same clause is refused in both, or
in both a file cannot be asked for, of dependencies with the same key. -/
inductive SameUpToTies (files : FileTree) (existing : Headers) (dependencies : List Dependency) :
    Except EmbedFault EmbedResult → Except EmbedFault EmbedResult → Prop where
  | returned {result result' : EmbedResult} {added added' : Additions}
      (inlined : AgreeUpToTies Dependency.sortKey result.inlined result'.inlined)
      (embedded : AgreeUpToTies Dependency.sortKey result.embedded result'.embedded)
      (headers : result.headers = existing.extend added)
      (headers' : result'.headers = existing.extend added')
      (sameTargets : added.targets.Perm added'.targets)
      (sameResources : added.resources.Perm added'.resources) :
      SameUpToTies files existing dependencies (.ok result) (.ok result')
  | refused (fault : ClauseFault) :
      SameUpToTies files existing dependencies (.error (.clause fault)) (.error (.clause fault))
  | unasked {d d' : Dependency} {failure failure' : FileFailure} (isOne : d ∈ dependencies)
      (isOne' : d' ∈ dependencies) (sameKey : d.sortKey = d'.sortKey)
      (fails : fileFailure? files d = some failure)
      (fails' : fileFailure? files d' = some failure') :
      SameUpToTies files existing dependencies (.error (.file failure)) (.error (.file failure'))

/-- What a run lists are some of the dependencies. -/
theorem Settings.mem_of_mem_sorted [Release] {settings : Settings}
    {dependencies : List Dependency}
    (whole : (settings.pass dependencies).failure = none) {d : Dependency} :
    let classified := (settings.pass dependencies).classification
    d ∈ classified.sortedInlined ++ classified.sortedEmbedded → d ∈ dependencies := by
  intro classified isListed
  have form : classified = _ := Settings.classification_pass whole
  have isCandidate : d ∈ settings.candidates dependencies := by
    rw [List.mem_append, Classification.sortedInlined, Classification.sortedEmbedded,
      (Dependency.sort_isStable _).perm.mem_iff, (Dependency.sort_isStable _).perm.mem_iff,
      form] at isListed
    obtain ⟨notInlined, notEmbedded⟩ := Classification.not_mem_empty d
    rcases isListed with inlined | embedded
    · have selected := Classification.mem_addAll_inlined.mp inlined
      exact Dependency.mem_distinct.mp (selected.resolve_left notInlined).1
    · have selected := Classification.mem_addAll_embedded.mp (List.mem_filter.mp embedded).1
      exact Dependency.mem_distinct.mp (selected.resolve_left notEmbedded).1
  unfold Settings.candidates at isCandidate
  split at isCandidate
  · exact isCandidate
  · exact (List.mem_filter.mp isCandidate).1

section Runs

variable [Release] {dependencies dependencies' : List Dependency} {settings : Settings}

/-- A run is settled by how its pass fails and what that leaves, sorted. -/
theorem embedAll_result_congr
    (sameFailure : (settings.pass dependencies).failure = (settings.pass dependencies').failure)
    (sameSorted : (settings.pass dependencies).failure = none →
      let classified := (settings.pass dependencies).classification
      let classified' := (settings.pass dependencies').classification
      classified.sortedInlined = classified'.sortedInlined ∧
        classified.sortedEmbedded = classified'.sortedEmbedded)
    (files : FileTree) (existing : Headers) :
    (embedAll dependencies files settings existing).result =
      (embedAll dependencies' files settings existing).result := by
  by_cases noClauses : settings.clauses = []
  · simp only [embedAll, if_pos noClauses]
  cases ended : (settings.pass dependencies).failure with
  | some fault =>
      rw [embedAll_of_refused noClauses ended,
        embedAll_of_refused noClauses (sameFailure.symm.trans ended)]
  | none =>
      obtain ⟨inlined, embedded⟩ := sameSorted ended
      have ended' := sameFailure.symm.trans ended
      rw [embedAll_result, embedAll_result]
      simp only [Settings.additions, if_neg noClauses, ended, ended', inlined, embedded]

/-- Runs over the same dependencies in another order give the same up to ties. -/
theorem embedAll_sameUpToTies (reordered : dependencies.Perm dependencies') (files : FileTree)
    (existing : Headers) :
    SameUpToTies files existing dependencies
      (embedAll dependencies files settings existing).result
      (embedAll dependencies' files settings existing).result := by
  by_cases noClauses : settings.clauses = []
  · simp only [embedAll, if_pos noClauses]
    have unchanged : existing = existing.extend .nothing := existing.extend_nothing.symm
    exact .returned ⟨.refl _, rfl⟩ ⟨.refl _, rfl⟩ unchanged unchanged (.refl _) (.refl _)
  have sameFailure : (settings.pass dependencies).failure = (settings.pass dependencies').failure :=
    Settings.failure_pass_of_perm reordered
  cases ended : (settings.pass dependencies).failure with
  | some fault =>
      rw [embedAll_of_refused noClauses ended,
        embedAll_of_refused noClauses (sameFailure.symm.trans ended)]
      exact .refused fault
  | none =>
      have ended' := sameFailure.symm.trans ended
      obtain ⟨inlined, embedded⟩ := Settings.sorted_agreeUpToTies reordered ended
      rw [embedAll_result, embedAll_result]
      simp only [Settings.additions, if_neg noClauses, ended, ended']
      rcases findSome?_cases_of_keys (Settings.keys_unasked reordered ended files) with
        ⟨noFailure, noFailure'⟩ |
        ⟨d, isListed, d', isListed', sameKey, first, first', fails, fails'⟩
      · rw [noFailure, noFailure']
        exact .returned inlined embedded rfl rfl (embedded.perm.filterMap _)
          ((inlined.perm.filterMap _).append (embedded.perm.filterMap _))
      · obtain ⟨failure, fails⟩ := Option.isSome_iff_exists.mp fails
        obtain ⟨failure', fails'⟩ := Option.isSome_iff_exists.mp fails'
        rw [first, first', fails, fails']
        exact .unasked (Settings.mem_of_mem_sorted ended isListed)
          (reordered.mem_iff.mpr (Settings.mem_of_mem_sorted ended' isListed')) sameKey fails fails'

end Runs

/-- Two runs over the same dependencies in another order give the same up to ties: they fail
alike, or they list the same dependencies, at each place with the same key, and append the same
entries to the headers. They give exactly the same when the candidates with the same key are
met first in the same order. -/
theorem process_reordered [Release] (e e' : Embedder) (files : FileTree) (settings : Settings)
    (existing : Headers) (reordered : e.dependencies.Perm e'.dependencies) :
    let outcome := (e.process files settings existing).2
    let outcome' := (e'.process files settings existing).2
    (Dependency.SameTies (settings.candidates e.dependencies)
        (settings.candidates e'.dependencies) → outcome = outcome') ∧
      SameUpToTies files existing e.dependencies outcome outcome' :=
  ⟨fun ties => embedAll_result_congr (Settings.failure_pass_of_perm reordered)
      (Settings.sorted_eq_of_sameTies reordered ties) files existing,
    embedAll_sameUpToTies reordered files existing⟩

open PlacedFiles in
theorem process_reordered_stored :
    let turned := Embedder.ofDependencies embedder.dependencies.reverse
    embedder.dependencies.Perm turned.dependencies ∧
      Dependency.SameTies (settings.candidates embedder.dependencies)
        (settings.candidates turned.dependencies) ∧
      (embedder.process files settings existing).2 = .ok result ∧
      (turned.process files settings existing).2 = .ok result ∧
      SameUpToTies files existing embedder.dependencies
        (embedder.process files settings existing).2
        (turned.process files settings existing).2 := by
  intro turned
  have reordered : embedder.dependencies.Perm turned.dependencies :=
    (List.reverse_perm _).symm
  have ties : Dependency.SameTies (settings.candidates embedder.dependencies)
      (settings.candidates turned.dependencies) :=
    Dependency.sameTies_of_injective (settings.candidates_perm reordered) (by decide +kernel)
  obtain ⟨same, upToTies⟩ :=
    process_reordered embedder turned files settings existing reordered
  exact ⟨reordered, ties, returned, (same ties).symm.trans returned, upToTies⟩

/-! ### A tie -/

namespace Tie

/-- Two dependencies that differ in their scope only, which is not part of the key. -/
def compiled : Dependency := .named "a"

@[inherit_doc compiled] def running : Dependency := { compiled with scope := some "runtime" }

/-- Everything is embedded. -/
def settings : Settings := { Settings.standard with clauses := [⟨"*", []⟩] }

/-- Both are listed as they were given, since they are ordered either way. -/
theorem returned {dependencies : List Dependency}
    (isPair : dependencies ∈ [[compiled, running], [running, compiled]]) :
    ((Embedder.ofDependencies dependencies).process (.emptyIn []) settings .absent).2 =
      .ok ⟨[], dependencies, .absent⟩ := by
  have given : ∀ pair ∈ [[compiled, running], [running, compiled]],
      settings.GivesOrdered pair (.emptyIn []) .absent ⟨[], pair, .absent⟩ := by decide +kernel
  exact embedAll_result_of_ordered (given dependencies isPair)

end Tie

/-- Runs over the same dependencies do not always give the same: two dependencies with the
same key are listed in the order in which they were given. -/
theorem not_reproducible_of_tie :
    ¬ ∀ (e e' : Embedder) (files : FileTree) (settings : Settings) (existing : Headers),
      e.dependencies.Perm e'.dependencies →
        (e.process files settings existing).2 = (e'.process files settings existing).2 := by
  intro reproducible
  have same := reproducible (.ofDependencies [Tie.compiled, Tie.running])
    (.ofDependencies [Tie.running, Tie.compiled]) (.emptyIn []) Tie.settings .absent
    (List.Perm.swap _ _ _)
  rw [Tie.returned (by decide), Tie.returned (by decide)] at same
  have differ : [Tie.compiled, Tie.running] ≠ [Tie.running, Tie.compiled] := by decide
  exact differ (congrArg EmbedResult.embedded (Except.ok.inj same))

end BundleEmbed
