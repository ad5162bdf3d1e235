import BundleEmbed.Proofs.Run

/-!
Inlining takes precedence over embedding, for as long as no clause is refused.

What is inlined is taken out of what is embedded at the end of a pass. A pass that a
refused clause ends has not come to this point, and it keeps what the clauses before have
selected as it is.

* `mem_both_iff_refused`: after any calls, exactly those dependencies are inlined and
  embedded at once that two clauses before a refused one have selected in both ways.
* `mem_both_of_refused_attribute`: this does happen.
-/

namespace BundleEmbed

open Regex (Release)

/-- The clauses that a run with the settings applies: all of them, or those before the
first that is refused. -/
def Settings.appliedClauses [Release] (settings : Settings) (dependencies : List Dependency) :
    List Clause :=
  Clause.untilRefused (Dependency.distinct (settings.candidates dependencies)) settings.clauses

/-- Sorting keeps the members of a list. -/
theorem Dependency.mem_sort {dependencies : List Dependency} {d : Dependency} :
    d ∈ Dependency.sort dependencies ↔ d ∈ dependencies :=
  List.mem_mergeSort

/-- A run of which no clause is refused classifies no dependency in both ways. -/
theorem Settings.pass_disjoint [Release] {settings : Settings} {dependencies : List Dependency}
    (whole : (settings.pass dependencies).failure = none) {d : Dependency}
    (inlined : d ∈ (settings.pass dependencies).classification.inlined) :
    d ∉ (settings.pass dependencies).classification.embedded := by
  rw [Settings.classification_pass whole] at inlined ⊢
  exact Classification.not_mem_preferInlined_embedded inlined

/-- A run that a refused clause ends has classified in both ways what the clauses before
have selected in both ways. -/
theorem Settings.mem_pass_both_iff [Release] {settings : Settings}
    {dependencies : List Dependency}
    {fault : ClauseFault} (refused : (settings.pass dependencies).failure = some fault)
    {d : Dependency} :
    d ∈ (settings.pass dependencies).classification.inlined ∧
        d ∈ (settings.pass dependencies).classification.embedded ↔
      d ∈ settings.candidates dependencies ∧
        (∃ clause ∈ settings.appliedClauses dependencies, clause.inlines d = true) ∧
        ∃ clause ∈ settings.appliedClauses dependencies, clause.embeds d = true := by
  rcases Pass.run_cases (Dependency.distinct (settings.candidates dependencies))
    settings.clauses .empty with
    ⟨-, whole, -⟩ | ⟨-, -, -, -, -, -, result⟩
  · change (settings.pass dependencies).failure = _ at whole
    rw [whole] at refused
    cases refused
  · change (settings.pass dependencies).classification = _ at result
    rw [result, Classification.mem_addAll_inlined, Classification.mem_addAll_embedded,
      Dependency.mem_distinct]
    simp only [Classification.not_mem_empty d, false_or]
    constructor
    · rintro ⟨⟨candidate, inlines⟩, -, embeds⟩
      exact ⟨candidate, inlines, embeds⟩
    · rintro ⟨candidate, inlines, embeds⟩
      exact ⟨⟨candidate, inlines⟩, candidate, embeds⟩

/-- After any calls on a new embedder, a dependency is both inlined and embedded exactly
when the last call was ended by a refused clause and the clauses before that one have
selected the dependency in both ways. In particular no dependency is both after a call that
returns, or that fails on a file. -/
theorem mem_both_iff_refused [Release] (dependencies : List Dependency) (earlier : List Call)
    (last : Call) (d : Dependency) :
    let before := (Embedder.ofDependencies dependencies).afterCalls earlier
    let after := (before.call last).1
    let applied := last.settings.appliedClauses dependencies
    (d ∈ after.inlined ∧ d ∈ after.embedded) ↔
      (∃ fault, (before.call last).2 = .error (.clause fault)) ∧
        d ∈ last.settings.candidates dependencies ∧
        (∃ clause ∈ applied, clause.inlines d = true) ∧
        ∃ clause ∈ applied, clause.embeds d = true := by
  intro before after applied
  have same : before.dependencies = dependencies :=
    Embedder.afterCalls_dependencies (Embedder.ofDependencies dependencies) earlier
  have called := before.call_eq last
  rw [same] at called
  have classified : after.classification = (embedAll dependencies last.files last.settings
      last.existing).classification := congrArg (·.1.classification) called
  have given : (before.call last).2 = (embedAll dependencies last.files last.settings
      last.existing).result := congrArg (·.2) called
  rw [Embedder.inlined, Embedder.embedded, Classification.sortedInlined,
    Classification.sortedEmbedded, Dependency.mem_sort, Dependency.mem_sort, given, classified,
    OrderedSet.mem_toList, OrderedSet.mem_toList]
  rcases embedAll_cases dependencies last.files last.settings last.existing with
    ⟨-, result, classification⟩ | ⟨-, classification, ⟨fault, refused, result⟩ | ⟨whole, ended⟩⟩
  · -- without clauses nothing is classified
    rw [result, classification]
    simp only [reduceCtorEq, exists_false, false_and, iff_false, not_and]
    exact fun inlined => absurd inlined List.not_mem_nil
  · rw [result, classification, Settings.mem_pass_both_iff refused]
    simp [applied]
  · -- all clauses were applied, so what was inlined was taken out
    rw [classification]
    constructor
    · rintro ⟨inlined, embedded⟩
      exact absurd embedded (Settings.pass_disjoint whole inlined)
    · rintro ⟨⟨fault, refused⟩, -⟩
      rcases ended with ⟨failure, -, result⟩ | ⟨headers, -, result⟩ <;>
        · rw [result] at refused
          cases refused

/-! ### A refused attribute -/

namespace RefusedAttribute

/-- A dependency that is named by all clauses below. -/
def widget : Dependency where
  groupId := "g"
  artifactId := "a"
  version := "1"
  selectedVersion := none
  scope := none
  type := none
  classifier := none
  isOptional := none
  file := none
  extension := none
  direct := true

/-- Settings that embed an artifact, inline it, and then use an attribute that is not
known. -/
def settings : Settings :=
  { Settings.standard with
    clauses := [⟨"a", []⟩, ⟨"a", [(inlineKey, "true")]⟩, ⟨"a", [("foo", "x")]⟩] }

end RefusedAttribute

/-- Not after every call are the two sets disjoint: a clause with an unknown attribute ends a
pass before what is inlined is taken out of what is embedded. -/
theorem mem_both_of_refused_attribute :
    ¬ ∀ (dependencies : List Dependency) (calls : List Call) (d : Dependency),
      let after := (Embedder.ofDependencies dependencies).afterCalls calls
      ¬ (d ∈ after.inlined ∧ d ∈ after.embedded) := by
  intro disjoint
  refine disjoint [RefusedAttribute.widget]
    [.process (.emptyIn []) RefusedAttribute.settings .absent] RefusedAttribute.widget ?_
  constructor <;> refine Dependency.mem_sort.mpr ?_ <;> decide

end BundleEmbed
