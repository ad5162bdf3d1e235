import BundleEmbed.Proofs.Pass

/-!
What a pass leaves, said without the pass.

The inlined set is what it was before, followed by the candidates that some clause inlines;
the embedded set likewise, without what is inlined in the end. New members are listed by
the first clause that puts them in, and by their first place among the dependencies.

* `classify_isExact`: a pass of which no clause is refused leaves exactly this.
-/

namespace BundleEmbed

open Regex (Release)

/-- A pass of clauses over dependencies, starting from a classification, has come to its
end and leaves exactly what the clauses inline and embed. -/
structure Pass.IsExact [Release] (dependencies : List Dependency) (clauses : List Clause)
    (start : Classification) (pass : Pass) : Prop where
  noFailure : pass.failure = none
  inlined : ∃ fresh,
    IsListing (fun d => d ∉ start.inlined ∧ d ∈ dependencies ∧
      ∃ clause ∈ clauses, clause.inlines d = true)
      (firstPassed clauses Clause.inlines dependencies) fresh ∧
    pass.classification.inlined.toList = start.inlined.toList ++ fresh
  embedded : ∃ fresh,
    IsListing (fun d => d ∉ start.embedded ∧ d ∈ dependencies ∧
      ∃ clause ∈ clauses, clause.embeds d = true)
      (firstPassed clauses Clause.embeds dependencies) fresh ∧
    pass.classification.embedded.toList =
      (start.embedded.toList ++ fresh).filter (· ∉ pass.classification.inlined)
  disjoint : ∀ d ∈ pass.classification.inlined, d ∉ pass.classification.embedded

/-- The new members of a set, when clauses put in the candidates that they let through. -/
theorem toList_insertAll_candidates (s : OrderedSet Dependency) (dependencies : List Dependency)
    (clauses : List Clause) (holds : Clause → Dependency → Bool) :
    ∃ fresh,
      IsListing (fun d => d ∉ s ∧ d ∈ dependencies ∧ ∃ clause ∈ clauses, holds clause d = true)
        (firstPassed clauses holds dependencies) fresh ∧
      (s.insertAll (clauses.flatMap fun clause =>
        (Dependency.distinct dependencies).filter (holds clause))).toList =
          s.toList ++ fresh := by
  obtain ⟨fresh, whole, listing⟩ :=
    s.toList_insertAll_flatMap clauses holds (OrderedSet.toList_ofList dependencies).ordered
  refine ⟨fresh, listing.imp (fun d => ?_) fun _ _ _ _ before => before, whole⟩
  rw [(OrderedSet.toList_ofList dependencies).mem_iff]

/-- A pass of which no clause is refused leaves exactly what its clauses inline and embed. -/
theorem classify_isExact [Release] (dependencies : List Dependency) (clauses : List Clause)
    (start : Classification)
    (selects : ∀ clause ∈ clauses,
      (clause.select (Dependency.distinct dependencies)).toBool = true) :
    Pass.IsExact dependencies clauses start (classify dependencies clauses start) := by
  obtain ⟨noFailure, result⟩ := Pass.run_of_select_ok selects start
  change (classify dependencies clauses start).failure = none at noFailure
  change (classify dependencies clauses start).classification = _ at result
  rw [Classification.addAll_eq] at result
  obtain ⟨freshInlined, listedInlined, wholeInlined⟩ :=
    toList_insertAll_candidates start.inlined dependencies clauses Clause.inlines
  obtain ⟨freshEmbedded, listedEmbedded, wholeEmbedded⟩ :=
    toList_insertAll_candidates start.embedded dependencies clauses Clause.embeds
  refine ⟨noFailure, ⟨freshInlined, listedInlined, ?_⟩, ⟨freshEmbedded, listedEmbedded, ?_⟩, ?_⟩
  · rw [result, ← wholeInlined]
    rfl
  · rw [result, ← wholeEmbedded]
    rfl
  · rw [result]
    exact fun d => Classification.not_mem_preferInlined_embedded

/-! ### Overlapping clauses -/

namespace OverlappingClauses

/-- A dependency of which only the name of the artifact is of interest. -/
def named (artifactId : Text) : Dependency where
  groupId := "com.acme"
  artifactId := artifactId
  version := "1"
  selectedVersion := none
  scope := none
  type := none
  classifier := none
  isOptional := none
  file := none
  extension := none
  direct := true

/-- A dependency that occurs twice, between others. -/
def dependencies : List Dependency :=
  [named "widget", named "gadget", named "widget", named "junit"]

/-- The second clause inlines some of what the first one embeds. -/
def clauses : List Clause :=
  [⟨"*", [("scope", "compile"), ("groupId", "com.acme.*")]⟩,
    ⟨"g*|w*", [(inlineKey, "TRUE"), ("type", "!war")]⟩]

/-- What has been classified before overlaps with what is to be classified. -/
def start : Classification :=
  ⟨.ofList [named "gadget"], .ofList [named "old", named "widget"]⟩

end OverlappingClauses

open OverlappingClauses in
theorem classify_isExact_overlapping :
    (∀ clause ∈ clauses, (clause.select (Dependency.distinct dependencies)).toBool = true) ∧
      Pass.IsExact dependencies clauses start (classify dependencies clauses start) ∧
      (classify dependencies clauses start).classification.inlined.toList =
        [named "gadget", named "widget"] ∧
      (classify dependencies clauses start).classification.embedded.toList =
        [named "old", named "junit"] :=
  ⟨by decide +kernel, classify_isExact _ _ _ (by decide +kernel), by decide +kernel,
    by decide +kernel⟩

end BundleEmbed
