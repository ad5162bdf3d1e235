import BundleEmbed.Proofs.Reordering

/-!
Clauses written in another order.

What a clause selects does not depend on the clauses around it, and a dependency that an
inlining clause selects is not embedded, wherever that clause stands. So neither the order of
the clauses nor repetitions of them matter, and neither does the order of the attributes in a
clause, but for one thing: a dependency is asked about by an attribute only for as long as it
has passed the ones before it, so a search that comes to nothing
(`Regex.MatchFault`) may be reached in one order and not in another.

* `Clause.SameRule.inlines`, `Clause.SameRule.embeds`: the order of attributes changes
  nothing in what a clause selects.
* `classify_rules`: what passes over the same clauses in different orders have in common.
* `not_fails_alike_of_crossed_group`: they do not always fail alike.
-/

namespace BundleEmbed

open Regex (Release)

/-! ### The same clauses -/

/-- Two clauses say the same: they have the same pattern and the same attributes, in any
order. No key stands twice among the attributes. -/
structure Clause.SameRule (a b : Clause) : Prop where
  pattern : a.pattern = b.pattern
  attributes : a.attributes.Perm b.attributes
  distinctKeys : (a.attributes.map Prod.fst).Nodup

/-- Two lists of clauses say the same, in any order and with any repetitions. -/
structure SameRules (first second : List Clause) : Prop where
  inSecond : ∀ a ∈ first, ∃ b ∈ second, a.SameRule b
  inFirst : ∀ b ∈ second, ∃ a ∈ first, a.SameRule b

instance (a b : Clause) : Decidable (a.SameRule b) :=
  decidable_of_iff (a.pattern = b.pattern ∧ a.attributes.Perm b.attributes ∧
      (a.attributes.map Prod.fst).Nodup)
    ⟨fun ⟨pattern, attributes, keys⟩ => ⟨pattern, attributes, keys⟩,
      fun same => ⟨same.pattern, same.attributes, same.distinctKeys⟩⟩

instance (first second : List Clause) : Decidable (SameRules first second) :=
  decidable_of_iff ((∀ a ∈ first, ∃ b ∈ second, a.SameRule b) ∧
      ∀ b ∈ second, ∃ a ∈ first, a.SameRule b)
    ⟨fun ⟨inSecond, inFirst⟩ => ⟨inSecond, inFirst⟩, fun same => ⟨same.inSecond, same.inFirst⟩⟩

theorem Clause.SameRule.symm {a b : Clause} (same : a.SameRule b) : b.SameRule a where
  pattern := same.pattern.symm
  attributes := same.attributes.symm
  distinctKeys := (same.attributes.map Prod.fst).nodup_iff.mp same.distinctKeys

theorem SameRules.symm {first second : List Clause} (same : SameRules first second) :
    SameRules second first where
  inSecond b isSecond := (same.inFirst b isSecond).imp fun _ ⟨isFirst, same⟩ => ⟨isFirst, same.symm⟩
  inFirst a isFirst := (same.inSecond a isFirst).imp fun _ ⟨isSecond, same⟩ => ⟨isSecond, same.symm⟩

/-! ### What a clause says -/

/-- Where no key stands twice, a value is found under a key when the pair is there. -/
theorem Mapping.lookup_eq_some_iff_mem {α : Type} {mapping : Mapping α}
    (distinctKeys : (mapping.map Prod.fst).Nodup) {key : Text} {value : α} :
    mapping.lookup key = some value ↔ (key, value) ∈ mapping := by
  rw [List.lookup_eq_some_iff]
  constructor
  · rintro ⟨before, after, rfl, -⟩
    simp
  · intro isPair
    obtain ⟨before, after, rfl⟩ := List.append_of_mem isPair
    refine ⟨before, after, rfl, fun pair isBefore => bne_iff_ne.mpr fun same => ?_⟩
    rw [List.map_append, List.map_cons, List.nodup_middle, List.nodup_cons] at distinctKeys
    have isKey : key ∈ before.map Prod.fst := List.mem_map.mpr ⟨pair, isBefore, same.symm⟩
    exact distinctKeys.1 (List.mem_append_left _ isKey)

/-- A clause in which no key stands twice asks for inlining when it has the attribute that
does, with a text that is true. -/
theorem Clause.asksInline_iff {clause : Clause}
    (distinctKeys : (clause.attributes.map Prod.fst).Nodup) :
    clause.asksInline = true ↔
      ∃ text, (inlineKey, text) ∈ clause.attributes ∧ isTrueText text = true := by
  have distinctReversed : (clause.attributes.reverse.map Prod.fst).Nodup := by
    rw [List.map_reverse, List.nodup_reverse]
    exact distinctKeys
  rw [asksInline, isSet, Option.any_eq_true]
  refine exists_congr fun text => and_congr_left fun _ => ?_
  rw [Mapping.lookup_eq_some_iff_mem distinctReversed, List.mem_reverse]

namespace Clause.SameRule

variable {a b : Clause} (same : a.SameRule b)

include same

theorem asksInline : a.asksInline = b.asksInline := by
  rw [Bool.eq_iff_iff, asksInline_iff same.distinctKeys, asksInline_iff same.symm.distinctKeys]
  simp only [same.attributes.mem_iff]

theorem accepts [Release] (d : Dependency) : a.accepts d = b.accepts d := by
  rw [Clause.accepts, Clause.accepts, same.pattern, same.attributes.all_eq]

theorem inlines [Release] (d : Dependency) : a.inlines d = b.inlines d := by
  rw [Clause.inlines, Clause.inlines, same.asksInline, same.accepts]

theorem embeds [Release] (d : Dependency) : a.embeds d = b.embeds d := by
  rw [Clause.embeds, Clause.embeds, same.asksInline, same.accepts]

/-- Clauses that say the same are both refused for what they say, though not always for the
same thing in it. -/
theorem isSome_fault? : a.fault?.isSome = b.fault?.isSome := by
  rw [fault?, fault?, Option.isSome_or, Option.isSome_or, List.isSome_findSome?,
    List.isSome_findSome?, same.pattern, same.attributes.any_eq]

end Clause.SameRule

/-- What some clause of a list selects is selected by one of every list that says the
same. -/
theorem SameRules.exists_iff {first second : List Clause} (same : SameRules first second)
    {holds : Clause → Dependency → Bool} {d : Dependency}
    (alike : ∀ a b : Clause, a.SameRule b → holds a d = holds b d) :
    (∃ clause ∈ first, holds clause d = true) ↔ ∃ clause ∈ second, holds clause d = true := by
  constructor
  · rintro ⟨a, isFirst, selects⟩
    obtain ⟨b, isSecond, rule⟩ := same.inSecond a isFirst
    exact ⟨b, isSecond, alike a b rule ▸ selects⟩
  · rintro ⟨b, isSecond, selects⟩
    obtain ⟨a, isFirst, rule⟩ := same.inFirst b isSecond
    exact ⟨a, isFirst, alike a b rule ▸ selects⟩

/-! ### What passes have in common -/

/-- Two classifications have the same members. Sorted, these agree up to ties, and they are
the same where no two of them have the same key. -/
structure Classification.Agrees (c c' : Classification) : Prop where
  inlined : ∀ d, d ∈ c.inlined ↔ d ∈ c'.inlined
  embedded : ∀ d, d ∈ c.embedded ↔ d ∈ c'.embedded
  sortedInlined : AgreeUpToTies Dependency.sortKey c.sortedInlined c'.sortedInlined
  sortedEmbedded : AgreeUpToTies Dependency.sortKey c.sortedEmbedded c'.sortedEmbedded
  sortedInlined_eq : (∀ a ∈ c.inlined, ∀ b ∈ c.inlined, a.sortKey = b.sortKey → a = b) →
    c.sortedInlined = c'.sortedInlined
  sortedEmbedded_eq : (∀ a ∈ c.embedded, ∀ b ∈ c.embedded, a.sortKey = b.sortKey → a = b) →
    c.sortedEmbedded = c'.sortedEmbedded

/-- A pass over clauses fails for a search that comes to nothing, in a clause that is not
written in the same way among other clauses. -/
def Pass.CrossesOutside [Release] (pass : Pass) (dependencies : List Dependency)
    (clauses others : List Clause) : Prop :=
  pass.failure = some (.matching .crossedGroup) ∧
    ∃ clause ∈ clauses, clause ∉ others ∧ ∃ d ∈ dependencies, clause.crosses d = true

/-- Lists that agree up to ties are the same where no two elements have the same key. -/
theorem AgreeUpToTies.eq_of_injective {α κ : Type} {key : α → κ} {first second : List α}
    (agree : AgreeUpToTies key first second)
    (injective : ∀ a ∈ first, ∀ b ∈ first, key a = key b → a = b) : first = second := by
  obtain ⟨perm, keys⟩ := agree
  refine List.ext_getElem perm.length_eq fun place isFirst isSecond => ?_
  refine injective _ (List.getElem_mem isFirst) _ (perm.mem_iff.mpr (List.getElem_mem isSecond)) ?_
  have sameKeys := congrArg (·[place]?) keys
  simpa [isFirst, isSecond] using sameKeys

/-- Sets with the same members, sorted, agree up to ties, and are the same where no two
members have the same key. -/
theorem OrderedSet.sort_agrees {s t : OrderedSet Dependency}
    (sameMembers : ∀ d, d ∈ s ↔ d ∈ t) :
    AgreeUpToTies Dependency.sortKey (Dependency.sort s.toList) (Dependency.sort t.toList) ∧
      ((∀ a ∈ s, ∀ b ∈ s, a.sortKey = b.sortKey → a = b) →
        Dependency.sort s.toList = Dependency.sort t.toList) := by
  have agree := (Dependency.sort_isStable s.toList).agreeUpToTies
    (Dependency.sort_isStable t.toList) (OrderedSet.toList_perm_iff.mpr sameMembers)
  have isMember : ∀ d, d ∈ Dependency.sort s.toList ↔ d ∈ s := fun d =>
    (Dependency.sort_isStable s.toList).perm.mem_iff
  refine ⟨agree, fun injective => agree.eq_of_injective fun a isA b isB => ?_⟩
  exact injective a ((isMember a).mp isA) b ((isMember b).mp isB)

/-- Classifications with the same members agree. -/
theorem Classification.Agrees.of_mem_iff {c c' : Classification}
    (inlined : ∀ d, d ∈ c.inlined ↔ d ∈ c'.inlined)
    (embedded : ∀ d, d ∈ c.embedded ↔ d ∈ c'.embedded) : c.Agrees c' where
  inlined := inlined
  embedded := embedded
  sortedInlined := (OrderedSet.sort_agrees inlined).1
  sortedEmbedded := (OrderedSet.sort_agrees embedded).1
  sortedInlined_eq := (OrderedSet.sort_agrees inlined).2
  sortedEmbedded_eq := (OrderedSet.sort_agrees embedded).2

namespace SameRules

variable [Release] {first second : List Clause} (same : SameRules first second)
  {dependencies : List Dependency}

include same

/-- What is inlined and embedded does not depend on the order in which clauses are written. -/
theorem preferInlined_addAll (c : Classification) (candidates : List Dependency) :
    (c.addAll candidates first).preferInlined.Agrees
      (c.addAll candidates second).preferInlined := by
  have inlined : ∀ d, d ∈ (c.addAll candidates first).inlined ↔
      d ∈ (c.addAll candidates second).inlined := fun d => by
    rw [Classification.mem_addAll_inlined, Classification.mem_addAll_inlined,
      same.exists_iff fun a b rule => rule.inlines d]
  have embedded : ∀ d, d ∈ (c.addAll candidates first).embedded ↔
      d ∈ (c.addAll candidates second).embedded := fun d => by
    rw [Classification.mem_addAll_embedded, Classification.mem_addAll_embedded,
      same.exists_iff fun a b rule => rule.embeds d]
  refine .of_mem_iff inlined fun d => ?_
  simp only [Classification.preferInlined, OrderedSet.mem_filter, inlined, embedded]

/-- A pass that fails over clauses that say the same as those of one that comes to its end
fails for a search that comes to nothing, in a clause that is written in another way. -/
theorem crossesOutside {start start' : Classification} {fault : ClauseFault}
    (whole : (classify dependencies first start).failure = none)
    (failed : (classify dependencies second start').failure = some fault) :
    (classify dependencies second start').CrossesOutside dependencies second first := by
  have accepted := classify_outcome dependencies first start
  have refused := classify_outcome dependencies second start'
  simp only [whole] at accepted
  simp only [failed] at refused
  obtain ⟨before, clause, later, split, -, refusal, -⟩ := refused
  have isSecond : clause ∈ second := by rw [split]; simp
  rcases refusal with faulty | ⟨rfl, d, isOne, crosses⟩
  · -- a clause of the first list that says the same would be refused too
    obtain ⟨a, isFirst, rule⟩ := same.inFirst clause isSecond
    have noFault := rule.isSome_fault?
    rw [(accepted a isFirst).1, faulty] at noFault
    cases noFault
  · refine ⟨failed, clause, isSecond, fun isFirst => ?_, d, isOne, crosses⟩
    rw [(accepted clause isFirst).2 d isOne] at crosses
    cases crosses

/-- If a pass comes to its end, so does one over clauses that say the same, or it fails for a
search that comes to nothing, in a clause that is written in another way. -/
theorem failure_eq_none_or (start start' : Classification)
    (whole : (classify dependencies first start).failure = none) :
    (classify dependencies second start').failure = none ∨
      (classify dependencies second start').CrossesOutside dependencies second first := by
  cases failed : (classify dependencies second start').failure with
  | none => exact .inl rfl
  | some fault => exact .inr (same.crossesOutside whole failed)

end SameRules

/-- Passes over clauses that say the same both come to their end or both fail, unless one of
them fails for a search that comes to nothing, in a clause whose attributes stand in another
order in the other list. If both come to their end, they leave the same members; sorted, these
agree up to ties, and are the same where no two of them have the same key. -/
theorem classify_rules [Release] (dependencies : List Dependency) {first second : List Clause}
    (same : SameRules first second) :
    let pass := classify dependencies first .empty
    let pass' := classify dependencies second .empty
    (pass.failure = none →
        pass'.failure = none ∨ pass'.CrossesOutside dependencies second first) ∧
      (pass'.failure = none →
        pass.failure = none ∨ pass.CrossesOutside dependencies first second) ∧
      (pass.failure = none → pass'.failure = none →
        pass.classification.Agrees pass'.classification) := by
  intro pass pass'
  refine ⟨same.failure_eq_none_or .empty .empty, same.symm.failure_eq_none_or .empty .empty,
    fun whole whole' => ?_⟩
  have form : pass.classification = _ := Pass.classification_of_whole whole
  have form' : pass'.classification = _ := Pass.classification_of_whole whole'
  rw [form, form']
  exact same.preferInlined_addAll .empty (Dependency.distinct dependencies)

/-! ### Clauses that overlap -/

namespace OverlappingRules

/-- Dependencies of which some are selected by several clauses. -/
def dependencies : List Dependency := [.named "widget", .named "gadget", .named "junit"]

/-- The second clause inlines some of what the first one embeds. -/
def rules : List Clause :=
  [⟨"*", [("scope", "compile"), ("type", "jar|war")]⟩,
    ⟨"g*|w*", [("type", "!war"), (inlineKey, "TRUE"), ("version", "1.*")]⟩]

/-- The same clauses in another order, one of them twice. -/
def turned : List Clause :=
  [⟨"g*|w*", [(inlineKey, "TRUE"), ("version", "1.*"), ("type", "!war")]⟩,
    ⟨"*", [("type", "jar|war"), ("scope", "compile")]⟩,
    ⟨"g*|w*", [("version", "1.*"), ("type", "!war"), (inlineKey, "TRUE")]⟩]

end OverlappingRules

open OverlappingRules in
theorem classify_rules_overlapping :
    let pass := classify dependencies rules .empty
    let pass' := classify dependencies turned .empty
    SameRules rules turned ∧ pass.failure = none ∧ pass'.failure = none ∧
      pass.classification.inlined.toList = [.named "widget", .named "gadget"] ∧
      pass.classification.embedded.toList = [.named "junit"] ∧
      pass.classification.Agrees pass'.classification := by
  intro pass pass'
  have same : SameRules rules turned := by decide +kernel
  have whole : pass.failure = none := by decide +kernel
  have whole' : pass'.failure = none := by decide +kernel
  exact ⟨same, whole, whole', by decide +kernel, by decide +kernel,
    (classify_rules dependencies same).2.2 whole whole'⟩

/-! ### A search that is reached in one order only -/

/-- Passes over clauses that say the same do not always fail alike: an attribute may keep a
dependency from the search that comes to nothing. -/
theorem not_fails_alike_of_crossed_group :
    ¬ ∀ (dependencies : List Dependency) (first second : List Clause), SameRules first second →
      ((classify dependencies first .empty).failure = none ↔
        (classify dependencies second .empty).failure = none) := by
  intro alike
  let crossing : Text × Text := ("artifactId", "((x)|y|z)\x7b0,\x7d+")
  let first : List Clause := [⟨"*", [("scope", "test"), crossing]⟩]
  let second : List Clause := [⟨"*", [crossing, ("scope", "test")]⟩]
  have same : SameRules first second := by decide +kernel
  have whole : (classify [.named "xyz"] first .empty).failure = none := by decide +kernel
  have fails : (classify [.named "xyz"] second .empty).failure ≠ none := by decide +kernel
  exact fails ((alike [.named "xyz"] first second same).mp whole)

end BundleEmbed
