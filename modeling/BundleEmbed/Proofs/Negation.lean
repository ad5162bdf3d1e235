import BundleEmbed.Proofs.Refusal

/-!
Patterns and their negations.

An exclamation mark in front of a pattern turns its answers round. The two patterns are read
alike, and where a search comes to its end, a dependency passes one of them and not the other: so
a list is parted in two, and a clause and the clause with the negated pattern part what their
attributes select.

* `Pattern.read_negated`: the negated pattern is read as the pattern is.
* `Pattern.accepts_opposite`: it gives the opposite answer.
* `Filter.parts_of_opposite`: filters with opposite answers part dependencies.
* `Selection.foldlM_narrow_parts`: attributes narrow the two parts of a list as they narrow the
  list.
* `negation_parts`: filters and clauses with a pattern and with its negation.
* `not_one_of_two_of_crossed_group`: a search that comes to nothing does so in both.
-/

namespace BundleEmbed

open Regex (Release)

/-- Two lists are the parts of another one: each element is in one of them as often and in the
same order as in the whole. -/
def ArePartsOf {α : Type} (whole passed left : List α) : Prop :=
  ∃ test : α → Bool, passed = whole.filter test ∧ left = whole.filter fun a => !test a

/-! ### Patterns -/

/-- The pattern with the opposite answers. -/
def Pattern.opposite (pattern : Pattern) : Pattern :=
  { pattern with expression := "!" ++ pattern.expression, negated := true }

/-- A pattern that is not negated is refused with its negation, or the two differ in nothing but
the negation. -/
theorem Pattern.read_negated {expression : Text}
    (plain : expression.toList.head? ≠ some (.char '!')) :
    match read expression with
    | .ok pattern => pattern.negated = false ∧ read ("!" ++ expression) = .ok pattern.opposite
    | .error _ => ∃ fault, read ("!" ++ expression) = .error fault := by
  have body : split expression.toList = (false, expression.toList) := by
    unfold split
    split
    · rename_i body starts
      rw [starts] at plain
      exact absurd rfl plain
    · rfl
  have negatedBody : split ("!" ++ expression).toList = (true, expression.toList) := by
    rw [Text.toList_append]
    rfl
  simp only [read, body, negatedBody]
  cases Regex.read (translate expression.toList) with
  | ok regex => exact ⟨rfl, rfl⟩
  | error refusal => cases refusal <;> exact ⟨_, rfl⟩

theorem Pattern.accepts_opposite [Release] {pattern : Pattern} (plain : pattern.negated = false)
    (value : Text) : pattern.opposite.accepts value = (!·) <$> pattern.accepts value := by
  have same : pattern.opposite.matchesValue value = pattern.matchesValue value := rfl
  rw [accepts, accepts, same, plain]
  cases pattern.matchesValue value with
  | error fault => rfl
  | ok isMatch => cases isMatch <;> rfl

/-! ### Filters -/

/-- The filter with the opposite answers. -/
def Filter.opposite (filter : Filter) : Filter := { filter with pattern := filter.pattern.opposite }

/-- A filter that is not negated is refused with its negation, or both are read and always give
opposite answers. -/
theorem Filter.read_negated [Release] (subject : Attribute) {expression : Text}
    (plain : expression.toList.head? ≠ some (.char '!')) :
    match read subject.key expression with
    | .ok filter => read subject.key ("!" ++ expression) = .ok filter.opposite ∧
        ∀ d, filter.opposite.accepts d = (!·) <$> filter.accepts d
    | .error _ => ∃ fault, read subject.key ("!" ++ expression) = .error fault := by
  have named : Attribute.ofKey? subject.key = some subject := by cases subject <;> rfl
  have alike := Pattern.read_negated plain
  simp only [read, named, ofAttribute]
  revert alike
  cases Pattern.read expression with
  | error fault =>
      rintro ⟨fault', refused⟩
      exact ⟨.pattern fault', by rw [refused]⟩
  | ok pattern =>
      rintro ⟨isPlain, isRead⟩
      refine ⟨by rw [isRead]; rfl, fun d => ?_⟩
      change (pattern.opposite.accepts (subject.value d)).mapError _ =
        (!·) <$> (pattern.accepts (subject.value d)).mapError _
      rw [Pattern.accepts_opposite isPlain]
      cases pattern.accepts (subject.value d) <;> rfl

/-- Two filters part dependencies. Each dependency passes one of them and not the other, unless
its search comes to nothing in both. If no search does, the filters select the two parts of a list,
and if one does, they both come to nothing. -/
structure Filter.Parts [Release] (filter other : Filter) (dependencies : List Dependency) :
    Prop where
  passesOne : ∀ d ∈ dependencies,
    (∃ accepted, filter.accepts d = .ok accepted ∧ other.accepts d = .ok !accepted) ∨
      filter.accepts d = .error (.matching .crossedGroup) ∧
        other.accepts d = .error (.matching .crossedGroup)
  selects : (∀ d ∈ dependencies, (filter.accepts d).toBool = true) → ∃ passed left,
    filter.select dependencies = .ok passed ∧ other.select dependencies = .ok left ∧
      ArePartsOf dependencies passed left
  crosses : (∃ d ∈ dependencies, (filter.accepts d).toBool = false) →
    filter.select dependencies = .error (.matching .crossedGroup) ∧
      other.select dependencies = .error (.matching .crossedGroup)

/-- Filters with opposite answers part dependencies. -/
theorem Filter.parts_of_opposite [Release] {filter other : Filter}
    (opposite : ∀ d, other.accepts d = (!·) <$> filter.accepts d)
    (dependencies : List Dependency) : filter.Parts other dependencies := by
  have alike : ∀ d, (other.accepts d).toBool = (filter.accepts d).toBool := fun d => by
    rw [opposite]
    cases filter.accepts d <;> rfl
  refine ⟨fun d _ => ?_, fun ends => ?_, fun crossing => ?_⟩
  · cases answer : filter.accepts d with
    | ok accepted => exact .inl ⟨accepted, rfl, by rw [opposite, answer]; rfl⟩
    | error fault =>
        have crossed : filter.accepts d = .error (.matching .crossedGroup) :=
          Filter.accepts_eq_error (by rw [answer]; rfl)
        rw [← answer, opposite, crossed]
        exact .inr ⟨rfl, rfl⟩
  · have noneCrosses : (dependencies.any fun d => !(filter.accepts d).toBool) = false := by
      simpa using ends
    have accepted : ∀ d ∈ dependencies, (other.accepts d).toOption.getD false =
        !(filter.accepts d).toOption.getD false := fun d isOne => by
      have isOk := ends d isOne
      rw [opposite]
      cases answer : filter.accepts d with
      | ok accepted => rfl
      | error fault =>
          rw [answer] at isOk
          cases isOk
    refine ⟨_, _, ?_, ?_, fun d => (filter.accepts d).toOption.getD false, rfl, rfl⟩
    · rw [Filter.select_eq, noneCrosses]
      rfl
    · rw [Filter.select_eq, funext fun d => congrArg (!·) (alike d), noneCrosses,
        List.filter_congr accepted]
      rfl
  · have someCrosses : (dependencies.any fun d => !(filter.accepts d).toBool) = true := by
      simpa using crossing
    rw [Filter.select_eq, Filter.select_eq, funext fun d => congrArg (!·) (alike d), someCrosses]
    exact ⟨rfl, rfl⟩

/-! ### Attributes -/

/-- What attributes leave of a part of a list is that part of what they leave of the list. -/
theorem Selection.foldlM_narrow_filter [Release] {attributes : List (Text × Text)}
    {whole : List Dependency} {selection : Selection} {test : Dependency → Bool}
    (narrowedWhole : attributes.foldlM narrow ⟨whole, false⟩ = .ok selection)
    (narrowed : (attributes.foldlM narrow ⟨whole.filter test, false⟩).toBool = true) :
    attributes.foldlM narrow ⟨whole.filter test, false⟩ =
      .ok ⟨selection.dependencies.filter test, selection.inline⟩ := by
  cases known : attributes.foldlM narrow ⟨whole.filter test, false⟩ with
  | error fault =>
      rw [known] at narrowed
      cases narrowed
  | ok part =>
      obtain ⟨leftOfWhole, inlineOfWhole⟩ := Selection.eq_of_foldlM_narrow_ok narrowedWhole
      obtain ⟨leftOfPart, inlineOfPart⟩ := Selection.eq_of_foldlM_narrow_ok known
      obtain ⟨dependencies, inline⟩ := part
      simp only at leftOfPart inlineOfPart
      rw [leftOfPart, inlineOfPart, leftOfWhole, inlineOfWhole, List.filter_comm]

/-- Attributes narrow the two parts of a list as they narrow the list: they are refused for the
list exactly if they are for one of the parts, and what they leave of the parts are the parts of
what they leave of the list. -/
theorem Selection.foldlM_narrow_parts [Release] {whole passed left : List Dependency}
    (parts : ArePartsOf whole passed left) (attributes : List (Text × Text)) :
    let narrowed := fun selected => attributes.foldlM narrow ⟨selected, false⟩
    (narrowed whole).toBool = ((narrowed passed).toBool && (narrowed left).toBool) ∧
      ∀ selection, narrowed whole = .ok selection → ∃ passed' left',
        narrowed passed = .ok ⟨passed', selection.inline⟩ ∧
          narrowed left = .ok ⟨left', selection.inline⟩ ∧
            ArePartsOf selection.dependencies passed' left' := by
  intro narrowed
  obtain ⟨test, rfl, rfl⟩ := parts
  have both : (narrowed whole).toBool =
      ((narrowed (whole.filter test)).toBool &&
        (narrowed (whole.filter fun d => !test d)).toBool) := by
    rw [Bool.eq_iff_iff, Bool.and_eq_true]
    simp only [narrowed, Selection.toBool_foldlM_narrow_iff, List.mem_filter]
    constructor
    · rintro ⟨noFault, noneCrosses⟩
      exact ⟨⟨noFault, fun d ⟨isOne, _⟩ => noneCrosses d isOne⟩,
        noFault, fun d ⟨isOne, _⟩ => noneCrosses d isOne⟩
    · rintro ⟨⟨noFault, ofPassed⟩, -, ofLeft⟩
      refine ⟨noFault, fun d isOne => ?_⟩
      cases passes : test d with
      | true => exact ofPassed d ⟨isOne, passes⟩
      | false => exact ofLeft d ⟨isOne, by rw [passes]; rfl⟩
  refine ⟨both, fun selection narrowedWhole => ?_⟩
  rw [narrowedWhole] at both
  obtain ⟨ofPassed, ofLeft⟩ := Bool.and_eq_true_iff.mp both.symm
  exact ⟨_, _, foldlM_narrow_filter narrowedWhole ofPassed,
    foldlM_narrow_filter narrowedWhole ofLeft, test, rfl, rfl⟩

/-! ### Clauses -/

/-- An expression is read as a pattern for artifacts, and none of its searches in dependencies comes
to nothing. -/
def SearchesEnd [Release] (expression : Text) (dependencies : List Dependency) : Prop :=
  ∃ filter, Filter.read Attribute.artifactId.key expression = .ok filter ∧
    ∀ d ∈ dependencies, (filter.accepts d).toBool = true

instance [Release] (expression : Text) (dependencies : List Dependency) :
    Decidable (SearchesEnd expression dependencies) :=
  match isRead : Filter.read Attribute.artifactId.key expression with
  | .ok filter => decidable_of_iff (∀ d ∈ dependencies, (filter.accepts d).toBool = true)
      (by simp [SearchesEnd, isRead])
  | .error _ => isFalse (by simp [SearchesEnd, isRead])

section Clauses

variable [Release] {pattern : Text} {attributes : List (Text × Text)}
    {dependencies : List Dependency}
  {filter : Filter}

/-- A clause asks its attributes about what its pattern selects. -/
theorem Clause.select_of_named {named : List Dependency}
    (isRead : Filter.read Attribute.artifactId.key pattern = .ok filter)
    (selected : filter.select dependencies = .ok named) :
    (Clause.mk pattern attributes).select dependencies =
      attributes.foldlM Selection.narrow ⟨named, false⟩ := by
  change Filter.ofAttribute .artifactId pattern = .ok filter at isRead
  simp only [Clause.select, isRead, selected, bind, Except.bind]

/-- A clause is refused with its pattern. -/
theorem Clause.toBool_select_of_refused {fault : ClauseFault}
    (refused : Filter.read Attribute.artifactId.key pattern = .error fault) :
    ((Clause.mk pattern attributes).select dependencies).toBool = false := by
  change Filter.ofAttribute .artifactId pattern = .error fault at refused
  simp only [Clause.select, refused, bind, Except.bind]
  rfl

/-- A clause comes to nothing with the search of its pattern. -/
theorem Clause.toBool_select_of_crossed {fault : ClauseFault}
    (isRead : Filter.read Attribute.artifactId.key pattern = .ok filter)
    (crossed : filter.select dependencies = .error fault) :
    ((Clause.mk pattern attributes).select dependencies).toBool = false := by
  change Filter.ofAttribute .artifactId pattern = .ok filter at isRead
  simp only [Clause.select, isRead, crossed, bind, Except.bind]
  rfl

end Clauses

/-- The filters of a pattern that is not negated and of its negation are both refused, or they are
both read and part the dependencies. Where the filters of artifacts are read and no search comes to
nothing, the clauses with the two patterns and the same attributes are refused exactly if the
attributes alone are, and else part what the attributes alone select. Where not, both clauses are
refused. -/
theorem negation_parts [Release] {expression : Text}
    (plain : expression.toList.head? ≠ some (.char '!'))
    (subject : Attribute) (attributes : List (Text × Text))
    (dependencies : List Dependency) :
    let alone := attributes.foldlM Selection.narrow ⟨dependencies, false⟩
    let selected := (Clause.mk expression attributes).select dependencies
    let others := (Clause.mk ("!" ++ expression) attributes).select dependencies
    ((∃ fault fault', Filter.read subject.key expression = .error fault ∧
        Filter.read subject.key ("!" ++ expression) = .error fault') ∨
      ∃ filter other, Filter.read subject.key expression = .ok filter ∧
        Filter.read subject.key ("!" ++ expression) = .ok other ∧
          filter.Parts other dependencies) ∧
    (SearchesEnd expression dependencies →
      alone.toBool = (selected.toBool && others.toBool) ∧
        ∀ selection, alone = .ok selection → ∃ passed left,
          selected = .ok ⟨passed, selection.inline⟩ ∧ others = .ok ⟨left, selection.inline⟩ ∧
            ArePartsOf selection.dependencies passed left) ∧
    (¬ SearchesEnd expression dependencies →
      selected.toBool = false ∧ others.toBool = false) := by
  intro alone selected others
  have ofArtifacts := Filter.read_negated .artifactId plain
  refine ⟨?_, ?_, ?_⟩
  · have alike := Filter.read_negated subject plain
    revert alike
    cases Filter.read subject.key expression with
    | error fault => exact fun ⟨fault', refused⟩ => .inl ⟨fault, fault', rfl, refused⟩
    | ok filter =>
        exact fun ⟨isRead, opposite⟩ =>
          .inr ⟨filter, filter.opposite, rfl, isRead,
            Filter.parts_of_opposite opposite dependencies⟩
  · rintro ⟨filter, isRead, ends⟩
    rw [isRead] at ofArtifacts
    obtain ⟨isReadOther, opposite⟩ := ofArtifacts
    obtain ⟨passed, left, selects, selectsOther, parts⟩ :=
      (Filter.parts_of_opposite opposite dependencies).selects ends
    simp only [selected, others, Clause.select_of_named isRead selects,
      Clause.select_of_named isReadOther selectsOther]
    exact Selection.foldlM_narrow_parts parts attributes
  · intro endless
    cases isRead : Filter.read Attribute.artifactId.key expression with
    | error fault =>
        rw [isRead] at ofArtifacts
        obtain ⟨fault', refused⟩ := ofArtifacts
        exact ⟨Clause.toBool_select_of_refused isRead, Clause.toBool_select_of_refused refused⟩
    | ok filter =>
        rw [isRead] at ofArtifacts
        obtain ⟨isReadOther, opposite⟩ := ofArtifacts
        have crossing : ∃ d ∈ dependencies, (filter.accepts d).toBool = false := by
          by_contra noneCrosses
          refine endless ⟨filter, isRead, fun d isOne => Bool.eq_true_of_not_eq_false ?_⟩
          exact fun crosses => noneCrosses ⟨d, isOne, crosses⟩
        obtain ⟨crossed, crossedOther⟩ :=
          (Filter.parts_of_opposite opposite dependencies).crosses crossing
        exact ⟨Clause.toBool_select_of_crossed isRead crossed,
          Clause.toBool_select_of_crossed isReadOther crossedOther⟩

/-! ### Absent values, a bare prefix and an alternative -/

namespace NegatedPattern

/-- A pattern for scopes and for artifacts. -/
def expression : Text := "*t|compile.*"

/-- One dependency occurs twice, and has no scope of its own. -/
def dependencies : List Dependency :=
  [.named "widget", { Dependency.named "core" with scope := some "runtime" }, .named "widget",
    { Dependency.named "gadget" with scope := some "test" }]

/-- Attributes that all of the dependencies pass. -/
def attributes : List (Text × Text) := [("type", "jar|war"), (inlineKey, "TRUE")]

end NegatedPattern

open NegatedPattern in
theorem negation_parts_alternative :
    expression.toList.head? ≠ some (.char '!') ∧
      (∃ filter other, Filter.read Attribute.scope.key expression = .ok filter ∧
        Filter.read Attribute.scope.key ("!" ++ expression) = .ok other ∧
          filter.Parts other dependencies) ∧
      SearchesEnd expression dependencies ∧
      attributes.foldlM Selection.narrow ⟨dependencies, false⟩ = .ok ⟨dependencies, true⟩ ∧
      ∃ passed left,
        (Clause.mk expression attributes).select dependencies = .ok ⟨passed, true⟩ ∧
          (Clause.mk ("!" ++ expression) attributes).select dependencies = .ok ⟨left, true⟩ ∧
            ArePartsOf dependencies passed left := by
  have plain : expression.toList.head? ≠ some (.char '!') := by decide
  have ends : SearchesEnd expression dependencies := by decide +kernel
  have alone : attributes.foldlM Selection.narrow ⟨dependencies, false⟩ =
      .ok ⟨dependencies, true⟩ := by decide +kernel
  have isRead : (Filter.read Attribute.scope.key expression).toBool = true := by decide +kernel
  obtain ⟨filters, clauses, -⟩ := negation_parts plain .scope attributes dependencies
  refine ⟨plain, ?_, ends, alone, (clauses ends).2 _ alone⟩
  rcases filters with ⟨fault, fault', refused, -⟩ | parts
  · rw [refused] at isRead
    cases isRead
  · exact parts

/-! ### A search that comes to nothing -/

/-- A dependency does not always pass one of two filters that have been read: its search may come
to nothing, and then does so in both. -/
theorem not_one_of_two_of_crossed_group :
    ¬ ∀ (subject : Attribute) (expression : Text) (filter other : Filter) (d : Dependency),
      expression.toList.head? ≠ some (.char '!') → Filter.read subject.key expression = .ok filter →
        Filter.read subject.key ("!" ++ expression) = .ok other →
          (filter.accepts d = .ok true ∧ other.accepts d = .ok false) ∨
            (filter.accepts d = .ok false ∧ other.accepts d = .ok true) := by
  intro oneOfTwo
  let expression : Text := "((x)|y|z)\x7b0,\x7d+"
  have plain : expression.toList.head? ≠ some (.char '!') := by decide
  have bothRead : (Filter.read Attribute.artifactId.key expression).toBool = true ∧
      (Filter.read Attribute.artifactId.key ("!" ++ expression)).toBool = true := by decide +kernel
  have endless : ¬ SearchesEnd expression [.named "xyz"] := by decide +kernel
  cases isRead : Filter.read Attribute.artifactId.key expression with
  | error fault => simp [isRead, Except.toBool] at bothRead
  | ok filter =>
      cases isReadOther : Filter.read Attribute.artifactId.key ("!" ++ expression) with
      | error fault => simp [isReadOther, Except.toBool] at bothRead
      | ok other =>
          refine endless ⟨filter, isRead, fun d isOne => ?_⟩
          rw [List.mem_singleton.mp isOne]
          rcases oneOfTwo .artifactId expression filter other (.named "xyz") plain isRead
            isReadOther with ⟨passes, -⟩ | ⟨fails, -⟩
          · rw [passes]
            rfl
          · rw [fails]
            rfl

end BundleEmbed
