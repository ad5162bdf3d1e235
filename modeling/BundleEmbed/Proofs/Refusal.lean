import BundleEmbed.Proofs.Pass

/-!
What refuses a clause, and so ends a pass.

A clause is refused for what it says: for an expression that cannot be read, or for a key
that no attribute has. What it is asked about does not matter for that, not even whether
there is anything left to ask about. There is one way in which a dependency can end a pass:
an expression that has been read may be searched for in a value without coming to an end
(`Regex.MatchFault`).

* `Selection.narrow_eq`: what one attribute does, with everything that can refuse it.
* `Clause.select_outcome`: a clause is refused for the first thing in it that is, unless a
  search comes to nothing before.
* `classify_failure_iff_refused`: when a pass fails, with what, and what it leaves behind.
* `classify_failure_of_crossed_group`: what a clause says does not settle it alone.
-/

namespace BundleEmbed

open Regex (Release)

/-! ### Refusals -/

/-- The keys under which an attribute selects. -/
def selectingKeys : List Text :=
  ["groupId", "artifactId", "version", "scope", "type", "classifier", "optional"]

/-- Why an expression is refused, if it is. -/
def expressionFault? (expression : Text) : Option ClauseFault :=
  match Pattern.read expression with
  | .ok _ => none
  | .error fault => some (.pattern fault)

/-- Why an attribute is refused, whatever it is asked about. The text of the one that asks
for inlining is never read. -/
def attributeFault? (entry : Text × Text) : Option ClauseFault :=
  if entry.1 = inlineKey then none
  else if entry.1 ∈ selectingKeys then expressionFault? entry.2
  else some (.unknownAttribute entry.1)

/-- Why a clause is refused: for its pattern, or else for the first of its attributes that
is refused. -/
def Clause.fault? (clause : Clause) : Option ClauseFault :=
  (expressionFault? clause.pattern).or (clause.attributes.findSome? attributeFault?)

/-- The search of an expression in a text comes to nothing. -/
def patternCrosses [Release] (expression text : Text) : Bool :=
  (Pattern.read expression).toOption.any fun pattern => !(pattern.accepts text).toBool

/-- The search of an attribute's expression in what a dependency has under its key comes to
nothing. -/
def Dependency.crosses [Release] (d : Dependency) (entry : Text × Text) : Bool :=
  (d.reading entry.1).any (patternCrosses entry.2)

/-- A dependency that is asked about by attributes one after the other, for as long as it
passes them, comes to one whose search comes to nothing. -/
def Dependency.crossesOneOf [Release] (d : Dependency) : List (Text × Text) → Bool
  | [] => false
  | entry :: later => d.crosses entry || (d.passes entry && d.crossesOneOf later)

/-- What a clause asks, one after the other: its pattern is asked like an attribute. -/
def Clause.entries (clause : Clause) : List (Text × Text) :=
  (Attribute.artifactId.key, clause.pattern) :: clause.attributes

/-- A dependency that a clause asks about comes to a search that comes to nothing. -/
def Clause.crosses [Release] (clause : Clause) (d : Dependency) :
    Bool := d.crossesOneOf clause.entries

/-- What refuses a clause is what refuses the first of its entries that is refused. -/
theorem Clause.fault?_eq_findSome? (clause : Clause) :
    clause.fault? = clause.entries.findSome? attributeFault? := by
  have pattern : attributeFault? (Attribute.artifactId.key, clause.pattern) =
      expressionFault? clause.pattern := by
    simp [attributeFault?, Attribute.key, inlineKey, selectingKeys]
  rw [entries, List.findSome?_cons, pattern, fault?]
  cases expressionFault? clause.pattern <;> rfl

/-! ### Filters -/

/-- The keys under which an attribute selects are those that name one. -/
theorem Attribute.isSome_ofKey?_iff {key : Text} :
    (Attribute.ofKey? key).isSome = true ↔ key ∈ selectingKeys := by
  constructor
  · intro named
    obtain ⟨a, found⟩ := Option.isSome_iff_exists.mp named
    have same : a.key = key := by simpa using List.find?_some found
    rw [← same]
    cases a <;> decide
  · intro known
    simp only [selectingKeys, List.mem_cons, List.not_mem_nil, or_false] at known
    rcases known with rfl | rfl | rfl | rfl | rfl | rfl | rfl <;> rfl

/-- There is one way for a search to come to nothing. -/
theorem Filter.accepts_eq_error [Release] {filter : Filter} {d : Dependency}
    (crosses : (filter.accepts d).toBool = false) :
    filter.accepts d = .error (.matching .crossedGroup) := by
  unfold Filter.accepts at crosses ⊢
  cases answer : filter.pattern.accepts (filter.subject.value d) with
  | ok accepted => rw [answer] at crosses; cases crosses
  | error fault => cases fault; rfl

/-- Asking a filter about dependencies comes to nothing when it does so for one of them. -/
theorem Filter.select_eq [Release] (filter : Filter) (dependencies : List Dependency) :
    filter.select dependencies =
      if dependencies.any fun d => !(filter.accepts d).toBool then
        .error (.matching .crossedGroup)
      else .ok (dependencies.filter fun d => (filter.accepts d).toOption.getD false) := by
  induction dependencies with
  | nil => rfl
  | cons d dependencies ih =>
      rw [Filter.select, List.any_cons, ih]
      cases answer : filter.accepts d with
      | error fault =>
          have isCrossed : filter.accepts d = .error (.matching .crossedGroup) :=
            Filter.accepts_eq_error (by rw [answer]; rfl)
          rw [answer] at isCrossed
          rw [isCrossed]
          rfl
      | ok accepted =>
          cases dependencies.any fun d => !(filter.accepts d).toBool <;>
            cases accepted <;> simp [bind, Except.bind, pure, Except.pure, Except.toBool,
              Except.toOption, answer]

/-- A filter that is read from an expression crosses what the expression crosses. -/
theorem Filter.not_toBool_accepts [Release] {filter : Filter} {subject : Attribute}
    {expression : Text}
    (built : Filter.ofAttribute subject expression = .ok filter) (d : Dependency) :
    (!(filter.accepts d).toBool) = patternCrosses expression (subject.value d) := by
  unfold Filter.ofAttribute at built
  split at built
  · rename_i pattern isRead
    cases built
    simp only [Filter.accepts, patternCrosses, isRead, Except.toOption, Option.any_some]
    cases pattern.accepts (subject.value d) <;> rfl
  · cases built

/-- What one attribute does to a selection: it is refused for what it says, or comes to
nothing for one of the dependencies, or narrows the selection. -/
theorem Selection.narrow_eq [Release] (selection : Selection) (entry : Text × Text) :
    selection.narrow entry =
      match attributeFault? entry with
      | some fault => .error fault
      | none =>
          if selection.dependencies.any (·.crosses entry) then .error (.matching .crossedGroup)
          else .ok ⟨selection.dependencies.filter (·.passes entry),
            if entry.1 = inlineKey then isTrueText entry.2 else selection.inline⟩ := by
  obtain ⟨key, text⟩ := entry
  by_cases isInline : key = inlineKey
  · have neverCrosses : ∀ d : Dependency, d.crosses (inlineKey, text) = false := fun _ => rfl
    simp [Selection.narrow, attributeFault?, Dependency.passes, neverCrosses, isInline]
  simp only [Selection.narrow, if_neg isInline, attributeFault?]
  cases named : Attribute.ofKey? key with
  | none =>
      have unknown : key ∉ selectingKeys := fun known => by
        have isSome := Attribute.isSome_ofKey?_iff.mpr known
        rw [named] at isSome
        cases isSome
      rw [if_neg unknown]
      simp [Filter.read, named, bind, Except.bind]
  | some subject =>
      have known : key ∈ selectingKeys := Attribute.isSome_ofKey?_iff.mp (by rw [named]; rfl)
      rw [if_pos known]
      have reading : ∀ d : Dependency, d.reading key = some (subject.value d) :=
        Attribute.reading_of_ofKey? named
      cases isRead : Pattern.read text with
      | error fault =>
          simp [Filter.read, named, Filter.ofAttribute, expressionFault?, isRead, bind,
            Except.bind]
      | ok pattern =>
          have built : Filter.ofAttribute subject text = .ok ⟨subject, pattern⟩ := by
            rw [Filter.ofAttribute, isRead]
          simp only [Filter.read, named, built, expressionFault?, isRead, bind, Except.bind,
            Filter.select_eq, Filter.accepts_eq built, Filter.not_toBool_accepts built,
            Dependency.crosses, Dependency.passes, reading, Option.any_some, isInline,
            decide_false, Bool.false_or]
          cases selection.dependencies.any fun d => patternCrosses text (subject.value d) <;> rfl

/-! ### Clauses -/

/-- The pattern of a clause is asked like an attribute. -/
theorem Clause.select_eq_foldlM [Release] (clause : Clause) (candidates : List Dependency) :
    clause.select candidates =
      clause.entries.foldlM Selection.narrow ⟨candidates, false⟩ := by
  have key : Attribute.artifactId.key ≠ inlineKey := by decide
  have read : Filter.read Attribute.artifactId.key clause.pattern =
      Filter.ofAttribute .artifactId clause.pattern := rfl
  rw [entries, List.foldlM_cons, Clause.select]
  simp only [Selection.narrow, if_neg key, read, bind_assoc, pure_bind]

/-- Attributes are refused for the first of them that is, unless a dependency comes to a
search that comes to nothing. -/
theorem Selection.foldlM_narrow_outcome [Release] (entries : List (Text × Text))
    (selection : Selection) :
    match entries.foldlM Selection.narrow selection with
    | .ok _ => entries.findSome? attributeFault? = none ∧
        ∀ d ∈ selection.dependencies, d.crossesOneOf entries = false
    | .error fault => entries.findSome? attributeFault? = some fault ∨
        fault = .matching .crossedGroup ∧
          ∃ d ∈ selection.dependencies, d.crossesOneOf entries = true := by
  induction entries generalizing selection with
  | nil => exact ⟨rfl, fun _ _ => rfl⟩
  | cons entry entries ih =>
      rw [List.foldlM_cons, Selection.narrow_eq, List.findSome?_cons]
      cases refused : attributeFault? entry with
      | some fault => exact .inl rfl
      | none =>
          by_cases crossed : selection.dependencies.any (·.crosses entry) = true
          · obtain ⟨d, selected, crosses⟩ := List.any_eq_true.mp crossed
            rw [if_pos crossed]
            exact .inr ⟨rfl, d, selected, by simp [Dependency.crossesOneOf, crosses]⟩
          · rw [if_neg crossed]
            have noneHere : ∀ d ∈ selection.dependencies, d.crosses entry = false :=
              fun d selected => Bool.eq_false_iff.mpr fun crosses =>
                crossed (List.any_eq_true.mpr ⟨d, selected, crosses⟩)
            have later := ih ⟨selection.dependencies.filter (·.passes entry),
              if entry.1 = inlineKey then isTrueText entry.2 else selection.inline⟩
            simp only [bind, Except.bind]
            revert later
            split
            · rintro ⟨noFault, noneLater⟩
              refine ⟨noFault, fun d selected => ?_⟩
              rw [Dependency.crossesOneOf, noneHere d selected, Bool.false_or]
              by_cases passes : d.passes entry = true
              · rw [noneLater d (List.mem_filter.mpr ⟨selected, passes⟩), Bool.and_false]
              · rw [Bool.eq_false_iff.mpr passes, Bool.false_and]
            · rintro (fault | ⟨same, d, left, crosses⟩)
              · exact .inl fault
              · obtain ⟨selected, passes⟩ := List.mem_filter.mp left
                refine .inr ⟨same, d, selected, ?_⟩
                rw [Dependency.crossesOneOf, passes, crosses, Bool.and_self, Bool.or_true]

/-- Attributes are not refused when none of them is and every search in what is selected comes to
its end. -/
theorem Selection.toBool_foldlM_narrow_iff [Release] {entries : List (Text × Text)}
    {selection : Selection} :
    (entries.foldlM Selection.narrow selection).toBool = true ↔
      entries.findSome? attributeFault? = none ∧
        ∀ d ∈ selection.dependencies, d.crossesOneOf entries = false := by
  have outcome := Selection.foldlM_narrow_outcome entries selection
  cases narrowed : entries.foldlM Selection.narrow selection with
  | ok last =>
      rw [narrowed] at outcome
      exact iff_of_true rfl outcome
  | error fault =>
      rw [narrowed] at outcome
      refine iff_of_false Bool.false_ne_true fun ⟨noFault, noneCrosses⟩ => ?_
      rcases outcome with faulty | ⟨-, d, isOne, crosses⟩
      · rw [noFault] at faulty
        cases faulty
      · rw [noneCrosses d isOne] at crosses
        cases crosses

/-- A clause is refused for the first thing in it that is refused, unless one of the
candidates comes to a search that comes to nothing before. -/
theorem Clause.select_outcome [Release] (clause : Clause) (candidates : List Dependency) :
    match clause.select candidates with
    | .ok _ => clause.fault? = none ∧ ∀ d ∈ candidates, clause.crosses d = false
    | .error fault => clause.fault? = some fault ∨
        fault = .matching .crossedGroup ∧ ∃ d ∈ candidates, clause.crosses d = true := by
  rw [Clause.select_eq_foldlM, Clause.fault?_eq_findSome?]
  exact Selection.foldlM_narrow_outcome clause.entries ⟨candidates, false⟩

/-- A clause is not refused when nothing in it is and every search in a candidate comes to its
end. -/
theorem Clause.toBool_select_iff [Release] {clause : Clause} {candidates : List Dependency} :
    (clause.select candidates).toBool = true ↔
      clause.fault? = none ∧ ∀ d ∈ candidates, clause.crosses d = false := by
  rw [Clause.select_eq_foldlM, Clause.fault?_eq_findSome?]
  exact Selection.toBool_foldlM_narrow_iff

/-! ### Passes -/

/-- A pass either comes to its end, with no clause refused, or it is ended by the first
clause that is refused. -/
theorem classify_outcome [Release] (dependencies : List Dependency) (clauses : List Clause)
    (start : Classification) :
    let pass := classify dependencies clauses start
    match pass.failure with
    | none => ∀ clause ∈ clauses,
        clause.fault? = none ∧ ∀ d ∈ dependencies, clause.crosses d = false
    | some fault => ∃ before refused later,
        clauses = before ++ refused :: later ∧
          (∀ clause ∈ before,
            clause.fault? = none ∧ ∀ d ∈ dependencies, clause.crosses d = false) ∧
          (refused.fault? = some fault ∨
            fault = .matching .crossedGroup ∧ ∃ d ∈ dependencies, refused.crosses d = true) ∧
          pass.classification = start.addAll (Dependency.distinct dependencies) before := by
  intro pass
  have accepted : ∀ clause : Clause,
      (clause.select (Dependency.distinct dependencies)).toBool = true →
        clause.fault? = none ∧ ∀ d ∈ dependencies, clause.crosses d = false := by
    intro clause selects
    obtain ⟨noFault, noneCrosses⟩ := Clause.toBool_select_iff.mp selects
    exact ⟨noFault, fun d isOne => noneCrosses d (Dependency.mem_distinct.mpr isOne)⟩
  rcases Pass.run_cases (Dependency.distinct dependencies) clauses start with
    ⟨selects, ended, -⟩ | ⟨refused, later, fault, split, refusal, ended, result⟩
  · change pass.failure = none at ended
    rw [ended]
    exact fun clause isOne => accepted clause (selects clause isOne)
  · change pass.failure = some fault at ended
    rw [ended]
    refine ⟨_, refused, later, split, fun clause before => ?_, ?_, result⟩
    · have selects : (clause.select (Dependency.distinct dependencies)).toBool = true :=
        List.mem_takeWhile_imp (p := fun clause => (Clause.select clause _).toBool) before
      exact accepted clause selects
    · have outcome := refused.select_outcome (Dependency.distinct dependencies)
      rw [refusal] at outcome
      refine outcome.imp_right fun ⟨same, d, candidate, crosses⟩ => ⟨same, d, ?_, crosses⟩
      exact Dependency.mem_distinct.mp candidate

/-- A pass fails exactly when a clause is refused for what it says, or a dependency comes to
a search that comes to nothing. In the first case it fails with the first fault of the first
such clause, whatever the dependencies are. In both cases it leaves what the clauses before
have added, and nothing of the refused clause or of one after it. -/
theorem classify_failure_iff_refused [Release] (dependencies : List Dependency)
    (clauses : List Clause) (start : Classification) :
    let pass := classify dependencies clauses start
    (pass.failure.isSome = true ↔ ∃ clause ∈ clauses,
        clause.fault?.isSome = true ∨ ∃ d ∈ dependencies, clause.crosses d = true) ∧
      (pass.failure = clauses.findSome? Clause.fault? ∨
        pass.failure = some (.matching .crossedGroup)) ∧
      ∀ fault, pass.failure = some fault → ∃ before refused later,
        clauses = before ++ refused :: later ∧
          (∀ clause ∈ before,
            clause.fault? = none ∧ ∀ d ∈ dependencies, clause.crosses d = false) ∧
          (refused.fault? = some fault ∨
            fault = .matching .crossedGroup ∧ ∃ d ∈ dependencies, refused.crosses d = true) ∧
          pass.classification = start.addAll (Dependency.distinct dependencies) before := by
  intro pass
  have outcome := classify_outcome dependencies clauses start
  change match pass.failure with | none => _ | some fault => _ at outcome
  cases ended : pass.failure with
  | none =>
      rw [ended] at outcome
      refine ⟨⟨(nomatch ·), ?_⟩, .inl ?_, fun _ failed => nomatch failed⟩
      · rintro ⟨clause, isOne, faulty | ⟨d, isDependency, crosses⟩⟩
        · rw [(outcome clause isOne).1] at faulty
          cases faulty
        · rw [(outcome clause isOne).2 d isDependency] at crosses
          cases crosses
      · exact (List.findSome?_eq_none_iff.mpr fun clause isOne => (outcome clause isOne).1).symm
  | some fault =>
      rw [ended] at outcome
      obtain ⟨before, refused, later, split, accepted, refusal, result⟩ := outcome
      have isOne : refused ∈ clauses := by rw [split]; simp
      refine ⟨⟨fun _ => ⟨refused, isOne, ?_⟩, fun _ => rfl⟩, ?_, ?_⟩
      · rcases refusal with faulty | ⟨-, crossing⟩
        · exact .inl (by rw [faulty]; rfl)
        · exact .inr crossing
      · rcases refusal with faulty | ⟨same, -⟩
        · have noneBefore : before.findSome? Clause.fault? = none :=
            List.findSome?_eq_none_iff.mpr fun clause isBefore => (accepted clause isBefore).1
          left
          rw [split, List.findSome?_append, noneBefore, Option.none_or, List.findSome?_cons, faulty]
        · exact .inr (by rw [same])
      · intro fault' same
        cases same
        exact ⟨before, refused, later, split, accepted, refusal, result⟩

/-! ### A search that comes to nothing -/

/-- A dependency of which only the name of the artifact is of interest. -/
def Dependency.named (artifactId : Text) : Dependency where
  groupId := "com.acme"
  artifactId := artifactId
  version := "1"
  selectedVersion := none
  scope := none
  type := none
  classifier := none
  isOptional := none
  file := none
  extension := none
  direct := true

/-- Not only what a clause says ends a pass: a possessive repetition can leave a group that
ends before it starts. -/
theorem classify_failure_of_crossed_group :
    ¬ ∀ (dependencies : List Dependency) (clauses : List Clause) (start : Classification),
      (classify dependencies clauses start).failure.isSome = true ↔
        ∃ clause ∈ clauses, clause.fault?.isSome = true := by
  intro settled
  let clause : Clause := ⟨"((x)|y|z)\x7b0,\x7d+", []⟩
  have fails : (classify [.named "xyz"] [clause] .empty).failure.isSome = true := by
    decide +kernel
  have isRead : clause.fault?.isSome = false := by decide +kernel
  obtain ⟨other, isOne, faulty⟩ := (settled [.named "xyz"] [clause] .empty).mp fails
  rw [List.mem_singleton.mp isOne, isRead] at faulty
  cases faulty

end BundleEmbed
