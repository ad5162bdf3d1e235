import BundleEmbed.Command.Run
import BundleEmbed.Proofs.Additions
import BundleEmbed.Proofs.Questions
import BundleEmbed.Proofs.Restriction

/-!
Runs with and without the dependencies of dependencies.

Clauses ask about one dependency at a time, and everything that is done with what they select
keeps its order. So where dependencies of dependencies are candidates as well, more is listed,
and what the build names itself is listed as it is without them. More candidates can only end a
run in a way that no clause is to blame for: by a search that comes to nothing, or by a file
that cannot be asked for.

* `Dependency.filter_sort`: sorting keeps the order of the dependencies that satisfy a test.
* `Pass.failure_run_of_subset`: what becomes of a failure when there are more candidates.
* `process_transitive`: how the two runs go together.
* `not_process_transitive_of_crossed_group`: they do not always end alike.
-/

namespace BundleEmbed

open Regex (Release)

/-! ### Sorting some of the dependencies -/

/-- Of a stable sort, the elements that satisfy a test are a stable sort of theirs. -/
theorem IsStableSort.filter {α κ : Type} [LinearOrder κ] {key : α → κ} {list sorted : List α}
    (isSort : IsStableSort key list sorted) (p : α → Bool) :
    IsStableSort key (list.filter p) (sorted.filter p) where
  perm := isSort.perm.filter p
  ordered := isSort.ordered.filter p
  stable k := by rw [List.filter_comm, isSort.stable, List.filter_comm]

/-- Of sorted dependencies, those that satisfy a test are these dependencies sorted. -/
theorem Dependency.filter_sort (dependencies : List Dependency) (p : Dependency → Bool) :
    (Dependency.sort dependencies).filter p = Dependency.sort (dependencies.filter p) :=
  ((Dependency.sort_isStable dependencies).filter p).eq_of_filter_eq
    (Dependency.sort_isStable _) fun _ => rfl

/-! ### More candidates -/

/-- With more candidates the same fault is met first, unless a search comes to nothing before. -/
def SameUnlessCrossed (fewer more : Option ClauseFault) : Prop :=
  more = fewer ∨ more = some (.matching .crossedGroup)

/-- Of two questions one after the other. -/
theorem SameUnlessCrossed.or {fewer more fewer' more' : Option ClauseFault}
    (first : SameUnlessCrossed fewer more) (second : SameUnlessCrossed fewer' more') :
    SameUnlessCrossed (fewer.or fewer') (more.or more') := by
  rcases first with rfl | rfl
  · cases more with
    | some fault => exact .inl rfl
    | none => exact second
  · exact .inr rfl

section Candidates

variable [Release] {fewer more : List Dependency}

/-- A question that is asked about more dependencies. -/
theorem Question.fault?_of_subset (entry : Text × Text) (subset : fewer ⊆ more) :
    SameUnlessCrossed (Question.fault? ⟨entry, fewer⟩) (Question.fault? ⟨entry, more⟩) := by
  unfold Question.fault?
  cases attributeFault? entry with
  | some fault => exact .inl rfl
  | none =>
      by_cases crossed : more.any (·.crosses entry) = true
      · exact .inr (by rw [if_pos crossed, Option.none_or])
      · have noneCrosses : ¬ fewer.any (·.crosses entry) = true := fun crosses => by
          obtain ⟨d, isOne, crosses⟩ := List.any_eq_true.mp crosses
          exact crossed (List.any_eq_true.mpr ⟨d, subset isOne, crosses⟩)
        exact .inl (by rw [if_neg crossed, if_neg noneCrosses])

/-- Attributes that are asked about more dependencies. -/
theorem findSome?_questionsOf_of_subset (entries : List (Text × Text))
    (subset : fewer ⊆ more) :
    SameUnlessCrossed ((questionsOf entries fewer).findSome? Question.fault?)
      ((questionsOf entries more).findSome? Question.fault?) := by
  induction entries generalizing fewer more with
  | nil => exact .inl rfl
  | cons entry entries ih =>
      have here := Question.fault?_of_subset entry subset
      have later := ih (List.filter_subset (·.passes entry) subset)
      have first : ∀ asked : List Dependency,
          (questionsOf (entry :: entries) asked).findSome? Question.fault? =
            (Question.fault? ⟨entry, asked⟩).or
              ((questionsOf entries (asked.filter (·.passes entry))).findSome? Question.fault?) :=
        fun asked => by
          rw [questionsOf, List.findSome?_cons]
          cases Question.fault? ⟨entry, asked⟩ <;> rfl
      rw [first, first]
      exact here.or later

/-- A pass over more candidates fails alike, unless a search comes to nothing before. -/
theorem Pass.failure_run_of_subset (subset : fewer ⊆ more) (clauses : List Clause)
    (c c' : Classification) :
    SameUnlessCrossed (run fewer clauses c).failure (run more clauses c').failure := by
  rw [failure_run_eq_findSome?, failure_run_eq_findSome?]
  induction clauses with
  | nil => exact .inl rfl
  | cons clause clauses ih =>
      rw [List.flatMap_cons, List.flatMap_cons, List.findSome?_append, List.findSome?_append]
      exact (findSome?_questionsOf_of_subset clause.entries subset).or ih

end Candidates

/-! ### What the build names itself -/

namespace Settings

variable (settings : Settings) (dependencies : List Dependency)

/-- The settings with which the build's own dependencies are the only candidates. -/
def ownOnly : Settings := { settings with transitive := false }

/-- The settings with which dependencies of dependencies are candidates as well. -/
def withTransitive : Settings := { settings with transitive := true }

/-- The candidates without dependencies of dependencies, each once. -/
theorem distinct_candidates_ownOnly :
    Dependency.distinct (settings.ownOnly.candidates dependencies) =
      (Dependency.distinct (settings.withTransitive.candidates dependencies)).filter (·.direct) :=
  Dependency.distinct_filter dependencies (·.direct)

/-- With dependencies of dependencies a pass fails as without them, unless a search comes to
nothing before. -/
theorem failure_pass_withTransitive [Release] :
    SameUnlessCrossed (settings.ownOnly.pass dependencies).failure
      (settings.withTransitive.pass dependencies).failure := by
  refine Pass.failure_run_of_subset ?_ settings.clauses .empty .empty
  change Dependency.distinct (settings.ownOnly.candidates dependencies) ⊆
    Dependency.distinct (settings.withTransitive.candidates dependencies)
  rw [distinct_candidates_ownOnly]
  exact List.filter_subset_self _

variable [Release] {settings dependencies}

/-- If no clause is refused with dependencies of dependencies, none is without them. -/
theorem failure_pass_ownOnly
    (whole : (settings.withTransitive.pass dependencies).failure = none) :
    (settings.ownOnly.pass dependencies).failure = none := by
  rcases settings.failure_pass_withTransitive dependencies with same | crossed
  · rw [← same, whole]
  · rw [whole] at crossed
    cases crossed

/-- What a pass classifies without dependencies of dependencies is what it classifies of the
build's own with them. -/
theorem classification_pass_ownOnly
    (whole : (settings.withTransitive.pass dependencies).failure = none) :
    (settings.ownOnly.pass dependencies).classification =
      (settings.withTransitive.pass dependencies).classification.restrict (·.direct) := by
  rw [classification_pass whole, classification_pass (failure_pass_ownOnly whole),
    distinct_candidates_ownOnly, Classification.restrict_preferInlined,
    Classification.restrict_addAll]
  rfl

/-- So it is with the sorted lists. -/
theorem sorted_pass_ownOnly
    (whole : (settings.withTransitive.pass dependencies).failure = none) :
    let own := (settings.ownOnly.pass dependencies).classification
    let all := (settings.withTransitive.pass dependencies).classification
    own.sortedInlined = all.sortedInlined.filter (·.direct) ∧
      own.sortedEmbedded = all.sortedEmbedded.filter (·.direct) := by
  intro own all
  have restricted : own = all.restrict (·.direct) := classification_pass_ownOnly whole
  rw [restricted]
  exact ⟨(Dependency.filter_sort _ _).symm, (Dependency.filter_sort _ _).symm⟩

end Settings

/-! ### The two runs -/

section Runs

variable [Release] {dependencies : List Dependency} {files : FileTree} {settings : Settings}
  {existing : Headers}

/-- A run that returns with dependencies of dependencies returns without them, and lists the
build's own as it does. -/
theorem embedAll_ownOnly_of_returned {result : EmbedResult}
    (returned : (embedAll dependencies files settings.withTransitive existing).result =
      .ok result) :
    ∃ own, (embedAll dependencies files settings.ownOnly existing).result = .ok own ∧
      own.inlined = result.inlined.filter (·.direct) ∧
      own.embedded = result.embedded.filter (·.direct) := by
  rcases embedAll_cases dependencies files settings.withTransitive existing with
    ⟨noClauses, given, -⟩ |
    ⟨hasClauses, -, ⟨fault, -, given⟩ | ⟨whole, ⟨failure, -, given⟩ | ⟨headers, emitted, given⟩⟩⟩
    <;> rw [given] at returned <;> cases returned
  · refine ⟨⟨[], [], existing⟩, ?_, rfl, rfl⟩
    exact congrArg Outcome.result (if_pos noClauses)
  obtain ⟨inlined, embedded⟩ := Settings.sorted_pass_ownOnly whole
  have wholeOwn := Settings.failure_pass_ownOnly whole
  -- the files of the build's own dependencies are asked for in both runs
  have asked : ((settings.ownOnly.pass dependencies).classification.sortedInlined ++
      (settings.ownOnly.pass dependencies).classification.sortedEmbedded).findSome?
        (fileFailure? files) = none := by
    rw [Headers.emit_eq_match] at emitted
    rw [inlined, embedded, ← List.filter_append, List.findSome?_eq_none_iff]
    intro d isOwn
    split at emitted
    · cases emitted
    · rename_i noFailure
      exact List.findSome?_eq_none_iff.mp noFailure d (List.mem_filter.mp isOwn).1
  have emittedOwn := Headers.emit_eq_match files settings.ownOnly existing
    (settings.ownOnly.pass dependencies).classification.sortedInlined
    (settings.ownOnly.pass dependencies).classification.sortedEmbedded
  rw [asked] at emittedOwn
  have hasClausesOwn : settings.ownOnly.clauses ≠ [] := hasClauses
  have own := embedAll_of_emit_ok hasClausesOwn wholeOwn emittedOwn
  exact ⟨_, congrArg Outcome.result own, inlined, embedded⟩

/-- A refused clause ends the run of its pass. -/
theorem embedAll_eq_error_clause_iff {fault : ClauseFault} :
    (embedAll dependencies files settings existing).result = .error (.clause fault) ↔
      (settings.pass dependencies).failure = some fault := by
  rcases embedAll_cases dependencies files settings existing with
    ⟨noClauses, given, -⟩ |
    ⟨-, -, ⟨fault', refused, given⟩ | ⟨whole, ⟨failure, -, given⟩ | ⟨headers, -, given⟩⟩⟩
  · have nothing : (settings.pass dependencies).failure = none := by
      rw [Settings.pass, noClauses]
      rfl
    simp [given, nothing]
  · simp [given, refused]
  · simp [given, whole]
  · simp [given, whole]

end Runs

/-- On one embedder, a run without dependencies of dependencies and one with them go together.
When the second returns, so does the first, and the lists of the first are those of the second
without the dependencies that the build does not name itself, in the same order. A failure of
the second that is reported is the failure of the first. A failure of the first that is reported
is that of the second, unless a search in one of the further candidates comes to nothing
before. -/
theorem process_transitive [Release] (e : Embedder) (files : FileTree) (settings : Settings)
    (existing : Headers) :
    let own := e.process files { settings with transitive := false } existing
    let all := own.1.process files { settings with transitive := true } existing
    (∀ result, all.2 = .ok result → ∃ ownResult, own.2 = .ok ownResult ∧
        ownResult.inlined = result.inlined.filter (·.direct) ∧
        ownResult.embedded = result.embedded.filter (·.direct)) ∧
      (∀ fault, fault.isReported = true → all.2 = .error fault → own.2 = .error fault) ∧
      ∀ fault, fault.isReported = true → own.2 = .error fault →
        all.2 = .error fault ∨ all.2 = .error (.clause (.matching .crossedGroup)) := by
  intro own all
  have failures := settings.failure_pass_withTransitive e.dependencies
  have refused : ∀ {settings : Settings} {fault : ClauseFault},
      (embedAll e.dependencies files settings existing).result = .error (.clause fault) ↔
        (settings.pass e.dependencies).failure = some fault := embedAll_eq_error_clause_iff
  refine ⟨fun result returned => embedAll_ownOnly_of_returned returned, ?_, ?_⟩
  · rintro (fault | failure) reported failed
    · refine refused.mpr ?_
      have ended : (settings.withTransitive.pass e.dependencies).failure = some fault :=
        refused.mp failed
      rcases failures with same | crossed
      · exact same.symm.trans ended
      · rw [ended] at crossed
        cases crossed
        cases reported
    · cases reported
  · rintro (fault | failure) reported failed
    · have ended : (settings.ownOnly.pass e.dependencies).failure = some fault :=
        refused.mp failed
      rcases failures with same | crossed
      · exact .inl (refused.mpr (same.trans ended))
      · exact .inr (refused.mpr crossed)
    · cases reported

/-- The two runs do not always end in the same report or both return: a search in a further
candidate may come to nothing before a clause is refused. -/
theorem not_process_transitive_of_crossed_group :
    ¬ ∀ (e : Embedder) (files : FileTree) (settings : Settings) (existing : Headers),
      settings.clauses ≠ [] →
        let own := e.process files { settings with transitive := false } existing
        let all := own.1.process files { settings with transitive := true } existing
        (∃ fault, fault.isReported = true ∧ own.2 = .error fault ∧ all.2 = .error fault) ∨
          ∃ ownResult result, own.2 = .ok ownResult ∧ all.2 = .ok result ∧
            ownResult.inlined = result.inlined.filter (·.direct) ∧
            ownResult.embedded = result.embedded.filter (·.direct) := by
  intro alike
  obtain ⟨e, settings, hasClauses, crossed⟩ : ∃ (e : Embedder) (settings : Settings),
      settings.clauses ≠ [] ∧ (settings.withTransitive.pass e.dependencies).failure =
        some (.matching .crossedGroup) :=
    ⟨.ofDependencies [{ Dependency.named "xyz" with direct := false }],
      { Settings.standard with clauses := [⟨"((x)|y|z)\x7b0,\x7d+", []⟩, ⟨"(", []⟩] },
      by decide, by decide +kernel⟩
  have ended : (embedAll e.dependencies ⟨[], []⟩ settings.withTransitive .absent).result =
      .error (.clause (.matching .crossedGroup)) := embedAll_eq_error_clause_iff.mpr crossed
  rcases alike e ⟨[], []⟩ settings .absent hasClauses with
    ⟨fault, reported, -, failed⟩ | ⟨-, result, -, returned, -⟩
  · cases ended.symm.trans failed
    cases reported
  · cases ended.symm.trans returned

end BundleEmbed
