import BundleEmbed.Command.Run
import BundleEmbed.Proofs.Additions
import BundleEmbed.Proofs.InlinePrecedence
import BundleEmbed.Proofs.LongPaths
import BundleEmbed.Proofs.Questions
import BundleEmbed.Proofs.Regex.Overflow
import BundleEmbed.Proofs.Translation

/-!
Failures of a run that are not reported.

A clause that names an unknown attribute or has a malformed pattern is reported. Three kinds of
failures are not among these: a pattern with a number that is too large, a search that comes to
nothing, and a file that cannot be asked for, which is one whose path is too long.

* `Pattern.holdsHugeNumber_of_read`: a pattern that is refused, but not as malformed, holds such
  a number.
* `process_unreported_iff`: when a run fails without a report.
* `not_every_failure_of_a_run_is_reported`: one clause is enough.
-/

namespace BundleEmbed

open Regex (HoldsHugeNumber Release)

/-! ### Numbers in patterns -/

/-- A number that is too large for the translation of a pattern stands in the pattern. -/
theorem holdsHugeNumber_of_translate {body : List Sign}
    (huge : HoldsHugeNumber (Pattern.translate body)) : HoldsHugeNumber body := by
  have noDigit : ∀ c ∈ ['\\', '.', '*', '?', '|'], Sign.isChar Char.isDigit (.char c) = false := by
    simp [Sign.isChar]
  cases huge with
  | count isRun huge => exact .count (isRun.of_translate noDigit) huge
  | long isRun long => exact .long (isRun.of_translate noDigit) long
  | @code digits inside isCode eight huge =>
      let isOne : Char → Bool := fun c => c == 'U' || isHexDigit c
      have ofKind : ∀ c ∈ 'U' :: digits, isOne c = true := by
        simpa [isOne] using fun c isOne => .inr (isCode c isOne)
      have isRun : RunIn (Sign.isChar isOne) (Pattern.translate body)
          (('U' :: digits).map .char) := ⟨inside, List.forall_mem_map.mpr ofKind⟩
      exact .code (isRun.of_translate (by simp [Sign.isChar, isOne, isHexDigit])).inside isCode
        eight huge

/-- What follows the negation of a pattern is an end of it. -/
theorem Pattern.split_suffix (text : List Sign) : (Pattern.split text).2 <:+ text := by
  unfold Pattern.split
  split
  · exact List.suffix_cons _ _
  · exact List.suffix_rfl

/-- A pattern that is refused, but not as malformed, holds a number that is too large. -/
theorem Pattern.holdsHugeNumber_of_read {expression : Text} {fault : PatternFault}
    (refused : Pattern.read expression = .error fault)
    (unreported : (EmbedFault.clause (.pattern fault)).isReported = false) :
    HoldsHugeNumber expression.toList := by
  have due : ∀ refusal, Regex.read (translate (Pattern.split expression.toList).2) =
      .error refusal → (∀ place, refusal ≠ .malformed place) →
        HoldsHugeNumber expression.toList := by
    intro refusal refused notMalformed
    have isDue := Regex.isDueTo_of_read refused
    have huge : HoldsHugeNumber (translate (Pattern.split expression.toList).2) := by
      cases refusal with
      | malformed place => exact absurd rfl (notMalformed place)
      | _ => exact isDue
    exact .trans (holdsHugeNumber_of_translate huge) (Pattern.split_suffix _).isInfix
  unfold Pattern.read at refused
  dsimp only at refused
  split at refused
  · cases refused
  · cases refused
    cases unreported
  all_goals
    rename_i refused'
    exact due _ refused' (by simp)

/-! ### Questions -/

/-- A question ends a run without a report: its pattern is refused, but not as malformed, or its
search in a dependency comes to nothing. -/
inductive Question.EndsUnreported [Release] (question : Question) : Prop where
  | number {fault : PatternFault} (selects : question.entry.1 ∈ selectingKeys)
      (refused : Pattern.read question.entry.2 = .error fault)
      (unreported : (EmbedFault.clause (.pattern fault)).isReported = false)
  | search {d : Dependency} (accepted : attributeFault? question.entry = none)
      (asked : d ∈ question.asked) (crosses : d.crosses question.entry = true)

theorem Question.endsUnreported_iff [Release] {question : Question} :
    question.EndsUnreported ↔
      ∃ fault, question.fault? = some fault ∧ (EmbedFault.clause fault).isReported = false := by
  have notInline : ∀ key ∈ selectingKeys, key ≠ inlineKey := by decide
  unfold Question.fault?
  constructor
  · rintro (⟨selects, refused, unreported⟩ | ⟨accepted, isAsked, crosses⟩)
    · refine ⟨_, ?_, unreported⟩
      rw [attributeFault?, if_neg (notInline _ selects), if_pos selects, expressionFault?, refused]
      rfl
    · refine ⟨.matching .crossedGroup, ?_, rfl⟩
      rw [accepted, Option.none_or, if_pos (List.any_eq_true.mpr ⟨_, isAsked, crosses⟩)]
  · rintro ⟨fault, faulty, unreported⟩
    cases accepted : attributeFault? question.entry with
    | none =>
        rw [accepted, Option.none_or, Option.ite_none_right_eq_some, List.any_eq_true] at faulty
        obtain ⟨⟨d, isAsked, crosses⟩, -⟩ := faulty
        exact .search accepted isAsked crosses
    | some refusal =>
        rw [accepted, Option.some_or] at faulty
        cases faulty
        unfold attributeFault? at accepted
        split_ifs at accepted with isInline selects
        · unfold expressionFault? at accepted
          split at accepted
          · cases accepted
          · rename_i refused
            cases accepted
            exact .number selects refused unreported
        · cases accepted
          cases unreported

/-- The questions of a run, in the order in which they are asked. -/
def Settings.questions [Release] (settings : Settings) (dependencies : List Dependency) :
    List Question :=
  settings.clauses.flatMap (·.questions (Dependency.distinct (settings.candidates dependencies)))

/-! ### Runs -/

/-- The file of a dependency cannot be asked for when its path is too long. -/
theorem isSome_fileFailure?_iff {files : FileTree} {d : Dependency} :
    (fileFailure? files d).isSome = true ↔ ∃ path, d.file = some path ∧ files.IsTooLong path := by
  unfold fileFailure? sourceOf
  cases d.file with
  | none => simp
  | some path =>
      have asking : (∃ fault, files.holds path = .error fault) ↔ files.IsTooLong path := by
        simp [FileTree.holds_eq_error_iff]
      simp only [Option.some.injEq, exists_eq_left', ← asking]
      cases files.holds path <;> simp

section Runs

variable {settings : Settings} {dependencies : List Dependency} {files : FileTree}

/-- Preferring to inline takes nothing out of both sets. -/
theorem Classification.mem_preferInlined_or {c : Classification} {d : Dependency} :
    d ∈ c.preferInlined.inlined ∨ d ∈ c.preferInlined.embedded ↔
      d ∈ c.inlined ∨ d ∈ c.embedded := by
  rw [preferInlined, OrderedSet.mem_filter]
  by_cases isInlined : d ∈ c.inlined <;> simp [isInlined]

/-- A run of which no clause is refused places the candidates that some clause accepts. -/
theorem Settings.mem_sorted_iff [Release] (whole : (settings.pass dependencies).failure = none)
    {d : Dependency} :
    d ∈ (settings.pass dependencies).classification.sortedInlined ++
        (settings.pass dependencies).classification.sortedEmbedded ↔
      d ∈ settings.candidates dependencies ∧
        ∃ clause ∈ settings.clauses, clause.accepts d = true := by
  have accepts : ∀ clause : Clause,
      clause.inlines d = true ∨ clause.embeds d = true ↔ clause.accepts d = true := fun clause => by
    unfold Clause.inlines Clause.embeds
    cases clause.asksInline <;> simp
  rw [List.mem_append, Classification.sortedInlined, Classification.sortedEmbedded,
    Dependency.mem_sort, Dependency.mem_sort, OrderedSet.mem_toList, OrderedSet.mem_toList,
    Settings.classification_pass whole, Classification.mem_preferInlined_or,
    Classification.mem_addAll_inlined, Classification.mem_addAll_embedded]
  simp only [Classification.not_mem_empty d, false_or, Dependency.mem_distinct, ← and_or_left,
    ← exists_or, accepts]

/-- A pass of which no question is without an answer comes to its end. -/
theorem Settings.failure_pass_eq_none_iff [Release] :
    (settings.pass dependencies).failure = none ↔
      ∀ question ∈ settings.questions dependencies, question.fault? = none := by
  rw [Settings.pass, classify, Pass.failure_run_eq_findSome?]
  exact List.findSome?_eq_none_iff

/-- A pass fails without a report for the first question without an answer, if that one ends it
so. -/
theorem Settings.exists_failure_pass_iff [Release] :
    (∃ fault, (settings.pass dependencies).failure = some fault ∧
        (EmbedFault.clause fault).isReported = false) ↔
      ∃ before question later, settings.questions dependencies = before ++ question :: later ∧
        (∀ earlier ∈ before, earlier.fault? = none) ∧ question.EndsUnreported := by
  have failure : (settings.pass dependencies).failure =
      (settings.questions dependencies).findSome? Question.fault? :=
    Pass.failure_run_eq_findSome? _ _ _
  simp only [failure, List.findSome?_eq_some_iff, Question.endsUnreported_iff]
  constructor
  · rintro ⟨fault, ⟨before, question, later, split, faulty, answered⟩, unreported⟩
    exact ⟨before, question, later, split, answered, fault, faulty, unreported⟩
  · rintro ⟨before, question, later, split, answered, fault, faulty, unreported⟩
    exact ⟨fault, ⟨before, question, later, split, faulty, answered⟩, unreported⟩

/-- Some dependency that a run places has a path that is too long. -/
def Settings.PlacesTooLong [Release] (settings : Settings) (dependencies : List Dependency)
    (files : FileTree) : Prop :=
  ∃ d ∈ settings.candidates dependencies, (∃ clause ∈ settings.clauses, clause.accepts d = true) ∧
    ∃ path, d.file = some path ∧ files.IsTooLong path

theorem Settings.placesTooLong_iff [Release]
    (whole : (settings.pass dependencies).failure = none) :
    settings.PlacesTooLong dependencies files ↔
      ∃ failure, ((settings.pass dependencies).classification.sortedInlined ++
        (settings.pass dependencies).classification.sortedEmbedded).findSome?
          (fileFailure? files) = some failure := by
  rw [← Option.isSome_iff_exists, List.isSome_findSome?, List.any_eq_true]
  simp only [isSome_fileFailure?_iff]
  refine exists_congr fun d => ?_
  rw [Settings.mem_sorted_iff whole, and_assoc]

end Runs

/-- A run fails without a report exactly when the first question without an answer ends it so,
or all questions have an answer and a dependency that is placed has a path that is too long. A
question ends a run so only if its pattern holds a number that is too large or its search in a
dependency comes to nothing. -/
theorem process_unreported_iff [Release] (e : Embedder) (files : FileTree) (settings : Settings)
    (existing : Headers) :
    let questions := settings.questions e.dependencies
    ((∃ fault, (e.process files settings existing).2 = .error fault ∧ fault.isReported = false) ↔
        (∃ before question later, questions = before ++ question :: later ∧
          (∀ earlier ∈ before, earlier.fault? = none) ∧ question.EndsUnreported) ∨
        (∀ question ∈ questions, question.fault? = none) ∧
          settings.PlacesTooLong e.dependencies files) ∧
      ∀ question ∈ questions, question.EndsUnreported →
        HoldsHugeNumber question.entry.2.toList ∨
          ∃ d ∈ question.asked, d.crosses question.entry = true := by
  intro questions
  refine ⟨?_, fun question _ ends => ?_⟩
  · rw [← Settings.exists_failure_pass_iff, ← Settings.failure_pass_eq_none_iff]
    change (∃ fault, (embedAll e.dependencies files settings existing).result = _ ∧ _) ↔ _
    rcases embedAll_cases e.dependencies files settings existing with
      ⟨noClauses, result, -⟩ |
      ⟨-, -, ⟨fault, refused, result⟩ | ⟨whole, ended⟩⟩
    · -- without clauses there is nothing to ask, and nothing is placed
      have whole : (settings.pass e.dependencies).failure = none := by
        rw [Settings.failure_pass_eq_none_iff, Settings.questions, noClauses]
        simp
      simp [result, whole, Settings.PlacesTooLong, noClauses]
    · simp [result, refused]
    · have file : ∀ failure, (EmbedFault.file failure).isReported = false := fun _ => rfl
      rw [Settings.placesTooLong_iff whole]
      simp only [← @Headers.emit_eq_error_iff files settings existing]
      rcases ended with ⟨failure, emitted, result⟩ | ⟨headers, emitted, result⟩
      · simp [result, emitted, whole, file]
      · simp [result, emitted, whole]
  · cases ends with
    | number _ refused unreported =>
        exact .inl (Pattern.holdsHugeNumber_of_read refused unreported)
    | search _ asked crosses => exact .inr ⟨_, asked, crosses⟩

/-! ### A count that is too large -/

/-- Not every failure of a run is reported. -/
theorem not_every_failure_of_a_run_is_reported :
    ¬ ∀ (e : Embedder) (files : FileTree) (settings : Settings) (existing : Headers)
      (fault : EmbedFault),
      (e.process files settings existing).2 = .error fault → fault.isReported = true := by
  intro reported
  let e := Embedder.ofDependencies [.named "a"]
  let settings := { Settings.standard with clauses := [⟨"a\x7b4294967295\x7d", []⟩] }
  have failed : (e.process (.emptyIn []) settings ⟨none, none⟩).2 =
      .error (.clause (.pattern .repeatTooLarge)) := by decide +kernel
  cases reported e (.emptyIn []) settings ⟨none, none⟩ _ failed

end BundleEmbed
