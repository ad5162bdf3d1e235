import BundleEmbed.Proofs.DirectoryPrecedence
import BundleEmbed.Proofs.Refusal
import BundleEmbed.Proofs.Run

/-!
What a run tells of itself.

Events are collected on the way and told at the end, those that reach a threshold. Neither the
threshold nor the format of what is told has an influence on the run. The events themselves
follow the clauses: one for each clause up to the first that fails, and one for the end of a run
that has placed everything.

* `Pass.applied_run`: the clauses that a pass tells of.
* `embedAll_events`: the events of a run over the dependencies of a build.
* `runResolve_congr`: what the command gives does not depend on how events are told.
* `runProgram_observed`: runs with different logging, and what each of them tells.
-/

namespace BundleEmbed

open Regex (Release)

/-! ### Clauses that fail -/

/-- A clause fails on candidates: something in it is refused, or the search in one of them
comes to nothing. -/
def Clause.FailsOn [Release] (clause : Clause) (candidates : List Dependency) : Prop :=
  clause.fault?.isSome = true ∨ ∃ d ∈ candidates, clause.crosses d = true

/-- A clause that fails is one that is refused. -/
theorem Clause.toBool_select_eq_false_iff [Release] {clause : Clause}
    {candidates : List Dependency} :
    (clause.select candidates).toBool = false ↔ clause.FailsOn candidates := by
  rw [← Bool.not_eq_true, Clause.toBool_select_iff, FailsOn, Option.isSome_iff_ne_none]
  simp only [not_and_or, not_forall, Bool.not_eq_false, exists_prop, Ne]

/-- The clauses before the first one that fails, with the others. -/
theorem Clause.exists_split [Release] (clauses : List Clause) (candidates : List Dependency) :
    ∃ later, clauses = Clause.untilRefused candidates clauses ++ later ∧
      (∀ clause ∈ Clause.untilRefused candidates clauses, ¬ clause.FailsOn candidates) ∧
      ∀ clause ∈ later.head?, clause.FailsOn candidates := by
  refine ⟨clauses.dropWhile fun clause => (clause.select candidates).toBool,
    List.takeWhile_append_dropWhile.symm, ?_, ?_⟩
  · intro clause before fails
    have selects : (clause.select candidates).toBool = true :=
      List.mem_takeWhile_imp (p := fun clause => (Clause.select clause _).toBool) before
    rw [Clause.toBool_select_eq_false_iff.mpr fails] at selects
    cases selects
  · intro clause isFirst
    have refused := List.head?_dropWhile_not
      (fun clause : Clause => (clause.select candidates).toBool) clauses
    rw [Option.mem_def.mp isFirst] at refused
    exact Clause.toBool_select_eq_false_iff.mp refused

/-! ### Events of a run -/

/-- What is told of a clause that does not fail: its pattern, whether it inlines, and how many
of the candidates it accepts. -/
def Clause.applied [Release] (clause : Clause) (candidates : List Dependency) : ClauseApplied :=
  ⟨clause.pattern, clause.asksInline, candidates.countP clause.accepts⟩

/-- A pass tells of the clauses before the first one that is refused. -/
theorem Pass.applied_run [Release] (candidates : List Dependency) (clauses : List Clause)
    (c : Classification) :
    (run candidates clauses c).applied =
      (Clause.untilRefused candidates clauses).map (·.applied candidates) := by
  induction clauses generalizing c with
  | nil => rfl
  | cons clause clauses ih =>
      rw [Clause.untilRefused, List.takeWhile_cons, run]
      cases selected : clause.select candidates with
      | error fault => rfl
      | ok selection =>
          simp only [Except.toBool, if_true, List.map_cons, ih, Clause.untilRefused]
          rw [Clause.eq_of_select_ok selected, ← List.countP_eq_length_filter]
          rfl

/-- What is told of a run that returns and has clauses: how many clauses and candidates it has
had, and how many dependencies it has listed. -/
def Settings.resolvedEvents (settings : Settings) (dependencies : List Dependency) :
    Except EmbedFault EmbedResult → List Event
  | .ok result =>
      if settings.clauses = [] then []
      else [.resolved settings.clauses.length (settings.candidates dependencies).length
        result.inlined.length result.embedded.length]
  | .error _ => []

/-- The events of a run that ends with a result: one for each clause before the first that
fails, in their order, and then one for the end. -/
def Settings.IsTrace [Release] (settings : Settings) (dependencies : List Dependency)
    (result : Except EmbedFault EmbedResult) (events : List Event) : Prop :=
  let candidates := Dependency.distinct (settings.candidates dependencies)
  ∃ before later, settings.clauses = before ++ later ∧
    (∀ clause ∈ before, ¬ clause.FailsOn candidates) ∧
    (∀ clause ∈ later.head?, clause.FailsOn candidates) ∧
    events = (before.map fun clause => .clauseApplied (clause.applied candidates)) ++
      settings.resolvedEvents dependencies result

/-- The events of a run: those of its pass, and one for its end. -/
theorem embedAll_events [Release] (dependencies : List Dependency) (files : FileTree)
    (settings : Settings) (existing : Headers) :
    let outcome := embedAll dependencies files settings existing
    outcome.events = (settings.pass dependencies).applied.map Event.clauseApplied ++
      settings.resolvedEvents dependencies outcome.result := by
  intro outcome
  by_cases noClauses : settings.clauses = []
  · simp [outcome, embedAll, Settings.pass, classify, Pass.run, Settings.resolvedEvents, noClauses]
  cases ended : (settings.pass dependencies).failure with
  | some fault =>
      have run : outcome = _ := embedAll_of_refused noClauses ended
      rw [run]
      exact (List.append_nil _).symm
  | none =>
      let classified := (settings.pass dependencies).classification
      cases emitted : existing.emit files settings classified.sortedInlined
          classified.sortedEmbedded with
      | error failure =>
          have run : outcome = _ := embedAll_of_emit_error noClauses ended emitted
          rw [run]
          exact (List.append_nil _).symm
      | ok headers =>
          have run : outcome = _ := embedAll_of_emit_ok noClauses ended emitted
          rw [run, Settings.resolvedEvents, if_neg noClauses]

/-- The events of a run are its trace. -/
theorem isTrace_embedAll [Release] (dependencies : List Dependency) (files : FileTree)
    (settings : Settings) (existing : Headers) :
    let outcome := embedAll dependencies files settings existing
    settings.IsTrace dependencies outcome.result outcome.events := by
  intro outcome
  let candidates := Dependency.distinct (settings.candidates dependencies)
  obtain ⟨later, split, noneFails, fails⟩ := Clause.exists_split settings.clauses candidates
  refine ⟨_, later, split, noneFails, fails, ?_⟩
  have applied : (settings.pass dependencies).applied =
      (Clause.untilRefused candidates settings.clauses).map (·.applied candidates) :=
    Pass.applied_run _ _ _
  rw [embedAll_events, applied, List.map_map]
  rfl

/-! ### Runs of the command -/

/-- The arguments of the command name a file from which a descriptor is loaded, and help is
not asked for. -/
def LoadsDescriptor (files : FileTree) (own : List String) (options : List ResolveOption)
    (descriptor : Descriptor) (dependencies : List Dependency) : Prop :=
  ∃ path, readArguments ResolveOption.specs true none own = .ok ⟨options, [path]⟩ ∧
    ResolveOption.help ∉ options ∧ NamesFile files path ∧
    Descriptor.load files (Path.ofText path) = .ok (descriptor, dependencies)

section Command

variable [Release] {files : FileTree} {environment environment' : Environment}
    {own : List String}

/-- Of the environment the command reads nothing but the directory. -/
theorem runResolve_congr (sameDirectory : environment.embedDirectory = environment'.embedDirectory)
    (files : FileTree) (own : List String) :
    runResolve files environment own = runResolve files environment' own := by
  have sameSettings : ∀ settings options, overriddenSettings settings environment options =
      overriddenSettings settings environment' options := fun settings options => by
    rw [overriddenSettings, overriddenSettings, sameDirectory]
  have same : ∀ options path, resolveDescriptor files environment options path =
      resolveDescriptor files environment' options path := fun options path => by
    simp only [resolveDescriptor, sameSettings]
  simp only [runResolve, same]

/-- A command that loads a descriptor gives the events of the run over its dependencies. -/
theorem events_runResolve_of_loads {options : List ResolveOption} {descriptor : Descriptor}
    {dependencies : List Dependency}
    (loads : LoadsDescriptor files own options descriptor dependencies) :
    (runResolve files environment own).events =
      (embedAll dependencies files
        (overriddenSettings descriptor.instructions.toSettings environment options)
        descriptor.existingHeaders).events := by
  obtain ⟨path, isRead, noHelp, named, loaded⟩ := loads
  rw [runResolve_of_read isRead noHelp, resolveNamed_of_namesFile named,
    resolveDescriptor_of_load loaded]
  rfl

/-- A command that loads no descriptor gives no events. -/
theorem events_runResolve_of_not_loads
    (never : ∀ options descriptor dependencies,
      ¬ LoadsDescriptor files own options descriptor dependencies) :
    (runResolve files environment own).events = [] := by
  rcases runResolve_cases files environment own with
    eventless | ⟨options, path, isRead, noHelp, named, resolved⟩
  · exact eventless.events_eq
  · rw [resolved]
    cases loaded : Descriptor.load files (Path.ofText path) with
    | error fault => exact (resolveDescriptor_of_load_error loaded environment options).events_eq
    | ok found =>
        obtain ⟨descriptor, dependencies⟩ := found
        exact absurd ⟨path, isRead, noHelp, named, loaded⟩ (never options descriptor dependencies)

end Command

/-! ### Runs of the program -/

/-- A run for which logging can be set up gives what the command gives. -/
theorem runProgram_of_settled [Release] {arguments own : List String} {verbose : Bool}
    {environment : Environment} {logging : Logging} (runs : RunsResolve arguments verbose own)
    (settled : environment.logging? verbose = some logging) (files : FileTree) :
    runProgram files environment arguments =
      ⟨runResolve files environment own, some logging⟩ := by
  rw [runProgram_of_runs runs, Environment.start, settled]

/-- Every event reaches the threshold of debugging. -/
theorem recordsFrom_debug {threshold : Nat} (isDebug : thresholdOf? "DEBUG" = some threshold)
    (events : List Event) : recordsFrom threshold events = events.map Event.record := by
  obtain rfl : 10 = threshold := Option.some.inj (isDebug ▸ by decide +kernel)
  refine List.filter_eq_self.mpr fun record isOne => ?_
  obtain ⟨event, -, rfl⟩ := List.mem_map.mp isOne
  cases event <;> rfl

/-- Two runs of the command whose logging differs, in what makes the run verbose or in the
environment, end in the same way: with the same exit code, output, errors and files. If the
second one lets everything through, the first one tells those records of the second one whose
severity reaches its own threshold. The second one then tells the trace of the run, if a
descriptor is loaded, and otherwise nothing. -/
theorem runProgram_observed [Release] {arguments arguments' own : List String}
    {verbose verbose' : Bool}
    {environment environment' : Environment} {logging logging' : Logging}
    (runs : RunsResolve arguments verbose own) (runs' : RunsResolve arguments' verbose' own)
    (sameDirectory : environment.embedDirectory = environment'.embedDirectory)
    (settled : environment.logging? verbose = some logging)
    (settled' : environment'.logging? verbose' = some logging') (files : FileTree) :
    let run := runProgram files environment arguments
    let run' := runProgram files environment' arguments'
    run.result = run'.result ∧
      (thresholdOf? "DEBUG" = some logging'.threshold →
        run.records = run'.records.filter (logging.threshold ≤ ·.severity) ∧
        (∀ options descriptor dependencies,
          LoadsDescriptor files own options descriptor dependencies →
          let settings :=
            overriddenSettings descriptor.instructions.toSettings environment' options
          let outcome := embedAll dependencies files settings descriptor.existingHeaders
          ∃ events, run'.records = events.map Event.record ∧
            settings.IsTrace dependencies outcome.result events) ∧
        ((∀ options descriptor dependencies,
            ¬ LoadsDescriptor files own options descriptor dependencies) →
          run'.records = [])) := by
  intro run run'
  have given : run = ⟨runResolve files environment own, some logging⟩ :=
    runProgram_of_settled runs settled files
  have given' : run' = ⟨runResolve files environment' own, some logging'⟩ :=
    runProgram_of_settled runs' settled' files
  have same := runResolve_congr sameDirectory files own
  rw [given, given', same]
  refine ⟨rfl, fun isDebug => ?_⟩
  have all : ProgramRun.records ⟨runResolve files environment' own, some logging'⟩ =
      (runResolve files environment' own).events.map Event.record := recordsFrom_debug isDebug _
  rw [all]
  refine ⟨rfl, ?_, ?_⟩
  · intro options descriptor dependencies loads settings outcome
    refine ⟨outcome.events, ?_, isTrace_embedAll dependencies files settings _⟩
    rw [events_runResolve_of_loads loads]
  · intro never
    rw [events_runResolve_of_not_loads never]
    rfl

/-! ### A run that is told twice -/

namespace ToldTwice

open OneDependency (files stated descriptor)
open StatedDirectory (dependencies)

/-- Nothing is said about what is told, but how it is written. -/
def environment : Environment := ⟨none, none, some "json"⟩

/-- The environment leaves everything open. -/
def environment' : Environment := ⟨none, none, none⟩

/-- The arguments of the command load the descriptor. -/
theorem loads : LoadsDescriptor (files stated) ["build.json"] [] descriptor dependencies :=
  ⟨"build.json", @readArguments_flatMap_words [] "build.json" (by decide), List.not_mem_nil,
    StatedDirectory.named, StatedDirectory.loaded⟩

/-- The settings of the run. -/
def settings : Settings := descriptor.instructions.toSettings

/-- What the run gives. -/
def result : EmbedResult := ⟨[], dependencies, ⟨some ".,lib/a.jar", some "lib/a.jar=a.jar"⟩⟩

/-- This is what it gives. -/
theorem returned : (embedAll dependencies (files stated) settings
    descriptor.existingHeaders).result = .ok result :=
  (StatedDirectory.returned (.head _)).1

/-- The only trace of the run. -/
theorem eq_of_isTrace {events : List Event}
    (isTrace : settings.IsTrace dependencies (.ok result) events) :
    events = [.clauseApplied ⟨"a", false, 1⟩, .resolved 1 1 0 1] := by
  obtain ⟨before, later, split, -, fails, rfl⟩ := isTrace
  have clauses : settings.clauses = [⟨"a", []⟩] := by decide +kernel
  rw [clauses] at split
  cases before with
  | nil =>
      -- the clause does not fail
      have failsFirst := fails ⟨"a", []⟩ (by rw [← List.nil_append later, ← split]; rfl)
      exact absurd failsFirst (by unfold Clause.FailsOn; decide +kernel)
  | cons first before =>
      obtain ⟨rfl, rest⟩ := List.cons.inj split
      obtain ⟨rfl, rfl⟩ := List.append_eq_nil_iff.mp rest.symm
      decide +kernel

end ToldTwice

open ToldTwice OneDependency in
theorem runProgram_observed_toldTwice :
    let run := runProgram (files stated) environment ["resolve", "build.json"]
    let run' := runProgram (files stated) environment' ["-v", "resolve", "build.json"]
    RunsResolve ["resolve", "build.json"] false ["build.json"] ∧
      RunsResolve ["-v", "resolve", "build.json"] true ["build.json"] ∧
      environment.embedDirectory = environment'.embedDirectory ∧
      environment.logging? false = some ⟨20, .json⟩ ∧
      environment'.logging? true = some ⟨10, .console⟩ ∧
      run.result = run'.result ∧
      run'.records.map (·.event) = ["filters.clause_applied", "embedder.resolved"] ∧
      run.records.map (·.event) = ["embedder.resolved"] := by
  intro run run'
  have runs : RunsResolve ["resolve", "build.json"] false ["build.json"] :=
    ⟨[], rfl, List.not_mem_nil, rfl⟩
  have runs' : RunsResolve ["-v", "resolve", "build.json"] true ["build.json"] :=
    ⟨[.verbose], rfl, by decide, rfl⟩
  have settled : environment.logging? false = some ⟨20, .json⟩ := by decide +kernel
  have settled' : environment'.logging? true = some ⟨10, .console⟩ := by decide +kernel
  have sameDirectory : environment.embedDirectory = environment'.embedDirectory := rfl
  obtain ⟨sameResult, told⟩ :=
    runProgram_observed runs runs' sameDirectory settled settled' (files stated)
  obtain ⟨filtered, traced, -⟩ := told (by decide +kernel)
  obtain ⟨events, records', isTrace⟩ := traced _ _ _ loads
  have sameSettings :
      overriddenSettings descriptor.instructions.toSettings environment' [] = settings := rfl
  rw [sameSettings, returned] at isTrace
  rw [eq_of_isTrace isTrace] at records'
  refine ⟨runs, runs', rfl, settled, settled', sameResult, ?_, ?_⟩
  · rw [records']
    rfl
  · rw [filtered, records']
    rfl

end BundleEmbed
