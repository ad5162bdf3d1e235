import BundleEmbed.Command.Run

/-!
Command lines that ask for a descriptor to be resolved.

Such a command line comes down to the options it gives and the path it names. The run is
that of the descriptor at the path, once logging has been set up.

* `runProgram_of_runs`: a run on a command line that comes down to the command.
* `runProgram_of_asks`: what a run gives on one that asks for a descriptor.
* `runProgram_of_load`: what it gives where the descriptor can be loaded.
* `runResolve_cases`: otherwise the command gives a result without events.
* `asksToResolve_words`: the options written out one after the other, and the path.
-/

namespace BundleEmbed

open Regex (Release)

/-- A command line asks for the descriptor at a path to be resolved, with options. -/
def AsksToResolve (arguments : List String) (verbose : Bool) (options : List ResolveOption)
    (path : String) : Prop :=
  ∃ programOptions rest,
    readArguments ProgramOption.specs false none arguments =
      .ok ⟨programOptions, CommandName.resolve.text :: rest⟩ ∧
    ProgramOption.help ∉ programOptions ∧
    programOptions.contains .verbose = verbose ∧
    readArguments ResolveOption.specs true none rest = .ok ⟨options, [path]⟩ ∧
    ResolveOption.help ∉ options

/-! ### What a run gives -/

/-- Resolving the descriptor that a path names, if it names a file. -/
def resolveNamed [Release] (files : FileTree) (environment : Environment)
    (options : List ResolveOption) (path : String) : RunResult :=
  let refuse := fun (fault : UsageFault) => RunResult.refused files
    (fault.lines (programName ++ " " ++ CommandName.resolve.text) CommandName.resolve.help)
  if '\x00' ∈ path.toList then .crashed files .nullInPath
  else
    match files.findText path with
    | .error _ => refuse (.absentFile descriptorArgument path)
    | .ok .directory => refuse (.directoryForFile descriptorArgument path)
    | .ok _ => resolveDescriptor files environment options (Path.ofText path)

/-- A run whose result is the given one if logging can be set up. -/
def Environment.start (environment : Environment) (verbose : Bool) (files : FileTree)
    (result : RunResult) : ProgramRun :=
  match environment.logging? verbose with
  | none => ⟨.crashed files .unknownLevel, none⟩
  | some logging => ⟨result, some logging⟩

/-- A command line comes down to the command for resolving with arguments of its own. -/
def RunsResolve (arguments : List String) (verbose : Bool) (own : List String) : Prop :=
  ∃ programOptions,
    readArguments ProgramOption.specs false none arguments =
      .ok ⟨programOptions, CommandName.resolve.text :: own⟩ ∧
    ProgramOption.help ∉ programOptions ∧
    programOptions.contains .verbose = verbose

/-- A run that comes down to the command for resolving runs it, once logging has been set up. -/
theorem runProgram_of_runs [Release] {arguments own : List String} {verbose : Bool}
    (runs : RunsResolve arguments verbose own) (files : FileTree) (environment : Environment) :
    runProgram files environment arguments =
      environment.start verbose files (runResolve files environment own) := by
  obtain ⟨programOptions, isRead, noHelp, rfl⟩ := runs
  have some : arguments ≠ [] := by
    rintro rfl
    cases isRead
  have isResolve : CommandName.ofText? CommandName.resolve.text = .some .resolve := by decide
  simp only [runProgram, if_neg some, isRead, List.contains_eq_mem, noHelp, isResolve,
    Environment.start]
  rfl

/-- The command resolves what its only argument names. -/
theorem runResolve_of_read [Release] {own : List String} {options : List ResolveOption}
    {path : String}
    (isRead : readArguments ResolveOption.specs true none own = .ok ⟨options, [path]⟩)
    (noHelp : ResolveOption.help ∉ options) (files : FileTree) (environment : Environment) :
    runResolve files environment own = resolveNamed files environment options path := by
  simp only [runResolve, isRead, List.contains_eq_mem, noHelp, resolveNamed]
  rfl

/-- A run that is asked for a descriptor resolves the one at the path. -/
theorem runProgram_of_asks [Release] {arguments : List String} {verbose : Bool}
    {options : List ResolveOption} {path : String}
    (asks : AsksToResolve arguments verbose options path) (files : FileTree)
    (environment : Environment) :
    runProgram files environment arguments =
      environment.start verbose files (resolveNamed files environment options path) := by
  obtain ⟨programOptions, own, isRead, noHelp, isVerbose, isRead', noHelp'⟩ := asks
  rw [runProgram_of_runs ⟨programOptions, isRead, noHelp, isVerbose⟩,
    runResolve_of_read isRead' noHelp']

/-- What a run on a descriptor gives of an outcome. -/
def Outcome.told (outcome : Outcome) (files : FileTree) (asJson : Bool) : RunResult :=
  let result : RunResult := match outcome.result with
    | .error fault =>
        if fault.isReported then .failure files fault.message else .crashed files (.embed fault)
    | .ok result => .printing files (result.lines asJson)
  { result with events := outcome.events }

/-- What a run gives on a descriptor with its dependencies, under settings. -/
def resolution [Release] (files : FileTree) (descriptor : Descriptor)
    (dependencies : List Dependency) (settings : Settings) (asJson : Bool) : RunResult :=
  (embedAll dependencies files settings descriptor.existingHeaders).told files asJson

/-- A descriptor that can be loaded is resolved under its settings, with what the environment
and the options put in their place. -/
theorem resolveDescriptor_of_load [Release] {files : FileTree} {path : Path}
    {descriptor : Descriptor} {dependencies : List Dependency}
    (loaded : Descriptor.load files path = .ok (descriptor, dependencies))
    (environment : Environment) (options : List ResolveOption) :
    resolveDescriptor files environment options path =
      resolution files descriptor dependencies
        (overriddenSettings descriptor.instructions.toSettings environment options)
        (options.contains .json) := by
  rw [resolveDescriptor, loaded]
  rfl

/-- The path that an argument names is that of a file. -/
def NamesFile (files : FileTree) (path : String) : Prop :=
  '\x00' ∉ path.toList ∧ ∃ entry, files.findText path = .ok entry ∧ entry ≠ .directory

instance (files : FileTree) (path : String) : Decidable (NamesFile files path) :=
  match found : files.findText path with
  | .ok entry => decidable_of_iff ('\x00' ∉ path.toList ∧ entry ≠ .directory) (by
      simp [NamesFile, found])
  | .error _ => isFalse (by simp [NamesFile, found])

/-- The descriptor at the path of a file is resolved. -/
theorem resolveNamed_of_namesFile [Release] {files : FileTree} {path : String}
    (named : NamesFile files path) (environment : Environment) (options : List ResolveOption) :
    resolveNamed files environment options path =
      resolveDescriptor files environment options (Path.ofText path) := by
  obtain ⟨noNull, entry, found, isFile⟩ := named
  rw [resolveNamed, if_neg noNull, found]
  cases entry with
  | directory => exact absurd rfl isFile
  | file content => rfl
  | device => rfl

/-- A result without events: lines of characters that are printed, a refusal, a failure or a
crash. -/
inductive RunResult.IsEventless : RunResult → Prop
  | printing (files : FileTree) {lines : List Text}
      (characters : ∀ line ∈ lines, ¬ line.HasSurrogate) : IsEventless (.printing files lines)
  | refused (files : FileTree) (lines : List String) : IsEventless (.refused files lines)
  | failure (files : FileTree) (message : Text) : IsEventless (.failure files message)
  | crashed (files : FileTree) (crash : Crash) : IsEventless (.crashed files crash)

/-- Printing leaves the files as they are, reports nothing and has no events. -/
theorem RunResult.exists_printing (lines : List Text) :
    ∃ exitCode output crash, ∀ files,
      printing files lines = ⟨exitCode, output, [], [], crash, files⟩ := by
  unfold printing
  cases printLines (lines.map withoutControlSequences) with
  | mk printed refused =>
      cases refused with
      | none => exact ⟨_, _, _, fun _ => rfl⟩
      | some line => exact ⟨_, _, _, fun _ => rfl⟩

theorem RunResult.events_printing (files : FileTree) (lines : List Text) :
    (printing files lines).events = [] := by
  obtain ⟨exitCode, output, crash, given⟩ := exists_printing lines
  rw [given]

/-- Lines that are strings are printed without events. -/
theorem RunResult.isEventless_printing (files : FileTree) (lines : List String) :
    (printing files (lines.map Text.ofString)).IsEventless :=
  .printing files (List.forall_mem_map.mpr fun line _ => Text.not_hasSurrogate_ofString line)

theorem RunResult.IsEventless.events_eq {run : RunResult} (eventless : run.IsEventless) :
    run.events = [] := by
  cases eventless with
  | printing => exact events_printing _ _
  | refused => rfl
  | failure => rfl
  | crashed => rfl

/-- The command gives a result without events, or its arguments name a file and it resolves the
descriptor there. -/
theorem runResolve_cases [Release] (files : FileTree) (environment : Environment)
    (own : List String) : (runResolve files environment own).IsEventless ∨
      ∃ options path, readArguments ResolveOption.specs true none own = .ok ⟨options, [path]⟩ ∧
        ResolveOption.help ∉ options ∧ NamesFile files path ∧
        runResolve files environment own =
          resolveDescriptor files environment options (Path.ofText path) := by
  unfold runResolve
  dsimp only
  split
  · exact .inl (.refused _ _)
  · rename_i read isRead
    obtain ⟨options, others⟩ := read
    dsimp only
    split
    · exact .inl (RunResult.isEventless_printing _ _)
    · rename_i noHelp
      split
      · exact .inl (.refused _ _)
      · rename_i path extra
        split
        · exact .inl (.crashed _ _)
        · rename_i noNull
          split
          · exact .inl (.refused _ _)
          · exact .inl (.refused _ _)
          · rename_i entry notDirectory found
            by_cases single : extra = []
            · subst single
              refine .inr ⟨options, path, isRead, ?_, ⟨noNull, entry, found, notDirectory⟩, rfl⟩
              simpa using noHelp
            · rw [if_pos single]
              exact .inl (.refused _ _)

/-- Resolving a descriptor that cannot be loaded gives a result without events. -/
theorem resolveDescriptor_of_load_error [Release] {files : FileTree} {path : Path}
    {fault : LoadFault}
    (failed : Descriptor.load files path = .error fault) (environment : Environment)
    (options : List ResolveOption) :
    (resolveDescriptor files environment options path).IsEventless := by
  simp only [resolveDescriptor, failed]
  split
  · exact .failure _ _
  · exact .crashed _ _

/-- A run that is asked for a descriptor resolves the one that it loads. -/
theorem runProgram_of_load [Release] {arguments : List String} {verbose : Bool}
    {options : List ResolveOption} {path : String} {files : FileTree} {descriptor : Descriptor}
    {dependencies : List Dependency} (asks : AsksToResolve arguments verbose options path)
    (named : NamesFile files path)
    (loaded : Descriptor.load files (Path.ofText path) = .ok (descriptor, dependencies))
    (environment : Environment) :
    runProgram files environment arguments =
      environment.start verbose files (resolution files descriptor dependencies
        (overriddenSettings descriptor.instructions.toSettings environment options)
        (options.contains .json)) := by
  rw [runProgram_of_asks asks, resolveNamed_of_namesFile named, resolveDescriptor_of_load loaded]

/-! ### Options written out -/

/-- An option as it is written. -/
def ResolveOption.words : ResolveOption → List String
  | .directory place => ["--embed-directory", place]
  | .stripGroup strip => [if strip then "--strip-group" else "--keep-group"]
  | .stripVersion strip => [if strip then "--strip-version" else "--keep-version"]
  | .json => ["--json"]
  | .help => ["--help"]

/-- An option that is written out is read first. -/
theorem readArguments_words (option : ResolveOption) (rest : List String) :
    readArguments ResolveOption.specs true none (option.words ++ rest) =
      (readArguments ResolveOption.specs true none rest).map (·.withOptions [option]) := by
  -- one argument that is an option by itself
  have flag : ∀ name, name ≠ "--" → name.toList.head? = some '-' ∧ name ≠ "-" →
      readOption ResolveOption.specs name = .ok ⟨[option], none⟩ →
        readArguments ResolveOption.specs true none (name :: rest) =
          (readArguments ResolveOption.specs true none rest).map (·.withOptions [option]) := by
    intro name notEnd hyphen isRead
    rw [readArguments, if_neg notEnd, if_pos hyphen, isRead]
    rfl
  cases option with
  | directory place =>
      have isRead : readOption ResolveOption.specs "--embed-directory" =
          .ok ⟨[], some ("--embed-directory", .directory)⟩ := rfl
      have isTaken : readArguments ResolveOption.specs true
            (some ("--embed-directory", .directory)) (place :: rest) =
          (readArguments ResolveOption.specs true none rest).map
            (·.withOptions [.directory place]) := by
        rw [readArguments]
        rfl
      show readArguments _ true none ("--embed-directory" :: place :: rest) = _
      rw [readArguments, if_neg (by decide), if_pos (by decide), isRead]
      show (readArguments _ true (some _) (place :: rest) >>= fun later =>
        pure (later.withOptions [])) = _
      rw [isTaken]
      cases readArguments ResolveOption.specs true none rest <;> rfl
  | stripGroup strip =>
      cases strip
      · exact flag "--keep-group" (by decide) (by decide) rfl
      · exact flag "--strip-group" (by decide) (by decide) rfl
  | stripVersion strip =>
      cases strip
      · exact flag "--keep-version" (by decide) (by decide) rfl
      · exact flag "--strip-version" (by decide) (by decide) rfl
  | json => exact flag "--json" (by decide) (by decide) rfl
  | help => exact flag "--help" (by decide) (by decide) rfl

/-- Options that are written out in front of a path are read in their order. -/
theorem readArguments_flatMap_words (options : List ResolveOption) {path : String}
    (plain : path.toList.head? ≠ some '-') :
    readArguments ResolveOption.specs true none
      (options.flatMap ResolveOption.words ++ [path]) = .ok ⟨options, [path]⟩ := by
  induction options with
  | nil =>
      have notEnd : path ≠ "--" := by
        rintro rfl
        exact plain (by decide)
      rw [List.flatMap_nil, List.nil_append, readArguments, if_neg notEnd,
        if_neg fun hyphen => plain hyphen.1]
      rfl
  | cons option later ih =>
      rw [List.flatMap_cons, List.append_assoc, readArguments_words, ih]
      rfl

/-- The command with its options written out asks for the descriptor at the path. -/
theorem asksToResolve_words {options : List ResolveOption} {path : String}
    (plain : path.toList.head? ≠ some '-') (noHelp : ResolveOption.help ∉ options) :
    AsksToResolve (CommandName.resolve.text :: (options.flatMap ResolveOption.words ++ [path]))
      false options path :=
  ⟨[], _, rfl, List.not_mem_nil, rfl, readArguments_flatMap_words options plain, noHelp⟩

/-! ### A descriptor with one dependency -/

namespace OneDependency

/-- The text of a descriptor, with more instructions after the clauses. -/
def text (instructions : String) : String :=
  "\x7b\"dependencies\": [\x7b\"group_id\": \"g\", \"artifact_id\": \"a\", \"version\": \"1\", " ++
  "\"file\": \"a.jar\"\x7d], \"instructions\": \x7b\"embed_dependency\": \x7b\"a\": null\x7d, " ++
  instructions ++ "\x7d\x7d"

/-- The descriptor and the file of its dependency. -/
def files (instructions : String) : FileTree :=
  ⟨[(["run", "a.jar"], .file ByteArray.empty),
    (["run", "build.json"], .file (text instructions).toUTF8)], ["run"]⟩

/-- Instructions that state a directory. -/
def stated : String := "\"embed_directory\": \"lib\""

/-- What the descriptor with these instructions says. -/
def descriptor : Descriptor where
  dependencies := [⟨"g", "a", "1", none, none, none, none, none, some "a.jar", none, true⟩]
  instructions := ⟨some [("a", none)], some "lib", some "true", none, none⟩
  headers := []

end OneDependency

end BundleEmbed
