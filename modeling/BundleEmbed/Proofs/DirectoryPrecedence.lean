import BundleEmbed.Proofs.HeaderForm
import BundleEmbed.Proofs.Invocation

/-!
The directory of a run on a descriptor.

Three sources name it: the options, the descriptor and the environment. The directory of the
environment counts as an option that comes before the others, so that it takes the place of
the one that the descriptor states.

* `overriddenSettings_eq`: the settings of a run differ from those without an environment in
  their directory at most.
* `runProgram_directory`: the directory under which a run resolves a descriptor, and when
  it is the one of the descriptor before that of the environment.
* `not_descriptor_before_environment`: it is not so on every run.
-/

namespace BundleEmbed

open Regex (Release)

/-! ### Options in their order -/

/-- The directory that an option gives. -/
def ResolveOption.directory? : ResolveOption → Option Text
  | .directory place => some place
  | _ => none

/-- The directory that options give: the last one counts. -/
def givenDirectory (options : List ResolveOption) : Option Text :=
  (options.filterMap ResolveOption.directory?).getLast?

/-- A later directory counts before an earlier one. -/
theorem givenDirectory_cons (option : ResolveOption) (later : List ResolveOption) :
    givenDirectory (option :: later) = (givenDirectory later).or option.directory? := by
  cases option with
  | directory place =>
      simp only [givenDirectory, List.filterMap_cons, ResolveOption.directory?,
        List.getLast?_cons]
      cases (later.filterMap ResolveOption.directory?).getLast? <;> rfl
  | _ => simp [givenDirectory, ResolveOption.directory?]

/-- What an option puts in place of a setting does not depend on the directory. -/
theorem ResolveOption.override_directory (option : ResolveOption) (settings : Settings)
    (place : Option Text) :
    option.override { settings with directory := place } =
      { option.override settings with directory := option.directory?.or place } := by
  cases option <;> rfl

/-- Of options, the directory they give stands before the one of the settings. -/
theorem foldl_override_directory (options : List ResolveOption) (settings : Settings)
    (place : Option Text) :
    options.foldl ResolveOption.override { settings with directory := place } =
      { options.foldl ResolveOption.override settings with
        directory := (givenDirectory options).or place } := by
  induction options generalizing settings place with
  | nil => rfl
  | cons option later ih =>
      rw [List.foldl_cons, List.foldl_cons, option.override_directory, ih, givenDirectory_cons,
        Option.or_assoc]

/-- The directory that the environment names. -/
def Environment.directory? (environment : Environment) : Option Text :=
  environment.embedDirectory.map Text.ofString

/-- The settings of a run: those of the descriptor with what the options put in their place,
and a directory of the options, the environment or the descriptor, in this order. -/
theorem overriddenSettings_eq (settings : Settings) (environment : Environment)
    (options : List ResolveOption) :
    overriddenSettings settings environment options =
      { options.foldl ResolveOption.override settings with
        directory :=
          (givenDirectory options).or (environment.directory?.or settings.directory) } := by
  rw [← foldl_override_directory]
  cases given : environment.embedDirectory <;>
    simp [overriddenSettings, given, Environment.directory?, ResolveOption.override]

/-! ### The directory of a run -/

/-- The environment names another directory than the one that is stated. -/
def Environment.Replaces (environment : Environment) (stated : Option Text) : Prop :=
  ∃ place other, environment.directory? = some place ∧ stated = some other ∧ place ≠ other

/-- Of two directories it matters which one stands first only if both are named and differ. -/
theorem directory_or_comm_iff (environment : Environment) (given stated : Option Text) :
    given.or (environment.directory?.or stated) =
        given.or (stated.or environment.directory?) ↔
      ¬ (given = none ∧ environment.Replaces stated) := by
  cases given with
  | some place => simp
  | none =>
      cases named : environment.directory? with
      | none => simp [Environment.Replaces, named]
      | some place => cases stated <;> simp [Environment.Replaces, named]

/-- A run that is asked for a descriptor resolves it under the settings of the descriptor and
the options. Its directory is that of the options, else that of the environment, else that of
the descriptor. It is that of the descriptor before that of the environment unless the
options give none and the environment names another one than the descriptor. -/
theorem runProgram_directory [Release] {arguments : List String} {verbose : Bool}
    {options : List ResolveOption} {path : String} {files : FileTree} {descriptor : Descriptor}
    {dependencies : List Dependency} (asks : AsksToResolve arguments verbose options path)
    (named : NamesFile files path)
    (loaded : Descriptor.load files (Path.ofText path) = .ok (descriptor, dependencies))
    (environment : Environment) :
    let given := givenDirectory options
    let stated := descriptor.instructions.directory
    let settings := options.foldl ResolveOption.override descriptor.instructions.toSettings
    let resolved := fun place => environment.start verbose files
      (resolution files descriptor dependencies { settings with directory := place }
        (options.contains .json))
    runProgram files environment arguments =
        resolved (given.or (environment.directory?.or stated)) ∧
      (given.or (environment.directory?.or stated) =
          given.or (stated.or environment.directory?) ↔
        ¬ (given = none ∧ environment.Replaces stated)) := by
  intro given stated settings resolved
  refine ⟨?_, directory_or_comm_iff environment given stated⟩
  rw [runProgram_of_load asks named loaded, overriddenSettings_eq]
  rfl

/-! ### A directory that the descriptor states -/

namespace StatedDirectory

open OneDependency (files stated descriptor)

/-- The dependencies of the descriptor. -/
def dependencies : List Dependency := descriptor.dependenciesIn (Path.ofText "build.json").parent

/-- The environment names another directory. -/
def environment : Environment := ⟨some "env", none, none⟩

/-- The command. -/
def arguments : List String := ["resolve", "build.json"]

/-- The command asks for the descriptor. -/
theorem asks : AsksToResolve arguments false [] "build.json" :=
  asksToResolve_words (by decide) List.not_mem_nil

/-- The descriptor is a file. -/
theorem named : NamesFile (files stated) "build.json" := by
  decide +kernel

/-- The file is loaded as the descriptor. -/
theorem loaded : Descriptor.load (files stated) (Path.ofText "build.json") =
    .ok (descriptor, dependencies) := by
  decide +kernel

/-- The settings under a directory. -/
def settings (place : Option Text) : Settings :=
  { descriptor.instructions.toSettings with directory := place }

/-- Directories, with the headers and what is printed. -/
def runs : List (Option Text × Headers × String) := [
  (some "lib", ⟨some ".,lib/a.jar", some "lib/a.jar=a.jar"⟩,
    "Bundle-ClassPath: .,lib/a.jar\nInclude-Resource: lib/a.jar=a.jar\n"),
  (some "env", ⟨some ".,env/a.jar", some "env/a.jar=a.jar"⟩,
    "Bundle-ClassPath: .,env/a.jar\nInclude-Resource: env/a.jar=a.jar\n")]

/-- This is what the runs give, and what is printed of it. -/
theorem returned {place : Option Text} {headers : Headers} {output : String}
    (isRun : (place, headers, output) ∈ runs) :
    (embedAll dependencies (files stated) (settings place) descriptor.existingHeaders).result =
        .ok ⟨[], dependencies, headers⟩ ∧
      (RunResult.printing (files stated)
        (EmbedResult.lines ⟨[], dependencies, headers⟩ false)).output = output := by
  have given : ∀ run ∈ runs,
      (settings run.1).GivesOrdered dependencies (files stated) descriptor.existingHeaders
          ⟨[], dependencies, run.2.1⟩ ∧
        (RunResult.printing (files stated)
          (EmbedResult.lines ⟨[], dependencies, run.2.1⟩ false)).output = run.2.2 := by
    decide +kernel
  exact (given _ isRun).imp_left embedAll_result_of_ordered

/-- This is what is printed. -/
theorem printed {place : Option Text} {headers : Headers} {output : String}
    (isRun : (place, headers, output) ∈ runs) :
    (environment.start false (files stated)
      (resolution (files stated) descriptor dependencies (settings place) false)).result.output =
        output := by
  obtain ⟨result, lines⟩ := returned isRun
  have logging : environment.logging? false = some ⟨20, .console⟩ := by decide +kernel
  simp only [Environment.start, logging, resolution, Outcome.told, result]
  exact lines

end StatedDirectory

open StatedDirectory OneDependency in
theorem runProgram_directory_replaced :
    AsksToResolve arguments false [] "build.json" ∧ NamesFile (files stated) "build.json" ∧
      Descriptor.load (files stated) (Path.ofText "build.json") =
        .ok (descriptor, dependencies) ∧
      environment.Replaces descriptor.instructions.directory ∧
      (runProgram (files stated) environment arguments).result.output =
        "Bundle-ClassPath: .,env/a.jar\nInclude-Resource: env/a.jar=a.jar\n" := by
  have directory := runProgram_directory asks named loaded environment
  refine ⟨asks, named, loaded, ⟨"env", "lib", rfl, rfl, by decide⟩, ?_⟩
  rw [directory.1]
  exact printed (.tail _ (.head _))

/-- Where the options give no directory, it need not be the one that the descriptor states. -/
theorem not_descriptor_before_environment :
    ¬ ∀ (arguments : List String) (verbose : Bool) (options : List ResolveOption) (path : String)
        (files : FileTree) (descriptor : Descriptor) (dependencies : List Dependency)
        (environment : Environment),
      AsksToResolve arguments verbose options path → NamesFile files path →
        Descriptor.load files (Path.ofText path) = .ok (descriptor, dependencies) →
          runProgram files environment arguments =
            environment.start verbose files (resolution files descriptor dependencies
              { options.foldl ResolveOption.override descriptor.instructions.toSettings with
                directory := (givenDirectory options).or
                  (descriptor.instructions.directory.or environment.directory?) }
              (options.contains .json)) := by
  intro claimed
  have resolved := runProgram_of_load StatedDirectory.asks StatedDirectory.named
    StatedDirectory.loaded StatedDirectory.environment
  rw [claimed _ _ _ _ _ _ _ _ StatedDirectory.asks StatedDirectory.named StatedDirectory.loaded]
    at resolved
  have output := congrArg (fun run : ProgramRun => run.result.output) resolved
  have differ : ("Bundle-ClassPath: .,lib/a.jar\nInclude-Resource: lib/a.jar=a.jar\n" : String) ≠
      "Bundle-ClassPath: .,env/a.jar\nInclude-Resource: env/a.jar=a.jar\n" := by decide
  exact differ ((StatedDirectory.printed (.head _)).symm.trans
    (output.trans (StatedDirectory.printed (.tail _ (.head _)))))

end BundleEmbed
