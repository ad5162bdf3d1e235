import BundleEmbed.Command.Grammar
import BundleEmbed.Command.Template
import BundleEmbed.Descriptor.Load
import BundleEmbed.Log
import BundleEmbed.Text.ControlSequence

/-!
Running the program on its arguments.

The options in front of the command come first, then the name of the command, then
logging is set up, and only then the command reads its own arguments. A failure that
the program reports has a line of its own and ends with status 1, a refused command
line ends with status 2; any other failure is not caught.
-/

namespace BundleEmbed

open Regex (Release)

/-- What the program reads from its environment. -/
structure Environment where
  embedDirectory : Option String
  logLevel : Option String
  logFormat : Option String
  deriving DecidableEq, Repr

/-- The names of the variables that the program reads. -/
def embedDirectoryVariable : String := "DEPEMBED_EMBED_DIRECTORY"

@[inherit_doc embedDirectoryVariable] def logLevelVariable : String := "DEPEMBED_LOG_LEVEL"

@[inherit_doc embedDirectoryVariable] def logFormatVariable : String := "DEPEMBED_LOG_FORMAT"

/-- A failure that is not caught. -/
inductive Crash where
  | unknownLevel
  | load (fault : LoadFault)
  | embed (fault : EmbedFault)
  | write (failure : FileFailure)
  | nullInPath
  /-- a line of the output has a surrogate -/
  | print (line : Text)
  deriving DecidableEq, Repr

/-- The wording of a failure that is not caught. -/
def Crash.message : Crash → Text
  | .unknownLevel => "Unable to configure logger 'depembed'"
  | .load fault => fault.message
  | .embed fault => fault.message
  | .write failure => failure.message
  | .nullInPath => LoadFault.nullInPath.message
  | .print line => line.refusal Sign.isCharacter

/-- What of some lines is printed one after the other: those before the first one that the
stream does not take, and that one. -/
def printLines : List Text → List String × Option Text
  | [] => ([], none)
  | line :: later =>
      match line.toString? with
      | none => ([], some line)
      | some shown => ((printLines later).1.cons shown, (printLines later).2)

/-- What a run of the program leaves. Its output and its errors are free of control
sequences; in its errors a surrogate is shown by its code point. -/
structure RunResult where
  exitCode : Nat
  output : String
  errors : List String
  events : List Event
  crash : Option Crash
  files : FileTree

namespace RunResult

/-- A run that prints its output in lines. It ends well unless one of them cannot be
printed; the lines before that one have been. -/
def printing (files : FileTree) (lines : List Text) : RunResult :=
  let (printed, refused) := printLines (lines.map withoutControlSequences)
  let output := String.join (printed.map (· ++ "\n"))
  match refused with
  | none => ⟨0, output, [], [], none, files⟩
  | some line => ⟨1, output, [], [], some (.print line), files⟩

/-- A run that was refused. -/
def refused (files : FileTree) (lines : List String) : RunResult :=
  let shown := lines.map fun line : String => (withoutControlSequences line).shown
  ⟨2, "", shown, [], none, files⟩

/-- A run with a reported failure. -/
def failure (files : FileTree) (message : Text) : RunResult :=
  ⟨1, "", [(withoutControlSequences ("Error: " ++ message)).shown], [], none, files⟩

/-- A run with a failure that is not caught. -/
def crashed (files : FileTree) (crash : Crash) : RunResult :=
  ⟨1, "", [], [], some crash, files⟩

end RunResult

/-! ### Making a template -/

/-- The last path that the options name, or the usual one. -/
def templatePath (options : List TemplateOption) : String :=
  options.foldl (fun path option =>
    match option with
    | .output path => path
    | .help => path) "build.json"

/-- Making a template. -/
def runTemplate (files : FileTree) (arguments : List String) : RunResult :=
  let help := CommandName.template.help
  let command := programName ++ " " ++ CommandName.template.text
  match readArguments TemplateOption.specs true none arguments with
  | .error fault => .refused files (fault.lines command help)
  | .ok read =>
      if read.options.contains .help then .printing files (help.lines.map Text.ofString)
      else if read.others ≠ [] then
        .refused files ((UsageFault.extraArguments read.others).lines command help)
      else
        let output := templatePath read.options
        let path := Path.ofText output
        if .char '\x00' ∈ path.text.toList then .crashed files .nullInPath
        else
          match files.write path descriptorTemplateText.toUTF8 with
          | .error fault => .crashed files (.write ⟨fault, path.text⟩)
          | .ok files => .printing files
              ["Descriptor template written to " ++ output,
                "Edit the file, then run: " ++ programName ++ " resolve " ++ output]

/-! ### Resolving a descriptor -/

/-- An option in place of what the descriptor says. -/
def ResolveOption.override (settings : Settings) : ResolveOption → Settings
  | .directory place => { settings with directory := some place }
  | .stripGroup strip => { settings with stripGroup := strip }
  | .stripVersion strip => { settings with stripVersion := strip }
  | .json => settings
  | .help => settings

/-- The settings of a run: what the descriptor says, then the directory of the
environment, then the options in their order. -/
def overriddenSettings (settings : Settings) (environment : Environment)
    (options : List ResolveOption) : Settings :=
  let standard := environment.embedDirectory.map ResolveOption.directory
  (standard.toList ++ options).foldl ResolveOption.override settings

/-- The result as an outline. -/
def EmbedResult.outline (result : EmbedResult) : Outline :=
  .record [
    ("inlined", .list (result.inlined.map fun d => .text d.coordinates)),
    ("embedded", .list (result.embedded.map fun d => .text d.coordinates)),
    ("headers", .record (result.headers.toPairs.map fun (name, text) => (name, .text text)))]

/-- The lines of the result. -/
def EmbedResult.lines (result : EmbedResult) (asJson : Bool) : List Text :=
  if asJson then [JsonText.write .lines result.outline]
  else if result.headers.toPairs = [] then ["No dependencies embedded."]
  else result.headers.toPairs.map fun (name, text) => name ++ ": " ++ text

/-- A descriptor that cannot be read, is no JSON text or is invalid is reported. -/
def LoadFault.isReported : LoadFault → Bool
  | .unreadable .. => true
  | .notJson .. => true
  | .invalid .. => true
  | _ => false

/-- A clause that names an unknown attribute or has a malformed pattern is reported. -/
def EmbedFault.isReported : EmbedFault → Bool
  | .clause (.unknownAttribute _) => true
  | .clause (.pattern (.malformed ..)) => true
  | _ => false

/-- Resolving the descriptor at a path. -/
def resolveDescriptor [Release] (files : FileTree) (environment : Environment)
    (options : List ResolveOption) (path : Path) : RunResult :=
  match Descriptor.load files path with
  | .error fault =>
      if fault.isReported then .failure files fault.message else .crashed files (.load fault)
  | .ok (descriptor, dependencies) =>
      let settings := overriddenSettings descriptor.instructions.toSettings environment options
      let outcome := embedAll dependencies files settings descriptor.existingHeaders
      let result : RunResult := match outcome.result with
        | .error fault =>
            if fault.isReported then .failure files fault.message
            else .crashed files (.embed fault)
        | .ok result => .printing files (result.lines (options.contains .json))
      { result with events := outcome.events }

/-- Resolving a descriptor. -/
def runResolve [Release] (files : FileTree) (environment : Environment)
    (arguments : List String) : RunResult :=
  let help := CommandName.resolve.help
  let command := programName ++ " " ++ CommandName.resolve.text
  let refuse := fun (fault : UsageFault) => RunResult.refused files (fault.lines command help)
  match readArguments ResolveOption.specs true none arguments with
  | .error fault => refuse fault
  | .ok read =>
      if read.options.contains .help then .printing files (help.lines.map Text.ofString)
      else
        match read.others with
        | [] => refuse (.missingArgument descriptorArgument)
        | path :: extra =>
            if '\x00' ∈ path.toList then .crashed files .nullInPath
            else
              match files.findText path with
              | .error _ => refuse (.absentFile descriptorArgument path)
              | .ok .directory => refuse (.directoryForFile descriptorArgument path)
              | .ok _ =>
                  if extra ≠ [] then refuse (.extraArguments extra)
                  else resolveDescriptor files environment read.options (Path.ofText path)

/-! ### The program -/

/-- How events are told. -/
structure Logging where
  threshold : Nat
  format : LogFormat
  deriving DecidableEq, Repr

/-- How events are told: as the environment says, but all of them when the run is
verbose. -/
def Environment.logging? (environment : Environment) (verbose : Bool) : Option Logging :=
  let level := if verbose then "DEBUG" else environment.logLevel.getD "INFO"
  let format := LogFormat.ofName (environment.logFormat.getD "console")
  (thresholdOf? level).map (⟨·, format⟩)

/-- An argument that looks like an option: it starts with neither a letter nor a
numeral. -/
def looksLikeOption (argument : String) : Bool :=
  argument.toList.head?.any fun c : Char => !isAlphanumeric c

/-- A run of the program. -/
structure ProgramRun where
  result : RunResult
  /-- how its events are told, if that was settled -/
  logging : Option Logging

/-- Running the program. -/
def runProgram [Release] (files : FileTree) (environment : Environment)
    (arguments : List String) : ProgramRun :=
  let ended := fun (result : RunResult) => ProgramRun.mk result none
  let refuse := fun (fault : UsageFault) =>
    ended (.refused files (fault.lines programName programHelp))
  if arguments = [] then ended (.refused files programHelp.lines)
  else
    match readArguments ProgramOption.specs false none arguments with
    | .error fault => refuse fault
    | .ok read =>
        if read.options.contains .help then
          ended (.printing files (programHelp.lines.map Text.ofString))
        else
          match read.others with
          | [] => refuse .missingCommand
          | name :: arguments =>
              match CommandName.ofText? name with
              | none =>
                  let unknown := refuse (.unknownCommand name
                    (suggestions name (CommandName.all.map (·.text))))
                  if looksLikeOption name then
                    match readArguments ProgramOption.specs false none (name :: arguments) with
                    | .error fault => refuse fault
                    | .ok read =>
                        if read.options.contains .help then
                          ended (.printing files (programHelp.lines.map Text.ofString))
                        else unknown
                  else unknown
              | some command =>
                  match environment.logging? (read.options.contains .verbose) with
                  | none => ended (.crashed files .unknownLevel)
                  | some logging =>
                      let result := match command with
                        | .template => runTemplate files arguments
                        | .resolve => runResolve files environment arguments
                      ⟨result, some logging⟩

/-- The paths that the arguments name: the descriptor to resolve, or the template to make. -/
def namedPaths (arguments : List String) : List Path :=
  match readArguments ProgramOption.specs false none arguments with
  | .ok ⟨_, name :: arguments⟩ =>
      match CommandName.ofText? name with
      | some .template =>
          match readArguments TemplateOption.specs true none arguments with
          | .ok read => [Path.ofText (templatePath read.options)]
          | .error _ => []
      | some .resolve =>
          match readArguments ResolveOption.specs true none arguments with
          | .ok read => read.others.map fun path : String => Path.ofText path
          | .error _ => []
      | none => []
  | _ => []

/-- The records of a run that are told. -/
def ProgramRun.records (run : ProgramRun) : List LogRecord :=
  match run.logging with
  | none => []
  | some logging => recordsFrom logging.threshold run.result.events

/-- The format of a run's records; without records it does not matter. -/
def ProgramRun.format (run : ProgramRun) : LogFormat :=
  match run.logging with
  | some logging => logging.format
  | none => .console

end BundleEmbed
