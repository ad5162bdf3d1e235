import BundleEmbed.Command.Help
import BundleEmbed.Command.Options

/-!
The commands of the program, with their options and their help.
-/

namespace BundleEmbed

/-- The name of the program. -/
def programName : String := "depembed"

/-- An option in front of the command. -/
inductive ProgramOption where
  | verbose
  | help
  deriving DecidableEq, Repr

/-- An option of the command that makes a template. -/
inductive TemplateOption where
  | output (path : String)
  | help
  deriving DecidableEq, Repr

/-- An option of the command that resolves a descriptor. -/
inductive ResolveOption where
  | directory (directory : String)
  | stripGroup (strip : Bool)
  | stripVersion (strip : Bool)
  | json
  | help
  deriving DecidableEq, Repr

/-- The options in front of the command. -/
def ProgramOption.specs : List (OptionSpec ProgramOption) := [
  ⟨["-v", "--verbose"], .flag .verbose⟩,
  ⟨["--help"], .flag .help⟩]

/-- The options of the command that makes a template. -/
def TemplateOption.specs : List (OptionSpec TemplateOption) := [
  ⟨["-o", "--output"], .value .output⟩,
  ⟨["--help"], .flag .help⟩]

/-- The options of the command that resolves a descriptor. -/
def ResolveOption.specs : List (OptionSpec ResolveOption) := [
  ⟨["--embed-directory"], .value .directory⟩,
  ⟨["--strip-group"], .flag (.stripGroup true)⟩,
  ⟨["--keep-group"], .flag (.stripGroup false)⟩,
  ⟨["--strip-version"], .flag (.stripVersion true)⟩,
  ⟨["--keep-version"], .flag (.stripVersion false)⟩,
  ⟨["--json"], .flag .json⟩,
  ⟨["--help"], .flag .help⟩]

/-- A command of the program. -/
inductive CommandName where
  | template
  | resolve
  deriving DecidableEq, Repr

/-- The commands in the order of their names. -/
def CommandName.all : List CommandName := [.template, .resolve]

/-- The name of a command. -/
def CommandName.text : CommandName → String
  | .template => "create-descriptor"
  | .resolve => "resolve"

/-- The command of a name. -/
def CommandName.ofText? (name : String) : Option CommandName := all.find? (·.text == name)

/-- The name of the argument of the command that resolves a descriptor. -/
def descriptorArgument : String := "DESCRIPTOR_FILE"

/-- The option that every command has. -/
def helpRow : HelpRow := ("--help", "Show this message and exit.")

/-- The help of the program. -/
def programHelp : Help where
  usage := programName ++ " [OPTIONS] COMMAND [ARGS]..."
  purpose := "depembed: embed build dependencies inside a bundle."
  options := [("-v, --verbose", "Verbose logging"), helpRow]
  commands := [
    ("create-descriptor", "Generate a build descriptor template JSON file."),
    ("resolve", "Resolve the Embed-Dependency instructions of a build...")]

/-- The help of a command. -/
def CommandName.help : CommandName → Help
  | .template => {
      usage := programName ++ " create-descriptor [OPTIONS]"
      purpose := "Generate a build descriptor template JSON file."
      options := [("-o, --output TEXT", "Output file path"), helpRow]
      commands := [] }
  | .resolve => {
      usage := programName ++ " resolve [OPTIONS] " ++ descriptorArgument
      purpose := "Resolve the Embed-Dependency instructions of a build descriptor."
      options := [
        ("--embed-directory TEXT", "Directory inside the bundle for embedded files"),
        ("--strip-group / --keep-group", "Drop the groupId directory"),
        ("--strip-version / --keep-version", "Drop versions from file names"),
        ("--json", "Output as JSON"), helpRow]
      commands := [] }

/-- The lines of a refusal: how the command is used, where its help is found, and why it
is refused. `command` is the program, or the program with a command. -/
def UsageFault.lines (fault : UsageFault) (command : String) (help : Help) : List String :=
  let why := "Error: " ++ fault.message
  if fault.showsUsage then
    [help.usageLine, "Try '" ++ command ++ " --help' for help.", "", why]
  else [why]

end BundleEmbed
