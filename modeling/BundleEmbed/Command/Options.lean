import BundleEmbed.Command.Suggestion
import BundleEmbed.Text.Quoted

/-!
The options of a command line.

An argument that starts with a hyphen is an option, or several options with short names.
An option without a value stands for itself; a value follows as the next argument, or in
the same one after an equals sign or a short name. Two hyphens end the options.
-/

namespace BundleEmbed

/-- What an option stands for, at once or with its value. -/
inductive OptionForm (α : Type) where
  | flag (meaning : α)
  | value (meaning : String → α)

/-- An option under its names. -/
structure OptionSpec (α : Type) where
  names : List String
  form : OptionForm α

/-- Why arguments are refused. -/
inductive UsageFault where
  | unknownOption (name : String) (meant : List String)
  | missingValue (name : String)
  | unexpectedValue (name : String)
  | missingCommand
  | unknownCommand (name : String) (meant : List String)
  | missingArgument (name : String)
  | extraArguments (arguments : List String)
  | absentFile (argument path : String)
  | directoryForFile (argument path : String)
  deriving DecidableEq, Repr

/-- The words that may have been meant, as a question. -/
def meantText : List String → String
  | [] => ""
  | [word] => " Did you mean " ++ quoted word ++ "?"
  | words =>
      let quotes := words.map fun word : String => quoted word
      " (Did you mean one of: " ++ ", ".intercalate quotes ++ "?)"

/-- The wording of a refusal. -/
def UsageFault.message : UsageFault → String
  | .unknownOption name meant => "No such option " ++ quoted name ++ "." ++ meantText meant
  | .missingValue name => "Option " ++ quoted name ++ " requires an argument."
  | .unexpectedValue name => "Option " ++ quoted name ++ " does not take a value."
  | .missingCommand => "Missing command."
  | .unknownCommand name meant => "No such command " ++ quoted name ++ "." ++ meantText meant
  | .missingArgument name => "Missing argument " ++ quoted name ++ "."
  | .extraArguments [argument] => "Got unexpected extra argument (" ++ argument ++ ")"
  | .extraArguments arguments =>
      "Got unexpected extra arguments (" ++ " ".intercalate arguments ++ ")"
  | .absentFile argument path =>
      "Invalid value for " ++ quoted argument ++ ": File " ++ quoted path ++ " does not exist."
  | .directoryForFile argument path =>
      "Invalid value for " ++ quoted argument ++ ": File " ++ quoted path ++ " is a directory."

/-- Only a missing or an unexpected value is reported without the usage of the command. -/
def UsageFault.showsUsage : UsageFault → Bool
  | .missingValue _ => false
  | .unexpectedValue _ => false
  | _ => true

namespace OptionSpec

variable {α : Type}

/-- The form of the option of a name. -/
def form? (specs : List (OptionSpec α)) (name : String) : Option (OptionForm α) :=
  (specs.find? (·.names.contains name)).map (·.form)

/-- A name with two hyphens. -/
def isLong (name : String) : Bool := ['-', '-'].isPrefixOf name.toList

/-- The long names of options. -/
def longNames (specs : List (OptionSpec α)) : List String :=
  (specs.flatMap (·.names)).filter isLong

end OptionSpec

/-- The options of one argument, and the one that waits for its value, under its name. -/
structure OptionArgument (α : Type) where
  found : List α
  waiting : Option (String × (String → α))

variable {α : Type}

/-- An argument as an option with a long name, if there is one of that name. -/
def readLongOption (specs : List (OptionSpec α)) (argument : String) :
    Option (Except UsageFault (OptionArgument α)) :=
  let chars := argument.toList
  let name := String.ofList (chars.takeWhile (· ≠ '='))
  let value := (chars.dropWhile (· ≠ '=')).tail?.map String.ofList
  if OptionSpec.isLong name then
    (OptionSpec.form? specs name).map fun form =>
      match form, value with
      | .flag meaning, none => .ok ⟨[meaning], none⟩
      | .flag _, some _ => .error (.unexpectedValue name)
      | .value meaning, some value => .ok ⟨[meaning value], none⟩
      | .value meaning, none => .ok ⟨[], some (name, meaning)⟩
  else none

/-- An argument as options with short names. -/
def readShortOptions (specs : List (OptionSpec α)) :
    List Char → Except UsageFault (OptionArgument α)
  | [] => .ok ⟨[], none⟩
  | c :: rest =>
      let name := String.ofList ['-', c]
      match OptionSpec.form? specs name with
      | none => .error (.unknownOption name [])
      | some (.flag meaning) => do
          let later ← readShortOptions specs rest
          return { later with found := meaning :: later.found }
      | some (.value meaning) =>
          if rest = [] then .ok ⟨[], some (name, meaning)⟩
          else .ok ⟨[meaning (String.ofList rest)], none⟩

/-- An argument that starts with a hyphen. Only one hyphen makes it short names. -/
def readOption (specs : List (OptionSpec α)) (argument : String) :
    Except UsageFault (OptionArgument α) :=
  match readLongOption specs argument with
  | some found => found
  | none =>
      if OptionSpec.isLong argument then
        let name := String.ofList (argument.toList.takeWhile (· ≠ '='))
        .error (.unknownOption name (suggestions name (OptionSpec.longNames specs)))
      else readShortOptions specs argument.toList.tail

/-- The options and the other arguments, each in their order. -/
structure Arguments (α : Type) where
  options : List α
  others : List String

/-- More options in front of the ones that follow. -/
def Arguments.withOptions (arguments : Arguments α) (found : List α) : Arguments α :=
  { arguments with options := found ++ arguments.options }

/-- The arguments of a command. `waiting` is the option whose value comes next. Where
options are not `mixed` with other arguments, the first of those ends the options. -/
def readArguments (specs : List (OptionSpec α)) (mixed : Bool) :
    Option (String × (String → α)) → List String → Except UsageFault (Arguments α)
  | none, [] => .ok ⟨[], []⟩
  | some (name, _), [] => .error (.missingValue name)
  | some (_, meaning), value :: rest => do
      let later ← readArguments specs mixed none rest
      return later.withOptions [meaning value]
  | none, argument :: rest =>
      if argument = "--" then .ok ⟨[], rest⟩
      else if argument.toList.head? = some '-' ∧ argument ≠ "-" then do
        let option ← readOption specs argument
        let later ← readArguments specs mixed option.waiting rest
        return later.withOptions option.found
      else if mixed then do
        let later ← readArguments specs mixed none rest
        return { later with others := argument :: later.others }
      else .ok ⟨[], argument :: rest⟩

end BundleEmbed
