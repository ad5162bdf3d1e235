import BundleEmbed.Descriptor.Fault
import BundleEmbed.Descriptor.Model
import BundleEmbed.Json.Value
import BundleEmbed.Text.Blank

/-!
Checking that a JSON value is a descriptor.

A text is expected as a string. A flag may be a boolean, the numbers zero and one, or one
of several words. The flags of the instructions are texts for which a boolean may stand.
Fields that are not known are ignored, and a field may be left out unless it names an
artifact.
-/

namespace BundleEmbed

/-- The field of an object. -/
abbrev Members := List (Text × JsonValue)

/-! ### Values of a field -/

/-- A string. -/
def checkString : JsonValue → Checked Text
  | .string text => .valid text
  | _ => .expected .string

/-- A string without the blanks around it. -/
def checkTrimmed (value : JsonValue) : Checked Text := (checkString value).map trimBlanks

/-- A value or null. -/
def checkNullable {α : Type} (check : JsonValue → Checked α) : JsonValue → Checked (Option α)
  | .null => .valid none
  | value => (check value).map some

/-- The words for a flag that is set. -/
def trueWords : List Text := ["1", "t", "y", "on", "yes", "true"]

/-- The words for a flag that is not set. -/
def falseWords : List Text := ["0", "f", "n", "no", "off", "false"]

/-- A flag as a word, in any mixture of capital and small letters. Words are made of
characters. -/
def checkFlagWord (text : Text) : Checked Bool :=
  if text.toLower ∈ trueWords then .valid true
  else if text.toLower ∈ falseWords then .valid false
  else if text.toString?.isSome then .expected .boolText
  else .expected .characters

/-- Numbers from here on do not fit into a signed integer of 64 bits. -/
def flagNumberLimit : Nat := Nat.pow 2 63

/-- A flag as an integer. One that does not fit into 64 bits is not even a candidate. -/
def checkFlagInteger (number : Int) : Checked Bool :=
  if number = 0 then .valid false
  else if number = 1 then .valid true
  else if -flagNumberLimit ≤ number ∧ number < flagNumberLimit then .expected .boolText
  else .expected .bool

/-- A flag as a decimal number, which counts as the double next to it. One that is no
integer or is too large is not even a candidate; here the least integer of 64 bits counts
as too large. -/
def checkFlagDecimal (number : Decimal) : Checked Bool :=
  match number.toBinary64.toNat? with
  | none => .expected .bool
  | some magnitude =>
      if magnitude < flagNumberLimit then
        checkFlagInteger (if number.negative then -magnitude else magnitude)
      else .expected .bool

/-- A flag. -/
def checkFlag : JsonValue → Checked Bool
  | .bool flag => .valid flag
  | .string text => checkFlagWord text
  | .integer number => checkFlagInteger number
  | .decimal number => checkFlagDecimal number
  | _ => .expected .bool

/-- The text of a flag that is given as a boolean. -/
def flagText (flag : Bool) : Text := if flag then "true" else "false"

/-- A string, for which a boolean may stand. -/
def checkFlagText : JsonValue → Checked Text
  | .bool flag => .valid (flagText flag)
  | value => checkString value

/-- An object as a mapping, whose values are checked one after the other. -/
def checkMapping {α : Type} (check : JsonValue → Checked α) : JsonValue → Checked (Mapping α)
  | .object members =>
      Checked.all (fun (key, value) => ((check value).under (.field key)).map (key, ·)) members
  | _ => .expected .mapping

/-- A list, whose items are checked one after the other. -/
def checkList {α : Type} (check : JsonValue → Checked α) : JsonValue → Checked (List α)
  | .array items =>
      Checked.all (fun (item, number) => (check item).under (.index number)) items.zipIdx
  | _ => .expected .list

/-! ### Fields of an object -/

/-- A field that has to be present. -/
def requiredField {α : Type} (members : Members) (name : Text) (check : JsonValue → Checked α) :
    Checked α :=
  match members.lookup name with
  | some value => (check value).under (.field name)
  | none => (Checked.expected .present).under (.field name)

/-- A field that has a value of its own where it is left out. -/
def optionalField {α : Type} (members : Members) (name : Text) (standard : α)
    (check : JsonValue → Checked α) : Checked α :=
  match members.lookup name with
  | some value => (check value).under (.field name)
  | none => .valid standard

/-- A text that may be null or left out. -/
def textField (members : Members) (name : Text) : Checked (Option Text) :=
  optionalField members name none (checkNullable checkString)

/-- A flag of the instructions, with its text where it is left out. -/
def flagField (members : Members) (name : Text) (standard : Option Text) :
    Checked (Option Text) :=
  optionalField members name standard (checkNullable checkFlagText)

/-- An object of a model. -/
def checkModel {α : Type} (name : String) (check : Members → Checked α) : JsonValue → Checked α
  | .object members => check members
  | _ => .expected (.model name)

/-! ### The models -/

/-- The name of the model of a dependency. -/
def DependencyEntry.modelName : String := "DependencySchema"

/-- The fields of a dependency. -/
def DependencyEntry.ofMembers (members : Members) : Checked DependencyEntry :=
  DependencyEntry.mk
    <$> requiredField members "group_id" checkTrimmed
    <*> requiredField members "artifact_id" checkTrimmed
    <*> requiredField members "version" checkTrimmed
    <*> textField members "selected_version"
    <*> textField members "scope"
    <*> textField members "type"
    <*> textField members "classifier"
    <*> optionalField members "optional" none (checkNullable checkFlag)
    <*> textField members "file"
    <*> textField members "extension"
    <*> optionalField members "direct" true checkFlag

/-- A dependency. -/
def DependencyEntry.check : JsonValue → Checked DependencyEntry :=
  checkModel modelName ofMembers

/-- The name of the model of the instructions. -/
def Instructions.modelName : String := "InstructionsSchema"

/-- The fields of the instructions. -/
def Instructions.ofMembers (members : Members) : Checked Instructions :=
  Instructions.mk
    <$> optionalField members "embed_dependency" none
          (checkNullable (checkMapping (checkNullable (checkMapping checkFlagText))))
    <*> textField members "embed_directory"
    <*> flagField members "embed_strip_group" (some "true")
    <*> flagField members "embed_strip_version" none
    <*> flagField members "embed_transitive" none

/-- The instructions. -/
def Instructions.check : JsonValue → Checked Instructions := checkModel modelName ofMembers

/-- The name of the model of a descriptor. -/
def Descriptor.modelName : String := "BuildDescriptor"

/-- The fields of a descriptor. -/
def Descriptor.ofMembers (members : Members) : Checked Descriptor :=
  Descriptor.mk
    <$> optionalField members "dependencies" [] (checkList DependencyEntry.check)
    <*> optionalField members "instructions" .standard Instructions.check
    <*> optionalField members "headers" [] (checkMapping (checkNullable checkString))

/-- A descriptor. -/
def Descriptor.check : JsonValue → Checked Descriptor := checkModel modelName ofMembers

end BundleEmbed
