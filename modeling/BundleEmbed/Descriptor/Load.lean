import BundleEmbed.Descriptor.Check
import BundleEmbed.FileTree
import BundleEmbed.Json.Read
import BundleEmbed.Text.Utf8

/-!
Loading a descriptor from a file.

The file is read as UTF-8 with any line ends, its text as JSON, and the value is checked.
The files of the dependencies are seen from the directory of the descriptor.
-/

namespace BundleEmbed

/-- Why a descriptor cannot be loaded. -/
inductive LoadFault where
  | unreadable (path : Text) (fault : FileFault)
  /-- the path holds a NUL character -/
  | nullInPath
  /-- the path holds a sign without bytes -/
  | unencodable (path : Text)
  | notUtf8 (fault : Utf8.Fault)
  | notJson (path : Text) (text : List Char) (fault : JsonText.Fault)
  | tooManyDigits (digits : Nat)
  | invalid (path : Text) (faults : List SchemaFault)
  deriving DecidableEq, Repr

/-- The wording of a failure; the report on an invalid descriptor starts with this line. -/
def LoadFault.message : LoadFault → Text
  | .unreadable path fault =>
      "Cannot read " ++ path ++ ": " ++ (FileFailure.mk fault path).message
  | .nullInPath => "embedded null byte"
  | .unencodable path => path.refusal (·.bytes?.isSome)
  | .notUtf8 fault => fault.message
  | .notJson path text fault => "Invalid JSON in " ++ path ++ ": " ++ fault.message text
  | .tooManyDigits digits => tooManyDigitsMessage digits
  | .invalid path faults =>
      "Invalid descriptor " ++ path ++ ": " ++ schemaFaultHeading Descriptor.modelName faults

/-- The text of the file at a path. -/
def readTextFile (files : FileTree) (path : Path) : Except LoadFault (List Char) :=
  if path.text.bytes? = none then .error (.unencodable path.text)
  else if .char '\x00' ∈ path.text.toList then .error .nullInPath
  else
    match files.content path with
    | .error fault => .error (.unreadable path.text fault)
    | .ok content =>
        match Utf8.decode content.data.toList with
        | .error fault => .error (.notUtf8 fault)
        | .ok text => .ok (unifyLineEnds text)

/-- The descriptor of a text; the path is named in failures. -/
def Descriptor.ofText (path : Path) (text : List Char) : Except LoadFault Descriptor :=
  match JsonText.read text with
  | .error (.malformed fault) => .error (.notJson path.text text fault)
  | .error (.tooManyDigits digits) => .error (.tooManyDigits digits)
  | .ok value =>
      match Descriptor.check value with
      | .invalid faults => .error (.invalid path.text faults)
      | .valid descriptor => .ok descriptor

/-- The descriptor in a file, and its dependencies. -/
def Descriptor.load (files : FileTree) (path : Path) :
    Except LoadFault (Descriptor × List Dependency) := do
  let text ← readTextFile files path
  let descriptor ← Descriptor.ofText path text
  return (descriptor, descriptor.dependenciesIn path.parent)

end BundleEmbed
