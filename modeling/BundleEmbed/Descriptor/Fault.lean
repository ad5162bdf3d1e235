import BundleEmbed.Text.Sign

/-!
Violations of the form of a descriptor.

A descriptor is checked as a whole: every violation is reported, with the place where
it stands and what was expected there. Checks of parts are put together so that their
violations come one after the other.
-/

namespace BundleEmbed

/-- A step from a value to a part of it. -/
inductive SchemaStep where
  | field (name : Text)
  | index (number : Nat)
  deriving DecidableEq, Repr

/-- What was expected. -/
inductive Expectation where
  | present
  | string
  /-- a string of characters, without a surrogate -/
  | characters
  | bool
  | boolText
  | mapping
  | list
  | model (name : String)
  deriving DecidableEq, Repr

/-- The code of an expectation. -/
def Expectation.code : Expectation → String
  | .present => "missing"
  | .string => "string_type"
  | .characters => "string_unicode"
  | .bool => "bool_type"
  | .boolText => "bool_parsing"
  | .mapping => "dict_type"
  | .list => "list_type"
  | .model _ => "model_type"

/-- The wording of an expectation. -/
def Expectation.message : Expectation → String
  | .present => "Field required"
  | .string => "Input should be a valid string"
  | .characters =>
      "Input should be a valid string, unable to parse raw data as a unicode string"
  | .bool => "Input should be a valid boolean"
  | .boolText => "Input should be a valid boolean, unable to interpret input"
  | .mapping => "Input should be a valid dictionary"
  | .list => "Input should be a valid list"
  | .model name => "Input should be a valid dictionary or instance of " ++ name

/-- A violation at a place. -/
structure SchemaFault where
  location : List SchemaStep
  expected : Expectation
  deriving DecidableEq, Repr

/-- The first line of the report on violations of a model. -/
def schemaFaultHeading (model : String) (faults : List SchemaFault) : String :=
  toString faults.length ++ " validation error" ++ (if faults.length = 1 then "" else "s") ++
    " for " ++ model

/-- A value that has been checked, or the violations that were found. -/
inductive Checked (α : Type) where
  | valid (value : α)
  | invalid (faults : List SchemaFault)
  deriving DecidableEq, Repr

namespace Checked

variable {α β : Type}

/-- The violation of an expectation at the place itself. -/
def expected (what : Expectation) : Checked α := .invalid [⟨[], what⟩]

/-- The violations. -/
def faults : Checked α → List SchemaFault
  | .valid _ => []
  | .invalid faults => faults

/-- A check of a part, whose violations are placed in the whole. -/
def under (step : SchemaStep) : Checked α → Checked α
  | .valid value => .valid value
  | .invalid faults => .invalid (faults.map fun f => { f with location := step :: f.location })

/-- The value as a function of the checked one. -/
def map (f : α → β) : Checked α → Checked β
  | .valid value => .valid (f value)
  | .invalid faults => .invalid faults

/-- Two checks: the violations of the first come before those of the second. -/
def apply (f : Checked (α → β)) (x : Checked α) : Checked β :=
  match f, x with
  | .valid f, .valid value => .valid (f value)
  | .valid _, .invalid faults => .invalid faults
  | .invalid faults, .valid _ => .invalid faults
  | .invalid faults, .invalid more => .invalid (faults ++ more)

instance : Applicative Checked where
  pure := .valid
  map := map
  seq f x := apply f (x ())

/-- The checks of a list of parts, one after the other. -/
def all (check : α → Checked β) : List α → Checked (List β)
  | [] => .valid []
  | part :: later => apply (map List.cons (check part)) (all check later)

end Checked

end BundleEmbed
