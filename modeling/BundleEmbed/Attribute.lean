import BundleEmbed.Dependency
import BundleEmbed.Pattern

/-!
The attributes by which a clause selects dependencies.

Each attribute reads one text of a dependency, and has a text for dependencies
without it. A filter accepts the dependencies whose text its pattern accepts.
-/

namespace BundleEmbed

open Regex (Release)

/-- An attribute that selects. -/
inductive Attribute where
  | groupId
  | artifactId
  | version
  | scope
  | type
  | classifier
  | optional
  deriving DecidableEq, Repr

namespace Attribute

/-- All attributes that select. -/
def all : List Attribute :=
  [.groupId, .artifactId, .version, .scope, .type, .classifier, .optional]

/-- The key of an attribute in a clause. -/
def key : Attribute → Text
  | .groupId => "groupId"
  | .artifactId => "artifactId"
  | .version => "version"
  | .scope => "scope"
  | .type => "type"
  | .classifier => "classifier"
  | .optional => "optional"

/-- The attribute of a key. -/
def ofKey? (key : Text) : Option Attribute := all.find? (·.key == key)

/-- What a dependency has for an attribute. The version is the symbolic one where there
is one. -/
def value? (d : Dependency) : Attribute → Option Text
  | .groupId => some d.groupId
  | .artifactId => some d.artifactId
  | .version => some ((Dependency.nonempty d.selectedVersion).getD d.version)
  | .scope => d.scope
  | .type => d.type
  | .classifier => d.classifier
  | .optional => d.isOptional.map fun isOptional => if isOptional then "true" else "false"

/-- What is read where a dependency has nothing. -/
def absent : Attribute → Text
  | .scope => "compile"
  | .type => "jar"
  | .optional => "false"
  | _ => ""

/-- The text that a pattern is asked about. -/
def value (a : Attribute) (d : Dependency) : Text := (a.value? d).getD a.absent

end Attribute

/-- Why a clause is refused, or comes to nothing when it is applied. -/
inductive ClauseFault where
  | unknownAttribute (key : Text)
  | pattern (fault : PatternFault)
  | matching (fault : Regex.MatchFault)
  deriving DecidableEq, Repr

/-- The wording of a fault. -/
def ClauseFault.message : ClauseFault → Text
  | .unknownAttribute key => "Unexpected attribute " ++ key
  | .pattern fault => fault.message
  | .matching fault => fault.message

/-- A pattern for one attribute. -/
structure Filter where
  subject : Attribute
  pattern : Pattern
  deriving DecidableEq

namespace Filter

/-- The filter of an attribute's pattern. -/
def ofAttribute (subject : Attribute) (expression : Text) : Except ClauseFault Filter :=
  match Pattern.read expression with
  | .ok pattern => .ok ⟨subject, pattern⟩
  | .error fault => .error (.pattern fault)

/-- The filter of a key and a pattern. An unknown key is refused whatever the pattern. -/
def read (key expression : Text) : Except ClauseFault Filter :=
  match Attribute.ofKey? key with
  | some subject => ofAttribute subject expression
  | none => .error (.unknownAttribute key)

/-- The filter accepts a dependency. -/
def accepts [Release] (filter : Filter) (d : Dependency) : Except ClauseFault Bool :=
  (filter.pattern.accepts (filter.subject.value d)).mapError .matching

/-- The dependencies that the filter accepts, in their order. They are asked one after
the other, and a fault ends the selection. -/
def select [Release] (filter : Filter) : List Dependency → Except ClauseFault (List Dependency)
  | [] => .ok []
  | d :: dependencies => do
      let accepted ← filter.accepts d
      let others ← filter.select dependencies
      return if accepted then d :: others else others

end Filter

end BundleEmbed
