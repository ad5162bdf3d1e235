import BundleEmbed.Dependency
import BundleEmbed.Headers
import BundleEmbed.Settings

/-!
Build descriptors: the dependencies of a build, its embedding instructions, and the
headers that its bundle has already.
-/

namespace BundleEmbed

/-- A dependency as a descriptor states it; its file is a text. -/
structure DependencyEntry where
  groupId : Text
  artifactId : Text
  version : Text
  selectedVersion : Option Text
  scope : Option Text
  type : Option Text
  classifier : Option Text
  isOptional : Option Bool
  file : Option Text
  extension : Option Text
  direct : Bool
  deriving DecidableEq, Repr

/-- The path of a file's text, seen from a directory; an empty text names no file. -/
def DependencyEntry.path? (entry : DependencyEntry) (base : Option Path) : Option Path :=
  (Dependency.nonempty entry.file).map fun text =>
    match base with
    | none => Path.ofText text
    | some base => base.join (Path.ofText text)

/-- The dependency that an entry states, with its file seen from a directory. -/
def DependencyEntry.toDependency (entry : DependencyEntry) (base : Option Path) : Dependency where
  groupId := entry.groupId
  artifactId := entry.artifactId
  version := entry.version
  selectedVersion := entry.selectedVersion
  scope := entry.scope
  type := entry.type
  classifier := entry.classifier
  isOptional := entry.isOptional
  file := entry.path? base
  extension := entry.extension
  direct := entry.direct

/-- The embedding instructions of a descriptor; the flags are texts. -/
structure Instructions where
  clauses : Option ClauseHeader
  directory : Option Text
  stripGroup : Option Text
  stripVersion : Option Text
  transitive : Option Text
  deriving DecidableEq, Repr

/-- The instructions of a descriptor without any. -/
def Instructions.standard : Instructions := ⟨none, none, some "true", none, none⟩

/-- The settings that instructions make. -/
def Instructions.toSettings (instructions : Instructions) : Settings where
  clauses := Clause.ofHeader (instructions.clauses.getD [])
  directory := instructions.directory
  stripGroup := isSet instructions.stripGroup
  stripVersion := isSet instructions.stripVersion
  transitive := isSet instructions.transitive

/-- A build descriptor. -/
structure Descriptor where
  dependencies : List DependencyEntry
  instructions : Instructions
  headers : Properties
  deriving DecidableEq, Repr

/-- The headers that embedding extends. -/
def Descriptor.existingHeaders (descriptor : Descriptor) : Headers :=
  Headers.ofProperties descriptor.headers

/-- The dependencies of a descriptor in a directory. -/
def Descriptor.dependenciesIn (descriptor : Descriptor) (base : Path) : List Dependency :=
  descriptor.dependencies.map (·.toDependency (some base))

end BundleEmbed
