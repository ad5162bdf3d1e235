import BundleEmbed.Path

/-!
Dependencies of a build, as the build has resolved them.

Two dependencies are the same when all their fields are, the path of the file
included.
-/

namespace BundleEmbed

/-- A resolved dependency. -/
structure Dependency where
  groupId : Text
  artifactId : Text
  version : Text
  /-- the symbolic version, such as a snapshot's -/
  selectedVersion : Option Text
  scope : Option Text
  type : Option Text
  classifier : Option Text
  isOptional : Option Bool
  file : Option Path
  extension : Option Text
  /-- the build names it itself, not only through another dependency -/
  direct : Bool
  deriving DecidableEq

/-- A dependency without a symbolic version. -/
structure UnselectedVersion where
  groupId : Text
  artifactId : Text
  deriving DecidableEq, Repr

/-- The wording of a missing symbolic version. -/
def UnselectedVersion.message (fault : UnselectedVersion) : Text :=
  "no selected version for " ++ fault.groupId ++ ":" ++ fault.artifactId

namespace Dependency

/-- The text of an optional field, unless it is absent or empty. -/
def nonempty (field : Option Text) : Option Text := field.filter (· ≠ "")

/-- The symbolic version, which an empty text is not. -/
def symbolicVersion (d : Dependency) : Except UnselectedVersion Text :=
  match nonempty d.selectedVersion with
  | some version => .ok version
  | none => .error ⟨d.groupId, d.artifactId⟩

/-- The fields that name the artifact: group, artifact, type (a jar by default), the
classifier if there is one, and version. -/
def coordinateParts (d : Dependency) : List Text :=
  [d.groupId, d.artifactId, (nonempty d.type).getD "jar"] ++
    (nonempty d.classifier).toList ++ [d.version]

/-- The name of the artifact, its parts separated by colons. -/
def coordinates (d : Dependency) : Text := Text.intercalate ":" d.coordinateParts

/-- The fields by which lists of dependencies are sorted, compared from left to right. -/
def sortKey (d : Dependency) : List Text :=
  [d.groupId, d.artifactId, d.version, d.classifier.getD "", d.type.getD ""]

/-- The dependencies by their keys; those with the same key stay in their order. -/
def sort (dependencies : List Dependency) : List Dependency :=
  dependencies.mergeSort fun a b => !decide (b.sortKey < a.sortKey)

end Dependency

end BundleEmbed
