import BundleEmbed.Dependency
import BundleEmbed.Proofs.JoinedTexts

/-!
Coordinates as names of artifacts.

The coordinates of a dependency are texts with colons between them: four, or five if the
artifact has a classifier. Each of them may be empty, but an empty classifier is left out like an
absent one, so a text of four parts is never that of an artifact with a classifier. As long as no
field holds a colon itself, the parts are what stands between the colons, and the artifact can be
read back from them.

* `Artifact.ofParts?_parts`: an artifact is read back from its parts.
* `Dependency.ofCoordinates?_coordinates`: the artifact of a dependency is read back from its
  coordinates.
* `Dependency.coordinates_eq_iff`: which dependencies have the same coordinates.
-/

namespace BundleEmbed

/-! ### Artifacts and their parts -/

/-- What the coordinates of a dependency name. -/
@[ext]
structure Artifact where
  groupId : Text
  artifactId : Text
  version : Text
  type : Text
  /-- empty where there is none -/
  classifier : Text
  deriving DecidableEq, Repr

namespace Artifact

/-- The parts of an artifact's name. An empty classifier is left out. -/
def parts (artifact : Artifact) : List Text :=
  if artifact.classifier = "" then
    [artifact.groupId, artifact.artifactId, artifact.type, artifact.version]
  else [artifact.groupId, artifact.artifactId, artifact.type, artifact.classifier, artifact.version]

/-- The artifact that parts name: the fourth of five is the classifier. -/
def ofParts? : List Text → Option Artifact
  | [groupId, artifactId, type, version] =>
      some { groupId, artifactId, version, type, classifier := "" }
  | [groupId, artifactId, type, classifier, version] =>
      some { groupId, artifactId, version, type, classifier }
  | _ => none

/-- The artifact that coordinates name. -/
def ofCoordinates? (text : Text) : Option Artifact :=
  ofParts? ((text.toList.splitOn (.char ':')).map Text.ofList)

/-- An artifact is read back from its parts. -/
theorem ofParts?_parts (artifact : Artifact) : ofParts? artifact.parts = some artifact := by
  unfold parts
  split_ifs with unclassified
  · exact congrArg some (Artifact.ext rfl rfl rfl rfl unclassified.symm)
  · rfl

end Artifact

namespace Dependency

/-! ### The artifact of a dependency -/

/-- The artifact of a dependency. Without a type, or with an empty one, it is a jar. -/
def artifact (d : Dependency) : Artifact where
  groupId := d.groupId
  artifactId := d.artifactId
  version := d.version
  type := (nonempty d.type).getD "jar"
  classifier := d.classifier.getD ""

/-- A field that is empty is left out like one that is absent. -/
theorem nonempty_eq (field : Option Text) :
    nonempty field = if field.getD "" = "" then none else some (field.getD "") := by
  cases field with
  | none => rfl
  | some text => by_cases empty : text = "" <;> simp [nonempty, empty]

/-- The parts of the coordinates are those of the artifact. -/
theorem coordinateParts_eq (d : Dependency) : d.coordinateParts = d.artifact.parts := by
  unfold coordinateParts Artifact.parts
  rw [nonempty_eq d.classifier]
  change _ = if d.classifier.getD "" = "" then _ else _
  split_ifs <;> rfl

/-! ### Reading coordinates -/

/-- None of the fields that the coordinates are made of holds a colon. -/
structure HasPlainName (d : Dependency) : Prop where
  groupId : (.char ':') ∉ d.groupId.toList
  artifactId : (.char ':') ∉ d.artifactId.toList
  version : (.char ':') ∉ d.version.toList
  type : ∀ type ∈ d.type, .char ':' ∉ type.toList
  classifier : ∀ classifier ∈ d.classifier, .char ':' ∉ classifier.toList

variable {d e : Dependency}

/-- The text of a field is plain if the field is. -/
theorem colon_not_mem_of_mem_nonempty {field : Option Text} {text : Text}
    (plain : ∀ text ∈ field, .char ':' ∉ text.toList) (isText : text ∈ nonempty field) :
    (.char ':') ∉ text.toList :=
  plain text (Option.mem_filter_iff.mp isText).1

/-- A plain name has plain parts. -/
theorem HasPlainName.parts (plain : d.HasPlainName) :
    ∀ part ∈ d.coordinateParts, .char ':' ∉ part.toList := by
  have type : (.char ':') ∉ ((nonempty d.type).getD "jar").toList := by
    cases given : nonempty d.type with
    | none => decide
    | some text => exact colon_not_mem_of_mem_nonempty plain.type given
  have classifier : ∀ part ∈ (nonempty d.classifier).toList, .char ':' ∉ part.toList :=
    fun part isPart =>
      colon_not_mem_of_mem_nonempty plain.classifier (Option.mem_toList.mp isPart)
  intro part isPart
  simp only [coordinateParts, List.cons_append, List.nil_append, List.mem_cons, List.mem_append,
    List.not_mem_nil, or_false] at isPart
  rcases isPart with rfl | rfl | rfl | isClassifier | rfl
  · exact plain.groupId
  · exact plain.artifactId
  · exact type
  · exact classifier part isClassifier
  · exact plain.version

/-- The artifact of a dependency is read back from its coordinates. -/
theorem ofCoordinates?_coordinates (plain : d.HasPlainName) :
    Artifact.ofCoordinates? d.coordinates = some d.artifact := by
  have parts : (d.coordinates.toList.splitOn (.char ':')).map Text.ofList = d.coordinateParts :=
    splitOn_intercalate_texts rfl (by simp [coordinateParts]) plain.parts
  rw [Artifact.ofCoordinates?, parts, coordinateParts_eq, Artifact.ofParts?_parts]

/-- Dependencies with plain names have the same coordinates exactly if they are of the same
artifact. -/
theorem coordinates_eq_iff_artifact_eq (plain : d.HasPlainName) (plain' : e.HasPlainName) :
    d.coordinates = e.coordinates ↔ d.artifact = e.artifact := by
  constructor
  · intro same
    have read := ofCoordinates?_coordinates plain
    rw [same, ofCoordinates?_coordinates plain'] at read
    exact (Option.some.inj read).symm
  · intro same
    rw [coordinates, coordinates, coordinateParts_eq, coordinateParts_eq, same]

/-- Dependencies whose names hold no colon have the same coordinates exactly if they have the same
group, artifact and version, the same type, which is that of a jar where it is absent or empty,
and the same classifier, which is empty where it is absent. -/
theorem coordinates_eq_iff (plain : d.HasPlainName) (plain' : e.HasPlainName) :
    d.coordinates = e.coordinates ↔
      d.groupId = e.groupId ∧ d.artifactId = e.artifactId ∧ d.version = e.version ∧
        (nonempty d.type).getD "jar" = (nonempty e.type).getD "jar" ∧
        d.classifier.getD "" = e.classifier.getD "" := by
  rw [coordinates_eq_iff_artifact_eq plain plain', Artifact.ext_iff]
  rfl

/-! ### Texts at other places -/

namespace SimilarNames

/-- A dependency without a version, whose classifier looks like one. -/
def classified : Dependency :=
  ⟨"g", "a", "", none, some "test", none, some "1", none, none, none, true⟩

/-- The same artifact, with the type that it has in any case. -/
def typed : Dependency := { classified with type := some "jar", scope := none }

/-- A dependency whose version is the classifier of the others. -/
def versioned : Dependency := { classified with version := "1", classifier := some "" }

theorem classified_hasPlainName : classified.HasPlainName where
  groupId := by decide
  artifactId := by decide
  version := by decide
  type := by decide
  classifier := by decide

theorem typed_hasPlainName : typed.HasPlainName :=
  { classified_hasPlainName with type := by decide }

theorem versioned_hasPlainName : versioned.HasPlainName :=
  { classified_hasPlainName with version := by decide, classifier := by decide }

end SimilarNames

open SimilarNames in
theorem coordinates_eq_iff_similar :
    classified.HasPlainName ∧ typed.HasPlainName ∧ versioned.HasPlainName ∧
      classified.coordinates = typed.coordinates ∧
      classified.coordinates ≠ versioned.coordinates :=
  ⟨classified_hasPlainName, typed_hasPlainName, versioned_hasPlainName,
    (coordinates_eq_iff classified_hasPlainName typed_hasPlainName).mpr (by decide),
    fun same => absurd
      ((coordinates_eq_iff classified_hasPlainName versioned_hasPlainName).mp same) (by decide)⟩

open SimilarNames in
/-- A colon in a field is taken for the end of a part. -/
example : ({ classified with version := "2" } : Dependency).coordinates =
    ({ versioned with version := "1:2" } : Dependency).coordinates := by decide

end Dependency

end BundleEmbed
