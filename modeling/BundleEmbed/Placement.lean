import BundleEmbed.Dependency
import BundleEmbed.FileTree
import BundleEmbed.Headers
import BundleEmbed.Settings

/-!
Placing the files of dependencies in a bundle.

An embedded file gets a place of its own, which the class path names, and a resource
that says where it comes from. An inlined file is a resource with a mark. A dependency
without a file on disk is not placed.
-/

namespace BundleEmbed

/-! ### Places in the bundle -/

/-- A place below another: a place that starts with a slash stays as it is, and a slash
is put between the two unless there is one or nothing stands before it. -/
def joinPlace (base place : Text) : Text :=
  if place.toList.head? = some (.char '/') then place
  else if base = "" ∨ base.toList.getLast? = some (.char '/') then base ++ place
  else base ++ "/" ++ place

/-- The directory of the settings, which neither an empty text nor a full stop names. -/
def Settings.place? (settings : Settings) : Option Text :=
  settings.directory.filter fun directory => directory ≠ "" ∧ directory ≠ "."

/-- The name of a dependency's file in the bundle: that of the file itself, or the
artifact with its extension when versions are stripped. -/
def placedName (d : Dependency) (source : Path) (settings : Settings) : Text :=
  if settings.stripVersion then
    match d.extension with
    | some extension => d.artifactId ++ "." ++ extension
    | none => d.artifactId
  else source.name

/-- The parts of a place: directory, group and name, of which the first two may be left
out. -/
def placeParts (d : Dependency) (source : Path) (settings : Settings) : List Text :=
  settings.place?.toList ++ (if settings.stripGroup then [] else [d.groupId]) ++
    [placedName d source settings]

/-- Where the file of a dependency stands in the bundle. -/
def targetOf (d : Dependency) (source : Path) (settings : Settings) : Text :=
  match placeParts d source settings with
  | [] => ""
  | first :: later => later.foldl joinPlace first

/-! ### Entries of the headers -/

/-- The file of a dependency, if it is on disk. -/
def sourceOf (files : FileTree) (d : Dependency) : Except FileFailure (Option Path) :=
  match d.file with
  | none => .ok none
  | some path =>
      match files.holds path with
      | .ok present => .ok (if present then some path else none)
      | .error fault => .error ⟨fault, path.text⟩

/-- A file in its place: the entry of the class path, and the resource. -/
structure Placed where
  target : Text
  resource : Text
  deriving DecidableEq, Repr

/-- The headers after the file of a dependency has been embedded, and its entries. -/
def Headers.embed (headers : Headers) (files : FileTree) (settings : Settings) (d : Dependency) :
    Except FileFailure (Headers × Option Placed) := do
  match ← sourceOf files d with
  | none => return (headers, none)
  | some source =>
      let target := targetOf d source settings
      let resource := target ++ "=" ++ source.text
      return ((headers.appendResource resource).appendClassPath target, some ⟨target, resource⟩)

/-- The headers after the content of a dependency's file has been inlined, and the
resource. -/
def Headers.inline (headers : Headers) (files : FileTree) (d : Dependency) :
    Except FileFailure (Headers × Option Text) := do
  match ← sourceOf files d with
  | none => return (headers, none)
  | some source =>
      let resource := "@" ++ source.text
      return (headers.appendResource resource, some resource)

end BundleEmbed
