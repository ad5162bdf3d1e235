import BundleEmbed.Path
import BundleEmbed.Text.Encoding

/-!
The files that a run can see, as a value.

Files and directories are known by the names that lead to them from the root. A path is
looked up segment by segment, from the root or from the current directory, and what is
found first wrong is the fault: going through something that is no directory, a name
that is too long, or a name that is absent. A text with too many bytes is refused before
any look-up.
-/

namespace BundleEmbed

/-- Why a look-up, a reading or a writing fails. -/
inductive FileFault where
  | notFound
  | notDirectory
  | isDirectory
  | nameTooLong
  deriving DecidableEq, Repr

/-- The number and the wording of a fault. -/
def FileFault.description : FileFault → String
  | .notFound => "[Errno 2] No such file or directory"
  | .notDirectory => "[Errno 20] Not a directory"
  | .isDirectory => "[Errno 21] Is a directory"
  | .nameTooLong => "[Errno 36] File name too long"

/-- A fault at a path. -/
structure FileFailure where
  fault : FileFault
  path : Text
  deriving DecidableEq, Repr

/-- The wording of a fault at a path. -/
def FileFailure.message (failure : FileFailure) : String :=
  failure.fault.description ++ ": " ++ quoted failure.path

/-- What stands under a name. -/
inductive FileEntry where
  | file (content : ByteArray)
  | directory
  /-- it takes every text and holds none -/
  | device

instance : DecidableEq FileEntry
  | .file content, .file other =>
      match ByteArray.instDecidableEq content other with
      | isTrue same => isTrue (congrArg FileEntry.file same)
      | isFalse differ => isFalse fun same => differ (FileEntry.file.inj same)
  | .directory, .directory => isTrue rfl
  | .device, .device => isTrue rfl
  | .file _, .directory => isFalse FileEntry.noConfusion
  | .file _, .device => isFalse FileEntry.noConfusion
  | .directory, .file _ => isFalse FileEntry.noConfusion
  | .directory, .device => isFalse FileEntry.noConfusion
  | .device, .file _ => isFalse FileEntry.noConfusion
  | .device, .directory => isFalse FileEntry.noConfusion

/-- What is known to stand where, and the directory from which relative paths start. -/
structure FileTree where
  entries : List (List String × FileEntry)
  current : List String
  deriving DecidableEq

namespace FileTree

/-- A name has at most this number of bytes. -/
def nameLimit : Nat := 255

/-- A path has fewer than this number of bytes. -/
def pathLimit : Nat := 4096

/-- The tree without any file, in a directory. -/
def emptyIn (current : List String) : FileTree := ⟨[], current⟩

/-- What stands at a place. The current directory and those that it lies in are there. -/
def entry? (tree : FileTree) (place : List String) : Option FileEntry :=
  if place.isPrefixOf tree.current then some .directory else tree.entries.lookup place

/-- Where a path starts to be looked up. -/
def startOf (tree : FileTree) : Anchor → List String
  | .relative => tree.current
  | _ => []

/-- The place that a name leads to, which need not hold anything; the place it is looked
up in has to be a directory. The directory around the root is the root. -/
def step (tree : FileTree) (place : List String) (name : Text) :
    Except FileFault (List String) :=
  if tree.entry? place ≠ some .directory then
    .error (if (tree.entry? place).isSome then .notDirectory else .notFound)
  else if name = "." then .ok place
  else if name = ".." then .ok place.dropLast
  else if name.size > nameLimit then .error .nameTooLong
  else
    match name.name? with
    | some known => .ok (place ++ [known])
    | none => .error .notFound

/-- The place that names lead to. -/
def walk (tree : FileTree) (start : List String) (names : List Text) :
    Except FileFault (List String) :=
  names.foldlM tree.step start

/-- The place of a path. -/
def locate (tree : FileTree) (path : Path) : Except FileFault (List String) :=
  if path.text.size ≥ pathLimit then .error .nameTooLong
  else tree.walk (tree.startOf path.anchor) (path.segments.map (·.text))

/-- What stands at a path. -/
def find (tree : FileTree) (path : Path) : Except FileFault FileEntry := do
  let place ← tree.locate path
  match tree.entry? place with
  | some entry => .ok entry
  | none => .error .notFound

/-- The names that a text leads through as it stands: a slash at its end asks for a
directory, as a full stop does. -/
def namesOf (text : List Sign) : List Text :=
  let names := (text.splitOn (.char '/')).filter (· ≠ [])
  let names := if text.getLast? = some (.char '/') then names ++ [[.char '.']] else names
  names.map Text.ofList

/-- What stands at a text that is taken as it stands. -/
def findText (tree : FileTree) (text : Text) : Except FileFault FileEntry := do
  if text.size ≥ pathLimit then .error .nameTooLong
  if text = "" then .error .notFound
  let anchor := (Path.ofText text).anchor
  let place ← tree.walk (tree.startOf anchor) (namesOf text.toList)
  match tree.entry? place with
  | some entry => .ok entry
  | none => .error .notFound

/-- Something stands at the path. A path that holds a NUL character or a sign without bytes
leads nowhere; only a name that is too long is a fault. -/
def holds (tree : FileTree) (path : Path) : Except FileFault Bool :=
  if .char '\x00' ∈ path.text.toList ∨ path.text.bytes? = none then .ok false
  else
    match tree.find path with
    | .ok _ => .ok true
    | .error .nameTooLong => .error .nameTooLong
    | .error _ => .ok false

/-- The content of the file at a path. -/
def content (tree : FileTree) (path : Path) : Except FileFault ByteArray := do
  match ← tree.find path with
  | .file content => .ok content
  | .device => .ok ByteArray.empty
  | .directory => .error .isDirectory

/-! ### Changes -/

/-- The tree with something at a place. -/
def put (tree : FileTree) (place : List String) (entry : FileEntry) : FileTree :=
  if tree.entries.any (·.1 == place) then
    { tree with
      entries := tree.entries.map fun known => if known.1 = place then (place, entry) else known }
  else { tree with entries := tree.entries ++ [(place, entry)] }

/-- The tree with a directory, and those it lies in, where nothing stood. -/
def addDirectory (tree : FileTree) (place : List String) : FileTree :=
  (List.range place.length).foldl (fun tree depth =>
    let place := place.take (depth + 1)
    if (tree.entry? place).isSome then tree else tree.put place .directory) tree

/-- The tree with a file, and the directories it lies in. -/
def addFile (tree : FileTree) (place : List String) (content : ByteArray) : FileTree :=
  (tree.addDirectory place.dropLast).put place (.file content)

/-- The tree without the file at a path. A directory is not taken away. -/
def remove (tree : FileTree) (path : Path) : Except FileFault FileTree := do
  let place ← tree.locate path
  match tree.entry? place with
  | none => .error .notFound
  | some .directory => .error .isDirectory
  | some _ => .ok { tree with entries := tree.entries.filter (·.1 ≠ place) }

/-- The tree after a text has been written to a path. The file is made where it is
absent, its directory is not. -/
def write (tree : FileTree) (path : Path) (content : ByteArray) : Except FileFault FileTree := do
  let place ← tree.locate path
  match tree.entry? place with
  | some .directory => .error .isDirectory
  | some .device => .ok tree
  | _ => .ok (tree.put place (.file content))

end FileTree

end BundleEmbed
