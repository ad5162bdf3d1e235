import BundleEmbed.Text.Sign

/-!
Paths of files, without looking at any file.

A path has an anchor and the names below it. Repeated slashes, segments that are a
single full stop and slashes at the end do not belong to a path; two full stops are a
name like any other. Two leading slashes are an anchor of their own, any other number
of them is the root. Writing a path and reading it again gives the path back.
-/

namespace BundleEmbed

/-- A name between two slashes. -/
structure Segment where
  text : Text
  isName : text.toList ≠ [] ∧ text.toList ≠ [.char '.'] ∧ .char '/' ∉ text.toList
  deriving DecidableEq

/-- The segment of a text, unless it is empty, a full stop, or holds a slash. -/
def Segment.ofChars? (text : List Sign) : Option Segment :=
  if h : text ≠ [] ∧ text ≠ [.char '.'] ∧ .char '/' ∉ text then
    some ⟨Text.ofList text, by simpa using h⟩
  else none

/-- Where a path starts. -/
inductive Anchor where
  | relative
  | root
  | doubleRoot
  deriving DecidableEq, Repr

/-- The slashes that write an anchor. -/
def Anchor.text : Anchor → Text
  | .relative => ""
  | .root => "/"
  | .doubleRoot => "//"

/-- The anchor of a text with a number of leading slashes. -/
def Anchor.ofSlashes : Nat → Anchor
  | 0 => .relative
  | 2 => .doubleRoot
  | _ => .root

/-- A path: its anchor and its segments. -/
structure Path where
  anchor : Anchor
  segments : List Segment
  deriving DecidableEq

namespace Path

/-- The path that a text writes. -/
def ofText (text : Text) : Path :=
  let chars := text.toList
  { anchor := Anchor.ofSlashes (chars.takeWhile (· == Sign.char '/')).length
    segments := (chars.splitOn (.char '/')).filterMap Segment.ofChars? }

/-- The text of a path; the empty relative path is a full stop. -/
def text (path : Path) : Text :=
  if path.anchor = .relative ∧ path.segments = [] then "."
  else path.anchor.text ++ Text.intercalate "/" (path.segments.map (·.text))

/-- The path starts at the root. -/
def isAbsolute (path : Path) : Bool := path.anchor != .relative

/-- A path seen from another one: an absolute path stays as it is. -/
def join (base path : Path) : Path :=
  if path.isAbsolute then path else { base with segments := base.segments ++ path.segments }

/-- The last name of a path; an anchor alone has an empty one. -/
def name (path : Path) : Text := (path.segments.getLast?.map (·.text)).getD ""

/-- The path without its last name. -/
def parent (path : Path) : Path := { path with segments := path.segments.dropLast }

end Path

end BundleEmbed
