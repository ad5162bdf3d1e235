import BundleEmbed.Path
import Mathlib.Data.List.Basic

/-!
Reading the text of a path.

A path has many texts, since slashes may be repeated and single full stops put between them. The
one that it is written as has as many slashes in front as its anchor has, and one slash between
two names. Reading it gives the path back, whatever text the path was read from.

* `Path.isAbsolute_ofText`: the texts of absolute paths are those that start with a slash.
* `Path.ofText_text`: a path is read back from its text.
* `Path.join_of_isAbsolute`, `Path.segments_join`: what becomes of a path in a directory.
-/

namespace BundleEmbed

/-! ### The names of a text -/

/-- A segment is read back from its text. -/
theorem Segment.ofChars?_text (segment : Segment) :
    ofChars? segment.text.toList = some segment := by
  obtain ⟨text, isName⟩ := segment
  simp [ofChars?, isName]

/-- The names between the slashes of a text. -/
def namesBetweenSlashes (chars : List Sign) : List Segment :=
  (chars.splitOn (.char '/')).filterMap Segment.ofChars?

/-- A slash in front adds no name. -/
theorem namesBetweenSlashes_cons_slash (chars : List Sign) :
    namesBetweenSlashes (.char '/' :: chars) = namesBetweenSlashes chars := by
  rw [namesBetweenSlashes, List.splitOn_cons_eq_if_modifyHead, if_pos (beq_self_eq_true _)]
  rfl

/-- Names joined with slashes are the names of the text. -/
theorem namesBetweenSlashes_intercalate (segments : List Segment) :
    namesBetweenSlashes ([.char '/'].intercalate (segments.map (·.text.toList))) = segments := by
  by_cases isEmpty : segments = []
  · subst isEmpty
    rfl
  · have noSlash : ∀ part ∈ segments.map (·.text.toList), .char '/' ∉ part := by
      intro part isPart
      obtain ⟨segment, -, rfl⟩ := List.mem_map.mp isPart
      exact segment.isName.2.2
    rw [namesBetweenSlashes,
      List.splitOn_intercalate (Sign.char '/') noSlash (by simpa using isEmpty),
      List.filterMap_map]
    simp [Segment.ofChars?_text]

/-! ### The slashes in front -/

/-- Names joined with slashes do not start with a slash. -/
theorem head?_intercalate_ne_slash (segments : List Segment) :
    ([.char '/'].intercalate (segments.map (·.text.toList))).head? ≠ some (.char '/') := by
  cases segments with
  | nil => simp
  | cons segment later =>
      obtain ⟨first, rest, isText⟩ := List.exists_cons_of_ne_nil segment.isName.1
      have noSlash : first ≠ .char '/' := fun isSlash =>
        segment.isName.2.2 (by rw [isText, isSlash]; exact List.mem_cons_self)
      cases later <;> simp [isText, noSlash]

/-- The slashes in front of names are those of the anchor before them. -/
theorem Anchor.ofSlashes_takeWhile (anchor : Anchor) {rest : List Sign}
    (noSlash : rest.head? ≠ some (.char '/')) :
    ofSlashes ((anchor.text.toList ++ rest).takeWhile (· == .char '/')).length = anchor := by
  have none : rest.takeWhile (· == .char '/') = [] := by
    cases rest with
    | nil => rfl
    | cons first rest => exact List.takeWhile_cons_of_neg (by simpa using noSlash)
  have onlySlashes : ∀ char ∈ anchor.text.toList, (char == .char '/') = true := by
    cases anchor <;> simp [Anchor.text]
  rw [List.takeWhile_append_of_pos onlySlashes, none, List.append_nil]
  cases anchor <;> rfl

/-- Only without slashes is an anchor relative. -/
theorem Anchor.ofSlashes_eq_relative_iff {slashes : Nat} :
    ofSlashes slashes = .relative ↔ slashes = 0 := by
  unfold ofSlashes
  split <;> simp_all

namespace Path

/-- A text is one of an absolute path exactly if it starts with a slash. -/
theorem isAbsolute_ofText {text : Text} :
    (ofText text).isAbsolute = true ↔ text.toList.head? = some (.char '/') := by
  have atRoot : (ofText text).isAbsolute = true ↔ text.toList.takeWhile (· == .char '/') ≠ [] := by
    rw [isAbsolute, bne_iff_ne, ne_eq, ofText, Anchor.ofSlashes_eq_relative_iff,
      List.length_eq_zero_iff]
  rw [atRoot]
  cases text.toList with
  | nil => simp
  | cons first rest => by_cases isSlash : first = .char '/' <;> simp [isSlash]

/-- A path is read back from its text. -/
theorem ofText_text (path : Path) : ofText path.text = path := by
  obtain ⟨anchor, segments⟩ := path
  by_cases isEmpty : anchor = .relative ∧ segments = []
  · obtain ⟨rfl, rfl⟩ := isEmpty
    decide
  · have chars : (Path.mk anchor segments).text.toList =
        anchor.text.toList ++ [.char '/'].intercalate (segments.map (·.text.toList)) := by
      rw [text, if_neg isEmpty, Text.toList_append, Text.toList_intercalate, List.map_map]
      rfl
    have names : namesBetweenSlashes (anchor.text.toList ++
        [.char '/'].intercalate (segments.map (·.text.toList))) = segments := by
      cases anchor with
      | relative => exact namesBetweenSlashes_intercalate segments
      | root =>
          exact (namesBetweenSlashes_cons_slash _).trans (namesBetweenSlashes_intercalate segments)
      | doubleRoot =>
          exact (namesBetweenSlashes_cons_slash _).trans <|
            (namesBetweenSlashes_cons_slash _).trans (namesBetweenSlashes_intercalate segments)
    unfold ofText
    simp only [chars]
    rw [Anchor.ofSlashes_takeWhile anchor (head?_intercalate_ne_slash segments)]
    exact congrArg (Path.mk anchor) names

/-- No path has an empty text. -/
theorem text_ne_empty (path : Path) : path.text ≠ "" := by
  intro isEmpty
  -- an empty text would be read as the empty path, which is written as a full stop
  have none : path = ofText "" := by rw [← isEmpty, ofText_text]
  rw [none] at isEmpty
  exact absurd isEmpty (by decide)

/-- An absolute path is the same in every directory. -/
theorem join_of_isAbsolute (base : Path) {path : Path} (absolute : path.isAbsolute = true) :
    base.join path = path := if_pos absolute

/-- A relative path is put under the directory. -/
theorem join_of_not_isAbsolute (base : Path) {path : Path} (relative : path.isAbsolute = false) :
    base.join path = { base with segments := base.segments ++ path.segments } := by
  rw [join, if_neg (by simp [relative])]

/-- In an absolute directory every path is absolute. -/
theorem isAbsolute_join {base : Path} (absolute : base.isAbsolute = true) (path : Path) :
    (base.join path).isAbsolute = true := by
  unfold join
  split
  · assumption
  · exact absolute

/-- The directory of an absolute path is absolute. -/
theorem isAbsolute_parent {path : Path} (absolute : path.isAbsolute = true) :
    path.parent.isAbsolute = true := absolute

end Path

end BundleEmbed
