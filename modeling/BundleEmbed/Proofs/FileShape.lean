import BundleEmbed.Embedding

/-!
What a run reads of the files of a build.

A run asks which files there are, and never what is in them. Trees that differ in the
contents of files only are therefore the same to it, and writing to a file that is there
leads from a tree to such another one.

* `FileTree.SameShape`: the same things stand in the same places.
* `FileTree.SameShape.embedAll_eq`: a run cannot tell the two apart.
* `FileTree.sameShape_of_write`: writing to a file leaves the shape of the tree.
-/

namespace BundleEmbed

open Regex (Release)

/-- What stands under a name, without its content. -/
def FileEntry.shape : FileEntry → FileEntry
  | .file _ => .file ByteArray.empty
  | .directory => .directory
  | .device => .device

/-- Only a directory has the shape of one. -/
theorem FileEntry.shape_eq_directory_iff {entry : FileEntry} :
    entry.shape = .directory ↔ entry = .directory := by
  cases entry <;> simp [FileEntry.shape]

namespace FileTree

/-- The same things stand in the same places of two trees, files with any contents. -/
structure SameShape (tree tree' : FileTree) : Prop where
  current : tree.current = tree'.current
  entries : ∀ place,
    (tree.entry? place).map FileEntry.shape = (tree'.entry? place).map FileEntry.shape

namespace SameShape

variable {tree tree' : FileTree}

/-! ### Looking up -/

/-- The same directories are there. -/
theorem isDirectory_iff (same : tree.SameShape tree') (place : List String) :
    tree.entry? place = some .directory ↔ tree'.entry? place = some .directory := by
  have directories : ∀ found : Option FileEntry,
      found = some .directory ↔ found.map FileEntry.shape = some .directory := fun found => by
    simp [FileEntry.shape_eq_directory_iff]
  rw [directories, directories (tree'.entry? place), same.entries]

/-- Something stands in the same places. -/
theorem isSome_eq (same : tree.SameShape tree') (place : List String) :
    (tree.entry? place).isSome = (tree'.entry? place).isSome := by
  have shapes := congrArg Option.isSome (same.entries place)
  rwa [Option.isSome_map, Option.isSome_map] at shapes

/-- A name leads on in the same way. -/
theorem step_eq (same : tree.SameShape tree') : tree.step = tree'.step := by
  funext place name
  simp only [step, ne_eq, same.isDirectory_iff place, same.isSome_eq place]

/-- What stands at a place has the same shape, or nothing stands there. -/
theorem standing_shape (same : tree.SameShape tree') (place : List String) :
    (match tree.entry? place with
      | some entry => Except.ok entry
      | none => .error FileFault.notFound).map FileEntry.shape =
    (match tree'.entry? place with
      | some entry => Except.ok entry
      | none => .error FileFault.notFound).map FileEntry.shape := by
  have shapes := same.entries place
  cases found : tree.entry? place with
  | none =>
      rw [found, Option.map_none, eq_comm, Option.map_eq_none_iff] at shapes
      rw [shapes]
  | some entry =>
      rw [found, Option.map_some, eq_comm, Option.map_eq_some_iff] at shapes
      obtain ⟨entry', found', shape⟩ := shapes
      rw [found']
      exact congrArg Except.ok shape.symm

/-- Names lead on to the same place. -/
theorem walk_eq (same : tree.SameShape tree') (anchor : Anchor) (names : List Text) :
    tree.walk (tree.startOf anchor) names = tree'.walk (tree'.startOf anchor) names := by
  have start : tree.startOf anchor = tree'.startOf anchor := by
    unfold startOf
    rw [same.current]
  rw [walk, walk, same.step_eq, start]

/-- What stands at a path has the same shape. -/
theorem find_shape (same : tree.SameShape tree') (path : Path) :
    (tree.find path).map FileEntry.shape = (tree'.find path).map FileEntry.shape := by
  rw [find, find, locate, locate, same.walk_eq]
  split
  · rfl
  · cases tree'.walk (tree'.startOf path.anchor) (path.segments.map (·.text)) with
    | error fault => rfl
    | ok place => exact same.standing_shape place

/-- Something stands at the same paths. -/
theorem holds_eq (same : tree.SameShape tree') (path : Path) :
    tree.holds path = tree'.holds path := by
  have shapes := same.find_shape path
  unfold holds
  split
  · rfl
  · cases found : tree.find path with
    | error fault =>
        cases found' : tree'.find path with
        | error fault' =>
            rw [found, found'] at shapes
            cases shapes
            rfl
        | ok entry' =>
            rw [found, found'] at shapes
            cases shapes
    | ok entry =>
        cases found' : tree'.find path with
        | error fault' =>
            rw [found, found'] at shapes
            cases shapes
        | ok entry' => rfl

/-- What stands at a text that is taken as it stands has the same shape. -/
theorem findText_shape (same : tree.SameShape tree') (text : Text) :
    (tree.findText text).map FileEntry.shape = (tree'.findText text).map FileEntry.shape := by
  unfold findText
  split
  · rfl
  · split
    · rfl
    · simp only [same.walk_eq]
      cases tree'.walk (tree'.startOf (Path.ofText text).anchor) (namesOf text.toList) with
      | error fault => rfl
      | ok place => exact same.standing_shape place

/-- A text leads to a fault in both, or to things of the same shape. -/
theorem findText_cases (same : tree.SameShape tree') (text : Text) :
    (∃ fault, tree.findText text = .error fault ∧ tree'.findText text = .error fault) ∨
      ∃ entry entry', tree.findText text = .ok entry ∧ tree'.findText text = .ok entry' ∧
        entry.shape = entry'.shape := by
  have shapes := same.findText_shape text
  cases found : tree.findText text with
  | error fault =>
      cases found' : tree'.findText text with
      | error fault' =>
          rw [found, found'] at shapes
          cases shapes
          exact .inl ⟨fault, rfl, rfl⟩
      | ok entry' =>
          rw [found, found'] at shapes
          cases shapes
  | ok entry =>
      cases found' : tree'.findText text with
      | error fault' =>
          rw [found, found'] at shapes
          cases shapes
      | ok entry' =>
          rw [found, found'] at shapes
          exact .inr ⟨entry, entry', rfl, rfl, Except.ok.inj shapes⟩

/-! ### Running -/

/-- The file of a dependency is on disk in both. -/
theorem sourceOf_eq (same : tree.SameShape tree') : sourceOf tree = sourceOf tree' := by
  funext d
  simp only [sourceOf, same.holds_eq]

/-- A run cannot tell the two apart. -/
theorem embedAll_eq [Release] (same : tree.SameShape tree') (dependencies : List Dependency)
    (settings : Settings) (existing : Headers) :
    embedAll dependencies tree settings existing =
      embedAll dependencies tree' settings existing := by
  have emit : ∀ inlined embedded,
      existing.emit tree settings inlined embedded =
        existing.emit tree' settings inlined embedded := fun inlined embedded => by
    unfold Headers.emit Headers.inline Headers.embed
    rw [same.sourceOf_eq]
  simp only [embedAll, emit]

end SameShape

/-! ### Writing -/

/-- Where something is put in place of what stands there, only that place is another. -/
theorem lookup_replace (entries : List (List String × FileEntry)) (place other : List String)
    (entry : FileEntry) :
    (entries.map fun known => if known.1 = place then (place, entry) else known).lookup other =
      if other = place then (entries.lookup place).map fun _ => entry
      else entries.lookup other := by
  induction entries with
  | nil => simp
  | cons known later ih =>
      obtain ⟨name, old⟩ := known
      rw [List.map_cons]
      by_cases here : name = place
      · subst name
        by_cases same : other = place
        · simp [same]
        · simp [List.lookup_cons, beq_false_of_ne same, ih, same]
      · by_cases same : other = place
        · subst other
          simp [List.lookup_cons, here, beq_false_of_ne (Ne.symm here), ih]
        · simp [List.lookup_cons, here, ih, same]

/-- A file, or a device, stands where a path leads to that has a content. -/
theorem exists_locate_of_content {tree : FileTree} {path : Path} {content : ByteArray}
    (found : tree.content path = .ok content) :
    ∃ place, tree.locate path = .ok place ∧
      (tree.entry? place = some (.file content) ∨ tree.entry? place = some .device) := by
  unfold FileTree.content find at found
  cases located : tree.locate path with
  | error fault =>
      rw [located] at found
      cases found
  | ok place =>
      rw [located] at found
      refine ⟨place, rfl, ?_⟩
      cases standing : tree.entry? place with
      | none =>
          simp only [bind, Except.bind, standing] at found
          cases found
      | some entry =>
          simp only [bind, Except.bind, standing] at found
          cases entry with
          | file known =>
              cases found
              exact .inl rfl
          | directory => cases found
          | device => exact .inr rfl

/-- A file in place of a file leaves the shape of the tree. -/
theorem sameShape_put {tree : FileTree} {place : List String} {old : ByteArray}
    (stands : tree.entry? place = some (.file old)) (new : ByteArray) :
    tree.SameShape (tree.put place (.file new)) := by
  unfold entry? at stands
  split at stands
  case isTrue => cases stands
  case isFalse notAbove =>
    have known : tree.entries.any (·.1 == place) = true := by
      obtain ⟨entry, isEntry, same⟩ := List.lookup_isSome_iff.mp (Option.isSome_of_eq_some stands)
      exact List.any_eq_true.mpr ⟨entry, isEntry, BEq.symm same⟩
    rw [put, if_pos known]
    refine ⟨rfl, fun other => ?_⟩
    unfold entry?
    split
    · rfl
    · rw [lookup_replace]
      split
      case isTrue same =>
        subst other
        rw [stands]
        rfl
      case isFalse => rfl

/-- Writing to a file that is there leaves the shape of the tree. -/
theorem sameShape_of_write {tree tree' : FileTree} {path : Path} {old new : ByteArray}
    (found : tree.content path = .ok old) (written : tree.write path new = .ok tree') :
    tree.SameShape tree' := by
  obtain ⟨place, located, stands⟩ := exists_locate_of_content found
  simp only [write, located, bind, Except.bind] at written
  rcases stands with stands | stands
  · rw [stands] at written
    cases written
    exact sameShape_put stands new
  · rw [stands] at written
    cases written
    exact ⟨rfl, fun _ => rfl⟩

end FileTree

end BundleEmbed
