import BundleEmbed.Proofs.NullFields
import BundleEmbed.Proofs.PathText
import Mathlib.Data.List.Forall2

/-!
The files of dependencies, as a document states them.

A document states the file of a dependency as a text. One that starts with a slash is the path
that it writes, and any other is put under the directory of the document, so that it means
another file where the document lies elsewhere. The path that has been loaded for it does not:
where it is written in place of the text, the dependency is the same from everywhere.

* `StatesFile`: the file of a dependency, as its object states it.
* `JsonValue.withFiles`: a document with paths in place of the files that it states.
* `DependencyEntry.toDependency_withFile`: the path of a file is the same file from everywhere.
* `Descriptor.check_withFiles`: the edited document is a descriptor that differs in the texts.
* `Descriptor.load_withFiles`: what is loaded from it.
-/

namespace BundleEmbed

/-! ### Stated files -/

/-- The file of a dependency is the one that its object states, in a directory: none without a
text, the path itself for a text of an absolute one, and any other path under the directory. -/
structure StatesFile (object : Members) (base : Path) (file : Option Path) : Prop where
  eq_none_iff : file = none ↔
    object.lookup (Text.ofString "file") = none ∨
      object.lookup (Text.ofString "file") = some .null ∨
      object.lookup (Text.ofString "file") = some (.string "")
  of_absolute : ∀ text, object.lookup (Text.ofString "file") = some (.string text) →
    text.toList.head? = some (.char '/') → file = some (Path.ofText text)
  of_relative : ∀ text, object.lookup (Text.ofString "file") = some (.string text) → text ≠ "" →
    text.toList.head? ≠ some (.char '/') →
      file = some ⟨base.anchor, base.segments ++ (Path.ofText text).segments⟩

/-- The objects of the dependencies of a document. -/
def JsonValue.dependencyObjects (value : JsonValue) : List Members :=
  match value.members.lookup (Text.ofString "dependencies") with
  | some (.array items) => items.map JsonValue.members
  | _ => []

/-! ### Edits -/

/-- An object with a path as its file; where none is given it stays as it is. -/
def JsonValue.withFile : Option Path → JsonValue → JsonValue
  | some path, .object members => .object (Mapping.set members "file" (.string path.text))
  | _, value => value

/-- A list of objects, each with the path given for its place as its file. -/
def JsonValue.withItemFiles (given : Nat → Option Path) : JsonValue → JsonValue
  | .array items => .array (items.mapIdx fun number item => item.withFile (given number))
  | value => value

/-- The value of a field of a document with the paths given for its dependencies in it. -/
def withFieldFiles (given : Nat → Option Path) (key : Text) (value : JsonValue) : JsonValue :=
  if key = "dependencies" then value.withItemFiles given else value

/-- A document with the paths given for its dependencies as their files. -/
def JsonValue.withFiles (given : Nat → Option Path) : JsonValue → JsonValue
  | .object members =>
      .object (members.map fun (key, value) => (key, withFieldFiles given key value))
  | value => value

/-- The files of the chosen ones among dependencies, by their places. -/
def chosenFiles (chosen : Nat → Bool) (dependencies : List Dependency) (number : Nat) :
    Option Path :=
  if chosen number then dependencies[number]?.bind (·.file) else none

/-- A dependency with a path as its file; where none is given it stays as it is. -/
def DependencyEntry.withFile (entry : DependencyEntry) : Option Path → DependencyEntry
  | some path => { entry with file := some path.text }
  | none => entry

/-! ### The path of a dependency -/

/-- An optional field that is valid has its own value, or that of a member. -/
theorem optionalField_cases {α : Type} {members : Members} {name : Text} {standard result : α}
    {check : JsonValue → Checked α}
    (valid : optionalField members name standard check = .valid result) :
    members.lookup name = none ∧ result = standard ∨
      ∃ value, members.lookup name = some value ∧ check value = .valid result := by
  unfold optionalField at valid
  split at valid
  · rename_i value stands
    exact .inr ⟨value, stands, Checked.under_eq_valid_iff.mp valid⟩
  · rename_i absent
    exact .inl ⟨absent, (Checked.valid.inj valid).symm⟩

/-- A text field that is valid is absent or null, or it is the text that stands there. -/
theorem textField_cases {members : Members} {name : Text} {result : Option Text}
    (valid : textField members name = .valid result) :
    result = none ∧ (members.lookup name = none ∨ members.lookup name = some .null) ∨
      ∃ text, result = some text ∧ members.lookup name = some (.string text) := by
  rcases optionalField_cases valid with ⟨absent, isStandard⟩ | ⟨value, stands, isText⟩
  · exact .inl ⟨isStandard, .inl absent⟩
  · cases value with
    | null => exact .inl ⟨(Checked.valid.inj isText).symm, .inr stands⟩
    | string text => exact .inr ⟨text, (Checked.valid.inj isText).symm, stands⟩
    | _ => cases isText

namespace DependencyEntry

/-- A dependency without a text has no file. -/
theorem path?_eq_none_iff {entry : DependencyEntry} {base : Option Path} :
    entry.path? base = none ↔ entry.file = none ∨ entry.file = some (Text.ofString "") := by
  unfold path? Dependency.nonempty
  cases entry.file <;> simp

/-- A text is read and seen from the directory. -/
theorem path?_of_file_eq {entry : DependencyEntry} {text : Text} (base : Path)
    (isText : entry.file = some text) (notEmpty : text ≠ "") :
    entry.path? (some base) = some (base.join (Path.ofText text)) := by
  simp [path?, Dependency.nonempty, isText, notEmpty]

/-- With the path that it has in an absolute directory as its file, a dependency is the same
from every directory. -/
theorem toDependency_withFile (entry : DependencyEntry) {base : Path}
    (absolute : base.isAbsolute = true) (elsewhere : Path) :
    (entry.withFile (entry.path? (some base))).toDependency (some elsewhere) =
      entry.toDependency (some base) := by
  have samePath : (entry.withFile (entry.path? (some base))).path? (some elsewhere) =
      entry.path? (some base) := by
    cases seen : entry.path? (some base) with
    | none => exact path?_eq_none_iff.mpr (path?_eq_none_iff.mp seen)
    | some path =>
        have isAbsolute : path.isAbsolute = true := by
          obtain ⟨text, -, rfl⟩ := Option.map_eq_some_iff.mp seen
          exact Path.isAbsolute_join absolute _
        rw [withFile, path?_of_file_eq elsewhere rfl path.text_ne_empty, Path.ofText_text,
          Path.join_of_isAbsolute elsewhere isAbsolute]
  unfold toDependency
  rw [samePath]
  cases entry.path? (some base) <;> rfl

/-! ### What an object states -/

/-- A dependency is valid exactly if each of its fields is. -/
theorem ofMembers_eq_valid_iff {members : Members} {entry : DependencyEntry} :
    ofMembers members = .valid entry ↔
      requiredField members "group_id" checkTrimmed = .valid entry.groupId ∧
      requiredField members "artifact_id" checkTrimmed = .valid entry.artifactId ∧
      requiredField members "version" checkTrimmed = .valid entry.version ∧
      textField members "selected_version" = .valid entry.selectedVersion ∧
      textField members "scope" = .valid entry.scope ∧
      textField members "type" = .valid entry.type ∧
      textField members "classifier" = .valid entry.classifier ∧
      optionalField members "optional" none (checkNullable checkFlag) = .valid entry.isOptional ∧
      textField members "file" = .valid entry.file ∧
      textField members "extension" = .valid entry.extension ∧
      optionalField members "direct" true checkFlag = .valid entry.direct := by
  simp only [ofMembers, Checked.seq_eq_valid_iff, Checked.map_eq_valid_iff]
  constructor
  · rintro ⟨_, direct, ⟨_, extension, ⟨_, file, ⟨_, optional, ⟨_, classifier, ⟨_, type, ⟨_, scope,
      ⟨_, selected, ⟨_, version, ⟨_, artifact, ⟨group, isGroup, rfl⟩, isArtifact, rfl⟩, isVersion,
      rfl⟩, isSelected, rfl⟩, isScope, rfl⟩, isType, rfl⟩, isClassifier, rfl⟩, isOptional, rfl⟩,
      isFile, rfl⟩, isExtension, rfl⟩, isDirect, rfl⟩
    exact ⟨isGroup, isArtifact, isVersion, isSelected, isScope, isType, isClassifier, isOptional,
      isFile, isExtension, isDirect⟩
  · rintro ⟨isGroup, isArtifact, isVersion, isSelected, isScope, isType, isClassifier, isOptional,
      isFile, isExtension, isDirect⟩
    exact ⟨_, _, ⟨_, _, ⟨_, _, ⟨_, _, ⟨_, _, ⟨_, _, ⟨_, _, ⟨_, _, ⟨_, _, ⟨_, _, ⟨_, isGroup, rfl⟩,
      isArtifact, rfl⟩, isVersion, rfl⟩, isSelected, rfl⟩, isScope, rfl⟩, isType, rfl⟩,
      isClassifier, rfl⟩, isOptional, rfl⟩, isFile, rfl⟩, isExtension, rfl⟩, isDirect, rfl⟩

/-- The object of a dependency states its file. -/
theorem statesFile_path? {members : Members} {entry : DependencyEntry}
    (isFile : textField members "file" = .valid entry.file) (base : Path) :
    StatesFile members base (entry.path? (some base)) := by
  rcases textField_cases isFile with ⟨absent, given⟩ | ⟨text, isText, given⟩
  · have none : entry.path? (some base) = none := path?_eq_none_iff.mpr (.inl absent)
    rw [none]
    rcases given with given | given <;> constructor <;> simp [given]
  · constructor
    · simp [path?_eq_none_iff, isText, given]
    · intro other isOther absolute
      obtain rfl : text = other := by simpa [given] using isOther
      have notEmpty : text ≠ "" := by
        rintro rfl
        cases absolute
      rw [path?_of_file_eq base isText notEmpty,
        Path.join_of_isAbsolute base (Path.isAbsolute_ofText.mpr absolute)]
    · intro other isOther notEmpty relative
      obtain rfl : text = other := by simpa [given] using isOther
      have isRelative : (Path.ofText text).isAbsolute = false :=
        Bool.eq_false_iff.mpr fun absolute => relative (Path.isAbsolute_ofText.mp absolute)
      rw [path?_of_file_eq base isText notEmpty, Path.join_of_not_isAbsolute base isRelative]

end DependencyEntry

/-! ### Checking an edited document -/

/-- With a path as its file, an object is the dependency with this file. -/
theorem DependencyEntry.check_withFile {value : JsonValue} {entry : DependencyEntry}
    (valid : check value = .valid entry) (given : Option Path) :
    check (value.withFile given) = .valid (entry.withFile given) := by
  cases given with
  | none => exact valid
  | some path =>
      obtain ⟨members, rfl, isValid⟩ := checkModel_eq_valid_iff.mp valid
      obtain ⟨group, artifact, version, selected, scope, type, classifier, optional, -, extension,
        direct⟩ := ofMembers_eq_valid_iff.mp isValid
      let set := Mapping.set members "file" (.string path.text)
      have required {name : Text} {text : Text} (differ : name ≠ "file")
          (isValid : requiredField members name checkTrimmed = .valid text) :
          requiredField set name checkTrimmed = .valid text :=
        (requiredField_set_of_ne members _ differ).trans isValid
      have kept {α : Type} {name : Text} {standard a : α} {check : JsonValue → Checked α}
          (differ : name ≠ "file")
          (isValid : optionalField members name standard check = .valid a) :
          optionalField set name standard check = .valid a :=
        (optionalField_set_of_ne members _ differ).trans isValid
      have file : textField set "file" = .valid (some path.text) :=
        optionalField_set_self members "file" rfl
      exact checkModel_eq_valid_iff.mpr ⟨set, rfl, ofMembers_eq_valid_iff.mpr
        ⟨required (by decide) group, required (by decide) artifact, required (by decide) version,
          kept (by decide) selected, kept (by decide) scope, kept (by decide) type,
          kept (by decide) classifier, kept (by decide) optional, file,
          kept (by decide) extension, kept (by decide) direct⟩⟩

/-- Parts are valid exactly if each of them is. -/
theorem Checked.all_eq_valid_iff {α β : Type} {check : α → Checked β} {parts : List α}
    {results : List β} :
    Checked.all check parts = .valid results ↔
      List.Forall₂ (fun part result => check part = .valid result) parts results := by
  induction parts generalizing results with
  | nil => rw [List.forall₂_nil_left_iff, Checked.all, Checked.valid.injEq, eq_comm]
  | cons part later ih =>
      have split : Checked.all check (part :: later) =
          (List.cons <$> check part) <*> Checked.all check later := rfl
      rw [split, Checked.seq_eq_valid_iff, List.forall₂_cons_left_iff]
      simp only [Checked.map_eq_valid_iff, ih]
      constructor
      · rintro ⟨_, results, ⟨result, isValid, rfl⟩, areValid, rfl⟩
        exact ⟨result, results, isValid, areValid, rfl⟩
      · rintro ⟨result, results, isValid, areValid, rfl⟩
        exact ⟨_, results, ⟨result, isValid, rfl⟩, areValid, rfl⟩

/-- A list is valid exactly if its items are, one by one. -/
theorem checkList_eq_valid_iff {α : Type} {check : JsonValue → Checked α} {value : JsonValue}
    {results : List α} :
    checkList check value = .valid results ↔
      ∃ items, value = .array items ∧
        List.Forall₂ (fun item result => check item = .valid result) items results := by
  cases value with
  | array items =>
      -- the numbers of the items are in the places of violations only
      have unnumbered : List.Forall₂ (fun part : JsonValue × Nat => fun result =>
          check part.1 = .valid result) items.zipIdx results ↔
            List.Forall₂ (fun item result => check item = .valid result) items results := by
        conv_rhs => rw [← List.zipIdx_map_fst 0 items, List.forall₂_map_left_iff]
      simp only [checkList, Checked.all_eq_valid_iff, Checked.under_eq_valid_iff, unnumbered,
        JsonValue.array.injEq, exists_eq_left']
  | _ => simp [checkList, Checked.expected]

/-- Lists that are related item by item are so after related changes at every place. -/
theorem forall₂_mapIdx {α β γ δ : Type} {related : α → β → Prop} {related' : γ → δ → Prop}
    {f : Nat → α → γ} {g : Nat → β → δ}
    (step : ∀ number a b, related a b → related' (f number a) (g number b)) {as : List α}
    {bs : List β} (areRelated : List.Forall₂ related as bs) :
    List.Forall₂ related' (as.mapIdx f) (bs.mapIdx g) := by
  induction areRelated generalizing f g with
  | nil => exact .nil
  | cons isRelated _ ih =>
      rw [List.mapIdx_cons, List.mapIdx_cons]
      exact .cons (step 0 _ _ isRelated) (ih fun number => step (number + 1))

/-- With paths as their files, objects are the dependencies with these files. -/
theorem checkList_withItemFiles {value : JsonValue} {entries : List DependencyEntry}
    (valid : checkList DependencyEntry.check value = .valid entries) (given : Nat → Option Path) :
    checkList DependencyEntry.check (value.withItemFiles given) =
      .valid (entries.mapIdx fun number entry => entry.withFile (given number)) := by
  obtain ⟨items, rfl, areValid⟩ := checkList_eq_valid_iff.mp valid
  refine checkList_eq_valid_iff.mpr ⟨_, rfl, forall₂_mapIdx ?_ areValid⟩
  intro number item entry isValid
  exact DependencyEntry.check_withFile isValid (given number)

/-- With paths as the files of its dependencies, a document is the descriptor with these files;
nothing else in it changes. -/
theorem Descriptor.check_withFiles {value : JsonValue} {descriptor : Descriptor}
    (valid : check value = .valid descriptor) (given : Nat → Option Path) :
    check (value.withFiles given) = .valid { descriptor with
      dependencies :=
        descriptor.dependencies.mapIdx fun number entry => entry.withFile (given number) } := by
  obtain ⟨members, rfl, isValid⟩ := checkModel_eq_valid_iff.mp valid
  obtain ⟨dependencies, instructions, headers⟩ := ofMembers_eq_valid_iff.mp isValid
  let edited : Members := members.map fun (key, value) => (key, withFieldFiles given key value)
  have stands (key : Text) :
      edited.lookup key = (members.lookup key).map (withFieldFiles given key) :=
    Mapping.lookup_map members (withFieldFiles given) key
  have kept {α : Type} {standard : α} {check : JsonValue → Checked α} {key : Text}
      (differ : key ≠ "dependencies") :
      optionalField edited key standard check = optionalField members key standard check := by
    have same : withFieldFiles given key = id := funext fun _ => if_neg differ
    rw [optionalField, stands, same, Option.map_id, id, optionalField]
  have dependencies' : optionalField edited "dependencies" [] (checkList DependencyEntry.check) =
      .valid (descriptor.dependencies.mapIdx fun number entry =>
        entry.withFile (given number)) := by
    unfold optionalField at dependencies ⊢
    rw [stands]
    cases stated : members.lookup (Text.ofString "dependencies") with
    | none =>
        rw [stated] at dependencies
        rw [← Checked.valid.inj dependencies]
        rfl
    | some value =>
        rw [stated] at dependencies
        exact Checked.under_eq_valid_iff.mpr
          (checkList_withItemFiles (Checked.under_eq_valid_iff.mp dependencies) given)
  exact checkModel_eq_valid_iff.mpr ⟨edited, rfl, ofMembers_eq_valid_iff.mpr
    ⟨dependencies', (kept (by decide)).trans instructions, (kept (by decide)).trans headers⟩⟩

/-- The objects of the dependencies of a descriptor state the files that they have in a
directory. -/
theorem Descriptor.statesFile_dependenciesIn {value : JsonValue} {descriptor : Descriptor}
    (valid : check value = .valid descriptor) (base : Path) :
    List.Forall₂ (fun object dependency => StatesFile object base dependency.file)
      value.dependencyObjects (descriptor.dependenciesIn base) := by
  obtain ⟨members, rfl, isValid⟩ := checkModel_eq_valid_iff.mp valid
  obtain ⟨dependencies, -, -⟩ := ofMembers_eq_valid_iff.mp isValid
  unfold JsonValue.dependencyObjects JsonValue.members dependenciesIn
  unfold optionalField at dependencies
  cases stated : members.lookup (Text.ofString "dependencies") with
  | none =>
      rw [stated] at dependencies
      rw [← Checked.valid.inj dependencies]
      exact .nil
  | some list =>
      rw [stated] at dependencies
      obtain ⟨items, rfl, areValid⟩ :=
        checkList_eq_valid_iff.mp (Checked.under_eq_valid_iff.mp dependencies)
      rw [List.forall₂_map_left_iff, List.forall₂_map_right_iff]
      refine areValid.imp fun item entry isEntry => ?_
      obtain ⟨object, rfl, isObject⟩ := checkModel_eq_valid_iff.mp isEntry
      obtain ⟨-, -, -, -, -, -, -, -, isFile, -, -⟩ :=
        DependencyEntry.ofMembers_eq_valid_iff.mp isObject
      exact DependencyEntry.statesFile_path? isFile base

/-! ### Loading an edited document -/

/-- A dependency whose own path has been given as its file is the same from every directory, and
any is from its own. -/
theorem getElem?_dependenciesIn_withFile (entries : List DependencyEntry) {base : Path}
    (absolute : base.isAbsolute = true) (elsewhere : Path) (chosen : Nat → Bool) (number : Nat)
    (same : chosen number = true ∨ elsewhere = base) :
    let given := chosenFiles chosen (entries.map (·.toDependency (some base)))
    ((entries.mapIdx fun number entry => entry.withFile (given number)).map
        (·.toDependency (some elsewhere)))[number]? =
      (entries.map (·.toDependency (some base)))[number]? := by
  intro given
  rw [List.getElem?_map, List.getElem?_mapIdx, List.getElem?_map]
  cases stands : entries[number]? with
  | none => rfl
  | some entry =>
      refine congrArg some ?_
      have isGiven : given number =
          if chosen number then entry.path? (some base) else none := by
        simp [given, chosenFiles, stands, DependencyEntry.toDependency]
      rw [isGiven]
      split
      · exact entry.toDependency_withFile absolute elsewhere
      · rename_i unchosen
        obtain rfl := same.resolve_left unchosen
        rfl

/-- What a document at an absolute path states of files, and what is loaded after the paths of
some dependencies have been written in place of their texts: from wherever it is loaded, these
dependencies are the same, and so are the others where the directory is. -/
theorem Descriptor.load_withFiles {files : FileTree} {path : Path} {value : JsonValue}
    {descriptor : Descriptor} {dependencies : List Dependency}
    (holds : files.HoldsDocument path value)
    (loaded : load files path = .ok (descriptor, dependencies))
    (absolute : path.isAbsolute = true) :
    List.Forall₂ (fun object dependency => StatesFile object path.parent dependency.file)
        value.dependencyObjects dependencies ∧
      ∀ chosen : Nat → Bool, ∃ descriptor',
        check (value.withFiles (chosenFiles chosen dependencies)) = .valid descriptor' ∧
        descriptor'.instructions = descriptor.instructions ∧
        descriptor'.headers = descriptor.headers ∧
        ∀ files' path',
          files'.HoldsDocument path' (value.withFiles (chosenFiles chosen dependencies)) →
          ∃ dependencies', load files' path' = .ok (descriptor', dependencies') ∧
            dependencies'.length = dependencies.length ∧
            (∀ number, chosen number = true ∨ path'.parent = path.parent →
              dependencies'[number]? = dependencies[number]?) ∧
            ((∀ number, chosen number = true) ∨ path'.parent = path.parent →
              dependencies' = dependencies) := by
  obtain ⟨valid, rfl⟩ := (load_eq_ok_iff holds).mp loaded
  refine ⟨statesFile_dependenciesIn valid path.parent, ?_⟩
  intro chosen
  have valid' := check_withFiles valid
    (chosenFiles chosen (descriptor.dependenciesIn path.parent))
  refine ⟨_, valid', rfl, rfl, ?_⟩
  intro files' path' holds'
  have same := getElem?_dependenciesIn_withFile descriptor.dependencies
    (Path.isAbsolute_parent absolute) path'.parent chosen
  refine ⟨_, load_of_holdsDocument holds' valid', ?_, same, ?_⟩
  · simp [dependenciesIn]
  · intro all
    refine List.ext_getElem? fun number => same number ?_
    exact all.imp_left fun isChosen => isChosen number

/-! ### A document in two places -/

namespace StatedFiles

/-- The tree with a text in a file. -/
def files (place : List String) (text : String) : FileTree :=
  ⟨[(place, .file text.toUTF8), (place.dropLast, .directory)], ["run"]⟩

/-- The text of a dependency, before more fields. -/
def dependency : String :=
  "\x7b\"group_id\": \"g\", \"artifact_id\": \"a\", \"version\": \"1\""

/-- The text of a document with dependencies. -/
def text (first second third : String) : String :=
  "\x7b\"dependencies\": [" ++ dependency ++ first ++ "\x7d, " ++ dependency ++ second ++
    "\x7d, " ++ dependency ++ third ++ "\x7d, " ++ dependency ++ ", \"file\": \"\"\x7d]\x7d"

/-- Files with more slashes than they need, the directory itself, and an absolute one. -/
def stated : FileTree :=
  files ["run", "build.json"]
    (text ", \"file\": \"lib//./a.jar/\"" ", \"file\": \".\"" ", \"file\": \"/abs/../b.jar\"")

/-- The paths of the files in another directory. -/
def moved : FileTree :=
  files ["other", "new.json"]
    (text ", \"file\": \"//run/lib/a.jar\"" ", \"file\": \"//run\""
      ", \"file\": \"/abs/../b.jar\"")

/-- The value of a dependency with a file. -/
def object (file : String) : JsonValue :=
  .object [("group_id", .string "g"), ("artifact_id", .string "a"), ("version", .string "1"),
    ("file", .string file)]

/-- The value of the document. -/
def document : JsonValue :=
  .object [("dependencies",
    .array [object "lib//./a.jar/", object ".", object "/abs/../b.jar", object ""])]

/-- What the document says of a dependency. -/
def entry (file : String) : DependencyEntry :=
  ⟨"g", "a", "1", none, none, none, none, none, some file, none, true⟩

/-- What the document says. -/
def descriptor : Descriptor where
  dependencies := [entry "lib//./a.jar/", entry ".", entry "/abs/../b.jar", entry ""]
  instructions := .standard
  headers := []

/-- Where the document lies, below two slashes. -/
def path : Path := Path.ofText "//run/build.json"

/-- Where the edited document lies. -/
def elsewhere : Path := Path.ofText "/other/new.json"

/-- The dependencies that are loaded. -/
def resolved : List Dependency := descriptor.dependenciesIn path.parent

/-- The edited document. -/
def edited : JsonValue := document.withFiles (chosenFiles (fun _ => true) resolved)

end StatedFiles

open StatedFiles in
theorem Descriptor.load_withFiles_moved :
    stated.HoldsDocument path document ∧
      load stated path = .ok (descriptor, resolved) ∧
      path.isAbsolute = true ∧
      resolved.map (·.file.map Path.text) =
        ([some "//run/lib/a.jar", some "//run", some "/abs/../b.jar", none] :
          List (Option Text)) ∧
      moved.HoldsDocument elsewhere edited ∧
      ∃ descriptor', load moved elsewhere = .ok (descriptor', resolved) := by
  have holds : stated.HoldsDocument path document := by decide +kernel
  have valid : check document = .valid descriptor := by decide +kernel
  have loaded : load stated path = .ok (descriptor, resolved) :=
    load_of_holdsDocument holds valid
  have absolute : path.isAbsolute = true := by decide +kernel
  have texts : resolved.map (·.file.map Path.text) =
      ([some "//run/lib/a.jar", some "//run", some "/abs/../b.jar", none] :
        List (Option Text)) := by decide +kernel
  have holdsEdited : moved.HoldsDocument elsewhere edited := by decide +kernel
  obtain ⟨-, edits⟩ := load_withFiles holds loaded absolute
  obtain ⟨descriptor', -, -, -, loads⟩ := edits fun _ => true
  obtain ⟨dependencies', loaded', -, -, same⟩ := loads moved elsewhere holdsEdited
  obtain rfl := same (.inl fun _ => rfl)
  exact ⟨holds, loaded, absolute, texts, holdsEdited, descriptor', loaded'⟩

end BundleEmbed
