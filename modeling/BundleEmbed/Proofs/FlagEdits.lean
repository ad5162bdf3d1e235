import BundleEmbed.Proofs.FileShape
import BundleEmbed.Proofs.Invocation
import BundleEmbed.Proofs.Json.Equality
import BundleEmbed.Proofs.LoadFailure

/-!
Options in place of what a descriptor says.

Giving an option is the same as writing its value into the instructions of the descriptor.
The two are compared as whole runs: one with the options on a descriptor, and one without
them on the descriptor in whose file the instructions have been edited.

* `ResolveOption.edit`, `JsonValue.edited`: the edited instructions and the edited document.
* `Instructions.ofMembers_edit`: an edit of the instructions makes the settings that the
  option makes.
* `Descriptor.check_edited`: the edited document is a descriptor that differs in this.
* `runProgram_edited`: the two runs give the same.
-/

namespace BundleEmbed

open Regex (Release)

/-! ### Edits -/

/-- A value that writes a flag: a boolean, or a text that sets the flag or does not. -/
def WritesFlag (value : JsonValue) (flag : Bool) : Prop :=
  value = .bool flag ∨ ∃ text, value = .string text ∧ isTrueText text = flag

/-- Instructions with the value of an option in its place; flags are written in one way. -/
def ResolveOption.edit (write : Bool → JsonValue) (instructions : Members) :
    ResolveOption → Members
  | .directory place => Mapping.set instructions "embed_directory" (.string place)
  | .stripGroup strip => Mapping.set instructions "embed_strip_group" (write strip)
  | .stripVersion strip => Mapping.set instructions "embed_strip_version" (write strip)
  | .json => instructions
  | .help => instructions

/-- The instructions in a document, none where they are left out. -/
def instructionsIn (members : Members) : Members :=
  match members.lookup (Text.ofString "instructions") with
  | some (.object instructions) => instructions
  | _ => []

/-- A document with the values of options in its instructions. -/
def JsonValue.edited (write : Bool → JsonValue) (options : List ResolveOption) :
    JsonValue → JsonValue
  | .object members =>
      .object (Mapping.set members "instructions"
        (.object (options.foldl (ResolveOption.edit write) (instructionsIn members))))
  | value => value

/-! ### Checking what has been edited -/

namespace Checked

variable {α β : Type}

/-- Two checks find nothing exactly if neither does. -/
theorem seq_eq_valid_iff {f : Checked (α → β)} {x : Checked α} {b : β} :
    f <*> x = .valid b ↔ ∃ g a, f = .valid g ∧ x = .valid a ∧ g a = b := by
  cases f <;> cases x <;> simp [Seq.seq, apply]

/-- A check finds nothing, whatever becomes of the value. -/
theorem map_eq_valid_iff {f : α → β} {x : Checked α} {b : β} :
    f <$> x = .valid b ↔ ∃ a, x = .valid a ∧ f a = b := by
  cases x <;> simp [Functor.map, map]

/-- A check finds nothing in a part exactly if it finds nothing there in the whole. -/
theorem under_eq_valid_iff {step : SchemaStep} {x : Checked α} {a : α} :
    x.under step = .valid a ↔ x = .valid a := by
  cases x <;> simp [under]

end Checked

section Fields

variable {α : Type} {standard : α} {check : JsonValue → Checked α}

/-- Setting a field leaves the others. -/
theorem optionalField_set_of_ne (members : Members) {key name : Text} (value : JsonValue)
    (differ : name ≠ key) :
    optionalField (Mapping.set members key value) name standard check =
      optionalField members name standard check := by
  rw [optionalField, Mapping.lookup_set_of_ne value differ, optionalField]

/-- Setting a field leaves the others that have to be there. -/
theorem requiredField_set_of_ne (members : Members) {key name : Text} (value : JsonValue)
    (differ : name ≠ key) :
    requiredField (Mapping.set members key value) name check =
      requiredField members name check := by
  rw [requiredField, Mapping.lookup_set_of_ne value differ, requiredField]

/-- A field that has been set has the value it was set to. -/
theorem optionalField_set_self (members : Members) (key : Text) {value : JsonValue} {a : α}
    (valid : check value = .valid a) :
    optionalField (Mapping.set members key value) key standard check = .valid a := by
  rw [optionalField, Mapping.lookup_set_self]
  exact Checked.under_eq_valid_iff.mpr valid

end Fields

/-- What writes a flag is read as a text that makes the flag. -/
theorem exists_text_of_writesFlag {value : JsonValue} {flag : Bool}
    (writes : WritesFlag value flag) :
    ∃ text, checkNullable checkFlagText value = .valid (some text) ∧ isTrueText text = flag := by
  rcases writes with rfl | ⟨text, rfl, isTrue⟩
  · refine ⟨flagText flag, rfl, ?_⟩
    cases flag <;> decide
  · exact ⟨text, rfl, isTrue⟩

/-- Instructions are valid exactly if each of their fields is. -/
theorem Instructions.ofMembers_eq_valid_iff {members : Members} {instructions : Instructions} :
    ofMembers members = .valid instructions ↔
      optionalField members "embed_dependency" none
          (checkNullable (checkMapping (checkNullable (checkMapping checkFlagText)))) =
        .valid instructions.clauses ∧
      textField members "embed_directory" = .valid instructions.directory ∧
      flagField members "embed_strip_group" (some "true") = .valid instructions.stripGroup ∧
      flagField members "embed_strip_version" none = .valid instructions.stripVersion ∧
      flagField members "embed_transitive" none = .valid instructions.transitive := by
  simp only [ofMembers, Checked.seq_eq_valid_iff, Checked.map_eq_valid_iff]
  constructor
  · rintro ⟨_, transitive, ⟨_, stripVersion, ⟨_, stripGroup, ⟨_, directory,
      ⟨clauses, isClauses, rfl⟩, isDirectory, rfl⟩, isStripGroup, rfl⟩, isStripVersion, rfl⟩,
      isTransitive, rfl⟩
    exact ⟨isClauses, isDirectory, isStripGroup, isStripVersion, isTransitive⟩
  · rintro ⟨isClauses, isDirectory, isStripGroup, isStripVersion, isTransitive⟩
    exact ⟨_, _, ⟨_, _, ⟨_, _, ⟨_, _, ⟨_, isClauses, rfl⟩, isDirectory, rfl⟩, isStripGroup, rfl⟩,
      isStripVersion, rfl⟩, isTransitive, rfl⟩

/-- An edit of the instructions for an option makes the settings that the option makes. -/
theorem Instructions.ofMembers_edit {write : Bool → JsonValue}
    (writes : ∀ flag, WritesFlag (write flag) flag) {members : Members}
    {instructions : Instructions} (valid : ofMembers members = .valid instructions)
    (option : ResolveOption) :
    ∃ edited, ofMembers (option.edit write members) = .valid edited ∧
      edited.toSettings = option.override instructions.toSettings := by
  obtain ⟨clauses, directory, stripGroup, stripVersion, transitive⟩ :=
    ofMembers_eq_valid_iff.mp valid
  cases option with
  | directory place =>
      refine ⟨{ instructions with directory := some place },
        ofMembers_eq_valid_iff.mpr ⟨?_, ?_, ?_, ?_, ?_⟩, rfl⟩
      · exact (optionalField_set_of_ne _ _ (by decide)).trans clauses
      · exact optionalField_set_self _ _ rfl
      · exact (optionalField_set_of_ne _ _ (by decide)).trans stripGroup
      · exact (optionalField_set_of_ne _ _ (by decide)).trans stripVersion
      · exact (optionalField_set_of_ne _ _ (by decide)).trans transitive
  | stripGroup strip =>
      obtain ⟨text, isRead, rfl⟩ := exists_text_of_writesFlag (writes strip)
      refine ⟨{ instructions with stripGroup := some text },
        ofMembers_eq_valid_iff.mpr ⟨?_, ?_, ?_, ?_, ?_⟩, rfl⟩
      · exact (optionalField_set_of_ne _ _ (by decide)).trans clauses
      · exact (optionalField_set_of_ne _ _ (by decide)).trans directory
      · exact optionalField_set_self _ _ isRead
      · exact (optionalField_set_of_ne _ _ (by decide)).trans stripVersion
      · exact (optionalField_set_of_ne _ _ (by decide)).trans transitive
  | stripVersion strip =>
      obtain ⟨text, isRead, rfl⟩ := exists_text_of_writesFlag (writes strip)
      refine ⟨{ instructions with stripVersion := some text },
        ofMembers_eq_valid_iff.mpr ⟨?_, ?_, ?_, ?_, ?_⟩, rfl⟩
      · exact (optionalField_set_of_ne _ _ (by decide)).trans clauses
      · exact (optionalField_set_of_ne _ _ (by decide)).trans directory
      · exact (optionalField_set_of_ne _ _ (by decide)).trans stripGroup
      · exact optionalField_set_self _ _ isRead
      · exact (optionalField_set_of_ne _ _ (by decide)).trans transitive
  | json => exact ⟨instructions, valid, rfl⟩
  | help => exact ⟨instructions, valid, rfl⟩

/-- Edits for several options make the settings that the options make in their order. -/
theorem Instructions.ofMembers_foldl_edit {write : Bool → JsonValue}
    (writes : ∀ flag, WritesFlag (write flag) flag) {members : Members}
    {instructions : Instructions} (valid : ofMembers members = .valid instructions)
    (options : List ResolveOption) :
    ∃ edited, ofMembers (options.foldl (ResolveOption.edit write) members) = .valid edited ∧
      edited.toSettings = options.foldl ResolveOption.override instructions.toSettings := by
  induction options generalizing members instructions with
  | nil => exact ⟨instructions, valid, rfl⟩
  | cons option later ih =>
      obtain ⟨once, valid, settings⟩ := ofMembers_edit writes valid option
      obtain ⟨edited, validEdited, settingsEdited⟩ := ih valid
      exact ⟨edited, validEdited, settingsEdited.trans (by rw [settings, List.foldl_cons])⟩

/-- A descriptor is valid exactly if each of its fields is. -/
theorem Descriptor.ofMembers_eq_valid_iff {members : Members} {descriptor : Descriptor} :
    ofMembers members = .valid descriptor ↔
      optionalField members "dependencies" [] (checkList DependencyEntry.check) =
        .valid descriptor.dependencies ∧
      optionalField members "instructions" .standard Instructions.check =
        .valid descriptor.instructions ∧
      optionalField members "headers" [] (checkMapping (checkNullable checkString)) =
        .valid descriptor.headers := by
  simp only [ofMembers, Checked.seq_eq_valid_iff, Checked.map_eq_valid_iff]
  constructor
  · rintro ⟨_, headers, ⟨_, instructions, ⟨dependencies, isDependencies, rfl⟩, isInstructions,
      rfl⟩, isHeaders, rfl⟩
    exact ⟨isDependencies, isInstructions, isHeaders⟩
  · rintro ⟨isDependencies, isInstructions, isHeaders⟩
    exact ⟨_, _, ⟨_, _, ⟨_, isDependencies, rfl⟩, isInstructions, rfl⟩, isHeaders, rfl⟩

/-- An object of a model is valid exactly if its fields are, and nothing else is. -/
theorem checkModel_eq_valid_iff {α : Type} {name : String} {check : Members → Checked α}
    {value : JsonValue} {a : α} :
    checkModel name check value = .valid a ↔
      ∃ members, value = .object members ∧ check members = .valid a := by
  cases value <;> simp [checkModel, Checked.expected]

/-- The instructions of a descriptor are those in its document. -/
theorem ofMembers_instructionsIn {members : Members} {instructions : Instructions}
    (valid : optionalField members "instructions" .standard Instructions.check =
      .valid instructions) :
    Instructions.ofMembers (instructionsIn members) = .valid instructions := by
  unfold optionalField at valid
  unfold instructionsIn
  cases stands : members.lookup (Text.ofString "instructions") with
  | none =>
      rw [stands] at valid
      cases valid
      rfl
  | some value =>
      rw [stands] at valid
      obtain ⟨inner, rfl, isValid⟩ :=
        checkModel_eq_valid_iff.mp (Checked.under_eq_valid_iff.mp valid)
      exact isValid

/-- A descriptor whose document has been edited differs in its instructions, which make the
settings that the options make. -/
theorem Descriptor.check_edited {write : Bool → JsonValue}
    (writes : ∀ flag, WritesFlag (write flag) flag) {value : JsonValue} {descriptor : Descriptor}
    (valid : check value = .valid descriptor) (options : List ResolveOption) :
    ∃ edited, check (value.edited write options) =
        .valid { descriptor with instructions := edited } ∧
      edited.toSettings =
        options.foldl ResolveOption.override descriptor.instructions.toSettings := by
  obtain ⟨members, rfl, isValid⟩ := checkModel_eq_valid_iff.mp valid
  obtain ⟨dependencies, instructions, headers⟩ := ofMembers_eq_valid_iff.mp isValid
  obtain ⟨edited, validEdited, settings⟩ :=
    Instructions.ofMembers_foldl_edit writes (ofMembers_instructionsIn instructions) options
  refine ⟨edited, checkModel_eq_valid_iff.mpr ⟨_, rfl, ofMembers_eq_valid_iff.mpr ⟨?_, ?_, ?_⟩⟩,
    settings⟩
  · exact (optionalField_set_of_ne _ _ (by decide)).trans dependencies
  · exact optionalField_set_self _ _ (checkModel_eq_valid_iff.mpr ⟨_, rfl, validEdited⟩)
  · exact (optionalField_set_of_ne _ _ (by decide)).trans headers

/-! ### Two runs -/

/-- The file at a path holds a document. -/
def FileTree.HoldsDocument (files : FileTree) (path : Path) (value : JsonValue) : Prop :=
  ∃ text, readTextFile files path = .ok text ∧ JsonText.read text = .ok value

instance (files : FileTree) (path : Path) (value : JsonValue) :
    Decidable (files.HoldsDocument path value) :=
  match isRead : readTextFile files path with
  | .ok text => decidable_of_iff (JsonText.read text = .ok value) (by
      simp [FileTree.HoldsDocument, isRead])
  | .error _ => isFalse (by simp [FileTree.HoldsDocument, isRead])

/-- A document that is a descriptor is loaded as it. -/
theorem Descriptor.load_of_holdsDocument {files : FileTree} {path : Path} {value : JsonValue}
    {descriptor : Descriptor} (holds : files.HoldsDocument path value)
    (valid : check value = .valid descriptor) :
    load files path = .ok (descriptor, descriptor.dependenciesIn path.parent) := by
  obtain ⟨text, isRead, isJson⟩ := holds
  simp only [load, isRead, bind, Except.bind, ofText, isJson, valid]
  rfl

/-- What is loaded from a document is the descriptor that it is, and its dependencies. -/
theorem Descriptor.load_eq_ok_iff {files : FileTree} {path : Path} {value : JsonValue}
    (holds : files.HoldsDocument path value) {descriptor : Descriptor}
    {dependencies : List Dependency} :
    load files path = .ok (descriptor, dependencies) ↔
      check value = .valid descriptor ∧
        dependencies = descriptor.dependenciesIn path.parent := by
  constructor
  · intro loaded
    cases isChecked : check value with
    | valid known =>
        cases (load_of_holdsDocument holds isChecked).symm.trans loaded
        exact ⟨rfl, rfl⟩
    | invalid faults =>
        obtain ⟨text, isRead, isJson⟩ := holds
        simp [load, isRead, bind, Except.bind, ofText, isJson, isChecked] at loaded
  · rintro ⟨valid, rfl⟩
    exact load_of_holdsDocument holds valid

/-- What is told of an outcome does not depend on the files, which are left as they are. -/
theorem Outcome.told_files (outcome : Outcome) (files files' : FileTree) (asJson : Bool) :
    outcome.told files' asJson = { outcome.told files asJson with files := files' } := by
  obtain ⟨result, classification, events⟩ := outcome
  cases result with
  | ok result =>
      obtain ⟨exitCode, output, crash, given⟩ :=
        RunResult.exists_printing (result.lines asJson)
      simp only [Outcome.told, given]
  | error fault =>
      simp only [Outcome.told]
      cases fault.isReported <;> rfl

/-- A resolution where the files have the same shape gives the same. -/
theorem resolution_of_sameShape [Release] {files files' : FileTree}
    (same : files.SameShape files')
    (descriptor : Descriptor) (dependencies : List Dependency) (settings : Settings)
    (asJson : Bool) :
    resolution files' descriptor dependencies settings asJson =
      { resolution files descriptor dependencies settings asJson with files := files' } := by
  rw [resolution, resolution, same.embedAll_eq]
  exact Outcome.told_files _ files files' asJson

/-- Options without a setting leave the settings. -/
theorem foldl_override_of_json {options : List ResolveOption}
    (onlyForm : ∀ option ∈ options, option = .json) (settings : Settings) :
    options.foldl ResolveOption.override settings = settings := by
  induction options with
  | nil => rfl
  | cons option later ih =>
      obtain ⟨rfl, laterForm⟩ := List.forall_mem_cons.mp onlyForm
      exact ih laterForm

/-- The run on a descriptor that a path names gives with options what it gives without them on
the edited descriptor. -/
theorem resolveNamed_edited [Release] {files files' : FileTree} {environment : Environment}
    {options plainOptions : List ResolveOption} {path : String} {value : JsonValue}
    {descriptor : Descriptor} {write : Bool → JsonValue}
    (unset : environment.embedDirectory = none)
    (onlyForm : ∀ option ∈ plainOptions, option = .json)
    (sameForm : .json ∈ plainOptions ↔ .json ∈ options)
    (holds : files.HoldsDocument (Path.ofText path) value)
    (valid : Descriptor.check value = .valid descriptor)
    (writes : ∀ flag, WritesFlag (write flag) flag) (same : files.SameShape files')
    (holdsEdited : files'.HoldsDocument (Path.ofText path) (value.edited write options)) :
    resolveNamed files' environment plainOptions path =
      { resolveNamed files environment options path with files := files' } := by
  obtain ⟨edited, validEdited, settings⟩ := Descriptor.check_edited writes valid options
  have loaded := Descriptor.load_of_holdsDocument holds valid
  have loadedEdited := Descriptor.load_of_holdsDocument holdsEdited validEdited
  have resolved : resolveDescriptor files' environment plainOptions (Path.ofText path) =
      { resolveDescriptor files environment options (Path.ofText path) with
        files := files' } := by
    have form : plainOptions.contains .json = options.contains .json := by
      simp only [List.contains_eq_mem, sameForm]
    rw [resolveDescriptor_of_load loaded, resolveDescriptor_of_load loadedEdited, form]
    simp only [overriddenSettings, unset, Option.map_none, Option.toList_none, List.nil_append]
    rw [foldl_override_of_json onlyForm, settings]
    exact resolution_of_sameShape same descriptor _ _ _
  unfold resolveNamed
  split
  · rfl
  · rcases same.findText_cases path with
      ⟨fault, found, found'⟩ | ⟨entry, entry', found, found', shape⟩
    · rw [found, found']
      rfl
    · rw [found, found']
      -- what the path leads to is of the same kind in both trees
      cases entry with
      | directory =>
          cases entry' with
          | directory => rfl
          | _ => cases shape
      | file =>
          cases entry' with
          | file => exact resolved
          | _ => cases shape
      | device =>
          cases entry' with
          | device => exact resolved
          | _ => cases shape

/-- With the environment leaving the directory open, a run with options on a descriptor gives
what a run without them gives on the descriptor in whose instructions the values of the options
have been written; only its files are the edited ones. -/
theorem runProgram_edited [Release] {files files' : FileTree} {environment : Environment}
    {arguments plainArguments : List String} {verbose : Bool}
    {options plainOptions : List ResolveOption} {path : String} {value : JsonValue}
    {descriptor : Descriptor} {write : Bool → JsonValue} {content : ByteArray}
    (unset : environment.embedDirectory = none)
    (asks : AsksToResolve arguments verbose options path)
    (asksPlainly : AsksToResolve plainArguments verbose plainOptions path)
    (onlyForm : ∀ option ∈ plainOptions, option = .json)
    (sameForm : .json ∈ plainOptions ↔ .json ∈ options)
    (holds : files.HoldsDocument (Path.ofText path) value)
    (valid : Descriptor.check value = .valid descriptor)
    (writes : ∀ flag, WritesFlag (write flag) flag)
    (written : files.write (Path.ofText path) content = .ok files')
    (holdsEdited : files'.HoldsDocument (Path.ofText path) (value.edited write options)) :
    let run := runProgram files environment arguments
    runProgram files' environment plainArguments =
      { run with result := { run.result with files := files' } } := by
  intro run
  obtain ⟨text, isRead, -⟩ := id holds
  obtain ⟨-, old, -, found, -⟩ := readTextFile_eq_ok_iff.mp isRead
  have result := resolveNamed_edited unset onlyForm sameForm holds valid writes
    (FileTree.sameShape_of_write found written) holdsEdited
  have given : run = _ := runProgram_of_asks asks files environment
  rw [runProgram_of_asks asksPlainly, result, given]
  unfold Environment.start
  cases environment.logging? verbose <;> rfl

/-! ### Options that could be taken for absent ones -/

namespace EmptyDirectory

open OneDependency

/-- A document with one dependency and its instructions. -/
def document (instructions : Members) : JsonValue :=
  .object [
    ("dependencies", .array [.object [("group_id", .string "g"), ("artifact_id", .string "a"),
      ("version", .string "1"), ("file", .string "a.jar")]]),
    ("instructions", .object (("embed_dependency", .object [("a", .null)]) :: instructions))]

/-- Instructions without a directory, and with the group as one. -/
def edited : String := "\"embed_directory\": \"\", \"embed_strip_group\": false"

/-- An empty directory, and the group is kept. -/
def options : List ResolveOption := [.directory "", .stripGroup false]

/-- The file of the descriptor holds the document. -/
theorem holds : (files stated).HoldsDocument (Path.ofText "build.json")
    (document [("embed_directory", .string "lib")]) := by
  decide +kernel

/-- The document is the descriptor. -/
theorem valid : Descriptor.check (document [("embed_directory", .string "lib")]) =
    .valid descriptor := by
  decide +kernel

/-- The edited text is written to the file. -/
theorem written : (files stated).write (Path.ofText "build.json") (text edited).toUTF8 =
    .ok (files edited) := by
  have located : (files stated).locate (Path.ofText "build.json") = .ok ["run", "build.json"] := by
    decide +kernel
  rw [FileTree.write, located]
  simp [bind, Except.bind, files, FileTree.entry?, FileTree.put, List.lookup_cons]

/-- The file then holds the document with the values of the options. -/
theorem holdsEdited : (files edited).HoldsDocument (Path.ofText "build.json")
    ((document [("embed_directory", .string "lib")]).edited .bool options) := by
  decide +kernel

end EmptyDirectory

open EmptyDirectory OneDependency in
theorem runProgram_edited_empty_directory :
    let environment : Environment := ⟨none, none, none⟩
    let arguments := ["resolve", "--embed-directory", "", "--keep-group", "build.json"]
    let run := runProgram (files stated) environment arguments
    AsksToResolve arguments false options "build.json" ∧
      AsksToResolve ["resolve", "build.json"] false [] "build.json" ∧
      (files stated).HoldsDocument (Path.ofText "build.json")
        (document [("embed_directory", .string "lib")]) ∧
      Descriptor.check (document [("embed_directory", .string "lib")]) = .valid descriptor ∧
      (∀ flag, WritesFlag (.bool flag) flag) ∧
      (files stated).write (Path.ofText "build.json") (text edited).toUTF8 = .ok (files edited) ∧
      (files edited).HoldsDocument (Path.ofText "build.json")
        ((document [("embed_directory", .string "lib")]).edited .bool options) ∧
      runProgram (files edited) environment ["resolve", "build.json"] =
        { run with result := { run.result with files := files edited } } := by
  intro environment arguments run
  have asks : AsksToResolve arguments false options "build.json" :=
    @asksToResolve_words options "build.json" (by decide) (by decide)
  have asksPlainly : AsksToResolve ["resolve", "build.json"] false [] "build.json" :=
    @asksToResolve_words [] "build.json" (by decide) List.not_mem_nil
  have writes : ∀ flag, WritesFlag (.bool flag) flag := fun flag => .inl rfl
  refine ⟨asks, asksPlainly, holds, valid, writes, written, holdsEdited, ?_⟩
  exact runProgram_edited rfl asks asksPlainly (by simp) (by decide) holds valid writes written
    holdsEdited

end BundleEmbed
