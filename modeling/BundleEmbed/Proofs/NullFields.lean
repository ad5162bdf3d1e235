import BundleEmbed.Proofs.FlagEdits
import BundleEmbed.Proofs.HeaderKeys

/-!
Fields of a descriptor that are null, and fields that are left out.

A field that may be null may be left out as well, and is then read as null, but for one: the
group is a directory in the bundle where nothing is said of it, and it is not where the flag for
taking it away is null, which does not set the flag. So null fields can be taken out of a document
without changing what is loaded, except for that flag.

* `dropNulls`, `JsonValue.withoutNulls`: objects and documents without some of their nulls.
* `Checked.Keeps`: a check that finds nothing wherever another one does, with the same value.
* `DependencyEntry.ofMembers_dropNulls`: a dependency is the same without nulls.
* `Instructions.ofMembers_dropNulls`: so are the settings, except for the flag of the group.
* `Descriptor.load_withoutNulls`: what is loaded from a document without some of its nulls.
* `not_load_withoutNulls_of_strip_group`: it is not always the same.
-/

namespace BundleEmbed

/-! ### Leaving out nulls -/

/-- A member of an object is left out: it is chosen, and it is null. -/
def LeavesOut (chosen : Text → Bool) (members : Members) (key : Text) : Prop :=
  chosen key = true ∧ members.lookup key = some .null

instance (chosen : Text → Bool) (members : Members) : DecidablePred (LeavesOut chosen members) :=
  fun _ => inferInstanceAs (Decidable (_ ∧ _))

/-- The members of an object without the chosen ones that are null. -/
def dropNulls (chosen : Text → Bool) (members : Members) : Members :=
  Mapping.restrict members fun key => !decide (LeavesOut chosen members key)

/-- An object without the chosen members that are null. -/
def JsonValue.dropNulls (chosen : Text → Bool) : JsonValue → JsonValue
  | .object members => .object (BundleEmbed.dropNulls chosen members)
  | value => value

/-- A list of objects, each without the members chosen for its place that are null. -/
def JsonValue.dropItemNulls (chosen : Nat → Text → Bool) : JsonValue → JsonValue
  | .array items => .array (items.zipIdx.map fun (item, number) => item.dropNulls (chosen number))
  | value => value

/-- Which fields are left out of a document where they are null. -/
structure NullChoice where
  ofDependency : Nat → Text → Bool
  ofInstructions : Text → Bool

/-- The value of a field of a document without the chosen nulls in it. -/
def NullChoice.drop (choice : NullChoice) (key : Text) (value : JsonValue) : JsonValue :=
  if key = "dependencies" then value.dropItemNulls choice.ofDependency
  else if key = "instructions" then value.dropNulls choice.ofInstructions
  else value

/-- A document without the chosen nulls in its dependencies and its instructions. -/
def JsonValue.withoutNulls (choice : NullChoice) : JsonValue → JsonValue
  | .object members => .object (members.map fun (key, value) => (key, choice.drop key value))
  | value => value

/-- The members of an object. -/
def JsonValue.members : JsonValue → Members
  | .object members => members
  | _ => []

/-- The flag for taking the group away is among the nulls that are left out of a document. -/
def NullChoice.DropsGroupFlag (choice : NullChoice) (value : JsonValue) : Prop :=
  LeavesOut choice.ofInstructions (instructionsIn value.members) "embed_strip_group"

instance (choice : NullChoice) : DecidablePred choice.DropsGroupFlag :=
  fun _ => inferInstanceAs (Decidable (LeavesOut _ _ _))

/-! ### What is found in what is left -/

/-- Nothing stands under a key in a part that does not have the key. -/
theorem Mapping.lookup_restrict_of_not {α : Type} (mapping : Mapping α) {test : Text → Bool}
    {key : Text} (fails : test key = false) : (mapping.restrict test).lookup key = none := by
  refine List.lookup_eq_none_iff.mpr fun pair isOne => bne_iff_ne.mpr ?_
  rintro rfl
  rw [(List.mem_filter.mp isOne).2] at fails
  cases fails

/-- What stands under a key after the values have been changed key by key. -/
theorem Mapping.lookup_map {α β : Type} (mapping : Mapping α) (f : Text → α → β) (key : Text) :
    (mapping.map fun pair => (pair.1, f pair.1 pair.2)).lookup key =
      (List.lookup key mapping).map (f key) := by
  induction mapping with
  | nil => rfl
  | cons pair later ih =>
      obtain ⟨known, old⟩ := pair
      by_cases same : key = known
      · subst same
        simp
      · simp [List.lookup_cons, beq_false_of_ne same, ih]

/-- Nothing stands for a member that is left out, and the others stay. -/
theorem lookup_dropNulls (chosen : Text → Bool) (members : Members) (key : Text) :
    (dropNulls chosen members).lookup key =
      if LeavesOut chosen members key then none else members.lookup key := by
  unfold dropNulls
  split
  · rename_i leftOut
    exact Mapping.lookup_restrict_of_not members (by simpa using leftOut)
  · rename_i stays
    exact Mapping.lookup_restrict members _ (by simpa using stays)

/-! ### Checking what is left -/

/-- Wherever a check finds nothing, another one finds nothing either and has the same value. -/
def Checked.Keeps {α : Type} (x y : Checked α) : Prop := ∀ a, x = .valid a → y = .valid a

namespace Checked.Keeps

variable {α β : Type}

theorem of_eq {x y : Checked α} (same : x = y) : x.Keeps y := fun _ valid => same ▸ valid

theorem map (f : α → β) {x y : Checked α} (keeps : x.Keeps y) : (f <$> x).Keeps (f <$> y) := by
  intro b valid
  obtain ⟨a, isValid, rfl⟩ := Checked.map_eq_valid_iff.mp valid
  exact Checked.map_eq_valid_iff.mpr ⟨a, keeps a isValid, rfl⟩

theorem seq {f g : Checked (α → β)} {x y : Checked α} (first : f.Keeps g) (second : x.Keeps y) :
    (f <*> x).Keeps (g <*> y) := by
  intro b valid
  obtain ⟨h, a, isFunction, isValue, rfl⟩ := Checked.seq_eq_valid_iff.mp valid
  exact Checked.seq_eq_valid_iff.mpr ⟨h, a, first h isFunction, second a isValue, rfl⟩

theorem under (step : SchemaStep) {x y : Checked α} (keeps : x.Keeps y) :
    (x.under step).Keeps (y.under step) := fun a valid =>
  Checked.under_eq_valid_iff.mpr (keeps a (Checked.under_eq_valid_iff.mp valid))

/-- Lists whose parts are checked alike at every place. -/
theorem all {γ : Type} {check : α → Checked γ} {check' : β → Checked γ} {f : α → β}
    (keeps : ∀ a, (check a).Keeps (check' (f a))) (parts : List α) :
    (Checked.all check parts).Keeps (Checked.all check' (parts.map f)) := by
  induction parts with
  | nil => exact of_eq rfl
  | cons part later ih => exact seq (map List.cons (keeps part)) ih

end Checked.Keeps

section Fields

variable {α : Type} {check : JsonValue → Checked α} (chosen : Text → Bool) (members : Members)
  (name : Text)

/-- A field that may be null and is taken for null where it is left out. -/
theorem nullableField_dropNulls (check : JsonValue → Checked α) :
    optionalField (dropNulls chosen members) name none (checkNullable check) =
      optionalField members name none (checkNullable check) := by
  unfold optionalField
  by_cases leftOut : LeavesOut chosen members name
  · rw [lookup_dropNulls, if_pos leftOut, leftOut.2]
    rfl
  · rw [lookup_dropNulls, if_neg leftOut]

/-- A field that cannot be null and may be left out. -/
theorem optionalField_keeps_dropNulls {standard : α} (refused : ∀ a, check .null ≠ .valid a) :
    (optionalField members name standard check).Keeps
      (optionalField (dropNulls chosen members) name standard check) := by
  intro a valid
  unfold optionalField at valid ⊢
  by_cases leftOut : LeavesOut chosen members name
  · rw [leftOut.2] at valid
    exact absurd (Checked.under_eq_valid_iff.mp valid) (refused a)
  · rwa [lookup_dropNulls, if_neg leftOut]

/-- A field that cannot be null and has to be there. -/
theorem requiredField_keeps_dropNulls (refused : ∀ a, check .null ≠ .valid a) :
    (requiredField members name check).Keeps
      (requiredField (dropNulls chosen members) name check) := by
  intro a valid
  unfold requiredField at valid ⊢
  by_cases leftOut : LeavesOut chosen members name
  · rw [leftOut.2] at valid
    exact absurd (Checked.under_eq_valid_iff.mp valid) (refused a)
  · rwa [lookup_dropNulls, if_neg leftOut]

/-- A field whose value is checked in another way in another object. -/
theorem optionalField_keeps {members' : Members} {standard : α} {f : JsonValue → JsonValue}
    (stands : members'.lookup name = (members.lookup name).map f)
    (keeps : ∀ value, (check value).Keeps (check (f value))) :
    (optionalField members name standard check).Keeps
      (optionalField members' name standard check) := by
  unfold optionalField
  rw [stands]
  cases members.lookup name with
  | none => exact .of_eq rfl
  | some value => exact (keeps value).under _

end Fields

/-- A text cannot be null. -/
theorem checkTrimmed_null (text : Text) : checkTrimmed .null ≠ .valid text := nofun

/-- A flag that is no text cannot be null. -/
theorem checkFlag_null (flag : Bool) : checkFlag .null ≠ .valid flag := nofun

/-! ### The models -/

/-- A dependency without nulls is the same one. -/
theorem DependencyEntry.ofMembers_dropNulls (chosen : Text → Bool) (members : Members) :
    (ofMembers members).Keeps (ofMembers (dropNulls chosen members)) := by
  have required (name : Text) := requiredField_keeps_dropNulls chosen members name
    checkTrimmed_null
  have text (name : Text) :=
    Checked.Keeps.of_eq (nullableField_dropNulls chosen members name checkString).symm
  have optional :=
    Checked.Keeps.of_eq (nullableField_dropNulls chosen members "optional" checkFlag).symm
  have direct : (optionalField members "direct" true checkFlag).Keeps
      (optionalField (dropNulls chosen members) "direct" true checkFlag) :=
    optionalField_keeps_dropNulls chosen members "direct" checkFlag_null
  exact (required "group_id").map _ |>.seq (required "artifact_id") |>.seq (required "version")
    |>.seq (text "selected_version") |>.seq (text "scope") |>.seq (text "type")
    |>.seq (text "classifier") |>.seq optional |>.seq (text "file")
    |>.seq (text "extension") |>.seq direct

/-- Instructions without nulls are the same ones, unless the flag for taking the group away is
among these nulls: it does not set the flag where it is null, and is set where it is left out. -/
theorem Instructions.ofMembers_dropNulls {members : Members} {instructions : Instructions}
    (valid : ofMembers members = .valid instructions) (chosen : Text → Bool) :
    (¬ LeavesOut chosen members "embed_strip_group" →
        ofMembers (dropNulls chosen members) = .valid instructions) ∧
      (LeavesOut chosen members "embed_strip_group" →
        instructions.stripGroup = none ∧
          ofMembers (dropNulls chosen members) =
            .valid { instructions with stripGroup := some "true" }) := by
  obtain ⟨clauses, directory, stripGroup, stripVersion, transitive⟩ :=
    ofMembers_eq_valid_iff.mp valid
  have clauses' := (nullableField_dropNulls chosen members _ _).trans clauses
  have directory' := (nullableField_dropNulls chosen members _ _).trans directory
  have stripVersion' := (nullableField_dropNulls chosen members _ _).trans stripVersion
  have transitive' := (nullableField_dropNulls chosen members _ _).trans transitive
  unfold flagField optionalField at stripGroup
  constructor
  · intro stays
    refine ofMembers_eq_valid_iff.mpr ⟨clauses', directory', ?_, stripVersion', transitive'⟩
    unfold flagField optionalField
    rwa [lookup_dropNulls, if_neg stays]
  · intro leftOut
    rw [leftOut.2] at stripGroup
    have isNull : instructions.stripGroup = none :=
      (Checked.valid.inj (Checked.under_eq_valid_iff.mp stripGroup)).symm
    refine ⟨isNull, ofMembers_eq_valid_iff.mpr
      ⟨clauses', directory', ?_, stripVersion', transitive'⟩⟩
    unfold flagField optionalField
    rw [lookup_dropNulls, if_pos leftOut]

/-- A dependency is the same without nulls, checked as a value. -/
theorem DependencyEntry.check_dropNulls (chosen : Text → Bool) (value : JsonValue) :
    (check value).Keeps (check (value.dropNulls chosen)) := by
  intro entry valid
  obtain ⟨members, rfl, isValid⟩ := checkModel_eq_valid_iff.mp valid
  exact checkModel_eq_valid_iff.mpr ⟨_, rfl, ofMembers_dropNulls chosen members entry isValid⟩

/-- A list of dependencies is the same without nulls. -/
theorem checkList_dropItemNulls (chosen : Nat → Text → Bool) (value : JsonValue) :
    (checkList DependencyEntry.check value).Keeps
      (checkList DependencyEntry.check (value.dropItemNulls chosen)) := by
  cases value with
  | array items =>
      have numbered :
          (items.zipIdx.map fun (item, number) => item.dropNulls (chosen number)).zipIdx =
            items.zipIdx.map fun (item, number) => (item.dropNulls (chosen number), number) := by
        refine List.ext_getElem (by simp) fun number _ _ => ?_
        simp
      unfold JsonValue.dropItemNulls checkList
      simp only [numbered]
      exact .all (fun (item, number) =>
        (DependencyEntry.check_dropNulls (chosen number) item).under (.index number)) _
  | _ => exact .of_eq rfl

/-- The instructions of a descriptor are the same without nulls, unless the flag for taking the
group away is among these nulls. -/
theorem instructionsField_dropNulls {chosen : Text → Bool} {members less : Members}
    {instructions : Instructions}
    (stands : less.lookup (Text.ofString "instructions") =
      (members.lookup (Text.ofString "instructions")).map (JsonValue.dropNulls chosen))
    (valid : optionalField members "instructions" .standard Instructions.check =
      .valid instructions) :
    (¬ LeavesOut chosen (instructionsIn members) "embed_strip_group" →
        optionalField less "instructions" .standard Instructions.check = .valid instructions) ∧
      (LeavesOut chosen (instructionsIn members) "embed_strip_group" →
        instructions.stripGroup = none ∧
          optionalField less "instructions" .standard Instructions.check =
            .valid { instructions with stripGroup := some "true" }) := by
  unfold optionalField instructionsIn at *
  rw [stands]
  cases given : members.lookup (Text.ofString "instructions") with
  | none =>
      rw [given] at valid
      exact ⟨fun _ => valid, fun leftOut => nomatch leftOut.2⟩
  | some value =>
      rw [given] at valid
      obtain ⟨inner, rfl, isInner⟩ :=
        checkModel_eq_valid_iff.mp (Checked.under_eq_valid_iff.mp valid)
      have whole {edited : Instructions}
          (isEdited : Instructions.ofMembers (dropNulls chosen inner) = .valid edited) :
          (Instructions.check (.object (dropNulls chosen inner))).under (.field "instructions") =
            .valid edited :=
        Checked.under_eq_valid_iff.mpr (checkModel_eq_valid_iff.mpr ⟨_, rfl, isEdited⟩)
      have ⟨kept, changed⟩ := Instructions.ofMembers_dropNulls isInner chosen
      exact ⟨fun stays => whole (kept stays),
        fun leftOut => ⟨(changed leftOut).1, whole (changed leftOut).2⟩⟩

/-! ### Documents -/

/-- A descriptor whose document has lost some of its nulls is the same one, unless the flag for
taking the group away is among these nulls. -/
theorem Descriptor.check_withoutNulls {value : JsonValue} {descriptor : Descriptor}
    (valid : check value = .valid descriptor) (choice : NullChoice) :
    (¬ choice.DropsGroupFlag value → check (value.withoutNulls choice) = .valid descriptor) ∧
      (choice.DropsGroupFlag value →
        descriptor.instructions.stripGroup = none ∧
          check (value.withoutNulls choice) =
            .valid { descriptor with
              instructions := { descriptor.instructions with stripGroup := some "true" } }) := by
  obtain ⟨members, rfl, isValid⟩ := checkModel_eq_valid_iff.mp valid
  obtain ⟨dependencies, instructions, headers⟩ := ofMembers_eq_valid_iff.mp isValid
  let less : Members := members.map fun (key, value) => (key, choice.drop key value)
  have stands (key : Text) : less.lookup key = (members.lookup key).map (choice.drop key) :=
    Mapping.lookup_map members choice.drop key
  have dependencies' : optionalField less "dependencies" [] (checkList DependencyEntry.check) =
      .valid descriptor.dependencies :=
    optionalField_keeps members _ (stands "dependencies")
      (checkList_dropItemNulls choice.ofDependency) _ dependencies
  have headers' : optionalField less "headers" [] (checkMapping (checkNullable checkString)) =
      .valid descriptor.headers :=
    optionalField_keeps members _ (stands "headers") (fun _ => .of_eq rfl) _ headers
  have whole {edited : Instructions}
      (isEdited : optionalField less "instructions" .standard Instructions.check =
        .valid edited) :
      check (.object less) = .valid { descriptor with instructions := edited } :=
    checkModel_eq_valid_iff.mpr
      ⟨less, rfl, ofMembers_eq_valid_iff.mpr ⟨dependencies', isEdited, headers'⟩⟩
  have ⟨kept, changed⟩ := instructionsField_dropNulls (stands "instructions") instructions
  exact ⟨fun stays => whole (kept stays),
    fun leftOut => ⟨(changed leftOut).1, whole (changed leftOut).2⟩⟩

/-- What is loaded from a document without some of the nulls in its dependencies and its
instructions: the same dependencies, headers and settings, except that the group is taken away
where the flag for it is among these nulls, and was not before. -/
theorem Descriptor.load_withoutNulls {files files' : FileTree} {path : Path} {value : JsonValue}
    {descriptor : Descriptor} {dependencies : List Dependency} {choice : NullChoice}
    (holds : files.HoldsDocument path value)
    (loaded : load files path = .ok (descriptor, dependencies))
    (holdsLess : files'.HoldsDocument path (value.withoutNulls choice)) :
    ∃ descriptor', load files' path = .ok (descriptor', dependencies) ∧
      descriptor'.dependencies = descriptor.dependencies ∧
      descriptor'.headers = descriptor.headers ∧
      (¬ choice.DropsGroupFlag value →
        descriptor'.instructions.toSettings = descriptor.instructions.toSettings) ∧
      (choice.DropsGroupFlag value →
        descriptor.instructions.toSettings.stripGroup = false ∧
          descriptor'.instructions.toSettings =
            { descriptor.instructions.toSettings with stripGroup := true }) := by
  obtain ⟨valid, rfl⟩ : check value = .valid descriptor ∧
      dependencies = descriptor.dependenciesIn path.parent := by
    cases isChecked : check value with
    | valid known =>
        cases (load_of_holdsDocument holds isChecked).symm.trans loaded
        exact ⟨rfl, rfl⟩
    | invalid faults =>
        obtain ⟨text, isRead, isJson⟩ := holds
        simp [load, isRead, bind, Except.bind, ofText, isJson, isChecked] at loaded
  obtain ⟨kept, changed⟩ := check_withoutNulls valid choice
  by_cases leftOut : choice.DropsGroupFlag value
  · obtain ⟨isNull, valid'⟩ := changed leftOut
    have wasUnset : descriptor.instructions.toSettings.stripGroup = false := by
      rw [Instructions.toSettings, isNull]
      rfl
    have loaded' := load_of_holdsDocument holdsLess valid'
    exact ⟨_, loaded', rfl, rfl, absurd leftOut, fun _ => ⟨wasUnset, rfl⟩⟩
  · exact ⟨_, load_of_holdsDocument holdsLess (kept leftOut), rfl, rfl, fun _ => rfl,
      fun isLeftOut => absurd isLeftOut leftOut⟩

/-! ### Two documents -/

namespace NullFields

/-- The tree of a run with a descriptor. -/
def files (text : String) : FileTree :=
  ⟨[(["run", "build.json"], .file text.toUTF8)], ["run"]⟩

/-- A dependency without a scope, before more fields. -/
def dependency : String :=
  "\x7b\"group_id\": \"g\", \"artifact_id\": \"a\", \"version\": \"1\", \"optional\": null"

/-- A document with nulls in a dependency and in the instructions. -/
def stated : FileTree :=
  files ("\x7b\"dependencies\": [" ++ dependency ++ ", \"scope\": null\x7d], " ++
    "\"instructions\": \x7b\"embed_strip_group\": null, \"embed_directory\": null\x7d\x7d")

/-- The document without two of its nulls. -/
def less : FileTree :=
  files ("\x7b\"dependencies\": [" ++ dependency ++ "\x7d], " ++
    "\"instructions\": \x7b\"embed_strip_group\": null\x7d\x7d")

/-- The document without nulls in its instructions. -/
def lesser : FileTree :=
  files ("\x7b\"dependencies\": [" ++ dependency ++ ", \"scope\": null\x7d], " ++
    "\"instructions\": \x7b\x7d\x7d")

/-- The value of the document. -/
def document : JsonValue :=
  .object [
    ("dependencies", .array [.object [("group_id", .string "g"), ("artifact_id", .string "a"),
      ("version", .string "1"), ("optional", .null), ("scope", .null)]]),
    ("instructions", .object [("embed_strip_group", .null), ("embed_directory", .null)])]

/-- What the document says. -/
def descriptor : Descriptor where
  dependencies := [⟨"g", "a", "1", none, none, none, none, none, none, none, true⟩]
  instructions := ⟨none, none, none, none, none⟩
  headers := []

/-- The scope of the dependency and the directory are left out. -/
def choice : NullChoice :=
  ⟨fun number key => number = 0 ∧ key = "scope", fun key => key = "embed_directory"⟩

/-- All nulls of the instructions are left out. -/
def choiceOfInstructions : NullChoice := ⟨fun _ _ => false, fun _ => true⟩

/-- The file holds the document. -/
theorem holds : stated.HoldsDocument (Path.ofText "build.json") document := by
  decide +kernel

/-- The document is loaded as the descriptor. -/
theorem loaded : Descriptor.load stated (Path.ofText "build.json") =
    .ok (descriptor, descriptor.dependenciesIn (Path.ofText "build.json").parent) :=
  Descriptor.load_of_holdsDocument holds (by decide +kernel)

end NullFields

open NullFields in
theorem Descriptor.load_withoutNulls_scope_and_directory :
    stated.HoldsDocument (Path.ofText "build.json") document ∧
      load stated (Path.ofText "build.json") =
        .ok (descriptor, descriptor.dependenciesIn (Path.ofText "build.json").parent) ∧
      less.HoldsDocument (Path.ofText "build.json") (document.withoutNulls choice) ∧
      ¬ choice.DropsGroupFlag document ∧
      ∃ descriptor', load less (Path.ofText "build.json") =
          .ok (descriptor', descriptor.dependenciesIn (Path.ofText "build.json").parent) ∧
        descriptor'.dependencies = descriptor.dependencies ∧
        descriptor'.instructions.toSettings = descriptor.instructions.toSettings := by
  have holdsLess :
      less.HoldsDocument (Path.ofText "build.json") (document.withoutNulls choice) := by
    decide +kernel
  have stays : ¬ choice.DropsGroupFlag document := by decide +kernel
  obtain ⟨descriptor', loaded', dependencies, -, settings, -⟩ :=
    load_withoutNulls holds loaded holdsLess
  exact ⟨holds, loaded, holdsLess, stays, descriptor', loaded', dependencies, settings stays⟩

open NullFields in
/-- Where the flag for taking the group away is null, leaving it out changes the settings. -/
theorem not_load_withoutNulls_of_strip_group :
    ¬ ∀ (files files' : FileTree) (path : Path) (value : JsonValue) (choice : NullChoice)
        (descriptor : Descriptor) (dependencies : List Dependency),
      files.HoldsDocument path value →
        Descriptor.load files path = .ok (descriptor, dependencies) →
          files'.HoldsDocument path (value.withoutNulls choice) →
            ∃ descriptor', Descriptor.load files' path = .ok (descriptor', dependencies) ∧
              descriptor'.instructions.toSettings = descriptor.instructions.toSettings := by
  intro same
  have holdsLesser : lesser.HoldsDocument (Path.ofText "build.json")
      (document.withoutNulls choiceOfInstructions) := by decide +kernel
  obtain ⟨descriptor', loaded', settings⟩ :=
    same stated lesser (Path.ofText "build.json") document choiceOfInstructions descriptor _
      holds loaded holdsLesser
  have valid : Descriptor.check (document.withoutNulls choiceOfInstructions) =
      .valid { descriptor with instructions := .standard } := by decide +kernel
  cases (Descriptor.load_of_holdsDocument holdsLesser valid).symm.trans loaded'
  exact absurd settings (by decide)

end BundleEmbed
