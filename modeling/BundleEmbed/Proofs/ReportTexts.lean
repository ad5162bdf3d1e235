import BundleEmbed.Proofs.HeaderForm
import BundleEmbed.Proofs.JoinedTexts
import BundleEmbed.Proofs.Json.Pairs
import BundleEmbed.Proofs.Reordering
import BundleEmbed.Proofs.StatedFiles

/-!
The texts of a report.

A report names dependencies by their coordinates and shows the headers. All these texts are made
of texts of the descriptor, of arguments and of variables: they are trimmed, split at slashes and
joined by marks. No two halves of a pair come together in this way.

* `Dependency.IsUnpaired`, `Headers.IsUnpaired`: the texts that go into a report have no pairs.
* `Dependency.IsUnpaired.coordinates`, `unpaired_targetOf`: what is made of them has none.
* `Headers.IsUnpaired.emit`, `EmbedResult.isUnpaired_of_embedAll`: nor has what a run gives.
* `Descriptor.isUnpaired_of_load`: nor has what is loaded.
-/

namespace BundleEmbed

open Regex (Release)

/-! ### Texts that are put together -/

section Texts

variable {first second : Text}

/-- A text of characters. -/
theorem unpaired_ofString (string : String) : Unpaired (Text.ofString string).toList :=
  Unpaired.characters string.toList

/-- Two texts with a character between them. -/
theorem Unpaired.joined {mark : Text} {c : Char} (isMark : mark.toList = [.char c])
    (unpaired : Unpaired first.toList) (unpaired' : Unpaired second.toList) :
    Unpaired (first ++ mark ++ second).toList := by
  rw [Text.append_assoc, Text.toList_append, Text.toList_append, isMark]
  exact unpaired.append_cons unpaired' c

/-- Texts that are joined by a character. -/
theorem Unpaired.intercalate {mark : Text} {c : Char} (isMark : mark.toList = [.char c])
    {texts : List Text} (unpaired : ∀ text ∈ texts, Unpaired text.toList) :
    Unpaired (mark.intercalate texts).toList := by
  induction texts with
  | nil => exact Unpaired.nil
  | cons first later ih =>
      obtain ⟨unpairedFirst, unpairedLater⟩ := List.forall_mem_cons.mp unpaired
      cases later with
      | nil => simpa using unpairedFirst
      | cons second later =>
          rw [Text.intercalate_cons_cons]
          exact .joined isMark unpairedFirst (ih unpairedLater)

theorem unpaired_trimBlanks (unpaired : Unpaired first.toList) :
    Unpaired (trimBlanks first).toList := by
  refine unpaired.part ?_
  unfold trimBlanks
  have front : (first.toList.dropWhile isBlank) <:+: first.toList :=
    (List.dropWhile_suffix _).isInfix
  have back : ((first.toList.dropWhile isBlank).reverse.dropWhile isBlank).reverse <:+:
      first.toList.dropWhile isBlank := by
    rw [← List.reverse_reverse (first.toList.dropWhile isBlank), List.reverse_infix,
      List.reverse_reverse]
    exact (List.dropWhile_suffix _).isInfix
  exact back.trans front

end Texts

/-! ### Dependencies and their places -/

/-- The texts of a dependency that go into a report have no pairs. -/
structure Dependency.IsUnpaired (d : Dependency) : Prop where
  groupId : Unpaired d.groupId.toList
  artifactId : Unpaired d.artifactId.toList
  version : Unpaired d.version.toList
  type : ∀ text ∈ d.type, Unpaired text.toList
  classifier : ∀ text ∈ d.classifier, Unpaired text.toList
  extension : ∀ text ∈ d.extension, Unpaired text.toList
  file : ∀ path ∈ d.file, ∀ segment ∈ path.segments, Unpaired segment.text.toList

/-- Coordinates have no pairs. -/
theorem Dependency.IsUnpaired.coordinates {d : Dependency} (unpaired : d.IsUnpaired) :
    Unpaired d.coordinates.toList := by
  have given {field : Option Text} (isField : ∀ text ∈ field, Unpaired text.toList) (text : Text)
      (isText : text ∈ Dependency.nonempty field) : Unpaired text.toList :=
    isField text (Option.mem_filter_iff.mp isText).1
  refine Unpaired.intercalate (c := ':') rfl ?_
  simp only [coordinateParts, List.forall_mem_append, List.forall_mem_cons, List.not_mem_nil,
    Option.mem_toList]
  refine ⟨⟨⟨unpaired.groupId, unpaired.artifactId, ?_, nofun⟩, given unpaired.classifier⟩,
    unpaired.version, nofun⟩
  cases isType : Dependency.nonempty d.type with
  | none => exact unpaired_ofString "jar"
  | some type => exact given unpaired.type type isType

section Paths

variable {path : Path}

/-- The text of a path has no pairs if its names have none. -/
theorem Path.unpaired_text (unpaired : ∀ segment ∈ path.segments, Unpaired segment.text.toList) :
    Unpaired path.text.toList := by
  have names : Unpaired (Text.intercalate "/" (path.segments.map (·.text))).toList :=
    Unpaired.intercalate (c := '/') rfl (List.forall_mem_map.mpr unpaired)
  unfold text
  split
  · exact unpaired_ofString "."
  · cases path.anchor with
    | relative => exact names
    | root => exact Unpaired.nil.append_cons names '/'
    | doubleRoot => exact (Unpaired.characters ['/']).append_cons names '/'

theorem Path.unpaired_name (unpaired : ∀ segment ∈ path.segments, Unpaired segment.text.toList) :
    Unpaired path.name.toList := by
  unfold name
  cases last : path.segments.getLast? with
  | none => exact Unpaired.nil
  | some segment => exact unpaired segment (List.mem_of_getLast? last)

/-- The names of a path that a text writes are parts of the text. -/
theorem Path.unpaired_segments_ofText {text : Text} (unpaired : Unpaired text.toList) :
    ∀ segment ∈ (ofText text).segments, Unpaired segment.text.toList := by
  intro segment isSegment
  obtain ⟨part, isPart, given⟩ := List.mem_filterMap.mp isSegment
  unfold Segment.ofChars? at given
  split at given
  · cases given
    exact unpaired.part (infix_of_mem_splitOn isPart)
  · cases given

end Paths

/-- A place below another has no pairs: a slash stands between the two. -/
theorem unpaired_joinPlace {base place : Text} (unpaired : Unpaired base.toList)
    (unpaired' : Unpaired place.toList) : Unpaired (joinPlace base place).toList := by
  unfold joinPlace
  split_ifs with absolute between
  · exact unpaired'
  · rcases between with rfl | slash
    · exact unpaired'
    · obtain ⟨before, isBase⟩ := List.getLast?_eq_some_iff.mp slash
      have whole : (base ++ place).toList = before ++ .char '/' :: place.toList := by
        rw [Text.toList_append, isBase, List.append_assoc, List.singleton_append]
      have front : before <:+: base.toList := isBase ▸ (List.prefix_append _ _).isInfix
      rw [whole]
      exact (unpaired.part front).append_cons unpaired' '/'
  · exact .joined (c := '/') rfl unpaired unpaired'

section Places

variable {d : Dependency} {source : Path} {settings : Settings}

/-- The place of a file has no pairs. -/
theorem unpaired_targetOf (unpaired : d.IsUnpaired)
    (unpairedSource : ∀ segment ∈ source.segments, Unpaired segment.text.toList)
    (unpairedDirectory : ∀ text ∈ settings.directory, Unpaired text.toList) :
    Unpaired (targetOf d source settings).toList := by
  have name : Unpaired (placedName d source settings).toList := by
    unfold placedName
    split
    · split
      · rename_i extension isExtension
        exact .joined (c := '.') rfl unpaired.artifactId (unpaired.extension _ isExtension)
      · exact unpaired.artifactId
    · exact Path.unpaired_name unpairedSource
  have parts : ∀ part ∈ placeParts d source settings, Unpaired part.toList := by
    unfold placeParts Settings.place?
    simp only [List.forall_mem_append, Option.mem_toList, List.forall_mem_singleton]
    refine ⟨⟨fun part isPart => unpairedDirectory part (Option.mem_filter_iff.mp isPart).1, ?_⟩,
      name⟩
    split
    · exact nofun
    · exact List.forall_mem_singleton.mpr unpaired.groupId
  unfold targetOf
  cases isParts : placeParts d source settings with
  | nil => exact Unpaired.nil
  | cons first later =>
      rw [isParts] at parts
      obtain ⟨unpairedFirst, unpairedLater⟩ := List.forall_mem_cons.mp parts
      clear isParts parts
      induction later generalizing first with
      | nil => exact unpairedFirst
      | cons part later ih =>
          obtain ⟨unpairedPart, unpairedLater⟩ := List.forall_mem_cons.mp unpairedLater
          exact ih _ (unpaired_joinPlace unpairedFirst unpairedPart) unpairedLater

end Places

/-! ### Headers -/

/-- The texts of the headers have no pairs. -/
structure Headers.IsUnpaired (headers : Headers) : Prop where
  classPath : ∀ text ∈ headers.classPath, Unpaired text.toList
  resources : ∀ text ∈ headers.resources, Unpaired text.toList

section Entries

variable {existing : Option Text} {entries : List Text}

theorem unpaired_classPathWith (unpaired : ∀ text ∈ existing, Unpaired text.toList)
    (unpairedEntries : ∀ entry ∈ entries, Unpaired entry.toList) :
    ∀ text ∈ classPathWith existing entries, Unpaired text.toList := by
  have joined {texts : List Text} (areUnpaired : ∀ text ∈ texts, Unpaired text.toList) :
      ∀ text ∈ some (Text.intercalate "," texts), Unpaired text.toList := by
    rintro _ ⟨⟩
    exact Unpaired.intercalate (c := ',') rfl areUnpaired
  unfold classPathWith
  split
  · split
    · exact nofun
    · exact joined (List.forall_mem_cons.mpr ⟨unpaired_ofString ".", unpairedEntries⟩)
  · split
    · exact joined fun text isOne => unpairedEntries text ((List.dropWhile_sublist _).mem isOne)
    · exact joined (List.forall_mem_cons.mpr ⟨unpaired _ rfl, unpairedEntries⟩)

theorem unpaired_resourcesWith (unpaired : ∀ text ∈ existing, Unpaired text.toList)
    (unpairedEntries : ∀ entry ∈ entries, Unpaired entry.toList) :
    ∀ text ∈ resourcesWith existing entries, Unpaired text.toList := by
  unfold resourcesWith
  split
  · exact unpaired
  · rintro _ ⟨⟩
    refine Unpaired.intercalate (c := ',') rfl (List.forall_mem_append.mpr ⟨?_, unpairedEntries⟩)
    intro text isText
    exact unpaired text (Option.mem_filter_iff.mp (Option.mem_toList.mp isText)).1

end Entries

section Runs

variable {files : FileTree} {settings : Settings} {existing : Headers}

/-- Placing dependencies makes headers without pairs. -/
theorem Headers.IsUnpaired.emit {headers : Headers} {inlined embedded : List Dependency}
    (unpaired : existing.IsUnpaired)
    (unpairedDirectory : ∀ text ∈ settings.directory, Unpaired text.toList)
    (unpairedInlined : ∀ d ∈ inlined, d.IsUnpaired)
    (unpairedEmbedded : ∀ d ∈ embedded, d.IsUnpaired)
    (emitted : existing.emit files settings inlined embedded = .ok headers) :
    headers.IsUnpaired := by
  have source {d : Dependency} {path : Path} (isUnpaired : d.IsUnpaired)
      (isPlaced : placedFile files d = some path) :
      ∀ segment ∈ path.segments, Unpaired segment.text.toList :=
    isUnpaired.file path (Option.mem_filter_iff.mp isPlaced).1
  rw [Headers.emit_eq emitted]
  constructor
  · refine unpaired_classPathWith unpaired.classPath fun entry isEntry => ?_
    obtain ⟨d, isOne, given⟩ := List.mem_filterMap.mp isEntry
    obtain ⟨path, isPlaced, rfl⟩ := Option.map_eq_some_iff.mp given
    have isUnpaired := unpairedEmbedded d isOne
    exact unpaired_targetOf isUnpaired (source isUnpaired isPlaced) unpairedDirectory
  · refine unpaired_resourcesWith unpaired.resources (List.forall_mem_append.mpr ⟨?_, ?_⟩)
    · intro entry isEntry
      obtain ⟨d, isOne, given⟩ := List.mem_filterMap.mp isEntry
      obtain ⟨path, isPlaced, rfl⟩ := Option.map_eq_some_iff.mp given
      exact Unpaired.nil.append_cons
        (Path.unpaired_text (source (unpairedInlined d isOne) isPlaced)) '@'
    · intro entry isEntry
      obtain ⟨d, isOne, given⟩ := List.mem_filterMap.mp isEntry
      obtain ⟨path, isPlaced, rfl⟩ := Option.map_eq_some_iff.mp given
      have isUnpaired := unpairedEmbedded d isOne
      have isSource := source isUnpaired isPlaced
      exact .joined (c := '=') rfl (unpaired_targetOf isUnpaired isSource unpairedDirectory)
        (Path.unpaired_text isSource)

/-- What a run gives has texts without pairs. -/
structure EmbedResult.IsUnpaired (result : EmbedResult) : Prop where
  inlined : ∀ d ∈ result.inlined, d.IsUnpaired
  embedded : ∀ d ∈ result.embedded, d.IsUnpaired
  headers : result.headers.IsUnpaired

theorem EmbedResult.isUnpaired_of_embedAll [Release] {dependencies : List Dependency}
    {result : EmbedResult} (unpaired : ∀ d ∈ dependencies, d.IsUnpaired)
    (unpairedExisting : existing.IsUnpaired)
    (unpairedDirectory : ∀ text ∈ settings.directory, Unpaired text.toList)
    (returned : (embedAll dependencies files settings existing).result = .ok result) :
    result.IsUnpaired := by
  rcases embedAll_cases dependencies files settings existing with
    ⟨-, given, -⟩ |
    ⟨-, -, ⟨fault, -, refused⟩ | ⟨whole, ⟨failure, -, failed⟩ | ⟨headers, emitted, given⟩⟩⟩
  · cases given.symm.trans returned
    exact ⟨nofun, nofun, unpairedExisting⟩
  · cases refused.symm.trans returned
  · cases failed.symm.trans returned
  · cases given.symm.trans returned
    have listed {d : Dependency} := @Settings.mem_of_mem_sorted _ settings dependencies whole d
    have inlined : ∀ d ∈ (settings.pass dependencies).classification.sortedInlined,
        d.IsUnpaired := fun d isOne => unpaired d (listed (List.mem_append_left _ isOne))
    have embedded : ∀ d ∈ (settings.pass dependencies).classification.sortedEmbedded,
        d.IsUnpaired := fun d isOne => unpaired d (listed (List.mem_append_right _ isOne))
    exact ⟨inlined, embedded, unpairedExisting.emit unpairedDirectory inlined embedded emitted⟩

end Runs

/-! ### Descriptors -/

/-- A member of a list is related to some member of a list that is related to it. -/
theorem exists_of_forall₂ {α β : Type} {related : α → β → Prop} {as : List α} {bs : List β}
    (areRelated : List.Forall₂ related as bs) {b : β} (isOne : b ∈ bs) :
    ∃ a ∈ as, related a b := by
  induction areRelated with
  | nil => cases isOne
  | cons isRelated _ ih =>
      rcases List.mem_cons.mp isOne with rfl | isLater
      · exact ⟨_, List.mem_cons_self, isRelated⟩
      · obtain ⟨a, isA, isRelated⟩ := ih isLater
        exact ⟨a, List.mem_cons_of_mem _ isA, isRelated⟩

section Fields

variable {members : Members} {name : Text}

/-- What stands under a name is the value of a member. -/
theorem isUnpaired_of_lookup {value : JsonValue}
    (unpaired : ∀ member ∈ members, member.2.IsUnpaired)
    (stands : members.lookup name = some value) : value.IsUnpaired := by
  obtain ⟨before, after, rfl, -⟩ := List.lookup_eq_some_iff.mp stands
  exact unpaired (name, value) (List.mem_append_right _ List.mem_cons_self)

/-- A trimmed text of a document has no pairs. -/
theorem unpaired_of_requiredField {text : Text}
    (unpaired : ∀ member ∈ members, member.2.IsUnpaired)
    (valid : requiredField members name checkTrimmed = .valid text) : Unpaired text.toList := by
  unfold requiredField at valid
  split at valid
  · rename_i value stands
    have isTrimmed := Checked.under_eq_valid_iff.mp valid
    cases value with
    | string whole =>
        cases isTrimmed
        exact unpaired_trimBlanks (isUnpaired_of_lookup unpaired stands whole .here)
    | _ => cases isTrimmed
  · cases valid

/-- Nor has a text that may be absent. -/
theorem unpaired_of_textField {result : Option Text}
    (unpaired : ∀ member ∈ members, member.2.IsUnpaired)
    (valid : textField members name = .valid result) :
    ∀ text ∈ result, Unpaired text.toList := by
  rcases textField_cases valid with ⟨rfl, -⟩ | ⟨text, rfl, stands⟩
  · exact nofun
  · rintro _ ⟨⟩
    exact isUnpaired_of_lookup unpaired stands text .here

/-- Under a key of the headers of a document there is a text without pairs. -/
theorem unpaired_of_headersField {properties : Properties} {key text : Text}
    (unpaired : ∀ member ∈ members, member.2.IsUnpaired)
    (valid : optionalField members name [] (checkMapping (checkNullable checkString)) =
      .valid properties)
    (isText : properties.text? key = some text) : Unpaired text.toList := by
  unfold Properties.text? at isText
  obtain ⟨before, after, rfl, -⟩ := List.lookup_eq_some_iff.mp (Option.join_eq_some_iff.mp isText)
  rcases optionalField_cases valid with ⟨-, nothing⟩ | ⟨value, stands, isMapping⟩
  · cases (List.append_eq_nil_iff.mp nothing).2
  · cases value with
    | object headers =>
        obtain ⟨⟨known, value⟩, isMember, isPair⟩ := exists_of_forall₂
          (Checked.all_eq_valid_iff.mp isMapping)
          (List.mem_append_right before List.mem_cons_self)
        obtain ⟨result, isValue, same⟩ := Checked.map_eq_valid_iff.mp isPair
        obtain rfl : result = some text := congrArg Prod.snd same
        have isUnpaired := JsonValue.isUnpaired_object_iff.mp
          (isUnpaired_of_lookup unpaired stands) _ isMember
        have isChecked := Checked.under_eq_valid_iff.mp isValue
        cases value with
        | string whole =>
            cases isChecked
            exact isUnpaired _ .here
        | _ => cases isChecked
    | _ => cases isMapping

end Fields

/-- A dependency of a document has texts without pairs, seen from a directory without any. -/
theorem DependencyEntry.isUnpaired_toDependency {value : JsonValue} {entry : DependencyEntry}
    {base : Path} (unpaired : value.IsUnpaired) (valid : check value = .valid entry)
    (unpairedBase : ∀ segment ∈ base.segments, Unpaired segment.text.toList) :
    (entry.toDependency (some base)).IsUnpaired := by
  obtain ⟨members, rfl, isValid⟩ := checkModel_eq_valid_iff.mp valid
  have areUnpaired := JsonValue.isUnpaired_object_iff.mp unpaired
  obtain ⟨group, artifact, version, -, -, type, classifier, -, file, extension, -⟩ :=
    ofMembers_eq_valid_iff.mp isValid
  constructor
  · exact unpaired_of_requiredField areUnpaired group
  · exact unpaired_of_requiredField areUnpaired artifact
  · exact unpaired_of_requiredField areUnpaired version
  · exact unpaired_of_textField areUnpaired type
  · exact unpaired_of_textField areUnpaired classifier
  · exact unpaired_of_textField areUnpaired extension
  · intro path isPath
    obtain ⟨text, isText, rfl⟩ := Option.map_eq_some_iff.mp isPath
    have names := Path.unpaired_segments_ofText
      (unpaired_of_textField areUnpaired file text (Option.mem_filter_iff.mp isText).1)
    have joined : ∀ segment ∈ (base.join (Path.ofText text)).segments,
        Unpaired segment.text.toList := by
      unfold Path.join
      split
      · exact names
      · exact List.forall_mem_append.mpr ⟨unpairedBase, names⟩
    exact joined

/-- A descriptor that is loaded is one in a document that its file holds. -/
theorem Descriptor.exists_document_of_load {files : FileTree} {path : Path}
    {descriptor : Descriptor} {dependencies : List Dependency}
    (loaded : load files path = .ok (descriptor, dependencies)) :
    ∃ value, files.HoldsDocument path value := by
  obtain ⟨text, isText, isDescriptor⟩ := bind_eq_ok_iff.mp loaded
  obtain ⟨_, isDescriptor, -⟩ := bind_eq_ok_iff.mp isDescriptor
  unfold ofText at isDescriptor
  split at isDescriptor
  · cases isDescriptor
  · cases isDescriptor
  · rename_i value isValue
    exact ⟨value, text, isText, isValue⟩

/-- What is loaded from a path of characters has texts without pairs. -/
theorem Descriptor.isUnpaired_of_load {files : FileTree} {path : String} {descriptor : Descriptor}
    {dependencies : List Dependency}
    (loaded : load files (Path.ofText path) = .ok (descriptor, dependencies)) :
    (∀ d ∈ dependencies, d.IsUnpaired) ∧ descriptor.existingHeaders.IsUnpaired ∧
      ∀ text ∈ descriptor.instructions.directory, Unpaired text.toList := by
  obtain ⟨value, holds⟩ := exists_document_of_load loaded
  obtain ⟨valid, rfl⟩ := (load_eq_ok_iff holds).mp loaded
  obtain ⟨text, -, isRead⟩ := holds
  obtain ⟨members, rfl, isValid⟩ := checkModel_eq_valid_iff.mp valid
  have unpaired := JsonValue.isUnpaired_object_iff.mp (JsonValue.IsUnpaired.of_read isRead)
  obtain ⟨dependencies, instructions, headers⟩ := ofMembers_eq_valid_iff.mp isValid
  refine ⟨?_, ⟨fun text => ?_, fun text => ?_⟩, ?_⟩
  · have base : ∀ segment ∈ (Path.ofText path).parent.segments, Unpaired segment.text.toList :=
      fun segment isSegment => Path.unpaired_segments_ofText (unpaired_ofString path) segment
        ((List.dropLast_sublist _).mem isSegment)
    refine List.forall_mem_map.mpr fun entry isEntry => ?_
    rcases optionalField_cases dependencies with ⟨-, none⟩ | ⟨value, stands, isList⟩
    · rw [none] at isEntry
      cases isEntry
    · obtain ⟨items, rfl, areValid⟩ := checkList_eq_valid_iff.mp isList
      obtain ⟨item, isItem, isValid⟩ := exists_of_forall₂ areValid isEntry
      have areUnpaired := JsonValue.isUnpaired_array_iff.mp (isUnpaired_of_lookup unpaired stands)
      exact DependencyEntry.isUnpaired_toDependency (areUnpaired item isItem) isValid base
  · exact unpaired_of_headersField unpaired headers
  · exact unpaired_of_headersField unpaired headers
  · rcases optionalField_cases instructions with ⟨-, standard⟩ | ⟨value, stands, isInstructions⟩
    · rw [standard]
      exact nofun
    · obtain ⟨inner, rfl, isValid⟩ := checkModel_eq_valid_iff.mp isInstructions
      obtain ⟨-, directory, -⟩ := Instructions.ofMembers_eq_valid_iff.mp isValid
      exact unpaired_of_textField
        (JsonValue.isUnpaired_object_iff.mp (isUnpaired_of_lookup unpaired stands)) directory

end BundleEmbed
