import BundleEmbed.Descriptor.Model
import BundleEmbed.Proofs.HeaderForm
import BundleEmbed.Proofs.WriteBack

/-!
The properties that state what a descriptor says.

The settings and the headers of a run come from a descriptor or from properties. Each way has
its own reading of what is absent, null or empty. Where the properties state what the descriptor
says, both ways make the same run, and the headers that it gives are written into the properties.

* `Descriptor.statedBy_toProperties`: the properties of a descriptor state what it says.
* `Settings.ofProperties_of_statedBy`, `Headers.ofProperties_of_statedBy`: settings and headers
  are read from properties as from the descriptor that they state.
* `Embedder.processProperties_of_statedBy`: the two ways of making a run agree.
-/

namespace BundleEmbed

open Regex (Release)

/-! ### Stating a descriptor -/

/-- Properties state a flag: they have its text. For a flag without a text they have one that
does not set it. -/
def Properties.StatesFlag (properties : Properties) (key : Text) (flag : Option Text) : Prop :=
  ∃ text, properties.lookup key = some (some text) ∧
    flag.elim (isTrueText text = false) (text = ·)

/-- Properties state what a descriptor says, whatever else they hold: its headers and its
directory if they are not null, and its flags. -/
structure Descriptor.StatedBy (descriptor : Descriptor) (properties : Properties) : Prop where
  classPath : properties.lookup Headers.classPathKey =
    (descriptor.headers.text? Headers.classPathKey).map some
  resources : properties.lookup Headers.resourcesKey =
    (descriptor.headers.text? Headers.resourcesKey).map some
  directory : properties.lookup Settings.directoryKey =
    descriptor.instructions.directory.map some
  stripGroup : properties.StatesFlag Settings.stripGroupKey descriptor.instructions.stripGroup
  stripVersion : properties.StatesFlag Settings.stripVersionKey
    descriptor.instructions.stripVersion
  transitive : properties.StatesFlag Settings.transitiveKey descriptor.instructions.transitive

/-- The properties of a descriptor, with a text for the flags that have none. -/
def Descriptor.toProperties (descriptor : Descriptor) (unset : Text) : Properties :=
  let stated := fun key (text : Option Text) => text.toList.map fun text => (key, some text)
  stated Headers.classPathKey (descriptor.headers.text? Headers.classPathKey) ++
    stated Headers.resourcesKey (descriptor.headers.text? Headers.resourcesKey) ++
    stated Settings.directoryKey descriptor.instructions.directory ++
    [(Settings.stripGroupKey, some (descriptor.instructions.stripGroup.getD unset)),
      (Settings.stripVersionKey, some (descriptor.instructions.stripVersion.getD unset)),
      (Settings.transitiveKey, some (descriptor.instructions.transitive.getD unset))]

/-- The properties of a descriptor state what it says. -/
theorem Descriptor.statedBy_toProperties (descriptor : Descriptor) {unset : Text}
    (isUnset : isTrueText unset = false) :
    descriptor.StatedBy (descriptor.toProperties unset) := by
  let properties := descriptor.toProperties unset
  let instructions := descriptor.instructions
  have texts :
      properties.lookup Headers.classPathKey =
          (descriptor.headers.text? Headers.classPathKey).map some ∧
        properties.lookup Headers.resourcesKey =
          (descriptor.headers.text? Headers.resourcesKey).map some ∧
        properties.lookup Settings.directoryKey = instructions.directory.map some ∧
        properties.lookup Settings.stripGroupKey =
          some (some (instructions.stripGroup.getD unset)) ∧
        properties.lookup Settings.stripVersionKey =
          some (some (instructions.stripVersion.getD unset)) ∧
        properties.lookup Settings.transitiveKey =
          some (some (instructions.transitive.getD unset)) := by
    simp only [properties, instructions, toProperties]
    cases descriptor.headers.text? Headers.classPathKey <;>
      cases descriptor.headers.text? Headers.resourcesKey <;>
        cases descriptor.instructions.directory <;>
          exact ⟨rfl, rfl, rfl, rfl, rfl, rfl⟩
  have states : ∀ flag : Option Text,
      flag.elim (isTrueText (flag.getD unset) = false) (flag.getD unset = ·) := by
    intro flag
    cases flag
    · exact isUnset
    · rfl
  obtain ⟨classPath, resources, directory, stripGroup, stripVersion, transitive⟩ := texts
  exact ⟨classPath, resources, directory, ⟨_, stripGroup, states _⟩, ⟨_, stripVersion, states _⟩,
    ⟨_, transitive, states _⟩⟩

/-! ### Reading what is stated -/

section Reading

variable {descriptor : Descriptor} {properties : Properties}

/-- A text that is stated if there is one is read. -/
theorem Properties.text?_of_lookup {key : Text} {text : Option Text}
    (stated : properties.lookup key = text.map some) : properties.text? key = text := by
  rw [text?, stated]
  cases text <;> rfl

/-- A flag that is stated is read, whatever it would be if its key were absent. -/
theorem Properties.StatesFlag.isSet_eq {key : Text} {flag : Option Text}
    (stated : properties.StatesFlag key flag) :
    isSet (properties.text? key) = isSet flag ∧
      ∀ absent, isSet ((properties.lookup key).getD absent) = isSet flag := by
  obtain ⟨text, found, states⟩ := stated
  have same : isSet (some text) = isSet flag := by
    cases flag with
    | none => exact states
    | some known => rw [show text = known from states]
  rw [text?, found]
  exact ⟨same, fun _ => same⟩

/-- The settings are read from properties as from the instructions that they state. -/
theorem Settings.ofProperties_of_statedBy (stated : descriptor.StatedBy properties) :
    ofProperties properties descriptor.instructions.clauses =
      descriptor.instructions.toSettings := by
  have directory := Properties.text?_of_lookup stated.directory
  have group := stated.stripGroup.isSet_eq.2 (some "true")
  have version := stated.stripVersion.isSet_eq.1
  have transitive := stated.transitive.isSet_eq.1
  rw [ofProperties, directory, group, version, transitive]
  rfl

/-- The headers are read from properties as from the descriptor that they state. -/
theorem Headers.ofProperties_of_statedBy (stated : descriptor.StatedBy properties) :
    ofProperties properties = descriptor.existingHeaders := by
  rw [ofProperties, Properties.text?_of_lookup stated.classPath,
    Properties.text?_of_lookup stated.resources]
  rfl

end Reading

/-! ### Both ways of making a run -/

/-- Properties that state headers hold, once these have been extended and written into them,
exactly the extended headers under the keys of headers, and nothing else has changed. -/
theorem Headers.lookup_applyTo_extend {headers : Headers} {properties : Properties}
    (classPath : properties.lookup classPathKey = headers.classPath.map some)
    (resources : properties.lookup resourcesKey = headers.resources.map some)
    (added : Additions) (key : Text) :
    ((headers.extend added).applyTo properties).lookup key =
      if key ∈ keys then ((headers.extend added).toPairs.lookup key).map some
      else properties.lookup key := by
  have kept := headers.extend_or added
  rw [lookup_applyTo]
  by_cases isHeader : key ∈ keys
  · rw [if_pos isHeader]
    rcases List.mem_pair.mp isHeader with rfl | rfl
    · rw [lookup_toPairs_classPath, classPath, ← Option.map_or, kept.1]
    · rw [lookup_toPairs_resources, resources, ← Option.map_or, kept.2]
  · rw [if_neg isHeader, lookup_toPairs_of_not_mem _ isHeader]
    rfl

/-- A call on properties that state what a descriptor says, and a call with the settings and
the headers of the descriptor: on embedders over the same dependencies both end in the same
way, with the same classification to be seen afterwards. If they return, the properties hold
under the keys of the headers exactly the headers of the result, and what they held under the
others. If they fail, the properties are as they were. -/
theorem Embedder.processProperties_of_statedBy [Release] {e e' : Embedder}
    {descriptor : Descriptor}
    {properties : Properties} (sameDependencies : e.dependencies = e'.dependencies)
    (stated : descriptor.StatedBy properties) (files : FileTree) :
    let called := e.processProperties files properties descriptor.instructions.clauses
    let direct := e'.process files descriptor.instructions.toSettings descriptor.existingHeaders
    called.1 = direct.1 ∧ called.2.2 = direct.2 ∧
      match direct.2 with
      | .ok result => ∀ key, called.2.1.lookup key =
          if key ∈ Headers.keys then (result.headers.toPairs.lookup key).map some
          else properties.lookup key
      | .error _ => called.2.1 = properties := by
  intro called direct
  have run : called = _ := e.processProperties_eq files properties descriptor.instructions.clauses
  rw [Settings.ofProperties_of_statedBy stated, Headers.ofProperties_of_statedBy stated,
    sameDependencies] at run
  rw [run]
  refine ⟨rfl, rfl, ?_⟩
  cases ended : direct.2 with
  | error fault =>
      change (embedAll e'.dependencies files _ _).result = _ at ended
      simp only [ended]
  | ok result =>
      change (embedAll e'.dependencies files _ _).result = _ at ended
      intro key
      simp only [ended, embedAll_headers ended]
      exact Headers.lookup_applyTo_extend stated.classPath stated.resources _ key

/-! ### Flags that are null, and an empty header -/

namespace NullFlags

/-- A descriptor with an empty class path, a resource header that is null, and one flag. -/
def descriptor : Descriptor where
  dependencies :=
    [⟨"g", "a", "1", none, none, none, none, none, some "lib/a.jar", none, true⟩]
  instructions := ⟨some [("a", none)], some "", some "TRUE", none, none⟩
  headers := [(Headers.classPathKey, some ""), (Headers.resourcesKey, none)]

/-- The dependencies of the descriptor. -/
def dependencies : List Dependency := descriptor.dependenciesIn (Path.ofText "build.json").parent

/-- What the run gives. -/
def result : EmbedResult := ⟨[], dependencies, ⟨some "a.jar", some "a.jar=lib/a.jar"⟩⟩

/-- This is what it gives. -/
theorem returned : ((Embedder.ofDependencies dependencies).process PlacedFiles.files
    descriptor.instructions.toSettings descriptor.existingHeaders).2 = .ok result :=
  embedAll_result_of_ordered (by decide +kernel)

end NullFlags

open NullFlags in
theorem Embedder.processProperties_of_statedBy_nullFlags :
    let e := Embedder.ofDependencies NullFlags.dependencies
    let properties := descriptor.toProperties "yes"
    let called := e.processProperties PlacedFiles.files properties descriptor.instructions.clauses
    descriptor.StatedBy properties ∧ called.2.2 = .ok result ∧
      called.2.1.lookup Headers.classPathKey = some (some (.ofString "a.jar")) ∧
      called.2.1.lookup Headers.resourcesKey = some (some (.ofString "a.jar=lib/a.jar")) ∧
      called.2.1.lookup Settings.transitiveKey = some (some (.ofString "yes")) := by
  intro e properties called
  have stated : descriptor.StatedBy properties := descriptor.statedBy_toProperties (by decide)
  obtain ⟨-, sameResult, held⟩ := e.processProperties_of_statedBy rfl stated PlacedFiles.files
  have given : (e.process PlacedFiles.files descriptor.instructions.toSettings
      descriptor.existingHeaders).2 = .ok result := returned
  rw [given] at sameResult held
  exact ⟨stated, sameResult, held _, held _, held _⟩

end BundleEmbed
