import BundleEmbed.Proofs.Additions
import BundleEmbed.Proofs.HeaderKeys

/-!
Calls on the same properties, one after the other.

Between two calls the settings may change, and any other key but the headers'. A call that
fails leaves the properties as they are. A call that returns appends to the two headers and
leaves everything else.

* `Assembly.call_cases`: what one call does to the properties.
* `writeBack_closedForm`: what calls one after the other leave, where no entry
  depends on a header.
-/

namespace BundleEmbed

open Regex (Release)

/-! ### The settings among properties -/

/-- The keys of the settings. -/
def Settings.keys : List Text := [directoryKey, stripGroupKey, stripVersionKey, transitiveKey]

/-- The settings among properties, and nothing else. -/
def Properties.settingsOnly (properties : Properties) : Properties :=
  properties.restrict (· ∈ Settings.keys)

/-- Settings are read from nothing but the settings. -/
theorem Settings.ofProperties_settingsOnly (properties : Properties)
    (header : Option ClauseHeader) :
    ofProperties properties.settingsOnly header = ofProperties properties header := by
  have found : ∀ key ∈ keys,
      properties.settingsOnly.lookup key = List.lookup key properties := fun key isSetting =>
    Mapping.lookup_restrict properties _ (decide_eq_true isSetting)
  simp only [ofProperties, Properties.text?, found directoryKey (by decide),
    found stripGroupKey (by decide), found stripVersionKey (by decide),
    found transitiveKey (by decide)]

/-- Writing headers does not touch the settings. -/
theorem Headers.settingsOnly_applyTo (headers : Headers) (properties : Properties) :
    (headers.applyTo properties).settingsOnly = properties.settingsOnly :=
  headers.restrict_applyTo properties (by decide)

/-! ### Steps -/

/-- A key that is none of the headers'. -/
structure PlainKey where
  text : Text
  isPlain : text ∉ Headers.keys

/-- What happens to properties on the way of an assembly: a key that is none of the headers'
is set or taken away, or the dependencies are embedded. -/
inductive Step where
  | set (key : PlainKey) (text : Option Text)
  | unset (key : PlainKey)
  | embed (header : Option ClauseHeader)

/-- What a step changes by itself, without a header. -/
def Step.edit : Step → Properties → Properties
  | .set key text, properties => properties.set key.text text
  | .unset key, properties => properties.unset key.text
  | .embed _, properties => properties

/-- An embedder with the properties that its calls read and write. -/
structure Assembly where
  embedder : Embedder
  properties : Properties

namespace Assembly

/-- The headers among the properties. -/
def headers (a : Assembly) : Headers := Headers.ofProperties a.properties

/-- A call on the properties. -/
def call [Release] (a : Assembly) (files : FileTree) (header : Option ClauseHeader) :
    Assembly × Except EmbedFault EmbedResult :=
  let (embedder, properties, result) := a.embedder.processProperties files a.properties header
  (⟨embedder, properties⟩, result)

/-- An assembly after one step. -/
def step [Release] (files : FileTree) (a : Assembly) : Step → Assembly
  | .set key text => { a with properties := a.properties.set key.text text }
  | .unset key => { a with properties := a.properties.unset key.text }
  | .embed header => (a.call files header).1

/-- An assembly after steps one after the other, calls that fail included. -/
def after [Release] (files : FileTree) (a : Assembly) (steps : List Step) : Assembly :=
  steps.foldl (step files) a

end Assembly

/-! ### Entries of calls -/

/-- What a step adds to the headers where the settings are as given: only a call that returns
adds anything. -/
def Step.additions [Release] (dependencies : List Dependency) (files : FileTree)
    (settings : Properties) : Step → List Additions
  | .embed header =>
      ((Settings.ofProperties settings header).additions dependencies files).toOption.toList
  | _ => []

/-- What steps add to the headers, one after the other. Of the properties only the settings
are known. -/
def additionsAlong [Release] (dependencies : List Dependency) (files : FileTree) :
    Properties → List Step → List Additions
  | _, [] => []
  | settings, step :: later =>
      step.additions dependencies files settings ++
        additionsAlong dependencies files (step.edit settings).settingsOnly later

/-- Additions one after the other. -/
def Additions.concat (all : List Additions) : Additions where
  targets := all.flatMap (·.targets)
  resources := all.flatMap (·.resources)
  nonempty resource isOne := by
    obtain ⟨added, -, given⟩ := List.mem_flatMap.mp isOne
    exact added.nonempty resource given

/-- Extending headers again and again is extending them once. -/
theorem Headers.foldl_extend (headers : Headers) (all : List Additions) :
    all.foldl extend headers = headers.extend (.concat all) := by
  induction all generalizing headers with
  | nil => rfl
  | cons added all ih =>
      rw [List.foldl_cons, ih]
      simp only [extend, Additions.concat, List.flatMap_cons, appendAll, List.foldl_append]

/-! ### One step -/

/-- A step other than a call leaves the headers. -/
theorem Headers.ofProperties_edit (step : Step) (properties : Properties) :
    ofProperties (step.edit properties) = ofProperties properties := by
  have differ : ∀ key : PlainKey, classPathKey ≠ key.text ∧ resourcesKey ≠ key.text := fun key =>
    ⟨fun same => key.isPlain (same ▸ by decide), fun same => key.isPlain (same ▸ by decide)⟩
  cases step with
  | set key text =>
      simp only [Step.edit, ofProperties, Properties.text?,
        Mapping.lookup_set_of_ne text (differ key).1, Mapping.lookup_set_of_ne text (differ key).2]
  | unset key =>
      simp only [Step.edit, ofProperties, Properties.text?,
        Mapping.lookup_unset_of_ne properties (differ key).1,
        Mapping.lookup_unset_of_ne properties (differ key).2]
  | embed => rfl

/-- What a step makes of the settings does not depend on anything else. -/
theorem Properties.settingsOnly_edit (step : Step) (properties : Properties) :
    (step.edit properties.settingsOnly).settingsOnly = (step.edit properties).settingsOnly := by
  unfold settingsOnly
  cases step with
  | set key text =>
      simp only [Step.edit, Mapping.restrict_set, Mapping.restrict_restrict]
  | unset key =>
      simp only [Step.edit, Mapping.restrict_unset, Mapping.restrict_restrict]
  | embed => simp only [Step.edit, Mapping.restrict_restrict]

/-- A call on properties is a run over the dependencies of the embedder. The headers that a
run gives are written into the properties. -/
theorem Embedder.processProperties_eq [Release] (e : Embedder) (files : FileTree)
    (properties : Properties) (header : Option ClauseHeader) :
    let outcome := embedAll e.dependencies files (Settings.ofProperties properties header)
      (Headers.ofProperties properties)
    e.processProperties files properties header =
      ({ e with classification := outcome.classification },
        match outcome.result with
        | .ok result => result.headers.applyTo properties
        | .error _ => properties,
        outcome.result) := by
  simp only [processProperties, process]
  split <;> rename_i given <;> simp [given]

namespace Assembly

/-- A call fails and leaves the properties as they are, or it returns and the headers among
them are extended. -/
theorem call_cases [Release] (a : Assembly) (files : FileTree) (header : Option ClauseHeader) :
    let additions := (Settings.ofProperties a.properties header).additions
      a.embedder.dependencies files
    let after := (a.call files header).1
    after.embedder.dependencies = a.embedder.dependencies ∧
      ((∃ fault, additions = .error fault ∧ (a.call files header).2 = .error fault ∧
          after.properties = a.properties) ∨
        ∃ added result, additions = .ok added ∧ (a.call files header).2 = .ok result ∧
          result.headers = a.headers.extend added ∧
          after.properties = result.headers.applyTo a.properties) := by
  intro additions after
  have run := embedAll_result a.embedder.dependencies files
    (Settings.ofProperties a.properties header) (Headers.ofProperties a.properties)
  simp only [after, call, Embedder.processProperties_eq, run]
  refine ⟨trivial, ?_⟩
  cases known : additions with
  | error fault =>
      change (Settings.ofProperties a.properties header).additions _ files = _ at known
      rw [known]
      exact .inl ⟨fault, rfl, rfl, rfl⟩
  | ok added =>
      change (Settings.ofProperties a.properties header).additions _ files = _ at known
      rw [known]
      exact .inr ⟨added, _, rfl, rfl, rfl, rfl⟩

/-- What one step does to the headers, to the settings and to the dependencies. -/
theorem step_eq [Release] (a : Assembly) (files : FileTree) (step : Step) :
    (a.step files step).headers =
        (step.additions a.embedder.dependencies files a.properties.settingsOnly).foldl
          Headers.extend a.headers ∧
      (a.step files step).properties.settingsOnly =
        (step.edit a.properties.settingsOnly).settingsOnly ∧
      (a.step files step).embedder.dependencies = a.embedder.dependencies := by
  rw [Properties.settingsOnly_edit]
  cases step with
  | set key text => exact ⟨Headers.ofProperties_edit (.set key text) a.properties, rfl, rfl⟩
  | unset key => exact ⟨Headers.ofProperties_edit (.unset key) a.properties, rfl, rfl⟩
  | embed header =>
      obtain ⟨sameDependencies, outcome⟩ := a.call_cases files header
      simp only [Assembly.step, Step.additions, Settings.ofProperties_settingsOnly, Step.edit,
        headers]
      rcases outcome with ⟨fault, failed, -, kept⟩ | ⟨added, result, returned, -, form, written⟩
      · rw [failed, kept]
        exact ⟨rfl, rfl, sameDependencies⟩
      · have or := Headers.extend_or a.headers added
        rw [returned, written, form, Headers.settingsOnly_applyTo, Headers.ofProperties_applyTo]
        refine ⟨?_, rfl, sameDependencies⟩
        change Headers.mk (((a.headers.extend added).classPath).or a.headers.classPath)
          (((a.headers.extend added).resources).or a.headers.resources) = a.headers.extend added
        rw [or.1, or.2]

/-! ### Steps one after the other -/

/-- What steps one after the other do to the headers, to the settings and to the
dependencies. -/
theorem after_headers [Release] (a : Assembly) (files : FileTree) (steps : List Step) :
    (a.after files steps).headers =
      a.headers.extend (.concat (additionsAlong a.embedder.dependencies files
        a.properties.settingsOnly steps)) := by
  rw [← Headers.foldl_extend]
  induction steps generalizing a with
  | nil => rfl
  | cons step steps ih =>
      obtain ⟨headers, settings, dependencies⟩ := a.step_eq files step
      change ((a.step files step).after files steps).headers = _
      rw [ih, headers, settings, dependencies, additionsAlong, List.foldl_append]

/-- Steps do not change the dependencies. -/
theorem after_dependencies [Release] (a : Assembly) (files : FileTree) (steps : List Step) :
    (a.after files steps).embedder.dependencies = a.embedder.dependencies := by
  induction steps generalizing a with
  | nil => rfl
  | cons step steps ih => exact (ih _).trans (a.step_eq files step).2.2

/-- How many of the steps find no class path and leave one. This is where the class path
starts with the bundle itself. -/
def seedings [Release] (files : FileTree) : Assembly → List Step → Nat
  | _, [] => 0
  | a, step :: later =>
      let next := a.step files step
      (if a.headers.classPath = none ∧ next.headers.classPath ≠ none then 1 else 0) +
        next.seedings files later

/-- A class path is absent after steps if it was before and nothing has been added to it. -/
theorem classPath_after_eq_none_iff [Release] (a : Assembly) (files : FileTree)
    (steps : List Step) : (a.after files steps).headers.classPath = none ↔
      a.headers.classPath = none ∧
        (Additions.concat (additionsAlong a.embedder.dependencies files
          a.properties.settingsOnly steps)).targets = [] := by
  rw [after_headers, Headers.extend_eq]
  cases a.headers.classPath with
  | none => simp [classPathWith]
  | some text => simp only [classPathWith]; split <;> simp

/-- The class path starts with the bundle itself at most once, and only if there was none
and something is added to it. -/
theorem seedings_eq [Release] (a : Assembly) (files : FileTree) (steps : List Step) :
    a.seedings files steps =
      if a.headers.classPath = none ∧ (a.after files steps).headers.classPath ≠ none then 1
      else 0 := by
  induction steps generalizing a with
  | nil => simp [seedings, after]
  | cons step steps ih =>
      -- a class path that is there is never lost again
      have staysAbsent : (a.step files step).headers.classPath = none →
          a.headers.classPath = none := fun absent =>
        ((a.classPath_after_eq_none_iff files [step]).mp absent).1
      have absentBefore : ((a.step files step).after files steps).headers.classPath = none →
          (a.step files step).headers.classPath = none := fun absent =>
        (((a.step files step).classPath_after_eq_none_iff files steps).mp absent).1
      change _ = if _ ∧ ((a.step files step).after files steps).headers.classPath ≠ none then 1
        else 0
      rw [seedings, ih]
      by_cases absent : a.headers.classPath = none
      · by_cases absentNext : (a.step files step).headers.classPath = none
        · simp [absent, absentNext]
        · simp [absent, absentNext, mt absentBefore absentNext]
      · simp [absent, mt staysAbsent absent]

end Assembly

/-! ### What calls leave -/

/-- Headers have been written into properties: they are read again, every other key has what
it had, the keys that were there are in their order, and those of the headers that are new
come last, the class path first. -/
structure WrittenInto (headers : Headers) (before after : Properties) : Prop where
  readAgain : Headers.ofProperties after = headers
  others : after.restrict (· ∉ Headers.keys) = before.restrict (· ∉ Headers.keys)
  keys : after.map Prod.fst =
    before.map Prod.fst ++ (headers.toPairs.map Prod.fst).filter (· ∉ before.map Prod.fst)

/-- Extended headers are written into the properties that they were read from. -/
theorem Headers.writtenInto_extend (properties : Properties) (added : Additions) :
    WrittenInto ((ofProperties properties).extend added) properties
      (((ofProperties properties).extend added).applyTo properties) where
  readAgain := by
    have or := extend_or (ofProperties properties) added
    rw [ofProperties_applyTo, or.1, or.2]
  others := Headers.restrict_applyTo _ _ (by decide)
  keys := Headers.keys_applyTo _ _

/-- After steps one after the other the two headers are the ones at the start with the
entries of the calls that have returned, in the order of the calls. Whether a call returns,
and with which entries, is settled by the dependencies, the files, its clauses and the
settings. A call that fails leaves the properties as they are. The class path starts with
the bundle itself at most once. -/
theorem writeBack_closedForm [Release] (e : Embedder) (files : FileTree)
    (properties : Properties) (steps : List Step) :
    let start : Assembly := ⟨e, properties⟩
    let after := start.after files steps
    let added := Additions.concat
      (additionsAlong e.dependencies files properties.settingsOnly steps)
    (∀ header,
      let called := after.call files header
      match (Settings.ofProperties after.properties.settingsOnly header).additions
          e.dependencies files with
      | .error fault => called.2 = .error fault ∧ called.1.properties = after.properties
      | .ok more => ∃ result, called.2 = .ok result ∧
          result.headers = after.headers.extend more ∧
          WrittenInto result.headers after.properties called.1.properties) ∧
    after.headers =
      ⟨classPathWith start.headers.classPath added.targets,
        resourcesWith start.headers.resources added.resources⟩ ∧
    start.seedings files steps =
      if start.headers.classPath = none ∧ added.targets ≠ [] then 1 else 0 := by
  intro start after added
  refine ⟨fun header => ?_, ?_, ?_⟩
  · intro called
    rw [Settings.ofProperties_settingsOnly]
    obtain ⟨-, outcome⟩ := after.call_cases files header
    rw [start.after_dependencies files steps] at outcome
    rcases outcome with
      ⟨fault, failed, given, kept⟩ | ⟨more, result, returned, given, form, written⟩
    · rw [failed]
      exact ⟨given, kept⟩
    · rw [returned]
      refine ⟨result, given, form, ?_⟩
      change called.1.properties = _ at written
      rw [written, form]
      exact Headers.writtenInto_extend after.properties more
  · rw [← Headers.extend_eq]
    exact start.after_headers files steps
  · rw [start.seedings_eq files steps]
    have absent := start.classPath_after_eq_none_iff files steps
    refine if_congr (and_congr_right fun absentAtStart => not_congr ?_) rfl rfl
    exact absent.trans (and_iff_right absentAtStart)

end BundleEmbed
