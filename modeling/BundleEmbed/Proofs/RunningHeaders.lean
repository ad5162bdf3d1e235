import BundleEmbed.Proofs.WriteBack

/-!
Running headers and the properties that they were read from.

Headers are read from properties, extended step by step, and written back at any time. A header
that has a value is never lost and only grows at its end, so what is written back is read again,
and reading it again in the middle of the work makes no difference.

* `HeaderStep.targets`, `HeaderStep.resources`: what a step adds, whatever the headers are.
* `RunningHeaders.take_headers`, `RunningHeaders.after_headers`: one step, and steps one after
  the other, append what they add.
* `RunningHeaders.Covers`: the invariant that ties the headers to the properties.
* `RunningHeaders.after_writtenBack`: what holds after steps one after the other.
-/

namespace BundleEmbed

/-! ### Steps -/

/-- What can be done to running headers. -/
inductive HeaderStep where
  | appendClassPath (entry : Text)
  | appendResource (entry : Text)
  | embed (files : FileTree) (settings : Settings) (d : Dependency)
  | inline (files : FileTree) (d : Dependency)
  /-- the headers are written into the properties -/
  | writeBack
  /-- the headers are written into the properties and read again -/
  | renew

/-- Running headers, and the properties that they were read from. -/
structure RunningHeaders where
  headers : Headers
  properties : Properties

namespace RunningHeaders

/-- The headers among properties. -/
def ofProperties (properties : Properties) : RunningHeaders :=
  ⟨Headers.ofProperties properties, properties⟩

/-- Running headers after they have been written into the properties. -/
def written (r : RunningHeaders) : RunningHeaders :=
  { r with properties := r.headers.applyTo r.properties }

/-- Running headers after a file has been placed, with its entries. Where the file cannot be asked
for they stay as they are. -/
def placing (r : RunningHeaders) :
    Except FileFailure (Headers × List Text) →
      RunningHeaders × Except FileFailure (List Text)
  | .ok (headers, entries) => ({ r with headers }, .ok entries)
  | .error failure => (r, .error failure)

/-- Running headers after a step, and the entries that it has added to them, none where there is
no file to place. -/
def take (r : RunningHeaders) :
    HeaderStep → RunningHeaders × Except FileFailure (List Text)
  | .appendClassPath entry => ({ r with headers := r.headers.appendClassPath entry }, .ok [entry])
  | .appendResource entry => ({ r with headers := r.headers.appendResource entry }, .ok [entry])
  | .embed files settings d =>
      r.placing ((r.headers.embed files settings d).map fun (headers, placed) =>
        (headers, placed.elim [] fun p => [p.target, p.resource]))
  | .inline files d =>
      r.placing ((r.headers.inline files d).map fun (headers, resource) =>
        (headers, resource.toList))
  | .writeBack => (r.written, .ok [])
  | .renew => (ofProperties r.written.properties, .ok [])

/-- Running headers after steps one after the other, those that fail included. -/
def after (r : RunningHeaders) (steps : List HeaderStep) : RunningHeaders :=
  steps.foldl (fun r step => (r.take step).1) r

end RunningHeaders

/-! ### Entries of a step -/

namespace HeaderStep

/-- What a step adds to the class path. -/
def targets : HeaderStep → List Text
  | .appendClassPath entry => [entry]
  | .embed files settings d => (target? files settings d).toList
  | _ => []

/-- What a step adds to the resources. -/
def resources : HeaderStep → List Text
  | .appendResource entry => [entry]
  | .embed files settings d => (embeddedResource? files settings d).toList
  | .inline files d => (inlinedResource? files d).toList
  | _ => []

/-- A step reads the headers again. -/
def renews : HeaderStep → Bool
  | .renew => true
  | _ => false

end HeaderStep

/-- The headers with what a step adds. -/
def Headers.withEntriesOf (headers : Headers) (step : HeaderStep) : Headers :=
  ⟨appendAll "." headers.classPath step.targets, appendAll "" headers.resources step.resources⟩

/-- A file that cannot be asked for is not placed. -/
theorem placedFile_of_sourceOf_error {files : FileTree} {d : Dependency} {failure : FileFailure}
    (failed : sourceOf files d = .error failure) : placedFile files d = none := by
  unfold sourceOf at failed
  unfold placedFile
  split at failed
  · cases failed
  · rename_i path isFile
    split at failed
    · cases failed
    · rename_i fault answer
      simp [isFile, answer, Except.toOption, Option.filter]

/-- A step that adds nothing leaves the headers. -/
theorem Headers.withEntriesOf_of_nothing (headers : Headers) {step : HeaderStep}
    (nothing : step.targets ++ step.resources = []) : headers.withEntriesOf step = headers := by
  obtain ⟨noTarget, noResource⟩ := List.append_eq_nil_iff.mp nothing
  rw [withEntriesOf, noTarget, noResource]
  rfl

/-! ### Headers that grow -/

/-- Headers go on from others: each that had a value has one that starts with it. -/
structure Headers.ContinuedBy (before after : Headers) : Prop where
  classPath : ∀ text, before.classPath = some text → ∃ more, after.classPath = some (text ++ more)
  resources : ∀ text, before.resources = some text → ∃ more, after.resources = some (text ++ more)

/-- Entries come after a value that is there. -/
theorem exists_appendAll_eq (seed text : Text) (entries : List Text) :
    ∃ more, appendAll seed (some text) entries = some (text ++ more) := by
  rw [appendAll_some]
  induction entries generalizing text with
  | nil => exact ⟨"", by simp⟩
  | cons entry entries ih =>
      obtain ⟨more, form⟩ := ih (Headers.appendEntry text entry)
      rw [List.foldl_cons, form, Headers.appendEntry]
      split
      · rename_i isEmpty
        exact ⟨entry ++ more, by simp [isEmpty]⟩
      · exact ⟨"," ++ entry ++ more, by simp [Text.append_assoc]⟩

theorem Headers.continuedBy_withEntriesOf (headers : Headers) (step : HeaderStep) :
    headers.ContinuedBy (headers.withEntriesOf step) where
  classPath text given := by
    rw [withEntriesOf, given]
    exact exists_appendAll_eq "." text step.targets
  resources text given := by
    rw [withEntriesOf, given]
    exact exists_appendAll_eq "" text step.resources

/-- A header that is absent was absent before. -/
theorem Headers.ContinuedBy.of_absent {before after : Headers} (grows : before.ContinuedBy after) :
    (after.classPath = none → before.classPath = none) ∧
      (after.resources = none → before.resources = none) := by
  constructor <;> intro absent <;> by_contra present <;>
    obtain ⟨text, given⟩ := Option.ne_none_iff_exists'.mp present
  · obtain ⟨more, form⟩ := grows.classPath text given
    rw [absent] at form
    cases form
  · obtain ⟨more, form⟩ := grows.resources text given
    rw [absent] at form
    cases form

namespace RunningHeaders

/-! ### One step -/

/-- The headers that the properties have are among the running ones. -/
structure Covers (r : RunningHeaders) : Prop where
  classPath : r.headers.classPath = none → (Headers.ofProperties r.properties).classPath = none
  resources : r.headers.resources = none → (Headers.ofProperties r.properties).resources = none

theorem covers_ofProperties (properties : Properties) : (ofProperties properties).Covers :=
  ⟨id, id⟩

/-- What is written back is read again. -/
theorem Covers.ofProperties_written {r : RunningHeaders} (covers : r.Covers) :
    Headers.ofProperties r.written.properties = r.headers := by
  obtain ⟨⟨classPath, resources⟩, properties⟩ := r
  have none_or {old value : Option Text} (absent : value = none → old = none) :
      value.or old = value := by
    cases value with
    | none => rw [absent rfl, Option.or_none]
    | some text => rfl
  rw [written, Headers.ofProperties_applyTo, none_or covers.classPath, none_or covers.resources]

/-- A step appends to the headers what it adds, and tells it. It fails only where it adds
nothing. -/
theorem take_headers {r : RunningHeaders} (covers : r.Covers) (step : HeaderStep) :
    (r.take step).1.headers = r.headers.withEntriesOf step ∧
      ((r.take step).2 = .ok (step.targets ++ step.resources) ∨
        (step.targets ++ step.resources = [] ∧ ∃ failure, (r.take step).2 = .error failure)) := by
  cases step with
  | appendClassPath entry => exact ⟨rfl, .inl rfl⟩
  | appendResource entry => exact ⟨rfl, .inl rfl⟩
  | embed files settings d =>
      simp only [take, Headers.embed, Headers.withEntriesOf, HeaderStep.targets,
        HeaderStep.resources, target?, embeddedResource?]
      cases answer : sourceOf files d with
      | error failure =>
          rw [placedFile_of_sourceOf_error answer]
          exact ⟨rfl, .inr ⟨rfl, failure, rfl⟩⟩
      | ok source =>
          rw [← eq_of_sourceOf_ok answer]
          cases source <;> exact ⟨rfl, .inl rfl⟩
  | inline files d =>
      simp only [take, Headers.inline, Headers.withEntriesOf, HeaderStep.targets,
        HeaderStep.resources, inlinedResource?]
      cases answer : sourceOf files d with
      | error failure =>
          rw [placedFile_of_sourceOf_error answer]
          exact ⟨rfl, .inr ⟨rfl, failure, rfl⟩⟩
      | ok source =>
          rw [← eq_of_sourceOf_ok answer]
          cases source <;> exact ⟨rfl, .inl rfl⟩
  | writeBack => exact ⟨rfl, .inl rfl⟩
  | renew => exact ⟨covers.ofProperties_written, .inl rfl⟩

theorem properties_placing (r : RunningHeaders)
    (outcome : Except FileFailure (Headers × List Text)) :
    (r.placing outcome).1.properties = r.properties := by
  cases outcome <;> rfl

/-- The headers among the properties after a step are the ones before, or the running ones. -/
theorem ofProperties_take {r : RunningHeaders} (covers : r.Covers) (step : HeaderStep) :
    Headers.ofProperties (r.take step).1.properties = Headers.ofProperties r.properties ∨
      Headers.ofProperties (r.take step).1.properties = r.headers := by
  cases step with
  | appendClassPath entry => exact .inl rfl
  | appendResource entry => exact .inl rfl
  | embed files settings d => exact .inl (congrArg _ (r.properties_placing _))
  | inline files d => exact .inl (congrArg _ (r.properties_placing _))
  | writeBack => exact .inr covers.ofProperties_written
  | renew => exact .inr covers.ofProperties_written

/-- The headers stay among the running ones. -/
theorem Covers.take {r : RunningHeaders} (covers : r.Covers) (step : HeaderStep) :
    (r.take step).1.Covers := by
  have stays := (r.headers.continuedBy_withEntriesOf step).of_absent
  rw [← (take_headers covers step).1] at stays
  rcases ofProperties_take covers step with same | same
  · exact ⟨fun absent => same ▸ covers.classPath (stays.1 absent),
      fun absent => same ▸ covers.resources (stays.2 absent)⟩
  · exact ⟨fun absent => same ▸ stays.1 absent, fun absent => same ▸ stays.2 absent⟩

/-! ### Steps one after the other -/

/-- Steps one after the other append to the headers what they add, in their order. -/
theorem after_headers {r : RunningHeaders} (covers : r.Covers) (steps : List HeaderStep) :
    (r.after steps).Covers ∧
      (r.after steps).headers =
        ⟨appendAll "." r.headers.classPath (steps.flatMap (·.targets)),
          appendAll "" r.headers.resources (steps.flatMap (·.resources))⟩ := by
  induction steps generalizing r with
  | nil => exact ⟨covers, rfl⟩
  | cons step steps ih =>
      obtain ⟨coversLater, form⟩ := ih (covers.take step)
      refine ⟨coversLater, ?_⟩
      change ((r.take step).1.after steps).headers = _
      rw [form, (take_headers covers step).1]
      simp only [Headers.withEntriesOf, appendAll, List.flatMap_cons, List.foldl_append]

/-- Steps that add nothing can be left out of what steps add. -/
theorem flatMap_filter_of_nothing {α β : Type} {f : α → List β} {kept : α → Bool}
    (nothing : ∀ a, kept a = false → f a = []) (members : List α) :
    (members.filter kept).flatMap f = members.flatMap f := by
  induction members with
  | nil => rfl
  | cons a members ih =>
      cases isKept : kept a with
      | true => rw [List.filter_cons_of_pos isKept, List.flatMap_cons, List.flatMap_cons, ih]
      | false =>
          rw [List.filter_cons_of_neg (by simp [isKept]), List.flatMap_cons, nothing a isKept, ih]
          rfl

/-- Headers are read from properties, and extended and written back in any order. Each further
step keeps the value that a header has at the start of its new value, and one that fails or adds
nothing leaves both headers. When the headers are written back, they are read again as they are,
and every other property and the order of the keys stay. So wherever the headers have been written
back and read again on the way, they are what they would be without. -/
theorem after_writtenBack (properties : Properties) (steps : List HeaderStep) :
    let start := ofProperties properties
    let r := start.after steps
    (∀ step, r.headers.ContinuedBy (r.take step).1.headers ∧
        ((∀ entries, (r.take step).2 = .ok entries → entries = []) →
          (r.take step).1.headers = r.headers)) ∧
      WrittenInto r.headers r.properties (r.take .writeBack).1.properties ∧
      r.headers = (start.after (steps.filter fun step => !step.renews)).headers := by
  intro start r
  have atStart : start.Covers := covers_ofProperties properties
  obtain ⟨covers, form⟩ := after_headers atStart steps
  refine ⟨fun step => ?_, ⟨covers.ofProperties_written, ?_, ?_⟩, ?_⟩
  · obtain ⟨headers, told⟩ := take_headers covers step
    refine ⟨headers ▸ r.headers.continuedBy_withEntriesOf step, fun addsNothing => ?_⟩
    have nothing : step.targets ++ step.resources = [] := by
      rcases told with added | ⟨nothing, -⟩
      · exact addsNothing _ added
      · exact nothing
    exact headers.trans (r.headers.withEntriesOf_of_nothing nothing)
  · exact Headers.restrict_applyTo _ _ (by decide)
  · exact Headers.keys_applyTo _ _
  · have renewal : ∀ step : HeaderStep, (!step.renews) = false →
        step.targets = [] ∧ step.resources = [] := fun step renews => by
      cases step <;> first | exact ⟨rfl, rfl⟩ | cases renews
    have without := (after_headers atStart (steps.filter fun step => !step.renews)).2
    rw [flatMap_filter_of_nothing fun a left => (renewal a left).1,
      flatMap_filter_of_nothing fun a left => (renewal a left).2] at without
    exact form.trans without.symm

end RunningHeaders

end BundleEmbed
