import BundleEmbed.Proofs.Run
import BundleEmbed.Proofs.StableSort

/-!
The headers that a run gives, as one expression.

Entries are appended one by one, and what an entry is appended with depends on whether the
header is absent, empty or neither. The closed forms say what all of them come to.

* `Headers.emit_eq`: placing dependencies appends the entries of those with a file on disk.
* `process_closedForm`: the lists and the headers that a run with clauses gives.
* `Settings.GivesOrdered`: what a run gives can be computed where nothing has to be sorted.
-/

namespace BundleEmbed

open Regex (Release)

/-! ### Entries -/

/-- The file of a dependency, if it is set and exists. -/
def placedFile (files : FileTree) (d : Dependency) : Option Path :=
  d.file.filter fun path => (files.holds path).toOption = some true

/-- The resource of an inlined dependency. -/
def inlinedResource? (files : FileTree) (d : Dependency) : Option Text :=
  (placedFile files d).map fun path => "@" ++ path.text

/-- The place of an embedded dependency in the bundle. -/
def target? (files : FileTree) (settings : Settings) (d : Dependency) : Option Text :=
  (placedFile files d).map fun path => targetOf d path settings

/-- The resource of an embedded dependency. -/
def embeddedResource? (files : FileTree) (settings : Settings) (d : Dependency) : Option Text :=
  (placedFile files d).map fun path => targetOf d path settings ++ "=" ++ path.text

/-! ### Closed forms -/

/-- The resources with more entries. -/
def resourcesWith (existing : Option Text) (entries : List Text) : Option Text :=
  if entries = [] then existing
  else some (Text.intercalate ","
    ((existing.filter fun text : Text => text ≠ "").toList ++ entries))

/-- The class path with more entries. An absent one starts with the bundle itself, and an
empty one with the first entry that is not empty. -/
def classPathWith (existing : Option Text) (entries : List Text) : Option Text :=
  match existing with
  | none => if entries = [] then none else some (Text.intercalate "," ("." :: entries))
  | some text =>
      if text = "" then
        some (Text.intercalate "," (entries.dropWhile fun entry : Text => entry = ""))
      else some (Text.intercalate "," (text :: entries))

/-- A text that is not empty stays in front of the entries. -/
theorem foldl_appendEntry_of_ne {text : Text} (nonempty : text ≠ "") (entries : List Text) :
    entries.foldl Headers.appendEntry text = Text.intercalate "," (text :: entries) := by
  induction entries generalizing text with
  | nil => rw [List.foldl_nil, Text.intercalate_singleton]
  | cons entry entries ih =>
      have longer : text ++ "," ++ entry ≠ "" := by simp
      rw [List.foldl_cons, Headers.appendEntry, if_neg nonempty, ih longer,
        Text.intercalate_cons_append, Text.intercalate_cons_cons]

/-- Empty entries leave no trace before the first that is not empty. -/
theorem foldl_appendEntry_empty (entries : List Text) :
    entries.foldl Headers.appendEntry "" =
      Text.intercalate "," (entries.dropWhile fun entry : Text => entry = "") := by
  induction entries with
  | nil => rfl
  | cons entry entries ih =>
      rw [List.foldl_cons, Headers.appendEntry, if_pos rfl]
      by_cases isEmpty : entry = ""
      · rw [isEmpty, ih, List.dropWhile_cons_of_pos (by simp)]
      · rw [foldl_appendEntry_of_ne isEmpty, List.dropWhile_cons_of_neg (by simpa using isEmpty)]

/-- Appending to a header one by one, where `seed` stands for an absent one. -/
def appendAll (seed : Text) (existing : Option Text) (entries : List Text) : Option Text :=
  entries.foldl (fun text entry => some (Headers.appendEntry (text.getD seed) entry)) existing

theorem appendAll_some (seed text : Text) (entries : List Text) :
    appendAll seed (some text) entries = some (entries.foldl Headers.appendEntry text) := by
  induction entries generalizing text with
  | nil => rfl
  | cons entry entries ih => exact ih _

theorem appendAll_of_ne_nil {seed : Text} {existing : Option Text} {entries : List Text}
    (someEntry : entries ≠ []) :
    appendAll seed existing entries =
      some (entries.foldl Headers.appendEntry (existing.getD seed)) := by
  obtain ⟨entry, entries, rfl⟩ := List.exists_cons_of_ne_nil someEntry
  exact appendAll_some _ _ _

theorem appendAll_classPath (existing : Option Text) (entries : List Text) :
    appendAll "." existing entries = classPathWith existing entries := by
  cases existing with
  | none =>
      by_cases noEntry : entries = []
      · simp [noEntry, appendAll, classPathWith]
      · rw [appendAll_of_ne_nil noEntry, Option.getD_none, foldl_appendEntry_of_ne (by decide)]
        simp [classPathWith, noEntry]
  | some text =>
      rw [appendAll_some, classPathWith]
      split
      · rename_i isEmpty
        rw [isEmpty, foldl_appendEntry_empty]
      · rename_i nonempty
        rw [foldl_appendEntry_of_ne nonempty]

/-- No entry is empty, so none is lost at the start of an empty header. -/
theorem appendAll_resources {existing : Option Text} {entries : List Text}
    (nonempty : ∀ entry ∈ entries, entry ≠ "") :
    appendAll "" existing entries = resourcesWith existing entries := by
  by_cases noEntry : entries = []
  · simp [noEntry, appendAll, resourcesWith]
  · rw [appendAll_of_ne_nil noEntry, resourcesWith, if_neg noEntry]
    by_cases isEmpty : existing.getD "" = ""
    · have noText : (existing.filter fun text : Text => text ≠ "") = none := by
        cases existing with
        | none => rfl
        | some text => simpa [Option.filter] using isEmpty
      obtain ⟨entry, later, rfl⟩ := List.exists_cons_of_ne_nil noEntry
      have kept : (entry :: later).dropWhile (fun entry : Text => entry = "") = entry :: later :=
        List.dropWhile_cons_of_neg (by simpa using nonempty entry List.mem_cons_self)
      rw [isEmpty, foldl_appendEntry_empty, kept, noText]
      rfl
    · obtain ⟨text, rfl⟩ : ∃ text, existing = some text :=
        Option.ne_none_iff_exists'.mp fun absent => isEmpty (by rw [absent]; rfl)
      rw [Option.getD_some] at isEmpty ⊢
      rw [foldl_appendEntry_of_ne isEmpty]
      simp [Option.filter, isEmpty]

/-! ### Placing dependencies -/

/-- A chain of steps that succeeds does what the steps do when they succeed. -/
theorem foldlM_eq_foldl {ε α β : Type} {step : β → α → Except ε β} {effect : β → α → β}
    (does : ∀ b a after, step b a = .ok after → after = effect b a) {members : List α}
    {start last : β} (succeeds : members.foldlM step start = .ok last) :
    last = members.foldl effect start := by
  induction members generalizing start with
  | nil => exact (pure_eq_ok_iff.mp succeeds).symm
  | cons a members ih =>
      obtain ⟨next, first, later⟩ := bind_eq_ok_iff.mp succeeds
      rw [ih later, does start a next first]
      rfl

/-- A file that can be asked for is placed when it is there. -/
theorem eq_of_sourceOf_ok {files : FileTree} {d : Dependency} {source : Option Path}
    (found : sourceOf files d = .ok source) : source = placedFile files d := by
  unfold sourceOf at found
  unfold placedFile
  split at found
  · rename_i noFile
    cases found
    rw [noFile]
    rfl
  · rename_i path isFile
    split at found
    · rename_i present answer
      cases found
      cases present <;> simp [isFile, answer, Except.toOption, Option.filter]
    · cases found

/-- What placing an inlined dependency does to the headers. -/
def Headers.withInlined (files : FileTree) (headers : Headers) (d : Dependency) : Headers :=
  (inlinedResource? files d).elim headers headers.appendResource

/-- What placing an embedded dependency does to the headers. -/
def Headers.withEmbedded (files : FileTree) (settings : Settings) (headers : Headers)
    (d : Dependency) : Headers :=
  (placedFile files d).elim headers fun path =>
    (headers.appendResource (targetOf d path settings ++ "=" ++ path.text)).appendClassPath
      (targetOf d path settings)

/-- Placing a dependency has the effect that it has for the file that is there. -/
theorem eq_of_placing_ok {α : Type} {files : FileTree} {d : Dependency} {after : Headers}
    {enter : Option Path → Except FileFailure (Headers × α)} (effect : Option Path → Headers)
    (enters : ∀ source next, enter source = .ok next → next.1 = effect source)
    (placed : Prod.fst <$> (sourceOf files d >>= enter) = .ok after) :
    after = effect (placedFile files d) := by
  rw [map_eq_pure_bind, bind_eq_ok_iff] at placed
  obtain ⟨next, placed, given⟩ := placed
  obtain ⟨source, found, entered⟩ := bind_eq_ok_iff.mp placed
  rw [← eq_of_sourceOf_ok found, ← enters source next entered]
  exact (pure_eq_ok_iff.mp given).symm

theorem Headers.eq_of_inline_ok {files : FileTree} {headers after : Headers} {d : Dependency}
    (placed : Prod.fst <$> headers.inline files d = .ok after) :
    after = headers.withInlined files d := by
  rw [withInlined, inlinedResource?]
  refine eq_of_placing_ok (fun source => (source.map _).elim headers headers.appendResource)
    (fun source next entered => ?_) placed
  cases source <;> cases pure_eq_ok_iff.mp entered <;> rfl

theorem Headers.eq_of_embed_ok {files : FileTree} {settings : Settings} {headers after : Headers}
    {d : Dependency} (placed : Prod.fst <$> headers.embed files settings d = .ok after) :
    after = headers.withEmbedded files settings d := by
  refine eq_of_placing_ok (fun source => source.elim headers _) (fun source next entered => ?_)
    placed
  cases source <;> cases pure_eq_ok_iff.mp entered <;> rfl

/-- Inlined dependencies append to the resources only. -/
theorem foldl_withInlined (files : FileTree) (headers : Headers) (inlined : List Dependency) :
    inlined.foldl (Headers.withInlined files) headers =
      ⟨headers.classPath,
        appendAll "" headers.resources (inlined.filterMap (inlinedResource? files))⟩ := by
  induction inlined generalizing headers with
  | nil => rfl
  | cons d inlined ih =>
      rw [List.foldl_cons, ih, Headers.withInlined]
      cases entry : inlinedResource? files d with
      | none => rw [List.filterMap_cons_none entry]; rfl
      | some resource => rw [List.filterMap_cons_some entry]; rfl

/-- Embedded dependencies append to both headers, entry for entry. -/
theorem foldl_withEmbedded (files : FileTree) (settings : Settings) (headers : Headers)
    (embedded : List Dependency) :
    embedded.foldl (Headers.withEmbedded files settings) headers =
      ⟨appendAll "." headers.classPath (embedded.filterMap (target? files settings)),
        appendAll "" headers.resources
          (embedded.filterMap (embeddedResource? files settings))⟩ := by
  induction embedded generalizing headers with
  | nil => rfl
  | cons d embedded ih =>
      rw [List.foldl_cons, ih, Headers.withEmbedded]
      cases file : placedFile files d with
      | none =>
          have noTarget : target? files settings d = none := by rw [target?, file]; rfl
          have noResource : embeddedResource? files settings d = none := by
            rw [embeddedResource?, file]; rfl
          rw [List.filterMap_cons_none noTarget, List.filterMap_cons_none noResource]
          rfl
      | some path =>
          have target : target? files settings d = some (targetOf d path settings) := by
            rw [target?, file]; rfl
          have resource : embeddedResource? files settings d =
              some (targetOf d path settings ++ "=" ++ path.text) := by
            rw [embeddedResource?, file]; rfl
          rw [List.filterMap_cons_some target, List.filterMap_cons_some resource]
          rfl

theorem inlinedResource_ne_empty {files : FileTree} {d : Dependency} {resource : Text}
    (entry : inlinedResource? files d = some resource) : resource ≠ "" := by
  obtain ⟨path, -, rfl⟩ := Option.map_eq_some_iff.mp entry
  simp

theorem embeddedResource_ne_empty {files : FileTree} {settings : Settings} {d : Dependency}
    {resource : Text} (entry : embeddedResource? files settings d = some resource) :
    resource ≠ "" := by
  obtain ⟨path, -, rfl⟩ := Option.map_eq_some_iff.mp entry
  simp

/-- No resource that is placed is empty. -/
theorem resource_ne_empty {files : FileTree} {settings : Settings}
    {inlined embedded : List Dependency} {resource : Text}
    (isPlaced : resource ∈ inlined.filterMap (inlinedResource? files) ++
      embedded.filterMap (embeddedResource? files settings)) : resource ≠ "" := by
  rcases List.mem_append.mp isPlaced with isInlined | isEmbedded
  · obtain ⟨d, -, given⟩ := List.mem_filterMap.mp isInlined
    exact inlinedResource_ne_empty given
  · obtain ⟨d, -, given⟩ := List.mem_filterMap.mp isEmbedded
    exact embeddedResource_ne_empty given

/-- The headers after inlined and embedded dependencies have been placed. -/
theorem Headers.emit_eq {files : FileTree} {settings : Settings} {existing headers : Headers}
    {inlined embedded : List Dependency}
    (emitted : existing.emit files settings inlined embedded = .ok headers) :
    headers =
      ⟨classPathWith existing.classPath (embedded.filterMap (target? files settings)),
        resourcesWith existing.resources (inlined.filterMap (inlinedResource? files) ++
          embedded.filterMap (embeddedResource? files settings))⟩ := by
  obtain ⟨between, first, second⟩ := bind_eq_ok_iff.mp emitted
  have afterInlined := foldlM_eq_foldl (fun _ _ _ => Headers.eq_of_inline_ok) first
  have afterEmbedded := foldlM_eq_foldl (fun _ _ _ => Headers.eq_of_embed_ok) second
  rw [afterEmbedded, foldl_withEmbedded, afterInlined, foldl_withInlined, appendAll_classPath,
    ← appendAll_resources fun _ => resource_ne_empty, appendAll, appendAll, appendAll,
    List.foldl_append]

/-! ### A run with clauses -/

/-- When a run with clauses returns, its lists are the classified dependencies sorted by
their keys, and its headers are the existing ones with the entries of those whose file is
there: `@` and the file for what is inlined, then the target, an equals sign and the file
for what is embedded; the class path gets the targets alone. -/
theorem process_closedForm [Release] (e : Embedder) (files : FileTree) (settings : Settings)
    (existing : Headers) (result : EmbedResult) (hasClauses : settings.clauses ≠ [])
    (returned : (e.process files settings existing).2 = .ok result) :
    let classified := (settings.pass e.dependencies).classification
    (settings.pass e.dependencies).failure = none ∧
      IsStableSort Dependency.sortKey classified.inlined.toList result.inlined ∧
      IsStableSort Dependency.sortKey classified.embedded.toList result.embedded ∧
      result.headers.resources =
        resourcesWith existing.resources (result.inlined.filterMap (inlinedResource? files) ++
          result.embedded.filterMap (embeddedResource? files settings)) ∧
      result.headers.classPath =
        classPathWith existing.classPath
          (result.embedded.filterMap (target? files settings)) := by
  intro classified
  change (embedAll e.dependencies files settings existing).result = _ at returned
  rcases embedAll_cases e.dependencies files settings existing with
    ⟨noClauses, -⟩ |
    ⟨-, -, ⟨fault, -, refused⟩ | ⟨whole, ⟨failure, -, failed⟩ | ⟨headers, emitted, given⟩⟩⟩
  · exact absurd noClauses hasClauses
  · rw [refused] at returned
    cases returned
  · rw [failed] at returned
    cases returned
  · rw [given] at returned
    cases returned
    have form := Headers.emit_eq emitted
    exact ⟨whole, Dependency.sort_isStable _, Dependency.sort_isStable _,
      congrArg Headers.resources form, congrArg Headers.classPath form⟩

/-- A run gives a result without having to sort it: what it has classified is in the order of
the keys already. -/
structure Settings.GivesOrdered [Release] (settings : Settings) (dependencies : List Dependency)
    (files : FileTree) (existing : Headers) (result : EmbedResult) : Prop where
  hasClauses : settings.clauses ≠ []
  whole : (settings.pass dependencies).failure = none
  isInlined : (settings.pass dependencies).classification.inlined.toList = result.inlined
  isEmbedded : (settings.pass dependencies).classification.embedded.toList = result.embedded
  orderedInlined : result.inlined.Pairwise fun a b => ¬ b.sortKey < a.sortKey
  orderedEmbedded : result.embedded.Pairwise fun a b => ¬ b.sortKey < a.sortKey
  emitted : existing.emit files settings result.inlined result.embedded = .ok result.headers

instance [Release] (settings : Settings) (dependencies : List Dependency) (files : FileTree)
    (existing : Headers) (result : EmbedResult) :
    Decidable (settings.GivesOrdered dependencies files existing result) :=
  decidable_of_iff
    (settings.clauses ≠ [] ∧ (settings.pass dependencies).failure = none ∧
      (settings.pass dependencies).classification.inlined.toList = result.inlined ∧
      (settings.pass dependencies).classification.embedded.toList = result.embedded ∧
      (result.inlined.Pairwise fun a b => ¬ b.sortKey < a.sortKey) ∧
      (result.embedded.Pairwise fun a b => ¬ b.sortKey < a.sortKey) ∧
      existing.emit files settings result.inlined result.embedded = .ok result.headers)
    ⟨fun ⟨hasClauses, whole, inlined, embedded, orderedInlined, orderedEmbedded, emitted⟩ =>
        ⟨hasClauses, whole, inlined, embedded, orderedInlined, orderedEmbedded, emitted⟩,
      fun ⟨hasClauses, whole, inlined, embedded, orderedInlined, orderedEmbedded, emitted⟩ =>
        ⟨hasClauses, whole, inlined, embedded, orderedInlined, orderedEmbedded, emitted⟩⟩

/-- A run of which no clause is refused lists what it has classified as it is, where that is in
the order of the keys already. -/
theorem embedAll_result_of_ordered [Release] {settings : Settings}
    {dependencies : List Dependency}
    {files : FileTree} {existing : Headers} {result : EmbedResult}
    (given : settings.GivesOrdered dependencies files existing result) :
    (embedAll dependencies files settings existing).result = .ok result := by
  have sortedInlined :
      (settings.pass dependencies).classification.sortedInlined = result.inlined := by
    rw [Classification.sortedInlined, given.isInlined]
    exact Dependency.sort_of_ordered given.orderedInlined
  have sortedEmbedded :
      (settings.pass dependencies).classification.sortedEmbedded = result.embedded := by
    rw [Classification.sortedEmbedded, given.isEmbedded]
    exact Dependency.sort_of_ordered given.orderedEmbedded
  have emitted := given.emitted
  rw [← sortedInlined, ← sortedEmbedded] at emitted
  rw [embedAll_of_emit_ok given.hasClauses given.whole emitted, sortedInlined, sortedEmbedded]

/-! ### Files that are there, and one that is not -/

namespace PlacedFiles

/-- The files of a build, below its directory. -/
def files : FileTree :=
  ⟨[(["run", "lib"], .directory), (["run", "lib", "a.jar"], .file ByteArray.empty),
    (["run", "lib", "b.jar"], .file ByteArray.empty)], ["run"]⟩

/-- A dependency with a file. -/
def stored (artifactId file : Text) : Dependency where
  groupId := "com.acme"
  artifactId := artifactId
  version := "1"
  selectedVersion := none
  scope := none
  type := none
  classifier := none
  isOptional := none
  file := some (Path.ofText file)
  extension := none
  direct := true

/-- The file of the last dependency is missing. -/
def embedder : Embedder :=
  .ofDependencies [stored "b" "lib/b.jar", stored "a" "lib/a.jar", stored "lost" "lib/lost.jar"]

/-- Everything is embedded but one dependency, which is inlined. -/
def settings : Settings :=
  { Settings.standard with
    clauses := [⟨"*", []⟩, ⟨"b", [(inlineKey, "true")]⟩]
    directory := some "libs" }

/-- The bundle has no class path, and no resource in a header of its own. -/
def existing : Headers := ⟨none, some ""⟩

/-- What the run gives. -/
def result : EmbedResult where
  inlined := [stored "b" "lib/b.jar"]
  embedded := [stored "a" "lib/a.jar", stored "lost" "lib/lost.jar"]
  headers := ⟨some ".,libs/a.jar", some "@lib/b.jar,libs/a.jar=lib/a.jar"⟩

/-- The run returns. -/
theorem returned : (embedder.process files settings existing).2 = .ok result :=
  embedAll_result_of_ordered (by decide +kernel)

end PlacedFiles

open PlacedFiles in
theorem process_closedForm_stored :
    settings.clauses ≠ [] ∧ (embedder.process files settings existing).2 = .ok result ∧
      let classified := (settings.pass embedder.dependencies).classification
      (settings.pass embedder.dependencies).failure = none ∧
        IsStableSort Dependency.sortKey classified.inlined.toList result.inlined ∧
        IsStableSort Dependency.sortKey classified.embedded.toList result.embedded ∧
        result.headers.resources =
          resourcesWith existing.resources (result.inlined.filterMap (inlinedResource? files) ++
            result.embedded.filterMap (embeddedResource? files settings)) ∧
        result.headers.classPath =
          classPathWith existing.classPath
            (result.embedded.filterMap (target? files settings)) :=
  ⟨by decide, returned,
    process_closedForm embedder files settings existing result (by decide) returned⟩

end BundleEmbed
