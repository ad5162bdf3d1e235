import BundleEmbed.Proofs.Additions
import BundleEmbed.Proofs.JoinedTexts

/-!
Reading headers back.

The entries of both headers are separated by commas; a resource is marked by an at sign, or
has an equals sign between its target and its source. Nothing is escaped, so a name that
holds one of these signs can be taken for something else.

* `Resource.ofPiece_text`, `Resource.isPlain_ofPiece`: a resource is read back from its text
  when none of the signs stands where it would be misread, and nothing else is ever read.
* `process_readBack_iff`: which runs without headers write what can be read back.
* `not_readBack_of_comma`: a comma in the name of a file is enough for one that does not.
-/

namespace BundleEmbed

open Regex (Release)

/-! ### Pieces -/

/-- The pieces of a header between its commas. An absent header has none. -/
def piecesOf (header : Option Text) : List Text :=
  header.elim [] fun text => (text.toList.splitOn (.char ',')).map Text.ofList

/-- No piece holds a comma. -/
theorem comma_not_mem_of_mem_piecesOf {header : Option Text} {piece : Text}
    (isPiece : piece ∈ piecesOf header) : .char ',' ∉ piece.toList := by
  cases header with
  | none => cases isPiece
  | some text =>
      obtain ⟨part, isPart, rfl⟩ := List.mem_map.mp isPiece
      rw [Text.toList_ofList]
      exact not_mem_of_mem_splitOn isPart

/-- Entries without commas are the pieces of the header that they are joined to. -/
theorem piecesOf_intercalate {entries : List Text} (someEntry : entries ≠ [])
    (noComma : ∀ entry ∈ entries, .char ',' ∉ entry.toList) :
    piecesOf (some (Text.intercalate "," entries)) = entries :=
  splitOn_intercalate_texts rfl someEntry noComma

/-! ### Resources -/

/-- What stands in the header of the resources for one file. -/
inductive Resource where
  | inlined (source : Text)
  | embedded (target source : Text)
  deriving DecidableEq, Repr

namespace Resource

/-- The entry of a resource. -/
def text : Resource → Text
  | .inlined source => "@" ++ source
  | .embedded target source => target ++ "=" ++ source

/-- The place of a resource that has one of its own. -/
def target? : Resource → Option Text
  | .inlined _ => none
  | .embedded target _ => some target

/-- The resource that a piece is read as: a mark comes first, or else a target ends at the
first equals sign. -/
def ofPiece (piece : Text) : Resource :=
  match piece.toList with
  | .char '@' :: source => .inlined (Text.ofList source)
  | chars =>
      .embedded (Text.ofList (chars.takeWhile (· ≠ .char '=')))
        (Text.ofList (chars.dropWhile (· ≠ .char '=')).tail)

/-- None of the signs stands where it would be misread. An equals sign in a source, or an at
sign that does not come first, does no harm. -/
def IsPlain : Resource → Prop
  | .inlined source => .char ',' ∉ source.toList
  | .embedded target source =>
      .char ',' ∉ target.toList ∧ .char ',' ∉ source.toList ∧ .char '=' ∉ target.toList ∧
        target.toList.head? ≠ some (.char '@')

/-- A piece that is not marked is read up to its first equals sign. -/
theorem ofPiece_of_head?_ne {piece : Text} (unmarked : piece.toList.head? ≠ some (.char '@')) :
    ofPiece piece =
      .embedded (Text.ofList (piece.toList.takeWhile (· ≠ .char '=')))
        (Text.ofList (piece.toList.dropWhile (· ≠ .char '=')).tail) := by
  unfold ofPiece
  split
  · rename_i source marked
    rw [marked] at unmarked
    exact absurd rfl unmarked
  · rfl

/-- A plain resource is read back from its text. -/
theorem ofPiece_text {r : Resource} (plain : r.IsPlain) : ofPiece r.text = r := by
  cases r with
  | inlined source =>
      have marked : (text (.inlined source)).toList = .char '@' :: source.toList := by simp [text]
      rw [ofPiece, marked]
      exact congrArg inlined (Text.ofList_toList source)
  | embedded target source =>
      obtain ⟨-, -, noEquals, unmarked⟩ := plain
      have chars : (text (.embedded target source)).toList =
          target.toList ++ .char '=' :: source.toList := by simp [text]
      have differ : ∀ c ∈ target.toList, decide (c ≠ .char '=') = true :=
        fun c isOne => decide_eq_true fun same => noEquals (same ▸ isOne)
      rw [ofPiece_of_head?_ne, chars, List.takeWhile_append_of_pos differ,
        List.dropWhile_append_of_pos differ]
      · simp
      · rw [chars]
        cases known : target.toList with
        | nil => simp
        | cons c later => simpa [known] using unmarked

/-- The text of a plain resource holds no comma. -/
theorem comma_not_mem_text {r : Resource} (plain : r.IsPlain) : .char ',' ∉ r.text.toList := by
  cases r with
  | inlined source =>
      have noComma : .char ',' ∉ source.toList := plain
      simpa [text] using noComma
  | embedded target source => simpa [text] using ⟨plain.1, plain.2.1⟩

/-- What is read from a piece without commas is plain. -/
theorem isPlain_ofPiece {piece : Text} (noComma : .char ',' ∉ piece.toList) :
    (ofPiece piece).IsPlain := by
  by_cases marked : piece.toList.head? = some (.char '@')
  · obtain ⟨source, chars⟩ := List.head?_eq_some_iff.mp marked
    rw [chars] at noComma
    rw [ofPiece, chars]
    change .char ',' ∉ (Text.ofList source).toList
    rw [Text.toList_ofList]
    exact fun inSource => noComma (.tail _ inSource)
  · rw [ofPiece_of_head?_ne marked]
    refine ⟨?_, ?_, ?_, ?_⟩ <;> rw [Text.toList_ofList]
    · exact fun inTarget => noComma ((List.takeWhile_sublist _).mem inTarget)
    · exact fun inSource => noComma ((List.dropWhile_sublist _).mem (List.mem_of_mem_tail inSource))
    · intro inTarget
      simpa using List.mem_takeWhile_imp inTarget
    · rw [List.head?_takeWhile]
      exact fun marksTarget => marked (Option.eq_some_of_filter_eq_some marksTarget)

end Resource

/-! ### Headers -/

/-- The resources of a header without others are read back exactly when they are plain. -/
theorem read_resources_iff (resources : List Resource) :
    (piecesOf (resourcesWith none (resources.map Resource.text))).map Resource.ofPiece =
        resources ↔
      ∀ r ∈ resources, r.IsPlain := by
  constructor
  · intro readBack r isOne
    rw [← readBack] at isOne
    obtain ⟨piece, isPiece, rfl⟩ := List.mem_map.mp isOne
    exact Resource.isPlain_ofPiece (comma_not_mem_of_mem_piecesOf isPiece)
  · intro plain
    by_cases none : resources = []
    · rw [none]
      rfl
    have someEntry : resources.map Resource.text ≠ [] := by simpa using none
    have noComma : ∀ entry ∈ resources.map Resource.text, .char ',' ∉ entry.toList := by
      intro entry isEntry
      obtain ⟨r, isOne, rfl⟩ := List.mem_map.mp isEntry
      exact Resource.comma_not_mem_text (plain r isOne)
    rw [resourcesWith, if_neg someEntry]
    change (piecesOf (some (Text.intercalate "," (resources.map Resource.text)))).map _ = _
    rw [piecesOf_intercalate someEntry noComma, List.map_map]
    exact (List.map_congr_left fun r isOne => Resource.ofPiece_text (plain r isOne)).trans
      (List.map_id' resources)

/-- A class path that starts with the bundle itself is split into its targets exactly when
there are any, and none of them holds a comma. -/
theorem piecesOf_classPath_iff (targets : List Text) :
    piecesOf (classPathWith none targets) = Text.ofString "." :: targets ↔
      targets ≠ [] ∧ ∀ target ∈ targets, .char ',' ∉ target.toList := by
  by_cases none : targets = []
  · simp [none, classPathWith, piecesOf]
  rw [classPathWith, if_neg none]
  constructor
  · intro readBack
    refine ⟨none, fun target isTarget => ?_⟩
    have isPiece : target ∈ Text.ofString "." :: targets := .tail _ isTarget
    rw [← readBack] at isPiece
    exact comma_not_mem_of_mem_piecesOf isPiece
  · rintro ⟨-, noComma⟩
    refine piecesOf_intercalate (List.cons_ne_nil _ _) fun entry isEntry => ?_
    rcases List.mem_cons.mp isEntry with rfl | isTarget
    · decide
    · exact noComma entry isTarget

/-! ### Runs -/

/-- The resources of the files that a run has placed: of what is inlined, and then of what is
embedded. -/
def EmbedResult.placed (result : EmbedResult) (files : FileTree) (settings : Settings) :
    List Resource :=
  result.inlined.filterMap (fun d => (placedFile files d).map fun path => .inlined path.text) ++
    result.embedded.filterMap fun d =>
      (placedFile files d).map fun path => .embedded (targetOf d path settings) path.text

/-- The entries of placed files are the texts of their resources, and the targets those that
they have. -/
theorem EmbedResult.ofPlaced_eq (result : EmbedResult) (files : FileTree) (settings : Settings) :
    let added := Additions.ofPlaced files settings result.inlined result.embedded
    added.resources = (result.placed files settings).map Resource.text ∧
      added.targets = (result.placed files settings).filterMap Resource.target? := by
  constructor
  · simp only [Additions.ofPlaced, placed, List.map_append, List.map_filterMap, Option.map_map]
    rfl
  · have noTarget : ∀ d : Dependency, (((placedFile files d).map fun path =>
        Resource.inlined path.text).bind Resource.target?) = none := fun d => by
      cases placedFile files d <;> rfl
    have target : ∀ d : Dependency, (((placedFile files d).map fun path =>
        Resource.embedded (targetOf d path settings) path.text).bind Resource.target?) =
          target? files settings d := fun d => by
      rw [target?]
      cases placedFile files d <;> rfl
    simp [Additions.ofPlaced, placed, List.filterMap_filterMap, noTarget, target]

/-- What a run without headers writes can be read back exactly when none of the signs that
separate entries stands in them where it would be misread: the pieces of the resources are
those of the files it has placed, one each, in their order, and the pieces of the class path
are the bundle itself and their targets. The class path is absent when there are none. -/
theorem process_readBack_iff [Release] (e : Embedder) (files : FileTree) (settings : Settings)
    (result : EmbedResult) (returned : (e.process files settings .absent).2 = .ok result) :
    let placed := result.placed files settings
    let targets := placed.filterMap Resource.target?
    ((piecesOf result.headers.resources).map Resource.ofPiece = placed ↔
        ∀ r ∈ placed, r.IsPlain) ∧
      (result.headers.classPath = none ↔ targets = []) ∧
      (piecesOf result.headers.classPath = Text.ofString "." :: targets ↔
        targets ≠ [] ∧ ∀ target ∈ targets, .char ',' ∉ target.toList) := by
  intro placed targets
  obtain ⟨resourcesAdded, targetsAdded⟩ := result.ofPlaced_eq files settings
  have form : result.headers =
      ⟨classPathWith none targets, resourcesWith none (placed.map Resource.text)⟩ := by
    rw [embedAll_headers returned, Headers.extend_eq, resourcesAdded, targetsAdded]
    rfl
  rw [form]
  refine ⟨read_resources_iff placed, ?_, piecesOf_classPath_iff targets⟩
  simp [classPathWith]

open PlacedFiles in
theorem process_readBack_iff_stored :
    (embedder.process files settings .absent).2 = .ok result ∧
      let placed := result.placed files settings
      let targets := placed.filterMap Resource.target?
      (((piecesOf result.headers.resources).map Resource.ofPiece = placed ↔
          ∀ r ∈ placed, r.IsPlain) ∧
        (result.headers.classPath = none ↔ targets = []) ∧
        (piecesOf result.headers.classPath = Text.ofString "." :: targets ↔
          targets ≠ [] ∧ ∀ target ∈ targets, .char ',' ∉ target.toList)) ∧
      placed = [.inlined "lib/b.jar", .embedded "libs/a.jar" "lib/a.jar"] ∧
      (piecesOf result.headers.resources).map Resource.ofPiece = placed ∧
      piecesOf result.headers.classPath = Text.ofString "." :: targets := by
  have returnedAbsent : (embedder.process files settings .absent).2 = .ok result :=
    (embedAll_of_other_headers returned .absent).trans (congrArg Except.ok (by decide +kernel))
  exact ⟨returnedAbsent, process_readBack_iff embedder files settings result returnedAbsent,
    by decide +kernel, by decide +kernel, by decide +kernel⟩

/-! ### A comma in the name of a file -/

namespace CommaInName

/-- A file whose name holds a comma, below the directory of a build. -/
def files : FileTree :=
  ⟨[(["run", "lib"], .directory), (["run", "lib", "a,b.jar"], .file ByteArray.empty)], ["run"]⟩

/-- The one dependency of the build. -/
def embedder : Embedder := .ofDependencies [PlacedFiles.stored "a" "lib/a,b.jar"]

/-- Everything is embedded. -/
def settings : Settings := { Settings.standard with clauses := [⟨"*", []⟩] }

/-- What the run gives. -/
def result : EmbedResult where
  inlined := []
  embedded := [PlacedFiles.stored "a" "lib/a,b.jar"]
  headers := ⟨some ".,a,b.jar", some "a,b.jar=lib/a,b.jar"⟩

/-- The run returns. -/
theorem returned : (embedder.process files settings .absent).2 = .ok result :=
  embedAll_result_of_ordered (by decide +kernel)

end CommaInName

/-- Not everything that a run writes can be read back: a comma in the name of a file is taken
for the end of an entry, in both headers. -/
theorem not_readBack_of_comma :
    ¬ ∀ (e : Embedder) (files : FileTree) (settings : Settings) (result : EmbedResult),
      (e.process files settings .absent).2 = .ok result →
        (piecesOf result.headers.resources).map Resource.ofPiece =
            result.placed files settings ∧
          piecesOf result.headers.classPath =
            Text.ofString "." :: (result.placed files settings).filterMap Resource.target? := by
  intro readBack
  have differ : (piecesOf CommaInName.result.headers.resources).map Resource.ofPiece ≠
      CommaInName.result.placed CommaInName.files CommaInName.settings := by decide +kernel
  exact differ (readBack _ _ _ _ CommaInName.returned).1

end BundleEmbed
