import BundleEmbed.Proofs.HeaderForm

/-!
What a run adds to headers, whatever they hold.

A run fails, or it appends entries to the two headers. Which of the two it does, and with
what, is settled by the dependencies, the files and the settings alone.

* `Headers.emit_eq_match`: placing fails for the first file that cannot be asked for, or
  appends what there is to add.
* `embedAll_result`: so does a run, and what it adds does not depend on the headers.
* `embedAll_headers`: what a run that returns has added is what its lists place.
-/

namespace BundleEmbed

open Regex (Release)

/-! ### Entries to add -/

/-- Entries for the two headers, in their order. No resource is empty. -/
structure Additions where
  targets : List Text
  resources : List Text
  nonempty : ∀ resource ∈ resources, resource ≠ ""

namespace Additions

/-- Nothing is added. -/
def nothing : Additions := ⟨[], [], by simp⟩

/-- What inlined and embedded dependencies add, those whose file is there. -/
def ofPlaced (files : FileTree) (settings : Settings) (inlined embedded : List Dependency) :
    Additions where
  targets := embedded.filterMap (target? files settings)
  resources := inlined.filterMap (inlinedResource? files) ++
    embedded.filterMap (embeddedResource? files settings)
  nonempty _ isPlaced := resource_ne_empty isPlaced

end Additions

/-- The headers with entries appended one by one. -/
def Headers.extend (headers : Headers) (added : Additions) : Headers :=
  ⟨appendAll "." headers.classPath added.targets, appendAll "" headers.resources added.resources⟩

@[simp] theorem Headers.extend_nothing (headers : Headers) :
    headers.extend .nothing = headers := rfl

/-- All entries that are appended, said at once. -/
theorem Headers.extend_eq (headers : Headers) (added : Additions) :
    headers.extend added =
      ⟨classPathWith headers.classPath added.targets,
        resourcesWith headers.resources added.resources⟩ := by
  rw [extend, appendAll_classPath, appendAll_resources added.nonempty]

/-- A header that has a value keeps one. -/
theorem Headers.extend_or (headers : Headers) (added : Additions) :
    (headers.extend added).classPath.or headers.classPath = (headers.extend added).classPath ∧
      (headers.extend added).resources.or headers.resources =
        (headers.extend added).resources := by
  have keeps : ∀ (seed : Text) (existing : Option Text) (entries : List Text),
      (appendAll seed existing entries).or existing = appendAll seed existing entries := by
    intro seed existing entries
    cases existing with
    | none => exact Option.or_none
    | some text => rw [appendAll_some]; rfl
  exact ⟨keeps _ _ _, keeps _ _ _⟩

/-! ### Placing -/

/-- Why the file of a dependency cannot be asked for, if it cannot. -/
def fileFailure? (files : FileTree) (d : Dependency) : Option FileFailure :=
  match sourceOf files d with
  | .ok _ => none
  | .error failure => some failure

/-- A chain of steps, whose failures do not depend on what the steps before have given,
fails with the first of them. -/
theorem foldlM_eq_error_iff {ε α β : Type} {step : β → α → Except ε β} {fault? : α → Option ε}
    (fails : ∀ b a e, step b a = .error e ↔ fault? a = some e) (members : List α) (start : β)
    (e : ε) : members.foldlM step start = .error e ↔ members.findSome? fault? = some e := by
  induction members generalizing start with
  | nil => exact ⟨nofun, nofun⟩
  | cons a members ih =>
      rw [List.foldlM_cons, List.findSome?_cons]
      cases taken : step start a with
      | error e' =>
          rw [(fails start a e').mp taken]
          simp [bind, Except.bind]
      | ok next =>
          have noFault : fault? a = none := by
            cases faulty : fault? a with
            | none => rfl
            | some e' =>
                rw [(fails start a e').mpr faulty] at taken
                cases taken
          rw [noFault]
          exact ih next

/-- Placing a dependency fails as asking for its file does. -/
theorem placing_eq_error_iff {α : Type} {files : FileTree} {d : Dependency} {failure : FileFailure}
    {enter : Option Path → Except FileFailure (Headers × α)}
    (enters : ∀ source, ∃ next, enter source = .ok next) :
    Prod.fst <$> (sourceOf files d >>= enter) = .error failure ↔
      fileFailure? files d = some failure := by
  unfold fileFailure?
  cases sourceOf files d with
  | error failure' => simp [bind, Except.bind, Functor.map, Except.map]
  | ok source =>
      obtain ⟨next, entered⟩ := enters source
      simp [bind, Except.bind, Functor.map, Except.map, entered]

theorem Headers.inline_eq_error_iff (files : FileTree) (headers : Headers) (d : Dependency)
    (failure : FileFailure) :
    Prod.fst <$> headers.inline files d = .error failure ↔
      fileFailure? files d = some failure :=
  placing_eq_error_iff fun source => by cases source <;> exact ⟨_, rfl⟩

theorem Headers.embed_eq_error_iff (files : FileTree) (settings : Settings) (headers : Headers)
    (d : Dependency) (failure : FileFailure) :
    Prod.fst <$> headers.embed files settings d = .error failure ↔
      fileFailure? files d = some failure :=
  placing_eq_error_iff fun source => by cases source <;> exact ⟨_, rfl⟩

/-- Placing dependencies fails with the first file that cannot be asked for. -/
theorem Headers.emit_eq_error_iff {files : FileTree} {settings : Settings} {existing : Headers}
    {inlined embedded : List Dependency} {failure : FileFailure} :
    existing.emit files settings inlined embedded = .error failure ↔
      (inlined ++ embedded).findSome? (fileFailure? files) = some failure := by
  have first := foldlM_eq_error_iff (Headers.inline_eq_error_iff files) inlined existing
  rw [emit, List.findSome?_append]
  cases placed : inlined.foldlM (fun headers d => Prod.fst <$> headers.inline files d) existing with
  | error failure' =>
      rw [(first failure').mp placed]
      simp [bind, Except.bind]
  | ok between =>
      have noFailure : inlined.findSome? (fileFailure? files) = none := by
        cases failed : inlined.findSome? (fileFailure? files) with
        | none => rfl
        | some failure' =>
            rw [(first failure').mpr failed] at placed
            cases placed
      rw [noFailure, Option.none_or]
      exact foldlM_eq_error_iff (Headers.embed_eq_error_iff files settings) embedded between failure

/-- Placing dependencies fails with the first file that cannot be asked for, or appends what
there is to add. -/
theorem Headers.emit_eq_match (files : FileTree) (settings : Settings) (existing : Headers)
    (inlined embedded : List Dependency) :
    existing.emit files settings inlined embedded =
      match (inlined ++ embedded).findSome? (fileFailure? files) with
      | some failure => .error failure
      | none => .ok (existing.extend (.ofPlaced files settings inlined embedded)) := by
  cases failed : (inlined ++ embedded).findSome? (fileFailure? files) with
  | some failure => exact Headers.emit_eq_error_iff.mpr failed
  | none =>
      cases emitted : existing.emit files settings inlined embedded with
      | error failure =>
          rw [Headers.emit_eq_error_iff.mp emitted] at failed
          cases failed
      | ok headers =>
          rw [Headers.emit_eq emitted, Headers.extend_eq]
          rfl

/-! ### Runs -/

/-- What a run with settings adds, or why it fails. No header has a part in it. -/
def Settings.additions [Release] (settings : Settings) (dependencies : List Dependency)
    (files : FileTree) : Except EmbedFault Additions :=
  let pass := settings.pass dependencies
  let inlined := pass.classification.sortedInlined
  let embedded := pass.classification.sortedEmbedded
  if settings.clauses = [] then .ok .nothing
  else
    match pass.failure, (inlined ++ embedded).findSome? (fileFailure? files) with
    | some fault, _ => .error (.clause fault)
    | none, some failure => .error (.file failure)
    | none, none => .ok (.ofPlaced files settings inlined embedded)

/-- Without clauses nothing is classified. -/
theorem Settings.pass_of_no_clauses [Release] {settings : Settings}
    (noClauses : settings.clauses = []) (dependencies : List Dependency) :
    (settings.pass dependencies).classification = .empty := by
  rw [pass, noClauses]
  rfl

/-- What a run gives: it fails, or it lists what it has classified and extends the headers. -/
theorem embedAll_result [Release] (dependencies : List Dependency) (files : FileTree)
    (settings : Settings) (existing : Headers) :
    let classified := (settings.pass dependencies).classification
    (embedAll dependencies files settings existing).result =
      (settings.additions dependencies files).map fun added =>
        ⟨classified.sortedInlined, classified.sortedEmbedded, existing.extend added⟩ := by
  intro classified
  unfold Settings.additions
  rcases embedAll_cases dependencies files settings existing with
    ⟨noClauses, result, -⟩ |
    ⟨hasClauses, -, ⟨fault, refused, result⟩ |
      ⟨whole, ⟨failure, emitted, result⟩ | ⟨headers, emitted, result⟩⟩⟩
  · have sortedNothing : Dependency.sort [] = [] := List.mergeSort_nil
    have nothing : classified = .empty := Settings.pass_of_no_clauses noClauses dependencies
    rw [result, if_pos noClauses, nothing]
    simp only [Except.map, Classification.sortedInlined, Classification.sortedEmbedded,
      Classification.empty, OrderedSet.toList_empty, sortedNothing, Headers.extend_nothing]
  · rw [result, if_neg hasClauses, refused]
    rfl
  · rw [result, if_neg hasClauses, whole, Headers.emit_eq_error_iff.mp emitted]
    rfl
  · rw [Headers.emit_eq_match] at emitted
    rw [result, if_neg hasClauses, whole]
    revert emitted
    split
    · intro emitted
      cases emitted
    · rename_i noFailure
      intro emitted
      cases emitted
      rw [noFailure]
      rfl

/-- A run that returns has extended the headers by the files of what it lists. -/
theorem embedAll_headers [Release] {dependencies : List Dependency} {files : FileTree}
    {settings : Settings} {existing : Headers} {result : EmbedResult}
    (returned : (embedAll dependencies files settings existing).result = .ok result) :
    result.headers = existing.extend (.ofPlaced files settings result.inlined result.embedded) := by
  rcases embedAll_cases dependencies files settings existing with
    ⟨-, given, -⟩ | ⟨-, -, ⟨fault, -, given⟩ | ⟨-, ⟨failure, -, given⟩ | ⟨headers, emitted, given⟩⟩⟩
    <;> rw [given] at returned <;> cases returned
  · rfl
  · rw [Headers.emit_eq emitted, Headers.extend_eq]
    rfl

/-- A run that returns lists the same whatever the headers are, and adds the same to them. -/
theorem embedAll_of_other_headers [Release] {dependencies : List Dependency} {files : FileTree}
    {settings : Settings} {existing : Headers} {result : EmbedResult}
    (returned : (embedAll dependencies files settings existing).result = .ok result)
    (other : Headers) :
    (embedAll dependencies files settings other).result =
      .ok ⟨result.inlined, result.embedded,
        other.extend (.ofPlaced files settings result.inlined result.embedded)⟩ := by
  have onExisting := embedAll_result dependencies files settings existing
  have onOther := embedAll_result dependencies files settings other
  rw [returned] at onExisting
  cases known : settings.additions dependencies files with
  | error fault =>
      rw [known] at onExisting
      cases onExisting
  | ok added =>
      rw [known] at onExisting onOther
      cases onExisting
      rw [onOther]
      exact congrArg (fun headers => Except.ok (EmbedResult.mk _ _ headers))
        (embedAll_headers onOther)

end BundleEmbed
