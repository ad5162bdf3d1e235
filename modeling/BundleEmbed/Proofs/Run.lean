import BundleEmbed.Embedding
import BundleEmbed.Proofs.Pass

/-!
The ways a run ends, and calls one after the other.

* `embedAll_cases`: a run has no clauses, or its pass is ended by a clause, or a file that
  cannot be asked for ends it, or it returns.
* `Embedder.call_eq`: a call gives what a run over the dependencies of the embedder gives,
  whatever has been called before (`Embedder.afterCalls_dependencies`).
-/

namespace BundleEmbed

open Regex (Release)

/-! ### One run -/

/-- The pass of a run over the dependencies of a build. -/
def Settings.pass [Release] (settings : Settings) (dependencies : List Dependency) : Pass :=
  classify (settings.candidates dependencies) settings.clauses .empty

/-- What a run classifies of which no clause is refused. -/
theorem Settings.classification_pass [Release] {settings : Settings}
    {dependencies : List Dependency} (whole : (settings.pass dependencies).failure = none) :
    (settings.pass dependencies).classification =
      (Classification.empty.addAll (Dependency.distinct (settings.candidates dependencies))
        settings.clauses).preferInlined :=
  Pass.classification_of_whole whole

section Endings

variable [Release] {dependencies : List Dependency} {files : FileTree} {settings : Settings}
  {existing : Headers}

/-- A refused clause ends a run. -/
theorem embedAll_of_refused (hasClauses : settings.clauses ≠ []) {fault : ClauseFault}
    (refused : (settings.pass dependencies).failure = some fault) :
    let pass := settings.pass dependencies
    embedAll dependencies files settings existing =
      ⟨.error (.clause fault), pass.classification, pass.applied.map Event.clauseApplied⟩ := by
  unfold Settings.pass at refused ⊢
  simp only [embedAll, if_neg hasClauses, refused]

/-- A file that cannot be asked for ends a run. -/
theorem embedAll_of_emit_error (hasClauses : settings.clauses ≠ []) {failure : FileFailure}
    (whole : (settings.pass dependencies).failure = none)
    (failed : existing.emit files settings
      (settings.pass dependencies).classification.sortedInlined
      (settings.pass dependencies).classification.sortedEmbedded = .error failure) :
    let pass := settings.pass dependencies
    embedAll dependencies files settings existing =
      ⟨.error (.file failure), pass.classification, pass.applied.map Event.clauseApplied⟩ := by
  unfold Settings.pass at whole failed ⊢
  simp only [embedAll, if_neg hasClauses, whole, failed]

/-- A run that comes to its end gives what it has classified, and the headers. -/
theorem embedAll_of_emit_ok (hasClauses : settings.clauses ≠ []) {headers : Headers}
    (whole : (settings.pass dependencies).failure = none)
    (emitted : existing.emit files settings
      (settings.pass dependencies).classification.sortedInlined
      (settings.pass dependencies).classification.sortedEmbedded = .ok headers) :
    let pass := settings.pass dependencies
    let inlined := pass.classification.sortedInlined
    let embedded := pass.classification.sortedEmbedded
    embedAll dependencies files settings existing =
      ⟨.ok ⟨inlined, embedded, headers⟩, pass.classification,
        pass.applied.map Event.clauseApplied ++
          [.resolved settings.clauses.length (settings.candidates dependencies).length
            inlined.length embedded.length]⟩ := by
  unfold Settings.pass at whole emitted ⊢
  simp only [embedAll, if_neg hasClauses, whole, emitted]

end Endings

/-- How a run ends, with what it has classified. -/
theorem embedAll_cases [Release] (dependencies : List Dependency) (files : FileTree)
    (settings : Settings) (existing : Headers) :
    let pass := settings.pass dependencies
    let outcome := embedAll dependencies files settings existing
    (settings.clauses = [] ∧ outcome.result = .ok ⟨[], [], existing⟩ ∧
        outcome.classification = .empty) ∨
      settings.clauses ≠ [] ∧ outcome.classification = pass.classification ∧
        ((∃ fault, pass.failure = some fault ∧ outcome.result = .error (.clause fault)) ∨
          pass.failure = none ∧
            ((∃ failure, existing.emit files settings pass.classification.sortedInlined
                  pass.classification.sortedEmbedded = .error failure ∧
                outcome.result = .error (.file failure)) ∨
              ∃ headers, existing.emit files settings pass.classification.sortedInlined
                  pass.classification.sortedEmbedded = .ok headers ∧
                outcome.result = .ok ⟨pass.classification.sortedInlined,
                  pass.classification.sortedEmbedded, headers⟩)) := by
  intro pass outcome
  by_cases noClauses : settings.clauses = []
  · simp [outcome, embedAll, noClauses]
  refine .inr ⟨noClauses, ?_⟩
  cases ended : pass.failure with
  | some fault =>
      have run : outcome = _ := embedAll_of_refused noClauses ended
      rw [run]
      exact ⟨rfl, .inl ⟨fault, rfl, rfl⟩⟩
  | none =>
      cases emitted : existing.emit files settings pass.classification.sortedInlined
          pass.classification.sortedEmbedded with
      | error failure =>
          have run : outcome = _ := embedAll_of_emit_error noClauses ended emitted
          rw [run]
          exact ⟨rfl, .inr ⟨rfl, .inl ⟨failure, rfl, rfl⟩⟩⟩
      | ok headers =>
          have run : outcome = _ := embedAll_of_emit_ok noClauses ended emitted
          rw [run]
          exact ⟨rfl, .inr ⟨rfl, .inr ⟨headers, rfl, rfl⟩⟩⟩

/-! ### Calls -/

/-- A call on an embedder, with the files that it finds. -/
inductive Call where
  | process (files : FileTree) (settings : Settings) (existing : Headers)
  | processProperties (files : FileTree) (properties : Properties) (header : Option ClauseHeader)

namespace Call

/-- The files that a call finds. -/
def files : Call → FileTree
  | .process files _ _ => files
  | .processProperties files _ _ => files

/-- The settings of a call. -/
def settings : Call → Settings
  | .process _ settings _ => settings
  | .processProperties _ properties header => Settings.ofProperties properties header

/-- The headers that a call extends. -/
def existing : Call → Headers
  | .process _ _ existing => existing
  | .processProperties _ properties _ => Headers.ofProperties properties

end Call

namespace Embedder

/-- An embedder after a call, and what the call gives. -/
def call [Release] (e : Embedder) : Call → Embedder × Except EmbedFault EmbedResult
  | .process files settings existing => e.process files settings existing
  | .processProperties files properties header =>
      let (after, _, result) := e.processProperties files properties header
      (after, result)

/-- An embedder after calls one after the other, those that fail included. -/
def afterCalls [Release] (e : Embedder) (calls : List Call) : Embedder :=
  calls.foldl (fun e call => (e.call call).1) e

/-- Both kinds of calls are runs over the dependencies of the embedder. -/
theorem call_eq [Release] (e : Embedder) (call : Call) :
    let outcome := embedAll e.dependencies call.files call.settings call.existing
    e.call call = ({ e with classification := outcome.classification }, outcome.result) := by
  cases call with
  | process => rfl
  | processProperties files properties header =>
      simp only [Embedder.call, processProperties, process, Call.files, Call.settings,
        Call.existing]
      split <;> rename_i ended <;> simp [ended]

/-- Calls do not change the dependencies of an embedder. -/
theorem afterCalls_dependencies [Release] (e : Embedder) (calls : List Call) :
    (e.afterCalls calls).dependencies = e.dependencies := by
  induction calls generalizing e with
  | nil => rfl
  | cons call calls ih =>
      change ((e.call call).1.afterCalls calls).dependencies = e.dependencies
      rw [ih, call_eq]

end Embedder

end BundleEmbed
