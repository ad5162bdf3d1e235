import BundleEmbed.Classification
import BundleEmbed.Placement

/-!
Embedding the dependencies of a build in a bundle.

A run classifies the candidates by the clauses of its settings and then places them:
first the inlined dependencies by their keys, then the embedded ones. It gives the
headers that result, or the first failure; what has been classified until then can be
seen in both cases, and so can the events on the way. Without clauses a run leaves the
headers as they are.
-/

namespace BundleEmbed

open Regex (Release)

/-- Something worth telling has happened. -/
inductive Event where
  | clauseApplied (applied : ClauseApplied)
  | resolved (clauses candidates inlined embedded : Nat)
  deriving DecidableEq, Repr

/-- Why a run fails. -/
inductive EmbedFault where
  | clause (fault : ClauseFault)
  | file (failure : FileFailure)
  deriving DecidableEq, Repr

/-- The wording of a failure. -/
def EmbedFault.message : EmbedFault → Text
  | .clause fault => fault.message
  | .file failure => failure.message

/-- What a run gives: the dependencies it has classified, by their keys, and the
headers. -/
structure EmbedResult where
  inlined : List Dependency
  embedded : List Dependency
  headers : Headers
  deriving DecidableEq

/-- The outcome of a run. -/
structure Outcome where
  result : Except EmbedFault EmbedResult
  classification : Classification
  events : List Event

/-- The dependencies that may be embedded: all, or those that the build names itself. -/
def Settings.candidates (settings : Settings) (dependencies : List Dependency) :
    List Dependency :=
  if settings.transitive then dependencies else dependencies.filter (·.direct)

/-- The headers after inlined and embedded dependencies have been placed. -/
def Headers.emit (headers : Headers) (files : FileTree) (settings : Settings)
    (inlined embedded : List Dependency) : Except FileFailure Headers := do
  let headers ← inlined.foldlM (fun headers d => Prod.fst <$> headers.inline files d) headers
  embedded.foldlM (fun headers d => Prod.fst <$> headers.embed files settings d) headers

/-- A run over the dependencies of a build, which extends existing headers. -/
def embedAll [Release] (dependencies : List Dependency) (files : FileTree) (settings : Settings)
    (existing : Headers) : Outcome :=
  if settings.clauses = [] then ⟨.ok ⟨[], [], existing⟩, .empty, []⟩
  else
    let candidates := settings.candidates dependencies
    let pass := classify candidates settings.clauses .empty
    let applied := pass.applied.map Event.clauseApplied
    match pass.failure with
    | some fault => ⟨.error (.clause fault), pass.classification, applied⟩
    | none =>
        let inlined := pass.classification.sortedInlined
        let embedded := pass.classification.sortedEmbedded
        match existing.emit files settings inlined embedded with
        | .error failure => ⟨.error (.file failure), pass.classification, applied⟩
        | .ok headers =>
            let resolved : Event := .resolved settings.clauses.length candidates.length
              inlined.length embedded.length
            ⟨.ok ⟨inlined, embedded, headers⟩, pass.classification, applied ++ [resolved]⟩

/-! ### Runs one after the other -/

/-- The dependencies of a build, with what the last run has classified. -/
structure Embedder where
  dependencies : List Dependency
  classification : Classification
  deriving DecidableEq

namespace Embedder

/-- Before any run nothing is classified. -/
def ofDependencies (dependencies : List Dependency) : Embedder := ⟨dependencies, .empty⟩

/-- The inlined dependencies of the last run, by their keys. -/
def inlined (e : Embedder) : List Dependency := e.classification.sortedInlined

/-- The embedded dependencies of the last run, by their keys. -/
def embedded (e : Embedder) : List Dependency := e.classification.sortedEmbedded

/-- A run, which forgets what the one before it has classified. -/
def process [Release] (e : Embedder) (files : FileTree) (settings : Settings)
    (existing : Headers) : Embedder × Except EmbedFault EmbedResult :=
  let outcome := embedAll e.dependencies files settings existing
  ({ e with classification := outcome.classification }, outcome.result)

/-- A run on properties: they hold the settings and the headers to extend, and take the
headers that result. A failing run leaves them as they are. -/
def processProperties [Release] (e : Embedder) (files : FileTree) (properties : Properties)
    (header : Option ClauseHeader) :
    Embedder × Properties × Except EmbedFault EmbedResult :=
  let settings := Settings.ofProperties properties header
  let (e, result) := e.process files settings (Headers.ofProperties properties)
  match result with
  | .ok outcome => (e, outcome.headers.applyTo properties, result)
  | .error _ => (e, properties, result)

end Embedder

end BundleEmbed
