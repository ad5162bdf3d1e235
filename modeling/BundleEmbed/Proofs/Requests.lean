import BundleEmbed.Proofs.Run

/-!
Requests to an embedder, one after the other.

A request is a call, which may fail half way, or a question for the candidates. What an embedder
keeps of a call can be seen, but nothing reads it: every answer is the one that a new embedder
over the same dependencies gives.

* `Embedder.ask_dependencies`, `Embedder.afterRequests_dependencies`: neither a request nor a
  history of them changes the dependencies.
* `Embedder.answers_eq`: the answers of a history are those of new embedders.
* `Embedder.classified_of_call`: what can be seen after a call that returns.
* `Embedder.process_afterRequests`: a call after a history, and what can be seen after it.
-/

namespace BundleEmbed

open Regex (Release)

/-- What is asked of an embedder: a call, or the candidates under settings. -/
inductive Request where
  | call (call : Call)
  | candidates (settings : Settings)

/-- What a request is answered with. -/
inductive Answer where
  | ended (result : Except EmbedFault EmbedResult)
  | candidates (dependencies : List Dependency)

namespace Embedder

/-- An embedder after a request, and its answer. -/
def ask [Release] (e : Embedder) : Request → Embedder × Answer
  | .call call =>
      let (after, result) := e.call call
      (after, .ended result)
  | .candidates settings => (e, .candidates (settings.candidates e.dependencies))

/-- An embedder after requests one after the other. -/
def afterRequests [Release] (e : Embedder) (requests : List Request) : Embedder :=
  requests.foldl (fun e request => (e.ask request).1) e

/-- The answers to requests one after the other. -/
def answers [Release] : Embedder → List Request → List Answer
  | _, [] => []
  | e, request :: later => (e.ask request).2 :: (e.ask request).1.answers later

/-! ### Dependencies -/

/-- A request does not change the dependencies. -/
theorem ask_dependencies [Release] (e : Embedder) (request : Request) :
    (e.ask request).1.dependencies = e.dependencies := by
  cases request with
  | call call => exact congrArg (fun called => called.1.dependencies) (e.call_eq call)
  | candidates => rfl

/-- Requests one after the other do not change the dependencies. -/
theorem afterRequests_dependencies [Release] (e : Embedder) (requests : List Request) :
    (e.afterRequests requests).dependencies = e.dependencies := by
  induction requests generalizing e with
  | nil => rfl
  | cons request later ih =>
      change ((e.ask request).1.afterRequests later).dependencies = e.dependencies
      rw [ih, ask_dependencies]

/-! ### Answers -/

/-- A call is that of a new embedder over the same dependencies. -/
theorem call_eq_new [Release] (e : Embedder) (call : Call) :
    e.call call = (ofDependencies e.dependencies).call call := by
  rw [call_eq, call_eq]
  rfl

/-- An answer is that of a new embedder over the same dependencies. -/
theorem answer_eq_new [Release] (e : Embedder) (request : Request) :
    (e.ask request).2 = ((ofDependencies e.dependencies).ask request).2 := by
  cases request with
  | call call => exact congrArg (fun called => Answer.ended called.2) (e.call_eq_new call)
  | candidates => rfl

/-- Each answer to requests one after the other is that of a new embedder. -/
theorem answers_eq [Release] (e : Embedder) (requests : List Request) :
    e.answers requests =
      requests.map fun request => ((ofDependencies e.dependencies).ask request).2 := by
  induction requests generalizing e with
  | nil => rfl
  | cons request later ih =>
      rw [answers, ih, ask_dependencies, answer_eq_new, List.map_cons]

/-! ### What can be seen after a call -/

/-- After a call that returns, what can be seen is what it has returned. -/
theorem classified_of_call [Release] {e : Embedder} {call : Call} {result : EmbedResult}
    (returned : (e.call call).2 = .ok result) :
    (e.call call).1.inlined = result.inlined ∧ (e.call call).1.embedded = result.embedded := by
  rw [call_eq] at returned ⊢
  rcases embedAll_cases e.dependencies call.files call.settings call.existing with
    ⟨-, given, classified⟩ | ⟨-, classified, ended⟩
  · -- without clauses nothing is classified
    obtain rfl := Except.ok.inj (returned.symm.trans given)
    simp [inlined, embedded, classified, Classification.sortedInlined,
      Classification.sortedEmbedded, Classification.empty, Dependency.sort]
  · rcases ended with ⟨_, -, failed⟩ | ⟨-, ⟨_, -, failed⟩ | ⟨headers, -, given⟩⟩
    · cases returned.symm.trans failed
    · cases returned.symm.trans failed
    · obtain rfl := Except.ok.inj (returned.symm.trans given)
      simp only [inlined, embedded, classified, and_self]

/-- After any history of requests, those that fail included, a call gives what a new embedder
over the same dependencies gives. If it returns, what can be seen is what it has returned;
if it fails, it is what can be seen of the new embedder. -/
theorem process_afterRequests [Release] (e : Embedder) (history : List Request)
    (files : FileTree) (settings : Settings) (existing : Headers) :
    let called := (e.afterRequests history).process files settings existing
    let new := (ofDependencies e.dependencies).process files settings existing
    called.2 = new.2 ∧
      match called.2 with
      | .ok result => called.1.inlined = result.inlined ∧ called.1.embedded = result.embedded
      | .error _ => called.1.inlined = new.1.inlined ∧ called.1.embedded = new.1.embedded := by
  intro called new
  have same : called = new := by
    have forgotten := (e.afterRequests history).call_eq_new (.process files settings existing)
    rwa [afterRequests_dependencies] at forgotten
  refine ⟨congrArg Prod.snd same, ?_⟩
  split
  · rename_i result returned
    exact @classified_of_call _ _ (.process files settings existing) result returned
  · rw [same]
    exact ⟨rfl, rfl⟩

end Embedder

end BundleEmbed
