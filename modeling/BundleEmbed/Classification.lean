import BundleEmbed.Attribute
import BundleEmbed.Clause
import BundleEmbed.OrderedSet

/-!
Classifying dependencies as inlined or embedded.

The clauses are applied one after the other to the same candidates, and each adds the
dependencies it selects to one of two sets. When all clauses have been applied, what
is inlined is taken out of what is embedded. A clause that is refused ends the pass;
what the clauses before it have added stays, and nothing is taken out.
-/

namespace BundleEmbed

open Regex (Release)

/-! ### One clause -/

/-- The key of the attribute that asks for inlining; it selects nothing. -/
def inlineKey : Text := "inline"

/-- What a clause selects, and whether it asks for inlining. -/
structure Selection where
  dependencies : List Dependency
  inline : Bool
  deriving DecidableEq

/-- An attribute narrows what has been selected, or says whether to inline it. -/
def Selection.narrow [Release] (selection : Selection) (entry : Text × Text) :
    Except ClauseFault Selection :=
  let (key, text) := entry
  if key = inlineKey then .ok { selection with inline := isTrueText text }
  else do
    let filter ← Filter.read key text
    let dependencies ← filter.select selection.dependencies
    return { selection with dependencies }

/-- What a clause selects from candidates: those whose artifact its pattern accepts,
narrowed by its attributes in their order. -/
def Clause.select [Release] (clause : Clause) (candidates : List Dependency) :
    Except ClauseFault Selection := do
  let filter ← Filter.ofAttribute .artifactId clause.pattern
  let named ← filter.select candidates
  clause.attributes.foldlM Selection.narrow ⟨named, false⟩

/-! ### The two sets -/

/-- The dependencies that are inlined, and those that are embedded. -/
structure Classification where
  inlined : OrderedSet Dependency
  embedded : OrderedSet Dependency
  deriving DecidableEq

namespace Classification

/-- Nothing is classified. -/
def empty : Classification := ⟨.empty, .empty⟩

/-- The classification with what a clause has selected. -/
def add (c : Classification) (selection : Selection) : Classification :=
  if selection.inline then { c with inlined := c.inlined.insertAll selection.dependencies }
  else { c with embedded := c.embedded.insertAll selection.dependencies }

/-- What is inlined is not embedded as well. -/
def preferInlined (c : Classification) : Classification :=
  { c with embedded := c.embedded.filter (· ∉ c.inlined) }

/-- The inlined dependencies by their keys. -/
def sortedInlined (c : Classification) : List Dependency := Dependency.sort c.inlined.toList

/-- The embedded dependencies by their keys. -/
def sortedEmbedded (c : Classification) : List Dependency := Dependency.sort c.embedded.toList

end Classification

/-! ### A pass -/

/-- A clause has been applied. -/
structure ClauseApplied where
  pattern : Text
  inline : Bool
  matched : Nat
  deriving DecidableEq, Repr

/-- The outcome of a pass: the classification, the clauses that have been applied, and
why the pass has ended early, if it has. -/
structure Pass where
  classification : Classification
  applied : List ClauseApplied
  failure : Option ClauseFault
  deriving DecidableEq

namespace Pass

/-- A pass of clauses over candidates, which are all different. -/
def run [Release] (candidates : List Dependency) : List Clause → Classification → Pass
  | [], c => ⟨c.preferInlined, [], none⟩
  | clause :: later, c =>
      match clause.select candidates with
      | .error fault => ⟨c, [], some fault⟩
      | .ok selection =>
          let rest := run candidates later (c.add selection)
          let applied : ClauseApplied :=
            ⟨clause.pattern, selection.inline, selection.dependencies.length⟩
          { rest with applied := applied :: rest.applied }

end Pass

/-- The pass of clauses over dependencies, of which the first of equal ones counts,
starting from what has been classified before. -/
def classify [Release] (dependencies : List Dependency) (clauses : List Clause)
    (c : Classification) : Pass :=
  Pass.run (OrderedSet.ofList dependencies).toList clauses c

end BundleEmbed
