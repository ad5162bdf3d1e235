import BundleEmbed.Text.Sign

/-!
The clauses of the embedding header.

A clause is a pattern for the names of artifacts with a list of attributes. The header
is given as a mapping from patterns to attributes, in its order.
-/

namespace BundleEmbed

/-- A flag is set by the text `true` in any mixture of capital and small letters. -/
def isTrueText (text : Text) : Bool := text.toLower == "true"

/-- A flag that is not given is not set. -/
def isSet (text : Option Text) : Bool := text.any isTrueText

/-- One rule of the header. -/
structure Clause where
  pattern : Text
  attributes : List (Text × Text)
  deriving DecidableEq, Repr

/-- The header as it was read: patterns with their attributes, if they have any. -/
abbrev ClauseHeader := List (Text × Option (List (Text × Text)))

/-- The clauses of a header. -/
def Clause.ofHeader (header : ClauseHeader) : List Clause :=
  header.map fun (pattern, attributes) => ⟨pattern, attributes.getD []⟩

end BundleEmbed
