import BundleEmbed.Regex.Node

/-!
The alternatives of a group, as they are searched.

What all alternatives begin with is asked only once, in front of them. Alternatives of
one character each make up a set. Both change nothing in what is matched, but they
settle which tries a search makes, and with it what a possessive repetition takes.
-/

namespace BundleEmbed.Regex

/-- An expression that stands for the same wherever it is written: a character, an
assertion or a reference. -/
def Node.isPlain : Node → Bool
  | .one _ => true
  | .assertion _ => true
  | .reference _ => true
  | _ => false

/-- The plain expressions that the first alternative and the others begin with alike, and
what follows them in each. -/
def commonStart : List Node → List (List Node) → List Node × List (List Node)
  | node :: nodes, others =>
      if node.isPlain && others.all (·.head? == some node) then
        let (shared, rests) := commonStart nodes (others.map List.tail)
        (node :: shared, rests)
      else ([], (node :: nodes) :: others)
  | [], others => ([], [] :: others)

/-- The members that an alternative gives to a set: it is one character of a code point
or of a set that is not negated. -/
def setMembers? : List Node → Option (List SetItem)
  | [.one (.code point)] => some [.code point]
  | [.one (.set items false)] => some items
  | _ => none

/-- The set of alternatives that are one character each. -/
def commonSet? (alternatives : List (List Node)) : Option CharTest :=
  (alternatives.mapM setMembers?).map fun members => .set members.flatten.eraseDups false

/-- What remains to be chosen when the common start is taken away. -/
def choiceOf (alternatives : List (List Node)) : Node :=
  match commonSet? alternatives with
  | some test => .one test
  | none => .choice alternatives

/-- The expression of a group: its first alternative and the others, in their order. -/
def Node.ofAlternatives : List Node → List (List Node) → Node
  | nodes, [] => .sequence nodes
  | nodes, others =>
      let (shared, rests) := commonStart nodes others
      .sequence (shared ++ [choiceOf rests])

end BundleEmbed.Regex
