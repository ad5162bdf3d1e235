import BundleEmbed.Regex.Node

/-!
Searches in a text, and the notes they take.

A search goes from place to place and notes down where it stands and where groups start
and end. A try that fails is taken back, but not without trace: the place noted last
stays, and inside of a group that was already closed, so do its new ends. The notes of
a failed try are therefore part of its outcome.
-/

namespace BundleEmbed.Regex

/-! ### Places -/

/-- A place in the text on the way of a match. -/
structure Place where
  /-- the number of characters before this place -/
  position : Nat
  /-- the character before this place -/
  previous : Option Sign
  rest : List Sign
  deriving DecidableEq, Repr

namespace Place

/-- The place where a match of the text starts. -/
def start (text : List Sign) : Place := ⟨0, none, text⟩

/-- The place after the next character, if there is one that passes the test. -/
def accept (here : Place) (test : Sign → Bool) : Option Place :=
  match here.rest with
  | [] => none
  | c :: rest => if test c then some ⟨here.position + 1, some c, rest⟩ else none

/-- The place after the given characters, if they come next. -/
def acceptAll (here : Place) : List Sign → Option Place
  | [] => some here
  | c :: text => (here.accept (· == c)).bind (·.acceptAll text)

/-- The places from here on after up to `limit` characters that pass the test, the
nearest first. -/
def reach (test : Sign → Bool) : Nat → Place → List Place
  | 0, here => [here]
  | limit + 1, here =>
      match here.accept test with
      | some there => here :: reach test limit there
      | none => [here]

/-- Two neighbouring characters, of which one belongs to a word and the other not. -/
def atWordEdge (here : Place) : Bool :=
  here.previous.any isWordChar != here.rest.head?.any isWordChar

/-- The text as a whole is empty. -/
def inEmptyText (here : Place) : Bool := here.position == 0 && here.rest.isEmpty

/-- The text between two places. -/
def textTo (here there : Place) : List Sign := here.rest.take (there.position - here.position)

/-- The next character is not the one that is asked for. -/
def lacksCode (here : Place) : Option CharTest → Bool
  | some (.code point) => !here.rest.head?.any (CharTest.code point).holds
  | _ => false

/-- The next character is not the one that is asked for, or not in the set. -/
def lacks (here : Place) : Option CharTest → Bool
  | some (.set items negated) => !here.rest.head?.any (CharTest.set items negated).holds
  | test? => here.lacksCode test?

/-- The number of optional rounds that a repetition may make from here on: each round
but one makes progress. -/
def rounds (here : Place) : Nat := here.rest.length + 2

end Place

/-- Whether an assertion holds at a place. On an empty text neither a word edge nor
its absence is found. -/
def Assertion.holds : Assertion → Place → Bool
  | .textStart, here => here.position == 0
  | .textEnd, here => here.rest.isEmpty
  | .lastLineEnd, here => here.rest.isEmpty || here.rest == [.char '\n']
  | .wordEdge, here => here.atWordEdge
  | .noWordEdge, here => !here.inEmptyText && !here.atWordEdge

/-! ### Notes -/

/-- What a search has noted down. -/
structure Notes where
  /-- the place that was noted last -/
  latest : Place
  /-- where the groups start and end, from the start of the first group on; a mark that
  was passed over is absent -/
  marks : List (Option Place)
  deriving DecidableEq, Repr

namespace Notes

/-- Nothing has been noted but the place where the search starts. -/
def start (here : Place) : Notes := ⟨here, []⟩

/-- The search stands here. -/
def note (notes : Notes) (here : Place) : Notes := { notes with latest := here }

/-- A group starts or ends here. Marks before it that are not set yet are absent. -/
def mark (notes : Notes) (index : Nat) (here : Place) : Notes :=
  let absent := List.replicate (index + 1 - notes.marks.length) none
  { notes with marks := (notes.marks ++ absent).set index (some here) }

/-- The index of the mark where a group starts. -/
def startOf (group : Nat) : Nat := 2 * (group - 1)

/-- The index of the mark where a group ends. -/
def endOf (group : Nat) : Nat := startOf group + 1

/-- What a group holds, once it has started and ended. -/
def held? (notes : Notes) (group : Nat) : Option (List Sign) :=
  match notes.marks[startOf group]?, notes.marks[endOf group]? with
  | some (some first), some (some last) =>
      if last.position < first.position then none else some (first.textTo last)
  | _, _ => none

/-- The notes after a failed try, which was made with the notes `before`. Inside of a
repetition all marks are as before; elsewhere only those that the try has added vanish. -/
def takeBack (failed before : Notes) (inLoop : Bool) : Notes :=
  let marks := if inLoop then before.marks else failed.marks.take before.marks.length
  { failed with marks }

/-- A group ends before it starts. -/
def crossed : List (Option Place) → Bool
  | some first :: some last :: marks => last.position < first.position || crossed marks
  | _ :: _ :: marks => crossed marks
  | _ => false

end Notes

/-! ### Searches -/

/-- How a search ends, with its notes. -/
inductive Outcome where
  | found (notes : Notes)
  | failed (notes : Notes)
  deriving DecidableEq, Repr

/-- Another search after one that has failed, with the notes of that. -/
def Outcome.orElse : Outcome → (Notes → Outcome) → Outcome
  | .found notes, _ => .found notes
  | .failed notes, retry => retry notes

/-- A search from a place on, with the notes taken so far. -/
abbrev Search := Place → Notes → Outcome

namespace Search

/-- The search that succeeds at once, and notes where. -/
def accept : Search := fun here notes => .found (notes.note here)

/-- The search that succeeds where nothing is left to read. -/
def atEnd : Search := fun here notes =>
  if here.rest.isEmpty then accept here notes else .failed notes

/-- The search that notes the place before it starts and again when it fails. -/
def noted (search : Search) : Search := fun here notes =>
  (search here (notes.note here)).orElse fun failed => .failed (failed.note here)

/-- The search `next` from the first of the places where it succeeds. A place without
the character that comes next is passed over. -/
def fromFirst (inLoop : Bool) (ahead : Option CharTest) (next : Search) :
    List Place → Notes → Outcome
  | [], notes => .failed notes
  | here :: places, notes =>
      if here.lacksCode ahead then fromFirst inLoop ahead next places notes
      else
        (next here (notes.note here)).orElse fun failed =>
          fromFirst inLoop ahead next places (failed.takeBack notes inLoop)

end Search

end BundleEmbed.Regex
