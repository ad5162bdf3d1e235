import BundleEmbed.Regex.Search

/-!
Matching a whole text against a regular expression.

A match is searched in the order in which the expression prefers its choices: the
first alternative before the second, one more repetition before none. Each
expression is given what remains to be done after it, so giving a choice back is a
plain return.

A repetition that may go on stops when its last optional round started where it
stands now, so it never runs on without progress. A possessive repetition makes each
round once and gives none back: `x{m,n}+` is `x{m,n}` with its first match only. The
first releases of the engine that have it miss this by a slip, so the release is a
parameter of the search.
-/

namespace BundleEmbed.Regex

/-! ### Releases -/

/-- What the releases of the engine differ in. -/
class Release where
  /-- What follows a possessive repetition whose last round has failed goes on from the
  place which that round has noted last, not from the end of the round before it. -/
  keepsFailedPlace : Bool
  deriving DecidableEq, Repr

/-- The releases in which a failed round leaves no trace, which is what is meant. -/
instance Release.repaired : Release := ⟨false⟩

/-- The releases before them. -/
@[reducible] def Release.first : Release := ⟨true⟩

/-! ### Repetitions of one character -/

/-- The places after all numbers of characters that a repetition may take, the farthest
first. -/
def Bounds.places (bounds : Bounds) (test : Sign → Bool) (here : Place) : List Place :=
  let left := here.rest.length
  let limit := (bounds.most.map (min left)).getD left
  ((here.reach test limit).drop bounds.least).reverse

/-- A repetition of one character. A text that is too short is refused without a note. -/
def runMany (bounds : Bounds) (possessive : Bool) (test : Sign → Bool) (inLoop : Bool)
    (ahead : Option CharTest) (next : Search) : Search := fun here notes =>
  if here.rest.length < bounds.least then .failed notes
  else
    let notes := notes.note here
    let places := bounds.places test here
    if possessive then
      match places with
      | [] => .failed notes
      | farthest :: _ => next farthest notes
    else Search.fromFirst inLoop ahead next places notes

/-! ### Repetitions of expressions -/

/-- The rounds that a repetition has to make before it goes on. -/
def runLeast (round : Search → Search) (next : Search) : Nat → Search
  | 0 => next
  | least + 1 => Search.noted (round (runLeast round next least))

/-- The rounds that a repetition may make: as many as possible, then fewer. `started`
is the position at which the last of them started. -/
def runMost (round : Search → Search) (next : Search) :
    Nat → Option Nat → Option Nat → Search
  | 0, _, _, here, notes => Search.noted next here notes
  | fuel + 1, allowed, started, here, notes =>
      if allowed = some 0 ∨ started = some here.position then Search.noted next here notes
      else
        let later := runMost round next fuel (allowed.map (· - 1)) (some here.position)
        (round later here (notes.note here)).orElse fun failed =>
          Search.noted next here { failed with marks := notes.marks }

/-- The rounds that a possessive repetition has to make, each from the place that was
noted last. -/
def takeLeast (round : Search → Search) : Nat → Notes → Outcome
  | 0, notes => .found notes
  | least + 1, notes =>
      match round Search.accept notes.latest notes with
      | .found notes => takeLeast round least notes
      | .failed notes => .failed notes

/-- The rounds that a possessive repetition may make, up to one that fails or starts
where the one before it has started. -/
def takeMost [Release] (round : Search → Search) :
    Nat → Option Nat → Option Nat → Notes → Notes
  | 0, _, _, notes => notes
  | fuel + 1, allowed, started, notes =>
      let here := notes.latest
      if allowed = some 0 ∨ started = some here.position then notes
      else
        match round Search.accept here notes with
        | .found notes => takeMost round fuel (allowed.map (· - 1)) (some here.position) notes
        | .failed failed => if Release.keepsFailedPlace then notes.note failed.latest else notes

/-- A possessive repetition of `round`. -/
def takeLoop [Release] (bounds : Bounds) (round : Search → Search) (next : Search) : Search :=
  fun here notes =>
    match takeLeast round bounds.least (notes.note here) with
    | .failed failed => .failed (failed.note here)
    | .found notes =>
        let allowed := bounds.most.map (· - bounds.least)
        let notes := takeMost round here.rounds allowed none notes
        next notes.latest notes

/-- A repetition of `round` that gives back what is needed after it. -/
def runLoop (bounds : Bounds) (round : Search → Search) (next : Search) : Search :=
  let allowed := bounds.most.map (· - bounds.least)
  runLeast round (fun here => runMost round next here.rounds allowed none here) bounds.least

/-! ### Expressions -/

/-- The search for an expression, after which `next` is to succeed. `inLoop` says that a
repetition around the expression gives back, and `ahead` is the test of the character
after it, where its sequence goes on with one. -/
def Node.run [Release] : Node → Bool → Option CharTest → Search → Search
  | .empty, _, _, next => next
  | .never, _, _, _ => fun _ notes => .failed notes
  | .one test, _, _, next => fun here notes =>
      match here.accept test.holds with
      | some there => next there notes
      | none => .failed notes
  | .assertion claim, _, _, next => fun here notes =>
      if claim.holds here then next here notes else .failed notes
  | .reference number, _, _, next => fun here notes =>
      match (notes.held? number).bind here.acceptAll with
      | some there => next there notes
      | none => .failed notes
  | .group number body, inLoop, _, next => fun here notes =>
      let close : Search := fun there notes => next there (notes.mark (Notes.endOf number) there)
      body.run inLoop none close here (notes.mark (Notes.startOf number) here)
  | .both first second, inLoop, ahead, next =>
      first.run inLoop second.opening? (second.run inLoop ahead next)
  | .either first second, inLoop, _, next => fun here notes =>
      if here.lacks first.opening? then second.run inLoop none next here notes
      else
        (first.run inLoop none next here (notes.note here)).orElse fun failed =>
          second.run inLoop none next here (failed.takeBack notes inLoop)
  | .many bounds possessive test, inLoop, ahead, next =>
      runMany bounds possessive test.holds inLoop ahead next
  | .loop bounds possessive body, inLoop, _, next =>
      if possessive then takeLoop bounds (body.run inLoop none) next
      else runLoop bounds (body.run true none) next

/-! ### Matching -/

/-- The least number of characters that a match has, where a reference counts as much as
its group. The groups closed before the expression are given with their numbers, and
those closed after it are returned. -/
def Node.least : Node → List (Nat × Nat) → Nat × List (Nat × Nat)
  | .empty, groups => (0, groups)
  | .never, groups => (repeatLimit, groups)
  | .one _, groups => (1, groups)
  | .assertion _, groups => (0, groups)
  | .reference number, groups => ((groups.lookup number).getD 0, groups)
  | .group number body, groups =>
      let (least, groups) := body.least groups
      (least, (number, least) :: groups)
  | .both first second, groups =>
      let (left, groups) := first.least groups
      let (right, groups) := second.least groups
      (left + right, groups)
  | .either first second, groups =>
      let (left, groups) := first.least groups
      let (right, groups) := second.least groups
      (min left right, groups)
  | .many bounds _ _, groups => (bounds.least, groups)
  | .loop bounds _ body, groups =>
      let (least, groups) := body.least groups
      (bounds.least * least, groups)

/-- Why a match comes to nothing. -/
inductive MatchFault where
  /-- a group of the match ends before it starts -/
  | crossedGroup
  deriving DecidableEq, Repr

/-- The wording of a fault. -/
def MatchFault.message : MatchFault → Text
  | .crossedGroup =>
      "The span of capturing group is wrong, please report a bug for the re module."

/-- The expression matches the text from its start to its end. A text that is shorter
than every match is not searched. -/
def Node.matchesAll [Release] (node : Node) (text : List Sign) : Except MatchFault Bool :=
  if text.length < (node.least []).1 then .ok false
  else
    let here := Place.start text
    match node.run false none .atEnd here (.start here) with
    | .failed _ => .ok false
    | .found notes => if Notes.crossed notes.marks then .error .crossedGroup else .ok true

end BundleEmbed.Regex
