import BundleEmbed.Number.Digits
import BundleEmbed.Regex.Alternatives
import BundleEmbed.Regex.Fault
import BundleEmbed.Text.CharacterName
import BundleEmbed.Text.Quoted

/-!
Reading a regular expression from its text.

The text is read from left to right, one construct at a time. What is read so far is
the innermost open group with its alternatives, inside the groups that are open
around it; closing a group makes it an item of the one around. A fault is reported
where it is met first, except that a backslash that ends the text is reported as soon
as everything before it has been read.

A question mark is a repetition only. The texts that arise from patterns have one
only after a full stop, so it never opens an extension of a group and never makes a
repetition reluctant.
-/

namespace BundleEmbed.Regex

/-! ### Characters and digits -/

/-- A fault of the given cause before the given rest of the text. -/
def faultBefore {α : Type} (rest : List Sign) (cause : Cause) : Except Refusal α :=
  .error (.malformed ⟨cause, rest.length⟩)

/-- A fault of the given cause that lies `back` characters before the rest. -/
def faultAt {α : Type} (rest : List Sign) (back : Nat) (cause : Cause) : Except Refusal α :=
  .error (.malformed ⟨cause, rest.length + back⟩)

/-- What follows a character that has been read: a lone backslash cannot follow. -/
def past (rest : List Sign) : Except Refusal (List Sign) :=
  if rest = [.char '\\'] then faultBefore rest .danglingEscape else .ok rest

/-- Up to `count` characters that satisfy `wanted`, and the text after them. -/
def takeUpTo (wanted : Char → Bool) : Nat → List Sign → Except Refusal (List Char × List Sign)
  | 0, text => .ok ([], text)
  | count + 1, .char c :: rest =>
      if wanted c then do
        let rest ← past rest
        let (taken, rest) ← takeUpTo wanted count rest
        return (c :: taken, rest)
      else .ok ([], .char c :: rest)
  | _ + 1, text => .ok ([], text)

/-- The spelling of an escape: a backslash and what follows it. -/
def escapeText (tail : List Char) : Text := .ofString (String.ofList ('\\' :: tail))

/-! ### Escapes -/

/-- The letters that stand for a control character, and the backslash. -/
def controlCode : Char → Option Nat
  | 'a' => some 7
  | 'f' => some 12
  | 'n' => some 10
  | 'r' => some 13
  | 't' => some 9
  | 'v' => some 11
  | '\\' => some 92
  | _ => none

/-- The letters of the classes of characters; a capital letter negates. -/
def categoryOf : Char → Option (Category × Bool)
  | 'd' => some (.digit, false)
  | 'D' => some (.digit, true)
  | 's' => some (.blank, false)
  | 'S' => some (.blank, true)
  | 'w' => some (.word, false)
  | 'W' => some (.word, true)
  | _ => none

/-- The letters of the assertions. -/
def assertionOf : Char → Option Assertion
  | 'A' => some .textStart
  | 'Z' => some .textEnd
  | 'b' => some .wordEdge
  | 'B' => some .noWordEdge
  | _ => none

/-- A code point with a fixed number of digits in base sixteen. -/
def readHexCode (letter : Char) (count : Nat) (rest : List Sign) :
    Except Refusal (Nat × List Sign) := do
  let (digits, rest) ← takeUpTo isHexDigit count rest
  if digits.length < count then
    faultAt rest (digits.length + 2) (.incompleteEscape (escapeText (letter :: digits)))
  else
    let code := numberOf 16 digits
    if code > 0x7fffffff then .error .codeTooLarge
    else if code > 0x10ffff then
      faultAt rest (digits.length + 2) (.badEscape (escapeText (letter :: digits)))
    else return (code, rest)

/-- The name of a character, up to its closing brace. An escaped character is one step
of the name, so a brace after a backslash does not close it. -/
def readName : Nat → List Sign → List Sign → Except Refusal (List Sign × List Sign)
  | _, name, [] =>
      if name.isEmpty then faultBefore [] .missingName
      else faultAt [] name.length .unterminatedName
  | fuel + 1, name, .char '\\' :: c :: rest => do
      let rest ← past rest
      readName fuel (name ++ [.char '\\', c]) rest
  | fuel + 1, name, c :: rest => do
      let rest ← past rest
      if c = '\x7d' then
        if name.isEmpty then faultAt rest 1 .missingName else return (name, rest)
      else readName fuel (name ++ [c]) rest
  | 0, name, rest => .ok (name, rest)

/-- A character given by its name in braces. A name with a surrogate is not even looked up. -/
def readNamed (text : List Sign) : Except Refusal (Nat × List Sign) :=
  match text with
  | .char '\x7b' :: rest => do
      let rest ← past rest
      let (name, rest) ← readName rest.length [] rest
      match (Text.ofList name).toString? with
      | none => faultAt rest 2 (.badEscape (escapeText ['N']))
      | some string =>
          match characterNamed? string with
          | some code => return (code, rest)
          | none =>
              faultAt rest (name.length + 4)
                (.unknownName (String.ofList (Quoted.encode name)))
  | _ => faultBefore text .missingNameBrace

/-- The escapes that spell a code point out, by digits or by name, after their letter. -/
def readSpelled (letter : Char) (rest : List Sign) : Except Refusal (Option (Nat × List Sign)) :=
  match letter with
  | 'x' => some <$> readHexCode letter 2 rest
  | 'u' => some <$> readHexCode letter 4 rest
  | 'U' => some <$> readHexCode letter 8 rest
  | 'N' => some <$> readNamed rest
  | _ => .ok none

/-- A code point with up to three digits in base eight, the first of which is `first`. -/
def readOctal (first : Char) (rest : List Sign) : Except Refusal (Nat × List Sign) := do
  let (digits, rest) ← takeUpTo isOctalDigit 2 rest
  let code := numberOf 8 (first :: digits)
  if code > 0o377 then
    faultAt rest (digits.length + 2) (.octalTooLarge (escapeText (first :: digits)))
  else return (code, rest)

/-- An escaped character that stands for itself, which letters of ASCII never do. -/
def readPlain (c : Char) (rest : List Sign) : Except Refusal (Nat × List Sign) :=
  if c.isAlpha then faultAt rest 2 (.badEscape (escapeText [c])) else .ok (c.toNat, rest)

/-! ### Sets in brackets -/

/-- The member that an escape stands for inside of brackets. -/
def readSetEscape (c : Char) (rest : List Sign) : Except Refusal (SetItem × List Sign) := do
  if let some code := controlCode c then return (.code code, rest)
  if c = 'b' then return (.code 8, rest)
  if let some (category, negated) := categoryOf c then return (.category category negated, rest)
  if let some (code, rest) ← readSpelled c rest then return (.code code, rest)
  if isOctalDigit c then
    let (code, rest) ← readOctal c rest
    return (.code code, rest)
  if c.isDigit then faultAt rest 2 (.badEscape (escapeText [c]))
  let (code, rest) ← readPlain c rest
  return (.code code, rest)

/-- The spelling of the next character, with its backslash if it has one. -/
def nextSpelling : List Sign → List Sign
  | .char '\\' :: c :: _ => ['\\', c]
  | c :: _ => [c]
  | [] => []

/-- One member of a set. -/
def readMember : List Sign → Except Refusal (SetItem × List Sign)
  | .char '\\' :: .char c :: rest => do
      let rest ← past rest
      readSetEscape c rest
  | .char '\\' :: c :: rest => do
      let rest ← past rest
      return (.code c.toNat, rest)
  | c :: rest => do
      let rest ← past rest
      return (.code c.toNat, rest)
  | [] => faultBefore [] .unterminatedSet

/-- The range between two members that are single code points in increasing order. -/
def rangeOf (low high : SetItem) : Option SetItem :=
  match low, high with
  | .code first, .code last => if last < first then none else some (.range first last)
  | _, _ => none

/-- The members of a set up to its closing bracket, which is a member itself where it
comes first. `start` is the text from the opening bracket on. -/
def readItems (start : List Sign) :
    Nat → List SetItem → List Sign → Except Refusal (List SetItem × List Sign)
  | _, _, [] => faultBefore start .unterminatedSet
  | 0, _, _ => faultBefore start .unterminatedSet
  | fuel + 1, items, text@(c :: rest) =>
      if c = .char ']' ∧ items ≠ [] then do
        let rest ← past rest
        return (items, rest)
      else do
        let (low, rest) ← readMember text
        match rest with
        | .char '-' :: rest => do
            let rest ← past rest
            match rest with
            | [] => faultBefore start .unterminatedSet
            | .char ']' :: rest => do
                let rest ← past rest
                return (items ++ [low, .code '-'.toNat], rest)
            | _ => do
                let lowSpelling := nextSpelling text
                let highSpelling := nextSpelling rest
                let (high, rest) ← readMember rest
                match rangeOf low high with
                | some range => readItems start fuel (items ++ [range]) rest
                | none =>
                    faultAt rest (lowSpelling.length + 1 + highSpelling.length)
                      (.badRange (Text.ofList lowSpelling) (Text.ofList highSpelling))
        | _ => readItems start fuel (items ++ [low]) rest

/-- A set, after its opening bracket. -/
def readSet (start rest : List Sign) : Except Refusal (CharTest × List Sign) := do
  let rest ← past rest
  match rest with
  | .char '^' :: rest => do
      let rest ← past rest
      let (items, rest) ← readItems start rest.length [] rest
      return (.ofItems items true, rest)
  | _ => do
      let (items, rest) ← readItems start rest.length [] rest
      return (.ofItems items false, rest)

/-! ### Repetitions -/

/-- A count of a repetition. -/
def readCount (digits : List Char) : Except Refusal Nat :=
  if digits.length > digitLimit then .error (.tooManyDigits digits.length)
  else
    let count := numberOf 10 digits
    if count ≥ repeatLimit then .error .repeatTooLarge else .ok count

/-- The two counts of a repetition in braces, after the opening one: nothing where the
brace stands for itself. A single count is both; an absent one has no digits. -/
def readCounts (text : List Sign) :
    Except Refusal (Option ((List Char × List Char) × List Sign)) :=
  match text with
  | .char '\x7d' :: _ => .ok none
  | _ => do
      let (least, rest) ← takeUpTo Char.isDigit text.length text
      let (most, rest) ← match rest with
        | .char ',' :: rest => do
            let rest ← past rest
            takeUpTo Char.isDigit rest.length rest
        | _ => pure (least, rest)
      match rest with
      | .char '\x7d' :: rest => do
          let rest ← past rest
          return some ((least, most), rest)
      | _ => return none

/-- The bounds that the digits of two counts give. `inside` is the text after the
opening brace. -/
def boundsOf (inside : List Sign) (least most : List Char) : Except Refusal Bounds := do
  let lower ← if least.isEmpty then pure 0 else readCount least
  if most.isEmpty then return ⟨lower, none⟩
  let upper ← readCount most
  if upper < lower then faultBefore inside .leastAboveMost
  return ⟨lower, some upper⟩

/-! ### Items, alternatives and groups -/

/-- The alternatives of a group that is being read: the complete ones, and the items of
the last one with the latest first. -/
structure Branches where
  complete : List (List Node)
  items : List Node
  deriving DecidableEq, Repr

/-- A group of which nothing has been read. -/
def Branches.nothing : Branches := ⟨[], []⟩

/-- One more item. -/
def Branches.push (branches : Branches) (item : Node) : Branches :=
  { branches with items := item :: branches.items }

/-- The start of a new alternative. -/
def Branches.split (branches : Branches) : Branches :=
  ⟨branches.complete ++ [branches.items.reverse], []⟩

/-- The expression that the alternatives make. -/
def Branches.node (branches : Branches) : Node :=
  match branches.complete with
  | [] => .sequence branches.items.reverse
  | first :: others => .ofAlternatives first (others ++ [branches.items.reverse])

/-- A group that is open around what is being read. -/
structure OpenGroup where
  index : Nat
  /-- the text from its parenthesis on -/
  start : List Sign
  /-- what was read before it, in the group around it -/
  before : Branches
  deriving DecidableEq, Repr

/-- What has been read. -/
structure Progress where
  /-- the number of groups opened so far -/
  groups : Nat
  current : Branches
  /-- the open groups, the innermost first -/
  around : List OpenGroup
  deriving DecidableEq, Repr

/-- Nothing has been read. -/
def Progress.start : Progress := ⟨0, .nothing, []⟩

/-- One more item in the innermost group. -/
def Progress.push (progress : Progress) (item : Node) : Progress :=
  { progress with current := progress.current.push item }

/-- A reference to a group, which has to be closed. `digits` is how it is spelled. -/
def Progress.reference (progress : Progress) (digits : List Char) (rest : List Sign) :
    Except Refusal (Node × List Sign) :=
  let group := numberOf 10 digits
  if group > progress.groups then faultAt rest digits.length (.unknownReference group)
  else if progress.around.any (·.index == group) then
    faultAt rest (digits.length + 1) .openReference
  else .ok (.reference group, rest)

/-- Digits after a backslash, of which the first is `first`: three digits in base eight
are a code point, one or two digits are a reference to a group. -/
def Progress.readNumbered (progress : Progress) (first : Char) (rest : List Sign) :
    Except Refusal (Node × List Sign) :=
  match rest with
  | .char second :: rest =>
      if second.isDigit then do
        let rest ← past rest
        match rest with
        | .char third :: rest' =>
            if isOctalDigit first ∧ isOctalDigit second ∧ isOctalDigit third then do
              let rest ← past rest'
              let code := numberOf 8 [first, second, third]
              if code > 0o377 then
                faultAt rest 4 (.octalTooLarge (escapeText [first, second, third]))
              else return (.one (.code code), rest)
            else progress.reference [first, second] rest
        | _ => progress.reference [first, second] rest
      else progress.reference [first] (.char second :: rest)
  | _ => progress.reference [first] rest

/-- The item that an escape stands for outside of brackets. -/
def Progress.readEscape (progress : Progress) (c : Char) (rest : List Sign) :
    Except Refusal (Node × List Sign) := do
  if let some assertion := assertionOf c then return (.assertion assertion, rest)
  if let some (category, negated) := categoryOf c then
    return (.one (.set [.category category negated] false), rest)
  if let some code := controlCode c then return (.one (.code code), rest)
  if let some (code, rest) ← readSpelled c rest then return (.one (.code code), rest)
  if c = '0' then
    let (code, rest) ← readOctal c rest
    return (.one (.code code), rest)
  if c.isDigit then progress.readNumbered c rest
  else
    let (code, rest) ← readPlain c rest
    return (.one (.code code), rest)

/-- The repetition of the last item. `start` is the text from the repetition on, `rest`
the text after it; a plus sign there makes it possessive. -/
def Progress.repeatLast (progress : Progress) (bounds : Bounds) (start rest : List Sign) :
    Except Refusal (Progress × List Sign) :=
  match progress.current.items with
  | [] => faultBefore start .nothingToRepeat
  | .assertion _ :: _ => faultBefore start .nothingToRepeat
  | item :: items => do
      if item.isRepeated then faultBefore start .multipleRepeat
      let (possessive, rest) ← match rest with
        | .char '+' :: rest => do
            let rest ← past rest
            pure (true, rest)
        | _ => pure (false, rest)
      let current := { progress.current with items := item.repeated bounds possessive :: items }
      return ({ progress with current }, rest)

/-- The next construct of a text that starts with `c`. -/
def Progress.read (progress : Progress) (c : Sign) (after : List Sign) :
    Except Refusal (Progress × List Sign) :=
  match c with
  | .char '|' => do
      let rest ← past after
      return ({ progress with current := progress.current.split }, rest)
  | .char ')' =>
      match progress.around with
      | [] => faultBefore (c :: after) .unbalancedParenthesis
      | inner :: around => do
          let rest ← past after
          let group := .group inner.index progress.current.node
          return ({ progress with current := inner.before.push group, around }, rest)
  | .char '(' => do
      let rest ← past after
      let inner := ⟨progress.groups + 1, c :: after, progress.current⟩
      return (⟨progress.groups + 1, .nothing, inner :: progress.around⟩, rest)
  | .char '[' => do
      let (test, rest) ← readSet (c :: after) after
      return (progress.push (.one test), rest)
  | .char '.' => do
      let rest ← past after
      return (progress.push (.one .anyInLine), rest)
  | .char '^' => do
      let rest ← past after
      return (progress.push (.assertion .textStart), rest)
  | .char '$' => do
      let rest ← past after
      return (progress.push (.assertion .lastLineEnd), rest)
  | .char '*' => do
      let rest ← past after
      progress.repeatLast ⟨0, none⟩ (c :: after) rest
  | .char '+' => do
      let rest ← past after
      progress.repeatLast ⟨1, none⟩ (c :: after) rest
  | .char '?' => do
      let rest ← past after
      progress.repeatLast ⟨0, some 1⟩ (c :: after) rest
  | .char '\x7b' => do
      let inside ← past after
      match ← readCounts inside with
      | none => return (progress.push (.one (.code c.toNat)), inside)
      | some ((least, most), rest) => do
          let bounds ← boundsOf inside least most
          progress.repeatLast bounds (c :: after) rest
  | .char '\\' =>
      match after with
      | [] => faultBefore (c :: after) .danglingEscape
      | .char escaped :: rest => do
          let rest ← past rest
          let (item, rest) ← progress.readEscape escaped rest
          return (progress.push item, rest)
      | escaped :: rest => do
          let rest ← past rest
          return (progress.push (.one (.code escaped.toNat)), rest)
  | _ => do
      let rest ← past after
      return (progress.push (.one (.code c.toNat)), rest)

/-- The expression that has been read, which leaves no group open. -/
def Progress.finish (progress : Progress) : Except Refusal Node :=
  match progress.around with
  | [] => .ok progress.current.node
  | inner :: _ => faultBefore inner.start .unclosedGroup

/-- All constructs of a text. Each reads at least one character, so a fuel of the length
of the text is enough. -/
def Progress.readAll : Nat → Progress → List Sign → Except Refusal Node
  | _, progress, [] => progress.finish
  | 0, progress, _ => progress.finish
  | fuel + 1, progress, c :: after => do
      let (progress, rest) ← progress.read c after
      progress.readAll fuel rest

/-- The expression that a text writes. -/
def read (text : List Sign) : Except Refusal Node := do
  let rest ← past text
  Progress.start.readAll rest.length rest

end BundleEmbed.Regex
