import BundleEmbed.Regex.Match
import BundleEmbed.Regex.Read

/-!
Patterns of the embedding instructions.

A pattern is written in the packager's own notation: a full stop is itself, a star is
any run of characters, a question mark is at most one character, and an exclamation
mark in front negates the whole. Every other character is handed to the regular
expression as it is, so a bar separates alternatives. A pattern that ends in a full
stop and a star also accepts what stands before them, as a package name is accepted
together with the names below it.
-/

namespace BundleEmbed

open Regex (Release)

/-! ### The notation -/

/-- What one character of a pattern writes in the regular expression. -/
def Pattern.translateChar : Sign → List Sign
  | .char '.' => ['\\', '.']
  | .char '*' => ['.', '*']
  | .char '?' => ['.', '?']
  | c => [c]

/-- What the end of a pattern writes after which its bare beginning is accepted too. -/
def Pattern.trailingWildcard : List Sign := ['\\', '.', '.', '*']

/-- The text of the regular expression of a pattern. -/
def Pattern.translate (body : List Sign) : List Sign :=
  let text := body.flatMap translateChar
  if trailingWildcard.isSuffixOf text then
    text ++ .char '|' :: text.take (text.length - trailingWildcard.length)
  else text

/-- The negation in front of a pattern, and the pattern without it. -/
def Pattern.split : List Sign → Bool × List Sign
  | .char '!' :: body => (true, body)
  | body => (false, body)

/-! ### Reading a pattern -/

/-- A pattern that can be matched. -/
structure Pattern where
  /-- the pattern as it was written -/
  expression : Text
  negated : Bool
  /-- the text of its regular expression -/
  regexText : Text
  regex : Regex.Node
  deriving DecidableEq, Repr

/-- Why a pattern is refused. -/
inductive PatternFault where
  /-- its regular expression is malformed at a place of the given text -/
  | malformed (expression : Text) (regexText : List Sign) (fault : Regex.Fault)
  /-- a repetition counts further than any repetition can -/
  | repeatTooLarge
  /-- a repetition has a count with more digits than are read -/
  | tooManyDigits (digits : Nat)
  /-- an escape has a code point beyond every width -/
  | codeTooLarge
  deriving DecidableEq, Repr

/-- The wording of a refusal. -/
def PatternFault.message : PatternFault → Text
  | .malformed expression text fault =>
      "Invalid pattern '" ++ expression ++ "': " ++ fault.message text
  | .repeatTooLarge => "the repetition number is too large"
  | .tooManyDigits digits => tooManyDigitsMessage digits
  | .codeTooLarge => "Python int too large to convert to C int"

/-- A pattern, read from its notation. -/
def Pattern.read (expression : Text) : Except PatternFault Pattern :=
  let (negated, body) := split expression.toList
  let text := translate body
  match Regex.read text with
  | .ok regex => .ok { expression, negated, regexText := Text.ofList text, regex }
  | .error (.malformed fault) => .error (.malformed expression text fault)
  | .error .repeatTooLarge => .error .repeatTooLarge
  | .error (.tooManyDigits digits) => .error (.tooManyDigits digits)
  | .error .codeTooLarge => .error .codeTooLarge

/-! ### Matching -/

/-- The value as a whole matches, before the negation is applied. -/
def Pattern.matchesValue [Release] (pattern : Pattern) (value : Text) :
    Except Regex.MatchFault Bool :=
  pattern.regex.matchesAll value.toList

/-- The pattern accepts the value. -/
def Pattern.accepts [Release] (pattern : Pattern) (value : Text) :
    Except Regex.MatchFault Bool :=
  (· != pattern.negated) <$> pattern.matchesValue value

end BundleEmbed
