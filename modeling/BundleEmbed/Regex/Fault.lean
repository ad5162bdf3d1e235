import BundleEmbed.Text.Sign

/-!
Why a text is no regular expression.

A malformed text is refused with a cause and a position, counted in characters of
the text. Three refusals have no position: a number that no repetition can count, a
number with too many digits to be read at all, and a code point beyond every width.
-/

namespace BundleEmbed.Regex

/-- What is wrong at a position. -/
inductive Cause where
  /-- a backslash ends the text -/
  | danglingEscape
  | badEscape (escape : Text)
  | incompleteEscape (escape : Text)
  | octalTooLarge (escape : Text)
  | openReference
  | unknownReference (group : Nat)
  | unterminatedSet
  | badRange (low high : Text)
  | missingNameBrace
  | missingName
  | unterminatedName
  | unknownName (quoted : Text)
  | nothingToRepeat
  | multipleRepeat
  | leastAboveMost
  | unclosedGroup
  | unbalancedParenthesis
  deriving DecidableEq, Repr

/-- The wording of a cause. -/
def Cause.message : Cause → Text
  | .danglingEscape => "bad escape (end of pattern)"
  | .badEscape escape => "bad escape " ++ escape
  | .incompleteEscape escape => "incomplete escape " ++ escape
  | .octalTooLarge escape => "octal escape value " ++ escape ++ " outside of range 0-0o377"
  | .openReference => "cannot refer to an open group"
  | .unknownReference group => "invalid group reference " ++ toString group
  | .unterminatedSet => "unterminated character set"
  | .badRange low high => "bad character range " ++ low ++ "-" ++ high
  | .missingNameBrace => "missing \x7b"
  | .missingName => "missing character name"
  | .unterminatedName => "missing \x7d, unterminated name"
  | .unknownName quoted => "undefined character name " ++ quoted
  | .nothingToRepeat => "nothing to repeat"
  | .multipleRepeat => "multiple repeat"
  | .leastAboveMost => "min repeat greater than max repeat"
  | .unclosedGroup => "missing ), unterminated subpattern"
  | .unbalancedParenthesis => "unbalanced parenthesis"

/-- A cause at a place, which is given by the number of characters after it. -/
structure Fault where
  cause : Cause
  remaining : Nat
  deriving DecidableEq, Repr

/-- Why a text is refused. -/
inductive Refusal where
  | malformed (fault : Fault)
  | repeatTooLarge
  | tooManyDigits (digits : Nat)
  | codeTooLarge
  deriving DecidableEq, Repr

/-- The position of a fault in its text. -/
def Fault.position (fault : Fault) (text : List Sign) : Nat := text.length - fault.remaining

/-- The wording of a fault: its cause, its position and, in a text of several lines,
the line and the column, both counted from one. -/
def Fault.message (fault : Fault) (text : List Sign) : Text :=
  let position := fault.position text
  let before := text.take position
  let line := before.count (.char '\n') + 1
  let column := (before.reverse.takeWhile (· != Sign.char '\n')).length + 1
  let place := if .char '\n' ∈ text then
      " (line " ++ toString line ++ ", column " ++ toString column ++ ")"
    else ""
  fault.cause.message ++ " at position " ++ toString position ++ place

end BundleEmbed.Regex
