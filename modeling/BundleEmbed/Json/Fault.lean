/-!
Why a text is no JSON text.
-/

namespace BundleEmbed.JsonText

/-- What is wrong at a position. -/
inductive Cause where
  | expectingValue
  | expectingName
  | expectingColon
  | expectingComma
  | unterminatedString
  | badEscape
  | badUnicodeEscape
  | controlCharacter
  | extraData
  | byteOrderMark
  deriving DecidableEq, Repr

/-- The wording of a cause. -/
def Cause.message : Cause → String
  | .expectingValue => "Expecting value"
  | .expectingName => "Expecting property name enclosed in double quotes"
  | .expectingColon => "Expecting ':' delimiter"
  | .expectingComma => "Expecting ',' delimiter"
  | .unterminatedString => "Unterminated string starting at"
  | .badEscape => "Invalid \\escape"
  | .badUnicodeEscape => "Invalid \\uXXXX escape"
  | .controlCharacter => "Invalid control character at"
  | .extraData => "Extra data"
  | .byteOrderMark => "Unexpected UTF-8 BOM (decode using utf-8-sig)"

/-- A cause at a place, which is given by the number of characters from it to the end. -/
structure Fault where
  cause : Cause
  remaining : Nat
  deriving DecidableEq, Repr

/-- Why a text is refused: it is malformed, or has an integer with too many digits. -/
inductive Refusal where
  | malformed (fault : Fault)
  | tooManyDigits (digits : Nat)
  deriving DecidableEq, Repr

/-- The wording of a fault in a text: the cause, and the place in lines and columns,
counted from one, and in characters, counted from zero. -/
def Fault.message (fault : Fault) (text : List Char) : String :=
  let position := text.length - fault.remaining
  let before := text.take position
  let line := before.count '\n' + 1
  let column := (before.reverse.takeWhile (· != '\n')).length + 1
  fault.cause.message ++ ": line " ++ toString line ++ " column " ++ toString column ++
    " (char " ++ toString position ++ ")"

end BundleEmbed.JsonText
