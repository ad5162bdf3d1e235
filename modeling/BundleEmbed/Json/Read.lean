import BundleEmbed.Json.Fault
import BundleEmbed.Json.Value
import BundleEmbed.Number.Digits

/-!
Reading a JSON text.

The text is one value with blanks around it. The first fault from left to right is
reported. Besides the numbers of the standard, `NaN`, `Infinity` and `-Infinity` are
values. A repeated key of an object keeps its first place and its last value.
-/

namespace BundleEmbed.JsonText

/-- A fault of the given cause before the given rest of the text. -/
def faultBefore {α : Type} (rest : List Char) (cause : Cause) : Except Refusal α :=
  .error (.malformed ⟨cause, rest.length⟩)

/-- The blanks between the parts of a text. -/
def isSpace (c : Char) : Bool := c == ' ' || c == '\t' || c == '\n' || c == '\r'

/-- The text after the blanks. -/
def skipSpace (text : List Char) : List Char := text.dropWhile isSpace

/-! ### Strings -/

/-- The character of an escape with one letter. -/
def escapeOf : Char → Option Char
  | '"' => some '"'
  | '\\' => some '\\'
  | '/' => some '/'
  | 'b' => some '\x08'
  | 'f' => some '\x0c'
  | 'n' => some '\n'
  | 'r' => some '\r'
  | 't' => some '\t'
  | _ => none

/-- The unit that four digits write, after the letter of their escape; something has to
follow them. -/
def readUnit (text : List Char) : Except Refusal (Nat × List Char) :=
  match text with
  | _ :: a :: b :: c :: d :: rest =>
      if [a, b, c, d].all isHexDigit ∧ rest ≠ [] then .ok (numberOf 16 [a, b, c, d], rest)
      else faultBefore text .badUnicodeEscape
  | _ => faultBefore text .badUnicodeEscape

/-- The first unit of a pair. -/
def isHighUnit (unit : Nat) : Bool := 0xd800 ≤ unit && unit ≤ 0xdbff

/-- The second unit of a pair. -/
def isLowUnit (unit : Nat) : Bool := 0xdc00 ≤ unit && unit ≤ 0xdfff

/-- The character of a pair of units. -/
def ofPair (high low : Nat) : Char :=
  Char.ofNat (0x10000 + (high - 0xd800) * 0x400 + (low - 0xdc00))

/-- The sign that an escape with units writes, from its letter on. Two escapes that are a
pair write one character; the half of a pair is a surrogate. -/
def readUnicode (text : List Char) : Except Refusal (Sign × List Char) := do
  let (unit, rest) ← readUnit text
  match rest with
  | '\\' :: second@('u' :: _) =>
      if isHighUnit unit then do
        let (low, after) ← readUnit second
        if isLowUnit low then return (.char (ofPair unit low), after)
        else return (.ofNat unit, rest)
      else return (.ofNat unit, rest)
  | _ => return (.ofNat unit, rest)

/-- The signs of a string up to its closing mark. `start` is the text from the opening
mark on. -/
def readString (start : List Char) :
    Nat → List Char → Except Refusal (List Sign × List Char)
  | _, [] => faultBefore start .unterminatedString
  | 0, _ => faultBefore start .unterminatedString
  | fuel + 1, text@(c :: rest) =>
      if c = '"' then .ok ([], rest)
      else if c = '\\' then
        match rest with
        | [] => faultBefore start .unterminatedString
        | 'u' :: _ => do
            let (sign, rest) ← readUnicode rest
            let (later, rest) ← readString start fuel rest
            return (sign :: later, rest)
        | letter :: rest =>
            match escapeOf letter with
            | none => faultBefore text .badEscape
            | some c => do
                let (later, rest) ← readString start fuel rest
                return (.char c :: later, rest)
      else if c.toNat < 0x20 then faultBefore text .controlCharacter
      else do
        let (later, rest) ← readString start fuel rest
        return (.char c :: later, rest)

/-- The text of a string, after its opening mark. -/
def readText (start rest : List Char) : Except Refusal (Text × List Char) := do
  let (signs, rest) ← readString start rest.length rest
  return (.ofList signs, rest)

/-! ### Numbers -/

/-- The digits at the start of a text, and what follows them. -/
def spanDigits (text : List Char) : List Char × List Char := text.span Char.isDigit

/-- The digits after a point, if a point with digits comes next. -/
def readFraction (text : List Char) : List Char × List Char :=
  match text with
  | '.' :: rest =>
      match spanDigits rest with
      | ([], _) => ([], text)
      | found => found
  | _ => ([], text)

/-- The exponent, if one with digits comes next. -/
def readExponent (text : List Char) : Option (Int × List Char) :=
  match text with
  | [] => none
  | e :: rest =>
      if e = 'e' ∨ e = 'E' then
        let (negative, rest) := match rest with
          | '-' :: rest => (true, rest)
          | '+' :: rest => (false, rest)
          | _ => (false, rest)
        match spanDigits rest with
        | ([], _) => none
        | (digits, rest) =>
            let magnitude : Int := numberOf 10 digits
            some (if negative then -magnitude else magnitude, rest)
      else none

/-- The digits of the integer part: a zero stands alone. -/
def readInteger (text : List Char) : Option (List Char × List Char) :=
  match text with
  | '0' :: rest => some (['0'], rest)
  | _ =>
      match spanDigits text with
      | ([], _) => none
      | found => some found

/-- A number after its sign. Without a fraction and an exponent it is an integer, which
is read up to a number of digits. -/
def readUnsigned (negative : Bool) (text : List Char) :
    Option (Except Refusal (JsonValue × List Char)) := do
  let (digits, rest) ← readInteger text
  let (fraction, rest) := readFraction rest
  let exponent := readExponent rest
  if fraction = [] ∧ exponent = none then
    if digits.length > digitLimit then some (.error (.tooManyDigits digits.length))
    else
      let magnitude : Int := numberOf 10 digits
      some (.ok (.integer (if negative then -magnitude else magnitude), rest))
  else
    let (power, rest) := exponent.getD (0, rest)
    let coefficient := numberOf 10 (digits ++ fraction)
    some (.ok (.decimal ⟨negative, coefficient, power - fraction.length⟩, rest))

/-- A number, from its sign on. -/
def readNumber (text : List Char) : Except Refusal (JsonValue × List Char) :=
  let found := match text with
    | '-' :: rest => readUnsigned true rest
    | _ => readUnsigned false text
  found.getD (faultBefore text .expectingValue)

/-! ### Values -/

/-- The values that are written as words. -/
def words : List (List Char × JsonValue) := [
  ("null".toList, .null), ("true".toList, .bool true), ("false".toList, .bool false),
  ("NaN".toList, .notANumber), ("Infinity".toList, .infinite false),
  ("-Infinity".toList, .infinite true)]

/-- The value of the word that comes next. -/
def readWord (text : List Char) : Option (JsonValue × List Char) :=
  words.findSome? fun (word, value) =>
    if word.isPrefixOf text then some (value, text.drop word.length) else none

mutual

/-- The value that comes next. -/
def readValue : Nat → List Char → Except Refusal (JsonValue × List Char)
  | 0, text => faultBefore text .expectingValue
  | fuel + 1, text =>
      match text with
      | '"' :: rest => do
          let (string, rest) ← readText text rest
          return (.string string, rest)
      | '\x7b' :: rest =>
          match skipSpace rest with
          | '\x7d' :: rest => .ok (.object [], rest)
          | rest => do
              let (members, rest) ← readMembers fuel rest
              return (.object (Mapping.ofPairs members), rest)
      | '[' :: rest =>
          match skipSpace rest with
          | ']' :: rest => .ok (.array [], rest)
          | rest => do
              let (items, rest) ← readItems fuel rest
              return (.array items, rest)
      | _ =>
          match readWord text with
          | some found => .ok found
          | none => readNumber text

/-- The members of an object, from a name on. -/
def readMembers : Nat → List Char → Except Refusal (List (Text × JsonValue) × List Char)
  | 0, text => faultBefore text .expectingName
  | fuel + 1, text =>
      match text with
      | '"' :: rest => do
          let (name, rest) ← readText text rest
          match skipSpace rest with
          | ':' :: rest => do
              let (value, rest) ← readValue fuel (skipSpace rest)
              match skipSpace rest with
              | '\x7d' :: rest => return ([(name, value)], rest)
              | ',' :: rest => do
                  let (later, rest) ← readMembers fuel (skipSpace rest)
                  return ((name, value) :: later, rest)
              | rest => faultBefore rest .expectingComma
          | rest => faultBefore rest .expectingColon
      | _ => faultBefore text .expectingName

/-- The items of an array, from a value on. -/
def readItems : Nat → List Char → Except Refusal (List JsonValue × List Char)
  | 0, text => faultBefore text .expectingValue
  | fuel + 1, text => do
      let (item, rest) ← readValue fuel text
      match skipSpace rest with
      | ']' :: rest => return ([item], rest)
      | ',' :: rest => do
          let (later, rest) ← readItems fuel (skipSpace rest)
          return (item :: later, rest)
      | rest => faultBefore rest .expectingComma

end

/-- The value of a text. Each step of the reading consumes a character, so a fuel of twice
the length of the text is enough. -/
def read (text : List Char) : Except Refusal JsonValue :=
  if text.head? = some '\ufeff' then faultBefore text .byteOrderMark
  else do
    let (value, rest) ← readValue (2 * text.length + 1) (skipSpace text)
    match skipSpace rest with
    | [] => return value
    | rest => faultBefore rest .extraData

end BundleEmbed.JsonText
