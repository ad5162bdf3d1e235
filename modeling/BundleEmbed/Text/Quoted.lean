import BundleEmbed.Text.Printable

/-!
Texts in quotation marks, as messages and log lines show them.

The mark is an apostrophe, or a double quote when the text holds an apostrophe and
no double quote. The mark and the backslash are escaped by a backslash, line feed,
carriage return and tabulator have short forms, and any other character that is not
printable is written by its code point in the shortest of three widths.
-/

namespace BundleEmbed.Quoted

/-- A digit of a number in base sixteen, in lower case. -/
def hexDigit (n : Nat) : Char := Nat.digitChar (n % 16)

/-- The last `width` digits of a number in base sixteen. -/
def hex : Nat → Nat → List Char
  | 0, _ => []
  | width + 1, n => hex width (n / 16) ++ [hexDigit n]

/-- The mark around a text. -/
def mark (text : List Sign) : Char :=
  if .char '\'' ∈ text ∧ .char '"' ∉ text then '"' else '\''

/-- A sign by its code point. -/
def escapeCode (code : Nat) : List Char :=
  if code ≤ 0xff then ['\\', 'x'] ++ hex 2 code
  else if code ≤ 0xffff then ['\\', 'u'] ++ hex 4 code
  else ['\\', 'U'] ++ hex 8 code

/-- A sign between two marks. -/
def escape (mark : Char) : Sign → List Char
  | .surrogate offset => escapeCode (Sign.surrogate offset).toNat
  | .char c =>
      if c = mark ∨ c = '\\' then ['\\', c]
      else if c = '\n' then ['\\', 'n']
      else if c = '\r' then ['\\', 'r']
      else if c = '\t' then ['\\', 't']
      else if isPrintable c then [c]
      else escapeCode c.toNat

/-- A text in quotation marks. -/
def encode (text : List Sign) : List Char :=
  let mark := mark text
  mark :: text.flatMap (escape mark) ++ [mark]

end BundleEmbed.Quoted

namespace BundleEmbed

/-- The text as a stream shows it that has no bytes for surrogates: by their code points. -/
def Text.shown (text : Text) : String :=
  String.ofList (text.toList.flatMap fun
    | .char c => [c]
    | .surrogate offset => Quoted.escapeCode (Sign.surrogate offset).toNat)

/-- The text in quotation marks. -/
def quoted (text : Text) : String := String.ofList (Quoted.encode text.toList)

end BundleEmbed
