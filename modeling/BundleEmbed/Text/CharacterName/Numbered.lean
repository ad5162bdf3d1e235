import BundleEmbed.Number.Digits
import BundleEmbed.Text.CodeRanges

/-!
Names of characters that end in a number, or in the dots of a Braille pattern.
-/

namespace BundleEmbed

/-- The rest of a text after its start. -/
def afterStart? (start : String) (text : List Char) : Option (List Char) :=
  if start.toList.isPrefixOf text then some (text.drop start.length) else none

/-! ### Numbers that are code points -/

/-- The code point that is written in hexadecimal digits, with capitals and without a
leading zero, if it is in the ranges. -/
def codeWritten? (ranges : CodeRanges) (digits : List Char) : Option Nat :=
  let code := numberOf 16 digits
  let written := digits.head? != some '0' && digits.all fun c => isHexDigit c && !c.isLower
  if written && ranges.holds code then some code else none

/-- Characters whose names are a common start and their code points. -/
def codedNames : List (String × CodeRanges) := [
  ("CJK COMPATIBILITY IDEOGRAPH-", [(0xf900, 0xfa6d), (0xfa70, 0xfad9), (0x2f800, 0x2fa1d)]),
  ("KHITAN SMALL SCRIPT CHARACTER-", [(0x18b00, 0x18cd5)]),
  ("NUSHU CHARACTER-", [(0x1b170, 0x1b2fb)])]

/-! ### Numbers that count -/

/-- Characters whose names are a common start and the numbers from `least` to `most`,
with at least `width` digits. -/
structure CountedNames where
  start : String
  width : Nat
  least : Nat
  most : Nat
  /-- the code point of the character with the least number -/
  first : Nat
  deriving DecidableEq, Repr

/-- The code point of the number that is written in digits. -/
def CountedNames.find? (family : CountedNames) (digits : List Char) : Option Nat :=
  let number := numberOf 10 digits
  let written := digits.all Char.isDigit &&
    digits.length == max family.width (Nat.toDigits 10 number).length
  if written && family.least ≤ number && number ≤ family.most then
    some (family.first + (number - family.least))
  else none

/-- The families of characters whose names count. The selectors of variants have a short
name each. -/
def countedNames : List CountedNames := [
  ⟨"TANGUT COMPONENT-", 3, 1, 768, 0x18800⟩,
  ⟨"VARIATION SELECTOR-", 1, 1, 16, 0xfe00⟩, ⟨"VARIATION SELECTOR-", 1, 17, 256, 0xe0100⟩,
  ⟨"VS", 1, 1, 16, 0xfe00⟩, ⟨"VS", 1, 17, 256, 0xe0100⟩]

/-! ### Patterns of dots -/

/-- The digits of the dots of a Braille pattern. -/
def brailleDots : List Char := ['1', '2', '3', '4', '5', '6', '7', '8']

/-- The number of the Braille pattern with the given dots, which are named in their
order: each dot is a binary digit. -/
def braillePattern? (dots : List Char) : Option Nat :=
  let named := brailleDots.filter (· ∈ dots)
  if dots ≠ [] ∧ named = dots then
    some (brailleDots.foldr (fun dot number => 2 * number + if dot ∈ dots then 1 else 0) 0)
  else none

/-- The code point of a Braille pattern. -/
def brailleNamed? (name : List Char) : Option Nat :=
  if name = "BRAILLE PATTERN BLANK".toList then some 0x2800
  else ((afterStart? "BRAILLE PATTERN DOTS-" name).bind braillePattern?).map (0x2800 + ·)

/-! ### All of them -/

/-- The character of a numbered name in capitals. -/
def numberedName? (name : List Char) : Option Nat :=
  let coded := codedNames.findSome? fun (start, ranges) =>
    (afterStart? start name).bind (codeWritten? ranges)
  let counted := countedNames.findSome? fun family =>
    (afterStart? family.start name).bind family.find?
  coded <|> counted <|> brailleNamed? name

end BundleEmbed
