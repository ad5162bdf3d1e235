import BundleEmbed.Text.CharacterName.Brahmi
import BundleEmbed.Text.CharacterName.Cuneiform
import BundleEmbed.Text.CharacterName.Devanagari
import BundleEmbed.Text.CharacterName.Ethiopic
import BundleEmbed.Text.CharacterName.Further
import BundleEmbed.Text.CharacterName.Glagolitic
import BundleEmbed.Text.CharacterName.Greek
import BundleEmbed.Text.CharacterName.Hebrew
import BundleEmbed.Text.CharacterName.Kana
import BundleEmbed.Text.CharacterName.Latin
import BundleEmbed.Text.CharacterName.LinearB
import BundleEmbed.Text.CharacterName.Mongolian
import BundleEmbed.Text.CharacterName.Mro
import BundleEmbed.Text.CharacterName.Notation
import BundleEmbed.Text.CharacterName.Numbered
import BundleEmbed.Text.CharacterName.Operator
import BundleEmbed.Text.CharacterName.Phonetic
import BundleEmbed.Text.CharacterName.Pictograph
import BundleEmbed.Text.CharacterName.Presentation
import BundleEmbed.Text.CharacterName.Punctuation
import BundleEmbed.Text.CharacterName.Shape
import BundleEmbed.Text.CharacterName.Syllable
import BundleEmbed.Text.CharacterName.Thai
import BundleEmbed.Text.CharacterName.Yi

/-!
Names of characters, as Unicode 14.0 gives them.

Ideographs and Korean syllables are named by rule, in capitals only. All other names may
be written in any mixture of capital and small letters of ASCII: the numbered ones, those
of the lists, and the further names that some characters have.
-/

namespace BundleEmbed

/-- The code points of the ideographs that are named by their code points. -/
def ideographRanges : CodeRanges := [
  (0x3400, 0x4dbf), (0x4e00, 0x9fff), (0x20000, 0x2a6df), (0x2a700, 0x2b738), (0x2b740, 0x2b81d),
  (0x2b820, 0x2cea1), (0x2ceb0, 0x2ebe0), (0x30000, 0x3134a)]

/-- The ideograph of a code point in four or five hexadecimal digits with capitals. -/
def ideographAt? (digits : List Char) : Option Nat :=
  let code := numberOf 16 digits
  let written := (digits.length = 4 || digits.length = 5) &&
    digits.all fun c => isHexDigit c && !c.isLower
  if written && ideographRanges.holds code then some code else none

/-- The lists of names, in the order of their code points. -/
def nameLists : List (List NameRun) := [
  latinNames, greekNames, hebrewNames, devanagariNames, thaiNames, ethiopicNames, mongolianNames,
  phoneticNames, punctuationNames, shapeNames, operatorNames, glagoliticNames, kanaNames, yiNames,
  presentationNames, linearBNames, brahmiNames, cuneiformNames, mroNames, notationNames,
  pictographNames]

/-- The character of a listed name in capitals. -/
def listedName? (name : String) : Option Nat :=
  let words := NameRun.words name
  nameLists.findSome? fun runs => runs.findSome? (·.find? words)

/-- The character of a further name in capitals. -/
def furtherName? (name : String) : Option Nat :=
  (furtherNames.find? fun (_, names) => names.splitOn ";" |>.contains name).map (·.1)

/-- Names are written in letters and digits of ASCII, with blanks and hyphens. -/
def isNameChar (c : Char) : Bool := c.isAlphanum || c == ' ' || c == '-'

/-- The code point of the character of a name that is written as names are. -/
def characterWritten? (name : String) : Option Nat :=
  match afterStart? "HANGUL SYLLABLE " name.toList with
  | some sounds => syllableSounding? sounds
  | none =>
      match afterStart? "CJK UNIFIED IDEOGRAPH-" name.toList with
      | some digits => ideographAt? digits
      | none =>
          let name := name.map Char.toUpper
          numberedName? name.toList <|> listedName? name <|> furtherName? name

/-- The code point of the character of a name. -/
def characterNamed? (name : String) : Option Nat :=
  if name.toList.all isNameChar then characterWritten? name else none

end BundleEmbed
