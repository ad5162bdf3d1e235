import BundleEmbed.Text.CodeRanges
import BundleEmbed.Text.Sign

/-!
White space: the characters of Unicode 14.0 that separate words, the separators of
ASCII (28 to 31) included.
-/

namespace BundleEmbed

/-- The code points of white space. -/
def blankRanges : CodeRanges := [
  (9, 13), (28, 32), (133, 133), (160, 160), (5760, 5760), (8192, 8202), (8232, 8233),
  (8239, 8239), (8287, 8287), (12288, 12288)]

/-- White space, in the wide sense in which texts are trimmed. -/
def isBlank (c : Sign) : Bool := blankRanges.holds c.toNat

/-- The text without the white space at its two ends. -/
def trimBlanks (text : Text) : Text :=
  Text.ofList ((text.toList.dropWhile isBlank).reverse.dropWhile isBlank).reverse

end BundleEmbed
