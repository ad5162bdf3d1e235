import BundleEmbed.Text.Quoted
import BundleEmbed.Text.Utf8

/-!
Encoding texts in UTF-8.

A stream takes characters only. In the names of files a surrogate from U+DC80 to U+DCFF
stands for a byte that belongs to no character, and no other surrogate has a byte. A text
that cannot be encoded is refused with the first sign that has no bytes and the surrogates
after it.
-/

namespace BundleEmbed

/-- The bytes of a sign in the name of a file, if it has any. -/
def Sign.bytes? : Sign → Option (List UInt8)
  | .char c => some (String.utf8EncodeChar c)
  | .surrogate offset =>
      if 0x480 ≤ offset.val ∧ offset.val < 0x500 then some [UInt8.ofNat (offset - 0x400)] else none

namespace Text

/-- The bytes of a text in the name of a file, if all its signs have some. -/
def bytes? (text : Text) : Option (List UInt8) :=
  if text.toList.all (·.bytes?.isSome) then some (text.toList.flatMap (·.bytes?.getD []))
  else none

/-- The number of bytes of a text in the name of a file. -/
def size (text : Text) : Nat := (text.toList.flatMap (·.bytes?.getD [])).length

/-- The name that a text stands for on disk: its characters, or those that its bytes
encode. A name that is no UTF-8 is not known. -/
def name? (text : Text) : Option String :=
  text.toString? <|> text.bytes?.bind fun bytes => String.ofList <$> (Utf8.decode bytes).toOption

/-- The wording of the refusal to encode a text, some signs of which have bytes. -/
def refusal (hasBytes : Sign → Bool) (text : Text) : String :=
  let start := (text.toList.takeWhile hasBytes).length
  let run := (text.toList.drop start).takeWhile (!·.isCharacter)
  let subject :=
    if run.length ≤ 1 then
      "character '" ++ (ofList run).shown ++ "' in position " ++ toString start
    else
      "characters in position " ++ toString start ++ "-" ++ toString (start + run.length - 1)
  "'utf-8' codec can't encode " ++ subject ++ ": surrogates not allowed"

end Text

end BundleEmbed
