/-!
Names of Korean syllables, which spell their sounds.
-/

namespace BundleEmbed

/-- The sounds that begin a Korean syllable, in the order of the syllables. -/
def leadingSounds : List String := [
  "G", "GG", "N", "D", "DD", "R", "M", "B", "BB", "S", "SS", "", "J", "JJ", "C", "K", "T", "P", "H"]

/-- The vowels of a Korean syllable, in the order of the syllables. -/
def vowelSounds : List String := [
  "A", "AE", "YA", "YAE", "EO", "E", "YEO", "YE", "O", "WA", "WAE", "OE", "YO", "U", "WEO", "WE",
  "WI", "YU", "EU", "YI", "I"]

/-- The sounds that end a Korean syllable, in the order of the syllables. -/
def trailingSounds : List String := [
  "", "G", "GG", "GS", "N", "NJ", "NH", "D", "L", "LG", "LM", "LB", "LS", "LT", "LP", "LH", "M",
  "B", "BS", "S", "SS", "NG", "J", "C", "K", "T", "P", "H"]

/-- The place of the longest sound with which a text begins, and the text after it. -/
def longestSound (sounds : List String) (text : List Char) : Option (Nat × List Char) :=
  let fitting := sounds.zipIdx.filter fun (sound, _) => sound.toList.isPrefixOf text
  let longest := fitting.foldl (fun longest (found : String × Nat) =>
    match longest with
    | none => some found
    | some (sound, _) => if sound.length < found.1.length then some found else longest) none
  longest.map fun (sound, index) => (index, text.drop sound.length)

/-- The code point of the Korean syllable that sounds as written. The syllables are
ordered by their first sound, then their vowel, then their last sound. -/
def syllableSounding? (text : List Char) : Option Nat := do
  let (leading, text) ← longestSound leadingSounds text
  let (vowel, text) ← longestSound vowelSounds text
  let (trailing, text) ← longestSound trailingSounds text
  if text.isEmpty then
    some (0xac00 + (leading * vowelSounds.length + vowel) * trailingSounds.length + trailing)
  else none

end BundleEmbed
