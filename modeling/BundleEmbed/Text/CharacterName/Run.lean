/-!
Runs of consecutive characters with their names.

Names of neighbours often begin with the same words, so a name is written as the words
in which it differs from the name before it.
-/

namespace BundleEmbed

/-- Consecutive characters from `first` on, with an entry for each. The entries stand in
rows, and semicolons part the entries of a row. An entry is a digit, which says how many
words the name takes over from the name before it, and the words after those. -/
structure NameRun where
  first : Nat
  rows : List String
  deriving DecidableEq, Repr

namespace NameRun

/-- The words of a text. An empty text has none. -/
def words (text : String) : List String := if text.isEmpty then [] else text.splitOn " "

/-- The words that an entry adds to those of the name before it. -/
def readEntry (before : List String) (entry : String) : List String :=
  match entry.toList with
  | [] => before
  | count :: added => before.take (count.toNat - '0'.toNat) ++ words (String.ofList added)

/-- The names of entries, as lists of words. -/
def readEntries : List String → List String → List (List String)
  | _, [] => []
  | before, entry :: entries =>
      let name := readEntry before entry
      name :: readEntries name entries

/-- The names of a run as lists of words, in order. -/
def names (run : NameRun) : List (List String) :=
  readEntries [] (run.rows.flatMap (·.splitOn ";"))

/-- The code point of a name in a run. The name is given by its words. -/
def find? (run : NameRun) (name : List String) : Option Nat :=
  (run.names.idxOf? name).map (run.first + ·)

end NameRun

end BundleEmbed
