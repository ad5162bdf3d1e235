/-!
Suggesting the word that was meant.

Two words are as similar as the characters they share in runs: the longest run that both
have, then the longest runs before and after it, and so on. A word is suggested when the
shared characters make up at least six tenths of both words together.
-/

namespace BundleEmbed

/-- The length of the run with which two texts start. -/
def sharedStart : List Char → List Char → Nat
  | a :: as, b :: bs => if a = b then sharedStart as bs + 1 else 0
  | _, _ => 0

/-- Where a run of two texts stands in each of them, and its length. -/
structure SharedRun where
  inFirst : Nat
  inSecond : Nat
  length : Nat
  deriving DecidableEq, Repr

/-- The longest run of two texts, the earliest in the first one and then in the second. -/
def longestRun (a b : List Char) : SharedRun :=
  let starts := (List.range a.length).flatMap fun i => (List.range b.length).map fun j => (i, j)
  starts.foldl (fun best (i, j) =>
    let length := sharedStart (a.drop i) (b.drop j)
    if length > best.length then ⟨i, j, length⟩ else best) ⟨0, 0, 0⟩

/-- The number of characters that two texts share in runs. The fuel bounds the number of
runs. -/
def sharedCount : Nat → List Char → List Char → Nat
  | 0, _, _ => 0
  | fuel + 1, a, b =>
      let run := longestRun a b
      if run.length = 0 then 0
      else
        sharedCount fuel (a.take run.inFirst) (b.take run.inSecond) + run.length +
          sharedCount fuel (a.drop (run.inFirst + run.length)) (b.drop (run.inSecond + run.length))

/-- A word with the number of characters it shares with the one that was written, and the
number of characters of both. -/
structure Likeness where
  word : String
  shared : Nat
  total : Nat
  deriving DecidableEq, Repr

/-- The likeness of a word to the one that was written. -/
def likenessTo (written word : String) : Likeness :=
  let a := word.toList
  let b := written.toList
  ⟨word, sharedCount (a.length + b.length + 1) a b, a.length + b.length⟩

/-- The shared characters, counted twice, make up six tenths of all. -/
def Likeness.isClose (likeness : Likeness) : Bool := likeness.total * 3 ≤ likeness.shared * 10

/-- Closer words come first, and of equally close ones the greater. -/
def Likeness.before (a b : Likeness) : Bool :=
  let left := a.shared * b.total
  let right := b.shared * a.total
  left > right || (left == right && b.word ≤ a.word)

/-- The words that may have been meant, three at most, in their alphabetical order. -/
def suggestions (written : String) (words : List String) : List String :=
  let close := (words.map (likenessTo written)).filter Likeness.isClose
  let best := ((close.mergeSort Likeness.before).take 3).map (·.word)
  best.mergeSort fun a b => decide (a ≤ b)

end BundleEmbed
