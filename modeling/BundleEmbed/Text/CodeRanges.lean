/-!
Sets of characters given by ranges of code points.

A property of characters that a standard lists by ranges is kept as the list of
those ranges in increasing order. Membership stops at the first range that starts
above the code point asked for, so common characters are decided early.
-/

namespace BundleEmbed

/-- Inclusive ranges of code points, in increasing order. -/
abbrev CodeRanges := List (Nat × Nat)

/-- A code point belongs to the ranges when one of them holds it. -/
def CodeRanges.holds : CodeRanges → Nat → Bool
  | [], _ => false
  | (low, high) :: later, code =>
      if code < low then false else code ≤ high || CodeRanges.holds later code

end BundleEmbed
