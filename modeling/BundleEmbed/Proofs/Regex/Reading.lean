import BundleEmbed.Proofs.Regex.Alternatives
import BundleEmbed.Regex.Read

/-!
Reading regular expressions, one construct at a time.

Where a construct has been read, the reader goes on with what follows it. The constructs
below are those that need no look into the text after them but to see that it is no lone
backslash, and for a repetition, no plus sign.

* `Branches.takes_node_iff`: what has been read takes what one of its alternatives takes.
-/

namespace BundleEmbed.Regex

/-! ### Alternatives that are being read -/

/-- The alternatives of a group, those that are complete and the last one. -/
def Branches.alternatives (branches : Branches) : List (List Node) :=
  branches.complete ++ [branches.items.reverse]

/-- The expression that has been read takes what one of its alternatives takes. -/
theorem Branches.takes_node_iff {branches : Branches} {text : List Sign} :
    branches.node.Takes text ↔
      ∃ nodes ∈ branches.alternatives, (Node.sequence nodes).Takes text := by
  obtain ⟨complete, items⟩ := branches
  cases complete with
  | nil => simp [node, alternatives]
  | cons first others => exact Node.takes_ofAlternatives_iff

/-- The expression that has been read is regular when the parts of its alternatives are. -/
theorem Branches.isRegular_node {branches : Branches}
    (regular : ∀ nodes ∈ branches.alternatives, nodes.all Node.isRegular = true) :
    branches.node.isRegular = true := by
  obtain ⟨complete, items⟩ := branches
  cases complete with
  | nil => simpa [node, alternatives] using regular
  | cons first others => exact Node.isRegular_ofAlternatives regular

/-! ### Steps of the reader -/

/-- The characters that are no expression of their own. -/
def specialCharacters : List Sign :=
  [.char '|', .char ')', .char '(', .char '[', .char '.', .char '^', .char '$', .char '*',
    .char '+', .char '?', .char '\x7b', .char '\\']

theorem past_eq_ok {rest : List Sign} (complete : rest ≠ [.char '\\']) : past rest = .ok rest :=
  if_neg complete

/-- A construct that can be read leaves the rest to be read. -/
theorem Progress.readAll_cons {progress next : Progress} {c : Sign} {after rest : List Sign}
    (step : progress.read c after = .ok (next, rest)) (fuel : Nat) :
    progress.readAll (fuel + 1) (c :: after) = next.readAll fuel rest := by
  rw [readAll, step]
  rfl

section Steps

variable (progress : Progress) {after : List Sign}

/-- A character without a meaning of its own stands for itself. -/
theorem Progress.read_ordinary {c : Sign} (ordinary : c ∉ specialCharacters)
    (complete : after ≠ [.char '\\']) :
    progress.read c after = .ok (progress.push (.one (.code c.toNat)), after) := by
  unfold read
  split <;> first
    | exact absurd (by decide) ordinary
    | simp [past_eq_ok complete, bind, Except.bind, pure, Except.pure]

/-- A bar starts a new alternative. -/
theorem Progress.read_bar (complete : after ≠ [.char '\\']) :
    progress.read (.char '|') after =
      .ok ({ progress with current := progress.current.split }, after) := by
  simp [read, past_eq_ok complete, bind, Except.bind, pure, Except.pure]

/-- A full stop stands for any character but a line feed. -/
theorem Progress.read_stop (complete : after ≠ [.char '\\']) :
    progress.read (.char '.') after = .ok (progress.push (.one .anyInLine), after) := by
  simp [read, past_eq_ok complete, bind, Except.bind, pure, Except.pure]

/-- A full stop after a backslash stands for itself. -/
theorem Progress.read_escapedStop (complete : after ≠ [.char '\\']) :
    progress.read (.char '\\') (.char '.' :: after) =
      .ok (progress.push (.one (.code '.'.toNat)), after) := by
  simp [read, past_eq_ok complete, readEscape, assertionOf, categoryOf, controlCode, readSpelled,
    readPlain, bind, Except.bind, pure, Except.pure]

/-- A repetition of a character that has just been read, without a plus sign after it. -/
theorem Progress.repeatLast_push_one {bounds : Bounds} {test : CharTest} {start : List Sign}
    (greedy : after.head? ≠ some (.char '+')) :
    (progress.push (.one test)).repeatLast bounds start after =
      .ok (progress.push (.many bounds false test), after) := by
  have notPossessive : ∀ rest, after ≠ .char '+' :: rest := by
    rintro rest rfl
    exact greedy rfl
  simp only [repeatLast, push, Branches.push, Node.isRepeated, Node.repeated, Bool.false_eq_true,
    if_false]
  rfl

/-- A star repeats the character that has just been read. -/
theorem Progress.read_star {test : CharTest} (complete : after ≠ [.char '\\'])
    (greedy : after.head? ≠ some (.char '+')) :
    (progress.push (.one test)).read (.char '*') after =
      .ok (progress.push (.many ⟨0, none⟩ false test), after) := by
  simp [read, past_eq_ok complete, bind, Except.bind, progress.repeatLast_push_one greedy]

/-- A question mark makes the character that has just been read optional. -/
theorem Progress.read_questionMark {test : CharTest} (complete : after ≠ [.char '\\'])
    (greedy : after.head? ≠ some (.char '+')) :
    (progress.push (.one test)).read (.char '?') after =
      .ok (progress.push (.many ⟨0, some 1⟩ false test), after) := by
  simp [read, past_eq_ok complete, bind, Except.bind, progress.repeatLast_push_one greedy]

end Steps

end BundleEmbed.Regex
