import BundleEmbed.Text.Sign

/-!
Control sequences, by which a text would steer a terminal.

A control sequence is the escape character and an opening bracket, then parameters,
then intermediates, and one final character that ends it. Text that is not shown at a
terminal goes without them.
-/

namespace BundleEmbed

namespace ControlSequence

/-- Digits and the signs between them. -/
def isParameter (c : Sign) : Bool := 0x30 ≤ c.toNat && c.toNat ≤ 0x3f

/-- The signs from the space to the slash. -/
def isIntermediate (c : Sign) : Bool := 0x20 ≤ c.toNat && c.toNat ≤ 0x2f

/-- Letters and the signs among them. -/
def isFinal (c : Sign) : Bool := 0x40 ≤ c.toNat && c.toNat ≤ 0x7e

/-- The text after a control sequence, which is given without its first two characters. -/
def rest? (text : List Sign) : Option (List Sign) :=
  match (text.dropWhile isParameter).dropWhile isIntermediate with
  | [] => none
  | c :: rest => if isFinal c then some rest else none

theorem length_rest?_lt {text rest : List Sign} (found : rest? text = some rest) :
    rest.length < text.length := by
  have parameters := (List.dropWhile_sublist isParameter (l := text)).length_le
  have intermediates :=
    (List.dropWhile_sublist isIntermediate (l := text.dropWhile isParameter)).length_le
  unfold rest? at found
  split at found
  · simp at found
  · rename_i c later left
    rw [left, List.length_cons] at intermediates
    split at found
    · cases found
      omega
    · simp at found

/-- The text without its control sequences. One that is not complete is no control
sequence and stays. -/
def remove : List Sign → List Sign
  | [] => []
  | .char '\x1b' :: .char '[' :: text =>
      match _found : rest? text with
      | some rest => remove rest
      | none => '\x1b' :: '[' :: remove text
  | c :: text => c :: remove text
termination_by text => text.length
decreasing_by
  · have := length_rest?_lt _found
    simp only [List.length_cons]
    omega
  · simp only [List.length_cons]
    omega
  · simp

/-- A text without the escape character has no control sequences. -/
theorem remove_of_not_mem {text : List Sign} (plain : Sign.char '\x1b' ∉ text) :
    remove text = text := by
  induction text with
  | nil => rw [remove]
  | cons c text ih =>
      rw [List.mem_cons, not_or] at plain
      rw [remove, ih plain.2]
      rintro _ rfl
      exact absurd rfl plain.1

end ControlSequence

/-- The text without control sequences. -/
def withoutControlSequences (text : Text) : Text :=
  Text.ofList (ControlSequence.remove text.toList)

end BundleEmbed
