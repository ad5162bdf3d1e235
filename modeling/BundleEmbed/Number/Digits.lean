/-!
Numbers written in digits.
-/

namespace BundleEmbed

/-- A digit of a number in base eight. -/
def isOctalDigit (c : Char) : Bool := '0' ≤ c && c ≤ '7'

/-- A digit of a number in base sixteen. -/
def isHexDigit (c : Char) : Bool :=
  c.isDigit || ('a' ≤ c && c ≤ 'f') || ('A' ≤ c && c ≤ 'F')

/-- The value of a digit in a base up to sixteen. -/
def digitValue (c : Char) : Nat :=
  if c.isDigit then c.toNat - '0'.toNat
  else if 'a' ≤ c then c.toNat - 'a'.toNat + 10
  else c.toNat - 'A'.toNat + 10

/-- The number that digits write in a base. -/
def numberOf (base : Nat) (digits : List Char) : Nat :=
  digits.foldl (fun value c => value * base + digitValue c) 0

/-- A digit in base sixteen has a value below sixteen. -/
theorem digitValue_lt {c : Char} (isCode : isHexDigit c = true) : digitValue c < 16 := by
  simp only [isHexDigit, Char.isDigit, Bool.or_eq_true, Bool.and_eq_true, decide_eq_true_eq,
    Char.le_def, UInt32.le_iff_toNat_le, ge_iff_le, Char.reduceVal, UInt32.reduceToNat] at isCode
  simp only [digitValue, Char.isDigit, Bool.and_eq_true, decide_eq_true_eq, Char.le_def,
    UInt32.le_iff_toNat_le, Char.toNat, ge_iff_le, Char.reduceVal, UInt32.reduceToNat]
  split <;> try split
  all_goals omega

/-- Digits in base sixteen write a number that is bounded by how many they are. -/
theorem numberOf_lt {digits : List Char} (isCode : ∀ c ∈ digits, isHexDigit c = true) :
    numberOf 16 digits < Nat.pow 16 digits.length := by
  suffices bound : ∀ value, digits.foldl (fun value c => value * 16 + digitValue c) value <
      (value + 1) * Nat.pow 16 digits.length by
    simpa [numberOf] using bound 0
  induction digits with
  | nil => simp
  | cons c later ih =>
      intro value
      have first : digitValue c < 16 := digitValue_lt (isCode c List.mem_cons_self)
      calc later.foldl (fun value c => value * 16 + digitValue c) (value * 16 + digitValue c)
          < (value * 16 + digitValue c + 1) * 16 ^ later.length :=
            ih (fun c isOne => isCode c (List.mem_cons_of_mem _ isOne)) _
        _ ≤ (value + 1) * 16 * 16 ^ later.length := Nat.mul_le_mul_right _ (by omega)
        _ = (value + 1) * 16 ^ (c :: later).length := by
            rw [List.length_cons, Nat.pow_succ', Nat.mul_assoc]

/-- The number of digits up to which a number is read. -/
def digitLimit : Nat := 4300

/-- The wording of the refusal of a number with too many digits. -/
def tooManyDigitsMessage (digits : Nat) : String :=
  "Exceeds the limit (" ++ toString digitLimit ++
    " digits) for integer string conversion: value has " ++ toString digits ++
    " digits; use sys.set_int_max_str_digits() to increase the limit"

end BundleEmbed
