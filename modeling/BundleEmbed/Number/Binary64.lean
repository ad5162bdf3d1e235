/-!
Decimal numbers and the binary floating point numbers nearest to them.

A decimal number is read as the double next to it, a tie going to the even one.
What is asked of it here is whether it is finite, and whether it is an integer.
Both are decided in exact arithmetic.
-/

namespace BundleEmbed

/-- The number `coefficient * 10 ^ exponent`, or its negative. -/
structure Decimal where
  negative : Bool
  coefficient : Nat
  exponent : Int
  deriving DecidableEq, Repr

/-- The integer nearest to a quotient; a tie goes to the even one. -/
def roundQuotient (numerator denominator : Nat) : Nat :=
  let quotient := numerator / denominator
  let doubled := 2 * (numerator % denominator)
  if doubled < denominator then quotient
  else if doubled > denominator then quotient + 1
  else quotient + quotient % 2

/-- The largest `k` with `2 ^ k ≤ numerator / denominator`, for a positive quotient. -/
def floorLog2 (numerator denominator : Nat) : Int :=
  let guess := (numerator.log2 : Int) - denominator.log2
  let reached := numerator * Nat.pow 2 (-guess).toNat ≥ denominator * Nat.pow 2 guess.toNat
  if reached then guess else guess - 1

/-- The magnitude of a double. -/
inductive Binary64 where
  /-- `significand * 2 ^ exponent` -/
  | finite (significand : Nat) (exponent : Int)
  | infinite
  deriving DecidableEq, Repr

namespace Binary64

/-- The double nearest to a positive quotient: 53 binary digits, and no exponent below
-1074. -/
def ofQuotient (numerator denominator : Nat) : Binary64 :=
  let exponent := max (-1074) (floorLog2 numerator denominator - 52)
  let significand :=
    roundQuotient (numerator * Nat.pow 2 (-exponent).toNat)
      (denominator * Nat.pow 2 exponent.toNat)
  if significand * Nat.pow 2 exponent.toNat ≥ Nat.pow 2 1024 then .infinite
  else .finite significand exponent

/-- The magnitude as a natural number, if it is one. -/
def toNat? : Binary64 → Option Nat
  | .infinite => none
  | .finite significand exponent =>
      let scaled := significand * Nat.pow 2 exponent.toNat
      let divisor := Nat.pow 2 (-exponent).toNat
      if scaled % divisor = 0 then some (scaled / divisor) else none

end Binary64

/-- The number of digits of a coefficient. -/
def Decimal.digitCount (decimal : Decimal) : Nat := (Nat.toDigits 10 decimal.coefficient).length

/-- The magnitude of the double nearest to a decimal number. Far outside of the range of
doubles it is known without any division. -/
def Decimal.toBinary64 (decimal : Decimal) : Binary64 :=
  let size := decimal.exponent + decimal.digitCount
  if decimal.coefficient = 0 ∨ size < -400 then .finite 0 0
  else if size > 400 then .infinite
  else Binary64.ofQuotient (decimal.coefficient * Nat.pow 10 decimal.exponent.toNat)
    (Nat.pow 10 (-decimal.exponent).toNat)

end BundleEmbed
