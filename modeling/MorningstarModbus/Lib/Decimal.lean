import Mathlib.Data.Int.Log
import Mathlib.Data.Rat.Floor

/-!
# Decimal

Rounding a number to a fixed number of decimal places, as `format(x, ".nf")`
does, and to the places of a double: to the nearest, ties to even.
-/

namespace Decimal

/-- The nearest integer, ties to even. -/
def roundHalfEven (x : ℚ) : Int :=
  let below := x.floor
  let rest := x - below
  if rest < 1 / 2 then below
  else if 1 / 2 < rest then below + 1
  else if below % 2 = 0 then below else below + 1

/-- The nearest double, where the exponent is in range: its 53 binary places from the first. -/
def nearestDouble (x : ℚ) : ℚ :=
  let places := 52 - Int.log 2 |x|
  roundHalfEven (x * 2 ^ places) / 2 ^ places

/-- `f"{x:.{places}f}"` -/
def fixed (places : Nat) (x : ℚ) : String :=
  let scaled := (roundHalfEven (|x| * 10 ^ places)).toNat
  let digits := Nat.toDigits 10 scaled
  let padded := List.replicate (places + 1 - digits.length) '0' ++ digits
  let whole := padded.take (padded.length - places)
  let fraction := padded.drop (padded.length - places)
  (if x < 0 then "-" else "") ++ String.ofList whole ++
    (if places = 0 then "" else "." ++ String.ofList fraction)

example : nearestDouble (1 / 10) = 3602879701896397 / 2 ^ 55 := by decide +kernel

example : fixed 2 (1 / 8) = "0.12" := by decide +kernel

example : fixed 1 (9995 / 100) = "100.0" := by decide +kernel

example : fixed 0 (5 / 2) = "2" := by decide +kernel

end Decimal
