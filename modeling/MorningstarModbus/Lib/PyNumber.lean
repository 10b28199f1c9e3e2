import MorningstarModbus.Lib.PyFloat

/-!
# PyNumber

Numbers of Python programs: integers of any size, and floats.  Comparisons of the two are exact;
in arithmetic an integer becomes a float, which raises `OverflowError` where it is out of range.

* `toFloat_pow` — of the powers of two, those from `2 ** 1024` on.
-/

inductive PyNumber where
  | int (n : Int)
  | float (x : PyFloat) (h : x.InRange)
  deriving DecidableEq

instance (n : Nat) : OfNat PyNumber n := ⟨.int n⟩

namespace PyNumber

/-- The number itself. -/
def value : PyNumber → PyFloat
  | int n => .ofInt n
  | float x _ => x

def isInt : PyNumber → Bool
  | int _ => true
  | float .. => false

/-- `float(n)`, `none` where it raises. -/
def toFloat (n : Int) : Option PyFloat :=
  if (PyFloat.ofInt n).InRange then some (.ofInt n) else none

/-- `x * n`, `none` where it raises. -/
def mulInt : PyNumber → Int → Option PyNumber
  | int m, n => some (.int (m * n))
  | float x _, n => (toFloat n).map fun y =>
      .float (PyFloat.ranged (x.mul y)) (PyFloat.inRange_ranged _)

/-- `x + y` for a float `x`, `none` where it raises. -/
def addTo (x : PyFloat) : PyNumber → Option PyFloat
  | int n => (toFloat n).map x.add
  | float y _ => some (x.add y)

/-- `min(x, y)` -/
def min (x y : PyNumber) : PyNumber := if PyFloat.lt y.value x.value then y else x

theorem toFloat_isSome {n : Int} (hpos : 0 < n) :
    (toFloat n).isSome = true ↔ (n : ℚ) < PyFloat.bound := by
  have hlow : -PyFloat.bound < (n : ℚ) :=
    (neg_lt_zero.mpr PyFloat.bound_pos).trans (Int.cast_pos.mpr hpos)
  rw [toFloat, PyFloat.ofInt]
  split
  case isTrue h => exact iff_of_true rfl h.2
  case isFalse h => exact iff_of_false (by simp) fun hlt => h ⟨hlow, hlt⟩

/-- Only the lower powers of two are floats. -/
theorem toFloat_pow (n : Nat) :
    toFloat (2 ^ n) = if n < 1024 then some (.finite (2 ^ n)) else none := by
  have hsome := toFloat_isSome (n := 2 ^ n) (by positivity)
  rw [Int.cast_pow, Int.cast_ofNat, PyFloat.pow_lt_bound_iff] at hsome
  rw [toFloat] at hsome ⊢
  split at hsome
  case isTrue h =>
    rw [if_pos h, if_pos (hsome.mp rfl), PyFloat.ofInt]
    simp
  case isFalse h =>
    rw [if_neg h, if_neg fun hlt => by simpa using hsome.mpr hlt]

end PyNumber
