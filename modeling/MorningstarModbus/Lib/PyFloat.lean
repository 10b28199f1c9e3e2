import Mathlib.Data.Rat.Floor

/-!
# PyFloat

Floats as Python programs compute with them: exact rationals, two infinities and
a `nan`, which compares as false.  Rounding is left out.

* `ranged` — a result out of the range of floats is infinite;
* `float16`, `float32` — the IEEE 754 formats, from their words.
-/

inductive PyFloat where
  | finite (x : ℚ)
  | inf (negative : Bool)
  | nan
  deriving DecidableEq

namespace PyFloat

def ofInt (n : Int) : PyFloat := .finite n

/-- `math.isfinite` -/
def isFinite : PyFloat → Bool
  | finite _ => true
  | _ => false

/-! ## arithmetic -/

def mul : PyFloat → PyFloat → PyFloat
  | nan, _ => nan
  | _, nan => nan
  | finite x, finite y => finite (x * y)
  | inf s, inf t => inf (s != t)
  | inf s, finite y => if y = 0 then nan else inf (s != decide (y < 0))
  | finite x, inf t => if x = 0 then nan else inf (t != decide (x < 0))

def add : PyFloat → PyFloat → PyFloat
  | nan, _ => nan
  | _, nan => nan
  | finite x, finite y => finite (x + y)
  | inf s, inf t => if s = t then inf s else nan
  | inf s, finite _ => inf s
  | finite _, inf t => inf t

/-! ## comparison -/

/-- `x < y` -/
def lt : PyFloat → PyFloat → Bool
  | nan, _ => false
  | _, nan => false
  | finite x, finite y => x < y
  | inf s, inf t => s && !t
  | inf s, finite _ => s
  | finite _, inf t => !t

/-- `x <= y` -/
def le : PyFloat → PyFloat → Bool
  | nan, _ => false
  | _, nan => false
  | finite x, finite y => x ≤ y
  | inf s, inf t => s || !t
  | inf s, finite _ => s
  | finite _, inf t => !t

/-- `max(x, y)` -/
def max (x y : PyFloat) : PyFloat := if lt x y then y else x

/-- Comparison is transitive, as a `nan` compares as false. -/
theorem le_trans {x y z : PyFloat} (hxy : le x y = true) (hyz : le y z = true) :
    le x z = true := by
  cases x <;> cases y <;> cases z <;> simp_all only [le, decide_eq_true_eq, Bool.false_eq_true]
  case finite.finite.finite => exact hxy.trans hyz
  case inf.inf.inf s t u => revert s t u; decide
  all_goals simp_all

/-- Numbers compare one way or the other. -/
theorem lt_eq_false_iff {x y : PyFloat} (hx : x ≠ nan) (hy : y ≠ nan) :
    lt x y = false ↔ le y x = true := by
  cases x <;> cases y <;> simp_all [le, lt]
  case inf.inf s t => revert s t; decide

theorem le_of_lt {x y : PyFloat} (h : lt x y = true) : le x y = true := by
  cases x <;> cases y <;> simp_all [le, lt]
  exact h.le

theorem le_refl {x : PyFloat} (hx : x ≠ nan) : le x x = true := by
  cases x <;> simp_all [le]

/-! ## range -/

/-- From here on a number is out of the range of floats: half a place beyond the largest. -/
def bound : ℚ := 2 ^ 970 * (2 ^ 54 - 1)

def InRange : PyFloat → Prop
  | finite x => -bound < x ∧ x < bound
  | _ => True

instance (x : PyFloat) : Decidable x.InRange :=
  match x with
  | finite x => inferInstanceAs (Decidable (-bound < x ∧ x < bound))
  | inf _ | nan => isTrue trivial

/-- A result out of the range of floats is infinite. -/
def ranged : PyFloat → PyFloat
  | finite x => if (finite x).InRange then finite x else inf (decide (x < 0))
  | x => x

/-- Past the greatest float there is only infinity. -/
theorem inRange_ranged (x : PyFloat) : (ranged x).InRange := by
  cases x with
  | finite x =>
      rw [ranged]
      split
      case isTrue h => exact h
      case isFalse h => trivial
  | inf s => trivial
  | nan => trivial

theorem bound_pos : 0 < bound := mul_pos (by positivity) (by norm_num)

/-- The powers of two that floats reach. -/
theorem pow_lt_bound_iff {n : Nat} : (2 : ℚ) ^ n < bound ↔ n < 1024 := by
  have hlow : (0 : ℚ) < 2 ^ 970 := by positivity
  have hlast : (2 : ℚ) ^ 1023 < bound := by
    rw [bound, show 1023 = 970 + 53 from rfl, pow_add]
    exact mul_lt_mul_of_pos_left (by norm_num) hlow
  have hfirst : bound ≤ (2 : ℚ) ^ 1024 := by
    rw [bound, show 1024 = 970 + 54 from rfl, pow_add]
    exact mul_le_mul_of_nonneg_left (by norm_num) hlow.le
  constructor
  · intro h
    by_contra hlarge
    exact absurd h (not_lt.mpr (hfirst.trans (pow_le_pow_right₀ one_le_two (not_lt.mp hlarge))))
  · intro h
    exact (pow_le_pow_right₀ one_le_two (Nat.le_of_lt_succ h)).trans_lt hlast

/-! ## finite floats -/

/-- The number, where it is one. -/
def rat : PyFloat → ℚ
  | finite x => x
  | _ => 0

/-- A finite float is a number. -/
theorem eq_finite {x : PyFloat} (h : x.isFinite = true) : x = finite x.rat := by
  cases x with
  | finite y => rfl
  | inf s => cases h
  | nan => cases h

/-- Comparing finite floats is comparing numbers: not at most zero is positive. -/
theorem rat_pos {x : PyFloat} (h : x.isFinite = true) (hle : le x (finite 0) = false) :
    0 < x.rat := by
  rw [eq_finite h, le, decide_eq_false_iff_not] at hle
  exact not_le.mp hle

/-- And not less is at least. -/
theorem rat_le {x y : PyFloat} (hx : x.isFinite = true) (hy : y.isFinite = true)
    (hlt : lt x y = false) : y.rat ≤ x.rat := by
  rw [eq_finite hx, eq_finite hy, lt, decide_eq_false_iff_not] at hlt
  exact not_lt.mp hlt

theorem max_finite (x y : ℚ) : PyFloat.max (finite x) (finite y) = finite (Max.max x y) := by
  by_cases h : x < y
  · simp [PyFloat.max, lt, h, max_eq_right h.le]
  · simp [PyFloat.max, lt, h, max_eq_left (not_lt.mp h)]

/-! ## formats -/

/-- A number of `e` bits of exponent, the least of them `2 ^ low`, and `m` bits of fraction. -/
def ofBits (e m low n : Nat) : PyFloat :=
  let fraction := n % 2 ^ m
  let exponent := n / 2 ^ m % 2 ^ e
  let negative := n / 2 ^ (m + e) % 2 = 1
  let sign : ℚ := if negative then -1 else 1
  if exponent = 2 ^ e - 1 then if fraction = 0 then .inf negative else .nan
  else if exponent = 0 then .finite (sign * fraction / 2 ^ low)
  else .finite (sign * (2 ^ m + fraction) * 2 ^ (exponent - 1) / 2 ^ low)

/-- `struct.unpack(">e", …)` of a word -/
def float16 (word : Nat) : PyFloat := ofBits 5 10 24 word

/-- `struct.unpack(">f", …)` of two words -/
def float32 (high low : Nat) : PyFloat := ofBits 8 23 149 (high * 65536 + low)

example : float16 0x4A40 = .finite (25 / 2) := by decide +kernel

example : float16 0xFC00 = .inf true := by decide +kernel

example : float32 0x41C8 0x0000 = .finite 25 := by decide +kernel

end PyFloat
