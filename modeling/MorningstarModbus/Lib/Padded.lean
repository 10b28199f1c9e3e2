import Mathlib.Data.List.GetD
import Mathlib.Data.List.Lex
import Mathlib.Order.PiLex
import Mathlib.Order.RelClasses

/-!
# Padded

Lists compared lexicographically, the shorter one padded at its end.

* `sequence` — the sequence a list starts, which goes on with the padding for ever;
* `pad_lt_pad_iff` — padded to any common width, lists compare as their sequences;
* `threeWay` — the comparison `(a > b) - (a < b)` of a linear order.

The width differs from pair to pair, but the sequences are linearly ordered, so comparisons of
different widths fit together.
-/

namespace Padded

/-- Sequences, in lexicographic order. -/
def Sequence (α : Type*) : Type _ := Lex (ℕ → α)

noncomputable instance {α : Type*} [LinearOrder α] : LinearOrder (Sequence α) :=
  inferInstanceAs (LinearOrder (Lex (ℕ → α)))

variable {α : Type*} (fill : α)

/-- A list padded to a width. -/
def pad (width : Nat) (l : List α) : List α := l ++ List.replicate (width - l.length) fill

/-- The sequence a list starts. -/
def sequence (l : List α) : Sequence α := toLex fun i => l.getD i fill

variable {fill} {a b : List α} {x y : α} {width : Nat}

/-- Padding makes the width. -/
theorem length_pad (h : a.length ≤ width) : (pad fill width a).length = width := by
  rw [pad, List.length_append, List.length_replicate]
  omega

/-- Padding is already in the sequence. -/
theorem sequence_pad : sequence fill (pad fill width a) = sequence fill a := by
  refine congrArg toLex (funext fun i => ?_)
  rw [pad]
  by_cases hi : i < a.length
  · rw [List.getD_append _ _ _ _ hi]
  · rw [List.getD_append_right _ _ _ _ (not_lt.mp hi), List.getD_eq_default _ _ (not_lt.mp hi),
      List.getD_eq_getElem?_getD, List.getElem?_getD_replicate_default_eq]

/-- Two sequences are the same if they are at every place, the fill included. -/
theorem sequence_eq_iff : sequence fill a = sequence fill b ↔ ∀ i, a.getD i fill = b.getD i fill :=
  toLex_inj.trans funext_iff

section Order

variable [LinearOrder α]

/-- The first place decides, or the rest. -/
theorem sequence_cons_lt : sequence fill (x :: a) < sequence fill (y :: b) ↔
    x < y ∨ (x = y ∧ sequence fill a < sequence fill b) := by
  constructor
  · intro h
    obtain ⟨i, hbefore, hlt⟩ := h
    cases i with
    | zero => exact .inl hlt
    | succ i =>
        refine .inr ⟨hbefore 0 (Nat.succ_pos i), i, fun j hj => ?_, hlt⟩
        exact hbefore (j + 1) (Nat.succ_lt_succ hj)
  · intro h
    cases h with
    | inl hlt => exact ⟨0, fun j hj => absurd hj (Nat.not_lt_zero j), hlt⟩
    | inr htail =>
        obtain ⟨hhead, i, hbefore, hlt⟩ := htail
        refine ⟨i + 1, fun j hj => ?_, hlt⟩
        cases j with
        | zero => exact hhead
        | succ j => exact hbefore j (Nat.lt_of_succ_lt_succ hj)

/-- Lists of one length compare as their sequences. -/
theorem lt_iff_of_length (h : a.length = b.length) :
    a < b ↔ sequence fill a < sequence fill b := by
  induction a generalizing b with
  | nil =>
      rw [List.length_nil, eq_comm, List.length_eq_zero_iff] at h
      rw [h]
      exact ⟨fun hlt => absurd hlt (lt_irrefl _), fun hlt => absurd hlt (lt_irrefl _)⟩
  | cons x a ih =>
      cases b with
      | nil => cases h
      | cons y b =>
          rw [List.cons_lt_cons_iff, sequence_cons_lt, ih (Nat.succ.inj h)]

/-- **Padded lists** of one width compare as the sequences they start. -/
theorem pad_lt_pad_iff (ha : a.length ≤ width) (hb : b.length ≤ width) :
    pad fill width a < pad fill width b ↔ sequence fill a < sequence fill b := by
  have hlength : (pad fill width a).length = (pad fill width b).length :=
    (length_pad ha).trans (length_pad hb).symm
  rw [lt_iff_of_length hlength, sequence_pad, sequence_pad]

end Order

/-! ## comparing -/

/-- `(x > y) - (x < y)` -/
def threeWay {β : Type*} [LinearOrder β] (x y : β) : Int :=
  (if y < x then 1 else 0) - (if x < y then 1 else 0)

section ThreeWay

variable {β : Type*} [LinearOrder β] {x y : β}

/-- Comparing the other way turns the sign. -/
theorem threeWay_swap (x y : β) : threeWay y x = -threeWay x y := by
  simp only [threeWay]
  omega

/-- A comparison is negative for what is smaller. -/
theorem threeWay_neg_iff : threeWay x y < 0 ↔ x < y := by
  obtain h | rfl | h := lt_trichotomy x y
  · simp [threeWay, h, h.not_gt]
  · simp [threeWay]
  · simp [threeWay, h, h.not_gt]

/-- It is not positive for what is not greater. -/
theorem threeWay_nonpos_iff : threeWay x y ≤ 0 ↔ x ≤ y := by
  have hswap := threeWay_neg_iff (x := y) (y := x)
  rw [threeWay_swap x y] at hswap
  rw [← not_lt (a := y), ← hswap]
  omega

/-- It is zero for what is the same. -/
theorem threeWay_eq_zero_iff : threeWay x y = 0 ↔ x = y := by
  have hle := threeWay_nonpos_iff (x := x) (y := y)
  have hge := threeWay_nonpos_iff (x := y) (y := x)
  rw [threeWay_swap x y] at hge
  constructor
  · intro h
    exact le_antisymm (hle.mp (by omega)) (hge.mp (by omega))
  · intro h
    have hxy := hle.mpr h.le
    have hyx := hge.mpr h.ge
    omega

end ThreeWay

end Padded
