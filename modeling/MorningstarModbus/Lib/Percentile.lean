import Mathlib.Algebra.Order.Floor.Semiring
import Mathlib.Algebra.Order.Field.Basic
import Mathlib.Data.List.GetD
import Mathlib.Data.Rat.Floor
import MorningstarModbus.Lib.Query

/-!
# Percentile

Percentiles of a sample by linear interpolation between its sorted values.

* `interpolate_mono` — a sequence that rises, read between its members, rises;
* `percentile_mono` — a percentile rises with its fraction;
* `percentile_perm` — it does not depend on the order of the sample;
* `percentile_mem_bounds` — it lies between any bounds of the sample.
-/

namespace Percentile

open Query

section Interpolate

variable {K : Type*} [Field K] [LinearOrder K] [FloorSemiring K] {a : ℕ → K} {x y : K}

/-- A sequence between its members. -/
def interpolate (a : ℕ → K) (x : K) : K :=
  a ⌊x⌋₊ * (1 - (x - ⌊x⌋₊)) + a (⌊x⌋₊ + 1) * (x - ⌊x⌋₊)

theorem interpolate_eq (a : ℕ → K) (x : K) :
    interpolate a x = a ⌊x⌋₊ + (a (⌊x⌋₊ + 1) - a ⌊x⌋₊) * (x - ⌊x⌋₊) := by
  rw [interpolate]
  ring

variable [IsStrictOrderedRing K]

theorem le_interpolate (ha : Monotone a) (hx : 0 ≤ x) : a ⌊x⌋₊ ≤ interpolate a x := by
  have hstep : 0 ≤ a (⌊x⌋₊ + 1) - a ⌊x⌋₊ := sub_nonneg.mpr (ha (Nat.le_succ _))
  have hweight : 0 ≤ x - ⌊x⌋₊ := sub_nonneg.mpr (Nat.floor_le hx)
  rw [interpolate_eq]
  exact le_add_of_nonneg_right (mul_nonneg hstep hweight)

theorem interpolate_le (ha : Monotone a) (x : K) : interpolate a x ≤ a (⌊x⌋₊ + 1) := by
  have hstep : 0 ≤ a (⌊x⌋₊ + 1) - a ⌊x⌋₊ := sub_nonneg.mpr (ha (Nat.le_succ _))
  have hweight : x - ⌊x⌋₊ ≤ 1 := by
    have hlt := Nat.lt_floor_add_one x
    linarith
  have hle := mul_le_of_le_one_right hstep hweight
  rw [interpolate_eq]
  linarith

/-- A rising sequence, read between its members, is below the next member. -/
theorem interpolate_le_ceil (ha : Monotone a) (x : K) : interpolate a x ≤ a ⌈x⌉₊ := by
  obtain hwhole | hpart := (Nat.floor_le_ceil x).eq_or_lt
  · rw [interpolate_eq]
    have hx : x ≤ ⌊x⌋₊ := (Nat.le_ceil x).trans_eq (by rw [← hwhole])
    have hstep : 0 ≤ a (⌊x⌋₊ + 1) - a ⌊x⌋₊ := sub_nonneg.mpr (ha (Nat.le_succ _))
    have hweight := mul_nonneg hstep (sub_nonneg.mpr hx)
    rw [← hwhole]
    linarith
  · exact (interpolate_le ha x).trans (ha hpart)

/-- A sequence that rises, read between its members, rises. -/
theorem interpolate_mono (ha : Monotone a) (hx : 0 ≤ x) (hxy : x ≤ y) :
    interpolate a x ≤ interpolate a y := by
  obtain hsame | hbelow := (Nat.floor_le_floor hxy).eq_or_lt
  · have hstep : 0 ≤ a (⌊x⌋₊ + 1) - a ⌊x⌋₊ := sub_nonneg.mpr (ha (Nat.le_succ _))
    have hweight := mul_le_mul_of_nonneg_left (sub_le_sub_right hxy (⌊x⌋₊ : K)) hstep
    rw [interpolate_eq, interpolate_eq, ← hsame]
    linarith
  · calc interpolate a x ≤ a (⌊x⌋₊ + 1) := interpolate_le ha x
      _ ≤ a ⌊y⌋₊ := ha hbelow
      _ ≤ interpolate a y := le_interpolate ha (hx.trans hxy)

end Interpolate

/-! ## the members of a sample in order -/

/-- The member at an index, the last from there on. -/
def member {α : Type*} [Zero α] (ordered : List α) (i : ℕ) : α :=
  ordered.getD (min i (ordered.length - 1)) 0

theorem member_mem {α : Type*} [Zero α] {ordered : List α} (hne : ordered ≠ []) (i : ℕ) :
    member ordered i ∈ ordered := by
  have hlength := List.length_pos_iff.mpr hne
  have hlt : min i (ordered.length - 1) < ordered.length := by omega
  rw [member, List.getD_eq_getElem _ _ hlt]
  exact List.getElem_mem hlt

theorem member_mono {α : Type*} [LinearOrder α] [Zero α] {ordered : List α}
    (h : ordered.Pairwise (· ≤ ·)) : Monotone (member ordered) := by
  intro i j hij
  obtain rfl | hne := eq_or_ne ordered []
  · exact le_refl _
  · have hlength := List.length_pos_iff.mpr hne
    have hi : min i (ordered.length - 1) < ordered.length := by omega
    have hj : min j (ordered.length - 1) < ordered.length := by omega
    have hle : min i (ordered.length - 1) ≤ min j (ordered.length - 1) := by omega
    rw [member, member, List.getD_eq_getElem _ _ hi, List.getD_eq_getElem _ _ hj]
    obtain heq | hlt := hle.eq_or_lt
    · simp [heq]
    · exact List.pairwise_iff_getElem.mp h _ _ hi hj hlt

/-! ## percentiles -/

section Percentile

variable {K : Type*} [Field K] [LinearOrder K] [FloorSemiring K] {values values' : List K}
  {fraction : K}

/-- The percentile of a sample, between its sorted values. -/
def percentile (values : List K) (fraction : K) : Option K :=
  match orderBy id .asc values with
  | [] => none
  | [only] => some only
  | ordered =>
      let position := (ordered.length - 1 : ℕ) * fraction
      let lower := ⌊position⌋₊
      let upper := min (lower + 1) (ordered.length - 1)
      let weight := position - lower
      some (ordered.getD lower 0 * (1 - weight) + ordered.getD upper 0 * weight)

/-- A percentile does not depend on the order of the sample. -/
theorem percentile_perm (h : values.Perm values') (fraction : K) :
    percentile values fraction = percentile values' fraction := by
  rw [percentile, percentile, orderBy_id_perm h]

@[simp] theorem percentile_nil : percentile ([] : List K) fraction = none := rfl

variable [IsStrictOrderedRing K]

/-- A percentile is read between the members in order. -/
theorem percentile_eq_interpolate (hne : values ≠ []) (h1 : fraction ≤ 1) :
    percentile values fraction =
      some (interpolate (member (orderBy id .asc values))
        ((values.length - 1 : ℕ) * fraction)) := by
  have hlength := length_orderBy id .asc values
  have hpos := List.length_pos_iff.mpr hne
  rw [percentile, ← hlength]
  split
  · case h_1 hnil => rw [hnil, List.length_nil] at hlength; omega
  · case h_2 only hsingle =>
      rw [hsingle]
      simp [interpolate, member]
  · case h_3 ordered _ hsingle =>
      have hlower : ⌊((orderBy id .asc values).length - 1 : ℕ) * fraction⌋₊ ≤
          (orderBy id .asc values).length - 1 := by
        refine (Nat.floor_le_floor (mul_le_of_le_one_right (Nat.cast_nonneg _) h1)).trans ?_
        rw [Nat.floor_natCast]
      rw [interpolate, member, member, min_eq_left hlower]

theorem percentile_isSome (hne : values ≠ []) (h1 : fraction ≤ 1) :
    (percentile values fraction).isSome := by
  rw [percentile_eq_interpolate hne h1]
  rfl

/-- A percentile rises with its fraction. -/
theorem percentile_mono {f g x y : K} (hf : 0 ≤ f) (hfg : f ≤ g) (hg : g ≤ 1)
    (hx : percentile values f = some x) (hy : percentile values g = some y) : x ≤ y := by
  have hne : values ≠ [] := by
    rintro rfl
    cases hx
  rw [percentile_eq_interpolate hne (hfg.trans hg), Option.some.injEq] at hx
  rw [percentile_eq_interpolate hne hg, Option.some.injEq] at hy
  rw [← hx, ← hy]
  exact interpolate_mono (member_mono (pairwise_orderBy id .asc values))
    (mul_nonneg (Nat.cast_nonneg _) hf) (mul_le_mul_of_nonneg_left hfg (Nat.cast_nonneg _))

/-- A percentile lies between the bounds of its sample. -/
theorem percentile_mem_bounds {x low high : K} (h0 : 0 ≤ fraction) (h1 : fraction ≤ 1)
    (hx : percentile values fraction = some x) (hlow : ∀ v ∈ values, low ≤ v)
    (hhigh : ∀ v ∈ values, v ≤ high) : low ≤ x ∧ x ≤ high := by
  have hne : values ≠ [] := by
    rintro rfl
    cases hx
  have hmember : ∀ i, member (orderBy id .asc values) i ∈ values := by
    intro i
    rw [← mem_orderBy id .asc values]
    exact member_mem (mt orderBy_eq_nil.mp hne) i
  have hmono := member_mono (pairwise_orderBy id .asc values)
  rw [percentile_eq_interpolate hne h1, Option.some.injEq] at hx
  rw [← hx]
  constructor
  · exact (hlow _ (hmember _)).trans (le_interpolate hmono (mul_nonneg (Nat.cast_nonneg _) h0))
  · exact (interpolate_le hmono _).trans (hhigh _ (hmember _))

/-- From some place on the members of a sample are at least its percentile. -/
theorem length_le_of_percentile {x : K} (h1 : fraction ≤ 1)
    (hx : percentile values fraction = some x) :
    values.length ≤
      (values.filter fun v => x ≤ v).length + ⌈(values.length - 1 : ℕ) * fraction⌉₊ := by
  have hne : values ≠ [] := by
    rintro rfl
    cases hx
  rw [percentile_eq_interpolate hne h1, Option.some.injEq] at hx
  obtain ⟨ordered, hordered⟩ : ∃ ordered, ordered = orderBy id .asc values := ⟨_, rfl⟩
  obtain ⟨place, hplace⟩ : ∃ place, place = ⌈(values.length - 1 : ℕ) * fraction⌉₊ := ⟨_, rfl⟩
  have hperm : ordered.Perm values := hordered ▸ orderBy_perm id .asc values
  have hmono := member_mono (pairwise_orderBy id .asc values)
  rw [← hordered] at hx hmono
  have hlater : ∀ v ∈ ordered.drop place, x ≤ v := by
    intro v hv
    obtain ⟨i, hi, rfl⟩ := List.mem_iff_getElem.mp hv
    rw [List.length_drop] at hi
    have hv : (ordered.drop place)[i] = member ordered (place + i) := by
      rw [List.getElem_drop, member, min_eq_left (by omega), List.getD_eq_getElem _ _ (by omega)]
    rw [hv, ← hx]
    refine (interpolate_le_ceil hmono _).trans (hmono ?_)
    rw [← hplace]
    exact Nat.le_add_right _ _
  have hsub : ((ordered.drop place).filter fun v => x ≤ v).Sublist
      (ordered.filter fun v => x ≤ v) := (List.drop_sublist _ _).filter _
  have hcount := hsub.length_le
  rw [List.filter_eq_self.mpr fun v hv => decide_eq_true (hlater v hv), List.length_drop,
    (hperm.filter _).length_eq, hperm.length_eq] at hcount
  rw [← hplace]
  omega

end Percentile

end Percentile
