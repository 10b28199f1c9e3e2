import Mathlib.Data.List.Basic
import Mathlib.Logic.Function.Iterate

/-!
# Crc

A reflected cyclic redundancy check of any width: a register that takes the bits of a
message one by one, in the order in which they are sent.

* `feed_xor` — the register is linear in its state and the message;
* `feed_eq_iterate` — up to a register's width, bits count as a word in the state;
* `feed_ne_zero_of_burst` — no burst as long as the register leaves it zero.
-/

namespace Crc

variable {w : Nat} (poly : BitVec w)

/-! ## the register -/

/-- A bit at the place where the register takes it. -/
def lowBit (b : Bool) : BitVec w := (BitVec.ofBool b).setWidth w

/-- One shift of the register. -/
def shift (s : BitVec w) : BitVec w := if s.getLsbD 0 then (s >>> 1) ^^^ poly else s >>> 1

/-- The register takes a bit. -/
def step (s : BitVec w) (b : Bool) : BitVec w := shift poly (s ^^^ lowBit b)

/-- The register takes the bits of a message. -/
def feed (s : BitVec w) (bs : List Bool) : BitVec w := bs.foldl (step poly) s

@[simp] theorem feed_nil (s : BitVec w) : feed poly s [] = s := rfl

@[simp] theorem feed_cons (s : BitVec w) (b : Bool) (bs : List Bool) :
    feed poly s (b :: bs) = feed poly (step poly s b) bs := rfl

/-- A register is fed one part after the other. -/
@[simp] theorem feed_append (s : BitVec w) (bs cs : List Bool) :
    feed poly s (bs ++ cs) = feed poly (feed poly s bs) cs := List.foldl_append

@[simp] theorem getLsbD_lowBit (b : Bool) (i : Nat) :
    (lowBit b : BitVec w).getLsbD i = (decide (i < w) && (decide (i = 0) && b)) := by
  rw [lowBit, BitVec.getLsbD_setWidth, BitVec.getLsbD_ofBool]

@[simp] theorem lowBit_false : (lowBit false : BitVec w) = 0 := by
  apply BitVec.eq_of_getLsbD_eq
  simp

/-- Feeding is linear in the bit. -/
theorem lowBit_xor (b c : Bool) : (lowBit (b ^^ c) : BitVec w) = lowBit b ^^^ lowBit c := by
  apply BitVec.eq_of_getLsbD_eq
  intro i hi
  simp only [getLsbD_lowBit, BitVec.getLsbD_xor, hi, decide_true, Bool.true_and]
  cases decide (i = 0) with
  | false => simp
  | true => simp

/-! ## linearity -/

/-- Shifting is linear in the register. -/
theorem shift_xor (s t : BitVec w) : shift poly (s ^^^ t) = shift poly s ^^^ shift poly t := by
  apply BitVec.eq_of_getLsbD_eq
  intro i _
  simp only [shift, BitVec.getLsbD_xor]
  cases s.getLsbD 0 <;> cases t.getLsbD 0 <;>
    simp [BitVec.getLsbD_xor, BitVec.getLsbD_ushiftRight, Bool.xor_comm, Bool.xor_left_comm]

@[simp] theorem shift_zero : shift poly 0 = 0 := by
  simp [shift]

/-- The register is linear in its state and the message. -/
theorem feed_xor {bs cs : List Bool} (hlen : bs.length = cs.length) (s t : BitVec w) :
    feed poly (s ^^^ t) (List.zipWith Bool.xor bs cs) = feed poly s bs ^^^ feed poly t cs := by
  induction bs generalizing cs s t with
  | nil =>
      rw [List.length_nil] at hlen
      rw [List.length_eq_zero_iff.mp hlen.symm]
      rfl
  | cons b bs ih =>
      cases cs with
      | nil => simp at hlen
      | cons c cs =>
          have hstep : step poly (s ^^^ t) (b ^^ c) = step poly s b ^^^ step poly t c := by
            rw [step, step, step, ← shift_xor, lowBit_xor]
            congr 1
            ac_rfl
          rw [List.zipWith_cons_cons, feed_cons, hstep, ih (by simpa using hlen)]
          rfl

/-- Bits that are not set only shift the register. -/
theorem feed_eq_iterate_of_unset {bs : List Bool} (h : ∀ b ∈ bs, b = false) (s : BitVec w) :
    feed poly s bs = (shift poly)^[bs.length] s := by
  induction bs generalizing s with
  | nil => rfl
  | cons b bs ih =>
      have hb : step poly s b = shift poly s := by
        rw [step, h b List.mem_cons_self, lowBit_false]
        simp
      rw [feed_cons, hb, ih fun c hc => h c (List.mem_cons_of_mem b hc), List.length_cons,
        Function.iterate_succ_apply]

theorem iterate_shift_zero (n : Nat) : (shift poly)^[n] 0 = 0 :=
  Function.iterate_fixed (shift_zero poly) n

/-! ## bits as a word -/

/-- The word whose lowest bit is the first. -/
def word : List Bool → BitVec w
  | [] => 0
  | b :: bs => (word bs <<< 1) ^^^ lowBit b

/-- The bits of a word are those it was made of. -/
theorem getLsbD_word (bs : List Bool) (i : Nat) :
    (word bs : BitVec w).getLsbD i = (decide (i < w) && bs[i]?.getD false) := by
  induction bs generalizing i with
  | nil => simp [word]
  | cons b bs ih =>
      rw [word, BitVec.getLsbD_xor, BitVec.getLsbD_shiftLeft, getLsbD_lowBit, ih]
      cases i with
      | zero => simp
      | succ i =>
          by_cases hi : i + 1 < w
          · have hi' : i < w := by omega
            simp [hi, hi']
          · simp [hi]

/-- Up to the width of the register, bits count as a word in its state. -/
theorem feed_eq_iterate {bs : List Bool} (hlen : bs.length ≤ w) (s : BitVec w) :
    feed poly s bs = (shift poly)^[bs.length] (s ^^^ word bs) := by
  induction bs generalizing s with
  | nil => simp [word]
  | cons b bs ih =>
      rw [List.length_cons] at hlen
      -- the top bit of the later bits is clear, so that one shift takes them down
      have hdown : shift poly (word bs <<< 1) = (word bs : BitVec w) := by
        have hlow : ((word bs : BitVec w) <<< 1).getLsbD 0 = false := by
          simp
        rw [shift, hlow]
        apply BitVec.eq_of_getLsbD_eq
        intro i hi
        simp only [Bool.false_eq_true, if_false, BitVec.getLsbD_ushiftRight,
          BitVec.getLsbD_shiftLeft, getLsbD_word]
        by_cases htop : 1 + i < w
        · have hlow : i < w := by omega
          simp [htop, hlow]
        · have hget : bs[i]? = none := List.getElem?_eq_none (by omega)
          simp [htop, hget]
      have hstep : step poly s b ^^^ word bs = shift poly (s ^^^ word (b :: bs)) := by
        rw [step, word, ← hdown, ← shift_xor, hdown]
        congr 1
        ac_rfl
      rw [feed_cons, ih (by omega), hstep, List.length_cons, Function.iterate_succ_apply]

/-! ## bursts -/

variable {poly}

/-- With the highest bit set in the polynomial, a shift loses nothing. -/
theorem shift_injective (hmsb : poly.msb = true) : Function.Injective (shift poly) := by
  intro s t h
  have hw : 0 < w := by
    by_contra hzero
    have : w = 0 := by omega
    subst this
    simp [BitVec.of_length_zero] at hmsb
  rw [BitVec.msb_eq_getLsbD_last] at hmsb
  have hbit : ∀ i, (shift poly s).getLsbD i = (shift poly t).getLsbD i := fun i => by rw [h]
  have hshift : ∀ (u : BitVec w) (i : Nat),
      (shift poly u).getLsbD i = (u.getLsbD (1 + i) ^^ (u.getLsbD 0 && poly.getLsbD i)) := by
    intro u i
    rw [shift]
    cases hu : u.getLsbD 0 <;> simp
  have htop : s.getLsbD 0 = t.getLsbD 0 := by
    have hlast := hbit (w - 1)
    rw [hshift, hshift, BitVec.getLsbD_of_ge s _ (by omega), BitVec.getLsbD_of_ge t _ (by omega),
      hmsb] at hlast
    simpa using hlast
  apply BitVec.eq_of_getLsbD_eq
  intro i hi
  cases i with
  | zero => exact htop
  | succ i =>
      have hi' := hbit i
      rw [hshift, hshift, htop, Nat.add_comm] at hi'
      simpa using hi'

/-- A polynomial with its highest bit set loses nothing: only zero is shifted to zero. -/
theorem iterate_shift_eq_zero_iff (hmsb : poly.msb = true) (n : Nat) (s : BitVec w) :
    (shift poly)^[n] s = 0 ↔ s = 0 := by
  constructor
  · intro h
    rw [← iterate_shift_zero poly n] at h
    exact (shift_injective hmsb).iterate n h
  · intro h
    rw [h, iterate_shift_zero]

/-- A word is zero if it was made of zeros. -/
theorem word_eq_zero_iff {bs : List Bool} (hlen : bs.length ≤ w) :
    (word bs : BitVec w) = 0 ↔ ∀ b ∈ bs, b = false := by
  constructor
  · intro h b hb
    obtain ⟨i, hi, rfl⟩ := List.getElem_of_mem hb
    have hbit : (word bs : BitVec w).getLsbD i = false := by simp [h]
    rw [getLsbD_word, List.getElem?_eq_getElem hi] at hbit
    simpa [show i < w by omega] using hbit
  · intro h
    apply BitVec.eq_of_getLsbD_eq
    intro i _
    rw [getLsbD_word]
    by_cases hi : i < bs.length
    · rw [List.getElem?_eq_getElem hi, h _ (List.getElem_mem hi)]
      simp
    · rw [List.getElem?_eq_none (by omega)]
      simp

/-- No burst that is as long as the register at most leaves it zero. -/
theorem feed_ne_zero_of_burst (hmsb : poly.msb = true) {bs : List Bool} (hset : true ∈ bs) {a : Nat}
    (hburst : ∀ i, bs[i]? = some true → a ≤ i ∧ i < a + w) : feed poly 0 bs ≠ 0 := by
  have hbefore : ∀ b ∈ bs.take a, b = false := by
    intro b hb
    obtain ⟨i, hi⟩ := List.mem_iff_getElem?.mp hb
    rw [List.getElem?_take] at hi
    split at hi
    · cases b with
      | false => rfl
      | true => exact absurd (hburst i hi).1 (by omega)
    · simp at hi
  have hafter : ∀ b ∈ (bs.drop a).drop w, b = false := by
    intro b hb
    obtain ⟨i, hi⟩ := List.mem_iff_getElem?.mp hb
    rw [List.drop_drop, List.getElem?_drop] at hi
    cases b with
    | false => rfl
    | true => exact absurd (hburst _ hi).2 (by omega)
  have hwindow : (word ((bs.drop a).take w) : BitVec w) ≠ 0 := by
    rw [Ne, word_eq_zero_iff (List.length_take_le _ _)]
    intro hunset
    rw [← List.take_append_drop a bs, ← List.take_append_drop w (bs.drop a), List.mem_append,
      List.mem_append] at hset
    cases hset with
    | inl h => exact absurd (hbefore _ h) (by decide)
    | inr h =>
        cases h with
        | inl h => exact absurd (hunset _ h) (by decide)
        | inr h => exact absurd (hafter _ h) (by decide)
  have hsplit : bs = bs.take a ++ ((bs.drop a).take w ++ (bs.drop a).drop w) := by
    rw [List.take_append_drop, List.take_append_drop]
  rw [hsplit, feed_append, feed_append, feed_eq_iterate_of_unset poly hbefore, iterate_shift_zero,
    feed_eq_iterate poly (List.length_take_le _ _), feed_eq_iterate_of_unset poly hafter,
    Ne, iterate_shift_eq_zero_iff hmsb, iterate_shift_eq_zero_iff hmsb]
  simpa using hwindow

end Crc
