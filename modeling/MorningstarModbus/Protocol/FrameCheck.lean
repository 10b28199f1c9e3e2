import MorningstarModbus.Lib.Crc
import MorningstarModbus.Protocol.Codec

/-!
# MorningstarModbus.Protocol.FrameCheck

What the CRC of a serial frame detects (`crc16`, `append_crc` and `valid_crc` of
`protocol/codec.py`).  A frame is sent byte by byte, the least significant bit first;
the two bytes of the CRC are its last, the low one first.

* `validCrc_iff` — a frame is accepted exactly when its own CRC is zero;
* `crc_detects_bursts` — what is framed is accepted, and no accepted frame is accepted
  with a burst of errors in it.
-/

namespace MorningstarModbus

/-- The bits of a byte in the order in which they are sent. -/
def bitsOf (b : UInt8) : List Bool := (List.range 8).map b.toBitVec.getLsbD

/-- The bits of a frame in the order in which they are sent. -/
def transmitted (frame : List UInt8) : List Bool := frame.flatMap bitsOf

/-- A frame with the bits of an error pattern turned over. -/
def corrupt (frame error : List UInt8) : List UInt8 := List.zipWith (· ^^^ ·) frame error

/-- `0xA001` -/
def crcPoly : BitVec 16 := 0xA001

@[simp] theorem length_bitsOf (b : UInt8) : (bitsOf b).length = 8 := by
  simp [bitsOf]

@[simp] theorem transmitted_cons (b : UInt8) (frame : List UInt8) :
    transmitted (b :: frame) = bitsOf b ++ transmitted frame := rfl

theorem getElem?_bitsOf (b : UInt8) (i : Nat) :
    (bitsOf b)[i]?.getD false = b.toBitVec.getLsbD i := by
  by_cases hi : i < 8
  · simp [bitsOf, hi]
  · rw [BitVec.getLsbD_of_ge _ _ (by omega)]
    simp [bitsOf, hi]

/-! ## the register of `crc16` -/

/-- The source's shift is that of the polynomial. -/
theorem crcShift_eq : crcShift = Crc.shift crcPoly := by
  funext s
  have hlow : s &&& 1 = (BitVec.ofBool (s.getLsbD 0)).setWidth 16 :=
    BitVec.and_one_eq_setWidth_ofBool_getLsbD
  rw [crcShift, Crc.shift, hlow]
  cases s.getLsbD 0 <;> rfl

theorem word_bitsOf (b : UInt8) : (Crc.word (bitsOf b) : BitVec 16) = b.toBitVec.setWidth 16 := by
  apply BitVec.eq_of_getLsbD_eq
  intro i hi
  rw [Crc.getLsbD_word, getElem?_bitsOf, BitVec.getLsbD_setWidth]

/-- A byte is fed bit by bit, the lowest first. -/
theorem crcByte_eq (s : BitVec 16) (b : UInt8) :
    crcByte s b = Crc.feed crcPoly s (bitsOf b) := by
  rw [Crc.feed_eq_iterate crcPoly (by simp), length_bitsOf, word_bitsOf, ← crcShift_eq]
  rfl

/-- And so a frame, in the order of transmission. -/
theorem foldl_crcByte (s : BitVec 16) (frame : List UInt8) :
    frame.foldl crcByte s = Crc.feed crcPoly s (transmitted frame) := by
  induction frame generalizing s with
  | nil => rfl
  | cons b frame ih => rw [List.foldl_cons, ih, crcByte_eq, transmitted_cons, Crc.feed_append]

theorem crcPoly_msb : crcPoly.msb = true := by decide

/-! ## accepted frames -/

/-- The two bytes of the checksum are sent as the bits of its word. -/
theorem word_trailer (lo hi : UInt8) :
    (Crc.word (transmitted [lo, hi]) : BitVec 16) = unpackCrc [lo, hi] := by
  apply BitVec.eq_of_getLsbD_eq
  intro i hi16
  have hlo : lo.toNat < 2 ^ 8 := lo.toNat_lt
  have hword : lo.toNat + 256 * hi.toNat = 2 ^ 8 * hi.toNat + lo.toNat := by omega
  rw [Crc.getLsbD_word, unpackCrc, BitVec.getLsbD_ofNat]
  show _ = (decide (i < 16) && (lo.toNat + 256 * hi.toNat).testBit i)
  rw [hword, Nat.testBit_two_pow_mul_add _ hlo]
  have hbits : transmitted [lo, hi] = bitsOf lo ++ bitsOf hi := by
    simp [transmitted]
  rw [hbits, List.getElem?_append, length_bitsOf]
  split
  · rw [getElem?_bitsOf]
    rfl
  · rw [getElem?_bitsOf]
    rfl

/-- A frame with its trailer leaves the register zero exactly when the trailer is the CRC
of the rest. -/
theorem crc16_trailer (payload : List UInt8) (lo hi : UInt8) :
    crc16 (payload ++ [lo, hi]) = 0 ↔ crc16 payload = unpackCrc [lo, hi] := by
  have hlen : (transmitted [lo, hi]).length = 16 := rfl
  rw [crc16, crc16, List.foldl_append, foldl_crcByte _ [lo, hi],
    Crc.feed_eq_iterate crcPoly (le_of_eq hlen), Crc.iterate_shift_eq_zero_iff crcPoly_msb,
    word_trailer]
  exact BitVec.xor_eq_zero_iff

/-- A frame is accepted exactly when its own CRC is zero. -/
theorem validCrc_iff (frame : List UInt8) :
    validCrc frame = true ↔ 3 ≤ frame.length ∧ crc16 frame = 0 := by
  rw [validCrc, decide_eq_true_eq]
  refine and_congr_right fun hlen => ?_
  obtain ⟨lo, hi, htrailer⟩ := List.length_eq_two.mp
    (show (frame.drop (frame.length - 2)).length = 2 by rw [List.length_drop]; omega)
  rw [htrailer, ← crc16_trailer, ← htrailer, List.take_append_drop]

/-! ## errors -/

/-- An error of a byte is one of its bits. -/
theorem bitsOf_xor (b c : UInt8) :
    bitsOf (b ^^^ c) = List.zipWith Bool.xor (bitsOf b) (bitsOf c) := by
  simp [bitsOf, List.zipWith_map, List.zipWith_self]

/-- An error of a frame is one of what is transmitted. -/
theorem transmitted_corrupt {frame error : List UInt8} (hlen : error.length = frame.length) :
    transmitted (corrupt frame error) =
      List.zipWith Bool.xor (transmitted frame) (transmitted error) := by
  induction frame generalizing error with
  | nil => rfl
  | cons b frame ih =>
      cases error with
      | nil => simp at hlen
      | cons c error =>
          have hrest : transmitted (corrupt frame error) = _ := ih (by simpa using hlen)
          rw [corrupt, List.zipWith_cons_cons, transmitted_cons, transmitted_cons,
            transmitted_cons, List.zipWith_append (by simp), ← hrest, bitsOf_xor]
          rfl

theorem length_transmitted (frame : List UInt8) : (transmitted frame).length = 8 * frame.length := by
  induction frame with
  | nil => rfl
  | cons b frame ih =>
      rw [transmitted_cons, List.length_append, ih, length_bitsOf, List.length_cons]
      omega

/-- An error adds the CRC register that it leaves by itself. -/
theorem crc16_corrupt {frame error : List UInt8} (hlen : error.length = frame.length) :
    crc16 (corrupt frame error) =
      crc16 frame ^^^ Crc.feed crcPoly 0 (transmitted error) := by
  have hbits : (transmitted frame).length = (transmitted error).length := by
    rw [length_transmitted, length_transmitted, hlen]
  have hstart : (0xFFFF : BitVec 16) = 0xFFFF ^^^ 0 := by decide
  rw [crc16, crc16, foldl_crcByte, foldl_crcByte, transmitted_corrupt hlen,
    ← Crc.feed_xor crcPoly hbits, ← hstart]

/-- An error that changes some byte changes some bit. -/
theorem exists_set_bit {error : List UInt8} (hne : ∃ b ∈ error, b ≠ 0) :
    true ∈ transmitted error := by
  obtain ⟨b, hb, hb0⟩ := hne
  refine List.mem_flatMap.mpr ⟨b, hb, ?_⟩
  by_contra hnone
  apply hb0
  rw [← UInt8.toBitVec_inj]
  apply BitVec.eq_of_getLsbD_eq
  intro i hi
  have hbit : b.toBitVec.getLsbD i ∈ bitsOf b :=
    List.mem_map.mpr ⟨i, List.mem_range.mpr hi, rfl⟩
  cases hset : b.toBitVec.getLsbD i with
  | false => simp
  | true => exact absurd (hset ▸ hbit) hnone

/-- **The CRC of a frame**: what is framed is accepted, and an accepted frame with a burst
of errors in at most sixteen consecutive bits is rejected. -/
theorem crc_detects_bursts :
    (∀ payload : List UInt8, payload ≠ [] → validCrc (appendCrc payload) = true) ∧
      ∀ (frame error : List UInt8) (a : Nat), validCrc frame = true →
        error.length = frame.length → (∃ b ∈ error, b ≠ 0) →
          (∀ i, (transmitted error)[i]? = some true → a ≤ i ∧ i < a + 16) →
            validCrc (corrupt frame error) = false := by
  refine ⟨fun _ => validCrc_appendCrc, fun frame error a hvalid hlen hne hburst => ?_⟩
  have hzero := ((validCrc_iff frame).mp hvalid).2
  have herror : Crc.feed crcPoly 0 (transmitted error) ≠ 0 :=
    Crc.feed_ne_zero_of_burst crcPoly_msb (exists_set_bit hne) hburst
  by_contra haccepted
  rw [Bool.not_eq_false, validCrc_iff, crc16_corrupt hlen, hzero] at haccepted
  exact herror (by simpa using haccepted.2)

/-- A framed byte with two wrong bits, the last of the byte and the first of the CRC. -/
theorem crc_detects_bursts_frame :
    validCrc (appendCrc [0x11]) = true ∧
      validCrc (corrupt (appendCrc [0x11]) [0x80, 0x01, 0x00]) = false := by
  have haccepted : validCrc (appendCrc [0x11]) = true := crc_detects_bursts.1 [0x11] (by decide)
  have hwindow : ∀ i < 24, (transmitted [0x80, 0x01, 0x00])[i]? = some true →
      7 ≤ i ∧ i < 7 + 16 := by decide +kernel
  refine ⟨haccepted, crc_detects_bursts.2 _ _ 7 haccepted rfl ⟨0x80, by decide, by decide⟩ ?_⟩
  intro i hi
  have hlen : (transmitted [0x80, 0x01, 0x00]).length = 24 := length_transmitted _
  exact hwindow i (hlen ▸ (List.getElem?_eq_some_iff.mp hi).1) hi

end MorningstarModbus
