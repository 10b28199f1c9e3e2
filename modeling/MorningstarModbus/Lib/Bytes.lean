import Mathlib.Data.List.Basic

/-!
# Bytes

Byte lists as the `struct` and `bytes` functions of Python write and read them.

* `packWord` / `word` — a 16-bit word, big-endian;
* `hex` / `fromHex` — two hexadecimal digits a byte; `fromHex_hex` is the round
  trip.
-/

namespace Bytes

/-! ## words -/

/-- `struct.unpack(">H", …)` -/
def word (hi lo : UInt8) : Nat := hi.toNat * 256 + lo.toNat

/-- `struct.pack(">H", n)` for `n < 65536` -/
def packWord (n : Nat) : List UInt8 := [UInt8.ofNat (n / 256), UInt8.ofNat n]

/-- `struct.unpack(f">{count}H", …)` -/
def words : List UInt8 → List Nat
  | hi :: lo :: rest => word hi lo :: words rest
  | _ => []

/-- A packed word reads back. -/
theorem word_pack {n : Nat} (h : n < 65536) : word (UInt8.ofNat (n / 256)) (UInt8.ofNat n) = n := by
  simp only [word, UInt8.toNat_ofNat']
  omega

/-! ## hexadecimal text -/

/-- The digit of `n < 16`. -/
def hexDigit (n : Nat) : Char := if n < 10 then Char.ofNat (48 + n) else Char.ofNat (87 + n)

/-- The value of a digit, in either case. -/
def hexValue (c : Char) : Option Nat :=
  let n := c.toNat
  if 48 ≤ n ∧ n ≤ 57 then some (n - 48)
  else if 97 ≤ n ∧ n ≤ 102 then some (n - 87)
  else if 65 ≤ n ∧ n ≤ 70 then some (n - 55)
  else none

theorem hexValue_hexDigit : ∀ n < 16, hexValue (hexDigit n) = some n := by
  decide

def hexPair (b : UInt8) : List Char := [hexDigit (b.toNat / 16), hexDigit (b.toNat % 16)]

/-- `bytes.hex()` -/
def hex (bs : List UInt8) : String := String.ofList (bs.flatMap hexPair)

/-- The white space `bytes.fromhex` skips between bytes. -/
def isAsciiSpace (c : Char) : Bool := c == ' ' || (9 ≤ c.toNat && c.toNat ≤ 13)

def fromHexChars : List Char → Option (List UInt8)
  | [] => some []
  | c :: cs =>
      if isAsciiSpace c then fromHexChars cs
      else match cs with
        | [] => none
        | d :: ds => do
            let high ← hexValue c
            let low ← hexValue d
            let bytes ← fromHexChars ds
            return UInt8.ofNat (high * 16 + low) :: bytes

/-- `bytes.fromhex(text)`, which raises `ValueError` on anything else. -/
def fromHex (text : String) : Option (List UInt8) := fromHexChars text.toList

theorem hexDigit_not_space : ∀ n < 16, isAsciiSpace (hexDigit n) = false := by
  decide

/-- **Round trip.** -/
@[simp] theorem fromHex_hex (bs : List UInt8) : fromHex (hex bs) = some bs := by
  rw [fromHex, hex, String.toList_ofList]
  induction bs with
  | nil => rfl
  | cons b bs ih =>
      have hb := b.toNat_lt
      have hhigh : b.toNat / 16 < 16 := by omega
      have hlow : b.toNat % 16 < 16 := by omega
      have hvalue : b.toNat / 16 * 16 + b.toNat % 16 = b.toNat := by omega
      rw [List.flatMap_cons, hexPair, List.cons_append, List.cons_append, List.nil_append,
        fromHexChars, if_neg (by simp [hexDigit_not_space _ hhigh])]
      simp only [hexValue_hexDigit _ hhigh, hexValue_hexDigit _ hlow, ih]
      show some (UInt8.ofNat (b.toNat / 16 * 16 + b.toNat % 16) :: bs) = some (b :: bs)
      rw [hvalue, UInt8.ofNat_toNat]

end Bytes
