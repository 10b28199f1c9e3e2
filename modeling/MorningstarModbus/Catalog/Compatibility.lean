import MorningstarModbus.Catalog.Types
import MorningstarModbus.Lib.Loop

/-!
# MorningstarModbus.Catalog.Compatibility

Firmware versions and the items of a catalog that apply to one
(`catalog/compatibility.py`).
-/

namespace MorningstarModbus.Catalog

/-- The zeros of the decimal digits of every script (Unicode category `Nd`). -/
def decimalZeros : List Nat := [
  0x30, 0x660, 0x6F0, 0x7C0, 0x966, 0x9E6, 0xA66, 0xAE6, 0xB66, 0xBE6, 0xC66, 0xCE6, 0xD66, 0xDE6,
  0xE50, 0xED0, 0xF20, 0x1040, 0x1090, 0x17E0, 0x1810, 0x1946, 0x19D0, 0x1A80, 0x1A90, 0x1B50,
  0x1BB0, 0x1C40, 0x1C50, 0xA620, 0xA8D0, 0xA900, 0xA9D0, 0xA9F0, 0xAA50, 0xABF0, 0xFF10, 0x104A0,
  0x10D30, 0x11066, 0x110F0, 0x11136, 0x111D0, 0x112F0, 0x11450, 0x114D0, 0x11650, 0x116C0,
  0x11730, 0x118E0, 0x11950, 0x11C50, 0x11D50, 0x11DA0, 0x11F50, 0x16A60, 0x16AC0, 0x16B50,
  0x1D7CE, 0x1D7D8, 0x1D7E2, 0x1D7EC, 0x1D7F6, 0x1E140, 0x1E2F0, 0x1E4F0, 0x1E950, 0x1FBF0]

/-- A digit that `\d` matches, as `int` reads it. -/
def decimalDigit? (c : Char) : Option Nat :=
  (decimalZeros.find? fun first => first ≤ c.toNat && c.toNat < first + 10).map (c.toNat - ·)

/-- `int(…)` of a run of digits -/
def digitsValue (digits : List Char) : Nat :=
  digits.foldl (fun n c => 10 * n + (decimalDigit? c).getD 0) 0

/-- `re.findall(r"\d+", text)`, as numbers; `run` are the digits just read. -/
def findDigits (run : List Char) : List Char → List Nat
  | [] => if run = [] then [] else [digitsValue run]
  | c :: cs =>
      if (decimalDigit? c).isSome then findDigits (run ++ [c]) cs
      else if run = [] then findDigits [] cs
      else digitsValue run :: findDigits [] cs

/-- `version_tuple` of a text -/
def versionTuple (value : String) : List Nat := findDigits [] value.toList

example : versionTuple "v1.20-b3" = [1, 20, 3] := by decide +kernel

def ValueError (message : String) : PyException := ⟨"ValueError", message⟩

/-- `compare_versions` -/
def compareVersions (left right : String) : Except PyException Int :=
  let a := versionTuple left
  let b := versionTuple right
  if a = [] ∨ b = [] then
    .error (ValueError "both firmware versions must contain numeric components")
  else
    let width := max a.length b.length
    let a := a ++ List.replicate (width - a.length) 0
    let b := b ++ List.replicate (width - b.length) 0
    .ok ((if b < a then 1 else 0) - (if a < b then 1 else 0))

/-- `in_range` -/
def inRange (value : String) (gate : FirmwareGate) : Except PyException Bool :=
  if versionTuple value = [] then .ok (gate.sinceFirmware.isNone && gate.untilFirmware.isNone)
  else do
    let since ← match gate.sinceFirmware with
      | some since => compareVersions value since
      | none => .ok 0
    if since < 0 then return false
    let limit ← match gate.untilFirmware with
      | some limit => compareVersions value limit
      | none => .ok 0
    return limit ≤ 0

/-- `effective_items` -/
def effectiveItems {α : Type} (gate : α → FirmwareGate) (firmware : String) :
    List α → Except PyException (List α)
  | [] => .ok []
  | item :: items => do
      let included ← inRange firmware (gate item)
      let rest ← effectiveItems gate firmware items
      return if included then item :: rest else rest

/-- What applies to a firmware is declared, in the declared order. -/
theorem effectiveItems_sublist {α : Type} {gate : α → FirmwareGate} {firmware : String}
    {items effective : List α} (h : effectiveItems gate firmware items = .ok effective) :
    effective.Sublist items := by
  induction items generalizing effective with
  | nil =>
      cases h
      exact List.Sublist.slnil
  | cons item items ih =>
      simp only [effectiveItems, Loop.bind_eq_ok, Loop.pure_eq_ok, Except.ok.injEq] at h
      obtain ⟨included, -, rest, hrest, rfl⟩ := h
      split
      · exact (ih hrest).cons_cons item
      · exact (ih hrest).cons item

end MorningstarModbus.Catalog
