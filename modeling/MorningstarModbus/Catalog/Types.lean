import MorningstarModbus.Domain.Models
import MorningstarModbus.Lib.PyFloat

/-!
# MorningstarModbus.Catalog.Types

Declarative register catalogs (`catalog/types.py`) and the values a profile reads
(`RegisterValue` of `domain/models.py`).
-/

namespace MorningstarModbus.Catalog

inductive RegisterFunction where
  | holding
  | input
  deriving DecidableEq

def RegisterFunction.name : RegisterFunction → String
  | .holding => "holding"
  | .input => "input"

inductive RegisterCategory where
  | telemetry
  | state
  | fault
  | alarm
  | metadata
  | network
  | configuration
  deriving DecidableEq

/-- The decoders, as they are named in a catalog; `u32_factor:0.1` is `u32Factor (1 / 10)`. -/
inductive Decoder where
  | raw
  | s16
  | f16
  | f32
  | bcd
  | bytePairVersion
  | u32
  | s32
  | u32Factor (factor : ℚ)
  | s32Factor (factor : ℚ)
  | asciiLoHi
  | asciiHiLo
  | bitfieldWords
  | f16Percent
  | factor (factor : ℚ)
  | ufactor (factor : ℚ)
  | divide (denominator : ℚ)
  | udivide (denominator : ℚ)
  | percent (denominator : ℚ)
  | tristarVoltage
  | tristarCurrent
  | tristarPower
  | tristarRtsTemp
  | ts600 (kind : String)
  | suresineClassicCurrent
  | unknown (name : String)
  deriving DecidableEq

/-- The firmware range of an item of a catalog. -/
structure FirmwareGate where
  sinceFirmware : Option String := none
  untilFirmware : Option String := none
  deriving DecidableEq

structure RegisterBlock extends FirmwareGate where
  address : Nat
  count : Nat
  function : RegisterFunction := .holding
  category : RegisterCategory := .telemetry
  optional : Bool := false
  cache : Bool := false
  deriving DecidableEq

structure RegisterSpec extends FirmwareGate where
  name : String
  address : Nat
  function : RegisterFunction := .holding
  words : Nat := 1
  decoder : Decoder := .raw
  unit : Option String := none
  category : RegisterCategory := .telemetry
  enum : List (Int × String) := []
  bits : List (Nat × String) := []
  deriving DecidableEq

structure DeviceProfileSpec where
  name : String
  family : String
  sourceId : String := ""
  blocks : List RegisterBlock := []
  registers : List RegisterSpec := []
  capabilities : List String := []
  network : List (String × String) := []
  catalogRevision : String := ""
  firmwareVerifiedMax : Option String := none
  deriving DecidableEq

/-! ## values -/

inductive Scalar where
  | null
  | int (n : Int)
  | float (x : PyFloat)
  | text (s : String)
  deriving DecidableEq

structure RegisterValue where
  name : String
  address : Nat
  function : RegisterFunction
  raw : List Nat
  value : Scalar
  unit : Option String := none
  deriving DecidableEq

/-- `f"{function}_0x{address:04X}"`, the name of a word of the device. -/
def wordName (function : RegisterFunction) (address : Nat) : String :=
  let digits := (Nat.toDigits 16 address).map Char.toUpper
  function.name ++ "_0x" ++ String.ofList (List.replicate (4 - digits.length) '0' ++ digits)

example : wordName .holding 0xE0C0 = "holding_0xE0C0" := by decide +kernel

/-- `name.startswith(("holding_0x", "input_0x"))` -/
def isWordName (name : String) : Bool :=
  "holding_0x".toList.isPrefixOf name.toList || "input_0x".toList.isPrefixOf name.toList

/-- The name a raw word gets is one of a word. -/
theorem isWordName_wordName (function : RegisterFunction) (address : Nat) :
    isWordName (wordName function address) = true := by
  obtain ⟨digits, hdigits⟩ : ∃ digits,
      (wordName function address).toList = (function.name ++ "_0x").toList ++ digits :=
    ⟨_, String.toList_append⟩
  rw [isWordName, Bool.or_eq_true, hdigits]
  cases function with
  | holding => exact .inl (List.isPrefixOf_iff_prefix.mpr (List.prefix_append _ _))
  | input => exact .inr (List.isPrefixOf_iff_prefix.mpr (List.prefix_append _ _))

end MorningstarModbus.Catalog
