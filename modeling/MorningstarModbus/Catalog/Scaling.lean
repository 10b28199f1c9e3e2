import MorningstarModbus.Catalog.Compatibility
import MorningstarModbus.Lib.Decimal

/-!
# MorningstarModbus.Catalog.Scaling

Register decoding (`catalog/scaling.py`), the values of registers with an `enum` or
with `bits` (`catalog/profile.py`), and the derived telemetry
(`catalog/derived.py`).

* `scaleAddresses` — the other words of the device that a decoder looks at.
-/

namespace MorningstarModbus.Catalog

/-- The words of one function, by their addresses. -/
abbrev WordContext := Nat → Option Nat

/-! ## decoders -/

def signed16 (word : Nat) : Int :=
  let value := word % 65536
  if value < 32768 then value else value - 65536

def word32 (high low : Nat) : Nat := high % 65536 * 65536 + low % 65536

def signed32 (high low : Nat) : Int :=
  let value := word32 high low
  if value < 2147483648 then value else value - 4294967296

def fixedPointScale (high low : Nat) : ℚ := (high % 65536 : Nat) + (low % 65536 : Nat) / 65536

/-- `bcd_integer`: the word itself where a digit is above nine. -/
def bcdInteger (word : Nat) : Nat :=
  let digits := [word / 4096 % 16, word / 256 % 16, word / 16 % 16, word % 16]
  if digits.any (9 < ·) then word else digits.foldl (fun n d => 10 * n + d) 0

def bytePairVersion (word : Nat) : String :=
  toString (word / 256 % 256) ++ "." ++ toString (word % 256)

/-- `payload.rstrip(b"\x00\xff ").decode("ascii", errors="replace").strip()` -/
def asciiText (payload : List Nat) : String :=
  let kept := payload.rdropWhile fun b => b = 0 || b = 255 || b = 32
  Text.strip (String.ofList (kept.map fun b =>
    if b < 128 then Char.ofNat b else Char.ofNat 0xFFFD))

def asciiLowHigh (words : List Nat) : String :=
  asciiText (words.flatMap fun w => [w % 256, w / 256 % 256])

def asciiHighLow (words : List Nat) : String :=
  asciiText (words.flatMap fun w => [w / 256 % 256, w % 256])

def littleWordInteger : List Nat → Nat
  | [] => 0
  | w :: ws => w % 65536 + 65536 * littleWordInteger ws

/-- `_context_word` -/
def contextWord (context : WordContext) (address : Nat) : Nat := (context address).getD 0

/-- The scale of a TriStar voltage. -/
def voltageScale (context : WordContext) : ℚ :=
  fixedPointScale (contextWord context 0x0000) (contextWord context 0x0001)

/-- The scale of a TriStar current. -/
def currentScale (context : WordContext) : ℚ :=
  fixedPointScale (contextWord context 0x0002) (contextWord context 0x0003)

/-- A division of floats. -/
def divided (x denominator : ℚ) : Except PyException Scalar :=
  if denominator = 0 then .error ⟨"ZeroDivisionError", "float division by zero"⟩
  else .ok (.float (.finite (x / denominator)))

/-- Decoders of two words. -/
def twoWords (name : String) (words : List Nat) (decode : Nat → Nat → Scalar) :
    Except PyException Scalar :=
  match words with
  | [high, low] => .ok (decode high low)
  | _ => .error (ValueError (name ++ " decoder requires two words"))

/-- `decode_value` -/
def decodeValue (decoder : Decoder) (words : List Nat) (context : WordContext) :
    Except PyException Scalar :=
  match words with
  | [] => .error (ValueError "cannot decode an empty register field")
  | raw :: _ =>
    let scaled (scale : ℚ) : Except PyException Scalar :=
      .ok (.float (.finite (signed16 raw * scale / 32768)))
    match decoder with
    | .raw => .ok (.int raw)
    | .s16 => .ok (.int (signed16 raw))
    | .f16 => .ok (.float (.float16 raw))
    | .f32 =>
        twoWords "float32" words fun high low => .float (.float32 (high % 65536) (low % 65536))
    | .bcd => .ok (.int (bcdInteger raw))
    | .bytePairVersion => .ok (.text (bytePairVersion raw))
    | .u32 => twoWords "u32" words fun high low => .int (word32 high low)
    | .s32 => twoWords "signed_32" words fun high low => .int (signed32 high low)
    | .u32Factor factor =>
        twoWords "u32_factor" words fun high low => .float (.finite (word32 high low * factor))
    | .s32Factor factor =>
        twoWords "signed_32" words fun high low => .float (.finite (signed32 high low * factor))
    | .asciiLoHi => .ok (.text (asciiLowHigh words))
    | .asciiHiLo => .ok (.text (asciiHighLow words))
    | .bitfieldWords => .ok (.int (littleWordInteger words))
    | .f16Percent => .ok (.float ((PyFloat.float16 raw).mul (.finite 100)))
    | .factor factor => .ok (.float (.finite (signed16 raw * factor)))
    | .ufactor factor => .ok (.float (.finite ((raw % 65536 : Nat) * factor)))
    | .divide denominator => divided (signed16 raw) denominator
    | .udivide denominator => divided (raw % 65536 : Nat) denominator
    | .percent denominator => divided ((raw % 65536 : Nat) * 100) denominator
    | .tristarVoltage => scaled (voltageScale context)
    | .tristarCurrent => scaled (currentScale context)
    | .tristarPower =>
        .ok (.float (.finite
          ((raw % 65536 : Nat) * voltageScale context * currentScale context / 131072)))
    | .tristarRtsTemp =>
        .ok (if raw % 65536 = 0x0080 then .text "DISCONNECTED" else .int (signed16 raw))
    | .ts600 kind =>
        if bcdInteger (contextWord context 0x0004) ≥ 19 then .ok (.float (.float16 raw))
        else if kind = "voltage" then scaled (voltageScale context)
        else if kind = "current" then scaled (currentScale context)
        else .ok (.int raw)
    | .suresineClassicCurrent =>
        scaled (if contextWord context 0x000D ≥ 180 then 64 / 10 else 17)
    | .unknown name => .error (ValueError ("unknown register decoder: " ++ name))

/-- The addresses of the context that `decode_value` looks at. -/
def scaleAddresses : Decoder → List Nat
  | .tristarVoltage => [0x0000, 0x0001]
  | .tristarCurrent => [0x0002, 0x0003]
  | .tristarPower => [0x0000, 0x0001, 0x0002, 0x0003]
  | .ts600 _ => [0x0004, 0x0000, 0x0001, 0x0002, 0x0003]
  | .suresineClassicCurrent => [0x000D]
  | _ => []

/-- A decoder looks at no other context than its scale words. -/
theorem decodeValue_congr {decoder : Decoder} {words : List Nat} {context context' : WordContext}
    (h : ∀ a ∈ scaleAddresses decoder, context a = context' a) :
    decodeValue decoder words context = decodeValue decoder words context' := by
  cases decoder <;>
    simp_all [decodeValue, scaleAddresses, voltageScale, currentScale, contextWord]

/-- The text of an integer that is named by an `enum` or made of `bits`. -/
def labelled (register : RegisterSpec) : Scalar → Scalar
  | .int n =>
      if register.enum ≠ [] then
        .text ((register.enum.reverse.lookup n).getD ("UNKNOWN_" ++ toString n))
      else if register.bits ≠ [] then
        let active := register.bits.filter fun bit => n.shiftRight bit.1 % 2 = 1
        .text (if active = [] then "NONE" else ",".intercalate (active.map Prod.snd))
      else .int n
  | value => value

/-- `_decode_register` -/
def decodeRegister (register : RegisterSpec) (raw : List Nat) (context : WordContext) :
    Except PyException Scalar := do
  let value ← decodeValue register.decoder raw context
  return labelled register value

/-- The same of the decoder of a register. -/
theorem decodeRegister_congr {register : RegisterSpec} {raw : List Nat}
    {context context' : WordContext}
    (h : ∀ a ∈ scaleAddresses register.decoder, context a = context' a) :
    decodeRegister register raw context = decodeRegister register raw context' := by
  rw [decodeRegister, decodeRegister, decodeValue_congr h]

/-! ## derived telemetry -/

/-- `_numeric` -/
def numericValue (value : Option RegisterValue) : Option PyFloat :=
  let candidate : Option PyFloat := match value.map RegisterValue.value with
    | some (.int n) => some (.ofInt n)
    | some (.float x) => some x
    | _ => none
  candidate.filter fun x => PyFloat.le (.finite 0) x

/-- The value with a name; of several the last. -/
def valueNamed (name : String) (values : List RegisterValue) : Option RegisterValue :=
  values.reverse.find? fun value => value.name = name

/-- `_battery_side_power` -/
def batterySidePower (values : List RegisterValue) : Option PyFloat × String :=
  match numericValue (valueNamed "output_power" values) with
  | some outputPower => (some outputPower, "controller_output_power")
  | none =>
    match numericValue (valueNamed "battery_voltage" values),
        numericValue (valueNamed "battery_charge_current" values) with
    | some batteryVoltage, some chargeCurrent =>
        (some (batteryVoltage.mul chargeCurrent), "battery_voltage_x_charge_current")
    | _, _ => (none, "unavailable")

/-- `_reported_input_is_suspect` -/
def reportedInputIsSuspect (reported : PyFloat) (outputReference : Option PyFloat) : Bool :=
  match outputReference with
  | none => false
  | some output =>
    if output.lt (.finite 25) then (PyFloat.finite 250).lt reported
    else
      ((output.mul (.finite 2)).max (output.add (.finite 250))).lt reported ||
        reported.lt (output.mul (.finite (1 / 2)))

/-- `f"{x:.2f}"` -/
def fixed2 : PyFloat → String
  | .finite x => Decimal.fixed 2 x
  | .inf negative => if negative then "-inf" else "inf"
  | .nan => "nan"

/-- `derive_register_values` -/
def deriveRegisterValues (profileName : String) (namedValues : List RegisterValue) :
    List RegisterValue :=
  if profileName ≠ "tristar_mppt" then []
  else
    match valueNamed "input_power_reported" namedValues,
        numericValue (valueNamed "input_power_reported" namedValues) with
    | some register, some reported =>
        let (outputReference, outputSource) := batterySidePower namedValues
        let (selected, source, quality, note) :=
          match outputReference, reportedInputIsSuspect reported outputReference with
          | some output, true =>
              (output, "charge_output_proxy", "estimated_from_output",
                "controller-reported input power " ++ fixed2 reported ++
                  " W is inconsistent with battery-side power " ++ fixed2 output ++ " W (" ++
                  outputSource ++
                  "); using the battery-side value as a conservative operational proxy")
          | _, _ =>
              (reported, "controller_reported", "reported_unverified",
                "Morningstar reports this input-power estimate from a non-precision " ++
                  "array-current measurement; use input_power_reported for the unmodified " ++
                  "controller value")
        let value (name : String) (value : Scalar) : RegisterValue :=
          { name, address := 0x003B, function := .holding, raw := register.raw, value }
        [{ value "input_power" (.float selected) with unit := some "W" },
         value "input_power_source" (.text source), value "input_power_quality" (.text quality),
         value "input_power_note" (.text note)]
    | _, _ => []

end MorningstarModbus.Catalog
