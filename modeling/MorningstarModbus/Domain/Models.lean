import Mathlib.Data.Rat.Defs
import MorningstarModbus.Lib.Text

/-!
# MorningstarModbus.Domain.Models

The immutable values that discovery hands to the rest of the program:
endpoints with their `stable_key`, device identification, the resolved device
intelligence, and the discovered device that joins them.

Two library functions of the source are parameters of the model (`Env`):
`str.lower`, whose Unicode case tables are not embedded, and the truncated
SHA-256 digest; the third is the stream of `uuid4` draws.
-/

namespace MorningstarModbus

/-! ## library functions outside the repository -/

/-- What the program takes from the Python library. -/
structure Env where
  /-- `str.lower()` -/
  lower : String → String
  /-- `hashlib.sha256(text.encode()).hexdigest()[:20]` -/
  digest : String → String
  /-- `uuid4().hex` of the `n`-th draw -/
  uuid4 : Nat → String

/-! ## exceptions -/

structure PyException where
  typeName : String
  message : String
  deriving DecidableEq

/-- `f"{type(exc).__name__}: {exc}"` -/
def PyException.text (e : PyException) : String := e.typeName ++ ": " ++ e.message

/-! ## endpoints -/

inductive Transport where
  | serial
  | tcp
  deriving DecidableEq

/-- The literal the source stores for a transport. -/
def Transport.name : Transport → String
  | .serial => "serial"
  | .tcp => "tcp"

structure Endpoint where
  transport : Transport
  target : String
  unitId : Nat
  port : Option Nat := none
  baudrate : Option Nat := none
  stopBits : Option Nat := none
  usbSerial : Option String := none
  usbVid : Option Nat := none
  usbPid : Option Nat := none
  deriving DecidableEq

/-- `f"{n:04x}"`. -/
def hex4 (n : Nat) : String :=
  let digits := Nat.toDigits 16 n
  String.ofList (List.replicate (4 - digits.length) '0' ++ digits)

namespace Endpoint

/-- `f"{target}:{port or 502}"` for TCP: an absent and a zero port both read
as 502. -/
def locator (e : Endpoint) : String :=
  match e.transport with
  | .tcp =>
      let port := match e.port with
        | none | some 0 => 502
        | some p => p
      e.target ++ ":" ++ toString port
  | .serial => e.target

/-- The USB serial number as the source tests it: `None` and `""` are both
false. -/
def usb (e : Endpoint) : String := e.usbSerial.getD ""

/-- The key under which an endpoint is remembered.  A serial adapter with a
USB serial number is keyed by it, so its device path may change. -/
def stableKey (e : Endpoint) : String :=
  let unit := ":unit:" ++ toString e.unitId
  if e.transport = .serial ∧ e.usb ≠ "" then "serial:usb:" ++ e.usb ++ unit
  else match e.transport, e.usbVid, e.usbPid with
    | .serial, some vid, some pid =>
        "serial:vidpid:" ++ hex4 vid ++ ":" ++ hex4 pid ++ ":" ++ e.target ++ unit
    | transport, _, _ => transport.name ++ ":" ++ e.locator ++ unit

end Endpoint

/-! ## identification and intelligence -/

structure DeviceIdentification where
  vendorName : String := ""
  productCode : String := ""
  majorMinorRevision : String := ""
  conformityLevel : Nat := 0
  rawObjects : List (Nat × String) := []
  rawPduHex : String := ""
  deriving DecidableEq

/-- A request and its response at the transport boundary. -/
structure ModbusExchange where
  transport : Transport
  unitId : Nat
  functionCode : Nat
  address : Option Int
  count : Option Int
  requestHex : String
  responseHex : String
  requestPduHex : String
  responsePduHex : String
  errorType : String := ""
  error : String := ""
  deriving DecidableEq

structure DeviceIntelligence where
  profile : String
  family : String
  model : String := ""
  serialNumber : String := ""
  firmware : String := ""
  hardwareRevision : String := ""
  catalogRevision : String := ""
  deriving DecidableEq

structure DiscoveredDevice where
  endpoint : Endpoint
  identification : DeviceIdentification := {}
  profile : String
  intelligence : Option DeviceIntelligence := none
  deriving DecidableEq

/-- The serial number a device reports, empty without intelligence. -/
def DiscoveredDevice.serialNumber (d : DiscoveredDevice) : String :=
  match d.intelligence with
  | some i => i.serialNumber
  | none => ""

/-! ## register values -/

/-- The value of a stored register: its number, else its text. -/
inductive CellValue where
  | missing
  | number (x : ℚ)
  | text (s : String)
  deriving DecidableEq

/-! ## key shapes -/

/-- An endpoint key starts with its transport. -/
theorem Endpoint.head_stableKey (e : Endpoint) :
    e.stableKey.toList.head? = some 's' ∨ e.stableKey.toList.head? = some 't' := by
  unfold Endpoint.stableKey
  split
  · left; simp
  · split
    · left; simp
    · cases e.transport
      · left; simp [Transport.name]
      · right; simp [Transport.name]

/-- Two serial endpoints with one non-empty USB serial and one unit share
their key, whatever their device paths. -/
theorem Endpoint.stableKey_usb {e : Endpoint} (ht : e.transport = .serial) (hu : e.usb ≠ "") :
    e.stableKey = "serial:usb:" ++ e.usb ++ (":unit:" ++ toString e.unitId) := by
  rw [Endpoint.stableKey, if_pos ⟨ht, hu⟩]

end MorningstarModbus
