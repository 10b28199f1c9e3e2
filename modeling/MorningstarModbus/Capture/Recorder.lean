import MorningstarModbus.Capture.Replay
import MorningstarModbus.Intelligence.Resolver

/-!
# MorningstarModbus.Capture.Recorder

The bundle that a capture writes (`capture/recorder.py`), and the capture of a
device whose profile was detected (`_capture` of `cli/main.py`).

The files of a bundle are the data that is dumped into them.
-/

namespace MorningstarModbus

open Catalog Effects Query

/-! ## the files of a bundle -/

structure CaptureManifest where
  schemaVersion : Nat
  createdAt : String
  provenance : String
  profile : String
  family : String
  model : String
  firmware : String
  hardwareRevision : String
  endpoint : Endpoint
  transactionCount : Nat
  structuredIdentifiersIncluded : Bool
  rawTransactionsMayContainDeviceIdentifiers : Bool
  deriving DecidableEq

structure CaptureExpected where
  profile : String
  family : String
  model : String
  firmware : String
  status : IntelligenceStatus
  confidence : ℚ
  namedRegisters : List String
  deriving DecidableEq

structure CaptureBundle where
  /-- `manifest.json` -/
  manifest : CaptureManifest
  /-- `identification.json` -/
  identification : DeviceIdentification
  /-- `transactions.jsonl` -/
  transactions : List Char
  /-- `registers.json` -/
  registers : List Catalog.RegisterValue
  /-- `expected.json` -/
  expected : CaptureExpected
  deriving DecidableEq

/-- `_structured_identification` -/
def structuredIdentification (includeIdentifiers : Bool) (identification : DeviceIdentification) :
    DeviceIdentification :=
  if includeIdentifiers then identification
  else { identification with rawObjects := [], rawPduHex := "" }

/-- `name in {"serial", "serial_number"}` -/
def isSerialName (name : String) : Bool := name = "serial" || name = "serial_number"

/-- An item of `_register_payload`. -/
def registerItem (includeIdentifiers : Bool) (value : Catalog.RegisterValue) :
    Catalog.RegisterValue :=
  if !includeIdentifiers && isSerialName value.name then { value with value := .text "<redacted>" }
  else value

/-- The endpoint of the manifest. -/
def endpointPayload (includeIdentifiers : Bool) (endpoint : Endpoint) : Endpoint :=
  if includeIdentifiers then endpoint
  else { endpoint with target := "<redacted>", usbSerial := none }

/-- `write_capture_bundle` -/
def writeCaptureBundle (createdAt : String) (endpoint : Endpoint)
    (identification : DeviceIdentification) (intelligence : ResolvedIntelligence)
    (values : List Catalog.RegisterValue) (exchanges : List ModbusExchange)
    (includeIdentifiers : Bool) (provenance : String) : CaptureBundle where
  manifest := {
    schemaVersion := 1
    createdAt, provenance
    profile := intelligence.profile
    family := intelligence.family
    model := intelligence.model
    firmware := intelligence.firmware
    hardwareRevision := intelligence.hardwareRevision
    endpoint := endpointPayload includeIdentifiers endpoint
    transactionCount := exchanges.length
    structuredIdentifiersIncluded := includeIdentifiers
    rawTransactionsMayContainDeviceIdentifiers := true }
  identification := structuredIdentification includeIdentifiers identification
  transactions := writeTransactions exchanges
  registers := values.map (registerItem includeIdentifiers)
  expected := {
    profile := intelligence.profile
    family := intelligence.family
    model := intelligence.model
    firmware := intelligence.firmware
    status := intelligence.status
    confidence := intelligence.confidence
    namedRegisters := orderBy id .asc ((namedValues values).map Catalog.RegisterValue.name) }

/-! ## a capture -/

/-- What a capture of a device meets; `exchanges` are what its recorder saw. -/
structure CaptureInput where
  createdAt : String
  endpoint : Endpoint
  identification : DeviceIdentification
  device : Device
  exchanges : List ModbusExchange

/-- `_capture` up to the bundle; `spec` is the profile that was detected. -/
def capture (env : ResolverEnv) (spec : DeviceProfileSpec) (c : CaptureInput) :
    ProfileProgram (ResolvedIntelligence × List Catalog.RegisterValue) := do
  let intelligence ← resolveDeviceIntelligence env c.device spec c.identification (some c.endpoint)
  -- the poll is of a new profile
  modify fun s => { log := s.log }
  let values ← poll c.device (env.profileByName intelligence.profile) intelligence.firmware
  let intelligence ← ofResult (refreshIntelligence env intelligence values (some c.endpoint))
  return (intelligence, values)

/-- The bundle of a capture without `--include-identifiers`. -/
def CaptureInput.bundle (c : CaptureInput)
    (result : ResolvedIntelligence × List Catalog.RegisterValue) : CaptureBundle :=
  writeCaptureBundle c.createdAt c.endpoint c.identification result.1 result.2 c.exchanges false
    "physical-device-capture"

end MorningstarModbus
