import Mathlib.Data.List.Infix
import MorningstarModbus.Catalog.Profile

/-!
# MorningstarModbus.Intelligence.Resolver

What is known of a device beyond its profile (`intelligence/resolver.py`, with
`models.py`, `validation.py`, `confidence.py` and `capabilities.py`): model, serial
number and firmware from its metadata, and a confidence from the evidence.
-/

namespace MorningstarModbus

open Catalog Effects Query

/-! ## models -/

structure IntelligenceEvidence where
  code : String
  message : String
  weight : ℚ
  passed : Bool := true
  deriving DecidableEq

inductive IssueSeverity where
  | info
  | warning
  | error
  deriving DecidableEq

structure ValidationIssue where
  code : String
  message : String
  severity : IssueSeverity := .warning
  deriving DecidableEq

inductive IntelligenceStatus where
  | verified
  | probable
  | familyOnly
  | newerFirmwareUnverified
  | generic
  | invalid
  deriving DecidableEq

/-- A `DeviceIntelligence` with all its fields. -/
structure ResolvedIntelligence extends DeviceIntelligence where
  confidence : ℚ := 0
  status : IntelligenceStatus := .familyOnly
  capabilities : List String := []
  network : List (String × String) := []
  evidence : List IntelligenceEvidence := []
  warnings : List ValidationIssue := []
  metadata : List (String × Scalar) := []
  deriving DecidableEq

/-- What the resolver takes from the Python library and the registry of profiles. -/
structure ResolverEnv where
  /-- `str.casefold()` -/
  casefold : String → String
  /-- `str(x)` of a float -/
  floatText : PyFloat → String
  /-- `select_spec(vendor_name, product_code)` -/
  selectSpec : String → String → DeviceProfileSpec
  /-- `PROFILE_BY_NAME.get(name, GENERIC)` -/
  profileByName : String → DeviceProfileSpec

/-! ## confidence and plausibility -/

/-- `score` -/
def score (evidence : List IntelligenceEvidence) : ℚ :=
  let positive := ((evidence.filter fun e => e.passed).map IntelligenceEvidence.weight).sum
  let negative := ((evidence.filter fun e => !e.passed).map fun e => |e.weight|).sum
  max 0 (min 1 (positive - negative))

/-- A value outside the envelope of its unit. -/
def implausible (unit : Option String) (x : ℚ) : Bool :=
  match unit with
  | some "V" => !(-1 ≤ x && x ≤ 1000)
  | some "A" => !(-1000 ≤ x && x ≤ 1000)
  | some "C" => !(-80 ≤ x && x ≤ 180)
  | some "%" => !(-1 ≤ x && x ≤ 101)
  | some "Hz" => !(0 ≤ x && x ≤ 1000)
  | _ => false

/-- The count of invalid values, and the issues. -/
abbrev Validation := Nat × List ValidationIssue

/-- A turn of the loop of `validate_values`, for a finite value. -/
def validateFinite (acc : Validation) (value : RegisterValue) (x : ℚ) : Validation :=
  let invalid := acc.1 + if implausible value.unit x then 1 else 0
  (invalid,
    if 0 < invalid ∧ acc.2.getLast?.all (fun issue => issue.code ≠ "implausible-value") then
      acc.2 ++ [{ code := "implausible-value",
                  message := value.name ++ " is outside a broad physical plausibility envelope",
                  severity := .error }]
    else acc.2)

/-- A turn of the loop of `validate_values`. -/
def validateValue (acc : Validation) (value : RegisterValue) : Validation :=
  match value.value with
  | .float (.finite x) => validateFinite acc value x
  | .int n => validateFinite acc value n
  | .float _ =>
      (acc.1 + 1, acc.2 ++ [{ code := "non-finite",
                              message := value.name ++ " decoded to a non-finite value",
                              severity := .error }])
  | _ => acc

/-- The values of registers of the catalog. -/
def namedValues (values : List RegisterValue) : List RegisterValue :=
  values.filter fun value => !isWordName value.name

/-- `validate_values` -/
def validateValues (values : List RegisterValue) :
    List IntelligenceEvidence × List ValidationIssue :=
  let named := namedValues values
  let (invalid, issues) := named.foldl validateValue (0, [])
  let decoded : List IntelligenceEvidence :=
    if named = [] then []
    else [{ code := "named-registers", message := "named catalog registers decoded",
            weight := 8 / 100 }]
  let plausibility : List IntelligenceEvidence :=
    if 0 < invalid then
      [{ code := "telemetry-plausibility",
         message := toString invalid ++ " decoded value(s) failed plausibility checks",
         weight := 30 / 100, passed := false }]
    else if named = [] then []
    else [{ code := "telemetry-plausibility", message := "decoded values are plausible",
            weight := 12 / 100 }]
  (decoded ++ plausibility, issues)

/-- `negotiate_capabilities` -/
def negotiateCapabilities (spec : DeviceProfileSpec) (endpoint : Option Endpoint)
    (values : List RegisterValue) : List String :=
  let names := values.map RegisterValue.name
  let transport := endpoint.toList.map fun e => if e.transport = .tcp then "modbus_tcp" else "rtu"
  let observed :=
    (if "battery_soc" ∈ names ∨ "soc" ∈ names then ["battery_soc"] else []) ++
    (if "load_state" ∈ names then ["load_control"] else []) ++
    (if names.any (fun n => "generator_".toList.isPrefixOf n.toList) then ["generator_control"]
      else []) ++
    (if "rts_temp" ∈ names then ["remote_temperature_sensor"] else []) ++
    (if "battery_sense_voltage" ∈ names then ["battery_voltage_sense"] else [])
  orderBy id .asc (Table.distinct (spec.capabilities ++ transport ++ observed))

/-! ## resolution -/

/-- `_metadata_dict` -/
def metadataDict (values : List RegisterValue) : List (String × Scalar) :=
  (namedValues values).foldl (fun metadata value =>
    Table.upsert Prod.fst (fun _ new => new) (value.name, value.value) metadata) []

/-- `str(value)` -/
def scalarText (env : ResolverEnv) : Scalar → String
  | .null => "None"
  | .int n => toString n
  | .float x => env.floatText x
  | .text s => s

/-- `_first` -/
def firstOf (env : ResolverEnv) (metadata : List (String × Scalar)) (names : List String) :
    String :=
  let found := names.findSome? fun name =>
    (metadata.lookup name).filter fun value =>
      value ≠ .null ∧ value ≠ .text "" ∧ value ≠ .text "NONE"
  (found.map (scalarText env)).getD ""

/-- A firmware newer than the catalog was verified with. -/
def isNewer (spec : DeviceProfileSpec) (firmware : String) : Except PyException Bool :=
  match spec.firmwareVerifiedMax.filter (· ≠ "") with
  | none => .ok false
  | some limit =>
      if versionTuple firmware = [] then .ok false
      else (compareVersions firmware limit).map (0 < ·)

/-- `_status` -/
def intelligenceStatus (spec : DeviceProfileSpec) (confidence : ℚ) (firmware : String)
    (warnings : List ValidationIssue) : Except PyException IntelligenceStatus :=
  if spec.name = "generic" then .ok .generic
  else if warnings.any fun issue => issue.severity = .error then .ok .invalid
  else do
    if ← isNewer spec firmware then return .newerFirmwareUnverified
    if 85 / 100 ≤ confidence then return .verified
    if 60 / 100 ≤ confidence then return .probable
    return .familyOnly

/-- The metadata of a profile, with the warning where it cannot be read. -/
def identityMetadata (device : Device) (spec : DeviceProfileSpec) :
    ProfileProgram (List RegisterValue × List ValidationIssue) :=
  if spec.name = "generic" then pure ([], [])
  else tryCatch (do return (← readMetadata device spec, [])) fun e =>
    pure ([], [{ code := "metadata-unavailable",
                 message := "optional identity metadata could not be read: " ++ e.typeName,
                 severity := .info }])

/-- What is known before the metadata is read. -/
def identityEvidence (env : ResolverEnv) (spec : DeviceProfileSpec)
    (identity : DeviceIdentification) : List IntelligenceEvidence :=
  (if ("morningstar".toList <:+: (env.casefold identity.vendorName).toList) then
    [{ code := "vendor", message := "Morningstar vendor identity matched", weight := 28 / 100 }]
    else []) ++
  if spec.name = "generic" then []
  else if (env.selectSpec identity.vendorName identity.productCode).name = spec.name then
    [{ code := "product-code", message := "product code matched catalog aliases",
       weight := 32 / 100 }]
  else [{ code := "fingerprint", message := "read-only register fingerprint matched",
          weight := 22 / 100 }]

/-- `text or other` -/
def orElse (text other : String) : String := if text = "" then other else text

/-- The evidence of `resolve_device_intelligence`. -/
def resolutionEvidence (env : ResolverEnv) (spec : DeviceProfileSpec)
    (identity : DeviceIdentification) (metadataValues : List RegisterValue)
    (firmware serial : String) : List IntelligenceEvidence :=
  identityEvidence env spec identity ++
  (if metadataValues = [] then []
    else [{ code := "metadata", message := "stable metadata registers decoded",
            weight := 18 / 100 }]) ++
  (if firmware = "" then []
    else [{ code := "firmware", message := "firmware revision resolved", weight := 8 / 100 }]) ++
  (if serial = "" then []
    else [{ code := "serial", message := "serial number resolved", weight := 6 / 100 }])

/-- `resolve_device_intelligence`, from the metadata; `spec` is what `detect_profile` found. -/
def intelligenceOf (env : ResolverEnv) (spec : DeviceProfileSpec)
    (identity : DeviceIdentification) (endpoint : Option Endpoint)
    (metadataValues : List RegisterValue) (unread : List ValidationIssue) :
    Except PyException ResolvedIntelligence := do
  let metadata := metadataDict metadataValues
  let firmware := orElse (firstOf env metadata ["firmware_version", "firmware", "software_version"])
    identity.majorMinorRevision
  let hardware := firstOf env metadata ["hardware_version", "hardware_revision", "fpga_version"]
  let model := orElse (firstOf env metadata ["model", "model_name", "model_flag"])
    identity.productCode
  let serial := firstOf env metadata ["serial_number", "serial"]
  let evidence := resolutionEvidence env spec identity metadataValues firmware serial
  let confidence := score evidence
  let warnings := unread ++
    if ← isNewer spec firmware then
      [{ code := "newer-firmware",
         message := "device firmware " ++ firmware ++ " is newer than verified catalog limit " ++
           spec.firmwareVerifiedMax.getD "" }]
    else []
  let status ← intelligenceStatus spec confidence firmware warnings
  return {
    profile := spec.name, family := spec.family, model, serialNumber := serial, firmware,
    hardwareRevision := hardware
    catalogRevision := orElse spec.catalogRevision spec.sourceId
    confidence, status
    capabilities := negotiateCapabilities spec endpoint metadataValues
    network := spec.network, evidence, warnings
    metadata := orderBy Prod.fst .asc metadata }

/-- `resolve_device_intelligence` -/
def resolveDeviceIntelligence (env : ResolverEnv) (device : Device) (spec : DeviceProfileSpec)
    (identity : DeviceIdentification) (endpoint : Option Endpoint) :
    ProfileProgram ResolvedIntelligence := do
  let (metadataValues, unread) ← identityMetadata device spec
  ofResult (intelligenceOf env spec identity endpoint metadataValues unread)

/-- The evidence after a poll: what was weighed of the last one is weighed anew. -/
def refreshedEvidence (intelligence : ResolvedIntelligence) (values : List RegisterValue) :
    List IntelligenceEvidence :=
  (intelligence.evidence.filter fun e =>
    e.code ≠ "named-registers" ∧ e.code ≠ "telemetry-plausibility") ++ (validateValues values).1

/-- The warnings after a poll. -/
def refreshedWarnings (intelligence : ResolvedIntelligence) (values : List RegisterValue) :
    List ValidationIssue :=
  (intelligence.warnings.filter fun issue =>
    issue.code ≠ "non-finite" ∧ issue.code ≠ "implausible-value") ++ (validateValues values).2

/-- `refresh_intelligence` -/
def refreshIntelligence (env : ResolverEnv) (intelligence : ResolvedIntelligence)
    (values : List RegisterValue) (endpoint : Option Endpoint) :
    Except PyException ResolvedIntelligence := do
  let spec := env.profileByName intelligence.profile
  let evidence := refreshedEvidence intelligence values
  let confidence := score evidence
  let warnings := refreshedWarnings intelligence values
  let status ← intelligenceStatus spec confidence intelligence.firmware warnings
  return { intelligence with
    confidence, status, capabilities := negotiateCapabilities spec endpoint values, evidence,
    warnings }

end MorningstarModbus
