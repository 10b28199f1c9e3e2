import MorningstarModbus.Lib.Decimal
import MorningstarModbus.Domain.Models
import MorningstarModbus.Persistence.Incidents

/-!
# MorningstarModbus.Intelligence.Incidents

Site intelligence (`intelligence/incidents.py`): the detectors, each with the
evaluation key it reports, and the scan that reconciles their findings.

What a scan reads from the history of a controller (its newest sample, the
polling summary, the charge cycle, the coverage) and from the baseline of the
site are the inputs of the detectors.  Floats are rationals.
-/

namespace MorningstarModbus

/-! ## policy and inputs -/

structure IncidentPolicy where
  senseWarningV : ℚ := 1 / 4
  senseCriticalV : ℚ := 1 / 2
  minimumEfficiencyInputW : ℚ := 100
  efficiencyWarning : ℚ := 4 / 5
  efficiencyCritical : ℚ := 3 / 5
  pollingMinSamples : Nat := 20
  pollingWarningSuccessRate : ℚ := 19 / 20
  pollingCriticalSuccessRate : ℚ := 4 / 5
  pollingWarningDeadlineMissRate : ℚ := 1 / 10
  chargeCycleAbsorptionEntriesWarning : Nat := 6
  chargeCycleAbsorptionEntriesCritical : Nat := 10
  productionMinExpectedW : ℚ := 100
  productionWarningFraction : ℚ := 3 / 5
  productionCriticalFraction : ℚ := 1 / 4
  coverageWarningPercent : ℚ := 80

/-- A register of the newest sample. -/
structure RegisterCell where
  registerName : String
  value : CellValue
  deriving DecidableEq

/-- The fields of `polling_summary` that are read; absent rates read as zero. -/
structure PollingSummary where
  samples : Nat
  successRate : ℚ
  deadlineMissRate : ℚ

/-- The fields of `charge_cycle_summary` that are read. -/
structure ChargeCycle where
  observedSamples : Nat
  absorptionEntries : Nat
  stageSequence : List String
  transitionCount : Nat

/-- The fields of `coverage` that are read. -/
structure CoverageEvidence where
  dayCount : Nat
  coveragePercent : Option ℚ
  coveredDays : Nat
  recoveredDays : Nat
  missingDays : Nat

/-- What a scan reads about one controller.  A summary that raises is absent. -/
structure ControllerEvidence where
  controllerUid : String
  status : Option String
  sample : Option (List RegisterCell)
  polling : Option PollingSummary
  cycle : ChargeCycle
  coverage : Option CoverageEvidence

/-- What a scan reads about the site. -/
structure SolarBaseline where
  ready : Bool
  currentValue : Option ℚ
  expectedLow : Option ℚ
  expectedMedian : Option ℚ
  expectedHigh : Option ℚ
  comparableDays : Nat

/-- The numbers and texts an evidence item shows. -/
def EvidenceValue.ofCell : CellValue → EvidenceValue
  | .missing => .null
  | .number x => .number x
  | .text s => .text s

/-- A detector's verdict: a finding, and the key it evaluated. -/
abbrev Verdict := Option Finding × Option String

/-! ## reading a sample -/

/-- `_register`: the first of the names that the sample has. -/
def register (sample : List RegisterCell) (names : List String) : Option RegisterCell :=
  names.findSome? fun name => (sample.filter fun c => c.registerName = name).getLast?

/-- `_register_number` -/
def registerNumber (sample : List RegisterCell) (names : List String) : Option ℚ :=
  match register sample names with
  | some { value := .number x, .. } => some x
  | _ => none

/-- `_state_clear` -/
def stateClear (env : Env) : CellValue → Bool
  | .missing => true
  | .number x => x = 0
  | .text s =>
      env.lower (Text.strip s) ∈ ["", "0", "0.0", "[]", "{}", "none", "clear", "normal", "ok"]

/-! ## detectors -/

/-- Every key is a detector's name and the identifier it looks at. -/
def incidentKey (detector identifier : String) : String := detector ++ "|" ++ identifier

section Detectors

variable (env : Env) (policy : IncidentPolicy) (uid : String)

/-- `_offline_finding` -/
def offlineFinding (status : Option String) : Verdict :=
  let key := incidentKey "controller_offline" uid
  let text := env.lower (match status with
    | none | some "" => "unknown"
    | some s => s)
  if text = "online" then (none, some key)
  else (some { detector := "controller_offline", evaluationKey := key, fingerprint := key,
               category := .communications, severity := .warning, confidence := .high,
               title := "Controller is offline"
               summary := "The physical controller is not currently reporting as online."
               controllerUid := some uid
               evidence := [{ code := "controller_status"
                              message := "Physical-controller inventory status."
                              value := .text text, source := "controller-inventory" }] },
        some key)

/-- `_sense_finding` -/
def senseFinding (sample : List RegisterCell) : Verdict :=
  match registerNumber sample ["battery_sense_voltage", "battery_remote_sense_voltage"],
    registerNumber sample ["battery_terminal_voltage", "battery_voltage"] with
  | some sense, some terminal =>
      let key := incidentKey "battery_sense_divergence" uid
      let delta := |terminal - sense|
      if delta < policy.senseWarningV then (none, some key)
      else (some { detector := "battery_sense_divergence", evaluationKey := key, fingerprint := key,
                   category := .battery
                   severity := if policy.senseCriticalV ≤ delta then .critical else .warning
                   confidence := .high
                   title := "Battery terminal and sense voltage disagree"
                   summary := "The controller terminal voltage and remote-sense voltage differ by "
                     ++ Decimal.fixed 2 delta ++ " V."
                   controllerUid := some uid, observedValue := some delta, expectedLow := some 0
                   expectedHigh := some policy.senseWarningV, unit := some "V"
                   evidence := [
                     { code := "terminal_voltage", message := "Controller terminal voltage."
                       value := .number terminal, unit := some "V" },
                     { code := "sense_voltage", message := "Remote battery sense voltage."
                       value := .number sense, unit := some "V" }] },
            some key)
  | _, _ => (none, none)

/-- `_efficiency_finding` -/
def efficiencyFinding (sample : List RegisterCell) : Verdict :=
  match registerNumber sample ["input_power", "array_power", "pv_power", "input_power_reported"],
    registerNumber sample ["output_power", "charge_power", "battery_charge_power"] with
  | some input, some output =>
      if input < policy.minimumEfficiencyInputW then (none, none)
      else
        let key := incidentKey "controller_efficiency" uid
        let efficiency := if 0 < input then output / input else 0
        if policy.efficiencyWarning ≤ efficiency then (none, some key)
        else (some { detector := "controller_efficiency", evaluationKey := key, fingerprint := key,
                     category := .production
                     severity := if efficiency < policy.efficiencyCritical then .critical
                       else .warning
                     confidence := .medium
                     title := "Controller conversion efficiency is unusually low"
                     summary := "Source-backed input and output power imply a conversion ratio of "
                       ++ Decimal.fixed 1 (efficiency * 100) ++ "%."
                     controllerUid := some uid, observedValue := some (efficiency * 100)
                     expectedLow := some (policy.efficiencyWarning * 100)
                     expectedHigh := some 100, unit := some "%"
                     evidence := [
                       { code := "input_power", message := "Controller input power."
                         value := .number input, unit := some "W" },
                       { code := "output_power", message := "Controller charging output power."
                         value := .number output, unit := some "W" },
                       { code := "interpretation_boundary"
                         message :=
                           "Low ratio is an observation, not a hardware-failure diagnosis."
                         source := "policy" }] },
              some key)
  | _, _ => (none, none)

/-- One turn of the loop of `_status_findings`. -/
def statusFinding (detector : String) (names : List String) (severity : Severity) (title : String)
    (sample : List RegisterCell) : Verdict :=
  match register sample names with
  | none => (none, none)
  | some item =>
      let key := incidentKey detector uid
      if stateClear env item.value then (none, some key)
      else (some { detector, evaluationKey := key, fingerprint := key, category := .communications,
                   severity, confidence := .high, title
                   summary :=
                     "A source-backed controller status register reports a non-clear state."
                   controllerUid := some uid
                   evidence := [
                     { code := if item.registerName = "" then detector else item.registerName
                       message := "Raw controller-reported state."
                       value := .ofCell item.value, source := "controller-telemetry" }] },
            some key)

def faultFinding (sample : List RegisterCell) : Verdict :=
  statusFinding env uid "controller_fault" ["faults", "fault_state"] .critical
    "Controller fault is active" sample

def alarmFinding (sample : List RegisterCell) : Verdict :=
  statusFinding env uid "controller_alarm" ["alarms", "alarm_state"] .warning
    "Controller alarm is active" sample

/-- `_polling_finding` -/
def pollingFinding (summary : Option PollingSummary) : Verdict :=
  match summary with
  | none => (none, none)
  | some s =>
      if s.samples < policy.pollingMinSamples then (none, none)
      else
        let key := incidentKey "polling_degradation" uid
        if ¬ (s.successRate < policy.pollingWarningSuccessRate ∨
            policy.pollingWarningDeadlineMissRate < s.deadlineMissRate) then (none, some key)
        else (some { detector := "polling_degradation", evaluationKey := key, fingerprint := key,
                     category := .communications
                     severity := if s.successRate < policy.pollingCriticalSuccessRate then .critical
                       else .warning
                     confidence := .high, title := "Modbus polling reliability degraded"
                     summary := "Recent poll success is " ++ Decimal.fixed 1 (s.successRate * 100)
                       ++ "% with " ++ Decimal.fixed 1 (s.deadlineMissRate * 100)
                       ++ "% deadline misses."
                     controllerUid := some uid, observedValue := some (s.successRate * 100)
                     expectedLow := some (policy.pollingWarningSuccessRate * 100)
                     expectedHigh := some 100, unit := some "%"
                     evidence := [
                       { code := "poll_samples"
                         message := "Recent persisted polling-performance samples."
                         value := .integer s.samples },
                       { code := "success_rate", message := "Successful logical polls."
                         value := .number (s.successRate * 100), unit := some "%" },
                       { code := "deadline_miss_rate", message := "Poll deadline misses."
                         value := .number (s.deadlineMissRate * 100), unit := some "%" }] },
              some key)

/-- `_charge_cycle_finding` -/
def chargeCycleFinding (cycle : ChargeCycle) : Verdict :=
  if cycle.observedSamples < 3 then (none, none)
  else
    let key := incidentKey "charge_stage_cycling" uid
    let entries := cycle.absorptionEntries
    if entries < policy.chargeCycleAbsorptionEntriesWarning then (none, some key)
    else (some { detector := "charge_stage_cycling", evaluationKey := key, fingerprint := key,
                 category := .charging
                 severity := if policy.chargeCycleAbsorptionEntriesCritical ≤ entries then .critical
                   else .warning
                 confidence := .high, title := "Repeated charge-stage cycling detected"
                 summary := "The controller entered Absorption " ++ toString entries
                   ++ " times in the last 24 hours."
                 controllerUid := some uid, observedValue := some entries, expectedLow := some 0
                 expectedHigh := some ((policy.chargeCycleAbsorptionEntriesWarning : ℚ) - 1)
                 unit := some "entries/24h"
                 evidence := [
                   { code := "stage_sequence"
                     message := "Collapsed source-backed charge-state sequence."
                     value := .texts cycle.stageSequence, source := "controller-history" },
                   { code := "transition_count"
                     message := "Observed charge-state transitions."
                     value := .integer cycle.transitionCount
                     source := "controller-history" }] },
          some key)

/-- `_coverage_finding` -/
def coverageFinding (coverage : Option CoverageEvidence) : Verdict :=
  match coverage with
  | some { dayCount, coveragePercent := some percent, coveredDays, recoveredDays, missingDays } =>
      if dayCount < 3 then (none, none)
      else
        let key := incidentKey "history_coverage" uid
        if policy.coverageWarningPercent ≤ percent then (none, some key)
        else (some { detector := "history_coverage", evaluationKey := key, fingerprint := key,
                     category := .dataIntegrity, severity := .warning, confidence := .high
                     title := "Controller history evidence has gaps"
                     summary := "Day-level live/recovered evidence covers "
                       ++ Decimal.fixed 1 percent ++ "% of the available analysis period."
                     controllerUid := some uid, observedValue := some percent
                     expectedLow := some policy.coverageWarningPercent
                     expectedHigh := some 100, unit := some "%"
                     evidence := [
                       { code := "covered_days"
                         message := "Days with local samples or complete retained evidence."
                         value := .integer coveredDays, source := "history-reconciliation" },
                       { code := "recovered_days"
                         message :=
                           "Days recovered from complete retained controller history."
                         value := .integer recoveredDays, source := "history-reconciliation" },
                       { code := "missing_days", message := "Days with no defensible evidence."
                         value := .integer missingDays
                         source := "history-reconciliation" }] },
              some key)
  | _ => (none, none)

/-- `_evaluate_solar_baseline`; `uid` is the identifier the scan was called with. -/
def solarFinding (baseline : SolarBaseline) : Verdict :=
  let key := incidentKey "solar_underproduction" uid
  if ¬ baseline.ready then (none, none)
  else match baseline.currentValue, baseline.expectedMedian with
  | some current, some median =>
      let low := match baseline.expectedLow with
        | none => median
        | some low => if low = 0 then median else low
      if median < policy.productionMinExpectedW then (none, some key)
      else if min (median * policy.productionWarningFraction) (low * (3 / 4)) ≤ current then
        (none, some key)
      else
        let deviation := (current / median - 1) * 100
        (some { detector := "solar_underproduction", evaluationKey := key, fingerprint := key,
                category := .production
                severity := if current < median * policy.productionCriticalFraction then .critical
                  else .warning
                confidence := if 5 ≤ baseline.comparableDays then .high else .medium
                title := "Solar production below historical baseline"
                summary := "Current site solar input is " ++ Decimal.fixed 0 |deviation|
                  ++ "% below the time-of-day historical median."
                observedValue := some current, expectedLow := baseline.expectedLow
                expectedHigh := baseline.expectedHigh, unit := some "W"
                evidence := [
                  { code := "current_solar_input"
                    message := "Current normalized site solar input power."
                    value := .number current, unit := some "W", source := "system-latest" },
                  { code := "historical_median"
                    message := "Median from comparable UTC time windows on prior days."
                    value := .number median, unit := some "W", source := "system-history" },
                  { code := "comparable_days"
                    message := "Prior days contributing to the local baseline."
                    value := .integer baseline.comparableDays, source := "system-history" }] },
          some key)
  | _, _ => (none, some key)

end Detectors

/-! ## the scan -/

/-- `_evaluate_controller`, in the order of its findings. -/
def evaluateController (env : Env) (policy : IncidentPolicy) (c : ControllerEvidence) :
    List Verdict :=
  let uid := c.controllerUid
  offlineFinding env uid c.status :: match c.sample with
    | none => []
    | some sample =>
        [senseFinding policy uid sample, efficiencyFinding policy uid sample,
          faultFinding env uid sample, alarmFinding env uid sample,
          pollingFinding policy uid c.polling, chargeCycleFinding policy uid c.cycle,
          coverageFinding policy uid c.coverage]

/-- All verdicts of a scan. -/
def scanVerdicts (env : Env) (policy : IncidentPolicy) (identifier : String)
    (controllers : List ControllerEvidence) (baseline : SolarBaseline) : List Verdict :=
  controllers.flatMap (evaluateController env policy) ++ [solarFinding policy identifier baseline]

/-- `scan`, from the evidence it gathered to the transitions it commits. -/
def scan (ienv : IncidentEnv) (env : Env) (policy : IncidentPolicy) (identifier : String)
    (now : Nat) (controllers : List ControllerEvidence) (baseline : SolarBaseline)
    (db : IncidentDb) : Except IncidentError (IncidentDb × List Transition) :=
  let verdicts := scanVerdicts env policy identifier controllers baseline
  reconcile ienv identifier now (verdicts.filterMap Prod.fst) (verdicts.filterMap Prod.snd) db

end MorningstarModbus
