import MorningstarModbus.Lib.Formula
import MorningstarModbus.Systems.Latest

/-!
# MorningstarModbus.Systems.PowerFlow

The power flow of a system (`systems/power.py`): what several controllers report of the
whole system is resolved to their median where they agree, and quantities are derived
from what is known.

How `f"{x:.3f}"` writes a number is a parameter.

* `resolvedSystemMetric_sound` — reporters within the tolerance resolve to their median;
* `powerFlow_sound` — and every derived quantity is its declared formula over the inputs
  it declares, where these are known.
-/

namespace MorningstarModbus

open Formulas Query Table

/-! ## the metrics of a snapshot -/

inductive PowerQuality where
  | aggregate (q : SystemDataRepository.Quality)
  | conflict
  | derived
  deriving DecidableEq

inductive PowerStatus where
  | observed
  | derived
  | unknown
  deriving DecidableEq

inductive Resolution where
  | singleSource
  | consensusMedian
  | conflict
  deriving DecidableEq

/-- A metric, with the payload it is a copy of where the snapshot has one. -/
structure PowerMetric where
  payload : Option MetricAggregate
  value : MetricValue
  quality : PowerQuality
  status : PowerStatus
  resolution : Option Resolution := none
  reason : Option String := none
  deriving DecidableEq

def PowerMetric.unit (m : PowerMetric) : Option String := m.payload.bind MetricAggregate.unit

def PowerMetric.sources (m : PowerMetric) : List MetricObservation :=
  (m.payload.map MetricAggregate.sources).getD []

/-- `_metric` -/
def metricOf (latest : SystemSnapshot) (name : String) : PowerMetric :=
  match latest.metrics.lookup name with
  | none => { payload := none, value := .null, quality := .aggregate .empty, status := .unknown }
  | some payload =>
      { payload := some payload
        value := payload.value
        quality := .aggregate payload.quality
        status := if payload.value = .null then .unknown else .observed }

/-! ## reporters of the whole system -/

/-- How far apart values are. -/
def spread (values : List ℚ) : ℚ := values.max?.getD 0 - values.min?.getD 0

/-- How far apart they may be. -/
def toleranceOf (absolute relative : ℚ) (values : List ℚ) : ℚ :=
  max absolute (|(SystemDataRepository.median values).getD 0| * relative)

section Resolve

variable (fixed3 : ℚ → String)

/-- What is said of values that are too far apart. -/
def disagreement (spread tolerance : ℚ) : String :=
  "Multiple whole-system observations disagree by " ++ fixed3 spread ++ ", exceeding the " ++
    fixed3 tolerance ++ " resolution tolerance."

/-- The values of the numeric reporters. -/
def reporterValues (sources : List MetricObservation) : List ℚ :=
  sources.filterMap MetricObservation.numeric?

/-- `_resolved_system_metric` -/
def resolvedSystemMetric (latest : SystemSnapshot) (name : String)
    (absoluteTolerance : ℚ := 1 / 2) (relativeTolerance : ℚ := 1 / 20) : PowerMetric :=
  let result := metricOf latest name
  match reporterValues result.sources with
  | [] => result
  | [value] =>
      { result with
        value := .number value
        resolution := some .singleSource
        status := .observed }
  | values =>
      let tolerance := toleranceOf absoluteTolerance relativeTolerance values
      if tolerance < spread values then
        { result with
          value := .null
          quality := .conflict
          status := .unknown
          resolution := some .conflict
          reason := some (disagreement fixed3 (spread values) tolerance) }
      else
        { result with
          value := .ofNumber (SystemDataRepository.median values)
          resolution := some .consensusMedian
          status := .observed }

end Resolve

/-! ## the power flow -/

structure DerivedMetric where
  value : Option ℚ
  unit : String
  quality : PowerQuality
  status : PowerStatus
  formula : String
  inputs : List String
  deriving DecidableEq

/-- `_derived` -/
def derived (value : Option ℚ) (unit formula : String) (inputs : List String) :
    DerivedMetric where
  value
  unit
  quality := if value.isSome then .derived else .aggregate .empty
  status := if value.isSome then .derived else .unknown
  formula
  inputs

/-- `_unknown` -/
structure UnknownMetric where
  unit : Option String
  reason : String
  value : Option ℚ := none
  quality : PowerQuality := .aggregate .empty
  status : PowerStatus := .unknown
  deriving DecidableEq

structure PowerSources where
  solarInputPowerW : PowerMetric
  generatorPowerW : UnknownMetric
  auxiliaryPowerW : UnknownMetric

structure PowerBattery where
  voltageV : PowerMetric
  chargeCurrentA : PowerMetric
  systemChargeCurrentA : PowerMetric
  chargePowerW : PowerMetric
  socPercent : PowerMetric
  netCurrentA : PowerMetric
  netPowerW : DerivedMetric

structure PowerLoads where
  dcCurrentA : PowerMetric
  voltageV : PowerMetric
  dcPowerW : DerivedMetric
  inverterPowerW : UnknownMetric

structure PowerBalance where
  controllerInputW : PowerMetric
  controllerChargeOutputW : PowerMetric
  controllerPowerResidualW : DerivedMetric
  controllerConversionEfficiencyPercent : DerivedMetric
  systemChargePowerW : DerivedMetric
  systemCurrentResidualA : DerivedMetric
  wholeSystemResidualW : DerivedMetric

structure PowerFlow (σ : Type) where
  systemUid : String
  observedAt : Option String
  quality : SystemDataRepository.Quality
  basis : String := "source-backed controller/system observations"
  sources : PowerSources
  battery : PowerBattery
  loads : PowerLoads
  balance : PowerBalance
  componentSummary : σ
  unknowns : List String

/-- What is not known, in the order of the report. -/
def powerUnknowns (batteryNetA loadA systemChargeA : Option ℚ) : List String :=
  "generator/auxiliary-source instantaneous power is not inferred from controller state alone" ::
    ((if batteryNetA = none then
      ["battery net current/power requires a resolved source-backed system or shunt measurement"]
    else []) ++
    (if loadA = none then
      ["load current/power requires a resolved source-backed system or shunt measurement"]
    else []) ++
    if systemChargeA = none then
      ["whole-system charging current is unavailable or conflicting; " ++
        "controller-local charge remains separate"]
    else [])

/-- What `power_flow` returns of a snapshot and of the components' summary. -/
def powerFlowOf {σ : Type} (fixed3 : ℚ → String) (latest : SystemSnapshot) (summary : σ) :
    PowerFlow σ :=
  let solar := metricOf latest "solar_input_power_w"
  let chargePower := metricOf latest "charge_output_power_w"
  let chargeCurrent := metricOf latest "battery_charge_current_a"
  let systemChargeCurrent := resolvedSystemMetric fixed3 latest "system_charge_current_a"
  let batteryNetCurrent := resolvedSystemMetric fixed3 latest "battery_net_current_a"
  let systemLoadCurrent := resolvedSystemMetric fixed3 latest "system_load_current_a"
  let batteryVoltage := metricOf latest "battery_voltage_v"
  let loadVoltage := metricOf latest "load_voltage_v"
  let batterySoc := metricOf latest "battery_soc_percent"
  let solarW := solar.value.numeric?
  let chargeW := chargePower.value.numeric?
  let systemChargeA := systemChargeCurrent.value.numeric?
  let batteryNetA := batteryNetCurrent.value.numeric?
  let loadA := systemLoadCurrent.value.numeric?
  let batteryV := batteryVoltage.value.numeric?
  let loadV := loadVoltage.value.numeric?
  let controllerResidualW : Option ℚ := do return (← solarW) - (← chargeW)
  let efficiency : Option ℚ := do
    let solar ← solarW
    let charge ← chargeW
    if 0 < solar then some (charge / solar * 100) else none
  let systemChargeW : Option ℚ := do return (← systemChargeA) * (← batteryV)
  let batteryNetW : Option ℚ := do return (← batteryNetA) * (← batteryV)
  let dcLoadW : Option ℚ := do return (← loadA) * (← loadV)
  let currentResidualA : Option ℚ := do return (← systemChargeA) - (← batteryNetA) - (← loadA)
  let wholeSystemResidualW : Option ℚ := do
    return (← systemChargeW) - (← batteryNetW) - (← dcLoadW)
  { systemUid := latest.systemUid
    observedAt := latest.observedAt
    quality :=
      if [solarW, chargeW, systemChargeA, batteryNetA, loadA].all Option.isNone then .empty
      else .lacking
    sources :=
      { solarInputPowerW := solar
        generatorPowerW :=
          { unit := some "W", reason := "No source-backed generator power metric is available." }
        auxiliaryPowerW :=
          { unit := some "W"
            reason :=
              "No source-backed instantaneous auxiliary-source power metric is available." } }
    battery :=
      { voltageV := batteryVoltage
        chargeCurrentA := chargeCurrent
        systemChargeCurrentA := systemChargeCurrent
        chargePowerW := chargePower
        socPercent := batterySoc
        netCurrentA := batteryNetCurrent
        netPowerW := derived batteryNetW "W" "battery_net_current_a * battery_voltage_v"
          ["battery_net_current_a", "battery_voltage_v"] }
    loads :=
      { dcCurrentA := systemLoadCurrent
        voltageV := loadVoltage
        dcPowerW := derived dcLoadW "W" "system_load_current_a * load_voltage_v"
          ["system_load_current_a", "load_voltage_v"]
        inverterPowerW :=
          { unit := some "W", reason := "No source-backed inverter power metric is available." } }
    balance :=
      { controllerInputW := solar
        controllerChargeOutputW := chargePower
        controllerPowerResidualW := derived controllerResidualW "W"
          "solar_input_power_w - charge_output_power_w"
          ["solar_input_power_w", "charge_output_power_w"]
        controllerConversionEfficiencyPercent := derived efficiency "%"
          "charge_output_power_w / solar_input_power_w * 100"
          ["charge_output_power_w", "solar_input_power_w"]
        systemChargePowerW := derived systemChargeW "W"
          "system_charge_current_a * battery_voltage_v"
          ["system_charge_current_a", "battery_voltage_v"]
        systemCurrentResidualA := derived currentResidualA "A"
          "system_charge_current_a - battery_net_current_a - system_load_current_a"
          ["system_charge_current_a", "battery_net_current_a", "system_load_current_a"]
        wholeSystemResidualW := derived wholeSystemResidualW "W"
          "system_charge_power_w - battery_net_power_w - dc_load_power_w"
          ["system_charge_power_w", "battery_net_power_w", "dc_load_power_w"] }
    componentSummary := summary
    unknowns := powerUnknowns batteryNetA loadA systemChargeA }

/-- `power_flow` -/
def powerFlow {σ : Type} (fixed3 : ℚ → String)
    (latest : String → Except SystemError SystemSnapshot) (graph : String → Except SystemError σ)
    (identifier : String) : Except SystemError (PowerFlow σ) := do
  let snapshot ← latest identifier
  let summary ← graph identifier
  return powerFlowOf fixed3 snapshot summary

/-! ## consensus -/

section Consensus

variable {fixed3 : ℚ → String} {latest latest' : SystemSnapshot} {name : String}
  {absolute relative : ℚ} {values values' : List ℚ}

/-- Values lie within their spread of whatever lies between them. -/
theorem abs_sub_le_spread {x : ℚ} (hne : values ≠ [])
    (hx : ∀ low high, (∀ v ∈ values, low ≤ v) → (∀ v ∈ values, v ≤ high) → low ≤ x ∧ x ≤ high) :
    ∀ v ∈ values, |x - v| ≤ spread values := by
  intro v hv
  obtain ⟨low, hlow, hleast⟩ := exists_min? hne
  obtain ⟨high, hhigh, hgreatest⟩ := exists_max? hne
  obtain ⟨hxlow, hxhigh⟩ := hx low high hleast hgreatest
  have hvlow := hleast v hv
  have hvhigh := hgreatest v hv
  rw [spread, hlow, hhigh, Option.getD_some, Option.getD_some, abs_le]
  constructor
  · linarith
  · linarith

theorem spread_perm (h : values.Perm values') : spread values = spread values' := by
  rw [spread, spread, max?_perm h, min?_perm h]

theorem toleranceOf_perm (h : values.Perm values') :
    toleranceOf absolute relative values = toleranceOf absolute relative values' := by
  rw [toleranceOf, toleranceOf, SystemDataRepository.median_perm h]

/-- What the reporters of a metric report. -/
def reported (latest : SystemSnapshot) (name : String) : List ℚ :=
  reporterValues (metricOf latest name).sources

/-- Without a reporter the metric stays as it is. -/
theorem resolvedSystemMetric_nil (h : reported latest name = []) :
    resolvedSystemMetric fixed3 latest name absolute relative = metricOf latest name := by
  rw [reported] at h
  simp only [resolvedSystemMetric, h]

/-- One reporter is taken as it is. -/
theorem resolvedSystemMetric_single {value : ℚ} (h : reported latest name = [value]) :
    resolvedSystemMetric fixed3 latest name absolute relative =
      { metricOf latest name with
        value := .number value
        resolution := some .singleSource
        status := .observed } := by
  rw [reported] at h
  simp only [resolvedSystemMetric, h]

/-- Reporters that are too far apart are in conflict. -/
theorem resolvedSystemMetric_conflict (h : 2 ≤ (reported latest name).length)
    (hwide : toleranceOf absolute relative (reported latest name) < spread (reported latest name)) :
    resolvedSystemMetric fixed3 latest name absolute relative =
      { metricOf latest name with
        value := .null
        quality := .conflict
        status := .unknown
        resolution := some .conflict
        reason := some (disagreement fixed3 (spread (reported latest name))
          (toleranceOf absolute relative (reported latest name))) } := by
  rw [reported] at h hwide ⊢
  cases hvalues : reporterValues (metricOf latest name).sources with
  | nil => simp [hvalues] at h
  | cons v rest =>
      cases rest with
      | nil => simp [hvalues] at h
      | cons w rest =>
          rw [hvalues] at hwide
          simp only [resolvedSystemMetric, hvalues, if_pos hwide]

/-- Other reporters are resolved to their median. -/
theorem resolvedSystemMetric_median (h : 2 ≤ (reported latest name).length)
    (hclose : spread (reported latest name) ≤
      toleranceOf absolute relative (reported latest name)) :
    resolvedSystemMetric fixed3 latest name absolute relative =
      { metricOf latest name with
        value := .ofNumber (SystemDataRepository.median (reported latest name))
        resolution := some .consensusMedian
        status := .observed } := by
  rw [reported] at h hclose ⊢
  cases hvalues : reporterValues (metricOf latest name).sources with
  | nil => simp [hvalues] at h
  | cons v rest =>
      cases rest with
      | nil => simp [hvalues] at h
      | cons w rest =>
          rw [hvalues] at hclose
          simp only [resolvedSystemMetric, hvalues, if_neg (not_lt.mpr hclose)]

/-- A metric resolves where its reporters are within the tolerance. -/
theorem resolvedSystemMetric_ne_null_iff (hne : reported latest name ≠ []) :
    (resolvedSystemMetric fixed3 latest name absolute relative).value ≠ .null ↔
      spread (reported latest name) ≤ toleranceOf absolute relative (reported latest name) ∨
        (reported latest name).length = 1 := by
  have hpos := List.length_pos_iff.mpr hne
  by_cases hsingle : (reported latest name).length = 1
  · obtain ⟨value, hvalue⟩ := List.length_eq_one_iff.mp hsingle
    simp [resolvedSystemMetric_single hvalue, hsingle]
  · obtain hclose | hwide := le_or_gt (spread (reported latest name))
      (toleranceOf absolute relative (reported latest name))
    · obtain ⟨m, hm⟩ := SystemDataRepository.exists_median hne
      simp [resolvedSystemMetric_median (by omega) hclose, hclose, hm, MetricValue.ofNumber]
    · simp [resolvedSystemMetric_conflict (by omega) hwide, not_le.mpr hwide, hsingle]

/-- What it resolves to is the median, which is within the tolerance of every reporter. -/
theorem resolvedSystemMetric_eq_median (habsolute : 0 ≤ absolute)
    (hne : reported latest name ≠ [])
    (hvalue : (resolvedSystemMetric fixed3 latest name absolute relative).value ≠ .null) :
    ∃ m, SystemDataRepository.median (reported latest name) = some m ∧
      (resolvedSystemMetric fixed3 latest name absolute relative).value = .number m ∧
      ∀ v ∈ reported latest name,
        |m - v| ≤ toleranceOf absolute relative (reported latest name) := by
  have hpos := List.length_pos_iff.mpr hne
  obtain ⟨m, hm⟩ := SystemDataRepository.exists_median hne
  have hbounds := fun low high => @SystemDataRepository.median_mem_bounds _ low high m hm
  refine ⟨m, hm, ?_⟩
  by_cases hsingle : (reported latest name).length = 1
  · obtain ⟨value, hreporter⟩ := List.length_eq_one_iff.mp hsingle
    have hself : m = value := by
      obtain ⟨hlow, hhigh⟩ := hbounds value value (by simp [hreporter]) (by simp [hreporter])
      exact le_antisymm hhigh hlow
    rw [resolvedSystemMetric_single hreporter, hself]
    refine ⟨rfl, fun v hv => ?_⟩
    rw [hreporter, List.mem_singleton] at hv
    rw [hv, sub_self, abs_zero]
    exact habsolute.trans (le_max_left _ _)
  · have hclose := ((resolvedSystemMetric_ne_null_iff hne).mp hvalue).resolve_right hsingle
    rw [resolvedSystemMetric_median (by omega) hclose, hm]
    exact ⟨rfl, fun v hv => (abs_sub_le_spread hne hbounds v hv).trans hclose⟩

/-- The order of the reporters shows in the list of sources only. -/
theorem resolvedSystemMetric_perm {payload : MetricAggregate} {sources : List MetricObservation}
    (h : latest.metrics.lookup name = some payload)
    (h' : latest'.metrics.lookup name = some { payload with sources })
    (hperm : sources.Perm payload.sources) :
    resolvedSystemMetric fixed3 latest' name absolute relative =
      { resolvedSystemMetric fixed3 latest name absolute relative with
        payload := some { payload with sources } } := by
  have hmetric : metricOf latest' name =
      { metricOf latest name with payload := some { payload with sources } } := by
    simp only [metricOf, h, h']
  have hreported : (reported latest' name).Perm (reported latest name) := by
    simp only [reported, metricOf, h, h', PowerMetric.sources]
    exact hperm.filterMap _
  have hspread := spread_perm hreported
  have htolerance : toleranceOf absolute relative (reported latest' name) =
      toleranceOf absolute relative (reported latest name) := toleranceOf_perm hreported
  have hlength := hreported.length_eq
  by_cases hmany : 2 ≤ (reported latest name).length
  · obtain hclose | hwide := le_or_gt (spread (reported latest name))
      (toleranceOf absolute relative (reported latest name))
    · rw [resolvedSystemMetric_median hmany hclose, resolvedSystemMetric_median (by omega)
        (by rwa [hspread, htolerance]), hmetric, SystemDataRepository.median_perm hreported]
    · rw [resolvedSystemMetric_conflict hmany hwide, resolvedSystemMetric_conflict (by omega)
        (by rwa [hspread, htolerance]), hmetric, hspread, htolerance]
  · cases hvalues : reported latest name with
    | nil =>
        rw [hvalues] at hreported
        rw [resolvedSystemMetric_nil hvalues,
          resolvedSystemMetric_nil (List.perm_nil.mp hreported), hmetric]
    | cons value rest =>
        have hnil : rest = [] := by
          rw [hvalues, List.length_cons] at hmany
          exact List.length_eq_zero_iff.mp (by omega)
        rw [hnil] at hvalues
        rw [hvalues] at hreported
        rw [resolvedSystemMetric_single hvalues,
          resolvedSystemMetric_single (List.perm_singleton.mp hreported), hmetric]

end Consensus

/-! ## derived quantities -/

section Derived

variable {σ : Type}

/-- The quantities of a power flow that formulas name. -/
def PowerFlow.quantities (flow : PowerFlow σ) : List (String × Option ℚ) :=
  [ ("solar_input_power_w", flow.sources.solarInputPowerW.value.numeric?),
    ("charge_output_power_w", flow.battery.chargePowerW.value.numeric?),
    ("system_charge_current_a", flow.battery.systemChargeCurrentA.value.numeric?),
    ("battery_net_current_a", flow.battery.netCurrentA.value.numeric?),
    ("system_load_current_a", flow.loads.dcCurrentA.value.numeric?),
    ("battery_voltage_v", flow.battery.voltageV.value.numeric?),
    ("load_voltage_v", flow.loads.voltageV.value.numeric?),
    ("system_charge_power_w", flow.balance.systemChargePowerW.value),
    ("battery_net_power_w", flow.battery.netPowerW.value),
    ("dc_load_power_w", flow.loads.dcPowerW.value) ]

def PowerFlow.quantity (flow : PowerFlow σ) (name : String) : Option ℚ :=
  (flow.quantities.lookup name).join

/-- A derived metric is the formula that it declares over the inputs that it declares, where
these are known and it is given at all. -/
structure PowerFlow.Derives (flow : PowerFlow σ) (d : DerivedMetric) (given : Prop) (f : Formula) :
    Prop where
  text : f.text = d.formula
  inputs : f.inputs = d.inputs
  unknown : (∃ name ∈ d.inputs, flow.quantity name = none) → d.value = none
  known : (∀ name ∈ d.inputs, flow.quantity name ≠ none) → given →
    d.value.isSome ∧ d.value = f.eval flow.quantity
  withheld : ¬ given → d.value = none

theorem PowerFlow.derives_of {flow : PowerFlow σ} {d : DerivedMetric} {f : Formula}
    (htext : f.text = d.formula) (hinputs : f.inputs = d.inputs)
    (hvalue : d.value = f.eval flow.quantity) : flow.Derives d True f where
  text := htext
  inputs := hinputs
  unknown hunknown := by
    rw [hvalue, f.eval_eq_none_iff, hinputs]
    exact hunknown
  known hknown _ := by
    rw [hvalue]
    exact ⟨f.eval_isSome (by rwa [hinputs]), rfl⟩
  withheld hnot := absurd trivial hnot

/-! ### the declared formulas -/

def controllerResidual : Formula :=
  ⟨"solar_input_power_w", [(.sub, .input "charge_output_power_w")]⟩

def conversionEfficiency : Formula :=
  ⟨"charge_output_power_w", [(.div, .input "solar_input_power_w"), (.mul, .constant 100)]⟩

def systemChargePower : Formula :=
  ⟨"system_charge_current_a", [(.mul, .input "battery_voltage_v")]⟩

def batteryNetPower : Formula := ⟨"battery_net_current_a", [(.mul, .input "battery_voltage_v")]⟩

def dcLoadPower : Formula := ⟨"system_load_current_a", [(.mul, .input "load_voltage_v")]⟩

def currentResidual : Formula :=
  ⟨"system_charge_current_a",
    [(.sub, .input "battery_net_current_a"), (.sub, .input "system_load_current_a")]⟩

def wholeSystemResidual : Formula :=
  ⟨"system_charge_power_w",
    [(.sub, .input "battery_net_power_w"), (.sub, .input "dc_load_power_w")]⟩

/-- Solar power comes in. -/
def PowerFlow.Producing (flow : PowerFlow σ) : Prop :=
  ∃ solar, flow.quantity "solar_input_power_w" = some solar ∧ 0 < solar

/-- Every derived metric is its declared formula; the efficiency is given while solar power
comes in. -/
structure PowerFlow.Sound (flow : PowerFlow σ) : Prop where
  netPowerW : flow.Derives flow.battery.netPowerW True batteryNetPower
  dcPowerW : flow.Derives flow.loads.dcPowerW True dcLoadPower
  controllerPowerResidualW :
    flow.Derives flow.balance.controllerPowerResidualW True controllerResidual
  controllerConversionEfficiencyPercent :
    flow.Derives flow.balance.controllerConversionEfficiencyPercent flow.Producing
      conversionEfficiency
  systemChargePowerW : flow.Derives flow.balance.systemChargePowerW True systemChargePower
  systemCurrentResidualA : flow.Derives flow.balance.systemCurrentResidualA True currentResidual
  wholeSystemResidualW : flow.Derives flow.balance.wholeSystemResidualW True wholeSystemResidual

theorem conversionEfficiency_derives (fixed3 : ℚ → String) (latest : SystemSnapshot) (summary : σ) :
    (powerFlowOf fixed3 latest summary).Derives
      (powerFlowOf fixed3 latest summary).balance.controllerConversionEfficiencyPercent
      (powerFlowOf fixed3 latest summary).Producing conversionEfficiency := by
  obtain ⟨flow, hflow⟩ : ∃ flow, flow = powerFlowOf fixed3 latest summary := ⟨_, rfl⟩
  have hvalue : flow.balance.controllerConversionEfficiencyPercent.value =
      (flow.quantity "solar_input_power_w").bind fun solar =>
        (flow.quantity "charge_output_power_w").bind fun charge =>
          if 0 < solar then some (charge / solar * 100) else none := by
    rw [hflow]
    rfl
  have heval : conversionEfficiency.eval flow.quantity =
      (flow.quantity "charge_output_power_w").bind fun charge =>
        (flow.quantity "solar_input_power_w").bind fun solar =>
          some (charge / solar * 100) := rfl
  have htext : conversionEfficiency.text =
      flow.balance.controllerConversionEfficiencyPercent.formula := by
    rw [hflow]
    exact (by decide : conversionEfficiency.text =
      "charge_output_power_w / solar_input_power_w * 100")
  have hinputs : flow.balance.controllerConversionEfficiencyPercent.inputs =
      ["charge_output_power_w", "solar_input_power_w"] := by
    rw [hflow]
    rfl
  rw [← hflow]
  refine ⟨htext, by rw [hinputs]; decide, ?_, ?_, ?_⟩
  · intro hunknown
    rw [hinputs] at hunknown
    rw [hvalue]
    cases hsolar : flow.quantity "solar_input_power_w" with
    | none => rfl
    | some solar =>
        cases hcharge : flow.quantity "charge_output_power_w" with
        | none => rfl
        | some charge => simp [hsolar, hcharge] at hunknown
  · intro hknown hproducing
    obtain ⟨solar, hsolar, hpositive⟩ := hproducing
    rw [hinputs] at hknown
    obtain ⟨charge, hcharge⟩ := Option.ne_none_iff_exists'.mp
      (hknown "charge_output_power_w" (by simp))
    rw [heval, hvalue, hsolar, hcharge, Option.bind_some, Option.bind_some, if_pos hpositive]
    exact ⟨rfl, rfl⟩
  · intro hnot
    rw [hvalue]
    cases hsolar : flow.quantity "solar_input_power_w" with
    | none => rfl
    | some solar =>
        have hzero : ¬ 0 < solar := fun hpositive => hnot ⟨solar, hsolar, hpositive⟩
        cases hcharge : flow.quantity "charge_output_power_w" with
        | none => rfl
        | some charge => exact if_neg hzero

theorem powerFlowOf_sound (fixed3 : ℚ → String) (latest : SystemSnapshot) (summary : σ) :
    (powerFlowOf fixed3 latest summary).Sound where
  netPowerW := PowerFlow.derives_of
    (by decide : batteryNetPower.text = "battery_net_current_a * battery_voltage_v")
    (by decide : batteryNetPower.inputs = ["battery_net_current_a", "battery_voltage_v"]) rfl
  dcPowerW := PowerFlow.derives_of
    (by decide : dcLoadPower.text = "system_load_current_a * load_voltage_v")
    (by decide : dcLoadPower.inputs = ["system_load_current_a", "load_voltage_v"]) rfl
  controllerPowerResidualW := PowerFlow.derives_of
    (by decide : controllerResidual.text = "solar_input_power_w - charge_output_power_w")
    (by decide : controllerResidual.inputs = ["solar_input_power_w", "charge_output_power_w"]) rfl
  controllerConversionEfficiencyPercent := conversionEfficiency_derives fixed3 latest summary
  systemChargePowerW := PowerFlow.derives_of
    (by decide : systemChargePower.text = "system_charge_current_a * battery_voltage_v")
    (by decide : systemChargePower.inputs = ["system_charge_current_a", "battery_voltage_v"]) rfl
  systemCurrentResidualA := PowerFlow.derives_of
    (by decide : currentResidual.text =
      "system_charge_current_a - battery_net_current_a - system_load_current_a")
    (by decide : currentResidual.inputs =
      ["system_charge_current_a", "battery_net_current_a", "system_load_current_a"]) rfl
  wholeSystemResidualW := PowerFlow.derives_of
    (by decide : wholeSystemResidual.text =
      "system_charge_power_w - battery_net_power_w - dc_load_power_w")
    (by decide : wholeSystemResidual.inputs =
      ["system_charge_power_w", "battery_net_power_w", "dc_load_power_w"]) rfl

end Derived

/-- Reporters of the whole system within the tolerance resolve to their median, in any order,
and others to none; every derived quantity is its declared formula. -/
theorem powerFlow_sound {σ : Type} {fixed3 : ℚ → String} {latest : SystemSnapshot} {name : String}
    {absolute relative : ℚ} (summary : σ) (habsolute : 0 ≤ absolute)
    (hne : reported latest name ≠ []) :
    ((resolvedSystemMetric fixed3 latest name absolute relative).value ≠ .null ↔
      spread (reported latest name) ≤ toleranceOf absolute relative (reported latest name) ∨
        (reported latest name).length = 1) ∧
    ((resolvedSystemMetric fixed3 latest name absolute relative).value ≠ .null →
      ∃ m, SystemDataRepository.median (reported latest name) = some m ∧
        (resolvedSystemMetric fixed3 latest name absolute relative).value = .number m ∧
        ∀ v ∈ reported latest name,
          |m - v| ≤ toleranceOf absolute relative (reported latest name)) ∧
    (∀ (latest' : SystemSnapshot) (payload : MetricAggregate) (sources : List MetricObservation),
      latest.metrics.lookup name = some payload →
      latest'.metrics.lookup name = some { payload with sources } →
      sources.Perm payload.sources →
        resolvedSystemMetric fixed3 latest' name absolute relative =
          { resolvedSystemMetric fixed3 latest name absolute relative with
            payload := some { payload with sources } }) ∧
    (powerFlowOf fixed3 latest summary).Sound := by
  refine ⟨resolvedSystemMetric_ne_null_iff hne, resolvedSystemMetric_eq_median habsolute hne, ?_,
    powerFlowOf_sound fixed3 latest summary⟩
  intro latest' payload sources h h' hperm
  exact resolvedSystemMetric_perm h h' hperm

/-- A current that a controller reports of the whole system. -/
def reportedCurrent (controllerUid : String) (x : ℚ) : MetricObservation where
  controllerUid
  sourceDeviceId := none
  observedAt := "2026-07-01T12:00:00+00:00"
  registerName := "system_battery_current"
  value := .number x
  unit := some "A"

/-- A snapshot with two reporters of the battery's net current. -/
def twoReporters (x y : ℚ) : SystemSnapshot where
  systemUid := "sys_default"
  name := "default"
  observedAt := some "2026-07-01T12:00:00+00:00"
  controllerCount := 2
  metrics :=
    [("battery_net_current_a",
      { value := .ofNumber (SystemDataRepository.median [x, y])
        unit := some "A"
        aggregation := .numeric .median
        quality := .complete
        contributors := 2
        expectedContributors := 2
        oldestObservationAgeMs := some 0
        sources := [reportedCurrent "GS-A" x, reportedCurrent "GS-B" y] })]

theorem powerFlow_sound_two :
    ((resolvedSystemMetric (fun _ => "0.000") (twoReporters 8 (42 / 5))
      "battery_net_current_a").value ≠ .null ↔
      spread [8, 42 / 5] ≤ toleranceOf (1 / 2) (1 / 20) [8, 42 / 5] ∨
        ([8, 42 / 5] : List ℚ).length = 1) ∧
    (powerFlowOf (fun _ => "0.000") (twoReporters 8 (42 / 5)) ()).Sound := by
  have hreported : reported (twoReporters 8 (42 / 5)) "battery_net_current_a" = [8, 42 / 5] := rfl
  have hsound := @powerFlow_sound Unit (fun _ => "0.000") (twoReporters 8 (42 / 5))
    "battery_net_current_a" (1 / 2) (1 / 20) () (by norm_num) (by simp [hreported])
  rw [hreported] at hsound
  exact ⟨hsound.1, hsound.2.2.2⟩

/-- Reporters that disagree. -/
example : (resolvedSystemMetric (fun _ => "0.000") (twoReporters 8 (-8))
    "battery_net_current_a").value = .null := by
  decide +kernel

end MorningstarModbus
