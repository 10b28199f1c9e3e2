import MorningstarModbus.Systems.PowerFlow

/-!
# MorningstarModbus.Systems.EnergyLedger

The energy ledger of a system (`energy_ledger` of `systems/power.py`): what the counters of its
controllers say of a day, and nothing that no counter says.

* `LedgerField.Backed` — a field has a value exactly when it names a source, and then the value
  is that of the source, by the formula where it gives one;
* `batteryCharge_backed` — which counter the charge of the battery is taken from;
* `flows_perm` — the order of the controllers does not matter;
* `energyLedger_sound` — all of it, for the readings of every system.
-/

namespace MorningstarModbus

open Formulas Query Table

/-! ## the ledger -/

structure LedgerField where
  value : Option ℚ
  unit : String
  status : PowerStatus
  quality : PowerQuality
  sourceMetric : Option String := none
  formula : Option String := none
  reason : Option String := none
  deriving DecidableEq

/-- A field that no counter backs. -/
def LedgerField.unknown (reason : String) : LedgerField where
  value := none
  unit := "Wh"
  status := .unknown
  quality := .aggregate .empty
  reason := some reason

structure EnergyFlows where
  solarGeneratedWh : LedgerField
  generatorGeneratedWh : LedgerField
  externalSourceChargeWh : LedgerField
  batteryChargeWh : LedgerField
  batteryDischargeWh : LedgerField
  loadConsumptionWh : LedgerField
  conversionLossesWh : LedgerField
  unaccountedEnergyWh : LedgerField
  deriving DecidableEq

structure EnergyCounters where
  dailyChargeAh : PowerMetric
  dailyChargeKwh : PowerMetric
  lifetimeChargeKwh : PowerMetric
  systemChargeAhDaily : PowerMetric
  systemChargeKwhDaily : PowerMetric
  systemBatteryAhDaily : PowerMetric
  systemLoadAhDaily : PowerMetric
  externalSourceChargeAhDaily : PowerMetric
  externalSourceChargeKwhDaily : PowerMetric
  shuntBatteryNetAhDaily : PowerMetric
  shuntLoadAhDaily : PowerMetric
  deriving DecidableEq

structure EnergyLedger where
  systemUid : String
  observedAt : Option String
  period : String := "controller day"
  quality : SystemDataRepository.Quality
  flows : EnergyFlows
  counters : EnergyCounters
  deriving DecidableEq

section Ledger

variable (fixed3 : ℚ → String) (latest : SystemSnapshot)

/-- `_resolved_system_metric` with the tolerances of energy counters. -/
def energyCounter (name : String) : PowerMetric :=
  resolvedSystemMetric fixed3 latest name (1 / 20) (1 / 50)

/-- `_resolved_system_metric` with the tolerances of charge counters. -/
def chargeCounter (name : String) : PowerMetric :=
  resolvedSystemMetric fixed3 latest name (1 / 2) (1 / 50)

/-- The charge of the battery: from what is reported of the whole system, else from what the
controllers count, in `Wh` or in `kWh`. -/
def batteryCharge : LedgerField :=
  match (energyCounter fixed3 latest "system_charge_kwh_daily").value.numeric? with
  | some systemKwh =>
      { value := some (systemKwh * 1000)
        unit := "Wh"
        status := .derived
        quality := .derived
        sourceMetric := some "system_charge_kwh_daily"
        formula := some "system_charge_kwh_daily * 1000" }
  | none =>
      match (metricOf latest "daily_charge_wh").value.numeric? with
      | some chargeWh =>
          { value := some chargeWh
            unit := "Wh"
            status := .observed
            quality := (metricOf latest "daily_charge_wh").quality
            sourceMetric := some "daily_charge_wh" }
      | none =>
          match (metricOf latest "daily_charge_kwh").value.numeric? with
          | some chargeKwh =>
              { value := some (chargeKwh * 1000)
                unit := "Wh"
                status := .derived
                quality := .derived
                sourceMetric := some "daily_charge_kwh"
                formula := some "daily_charge_kwh * 1000" }
          | none => .unknown
              "No resolved source-backed daily battery-charge energy counter is available."

def externalSourceCharge : LedgerField :=
  match (energyCounter fixed3 latest "external_source_charge_kwh_daily").value.numeric? with
  | some externalKwh =>
      { value := some (externalKwh * 1000)
        unit := "Wh"
        status := .derived
        quality := .derived
        sourceMetric := some "external_source_charge_kwh_daily"
        formula := some "external_source_charge_kwh_daily * 1000" }
  | none => .unknown
      "No resolved aggregated external-source shunt energy counter is available."

/-- What `energy_ledger` returns of a snapshot. -/
def energyLedgerOf : EnergyLedger :=
  let batteryAh := chargeCounter fixed3 latest "system_battery_ah_daily"
  let loadAh := chargeCounter fixed3 latest "system_load_ah_daily"
  let batteryChargeWh := batteryCharge fixed3 latest
  let externalSourceChargeWh := externalSourceCharge fixed3 latest
  { systemUid := latest.systemUid
    observedAt := latest.observedAt
    quality :=
      if batteryChargeWh.value.isSome ∨ externalSourceChargeWh.value.isSome ∨
          batteryAh.value.numeric?.isSome ∨ loadAh.value.numeric?.isSome then .lacking
      else .empty
    flows :=
      { solarGeneratedWh := .unknown
          "No source-backed system-wide measurement is available; value is not inferred."
        generatorGeneratedWh := .unknown
          ("External-source shunt energy is not labeled as generator energy because " ++
            "the source may be a generator, charger, fuel cell, or other DC source.")
        externalSourceChargeWh
        batteryChargeWh
        batteryDischargeWh := .unknown
          ("Signed battery Ah counters do not provide separate discharge Wh without " ++
            "time-resolved voltage/current or a source-backed discharge-energy counter.")
        loadConsumptionWh := .unknown
          ("Load Ah counters are preserved natively and are not converted to Wh using " ++
            "an unrelated instantaneous voltage.")
        conversionLossesWh := .unknown
          ("Instantaneous controller residuals are not integrated into energy " ++
            "without source-backed interval coverage.")
        unaccountedEnergyWh := .unknown
          ("A complete energy balance requires source, battery-discharge, and " ++
            "load energy measurements.") }
    counters :=
      { dailyChargeAh := metricOf latest "daily_charge_ah"
        dailyChargeKwh := metricOf latest "daily_charge_kwh"
        lifetimeChargeKwh := metricOf latest "lifetime_charge_kwh"
        systemChargeAhDaily := chargeCounter fixed3 latest "system_charge_ah_daily"
        systemChargeKwhDaily := energyCounter fixed3 latest "system_charge_kwh_daily"
        systemBatteryAhDaily := batteryAh
        systemLoadAhDaily := loadAh
        externalSourceChargeAhDaily :=
          chargeCounter fixed3 latest "external_source_charge_ah_daily"
        externalSourceChargeKwhDaily :=
          energyCounter fixed3 latest "external_source_charge_kwh_daily"
        shuntBatteryNetAhDaily := chargeCounter fixed3 latest "shunt_battery_net_ah_daily"
        shuntLoadAhDaily := chargeCounter fixed3 latest "shunt_load_ah_daily" } }

end Ledger

/-- `energy_ledger` -/
def energyLedger (fixed3 : ℚ → String) (env : Env) (catalog : String → List String)
    (texts : PyTexts) (config : SystemConfig) (now : Nat) (identifier : String)
    (telemetry : TelemetryDb) (db : SystemDb) : Except SystemError (SystemDb × EnergyLedger) := do
  let (db, latest) ←
    SystemDataRepository.latest env catalog texts config now identifier telemetry db
  return (db, energyLedgerOf fixed3 latest)

/-! ## what the counters say -/

/-- The numbers that the controllers report of a metric. -/
def LatestReads.numbers (r : LatestReads) (name : String) : List ℚ :=
  match metricSpec name with
  | none => []
  | some spec => (r.observations spec).filterMap MetricObservation.numeric?

/-- What reporters of the whole system agree on: their median, where they are not too far apart. -/
def consensus (absolute relative : ℚ) (values : List ℚ) : Option ℚ :=
  if values.length = 1 ∨ spread values ≤ toleranceOf absolute relative values then
    SystemDataRepository.median values
  else none

/-- The sum of what is counted, where something is. -/
def total (values : List ℚ) : Option ℚ := if values = [] then none else some values.sum

section Counters

variable {fixed3 : ℚ → String} {latest : SystemSnapshot} {name : String} {absolute relative : ℚ}
  {texts : PyTexts} {catalog : String → List String} {now : Nat} {r r' : LatestReads}
  {values values' : List ℚ}

@[simp] theorem consensus_nil : consensus absolute relative [] = none := by
  simp [consensus, SystemDataRepository.median]

theorem consensus_perm (h : values.Perm values') :
    consensus absolute relative values = consensus absolute relative values' := by
  rw [consensus, consensus, spread_perm h, toleranceOf_perm h, h.length_eq,
    SystemDataRepository.median_perm h]

theorem total_perm (h : values.Perm values') : total values = total values' := by
  have hnil : values = [] ↔ values' = [] := by
    rw [← List.length_eq_zero_iff, ← List.length_eq_zero_iff, h.length_eq]
  simp only [total, hnil, h.sum_eq]

/-- A whole-system metric resolves to the consensus of its reporters. -/
theorem numeric_resolvedSystemMetric
    (hnone : reported latest name = [] → (metricOf latest name).value.numeric? = none) :
    (resolvedSystemMetric fixed3 latest name absolute relative).value.numeric? =
      consensus absolute relative (reported latest name) := by
  by_cases hnil : reported latest name = []
  · rw [resolvedSystemMetric_nil hnil, hnone hnil, hnil, consensus_nil]
  · have hpos := List.length_pos_iff.mpr hnil
    obtain ⟨m, hm⟩ := SystemDataRepository.exists_median hnil
    by_cases hsingle : (reported latest name).length = 1
    · obtain ⟨value, hvalue⟩ := List.length_eq_one_iff.mp hsingle
      rw [resolvedSystemMetric_single hvalue, consensus, if_pos (.inl hsingle), hvalue]
      simp [SystemDataRepository.median, MetricValue.numeric?, orderBy]
    · obtain hclose | hwide := le_or_gt (spread (reported latest name))
        (toleranceOf absolute relative (reported latest name))
      · rw [resolvedSystemMetric_median (by omega) hclose, consensus, if_pos (.inr hclose), hm]
        rfl
      · rw [resolvedSystemMetric_conflict (by omega) hwide, consensus,
          if_neg (by simp [hsingle, not_le.mpr hwide])]
        rfl

/-- The metrics of a snapshot are those of the catalog, of what was observed. -/
theorem lookup_snapshot : (r.snapshot texts catalog now).metrics.lookup name =
      (metricSpec name).map fun spec =>
        MetricObservation.aggregateObservations texts now spec (r.observations spec)
          (SystemDataRepository.eligibleControllerUids catalog (r.controllers.map Prod.fst)
            spec) := by
  rw [LatestReads.snapshot, metricSpec, Table.lookup]
  dsimp only
  induction systemMetrics with
  | nil => rfl
  | cons spec specs ih =>
      rw [List.map_cons, List.lookup_cons, List.find?_cons]
      by_cases hname : spec.name = name
      · simp [hname]
      · have hne : (name == spec.name) = false := by simpa using fun h => hname h.symm
        simp only [hne, hname, decide_false, ih]

theorem reported_snapshot : reported (r.snapshot texts catalog now) name = r.numbers name := by
  rw [reported, reporterValues, metricOf, lookup_snapshot, LatestReads.numbers]
  cases metricSpec name with
  | none => rfl
  | some spec => rfl

/-- What the aggregation says of numbers. -/
theorem numeric_metricOf {spec : SystemMetricSpec} (hspec : metricSpec name = some spec) :
    (metricOf (r.snapshot texts catalog now) name).value.numeric? =
      (MetricObservation.aggregateValue texts spec.aggregation (r.observations spec)).numeric? := by
  rw [metricOf, lookup_snapshot, hspec]
  rfl

theorem numbers_eq {spec : SystemMetricSpec} (hspec : metricSpec name = some spec) :
    r.numbers name = (r.observations spec).filterMap MetricObservation.numeric? := by
  rw [LatestReads.numbers, hspec]

/-- A counter that adds up. -/
theorem numeric_sum {spec : SystemMetricSpec} (hspec : metricSpec name = some spec)
    (hsum : spec.aggregation = .numeric .sum) :
    (metricOf (r.snapshot texts catalog now) name).value.numeric? = total (r.numbers name) := by
  rw [numeric_metricOf hspec, numbers_eq hspec, hsum, MetricObservation.aggregateValue, total]
  simp only [List.isEmpty_iff]
  split <;> rfl

/-- A counter of the whole system. -/
theorem numeric_resolved {spec : SystemMetricSpec} (hspec : metricSpec name = some spec)
    (hmedian : spec.aggregation = .numeric .median) :
    (resolvedSystemMetric fixed3 (r.snapshot texts catalog now) name absolute
      relative).value.numeric? = consensus absolute relative (r.numbers name) := by
  rw [numeric_resolvedSystemMetric, reported_snapshot]
  intro hnil
  rw [reported_snapshot, numbers_eq hspec] at hnil
  rw [numeric_metricOf hspec, hmedian, MetricObservation.aggregateValue, hnil]
  rfl

/-- The counters that add up over the controllers. -/
def summedCounters : List String := ["daily_charge_wh", "daily_charge_kwh"]

/-- The energy counters of the whole system. -/
def wholeCounters : List String := ["system_charge_kwh_daily", "external_source_charge_kwh_daily"]

/-- What the ledger can take from a counter. -/
def LatestReads.counted (r : LatestReads) (name : String) : Option ℚ :=
  if name ∈ summedCounters then total (r.numbers name)
  else if name ∈ wholeCounters then consensus (1 / 20) (1 / 50) (r.numbers name)
  else none

theorem summed_counted (h : name ∈ summedCounters) :
    (metricOf (r.snapshot texts catalog now) name).value.numeric? = r.counted name := by
  have hall : ∀ name ∈ summedCounters, (metricSpec name).map SystemMetricSpec.aggregation =
      some (.numeric .sum) := by decide +kernel
  obtain ⟨spec, hspec, hsum⟩ := Option.map_eq_some_iff.mp (hall name h)
  rw [numeric_sum hspec hsum, LatestReads.counted, if_pos h]

theorem whole_counted (h : name ∈ wholeCounters) :
    (energyCounter fixed3 (r.snapshot texts catalog now) name).value.numeric? = r.counted name := by
  have hall : ∀ name ∈ wholeCounters, name ∉ summedCounters ∧
      (metricSpec name).map SystemMetricSpec.aggregation = some (.numeric .median) := by
    decide +kernel
  obtain ⟨hnot, hmap⟩ := hall name h
  obtain ⟨spec, hspec, hmedian⟩ := Option.map_eq_some_iff.mp hmap
  rw [energyCounter, numeric_resolved hspec hmedian, LatestReads.counted, if_neg hnot, if_pos h]

/-- Controllers in another order report the same numbers. -/
theorem numbers_perm (h : r'.controllers.Perm r.controllers) :
    (r'.numbers name).Perm (r.numbers name) := by
  rw [LatestReads.numbers, LatestReads.numbers]
  cases metricSpec name with
  | none => exact List.Perm.refl _
  | some spec => exact (h.filterMap _).filterMap _

/-- They count the same. -/
theorem counted_perm (h : r'.controllers.Perm r.controllers) :
    r'.counted name = r.counted name := by
  have hnumbers := @numbers_perm name _ _ h
  rw [LatestReads.counted, LatestReads.counted, total_perm hnumbers, consensus_perm hnumbers]

/-- As many of them contribute, of as many that could. -/
theorem quality_perm (h : r'.controllers.Perm r.controllers) :
    (metricOf (r'.snapshot texts catalog now) name).quality =
      (metricOf (r.snapshot texts catalog now) name).quality := by
  rw [metricOf, metricOf, lookup_snapshot, lookup_snapshot]
  cases metricSpec name with
  | none => rfl
  | some spec =>
      have hcontributors := (distinct_perm ((h.filterMap fun c =>
        c.2.bind (SystemDataRepository.selectValue spec c.1)).map
          MetricObservation.controllerUid)).length_eq
      have hexpected : (SystemDataRepository.eligibleControllerUids catalog
          (r'.controllers.map Prod.fst) spec).length =
            (SystemDataRepository.eligibleControllerUids catalog
              (r.controllers.map Prod.fst) spec).length :=
        (distinct_perm (((h.map Prod.fst).filter _).map _)).length_eq
      dsimp only [Option.map_some, MetricObservation.aggregateObservations,
        LatestReads.observations]
      rw [hcontributors, hexpected]

/-- The charge counters of the whole system resolve to the same. -/
theorem chargeCounter_perm (h : r'.controllers.Perm r.controllers)
    (hname : (metricSpec name).map SystemMetricSpec.aggregation = some (.numeric .median)) :
    (chargeCounter fixed3 (r'.snapshot texts catalog now) name).value.numeric? =
      (chargeCounter fixed3 (r.snapshot texts catalog now) name).value.numeric? := by
  obtain ⟨spec, hspec, hmedian⟩ := Option.map_eq_some_iff.mp hname
  rw [chargeCounter, chargeCounter, numeric_resolved hspec hmedian, numeric_resolved hspec hmedian,
    consensus_perm (numbers_perm h)]

/-- A consensus is within the tolerance of every reporter. -/
theorem abs_sub_consensus_le {m : ℚ} (habsolute : 0 ≤ absolute)
    (h : consensus absolute relative values = some m) :
    ∀ v ∈ values, |m - v| ≤ toleranceOf absolute relative values := by
  rw [consensus] at h
  split at h
  next hagree =>
    have hne : values ≠ [] := by
      rintro rfl
      cases h
    have hbounds := fun low high => @SystemDataRepository.median_mem_bounds _ low high m h
    intro v hv
    obtain hsingle | hclose := hagree
    · obtain ⟨value, rfl⟩ := List.length_eq_one_iff.mp hsingle
      obtain ⟨hlow, hhigh⟩ := hbounds value value (by simp) (by simp)
      rw [List.mem_singleton.mp hv, le_antisymm hhigh hlow, sub_self, abs_zero]
      exact habsolute.trans (le_max_left _ _)
    · exact (abs_sub_le_spread hne hbounds v hv).trans hclose
  next => cases h

end Counters

/-! ## what the ledger says -/

def EnergyFlows.fields (flows : EnergyFlows) : List LedgerField :=
  [flows.solarGeneratedWh, flows.generatorGeneratedWh, flows.externalSourceChargeWh,
    flows.batteryChargeWh, flows.batteryDischargeWh, flows.loadConsumptionWh,
    flows.conversionLossesWh, flows.unaccountedEnergyWh]

/-- A counter of energy in another unit. -/
def inWh (name : String) : Formula := ⟨name, [(.mul, .constant 1000)]⟩

/-- A field of the ledger is backed by a counter, or says why it is not. -/
inductive LedgerField.Backed (counted : String → Option ℚ) (field : LedgerField) : Prop where
  | unknown : field.value = none → field.status = .unknown → field.sourceMetric = none →
      field.formula = none → field.reason.isSome → field.Backed counted
  | observed (name : String) : field.value.isSome → field.value = counted name →
      field.status = .observed → field.sourceMetric = some name → field.formula = none →
      field.reason = none → field.Backed counted
  | derived (name : String) : field.value.isSome → field.value = (inWh name).eval counted →
      field.status = .derived → field.sourceMetric = some name →
      field.formula = some (inWh name).text → field.reason = none → field.Backed counted

/-- The counters of the battery's charge, in the order in which they are taken. -/
def batteryCounters : List String :=
  ["system_charge_kwh_daily", "daily_charge_wh", "daily_charge_kwh"]

/-- What a ledger says of the counters. -/
structure EnergyLedger.Sound (ledger : EnergyLedger) (counted : String → Option ℚ) : Prop where
  backed : ∀ field ∈ ledger.flows.fields, field.Backed counted
  battery : ledger.flows.batteryChargeWh.sourceMetric =
    batteryCounters.find? fun name => (counted name).isSome
  external : ledger.flows.externalSourceChargeWh.sourceMetric =
    ["external_source_charge_kwh_daily"].find? fun name => (counted name).isSome
  others : ∀ field ∈ ledger.flows.fields, field.value.isSome →
    field = ledger.flows.batteryChargeWh ∨ field = ledger.flows.externalSourceChargeWh
  empty : ledger.quality = .empty ↔ (∀ field ∈ ledger.flows.fields, field.value = none) ∧
    ledger.counters.systemBatteryAhDaily.value.numeric? = none ∧
    ledger.counters.systemLoadAhDaily.value.numeric? = none

section Ledger

variable {fixed3 : ℚ → String} {texts : PyTexts} {catalog : String → List String} {now : Nat}
  {r r' : LatestReads} {counted : String → Option ℚ}

theorem LedgerField.backed_unknown (reason : String) :
    (LedgerField.unknown reason).Backed counted :=
  .unknown rfl rfl rfl rfl rfl

theorem eval_inWh {name : String} {x : ℚ} (h : counted name = some x) :
    (inWh name).eval counted = some (x * 1000) := by
  simp [inWh, Formula.eval, Formula.evalRest, Operand.value, Operator.apply, h]

/-- The charge of the battery is of the first counter that says something. -/
theorem batteryCharge_backed :
    (batteryCharge fixed3 (r.snapshot texts catalog now)).Backed r.counted ∧
      (batteryCharge fixed3 (r.snapshot texts catalog now)).sourceMetric =
        batteryCounters.find? fun name => (r.counted name).isSome := by
  have hsystem : (inWh "system_charge_kwh_daily").text = "system_charge_kwh_daily * 1000" := by
    decide +kernel
  have hdaily : (inWh "daily_charge_kwh").text = "daily_charge_kwh * 1000" := by decide +kernel
  rw [batteryCharge, whole_counted (by simp [wholeCounters]),
    summed_counted (by simp [summedCounters]), summed_counted (by simp [summedCounters])]
  cases hwhole : r.counted "system_charge_kwh_daily" with
  | some x =>
      refine ⟨.derived "system_charge_kwh_daily" rfl (eval_inWh hwhole).symm rfl rfl ?_ rfl, ?_⟩
      · rw [hsystem]
      · simp [batteryCounters, hwhole]
  | none =>
      dsimp only
      cases hwh : r.counted "daily_charge_wh" with
      | some x =>
          refine ⟨.observed "daily_charge_wh" rfl hwh.symm rfl rfl rfl rfl, ?_⟩
          simp [batteryCounters, hwhole, hwh]
      | none =>
          dsimp only
          cases hkwh : r.counted "daily_charge_kwh" with
          | some x =>
              refine ⟨.derived "daily_charge_kwh" rfl (eval_inWh hkwh).symm rfl rfl ?_ rfl, ?_⟩
              · rw [hdaily]
              · simp [batteryCounters, hwhole, hwh, hkwh]
          | none =>
              refine ⟨LedgerField.backed_unknown _, ?_⟩
              simp [batteryCounters, hwhole, hwh, hkwh, LedgerField.unknown]

theorem externalSourceCharge_backed :
    (externalSourceCharge fixed3 (r.snapshot texts catalog now)).Backed r.counted ∧
      (externalSourceCharge fixed3 (r.snapshot texts catalog now)).sourceMetric =
        ["external_source_charge_kwh_daily"].find? fun name => (r.counted name).isSome := by
  have htext : (inWh "external_source_charge_kwh_daily").text =
      "external_source_charge_kwh_daily * 1000" := by decide +kernel
  rw [externalSourceCharge, whole_counted (by simp [wholeCounters])]
  cases hwhole : r.counted "external_source_charge_kwh_daily" with
  | some x =>
      refine
        ⟨.derived "external_source_charge_kwh_daily" rfl (eval_inWh hwhole).symm rfl rfl ?_ rfl,
        ?_⟩
      · rw [htext]
      · simp [hwhole]
  | none =>
      refine ⟨LedgerField.backed_unknown _, ?_⟩
      simp [hwhole, LedgerField.unknown]

/-- **The order of the controllers** does not matter to the flows, or to the quality of the whole. -/
theorem flows_perm (h : r'.controllers.Perm r.controllers) :
    (energyLedgerOf fixed3 (r'.snapshot texts catalog now)).flows =
        (energyLedgerOf fixed3 (r.snapshot texts catalog now)).flows ∧
      (energyLedgerOf fixed3 (r'.snapshot texts catalog now)).quality =
        (energyLedgerOf fixed3 (r.snapshot texts catalog now)).quality := by
  have hbattery : batteryCharge fixed3 (r'.snapshot texts catalog now) =
      batteryCharge fixed3 (r.snapshot texts catalog now) := by
    simp only [batteryCharge, whole_counted (List.mem_cons_self : _ ∈ wholeCounters),
      summed_counted (List.mem_cons_self : _ ∈ summedCounters),
      summed_counted (List.mem_cons_of_mem _ List.mem_cons_self : _ ∈ summedCounters),
      counted_perm h, quality_perm h]
  have hexternal : externalSourceCharge fixed3 (r'.snapshot texts catalog now) =
      externalSourceCharge fixed3 (r.snapshot texts catalog now) := by
    simp only [externalSourceCharge,
      whole_counted (List.mem_cons_of_mem _ List.mem_cons_self : _ ∈ wholeCounters),
      counted_perm h]
  have hcharges : ∀ name ∈ ["system_battery_ah_daily", "system_load_ah_daily"],
      (metricSpec name).map SystemMetricSpec.aggregation = some (.numeric .median) := by
    decide +kernel
  simp only [energyLedgerOf, hbattery, hexternal,
    chargeCounter_perm h (hcharges "system_battery_ah_daily" (by simp)),
    chargeCounter_perm h (hcharges "system_load_ah_daily" (by simp)), and_self]

theorem energyLedgerOf_sound :
    (energyLedgerOf fixed3 (r.snapshot texts catalog now)).Sound r.counted where
  backed := by
    intro field hfield
    simp only [EnergyFlows.fields, energyLedgerOf, List.mem_cons, List.not_mem_nil, or_false]
      at hfield
    obtain rfl | rfl | rfl | rfl | rfl | rfl | rfl | rfl := hfield
    · exact LedgerField.backed_unknown _
    · exact LedgerField.backed_unknown _
    · exact externalSourceCharge_backed.1
    · exact batteryCharge_backed.1
    all_goals exact LedgerField.backed_unknown _
  battery := batteryCharge_backed.2
  external := externalSourceCharge_backed.2
  others := by
    intro field hfield hsome
    simp only [EnergyFlows.fields, energyLedgerOf, List.mem_cons, List.not_mem_nil, or_false]
      at hfield
    obtain rfl | rfl | rfl | rfl | rfl | rfl | rfl | rfl := hfield
    · cases hsome
    · cases hsome
    · exact .inr rfl
    · exact .inl rfl
    all_goals cases hsome
  empty := by
    simp only [EnergyFlows.fields, energyLedgerOf, List.mem_cons, List.not_mem_nil, or_false,
      forall_eq_or_imp, forall_eq, LedgerField.unknown, true_and, and_true,
      Option.isSome_iff_ne_none]
    split
    next hsome => exact iff_of_false SystemDataRepository.Quality.noConfusion (by grind)
    next hnone => exact iff_of_true rfl (by grind)

end Ledger

/-- **The ledger** of a system is that of the latest readings of its controllers.  Every field is
backed by a counter, or says why it is not; a counter of the whole system counts where its
reporters agree, and is within the tolerance of each; in which order the controllers are listed
does not matter. -/
theorem energyLedger_sound (fixed3 : ℚ → String) (env : Env) (catalog : String → List String)
    (texts : PyTexts) (config : SystemConfig) (now : Nat) (identifier : String)
    (telemetry : TelemetryDb) (db : SystemDb) :
    energyLedger fixed3 env catalog texts config now identifier telemetry db =
      (SystemDataRepository.latestReads env config now identifier telemetry db).map
        (fun reads => (reads.1, energyLedgerOf fixed3 (reads.2.snapshot texts catalog now))) ∧
    ∀ r : LatestReads, (energyLedgerOf fixed3 (r.snapshot texts catalog now)).Sound r.counted ∧
      (∀ name ∈ wholeCounters, ∀ x, r.counted name = some x → ∀ v ∈ r.numbers name,
        |x - v| ≤ toleranceOf (1 / 20) (1 / 50) (r.numbers name)) ∧
      ∀ r' : LatestReads, r'.controllers.Perm r.controllers → r'.counted = r.counted ∧
        (energyLedgerOf fixed3 (r'.snapshot texts catalog now)).flows =
          (energyLedgerOf fixed3 (r.snapshot texts catalog now)).flows ∧
        (energyLedgerOf fixed3 (r'.snapshot texts catalog now)).quality =
          (energyLedgerOf fixed3 (r.snapshot texts catalog now)).quality := by
  constructor
  · rw [energyLedger, SystemDataRepository.latest]
    cases SystemDataRepository.latestReads env config now identifier telemetry db <;> rfl
  · refine fun r => ⟨energyLedgerOf_sound, fun name hname x hx => ?_, fun r' hperm => ?_⟩
    · have hnot : name ∉ summedCounters := by
        have hall : ∀ name ∈ wholeCounters, name ∉ summedCounters := by decide +kernel
        exact hall name hname
      rw [LatestReads.counted, if_neg hnot, if_pos hname] at hx
      exact abs_sub_consensus_le (by norm_num) hx
    · exact ⟨funext fun name => counted_perm hperm, flows_perm hperm⟩

/-- Reporters that disagree count for nothing. -/
example : consensus (1 / 20) (1 / 50) [2, 3] = none := by decide +kernel

end MorningstarModbus
