import MorningstarModbus.Intelligence.IncidentScans

/-!
# MorningstarModbus.Intelligence.IncidentMirror

What the incidents of a system say about its evidence.  A detector judges the evidence of
a scan: the condition it looks for is there, is not there, or cannot be told.

* `Verdict.Judges` — a detector reports what it judges;
* `Mirrors` — the active incidents of a system are the conditions that were there when
  they were last judged;
* `incidents_mirror_evidence` — this holds over every run of scans.
-/

namespace MorningstarModbus

open Table

/-! ## what detectors judge -/

/-- The detectors that look at a controller. -/
inductive Detector where
  | offline
  | senseDivergence
  | efficiency
  | fault
  | alarm
  | polling
  | chargeCycling
  | coverage
  deriving DecidableEq

namespace Detector

def name : Detector → String
  | offline => "controller_offline"
  | senseDivergence => "battery_sense_divergence"
  | efficiency => "controller_efficiency"
  | fault => "controller_fault"
  | alarm => "controller_alarm"
  | polling => "polling_degradation"
  | chargeCycling => "charge_stage_cycling"
  | coverage => "history_coverage"

/-- In the order in which they run. -/
def all : List Detector :=
  [offline, senseDivergence, efficiency, fault, alarm, polling, chargeCycling, coverage]

/-- There are no other detectors. -/
theorem mem_all (d : Detector) : d ∈ all := by
  cases d <;> decide

theorem all_map_name : all.map name = controllerDetectors := rfl

/-- No two detectors share a name. -/
theorem name_injective : Function.Injective name := by
  intro d d' h
  cases d <;> cases d' <;> first | rfl | (exfalso; revert h; decide)

end Detector

/-- Whether a status register tells that its state is not clear. -/
def judgeStatus (env : Env) (names : List String) (sample : List RegisterCell) : Option Bool :=
  (register sample names).map fun item => ! stateClear env item.value

/-- Two voltages of the battery differ by the warning level. -/
def judgeSense (policy : IncidentPolicy) (sample : List RegisterCell) : Option Bool := do
  let sense ← registerNumber sample ["battery_sense_voltage", "battery_remote_sense_voltage"]
  let terminal ← registerNumber sample ["battery_terminal_voltage", "battery_voltage"]
  return policy.senseWarningV ≤ |terminal - sense|

/-- Less comes out than should of what goes in, when enough goes in to tell. -/
def judgeEfficiency (policy : IncidentPolicy) (sample : List RegisterCell) : Option Bool := do
  let input ← registerNumber sample
    ["input_power", "array_power", "pv_power", "input_power_reported"]
  let output ← registerNumber sample ["output_power", "charge_power", "battery_charge_power"]
  if policy.minimumEfficiencyInputW ≤ input then
    some ((if 0 < input then output / input else 0) < policy.efficiencyWarning)
  else none

def judgePolling (policy : IncidentPolicy) (summary : Option PollingSummary) : Option Bool := do
  let s ← summary
  if policy.pollingMinSamples ≤ s.samples then
    some (s.successRate < policy.pollingWarningSuccessRate ∨
      policy.pollingWarningDeadlineMissRate < s.deadlineMissRate)
  else none

def judgeChargeCycle (policy : IncidentPolicy) (cycle : ChargeCycle) : Option Bool :=
  if 3 ≤ cycle.observedSamples then
    some (policy.chargeCycleAbsorptionEntriesWarning ≤ cycle.absorptionEntries)
  else none

def judgeCoverage (policy : IncidentPolicy) (coverage : Option CoverageEvidence) : Option Bool := do
  let c ← coverage
  let percent ← c.coveragePercent
  if 3 ≤ c.dayCount then some (percent < policy.coverageWarningPercent) else none

/-- What a detector tells from the evidence on a controller: beside its status everything
needs a sample. -/
def Detector.judge (env : Env) (policy : IncidentPolicy) (c : ControllerEvidence) :
    Detector → Option Bool
  | .offline => some (env.lower (match c.status with
      | none | some "" => "unknown"
      | some s => s) ≠ "online")
  | .senseDivergence => c.sample.bind (judgeSense policy)
  | .efficiency => c.sample.bind (judgeEfficiency policy)
  | .fault => c.sample.bind (judgeStatus env ["faults", "fault_state"])
  | .alarm => c.sample.bind (judgeStatus env ["alarms", "alarm_state"])
  | .polling => c.sample.bind fun _ => judgePolling policy c.polling
  | .chargeCycling => c.sample.bind fun _ => judgeChargeCycle policy c.cycle
  | .coverage => c.sample.bind fun _ => judgeCoverage policy c.coverage

/-- Production of a site with a baseline is below it. -/
def judgeSolar (policy : IncidentPolicy) (baseline : SolarBaseline) : Option Bool :=
  if baseline.ready then
    match baseline.currentValue, baseline.expectedMedian with
    | some current, some median =>
        let low := match baseline.expectedLow with
          | none => median
          | some low => if low = 0 then median else low
        some (policy.productionMinExpectedW ≤ median ∧
          current < min (median * policy.productionWarningFraction) (low * (3 / 4)))
    | _, _ => some false
  else none

/-! ## verdicts -/

/-- A verdict that reports a judgement under a key. -/
def Verdict.Judges (v : Verdict) (key : String) : Option Bool → Prop
  | none => v = (none, none)
  | some false => v = (none, some key)
  | some true => ∃ f, v = (some f, some key) ∧ f.fingerprint = key ∧ f.evaluationKey = key

section Judges

variable {v : Verdict} {key : String} {j : Option Bool}

/-- A key is evaluated exactly where the evidence tells something. -/
theorem Verdict.Judges.evaluated (h : v.Judges key j) {k : String} :
    v.2 = some k ↔ k = key ∧ j.isSome := by
  match j with
  | none =>
      rw [show v = (none, none) from h]
      simp
  | some false =>
      rw [show v = (none, some key) from h]
      simp [eq_comm]
  | some true =>
      obtain ⟨f, rfl, -, -⟩ := h
      simp [eq_comm]

/-- There is a finding exactly where it tells of the condition. -/
theorem Verdict.Judges.finding (h : v.Judges key j) : v.1.isSome ↔ j = some true := by
  match j with
  | none =>
      rw [show v = (none, none) from h]
      simp
  | some false =>
      rw [show v = (none, some key) from h]
      simp
  | some true =>
      obtain ⟨f, rfl, -, -⟩ := h
      simp

/-- A finding is filed under the key of its condition. -/
theorem Verdict.Judges.filed (h : v.Judges key j) {f : Finding} (hf : v.1 = some f) :
    f.fingerprint = key ∧ f.evaluationKey = key := by
  match j with
  | none =>
      rw [show v = (none, none) from h] at hf
      cases hf
  | some false =>
      rw [show v = (none, some key) from h] at hf
      cases hf
  | some true =>
      obtain ⟨g, rfl, hp, he⟩ := h
      cases hf
      exact ⟨hp, he⟩

end Judges

section Detectors

variable {key : String}

/-- A detector that reports unless its condition is away. -/
theorem judges_ite {p q : Prop} [Decidable p] [Decidable q] {f : Finding} (hq : q ↔ ¬ p)
    (hp : f.fingerprint = key) (he : f.evaluationKey = key) :
    (if p then (none, some key) else (some f, some key) : Verdict).Judges key
      (some (decide q)) := by
  by_cases h : p
  · rw [if_pos h, decide_eq_false (hq.not.mpr (not_not.mpr h))]
    rfl
  · rw [if_neg h, decide_eq_true (hq.mpr h)]
    exact ⟨f, rfl, hp, he⟩

/-- A detector that needs enough evidence. -/
theorem judges_enough {p r : Prop} [Decidable p] [Decidable r] {v : Verdict} {j : Option Bool}
    (hr : r ↔ ¬ p) (h : v.Judges key j) :
    (if p then (none, none) else v : Verdict).Judges key (if r then j else none) := by
  by_cases hp : p
  · rw [if_pos hp, if_neg (hr.not.mpr (not_not.mpr hp))]
    rfl
  · rw [if_neg hp, if_pos (hr.mpr hp)]
    exact h

variable (env : Env) (policy : IncidentPolicy) (uid : String)

/-- A controller offline. -/
theorem judges_offline (c : ControllerEvidence) :
    (offlineFinding env uid c.status).Judges (incidentKey "controller_offline" uid)
      (Detector.offline.judge env policy c) :=
  judges_ite Iff.rfl rfl rfl

/-- Battery sense and terminals apart. -/
theorem judges_sense (sample : List RegisterCell) :
    (senseFinding policy uid sample).Judges (incidentKey "battery_sense_divergence" uid)
      (judgeSense policy sample) := by
  unfold senseFinding judgeSense
  cases registerNumber sample ["battery_sense_voltage", "battery_remote_sense_voltage"] with
  | none => rfl
  | some sense =>
      cases registerNumber sample ["battery_terminal_voltage", "battery_voltage"] with
      | none => rfl
      | some terminal => exact judges_ite not_lt.symm rfl rfl

/-- Too little of the input put out. -/
theorem judges_efficiency (sample : List RegisterCell) :
    (efficiencyFinding policy uid sample).Judges (incidentKey "controller_efficiency" uid)
      (judgeEfficiency policy sample) := by
  unfold efficiencyFinding judgeEfficiency
  cases registerNumber sample
      ["input_power", "array_power", "pv_power", "input_power_reported"] with
  | none => rfl
  | some input =>
      cases registerNumber sample ["output_power", "charge_power", "battery_charge_power"] with
      | none => rfl
      | some output =>
          generalize hratio : (if 0 < input then output / input else 0) = efficiency
          simp only [Option.bind_eq_bind, Option.bind_some, hratio]
          exact judges_enough not_lt.symm (judges_ite not_le.symm rfl rfl)

/-- A register of alarms or faults that reports some. -/
theorem judges_status (detector : String) (names : List String) (severity : Severity)
    (title : String) (sample : List RegisterCell) :
    (statusFinding env uid detector names severity title sample).Judges
      (incidentKey detector uid) (judgeStatus env names sample) := by
  unfold statusFinding judgeStatus
  cases register sample names with
  | none => rfl
  | some item =>
      have hq : (! stateClear env item.value) = true ↔ ¬ stateClear env item.value = true := by simp
      simpa using judges_ite hq rfl rfl

/-- Polls that fail, or miss their deadlines, too often. -/
theorem judges_polling (summary : Option PollingSummary) :
    (pollingFinding policy uid summary).Judges (incidentKey "polling_degradation" uid)
      (judgePolling policy summary) := by
  unfold pollingFinding judgePolling
  cases summary with
  | none => rfl
  | some s => exact judges_enough not_lt.symm (judges_ite not_not.symm rfl rfl)

/-- A charge stage entered too often. -/
theorem judges_chargeCycle (cycle : ChargeCycle) :
    (chargeCycleFinding policy uid cycle).Judges (incidentKey "charge_stage_cycling" uid)
      (judgeChargeCycle policy cycle) :=
  judges_enough not_lt.symm (judges_ite not_lt.symm rfl rfl)

/-- Too little of the history covered. -/
theorem judges_coverage (coverage : Option CoverageEvidence) :
    (coverageFinding policy uid coverage).Judges (incidentKey "history_coverage" uid)
      (judgeCoverage policy coverage) := by
  unfold coverageFinding judgeCoverage
  cases coverage with
  | none => rfl
  | some c =>
      obtain ⟨dayCount, percent, covered, recovered, missing⟩ := c
      cases percent with
      | none => rfl
      | some percent => exact judges_enough not_lt.symm (judges_ite not_le.symm rfl rfl)

/-- The solar rule, which is of the system. -/
theorem judges_solar (identifier : String) (baseline : SolarBaseline) :
    (solarFinding policy identifier baseline).Judges
      (incidentKey "solar_underproduction" identifier) (judgeSolar policy baseline) := by
  unfold solarFinding judgeSolar
  refine judges_enough not_not.symm ?_
  cases baseline.currentValue with
  | none => rfl
  | some current =>
      cases baseline.expectedMedian with
      | none => rfl
      | some median =>
          by_cases h : median < policy.productionMinExpectedW
          · simp only [if_pos h, not_le.mpr h, false_and, decide_false]
            rfl
          · simp only [if_neg h, not_lt.mp h, true_and]
            exact judges_ite not_le.symm rfl rfl

end Detectors

/-! ## the conditions of a scan -/

/-- A condition that the incidents of a system can be about. -/
inductive Condition where
  | controller (d : Detector) (uid : String)
  | underproduction
  deriving DecidableEq

/-- The fingerprint of a condition, for the identifier a scan is called with. -/
def Condition.key (identifier : String) : Condition → String
  | .controller d uid => incidentKey d.name uid
  | .underproduction => incidentKey "solar_underproduction" identifier

/-- Every detector is one of the controllers' own. -/
theorem Detector.name_mem (d : Detector) : d.name ∈ controllerDetectors := by
  rw [← Detector.all_map_name]
  exact List.mem_map_of_mem d.mem_all

/-- Under one identifier each condition has a key of its own. -/
theorem Condition.key_injective (identifier : String) :
    Function.Injective (Condition.key identifier) := by
  have hsolar : ∀ (d : Detector) (uid : String),
      incidentKey d.name uid ≠ incidentKey "solar_underproduction" identifier := by
    intro d uid h
    have hname := (incidentKey_injective (separator_notMem d.name_mem) (by decide) h).1
    exact absurd (hname ▸ d.name_mem) (by decide)
  intro a b h
  cases a with
  | underproduction =>
      cases b with
      | underproduction => rfl
      | controller d uid => exact absurd h.symm (hsolar d uid)
  | controller d uid =>
      cases b with
      | underproduction => exact absurd h (hsolar d uid)
      | controller d' uid' =>
          obtain ⟨hd, hu⟩ := incidentKey_injective (separator_notMem d.name_mem)
            (separator_notMem d'.name_mem) h
          rw [Detector.name_injective hd, hu]

section Scan

variable (env : Env) (policy : IncidentPolicy)

/-- The verdict of a detector on a controller. -/
def Detector.verdict (c : ControllerEvidence) : Detector → Verdict
  | .offline => offlineFinding env c.controllerUid c.status
  | .senseDivergence => c.sample.elim (none, none) (senseFinding policy c.controllerUid)
  | .efficiency => c.sample.elim (none, none) (efficiencyFinding policy c.controllerUid)
  | .fault => c.sample.elim (none, none) (faultFinding env c.controllerUid)
  | .alarm => c.sample.elim (none, none) (alarmFinding env c.controllerUid)
  | .polling => c.sample.elim (none, none) fun _ => pollingFinding policy c.controllerUid c.polling
  | .chargeCycling =>
      c.sample.elim (none, none) fun _ => chargeCycleFinding policy c.controllerUid c.cycle
  | .coverage =>
      c.sample.elim (none, none) fun _ => coverageFinding policy c.controllerUid c.coverage

/-- All rules of a controller, in one statement. -/
theorem Detector.judges (c : ControllerEvidence) (d : Detector) :
    (d.verdict env policy c).Judges (incidentKey d.name c.controllerUid)
      (d.judge env policy c) := by
  cases d with
  | offline => exact judges_offline env policy c.controllerUid c
  | senseDivergence =>
      unfold verdict judge
      cases c.sample with
      | none => rfl
      | some sample => exact judges_sense policy _ sample
  | efficiency =>
      unfold verdict judge
      cases c.sample with
      | none => rfl
      | some sample => exact judges_efficiency policy _ sample
  | fault =>
      unfold verdict judge
      cases c.sample with
      | none => rfl
      | some sample => exact judges_status env _ _ _ _ _ sample
  | alarm =>
      unfold verdict judge
      cases c.sample with
      | none => rfl
      | some sample => exact judges_status env _ _ _ _ _ sample
  | polling =>
      unfold verdict judge
      cases c.sample with
      | none => rfl
      | some sample => exact judges_polling policy _ c.polling
  | chargeCycling =>
      unfold verdict judge
      cases c.sample with
      | none => rfl
      | some sample => exact judges_chargeCycle policy _ c.cycle
  | coverage =>
      unfold verdict judge
      cases c.sample with
      | none => rfl
      | some sample => exact judges_coverage policy _ c.coverage

/-- What a scan keeps of the verdicts on a controller, by detector. -/
theorem filterMap_evaluateController {β : Type} {g : Verdict → Option β}
    (hg : g (none, none) = none) (c : ControllerEvidence) :
    (evaluateController env policy c).filterMap g =
      (Detector.all.map (Detector.verdict env policy c)).filterMap g := by
  unfold evaluateController
  cases hsample : c.sample with
  | none => simp [Detector.all, Detector.verdict, hsample, List.filterMap_cons, hg]
  | some sample => simp [Detector.all, Detector.verdict, hsample]

/-- What a scan judges of a condition; nothing of controllers it does not look at. -/
def ScanCall.judge (c : ScanCall) : Condition → Option Bool
  | .controller d uid =>
      (lookup ControllerEvidence.controllerUid uid c.controllers).bind fun e => d.judge env policy e
  | .underproduction => judgeSolar policy c.baseline

def ScanCall.verdict (c : ScanCall) : Condition → Verdict
  | .controller d uid =>
      (lookup ControllerEvidence.controllerUid uid c.controllers).elim (none, none) fun e =>
        d.verdict env policy e
  | .underproduction => solarFinding policy c.identifier c.baseline

/-- The keys a scan evaluates. -/
def ScanCall.evaluated (c : ScanCall) : List String :=
  (scanVerdicts env policy c.identifier c.controllers c.baseline).filterMap Prod.snd

variable {env policy} {c : ScanCall} {systems : List SystemRow}

/-- And all conditions of a scan. -/
theorem ScanCall.judges (cond : Condition) :
    (c.verdict env policy cond).Judges (cond.key c.identifier) (c.judge env policy cond) := by
  cases cond with
  | underproduction => exact judges_solar policy c.identifier c.baseline
  | controller d uid =>
      rw [verdict, judge]
      cases hl : lookup ControllerEvidence.controllerUid uid c.controllers with
      | none => rfl
      | some e =>
          have huid : e.controllerUid = uid := (mem_of_lookup hl).2
          rw [← huid]
          exact d.judges env policy e

/-- What is kept of the verdicts of a scan is kept of those on the conditions. -/
theorem ScanCall.mem_filterMap {β : Type} {g : Verdict → Option β} (hg : g (none, none) = none)
    (hc : c.Valid systems) {x : β} :
    x ∈ (scanVerdicts env policy c.identifier c.controllers c.baseline).filterMap g ↔
      ∃ cond, g (c.verdict env policy cond) = some x := by
  obtain ⟨s, -, hnodup, -⟩ := hc
  rw [scanVerdicts, List.filterMap_append, List.mem_append, List.filterMap_flatMap]
  simp only [filterMap_evaluateController env policy hg, List.mem_flatMap, List.mem_filterMap,
    List.mem_map, List.mem_singleton]
  constructor
  · rintro (⟨e, he, v, ⟨d, -, rfl⟩, hv⟩ | ⟨v, rfl, hv⟩)
    · refine ⟨.controller d e.controllerUid, ?_⟩
      rw [ScanCall.verdict, lookup_of_mem hnodup he]
      exact hv
    · exact ⟨.underproduction, hv⟩
  · rintro ⟨cond, hv⟩
    cases cond with
    | underproduction => exact .inr ⟨_, rfl, hv⟩
    | controller d uid =>
        rw [ScanCall.verdict] at hv
        cases hl : lookup ControllerEvidence.controllerUid uid c.controllers with
        | none =>
            rw [hl, Option.elim_none, hg] at hv
            cases hv
        | some e =>
            rw [hl] at hv
            exact .inl ⟨e, (mem_of_lookup hl).1, _, ⟨d, d.mem_all, rfl⟩, hv⟩

/-- The findings of a scan are those of its conditions. -/
theorem ScanCall.mem_findings (hc : c.Valid systems) {f : Finding} :
    f ∈ c.findings env policy ↔ ∃ cond, (c.verdict env policy cond).1 = some f :=
  ScanCall.mem_filterMap rfl hc

/-- A condition is evaluated when something is judged of it. -/
theorem ScanCall.key_mem_evaluated (hc : c.Valid systems) {cond : Condition} :
    cond.key c.identifier ∈ c.evaluated env policy ↔ (c.judge env policy cond).isSome := by
  rw [ScanCall.evaluated, ScanCall.mem_filterMap rfl hc]
  constructor
  · rintro ⟨cond', hv⟩
    obtain ⟨hkey, hj⟩ := (ScanCall.judges cond').evaluated.mp hv
    rwa [Condition.key_injective _ hkey]
  · exact fun hj => ⟨cond, (ScanCall.judges cond).evaluated.mpr ⟨rfl, hj⟩⟩

/-- The findings with the key of a condition are those of its verdict. -/
theorem ScanCall.finding_iff (hc : c.Valid systems) {cond : Condition} {f : Finding} :
    f ∈ c.findings env policy ∧ f.fingerprint = cond.key c.identifier ↔
      (c.verdict env policy cond).1 = some f := by
  rw [ScanCall.mem_findings hc]
  constructor
  · rintro ⟨⟨cond', hv⟩, hkey⟩
    rwa [← Condition.key_injective _ (((ScanCall.judges cond').filed hv).1.symm.trans hkey)]
  · exact fun hv => ⟨⟨cond, hv⟩, ((ScanCall.judges cond).filed hv).1⟩

end Scan

/-! ## runs -/

section Runs

variable (ienv : IncidentEnv) (env : Env) (policy : IncidentPolicy) (systems : List SystemRow)

/-- The scans that committed, the last one first, and the table they leave.  Scans of all
systems share it; one that fails leaves it, but for the uids it drew. -/
inductive ScanHistory : List ScanCall → IncidentDb → Prop
  | empty : ScanHistory [] {}
  | committed {scans db db' transitions} {c : ScanCall} : ScanHistory scans db →
      c.Valid systems → c.run ienv env policy db = .ok (db', transitions) →
      ScanHistory (c :: scans) db'
  | rolledBack {scans db e} {c : ScanCall} {drawn : Nat} : ScanHistory scans db →
      c.Valid systems → c.run ienv env policy db = .error e → db.drawn ≤ drawn →
      ScanHistory scans { db with drawn }

/-- The last scan under an identifier that could tell of a condition. -/
def lastJudged (scans : List ScanCall) (identifier : String) (cond : Condition) :
    Option ScanCall :=
  scans.find? fun c => c.identifier = identifier ∧ (c.judge env policy cond).isSome

/-- A row shows a finding as a scan made it. -/
structure IncidentRow.Shows (r : IncidentRow) (now : Nat) (f : Finding) : Prop where
  fingerprint : r.fingerprint = f.fingerprint
  rank : (r.category, r.severity, r.confidence) = (f.category, f.severity, f.confidence)
  texts : (r.title, r.summary) = (f.title, f.summary)
  values : (r.observedValue, r.expectedLow, r.expectedHigh, r.unit) =
    (f.observedValue, f.expectedLow, f.expectedHigh, f.unit)
  evidence : r.evidence = f.evidence
  observed : r.lastObservedAt = now

/-- The active incidents are the conditions that were there when they were last judged, and
show what was found then. -/
structure Mirrors (scans : List ScanCall) (db : IncidentDb) : Prop where
  active : ∀ identifier (cond : Condition),
    (∃ r ∈ db.rows, r.state = .active ∧ r.systemUid = identifier ∧
      r.fingerprint = cond.key identifier) ↔
    ∃ c, lastJudged env policy scans identifier cond = some c ∧
      c.judge env policy cond = some true
  shown : ∀ r ∈ db.rows, r.state = .active → ∃ cond c f,
    lastJudged env policy scans r.systemUid cond = some c ∧
      (c.verdict env policy cond).1 = some f ∧ r.Shows c.now f

variable {ienv env policy systems} {scans : List ScanCall} {db db' : IncidentDb} {c : ScanCall}

/-- Scans are reconciliations, so what runs of those keep holds here. -/
theorem ScanHistory.toRun (h : ScanHistory ienv env policy systems scans db) :
    ScanRun ienv env policy systems db := by
  induction h with
  | empty => exact .empty
  | committed _ hc hok ih => exact .committed ih hc hok
  | rolledBack _ hc herr hle ih => exact .rolledBack ih hc herr hle

/-- A scan that commits, as its `reconcile` call. -/
theorem ScanCall.Valid.reconciled_of_ok {transitions : List Transition} (hc : c.Valid systems)
    (hw : db.WellFormed ienv) (hinj : Function.Injective ienv.incidentUid)
    (hok : c.run ienv env policy db = .ok (db', transitions)) :
    Reconciled ienv c.identifier c.now (c.findings env policy) (c.evaluated env policy) db db'
      transitions := by
  have hfree := noneHeldElsewhere_of_ok hc hw hinj hok
  obtain ⟨db'', transitions', hok', hrec⟩ := reconcile_spec c.now (c.evaluated env policy) hw hinj
    (hc.nodup env policy) fun f hf r hr ha => hfree f hf r hr (isActive_iff.mp ha)
  have hsame : c.run ienv env policy db = .ok (db'', transitions') := hok'
  rw [hok, Except.ok.injEq, Prod.mk.injEq] at hsame
  rwa [hsame.1, hsame.2]

/-! ### one more scan -/

/-- The last scan that could tell was one of the same identifier. -/
theorem identifier_of_lastJudged {identifier : String} {cond : Condition}
    (h : lastJudged env policy scans identifier cond = some c) : c.identifier = identifier := by
  have hfound := List.find?_some h
  simp only [decide_eq_true_eq] at hfound
  exact hfound.1

/-- A scan that can tell is the last one. -/
theorem lastJudged_cons_of_judged {identifier : String} {cond : Condition}
    (hi : c.identifier = identifier) (hj : (c.judge env policy cond).isSome) :
    lastJudged env policy (c :: scans) identifier cond = some c := by
  rw [lastJudged, List.find?_cons_of_pos (by simp [hi, hj])]

/-- One that cannot leaves it to the scans before. -/
theorem lastJudged_cons_of_not {identifier : String} {cond : Condition}
    (h : c.identifier = identifier → c.judge env policy cond = none) :
    lastJudged env policy (c :: scans) identifier cond =
      lastJudged env policy scans identifier cond := by
  rw [lastJudged, List.find?_cons_of_neg (by simpa using h), lastJudged]

/-- A new incident shows its finding. -/
theorem shows_opened (uid systemUid : String) (now : Nat) (f : Finding) :
    (IncidentRow.opened uid systemUid now f).Shows now f :=
  ⟨rfl, rfl, rfl, rfl, rfl, rfl⟩

/-- So does one that was found again. -/
theorem shows_refreshed {r : IncidentRow} {now : Nat} {f : Finding}
    (h : r.fingerprint = f.fingerprint) : (r.refreshed now f).Shows now f :=
  ⟨h, rfl, rfl, rfl, rfl, rfl⟩

/-- What a run keeps: `Mirrors`, and rows are filed under the key that was evaluated. -/
structure MirrorsRun (env : Env) (policy : IncidentPolicy) (scans : List ScanCall)
    (db : IncidentDb) : Prop extends Mirrors env policy scans db where
  filed : ∀ r ∈ db.rows, r.evaluationKey = r.fingerprint

theorem mirrorsRun_empty : MirrorsRun env policy [] {} where
  active := by simp [lastJudged]
  shown := by simp
  filed := by simp

section Step

variable {transitions : List Transition}

/-- An active row after a scan of its system shows a finding of that scan, or its condition
could not be told and the row is as it was. -/
theorem Reconciled.row_cases {r : IncidentRow} (hc : c.Valid systems)
    (hfiled : ∀ r ∈ db.rows, r.evaluationKey = r.fingerprint)
    (hrec : Reconciled ienv c.identifier c.now (c.findings env policy) (c.evaluated env policy)
      db db' transitions)
    (hr : r ∈ db'.rows) (ha : r.state = .active) (hs : r.systemUid = c.identifier) :
    (∃ cond f, (c.verdict env policy cond).1 = some f ∧ r.Shows c.now f) ∨
      r ∈ db.rows ∧ ∀ cond : Condition, r.fingerprint = cond.key c.identifier →
        c.judge env policy cond = none := by
  rcases hrec.mem_rows.mp hr with ⟨old, hold, rfl⟩ | hnew
  · have hkept :=
      (after_kept c.identifier ⟨c.now, c.findings env policy, c.evaluated env policy⟩ old).2.2
    have hsys : old.systemUid = c.identifier := hkept.symm.trans hs
    by_cases hactive : old.isActive = true
    · rcases after_cases c.now (c.findings env policy) (c.evaluated env policy) hsys hactive with
        ⟨-, heq⟩ | ⟨f, hf, hfp, heq⟩ | ⟨-, hkey, heq⟩
      · rw [heq] at ha
        cases ha
      · obtain ⟨cond, hv⟩ := (ScanCall.mem_findings hc).mp hf
        exact .inl ⟨cond, f, hv, heq ▸ shows_refreshed hfp.symm⟩
      · rw [heq]
        refine .inr ⟨hold, fun cond hcond => ?_⟩
        rw [hfiled old hold, hcond, ScanCall.key_mem_evaluated hc, Option.not_isSome_iff_eq_none]
          at hkey
        exact hkey
    · rw [after_of_not fun hboth => hactive hboth.2] at ha
      exact absurd (isActive_iff.mpr ha) hactive
  · obtain ⟨i, f, hf, -, rfl⟩ := mem_openedRows hnew
    obtain ⟨cond, hv⟩ := (ScanCall.mem_findings hc).mp (List.mem_filter.mp hf).1
    exact .inl ⟨cond, f, hv, shows_opened _ _ _ _⟩

/-- An active row stays, refreshed or as it was, when its condition cannot be told. -/
theorem Reconciled.row_stays {r : IncidentRow} (hc : c.Valid systems)
    (hfiled : ∀ r ∈ db.rows, r.evaluationKey = r.fingerprint)
    (hrec : Reconciled ienv c.identifier c.now (c.findings env policy) (c.evaluated env policy)
      db db' transitions)
    (hr : r ∈ db.rows) (ha : r.state = .active) (hs : r.systemUid = c.identifier)
    {cond : Condition} (hcond : r.fingerprint = cond.key c.identifier)
    (hj : c.judge env policy cond = none) :
    ∃ r' ∈ db'.rows, r'.state = .active ∧ r'.systemUid = c.identifier ∧
      r'.fingerprint = cond.key c.identifier := by
  have hmem := hrec.mem_rows.mpr (.inl ⟨r, hr, rfl⟩)
  rcases after_cases c.now (c.findings env policy) (c.evaluated env policy) hs
      (isActive_iff.mpr ha) with ⟨hgone, -⟩ | ⟨f, -, -, heq⟩ | ⟨-, -, heq⟩
  · simp only [IncidentRow.gone, decide_eq_true_eq] at hgone
    have hkey := hgone.2
    rw [hfiled r hr, hcond, ScanCall.key_mem_evaluated hc, hj] at hkey
    cases hkey
  · rw [heq] at hmem
    exact ⟨_, hmem, ha, hs, hcond⟩
  · rw [heq] at hmem
    exact ⟨r, hmem, ha, hs, hcond⟩

/-- Incidents stay filed under their own fingerprints. -/
theorem MirrorsRun.filed_after (h : MirrorsRun env policy scans db) (hc : c.Valid systems)
    (hrec : Reconciled ienv c.identifier c.now (c.findings env policy) (c.evaluated env policy)
      db db' transitions) :
    ∀ r ∈ db'.rows, r.evaluationKey = r.fingerprint := by
  intro r hr
  rcases hrec.mem_rows.mp hr with ⟨old, hold, rfl⟩ | hnew
  · rw [(after_kept c.identifier ⟨c.now, c.findings env policy, c.evaluated env policy⟩ old).2.1,
      after_fingerprint]
    exact h.filed old hold
  · obtain ⟨i, f, hf, -, rfl⟩ := mem_openedRows hnew
    obtain ⟨cond, hv⟩ := (ScanCall.mem_findings hc).mp (List.mem_filter.mp hf).1
    obtain ⟨hfp, hkey⟩ := (ScanCall.judges cond).filed hv
    exact hkey.trans hfp.symm

/-- An active row after a scan, by the last scan that judged its condition. -/
theorem MirrorsRun.shown_after (h : MirrorsRun env policy scans db) (hc : c.Valid systems)
    (hrec : Reconciled ienv c.identifier c.now (c.findings env policy) (c.evaluated env policy)
      db db' transitions) {r : IncidentRow} (hr : r ∈ db'.rows) (ha : r.state = .active) :
    ∃ cond c' f, lastJudged env policy (c :: scans) r.systemUid cond = some c' ∧
      (c'.verdict env policy cond).1 = some f ∧ r.Shows c'.now f := by
  have hold : r ∈ db.rows → (∀ cond : Condition, c.identifier = r.systemUid →
      r.fingerprint = cond.key c.identifier → c.judge env policy cond = none) →
      ∃ cond c' f, lastJudged env policy (c :: scans) r.systemUid cond = some c' ∧
        (c'.verdict env policy cond).1 = some f ∧ r.Shows c'.now f := by
    intro hmem hnot
    obtain ⟨cond, c', f, hlast, hv, hshows⟩ := h.shown r hmem ha
    refine ⟨cond, c', f, ?_, hv, hshows⟩
    rw [lastJudged_cons_of_not fun hi => hnot cond hi ?_, hlast]
    rw [hshows.fingerprint, ((ScanCall.judges cond).filed hv).1, identifier_of_lastJudged hlast, hi]
  by_cases hs : r.systemUid = c.identifier
  · rcases hrec.row_cases hc h.filed hr ha hs with ⟨cond, f, hv, hshows⟩ | ⟨hmem, hnot⟩
    · have hj : c.judge env policy cond = some true :=
        (ScanCall.judges cond).finding.mp (by rw [hv]; rfl)
      exact ⟨cond, c, f, lastJudged_cons_of_judged hs.symm (by rw [hj]; rfl), hv, hshows⟩
    · exact hold hmem fun cond _ => hnot cond
  · exact hold ((hrec.mem_rows_of_ne hs).mp hr) fun _ hi => absurd hi.symm hs

/-- **One more scan** keeps the mirror. -/
theorem MirrorsRun.committed (h : MirrorsRun env policy scans db) (hc : c.Valid systems)
    (hrec : Reconciled ienv c.identifier c.now (c.findings env policy) (c.evaluated env policy)
      db db' transitions) : MirrorsRun env policy (c :: scans) db' where
  shown _ hr ha := h.shown_after hc hrec hr ha
  filed := h.filed_after hc hrec
  active identifier cond := by
    constructor
    · rintro ⟨r, hr, ha, rfl, hkey⟩
      obtain ⟨cond', c', f, hlast, hv, hshows⟩ := h.shown_after hc hrec hr ha
      have hid := identifier_of_lastJudged hlast
      have hsame : cond' = cond := by
        refine Condition.key_injective r.systemUid ?_
        rw [← hkey, hshows.fingerprint, ((ScanCall.judges cond').filed hv).1, hid]
      rw [hsame] at hlast hv
      exact ⟨c', hlast, (ScanCall.judges cond).finding.mp (by rw [hv]; rfl)⟩
    · rintro ⟨c', hlast, hj⟩
      by_cases hid : c.identifier = identifier
      · by_cases hnow : (c.judge env policy cond).isSome
        · -- the scan itself judged the condition, and found it
          rw [lastJudged_cons_of_judged hid hnow, Option.some.injEq] at hlast
          rw [← hlast] at hj
          obtain ⟨f, hf⟩ := Option.isSome_iff_exists.mp ((ScanCall.judges cond).finding.mpr hj)
          obtain ⟨hmem, hkey⟩ := (ScanCall.finding_iff hc).mpr hf
          obtain ⟨r, hr, ha, hfp, hs⟩ := hrec.active_of_finding (hc.nodup env policy) hmem
          exact ⟨r, hr, ha, hs.trans hid, by rw [hfp, hkey, hid]⟩
        · have hnone := Option.not_isSome_iff_eq_none.mp hnow
          rw [lastJudged_cons_of_not fun _ => hnone] at hlast
          obtain ⟨r, hr, ha, hs, hkey⟩ := (h.active identifier cond).mpr ⟨c', hlast, hj⟩
          rw [← hid] at hs hkey ⊢
          exact hrec.row_stays hc h.filed hr ha hs hkey hnone
      · rw [lastJudged_cons_of_not fun hi => absurd hi hid] at hlast
        obtain ⟨r, hr, ha, hs, hkey⟩ := (h.active identifier cond).mpr ⟨c', hlast, hj⟩
        have hne : r.systemUid ≠ c.identifier := fun heq => hid (heq.symm.trans hs)
        exact ⟨r, (hrec.mem_rows_of_ne hne).mpr hr, ha, hs, hkey⟩

end Step

/-- **Every run** of scans keeps the mirror. -/
theorem ScanHistory.mirrorsRun (h : ScanHistory ienv env policy systems scans db)
    (hinj : Function.Injective ienv.incidentUid) : MirrorsRun env policy scans db := by
  induction h with
  | empty => exact mirrorsRun_empty
  | committed hrun hc hok ih =>
      exact ih.committed hc (hc.reconciled_of_ok (hrun.toRun.wellFormed hinj) hinj hok)
  | rolledBack _ _ _ _ ih => exact ⟨⟨ih.active, ih.shown⟩, ih.filed⟩

/-- **Incidents mirror the evidence**: over every run of scans of any systems, an incident is
active under an identifier exactly when the last scan under it that could tell of the condition
found it there, and it shows what that scan found.  So a scan that lacks the evidence neither
opens nor resolves anything. -/
theorem incidents_mirror_evidence (hinj : Function.Injective ienv.incidentUid)
    (hrun : ScanHistory ienv env policy systems scans db) : Mirrors env policy scans db :=
  (hrun.mirrorsRun hinj).toMirrors

end Runs

/-! ## a controller that falls silent -/

/-- A controller whose fault register is set. -/
def faultyController (uid : String) : ControllerEvidence where
  controllerUid := uid
  status := some "online"
  sample := some [⟨"faults", .text "overcurrent"⟩]
  polling := none
  cycle := ⟨0, 0, [], 0⟩
  coverage := none

/-- A scan of the roof that finds the fault, and one after it without a sample. -/
def silencedScans : List ScanCall :=
  [scanOf "sys_roof" 2 ["a"], { scanOf "sys_roof" 1 [] with controllers := [faultyController "a"] }]

/-- The fault stays active when the next scan has no sample. -/
theorem incidents_mirror_evidence_silent :
    ∃ db, ScanHistory plainIncidentEnv lowerCaseEnv {} roofAndBarn silencedScans db ∧
      db.rows.map IncidentRow.fingerprint = ["controller_fault|a", "controller_offline|a"] ∧
      db.rows.map IncidentRow.state = [.active, .active] ∧
      Mirrors lowerCaseEnv {} silencedScans db := by
  have heval : (do
      let first ← { scanOf "sys_roof" 1 [] with controllers := [faultyController "a"] }.run
        plainIncidentEnv lowerCaseEnv {} {}
      let second ← (scanOf "sys_roof" 2 ["a"]).run plainIncidentEnv lowerCaseEnv {} first.1
      return (second.1.rows.map IncidentRow.fingerprint, second.1.rows.map IncidentRow.state)) =
        .ok (["controller_fault|a", "controller_offline|a"], [.active, .active]) := by
    decide +kernel
  simp only [Loop.bind_eq_ok, Loop.pure_eq_ok, Except.ok.injEq, Prod.mk.injEq] at heval
  obtain ⟨⟨db₁, t₁⟩, hfirst, ⟨db₂, t₂⟩, hsecond, hkeys, hstates⟩ := heval
  have hrun : ScanHistory plainIncidentEnv lowerCaseEnv {} roofAndBarn silencedScans db₂ :=
    .committed (.committed .empty
      ⟨⟨"sys_roof", "Roof", ["a", "shared"]⟩, by decide, by decide, by decide⟩ hfirst)
      ⟨⟨"sys_roof", "Roof", ["a", "shared"]⟩, by decide, by decide, by decide⟩ hsecond
  exact ⟨db₂, hrun, hkeys, hstates, incidents_mirror_evidence plainIncidentEnv_injective hrun⟩

end MorningstarModbus
