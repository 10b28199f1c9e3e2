import Mathlib.Logic.Relation
import MorningstarModbus.Intelligence.Incidents
import MorningstarModbus.Persistence.IncidentLifecycle

/-!
# MorningstarModbus.Intelligence.IncidentScans

Scans of several systems over one incident table.

* `Verdict.Reports` — every detector's finding carries the key it evaluated;
* `scan_fingerprints_nodup` — the findings of a scan have distinct fingerprints;
* `scans_do_not_interfere` — scans succeed and stay within their system while
  no fingerprint is active under another identifier.
-/

namespace MorningstarModbus

open Table

/-! ## what detectors report -/

/-- A finding is filed under the key its detector evaluated. -/
def Verdict.Reports (v : Verdict) (key : String) : Prop :=
  ∀ f, v.1 = some f → f.fingerprint = key ∧ f.evaluationKey = key ∧ v.2 = some key

section Reports

variable (env : Env) (policy : IncidentPolicy) (uid : String)

theorem reports_none (key : String) (evaluated : Option String) :
    Verdict.Reports (none, evaluated) key := by
  intro f hf
  cases hf

theorem reports_some {f : Finding} {key : String} (hp : f.fingerprint = key)
    (he : f.evaluationKey = key) : Verdict.Reports (some f, some key) key := by
  intro g hg
  cases hg
  exact ⟨hp, he, rfl⟩

theorem reports_offline (status : Option String) :
    (offlineFinding env uid status).Reports (incidentKey "controller_offline" uid) := by
  unfold offlineFinding
  generalize env.lower _ = text
  dsimp only
  split
  · exact reports_none _ _
  · exact reports_some rfl rfl

theorem reports_sense (sample : List RegisterCell) :
    (senseFinding policy uid sample).Reports (incidentKey "battery_sense_divergence" uid) := by
  unfold senseFinding
  split
  · dsimp only
    split
    · exact reports_none _ _
    · exact reports_some rfl rfl
  · exact reports_none _ _

theorem reports_efficiency (sample : List RegisterCell) :
    (efficiencyFinding policy uid sample).Reports (incidentKey "controller_efficiency" uid) := by
  unfold efficiencyFinding
  split
  case h_1 input output _ _ =>
    generalize hratio : (if 0 < input then output / input else 0) = efficiency
    split
    · exact reports_none _ _
    · dsimp only
      split
      · exact reports_none _ _
      · exact reports_some rfl rfl
  case h_2 => exact reports_none _ _

theorem reports_status (detector : String) (names : List String) (severity : Severity)
    (title : String) (sample : List RegisterCell) :
    (statusFinding env uid detector names severity title sample).Reports
      (incidentKey detector uid) := by
  unfold statusFinding
  split
  · exact reports_none _ _
  · dsimp only
    split
    · exact reports_none _ _
    · exact reports_some rfl rfl

theorem reports_polling (summary : Option PollingSummary) :
    (pollingFinding policy uid summary).Reports (incidentKey "polling_degradation" uid) := by
  unfold pollingFinding
  split
  · exact reports_none _ _
  · split
    · exact reports_none _ _
    · dsimp only
      split
      · exact reports_none _ _
      · exact reports_some rfl rfl

theorem reports_chargeCycle (cycle : ChargeCycle) :
    (chargeCycleFinding policy uid cycle).Reports (incidentKey "charge_stage_cycling" uid) := by
  unfold chargeCycleFinding
  split
  · exact reports_none _ _
  · dsimp only
    split
    · exact reports_none _ _
    · exact reports_some rfl rfl

theorem reports_coverage (coverage : Option CoverageEvidence) :
    (coverageFinding policy uid coverage).Reports (incidentKey "history_coverage" uid) := by
  unfold coverageFinding
  split
  · split
    · exact reports_none _ _
    · dsimp only
      split
      · exact reports_none _ _
      · exact reports_some rfl rfl
  · exact reports_none _ _

theorem reports_solar (baseline : SolarBaseline) :
    (solarFinding policy uid baseline).Reports (incidentKey "solar_underproduction" uid) := by
  unfold solarFinding
  dsimp only
  split
  · exact reports_none _ _
  · split
    case h_1 =>
      generalize (min _ _ : ℚ) = trigger
      split
      · exact reports_none _ _
      · split
        · exact reports_none _ _
        · exact reports_some rfl rfl
    case h_2 => exact reports_none _ _

end Reports

/-! ## fingerprints of a scan -/

/-- The detectors of a controller, in the order they run. -/
def controllerDetectors : List String :=
  ["controller_offline", "battery_sense_divergence", "controller_efficiency", "controller_fault",
    "controller_alarm", "polling_degradation", "charge_stage_cycling", "history_coverage"]

/-- A key determines its detector and what it looks at. -/
theorem incidentKey_injective {d d' i i' : String} (hd : '|' ∉ d.toList) (hd' : '|' ∉ d'.toList)
    (h : incidentKey d i = incidentKey d' i') : d = d' ∧ i = i' := by
  have hlist : d.toList ++ '|' :: i.toList = d'.toList ++ '|' :: i'.toList := by
    simpa [incidentKey, String.toList_append] using congrArg String.toList h
  obtain ⟨h₁, h₂⟩ := Text.split_first hd hd' hlist
  exact ⟨String.toList_inj.mp h₁, String.toList_inj.mp h₂⟩

/-- The findings of verdicts that report given keys have some of those keys. -/
theorem fingerprints_sublist {verdicts : List Verdict} {keys : List String}
    (h : List.Forall₂ Verdict.Reports verdicts keys) :
    ((verdicts.filterMap Prod.fst).map Finding.fingerprint).Sublist keys := by
  induction h with
  | nil => exact List.Sublist.refl _
  | @cons v key vs keys hv _ ih =>
      cases hf : v.1 with
      | none =>
          rw [List.filterMap_cons_none hf]
          exact ih.cons key
      | some f =>
          rw [List.filterMap_cons_some hf, List.map_cons, (hv f hf).1]
          exact ih.cons_cons key

/-- The keys of a controller. -/
def controllerKeys (c : ControllerEvidence) : List String :=
  controllerDetectors.map fun d => incidentKey d c.controllerUid

theorem evaluateController_sublist (env : Env) (policy : IncidentPolicy) (c : ControllerEvidence) :
    (((evaluateController env policy c).filterMap Prod.fst).map Finding.fingerprint).Sublist
      (controllerKeys c) := by
  unfold evaluateController
  cases c.sample with
  | none =>
      have h := fingerprints_sublist (.cons (reports_offline env c.controllerUid c.status) .nil)
      exact h.trans (List.singleton_sublist.mpr List.mem_cons_self)
  | some sample =>
      exact fingerprints_sublist
        (.cons (reports_offline env c.controllerUid c.status)
        (.cons (reports_sense policy c.controllerUid sample)
        (.cons (reports_efficiency policy c.controllerUid sample)
        (.cons (reports_status env c.controllerUid "controller_fault" _ _ _ sample)
        (.cons (reports_status env c.controllerUid "controller_alarm" _ _ _ sample)
        (.cons (reports_polling policy c.controllerUid c.polling)
        (.cons (reports_chargeCycle policy c.controllerUid c.cycle)
        (.cons (reports_coverage policy c.controllerUid c.coverage) .nil))))))))

theorem controllers_sublist (env : Env) (policy : IncidentPolicy)
    (controllers : List ControllerEvidence) :
    (((controllers.flatMap (evaluateController env policy)).filterMap Prod.fst).map
      Finding.fingerprint).Sublist (controllers.flatMap controllerKeys) := by
  induction controllers with
  | nil => exact List.Sublist.refl _
  | cons c cs ih =>
      rw [List.flatMap_cons, List.flatMap_cons, List.filterMap_append, List.map_append]
      exact (evaluateController_sublist env policy c).append ih

/-- No detector's name has the separator in it. -/
theorem separator_notMem {d : String} (h : d ∈ controllerDetectors) : '|' ∉ d.toList := by
  have hall : ∀ d ∈ controllerDetectors, '|' ∉ d.toList := by decide
  exact hall d h

theorem controllerKeys_nodup (c : ControllerEvidence) : (controllerKeys c).Nodup := by
  have hnodup : controllerDetectors.Nodup := by decide
  refine List.Nodup.map_on (fun d hd d' hd' heq => ?_) hnodup
  exact (incidentKey_injective (separator_notMem hd) (separator_notMem hd') heq).1

/-- Controllers with different uids share no key. -/
theorem controllerKeys_disjoint {c c' : ControllerEvidence}
    (h : c.controllerUid ≠ c'.controllerUid) :
    (controllerKeys c).Disjoint (controllerKeys c') := by
  intro key hc hc'
  obtain ⟨d, hd, rfl⟩ := List.mem_map.mp hc
  obtain ⟨d', hd', heq⟩ := List.mem_map.mp hc'
  exact h (incidentKey_injective (separator_notMem hd') (separator_notMem hd) heq).2.symm

/-- The key of the site is no controller's key. -/
theorem solarKey_notMem (identifier : String) (controllers : List ControllerEvidence) :
    incidentKey "solar_underproduction" identifier ∉ controllers.flatMap controllerKeys := by
  intro hmem
  obtain ⟨c, -, hkey⟩ := List.mem_flatMap.mp hmem
  obtain ⟨d, hd, heq⟩ := List.mem_map.mp hkey
  obtain ⟨rfl, -⟩ := incidentKey_injective (separator_notMem hd) (by decide) heq
  exact absurd hd (by decide)

/-- **The findings of a scan** of distinct controllers have distinct
fingerprints. -/
theorem scan_fingerprints_nodup (env : Env) (policy : IncidentPolicy) (identifier : String)
    {controllers : List ControllerEvidence} (baseline : SolarBaseline)
    (h : (controllers.map ControllerEvidence.controllerUid).Nodup) :
    (((scanVerdicts env policy identifier controllers baseline).filterMap Prod.fst).map
      Finding.fingerprint).Nodup := by
  have hsolar : ((([solarFinding policy identifier baseline].filterMap Prod.fst).map
      Finding.fingerprint).Sublist [incidentKey "solar_underproduction" identifier]) :=
    fingerprints_sublist (.cons (reports_solar policy identifier baseline) .nil)
  have hkeys : (controllers.flatMap controllerKeys ++
      [incidentKey "solar_underproduction" identifier]).Nodup := by
    rw [List.nodup_append]
    refine ⟨?_, List.nodup_singleton _, ?_⟩
    · rw [List.nodup_flatMap]
      refine ⟨fun c _ => controllerKeys_nodup c, ?_⟩
      have hpair := List.pairwise_map.mp h
      exact hpair.imp fun hne => controllerKeys_disjoint hne
    · intro key hkey key' hkey' heq
      rw [List.mem_singleton] at hkey'
      exact solarKey_notMem identifier controllers (hkey' ▸ heq ▸ hkey)
  rw [scanVerdicts, List.filterMap_append, List.map_append]
  exact hkeys.sublist ((controllers_sublist env policy controllers).append hsolar)

/-! ## a fingerprint held elsewhere -/

section Foreign

variable {ienv : IncidentEnv} {systemUid : String} {timestamp : Nat} {db : IncidentDb}
  {findings : List Finding} {evaluated : List String}

/-- The insert of a finding that another identifier has active fails. -/
theorem Applied.blocked {done : List Finding} {acc : IncidentDb × List Transition} {f : Finding}
    {p : IncidentRow} (h : Applied ienv systemUid timestamp db done acc)
    (hw : db.WellFormed ienv) (hp : p ∈ db.rows) (ha : p.isActive = true)
    (hf : p.fingerprint = f.fingerprint) (hs : p.systemUid ≠ systemUid) :
    ∃ e, applyFinding ienv systemUid timestamp (activeRows systemUid db) acc f = .error e := by
  have hnone : lookup IncidentRow.fingerprint f.fingerprint (activeRows systemUid db) = none := by
    rw [lookup_eq_none_iff]
    intro r hr heq
    obtain ⟨hmem, hsys, hra⟩ := mem_activeRows.mp hr
    exact hs (hw.active_eq hmem hra hp ha (heq.trans hf.symm) ▸ hsys)
  have hkept : p ∈ acc.1.rows := by
    have hsame : p.refreshedBy systemUid timestamp done = p := by
      rw [IncidentRow.refreshedBy, if_neg (fun hc => hs hc.1)]
    rw [h.rows, ← hsame]
    exact List.mem_append_left _ (List.mem_map_of_mem hp)
  simp only [applyFinding, hnone]
  generalize hrow : IncidentRow.opened _ systemUid timestamp f = row
  have hrowFp : row.fingerprint = f.fingerprint := by rw [← hrow, IncidentRow.opened]
  have hany : (acc.1.rows.any fun r => r.isActive && r.fingerprint = row.fingerprint) = true := by
    rw [List.any_eq_true]
    exact ⟨p, hkept, by simp [ha, hf, hrowFp]⟩
  by_cases huid : (acc.1.rows.any fun r => r.incidentUid = row.incidentUid) = true
  · exact ⟨.incidentUidExists, by rw [insertIncident, if_pos huid]; rfl⟩
  · exact ⟨.activeFingerprintExists, by rw [insertIncident, if_neg huid, if_pos hany]; rfl⟩

/-- **A call fails** once another identifier has one of its fingerprints
active. -/
theorem reconcile_blocked (timestamp : Nat) (evaluated : List String) (hw : db.WellFormed ienv)
    (hinj : Function.Injective ienv.incidentUid)
    (hdistinct : (findings.map Finding.fingerprint).Nodup)
    (hforeign : ∃ f ∈ findings, ∃ r ∈ db.rows, r.isActive = true ∧
      r.fingerprint = f.fingerprint ∧ r.systemUid ≠ systemUid) :
    ∃ e, reconcile ienv systemUid timestamp findings evaluated db = .error e := by
  classical
  -- the findings before the first that is held elsewhere are applied
  let held : Finding → Prop := fun f => ∃ r ∈ db.rows, r.isActive = true ∧
    r.fingerprint = f.fingerprint ∧ r.systemUid ≠ systemUid
  obtain ⟨f, hf⟩ : ∃ f, findings.find? (fun f => held f) = some f := by
    rw [← Option.isSome_iff_exists, List.find?_isSome]
    obtain ⟨f, hf, hheld⟩ := hforeign
    exact ⟨f, hf, decide_eq_true hheld⟩
  obtain ⟨hheld, done, rest, hsplit, hdone⟩ := List.find?_eq_some_iff_append.mp hf
  obtain ⟨p, hp, ha, hpf, hps⟩ := of_decide_eq_true hheld
  have hnodup : (done.map Finding.fingerprint).Nodup := by
    rw [hsplit, List.map_append] at hdistinct
    exact hdistinct.of_append_left
  have hfree : ∀ g ∈ done, ∀ r ∈ db.rows, r.isActive = true → r.fingerprint = g.fingerprint →
      r.systemUid = systemUid := by
    intro g hg r hr hra hrg
    by_contra hrs
    have hnot := hdone g hg
    simp only [Bool.not_eq_true', decide_eq_false_iff_not] at hnot
    exact hnot ⟨r, hr, hra, hrg, hrs⟩
  obtain ⟨acc, hfold, happlied⟩ := applied_of_findings timestamp hw hinj hnodup hfree
  obtain ⟨e, he⟩ := happlied.blocked hw hp ha hpf hps
  refine ⟨e, ?_⟩
  rw [reconcile, hsplit, List.foldlM_append, hfold, Loop.ok_bind, List.foldlM_cons, he]
  rfl

end Foreign

/-! ## systems and scans -/

/-- A row of `systems`, with the controllers `system_members` lists for it. -/
structure SystemRow where
  systemUid : String
  name : String
  members : List String
  deriving DecidableEq

/-- `_resolve_uid`: a system is addressed by its uid or its name. -/
def resolveSystem (systems : List SystemRow) (identifier : String) : Option SystemRow :=
  systems.find? fun s => s.systemUid = identifier ∨ s.name = identifier

/-- A call of `scan`, with the evidence it gathers. -/
structure ScanCall where
  identifier : String
  now : Nat
  controllers : List ControllerEvidence
  baseline : SolarBaseline

section Scans

variable (ienv : IncidentEnv) (env : Env) (policy : IncidentPolicy) (systems : List SystemRow)

/-- The controllers of a scan are members of the system it addresses. -/
def ScanCall.Valid (c : ScanCall) : Prop :=
  ∃ s, resolveSystem systems c.identifier = some s ∧
    (c.controllers.map ControllerEvidence.controllerUid).Nodup ∧
    ∀ e ∈ c.controllers, e.controllerUid ∈ s.members

/-- What a scan detects. -/
def ScanCall.findings (c : ScanCall) : List Finding :=
  (scanVerdicts env policy c.identifier c.controllers c.baseline).filterMap Prod.fst

def ScanCall.run (c : ScanCall) (db : IncidentDb) :
    Except IncidentError (IncidentDb × List Transition) :=
  scan ienv env policy c.identifier c.now c.controllers c.baseline db

/-- The tables that runs of scans reach.  Nothing is committed by a scan that
fails, though it drew uids. -/
inductive ScanRun : IncidentDb → Prop
  | empty : ScanRun {}
  | committed {db db' transitions} {c : ScanCall} : ScanRun db → c.Valid systems →
      c.run ienv env policy db = .ok (db', transitions) → ScanRun db'
  | rolledBack {db e} {c : ScanCall} {drawn : Nat} : ScanRun db → c.Valid systems →
      c.run ienv env policy db = .error e → db.drawn ≤ drawn → ScanRun { db with drawn }

/-- A scan succeeds, what it detects is active for its system, and the
incidents of other systems stay. -/
def ScanSafe (c : ScanCall) (db : IncidentDb) : Prop :=
  ∃ db' transitions, c.run ienv env policy db = .ok (db', transitions) ∧
    (∀ f ∈ c.findings env policy, ∃ r ∈ db'.rows, r.state = .active ∧
      r.fingerprint = f.fingerprint ∧
      resolveSystem systems r.systemUid = resolveSystem systems c.identifier) ∧
    ∀ r : IncidentRow, resolveSystem systems r.systemUid ≠ resolveSystem systems c.identifier →
      (r ∈ db'.rows ↔ r ∈ db.rows)

/-- Nothing a scan detects is active under another identifier. -/
def NoneHeldElsewhere (c : ScanCall) (db : IncidentDb) : Prop :=
  ∀ f ∈ c.findings env policy, ∀ r ∈ db.rows, r.state = .active →
    r.fingerprint = f.fingerprint → r.systemUid = c.identifier

variable {ienv env policy systems} {c : ScanCall} {db db' : IncidentDb}

theorem ScanCall.Valid.nodup (env : Env) (policy : IncidentPolicy) (h : c.Valid systems) :
    ((c.findings env policy).map Finding.fingerprint).Nodup := by
  obtain ⟨s, -, hnodup, -⟩ := h
  exact scan_fingerprints_nodup env policy c.identifier c.baseline hnodup

/-- A scan with nothing held elsewhere, as its `reconcile` call. -/
theorem NoneHeldElsewhere.reconciled (h : NoneHeldElsewhere env policy c db)
    (hc : c.Valid systems) (hw : db.WellFormed ienv)
    (hinj : Function.Injective ienv.incidentUid) :
    ∃ db' transitions evaluated, c.run ienv env policy db = .ok (db', transitions) ∧
      Reconciled ienv c.identifier c.now (c.findings env policy) evaluated db db' transitions ∧
      db'.WellFormed ienv := by
  have hfree : ∀ f ∈ c.findings env policy, ∀ r ∈ db.rows, r.isActive = true →
      r.fingerprint = f.fingerprint → r.systemUid = c.identifier :=
    fun f hf r hr ha => h f hf r hr (isActive_iff.mp ha)
  obtain ⟨db', transitions, hok, hrec⟩ := reconcile_spec c.now
    ((scanVerdicts env policy c.identifier c.controllers c.baseline).filterMap Prod.snd)
    hw hinj (hc.nodup env policy) hfree
  exact ⟨db', transitions, _, hok, hrec, hrec.wellFormed hw (hc.nodup env policy) hfree⟩

/-- A scan succeeds only when nothing it detects is held elsewhere. -/
theorem noneHeldElsewhere_of_ok {transitions : List Transition} (hc : c.Valid systems)
    (hw : db.WellFormed ienv) (hinj : Function.Injective ienv.incidentUid)
    (hok : c.run ienv env policy db = .ok (db', transitions)) :
    NoneHeldElsewhere env policy c db := by
  by_contra hnot
  simp only [NoneHeldElsewhere, not_forall] at hnot
  obtain ⟨f, hf, r, hr, ha, hrf, hrs⟩ := hnot
  obtain ⟨e, he⟩ := reconcile_blocked c.now
    ((scanVerdicts env policy c.identifier c.controllers c.baseline).filterMap Prod.snd)
    hw hinj (hc.nodup env policy)
    ⟨f, hf, r, hr, isActive_iff.mpr ha, hrf, hrs⟩
  have herr : c.run ienv env policy db = .error e := he
  rw [hok] at herr
  cases herr

/-- The constraints hold in every run. -/
theorem ScanRun.wellFormed (h : ScanRun ienv env policy systems db)
    (hinj : Function.Injective ienv.incidentUid) : db.WellFormed ienv := by
  induction h with
  | empty => exact wellFormed_empty ienv
  | @committed db db' transitions c _ hc hok ih =>
      have hfree := noneHeldElsewhere_of_ok hc ih hinj hok
      obtain ⟨db'', transitions', _, hok', -, hw⟩ := hfree.reconciled hc ih hinj
      rw [hok, Except.ok.injEq, Prod.mk.injEq] at hok'
      rw [hok'.1]
      exact hw
  | @rolledBack db e c drawn _ _ _ hle ih =>
      refine ⟨ih.uids, ih.active, fun r hr => ?_⟩
      obtain ⟨i, hi, hu⟩ := ih.drawn r hr
      exact ⟨i, Nat.lt_of_lt_of_le hi hle, hu⟩

/-- What a scan detects is active afterwards, filed under its identifier. -/
theorem Reconciled.active_of_finding {systemUid : String} {timestamp : Nat}
    {findings : List Finding} {evaluated : List String} {transitions : List Transition}
    (h : Reconciled ienv systemUid timestamp findings evaluated db db' transitions)
    (hdistinct : (findings.map Finding.fingerprint).Nodup) {f : Finding} (hf : f ∈ findings) :
    ∃ r ∈ db'.rows, r.state = .active ∧ r.fingerprint = f.fingerprint ∧
      r.systemUid = systemUid := by
  cases hl : lookup IncidentRow.fingerprint f.fingerprint (activeRows systemUid db) with
  | none =>
      have hnew : f ∈ newFindings systemUid db findings :=
        List.mem_filter.mpr ⟨hf, by rw [hl, Option.isNone_none]⟩
      obtain ⟨r, hr, hrf⟩ := exists_openedRow ienv timestamp hnew
      obtain ⟨i, g, -, -, hrow⟩ := mem_openedRows hr
      exact ⟨r, h.mem_rows.mpr (.inr hr), by rw [hrow, IncidentRow.opened], hrf,
        by rw [hrow, IncidentRow.opened]⟩
  | some p =>
      obtain ⟨hp, hpf⟩ := mem_of_lookup hl
      obtain ⟨hpdb, hps, hpa⟩ := mem_activeRows.mp hp
      have hafter : p.after systemUid timestamp findings evaluated = p.refreshed timestamp f :=
        after_of_finding hps hpa hf hpf hdistinct
      exact ⟨_, h.mem_rows.mpr (.inl ⟨p, hpdb, hafter⟩), isActive_iff.mp hpa, hpf, hps⟩

/-- Rows filed under other identifiers stay, and none is added. -/
theorem Reconciled.mem_rows_of_ne {systemUid : String} {timestamp : Nat}
    {findings : List Finding} {evaluated : List String} {transitions : List Transition}
    (h : Reconciled ienv systemUid timestamp findings evaluated db db' transitions)
    {r : IncidentRow} (hr : r.systemUid ≠ systemUid) : r ∈ db'.rows ↔ r ∈ db.rows := by
  rw [h.mem_rows]
  constructor
  · rintro (⟨old, hold, rfl⟩ | hnew)
    · by_cases hc : old.systemUid = systemUid ∧ old.isActive = true
      · have hsys := (after_kept systemUid ⟨timestamp, findings, evaluated⟩ old).2.2
        exact absurd (hsys.trans hc.1) hr
      · rwa [after_of_not hc]
    · obtain ⟨i, g, -, -, hrow⟩ := mem_openedRows hnew
      rw [hrow, IncidentRow.opened] at hr
      exact absurd rfl hr
  · intro hmem
    exact .inl ⟨r, hmem, after_of_not fun hc => hr hc.1⟩

/-- **Scans of different systems**: in every table that scans reach, a further
scan is safe exactly when no fingerprint it detects is active under another
identifier, be it of another system or another spelling of its own. -/
theorem scans_do_not_interfere (hinj : Function.Injective ienv.incidentUid)
    (hrun : ScanRun ienv env policy systems db) (hc : c.Valid systems) :
    ScanSafe ienv env policy systems c db ↔ NoneHeldElsewhere env policy c db := by
  have hw := hrun.wellFormed hinj
  constructor
  · rintro ⟨db', transitions, hok, -⟩
    exact noneHeldElsewhere_of_ok hc hw hinj hok
  · intro hfree
    obtain ⟨db', transitions, evaluated, hok, hrec, -⟩ := hfree.reconciled hc hw hinj
    refine ⟨db', transitions, hok, fun f hf => ?_, fun r hr => ?_⟩
    · obtain ⟨r, hr, ha, hrf, hrs⟩ := hrec.active_of_finding (hc.nodup env policy) hf
      exact ⟨r, hr, ha, hrf, by rw [hrs]⟩
    · exact hrec.mem_rows_of_ne fun heq => hr (by rw [heq])

end Scans

/-! ## two systems with one controller in common -/

/-- Every text below is in lower case. -/
def lowerCaseEnv : Env where
  lower s := s
  digest s := s
  uuid4 n := String.ofList (List.replicate n 'a')

def roofAndBarn : List SystemRow :=
  [⟨"sys_roof", "Roof", ["a", "shared"]⟩, ⟨"sys_barn", "Barn", ["b", "shared"]⟩]

/-- A controller that reports nothing and is offline. -/
def silentController (uid : String) : ControllerEvidence where
  controllerUid := uid
  status := some "offline"
  sample := none
  polling := none
  cycle := ⟨0, 0, [], 0⟩
  coverage := none

/-- A scan at night. -/
def scanOf (identifier : String) (now : Nat) (uids : List String) : ScanCall where
  identifier
  now
  controllers := uids.map silentController
  baseline := ⟨false, none, none, none, none, 0⟩

theorem scanOf_roof_valid : (scanOf "sys_roof" 1 ["a", "shared"]).Valid roofAndBarn :=
  ⟨⟨"sys_roof", "Roof", ["a", "shared"]⟩, by decide, by decide, by decide⟩

theorem scans_do_not_interfere_by_name :
    ∃ db, ScanRun plainIncidentEnv lowerCaseEnv {} roofAndBarn db ∧ db.rows.length = 2 ∧
      ScanSafe plainIncidentEnv lowerCaseEnv {} roofAndBarn (scanOf "Barn" 2 ["b"]) db := by
  have heval : (do
      let result ← (scanOf "sys_roof" 1 ["a", "shared"]).run plainIncidentEnv lowerCaseEnv {} {}
      return result.1.rows.map IncidentRow.fingerprint) =
        .ok ["controller_offline|a", "controller_offline|shared"] := by
    decide +kernel
  simp only [Loop.bind_eq_ok, Loop.pure_eq_ok, Except.ok.injEq] at heval
  obtain ⟨⟨db, transitions⟩, hok, hrows⟩ := heval
  have hrun : ScanRun plainIncidentEnv lowerCaseEnv {} roofAndBarn db :=
    .committed .empty scanOf_roof_valid hok
  have hfindings : ((scanOf "Barn" 2 ["b"]).findings lowerCaseEnv {}).map Finding.fingerprint =
      ["controller_offline|b"] := by
    decide +kernel
  refine ⟨db, hrun, by simpa using congrArg List.length hrows, ?_⟩
  refine (scans_do_not_interfere plainIncidentEnv_injective hrun
    ⟨⟨"sys_barn", "Barn", ["b", "shared"]⟩, by decide, by decide, by decide⟩).mpr ?_
  intro f hf r hr _ heq
  have hfp := List.mem_map_of_mem (f := Finding.fingerprint) hf
  have hrp := List.mem_map_of_mem (f := IncidentRow.fingerprint) hr
  rw [hfindings, List.mem_singleton] at hfp
  rw [hrows, heq, hfp] at hrp
  exact absurd hrp (by decide)

/-- The second system cannot report the controller that both have. -/
theorem not_scans_do_not_interfere_shared_controller :
    ¬ ∀ (systems : List SystemRow) (db : IncidentDb) (c : ScanCall),
      ScanRun plainIncidentEnv lowerCaseEnv {} systems db → c.Valid systems →
        ScanSafe plainIncidentEnv lowerCaseEnv {} systems c db := by
  intro h
  have heval : (do
      let result ← (scanOf "sys_roof" 1 ["a", "shared"]).run plainIncidentEnv lowerCaseEnv {} {}
      return ((scanOf "sys_barn" 2 ["shared"]).run plainIncidentEnv lowerCaseEnv {}
        result.1).isOk) = .ok false := by
    decide +kernel
  simp only [Loop.bind_eq_ok, Loop.pure_eq_ok, Except.ok.injEq] at heval
  obtain ⟨⟨db, transitions⟩, hok, hsecond⟩ := heval
  obtain ⟨db', transitions', hok', -⟩ := h roofAndBarn db (scanOf "sys_barn" 2 ["shared"])
    (.committed .empty scanOf_roof_valid hok)
    ⟨⟨"sys_barn", "Barn", ["b", "shared"]⟩, by decide, by decide, by decide⟩
  rw [hok'] at hsecond
  cases hsecond

end MorningstarModbus
