import MorningstarModbus.Intelligence.IncidentScans
import MorningstarModbus.Lib.Json
import MorningstarModbus.Lib.Program

/-!
# MorningstarModbus.Intelligence.IncidentEvents

The transitions of incidents as events (`_record_transitions` of
`intelligence/incidents.py`, `persistence/events.py`).  A scan commits its
transitions to the incident table first, and then writes their events one by one;
a call that raises ends the scan.

* `transitionKey` — the keys under which events are written once;
* `Undisturbed` — a scan that no write of an event disturbs;
* `transitions_recorded_once` — over runs of such scans every transition has
  exactly one event.
-/

namespace MorningstarModbus

open Table Effects

/-! ## events -/

/-- A `dedupe_key` of a transition.  Its text joins the parts with colons; uids and
transitions have none. -/
structure DedupeKey where
  incidentUid : String
  transition : TransitionKind
  updatedAt : Nat
  deriving DecidableEq

/-- The columns of `controller_events` that `record` is given; `payload_json` holds the
members in the order of their names. -/
structure Event where
  controllerUid : Option String
  observedAt : Nat
  eventType : String
  severity : String
  source : String
  message : String
  payload : Json.Object
  sourceHost : Option String := none
  dedupeKey : Option DedupeKey := none
  deriving DecidableEq

structure EventRow extends Event where
  id : Nat
  deriving DecidableEq

/-- `controller_events`, and the last id that was given. -/
structure EventDb where
  rows : List EventRow := []
  lastId : Nat := 0

/-- The conflict on `dedupe_key`; rows without a key are in no conflict. -/
def Event.clash (event : Event) (row : EventRow) : Bool :=
  event.dedupeKey.isSome && row.dedupeKey = event.dedupeKey

/-- `INSERT INTO controller_events … ON CONFLICT(dedupe_key) DO NOTHING`, with the id. -/
def EventDb.insert (event : Event) (db : EventDb) : Option Nat × EventDb :=
  if db.rows.any event.clash then (none, db)
  else
    let id := db.lastId + 1
    (some id, { rows := db.rows ++ [{ event with id }], lastId := id })

/-! ## texts -/

def TransitionKind.text : TransitionKind → String
  | .opened => "opened"
  | .updated => "updated"
  | .resolved => "resolved"

/-- `f"INCIDENT_{transition.upper()}"` -/
def TransitionKind.eventType : TransitionKind → String
  | .opened => "INCIDENT_OPENED"
  | .updated => "INCIDENT_UPDATED"
  | .resolved => "INCIDENT_RESOLVED"

def IncidentCategory.text : IncidentCategory → String
  | .production => "production"
  | .charging => "charging"
  | .battery => "battery"
  | .communications => "communications"
  | .dataIntegrity => "data_integrity"

def Severity.text : Severity → String
  | .info => "info"
  | .warning => "warning"
  | .critical => "critical"

def IncidentState.text : IncidentState → String
  | .active => "active"
  | .resolved => "resolved"

/-! ## a scan and its events -/

def transitionKey (t : Transition) : DedupeKey where
  incidentUid := t.2.incidentUid
  transition := t.1
  updatedAt := t.2.updatedAt

/-- What `_record_transitions` records of a transition. -/
def transitionEvent (t : Transition) : Event where
  controllerUid := t.2.controllerUid.filter (· ≠ "")
  observedAt := t.2.updatedAt
  eventType := t.1.eventType
  severity := t.2.severity.text
  source := "site-intelligence"
  message := t.2.title
  payload :=
    [("category", .str t.2.category.text), ("detector", .str t.2.detector),
     ("incident_uid", .str t.2.incidentUid), ("state", .str t.2.state.text),
     ("system_uid", .str t.2.systemUid), ("transition", .str t.1.text)]
  dedupeKey := some (transitionKey t)

/-- The tables, and the transitions committed so far. -/
structure SiteDb where
  incidents : IncidentDb := {}
  events : EventDb := {}
  committed : List Transition := []

inductive SiteError where
  | evidence
  | reconcile (e : IncidentError)
  | record
  | list
  deriving DecidableEq

abbrev SiteProgram (α : Type) := Prog SiteDb SiteError α

/-- A call of `scan` and what fails in it. -/
structure ScanAttempt where
  call : ScanCall
  /-- before the findings are reconciled -/
  evidenceRaises : Bool := false
  /-- the uids drawn by a reconciliation that raises -/
  drawnInVain : Nat := 0
  /-- which calls of `record` raise, counted from the first of the scan -/
  recordRaises : Nat → Bool := fun _ => false
  /-- reading the incidents at the end -/
  listRaises : Bool := false

/-- `EventStore.record` -/
def EventStore.record (raises : Bool) (event : Event) : SiteProgram (Option Nat) := do
  if raises then throw .record
  let s ← get
  let (id, events) := s.events.insert event
  modify fun s => { s with events }
  return id

/-- `_record_transitions` -/
def recordTransitions (raises : Nat → Bool) : Nat → List Transition → SiteProgram Unit
  | _, [] => pure ()
  | n, t :: ts => do
      let _ ← EventStore.record (raises n) (transitionEvent t)
      recordTransitions raises (n + 1) ts

section Scan

variable (ienv : IncidentEnv) (env : Env) (policy : IncidentPolicy)

/-- `scan` with what it writes. -/
def siteScan (a : ScanAttempt) : SiteProgram Unit := do
  if a.evidenceRaises then throw .evidence
  let s ← get
  match a.call.run ienv env policy s.incidents with
  | .error e =>
      modify fun s =>
        { s with incidents := { s.incidents with drawn := s.incidents.drawn + a.drawnInVain } }
      throw (.reconcile e)
  | .ok (incidents, transitions) =>
      modify fun s => { s with incidents, committed := s.committed ++ transitions }
      recordTransitions a.recordRaises 0 transitions
      if a.listRaises then throw .list

/-- The states that runs of scans reach, when the scans meet a condition; between them
other events are recorded, which have no key. -/
inductive SiteRun (systems : List SystemRow) (ok : SiteDb → ScanAttempt → Prop) : SiteDb → Prop
  | empty : SiteRun systems ok {}
  | scan {s : SiteDb} {a : ScanAttempt} : SiteRun systems ok s → a.call.Valid systems → ok s a →
      SiteRun systems ok (exec (siteScan ienv env policy a) s).2
  | event {s : SiteDb} {event : Event} : SiteRun systems ok s → event.dedupeKey = none →
      SiteRun systems ok { s with events := (s.events.insert event).2 }

/-- Every transition committed so far has exactly one row. -/
def RecordedOnce (s : SiteDb) : Prop :=
  ∀ t ∈ s.committed, (s.events.rows.filter fun r => r.toEvent = transitionEvent t).length = 1

instance (s : SiteDb) : Decidable (RecordedOnce s) :=
  inferInstanceAs (Decidable (∀ t ∈ s.committed, _))

/-- No incident that a finding changes was updated before at the same reading of the
clock. -/
def ScanAttempt.Fresh (s : SiteDb) (a : ScanAttempt) : Prop :=
  ∀ p ∈ activeRows a.call.identifier s.incidents, ∀ f ∈ a.call.findings env policy,
    p.fingerprint = f.fingerprint → p.changed f = true →
      ∀ t ∈ s.committed, t.1 = .updated → t.2.incidentUid = p.incidentUid →
        t.2.updatedAt ≠ a.call.now

/-- When a scan commits its transitions, no call of `record` that it makes raises, and it is
fresh. -/
def Undisturbed (s : SiteDb) (a : ScanAttempt) : Prop :=
  ∀ incidents transitions, a.evidenceRaises = false →
    a.call.run ienv env policy s.incidents = .ok (incidents, transitions) →
      (∀ n < transitions.length, a.recordRaises n = false) ∧ a.Fresh env policy s

end Scan

/-! ## writing events -/

/-- The events that have a key, oldest first. -/
def EventDb.journal (db : EventDb) : List Event :=
  (db.rows.filter fun r => r.dedupeKey.isSome).map EventRow.toEvent

section Events

variable {event : Event} {db : EventDb}

theorem not_clash_of_none (h : event.dedupeKey = none) : db.rows.any event.clash = false := by
  simp [Event.clash, h]

theorem journal_insert_of_none (h : event.dedupeKey = none) :
    (db.insert event).2.journal = db.journal := by
  simp [EventDb.insert, EventDb.journal, not_clash_of_none h, h]

/-- An event with a key that no event has is added. -/
theorem journal_insert_of_fresh {key : DedupeKey} (h : event.dedupeKey = some key)
    (hfresh : ∀ e ∈ db.journal, e.dedupeKey ≠ some key) :
    (db.insert event).2.journal = db.journal ++ [event] := by
  have hfree : db.rows.any event.clash = false := by
    rw [List.any_eq_false]
    intro r hr hclash
    simp only [Event.clash, h, Option.isSome_some, Bool.true_and, decide_eq_true_eq] at hclash
    exact hfresh r.toEvent (List.mem_map_of_mem (List.mem_filter.mpr ⟨hr, by simp [hclash]⟩)) hclash
  simp [EventDb.insert, EventDb.journal, hfree, h]

@[simp] theorem exec_record (event : Event) (s : SiteDb) :
    exec (EventStore.record false event) s =
      (.ok (s.events.insert event).1, { s with events := (s.events.insert event).2 }) := rfl

/-- Transitions with new keys are all written when no call raises. -/
theorem recordTransitions_ok (raises : Nat → Bool) (ts : List Transition) (n : Nat)
    (s : SiteDb) (hraises : ∀ i < ts.length, raises (n + i) = false)
    (hnodup : (ts.map transitionKey).Nodup)
    (hfresh : ∀ t ∈ ts, ∀ e ∈ s.events.journal, e.dedupeKey ≠ some (transitionKey t)) :
    ∃ events, exec (recordTransitions raises n ts) s = (.ok ⟨⟩, { s with events }) ∧
      events.journal = s.events.journal ++ ts.map transitionEvent := by
  induction ts generalizing n s with
  | nil => exact ⟨s.events, rfl, by simp⟩
  | cons t ts ih =>
      rw [List.map_cons, List.nodup_cons] at hnodup
      have hjournal : (s.events.insert (transitionEvent t)).2.journal =
          s.events.journal ++ [transitionEvent t] :=
        journal_insert_of_fresh rfl (hfresh t List.mem_cons_self)
      have hlater : ∀ i < ts.length, raises (n + 1 + i) = false := by
        intro i hi
        have hnext := hraises (i + 1) (Nat.succ_lt_succ hi)
        rwa [show n + (i + 1) = n + 1 + i by omega] at hnext
      have hnow : raises n = false := hraises 0 (Nat.succ_pos _)
      obtain ⟨events, hrun, hevents⟩ := ih (n + 1)
        { s with events := (s.events.insert (transitionEvent t)).2 } hlater hnodup.2 (by
          intro u hu e he
          rw [hjournal, List.mem_append, List.mem_singleton] at he
          cases he with
          | inl hold => exact hfresh u (List.mem_cons_of_mem t hu) e hold
          | inr hnew =>
              intro hkey
              rw [hnew] at hkey
              have hsame : transitionKey t = transitionKey u := Option.some.inj hkey
              exact hnodup.1 (hsame ▸ List.mem_map_of_mem hu))
      refine ⟨events, ?_, ?_⟩
      · rw [recordTransitions, hnow, exec_bind, exec_record]
        exact hrun
      · rw [hevents, hjournal, List.append_assoc, List.map_cons, List.singleton_append]

end Events

/-! ## runs -/

/-- What undisturbed scans keep. -/
structure Journaled (ienv : IncidentEnv) (s : SiteDb) : Prop where
  wellFormed : s.incidents.WellFormed ienv
  journal : s.events.journal = s.committed.map transitionEvent
  keys : (s.committed.map transitionKey).Nodup
  /-- a transition is of a row of the table, which stays resolved -/
  known : ∀ t ∈ s.committed, ∃ r ∈ s.incidents.rows, r.incidentUid = t.2.incidentUid ∧
    (t.1 = .resolved → r.state = .resolved)

section Runs

variable {ienv : IncidentEnv} {env : Env} {policy : IncidentPolicy} {s : SiteDb} {a : ScanAttempt}

theorem journaled_empty (ienv : IncidentEnv) : Journaled ienv {} where
  wellFormed := wellFormed_empty ienv
  journal := rfl
  keys := List.nodup_nil
  known := by simp

/-- The keys of a reconciliation are new. -/
theorem Journaled.key_ne {systemUid : String} {timestamp : Nat} {findings : List Finding}
    {evaluated : List String} {db : IncidentDb} {transitions : List Transition}
    (h : Journaled ienv s) (hinj : Function.Injective ienv.incidentUid)
    (hrec : Reconciled ienv systemUid timestamp findings evaluated s.incidents db transitions)
    (hfresh : ∀ p ∈ activeRows systemUid s.incidents, ∀ f ∈ findings,
      p.fingerprint = f.fingerprint → p.changed f = true →
        ∀ t ∈ s.committed, t.1 = .updated → t.2.incidentUid = p.incidentUid →
          t.2.updatedAt ≠ timestamp)
    {t u : Transition} (ht : t ∈ transitions) (hu : u ∈ s.committed) :
    transitionKey u ≠ transitionKey t := by
  intro hkey
  obtain ⟨huid, hkind, htime⟩ : u.2.incidentUid = t.2.incidentUid ∧ u.1 = t.1 ∧
      u.2.updatedAt = t.2.updatedAt := by
    simpa [transitionKey] using hkey
  obtain ⟨r, hr, hruid, hresolved⟩ := h.known u hu
  cases (hrec.listed t).mp ht with
  | inl hopened => exact openedRows_ne h.wellFormed hinj hopened.2 hr (huid.symm.trans hruid.symm)
  | inr hrest =>
      cases hrest with
      | inl hupdated =>
          obtain ⟨f, hf, p, hp, hpf, hchanged, rfl⟩ := hupdated
          exact hfresh p hp f hf hpf hchanged u hu hkind huid htime
      | inr hgone =>
          obtain ⟨p, hp, -, rfl⟩ := hgone
          obtain ⟨hpdb, -, hpa⟩ := mem_activeRows.mp hp
          have hsame : r = p := h.wellFormed.uids.eq hr hpdb (hruid.trans huid)
          have hstate := hresolved hkind
          rw [hsame, isActive_iff.mp hpa] at hstate
          cases hstate

/-- Transitions that were committed stay known, and those of a reconciliation are. -/
theorem Journaled.known_reconciled {systemUid : String} {timestamp : Nat}
    {findings : List Finding} {evaluated : List String} {db : IncidentDb}
    {transitions : List Transition} (h : Journaled ienv s)
    (hrec : Reconciled ienv systemUid timestamp findings evaluated s.incidents db transitions)
    {t : Transition} (ht : t ∈ s.committed ++ transitions) :
    ∃ r ∈ db.rows, r.incidentUid = t.2.incidentUid ∧ (t.1 = .resolved → r.state = .resolved) := by
  cases List.mem_append.mp ht with
  | inl hold =>
      obtain ⟨r, hr, hruid, hresolved⟩ := h.known t hold
      have hmem := hrec.mem_rows.mpr (.inl ⟨r, hr, rfl⟩)
      refine ⟨_, hmem, after_incidentUid.trans hruid, fun hkind => ?_⟩
      have hstate := hresolved hkind
      rwa [after_of_not fun hactive => by
        rw [isActive_iff, hstate] at hactive
        cases hactive.2]
  | inr hnew =>
      cases (hrec.listed t).mp hnew with
      | inl hopened =>
          exact ⟨t.2, hrec.mem_rows.mpr (.inr hopened.2), rfl, fun hkind => by
            rw [hopened.1] at hkind
            cases hkind⟩
      | inr hrest =>
          cases hrest with
          | inl hupdated =>
              obtain ⟨f, -, p, hp, -, -, rfl⟩ := hupdated
              exact ⟨_, hrec.mem_rows.mpr (.inl ⟨p, (mem_activeRows.mp hp).1, rfl⟩),
                after_incidentUid, fun hkind => by cases hkind⟩
          | inr hgone =>
              obtain ⟨p, hp, hg, rfl⟩ := hgone
              obtain ⟨hpdb, hps, hpa⟩ := mem_activeRows.mp hp
              refine ⟨_, hrec.mem_rows.mpr (.inl ⟨p, hpdb, rfl⟩), after_incidentUid, fun _ => ?_⟩
              rw [IncidentRow.after, if_pos ⟨hps, hpa, hg⟩]
              rfl

/-- What a scan can leave behind. -/
theorem siteScan_cases (ienv : IncidentEnv) (env : Env) (policy : IncidentPolicy)
    (a : ScanAttempt) (s : SiteDb) :
    (exec (siteScan ienv env policy a) s).2 = s ∨
    (exec (siteScan ienv env policy a) s).2 =
      { s with incidents := { s.incidents with drawn := s.incidents.drawn + a.drawnInVain } } ∨
    ∃ incidents transitions, a.evidenceRaises = false ∧
      a.call.run ienv env policy s.incidents = .ok (incidents, transitions) ∧
      (exec (siteScan ienv env policy a) s).2 =
        (exec (recordTransitions a.recordRaises 0 transitions)
          { s with incidents, committed := s.committed ++ transitions }).2 := by
  cases hevidence : a.evidenceRaises with
  | true => exact .inl (by simp [siteScan, hevidence])
  | false =>
      cases hrun : a.call.run ienv env policy s.incidents with
      | error e => exact .inr (.inl (by simp [siteScan, hevidence, hrun, exec_bind]))
      | ok result =>
          refine .inr (.inr ⟨result.1, result.2, rfl, rfl, ?_⟩)
          simp only [siteScan, hevidence, hrun, exec_bind, exec_get, exec_modify,
            Bool.false_eq_true, if_false]
          generalize exec (recordTransitions a.recordRaises 0 result.2) _ = out
          obtain ⟨r, t⟩ := out
          cases r <;> cases a.listRaises <;> simp

/-- **One scan** that nothing disturbs. -/
theorem Journaled.scan {systems : List SystemRow} (h : Journaled ienv s)
    (hinj : Function.Injective ienv.incidentUid) (hc : a.call.Valid systems)
    (hok : Undisturbed ienv env policy s a) :
    Journaled ienv (exec (siteScan ienv env policy a) s).2 := by
  obtain hsame | hback | ⟨db, transitions, hevidence, hrun, hstate⟩ :=
    siteScan_cases ienv env policy a s
  · rwa [hsame]
  · rw [hback]
    refine ⟨⟨h.wellFormed.uids, h.wellFormed.active, fun r hr => ?_⟩, h.journal, h.keys, h.known⟩
    obtain ⟨i, hi, hu⟩ := h.wellFormed.drawn r hr
    exact ⟨i, Nat.lt_of_lt_of_le hi (Nat.le_add_right _ _), hu⟩
  · obtain ⟨hraises, hfresh⟩ := hok db transitions hevidence hrun
    have hfree := noneHeldElsewhere_of_ok hc h.wellFormed hinj hrun
    obtain ⟨db', transitions', evaluated, hrun', hrec, hw⟩ :=
      hfree.reconciled hc h.wellFormed hinj
    obtain ⟨rfl, rfl⟩ : db = db' ∧ transitions = transitions' := by
      rwa [hrun, Except.ok.injEq, Prod.mk.injEq] at hrun'
    have hnew : ∀ t ∈ transitions, ∀ u ∈ s.committed, transitionKey u ≠ transitionKey t :=
      fun t ht u hu => h.key_ne hinj hrec hfresh ht hu
    have hnodup : (transitions.map transitionKey).Nodup := by
      have huids := hrec.nodup
      refine List.Nodup.of_map DedupeKey.incidentUid ?_
      rwa [List.map_map]
    obtain ⟨events, hexec, hjournal⟩ := recordTransitions_ok a.recordRaises transitions 0
      { s with incidents := db, committed := s.committed ++ transitions }
      (fun i hi => by rw [Nat.zero_add]; exact hraises i hi) hnodup (by
        intro t ht e he hkey
        rw [show s.events.journal = _ from h.journal] at he
        obtain ⟨u, hu, rfl⟩ := List.mem_map.mp he
        exact hnew t ht u hu (Option.some.inj hkey))
    rw [hstate, hexec]
    constructor
    case wellFormed => exact hw
    case journal => rw [hjournal, List.map_append, ← h.journal]
    case keys =>
      rw [List.map_append, List.nodup_append]
      refine ⟨h.keys, hnodup, fun key hkey key' hkey' heq => ?_⟩
      obtain ⟨u, hu, rfl⟩ := List.mem_map.mp hkey
      obtain ⟨t, ht, rfl⟩ := List.mem_map.mp hkey'
      exact hnew t ht u hu heq
    case known => exact fun t ht => h.known_reconciled hrec ht

/-- **Every run** of undisturbed scans. -/
theorem SiteRun.journaled {systems : List SystemRow} (hinj : Function.Injective ienv.incidentUid)
    (hrun : SiteRun ienv env policy systems (Undisturbed ienv env policy) s) :
    Journaled ienv s := by
  induction hrun with
  | empty => exact journaled_empty ienv
  | scan _ hc hok ih => exact ih.scan hinj hc hok
  | event _ hkey ih =>
      exact ⟨ih.wellFormed, (journal_insert_of_none hkey).trans ih.journal, ih.keys, ih.known⟩

/-- A journal without repeated keys records every transition once. -/
theorem Journaled.recordedOnce (h : Journaled ienv s) : RecordedOnce s := by
  intro t ht
  have hevents : (s.committed.map transitionEvent).Nodup := by
    refine List.Nodup.of_map Event.dedupeKey ?_
    have hkeys := h.keys.map (Option.some_injective _)
    rwa [List.map_map] at hkeys ⊢
  have hcount : (s.events.rows.filter fun r => r.toEvent = transitionEvent t).length =
      s.events.journal.count (transitionEvent t) := by
    rw [EventDb.journal, List.count, List.countP_map, List.countP_filter,
      ← List.countP_eq_length_filter]
    refine List.countP_congr fun r _ => ?_
    simp only [decide_eq_true_eq, Function.comp, Bool.and_eq_true, beq_iff_eq]
    exact ⟨fun heq => ⟨heq, by rw [heq]; rfl⟩, And.left⟩
  rw [hcount, h.journal]
  exact List.count_eq_one_of_mem hevents (List.mem_map_of_mem ht)

/-- **Incident transitions**: over every run of scans that nothing disturbs, with other
events between them, each transition committed so far has exactly one row. -/
theorem transitions_recorded_once {systems : List SystemRow}
    (hinj : Function.Injective ienv.incidentUid)
    (hrun : SiteRun ienv env policy systems (Undisturbed ienv env policy) s) : RecordedOnce s :=
  (hrun.journaled hinj).recordedOnce

end Runs

/-! ## a scan whose events are lost -/

theorem transitions_recorded_once_opened :
    ∃ s, SiteRun plainIncidentEnv lowerCaseEnv {} roofAndBarn
        (Undisturbed plainIncidentEnv lowerCaseEnv {}) s ∧
      s.committed.map Prod.fst = [.opened, .opened] ∧ RecordedOnce s := by
  have hok : Undisturbed plainIncidentEnv lowerCaseEnv {} {}
      { call := scanOf "sys_roof" 1 ["a", "shared"] } :=
    fun _ _ _ _ => ⟨fun _ _ => rfl, fun p hp => absurd hp List.not_mem_nil⟩
  have hrun : SiteRun plainIncidentEnv lowerCaseEnv {} roofAndBarn
      (Undisturbed plainIncidentEnv lowerCaseEnv {})
      (exec (siteScan plainIncidentEnv lowerCaseEnv {}
        { call := scanOf "sys_roof" 1 ["a", "shared"] }) {}).2 :=
    .scan .empty scanOf_roof_valid hok
  exact ⟨_, hrun, by decide +kernel,
    transitions_recorded_once plainIncidentEnv_injective hrun⟩

/-- A scan of the roof at which every call of `record` raises. -/
def lostScan : ScanAttempt where
  call := scanOf "sys_roof" 1 ["a", "shared"]
  recordRaises _ := true

/-- The next scan completes, and the events stay lost. -/
theorem not_transitions_recorded_once_lost :
    ¬ ∀ (systems : List SystemRow) (s : SiteDb) (a : ScanAttempt),
      SiteRun plainIncidentEnv lowerCaseEnv {} systems (fun _ _ => True) s →
        a.call.Valid systems →
        (exec (siteScan plainIncidentEnv lowerCaseEnv {} a) s).1 = .ok ⟨⟩ →
        RecordedOnce (exec (siteScan plainIncidentEnv lowerCaseEnv {} a) s).2 := by
  intro h
  have hrun : SiteRun plainIncidentEnv lowerCaseEnv {} roofAndBarn (fun _ _ => True)
      (exec (siteScan plainIncidentEnv lowerCaseEnv {} lostScan) {}).2 :=
    .scan .empty scanOf_roof_valid trivial
  have honce := h roofAndBarn _ { call := scanOf "sys_roof" 2 ["a", "shared"] } hrun
    ⟨⟨"sys_roof", "Roof", ["a", "shared"]⟩, by decide, by decide, by decide⟩ (by rfl)
  exact absurd honce (by decide +kernel)

end MorningstarModbus
