import Mathlib.Data.Rat.Lemmas
import MorningstarModbus.Lib.Table
import MorningstarModbus.Lib.Loop

/-!
# MorningstarModbus.Persistence.Incidents

The lifecycle store of site-intelligence incidents (`persistence/incidents.py`).
One scan hands its findings to `reconcile`, which opens, updates and resolves
rows of `intelligence_incidents` and returns the transitions worth an event.

Timestamps are microseconds, `REAL` columns rationals.  The column
`evidence_json` holds the evidence itself: writing it as JSON and reading it
back is the identity.
-/

namespace MorningstarModbus

open Table

/-! ## findings -/

inductive IncidentCategory where
  | production
  | charging
  | battery
  | communications
  | dataIntegrity
  deriving DecidableEq

inductive Severity where
  | info
  | warning
  | critical
  deriving DecidableEq

inductive Confidence where
  | low
  | medium
  | high
  deriving DecidableEq

/-- A value an evidence item can carry. -/
inductive EvidenceValue where
  | null
  | integer (n : Int)
  | number (x : ℚ)
  | text (s : String)
  | texts (ss : List String)
  deriving DecidableEq

structure Evidence where
  code : String
  message : String
  value : EvidenceValue := .null
  unit : Option String := none
  source : String := "telemetry"
  deriving DecidableEq

structure Finding where
  detector : String
  evaluationKey : String
  fingerprint : String
  category : IncidentCategory
  severity : Severity
  confidence : Confidence
  title : String
  summary : String
  controllerUid : Option String := none
  observedValue : Option ℚ := none
  expectedLow : Option ℚ := none
  expectedHigh : Option ℚ := none
  unit : Option String := none
  evidence : List Evidence := []
  deriving DecidableEq

/-! ## rows -/

inductive IncidentState where
  | active
  | resolved
  deriving DecidableEq

structure IncidentRow where
  incidentUid : String
  systemUid : String
  controllerUid : Option String
  detector : String
  evaluationKey : String
  fingerprint : String
  category : IncidentCategory
  severity : Severity
  confidence : Confidence
  state : IncidentState
  title : String
  summary : String
  observedValue : Option ℚ
  expectedLow : Option ℚ
  expectedHigh : Option ℚ
  unit : Option String
  evidence : List Evidence
  openedAt : Nat
  lastObservedAt : Nat
  updatedAt : Nat
  resolvedAt : Option Nat
  occurrenceCount : Nat
  deriving DecidableEq

/-- The table, and the number of uids drawn for it. -/
structure IncidentDb where
  rows : List IncidentRow := []
  drawn : Nat := 0

inductive IncidentError where
  /-- the primary key -/
  | incidentUidExists
  /-- the unique index over the fingerprints of active rows -/
  | activeFingerprintExists
  deriving DecidableEq

/-- `_incident_uid()` of the `n`-th draw. -/
structure IncidentEnv where
  incidentUid : Nat → String

inductive TransitionKind where
  | opened
  | updated
  | resolved
  deriving DecidableEq

/-- A transition: its kind and the decoded row. -/
abbrev Transition := TransitionKind × IncidentRow

/-! ## statements -/

namespace IncidentRow

/-- The row `reconcile` inserts. -/
def opened (incidentUid systemUid : String) (timestamp : Nat) (f : Finding) : IncidentRow where
  incidentUid
  systemUid
  controllerUid := f.controllerUid
  detector := f.detector
  evaluationKey := f.evaluationKey
  fingerprint := f.fingerprint
  category := f.category
  severity := f.severity
  confidence := f.confidence
  state := .active
  title := f.title
  summary := f.summary
  observedValue := f.observedValue
  expectedLow := f.expectedLow
  expectedHigh := f.expectedHigh
  unit := f.unit
  evidence := f.evidence
  openedAt := timestamp
  lastObservedAt := timestamp
  updatedAt := timestamp
  resolvedAt := none
  occurrenceCount := 1

/-- The assignments of the update of a known incident. -/
def refreshed (timestamp : Nat) (f : Finding) (r : IncidentRow) : IncidentRow :=
  { r with
    category := f.category, severity := f.severity, confidence := f.confidence, title := f.title,
    summary := f.summary, observedValue := f.observedValue, expectedLow := f.expectedLow,
    expectedHigh := f.expectedHigh, unit := f.unit, evidence := f.evidence,
    lastObservedAt := timestamp, updatedAt := timestamp,
    occurrenceCount := r.occurrenceCount + 1 }

/-- The assignments of a resolution. -/
def resolve (timestamp : Nat) (r : IncidentRow) : IncidentRow :=
  { r with state := .resolved, resolvedAt := some timestamp, updatedAt := timestamp }

/-- `changed`: a field worth an event differs. -/
def changed (r : IncidentRow) (f : Finding) : Bool :=
  r.severity ≠ f.severity ∨ r.confidence ≠ f.confidence ∨ r.title ≠ f.title ∨
    r.summary ≠ f.summary

def isActive (r : IncidentRow) : Bool := r.state = .active

end IncidentRow

/-- `INSERT INTO intelligence_incidents`, under its two constraints. -/
def insertIncident (row : IncidentRow) (db : IncidentDb) : Except IncidentError IncidentDb :=
  if db.rows.any fun r => r.incidentUid = row.incidentUid then .error .incidentUidExists
  else if db.rows.any fun r => r.isActive && r.fingerprint = row.fingerprint then
    .error .activeFingerprintExists
  else .ok { db with rows := db.rows ++ [row] }

/-- `SELECT * … WHERE system_uid=? AND state='active'` -/
def activeRows (systemUid : String) (db : IncidentDb) : List IncidentRow :=
  db.rows.filter fun r => r.systemUid = systemUid ∧ r.isActive

/-- `SELECT * … WHERE incident_uid=?`, as the transition it is reported in. -/
def reportRow (kind : TransitionKind) (incidentUid : String) (db : IncidentDb) : List Transition :=
  (lookup IncidentRow.incidentUid incidentUid db.rows).toList.map fun r => (kind, r)

/-! ## reconcile -/

section Reconcile

variable (env : IncidentEnv) (systemUid : String) (timestamp : Nat)

/-- One turn of the loop over the findings; `active` is read before the loop. -/
def applyFinding (active : List IncidentRow) (acc : IncidentDb × List Transition) (f : Finding) :
    Except IncidentError (IncidentDb × List Transition) :=
  let (db, transitions) := acc
  match lookup IncidentRow.fingerprint f.fingerprint active with
  | none => do
      let uid := env.incidentUid db.drawn
      let db ← insertIncident (.opened uid systemUid timestamp f) { db with drawn := db.drawn + 1 }
      return (db, transitions ++ reportRow .opened uid db)
  | some previous =>
      let uid := previous.incidentUid
      let db := { db with
        rows := update (fun r => r.incidentUid = uid) (IncidentRow.refreshed timestamp f) db.rows }
      .ok (db, transitions ++ if previous.changed f then reportRow .updated uid db else [])

/-- One turn of the loop over the rows that were active. -/
def resolveRow (present : List String) (evaluated : List String)
    (acc : IncidentDb × List Transition) (row : IncidentRow) : IncidentDb × List Transition :=
  if row.fingerprint ∈ present then acc
  else if row.evaluationKey ∉ evaluated then acc
  else
    let db := { acc.1 with
      rows := update (fun r => r.incidentUid = row.incidentUid ∧ r.isActive)
        (IncidentRow.resolve timestamp) acc.1.rows }
    (db, acc.2 ++ reportRow .resolved row.incidentUid db)

/-- `IncidentStore.reconcile`; nothing is committed when it raises. -/
def reconcile (findings : List Finding) (evaluated : List String) (db : IncidentDb) :
    Except IncidentError (IncidentDb × List Transition) := do
  let present := findings.map Finding.fingerprint
  let active := activeRows systemUid db
  let acc ← findings.foldlM (applyFinding env systemUid timestamp active) (db, [])
  return active.foldl (resolveRow timestamp present evaluated) acc

end Reconcile

end MorningstarModbus
