import Mathlib.Logic.Relation
import MorningstarModbus.Persistence.StorageTables

/-!
# MorningstarModbus.Persistence.MaintenanceRun

Polls interleaved with maintenance, statement by statement.  A machine is a
database, a clock, the place where the running `maintain` call is, and (as a
ghost) every register row ever persisted.

* `StorageStep` — one poll, or one statement of `maintain`; a call may also be
  aborted anywhere;
* `maintain_steps` — `maintain` as a whole is a sequence of such steps.
-/

namespace MorningstarModbus

open Table

/-! ## machines -/

/-- Where a `maintain` call is. -/
inductive MaintainPhase where
  | idle
  /-- building rollups and state runs -/
  | tiering (cutoffMs : Nat)
  /-- days still to archive -/
  | archiving (cutoffMs : Nat) (days : List Nat)
  /-- the rows of a range are read, its file is not replaced yet -/
  | replacing (cutoffMs : Nat) (days : List Nat) (startMs endMs : Nat) (rows : List ArchivedRow)
  /-- the file is replaced, the catalogue entry is not written yet -/
  | recording (cutoffMs : Nat) (days : List Nat) (startMs endMs : Nat) (rows : List ArchivedRow)
  /-- ranges still to delete -/
  | pruning (ranges : List (Nat × Nat))

structure Machine where
  db : StorageDb
  clock : Nat
  phase : MaintainPhase
  /-- every register row ever persisted -/
  persisted : List ArchivedRow

def Machine.start : Machine := { db := {}, clock := 0, phase := .idle, persisted := [] }

/-- The machine after a poll that persisted `rows`. -/
def Machine.polled (m : Machine) (now : Nat) (db : StorageDb) (rows : List ArchivedRow) : Machine :=
  { m with db, clock := now, persisted := m.persisted ++ rows }

/-- What a class of runs requires of its steps: how a poll is stamped, and
when the file of a range may be replaced. -/
structure RunRule where
  stamp : (now observedAtMs : Nat) → Prop
  mayReplace : (startMs endMs : Nat) → StorageDb → Prop

/-- Polls are stamped with the current time, to the millisecond. -/
def onTime (now observedAtMs : Nat) : Prop := now ≤ observedAtMs + 1 ∧ observedAtMs ≤ now + 1

/-- A single step of a run. -/
inductive StorageStep (env : StorageEnv) (rule : RunRule) : Machine → Machine → Prop where
  | poll {m db} (now observedAtMs : Nat) (deviceId : String) (result : PollResult) :
      m.clock ≤ now → rule.stamp now observedAtMs →
      savePoll observedAtMs deviceId result m.db = .ok db →
      StorageStep env rule m (m.polled now db (pollRows observedAtMs deviceId result m.db))
  | performance {m} (deviceId : String) (sampleId : Option Nat) (observedAtMs : Nat) :
      StorageStep env rule m
        { m with db := savePerformance deviceId sampleId observedAtMs m.db }
  /-- a statement on the derived tables -/
  | derive {m db} : m.db.SameRaw db → StorageStep env rule m { m with db }
  | begin {m} (now hotDays : Nat) : m.phase = .idle → m.clock ≤ now → 1 ≤ hotDays →
      StorageStep env rule m { m with clock := now, phase := .tiering (cutoffMs now hotDays) }
  | plan {m cutoff} : m.phase = .tiering cutoff →
      StorageStep env rule m { m with phase := .archiving cutoff (archiveDays cutoff m.db) }
  /-- an empty or archived range -/
  | skip {m cutoff day days} : m.phase = .archiving cutoff (day :: days) →
      (dayStart day < dayEnd cutoff day →
        alreadyVerified (dayStart day) (dayEnd cutoff day) m.db = true ∨
          archiveRows (dayStart day) (dayEnd cutoff day) m.db = []) →
      StorageStep env rule m { m with phase := .archiving cutoff days }
  | read {m cutoff day days} : m.phase = .archiving cutoff (day :: days) →
      dayStart day < dayEnd cutoff day →
      alreadyVerified (dayStart day) (dayEnd cutoff day) m.db = false →
      archiveRows (dayStart day) (dayEnd cutoff day) m.db ≠ [] →
      rule.mayReplace (dayStart day) (dayEnd cutoff day) m.db →
      StorageStep env rule m { m with
        phase := .replacing cutoff days (dayStart day) (dayEnd cutoff day)
          (archiveRows (dayStart day) (dayEnd cutoff day) m.db) }
  | replace {m cutoff days startMs endMs rows} :
      m.phase = .replacing cutoff days startMs endMs rows →
      StorageStep env rule m { m with
        db := replaceFile (archivePath startMs) rows m.db
        phase := .recording cutoff days startMs endMs rows }
  | record {m cutoff days startMs endMs rows} (now : Nat) :
      m.phase = .recording cutoff days startMs endMs rows →
      StorageStep env rule m { m with
        db := recordArchive (archiveEntry env now startMs endMs rows m.db) m.db
        phase := .archiving cutoff days }
  | prune {m cutoff} : m.phase = .archiving cutoff [] →
      StorageStep env rule m { m with phase := .pruning (prunableRanges cutoff m.db) }
  | delete {m range ranges} : m.phase = .pruning (range :: ranges) →
      StorageStep env rule m { m with
        db := (deleteRange (m.db, 0) range).1, phase := .pruning ranges }
  /-- the call returns, or fails where it is -/
  | stop {m} : StorageStep env rule m { m with phase := .idle }

/-- Any number of steps. -/
abbrev StorageSteps (env : StorageEnv) (rule : RunRule) : Machine → Machine → Prop :=
  Relation.ReflTransGen (StorageStep env rule)

/-! ## a whole call -/

section Maintain

variable {env : StorageEnv} {rule : RunRule} {m : Machine}

/-- One range is archived by skipping it, or by reading its rows, replacing its
file and recording it. -/
theorem archiveDay_steps {now cutoff day n k : Nat} {days : List Nat} {db : StorageDb}
    (hmay : rule.mayReplace (dayStart day) (dayEnd cutoff day) m.db)
    (h : archiveDay env now cutoff (m.db, n) day = .ok (db, k))
    (hphase : m.phase = .archiving cutoff (day :: days)) :
    StorageSteps env rule m { m with db, phase := .archiving cutoff days } := by
  rcases archiveDay_cases h with ⟨hskip, rfl⟩ | ⟨⟨hlt, hfresh, hrows⟩, rfl⟩
  · refine .single (.skip hphase ?_)
    intro hlt
    by_contra hnot
    rw [not_or, Bool.not_eq_true] at hnot
    exact hskip ⟨hlt, hnot⟩
  · have hread : StorageStep env rule m _ := .read hphase hlt hfresh hrows hmay
    have hreplace := (Relation.ReflTransGen.single hread).tail (.replace rfl)
    exact hreplace.tail (.record now rfl)

theorem archiveDays_steps (hany : ∀ startMs endMs db, rule.mayReplace startMs endMs db)
    {now cutoff n k : Nat} {days : List Nat} {db : StorageDb}
    (h : days.foldlM (archiveDay env now cutoff) (m.db, n) = .ok (db, k))
    (hphase : m.phase = .archiving cutoff days) :
    StorageSteps env rule m { m with db, phase := .archiving cutoff [] } := by
  induction days generalizing m n with
  | nil =>
      cases h
      rw [← hphase]
  | cons day days ih =>
      rw [List.foldlM_cons, Loop.bind_eq_ok] at h
      obtain ⟨⟨db₁, n₁⟩, hday, h⟩ := h
      exact (archiveDay_steps (hany _ _ _) hday hphase).trans
        (ih (m := { m with db := db₁, phase := .archiving cutoff days }) h rfl)

theorem deleteRanges_steps {n : Nat} (ranges : List (Nat × Nat))
    (hphase : m.phase = .pruning ranges) :
    StorageSteps env rule m
      { m with db := (ranges.foldl deleteRange (m.db, n)).1, phase := .pruning [] } := by
  induction ranges generalizing m n with
  | nil =>
      simp only [List.foldl_nil, ← hphase]
      exact .refl
  | cons range ranges ih =>
      have hdelete : StorageStep env rule m _ := .delete hphase
      have hrest := ih (n := n + ((m.db.samples.filter fun s =>
        range.1 ≤ s.observedAtMs ∧ s.observedAtMs < range.2).length)) (m := { m with
          db := (deleteRange (m.db, 0) range).1, phase := .pruning ranges }) rfl
      exact .head hdelete hrest

/-- **A whole call of `maintain`** is a run of the machine. -/
theorem maintain_steps (hany : ∀ startMs endMs db, rule.mayReplace startMs endMs db)
    {config : Retention} {now : Nat} {db : StorageDb} {details : MaintenanceDetails}
    (h : maintain env config now m.db = .ok (db, details)) (hphase : m.phase = .idle)
    (hclock : m.clock ≤ now) :
    StorageSteps env rule m { m with db, clock := now, phase := .idle } := by
  obtain ⟨hhot, db₁, db₂, n, hraw, harchive, rfl⟩ := maintain_cases h
  have hbegin : StorageStep env rule m _ := .begin now config.hotDays hphase hclock hhot
  have hderive := (Relation.ReflTransGen.single hbegin).tail (.derive hraw)
  have hplan := hderive.tail (.plan rfl)
  have harchived := hplan.trans (archiveDays_steps hany harchive rfl)
  by_cases hp : config.pruneArchivedRaw = true
  · rw [if_pos hp]
    have hpruned := (harchived.tail (.prune rfl)).trans (deleteRanges_steps (n := 0) _ rfl)
    exact hpruned.tail .stop
  · rw [if_neg hp]
    exact harchived.tail .stop

end Maintain

/-! ## runs of whole calls -/

inductive StorageCall where
  | poll (now observedAtMs : Nat) (deviceId : String) (result : PollResult)
  | maintain (config : Retention) (now : Nat)

def StorageCall.now : StorageCall → Nat
  | .poll now .. => now
  | .maintain _ now => now

/-- One call on a machine at rest. -/
def Machine.call (env : StorageEnv) (m : Machine) : StorageCall → Except StorageError Machine
  | .poll now observedAtMs deviceId result => do
      let db ← savePoll observedAtMs deviceId result m.db
      return m.polled now db (pollRows observedAtMs deviceId result m.db)
  | .maintain config now => do
      let (db, _) ← maintain env config now m.db
      return { m with db, clock := now, phase := .idle }

def StorageCall.Stamped (rule : RunRule) : StorageCall → Prop
  | .poll now observedAtMs _ _ => rule.stamp now observedAtMs
  | .maintain _ _ => True

/-- The calls come in order of time, and their polls are stamped as the rule says. -/
def OnSchedule (rule : RunRule) : (clock : Nat) → List StorageCall → Prop
  | _, [] => True
  | clock, c :: cs => clock ≤ c.now ∧ c.Stamped rule ∧ OnSchedule rule c.now cs

section Calls

variable {env : StorageEnv} {rule : RunRule}

/-- **Calls in order of time** are a run of the machine. -/
theorem calls_steps (hany : ∀ startMs endMs db, rule.mayReplace startMs endMs db)
    {calls : List StorageCall} {m m' : Machine} (h : calls.foldlM (Machine.call env) m = .ok m')
    (hphase : m.phase = .idle) (hdue : OnSchedule rule m.clock calls) :
    StorageSteps env rule m m' := by
  induction calls generalizing m with
  | nil =>
      cases h
      exact .refl
  | cons c cs ih =>
      rw [List.foldlM_cons, Loop.bind_eq_ok] at h
      obtain ⟨m₁, hc, h⟩ := h
      obtain ⟨hnow, hstamp, hdue⟩ := hdue
      cases c with
      | poll now observedAtMs deviceId result =>
          simp only [Machine.call, Loop.bind_eq_ok, Loop.pure_eq_ok, Except.ok.injEq] at hc
          obtain ⟨db, hpoll, rfl⟩ := hc
          have hstep : StorageStep env rule m _ :=
            .poll now observedAtMs deviceId result hnow hstamp hpoll
          exact .head hstep (ih h hphase hdue)
      | maintain config now =>
          simp only [Machine.call, Loop.bind_eq_ok, Loop.pure_eq_ok, Except.ok.injEq] at hc
          obtain ⟨⟨db, details⟩, hmaintain, rfl⟩ := hc
          exact (maintain_steps hany hmaintain hphase hnow).trans (ih h rfl hdue)

end Calls

/-! ## a small installation -/

/-- Digests that tell apart files of different raw values. -/
def rawEnv : StorageEnv where
  sha256 rows := String.intercalate "," (rows.map fun r => r.value.rawJson)

def voltageReading (raw : String) (volts : ℚ) : RegisterReading where
  name := "battery_voltage"
  address := 8
  function := "read"
  raw
  value := .number volts
  unit := some "V"

/-- A poll that reads one register. -/
def voltagePoll (raw : String) (volts : ℚ) : PollResult where
  latencyMs := 1
  profile := "ps"
  values := [voltageReading raw volts]

/-- An hour of the fourth day. -/
def hourOfDay (hour : Nat) : Nat := 3 * Calendar.dayMs + hour * 3600000

/-- Everything is archived after a day. -/
def oneDay : Retention := { hotDays := 1, warmDays := 1, coolDays := 1 }

/-- Any stamp, any replacement. -/
def anyRule : RunRule := { stamp := fun _ _ => True, mayReplace := fun _ _ _ => True }

end MorningstarModbus
