import MorningstarModbus.History.RetainedDays
import MorningstarModbus.Lib.SingleFlight

/-!
# MorningstarModbus.Runtime.HistoryBackfill

The background tasks that fetch what controllers retained (`_schedule_history_backfill` and
`_backfill_history` of `runtime/watcher.py`, `sync` of `history/retained/liveview.py`), between
polls, in any interleaving and until they are cancelled.

* `HistoryTask.alone` — a task that nothing interrupts does what `sync` does;
* `BackfillState.Kept.schedule_cases` — which polls start one;
* `history_backfills_kept` — what holds after every run.
-/

namespace MorningstarModbus

open Calendar Query Table

/-! ## tasks -/

structure BackfillSettings extends Backfill where
  enabled : Bool := true
  onStartup : Bool := true
  onReconnect : Bool := true

/-- `supports` of the one provider there is. -/
def BackfillSettings.supports (settings : BackfillSettings) (device : DiscoveredDevice) : Bool :=
  settings.enabled && device.profile = "tristar_mppt" && device.endpoint.transport = .tcp

inductive BackfillEnd where
  | unsupported
  | synced
  | failed
  | cancelled
  deriving DecidableEq

/-- What a task waits for. -/
inductive BackfillStage where
  /-- its first turn -/
  | created
  /-- the response of the controller -/
  | fetching (attemptedAt : Timestamp)
  /-- `_live_sample_counts` -/
  | counting (attemptedAt : Timestamp) (records : List ControllerDailyRecord)
  /-- the insertion of the rows -/
  | storing (attemptedAt : Timestamp) (records : List ControllerDailyRecord) (rows : List DailyRow)
  /-- `record_sync` -/
  | recording (attemptedAt : Timestamp) (records : List ControllerDailyRecord)
  /-- `record_sync` in the handler -/
  | recordingError (attemptedAt : Timestamp) (e : PyException)
  | ended (how : BackfillEnd)

namespace BackfillStage

def isEnded : BackfillStage → Bool
  | ended _ => true
  | _ => false

/-- The turns that are left at most. -/
def rank : BackfillStage → Nat
  | created => 6
  | fetching _ => 5
  | counting .. => 4
  | storing .. => 3
  | recording .. => 2
  | recordingError .. => 1
  | ended _ => 0

end BackfillStage

/-- A task of `_backfill_history`; `stored` and `reported` are what it has written. -/
structure HistoryTask where
  controllerId : String
  deviceId : String
  device : DiscoveredDevice
  /-- `cancel` was called. -/
  cancelled : Bool := false
  stage : BackfillStage := .created
  stored : List DailyRow := []
  reported : Option SyncRow := none

/-- The row of a synchronisation that wrote its records. -/
def syncedRow (syncId : Nat) (deviceId : String) (attemptedAt : Timestamp)
    (records : List ControllerDailyRecord) : SyncRow where
  id := syncId
  deviceId := deviceId
  attemptedAt := attemptedAt.isoformat
  source := liveviewSource
  status := "ok"
  recordsSeen := records.length
  recordsWritten := records.length
  oldestDay := (records.map ControllerDailyRecord.controllerDay).min?.map CivilDay.isoformat
  newestDay := (records.map ControllerDailyRecord.controllerDay).max?.map CivilDay.isoformat

/-- The row of one that raised. -/
def failedRow (syncId : Nat) (deviceId : String) (attemptedAt : Timestamp) (e : PyException) :
    SyncRow where
  id := syncId
  deviceId := deviceId
  attemptedAt := attemptedAt.isoformat
  source := liveviewSource
  status := "error"
  error := some (String.ofList (e.text.toList.take 1000))

/-- A turn of a task, with what it waited for; a failure is what the database raised. -/
inductive BackfillTurn where
  | begin (now : Timestamp)
  | fetched (retrievedAt : Timestamp) (page : Except PyException (List DatalogColumn))
  | counted (failure : Option PyException)
  | stored (failure : Option PyException)
  | recorded (syncId : Nat) (failure : Option PyException)
  /-- `CancelledError`; a write that was on its way may have been made -/
  | interrupted (wrote : Bool) (syncId : Nat)

namespace HistoryTask

/-- The task is in its dictionary: it is not done, nor cancelled. -/
def running (t : HistoryTask) : Bool := !t.stage.isEnded && !t.cancelled

/-- The write that the task waits for. -/
def write (syncId : Nat) (t : HistoryTask) (db : HistoryDb) : HistoryTask × HistoryDb :=
  match t.stage with
  | .storing _ _ rows => ({ t with stored := rows }, rows.foldl HistoryDb.upsertDaily db)
  | .recording attemptedAt records =>
      let row := syncedRow syncId t.deviceId attemptedAt records
      ({ t with reported := some row }, db.recordSync row)
  | .recordingError attemptedAt e =>
      let row := failedRow syncId t.deviceId attemptedAt e
      ({ t with reported := some row }, db.recordSync row)
  | _ => (t, db)

/-- The task goes on at a stage. -/
def goto (stage : BackfillStage) (p : HistoryTask × HistoryDb) : HistoryTask × HistoryDb :=
  ({ p.1 with stage }, p.2)

/-- A turn of `_backfill_history` with the `sync` it awaits. -/
def turn (settings : BackfillSettings) (t : HistoryTask) (db : HistoryDb) (x : BackfillTurn) :
    Option (HistoryTask × HistoryDb) :=
  match t.cancelled, t.stage, x with
  | false, .created, .begin now =>
      some (goto (if settings.supports t.device then .fetching now else .ended .unsupported)
        (t, db))
  | false, .fetching attemptedAt, .fetched retrievedAt page =>
      match page.bind (parseDatalog settings.zone retrievedAt settings.sourcePath
        settings.maxDays) with
      | .ok records => some (goto (.counting attemptedAt records) (t, db))
      | .error e => some (goto (.recordingError attemptedAt e) (t, db))
  | false, .counting attemptedAt records, .counted none =>
      some (goto (.storing attemptedAt records
        (records.map (recordRow db.telemetry.samples t.deviceId records))) (t, db))
  | false, .counting attemptedAt _, .counted (some e) =>
      some (goto (.recordingError attemptedAt e) (t, db))
  | false, .storing attemptedAt records _, .stored none =>
      some (goto (.recording attemptedAt records) (t.write 0 db))
  | false, .storing attemptedAt _ _, .stored (some e) =>
      some (goto (.recordingError attemptedAt e) (t, db))
  | false, .recording .., .recorded syncId none =>
      some (goto (.ended .synced) (t.write syncId db))
  | false, .recording attemptedAt _, .recorded _ (some e) =>
      some (goto (.recordingError attemptedAt e) (t, db))
  | false, .recordingError .., .recorded syncId none =>
      some (goto (.ended .failed) (t.write syncId db))
  | false, .recordingError .., .recorded _ (some _) => some (goto (.ended .failed) (t, db))
  | true, .ended _, _ => none
  | true, _, .interrupted wrote syncId =>
      some (goto (.ended .cancelled) (if wrote then t.write syncId db else (t, db)))
  | _, _, _ => none

end HistoryTask

/-! ## the watcher's part -/

/-- The database, `_history_tasks` with every task that was created, and
`_history_attempted_controllers`. -/
structure BackfillState where
  db : HistoryDb
  tasks : Flights String HistoryTask := {}
  attempted : List String := []

/-- A live poll that succeeded, as `_schedule_history_backfill` is told of it. -/
structure BackfillPoll where
  controllerId : String
  deviceId : String
  device : DiscoveredDevice
  reconnected : Bool

inductive BackfillEvent where
  /-- a poll is persisted -/
  | saved (now : Timestamp) (sampleId : Nat) (deviceId : String) (result : PollResult)
  | polled (poll : BackfillPoll)
  | turn (i : Nat) (x : BackfillTurn)
  | stop

namespace BackfillState

/-- A task of `_history_tasks` that is not done. -/
def busy (s : BackfillState) (controllerId : String) : Bool :=
  match s.tasks.current controllerId with
  | none => false
  | some i =>
      match s.tasks.jobs[i]? with
      | none => false
      | some t => !t.stage.isEnded

/-- `_schedule_history_backfill` -/
def schedule (settings : BackfillSettings) (poll : BackfillPoll) (s : BackfillState) :
    BackfillState :=
  if settings.supports poll.device = false then s
  else
    let initialSync := poll.controllerId ∉ s.attempted
    if ¬(initialSync ∧ settings.onStartup = true ∨
        poll.reconnected = true ∧ settings.onReconnect = true) then s
    else if s.busy poll.controllerId then s
    else { s with
      attempted := poll.controllerId :: s.attempted
      tasks := s.tasks.start HistoryTask.controllerId {
        controllerId := poll.controllerId, deviceId := poll.deviceId, device := poll.device } }

/-- A task has a turn; where it is done it leaves `_history_tasks`, if it is there. -/
def takeTurn (settings : BackfillSettings) (i : Nat) (x : BackfillTurn) (s : BackfillState) :
    Option BackfillState :=
  match s.tasks.jobs[i]? with
  | none => none
  | some t =>
      (t.turn settings s.db x).map fun p =>
        { s with
          db := p.2
          tasks := s.tasks.advance HistoryTask.controllerId HistoryTask.running i p.1 }

/-- `stop`, as far as it is about the tasks: a task is in the dictionary under its controller. -/
def stop (s : BackfillState) : BackfillState :=
  { s with tasks := {
      jobs := s.tasks.jobs.mapIdx fun i t =>
        { t with cancelled := t.cancelled || s.tasks.current t.controllerId = some i }
      current := Dict.empty } }

def step (settings : BackfillSettings) (s : BackfillState) : BackfillEvent → Option BackfillState
  | .saved now sampleId deviceId result =>
      some { s with
        db := s.db.step settings.toBackfill (.poll now sampleId deviceId result) }
  | .polled poll => some (s.schedule settings poll)
  | .turn i x => s.takeTurn settings i x
  | .stop => some s.stop

def run (settings : BackfillSettings) (s : BackfillState) (events : List BackfillEvent) :
    Option BackfillState :=
  events.foldlM (step settings) s

end BackfillState

/-! ## what a task does -/

/-- The task has written the records of a page, with the live samples of that time. -/
def HistoryTask.StoredPage (t : HistoryTask) (records : List ControllerDailyRecord) : Prop :=
  records ≠ [] ∧ ∃ samples, t.stored = records.map (recordRow samples t.deviceId records)

/-- What it has written at a stage. -/
def HistoryTask.AtStage (t : HistoryTask) : Prop :=
  match t.stage with
  | .created | .fetching _ => t.stored = [] ∧ t.reported = none
  | .counting _ records => records ≠ [] ∧ t.stored = [] ∧ t.reported = none
  | .storing _ records rows => (records ≠ [] ∧ ∃ samples,
      rows = records.map (recordRow samples t.deviceId records)) ∧ t.stored = [] ∧ t.reported = none
  | .recording _ records => t.StoredPage records ∧ t.reported = none
  | .recordingError .. => t.reported = none
  | .ended .unsupported => False
  | .ended .synced => ∃ syncId attemptedAt records, t.StoredPage records ∧
      t.reported = some (syncedRow syncId t.deviceId attemptedAt records)
  | .ended .failed => t.reported = none ∨ ∃ syncId attemptedAt e,
      t.reported = some (failedRow syncId t.deviceId attemptedAt e)
  | .ended .cancelled => True

/-- What holds of a task. -/
structure HistoryTask.Sound (settings : BackfillSettings) (t : HistoryTask) : Prop where
  supported : settings.supports t.device = true
  stored : t.stored = [] ∨ ∃ records, t.StoredPage records
  reported : t.reported = none ∨
    (∃ syncId attemptedAt e, t.reported = some (failedRow syncId t.deviceId attemptedAt e)) ∨
    ∃ syncId attemptedAt records, t.StoredPage records ∧
      t.reported = some (syncedRow syncId t.deviceId attemptedAt records)
  atStage : t.AtStage

/-- What a turn changes: it brings the task nearer to its end, and writes what was waited for or
nothing. -/
structure HistoryTask.Turned (t t' : HistoryTask) (db db' : HistoryDb) : Prop where
  before : t.stage.isEnded = false
  rank : t'.stage.rank < t.stage.rank
  controllerId : t'.controllerId = t.controllerId
  deviceId : t'.deviceId = t.deviceId
  cancelled : t'.cancelled = t.cancelled
  interrupted : t.cancelled = true → t'.stage = .ended .cancelled
  wrote : t'.stored = t.stored ∧ t'.reported = t.reported ∧ db' = db ∨
    t.stored = [] ∧ t'.reported = t.reported ∧ db' = t'.stored.foldl HistoryDb.upsertDaily db ∨
    t'.stored = t.stored ∧ t.reported = none ∧
      ∃ row, t'.reported = some row ∧ db' = db.recordSync row

section Turns

variable {settings : BackfillSettings} {t t' : HistoryTask} {db db' : HistoryDb} {x : BackfillTurn}

/-- A datalog that can be parsed has records. -/
theorem parseDatalog_ne_nil {zone : CalendarTimezone} {retrievedAt : Timestamp}
    {sourcePath : String} {maxDays : Int} {columns : List DatalogColumn}
    {records : List ControllerDailyRecord}
    (h : parseDatalog zone retrievedAt sourcePath maxDays columns = .ok records) :
    records ≠ [] := by
  simp only [parseDatalog, Loop.bind_eq_ok] at h
  obtain ⟨found, -, h⟩ := h
  split at h
  next => cases h
  next hfound =>
    cases h
    intro hnil
    exact hfound (orderBy_eq_nil.mp hnil)

/-- Going on at a later stage, after the write or without it. -/
theorem HistoryTask.Sound.goto (h : t.Sound settings) {stage : BackfillStage}
    (hrank : stage.rank < t.stage.rank)
    (hcancelled : t.cancelled = true → stage = .ended .cancelled)
    {p : HistoryTask × HistoryDb} (hp : p = (t, db) ∨ ∃ syncId, p = t.write syncId db)
    (hat : (HistoryTask.goto stage p).1.AtStage) :
    (HistoryTask.goto stage p).1.Sound settings ∧
      t.Turned (HistoryTask.goto stage p).1 db (HistoryTask.goto stage p).2 := by
  obtain ⟨hsupported, hstored, hreported, hstage⟩ := h
  have hidle : t.stage.isEnded = false → p = (t, db) →
      (HistoryTask.goto stage p).1.Sound settings ∧
        t.Turned (HistoryTask.goto stage p).1 db (HistoryTask.goto stage p).2 := by
    rintro hbefore rfl
    exact ⟨⟨hsupported, hstored, hreported, hat⟩,
      ⟨hbefore, hrank, rfl, rfl, rfl, hcancelled, .inl ⟨rfl, rfl, rfl⟩⟩⟩
  have hwrite : ∀ syncId, p = t.write syncId db →
      t.stage.isEnded = false → (HistoryTask.goto stage p).1.Sound settings ∧
        t.Turned (HistoryTask.goto stage p).1 db (HistoryTask.goto stage p).2 := by
    intro syncId hp hbefore
    rw [HistoryTask.AtStage] at hstage
    rw [HistoryTask.write] at hp
    split at hp
    case h_1 attemptedAt records rows hat' =>
      simp only [hat'] at hstage
      obtain ⟨⟨hrecords, samples, rfl⟩, hempty, hnone⟩ := hstage
      subst hp
      exact ⟨⟨hsupported, .inr ⟨records, hrecords, samples, rfl⟩, .inl hnone, hat⟩,
        ⟨hbefore, hrank, rfl, rfl, rfl, hcancelled, .inr (.inl ⟨hempty, rfl, rfl⟩)⟩⟩
    case h_2 attemptedAt records hat' =>
      simp only [hat'] at hstage
      obtain ⟨hpage, hnone⟩ := hstage
      subst hp
      exact ⟨⟨hsupported, hstored,
          .inr (.inr ⟨syncId, attemptedAt, records, hpage, rfl⟩), hat⟩,
        ⟨hbefore, hrank, rfl, rfl, rfl, hcancelled, .inr (.inr ⟨rfl, hnone, _, rfl, rfl⟩)⟩⟩
    case h_3 attemptedAt e hat' =>
      simp only [hat'] at hstage
      subst hp
      exact ⟨⟨hsupported, hstored, .inr (.inl ⟨syncId, attemptedAt, e, rfl⟩), hat⟩,
        ⟨hbefore, hrank, rfl, rfl, rfl, hcancelled, .inr (.inr ⟨rfl, hstage, _, rfl, rfl⟩)⟩⟩
    case h_4 => exact hidle hbefore hp
  have hbefore : t.stage.isEnded = false := by
    cases hlast : t.stage with
    | ended how =>
        rw [hlast] at hrank
        cases hrank
    | _ => rfl
  obtain hsame | ⟨syncId, hwrote⟩ := hp
  · exact hidle hbefore hsame
  · exact hwrite syncId hwrote hbefore

/-- A task that goes on to a later stage, without a write. -/
theorem HistoryTask.Sound.waits (h : t.Sound settings) (hcancelled : t.cancelled = false)
    {stage : BackfillStage} (hrank : stage.rank < t.stage.rank)
    (hat : (HistoryTask.goto stage (t, db)).1.AtStage) :
    (HistoryTask.goto stage (t, db)).1.Sound settings ∧
      t.Turned (HistoryTask.goto stage (t, db)).1 db db :=
  h.goto hrank (by simp [hcancelled]) (.inl rfl) hat

/-- One that goes on to a later stage with a write. -/
theorem HistoryTask.Sound.writes (h : t.Sound settings) (hcancelled : t.cancelled = false)
    {stage : BackfillStage} (hrank : stage.rank < t.stage.rank) (syncId : Nat)
    (hat : (HistoryTask.goto stage (t.write syncId db)).1.AtStage) :
    (HistoryTask.goto stage (t.write syncId db)).1.Sound settings ∧
      t.Turned (HistoryTask.goto stage (t.write syncId db)).1 db (t.write syncId db).2 :=
  h.goto hrank (by simp [hcancelled]) (.inr ⟨syncId, rfl⟩) hat

/-- A turn keeps what holds of a task. -/
theorem HistoryTask.turned {p : HistoryTask × HistoryDb} (h : t.Sound settings)
    (hturn : t.turn settings db x = some p) :
    p.1.Sound settings ∧ t.Turned p.1 db p.2 := by
  have hstage := h.atStage
  unfold HistoryTask.AtStage at hstage
  unfold HistoryTask.turn at hturn
  split at hturn
  case h_1 hcancelled hat =>
    cases hturn
    rw [if_pos h.supported]
    simp only [hat] at hstage
    exact h.waits hcancelled (by simp [hat, BackfillStage.rank]) hstage
  case h_2 page hcancelled hat =>
    simp only [hat] at hstage
    split at hturn
    next records hpage =>
      have hrecords : records ≠ [] := by
        cases page with
        | error e => cases hpage
        | ok columns => exact parseDatalog_ne_nil hpage
      cases hturn
      exact h.waits hcancelled (by simp [hat, BackfillStage.rank])
        ⟨hrecords, hstage⟩
    next e =>
      cases hturn
      exact h.waits hcancelled (by simp [hat, BackfillStage.rank])
        hstage.2
  case h_3 records hcancelled hat =>
    cases hturn
    simp only [hat] at hstage
    exact h.waits hcancelled (by simp [hat, BackfillStage.rank])
      ⟨⟨hstage.1, db.telemetry.samples, rfl⟩, hstage.2⟩
  case h_4 hcancelled hat =>
    cases hturn
    simp only [hat] at hstage
    exact h.waits hcancelled (by simp [hat, BackfillStage.rank])
      hstage.2.2
  case h_5 hcancelled hat =>
    cases hturn
    simp only [hat] at hstage
    refine h.writes hcancelled (by simp [hat, BackfillStage.rank]) 0 ?_
    simp only [HistoryTask.write, hat]
    exact ⟨hstage.1, hstage.2.2⟩
  case h_6 hcancelled hat =>
    cases hturn
    simp only [hat] at hstage
    exact h.waits hcancelled (by simp [hat, BackfillStage.rank])
      hstage.2.2
  case h_7 syncId hcancelled hat =>
    cases hturn
    simp only [hat] at hstage
    refine h.writes hcancelled (by simp [hat, BackfillStage.rank]) syncId ?_
    simp only [HistoryTask.write, hat]
    exact ⟨syncId, _, _, hstage.1, rfl⟩
  case h_8 hcancelled hat =>
    cases hturn
    simp only [hat] at hstage
    exact h.waits hcancelled (by simp [hat, BackfillStage.rank]) hstage.2
  case h_9 syncId hcancelled hat =>
    cases hturn
    refine h.writes hcancelled (by simp [hat, BackfillStage.rank]) syncId ?_
    simp only [HistoryTask.write, hat]
    exact .inr ⟨syncId, _, _, rfl⟩
  case h_10 hcancelled hat =>
    cases hturn
    simp only [hat] at hstage
    exact h.waits hcancelled (by simp [hat, BackfillStage.rank])
      (.inl hstage)
  case h_11 => cases hturn
  case h_12 wrote syncId hcancelled hlive =>
    cases hturn
    have hrank : (BackfillStage.ended .cancelled).rank < t.stage.rank := by
      cases hat : t.stage with
      | ended how => exact absurd hat (hlive how)
      | _ => simp [BackfillStage.rank]
    refine h.goto hrank (fun _ => rfl) ?_ trivial
    cases wrote with
    | false => exact .inl rfl
    | true => exact .inr ⟨syncId, rfl⟩
  case h_13 => cases hturn

end Turns

/-! ## what holds after a run -/

/-- A poll after a reconnect of the controller, where that is a reason to synchronise. -/
def BackfillEvent.reconnects (settings : BackfillSettings) (controllerId : String) :
    BackfillEvent → Bool
  | .polled poll => poll.controllerId = controllerId && poll.reconnected && settings.onReconnect
  | _ => false

/-- What an event does to the polls that are persisted. -/
def BackfillEvent.save (telemetry : TelemetryDb) : BackfillEvent → TelemetryDb
  | .saved now sampleId deviceId result =>
      match telemetry.savePoll now sampleId deviceId result with
      | .ok telemetry => telemetry
      | .error _ => telemetry
  | _ => telemetry

namespace BackfillState

/-- What every run keeps, from a database `db₀` and with no task. -/
structure Kept (settings : BackfillSettings) (db₀ : HistoryDb) (events : List BackfillEvent)
    (s : BackfillState) : Prop where
  /-- `_history_tasks` are the tasks that run. -/
  tracks : s.tasks.Tracks HistoryTask.controllerId HistoryTask.running
  sound : ∀ t ∈ s.tasks.jobs, t.Sound settings
  attempted : ∀ c, c ∈ s.attempted ↔ ∃ t ∈ s.tasks.jobs, t.controllerId = c
  attempts : ∀ c, (s.tasks.jobs.countP fun t => t.controllerId = c) ≤
    (if settings.onStartup then 1 else 0) +
      events.countP (BackfillEvent.reconnects settings c)
  /-- The polls are untouched. -/
  telemetry : s.db.telemetry = events.foldl BackfillEvent.save db₀.telemetry
  /-- A task reports once, and nothing else does. -/
  syncs : s.db.syncs.Perm (db₀.syncs ++ s.tasks.jobs.filterMap HistoryTask.reported)
  /-- The retained days are those of the start and those that tasks stored. -/
  daily : ∀ r ∈ s.db.daily, r ∈ db₀.daily ∨ ∃ t ∈ s.tasks.jobs, r ∈ t.stored
  /-- What was stored is there, or a later row of its day. -/
  stored : ∀ t ∈ s.tasks.jobs, ∀ r ∈ t.stored, ∃ r' ∈ s.db.daily, r'.key = r.key
  /-- The other days are as they were. -/
  others : ∀ r ∈ db₀.daily, (∀ t ∈ s.tasks.jobs, ∀ row ∈ t.stored, row.key ≠ r.key) →
    r ∈ s.db.daily

variable {settings : BackfillSettings} {db₀ : HistoryDb} {events : List BackfillEvent}
  {s s' : BackfillState}

/-- At first there are no tasks. -/
theorem kept_start : Kept settings db₀ [] { db := db₀ } where
  tracks := .empty
  sound := by simp
  attempted := by simp
  attempts := by simp
  telemetry := rfl
  syncs := by simp
  daily := fun r hr => .inl hr
  stored := by simp
  others := fun r hr _ => hr

/-- A poll that is saved does not touch the tasks. -/
theorem Kept.saved (h : Kept settings db₀ events s) {now : Timestamp} {sampleId : Nat}
    {deviceId : String} {result : PollResult} :
    Kept settings db₀ (events ++ [.saved now sampleId deviceId result])
      { s with db := s.db.step settings.toBackfill (.poll now sampleId deviceId result) } := by
  obtain ⟨db, hdb⟩ : ∃ db, db =
    s.db.step settings.toBackfill (.poll now sampleId deviceId result) := ⟨_, rfl⟩
  have hframe : db.telemetry = BackfillEvent.save s.db.telemetry
      (.saved now sampleId deviceId result) ∧ db.daily = s.db.daily ∧ db.syncs = s.db.syncs := by
    rw [hdb, HistoryDb.step, BackfillEvent.save]
    cases s.db.telemetry.savePoll now sampleId deviceId result <;> exact ⟨rfl, rfl, rfl⟩
  obtain ⟨htelemetry, hdaily, hsyncs⟩ := hframe
  rw [← hdb]
  exact {
    tracks := h.tracks
    sound := h.sound
    attempted := h.attempted
    attempts := by
      intro c
      rw [List.countP_append]
      exact (h.attempts c).trans (by omega)
    telemetry := by
      rw [List.foldl_append, ← h.telemetry]
      exact htelemetry
    syncs := by
      rw [hsyncs]
      exact h.syncs
    daily := by
      rw [hdaily]
      exact h.daily
    stored := by
      rw [hdaily]
      exact h.stored
    others := by
      rw [hdaily]
      exact h.others }

/-! ### polls -/

/-- The poll is a reason to synchronise, and no task of the controller runs. -/
def Due (settings : BackfillSettings) (s : BackfillState) (poll : BackfillPoll) : Prop :=
  settings.supports poll.device = true ∧
    ((∀ t ∈ s.tasks.jobs, t.controllerId ≠ poll.controllerId) ∧ settings.onStartup = true ∨
      poll.reconnected = true ∧ settings.onReconnect = true) ∧
    ∀ t ∈ s.tasks.jobs, t.running = true → t.controllerId ≠ poll.controllerId

/-- The task of a poll. -/
def taskOf (poll : BackfillPoll) : HistoryTask where
  controllerId := poll.controllerId
  deviceId := poll.deviceId
  device := poll.device

/-- What `_history_tasks` has is never done. -/
theorem Kept.busy_eq_false (h : Kept settings db₀ events s) (c : String) :
    s.busy c = false ↔ ∀ t ∈ s.tasks.jobs, t.running = true → t.controllerId ≠ c := by
  rw [← h.tracks.current_eq_none, busy]
  cases hcurrent : s.tasks.current c with
  | none => simp
  | some i =>
      obtain ⟨t, ht, hrun, -⟩ := (h.tracks c i).mp hcurrent
      simp only [HistoryTask.running, Bool.and_eq_true, Bool.not_eq_true'] at hrun
      simp [ht, hrun.1]

/-- **Which polls start a task.** -/
theorem Kept.schedule_cases (h : Kept settings db₀ events s) (poll : BackfillPoll) :
    s.Due settings poll ∧ s.schedule settings poll = { s with
      attempted := poll.controllerId :: s.attempted
      tasks := s.tasks.start HistoryTask.controllerId (taskOf poll) } ∨
    ¬s.Due settings poll ∧ s.schedule settings poll = s := by
  have hnew : poll.controllerId ∉ s.attempted ↔
      ∀ t ∈ s.tasks.jobs, t.controllerId ≠ poll.controllerId := by
    rw [h.attempted]
    simp
  have hfree := h.busy_eq_false poll.controllerId
  rw [Due, ← hnew, ← hfree, schedule]
  dsimp only
  by_cases hsupports : settings.supports poll.device = true
  · rw [if_neg (by simp [hsupports])]
    split
    next hreason => exact .inr ⟨fun hdue => hreason hdue.2.1, rfl⟩
    next hreason =>
      cases hbusy : s.busy poll.controllerId with
      | false => exact .inl ⟨⟨hsupports, not_not.mp hreason, rfl⟩, rfl⟩
      | true => exact .inr ⟨fun hdue => (nomatch hdue.2.2), rfl⟩
  · rw [if_pos (by simpa using hsupports)]
    exact .inr ⟨fun hdue => hsupports hdue.1, rfl⟩

/-- A poll starts a task exactly when it is due. -/
theorem Kept.polled (h : Kept settings db₀ events s) (poll : BackfillPoll) :
    Kept settings db₀ (events ++ [BackfillEvent.polled poll]) (s.schedule settings poll) := by
  have hmore : ∀ c, events.countP (BackfillEvent.reconnects settings c) ≤
      (events ++ [BackfillEvent.polled poll]).countP (BackfillEvent.reconnects settings c) := by
    intro c
    rw [List.countP_append]
    omega
  have htelemetry : s.db.telemetry =
      (events ++ [BackfillEvent.polled poll]).foldl BackfillEvent.save db₀.telemetry := by
    rw [List.foldl_append, ← h.telemetry]
    rfl
  obtain ⟨hdue, hschedule⟩ | ⟨-, hschedule⟩ := h.schedule_cases poll
  · obtain ⟨hsupports, hreason, hfree⟩ := hdue
    rw [hschedule]
    exact {
      tracks := h.tracks.start (h.tracks.current_eq_none.mpr hfree) rfl
      sound := by
        intro t ht
        cases List.mem_append.mp ht with
        | inl hbefore => exact h.sound t hbefore
        | inr hnew =>
            rw [List.mem_singleton.mp hnew]
            exact ⟨hsupports, .inl rfl, .inl rfl, rfl, rfl⟩
      attempted := by
        intro c
        rw [List.mem_cons, h.attempted]
        simp [Flights.start, taskOf, or_comm, eq_comm]
      attempts := by
        intro c
        rw [Flights.start, List.countP_append, List.countP_append]
        have hbefore := h.attempts c
        simp only [taskOf, List.countP_singleton, BackfillEvent.reconnects, decide_eq_true_eq]
        by_cases hc : poll.controllerId = c
        · subst hc
          obtain ⟨hnone, hstartup⟩ | ⟨hreconnected, hsetting⟩ := hreason
          · have hzero : (s.tasks.jobs.countP fun t => t.controllerId = poll.controllerId) = 0 :=
              List.countP_eq_zero.mpr fun t ht => by simpa using hnone t ht
            rw [hzero, hstartup]
            simp
          · simp [hreconnected, hsetting]
            omega
        · simp only [hc, if_false, decide_false, Bool.false_and]
          omega
      telemetry := htelemetry
      syncs := by
        rw [Flights.start, List.filterMap_append]
        simpa [taskOf] using h.syncs
      daily := fun r hr => (h.daily r hr).imp_right fun ⟨t, ht, hmem⟩ =>
        ⟨t, List.mem_append_left _ ht, hmem⟩
      stored := by
        intro t ht r hr
        cases List.mem_append.mp ht with
        | inl hbefore => exact h.stored t hbefore r hr
        | inr hnew =>
            rw [List.mem_singleton.mp hnew] at hr
            cases hr
      others := fun r hr hnone => h.others r hr fun t ht =>
        hnone t (List.mem_append_left _ ht) }
  · rw [hschedule]
    exact { h with
      attempts := fun c => (h.attempts c).trans (Nat.add_le_add_left (hmore c) _)
      telemetry := htelemetry }

/-! ### turns -/

/-- Retained days are no synchronisations. -/
theorem syncs_upsertDaily (rows : List DailyRow) (db : HistoryDb) :
    (rows.foldl HistoryDb.upsertDaily db).syncs = db.syncs := by
  induction rows generalizing db with
  | nil => rfl
  | cons row rows ih => exact ih _

/-- Retained days of other keys stay. -/
theorem mem_upsertDaily_of_ne {rows : List DailyRow} {db : HistoryDb} {r : DailyRow}
    (hr : r ∈ db.daily) (h : ∀ row ∈ rows, row.key ≠ r.key) :
    r ∈ (rows.foldl HistoryDb.upsertDaily db).daily := by
  induction rows generalizing db with
  | nil => exact hr
  | cons row rows ih =>
      refine ih ?_ fun row' hrow' => h row' (List.mem_cons_of_mem row hrow')
      have hupsert : r ∈ Table.upsert DailyRow.key (fun _ new => new) row db.daily :=
        mem_upsert_of_ne hr (Ne.symm (h row List.mem_cons_self))
      exact hupsert

/-- What a turn leaves of the retained days. -/
theorem turned_daily {t t' : HistoryTask} {db db' : HistoryDb}
    (h : t.Turned t' db db') :
    db'.telemetry = db.telemetry ∧
      (t'.stored = t.stored ∧ db'.daily = db.daily ∨
        t.stored = [] ∧ db'.daily = (t'.stored.foldl HistoryDb.upsertDaily db).daily) := by
  obtain ⟨hstored, -, rfl⟩ | ⟨hempty, -, rfl⟩ | ⟨hstored, -, row, -, rfl⟩ := h.wrote
  · exact ⟨rfl, .inl ⟨hstored, rfl⟩⟩
  · exact ⟨telemetry_upsertDaily _ _, .inr ⟨hempty, rfl⟩⟩
  · exact ⟨rfl, .inl ⟨hstored, rfl⟩⟩

/-- The database after a turn. -/
theorem Kept.turned {i : Nat} {t t' : HistoryTask} {db' : HistoryDb}
    (h : Kept settings db₀ events s) (ht : s.tasks.jobs[i]? = some t)
    (hsound : t'.Sound settings) (hturned : t.Turned t' s.db db') {x : BackfillTurn} :
    Kept settings db₀ (events ++ [.turn i x]) { s with
      db := db'
      tasks := s.tasks.advance HistoryTask.controllerId HistoryTask.running i t' } := by
  have hjobs : (s.tasks.advance HistoryTask.controllerId HistoryTask.running i t').jobs =
      s.tasks.jobs.set i t' := rfl
  have hlt := (List.getElem?_eq_some_iff.mp ht).1
  have hids : (s.tasks.jobs.set i t').map HistoryTask.controllerId =
      s.tasks.jobs.map HistoryTask.controllerId :=
    Flights.map_set_of_eq ht hturned.controllerId
  have hback : ∀ u ∈ s.tasks.jobs.set i t', u ∈ s.tasks.jobs ∨ u = t' :=
    fun u hu => List.mem_or_eq_of_mem_set hu
  have hhere : t' ∈ s.tasks.jobs.set i t' := List.mem_set hlt _
  obtain ⟨htelemetry, hdaily⟩ := turned_daily hturned
  -- what the tasks stored is still theirs
  have hkeep : ∀ u ∈ s.tasks.jobs, ∀ r ∈ u.stored,
      ∃ u' ∈ s.tasks.jobs.set i t', r ∈ u'.stored := by
    intro u hu r hr
    obtain ⟨j, hj⟩ := List.mem_iff_getElem?.mp hu
    by_cases hsame : j = i
    · subst hsame
      obtain rfl : t = u := Option.some.inj (ht.symm.trans hj)
      obtain ⟨hstored, -⟩ | ⟨hempty, -⟩ | ⟨hstored, -⟩ := hturned.wrote
      · exact ⟨t', hhere, hstored ▸ hr⟩
      · rw [hempty] at hr
        cases hr
      · exact ⟨t', hhere, hstored ▸ hr⟩
    · have hset : (s.tasks.jobs.set i t')[j]? = some u := by
        rw [List.getElem?_set_ne (Ne.symm hsame), hj]
      exact ⟨u, List.mem_of_getElem? hset, hr⟩
  exact {
    tracks := by
      refine h.tracks.advance ht (fun hrun => ?_) hturned.controllerId
      have hbefore : t.cancelled = false := by
        cases hcancelled : t.cancelled with
        | false => rfl
        | true =>
            rw [HistoryTask.running, hturned.interrupted hcancelled] at hrun
            cases hrun
      rw [HistoryTask.running, hturned.before, hbefore]
      rfl
    sound := fun u hu => (hback u hu).elim (h.sound u) fun hlast => hlast ▸ hsound
    attempted := by
      intro c
      rw [h.attempted, hjobs]
      rw [← List.mem_map, ← List.mem_map, hids]
    attempts := by
      intro c
      have hcount := congrArg (List.countP fun k => k = c) hids
      rw [List.countP_map, List.countP_map] at hcount
      rw [List.countP_append]
      exact hcount.le.trans ((h.attempts c).trans (by omega))
    telemetry := by
      rw [List.foldl_append, ← h.telemetry]
      exact htelemetry
    syncs := by
      rw [hjobs]
      obtain ⟨-, hreported, rfl⟩ | ⟨-, hreported, rfl⟩ | ⟨-, hnone, row, hsome, rfl⟩ :=
        hturned.wrote
      · rw [Flights.filterMap_set_of_eq ht hreported]
        exact h.syncs
      · rw [Flights.filterMap_set_of_eq ht hreported]
        exact (syncs_upsertDaily _ _).symm ▸ h.syncs
      · refine (h.syncs.append_right [row]).trans ?_
        rw [List.append_assoc]
        exact (Flights.filterMap_set_perm ht hnone hsome).symm.append_left db₀.syncs
    daily := by
      intro r hr
      have hold : r ∈ s.db.daily → r ∈ db₀.daily ∨ ∃ u ∈ s.tasks.jobs.set i t', r ∈ u.stored :=
        fun hr => (h.daily r hr).imp_right fun ⟨u, hu, hmem⟩ => hkeep u hu r hmem
      obtain ⟨-, hdaily⟩ | ⟨-, hdaily⟩ := hdaily
      · exact hold (hdaily ▸ hr)
      · obtain ⟨hbefore, -⟩ | hnew := mem_upsertDaily (hdaily ▸ hr)
        · exact hold hbefore
        · exact .inr ⟨t', hhere, hnew⟩
    stored := by
      intro u hu r hr
      have hold : ∀ u ∈ s.tasks.jobs, r ∈ u.stored → ∃ r' ∈ db'.daily, r'.key = r.key := by
        intro u hu hr
        have hkey := h.stored u hu r hr
        obtain ⟨-, hdaily⟩ | ⟨-, hdaily⟩ := hdaily
        · exact hdaily ▸ hkey
        · rw [hdaily, exists_key_upsertDaily]
          exact .inr hkey
      obtain hbefore | rfl := hback u hu
      · exact hold u hbefore hr
      · obtain ⟨hstored, -⟩ | ⟨-, hdaily⟩ := hdaily
        · exact hold t (List.mem_of_getElem? ht) (hstored ▸ hr)
        · show ∃ r' ∈ db'.daily, r'.key = r.key
          rw [hdaily, exists_key_upsertDaily]
          exact .inl ⟨r, hr, rfl⟩
    others := by
      intro r hr hnone
      have hbefore : r ∈ s.db.daily := by
        refine h.others r hr fun u hu row hrow => ?_
        obtain ⟨u', hu', hrow'⟩ := hkeep u hu row hrow
        exact hnone u' hu' row hrow'
      obtain ⟨-, hdaily⟩ | ⟨-, hdaily⟩ := hdaily
      · exact hdaily ▸ hbefore
      · exact hdaily ▸ mem_upsertDaily_of_ne hbefore (hnone t' hhere) }

/-! ### runs -/

/-- Stopping cancels the tasks that are current. -/
theorem mem_stop {u : HistoryTask} (hu : u ∈ s.stop.tasks.jobs) :
    ∃ (i : Nat) (t : HistoryTask), s.tasks.jobs[i]? = some t ∧
      u = { t with cancelled := t.cancelled || s.tasks.current t.controllerId = some i } := by
  obtain ⟨i, hi, rfl⟩ := List.mem_mapIdx.mp hu
  exact ⟨i, _, List.getElem?_eq_getElem hi, rfl⟩

/-- What a task has stored it keeps. -/
theorem exists_stop {t : HistoryTask} (ht : t ∈ s.tasks.jobs) :
    ∃ u ∈ s.stop.tasks.jobs, u.stored = t.stored := by
  obtain ⟨i, hi, rfl⟩ := List.getElem_of_mem ht
  exact ⟨_, List.mem_mapIdx.mpr ⟨i, hi, rfl⟩, rfl⟩

/-- Stopping keeps all of it. -/
theorem Kept.stopped (h : Kept settings db₀ events s) :
    Kept settings db₀ (events ++ [.stop]) s.stop := by
  have hids : s.stop.tasks.jobs.map HistoryTask.controllerId =
      s.tasks.jobs.map HistoryTask.controllerId := Flights.map_mapIdx_of_eq fun _ _ => rfl
  exact {
    tracks := by
      refine Flights.Tracks.clear fun u hu => ?_
      obtain ⟨i, t, ht, rfl⟩ := mem_stop hu
      by_cases hrun : t.running = true
      · have hcurrent := (h.tracks t.controllerId i).mpr ⟨t, ht, hrun, rfl⟩
        simp [HistoryTask.running, hcurrent]
      · simp only [HistoryTask.running, Bool.and_eq_true, Bool.not_eq_true', not_and,
          Bool.not_eq_false] at hrun
        cases hended : t.stage.isEnded with
        | true => simp [HistoryTask.running, hended]
        | false => simp [HistoryTask.running, hrun hended]
    sound := by
      intro u hu
      obtain ⟨i, t, ht, rfl⟩ := mem_stop hu
      obtain ⟨hsupported, hstored, hreported, hstage⟩ := h.sound t (List.mem_of_getElem? ht)
      exact ⟨hsupported, hstored, hreported, hstage⟩
    attempted := by
      intro c
      have hbefore := h.attempted c
      rwa [← List.mem_map, ← hids, List.mem_map] at hbefore
    attempts := by
      intro c
      have hcount := congrArg (List.countP fun k => k = c) hids
      rw [List.countP_map, List.countP_map] at hcount
      rw [List.countP_append]
      exact hcount.le.trans ((h.attempts c).trans (by omega))
    telemetry := by
      rw [List.foldl_append, ← h.telemetry]
      rfl
    syncs := by
      have hsame : s.stop.tasks.jobs.filterMap HistoryTask.reported =
          s.tasks.jobs.filterMap HistoryTask.reported :=
        Flights.filterMap_mapIdx_of_eq fun _ _ => rfl
      rw [hsame]
      exact h.syncs
    daily := by
      intro r hr
      refine (h.daily r hr).imp_right fun ⟨t, ht, hmem⟩ => ?_
      obtain ⟨u, hu, hstored⟩ := exists_stop ht
      exact ⟨u, hu, hstored ▸ hmem⟩
    stored := by
      intro u hu r hr
      obtain ⟨i, t, ht, rfl⟩ := mem_stop hu
      exact h.stored t (List.mem_of_getElem? ht) r hr
    others := by
      intro r hr hnone
      refine h.others r hr fun t ht row hrow => ?_
      obtain ⟨u, hu, hstored⟩ := exists_stop ht
      exact hnone u hu row (hstored ▸ hrow) }

/-- A turn is one of a task that is there and not finished. -/
theorem takeTurn_eq_some {i : Nat} {x : BackfillTurn} (h : s.takeTurn settings i x = some s') :
    ∃ t p, s.tasks.jobs[i]? = some t ∧ t.turn settings s.db x = some p ∧
      s' = { s with
        db := p.2
        tasks := s.tasks.advance HistoryTask.controllerId HistoryTask.running i p.1 } := by
  rw [takeTurn] at h
  cases ht : s.tasks.jobs[i]? with
  | none =>
      rw [ht] at h
      cases h
  | some t =>
      rw [ht] at h
      obtain ⟨p, hp, hs⟩ := Option.map_eq_some_iff.mp h
      exact ⟨t, p, rfl, hp, hs.symm⟩

/-- **Step lemma.** -/
theorem Kept.step (h : Kept settings db₀ events s) {event : BackfillEvent}
    (hstep : s.step settings event = some s') : Kept settings db₀ (events ++ [event]) s' := by
  cases event with
  | saved now sampleId deviceId result =>
      cases hstep
      exact h.saved
  | polled poll =>
      cases hstep
      exact h.polled poll
  | turn i x =>
      obtain ⟨t, p, ht, hp, rfl⟩ := takeTurn_eq_some hstep
      obtain ⟨hsound, hturned⟩ := HistoryTask.turned (h.sound t (List.mem_of_getElem? ht)) hp
      exact h.turned ht hsound hturned
  | stop =>
      cases hstep
      exact h.stopped

/-- **Run lemma.** -/
theorem Kept.run (h : Kept settings db₀ events s) {more : List BackfillEvent}
    (hrun : s.run settings more = some s') : Kept settings db₀ (events ++ more) s' := by
  induction more generalizing events s with
  | nil =>
      cases hrun
      rwa [List.append_nil]
  | cons event more ih =>
      obtain ⟨s₁, hstep, hrest⟩ := Option.bind_eq_some_iff.mp hrun
      rw [List.append_cons]
      exact ih (h.step hstep) hrest

/-- The turns that are left at most. -/
def left (s : BackfillState) : Nat := (s.tasks.jobs.map fun t => t.stage.rank).sum

/-- A turn brings the end nearer. -/
theorem Kept.left_lt (h : Kept settings db₀ events s) {i : Nat} {x : BackfillTurn}
    (hturn : s.takeTurn settings i x = some s') : s'.left < s.left := by
  obtain ⟨t, p, ht, hp, rfl⟩ := takeTurn_eq_some hturn
  have hturned := (HistoryTask.turned (h.sound t (List.mem_of_getElem? ht)) hp).2
  exact Flights.sum_map_set_lt ht hturned.rank

/-- A task that is not done can take a turn. -/
theorem exists_turn {i : Nat} {t : HistoryTask} (ht : s.tasks.jobs[i]? = some t)
    (hbefore : t.stage.isEnded = false) : ∃ x s', s.takeTurn settings i x = some s' := by
  obtain ⟨now⟩ : Nonempty Timestamp := ⟨june 1 0⟩
  have hturn : ∃ x, (t.turn settings s.db x).isSome = true := by
    cases hcancelled : t.cancelled with
    | true =>
        refine ⟨.interrupted false 0, ?_⟩
        cases hstage : t.stage with
        | ended how => simp [hstage, BackfillStage.isEnded] at hbefore
        | _ => simp [HistoryTask.turn, hcancelled, hstage]
    | false =>
        cases hstage : t.stage with
        | created => exact ⟨.begin now, by simp [HistoryTask.turn, hcancelled, hstage]⟩
        | fetching => exact ⟨.fetched now (.error overflowError), by
            simp [HistoryTask.turn, hcancelled, hstage, Except.bind]⟩
        | counting => exact ⟨.counted none, by simp [HistoryTask.turn, hcancelled, hstage]⟩
        | storing => exact ⟨.stored none, by simp [HistoryTask.turn, hcancelled, hstage]⟩
        | recording => exact ⟨.recorded 0 none, by simp [HistoryTask.turn, hcancelled, hstage]⟩
        | recordingError =>
            exact ⟨.recorded 0 none, by simp [HistoryTask.turn, hcancelled, hstage]⟩
        | ended how => simp [hstage, BackfillStage.isEnded] at hbefore
  obtain ⟨x, hx⟩ := hturn
  obtain ⟨p, hp⟩ := Option.isSome_iff_exists.mp hx
  have htake : s.takeTurn settings i x = some { s with
      db := p.2
      tasks := s.tasks.advance HistoryTask.controllerId HistoryTask.running i p.1 } := by
    simp only [takeTurn, ht, hp, Option.map_some]
  exact ⟨x, _, htake⟩

/-- Turns alone come to an end. -/
theorem Kept.length_turns (h : Kept settings db₀ events s) {turns : List (Nat × BackfillTurn)}
    (hrun : s.run settings (turns.map fun x => .turn x.1 x.2) = some s') :
    turns.length + s'.left ≤ s.left := by
  induction turns generalizing events s with
  | nil =>
      cases hrun
      exact (Nat.zero_add _).le
  | cons x turns ih =>
      obtain ⟨s₁, hturn, hrest⟩ := Option.bind_eq_some_iff.mp hrun
      have hfirst := h.left_lt hturn
      have hlater := ih (h.step hturn) hrest
      rw [List.length_cons]
      omega

end BackfillState

/-! ## a task alone -/

/-- The turns of a task of which the database does not raise. -/
def syncTurns (settings : BackfillSettings) (attemptedAt retrievedAt : Timestamp) (syncId : Nat)
    (page : Except PyException (List DatalogColumn)) : List BackfillTurn :=
  .begin attemptedAt :: .fetched retrievedAt page ::
    match page.bind (parseDatalog settings.zone retrievedAt settings.sourcePath
      settings.maxDays) with
    | .ok _ => [.counted none, .stored none, .recorded syncId none]
    | .error _ => [.recorded syncId none]

/-- A task that nothing interrupts does what `sync` does. -/
theorem HistoryTask.alone {settings : BackfillSettings} {t : HistoryTask}
    (hsupports : settings.supports t.device = true) (hcreated : t.stage = .created)
    (hcancelled : t.cancelled = false) (attemptedAt retrievedAt : Timestamp) (syncId : Nat)
    (page : Except PyException (List DatalogColumn)) (db : HistoryDb) :
    ∃ t', (syncTurns settings attemptedAt retrievedAt syncId page).foldlM
        (fun p x => p.1.turn settings p.2 x) (t, db) =
          some (t', (db.sync settings.zone settings.sourcePath settings.maxDays t.deviceId
            attemptedAt retrievedAt syncId page).2) ∧
      t'.stage = .ended
        (match (db.sync settings.zone settings.sourcePath settings.maxDays t.deviceId attemptedAt
          retrievedAt syncId page).1 with
        | .ok _ => .synced
        | .error _ => .failed) := by
  rw [syncTurns, HistoryDb.sync]
  cases hpage : page.bind (parseDatalog settings.zone retrievedAt settings.sourcePath
      settings.maxDays) with
  | ok records =>
      simp [HistoryTask.turn, HistoryTask.goto, HistoryTask.write, hsupports, hcreated, hcancelled,
        hpage, HistoryDb.upsert, syncedRow]
  | error e =>
      simp [HistoryTask.turn, HistoryTask.goto, HistoryTask.write, hsupports, hcreated, hcancelled,
        hpage, failedRow]

/-! ## whole runs -/

/-- **Background synchronisations.**  After every run of polls, turns of tasks and stops, whatever
the controllers and the database answer: a controller has at most one task that runs, and no more
tasks than its reconnects and the start account for; a poll starts one exactly when it is due; what
tasks store and report is all there is beside what was there, the polls are untouched, and every
task can go on, for so many turns at most as are left. -/
theorem history_backfills_kept (settings : BackfillSettings) (db₀ : HistoryDb)
    (events : List BackfillEvent) (s : BackfillState)
    (h : BackfillState.run settings { db := db₀ } events = some s) :
    s.Kept settings db₀ events ∧
      (∀ (i j : Nat) (t u : HistoryTask), s.tasks.jobs[i]? = some t → s.tasks.jobs[j]? = some u →
        t.running = true → u.running = true → t.controllerId = u.controllerId → i = j) ∧
      (∀ poll, (s.schedule settings poll).tasks.jobs = s.tasks.jobs ++
          [BackfillState.taskOf poll] ∧ s.Due settings poll ∨
        s.schedule settings poll = s ∧ ¬s.Due settings poll) ∧
      (∀ (i : Nat) (t : HistoryTask), s.tasks.jobs[i]? = some t →
        t.stage.isEnded = false → ∃ x s', s.takeTurn settings i x = some s') ∧
      ∀ (turns : List (Nat × BackfillTurn)) (s' : BackfillState),
        s.run settings (turns.map fun x => .turn x.1 x.2) = some s' →
          turns.length + s'.left ≤ s.left := by
  have hkept : s.Kept settings db₀ events := BackfillState.kept_start.run h
  refine ⟨hkept, fun i j t u ht hu hrun hrun' hkey => hkept.tracks.unique ht hu hrun hrun' hkey,
    fun poll => ?_, fun i t ht hbefore => BackfillState.exists_turn ht hbefore,
    fun turns s' hrun => hkept.length_turns hrun⟩
  obtain ⟨hdue, hschedule⟩ | ⟨hdue, hschedule⟩ := hkept.schedule_cases poll
  · exact .inl ⟨by rw [hschedule]; rfl, hdue⟩
  · exact .inr ⟨hschedule, hdue⟩

def loggerSettings : BackfillSettings where
  toBackfill := utcBackfill

/-- A poll of a controller with a daily logger. -/
def loggerPoll (reconnected : Bool) : BackfillPoll where
  controllerId := "c"
  deviceId := "d"
  device := { endpoint := { transport := .tcp, target := "10.0.0.5", unitId := 1 }
              profile := "tristar_mppt" }
  reconnected := reconnected

/-- It reconnects while it is fetched from, and a poll is saved before its days are counted; the
watcher stops while a second task waits for its page. -/
def loggerEvents : List BackfillEvent := [
  .polled (loggerPoll false),
  .turn 0 (.begin (june 3 6)),
  .polled (loggerPoll true),
  .saved (june 1 12) 1 "d" { values := [], latencyMs := 12, profile := "tristar_mppt" },
  .turn 0 (.fetched (june 3 6) (.ok [{ dayOffset := some (-1) }, { dayOffset := some (-2) }])),
  .turn 0 (.counted none),
  .turn 0 (.stored none),
  .turn 0 (.recorded 1 none),
  .polled (loggerPoll false),
  .polled (loggerPoll true),
  .turn 1 (.begin (june 3 7)),
  .stop,
  .turn 1 (.interrupted false 0)]

/-- A first task stores two days; a second one, after a reconnect, is stopped. -/
theorem history_backfills_kept_logger :
    ∃ s, BackfillState.run loggerSettings { db := emptyHistory } loggerEvents = some s ∧
      s.tasks.jobs.length = 2 ∧ s.db.daily.length = 2 ∧ s.db.syncs.length = 1 ∧
      s.Kept loggerSettings emptyHistory loggerEvents := by
  have hcounts : (BackfillState.run loggerSettings { db := emptyHistory } loggerEvents).map
      (fun s => (s.tasks.jobs.length, s.db.daily.length, s.db.syncs.length)) = some (2, 2, 1) := by
    decide +kernel
  obtain ⟨s, hs, hcount⟩ := Option.map_eq_some_iff.mp hcounts
  obtain ⟨htasks, hdaily, hsyncs⟩ : _ ∧ _ ∧ _ := by simpa using hcount
  exact ⟨s, hs, htasks, hdaily, hsyncs, (history_backfills_kept _ _ _ s hs).1⟩

end MorningstarModbus
