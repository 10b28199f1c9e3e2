import Mathlib.Order.OrderDual
import MorningstarModbus.History.ControllerData
import MorningstarModbus.Lib.CivilDay
import MorningstarModbus.Lib.Group

/-!
# MorningstarModbus.History.Retained

Daily records that a controller retained (`history/retained/`): what a synchronisation
reads from the datalog of a controller, and the tables it writes.

The columns of a datalog are what its table was parsed to.  A calendar timezone is a
parameter: the date of a time, and the time of the midnight of a date.
-/

namespace MorningstarModbus

open Calendar Query

/-- `LIVEVIEW_SOURCE` -/
def liveviewSource : String := "liveview-http"

/-! ## records -/

/-- What a controller measured on a day. -/
structure DailyMeasurements where
  hourmeterHours : Option ℚ := none
  eventCount : Option Int := none
  batteryVoltageMin : Option ℚ := none
  batteryVoltageMax : Option ℚ := none
  arrayVoltageMax : Option ℚ := none
  outputPowerMax : Option ℚ := none
  chargeAh : Option ℚ := none
  chargeWh : Option ℚ := none
  batteryTempMin : Option ℚ := none
  batteryTempMax : Option ℚ := none
  absorptionMinutes : Option ℚ := none
  floatMinutes : Option ℚ := none
  equalizeMinutes : Option ℚ := none
  faults : Option String := none
  alarms : Option String := none
  deriving DecidableEq

structure ControllerDailyRecord where
  controllerDay : CivilDay
  retrievedAt : String
  dayOffset : Int
  isComplete : Bool
  dayStartUtc : String
  dayEndUtc : String
  source : String
  sourcePath : String
  measurements : DailyMeasurements := {}
  raw : List (String × String) := []
  deriving DecidableEq

/-- A column of the datalog table. -/
structure DatalogColumn where
  /-- `_parse_day_offset` of the cell in the row of days -/
  dayOffset : Option Int
  measurements : DailyMeasurements := {}
  raw : List (String × String) := []
  deriving DecidableEq

/-- A `tzinfo`. -/
structure CalendarTimezone where
  /-- `t.astimezone(zone).date()` -/
  localDate : Timestamp → CivilDay
  /-- `datetime.combine(day, time.min, tzinfo=zone).astimezone(UTC)`, where it is in range -/
  dayStart : CivilDay → Option Timestamp

/-- `timezone.utc` -/
def CalendarTimezone.utc : CalendarTimezone where
  localDate := Timestamp.date
  dayStart := fun day => some day.midnight

def overflowError : PyException := ⟨"OverflowError", "date value out of range"⟩

/-- A value that is out of the range of dates where there is none. -/
def inDateRange {α : Type} (value : Option α) : Except PyException α :=
  match value with
  | some value => .ok value
  | none => .error overflowError

/-- `_record_from_column` -/
def recordFromColumn (zone : CalendarTimezone) (retrievedAt : Timestamp) (sourcePath : String)
    (dayOffset : Int) (column : DatalogColumn) : Except PyException ControllerDailyRecord := do
  let controllerDay ← inDateRange ((zone.localDate retrievedAt).shift dayOffset)
  let dayStart ← inDateRange (zone.dayStart controllerDay)
  let following ← inDateRange (controllerDay.shift 1)
  let dayEnd ← inDateRange (zone.dayStart following)
  return {
    controllerDay, retrievedAt := retrievedAt.isoformat, dayOffset
    isComplete := dayOffset < 0
    dayStartUtc := dayStart.isoformat, dayEndUtc := dayEnd.isoformat
    source := liveviewSource, sourcePath, measurements := column.measurements, raw := column.raw }

/-- `parse_liveview_datalog`, from the columns of the table. -/
def parseDatalog (zone : CalendarTimezone) (retrievedAt : Timestamp) (sourcePath : String)
    (maxDays : Int) (columns : List DatalogColumn) :
    Except PyException (List ControllerDailyRecord) := do
  let dated := columns.filterMap fun column => column.dayOffset.map fun offset => (offset, column)
  let kept := dated.filter fun c => c.1 ≤ 0 ∧ |c.1| ≤ maxDays
  let records ← kept.mapM fun c => recordFromColumn zone retrievedAt sourcePath c.1 c.2
  if records = [] then
    throw ⟨"ControllerHistoryError",
      "LiveView response did not contain a recognizable datalog table"⟩
  return orderBy ControllerDailyRecord.controllerDay .desc records

/-! ## tables -/

/-- A row of `controller_daily_history`. -/
structure DailyRow where
  deviceId : String
  controllerDay : String
  retrievedAt : String
  source : String
  sourcePath : String
  dayOffset : Int
  isComplete : Bool
  dayStartUtc : String
  dayEndUtc : String
  liveSampleCount : Nat
  measurements : DailyMeasurements := {}
  raw : List (String × String) := []
  deriving DecidableEq

/-- `PRIMARY KEY(device_id, controller_day)` -/
def DailyRow.key (r : DailyRow) : String × String := (r.deviceId, r.controllerDay)

/-- A row of `controller_history_syncs`. -/
structure SyncRow where
  id : Nat
  deviceId : String
  attemptedAt : String
  source : String
  status : String
  recordsSeen : Nat := 0
  recordsWritten : Nat := 0
  oldestDay : Option String := none
  newestDay : Option String := none
  error : Option String := none
  deriving DecidableEq

/-- The polls, and what was retained. -/
structure HistoryDb where
  telemetry : TelemetryDb
  daily : List DailyRow
  syncs : List SyncRow
  daily_keyed : Table.Keyed DailyRow.key daily := by decide

/-- `observed_at>=day_start_utc AND observed_at<day_end_utc` -/
def withinDay (dayStartUtc dayEndUtc : String) (s : SampleRow) : Bool :=
  dayStartUtc ≤ s.observedAt && s.observedAt < dayEndUtc

/-- `_live_sample_counts`, for one of the days: a day that several records are of is joined
once for each. -/
def liveSampleCount (samples : List SampleRow) (deviceId : String)
    (records : List ControllerDailyRecord) (day : CivilDay) : Nat :=
  ((records.filter fun r => r.controllerDay = day).map fun r => (samples.filter fun s =>
    s.deviceId = deviceId && withinDay r.dayStartUtc r.dayEndUtc s).length).sum

/-- `_record_row` -/
def recordRow (samples : List SampleRow) (deviceId : String)
    (records : List ControllerDailyRecord) (record : ControllerDailyRecord) : DailyRow where
  deviceId := deviceId
  controllerDay := record.controllerDay.isoformat
  retrievedAt := record.retrievedAt
  source := record.source
  sourcePath := record.sourcePath
  dayOffset := record.dayOffset
  isComplete := record.isComplete
  dayStartUtc := record.dayStartUtc
  dayEndUtc := record.dayEndUtc
  liveSampleCount := liveSampleCount samples deviceId records record.controllerDay
  measurements := record.measurements
  raw := record.raw

namespace HistoryDb

/-- `INSERT INTO controller_daily_history … ON CONFLICT(device_id, controller_day) DO UPDATE` -/
def upsertDaily (db : HistoryDb) (row : DailyRow) : HistoryDb :=
  { db with
    daily := Table.upsert DailyRow.key (fun _ new => new) row db.daily
    daily_keyed := db.daily_keyed.upsert fun _ _ => rfl }

/-- `ControllerHistoryRepository.upsert` -/
def upsert (deviceId : String) (records : List ControllerDailyRecord) (db : HistoryDb) :
    HistoryDb :=
  (records.map (recordRow db.telemetry.samples deviceId records)).foldl upsertDaily db

/-- `ControllerHistoryRepository.record_sync`; the id is the one the database gives. -/
def recordSync (row : SyncRow) (db : HistoryDb) : HistoryDb :=
  { db with syncs := db.syncs ++ [row] }

/-- `ControllerHistoryBackfiller.sync` with what it fetched, `syncId` the id of its row: the
database it leaves, and how it ended. -/
def sync (zone : CalendarTimezone) (sourcePath : String) (maxDays : Int) (deviceId : String)
    (attemptedAt retrievedAt : Timestamp) (syncId : Nat)
    (fetched : Except PyException (List DatalogColumn)) (db : HistoryDb) :
    Except PyException Unit × HistoryDb :=
  let row : SyncRow := {
    id := syncId, deviceId, attemptedAt := attemptedAt.isoformat, source := liveviewSource
    status := "ok" }
  match fetched.bind (parseDatalog zone retrievedAt sourcePath maxDays) with
  | .ok records =>
      let days := records.map ControllerDailyRecord.controllerDay
      (.ok (), (db.upsert deviceId records).recordSync { row with
        recordsSeen := records.length
        recordsWritten := records.length
        oldestDay := days.min?.map CivilDay.isoformat
        newestDay := days.max?.map CivilDay.isoformat })
  | .error e =>
      (.error e, db.recordSync { row with
        status := "error"
        error := some (String.ofList (e.text.toList.take 1000)) })

end HistoryDb

/-! ## statements -/

/-- `ORDER BY retrieved_at DESC, device_id` -/
def DailyRow.recency (r : DailyRow) : Stringᵒᵈ ×ₗ String :=
  toLex (OrderDual.toDual r.retrievedAt, r.deviceId)

/-- `ROW_NUMBER() OVER (PARTITION BY controller_day ORDER BY …)`, and `rn=1`. -/
def ranked (rows : List DailyRow) : List DailyRow :=
  (Table.groups DailyRow.controllerDay rows).filterMap fun day =>
    (orderBy DailyRow.recency .asc day.2).head?

/-- `ORDER BY attempted_at DESC, id DESC` -/
def SyncRow.key (r : SyncRow) : String ×ₗ Nat := toLex (r.attemptedAt, r.id)

/-- `fills_full_day_gap` -/
def DailyRow.fillsFullDayGap (r : DailyRow) : Bool := r.isComplete && r.liveSampleCount = 0

/-- A row as `controller_daily_history` lists it. -/
structure DailyItem where
  controllerUid : String
  row : DailyRow
  fillsFullDayGap : Bool
  deriving DecidableEq

structure DailySummary where
  scope : ControllerScope
  recordCount : Nat
  completeDays : Nat
  fullDayGapsFilled : Nat
  oldestDay : Option String
  newestDay : Option String
  lastRetrievedAt : Option String
  lastSync : Option SyncRow

namespace ControllerScope

/-- `_last_sync` -/
def lastSync (scope : ControllerScope) (db : HistoryDb) : Option SyncRow :=
  (orderBy SyncRow.key .desc (db.syncs.filter fun r => scope.contains r.deviceId)).head?

/-- `ControllerDataRepository.controller_daily_history` over a scope. -/
def dailyHistory (scope : ControllerScope) (range : TimeRange) (limit : Int) (db : HistoryDb) :
    List DailyItem :=
  ((orderBy DailyRow.controllerDay .desc (ranked (db.daily.filter fun r =>
    scope.contains r.deviceId && range.contains r.controllerDay))).take (clampLimit 500 limit)).map
      fun row =>
        { controllerUid := scope.controllerUid, row, fillsFullDayGap := row.fillsFullDayGap }

/-- `ControllerDataRepository.controller_daily_summary` over a scope. -/
def dailySummary (scope : ControllerScope) (db : HistoryDb) : DailySummary :=
  let rows := ranked (db.daily.filter fun r => scope.contains r.deviceId)
  { scope
    recordCount := rows.length
    completeDays := (rows.filter DailyRow.isComplete).length
    fullDayGapsFilled := (rows.filter DailyRow.fillsFullDayGap).length
    oldestDay := (rows.map DailyRow.controllerDay).min?
    newestDay := (rows.map DailyRow.controllerDay).max?
    lastRetrievedAt := (rows.map DailyRow.retrievedAt).max?
    lastSync := scope.lastSync db }

end ControllerScope

end MorningstarModbus
