import MorningstarModbus.History.Retained
import MorningstarModbus.History.TimeRange
import MorningstarModbus.Lib.Decimal

/-!
# MorningstarModbus.History.Analytics

Day-level continuity of a controller's history (`history/analytics.py`): the period of a
query, the evidence of its days, their coverage and their gaps.

`date.fromisoformat` is a parameter.  The dates of a gap are kept as dates; their texts are
`isoformat` of them.  Percentages are divided and rounded in doubles.
-/

namespace MorningstarModbus

open Calendar Query

inductive AnalyticsError where
  | data (error : ControllerDataError)
  | raised (error : PyException)
  deriving DecidableEq

/-- `_percent` -/
def percent (numerator denominator : Nat) : Option ℚ :=
  if denominator = 0 then none
  else
    let quotient := Decimal.nearestDouble (numerator / denominator)
    -- `round` decides by the exact value of the double, so a tie of the quotient may be none
    let rounded := Decimal.roundHalfEven (Decimal.nearestDouble (quotient * 100) * 100)
    some (Decimal.nearestDouble (rounded / 100))

example : percent 23 160 = some (Decimal.nearestDouble (1437 / 100)) := by decide +kernel

/-- `substr(observed_at, 1, 10)` -/
def SampleRow.dayText (s : SampleRow) : String := String.ofList (s.observedAt.toList.take 10)

/-! ## the period -/

section Period

variable (fromisoformat : String → Except PyException CivilDay)

/-- A bound of the period: the given one, else from the days there are. -/
def periodBound (given available : Option String)
    (ofAvailable : CivilDay → Except PyException CivilDay) :
    Except PyException (Option CivilDay) := do
  match given.filter (· ≠ "") with
  | some text => return some (← fromisoformat text)
  | none =>
    match available.filter (· ≠ "") with
    | some text => return some (← ofAvailable (← fromisoformat text))
    | none => return none

/-- The days that there is something of. -/
def availableDays (scope : ControllerScope) (db : HistoryDb) : List String :=
  (db.telemetry.samples.filter fun s => scope.contains s.deviceId).map SampleRow.dayText ++
    (db.daily.filter fun r => scope.contains r.deviceId).map DailyRow.controllerDay

/-- `_resolve_period` -/
def resolvePeriod (scope : ControllerScope) (start stop : Option String) (db : HistoryDb) :
    Except PyException (Option (CivilDay × CivilDay)) := do
  let available := availableDays scope db
  let startDay ← periodBound fromisoformat start available.min? .ok
  let endDay ← periodBound fromisoformat stop available.max? fun day => inDateRange (day.shift 1)
  let period ← match startDay, endDay with
    | none, none => pure none
    | none, some endDay => return some (← inDateRange (endDay.shift (-1)), endDay)
    | some startDay, none => return some (startDay, ← inDateRange (startDay.shift 1))
    | some startDay, some endDay => pure (some (startDay, endDay))
  if period.any fun p => p.2 ≤ p.1 then
    throw ⟨"ValueError", "from must be earlier than to"⟩
  return period

end Period

/-! ## evidence -/

structure DailyEvidence where
  /-- the count of samples of each day that has any -/
  live : List (String × Nat)
  /-- the newest record of each day -/
  retained : List DailyRow

namespace DailyEvidence

/-- `live.get(day.isoformat(), 0)` -/
def samplesOn (e : DailyEvidence) (day : Day) : Nat := (e.live.lookup day.isoformat).getD 0

/-- `retained.get(day.isoformat())` -/
def recordOf (e : DailyEvidence) (day : Day) : Option DailyRow :=
  Table.lookup DailyRow.controllerDay day.isoformat e.retained

/-- A complete record of a day. -/
def completedOn (e : DailyEvidence) (day : Day) : Bool :=
  (e.recordOf day).any DailyRow.isComplete

end DailyEvidence

/-- The samples of a period. -/
def periodSamples (scope : ControllerScope) (startDay endDay : CivilDay) (db : HistoryDb) :
    List SampleRow :=
  db.telemetry.samples.filter (sampleFilter scope.contains
    { start := some (dayBoundary startDay.day), stop := some (dayBoundary endDay.day) })

/-- `_daily_evidence` -/
def dailyEvidence (scope : ControllerScope) (startDay endDay : CivilDay) (db : HistoryDb) :
    DailyEvidence where
  live := (Table.groups SampleRow.dayText (periodSamples scope startDay endDay db)).map fun day =>
    (day.1, day.2.length)
  retained := ranked (db.daily.filter fun r => scope.contains r.deviceId &&
    startDay.isoformat ≤ r.controllerDay && r.controllerDay < endDay.isoformat)

/-! ## coverage -/

structure Coverage where
  scope : ControllerScope
  start : Option String
  stop : Option String
  dayCount : Nat := 0
  daysWithSamples : Nat := 0
  sampleCount : Nat := 0
  realtimePercent : Option ℚ := none
  coveredDays : Nat := 0
  coveredPercent : Option ℚ := none
  controllerCompletedDays : Nat := 0
  recoveredDays : Nat := 0
  missingDays : Int := 0
  lastSync : Option SyncRow
  controllerDailyRecords : Option Nat := none

/-- What `coverage` counts over the days of a period. -/
def coverageOf (scope : ControllerScope) (startDay endDay : CivilDay) (db : HistoryDb) :
    Coverage :=
  let evidence := dailyEvidence scope startDay endDay db
  let days := Day.range startDay.day endDay.day
  let realtimeDays := (days.filter fun day => 0 < evidence.samplesOn day).length
  let coveredDays := (days.filter fun day =>
    0 < evidence.samplesOn day || evidence.completedOn day).length
  { scope
    start := some startDay.isoformat
    stop := some endDay.isoformat
    dayCount := days.length
    daysWithSamples := realtimeDays
    sampleCount := (evidence.live.map Prod.snd).sum
    realtimePercent := percent realtimeDays days.length
    coveredDays
    coveredPercent := percent coveredDays days.length
    controllerCompletedDays := (days.filter evidence.completedOn).length
    recoveredDays := (days.filter fun day =>
      evidence.samplesOn day = 0 && evidence.completedOn day).length
    missingDays := days.length - coveredDays
    lastSync := scope.lastSync db
    controllerDailyRecords := some evidence.retained.length }

/-! ## gaps -/

inductive GapStatus where
  | recovered
  | partialDay
  | missing
  deriving DecidableEq

/-- `status in {"recovered", "partial"}` -/
def GapStatus.recorded : GapStatus → Bool
  | .missing => false
  | _ => true

structure Gap where
  start : Day
  stop : Day
  durationDays : Nat
  status : GapStatus
  recoverability : String
  controllerRecordCount : Nat
  deriving DecidableEq

/-- The status of a day without samples. -/
def DailyEvidence.status (e : DailyEvidence) (day : Day) : GapStatus :=
  match e.recordOf day with
  | some record => if record.isComplete then .recovered else .partialDay
  | none => .missing

/-- `daily_gaps` -/
def dailyGaps (evidence : DailyEvidence) (days : List Day) : List (Day × GapStatus) :=
  days.filterMap fun day =>
    if 0 < evidence.samplesOn day then none else some (day, evidence.status day)

/-- A gap of one day. -/
def Gap.ofDay (entry : Day × GapStatus) : Gap where
  start := entry.1
  stop := entry.1.next
  durationDays := 1
  status := entry.2
  recoverability := if entry.2.recorded then "controller_daily" else "none"
  controllerRecordCount := if entry.2.recorded then 1 else 0

/-- The gap with the following day. -/
def Gap.extend (previous : Gap) (entry : Day × GapStatus) : Gap :=
  { previous with
    stop := entry.1.next
    durationDays := previous.durationDays + 1
    controllerRecordCount := previous.controllerRecordCount + if entry.2.recorded then 1 else 0 }

/-- A turn of the loop over `daily_gaps`: the last gap grows, or a new one begins. -/
def addGap (grouped : List Gap) (entry : Day × GapStatus) : List Gap :=
  match grouped.getLast? with
  | some previous =>
      if previous.status = entry.2 ∧ previous.stop = entry.1 then
        grouped.dropLast ++ [previous.extend entry]
      else grouped ++ [Gap.ofDay entry]
  | none => [Gap.ofDay entry]

structure GapReport where
  scope : ControllerScope
  start : Option String
  stop : Option String
  gaps : List Gap

def gapsOf (scope : ControllerScope) (startDay endDay : CivilDay) (db : HistoryDb) : GapReport :=
  { scope
    start := some startDay.isoformat
    stop := some endDay.isoformat
    gaps := (dailyGaps (dailyEvidence scope startDay endDay db)
      (Day.range startDay.day endDay.day)).foldl addGap [] }

/-! ## queries -/

section Queries

variable (env : Env) (fromisoformat : String → Except PyException CivilDay)

/-- The period of a query of an identifier, with the scope it resolves to. -/
def queryPeriod (identifier : String) (start stop : Option String) (db : HistoryDb)
    (registry : Db) :
    Except AnalyticsError (Db × ControllerScope × Option (CivilDay × CivilDay)) := do
  let (registry, scope) ←
    (ControllerDataRepository.scope env identifier registry).mapError AnalyticsError.data
  let period ← (resolvePeriod fromisoformat scope start stop db).mapError AnalyticsError.raised
  return (registry, scope, period)

/-- `ControllerHistoryAnalytics.coverage` -/
def coverage (identifier : String) (start stop : Option String) (db : HistoryDb) (registry : Db) :
    Except AnalyticsError (Db × Coverage) := do
  let (registry, scope, period) ← queryPeriod env fromisoformat identifier start stop db registry
  match period with
  | none => return (registry, { scope, start, stop, lastSync := scope.lastSync db })
  | some (startDay, endDay) => return (registry, coverageOf scope startDay endDay db)

/-- `ControllerHistoryAnalytics.gaps` -/
def gaps (identifier : String) (start stop : Option String) (db : HistoryDb) (registry : Db) :
    Except AnalyticsError (Db × GapReport) := do
  let (registry, scope, period) ← queryPeriod env fromisoformat identifier start stop db registry
  match period with
  | none => return (registry, { scope, start, stop, gaps := [] })
  | some (startDay, endDay) => return (registry, gapsOf scope startDay endDay db)

end Queries

end MorningstarModbus
