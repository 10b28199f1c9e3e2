import MorningstarModbus.Controllers.Scope
import MorningstarModbus.Persistence.Store

/-!
# MorningstarModbus.History.ControllerData

Controller-scoped telemetry (`history/controller_data.py`): the statements of
the store over the device ids in a controller's history.

A query resolves its identifier first, which synchronises the registry, and
takes and returns the registry's database.
-/

namespace MorningstarModbus

open Query

inductive ControllerDataError where
  | registry (error : RegistryError)
  | notFound (identifier : String)
  | tooLarge (error : HistoryQueryTooLarge)
  deriving DecidableEq

/-- `ControllerDataRepository.scope` -/
def ControllerDataRepository.scope (env : Env) (identifier : String) (registry : Db) :
    Except ControllerDataError (Db × ControllerScope) := do
  let (registry, scope) ← (resolve env identifier registry).mapError ControllerDataError.registry
  match scope with
  | none => throw (.notFound identifier)
  | some scope => return (registry, scope)

namespace ControllerScope

/-- `_ids_clause` -/
def contains (scope : ControllerScope) (deviceId : String) : Bool :=
  deviceId ∈ scope.historyDeviceIds

end ControllerScope

/-- A raw row with the device that observed it. -/
structure Sourced (R : Type) where
  sourceDeviceId : String
  row : R
  deriving DecidableEq

def Sourced.map {R S : Type} (f : R → S) (s : Sourced R) : Sourced S where
  sourceDeviceId := s.sourceDeviceId
  row := f s.row

def Joined.sourced (j : Joined) : Sourced HistoryRow where
  sourceDeviceId := j.sample.deviceId
  row := j.row

/-- A row of `samples`. -/
structure ControllerSample where
  id : Nat
  sourceDeviceId : String
  controllerUid : String
  observedAt : String
  latencyMs : ℚ
  profile : String
  deriving DecidableEq

def SampleRow.ofController (scope : ControllerScope) (s : SampleRow) : ControllerSample where
  id := s.id
  sourceDeviceId := s.deviceId
  controllerUid := scope.controllerUid
  observedAt := s.observedAt
  latencyMs := s.latencyMs
  profile := s.profile

namespace ControllerDataRepository

/-- A query over the scope of an identifier. -/
def query {α : Type} (env : Env) (identifier : String)
    (run : ControllerScope → Except ControllerDataError α) (registry : Db) :
    Except ControllerDataError (Db × α) := do
  let (registry, scope) ← scope env identifier registry
  let rows ← run scope
  return (registry, rows)

/-- `ControllerDataRepository.samples` -/
def samples (env : Env) (identifier : String) (limit : Int) (range : TimeRange) (order : String)
    (db : TelemetryDb) (registry : Db) : Except ControllerDataError (Db × List ControllerSample) :=
  query env identifier (fun scope =>
    .ok ((selectSamples scope.contains limit range (orderSql env order) db).map
      (SampleRow.ofController scope))) registry

/-- `ControllerDataRepository._raw_history_rows` -/
def rawHistoryRows (env : Env) (scope : ControllerScope) (names : List String) (range : TimeRange)
    (order : String) (limit : Int) (db : TelemetryDb) : List (Sourced HistoryRow) :=
  (selectHistory scope.contains names range (orderSql env order) (some limit) db).map Joined.sourced

/-- `ControllerDataRepository.register_history` -/
def registerHistory (env : Env) (identifier name : String) (limit : Int) (range : TimeRange)
    (order : String) (db : TelemetryDb) (registry : Db) :
    Except ControllerDataError (Db × List (Sourced RegisterPoint)) :=
  query env identifier (fun scope =>
    .ok ((rawHistoryRows env scope [name] range order (clampLimit 10000 limit) db).map
      (Sourced.map HistoryRow.point))) registry

/-- `ControllerDataRepository.multi_register_history` -/
def multiRegisterHistory (env : Env) (sqlite : Sqlite) (plan : Plan AggregateRow)
    (identifier : String) (names : List String) (range : TimeRange) (order : String)
    (bucketSeconds : Option Int) (maxPoints : Int) (db : TelemetryDb) (registry : Db) :
    Except ControllerDataError (Db × ControllerScope × List (HistoryItem (Sourced HistoryRow))) :=
  query env identifier (fun scope => do
    let rows ← (checkPoints maxPoints (historyItems Joined.sourced sqlite plan scope.contains names
      range (orderSql env order) bucketSeconds (some (maxPoints + 1)) db)).mapError
        ControllerDataError.tooLarge
    return (scope, rows)) registry

/-- `ControllerDataRepository.register_stats` -/
def registerStats (env : Env) (sqlite : Sqlite) (identifier : String) (names : List String)
    (range : TimeRange) (db : TelemetryDb) (registry : Db) :
    Except ControllerDataError (Db × ControllerScope × List StatsRow) :=
  query env identifier (fun scope =>
    .ok (scope, orderBy StatsRow.key .asc
      (statsRows sqlite (db.history scope.contains names range)))) registry

/-- `ControllerDataRepository.iter_history_export` -/
def iterHistoryExport (env : Env) (sqlite : Sqlite) (plan : Plan AggregateRow)
    (identifier : String) (names : List String) (range : TimeRange) (order : String)
    (bucketSeconds : Option Int) (batchSize : Int) (db : TelemetryDb) (registry : Db) :
    Except ControllerDataError (Db × List (Labelled (Sourced ExportRow))) :=
  query env identifier (fun scope =>
    .ok (stream scope.controllerUid batchSize (historyItems
      (fun j => j.sourced.map HistoryRow.exported) sqlite plan scope.contains names range
      (orderSql env order) bucketSeconds none db))) registry

end ControllerDataRepository

end MorningstarModbus
