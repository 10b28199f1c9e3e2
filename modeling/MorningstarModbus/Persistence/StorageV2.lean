import Mathlib.Data.List.Sort
import Mathlib.Algebra.Order.Ring.Unbundled.Rat
import Mathlib.Data.Rat.Lemmas
import MorningstarModbus.Lib.Table
import MorningstarModbus.Lib.Loop
import MorningstarModbus.Lib.Group
import MorningstarModbus.Lib.Calendar

/-!
# MorningstarModbus.Persistence.StorageV2

Storage v2 (`persistence/storage_v2.py`) over the telemetry tables: polls
(`store.py`), rollups and state runs, the daily Parquet archive, pruning, and
the `maintain` job that runs them in order.

Times are milliseconds.  `REAL` columns are rationals.  An archive file is the
list of rows it holds, and its path is the date it is named after.  Its rows are
written at once: the batches of `fetchmany`, and the error of a writer to which
two batches have columns of different types, are left out.
-/

namespace MorningstarModbus

/-! ## rows -/

structure PollSample where
  id : Nat
  deviceId : String
  observedAtMs : Nat
  latencyMs : ℚ
  profile : String
  deriving DecidableEq

structure RegisterValue where
  sampleId : Nat
  registerName : String
  address : Nat
  function : String
  rawJson : String
  numericValue : Option ℚ
  textValue : Option String
  unit : Option String
  deriving DecidableEq

structure PerformanceSample where
  id : Nat
  deviceId : String
  sampleId : Option Nat
  observedAtMs : Nat
  deriving DecidableEq

structure DictionaryRow where
  registerKey : Nat
  registerName : String
  address : Nat
  function : String
  unit : String
  deriving DecidableEq

inductive RollupKind where
  | numeric
  | text
  deriving DecidableEq

structure RollupRow where
  deviceId : String
  registerKey : Nat
  bucketSeconds : Nat
  bucketStartMs : Nat
  kind : RollupKind
  sampleCount : Nat
  minValue : Option ℚ
  maxValue : Option ℚ
  avgValue : Option ℚ
  firstNumeric : Option ℚ
  lastNumeric : Option ℚ
  firstText : Option String
  lastText : Option String
  transitions : Nat
  deriving DecidableEq

structure StateRunRow where
  deviceId : String
  registerKey : Nat
  startedAtMs : Nat
  endedAtMs : Nat
  value : String
  sampleCount : Nat
  deriving DecidableEq

structure ArchiveRow where
  startMs : Nat
  endMs : Nat
  path : Calendar.Date
  rowCount : Nat
  sha256 : String
  verified : Bool
  createdAtMs : Nat
  deriving DecidableEq

/-- A row of an archive file: a sample joined with one of its registers. -/
structure ArchivedRow where
  sample : PollSample
  value : RegisterValue
  deriving DecidableEq

/-- Primary keys and uniqueness constraints. -/
def RegisterValue.key (v : RegisterValue) : Nat × String := (v.sampleId, v.registerName)

def RollupRow.key (r : RollupRow) : String × Nat × Nat × Nat :=
  (r.deviceId, r.registerKey, r.bucketSeconds, r.bucketStartMs)

def StateRunRow.key (r : StateRunRow) : String × Nat × Nat :=
  (r.deviceId, r.registerKey, r.startedAtMs)

/-- The tables and the archive directory. -/
structure StorageDb where
  samples : List PollSample := []
  values : List RegisterValue := []
  performance : List PerformanceSample := []
  dictionary : List DictionaryRow := []
  rollups : List RollupRow := []
  stateRuns : List StateRunRow := []
  archives : List ArchiveRow := []
  /-- the sequence of `AUTOINCREMENT` on `poll_samples` -/
  lastSampleId : Nat := 0
  /-- the sequence of `AUTOINCREMENT` on `poll_performance_samples` -/
  lastPerformanceId : Nat := 0
  file : Calendar.Date → Option (List ArchivedRow) := fun _ => none

inductive StorageError where
  | registerValueExists
  | rollupExists
  | stateRunExists
  | retentionTiers
  | bucketSeconds
  | archiveVerification
  deriving DecidableEq

/-- The digest of the Parquet file that holds these rows. -/
structure StorageEnv where
  sha256 : List ArchivedRow → String

/-! ## polls -/

/-- A decoded register value, as `save_poll` tells them apart. -/
inductive ReadingValue where
  | number (x : ℚ)
  | boolean (b : Bool)
  | text (s : String)
  | missing
  deriving DecidableEq

structure RegisterReading where
  name : String
  address : Nat
  function : String
  raw : String
  value : ReadingValue
  unit : Option String
  deriving DecidableEq

structure PollResult where
  latencyMs : ℚ
  profile : String
  values : List RegisterReading
  deriving DecidableEq

def ReadingValue.numeric : ReadingValue → Option ℚ
  | .number x => some x
  | _ => none

def ReadingValue.asText : ReadingValue → Option String
  | .boolean b => some (if b then "True" else "False")
  | .text s => some s
  | _ => none

/-- The row of one register of a poll. -/
def RegisterReading.row (r : RegisterReading) (sampleId : Nat) : RegisterValue where
  sampleId
  registerName := r.name
  address := r.address
  function := r.function
  rawJson := r.raw
  numericValue := r.value.numeric
  textValue := r.value.asText
  unit := r.unit

/-- `MorningstarStore.save_poll`, with the time the epoch trigger stores. -/
def savePoll (observedAtMs : Nat) (deviceId : String) (result : PollResult) (db : StorageDb) :
    Except StorageError StorageDb :=
  let sampleId := db.lastSampleId + 1
  let values := db.values ++ result.values.map fun r => r.row sampleId
  if Table.Keyed RegisterValue.key values then
    .ok { db with
      samples := db.samples ++ [{ id := sampleId, deviceId, observedAtMs,
                                  latencyMs := result.latencyMs, profile := result.profile }]
      values
      lastSampleId := sampleId }
  else .error .registerValueExists

/-- `PollingPerformanceStore.save` -/
def savePerformance (deviceId : String) (sampleId : Option Nat) (observedAtMs : Nat)
    (db : StorageDb) : StorageDb :=
  { db with
    performance := db.performance ++
      [{ id := db.lastPerformanceId + 1, deviceId, sampleId, observedAtMs }]
    lastPerformanceId := db.lastPerformanceId + 1 }

/-! ## register dictionary -/

/-- The columns a register is looked up by. -/
def RegisterValue.entry (v : RegisterValue) : String × Nat × String × String :=
  (v.registerName, v.address, v.function, v.unit.getD "")

def DictionaryRow.entry (d : DictionaryRow) : String × Nat × String × String :=
  (d.registerName, d.address, d.function, d.unit)

/-- `INSERT OR IGNORE` of one entry, under the next free key. -/
def addEntry (rows : List DictionaryRow) (e : String × Nat × String × String) :
    List DictionaryRow :=
  if rows.any fun d => d.entry = e then rows
  else rows ++ [{ registerKey := (rows.map DictionaryRow.registerKey).foldl max 0 + 1,
                  registerName := e.1, address := e.2.1, function := e.2.2.1, unit := e.2.2.2 }]

/-- `refresh_register_dictionary` -/
def refreshRegisterDictionary (db : StorageDb) : StorageDb × Nat :=
  let dictionary := (Table.distinct (db.values.map RegisterValue.entry)).foldl addEntry db.dictionary
  ({ db with dictionary }, dictionary.length - db.dictionary.length)

/-! ## rollups -/

/-- A row of the `base` tables of the rollup statements. -/
structure Observed (V : Type) where
  deviceId : String
  registerKey : Nat
  sampleId : Nat
  observedAtMs : Nat
  value : V

namespace Observed

variable {V : Type}

/-- `PARTITION BY device_id, register_key` -/
def series (o : Observed V) : String × Nat := (o.deviceId, o.registerKey)

/-- `PARTITION BY device_id, register_key, bucket_start_ms` -/
def bucket (bucketMs : Nat) (o : Observed V) : String × Nat × Nat :=
  (o.deviceId, o.registerKey, o.observedAtMs / bucketMs * bucketMs)

/-- `ORDER BY observed_at_ms, sample_id` -/
def before (a b : Observed V) : Prop :=
  a.observedAtMs < b.observedAtMs ∨ (a.observedAtMs = b.observedAtMs ∧ a.sampleId ≤ b.sampleId)

instance : DecidableRel (before (V := V)) := fun a b => by unfold before; infer_instance

/-- The row `LAG` reads. -/
def previous (rows : List (Observed V)) (o : Observed V) : Option (Observed V) :=
  ((rows.filter fun p => p.series = o.series ∧ ¬ o.before p).insertionSort before).getLast?

end Observed

/-- The `base` table of the observations `pick` finds, up to a cutoff. -/
def observedRows {V : Type} (pick : RegisterValue → Option V) (cutoffMs : Nat) (db : StorageDb) :
    List (Observed V) :=
  db.values.flatMap fun v => (db.samples.filter fun s => s.id = v.sampleId).flatMap fun s =>
    (db.dictionary.filter fun d => d.entry = v.entry).flatMap fun d =>
      if s.observedAtMs < cutoffMs then
        ((pick v).map fun value =>
          { deviceId := s.deviceId, registerKey := d.registerKey, sampleId := s.id,
            observedAtMs := s.observedAtMs, value }).toList
      else []

/-- One `GROUP BY` row of the numeric statement. -/
def numericRollup (bucketSeconds : Nat) (group : (String × Nat × Nat) × List (Observed ℚ)) :
    RollupRow :=
  let sorted := group.2.insertionSort Observed.before
  let values := group.2.map Observed.value
  { deviceId := group.1.1, registerKey := group.1.2.1, bucketSeconds,
    bucketStartMs := group.1.2.2, kind := .numeric, sampleCount := group.2.length,
    minValue := values.min?, maxValue := values.max?,
    avgValue := some (values.sum / values.length),
    firstNumeric := sorted.head?.map Observed.value,
    lastNumeric := sorted.getLast?.map Observed.value,
    firstText := none, lastText := none, transitions := 0 }

/-- One `GROUP BY` row of the text statement; `rows` is its whole base table. -/
def textRollup (bucketSeconds : Nat) (rows : List (Observed String))
    (group : (String × Nat × Nat) × List (Observed String)) : RollupRow :=
  let sorted := group.2.insertionSort Observed.before
  let changed := fun o => match Observed.previous rows o with
    | some p => p.value != o.value
    | none => false
  { deviceId := group.1.1, registerKey := group.1.2.1, bucketSeconds,
    bucketStartMs := group.1.2.2, kind := .text, sampleCount := group.2.length,
    minValue := none, maxValue := none, avgValue := none, firstNumeric := none, lastNumeric := none,
    firstText := sorted.head?.map Observed.value, lastText := sorted.getLast?.map Observed.value,
    transitions := (group.2.filter fun o => changed o).length }

/-- `DELETE FROM storage_rollups WHERE bucket_seconds=? AND bucket_start_ms<?` -/
def deleteRollups (cutoffMs bucketSeconds : Nat) (db : StorageDb) : StorageDb :=
  { db with rollups := db.rollups.filter fun r =>
      ¬ (r.bucketSeconds = bucketSeconds ∧ r.bucketStartMs < cutoffMs) }

/-- The rows of the numeric statement. -/
def numericRollups (cutoffMs bucketSeconds : Nat) (db : StorageDb) : List RollupRow :=
  (Table.groups (Observed.bucket (bucketSeconds * 1000))
    (observedRows RegisterValue.numericValue cutoffMs db)).map (numericRollup bucketSeconds)

/-- The rows of the text statement. -/
def textRollups (cutoffMs bucketSeconds : Nat) (db : StorageDb) : List RollupRow :=
  let rows := observedRows RegisterValue.textValue cutoffMs db
  (Table.groups (Observed.bucket (bucketSeconds * 1000)) rows).map (textRollup bucketSeconds rows)

/-- `INSERT INTO storage_rollups … SELECT`, under the primary key. -/
def insertRollups (new : List RollupRow) (db : StorageDb) : Except StorageError StorageDb :=
  if Table.Keyed RollupRow.key (db.rollups ++ new) then
    .ok { db with rollups := db.rollups ++ new }
  else .error .rollupExists

/-- `build_rollups` -/
def buildRollups (cutoffMs bucketSeconds : Nat) (db : StorageDb) :
    Except StorageError (StorageDb × Nat) := do
  if bucketSeconds < 1 then throw .bucketSeconds
  let db := deleteRollups cutoffMs bucketSeconds (refreshRegisterDictionary db).1
  let numeric := numericRollups cutoffMs bucketSeconds db
  let text := textRollups cutoffMs bucketSeconds db
  let db ← insertRollups numeric db
  let db ← insertRollups text db
  return (db, numeric.length + text.length)

/-! ## state runs -/

/-- `changed`: the text differs from the previous one, or is the first. -/
def stateChanged (rows : List (Observed String)) (o : Observed String) : Bool :=
  (Observed.previous rows o).map Observed.value ≠ some o.value

/-- `run_id`: the changes of the series up to the row's time, peers included. -/
def runId (rows : List (Observed String)) (o : Observed String) : Nat :=
  (rows.filter fun p => p.series = o.series ∧ p.observedAtMs ≤ o.observedAtMs ∧
    stateChanged rows p).length

/-- One `GROUP BY` row of the state-run statement. -/
def stateRun (group : (String × Nat × Nat) × List (Observed String)) : StateRunRow :=
  let times := group.2.map Observed.observedAtMs
  { deviceId := group.1.1, registerKey := group.1.2.1,
    startedAtMs := times.min?.getD 0, endedAtMs := times.max?.getD 0,
    value := (group.2.map Observed.value).foldl (fun m v => if m ≤ v then v else m) "",
    sampleCount := group.2.length }

/-- `build_state_runs` -/
def buildStateRuns (cutoffMs : Nat) (db : StorageDb) : Except StorageError (StorageDb × Nat) :=
  let db := (refreshRegisterDictionary db).1
  let kept := db.stateRuns.filter fun r => ¬ r.startedAtMs < cutoffMs
  let rows := observedRows RegisterValue.textValue cutoffMs db
  let runs := (Table.groups (fun o => (o.deviceId, o.registerKey, runId rows o)) rows).map stateRun
  if Table.Keyed StateRunRow.key (kept ++ runs) then
    .ok ({ db with stateRuns := kept ++ runs }, runs.length)
  else .error .stateRunExists

/-! ## the archive -/

namespace StorageDb

/-- `poll_samples s JOIN register_values v ON v.sample_id=s.id` -/
def telemetry (db : StorageDb) : List ArchivedRow :=
  db.samples.flatMap fun s => (db.values.filter fun v => v.sampleId = s.id).map fun v => ⟨s, v⟩

end StorageDb

/-- `ORDER BY s.observed_at_ms, s.id, v.address, v.register_name` -/
def archiveBefore (a b : ArchivedRow) : Prop :=
  a.sample.observedAtMs < b.sample.observedAtMs ∨ (a.sample.observedAtMs = b.sample.observedAtMs ∧
    (a.sample.id < b.sample.id ∨ (a.sample.id = b.sample.id ∧
      (a.value.address < b.value.address ∨ (a.value.address = b.value.address ∧
        a.value.registerName ≤ b.value.registerName)))))

instance : DecidableRel archiveBefore := fun a b => by unfold archiveBefore; infer_instance

/-- The rows an archive of the range selects. -/
def archiveRows (startMs endMs : Nat) (db : StorageDb) : List ArchivedRow :=
  (db.telemetry.filter fun r => startMs ≤ r.sample.observedAtMs ∧ r.sample.observedAtMs < endMs)
    |>.insertionSort archiveBefore

/-- The file of the day a range starts on. -/
def archivePath (startMs : Nat) : Calendar.Date := Calendar.ofDay (startMs / Calendar.dayMs)

/-- `SELECT verified FROM storage_archives WHERE start_ms=? AND end_ms=?` is 1. -/
def alreadyVerified (startMs endMs : Nat) (db : StorageDb) : Bool :=
  match db.archives.find? fun a => a.startMs = startMs ∧ a.endMs = endMs with
  | some a => a.verified
  | none => false

/-- `os.replace(temp, target)` -/
def replaceFile (path : Calendar.Date) (rows : List ArchivedRow) (db : StorageDb) : StorageDb :=
  { db with file := Function.update db.file path (some rows) }

/-- `ON CONFLICT(path) DO UPDATE`: the range of the old entry stays. -/
def ArchiveRow.merge (old new : ArchiveRow) : ArchiveRow :=
  { old with
    rowCount := new.rowCount, sha256 := new.sha256, verified := new.verified,
    createdAtMs := new.createdAtMs }

/-- `INSERT INTO storage_archives … ON CONFLICT(path)` -/
def recordArchive (entry : ArchiveRow) (db : StorageDb) : StorageDb :=
  { db with archives := Table.upsert ArchiveRow.path ArchiveRow.merge entry db.archives }

/-- The entry of an archived range; it is verified if the file in place has the
digest of the rows that were written. -/
def archiveEntry (env : StorageEnv) (now startMs endMs : Nat) (rows : List ArchivedRow)
    (db : StorageDb) : ArchiveRow where
  startMs
  endMs
  path := archivePath startMs
  rowCount := rows.length
  sha256 := env.sha256 rows
  verified := (db.file (archivePath startMs)).map env.sha256 = some (env.sha256 rows)
  createdAtMs := now

/-- `_archive_range`, with a writer that takes the rows of all batches. -/
def archiveRange (env : StorageEnv) (now startMs endMs : Nat) (db : StorageDb) :
    Except StorageError (StorageDb × Nat) :=
  if alreadyVerified startMs endMs db then .ok (db, 0)
  else
    let rows := archiveRows startMs endMs db
    if rows.isEmpty then .ok (db, 0)
    else
      let db := replaceFile (archivePath startMs) rows db
      let entry := archiveEntry env now startMs endMs rows db
      let db := recordArchive entry db
      if entry.verified then .ok (db, rows.length) else .error .archiveVerification

/-- The days `archive_before` visits: from that of the oldest sample before the
cutoff to that of the newest. -/
def archiveDays (cutoffMs : Nat) (db : StorageDb) : List Nat :=
  let times := (db.samples.map PollSample.observedAtMs).filter (· < cutoffMs)
  match times.min?, times.max? with
  | some first, some last =>
      List.range' (first / Calendar.dayMs) (last / Calendar.dayMs + 1 - first / Calendar.dayMs)
  | _, _ => []

/-- The range of a day that `archive_before` archives. -/
def dayStart (day : Nat) : Nat := day * Calendar.dayMs

def dayEnd (cutoffMs day : Nat) : Nat := min (dayStart day + Calendar.dayMs) cutoffMs

/-- One day of `archive_before`. -/
def archiveDay (env : StorageEnv) (now cutoffMs : Nat) (acc : StorageDb × Nat) (day : Nat) :
    Except StorageError (StorageDb × Nat) := do
  if dayStart day < dayEnd cutoffMs day then
    let (db, archived) ← archiveRange env now (dayStart day) (dayEnd cutoffMs day) acc.1
    return (db, acc.2 + archived)
  else return acc

/-- `archive_before` -/
def archiveAllBefore (env : StorageEnv) (now cutoffMs : Nat) (db : StorageDb) :
    Except StorageError (StorageDb × Nat) :=
  (archiveDays cutoffMs db).foldlM (archiveDay env now cutoffMs) (db, 0)

/-! ## pruning -/

/-- The deletions of one range, with their cascades. -/
def deleteRange (acc : StorageDb × Nat) (range : Nat × Nat) : StorageDb × Nat :=
  let inRange := fun t => decide (range.1 ≤ t ∧ t < range.2)
  let db := acc.1
  let deleted := db.samples.filter fun s => inRange s.observedAtMs
  let gone := fun id => deleted.any fun s => s.id = id
  ({ db with
      performance := (db.performance.filter fun p => ¬ inRange p.observedAtMs)
        |> Table.update (fun p => p.sampleId.any gone) fun p => { p with sampleId := none }
      samples := db.samples.filter fun s => ¬ inRange s.observedAtMs
      values := db.values.filter fun v => ¬ gone v.sampleId },
    acc.2 + deleted.length)

/-- The ranges `prune_verified_archives` selects. -/
def prunableRanges (cutoffMs : Nat) (db : StorageDb) : List (Nat × Nat) :=
  ((db.archives.filter fun a => a.verified ∧ a.endMs ≤ cutoffMs).map fun a => (a.startMs, a.endMs))
    |>.insertionSort fun a b => a.1 ≤ b.1

/-- `prune_verified_archives` -/
def pruneVerifiedArchives (cutoffMs : Nat) (db : StorageDb) : StorageDb × Nat :=
  (prunableRanges cutoffMs db).foldl deleteRange (db, 0)

/-! ## maintenance -/

/-- The arguments of `maintain` that decide what it does to the data. -/
structure Retention where
  hotDays : Nat := 7
  warmDays : Nat := 30
  coolDays : Nat := 180
  warmBucketSeconds : Nat := 10
  coolBucketSeconds : Nat := 60
  coldBucketSeconds : Nat := 300
  pruneArchivedRaw : Bool := true
  deriving DecidableEq

/-- `_cutoff_ms` -/
def cutoffMs (now days : Nat) : Nat := now - days * Calendar.dayMs

/-- The counts `maintain` reports. -/
structure MaintenanceDetails where
  dictionaryAdded : Nat
  warmRollups : Nat
  coolRollups : Nat
  coldRollups : Nat
  stateRuns : Nat
  archivedRegisterRows : Nat
  prunedSamples : Nat
  deriving DecidableEq

/-- The rollups and state runs of `maintain`. -/
def buildTiers (config : Retention) (now : Nat) (db : StorageDb) :
    Except StorageError (StorageDb × (Nat × Nat × Nat × Nat)) := do
  let (db, warm) ← buildRollups (cutoffMs now config.hotDays) config.warmBucketSeconds db
  let (db, cool) ← buildRollups (cutoffMs now config.warmDays) config.coolBucketSeconds db
  let (db, cold) ← buildRollups (cutoffMs now config.coolDays) config.coldBucketSeconds db
  let (db, runs) ← buildStateRuns (cutoffMs now config.hotDays) db
  return (db, warm, cool, cold, runs)

/-- `maintain`, up to the housekeeping of the database file. -/
def maintain (env : StorageEnv) (config : Retention) (now : Nat) (db : StorageDb) :
    Except StorageError (StorageDb × MaintenanceDetails) := do
  if ¬ (1 ≤ config.hotDays ∧ config.hotDays ≤ config.warmDays ∧ config.warmDays ≤ config.coolDays)
  then throw .retentionTiers
  -- `initialize` refreshes the dictionary as well
  let (db, added) := refreshRegisterDictionary (refreshRegisterDictionary db).1
  let (db, warm, cool, cold, runs) ← buildTiers config now db
  let cutoff := cutoffMs now config.hotDays
  let (db, archived) ← archiveAllBefore env now cutoff db
  let (db, pruned) := if config.pruneArchivedRaw then pruneVerifiedArchives cutoff db else (db, 0)
  return (db, { dictionaryAdded := added, warmRollups := warm, coolRollups := cool,
                coldRollups := cold, stateRuns := runs, archivedRegisterRows := archived,
                prunedSamples := pruned })

end MorningstarModbus
