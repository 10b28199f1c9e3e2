import Mathlib.Data.Prod.Lex
import Mathlib.Data.String.Basic
import Mathlib.Order.WithBot
import MorningstarModbus.Domain.Models
import MorningstarModbus.Lib.Query
import MorningstarModbus.Persistence.StorageV2

/-!
# MorningstarModbus.Persistence.Store

The time-series queries of the telemetry store (`persistence/store.py`), over
the text timestamps of `poll_samples`.  SQLite's `REAL` values are rationals, and
`SUM` and `AVG` are exact where SQLite rounds doubles.

The controller repository sends the same statements with another `WHERE`, so
each statement takes the predicate that its device column has to meet.
-/

namespace MorningstarModbus

open Query

/-! ## tables -/

structure SampleRow where
  id : Nat
  deviceId : String
  observedAt : String
  latencyMs : ℚ
  profile : String
  deriving DecidableEq

/-- `poll_samples` and `register_values`, with their primary keys. -/
structure TelemetryDb where
  samples : List SampleRow
  values : List RegisterValue
  samples_keyed : Table.Keyed SampleRow.id samples := by decide
  values_keyed : Table.Keyed RegisterValue.key values := by decide

theorem keyed_noSamples : Table.Keyed SampleRow.id [] := Table.keyed_nil _

theorem keyed_noValues : Table.Keyed RegisterValue.key [] := Table.keyed_nil _

/-- A store without polls. -/
def noSamples : TelemetryDb where
  samples := []
  values := []
  samples_keyed := keyed_noSamples
  values_keyed := keyed_noValues

/-- What the queries take from SQLite's date functions. -/
structure Sqlite where
  /-- `CAST(strftime('%s', text) AS INTEGER)` -/
  epoch : String → Option Int
  /-- `strftime('%Y-%m-%dT%H:%M:%SZ', epoch, 'unixepoch')` -/
  isoTime : Int → Option String

/-- `_order_sql` -/
def orderSql (env : Env) (order : String) : Direction :=
  if env.lower order = "asc" then .asc else .desc

/-- `max(1, min(limit, most))` -/
def clampLimit (most limit : Int) : Nat := (max 1 (min limit most)).toNat

/-! ## filters -/

/-- `observed_at>=start AND observed_at<end`, where given. -/
structure TimeRange where
  start : Option String := none
  stop : Option String := none

def TimeRange.contains (range : TimeRange) (observedAt : String) : Bool :=
  range.start.all (fun start => start ≤ observedAt) && range.stop.all fun stop => observedAt < stop

/-- `_sample_filter` -/
def sampleFilter (inScope : String → Bool) (range : TimeRange) (s : SampleRow) : Bool :=
  inScope s.deviceId && range.contains s.observedAt

/-- A row of `register_values v JOIN poll_samples s ON s.id=v.sample_id`. -/
structure Joined where
  sample : SampleRow
  value : RegisterValue
  deriving DecidableEq

def TelemetryDb.joined (db : TelemetryDb) : List Joined :=
  db.values.filterMap fun value =>
    (Table.lookup SampleRow.id value.sampleId db.samples).map fun sample => { sample, value }

/-- `_history_filter`; no names are all names. -/
def historyFilter (inScope : String → Bool) (names : List String) (range : TimeRange) (j : Joined) :
    Bool :=
  sampleFilter inScope range j.sample && (names.isEmpty || j.value.registerName ∈ names)

/-- The joined rows a history query reads. -/
def TelemetryDb.history (db : TelemetryDb) (inScope : String → Bool) (names : List String)
    (range : TimeRange) : List Joined :=
  db.joined.filter (historyFilter inScope names range)

/-! ## samples -/

/-- `ORDER BY observed_at, id` -/
def SampleRow.key (s : SampleRow) : String ×ₗ Nat := toLex (s.observedAt, s.id)

def selectSamples (inScope : String → Bool) (limit : Int) (range : TimeRange) (order : Direction)
    (db : TelemetryDb) : List SampleRow :=
  (orderBy SampleRow.key order (db.samples.filter (sampleFilter inScope range))).take
    (clampLimit 5000 limit)

/-- `TelemetryStore.samples` -/
def TelemetryStore.samples (env : Env) (deviceId : String) (limit : Int) (range : TimeRange)
    (order : String) (db : TelemetryDb) : List SampleRow :=
  selectSamples (· == deviceId) limit range (orderSql env order) db

/-! ## raw history -/

inductive ValueKind where
  | numeric
  | text
  | null
  deriving DecidableEq

/-- A raw history row; `raw` is the JSON text before it is parsed. -/
structure HistoryRow where
  observedAt : String
  sampleId : Nat
  registerName : String
  address : Nat
  function : String
  unit : Option String
  raw : String
  value : CellValue
  kind : ValueKind
  deriving DecidableEq

/-- The `value` and the `kind` of `_normalize_raw_value`. -/
def normalizedValue (v : RegisterValue) : CellValue × ValueKind :=
  match v.numericValue, v.textValue with
  | some x, _ => (.number x, .numeric)
  | none, some s => (.text s, .text)
  | none, none => (.missing, .null)

def Joined.row (j : Joined) : HistoryRow where
  observedAt := j.sample.observedAt
  sampleId := j.sample.id
  registerName := j.value.registerName
  address := j.value.address
  function := j.value.function
  unit := j.value.unit
  raw := j.value.rawJson
  value := (normalizedValue j.value).1
  kind := (normalizedValue j.value).2

/-- `ORDER BY observed_at, id, register_name` -/
def Joined.key (j : Joined) : String ×ₗ Nat ×ₗ String :=
  toLex (j.sample.observedAt, toLex (j.sample.id, j.value.registerName))

def HistoryRow.key (r : HistoryRow) : String ×ₗ Nat ×ₗ String :=
  toLex (r.observedAt, toLex (r.sampleId, r.registerName))

/-- The raw statement, with its `LIMIT` if it has one. -/
def selectHistory (inScope : String → Bool) (names : List String) (range : TimeRange)
    (order : Direction) (limit : Option Int) (db : TelemetryDb) : List Joined :=
  limitRows limit (orderBy Joined.key order (db.history inScope names range))

/-- `TelemetryStore._raw_history_rows` -/
def TelemetryStore.rawHistoryRows (env : Env) (deviceId : String) (names : List String)
    (range : TimeRange) (order : String) (limit : Int) (db : TelemetryDb) : List HistoryRow :=
  (selectHistory (· == deviceId) names range (orderSql env order) (some limit) db).map Joined.row

/-- A row of `register_history`: without register name, sample id and kind. -/
structure RegisterPoint where
  observedAt : String
  address : Nat
  function : String
  unit : Option String
  raw : String
  value : CellValue
  deriving DecidableEq

def HistoryRow.point (r : HistoryRow) : RegisterPoint where
  observedAt := r.observedAt
  address := r.address
  function := r.function
  unit := r.unit
  raw := r.raw
  value := r.value

/-- `TelemetryStore.register_history` -/
def TelemetryStore.registerHistory (env : Env) (deviceId name : String) (limit : Int)
    (range : TimeRange) (order : String) (db : TelemetryDb) : List RegisterPoint :=
  (rawHistoryRows env deviceId [name] range order (clampLimit 10000 limit) db).map HistoryRow.point

/-! ## buckets -/

/-- A joined row with the value a statement reads of it. -/
structure Cell (V : Type) where
  joined : Joined
  value : V

namespace Cell

variable {V : Type}

def registerName (c : Cell V) : String := c.joined.value.registerName

def observedAt (c : Cell V) : String := c.joined.sample.observedAt

/-- `ORDER BY observed_at, sample_id` -/
def time (c : Cell V) : String ×ₗ Nat := toLex (c.joined.sample.observedAt, c.joined.sample.id)

end Cell

/-- The rows where the column is not null. -/
def cells {V : Type} (column : RegisterValue → Option V) (rows : List Joined) : List (Cell V) :=
  rows.filterMap fun j => (column j.value).map fun value => { joined := j, value }

def chronological {V : Type} (cs : List (Cell V)) : List (Cell V) := orderBy Cell.time .asc cs

/-- `(epoch / bucket_seconds) * bucket_seconds`, which is null where the division is
by zero. -/
def bucketEpoch (sqlite : Sqlite) (bucketSeconds : Int) (observedAt : String) : Option Int :=
  if bucketSeconds = 0 then none
  else (sqlite.epoch observedAt).map fun epoch => epoch.tdiv bucketSeconds * bucketSeconds

structure AggregateRow where
  registerName : String
  address : Option Nat
  function : Option String
  unit : Option String
  kind : ValueKind
  bucketStart : Option String
  count : Nat
  minValue : Option ℚ
  maxValue : Option ℚ
  avgValue : Option ℚ
  firstValue : CellValue
  lastValue : CellValue
  transitions : Option Nat
  deriving DecidableEq

/-- `AVG` -/
def average (cs : List (Cell ℚ)) : ℚ := (cs.map Cell.value).sum / cs.length

/-- The first cell's value, or null. -/
def CellValue.ofOption {V : Type} (inject : V → CellValue) : Option (Cell V) → CellValue
  | some c => inject c.value
  | none => .missing

/-- One bucket of a register's numbers, in chronological order.  `avg` is the
average of its rows. -/
def numericAggregate (sqlite : Sqlite) (avg : List (Cell ℚ) → ℚ)
    (g : (String × Option Int) × List (Cell ℚ)) : AggregateRow where
  registerName := g.1.1
  address := (g.2.map fun c => c.joined.value.address).min?
  function := (g.2.map fun c => c.joined.value.function).min?
  unit := (g.2.filterMap fun c => c.joined.value.unit).max?
  kind := .numeric
  bucketStart := g.1.2.bind sqlite.isoTime
  count := g.2.length
  minValue := (g.2.map Cell.value).min?
  maxValue := (g.2.map Cell.value).max?
  avgValue := some (avg g.2)
  firstValue := .ofOption .number g.2.head?
  lastValue := .ofOption .number g.2.getLast?
  transitions := none

/-- `LAG(text_value) OVER (… ORDER BY observed_at, sample_id)` -/
def lag (cs : List (Cell String)) : List (Cell String × Option String) :=
  cs.zip (none :: cs.map fun c => some c.value)

/-- `previous_text IS NOT NULL AND previous_text != text_value` -/
def changed (c : Cell String × Option String) : Bool :=
  c.2.isSome && c.2 != some c.1.value

/-- One bucket of a register's texts, in chronological order. -/
def textAggregate (sqlite : Sqlite)
    (g : (String × Option Int) × List (Cell String × Option String)) : AggregateRow where
  registerName := g.1.1
  address := (g.2.map fun c => c.1.joined.value.address).min?
  function := (g.2.map fun c => c.1.joined.value.function).min?
  unit := (g.2.filterMap fun c => c.1.joined.value.unit).max?
  kind := .text
  bucketStart := g.1.2.bind sqlite.isoTime
  count := g.2.length
  minValue := none
  maxValue := none
  avgValue := none
  firstValue := .ofOption .text (g.2.head?.map Prod.fst)
  lastValue := .ofOption .text (g.2.getLast?.map Prod.fst)
  transitions := some (g.2.countP changed)

section Buckets

variable (sqlite : Sqlite) (bucketSeconds : Int)

/-- `GROUP BY register_name, bucket_epoch` -/
def bucketOf {V : Type} (c : Cell V) : String × Option Int :=
  (c.registerName, bucketEpoch sqlite bucketSeconds c.observedAt)

/-- The buckets of the numbers: `rn_first` and `rn_last` are the ends of a bucket in
chronological order. -/
def numericBuckets (rows : List Joined) : List AggregateRow :=
  (Table.groups (bucketOf sqlite bucketSeconds) (cells RegisterValue.numericValue rows)).map fun g =>
    numericAggregate sqlite average (g.1, chronological g.2)

/-- The buckets of one register's texts in chronological order. -/
def textBucketsOf (cs : List (Cell String)) : List AggregateRow :=
  (Table.groups (fun c => bucketOf sqlite bucketSeconds c.1) (lag cs)).map (textAggregate sqlite)

/-- The buckets of the texts; `LAG` runs over a whole register. -/
def textBuckets (rows : List Joined) : List AggregateRow :=
  (Table.groups Cell.registerName (cells RegisterValue.textValue rows)).flatMap fun g =>
    textBucketsOf sqlite bucketSeconds (chronological g.2)

/-- The rows of `_aggregated_history_sql` before they are ordered. -/
def aggregatedRows (rows : List Joined) : List AggregateRow :=
  numericBuckets sqlite bucketSeconds rows ++ textBuckets sqlite bucketSeconds rows

end Buckets

/-! ## history and export -/

/-- `bucket_start, register_name`, where a null comes first. -/
def AggregateRow.key (r : AggregateRow) : WithBot String ×ₗ String :=
  toLex (r.bucketStart.elim ⊥ WithBot.some, r.registerName)

/-- The statement of `_aggregated_history_sql`. -/
def selectAggregated (sqlite : Sqlite) (plan : Plan AggregateRow) (inScope : String → Bool)
    (names : List String) (range : TimeRange) (order : Direction) (bucketSeconds : Int)
    (limit : Option Int) (db : TelemetryDb) : List AggregateRow :=
  limitRows limit (orderBy AggregateRow.key order
    (plan.rows (aggregatedRows sqlite bucketSeconds (db.history inScope names range))))

/-- A row of a history, raw or bucketed. -/
inductive HistoryItem (R : Type) where
  | raw (row : R)
  | bucket (row : AggregateRow)
  deriving DecidableEq

def HistoryItem.map {R S : Type} (f : R → S) : HistoryItem R → HistoryItem S
  | raw row => raw (f row)
  | bucket row => bucket row

/-- The raw or the bucketed statement, read through a view of the raw rows. -/
def historyItems {R : Type} (view : Joined → R) (sqlite : Sqlite) (plan : Plan AggregateRow)
    (inScope : String → Bool) (names : List String) (range : TimeRange) (order : Direction)
    (bucketSeconds limit : Option Int) (db : TelemetryDb) : List (HistoryItem R) :=
  match bucketSeconds with
  | none => (selectHistory inScope names range order limit db).map fun j => .raw (view j)
  | some seconds =>
      (selectAggregated sqlite plan inScope names range order seconds limit db).map .bucket

structure HistoryQueryTooLarge where
  message : String
  deriving DecidableEq

def HistoryQueryTooLarge.exceeds (maxPoints : Int) : HistoryQueryTooLarge where
  message :=
    "query exceeds " ++ toString maxPoints ++ " response points; narrow the time range, " ++
      "request fewer registers, or use a coarser resolution/export"

/-- The check at the end of `multi_register_history`. -/
def checkPoints {α : Type} (maxPoints : Int) (rows : List α) :
    Except HistoryQueryTooLarge (List α) :=
  if rows.length > maxPoints then .error (.exceeds maxPoints) else .ok rows

/-- A limit only cuts the rows. -/
theorem historyItems_limit {R : Type} (view : Joined → R) (sqlite : Sqlite)
    (plan : Plan AggregateRow) (inScope : String → Bool) (names : List String) (range : TimeRange)
    (order : Direction) (bucketSeconds limit : Option Int) (db : TelemetryDb) :
    historyItems view sqlite plan inScope names range order bucketSeconds limit db =
      limitRows limit
        (historyItems view sqlite plan inScope names range order bucketSeconds none db) := by
  cases bucketSeconds with
  | none => simp only [historyItems, selectHistory, limitRows_map, limitRows_none]
  | some seconds => simp only [historyItems, selectAggregated, limitRows_map, limitRows_none]

/-- One row past the limit is enough to tell that there are too many. -/
theorem checkPoints_limit {α : Type} (maxPoints : Int) (rows : List α) :
    checkPoints maxPoints (limitRows (some (maxPoints + 1)) rows) = checkPoints maxPoints rows := by
  have hle := length_limitRows_le maxPoints rows
  by_cases h : (rows.length : Int) ≤ maxPoints
  · rw [limitRows_of_le h]
  · have hlarge : ((limitRows (some (maxPoints + 1)) rows).length : Int) > maxPoints := by
      rw [gt_iff_lt, ← not_le, hle]
      exact h
    rw [checkPoints, checkPoints, if_pos hlarge, if_pos (not_le.mp h)]

/-- `TelemetryStore.multi_register_history` -/
def TelemetryStore.multiRegisterHistory (env : Env) (sqlite : Sqlite) (plan : Plan AggregateRow)
    (deviceId : String) (names : List String) (range : TimeRange) (order : String)
    (bucketSeconds : Option Int) (maxPoints : Int) (db : TelemetryDb) :
    Except HistoryQueryTooLarge (List (HistoryItem HistoryRow)) :=
  checkPoints maxPoints (historyItems Joined.row sqlite plan (· == deviceId) names range
    (orderSql env order) bucketSeconds (some (maxPoints + 1)) db)

/-- A raw row of an export: a history row without its sample id. -/
structure ExportRow where
  observedAt : String
  registerName : String
  address : Nat
  function : String
  unit : Option String
  raw : String
  value : CellValue
  kind : ValueKind
  deriving DecidableEq

def HistoryRow.exported (r : HistoryRow) : ExportRow where
  observedAt := r.observedAt
  registerName := r.registerName
  address := r.address
  function := r.function
  unit := r.unit
  raw := r.raw
  value := r.value
  kind := r.kind

/-- A streamed row with the `device_id` or `controller_uid` it is labelled with. -/
structure Labelled (R : Type) where
  label : String
  item : HistoryItem R
  deriving DecidableEq

/-- The loop of `iter_history_export`. -/
def stream {R : Type} (label : String) (batchSize : Int) (rows : List (HistoryItem R)) :
    List (Labelled R) :=
  (batches batchSize rows).flatMap fun batch => batch.map fun item => { label, item }

/-- `TelemetryStore.iter_history_export` -/
def TelemetryStore.iterHistoryExport (env : Env) (sqlite : Sqlite) (plan : Plan AggregateRow)
    (deviceId : String) (names : List String) (range : TimeRange) (order : String)
    (bucketSeconds : Option Int) (batchSize : Int) (db : TelemetryDb) :
    List (Labelled ExportRow) :=
  stream deviceId batchSize (historyItems (fun j => j.row.exported) sqlite plan (· == deviceId)
    names range (orderSql env order) bucketSeconds none db)

/-! ## statistics -/

/-- A row of `register_stats`. -/
structure StatsRow where
  registerName : String
  kind : ValueKind
  unit : Option String
  count : Nat
  min : Option ℚ := none
  max : Option ℚ := none
  avg : Option ℚ := none
  first : CellValue
  last : CellValue
  firstAt : Option String
  lastAt : Option String
  minAt : Option String := none
  maxAt : Option String := none
  delta : Option ℚ := none
  transitions : Option Nat := none
  stateCounts : List (String × Nat) := []
  durationSeconds : Option Int
  deriving DecidableEq

/-- `MAX(epoch) - MIN(epoch)` -/
def duration {V : Type} (sqlite : Sqlite) (cs : List (Cell V)) : Option Int := do
  let epochs := cs.filterMap fun c => sqlite.epoch c.observedAt
  return (← epochs.max?) - (← epochs.min?)

/-- One register's numbers, in chronological order. -/
def numericStats (sqlite : Sqlite) (avg : List (Cell ℚ) → ℚ) (g : String × List (Cell ℚ)) :
    StatsRow where
  registerName := g.1
  kind := .numeric
  unit := (g.2.filterMap fun c => c.joined.value.unit).max?
  count := g.2.length
  min := (g.2.map Cell.value).min?
  max := (g.2.map Cell.value).max?
  avg := some (avg g.2)
  first := .ofOption .number g.2.head?
  last := .ofOption .number g.2.getLast?
  firstAt := g.2.head?.map Cell.observedAt
  lastAt := g.2.getLast?.map Cell.observedAt
  minAt := (orderBy (fun c => toLex (c.value, c.time)) .asc g.2).head?.map Cell.observedAt
  maxAt := (orderBy (fun c => toLex (-c.value, c.time)) .asc g.2).head?.map Cell.observedAt
  delta := do return (← g.2.getLast?).value - (← g.2.head?).value
  durationSeconds := duration sqlite g.2

/-- The texts of a register with their counts, the most frequent first. -/
def stateCounts (cs : List (Cell String)) : List (String × Nat) :=
  orderBy (fun s => toLex (OrderDual.toDual s.2, s.1)) .asc
    ((Table.groups Cell.value cs).map fun g => (g.1, g.2.length))

/-- One register's texts, in chronological order. -/
def textStats (sqlite : Sqlite) (g : String × List (Cell String)) : StatsRow where
  registerName := g.1
  kind := .text
  unit := (g.2.filterMap fun c => c.joined.value.unit).max?
  count := g.2.length
  first := .ofOption .text g.2.head?
  last := .ofOption .text g.2.getLast?
  firstAt := g.2.head?.map Cell.observedAt
  lastAt := g.2.getLast?.map Cell.observedAt
  transitions := some ((lag g.2).countP changed)
  stateCounts := stateCounts g.2
  durationSeconds := duration sqlite g.2

def ValueKind.name : ValueKind → String
  | numeric => "numeric"
  | text => "text"
  | null => "null"

/-- `(register_name, kind)` -/
def StatsRow.key (r : StatsRow) : String ×ₗ String := toLex (r.registerName, r.kind.name)

/-- The rows of `register_stats` before they are sorted. -/
def statsRows (sqlite : Sqlite) (rows : List Joined) : List StatsRow :=
  (Table.groups Cell.registerName (cells RegisterValue.numericValue rows)).map (fun g =>
    numericStats sqlite average (g.1, chronological g.2)) ++
  (Table.groups Cell.registerName (cells RegisterValue.textValue rows)).map fun g =>
    textStats sqlite (g.1, chronological g.2)

/-- `TelemetryStore.register_stats` -/
def TelemetryStore.registerStats (sqlite : Sqlite) (deviceId : String) (names : List String)
    (range : TimeRange) (db : TelemetryDb) : List StatsRow :=
  orderBy StatsRow.key .asc (statsRows sqlite (db.history (· == deviceId) names range))

end MorningstarModbus
