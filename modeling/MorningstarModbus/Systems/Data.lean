import Mathlib.Algebra.Order.Ring.Unbundled.Rat
import MorningstarModbus.History.ControllerData
import MorningstarModbus.Lib.Dict
import MorningstarModbus.Systems.Semantics

/-!
# MorningstarModbus.Systems.Data

Systems of controllers (`systems/data.py`): membership, the device ids of a
system, and the bucketed history of a metric.

A method initialises the repository first, which synchronises the registry and
the default system, so each takes and returns the database.  What the catalogue
knows of a profile is a parameter.
-/

namespace MorningstarModbus

open Query

/-! ## tables -/

structure SystemsRow where
  systemUid : String
  name : String
  deriving DecidableEq

structure SystemMember where
  systemUid : String
  controllerUid : String
  deriving DecidableEq

structure SystemDb where
  registry : Db := {}
  systems : List SystemsRow := []
  members : List SystemMember := []
  deriving DecidableEq

/-- The repository's `default_system_uid` and `default_system_name`. -/
structure SystemConfig where
  defaultSystemUid : String := "sys_default"
  defaultSystemName : String := "default"

inductive SystemError where
  | data (error : ControllerDataError)
  | notFound (identifier : String)
  /-- a second system with the default name -/
  | uniqueName
  | value (message : String)
  /-- `int(None)` -/
  | type
  deriving DecidableEq

/-! ## controllers -/

/-- `ControllerInventoryRepository.list_controllers`: identities with their device,
last seen first. -/
def inventoryControllers (env : Env) (now : Nat) (db : Db) : Db × List IdentityRow :=
  let db := initializeInventory env now db
  (db, (db.identities.filter fun ci => db.devices.any fun d => d.id = ci.canonicalDeviceId)
    |>.insertionSort fun a b => b.lastSeen ≤ a.lastSeen)

/-- `_legacy_placeholder_ids` -/
def legacyPlaceholderIds (db : Db) : List String :=
  (db.identities.filter fun ci =>
    let connections := db.connections.filter fun cc => cc.controllerId = ci.controllerId
    ci.identitySource = .endpoint ∧ connections ≠ [] ∧
      ∀ cc ∈ connections, cc.active = false ∧ cc.matchStrategy = .legacy).map
    IdentityRow.controllerId

/-- A listed controller: the columns of its record that are read here. -/
structure ControllerRecord where
  scope : ControllerScope
  profile : String
  deriving DecidableEq

/-- The body of the loop in `list_controllers`. -/
def listController (env : Env) (placeholders : List String)
    (acc : Db × List ControllerRecord) (record : IdentityRow) :
    Except RegistryError (Db × List ControllerRecord) :=
  if record.controllerId ∈ placeholders then .ok acc
  else do
    let (db, scope) ← resolve env record.controllerId acc.1
    match scope with
    | none => return (db, acc.2)
    | some scope => return (db, acc.2 ++ [{ scope, profile := record.profile }])

/-- `ControllerRegistry.list_controllers` -/
def listControllers (env : Env) (now : Nat) (db : Db) :
    Except RegistryError (Db × List ControllerRecord) := do
  let db ← initializeRegistry env now db
  let (db, records) := inventoryControllers env now db
  records.foldlM (listController env (legacyPlaceholderIds db)) (db, [])

namespace SystemDataRepository

/-- A call of the registry. -/
def onRegistry {α : Type} (call : Db → Except ControllerDataError (Db × α)) (db : SystemDb) :
    Except SystemError (SystemDb × α) := do
  let (registry, a) ← (call db.registry).mapError SystemError.data
  return ({ db with registry }, a)

def controllersOf (env : Env) (now : Nat) (db : Db) :
    Except ControllerDataError (Db × List ControllerRecord) :=
  (listControllers env now db).mapError ControllerDataError.registry

/-- `sync_memberships` -/
def syncMemberships (env : Env) (config : SystemConfig) (now : Nat) (db : SystemDb) :
    Except SystemError SystemDb := do
  let (db, controllers) ← onRegistry (controllersOf env now) db
  return { db with
    members := controllers.foldl (fun members controller =>
      let member : SystemMember :=
        { systemUid := config.defaultSystemUid, controllerUid := controller.scope.controllerUid }
      Table.insertOrIgnore (· = member) member members) db.members }

/-- `initialize` -/
def initializeSystems (env : Env) (config : SystemConfig) (now : Nat) (db : SystemDb) :
    Except SystemError SystemDb := do
  let (db, _) ← onRegistry (fun registry => do
    let registry ← (initializeRegistry env now registry).mapError ControllerDataError.registry
    return (registry, ())) db
  let systems := Table.upsert SystemsRow.systemUid (fun old _ => old)
    { systemUid := config.defaultSystemUid, name := config.defaultSystemName } db.systems
  if ¬ Table.Keyed SystemsRow.name systems then throw .uniqueName
  else syncMemberships env config now { db with systems }

/-- `_resolve_uid` -/
def resolveUid (env : Env) (config : SystemConfig) (now : Nat) (identifier : String)
    (db : SystemDb) : Except SystemError (SystemDb × String) := do
  let db ← initializeSystems env config now db
  match db.systems.find? fun s => s.systemUid = identifier ∨ s.name = identifier with
  | none => throw (.notFound identifier)
  | some system => return (db, system.systemUid)

/-- `controllers` -/
def controllers (env : Env) (config : SystemConfig) (now : Nat) (identifier : String)
    (db : SystemDb) : Except SystemError (SystemDb × List ControllerRecord) := do
  let (db, systemUid) ← resolveUid env config now identifier db
  let (db, all) ← onRegistry (controllersOf env now) db
  return (db, all.filter fun controller =>
    { systemUid, controllerUid := controller.scope.controllerUid : SystemMember } ∈ db.members)

/-- What `_scope_map` finds: the system, its controllers, and for each the devices
in its history. -/
structure ScopeMap where
  systemUid : String
  controllers : List ControllerRecord
  scopes : List (String × List String)
  deriving DecidableEq

/-- The loop of `_scope_map`. -/
def controllerScopes (env : Env) (controllers : List ControllerRecord) (registry : Db) :
    Except ControllerDataError (Db × List (String × List String)) :=
  controllers.foldlM (fun acc controller => do
    let uid := controller.scope.controllerUid
    let (registry, scope) ← ControllerDataRepository.scope env uid acc.1
    return (registry, acc.2 ++ [(uid, scope.historyDeviceIds)])) (registry, [])

/-- `_scope_map` -/
def scopeMap (env : Env) (config : SystemConfig) (now : Nat) (identifier : String)
    (db : SystemDb) : Except SystemError (SystemDb × ScopeMap) := do
  let (db, systemUid) ← resolveUid env config now identifier db
  let (db, controllers) ← controllers env config now systemUid db
  let (db, scopes) ← onRegistry (controllerScopes env controllers) db
  return (db, { systemUid, controllers, scopes })

/-- The mapping of `_scope_map`: a device that is in two histories counts for the
later controller. -/
def deviceToController (scopes : List (String × List String)) : Dict String String :=
  scopes.foldl (fun mapping s => s.2.foldl (fun mapping deviceId => mapping.set deviceId s.1) mapping)
    Dict.empty

/-! ## bucketed history -/

/-- `_RESOLUTION_SECONDS` -/
def resolutionSeconds (resolution : String) : Option Int :=
  [("1m", 60), ("5m", 300), ("15m", 900), ("1h", 3600), ("1d", 86400)].lookup resolution

/-- A row of the statement: the mean of one register of one device in a bucket. -/
structure MetricRow where
  bucketEpoch : Option Int
  deviceId : String
  registerName : String
  avgValue : ℚ
  unit : Option String
  deriving DecidableEq

/-- `GROUP BY bucket_epoch, s.device_id, v.register_name` -/
def metricKey (sqlite : Sqlite) (seconds : Int) (c : Cell ℚ) : Option Int × String × String :=
  (bucketEpoch sqlite seconds c.observedAt, c.joined.sample.deviceId, c.registerName)

def metricRows (sqlite : Sqlite) (seconds : Int) (cs : List (Cell ℚ)) : List MetricRow :=
  (Table.groups (metricKey sqlite seconds) cs).map fun g =>
    { bucketEpoch := g.1.1, deviceId := g.1.2.1, registerName := g.1.2.2, avgValue := average g.2,
      unit := (g.2.filterMap fun c => c.joined.value.unit).min? }

/-- `ORDER BY bucket_epoch ASC`, where a null comes first. -/
def MetricRow.bucketKey (r : MetricRow) : WithBot Int := r.bucketEpoch.elim ⊥ WithBot.some

/-- A contribution to a bucket; `observed_at` is the start of the bucket. -/
structure SourceItem where
  controllerUid : String
  sourceDeviceId : String
  observedAt : Int
  registerName : String
  value : ℚ
  unit : Option String
  deriving DecidableEq

/-- Where `buckets` keeps an item: its bucket and its key there. -/
def SourceItem.slot (i : SourceItem) : Int × String × String :=
  (i.observedAt, i.controllerUid, i.registerName)

/-- `row["unit"] or spec.unit` -/
def MetricRow.unitOr (r : MetricRow) (unit : Option String) : Option String :=
  match r.unit with
  | none => unit
  | some u => if u = "" then unit else some u

/-- The loop over the rows; `buckets` is one table of the items and their slots. -/
def foldRow (mapping : Dict String String) (unit : Option String) (buckets : List SourceItem)
    (row : MetricRow) : Except SystemError (List SourceItem) :=
  match mapping row.deviceId with
  | none => .ok buckets
  | some controllerUid =>
      match row.bucketEpoch with
      | none => .error .type
      | some epoch =>
          let item : SourceItem :=
            { controllerUid, sourceDeviceId := row.deviceId, observedAt := epoch,
              registerName := row.registerName, value := row.avgValue, unit := row.unitOr unit }
          .ok (Table.insertOrIgnore (fun i => i.slot = item.slot) item buckets)

/-- The items of a bucket, each controller's by its alias of least index. -/
def chooseAliases (aliases : List String) (items : List SourceItem) : List SourceItem :=
  items.foldl (fun chosen item =>
    Table.upsert SourceItem.controllerUid
      (fun previous new =>
        if aliases.idxOf new.registerName < aliases.idxOf previous.registerName then new
        else previous)
      item chosen) []

/-! ## aggregation -/

/-- `statistics.median` -/
def median (xs : List ℚ) : Option ℚ :=
  let sorted := orderBy id .asc xs
  if xs.length % 2 = 1 then sorted[xs.length / 2]?
  else do return ((← sorted[xs.length / 2 - 1]?) + (← sorted[xs.length / 2]?)) / 2

/-- A median does not depend on the order. -/
theorem median_perm {xs ys : List ℚ} (h : xs.Perm ys) : median xs = median ys := by
  simp only [median, orderBy_id_perm h, h.length_eq]

/-- Where there are values there is a median. -/
theorem exists_median {xs : List ℚ} (hne : xs ≠ []) : ∃ m, median xs = some m := by
  have hpos := List.length_pos_iff.mpr hne
  have hlength := length_orderBy id .asc xs
  have hmiddle : xs.length / 2 < (orderBy id .asc xs).length := by omega
  have hbefore : xs.length / 2 - 1 < (orderBy id .asc xs).length := by omega
  simp only [median, List.getElem?_eq_getElem hmiddle, List.getElem?_eq_getElem hbefore]
  split
  · exact ⟨_, rfl⟩
  · exact ⟨_, rfl⟩

/-- The median lies between any bounds of its sample. -/
theorem median_mem_bounds {xs : List ℚ} {low high m : ℚ} (h : median xs = some m)
    (hlow : ∀ x ∈ xs, low ≤ x) (hhigh : ∀ x ∈ xs, x ≤ high) : low ≤ m ∧ m ≤ high := by
  have hmem : ∀ {i : Nat} {x : ℚ}, (orderBy id .asc xs)[i]? = some x → x ∈ xs := by
    intro i x hx
    exact (mem_orderBy id .asc xs).mp (List.mem_of_getElem? hx)
  simp only [median] at h
  split at h
  · exact ⟨hlow m (hmem h), hhigh m (hmem h)⟩
  · obtain ⟨x, hx, hrest⟩ := Option.bind_eq_some_iff.mp h
    obtain ⟨y, hy, hm⟩ := Option.bind_eq_some_iff.mp hrest
    have hxlow := hlow x (hmem hx)
    have hxhigh := hhigh x (hmem hx)
    have hylow := hlow y (hmem hy)
    have hyhigh := hhigh y (hmem hy)
    rw [← Option.some.inj hm]
    constructor
    · grind
    · grind

def aggregateValue (aggregation : NumericAggregation) (observations : List SourceItem) : Option ℚ :=
  let numeric := observations.map SourceItem.value
  if numeric.isEmpty then none
  else match aggregation with
    | .sum => some numeric.sum
    | .median => median numeric
    | .max => numeric.max?
    | .min => numeric.min?
    | .latest => (observations.maxOn? SourceItem.observedAt).map SourceItem.value

inductive Quality where
  | empty
  | complete
  /-- `partial` -/
  | lacking
  deriving DecidableEq

structure MetricPoint where
  value : Option ℚ
  unit : Option String
  aggregation : NumericAggregation
  quality : Quality
  contributors : Nat
  expectedContributors : Nat
  oldestObservationAgeMs : Option ℚ
  sources : List SourceItem
  bucketStart : Int
  deriving DecidableEq

/-- `_eligible_controller_uids` -/
def eligibleControllerUids (catalog : String → List String) (controllers : List ControllerRecord)
    (spec : SystemMetricSpec) : List String :=
  Table.distinct ((controllers.filter fun controller =>
    (catalog controller.profile).any fun name => name ∈ spec.registers).map
      fun controller => controller.scope.controllerUid)

/-- `_aggregate_observations`, for numbers. -/
def aggregateObservations (now : Nat) (spec : SystemMetricSpec) (aggregation : NumericAggregation)
    (bucketStart : Int) (observations : List SourceItem) (expected : List String) : MetricPoint :=
  let contributors := (Table.distinct (observations.map SourceItem.controllerUid)).length
  { value := aggregateValue aggregation observations
    unit := spec.unit
    aggregation
    quality :=
      if contributors = 0 then .empty
      else if expected.length = 0 ∨ contributors ≥ expected.length then .complete
      else .lacking
    contributors
    expectedContributors := expected.length
    oldestObservationAgeMs :=
      (observations.map fun i => max (0 : ℚ) ((now - i.observedAt * 1000000) / 1000)).max?
    sources := observations
    bucketStart }

/-- The points of the buckets in their order. -/
def bucketPoints (now : Nat) (spec : SystemMetricSpec) (aggregation : NumericAggregation)
    (expected : List String) (buckets : List SourceItem) : List MetricPoint :=
  ((Table.distinct (buckets.map SourceItem.observedAt)).insertionSort (· ≤ ·)).map fun bucket =>
    aggregateObservations now spec aggregation bucket
      (chooseAliases spec.registers (buckets.filter fun i => i.observedAt = bucket)) expected

structure MetricHistory where
  systemUid : String
  metric : SystemMetricSpec
  range : Option TimeRange
  resolution : String
  points : List MetricPoint

/-- The numeric cells the statement reads. -/
def metricCells (spec : SystemMetricSpec) (mapping : Dict String String) (range : TimeRange)
    (db : TelemetryDb) : List (Cell ℚ) :=
  cells RegisterValue.numericValue
    (db.history (fun deviceId => (mapping deviceId).isSome) spec.registers range)

/-- The rows of the statement, folded into points. -/
def metricPoints (sqlite : Sqlite) (plan : Plan MetricRow) (now : Nat) (spec : SystemMetricSpec)
    (aggregation : NumericAggregation) (seconds : Int) (mapping : Dict String String)
    (expected : List String) (range : TimeRange) (maxBuckets : Int) (db : TelemetryDb) :
    Except SystemError (List MetricPoint) :=
  let rows := limitRows (some (maxBuckets + 1)) (orderBy MetricRow.bucketKey .asc
    (plan.rows (metricRows sqlite seconds (metricCells spec mapping range db))))
  if rows.length > maxBuckets then
    .error (.value ("query exceeds " ++ toString maxBuckets ++ " aggregated buckets; " ++
      "narrow the range or use a coarser resolution"))
  else do
    let buckets ← rows.foldlM (foldRow mapping spec.unit) []
    return bucketPoints now spec aggregation expected buckets

/-- `bucketed_metric_history` -/
def bucketedMetricHistory (env : Env) (catalog : String → List String) (sqlite : Sqlite)
    (plan : Plan MetricRow) (config : SystemConfig) (now : Nat)
    (identifier metricName : String) (range : TimeRange) (resolution : String) (maxBuckets : Int)
    (telemetry : TelemetryDb) (db : SystemDb) : Except SystemError (SystemDb × MetricHistory) :=
  match metricSpec metricName with
  | none => .error (.value ("unknown system metric: " ++ metricName))
  | some spec =>
      match spec.aggregation with
      | .stateSet => .error (.value "state-set metrics require per-observation history")
      | .numeric aggregation =>
          match resolutionSeconds (env.lower (Text.strip resolution)) with
          | none => .error (.value "resolution must be 1m, 5m, 15m, 1h, or 1d")
          | some seconds => do
              let (db, found) ← scopeMap env config now identifier db
              if (found.scopes.flatMap Prod.snd).isEmpty then
                return (db, { systemUid := found.systemUid, metric := spec, range := none,
                              resolution := env.lower (Text.strip resolution), points := [] })
              else
                let points ← metricPoints sqlite plan now spec aggregation seconds
                  (deviceToController found.scopes)
                  (eligibleControllerUids catalog found.controllers spec) range maxBuckets
                  telemetry
                return (db, { systemUid := found.systemUid, metric := spec, range := some range,
                              resolution := env.lower (Text.strip resolution), points })

end SystemDataRepository

end MorningstarModbus
