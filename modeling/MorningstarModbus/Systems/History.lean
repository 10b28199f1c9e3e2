import MorningstarModbus.Controllers.Permanence
import MorningstarModbus.History.TimeRange
import MorningstarModbus.Systems.Contributions
import MorningstarModbus.Systems.Observations

/-!
# MorningstarModbus.Systems.History

The history of a system metric (`SystemDataRepository.history`): from single
observations for raw resolution and for states, else in buckets.  The route
`GET /v1/systems/{system_uid}/history` (`api/routers/systems.py`) checks its
arguments, then chooses between the two by itself.

* `history_error_iff` — when the repository raises;
* `route_faithful_iff` — when the route answers as the repository does.
-/

namespace MorningstarModbus

open Query Table

/-! ## single observations -/

/-- What the queries of a system take from outside the repository. -/
structure SystemEnv where
  env : Env
  catalog : String → List String
  sqlite : Sqlite
  texts : PyTexts
  config : SystemConfig := {}
  /-- how the bucketed statement breaks ties -/
  metricPlan : Plan SystemDataRepository.MetricRow
  /-- how the statement of single observations breaks ties -/
  rowPlan : Plan Joined

/-- `ORDER BY s.observed_at, s.id` -/
def Joined.sampleTime (j : Joined) : String ×ₗ Nat := j.sample.key

/-- `row["numeric_value"]`, else `row["text_value"]` -/
def Joined.cell (j : Joined) : CellValue := (normalizedValue j.value).1

/-- What `history` shows of a row. -/
def Joined.observation (controllerUid : String) (unit : Option String) (j : Joined) :
    MetricObservation where
  controllerUid
  sourceDeviceId := some j.sample.deviceId
  observedAt := j.sample.observedAt
  registerName := j.value.registerName
  value := j.cell
  unit := unitOr j.value.unit unit

inductive HistoryPoints where
  | bucketed (points : List SystemDataRepository.MetricPoint)
  | raw (observations : List MetricObservation)
  /-- aggregates with their `bucket_start` -/
  | states (points : List (String × MetricAggregate))

structure SystemHistory where
  systemUid : String
  metric : SystemMetricSpec
  range : Option TimeRange
  resolution : String
  points : HistoryPoints

def SystemDataRepository.MetricHistory.system (h : SystemDataRepository.MetricHistory) :
    SystemHistory where
  systemUid := h.systemUid
  metric := h.metric
  range := h.range
  resolution := h.resolution
  points := .bucketed h.points

namespace SystemDataRepository

/-- The rows the statement of single observations reads. -/
def sourceRows (spec : SystemMetricSpec) (mapping : Dict String String) (range : TimeRange)
    (db : TelemetryDb) : List Joined :=
  db.history (fun deviceId => (mapping deviceId).isSome) spec.registers range

/-- One observation of a controller and a time, by the alias of least index. -/
def chooseObservations (aliases : List String) (observations : List MetricObservation) :
    List MetricObservation :=
  observations.foldl (fun chosen item =>
    upsert (fun o => (o.controllerUid, o.observedAt))
      (fun previous new =>
        if aliases.idxOf new.registerName < aliases.idxOf previous.registerName then new
        else previous)
      item chosen) []

/-- The last observation of each controller in each bucket. -/
def bucketObservations (texts : PyTexts) (seconds : Nat) (observations : List MetricObservation) :
    List (String × MetricObservation) :=
  observations.foldl (fun buckets item =>
    upsert (fun b => (b.1, b.2.controllerUid)) (fun _ new => new)
      (texts.bucketStart item.observedAt seconds, item) buckets) []

/-- The aggregates of the buckets in their order. -/
def observationBuckets (texts : PyTexts) (now : Nat) (spec : SystemMetricSpec)
    (expected : List String) (seconds : Nat) (observations : List MetricObservation) :
    List (String × MetricAggregate) :=
  let buckets := bucketObservations texts seconds observations
  ((distinct (buckets.map Prod.fst)).insertionSort (· ≤ ·)).map fun bucket =>
    (bucket, MetricObservation.aggregateObservations texts now spec
      ((buckets.filter fun b => b.1 = bucket).map Prod.snd) expected)

/-- The observations of the statement's rows. -/
def observationsOf (spec : SystemMetricSpec) (mapping : Dict String String) (rows : List Joined) :
    List MetricObservation :=
  orderBy MetricObservation.observedAt .asc (chooseObservations spec.registers
    (rows.filterMap fun row =>
      (mapping row.sample.deviceId).map fun uid => row.observation uid spec.unit))

/-- The error of a query over too many observations. -/
def exceedsObservations (maxPoints : Int) : SystemError :=
  .value ("query exceeds " ++ toString maxPoints ++ " source observations; " ++
    "narrow the range or use a coarser window")

/-- The rows of the statement, as points. -/
def observationPoints (q : SystemEnv) (now : Nat) (spec : SystemMetricSpec)
    (seconds : Option Nat) (mapping : Dict String String) (expected : List String)
    (range : TimeRange) (maxPoints : Int) (db : TelemetryDb) : Except SystemError HistoryPoints :=
  let rows := limitRows (some (maxPoints + 1)) (orderBy Joined.sampleTime .asc
    (q.rowPlan.rows (sourceRows spec mapping range db)))
  if rows.length > maxPoints then .error (exceedsObservations maxPoints)
  else
    let observations := observationsOf spec mapping rows
    match seconds with
    | none => .ok (.raw observations)
    | some seconds => .ok (.states (observationBuckets q.texts now spec expected seconds
        observations))

/-- The part of `history` over single observations. -/
def observationHistory (q : SystemEnv) (now : Nat) (identifier : String) (spec : SystemMetricSpec)
    (range : TimeRange) (resolution : String) (maxPoints : Int) (telemetry : TelemetryDb)
    (db : SystemDb) : Except SystemError (SystemDb × SystemHistory) := do
  let (db, found) ← scopeMap q.env q.config now identifier db
  if (found.scopes.flatMap Prod.snd).isEmpty then
    return (db, { systemUid := found.systemUid, metric := spec, range := none, resolution,
                  points := .raw [] })
  else
    let points ← observationPoints q now spec ((resolutionSeconds resolution).map Int.toNat)
      (deviceToController found.scopes) (eligibleControllerUids q.catalog found.controllers spec)
      range maxPoints telemetry
    return (db, { systemUid := found.systemUid, metric := spec, range := some range, resolution,
                  points })

/-- `bucketed_metric_history` -/
def bucketedHistory (q : SystemEnv) (now : Nat) (identifier metricName : String)
    (range : TimeRange) (resolution : String) (maxBuckets : Int) (telemetry : TelemetryDb)
    (db : SystemDb) : Except SystemError (SystemDb × SystemHistory) :=
  (bucketedMetricHistory q.env q.catalog q.sqlite q.metricPlan q.config now identifier metricName
    range resolution maxBuckets telemetry db).map fun h => (h.1, h.2.system)

/-- `history` -/
def history (q : SystemEnv) (now : Nat) (identifier metricName : String) (range : TimeRange)
    (resolution : String) (maxPoints : Int) (telemetry : TelemetryDb) (db : SystemDb) :
    Except SystemError (SystemDb × SystemHistory) :=
  match metricSpec metricName with
  | none => .error (.value ("unknown system metric: " ++ metricName))
  | some spec =>
      let normalized := q.env.lower (Text.strip resolution)
      if normalized ≠ "raw" ∧ resolutionSeconds normalized = none then
        .error (.value "resolution must be raw, 1m, 5m, 15m, 1h, or 1d")
      else if normalized ≠ "raw" ∧ spec.aggregation ≠ .stateSet then
        bucketedHistory q now identifier metricName range normalized maxPoints telemetry db
      else observationHistory q now identifier spec range normalized maxPoints telemetry db

end SystemDataRepository

/-! ## the route -/

structure HttpError where
  status : Nat
  detail : String
  deriving DecidableEq

/-- `"exceeds" in str(exc)` -/
def exceeds (message : String) : Bool :=
  message.toList.tails.any fun rest => "exceeds".toList.isPrefixOf rest

/-- What the route answers where the repository raises. -/
def SystemError.http : SystemError → HttpError
  | .notFound identifier => ⟨404, "system not found: " ++ identifier⟩
  | .value message => ⟨if exceeds message then 413 else 400, message⟩
  | _ => ⟨500, "Internal Server Error"⟩

/-- What the route is asked. -/
structure HistoryRequest where
  systemUid : String
  metric : String
  /-- `from` -/
  start : Option String := none
  /-- `to` -/
  stop : Option String := none
  resolution : String := "5m"
  maxPoints : Int := 20000

/-- `normalize_time_range` -/
def SystemEnv.normalizeTimeRange (q : SystemEnv) (start stop : Option String) :
    Except HistoryQueryError TimeRange :=
  MorningstarModbus.normalizeTimeRange
    (fun text => (q.texts.fromisoformat text).map fun t => if t.aware then some t.time else none)
    start stop

/-- `_range` -/
def SystemEnv.range (q : SystemEnv) (start stop : Option String) : Except HttpError TimeRange :=
  (q.normalizeTimeRange start stop).mapError fun e => ⟨400, e.message⟩

/-- The calls of the route. -/
def routedHistory (q : SystemEnv) (now : Nat) (systemUid metric : String) (range : TimeRange)
    (resolution : String) (maxPoints : Int) (telemetry : TelemetryDb) (db : SystemDb) :
    Except SystemError (SystemDb × SystemHistory) :=
  if resolution ≠ "raw" then
    SystemDataRepository.bucketedHistory q now systemUid metric range resolution maxPoints
      telemetry db
  else
    SystemDataRepository.history q now systemUid metric range resolution maxPoints telemetry db

/-- `system_history`; the answer to an argument out of its bounds is the framework's, of which
the field is kept. -/
def systemHistory (q : SystemEnv) (now : Nat) (r : HistoryRequest) (telemetry : TelemetryDb)
    (db : SystemDb) : Except HttpError (SystemDb × SystemHistory) :=
  if r.maxPoints < 1 ∨ 20000 < r.maxPoints then .error ⟨422, "max_points"⟩
  else do
    let range ← q.range r.start r.stop
    (routedHistory q now r.systemUid r.metric range r.resolution r.maxPoints telemetry
      db).mapError SystemError.http

/-- The range of a request as the repository is asked for it: normalized, where it can be. -/
def HistoryRequest.range (q : SystemEnv) (r : HistoryRequest) : TimeRange :=
  match q.normalizeTimeRange r.start r.stop with
  | .ok range => range
  | .error _ => { start := r.start, stop := r.stop }

/-- `history` for the arguments of a request. -/
def HistoryRequest.history (q : SystemEnv) (now : Nat) (r : HistoryRequest)
    (telemetry : TelemetryDb) (db : SystemDb) : Except SystemError (SystemDb × SystemHistory) :=
  SystemDataRepository.history q now r.systemUid r.metric (r.range q) r.resolution r.maxPoints
    telemetry db

/-- The route returns what the repository returns, and an error where it raises. -/
def RouteFaithful (q : SystemEnv) (now : Nat) (r : HistoryRequest) (telemetry : TelemetryDb)
    (db : SystemDb) : Prop :=
  (∀ h, r.history q now telemetry db = .ok h → systemHistory q now r telemetry db = .ok h) ∧
    ((∃ e, systemHistory q now r telemetry db = .error e) ↔
      ∃ e, r.history q now telemetry db = .error e)

/-- The route takes the arguments of a request. -/
def HistoryRequest.Accepted (q : SystemEnv) (r : HistoryRequest) : Prop :=
  (1 ≤ r.maxPoints ∧ r.maxPoints ≤ 20000) ∧
    ∃ range, q.normalizeTimeRange r.start r.stop = .ok range

namespace SystemDataRepository

/-- The requests that `history` answers from single observations. -/
def perObservation (q : SystemEnv) (resolution : String) (spec : SystemMetricSpec) : Prop :=
  let normalized := q.env.lower (Text.strip resolution)
  normalized = "raw" ∨ ((resolutionSeconds normalized).isSome = true ∧ spec.aggregation = .stateSet)

/-- The statement of a request reads more rows than it may, or in buckets a time that SQLite
cannot read. -/
def Unreadable (q : SystemEnv) (spec : SystemMetricSpec) (range : TimeRange) (resolution : String)
    (maxPoints : Int) (telemetry : TelemetryDb) (scopes : List (String × List String)) : Prop :=
  (perObservation q resolution spec ∧
      maxPoints < (sourceRows spec (deviceToController scopes) range telemetry).length) ∨
    (¬ perObservation q resolution spec ∧
      ∀ seconds, resolutionSeconds (q.env.lower (Text.strip resolution)) = some seconds →
        maxPoints < (statementRows q.sqlite seconds spec scopes range telemetry).length ∨
          ∃ row ∈ statementRows q.sqlite seconds spec scopes range telemetry,
            row.bucketEpoch = none)

/-- The repository refuses a request: it knows the metric, the resolution or the system not, or
it cannot read what it is asked for. -/
def Refused (q : SystemEnv) (now : Nat) (identifier metricName : String) (range : TimeRange)
    (resolution : String) (maxPoints : Int) (telemetry : TelemetryDb) (db : SystemDb) : Prop :=
  ∀ spec, metricSpec metricName = some spec →
    (q.env.lower (Text.strip resolution) = "raw" ∨
      (resolutionSeconds (q.env.lower (Text.strip resolution))).isSome = true) →
    ∀ synced found, scopeMap q.env q.config now identifier db = .ok (synced, found) →
      found.scopes.flatMap Prod.snd ≠ [] ∧
        Unreadable q spec range resolution maxPoints telemetry found.scopes

section Route

variable {q : SystemEnv} {now : Nat} {identifier metricName resolution : String}
  {spec : SystemMetricSpec} {range : TimeRange} {maxPoints : Int} {telemetry : TelemetryDb}
  {db : SystemDb}

/-- Single observations are refused for their number. -/
theorem observationPoints_error_iff (seconds : Option Nat) (mapping : Dict String String)
    (expected : List String) :
    (∃ e, observationPoints q now spec seconds mapping expected range maxPoints telemetry =
        .error e) ↔ maxPoints < (sourceRows spec mapping range telemetry).length := by
  have hlength := length_limitRows_le maxPoints (orderBy Joined.sampleTime .asc
    (q.rowPlan.rows (sourceRows spec mapping range telemetry)))
  rw [length_orderBy, (q.rowPlan.perm _).length_eq] at hlength
  unfold observationPoints
  simp only
  split
  case isTrue hmore =>
    have hlt : maxPoints < (sourceRows spec mapping range telemetry).length := by omega
    simp [hlt]
  case isFalse hmore =>
    have hle : ¬ maxPoints < (sourceRows spec mapping range telemetry).length := by omega
    cases seconds <;> simp [hle]

theorem observationHistory_error_iff (normalized : String) :
    (∃ e, observationHistory q now identifier spec range normalized maxPoints telemetry db =
        .error e) ↔
      ∀ synced found, scopeMap q.env q.config now identifier db = .ok (synced, found) →
        found.scopes.flatMap Prod.snd ≠ [] ∧
          maxPoints < (sourceRows spec (deviceToController found.scopes) range telemetry).length := by
  unfold observationHistory
  cases hfound : scopeMap q.env q.config now identifier db with
  | error e => simp
  | ok found =>
      obtain ⟨synced, found⟩ := found
      simp only [Loop.ok_bind, Except.ok.injEq, Prod.mk.injEq, and_imp]
      by_cases hempty : found.scopes.flatMap Prod.snd = []
      · have hisEmpty := List.isEmpty_iff.mpr hempty
        rw [if_pos hisEmpty]
        constructor
        · rintro ⟨e, herror⟩
          cases herror
        · intro h
          exact absurd hempty (h synced found rfl rfl).1
      · have hisEmpty : ¬ (found.scopes.flatMap Prod.snd).isEmpty = true :=
          fun h => hempty (List.isEmpty_iff.mp h)
        rw [if_neg hisEmpty]
        have hpoints : (∃ e, observationPoints q now spec
            ((resolutionSeconds normalized).map Int.toNat) (deviceToController found.scopes)
            (eligibleControllerUids q.catalog found.controllers spec) range maxPoints telemetry =
              .error e) ↔
              maxPoints <
                (sourceRows spec (deviceToController found.scopes) range telemetry).length :=
          observationPoints_error_iff _ _ _
        cases hp : observationPoints q now spec ((resolutionSeconds normalized).map Int.toNat)
            (deviceToController found.scopes) (eligibleControllerUids q.catalog found.controllers spec)
            range maxPoints telemetry with
        | error e =>
            have hmore := hpoints.mp ⟨e, hp⟩
            constructor
            · rintro - synced' found' - rfl
              exact ⟨hempty, hmore⟩
            · intro _
              exact ⟨e, rfl⟩
        | ok points =>
            rw [hp] at hpoints
            constructor
            · rintro ⟨e, herror⟩
              cases herror
            · intro h
              obtain ⟨e, herror⟩ := hpoints.mpr (h synced found rfl rfl).2
              cases herror

theorem resolutionSeconds_mem {name : String} {seconds : Int}
    (h : resolutionSeconds name = some seconds) :
    name ∈ ["1m", "5m", "15m", "1h", "1d"] := by
  unfold resolutionSeconds at h
  obtain ⟨front, back, hnames, -⟩ := List.lookup_eq_some_iff.mp h
  have hmem : (name, seconds) ∈ front ++ (name, seconds) :: back :=
    List.mem_append_right _ List.mem_cons_self
  rw [← hnames] at hmem
  exact List.mem_map_of_mem (f := Prod.fst) hmem

/-- The names of the sizes stand without white space. -/
theorem strip_resolution {name : String} {seconds : Int}
    (h : resolutionSeconds name = some seconds) : Text.strip name = name := by
  have hall : ∀ name ∈ ["1m", "5m", "15m", "1h", "1d"], Text.strip name = name := by
    decide +kernel
  exact hall name (resolutionSeconds_mem h)

/-- The buckets of a metric do not depend on how their size is spelled. -/
theorem bucketedHistory_normalized {seconds : Int}
    (hlower : ∀ name seconds, resolutionSeconds name = some seconds → q.env.lower name = name)
    (h : resolutionSeconds (q.env.lower (Text.strip resolution)) = some seconds) :
    bucketedHistory q now identifier metricName range (q.env.lower (Text.strip resolution)) maxPoints
        telemetry db =
      bucketedHistory q now identifier metricName range resolution maxPoints telemetry db := by
  have hfixed : q.env.lower (Text.strip (q.env.lower (Text.strip resolution))) =
      q.env.lower (Text.strip resolution) := by
    rw [strip_resolution h]
    exact hlower _ _ h
  unfold bucketedHistory bucketedMetricHistory
  rw [hfixed]

/-- Buckets are refused for states and for any other size. -/
theorem bucketedHistory_error (hspec : metricSpec metricName = some spec)
    (h : spec.aggregation = .stateSet ∨
      resolutionSeconds (q.env.lower (Text.strip resolution)) = none) :
    ∃ e, bucketedHistory q now identifier metricName range resolution maxPoints telemetry db =
      .error e := by
  unfold bucketedHistory bucketedMetricHistory
  rw [hspec]
  simp only
  cases hagg : spec.aggregation with
  | stateSet => exact ⟨_, rfl⟩
  | numeric aggregation =>
      have hnone := h.resolve_left (by simp [hagg])
      simp only [hnone]
      exact ⟨_, rfl⟩

theorem history_of_perObservation (hspec : metricSpec metricName = some spec)
    (hper : perObservation q resolution spec) :
    history q now identifier metricName range resolution maxPoints telemetry db =
      observationHistory q now identifier spec range (q.env.lower (Text.strip resolution)) maxPoints
        telemetry db := by
  unfold history
  rw [hspec]
  simp only
  obtain hraw | ⟨hsize, hstates⟩ := hper
  · simp [hraw]
  · rw [if_neg (fun h => by simp [h.2] at hsize), if_neg (fun h => h.2 hstates)]

/-- Other requests are for buckets, or for a resolution that there is not. -/
theorem history_of_not_perObservation (hspec : metricSpec metricName = some spec)
    (hper : ¬ perObservation q resolution spec) :
    (resolutionSeconds (q.env.lower (Text.strip resolution)) = none ∧
      ∃ e, history q now identifier metricName range resolution maxPoints telemetry db =
        .error e) ∨
    ((resolutionSeconds (q.env.lower (Text.strip resolution))).isSome = true ∧
      history q now identifier metricName range resolution maxPoints telemetry db =
        bucketedHistory q now identifier metricName range (q.env.lower (Text.strip resolution))
          maxPoints telemetry db) := by
  obtain ⟨hraw, hstates⟩ := not_or.mp hper
  unfold history
  rw [hspec]
  simp only
  cases hsize : resolutionSeconds (q.env.lower (Text.strip resolution)) with
  | none =>
      rw [if_pos ⟨hraw, rfl⟩]
      exact .inl ⟨rfl, _, rfl⟩
  | some seconds =>
      rw [hsize] at hstates
      rw [if_neg (fun h => by cases h.2), if_pos ⟨hraw, fun h => hstates ⟨rfl, h⟩⟩]
      exact .inr ⟨rfl, rfl⟩

/-- The buckets of a metric that there are. -/
theorem bucketedHistory_error_iff (hspec : metricSpec metricName = some spec)
    {aggregation : NumericAggregation} (hagg : spec.aggregation = .numeric aggregation)
    {seconds : Int}
    (hseconds : resolutionSeconds (q.env.lower (Text.strip resolution)) = some seconds) :
    (∃ e, bucketedHistory q now identifier metricName range resolution maxPoints telemetry db =
        .error e) ↔
      ∀ synced found, scopeMap q.env q.config now identifier db = .ok (synced, found) →
        found.scopes.flatMap Prod.snd ≠ [] ∧
          (maxPoints < (statementRows q.sqlite seconds spec found.scopes range telemetry).length ∨
            ∃ row ∈ statementRows q.sqlite seconds spec found.scopes range telemetry,
              row.bucketEpoch = none) := by
  rw [bucketedHistory]
  cases hfound : scopeMap q.env q.config now identifier db with
  | error e =>
      simp [bucketedMetricHistory, hspec, hagg, hseconds, hfound, Except.map]
  | ok r =>
      obtain ⟨synced, found⟩ := r
      rw [bucketedMetricHistory_eq hspec hagg hseconds hfound]
      have hone : ∀ {P : ScopeMap → Prop}, (∀ synced' found',
          (.ok (synced, found) : Except SystemError _) = .ok (synced', found') → P found') ↔
            P found := by
        intro P
        exact ⟨fun h => h synced found rfl, fun h _ _ heq => (Prod.mk.inj (Except.ok.inj heq)).2 ▸ h⟩
      rw [hone]
      by_cases hempty : found.scopes.flatMap Prod.snd = []
      · rw [if_pos (List.isEmpty_iff.mpr hempty)]
        exact iff_of_false (fun h => by cases h.choose_spec) fun h => h.1 hempty
      · have hisEmpty : ¬ (found.scopes.flatMap Prod.snd).isEmpty = true :=
          fun h => hempty (List.isEmpty_iff.mp h)
        rw [if_neg hisEmpty, and_iff_right hempty]
        have hpoints : (∃ e, metricPoints q.sqlite q.metricPlan now spec aggregation seconds
            (deviceToController found.scopes)
            (eligibleControllerUids q.catalog found.controllers spec) range maxPoints telemetry =
              .error e) ↔ _ := metricPoints_error_iff (registers_ne_nil hspec) q.metricPlan
        rw [← hpoints]
        cases metricPoints q.sqlite q.metricPlan now spec aggregation seconds
          (deviceToController found.scopes) (eligibleControllerUids q.catalog found.controllers spec)
          range maxPoints telemetry <;> simp [Except.map]

/-- The repository raises exactly when it refuses a request. -/
theorem history_error_iff
    (hlower : ∀ name seconds, resolutionSeconds name = some seconds → q.env.lower name = name) :
    (∃ e, history q now identifier metricName range resolution maxPoints telemetry db =
        .error e) ↔
      Refused q now identifier metricName range resolution maxPoints telemetry db := by
  unfold Refused
  cases hspec : metricSpec metricName with
  | none => simp [history, hspec]
  | some spec =>
      simp only [Option.some.injEq, forall_eq']
      by_cases hper : perObservation q resolution spec
      · have hknown : q.env.lower (Text.strip resolution) = "raw" ∨
            (resolutionSeconds (q.env.lower (Text.strip resolution))).isSome = true :=
          hper.imp_right And.left
        rw [history_of_perObservation hspec hper, observationHistory_error_iff]
        simp [Unreadable, hper, hknown]
      · obtain ⟨hnone, hraises⟩ | ⟨hsize, hbuckets⟩ := history_of_not_perObservation hspec hper
        · refine iff_of_true hraises fun hknown => ?_
          obtain hraw | hsome := hknown
          · exact absurd (.inl hraw) hper
          · rw [hnone] at hsome
            cases hsome
        · obtain ⟨seconds, hseconds⟩ := Option.isSome_iff_exists.mp hsize
          have hnumeric : spec.aggregation ≠ .stateSet := fun h => hper (.inr ⟨hsize, h⟩)
          cases hagg : spec.aggregation with
          | stateSet => exact absurd hagg hnumeric
          | numeric aggregation =>
              rw [hbuckets, bucketedHistory_normalized hlower hseconds,
                bucketedHistory_error_iff hspec hagg hseconds]
              simp [Unreadable, hper, hseconds]

end Route

end SystemDataRepository

section Faithful

open SystemDataRepository

variable {q : SystemEnv} {now : Nat} {r : HistoryRequest} {telemetry : TelemetryDb} {db : SystemDb}

theorem HistoryRequest.range_of_ok {range : TimeRange}
    (h : q.normalizeTimeRange r.start r.stop = .ok range) : r.range q = range := by
  rw [HistoryRequest.range, h]

theorem systemHistory_of_accepted (h : r.Accepted q) : systemHistory q now r telemetry db =
    (routedHistory q now r.systemUid r.metric (r.range q) r.resolution r.maxPoints telemetry
      db).mapError SystemError.http := by
  obtain ⟨hbounds, range, hrange⟩ := h
  rw [systemHistory, if_neg (by omega), SystemEnv.range, HistoryRequest.range_of_ok hrange, hrange]
  rfl

/-- The route refuses what it does not take. -/
theorem systemHistory_of_not_accepted (h : ¬ r.Accepted q) :
    ∃ e, systemHistory q now r telemetry db = .error e := by
  rw [systemHistory]
  split
  · exact ⟨_, rfl⟩
  · next hbounds =>
      cases hrange : q.normalizeTimeRange r.start r.stop with
      | ok range => exact absurd ⟨by omega, range, hrange⟩ h
      | error e =>
          rw [SystemEnv.range, hrange]
          exact ⟨_, rfl⟩

/-- The route answers as `call`. -/
theorem routeFaithful_of_eq {call : Except SystemError (SystemDb × SystemHistory)}
    (hanswer : systemHistory q now r telemetry db = call.mapError SystemError.http)
    (hhistory : r.history q now telemetry db = call) : RouteFaithful q now r telemetry db := by
  unfold RouteFaithful
  rw [hanswer, hhistory]
  cases call with
  | error e => exact ⟨by simp, by simp [Except.mapError]⟩
  | ok h => exact ⟨fun h' heq => by rw [← Except.ok.inj heq]; rfl, by simp [Except.mapError]⟩

/-- Where the route refuses, the repository has to raise. -/
theorem routeFaithful_of_error (hanswer : ∃ e, systemHistory q now r telemetry db = .error e) :
    RouteFaithful q now r telemetry db ↔ ∃ e, r.history q now telemetry db = .error e := by
  constructor
  · intro h
    exact h.2.mp hanswer
  · rintro ⟨e, he⟩
    obtain ⟨e', he'⟩ := hanswer
    unfold RouteFaithful
    rw [he, he']
    exact ⟨by simp, by simp⟩

theorem systemHistory_of_ne (haccepted : r.Accepted q) (hraw : r.resolution ≠ "raw") :
    systemHistory q now r telemetry db =
      (bucketedHistory q now r.systemUid r.metric (r.range q) r.resolution r.maxPoints telemetry
        db).mapError SystemError.http := by
  rw [systemHistory_of_accepted haccepted, routedHistory, if_pos hraw]

theorem systemHistory_refused (haccepted : r.Accepted q) (hraw : r.resolution ≠ "raw")
    {spec : SystemMetricSpec} (hspec : metricSpec r.metric = some spec)
    (h : spec.aggregation = .stateSet ∨
      resolutionSeconds (q.env.lower (Text.strip r.resolution)) = none) :
    ∃ e, systemHistory q now r telemetry db = .error e := by
  obtain ⟨e, he⟩ : ∃ e, bucketedHistory q now r.systemUid r.metric (r.range q) r.resolution
      r.maxPoints telemetry db = .error e := bucketedHistory_error hspec h
  rw [systemHistory_of_ne haccepted hraw, he]
  exact ⟨_, rfl⟩

/-- A request that the route takes is answered as the repository does exactly when it asks for
"raw" in so many letters, or the repository does not answer from single observations. -/
theorem routeFaithful_accepted_iff (haccepted : r.Accepted q)
    (hlower : ∀ name seconds, resolutionSeconds name = some seconds → q.env.lower name = name) :
    RouteFaithful q now r telemetry db ↔
      (r.resolution = "raw" ∨ ∀ spec, metricSpec r.metric = some spec →
        perObservation q r.resolution spec →
        ∀ synced found, scopeMap q.env q.config now r.systemUid db = .ok (synced, found) →
          found.scopes.flatMap Prod.snd ≠ [] ∧
            r.maxPoints <
              (sourceRows spec (deviceToController found.scopes) (r.range q) telemetry).length) := by
  by_cases hraw : r.resolution = "raw"
  · have hequal : RouteFaithful q now r telemetry db := by
      refine routeFaithful_of_eq ?_ rfl
      rw [systemHistory_of_accepted haccepted, routedHistory, if_neg (not_not.mpr hraw)]
      rfl
    exact ⟨fun _ => .inl hraw, fun _ => hequal⟩
  · rw [or_iff_right hraw]
    cases hspec : metricSpec r.metric with
    | none =>
        have hequal : RouteFaithful q now r telemetry db := by
          refine routeFaithful_of_eq (systemHistory_of_ne haccepted hraw) ?_
          simp [HistoryRequest.history, bucketedHistory, bucketedMetricHistory,
            SystemDataRepository.history, hspec, Except.map]
        simp [hequal]
    | some spec =>
        simp only [Option.some.injEq, forall_eq']
        by_cases hper : perObservation q r.resolution spec
        · -- the route refuses, while the repository reads single observations
          have hrefused : ∃ e, systemHistory q now r telemetry db = .error e :=
            systemHistory_refused haccepted hraw hspec
              (hper.symm.imp And.right fun h => by rw [h]; rfl)
          rw [routeFaithful_of_error hrefused, HistoryRequest.history,
            history_of_perObservation hspec hper, observationHistory_error_iff]
          exact ⟨fun h _ => h, fun h => h hper⟩
        · have hequal : RouteFaithful q now r telemetry db := by
            obtain ⟨hnone, hraises⟩ | ⟨hsize, hbuckets⟩ :=
              history_of_not_perObservation hspec hper
            · exact (routeFaithful_of_error
                (systemHistory_refused haccepted hraw hspec (.inr hnone))).mpr hraises
            · obtain ⟨seconds, hseconds⟩ := Option.isSome_iff_exists.mp hsize
              refine routeFaithful_of_eq (systemHistory_of_ne haccepted hraw) ?_
              rw [HistoryRequest.history, hbuckets, bucketedHistory_normalized hlower hseconds]
          exact ⟨fun _ h => absurd h hper, fun _ => hequal⟩

/-- The route answers as the repository does exactly when it takes the request and is asked for
"raw" in so many letters, or the repository does not answer from single observations; or when it
does not take the request and the repository refuses it too. -/
theorem route_faithful_iff
    (hlower : ∀ name seconds, resolutionSeconds name = some seconds → q.env.lower name = name) :
    RouteFaithful q now r telemetry db ↔
      (r.Accepted q → (r.resolution = "raw" ∨ ∀ spec, metricSpec r.metric = some spec →
        perObservation q r.resolution spec →
        ∀ synced found, scopeMap q.env q.config now r.systemUid db = .ok (synced, found) →
          found.scopes.flatMap Prod.snd ≠ [] ∧
            r.maxPoints < (sourceRows spec (deviceToController found.scopes) (r.range q)
              telemetry).length)) ∧
      (¬ r.Accepted q → Refused q now r.systemUid r.metric (r.range q) r.resolution r.maxPoints
        telemetry db) := by
  by_cases haccepted : r.Accepted q
  · rw [routeFaithful_accepted_iff haccepted hlower]
    exact ⟨fun h => ⟨fun _ => h, fun hnot => absurd haccepted hnot⟩, fun h => h.1 haccepted⟩
  · rw [routeFaithful_of_error (systemHistory_of_not_accepted haccepted), HistoryRequest.history,
      history_error_iff hlower]
    exact ⟨fun h => ⟨fun hyes => absurd hyes haccepted, fun _ => h⟩, fun h => h.2 haccepted⟩

end Faithful

/-! ## requests on an empty store -/

/-- No devices, and so no times to read. -/
def emptySystem : SystemEnv where
  env := plainEnv
  catalog _ := []
  sqlite := { epoch := fun _ => none, isoTime := fun _ => none }
  texts := { str := fun _ => "0.0", fromisoformat := fun _ => none }
  metricPlan := .scan _
  rowPlan := .scan _

theorem plainEnv_lower_resolution :
    ∀ name seconds, SystemDataRepository.resolutionSeconds name = some seconds →
      plainEnv.lower name = name := by
  intro name seconds h
  have hall : ∀ name ∈ ["1m", "5m", "15m", "1h", "1d"], plainEnv.lower name = name := by
    decide +kernel
  exact hall name (SystemDataRepository.resolutionSeconds_mem h)

/-- Hours of a voltage, spelled with a capital. -/
def hoursRequest : HistoryRequest where
  systemUid := "sys_default"
  metric := "battery_voltage_v"
  resolution := "1H"

theorem hoursRequest_accepted : hoursRequest.Accepted emptySystem := ⟨by decide, {}, rfl⟩

theorem route_faithful_iff_hours : RouteFaithful emptySystem 0 hoursRequest noSamples {} := by
  refine (route_faithful_iff plainEnv_lower_resolution).mpr
    ⟨fun _ => .inr fun spec hspec hper => ?_, fun hnot => absurd hoursRequest_accepted hnot⟩
  obtain rfl := Option.some.inj (hspec.symm.trans (by rfl : metricSpec "battery_voltage_v" = _))
  obtain hraw | hstates := hper
  · exact absurd hraw (by decide +kernel)
  · exact absurd hstates.2 (by decide)

/-- The charge states of the last hours, with the resolution that the route takes by default;
raw voltages, spelled with capitals; and more points than the route gives. -/
theorem not_route_faithful :
    ¬ RouteFaithful emptySystem 0 { systemUid := "sys_default", metric := "charge_state" }
        noSamples {} ∧
    ¬ RouteFaithful emptySystem 0
        { systemUid := "sys_default", metric := "battery_voltage_v", resolution := "RAW" }
        noSamples {} ∧
    ¬ RouteFaithful emptySystem 0
        { systemUid := "sys_default", metric := "battery_voltage_v", resolution := "raw",
          maxPoints := 20001 } noSamples {} := by
  have hrefused : ∀ r : HistoryRequest, (r.history emptySystem 0 noSamples {}).toBool = true →
      (systemHistory emptySystem 0 r noSamples {}).toBool = false →
      ¬ RouteFaithful emptySystem 0 r noSamples {} := by
    rintro r hok herror ⟨hvalue, -⟩
    cases hhistory : r.history emptySystem 0 noSamples {} with
    | error e => simp [hhistory, Except.toBool] at hok
    | ok h => simp [hvalue h hhistory, Except.toBool] at herror
  exact ⟨hrefused _ (by decide +kernel) (by decide +kernel),
    hrefused _ (by decide +kernel) (by decide +kernel),
    hrefused _ (by decide +kernel) (by decide +kernel)⟩

end MorningstarModbus
