import Mathlib.Algebra.BigOperators.Group.List.Basic
import Mathlib.Algebra.Field.Rat
import Mathlib.Tactic.FieldSimp
import MorningstarModbus.Controllers.Permanence
import MorningstarModbus.History.ControllerData
import MorningstarModbus.Lib.Group

/-!
# MorningstarModbus.History.Merge

A controller's history is the chronological merge of its devices' histories.

* `mergedSamples`, `mergedHistory` — the devices' own results merged by
  (observed_at, sample id) and cut to the limit;
* `mergedBuckets`, `mergedStats` — aggregates computed along the merged rows,
  with the devices' averages weighted by their counts;
* `controller_history_merges` — the controller's queries return these.
-/

namespace MorningstarModbus

open Query Table

/-! ## the merge -/

/-- `observed_at, sample_id` -/
def Joined.time (j : Joined) : String ×ₗ Nat := j.sample.key

def HistoryRow.time (r : HistoryRow) : String ×ₗ Nat := toLex (r.observedAt, r.sampleId)

/-- The samples of the member devices, merged. -/
def mergedSamples (env : Env) (scope : ControllerScope) (limit : Int) (range : TimeRange)
    (order : String) (db : TelemetryDb) : List ControllerSample :=
  ((orderBy SampleRow.key (orderSql env order) (scope.historyDeviceIds.flatMap fun deviceId =>
    TelemetryStore.samples env deviceId limit range order db)).take (clampLimit 5000 limit)).map
      (SampleRow.ofController scope)

/-- The histories of the member devices, merged while the rows still have their
sample ids. -/
def mergedHistory (env : Env) (scope : ControllerScope) (name : String) (limit : Int)
    (range : TimeRange) (order : String) (db : TelemetryDb) : List (Sourced RegisterPoint) :=
  ((orderBy (fun r => r.row.time) (orderSql env order)
    (scope.historyDeviceIds.flatMap fun deviceId =>
      (TelemetryStore.rawHistoryRows env deviceId [name] range order (clampLimit 10000 limit)
        db).map fun row => { sourceDeviceId := deviceId, row : Sourced HistoryRow })).take
    (clampLimit 10000 limit)).map (Sourced.map HistoryRow.point)

/-- The rows of the member devices in chronological order, without a limit. -/
def mergedRows (ids : List String) (names : List String) (range : TimeRange) (db : TelemetryDb) :
    List Joined :=
  orderBy Joined.key .asc (ids.flatMap fun deviceId =>
    selectHistory (· == deviceId) names range .asc none db)

namespace Cell

variable {V : Type}

def deviceId (c : Cell V) : String := c.joined.sample.deviceId

end Cell

/-- The devices' averages, weighted by their counts. -/
def weightedMean (ids : List String) (cs : List (Cell ℚ)) : ℚ :=
  let parts := ids.map fun deviceId => cs.filter fun c => c.deviceId = deviceId
  (parts.map fun part => part.length * average part).sum /
    (parts.map fun part => (part.length : ℚ)).sum

/-- The buckets along a merged sequence. -/
def mergedBuckets (sqlite : Sqlite) (bucketSeconds : Int) (ids : List String)
    (merged : List Joined) : List AggregateRow :=
  (groups (bucketOf sqlite bucketSeconds) (cells RegisterValue.numericValue merged)).map
    (numericAggregate sqlite (weightedMean ids)) ++
  (groups Cell.registerName (cells RegisterValue.textValue merged)).flatMap fun g =>
    textBucketsOf sqlite bucketSeconds g.2

/-- The statistics along a merged sequence. -/
def mergedStats (sqlite : Sqlite) (ids : List String) (merged : List Joined) : List StatsRow :=
  (groups Cell.registerName (cells RegisterValue.numericValue merged)).map
    (numericStats sqlite (weightedMean ids)) ++
  (groups Cell.registerName (cells RegisterValue.textValue merged)).map (textStats sqlite)

/-! ## joined rows -/

section Joined

variable {db : TelemetryDb} {inScope : String → Bool} {names : List String} {range : TimeRange}
  {j : Joined}

/-- A joined row is a value with its sample. -/
theorem TelemetryDb.mem_joined (h : j ∈ db.joined) :
    j.value ∈ db.values ∧ j.sample ∈ db.samples ∧ j.sample.id = j.value.sampleId := by
  simp only [TelemetryDb.joined, List.mem_filterMap, Option.map_eq_some_iff] at h
  obtain ⟨value, hvalue, sample, hlookup, rfl⟩ := h
  have hsample := mem_of_lookup hlookup
  exact ⟨hvalue, hsample.1, hsample.2⟩

/-- A register has one value in a sample. -/
theorem TelemetryDb.joined_value_keyed (db : TelemetryDb) :
    Keyed (fun j : Joined => j.value.key) db.joined := by
  have hsub : (db.joined.map Joined.value).Sublist db.values := by
    rw [TelemetryDb.joined, List.map_filterMap]
    have hsome : (fun value => ((lookup SampleRow.id value.sampleId db.samples).map fun sample =>
        ({ sample, value } : Joined)).map Joined.value) =
        fun value => Option.guard (fun v : RegisterValue =>
          (lookup SampleRow.id v.sampleId db.samples).isSome) value := by
      funext value
      cases hl : lookup SampleRow.id value.sampleId db.samples <;> simp [Option.guard, hl]
    rw [hsome, List.filterMap_eq_filter]
    exact List.filter_sublist
  have hnodup := List.Nodup.sublist (hsub.map RegisterValue.key) db.values_keyed
  rwa [List.map_map] at hnodup

/-- Joined rows have keys of their own. -/
theorem TelemetryDb.joined_keyed (db : TelemetryDb) : Keyed Joined.key db.joined := by
  refine db.joined_value_keyed.of_determines ?_
  intro a ha b hb hab
  simp only [Joined.key, toLex_inj, Prod.mk.injEq] at hab
  have hida := (TelemetryDb.mem_joined ha).2.2
  have hidb := (TelemetryDb.mem_joined hb).2.2
  simp only [RegisterValue.key, Prod.mk.injEq]
  exact ⟨by omega, hab.2.2⟩

/-- And so have those of a history. -/
theorem TelemetryDb.history_keyed (db : TelemetryDb) (inScope : String → Bool)
    (names : List String) (range : TimeRange) : Keyed Joined.key (db.history inScope names range) :=
  db.joined_keyed.filter _

/-- A history has rows of its scope and of the registers it asks for. -/
theorem mem_history (h : j ∈ db.history inScope names range) :
    j ∈ db.joined ∧ inScope j.sample.deviceId = true ∧
      (names = [] ∨ j.value.registerName ∈ names) := by
  simp only [TelemetryDb.history, List.mem_filter, historyFilter, sampleFilter, Bool.and_eq_true,
    Bool.or_eq_true, List.isEmpty_iff, decide_eq_true_eq] at h
  exact ⟨h.1, h.2.1.1, h.2.2⟩

/-- The part of a scope's rows that one device has. -/
theorem history_filter_device {ids : List String} {deviceId : String} (hid : deviceId ∈ ids) :
    (db.history (· ∈ ids) names range).filter (fun j => j.sample.deviceId = deviceId) =
      db.history (· == deviceId) names range := by
  rw [TelemetryDb.history, TelemetryDb.history, List.filter_filter]
  refine List.filter_congr fun j _ => ?_
  by_cases hj : j.sample.deviceId = deviceId
  · simp [historyFilter, sampleFilter, hj, hid]
  · simp [historyFilter, sampleFilter, hj]

/-- The samples of a scope that are of one device are that device's. -/
theorem samples_filter_device {ids : List String} {deviceId : String} (hid : deviceId ∈ ids) :
    (db.samples.filter (sampleFilter (· ∈ ids) range)).filter (fun s => s.deviceId = deviceId) =
      db.samples.filter (sampleFilter (· == deviceId) range) := by
  rw [List.filter_filter]
  refine List.filter_congr fun s _ => ?_
  by_cases hs : s.deviceId = deviceId
  · simp [sampleFilter, hs, hid]
  · simp [sampleFilter, hs]

/-- Rows in the order of their keys are in the order of their times. -/
theorem Joined.time_le {a b : Joined} (h : a.key ≤ b.key) : a.time ≤ b.time := by
  simp only [Joined.key, Prod.Lex.toLex_le_toLex] at h
  simp only [Joined.time, SampleRow.key, Prod.Lex.toLex_le_toLex]
  obtain hlt | ⟨heq, hlt | ⟨heq', -⟩⟩ := h
  · exact .inl hlt
  · exact .inr ⟨heq, hlt.le⟩
  · exact .inr ⟨heq, heq'.le⟩

/-- Of one register, the time determines the row. -/
theorem Joined.key_eq {a b : Joined} (h : a.time = b.time)
    (hname : a.value.registerName = b.value.registerName) : a.key = b.key := by
  simp only [Joined.time, SampleRow.key, toLex_inj, Prod.mk.injEq] at h
  simp only [Joined.key, toLex_inj, Prod.mk.injEq]
  exact ⟨h.1, h.2, hname⟩

/-- Within one register a row is known by its time. -/
theorem keyed_time {name : String} {rows : List Joined} (hkey : Keyed Joined.key rows)
    (hname : ∀ j ∈ rows, j.value.registerName = name) : Keyed Joined.time rows :=
  hkey.of_determines fun _ ha _ hb hab =>
    Joined.key_eq hab ((hname _ ha).trans (hname _ hb).symm)

/-- The rows of one register are ordered by time already. -/
theorem orderBy_time {name : String} {rows : List Joined} (hkey : Keyed Joined.key rows)
    (hname : ∀ j ∈ rows, j.value.registerName = name) (d : Direction) :
    orderBy Joined.key d rows = orderBy Joined.time d rows := by
  refine eq_orderBy (keyed_time hkey hname) (orderBy_perm _ d rows)
    ((pairwise_orderBy _ d rows).imp ?_)
  intro a b hab
  cases d
  · exact Joined.time_le hab
  · exact Joined.time_le hab

end Joined

/-! ## scopes -/

/-- A scope lists each device once. -/
theorem ControllerDataRepository.scope_nodup {env : Env} {identifier : String} {registry db : Db}
    {scope : ControllerScope}
    (h : ControllerDataRepository.scope env identifier registry = .ok (db, scope)) :
    scope.historyDeviceIds.Nodup := by
  simp only [ControllerDataRepository.scope, Loop.bind_eq_ok] at h
  obtain ⟨⟨synced, found⟩, hresolve, hfound⟩ := h
  cases hr : resolve env identifier registry with
  | error e => simp [hr, Except.mapError] at hresolve
  | ok r =>
      simp only [hr, Except.mapError, Except.ok.injEq] at hresolve
      simp only [resolve, Loop.bind_eq_ok, Loop.pure_eq_ok, Except.ok.injEq] at hr
      obtain ⟨db', -, rfl⟩ := hr
      simp only [Prod.mk.injEq] at hresolve
      obtain ⟨rfl, rfl⟩ := hresolve
      cases hs : db'.scope? identifier with
      | none => simp [hs] at hfound
      | some found =>
          simp only [hs, Loop.pure_eq_ok, Except.ok.injEq, Prod.mk.injEq] at hfound
          simp only [Db.scope?, Option.map_eq_some_iff] at hs
          obtain ⟨physical, -, rfl⟩ := hs
          rw [← hfound.2]
          exact nodup_distinct _

/-- A query runs on the scope that its identifier resolves to. -/
theorem ControllerDataRepository.query_of_scope {α : Type} {env : Env} {identifier : String}
    {registry db : Db} {scope : ControllerScope}
    (h : ControllerDataRepository.scope env identifier registry = .ok (db, scope))
    (run : ControllerScope → Except ControllerDataError α) :
    query env identifier run registry = (run scope).map fun rows => (db, rows) := by
  simp only [query, h, Loop.ok_bind]
  cases run scope <;> rfl

section Merge

variable {env : Env} {sqlite : Sqlite} {scope : ControllerScope} {names : List String}
  {range : TimeRange} {db : TelemetryDb}

/-! ## limited rows -/

/-- **Samples** of a controller are those of its devices, merged. -/
theorem selectSamples_eq_merge (hids : scope.historyDeviceIds.Nodup) (limit : Int)
    (order : String) :
    (selectSamples scope.contains limit range (orderSql env order) db).map
      (SampleRow.ofController scope) = mergedSamples env scope limit range order db := by
  have hkeyed : Keyed SampleRow.key (db.samples.filter (sampleFilter scope.contains range)) := by
    refine (db.samples_keyed.filter _).of_determines fun a _ b _ hab => ?_
    simp only [SampleRow.key, toLex_inj, Prod.mk.injEq] at hab
    exact hab.2
  have hmem : ∀ s ∈ db.samples.filter (sampleFilter scope.contains range),
      s.deviceId ∈ scope.historyDeviceIds := by
    simp [sampleFilter, ControllerScope.contains]
    tauto
  have hmerge := take_merge SampleRow.deviceId (d := orderSql env order) hkeyed hids hmem
    (clampLimit 5000 limit)
  rw [selectSamples, mergedSamples, ← hmerge]
  congr 3
  refine List.flatMap_congr fun deviceId hid => ?_
  rw [TelemetryStore.samples, selectSamples, ← samples_filter_device hid]
  rfl

/-- **The history of a register** is that of its devices, merged. -/
theorem registerHistory_eq_merge (hids : scope.historyDeviceIds.Nodup) (name : String)
    (limit : Int) (order : String) :
    (ControllerDataRepository.rawHistoryRows env scope [name] range order (clampLimit 10000 limit)
      db).map (Sourced.map HistoryRow.point) = mergedHistory env scope name limit range order db := by
  have hkeyed := db.history_keyed scope.contains [name] range
  have hmem : ∀ j ∈ db.history scope.contains [name] range,
      j.sample.deviceId ∈ scope.historyDeviceIds := by
    intro j hj
    simpa [ControllerScope.contains] using (mem_history hj).2.1
  have hname : ∀ {inScope}, ∀ j ∈ db.history inScope [name] range,
      j.value.registerName = name := by
    intro inScope j hj
    simpa using (mem_history hj).2.2
  have hselect : ∀ inScope, selectHistory inScope [name] range (orderSql env order)
      (some (clampLimit 10000 limit)) db =
        (orderBy Joined.time (orderSql env order) (db.history inScope [name] range)).take
          (clampLimit 10000 limit) := by
    intro inScope
    rw [selectHistory, orderBy_time (db.history_keyed _ _ _) hname]
    simp [limitRows]
  have hdevice : ∀ deviceId ∈ scope.historyDeviceIds,
      (TelemetryStore.rawHistoryRows env deviceId [name] range order (clampLimit 10000 limit) db).map
        (fun row => { sourceDeviceId := deviceId, row : Sourced HistoryRow }) =
      ((orderBy Joined.time (orderSql env order) ((db.history scope.contains [name] range).filter
        fun j => j.sample.deviceId = deviceId)).take (clampLimit 10000 limit)).map
          Joined.sourced := by
    intro deviceId hid
    have hpart : (db.history scope.contains [name] range).filter
        (fun j => j.sample.deviceId = deviceId) = db.history (· == deviceId) [name] range :=
      history_filter_device hid
    rw [hpart, TelemetryStore.rawHistoryRows, hselect, List.map_map]
    refine List.map_congr_left fun j hj => ?_
    have hmem := (mem_orderBy _ _ _).mp (List.mem_of_mem_take hj)
    have heq : j.sample.deviceId = deviceId := by simpa using (mem_history hmem).2.1
    simp [Joined.sourced, heq]
  rw [ControllerDataRepository.rawHistoryRows, hselect, mergedHistory, List.flatMap_congr hdevice,
    ← List.map_flatMap, orderBy_map, ← List.map_take,
    ← take_merge (fun j : Joined => j.sample.deviceId) (keyed_time hkeyed hname)
      hids hmem]
  rfl

/-! ## the merged sequence -/

/-- The rows of the devices, merged, are those of the scope in their order. -/
theorem mergedRows_eq (hids : scope.historyDeviceIds.Nodup) :
    mergedRows scope.historyDeviceIds names range db =
      orderBy Joined.key .asc (db.history scope.contains names range) := by
  have hmem : ∀ j ∈ db.history scope.contains names range,
      j.sample.deviceId ∈ scope.historyDeviceIds := by
    intro j hj
    simpa [ControllerScope.contains] using (mem_history hj).2.1
  rw [mergedRows, ← orderBy_merge (fun j : Joined => j.sample.deviceId) (db.history_keyed _ _ _)
    hids hmem .asc]
  congr 1
  refine List.flatMap_congr fun deviceId hid => ?_
  have hpart : (db.history scope.contains names range).filter
      (fun j => j.sample.deviceId = deviceId) = db.history (· == deviceId) names range :=
    history_filter_device hid
  rw [hpart]
  rfl

/-- Cells are made row by row. -/
theorem cells_perm {V : Type} {column : RegisterValue → Option V} {rows rows' : List Joined}
    (h : rows.Perm rows') : (cells column rows).Perm (cells column rows') :=
  h.filterMap _

/-- A cell is a row with the value of its column. -/
theorem mem_cells {V : Type} {column : RegisterValue → Option V} {rows : List Joined}
    {c : Cell V} (h : c ∈ cells column rows) :
    c.joined ∈ rows ∧ column c.joined.value = some c.value := by
  simp only [cells, List.mem_filterMap, Option.map_eq_some_iff] at h
  obtain ⟨j, hj, value, hvalue, rfl⟩ := h
  exact ⟨hj, hvalue⟩

/-- The rows of the cells are those with a value. -/
theorem map_joined_cells {V : Type} (column : RegisterValue → Option V) (rows : List Joined) :
    (cells column rows).map Cell.joined = rows.filter fun j => (column j.value).isSome := by
  rw [cells, List.map_filterMap, ← List.filterMap_eq_filter]
  congr 1
  funext j
  cases hj : column j.value <;> simp [Option.guard, hj]

/-- The cells of one register along the ordered rows are in chronological order. -/
theorem chronological_cells {V : Type} {column : RegisterValue → Option V} {rows : List Joined}
    (hkey : Keyed Joined.key rows) {p : Cell V → Bool} {name : String}
    (hp : ∀ c, p c = true → c.registerName = name) :
    chronological ((cells column rows).filter p) =
      (cells column (orderBy Joined.key .asc rows)).filter p := by
  have hjoined : Keyed (fun c : Cell V => c.joined.key) (cells column rows) := by
    have hnodup : (((cells column rows).map Cell.joined).map Joined.key).Nodup := by
      rw [map_joined_cells]
      exact hkey.filter _
    rwa [List.map_map] at hnodup
  have htime : Keyed Cell.time ((cells column rows).filter p) := by
    refine (hjoined.filter p).of_determines fun a ha b hb hab => Joined.key_eq hab ?_
    exact (hp a (List.mem_filter.mp ha).2).trans (hp b (List.mem_filter.mp hb).2).symm
  have hsorted : (cells column (orderBy Joined.key .asc rows)).Pairwise
      (Ordered Cell.time .asc) := by
    have hrows : ((cells column (orderBy Joined.key .asc rows)).map Cell.joined).Pairwise
        (Ordered Joined.key .asc) := by
      rw [map_joined_cells]
      exact (pairwise_orderBy Joined.key .asc rows).filter _
    exact (List.pairwise_map.mp hrows).imp fun hab => Joined.time_le hab
  exact (eq_orderBy htime ((cells_perm (orderBy_perm _ _ _)).filter p) (hsorted.filter p)).symm

/-! ## averages -/

/-- An average times the number of its cells is their sum. -/
theorem length_mul_average (cs : List (Cell ℚ)) :
    cs.length * average cs = (cs.map Cell.value).sum := by
  cases cs with
  | nil => simp [average]
  | cons c cs =>
      have hne : ((c :: cs).length : ℚ) ≠ 0 := Nat.cast_ne_zero.mpr (by simp)
      rw [average, mul_div_cancel₀ _ hne]

/-- Splitting the rows by device does not change their average. -/
theorem weightedMean_eq {ids : List String} (hids : ids.Nodup) {cs : List (Cell ℚ)}
    (hcs : ∀ c ∈ cs, c.deviceId ∈ ids) : weightedMean ids cs = average cs := by
  have hsplit : ∀ g : Cell ℚ → ℚ,
      (ids.map fun deviceId => ((cs.filter fun c => c.deviceId = deviceId).map g).sum).sum =
        (cs.map g).sum := by
    intro g
    have hperm := flatMap_parts_perm Cell.deviceId hids hcs
    rw [← (hperm.map g).sum_eq, List.map_flatMap, List.flatMap_def, List.sum_flatten,
      List.map_map]
    rfl
  have hlength : ∀ part : List (Cell ℚ), (part.length : ℚ) = (part.map fun _ => (1 : ℚ)).sum := by
    simp
  have hsum := hsplit Cell.value
  have hcount := hsplit fun _ => 1
  simp only [← hlength] at hcount
  simp only [weightedMean, List.map_map, Function.comp_def, length_mul_average, hsum, hcount]
  rfl

/-! ## aggregates along the merged sequence -/

/-- The merged cells are observed by the members. -/
theorem deviceId_mem {V : Type} {column : RegisterValue → Option V} {c : Cell V}
    (h : c ∈ cells column (orderBy Joined.key .asc (db.history scope.contains names range))) :
    c.deviceId ∈ scope.historyDeviceIds := by
  have hmem := (mem_orderBy _ _ _).mp (mem_cells h).1
  simpa [ControllerScope.contains, Cell.deviceId] using (mem_history hmem).2.1

/-- **Buckets** of a controller are computed from those of its devices. -/
theorem aggregatedRows_perm (hids : scope.historyDeviceIds.Nodup) (bucketSeconds : Int) :
    (aggregatedRows sqlite bucketSeconds (db.history scope.contains names range)).Perm
      (mergedBuckets sqlite bucketSeconds scope.historyDeviceIds
        (mergedRows scope.historyDeviceIds names range db)) := by
  have hkey := db.history_keyed scope.contains names range
  have hperm := (orderBy_perm Joined.key .asc (db.history scope.contains names range)).symm
  have hname : ∀ {V : Type} (k : String × Option Int) (c : Cell V),
      decide (bucketOf sqlite bucketSeconds c = k) = true → c.registerName = k.1 := by
    intro V k c hc
    rw [← of_decide_eq_true hc]
    rfl
  rw [mergedRows_eq hids]
  refine List.Perm.append ?numbers ?texts
  case numbers =>
    refine map_groups_perm (cells_perm hperm) fun k => ?_
    rw [chronological_cells hkey (hname k)]
    simp only [numericAggregate]
    rw [weightedMean_eq hids fun c hc => deviceId_mem (List.mem_filter.mp hc).1]
  case texts =>
    rw [textBuckets, List.flatMap_def, List.flatMap_def]
    refine (map_groups_perm (cells_perm hperm) fun name => ?_).flatten
    rw [chronological_cells hkey fun c hc => of_decide_eq_true hc]

/-- **Statistics** of a controller are computed from those of its devices. -/
theorem statsRows_perm (hids : scope.historyDeviceIds.Nodup) :
    (statsRows sqlite (db.history scope.contains names range)).Perm
      (mergedStats sqlite scope.historyDeviceIds
        (mergedRows scope.historyDeviceIds names range db)) := by
  have hkey := db.history_keyed scope.contains names range
  have hperm := (orderBy_perm Joined.key .asc (db.history scope.contains names range)).symm
  rw [mergedRows_eq hids]
  refine List.Perm.append ?numbers ?texts
  case numbers =>
    refine map_groups_perm (cells_perm hperm) fun name => ?_
    rw [chronological_cells hkey fun c hc => of_decide_eq_true hc]
    simp only [numericStats]
    rw [weightedMean_eq hids fun c hc => deviceId_mem (List.mem_filter.mp hc).1]
  case texts =>
    refine map_groups_perm (cells_perm hperm) fun name => ?_
    rw [chronological_cells hkey fun c hc => of_decide_eq_true hc]

/-- A register has one row of statistics of each kind. -/
theorem statsRows_keyed (sqlite : Sqlite) (rows : List Joined) :
    Keyed StatsRow.key (statsRows sqlite rows) := by
  have hkind : ∀ {V : Type} {cs : List (Cell V)} {f : String × List (Cell V) → StatsRow}
      (kind : String), (∀ g, (f g).key = toLex (g.1, kind)) →
        ((groups Cell.registerName cs).map f).map StatsRow.key =
          (distinct (cs.map Cell.registerName)).map fun name => toLex (name, kind) := by
    intro V cs f kind hf
    rw [groups, List.map_map, List.map_map]
    exact List.map_congr_left fun name _ => hf _
  have hnodup : ∀ (kind : String) (names : List String),
      ((distinct names).map fun name => toLex (name, kind)).Nodup := by
    intro kind names
    exact (nodup_distinct names).map fun a b hab => by simpa using hab
  unfold Keyed
  rw [statsRows, List.map_append, hkind "numeric" fun _ => rfl, hkind "text" fun _ => rfl,
    List.nodup_append]
  refine ⟨hnodup _ _, hnodup _ _, ?_⟩
  intro a ha b hb hab
  obtain ⟨name, -, rfl⟩ := List.mem_map.mp ha
  obtain ⟨name', -, rfl⟩ := List.mem_map.mp hb
  simp at hab

/-! ## the controller's queries -/

variable (sqlite names range db)

/-- Where an identifier resolves to a scope, the controller's samples and register
history are the merge of its devices', and its buckets and statistics are computed
along the merged rows. -/
theorem controller_history_merges {identifier : String} {registry synced : Db}
    (h : ControllerDataRepository.scope env identifier registry = .ok (synced, scope))
    (plan : Plan AggregateRow) (name order : String) (limit bucketSeconds maxPoints : Int) :
    ControllerDataRepository.samples env identifier limit range order db registry =
      .ok (synced, mergedSamples env scope limit range order db) ∧
    ControllerDataRepository.registerHistory env identifier name limit range order db registry =
      .ok (synced, mergedHistory env scope name limit range order db) ∧
    (∃ rows : List AggregateRow,
      rows.Perm (mergedBuckets sqlite bucketSeconds scope.historyDeviceIds
        (mergedRows scope.historyDeviceIds names range db)) ∧
      rows.Pairwise (Ordered AggregateRow.key (orderSql env order)) ∧
      ControllerDataRepository.multiRegisterHistory env sqlite plan identifier names range order
        (some bucketSeconds) maxPoints db registry =
          ((checkPoints maxPoints (rows.map HistoryItem.bucket)).mapError
            ControllerDataError.tooLarge).map fun items => (synced, scope, items)) ∧
    ControllerDataRepository.registerStats env sqlite identifier names range db registry =
      .ok (synced, scope, orderBy StatsRow.key .asc (mergedStats sqlite scope.historyDeviceIds
        (mergedRows scope.historyDeviceIds names range db))) := by
  have hids := ControllerDataRepository.scope_nodup h
  refine ⟨?samples, ?history, ?buckets, ?stats⟩
  case samples =>
    rw [ControllerDataRepository.samples, ControllerDataRepository.query_of_scope h,
      selectSamples_eq_merge hids]
    rfl
  case history =>
    rw [ControllerDataRepository.registerHistory, ControllerDataRepository.query_of_scope h,
      registerHistory_eq_merge hids]
    rfl
  case buckets =>
    refine ⟨orderBy AggregateRow.key (orderSql env order) (plan.rows (aggregatedRows sqlite
      bucketSeconds (db.history scope.contains names range))), ?_, pairwise_orderBy _ _ _, ?_⟩
    · exact (orderBy_perm _ _ _).trans ((plan.perm _).trans (aggregatedRows_perm hids _))
    · rw [ControllerDataRepository.multiRegisterHistory, ControllerDataRepository.query_of_scope h,
        historyItems_limit, checkPoints_limit]
      cases hc : checkPoints maxPoints (historyItems Joined.sourced sqlite plan scope.contains names
        range (orderSql env order) (some bucketSeconds) none db) with
      | error e =>
          simp only [historyItems, selectAggregated, limitRows_none] at hc
          rw [hc]
          rfl
      | ok items =>
          simp only [historyItems, selectAggregated, limitRows_none] at hc
          rw [hc]
          rfl
  case stats =>
    rw [ControllerDataRepository.registerStats, ControllerDataRepository.query_of_scope h,
      ← orderBy_eq_of_perm (statsRows_keyed sqlite _) (statsRows_perm hids).symm]
    rfl

end Merge

/-- A controller that moved from one endpoint to another. -/
def movedController : Db where
  members :=
    [ { deviceId := "serial", controllerId := "serial:1", firstSeen := 1, lastSeen := 2 },
      { deviceId := "tcp", controllerId := "serial:1", firstSeen := 3, lastSeen := 4 } ]
  physical :=
    [ { controllerUid := "ctrl", canonicalDeviceId := "tcp", currentControllerId := "serial:1",
        firstSeen := 1, lastSeen := 4 } ]

def movedScope : ControllerScope where
  controllerUid := "ctrl"
  controllerId := "serial:1"
  canonicalDeviceId := "tcp"
  historyDeviceIds := ["serial", "tcp"]

def movedVoltage (sampleId : Nat) (volts : ℚ) : RegisterValue where
  sampleId := sampleId
  registerName := "battery_voltage"
  address := 8
  function := "holding"
  rawJson := "[0]"
  numericValue := some volts
  textValue := none
  unit := some "V"

def movedState (sampleId : Nat) (state : String) : RegisterValue where
  sampleId := sampleId
  registerName := "charge_state"
  address := 50
  function := "holding"
  rawJson := "[0]"
  numericValue := none
  textValue := some state
  unit := none

/-- Both endpoints were polled at one time, and the old one before. -/
def movedTelemetry : TelemetryDb where
  samples :=
    [ { id := 1, deviceId := "serial", observedAt := "2026-01-01T00:00:00+00:00", latencyMs := 5,
        profile := "tristar" },
      { id := 2, deviceId := "tcp", observedAt := "2026-01-01T00:01:00+00:00", latencyMs := 5,
        profile := "tristar" },
      { id := 3, deviceId := "serial", observedAt := "2026-01-01T00:01:00+00:00", latencyMs := 5,
        profile := "tristar" } ]
  values :=
    [ movedVoltage 1 12, movedVoltage 2 14, movedVoltage 3 13, movedState 1 "MPPT",
      movedState 2 "FLOAT" ]

/-- SQLite's date functions on these times. -/
def movedClock : Sqlite where
  epoch text := if text = "2026-01-01T00:00:00+00:00" then some 1767225600 else some 1767225660
  isoTime _ := some "2026-01-01T00:00:00Z"

/-- Samples, history, buckets and statistics of both endpoints. -/
theorem controller_history_merges_moved :
    let merged := mergedRows ["serial", "tcp"] [] {} movedTelemetry
    (ControllerDataRepository.samples plainEnv "ctrl" 2 {} "desc" movedTelemetry
      movedController).map (fun r => r.2.map fun s => (s.id, s.sourceDeviceId)) =
        .ok [(3, "serial"), (2, "tcp")] ∧
    (ControllerDataRepository.registerHistory plainEnv "ctrl" "battery_voltage" 2 {} "desc"
      movedTelemetry movedController).map
        (fun r => r.2.map fun p => (p.sourceDeviceId, p.row.value)) =
          .ok [("serial", .number 13), ("tcp", .number 14)] ∧
    (∃ rows : List AggregateRow,
      rows.Perm (mergedBuckets movedClock 3600 ["serial", "tcp"] merged) ∧
      ControllerDataRepository.multiRegisterHistory plainEnv movedClock (Plan.scan _) "ctrl" [] {}
        "desc" (some 3600) 2 movedTelemetry movedController =
          .ok (movedController, movedScope, rows.map HistoryItem.bucket)) ∧
    (mergedBuckets movedClock 3600 ["serial", "tcp"] merged).map
        (fun b => (b.registerName, b.count, b.avgValue, b.lastValue, b.transitions)) =
      [("battery_voltage", 3, some 13, .number 13, none),
        ("charge_state", 2, none, .text "FLOAT", some 1)] ∧
    (ControllerDataRepository.registerStats plainEnv movedClock "ctrl" [] {} movedTelemetry
      movedController).map (fun r => r.2.2.map fun s => (s.registerName, s.count, s.avg)) =
        .ok [("battery_voltage", 3, some 13), ("charge_state", 2, none)] := by
  intro merged
  have hscope : ControllerDataRepository.scope plainEnv "ctrl" movedController =
      .ok (movedController, movedScope) := by decide
  obtain ⟨hsamples, hhistory, ⟨rows, hrows, -, hbuckets⟩, hstats⟩ :=
    controller_history_merges movedClock [] {} movedTelemetry hscope (Plan.scan _)
      "battery_voltage" "desc" 2 3600 2
  have hmerged : (mergedBuckets movedClock 3600 ["serial", "tcp"] merged).map
      (fun b => (b.registerName, b.count, b.avgValue, b.lastValue, b.transitions)) =
        [("battery_voltage", 3, some 13, .number 13, none),
          ("charge_state", 2, none, .text "FLOAT", some 1)] := by decide +kernel
  have hlength : rows.length = 2 := by
    have hcount := congrArg List.length hmerged
    rw [List.length_map] at hcount
    exact hrows.length_eq.trans hcount
  refine ⟨?_, ?_, ⟨rows, hrows, ?_⟩, hmerged, ?_⟩
  · rw [hsamples]
    decide +kernel
  · rw [hhistory]
    decide +kernel
  · rw [hbuckets, checkPoints, List.length_map, hlength]
    rfl
  · rw [hstats]
    decide +kernel

end MorningstarModbus
