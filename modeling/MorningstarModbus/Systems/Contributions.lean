import MorningstarModbus.History.Merge
import MorningstarModbus.Systems.Data

/-!
# MorningstarModbus.Systems.Contributions

What a bucket of a system metric should be made of, and when it is: the folding
loop keeps one row for a controller and an alias, so of several member devices
in a bucket one speaks for all.

* `contributions` — each controller's mean over all devices in its history, of
  the alias of highest priority that has an observation;
* `Faithful` — points made of these;
* `DevicesAgree` — the devices that may speak for a controller agree with it;
* `bucketed_history_faithful_iff` — the points are faithful, whichever way
  SQLite breaks ties, exactly then.
-/

namespace MorningstarModbus

open Query Table

namespace SystemDataRepository

/-! ## the contributions of a bucket -/

/-- The devices in a controller's history. -/
def inHistory (scopes : List (String × List String)) (uid : String) (deviceId : String) : Bool :=
  scopes.any fun s => s.1 = uid ∧ deviceId ∈ s.2

/-- The devices that are counted for a controller. -/
def countedFor (scopes : List (String × List String)) (uid : String) (deviceId : String) : Bool :=
  deviceToController scopes deviceId = some uid

section Spec

variable (sqlite : Sqlite) (seconds : Int) (range : TimeRange) (db : TelemetryDb)

/-- The numeric observations of a register in a bucket, by the devices in scope. -/
def observations (inScope : String → Bool) (bucket : Int) (name : String) : List (Cell ℚ) :=
  (cells RegisterValue.numericValue (db.history inScope [name] range)).filter fun c =>
    bucketEpoch sqlite seconds c.observedAt = some bucket

/-- The first alias with an observation. -/
def topAlias (aliases : List String) (inScope : String → Bool) (bucket : Int) : Option String :=
  aliases.find? fun name => observations sqlite seconds range db inScope bucket name ≠ []

/-- A controller's contribution to a bucket. -/
def contribution (aliases : List String) (inScope : String → Bool) (bucket : Int) : Option ℚ :=
  (topAlias sqlite seconds range db aliases inScope bucket).map fun name =>
    average (observations sqlite seconds range db inScope bucket name)

/-- The contributions to a bucket, one of each contributing controller. -/
def contributions (aliases : List String) (scopes : List (String × List String)) (bucket : Int) :
    List (String × ℚ) :=
  (distinct (scopes.map Prod.fst)).filterMap fun uid =>
    (contribution sqlite seconds range db aliases (inHistory scopes uid) bucket).map fun value =>
      (uid, value)

end Spec

/-- The aggregation of a bucket's contributions, which are of one time. -/
def combine (aggregation : NumericAggregation) (values : List ℚ) : Option ℚ :=
  if values.isEmpty then none
  else match aggregation with
    | .sum => some values.sum
    | .median => median values
    | .max => values.max?
    | .min => values.min?
    | .latest => values.head?

/-- Points with one contribution of each contributing controller, over all devices in
its history. -/
structure Faithful (sqlite : Sqlite) (seconds : Int) (range : TimeRange) (db : TelemetryDb)
    (aliases : List String) (aggregation : NumericAggregation)
    (scopes : List (String × List String)) (points : List MetricPoint) : Prop where
  ascending : points.Pairwise fun p q => p.bucketStart < q.bucketStart
  covers : ∀ bucket, (∃ p ∈ points, p.bucketStart = bucket) ↔
    contributions sqlite seconds range db aliases scopes bucket ≠ []
  sources : ∀ p ∈ points, (p.sources.map fun s => (s.controllerUid, s.value)).Perm
    (contributions sqlite seconds range db aliases scopes p.bucketStart)
  value : ∀ p ∈ points, p.value = combine aggregation
    ((contributions sqlite seconds range db aliases scopes p.bucketStart).map Prod.snd)

/-- Where a controller contributes, some device counted for it observes an alias, and of
the first such alias every one of these devices has the controller's mean. -/
def DevicesAgree (sqlite : Sqlite) (seconds : Int) (range : TimeRange) (db : TelemetryDb)
    (aliases : List String) (scopes : List (String × List String)) : Prop :=
  ∀ bucket uid value,
    contribution sqlite seconds range db aliases (inHistory scopes uid) bucket = some value →
      ∃ name, topAlias sqlite seconds range db aliases (countedFor scopes uid) bucket = some name ∧
        ∀ deviceId, countedFor scopes uid deviceId = true →
          observations sqlite seconds range db (· == deviceId) bucket name ≠ [] →
            average (observations sqlite seconds range db (· == deviceId) bucket name) = value

/-! ## the mapping -/

/-- A device counts for the controller it is mapped to. -/
theorem countedFor_iff {scopes : List (String × List String)} {uid deviceId : String} :
    countedFor scopes uid deviceId = true ↔ deviceToController scopes deviceId = some uid := by
  rw [countedFor, decide_eq_true_eq]

/-- After the inner loop its devices are mapped to the controller. -/
theorem foldl_set_apply (uid : String) (ids : List String) (mapping : Dict String String)
    (deviceId : String) :
    (ids.foldl (fun mapping deviceId => mapping.set deviceId uid) mapping) deviceId =
      if deviceId ∈ ids then some uid else mapping deviceId := by
  induction ids generalizing mapping with
  | nil => simp
  | cons id ids ih =>
      rw [List.foldl_cons, ih]
      by_cases hmem : deviceId ∈ ids
      · simp [hmem]
      · by_cases hid : deviceId = id
        · simp [hid]
        · simp [hmem, hid]

/-- A device is counted for a controller that has it in its history, if any does. -/
theorem deviceToController_spec (scopes : List (String × List String)) (deviceId : String) :
    (∀ uid, countedFor scopes uid deviceId = true → inHistory scopes uid deviceId = true) ∧
      ((deviceToController scopes deviceId).isSome = true ↔
        ∃ uid, inHistory scopes uid deviceId = true) := by
  have hfold : ∀ mapping : Dict String String,
      scopes.foldl (fun mapping s => s.2.foldl
        (fun mapping deviceId => mapping.set deviceId s.1) mapping) mapping deviceId =
          ((scopes.reverse.find? fun s => deviceId ∈ s.2).map Prod.fst).or (mapping deviceId) := by
    induction scopes with
    | nil => simp
    | cons s scopes ih =>
        intro mapping
        rw [List.foldl_cons, ih, foldl_set_apply, List.reverse_cons, List.find?_append]
        by_cases hs : deviceId ∈ s.2
        · cases scopes.reverse.find? fun s => deviceId ∈ s.2 <;> simp [hs]
        · cases scopes.reverse.find? fun s => deviceId ∈ s.2 <;> simp [hs]
  have hspec : deviceToController scopes deviceId =
      (scopes.reverse.find? fun s => deviceId ∈ s.2).map Prod.fst := by
    rw [deviceToController, hfold, Dict.empty_apply, Option.or_none]
  constructor
  · intro uid huid
    rw [countedFor, hspec, decide_eq_true_eq, Option.map_eq_some_iff] at huid
    obtain ⟨s, hs, rfl⟩ := huid
    have hmem := List.mem_reverse.mp (List.mem_of_find?_eq_some hs)
    have hdevice := List.find?_some hs
    simp only [inHistory, List.any_eq_true, decide_eq_true_eq]
    exact ⟨s, hmem, rfl, of_decide_eq_true hdevice⟩
  · rw [hspec, Option.isSome_map, List.find?_isSome]
    simp [inHistory]

/-! ## observations -/

section Observations

variable {sqlite : Sqlite} {seconds : Int} {range : TimeRange} {db : TelemetryDb}
  {inScope : String → Bool} {bucket : Int} {name : String} {aliases : List String}
  {scopes : List (String × List String)}

/-- Filtering rows is filtering cells. -/
theorem cells_filter {V : Type} (column : RegisterValue → Option V) (rows : List Joined)
    (p : Joined → Bool) :
    cells column (rows.filter p) = (cells column rows).filter fun c => p c.joined := by
  induction rows with
  | nil => rfl
  | cons j rows ih =>
      have hcons : ∀ rest, cells column (j :: rest) =
          ((column j.value).map fun value => ({ joined := j, value } : Cell V)).toList ++
            cells column rest := by
        intro rest
        cases hj : column j.value <;> simp [cells, hj]
      by_cases hp : p j = true
      · rw [List.filter_cons_of_pos hp, hcons, hcons, List.filter_append, ih]
        cases column j.value <;> simp [hp]
      · rw [List.filter_cons_of_neg hp, hcons, List.filter_append, ih]
        cases column j.value <;> simp [hp]

/-- What is observed of a register in a bucket. -/
theorem mem_observations {c : Cell ℚ} :
    c ∈ observations sqlite seconds range db inScope bucket name ↔
      c ∈ cells RegisterValue.numericValue db.joined ∧ inScope c.deviceId = true ∧
        range.contains c.observedAt = true ∧ c.registerName = name ∧
          bucketEpoch sqlite seconds c.observedAt = some bucket := by
  rw [observations, List.mem_filter, decide_eq_true_eq, TelemetryDb.history, cells_filter,
    List.mem_filter]
  simp only [historyFilter, sampleFilter, Bool.and_eq_true, List.isEmpty_cons, Bool.false_or,
    List.mem_singleton, decide_eq_true_eq, Cell.deviceId, Cell.observedAt, Cell.registerName]
  tauto

/-- Who observes, by device. -/
theorem observations_ne_nil :
    observations sqlite seconds range db inScope bucket name ≠ [] ↔
      ∃ deviceId, inScope deviceId = true ∧
        observations sqlite seconds range db (· == deviceId) bucket name ≠ [] := by
  constructor
  · intro h
    obtain ⟨c, hc⟩ := List.exists_mem_of_ne_nil _ h
    obtain ⟨hcell, hs, hrest⟩ := mem_observations.mp hc
    exact ⟨c.deviceId, hs, List.ne_nil_of_mem (mem_observations.mpr ⟨hcell, by simp, hrest⟩)⟩
  · intro ⟨deviceId, hs, h⟩
    obtain ⟨c, hc⟩ := List.exists_mem_of_ne_nil _ h
    obtain ⟨hcell, hd, hrest⟩ := mem_observations.mp hc
    rw [beq_iff_eq] at hd
    exact List.ne_nil_of_mem (mem_observations.mpr ⟨hcell, hd ▸ hs, hrest⟩)

/-- The first that passes a test has the least index. -/
theorem find?_eq_some_iff_idxOf {names : List String} {p : String → Bool} {name : String} :
    names.find? p = some name ↔
      name ∈ names ∧ p name = true ∧
        ∀ other ∈ names, p other = true → names.idxOf name ≤ names.idxOf other := by
  induction names with
  | nil => simp
  | cons n names ih =>
      by_cases hn : p n = true
      · rw [List.find?_cons_of_pos hn, Option.some.injEq]
        constructor
        · rintro rfl
          exact ⟨List.mem_cons_self, hn, by simp⟩
        · rintro ⟨-, -, hmin⟩
          have hzero := hmin n List.mem_cons_self hn
          rw [List.idxOf_cons_self, Nat.le_zero] at hzero
          by_contra hne
          rw [List.idxOf_cons_ne _ hne] at hzero
          omega
      · rw [List.find?_cons_of_neg hn, ih]
        have hne : ∀ {other}, p other = true → n ≠ other := fun ho heq => hn (heq ▸ ho)
        constructor
        · rintro ⟨hmem, hp, hmin⟩
          refine ⟨List.mem_cons_of_mem n hmem, hp, ?_⟩
          intro other hother ho
          rw [List.idxOf_cons_ne _ (hne hp), List.idxOf_cons_ne _ (hne ho)]
          exact Nat.succ_le_succ (hmin other (List.mem_of_ne_of_mem (hne ho).symm hother) ho)
        · rintro ⟨hmem, hp, hmin⟩
          refine ⟨List.mem_of_ne_of_mem (hne hp).symm hmem, hp, ?_⟩
          intro other hother ho
          have hle := hmin other (List.mem_cons_of_mem n hother) ho
          rw [List.idxOf_cons_ne _ (hne hp), List.idxOf_cons_ne _ (hne ho)] at hle
          omega

/-- The top alias is the first that was observed at all. -/
theorem topAlias_eq_some_iff :
    topAlias sqlite seconds range db aliases inScope bucket = some name ↔
      name ∈ aliases ∧ observations sqlite seconds range db inScope bucket name ≠ [] ∧
        ∀ other ∈ aliases, observations sqlite seconds range db inScope bucket other ≠ [] →
          aliases.idxOf name ≤ aliases.idxOf other := by
  rw [topAlias, find?_eq_some_iff_idxOf]
  simp only [decide_eq_true_eq]

/-- A controller contributes where its history has an observation of an alias. -/
theorem contribution_isSome_iff :
    (contribution sqlite seconds range db aliases inScope bucket).isSome = true ↔
      ∃ name ∈ aliases, observations sqlite seconds range db inScope bucket name ≠ [] := by
  rw [contribution, Option.isSome_map, topAlias, List.find?_isSome]
  simp

/-- A contribution is that of one controller. -/
theorem mem_contributions {c : String × ℚ} :
    c ∈ contributions sqlite seconds range db aliases scopes bucket ↔
      contribution sqlite seconds range db aliases (inHistory scopes c.1) bucket = some c.2 := by
  simp only [contributions, List.mem_filterMap, Option.map_eq_some_iff]
  constructor
  · rintro ⟨uid, -, value, hvalue, rfl⟩
    exact hvalue
  · intro hc
    refine ⟨c.1, ?_, c.2, hc, rfl⟩
    have hsome := contribution_isSome_iff.mp (Option.isSome_of_eq_some hc)
    obtain ⟨name, -, hname⟩ := hsome
    obtain ⟨deviceId, hdevice, -⟩ := observations_ne_nil.mp hname
    simp only [inHistory, List.any_eq_true, decide_eq_true_eq] at hdevice
    obtain ⟨s, hs, hs1, -⟩ := hdevice
    exact mem_distinct.mpr (hs1 ▸ List.mem_map_of_mem hs)

/-- A controller contributes once. -/
theorem contributions_keyed (sqlite : Sqlite) (seconds : Int) (range : TimeRange)
    (db : TelemetryDb) (aliases : List String) (scopes : List (String × List String))
    (bucket : Int) :
    Keyed Prod.fst (contributions sqlite seconds range db aliases scopes bucket) := by
  have hmap : (contributions sqlite seconds range db aliases scopes bucket).map Prod.fst =
      (distinct (scopes.map Prod.fst)).filter fun uid =>
        (contribution sqlite seconds range db aliases (inHistory scopes uid) bucket).isSome := by
    rw [contributions, List.map_filterMap, ← List.filterMap_eq_filter]
    congr 1
    funext uid
    cases hc : contribution sqlite seconds range db aliases (inHistory scopes uid) bucket <;>
      simp [Option.guard, hc]
  unfold Keyed
  rw [hmap]
  exact (nodup_distinct _).filter _

end Observations

/-! ## rows -/

def MetricRow.key (r : MetricRow) : Option Int × String × String :=
  (r.bucketEpoch, r.deviceId, r.registerName)

section Rows

variable {sqlite : Sqlite} {seconds : Int} {range : TimeRange} {db : TelemetryDb}
  {spec : SystemMetricSpec} {mapping : Dict String String} {bucket : Int} {r : MetricRow}

/-- A row of the statement is a group of cells with their average. -/
theorem mem_metricRows {cs : List (Cell ℚ)} (h : r ∈ metricRows sqlite seconds cs) :
    cs.filter (fun c => metricKey sqlite seconds c = MetricRow.key r) ≠ [] ∧
      r.avgValue = average (cs.filter fun c => metricKey sqlite seconds c = MetricRow.key r) := by
  obtain ⟨g, hg, rfl⟩ := List.mem_map.mp h
  obtain ⟨hrows, hne⟩ := mem_groups hg
  rw [hrows] at hne
  exact ⟨hne, by rw [hrows]; rfl⟩

/-- Every cell is in one. -/
theorem exists_metricRow {cs : List (Cell ℚ)} {c : Cell ℚ} (h : c ∈ cs) :
    ∃ r ∈ metricRows sqlite seconds cs, MetricRow.key r = metricKey sqlite seconds c := by
  have hkey : metricKey sqlite seconds c ∈ distinct (cs.map (metricKey sqlite seconds)) :=
    mem_distinct.mpr (List.mem_map_of_mem h)
  exact ⟨_, List.mem_map_of_mem (List.mem_map_of_mem hkey), rfl⟩

/-- The cells are those of mapped devices and of the aliases. -/
theorem mem_metricCells (hne : spec.registers ≠ []) {c : Cell ℚ} :
    c ∈ metricCells spec mapping range db ↔
      c ∈ cells RegisterValue.numericValue db.joined ∧ (mapping c.deviceId).isSome = true ∧
        range.contains c.observedAt = true ∧ c.registerName ∈ spec.registers := by
  have hempty : spec.registers.isEmpty = false := by simpa using hne
  rw [metricCells, TelemetryDb.history, cells_filter, List.mem_filter]
  simp only [historyFilter, sampleFilter, Bool.and_eq_true, hempty, Bool.false_or,
    decide_eq_true_eq, Cell.deviceId, Cell.observedAt, Cell.registerName]
  tauto

/-- The cells of a row are one device's observations of a register in a bucket. -/
theorem metricCells_filter {deviceId name : String} (hdevice : (mapping deviceId).isSome = true)
    (hname : name ∈ spec.registers) :
    (metricCells spec mapping range db).filter
        (fun c => metricKey sqlite seconds c = (some bucket, deviceId, name)) =
      observations sqlite seconds range db (· == deviceId) bucket name := by
  rw [metricCells, observations, TelemetryDb.history, TelemetryDb.history, cells_filter,
    cells_filter, List.filter_filter, List.filter_filter]
  refine List.filter_congr fun c _ => ?_
  rw [Bool.eq_iff_iff]
  simp only [Bool.and_eq_true, decide_eq_true_eq, metricKey, Prod.mk.injEq, historyFilter,
    sampleFilter, beq_iff_eq, List.isEmpty_cons, Bool.false_or, List.mem_singleton,
    Bool.or_eq_true]
  constructor
  · rintro ⟨⟨hbucket, hd, hn⟩, ⟨-, hrange⟩, -⟩
    exact ⟨hbucket, ⟨hd, hrange⟩, hn⟩
  · rintro ⟨hbucket, ⟨hd, hrange⟩, hn⟩
    have hn' : c.registerName = name := hn
    exact ⟨⟨hbucket, hd, hn⟩, ⟨by rw [hd]; exact hdevice, hrange⟩, .inr (by rwa [hn])⟩

/-- What a row says. -/
theorem row_observed (hne : spec.registers ≠ [])
    (h : r ∈ metricRows sqlite seconds (metricCells spec mapping range db)) :
    (mapping r.deviceId).isSome = true ∧ r.registerName ∈ spec.registers ∧
      ∀ bucket, r.bucketEpoch = some bucket →
        observations sqlite seconds range db (· == r.deviceId) bucket r.registerName ≠ [] ∧
          r.avgValue = average
            (observations sqlite seconds range db (· == r.deviceId) bucket r.registerName) := by
  obtain ⟨hcells, havg⟩ := mem_metricRows h
  obtain ⟨c, hc⟩ := List.exists_mem_of_ne_nil _ hcells
  rw [List.mem_filter, decide_eq_true_eq, mem_metricCells hne] at hc
  obtain ⟨⟨-, hdevice, -, hname⟩, hkey⟩ := hc
  simp only [metricKey, MetricRow.key, Prod.mk.injEq] at hkey
  have hdevice' : (mapping r.deviceId).isSome = true := hkey.2.1 ▸ hdevice
  have hname' : r.registerName ∈ spec.registers := hkey.2.2 ▸ hname
  refine ⟨hdevice', hname', ?_⟩
  intro bucket hbucket
  rw [MetricRow.key, hbucket, metricCells_filter hdevice' hname'] at hcells havg
  exact ⟨hcells, havg⟩

/-- Every observing device has its row. -/
theorem row_of_observations {deviceId name : String}
    (hdevice : (mapping deviceId).isSome = true) (hname : name ∈ spec.registers)
    (h : observations sqlite seconds range db (· == deviceId) bucket name ≠ []) :
    ∃ r ∈ metricRows sqlite seconds (metricCells spec mapping range db),
      MetricRow.key r = (some bucket, deviceId, name) := by
  obtain ⟨c, hc⟩ := List.exists_mem_of_ne_nil _ h
  rw [← metricCells_filter hdevice hname, List.mem_filter, decide_eq_true_eq] at hc
  obtain ⟨r, hr, hkey⟩ := exists_metricRow hc.1
  exact ⟨r, hr, hkey.trans hc.2⟩

end Rows

/-! ## the folding loop -/

section Folding

variable {mapping : Dict String String} {unit : Option String} {rows : List MetricRow}

/-- The item of a row whose device is mapped and whose bucket is known. -/
def rowItem (mapping : Dict String String) (unit : Option String) (r : MetricRow) : SourceItem where
  controllerUid := (mapping r.deviceId).getD ""
  sourceDeviceId := r.deviceId
  observedAt := r.bucketEpoch.getD 0
  registerName := r.registerName
  value := r.avgValue
  unit := r.unitOr unit

/-- `buckets` after the loop. -/
def bucketItems (items : List SourceItem) : List SourceItem :=
  items.foldl (fun buckets item => insertOrIgnore (fun i => i.slot = item.slot) item buckets) []

/-- The loop returns where all times can be read. -/
theorem foldRow_ok (hmapped : ∀ r ∈ rows, (mapping r.deviceId).isSome = true)
    (hbucket : ∀ r ∈ rows, r.bucketEpoch.isSome = true) :
    rows.foldlM (foldRow mapping unit) [] = .ok (bucketItems (rows.map (rowItem mapping unit))) := by
  have hstep : ∀ r ∈ rows, ∀ buckets, foldRow mapping unit buckets r =
      .ok (insertOrIgnore (fun i => i.slot = (rowItem mapping unit r).slot)
        (rowItem mapping unit r) buckets) := by
    intro r hr buckets
    obtain ⟨uid, huid⟩ := Option.isSome_iff_exists.mp (hmapped r hr)
    obtain ⟨epoch, hepoch⟩ := Option.isSome_iff_exists.mp (hbucket r hr)
    simp only [foldRow, huid, hepoch, rowItem, Option.getD_some]
  clear hmapped hbucket
  unfold bucketItems
  obtain ⟨start, hstart⟩ : ∃ start : List SourceItem, start = [] := ⟨_, rfl⟩
  rw [← hstart]
  clear hstart
  induction rows generalizing start with
  | nil => rfl
  | cons r rows ih =>
      rw [List.foldlM_cons, hstep r List.mem_cons_self, Loop.ok_bind,
        ih fun s hs => hstep s (List.mem_cons_of_mem r hs)]
      rfl

/-- And only there. -/
theorem foldRow_bucket_isSome (hmapped : ∀ r ∈ rows, (mapping r.deviceId).isSome = true)
    {start buckets : List SourceItem} (h : rows.foldlM (foldRow mapping unit) start = .ok buckets) :
    ∀ r ∈ rows, r.bucketEpoch.isSome = true := by
  induction rows generalizing start with
  | nil => simp
  | cons r rows ih =>
      rw [List.foldlM_cons, Loop.bind_eq_ok] at h
      obtain ⟨next, hnext, hrest⟩ := h
      obtain ⟨uid, huid⟩ := Option.isSome_iff_exists.mp (hmapped r List.mem_cons_self)
      have hr : r.bucketEpoch.isSome = true := by
        cases hepoch : r.bucketEpoch with
        | none => simp [foldRow, huid, hepoch] at hnext
        | some epoch => rfl
      intro s hs
      cases List.mem_cons.mp hs with
      | inl heq => exact heq ▸ hr
      | inr hmem => exact ih (fun s hs => hmapped s (List.mem_cons_of_mem r hs)) hrest s hmem

/-- For each slot the loop keeps one item. -/
theorem bucketItems_keyed (items : List SourceItem) :
    Keyed SourceItem.slot (bucketItems items) :=
  (keyed_nil _).foldl_insertOrIgnore items

/-- The loop keeps the first item of a slot. -/
theorem lookup_bucketItems (items : List SourceItem) (slot : Int × String × String) :
    lookup SourceItem.slot slot (bucketItems items) = lookup SourceItem.slot slot items := by
  rw [bucketItems, lookup_foldl_insertOrIgnore]
  rfl

/-- It is one of the rows. -/
theorem mem_of_mem_bucketItems {items : List SourceItem} {i : SourceItem}
    (h : i ∈ bucketItems items) : i ∈ items := by
  rw [mem_iff_lookup (bucketItems_keyed items), lookup_bucketItems] at h
  exact (mem_of_lookup h).1

/-- No slot that has rows is left out. -/
theorem exists_mem_bucketItems {items : List SourceItem} {i : SourceItem} (h : i ∈ items) :
    ∃ j ∈ bucketItems items, j.slot = i.slot := by
  obtain ⟨j, hj⟩ := exists_lookup_of_mem SourceItem.slot h
  rw [← lookup_bucketItems] at hj
  exact ⟨j, mem_of_lookup hj⟩

/-- What `chooseAliases` has chosen of the items done. -/
structure Chosen (aliases : List String) (items chosen : List SourceItem) : Prop where
  keyed : Keyed SourceItem.controllerUid chosen
  sub : ∀ s ∈ chosen, s ∈ items
  least : ∀ i ∈ items, ∃ s ∈ chosen, s.controllerUid = i.controllerUid ∧
    aliases.idxOf s.registerName ≤ aliases.idxOf i.registerName

/-- The choice keeps one item of each controller, of the least index. -/
theorem chosen_chooseAliases (aliases : List String) (items : List SourceItem) :
    Chosen aliases items (chooseAliases aliases items) := by
  refine Loop.foldl_invariant (Chosen aliases) items ⟨keyed_nil _, by simp, by simp⟩ ?_
  intro done item rest chosen _ h
  obtain ⟨better, hbetter⟩ : ∃ better : SourceItem → SourceItem → SourceItem, better =
      fun previous new => if aliases.idxOf new.registerName < aliases.idxOf previous.registerName
        then new else previous := ⟨_, rfl⟩
  have hor : ∀ previous new, better previous new = new ∨ better previous new = previous := by
    intro previous new
    rw [hbetter]
    dsimp only
    split
    · exact .inl rfl
    · exact .inr rfl
  have hle : ∀ previous new,
      aliases.idxOf (better previous new).registerName ≤ aliases.idxOf previous.registerName ∧
        aliases.idxOf (better previous new).registerName ≤ aliases.idxOf new.registerName := by
    intro previous new
    rw [hbetter]
    dsimp only
    split <;> omega
  have hkey : ∀ previous, previous.controllerUid = item.controllerUid →
      (better previous item).controllerUid = item.controllerUid := by
    intro previous hp
    obtain heq | heq := hor previous item
    · rw [heq]
    · rw [heq, hp]
  rw [← hbetter]
  constructor
  case keyed => exact h.keyed.upsert hkey
  case sub =>
    intro s hs
    rw [List.mem_append, List.mem_singleton]
    obtain ⟨rfl, -⟩ | ⟨old, hold, -, rfl⟩ | ⟨hold, -⟩ := mem_upsert hs
    · exact .inr rfl
    · obtain heq | heq := hor old item
      · exact .inr heq
      · rw [heq]
        exact .inl (h.sub old hold)
    · exact .inl (h.sub s hold)
  case least =>
    intro i hi
    rw [List.mem_append, List.mem_singleton] at hi
    obtain hi | rfl := hi
    · obtain ⟨s, hs, huid, hidx⟩ := h.least i hi
      by_cases hitem : s.controllerUid = item.controllerUid
      · refine ⟨better s item, ?_, (hkey s hitem).trans (hitem.symm.trans huid),
          (hle s item).1.trans hidx⟩
        rw [upsert_of_mem hs hitem, List.mem_map]
        exact ⟨s, hs, by rw [if_pos hitem]⟩
      · exact ⟨s, mem_upsert_of_ne hs hitem, huid, hidx⟩
    · obtain ⟨x, hx, huid, hcase⟩ := exists_mem_upsert chosen hkey
      refine ⟨x, hx, huid, ?_⟩
      obtain rfl | ⟨old, -, -, rfl⟩ := hcase
      · exact le_refl _
      · exact (hle old i).2

end Folding

/-! ## combining -/

/-- Numbers combine without regard to their order. -/
theorem combine_perm {aggregation : NumericAggregation} (hlatest : aggregation ≠ .latest)
    {xs ys : List ℚ} (h : xs.Perm ys) : combine aggregation xs = combine aggregation ys := by
  have hempty : xs.isEmpty = ys.isEmpty := by
    rw [Bool.eq_iff_iff, List.isEmpty_iff, List.isEmpty_iff, ← List.length_eq_zero_iff,
      ← List.length_eq_zero_iff, h.length_eq]
  cases aggregation with
  | sum => simp only [combine, hempty, h.sum_eq]
  | median => simp only [combine, hempty, median_perm h]
  | max => simp only [combine, hempty, max?_perm h]
  | min => simp only [combine, hempty, min?_perm h]
  | latest => exact absurd rfl hlatest

/-- Values are combined as their aggregation says. -/
theorem aggregateValue_eq {aggregation : NumericAggregation} (hlatest : aggregation ≠ .latest)
    (items : List SourceItem) :
    aggregateValue aggregation items = combine aggregation (items.map SourceItem.value) := by
  cases aggregation with
  | latest => exact absurd rfl hlatest
  | _ => rfl

/-! ## points -/

section Points

variable {sqlite : Sqlite} {seconds : Int} {range : TimeRange} {db : TelemetryDb}
  {spec : SystemMetricSpec} {scopes : List (String × List String)} {unit : Option String}
  {rows : List MetricRow} {bucket : Int} {uid : String}

/-- The items of rows, in any order, of the statement. -/
structure ItemsOf (sqlite : Sqlite) (seconds : Int) (range : TimeRange) (db : TelemetryDb)
    (spec : SystemMetricSpec) (scopes : List (String × List String)) (rows : List MetricRow) :
    Prop where
  nonempty : spec.registers ≠ []
  perm : rows.Perm
    (metricRows sqlite seconds (metricCells spec (deviceToController scopes) range db))
  known : ∀ r ∈ rows, r.bucketEpoch.isSome = true

def rowItems (scopes : List (String × List String)) (unit : Option String)
    (rows : List MetricRow) : List SourceItem :=
  rows.map (rowItem (deviceToController scopes) unit)

/-- The sources of a bucket. -/
def bucketSources (spec : SystemMetricSpec) (items : List SourceItem) (bucket : Int) :
    List SourceItem :=
  chooseAliases spec.registers ((bucketItems items).filter fun i => i.observedAt = bucket)

/-- An item stands for what was observed of its device. -/
theorem item_observed (h : ItemsOf sqlite seconds range db spec scopes rows) {i : SourceItem}
    (hi : i ∈ rowItems scopes unit rows) :
    countedFor scopes i.controllerUid i.sourceDeviceId = true ∧
      i.registerName ∈ spec.registers ∧
      observations sqlite seconds range db (· == i.sourceDeviceId) i.observedAt i.registerName ≠
        [] ∧
      i.value = average (observations sqlite seconds range db (· == i.sourceDeviceId)
        i.observedAt i.registerName) := by
  obtain ⟨r, hr, rfl⟩ := List.mem_map.mp hi
  obtain ⟨hdevice, hname, hobserved⟩ := row_observed h.nonempty (h.perm.mem_iff.mp hr)
  obtain ⟨epoch, hepoch⟩ := Option.isSome_iff_exists.mp (h.known r hr)
  obtain ⟨uid, huid⟩ := Option.isSome_iff_exists.mp hdevice
  obtain ⟨hne, havg⟩ := hobserved epoch hepoch
  simp only [rowItem, hepoch, huid, Option.getD_some, countedFor, decide_true, true_and]
  exact ⟨hname, hne, havg⟩

/-- What was observed of a device has an item. -/
theorem item_of_observations (h : ItemsOf sqlite seconds range db spec scopes rows)
    {deviceId name : String} (hdevice : countedFor scopes uid deviceId = true)
    (hname : name ∈ spec.registers)
    (hne : observations sqlite seconds range db (· == deviceId) bucket name ≠ []) :
    ∃ i ∈ rowItems scopes unit rows,
      i.slot = (bucket, uid, name) ∧ i.sourceDeviceId = deviceId := by
  have huid := countedFor_iff.mp hdevice
  have hsome : (deviceToController scopes deviceId).isSome = true := by rw [huid]; rfl
  obtain ⟨r, hr, hkey⟩ := row_of_observations hsome hname hne
  simp only [MetricRow.key, Prod.mk.injEq] at hkey
  refine ⟨_, List.mem_map_of_mem (h.perm.mem_iff.mpr hr), ?_, hkey.2.1⟩
  simp only [SourceItem.slot, rowItem, hkey, huid, Option.getD_some]

/-- A source speaks for its controller by the first alias that a device counted for it
observes. -/
theorem source_spec (h : ItemsOf sqlite seconds range db spec scopes rows) {s : SourceItem}
    (hs : s ∈ bucketSources spec (rowItems scopes unit rows) bucket) :
    s ∈ bucketItems (rowItems scopes unit rows) ∧
      s.observedAt = bucket ∧
      topAlias sqlite seconds range db spec.registers (countedFor scopes s.controllerUid) bucket =
        some s.registerName := by
  have hchosen := chosen_chooseAliases spec.registers ((bucketItems
    (rowItems scopes unit rows)).filter fun i => i.observedAt = bucket)
  have hmem := hchosen.sub s hs
  rw [List.mem_filter, decide_eq_true_eq] at hmem
  obtain ⟨hitem, rfl⟩ := hmem
  obtain ⟨hcounted, hname, hne, -⟩ := item_observed h (mem_of_mem_bucketItems hitem)
  refine ⟨hitem, rfl, topAlias_eq_some_iff.mpr ⟨hname, observations_ne_nil.mpr
    ⟨s.sourceDeviceId, hcounted, hne⟩, ?_⟩⟩
  intro other hother hobs
  obtain ⟨deviceId, hdevice, hobs⟩ := observations_ne_nil.mp hobs
  obtain ⟨i, hi, hslot, -⟩ := item_of_observations h hdevice hother hobs
  obtain ⟨j, hj, hjslot⟩ := exists_mem_bucketItems hi
  rw [hslot] at hjslot
  simp only [SourceItem.slot, Prod.mk.injEq] at hjslot
  obtain ⟨s', hs', huid, hidx⟩ := hchosen.least j
    (List.mem_filter.mpr ⟨hj, by simpa using hjslot.1⟩)
  have heq : s' = s := hchosen.keyed.eq hs' hs (huid.trans hjslot.2.1)
  rwa [heq, hjslot.2.2] at hidx

/-- A controller with a top alias has a source. -/
theorem exists_source (h : ItemsOf sqlite seconds range db spec scopes rows) {name : String}
    (htop : topAlias sqlite seconds range db spec.registers (countedFor scopes uid) bucket =
      some name) :
    ∃ s ∈ bucketSources spec (rowItems scopes unit rows) bucket,
      s.controllerUid = uid := by
  obtain ⟨hname, hne, -⟩ := topAlias_eq_some_iff.mp htop
  obtain ⟨deviceId, hdevice, hobs⟩ := observations_ne_nil.mp hne
  obtain ⟨i, hi, hslot, -⟩ := item_of_observations h hdevice hname hobs
  obtain ⟨j, hj, hjslot⟩ := exists_mem_bucketItems hi
  rw [hslot] at hjslot
  simp only [SourceItem.slot, Prod.mk.injEq] at hjslot
  obtain ⟨s, hs, huid, -⟩ := (chosen_chooseAliases spec.registers ((bucketItems
    (rowItems scopes unit rows)).filter fun i =>
      i.observedAt = bucket)).least j (List.mem_filter.mpr ⟨hj, by simpa using hjslot.1⟩)
  exact ⟨s, hs, huid.trans hjslot.2.1⟩

/-- And it has one only. -/
theorem sources_keyed (items : List SourceItem) :
    Keyed SourceItem.controllerUid (bucketSources spec items bucket) :=
  (chosen_chooseAliases _ _).keyed

/-- Devices in the counted scope are in the history. -/
theorem contribution_of_topAlias {aliases : List String} {name : String}
    (htop : topAlias sqlite seconds range db aliases (countedFor scopes uid) bucket = some name) :
    ∃ value, contribution sqlite seconds range db aliases (inHistory scopes uid) bucket =
      some value := by
  obtain ⟨hname, hne, -⟩ := topAlias_eq_some_iff.mp htop
  obtain ⟨deviceId, hdevice, hobs⟩ := observations_ne_nil.mp hne
  have hin := (deviceToController_spec scopes deviceId).1 uid hdevice
  exact Option.isSome_iff_exists.mp (contribution_isSome_iff.mpr
    ⟨name, hname, observations_ne_nil.mpr ⟨deviceId, hin, hobs⟩⟩)

/-- Where the devices agree, the sources of a bucket are its contributions. -/
theorem sources_perm (h : ItemsOf sqlite seconds range db spec scopes rows)
    (hagree : DevicesAgree sqlite seconds range db spec.registers scopes)
    (unit : Option String) (bucket : Int) :
    ((bucketSources spec (rowItems scopes unit rows) bucket).map
      fun s => (s.controllerUid, s.value)).Perm
        (contributions sqlite seconds range db spec.registers scopes bucket) := by
  obtain ⟨sources, hsources⟩ : ∃ sources, sources =
    bucketSources spec (rowItems scopes unit rows) bucket := ⟨_, rfl⟩
  have hvalue : ∀ s ∈ sources, contribution sqlite seconds range db spec.registers
      (inHistory scopes s.controllerUid) bucket = some s.value := by
    intro s hs
    rw [hsources] at hs
    obtain ⟨hitem, hbucket, htop⟩ := source_spec h hs
    obtain ⟨hcounted, -, hne, havg⟩ := item_observed h (mem_of_mem_bucketItems hitem)
    obtain ⟨value, hcontribution⟩ := contribution_of_topAlias htop
    obtain ⟨name, hname, heq⟩ := hagree bucket s.controllerUid value hcontribution
    obtain rfl : s.registerName = name := Option.some.inj (htop.symm.trans hname)
    rw [hbucket] at hne havg
    rw [hcontribution, havg, heq s.sourceDeviceId hcounted hne]
  have hnodup : (sources.map fun s => (s.controllerUid, s.value)).Nodup := by
    have hkeyed : (sources.map SourceItem.controllerUid).Nodup := hsources ▸ sources_keyed _
    refine List.Nodup.of_map Prod.fst ?_
    rwa [List.map_map]
  rw [← hsources, List.perm_ext_iff_of_nodup hnodup
    (contributions_keyed sqlite seconds range db spec.registers scopes bucket).of_map]
  intro c
  rw [mem_contributions, List.mem_map]
  constructor
  · rintro ⟨s, hs, rfl⟩
    exact hvalue s hs
  · intro hc
    obtain ⟨name, hname, -⟩ := hagree bucket c.1 c.2 hc
    obtain ⟨s, hs, huid⟩ := exists_source h hname
    rw [← hsources] at hs
    have hsame := hvalue s hs
    rw [huid, hc, Option.some.injEq] at hsame
    exact ⟨s, hs, by rw [huid, ← hsame]⟩

/-- A point is the aggregate of a bucket's sources. -/
theorem mem_bucketPoints {now : Nat} {aggregation : NumericAggregation} {expected : List String}
    {items : List SourceItem} {p : MetricPoint} :
    p ∈ bucketPoints now spec aggregation expected (bucketItems items) ↔
      ∃ i ∈ bucketItems items, p = aggregateObservations now spec aggregation i.observedAt
        (bucketSources spec items i.observedAt) expected := by
  have hsorted : ∀ bucket, bucket ∈ (distinct ((bucketItems items).map
      SourceItem.observedAt)).insertionSort (· ≤ ·) ↔
        ∃ i ∈ bucketItems items, i.observedAt = bucket := by
    intro bucket
    rw [List.mem_insertionSort, mem_distinct, List.mem_map]
  rw [bucketPoints, List.mem_map]
  constructor
  · intro ⟨bucket, hbucket, hp⟩
    obtain ⟨i, hi, rfl⟩ := (hsorted bucket).mp hbucket
    exact ⟨i, hi, hp.symm⟩
  · intro ⟨i, hi, hp⟩
    exact ⟨i.observedAt, (hsorted _).mpr ⟨i, hi, rfl⟩, hp.symm⟩

/-- There is a point where a controller contributes. -/
theorem points_cover (h : ItemsOf sqlite seconds range db spec scopes rows) {now : Nat}
    {aggregation : NumericAggregation} {expected : List String} :
    (∃ p ∈ bucketPoints now spec aggregation expected (bucketItems (rowItems scopes unit rows)),
      p.bucketStart = bucket) ↔
        contributions sqlite seconds range db spec.registers scopes bucket ≠ [] := by
  constructor
  · intro ⟨p, hp, hbucket⟩
    obtain ⟨i, hi, rfl⟩ := mem_bucketPoints.mp hp
    obtain ⟨hcounted, hname, hne, -⟩ := item_observed h (mem_of_mem_bucketItems hi)
    have hin := (deviceToController_spec scopes _).1 _ hcounted
    have hsome := contribution_isSome_iff.mpr
      ⟨i.registerName, hname, observations_ne_nil.mpr ⟨i.sourceDeviceId, hin, hne⟩⟩
    obtain ⟨value, hvalue⟩ := Option.isSome_iff_exists.mp hsome
    obtain rfl : i.observedAt = bucket := hbucket
    exact List.ne_nil_of_mem ((mem_contributions (c := (i.controllerUid, value))).mpr hvalue)
  · intro hne
    obtain ⟨c, hc⟩ := List.exists_mem_of_ne_nil _ hne
    obtain ⟨name, hname, hobs⟩ :=
      contribution_isSome_iff.mp (Option.isSome_of_eq_some (mem_contributions.mp hc))
    obtain ⟨deviceId, hin, hobs⟩ := observations_ne_nil.mp hobs
    obtain ⟨uid, huid⟩ := Option.isSome_iff_exists.mp
      ((deviceToController_spec scopes deviceId).2.mpr ⟨c.1, hin⟩)
    obtain ⟨i, hi, hslot, -⟩ := item_of_observations h (countedFor_iff.mpr huid) hname hobs
    obtain ⟨j, hj, hjslot⟩ := exists_mem_bucketItems hi
    rw [hslot] at hjslot
    simp only [SourceItem.slot, Prod.mk.injEq] at hjslot
    exact ⟨aggregateObservations now spec aggregation j.observedAt
      (bucketSources spec (rowItems scopes unit rows) j.observedAt) expected,
      mem_bucketPoints.mpr ⟨j, hj, rfl⟩, hjslot.1⟩

/-- Where the devices agree, the points are faithful. -/
theorem points_faithful (h : ItemsOf sqlite seconds range db spec scopes rows) (now : Nat)
    {aggregation : NumericAggregation} (hlatest : aggregation ≠ .latest) (expected : List String)
    (hagree : DevicesAgree sqlite seconds range db spec.registers scopes) :
    Faithful sqlite seconds range db spec.registers aggregation scopes
      (bucketPoints now spec aggregation expected (bucketItems (rowItems scopes unit rows))) := by
  constructor
  case ascending =>
    have hsorted := List.pairwise_insertionSort (· ≤ · : Int → Int → Prop)
      (distinct ((bucketItems (rowItems scopes unit rows)).map SourceItem.observedAt))
    have hnodup := (List.perm_insertionSort (· ≤ · : Int → Int → Prop) _).nodup_iff.mpr
      (nodup_distinct ((bucketItems (rowItems scopes unit rows)).map SourceItem.observedAt))
    refine List.pairwise_map.mpr ((hsorted.and hnodup).imp fun {a b} hab => ?_)
    exact lt_of_le_of_ne hab.1 hab.2
  case covers => exact fun bucket => points_cover h
  case sources =>
    intro p hp
    obtain ⟨i, hi, rfl⟩ := mem_bucketPoints.mp hp
    exact sources_perm h hagree unit i.observedAt
  case value =>
    intro p hp
    obtain ⟨i, hi, rfl⟩ := mem_bucketPoints.mp hp
    have hperm : ((bucketSources spec (rowItems scopes unit rows) i.observedAt).map
        SourceItem.value).Perm
          ((contributions sqlite seconds range db spec.registers scopes i.observedAt).map
            Prod.snd) := by
      have hmap := (sources_perm h hagree unit i.observedAt).map Prod.snd
      rwa [List.map_map] at hmap
    exact (aggregateValue_eq hlatest _).trans (combine_perm hlatest hperm)

end Points

/-! ## every plan -/

section Plans

variable {sqlite : Sqlite} {seconds : Int} {range : TimeRange} {db : TelemetryDb}
  {spec : SystemMetricSpec} {scopes : List (String × List String)} {now : Nat}
  {aggregation : NumericAggregation} {expected : List String} {maxBuckets : Int}

/-- The rows of the statement. -/
def statementRows (sqlite : Sqlite) (seconds : Int) (spec : SystemMetricSpec)
    (scopes : List (String × List String)) (range : TimeRange) (db : TelemetryDb) :
    List MetricRow :=
  metricRows sqlite seconds (metricCells spec (deviceToController scopes) range db)

/-- These in the order of a plan. -/
def plannedRows (sqlite : Sqlite) (plan : Plan MetricRow) (seconds : Int)
    (spec : SystemMetricSpec) (scopes : List (String × List String)) (range : TimeRange)
    (db : TelemetryDb) : List MetricRow :=
  orderBy MetricRow.bucketKey .asc
    (plan.rows (statementRows sqlite seconds spec scopes range db))

/-- A plan changes at most the order of the rows. -/
theorem plannedRows_perm (plan : Plan MetricRow) :
    (plannedRows sqlite plan seconds spec scopes range db).Perm
      (statementRows sqlite seconds spec scopes range db) :=
  (orderBy_perm _ _ _).trans (plan.perm _)

/-- When the query returns: not too many rows, and each with its bucket. -/
theorem metricPoints_ok_iff (hne : spec.registers ≠ []) (plan : Plan MetricRow)
    {points : List MetricPoint} :
    metricPoints sqlite plan now spec aggregation seconds (deviceToController scopes) expected range
        maxBuckets db = .ok points ↔
      ItemsOf sqlite seconds range db spec scopes
          (plannedRows sqlite plan seconds spec scopes range db) ∧
        (statementRows sqlite seconds spec scopes range db).length ≤ maxBuckets ∧
        points = bucketPoints now spec aggregation expected (bucketItems (rowItems scopes spec.unit
          (plannedRows sqlite plan seconds spec scopes range db))) := by
  have hperm : (plannedRows sqlite plan seconds spec scopes range db).Perm _ :=
    plannedRows_perm plan
  have hmapped : ∀ r ∈ plannedRows sqlite plan seconds spec scopes range db,
      (deviceToController scopes r.deviceId).isSome = true :=
    fun r hr => (row_observed hne (hperm.mem_iff.mp hr)).1
  rw [metricPoints, ← statementRows]
  by_cases hlen : (statementRows sqlite seconds spec scopes range db).length ≤ maxBuckets
  · have hlen' : (plannedRows sqlite plan seconds spec scopes range db).length ≤ maxBuckets := by
      rwa [hperm.length_eq]
    rw [← plannedRows, limitRows_of_le hlen', if_neg (not_lt.mpr hlen')]
    constructor
    · intro h
      rw [Loop.bind_eq_ok] at h
      obtain ⟨buckets, hfold, hpoints⟩ := h
      have hknown := foldRow_bucket_isSome hmapped hfold
      rw [foldRow_ok hmapped hknown, Except.ok.injEq] at hfold
      rw [Loop.pure_eq_ok, Except.ok.injEq] at hpoints
      exact ⟨⟨hne, hperm, hknown⟩, hlen, by rw [← hpoints, ← hfold]; rfl⟩
    · rintro ⟨hitems, -, rfl⟩
      rw [foldRow_ok hmapped hitems.known]
      rfl
  · have hlen' : ¬ (plannedRows sqlite plan seconds spec scopes range db).length ≤ maxBuckets := by
      rwa [hperm.length_eq]
    have hlimit := length_limitRows_le maxBuckets
      (plannedRows sqlite plan seconds spec scopes range db)
    rw [← plannedRows, if_pos (by rw [gt_iff_lt, ← not_le, hlimit]; exact hlen')]
    simp [hlen]

/-- When the query raises: too many rows, or one without its bucket. -/
theorem metricPoints_error_iff (hne : spec.registers ≠ []) (plan : Plan MetricRow) :
    (∃ e, metricPoints sqlite plan now spec aggregation seconds (deviceToController scopes) expected
        range maxBuckets db = .error e) ↔
      maxBuckets < (statementRows sqlite seconds spec scopes range db).length ∨
        ∃ r ∈ statementRows sqlite seconds spec scopes range db, r.bucketEpoch = none := by
  have hperm : (plannedRows sqlite plan seconds spec scopes range db).Perm _ :=
    plannedRows_perm plan
  constructor
  · intro h
    obtain ⟨e, herror⟩ := h
    by_contra hnot
    obtain ⟨hlen, hknown⟩ := not_or.mp hnot
    have hitems : ItemsOf sqlite seconds range db spec scopes
        (plannedRows sqlite plan seconds spec scopes range db) := by
      refine ⟨hne, hperm, fun r hr => Option.isSome_iff_ne_none.mpr fun hnone => ?_⟩
      exact hknown ⟨r, hperm.mem_iff.mp hr, hnone⟩
    rw [(metricPoints_ok_iff hne plan).mpr ⟨hitems, not_lt.mp hlen, rfl⟩] at herror
    cases herror
  · intro h
    cases hrun : metricPoints sqlite plan now spec aggregation seconds (deviceToController scopes)
        expected range maxBuckets db with
    | error e => exact ⟨e, rfl⟩
    | ok points =>
        obtain ⟨hitems, hlen, -⟩ := (metricPoints_ok_iff hne plan).mp hrun
        obtain hmore | ⟨r, hr, hnone⟩ := h
        · omega
        · have hsome := hitems.known r (hperm.mem_iff.mpr hr)
          rw [hnone] at hsome
          cases hsome

/-- Met first, a row is the one that is kept. -/
theorem rowItem_mem_of_first
    (hknown : ∀ r ∈ statementRows sqlite seconds spec scopes range db,
      r.bucketEpoch.isSome = true)
    {r : MetricRow}
    (hr : r ∈ statementRows sqlite seconds spec scopes range db) :
    rowItem (deviceToController scopes) spec.unit r ∈ bucketItems (rowItems scopes spec.unit
      (plannedRows sqlite (Plan.first r) seconds spec scopes range db)) := by
  have hbucket : ∀ r' ∈ (Plan.first r).rows (statementRows sqlite seconds spec scopes range db),
      ((fun i : SourceItem => decide (i.slot = (rowItem (deviceToController scopes) spec.unit r).slot)) ∘
        rowItem (deviceToController scopes) spec.unit) r' = true → r'.bucketKey = r.bucketKey := by
    intro r' hr' hslot
    have hmem := ((Plan.first r).perm _).mem_iff.mp hr'
    obtain ⟨epoch', hepoch'⟩ := Option.isSome_iff_exists.mp (hknown r' hmem)
    obtain ⟨epoch, hepoch⟩ := Option.isSome_iff_exists.mp (hknown r hr)
    simp only [Function.comp_apply, SourceItem.slot, rowItem, hepoch, hepoch', Option.getD_some,
      Prod.mk.injEq, decide_eq_true_eq] at hslot
    simp only [MetricRow.bucketKey, hepoch, hepoch', hslot.1]
  rw [mem_iff_lookup (bucketItems_keyed _), lookup_bucketItems, lookup, rowItems, List.find?_map,
    plannedRows, find?_orderBy hbucket]
  simp [Plan.first, if_pos hr]

/-- Points that are faithful whichever row comes first mean that the devices agree. -/
theorem devicesAgree_of_faithful (hne : spec.registers ≠ [])
    (hlen : (statementRows sqlite seconds spec scopes range db).length ≤ maxBuckets)
    (hknown : ∀ r ∈ statementRows sqlite seconds spec scopes range db,
      r.bucketEpoch.isSome = true)
    (h : ∀ plan points, metricPoints sqlite plan now spec aggregation seconds
      (deviceToController scopes) expected range maxBuckets db = .ok points →
        Faithful sqlite seconds range db spec.registers aggregation scopes points) :
    DevicesAgree sqlite seconds range db spec.registers scopes := by
  have hitems : ∀ plan : Plan MetricRow, ItemsOf sqlite seconds range db spec scopes
      (plannedRows sqlite plan seconds spec scopes range db) := fun plan =>
    ⟨hne, plannedRows_perm plan, fun r hr => hknown r ((plannedRows_perm plan).mem_iff.mp hr)⟩
  have hfaithful := fun plan =>
    h plan _ ((metricPoints_ok_iff hne plan).mpr ⟨hitems plan, hlen, rfl⟩)
  -- under any plan, what the sources of a bucket say of a controller is its contribution
  have hsource : ∀ plan : Plan MetricRow, ∀ s bucket, s ∈ bucketSources spec
      (rowItems scopes spec.unit (plannedRows sqlite plan seconds spec scopes range db)) bucket →
        contribution sqlite seconds range db spec.registers (inHistory scopes s.controllerUid)
          bucket = some s.value := by
    intro plan s bucket hs
    obtain ⟨hitem, rfl, -⟩ := source_spec (hitems plan) hs
    have hperm := (hfaithful plan).sources _ (mem_bucketPoints.mpr ⟨s, hitem, rfl⟩)
    have hmem : (s.controllerUid, s.value) ∈
        contributions sqlite seconds range db spec.registers scopes s.observedAt :=
      hperm.mem_iff.mp (List.mem_map_of_mem (f := fun s => (s.controllerUid, s.value)) hs)
    exact (mem_contributions (c := (s.controllerUid, s.value))).mp hmem
  intro bucket uid value hvalue
  have hcontributes : (uid, value) ∈
      contributions sqlite seconds range db spec.registers scopes bucket :=
    (mem_contributions (c := (uid, value))).mpr hvalue
  obtain ⟨p, hp, rfl⟩ := ((hfaithful (Plan.scan _)).covers bucket).mpr
    (List.ne_nil_of_mem hcontributes)
  have hperm := (hfaithful (Plan.scan _)).sources p hp
  obtain ⟨i, -, rfl⟩ := mem_bucketPoints.mp hp
  obtain ⟨s, hs, heq⟩ := List.mem_map.mp (hperm.mem_iff.mpr hcontributes)
  obtain rfl : s.controllerUid = uid := congrArg Prod.fst heq
  obtain ⟨-, -, htop⟩ := source_spec (hitems (Plan.scan _)) hs
  refine ⟨s.registerName, htop, ?_⟩
  intro deviceId hdevice hobs
  have hname := (topAlias_eq_some_iff.mp htop).1
  have hmapped : (deviceToController scopes deviceId).isSome = true := by
    rw [countedFor_iff.mp hdevice]
    rfl
  obtain ⟨r, hr, hkey⟩ := row_of_observations hmapped hname hobs
  simp only [MetricRow.key, Prod.mk.injEq] at hkey
  -- the plan that meets this device's row first
  have hfirst := rowItem_mem_of_first hknown hr
  obtain ⟨t, ht, huid⟩ : ∃ t ∈ bucketSources spec (rowItems scopes spec.unit
      (plannedRows sqlite (Plan.first r) seconds spec scopes range db)) _,
      t.controllerUid = s.controllerUid := exists_source (hitems (Plan.first r)) htop
  obtain ⟨htitem, htbucket, httop⟩ := source_spec (hitems (Plan.first r)) ht
  rw [huid, htop, Option.some.injEq] at httop
  have hslot : t.slot = (rowItem (deviceToController scopes) spec.unit r).slot := by
    simp only [SourceItem.slot, rowItem, hkey, countedFor_iff.mp hdevice, Option.getD_some,
      htbucket, huid, ← httop]
    rfl
  have heq' := (bucketItems_keyed _).eq htitem hfirst hslot
  have hval := hsource (Plan.first r) t _ ht
  rw [huid] at hval
  have hsame := hval.symm.trans hvalue
  rw [Option.some.injEq, heq'] at hsame
  obtain ⟨-, -, hobserved⟩ := row_observed hne hr
  have havg := (hobserved _ hkey.1).2
  rw [hkey.2.1, hkey.2.2] at havg
  exact havg.symm.trans hsame

end Plans

/-- Without devices nothing contributes. -/
theorem contributions_of_isEmpty {scopes : List (String × List String)}
    (h : (scopes.flatMap Prod.snd).isEmpty = true) (sqlite : Sqlite) (seconds : Int)
    (range : TimeRange) (db : TelemetryDb) (aliases : List String) (bucket : Int) :
    contributions sqlite seconds range db aliases scopes bucket = [] := by
  rw [List.eq_nil_iff_forall_not_mem]
  intro c hc
  obtain ⟨name, -, hobs⟩ :=
    contribution_isSome_iff.mp (Option.isSome_of_eq_some (mem_contributions.mp hc))
  obtain ⟨deviceId, hin, -⟩ := observations_ne_nil.mp hobs
  rw [List.isEmpty_iff, List.flatMap_eq_nil_iff] at h
  simp only [inHistory, List.any_eq_true, decide_eq_true_eq] at hin
  obtain ⟨s, hs, -, hmem⟩ := hin
  rw [h s hs] at hmem
  cases hmem

section History

variable {env : Env} {config : SystemConfig} {now : Nat}
  {identifier metricName resolution : String} {spec : SystemMetricSpec}
  {aggregation : NumericAggregation} {seconds : Int} {db synced : SystemDb} {found : ScopeMap}

/-- **The whole call**, once its metric, resolution and scope are known. -/
theorem bucketedMetricHistory_eq (hspec : metricSpec metricName = some spec)
    (hagg : spec.aggregation = .numeric aggregation)
    (hseconds : resolutionSeconds (env.lower (Text.strip resolution)) = some seconds)
    (hfound : scopeMap env config now identifier db = .ok (synced, found))
    (catalog : String → List String) (sqlite : Sqlite) (plan : Plan MetricRow)
    (range : TimeRange) (maxBuckets : Int) (telemetry : TelemetryDb) :
    bucketedMetricHistory env catalog sqlite plan config now identifier metricName range resolution
        maxBuckets telemetry db =
      if (found.scopes.flatMap Prod.snd).isEmpty then
        .ok (synced, { systemUid := found.systemUid, metric := spec, range := none,
                       resolution := env.lower (Text.strip resolution), points := [] })
      else (metricPoints sqlite plan now spec aggregation seconds (deviceToController found.scopes)
        (eligibleControllerUids catalog found.controllers spec) range maxBuckets telemetry).map
          fun points =>
            (synced, { systemUid := found.systemUid, metric := spec, range := some range,
                       resolution := env.lower (Text.strip resolution), points }) := by
  simp only [bucketedMetricHistory, hspec, hagg, hseconds, hfound, Loop.ok_bind]
  split
  · rfl
  · cases metricPoints sqlite plan now spec aggregation seconds
      (deviceToController found.scopes) (eligibleControllerUids catalog found.controllers spec)
      range maxBuckets telemetry <;> rfl

/-- The points of a metric are its controllers' means over all their devices, whichever
way SQLite breaks ties, exactly when the query is refused for its size or a time it
cannot read, or the devices agree. -/
theorem bucketed_history_faithful_iff (hspec : metricSpec metricName = some spec)
    (hagg : spec.aggregation = .numeric aggregation)
    (hseconds : resolutionSeconds (env.lower (Text.strip resolution)) = some seconds)
    (hfound : scopeMap env config now identifier db = .ok (synced, found))
    (catalog : String → List String) (sqlite : Sqlite) (range : TimeRange) (maxBuckets : Int)
    (telemetry : TelemetryDb) :
    (∀ plan synced' history, bucketedMetricHistory env catalog sqlite plan config now identifier
        metricName range resolution maxBuckets telemetry db = .ok (synced', history) →
          Faithful sqlite seconds range telemetry spec.registers aggregation found.scopes
            history.points) ↔
      (maxBuckets < (statementRows sqlite seconds spec found.scopes range telemetry).length ∨
        (∃ r ∈ statementRows sqlite seconds spec found.scopes range telemetry,
          r.bucketEpoch = none) ∨
        DevicesAgree sqlite seconds range telemetry spec.registers found.scopes) := by
  have hne := registers_ne_nil hspec
  have hlatest : aggregation ≠ .latest := by
    rintro rfl
    exact aggregation_ne_latest hspec hagg
  have hrun := fun plan =>
    bucketedMetricHistory_eq hspec hagg hseconds hfound catalog sqlite plan range maxBuckets
      telemetry
  by_cases hempty : (found.scopes.flatMap Prod.snd).isEmpty = true
  · have hnone := contributions_of_isEmpty hempty sqlite seconds range telemetry spec.registers
    constructor
    · intro _
      refine .inr (.inr fun bucket uid value hvalue => ?_)
      have hmem := (mem_contributions (c := (uid, value))).mpr hvalue
      rw [hnone] at hmem
      cases hmem
    · intro _ plan synced' history hhistory
      rw [hrun, if_pos hempty, Except.ok.injEq, Prod.mk.injEq] at hhistory
      rw [← hhistory.2]
      exact ⟨List.Pairwise.nil, by simp [hnone], by simp, by simp⟩
  · constructor
    · intro h
      have hpoints : ∀ plan points, metricPoints sqlite plan now spec aggregation seconds
          (deviceToController found.scopes) (eligibleControllerUids catalog found.controllers spec)
          range maxBuckets telemetry = .ok points →
            Faithful sqlite seconds range telemetry spec.registers aggregation found.scopes
              points := by
        intro plan points hok
        exact h plan synced _ (by rw [hrun, if_neg hempty, hok]; rfl)
      by_cases hlen : (statementRows sqlite seconds spec found.scopes range telemetry).length ≤
          maxBuckets
      · by_cases hknown : ∀ r ∈ statementRows sqlite seconds spec found.scopes range telemetry,
            r.bucketEpoch.isSome = true
        · exact .inr (.inr (devicesAgree_of_faithful hne hlen hknown hpoints))
        · refine .inr (.inl ?_)
          simpa using hknown
      · exact .inl (not_le.mp hlen)
    · intro h plan synced' history hhistory
      rw [hrun, if_neg hempty] at hhistory
      obtain ⟨points, hok, heq⟩ : ∃ points, metricPoints sqlite plan now spec aggregation seconds
          (deviceToController found.scopes) (eligibleControllerUids catalog found.controllers spec)
          range maxBuckets telemetry = .ok points ∧ history.points = points := by
        cases hp : metricPoints sqlite plan now spec aggregation seconds
          (deviceToController found.scopes) (eligibleControllerUids catalog found.controllers spec)
          range maxBuckets telemetry with
        | error e => simp [hp, Except.map] at hhistory
        | ok points =>
            simp only [hp, Except.map, Except.ok.injEq, Prod.mk.injEq] at hhistory
            exact ⟨points, rfl, by rw [← hhistory.2]⟩
      obtain ⟨hitems, hlen, rfl⟩ := (metricPoints_ok_iff hne plan).mp hok
      rw [heq]
      obtain hlarge | ⟨r, hr, hnone⟩ | hagree := h
      · omega
      · have hsome := hitems.known r (hitems.perm.mem_iff.mpr hr)
        rw [hnone] at hsome
        cases hsome
      · exact points_faithful hitems now hlatest _ hagree

end History

/-! ## a controller that changes its endpoint -/

/-- A controller polled over a serial line and then over TCP. -/
def movedRegistry : Db where
  devices :=
    [ { id := "tcp", stableKey := "tcp:10.0.0.1:502:1",
        endpoint := { transport := .tcp, target := "10.0.0.1", unitId := 1 }, identification := {},
        profile := "tristar_mppt", status := .online, firstSeen := 1, lastSeen := 4,
        lastError := none } ]
  identities :=
    [ { controllerId := "serial:1", canonicalDeviceId := "tcp", identitySource := .controllerSerial,
        identityValue := "1", profile := "tristar_mppt", family := "", model := "",
        serialNumber := "1", firstSeen := 1, lastSeen := 4 } ]
  members :=
    [ { deviceId := "rtu", controllerId := "serial:1", firstSeen := 1, lastSeen := 2 },
      { deviceId := "tcp", controllerId := "serial:1", firstSeen := 3, lastSeen := 4 } ]

/-- 10 W over the serial line at 12:05 and 20 W over TCP at 12:35. -/
def movedPower : TelemetryDb where
  samples :=
    [ { id := 1, deviceId := "rtu", observedAt := "2026-01-01T12:05:00+00:00", latencyMs := 5,
        profile := "tristar_mppt" },
      { id := 2, deviceId := "tcp", observedAt := "2026-01-01T12:35:00+00:00", latencyMs := 5,
        profile := "tristar_mppt" } ]
  values :=
    [ { sampleId := 1, registerName := "input_power", address := 1, function := "holding",
        rawJson := "10", numericValue := some 10, textValue := none, unit := some "W" },
      { sampleId := 2, registerName := "input_power", address := 1, function := "holding",
        rawJson := "20", numericValue := some 20, textValue := none, unit := some "W" } ]

/-- SQLite's date functions on these times. -/
def noonClock : Sqlite where
  epoch text :=
    if text = "2026-01-01T12:05:00+00:00" then some 1767269100
    else if text = "2026-01-01T12:35:00+00:00" then some 1767270900
    else none
  isoTime epoch := if epoch = 1767268800 then some "2026-01-01T12:00:00Z" else none

def solarInput : SystemMetricSpec where
  name := "solar_input_power_w"
  unit := some "W"
  aggregation := .numeric .sum
  registers := ["input_power", "array_power", "pv_power", "solar_power", "input_power_reported"]

theorem bucketed_history_faithful_iff_moved :
    ∃ synced found, scopeMap plainEnv {} 5 "default" { registry := movedRegistry } =
        .ok (synced, found) ∧ found.scopes = [("ctrl_", ["rtu", "tcp"])] ∧
      ((∀ plan synced' history, bucketedMetricHistory plainEnv (fun _ => []) noonClock plan {} 5
          "default" "solar_input_power_w" {} "1h" 20000 movedPower { registry := movedRegistry } =
            .ok (synced', history) →
              Faithful noonClock 3600 {} movedPower solarInput.registers .sum found.scopes
                history.points) ↔
        ((20000 : Int) < (statementRows noonClock 3600 solarInput found.scopes {} movedPower).length ∨
          (∃ r ∈ statementRows noonClock 3600 solarInput found.scopes {} movedPower,
            r.bucketEpoch = none) ∨
          DevicesAgree noonClock 3600 {} movedPower solarInput.registers found.scopes)) := by
  have hspec : metricSpec "solar_input_power_w" = some solarInput := by decide
  have hseconds : resolutionSeconds (plainEnv.lower (Text.strip "1h")) = some 3600 := by decide
  have hscopes : (scopeMap plainEnv {} 5 "default" { registry := movedRegistry }).map
      (fun r => r.2.scopes) = .ok [("ctrl_", ["rtu", "tcp"])] := by decide +kernel
  cases hrun : scopeMap plainEnv {} 5 "default" { registry := movedRegistry } with
  | error e =>
      rw [hrun] at hscopes
      cases hscopes
  | ok r =>
      rw [hrun] at hscopes
      exact ⟨r.1, r.2, rfl, Except.ok.inj hscopes,
        bucketed_history_faithful_iff hspec rfl hseconds hrun _ _ _ _ _⟩

/-- Of the two devices only one is in the bucket's value: 10 W, where the mean is 15 W. -/
theorem not_faithful_endpoint_moved :
    ¬ ∀ plan synced history, bucketedMetricHistory plainEnv (fun _ => []) noonClock plan {} 5
      "default" "solar_input_power_w" {} "1h" 20000 movedPower { registry := movedRegistry } =
        .ok (synced, history) →
          Faithful noonClock 3600 {} movedPower solarInput.registers .sum
            [("ctrl_", ["rtu", "tcp"])] history.points := by
  intro h
  have hpoints : (bucketedMetricHistory plainEnv (fun _ => []) noonClock (Plan.scan _) {} 5 "default"
      "solar_input_power_w" {} "1h" 20000 movedPower { registry := movedRegistry }).map
        (fun r => r.2.points.map fun p =>
          (p.bucketStart, p.sources.map fun s => (s.controllerUid, s.value))) =
            .ok [(1767268800, [("ctrl_", 10)])] := by decide +kernel
  have hmean : contributions noonClock 3600 {} movedPower solarInput.registers
      [("ctrl_", ["rtu", "tcp"])] 1767268800 = [("ctrl_", 15)] := by decide +kernel
  cases hrun : bucketedMetricHistory plainEnv (fun _ => []) noonClock (Plan.scan _) {} 5 "default"
      "solar_input_power_w" {} "1h" 20000 movedPower { registry := movedRegistry } with
  | error e =>
      rw [hrun] at hpoints
      cases hpoints
  | ok r =>
      rw [hrun] at hpoints
      have hmap : (r.2.points.map fun p =>
          (p.bucketStart, p.sources.map fun s => (s.controllerUid, s.value))) =
            [(1767268800, [("ctrl_", 10)])] := Except.ok.inj hpoints
      have hmem : (1767268800, [("ctrl_", (10 : ℚ))]) ∈ r.2.points.map fun p =>
          (p.bucketStart, p.sources.map fun s => (s.controllerUid, s.value)) := by
        rw [hmap]
        exact List.mem_singleton_self _
      obtain ⟨p, hp, hpair⟩ := List.mem_map.mp hmem
      have hperm := (h (Plan.scan _) r.1 r.2 hrun).sources p hp
      rw [(Prod.mk.inj hpair).1, (Prod.mk.inj hpair).2, hmean] at hperm
      exact absurd (List.perm_singleton.mp hperm) (by decide)

end SystemDataRepository

end MorningstarModbus
