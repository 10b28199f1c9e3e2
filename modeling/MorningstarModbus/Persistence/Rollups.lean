import Mathlib.Data.Finset.Sort
import MorningstarModbus.Persistence.Series

/-!
# MorningstarModbus.Persistence.Rollups

What `build_rollups` leaves in its table, against a reference aggregation of the
raw values.

* `Aggregates` — the reference row of a bucket, of numbers or of texts;
* `buildRollups_eq` — a call inserts the rows of both statements, or fails;
* `rollups_exact_iff` — a call gives the reference rows exactly when no register has
  numbers and texts in one bucket.
-/

namespace MorningstarModbus

open Query Table

/-! ## the reference -/

section Reference

variable {V : Type}

/-- A value lies in the bucket that starts at `start`. -/
def SeriesPoint.InBucket (bucketMs start : Nat) (p : SeriesPoint V) : Prop :=
  bucketMs ∣ start ∧ start ≤ p.observedAtMs ∧ p.observedAtMs < start + bucketMs

instance (bucketMs start : Nat) (p : SeriesPoint V) : Decidable (p.InBucket bucketMs start) := by
  unfold SeriesPoint.InBucket
  infer_instance

/-- The values of a device's register in a bucket. -/
def bucketPoints (pick : RegisterValue → Option V) (cutoffMs bucketMs : Nat) (device : String)
    (entry : String × Nat × String × String) (start : Nat) (db : StorageDb) :
    List (SeriesPoint V) :=
  (seriesOf pick cutoffMs device entry db).filter fun p => p.InBucket bucketMs start

/-- The values of the first and the last point in time. -/
structure Ends (ps : List (SeriesPoint V)) (first last : Option V) : Prop where
  first : ∃ p ∈ ps, first = some p.value ∧ ∀ q ∈ ps, p.time ≤ q.time
  last : ∃ p ∈ ps, last = some p.value ∧ ∀ q ∈ ps, q.time ≤ p.time

/-- The value differs from the one right before it in its series. -/
def SeriesPoint.IsTransition (series : List (SeriesPoint V)) (p : SeriesPoint V) : Prop :=
  ∃ q ∈ series, q.time < p.time ∧ (∀ u ∈ series, u.time < p.time → u.time ≤ q.time) ∧
    q.value ≠ p.value

instance [DecidableEq V] (series : List (SeriesPoint V)) (p : SeriesPoint V) :
    Decidable (p.IsTransition series) := by
  unfold SeriesPoint.IsTransition
  infer_instance

/-- A row that aggregates numbers. -/
structure AggregatesNumbers (ps : List (SeriesPoint ℚ)) (r : RollupRow) : Prop where
  nonempty : ps ≠ []
  sampleCount : r.sampleCount = ps.length
  minValue : ∃ m, r.minValue = some m ∧ IsLeast {x | ∃ p ∈ ps, p.value = x} m
  maxValue : ∃ m, r.maxValue = some m ∧ IsGreatest {x | ∃ p ∈ ps, p.value = x} m
  avgValue : ∃ a, r.avgValue = some a ∧ a * ps.length = (ps.map SeriesPoint.value).sum
  ends : Ends ps r.firstNumeric r.lastNumeric
  texts : r.firstText = none ∧ r.lastText = none ∧ r.transitions = 0

/-- A row that aggregates texts of a series. -/
structure AggregatesTexts (series ps : List (SeriesPoint String)) (r : RollupRow) : Prop where
  nonempty : ps ≠ []
  sampleCount : r.sampleCount = ps.length
  ends : Ends ps r.firstText r.lastText
  transitions : r.transitions = (ps.filter fun p => p.IsTransition series).length
  numbers : r.minValue = none ∧ r.maxValue = none ∧ r.avgValue = none ∧ r.firstNumeric = none ∧
    r.lastNumeric = none

/-- The reference row of a register's bucket and kind. -/
def Aggregates (cutoffMs bucketSeconds : Nat) (entry : String × Nat × String × String)
    (db : StorageDb) (r : RollupRow) : Prop :=
  match r.kind with
  | .numeric => AggregatesNumbers (bucketPoints RegisterValue.numericValue cutoffMs
      (bucketSeconds * 1000) r.deviceId entry r.bucketStartMs db) r
  | .text => AggregatesTexts (seriesOf RegisterValue.textValue cutoffMs r.deviceId entry db)
      (bucketPoints RegisterValue.textValue cutoffMs (bucketSeconds * 1000) r.deviceId entry
        r.bucketStartMs db) r

end Reference

/-! ## the buckets of a base table -/

section Buckets

variable {V : Type} {pick : RegisterValue → Option V} {cutoffMs bucketMs : Nat} {db : StorageDb}

/-- A point lies in the bucket that its time rounds down to. -/
theorem inBucket_iff (hpos : 0 < bucketMs) {start : Nat} {p : SeriesPoint V} :
    p.InBucket bucketMs start ↔ p.observedAtMs / bucketMs * bucketMs = start := by
  constructor
  · intro h
    obtain ⟨⟨k, hk⟩, hle, hlt⟩ := h
    rw [hk] at hle hlt
    have hdiv : p.observedAtMs / bucketMs = k := by
      refine Nat.div_eq_of_lt_le ?_ ?_
      · rwa [Nat.mul_comm]
      · rwa [Nat.succ_mul, Nat.mul_comm]
    rw [hdiv, hk, Nat.mul_comm]
  · intro h
    rw [← h]
    exact ⟨Nat.dvd_mul_left _ _, Nat.div_mul_le_self _ _, Nat.lt_div_mul_add hpos⟩

/-- The rows of a bucket in a base table are the values of a register in it. -/
theorem bucket_points (hdb : db.TablesKeyed) (hpos : 0 < bucketMs) {d : DictionaryRow}
    (hd : d ∈ db.dictionary) (device : String) (start : Nat) :
    (((observedRows pick cutoffMs db).filter fun o =>
      o.bucket bucketMs = (device, d.registerKey, start)).map Observed.point).Perm
        (bucketPoints pick cutoffMs bucketMs device d.entry start db) := by
  have hfilter : (observedRows pick cutoffMs db).filter
      (fun o => o.bucket bucketMs = (device, d.registerKey, start)) =
      ((observedRows pick cutoffMs db).filter fun o => o.series = (device, d.registerKey)).filter
        fun o => o.point.InBucket bucketMs start := by
    rw [List.filter_filter]
    refine List.filter_congr fun o _ => ?_
    rw [← Bool.decide_and, decide_eq_decide, inBucket_iff hpos]
    simp only [Observed.bucket, Observed.series, Observed.point, Prod.mk.injEq]
    tauto
  have hmap : (((observedRows pick cutoffMs db).filter fun o =>
      o.series = (device, d.registerKey)).filter fun o => o.point.InBucket bucketMs start).map
        Observed.point =
      (((observedRows pick cutoffMs db).filter fun o => o.series = (device, d.registerKey)).map
        Observed.point).filter fun p => p.InBucket bucketMs start := by
    rw [List.filter_map]
    rfl
  rw [hfilter, hmap]
  exact (base_series hdb hd).filter _

/-- A group of the statement has the points of one series in one bucket. -/
theorem group_points (hdb : db.TablesKeyed) (hpos : 0 < bucketMs)
    {g : (String × Nat × Nat) × List (Observed V)}
    (hg : g ∈ groups (Observed.bucket bucketMs) (observedRows pick cutoffMs db)) :
    g.1.2.2 < cutoffMs ∧ ∃ d ∈ db.dictionary, d.registerKey = g.1.2.1 ∧
      (g.2.map Observed.point).Perm
        (bucketPoints pick cutoffMs bucketMs g.1.1 d.entry g.1.2.2 db) := by
  obtain ⟨hrows, hne⟩ := mem_groups hg
  obtain ⟨o, ho⟩ := List.exists_mem_of_ne_nil _ hne
  obtain ⟨hmem, hkey⟩ := mem_of_mem_groups hg ho
  obtain ⟨hold, d, hd, hregister⟩ := mem_observedRows hmem
  have hstart : g.1.2.2 = o.observedAtMs / bucketMs * bucketMs := by rw [← hkey, Observed.bucket]
  have hname : d.registerKey = g.1.2.1 := by rw [hregister, ← hkey, Observed.bucket]
  refine ⟨?_, d, hd, hname, ?_⟩
  · rw [hstart]
    exact (Nat.div_mul_le_self _ _).trans_lt hold
  · rw [hrows]
    have hpoints := @bucket_points V pick cutoffMs bucketMs db hdb hpos d hd g.1.1 g.1.2.2
    rwa [hname] at hpoints

/-- Where a bucket of a series has points there is a group. -/
theorem exists_group (hdb : db.TablesKeyed) (hknown : db.Known) (hpos : 0 < bucketMs)
    {device : String} {entry : String × Nat × String × String} {start : Nat}
    (hne : bucketPoints pick cutoffMs bucketMs device entry start db ≠ []) :
    ∃ d ∈ db.dictionary, d.entry = entry ∧
      ∃ g ∈ groups (Observed.bucket bucketMs) (observedRows pick cutoffMs db),
        g.1 = (device, d.registerKey, start) := by
  obtain ⟨p, hp⟩ := List.exists_mem_of_ne_nil _ hne
  obtain ⟨s, -, v, hv, -, -, hentry, -⟩ := mem_seriesOf.mp (List.mem_filter.mp hp).1
  obtain ⟨d, hd, hd'⟩ := hknown v hv
  rw [hentry] at hd'
  rw [← hd', ← (bucket_points hdb hpos hd device start).mem_iff, List.mem_map] at hp
  obtain ⟨o, ho, -⟩ := hp
  rw [List.mem_filter, decide_eq_true_eq] at ho
  refine ⟨d, hd, hd', _, List.mem_map_of_mem (mem_distinct.mpr ?_), rfl⟩
  exact List.mem_map.mpr ⟨o, ho.1, ho.2⟩

end Buckets

/-! ## the rows of the statements -/

section Rows

variable {V : Type} {rows : List (Observed V)} {ps : List (SeriesPoint V)}

/-- `first_rank=1` and `last_rank=1` -/
theorem ends_of_perm (hperm : (rows.map Observed.point).Perm ps) (hne : ps ≠ []) :
    Ends ps ((rows.insertionSort Observed.before).head?.map Observed.value)
      ((rows.insertionSort Observed.before).getLast?.map Observed.value) := by
  obtain ⟨sorted, hsorted⟩ : ∃ sorted, sorted = orderBy SeriesPoint.time .asc
    (rows.map Observed.point) := ⟨_, rfl⟩
  have hvalue : ∀ o : Option (Observed V),
      o.map Observed.value = (o.map Observed.point).map SeriesPoint.value := by
    intro o
    cases o <;> rfl
  have hmem : ∀ p, p ∈ rows.map Observed.point ↔ p ∈ ps := fun p => hperm.mem_iff
  have hsome : sorted ≠ [] := by
    rw [hsorted, Ne, orderBy_eq_nil]
    intro hnil
    rw [hnil] at hperm
    exact hne hperm.symm.eq_nil
  rw [hvalue, hvalue, ← List.head?_map, ← List.getLast?_map, sorted_points, ← hsorted]
  constructor
  · cases hhead : sorted.head? with
    | none => exact absurd (List.head?_eq_none_iff.mp hhead) hsome
    | some p =>
        rw [hsorted] at hhead
        obtain ⟨hp, hle⟩ := head?_orderBy hhead
        exact ⟨p, (hmem p).mp hp, rfl, fun q hq => hle q ((hmem q).mpr hq)⟩
  · cases hlast : sorted.getLast? with
    | none => exact absurd (List.getLast?_eq_none_iff.mp hlast) hsome
    | some p =>
        rw [hsorted] at hlast
        obtain ⟨hp, hle⟩ := getLast?_orderBy hlast
        exact ⟨p, (hmem p).mp hp, rfl, fun q hq => hle q ((hmem q).mpr hq)⟩

/-- A rollup of numbers is computed from the points of its group. -/
theorem numericRollup_aggregates {rows : List (Observed ℚ)} {ps : List (SeriesPoint ℚ)}
    (hperm : (rows.map Observed.point).Perm ps) (hne : ps ≠ []) (bucketSeconds : Nat)
    (k : String × Nat × Nat) : AggregatesNumbers ps (numericRollup bucketSeconds (k, rows)) := by
  have hvalues : (rows.map Observed.value).Perm (ps.map SeriesPoint.value) := by
    have hmap := hperm.map SeriesPoint.value
    rwa [List.map_map] at hmap
  have hmem : ∀ x, x ∈ rows.map Observed.value ↔ ∃ p ∈ ps, p.value = x := by
    intro x
    rw [hvalues.mem_iff, List.mem_map]
  have hlength : rows.length = ps.length := by simpa using hperm.length_eq
  have hsome : rows.map Observed.value ≠ [] := by
    intro hnil
    rw [hnil] at hvalues
    exact hne (List.map_eq_nil_iff.mp hvalues.symm.eq_nil)
  constructor
  case nonempty => exact hne
  case sampleCount => exact hlength
  case minValue =>
    obtain ⟨m, hm⟩ := Option.isSome_iff_exists.mp (List.isSome_min?_of_ne_nil hsome)
    obtain ⟨hin, hle⟩ := List.min?_eq_some_iff.mp hm
    exact ⟨m, hm, (hmem m).mp hin, fun x hx => hle x ((hmem x).mpr hx)⟩
  case maxValue =>
    obtain ⟨m, hm⟩ := Option.isSome_iff_exists.mp (List.isSome_max?_of_ne_nil hsome)
    obtain ⟨hin, hle⟩ := List.max?_eq_some_iff.mp hm
    exact ⟨m, hm, (hmem m).mp hin, fun x hx => hle x ((hmem x).mpr hx)⟩
  case avgValue =>
    refine ⟨_, rfl, ?_⟩
    have hpos : (ps.length : ℚ) ≠ 0 := by
      rw [Nat.cast_ne_zero]
      exact List.length_pos_of_ne_nil hne |>.ne'
    show (rows.map Observed.value).sum / ((rows.map Observed.value).length : ℚ) * ps.length = _
    rw [List.length_map, hlength, div_mul_cancel₀ _ hpos, hvalues.sum_eq]
  case ends => exact ends_of_perm hperm hne
  case texts => exact ⟨rfl, rfl, rfl⟩

/-- `previous_text IS NOT NULL AND previous_text != text_value` -/
theorem previous_differs {rows : List (Observed String)} {series : List (SeriesPoint String)}
    {o : Observed String} (hkeyed : Keyed SeriesPoint.time series)
    (hseries : ((rows.filter fun q => q.series = o.series).map Observed.point).Perm series) :
    (match Observed.previous rows o with
      | some p => p.value != o.value
      | none => false) = decide (o.point.IsTransition series) := by
  have hpoint := previous_point hkeyed hseries
  rw [← orderBy_filter hkeyed] at hpoint
  cases hprevious : Observed.previous rows o with
  | none =>
      rw [hprevious, Option.map_none, eq_comm, List.getLast?_eq_none_iff, orderBy_eq_nil] at hpoint
      have hnot : ¬ o.point.IsTransition series := by
        intro h
        obtain ⟨q, hq, hlt, -⟩ := h
        exact List.filter_eq_nil_iff.mp hpoint q hq (decide_eq_true hlt)
      simp [hnot]
  | some p =>
      rw [hprevious, Option.map_some, eq_comm] at hpoint
      obtain ⟨hp, hlatest⟩ := getLast?_orderBy hpoint
      rw [List.mem_filter, decide_eq_true_eq] at hp
      rw [Bool.eq_iff_iff, bne_iff_ne, decide_eq_true_eq]
      constructor
      · intro hne
        exact ⟨p.point, hp.1, hp.2, fun u hu hlt => hlatest u
          (List.mem_filter.mpr ⟨hu, decide_eq_true hlt⟩), hne⟩
      · intro h
        obtain ⟨q, hq, hlt, hlast, hne⟩ := h
        have hle : q.time ≤ p.point.time :=
          hlatest q (List.mem_filter.mpr ⟨hq, decide_eq_true hlt⟩)
        have hsame : q = p.point := hkeyed.eq hq hp.1 (le_antisymm hle (hlast p.point hp.1 hp.2))
        rw [hsame] at hne
        exact hne

/-- A rollup of texts too; its transitions are those of the whole series. -/
theorem textRollup_aggregates {base rows : List (Observed String)}
    {series ps : List (SeriesPoint String)} (hkeyed : Keyed SeriesPoint.time series)
    (hseries : ∀ o ∈ rows,
      ((base.filter fun q => q.series = o.series).map Observed.point).Perm series)
    (hperm : (rows.map Observed.point).Perm ps) (hne : ps ≠ []) (bucketSeconds : Nat)
    (k : String × Nat × Nat) :
    AggregatesTexts series ps (textRollup bucketSeconds base (k, rows)) where
  nonempty := hne
  sampleCount := by
    show rows.length = ps.length
    simpa using hperm.length_eq
  ends := ends_of_perm hperm hne
  transitions := by
    have hcount := (hperm.filter fun p => p.IsTransition series).length_eq
    rw [← hcount, List.filter_map, List.length_map]
    show (rows.filter _).length = _
    refine congrArg List.length (List.filter_congr fun o ho => ?_)
    exact previous_differs hkeyed (hseries o ho)
  numbers := ⟨rfl, rfl, rfl, rfl, rfl⟩

end Rows

/-! ## the rows of a call -/

/-- Rollups of one size that start before the cutoff. -/
def RollupRow.Older (cutoffMs bucketSeconds : Nat) (r : RollupRow) : Prop :=
  r.bucketSeconds = bucketSeconds ∧ r.bucketStartMs < cutoffMs

instance (cutoffMs bucketSeconds : Nat) (r : RollupRow) :
    Decidable (r.Older cutoffMs bucketSeconds) := by
  unfold RollupRow.Older
  infer_instance

/-- Rows built from the groups of a base table. -/
structure GroupRows {V : Type} (bucketSeconds : Nat)
    (row : (String × Nat × Nat) × List (Observed V) → RollupRow) : Prop where
  key : ∀ g, (row g).key = (g.1.1, g.1.2.1, bucketSeconds, g.1.2.2)
  sampleCount : ∀ g, (row g).sampleCount = g.2.length

theorem numericRollup_rows (bucketSeconds : Nat) :
    GroupRows bucketSeconds (numericRollup bucketSeconds) := ⟨fun _ => rfl, fun _ => rfl⟩

theorem textRollup_rows (bucketSeconds : Nat) (base : List (Observed String)) :
    GroupRows bucketSeconds (textRollup bucketSeconds base) := ⟨fun _ => rfl, fun _ => rfl⟩

section Call

variable {cutoffMs bucketSeconds : Nat} {db : StorageDb} {r : RollupRow}

section GroupRows

variable {V : Type} {pick : RegisterValue → Option V}
  {row : (String × Nat × Nat) × List (Observed V) → RollupRow}

/-- The rows of a statement. -/
def groupRows (pick : RegisterValue → Option V) (cutoffMs bucketSeconds : Nat) (db : StorageDb)
    (row : (String × Nat × Nat) × List (Observed V) → RollupRow) : List RollupRow :=
  (groups (Observed.bucket (bucketSeconds * 1000)) (observedRows pick cutoffMs db)).map row

/-- No two rollups of one statement share a key. -/
theorem keyed_groupRows (hrow : GroupRows bucketSeconds row) :
    Keyed RollupRow.key (groupRows pick cutoffMs bucketSeconds db row) := by
  have hkeyed := keyed_groups (Observed.bucket (bucketSeconds * 1000))
    (observedRows pick cutoffMs db)
  have hinj : Function.Injective fun k : String × Nat × Nat => (k.1, k.2.1, bucketSeconds, k.2.2) := by
    intro k l hkl
    simp only [Prod.mk.injEq] at hkl
    exact Prod.ext hkl.1 (Prod.ext hkl.2.1 hkl.2.2.2)
  have hmap := List.Nodup.map hinj hkeyed
  rw [List.map_map] at hmap
  rw [Keyed, groupRows, List.map_map]
  exact (List.map_congr_left fun g _ => hrow.key g) ▸ hmap

/-- The rows of some buckets count the values of these buckets. -/
theorem sum_groupRows_filter (hrow : GroupRows bucketSeconds row) (p : Nat → Bool) :
    (((groupRows pick cutoffMs bucketSeconds db row).filter fun r => p r.bucketStartMs).map
        RollupRow.sampleCount).sum =
      ((observedRows pick cutoffMs db).filter fun o =>
        p (o.observedAtMs / (bucketSeconds * 1000) * (bucketSeconds * 1000))).length := by
  have hstart : ∀ g, (row g).bucketStartMs = g.1.2.2 := by
    intro g
    have hkey := hrow.key g
    simp only [RollupRow.key, Prod.mk.injEq] at hkey
    exact hkey.2.2.2
  have hgroups := groups_filter (Observed.bucket (bucketSeconds * 1000)) (fun k => p k.2.2)
    (observedRows pick cutoffMs db)
  have hrows : (groupRows pick cutoffMs bucketSeconds db row).filter (fun r => p r.bucketStartMs) =
      (groups (Observed.bucket (bucketSeconds * 1000)) ((observedRows pick cutoffMs db).filter
        fun o => p (o.bucket (bucketSeconds * 1000)).2.2)).map row := by
    rw [groupRows, List.filter_map, ← hgroups]
    refine congrArg (List.map row) (List.filter_congr fun g _ => ?_)
    rw [Function.comp_apply, hstart]
  rw [hrows, List.map_map, ← sum_length_groups (Observed.bucket (bucketSeconds * 1000))]
  exact congrArg List.sum (List.map_congr_left fun g _ => hrow.sampleCount g)

/-- Every older observation is counted in one of them. -/
theorem sum_groupRows (hrow : GroupRows bucketSeconds row) :
    ((groupRows pick cutoffMs bucketSeconds db row).map RollupRow.sampleCount).sum =
      (observedRows pick cutoffMs db).length := by
  simpa using sum_groupRows_filter hrow fun _ => true

/-- Each row is of the values of a register in a bucket. -/
theorem mem_groupRows (hdb : db.TablesKeyed) (hpos : 1 ≤ bucketSeconds)
    (hrow : GroupRows bucketSeconds row)
    (hr : r ∈ groupRows pick cutoffMs bucketSeconds db row) :
    r.Older cutoffMs bucketSeconds ∧ ∃ d ∈ db.dictionary, d.registerKey = r.registerKey ∧
      ∃ g, r = row g ∧ (∀ o ∈ g.2, o.series = (r.deviceId, d.registerKey)) ∧
        bucketPoints pick cutoffMs (bucketSeconds * 1000) r.deviceId d.entry r.bucketStartMs db ≠ [] ∧
        (g.2.map Observed.point).Perm
          (bucketPoints pick cutoffMs (bucketSeconds * 1000) r.deviceId d.entry r.bucketStartMs db) := by
  obtain ⟨g, hg, rfl⟩ := List.mem_map.mp hr
  have hkey := hrow.key g
  simp only [RollupRow.key, Prod.mk.injEq] at hkey
  obtain ⟨hdevice, hregister, hsize, hstart⟩ := hkey
  obtain ⟨hold, d, hd, hname, hperm⟩ := group_points hdb (by omega) hg
  rw [← hdevice, ← hstart] at hperm
  refine ⟨⟨hsize, hstart ▸ hold⟩, d, hd, hname.trans hregister.symm, g, rfl, ?_, ?_, hperm⟩
  · intro o ho
    have hbucket := (mem_of_mem_groups hg ho).2
    rw [hdevice, hname, ← hbucket]
    rfl
  · intro hnil
    rw [hnil] at hperm
    exact (mem_groups hg).2 (List.map_eq_nil_iff.mp hperm.eq_nil)

/-- Each bucket with a value has a row. -/
theorem exists_groupRows (hdb : db.TablesKeyed) (hknown : db.Known) (hpos : 1 ≤ bucketSeconds)
    (hrow : GroupRows bucketSeconds row) {device : String}
    {entry : String × Nat × String × String} {start : Nat}
    (hne : bucketPoints pick cutoffMs (bucketSeconds * 1000) device entry start db ≠ []) :
    ∃ d ∈ db.dictionary, d.entry = entry ∧
      ∃ r ∈ groupRows pick cutoffMs bucketSeconds db row,
        r.key = (device, d.registerKey, bucketSeconds, start) := by
  obtain ⟨d, hd, hentry, g, hg, hkey⟩ := exists_group hdb hknown (by omega) hne
  refine ⟨d, hd, hentry, row g, List.mem_map_of_mem hg, ?_⟩
  rw [hrow.key, hkey]

end GroupRows

/-- The table after a call. -/
def rebuiltRollups (cutoffMs bucketSeconds : Nat) (db : StorageDb) : List RollupRow :=
  db.rollups.filter (fun r => ¬ r.Older cutoffMs bucketSeconds) ++
    numericRollups cutoffMs bucketSeconds db ++ textRollups cutoffMs bucketSeconds db

/-- A call inserts the rows of both statements, or fails. -/
theorem buildRollups_eq (hpos : 1 ≤ bucketSeconds) (db : StorageDb) :
    let known := (refreshRegisterDictionary db).1
    let rows := rebuiltRollups cutoffMs bucketSeconds known
    (buildRollups cutoffMs bucketSeconds db).map Prod.fst =
      if Keyed RollupRow.key rows then .ok { known with rollups := rows }
      else .error .rollupExists := by
  intro known rows
  obtain ⟨kept, hkept⟩ : ∃ kept, kept = deleteRollups cutoffMs bucketSeconds known := ⟨_, rfl⟩
  have hnumeric : numericRollups cutoffMs bucketSeconds kept =
      numericRollups cutoffMs bucketSeconds known := by rw [hkept]; rfl
  have htext : textRollups cutoffMs bucketSeconds kept =
      textRollups cutoffMs bucketSeconds known := by rw [hkept]; rfl
  have hrows : kept.rollups ++ numericRollups cutoffMs bucketSeconds kept ++
      textRollups cutoffMs bucketSeconds kept = rows := by
    rw [hnumeric, htext, hkept]
    rfl
  have hraw : { kept with rollups := rows } = { known with rollups := rows } := by rw [hkept]; rfl
  have hcall : (buildRollups cutoffMs bucketSeconds db).map Prod.fst =
      insertRollups (numericRollups cutoffMs bucketSeconds kept) kept >>=
        insertRollups (textRollups cutoffMs bucketSeconds kept) := by
    rw [buildRollups, if_neg (by omega), hkept]
    show Except.map Prod.fst (insertRollups _ _ >>= fun db₁ => insertRollups _ db₁ >>= fun db₂ =>
      pure (db₂, _)) = _
    cases insertRollups (numericRollups cutoffMs bucketSeconds
      (deleteRollups cutoffMs bucketSeconds known)) (deleteRollups cutoffMs bucketSeconds known) with
    | error e => rfl
    | ok db₁ =>
        show Except.map Prod.fst (insertRollups _ db₁ >>= fun db₂ => pure (db₂, _)) =
          insertRollups _ db₁
        cases insertRollups (textRollups cutoffMs bucketSeconds
          (deleteRollups cutoffMs bucketSeconds known)) db₁ with
        | error e => rfl
        | ok db₂ => rfl
  rw [hcall, insertRollups]
  by_cases hfirst : Keyed RollupRow.key
      (kept.rollups ++ numericRollups cutoffMs bucketSeconds kept)
  · rw [if_pos hfirst]
    show insertRollups _ _ = _
    rw [insertRollups, hrows, hraw]
  · have hnot : ¬ Keyed RollupRow.key rows := by
      rw [← hrows, Keyed, List.map_append]
      exact fun h => hfirst (List.Nodup.of_append_left h)
    rw [if_neg hfirst, if_neg hnot]
    rfl

/-- A register of a device has numbers and texts in one bucket. -/
def MixedBucket (cutoffMs bucketSeconds : Nat) (db : StorageDb) : Prop :=
  ∃ device entry start,
    bucketPoints RegisterValue.numericValue cutoffMs (bucketSeconds * 1000) device entry start db
      ≠ [] ∧
    bucketPoints RegisterValue.textValue cutoffMs (bucketSeconds * 1000) device entry start db ≠ []

/-- Two lists of rollups have unique keys together if they do alone and share none. -/
theorem keyed_append_iff {key : RollupRow → String × Nat × Nat × Nat} {rs ss : List RollupRow} :
    Keyed key (rs ++ ss) ↔ Keyed key rs ∧ Keyed key ss ∧ ∀ r ∈ rs, ∀ s ∈ ss, key r ≠ key s := by
  simp [Keyed, List.nodup_append]

/-- The primary key lacks the kind, so it refuses a bucket of both. -/
theorem keyed_rebuilt_iff (hdb : db.TablesKeyed) (hknown : db.Known) (hpos : 1 ≤ bucketSeconds) :
    Keyed RollupRow.key (rebuiltRollups cutoffMs bucketSeconds db) ↔
      ¬ MixedBucket cutoffMs bucketSeconds db := by
  have hnumeric : numericRollups cutoffMs bucketSeconds db =
      groupRows RegisterValue.numericValue cutoffMs bucketSeconds db
        (numericRollup bucketSeconds) := rfl
  have htext : textRollups cutoffMs bucketSeconds db =
      groupRows RegisterValue.textValue cutoffMs bucketSeconds db
        (textRollup bucketSeconds (observedRows RegisterValue.textValue cutoffMs db)) := rfl
  have hrows := numericRollup_rows bucketSeconds
  have hrows' := textRollup_rows bucketSeconds (observedRows RegisterValue.textValue cutoffMs db)
  have hkept : ∀ r ∈ db.rollups.filter (fun r => ¬ r.Older cutoffMs bucketSeconds),
      ∀ s : RollupRow, s.Older cutoffMs bucketSeconds → r.key ≠ s.key := by
    intro r hr s hs hkey
    have hold := (List.mem_filter.mp hr).2
    simp only [RollupRow.key, Prod.mk.injEq] at hkey
    rw [decide_eq_true_eq, RollupRow.Older, hkey.2.2.1, hkey.2.2.2] at hold
    exact hold hs
  rw [rebuiltRollups, keyed_append_iff, keyed_append_iff, hnumeric, htext]
  constructor
  · intro h hmixed
    obtain ⟨device, entry, start, hnumbers, htexts⟩ := hmixed
    obtain ⟨d, hd, hentry, r, hr, hkey⟩ := exists_groupRows hdb hknown hpos hrows hnumbers
    obtain ⟨d', hd', hentry', r', hr', hkey'⟩ := exists_groupRows hdb hknown hpos hrows' htexts
    rw [hdb.entries.eq hd hd' (hentry.trans hentry'.symm)] at hkey
    exact h.2.2 r (List.mem_append_right _ hr) r' hr' (hkey.trans hkey'.symm)
  · intro h
    refine ⟨⟨hdb.rollups.filter _, keyed_groupRows hrows, ?_⟩, keyed_groupRows hrows', ?_⟩
    · intro r hr s hs
      exact hkept r hr s (mem_groupRows hdb hpos hrows hs).1
    · intro r hr s hs hkey
      cases List.mem_append.mp hr with
      | inl hold => exact hkept r hold s (mem_groupRows hdb hpos hrows' hs).1 hkey
      | inr hnew =>
          obtain ⟨-, d, hd, hname, -, -, -, hnumbers, -⟩ := mem_groupRows hdb hpos hrows hnew
          obtain ⟨-, d', hd', hname', -, -, -, htexts, -⟩ := mem_groupRows hdb hpos hrows' hs
          simp only [RollupRow.key, Prod.mk.injEq] at hkey
          have hsame : d' = d := hdb.registerKeys.eq hd' hd
            (by rw [hname, hname', hkey.2.1])
          rw [hsame, ← hkey.1, ← hkey.2.2.2] at htexts
          exact h ⟨r.deviceId, d.entry, r.bucketStartMs, hnumbers, htexts⟩

/-! ## exactness -/

/-- The rollups of one size older than the cutoff are the reference rows of the raw values. -/
structure RollupsExact (cutoffMs bucketSeconds : Nat) (db db' : StorageDb) : Prop where
  keyed : Keyed RollupRow.key db'.rollups
  sound : ∀ r ∈ db'.rollups, r.Older cutoffMs bucketSeconds →
    ∃ d ∈ db'.dictionary, d.registerKey = r.registerKey ∧
      Aggregates cutoffMs bucketSeconds d.entry db r
  numbers : ∀ device entry start, bucketPoints RegisterValue.numericValue cutoffMs
      (bucketSeconds * 1000) device entry start db ≠ [] →
    ∃ d ∈ db'.dictionary, d.entry = entry ∧ ∃ r ∈ db'.rollups,
      r.key = (device, d.registerKey, bucketSeconds, start) ∧ r.kind = .numeric
  texts : ∀ device entry start, bucketPoints RegisterValue.textValue cutoffMs
      (bucketSeconds * 1000) device entry start db ≠ [] →
    ∃ d ∈ db'.dictionary, d.entry = entry ∧ ∃ r ∈ db'.rollups,
      r.key = (device, d.registerKey, bucketSeconds, start) ∧ r.kind = .text
  total : ((db'.rollups.filter fun r => r.Older cutoffMs bucketSeconds).map
      RollupRow.sampleCount).sum =
    (olderValues RegisterValue.numericValue cutoffMs db).length +
      (olderValues RegisterValue.textValue cutoffMs db).length

/-- Every numeric rollup is older than the cutoff and right. -/
theorem numericRollups_sound (hdb : db.TablesKeyed) (hpos : 1 ≤ bucketSeconds)
    (hr : r ∈ numericRollups cutoffMs bucketSeconds db) :
    r.Older cutoffMs bucketSeconds ∧ r.kind = .numeric ∧
      ∃ d ∈ db.dictionary, d.registerKey = r.registerKey ∧
        Aggregates cutoffMs bucketSeconds d.entry db r := by
  obtain ⟨hold, d, hd, hname, g, hg, -, hne, hperm⟩ :=
    mem_groupRows hdb hpos (numericRollup_rows bucketSeconds) hr
  have hkind : r.kind = .numeric := by rw [hg]; rfl
  refine ⟨hold, hkind, d, hd, hname, ?_⟩
  have hrow := numericRollup_aggregates hperm hne bucketSeconds g.1
  rw [Aggregates, hkind]
  rwa [Prod.mk.eta, ← hg] at hrow

/-- And so is every text rollup. -/
theorem textRollups_sound (hdb : db.TablesKeyed) (hpos : 1 ≤ bucketSeconds)
    (hr : r ∈ textRollups cutoffMs bucketSeconds db) :
    r.Older cutoffMs bucketSeconds ∧ r.kind = .text ∧
      ∃ d ∈ db.dictionary, d.registerKey = r.registerKey ∧
        Aggregates cutoffMs bucketSeconds d.entry db r := by
  obtain ⟨hold, d, hd, hname, g, hg, hseries, hne, hperm⟩ := mem_groupRows hdb hpos
    (textRollup_rows bucketSeconds (observedRows RegisterValue.textValue cutoffMs db)) hr
  have hkind : r.kind = .text := by rw [hg]; rfl
  refine ⟨hold, hkind, d, hd, hname, ?_⟩
  have hbase : ∀ o ∈ g.2, (((observedRows RegisterValue.textValue cutoffMs db).filter
      fun q => q.series = o.series).map Observed.point).Perm
        (seriesOf RegisterValue.textValue cutoffMs r.deviceId d.entry db) := by
    intro o ho
    rw [hseries o ho]
    exact base_series hdb hd
  have hrow := textRollup_aggregates (seriesOf_keyed hdb) hbase hperm hne bucketSeconds g.1
  rw [Aggregates, hkind]
  rwa [Prod.mk.eta, ← hg] at hrow

/-- The rows of one size older than the cutoff are those of the two statements. -/
theorem rebuilt_older (hdb : db.TablesKeyed) (hpos : 1 ≤ bucketSeconds) :
    (rebuiltRollups cutoffMs bucketSeconds db).filter (fun r => r.Older cutoffMs bucketSeconds) =
      numericRollups cutoffMs bucketSeconds db ++ textRollups cutoffMs bucketSeconds db := by
  have hkept : (db.rollups.filter fun r => ¬ r.Older cutoffMs bucketSeconds).filter
      (fun r => r.Older cutoffMs bucketSeconds) = [] := by
    rw [List.filter_eq_nil_iff]
    intro r hr hold
    have hnot := (List.mem_filter.mp hr).2
    rw [decide_eq_true_eq] at hold hnot
    exact hnot hold
  have hnumeric : (numericRollups cutoffMs bucketSeconds db).filter
      (fun r => r.Older cutoffMs bucketSeconds) = numericRollups cutoffMs bucketSeconds db := by
    rw [List.filter_eq_self]
    exact fun r hr => decide_eq_true (numericRollups_sound hdb hpos hr).1
  have htext : (textRollups cutoffMs bucketSeconds db).filter
      (fun r => r.Older cutoffMs bucketSeconds) = textRollups cutoffMs bucketSeconds db := by
    rw [List.filter_eq_self]
    exact fun r hr => decide_eq_true (textRollups_sound hdb hpos hr).1
  rw [rebuiltRollups, List.filter_append, List.filter_append, hkept, hnumeric, htext,
    List.nil_append]

/-- With a complete dictionary no older value is lost in the join. -/
theorem length_base (hdb : db.TablesKeyed) (hknown : db.Known) {V : Type}
    (pick : RegisterValue → Option V) :
    (observedRows pick cutoffMs db).length = (olderValues pick cutoffMs db).length := by
  simpa using (@base_values V pick cutoffMs db hdb hknown).length_eq

/-- Without a bucket of both kinds the rebuilt rollups are exact. -/
theorem rebuilt_exact (hdb : db.TablesKeyed) (hknown : db.Known) (hpos : 1 ≤ bucketSeconds)
    (hmixed : ¬ MixedBucket cutoffMs bucketSeconds db) :
    RollupsExact cutoffMs bucketSeconds db
      { db with rollups := rebuiltRollups cutoffMs bucketSeconds db } where
  keyed := (keyed_rebuilt_iff hdb hknown hpos).mpr hmixed
  sound := by
    intro r hr hold
    have hnew : r ∈ numericRollups cutoffMs bucketSeconds db ++
        textRollups cutoffMs bucketSeconds db := by
      rw [← rebuilt_older hdb hpos]
      exact List.mem_filter.mpr ⟨hr, decide_eq_true hold⟩
    cases List.mem_append.mp hnew with
    | inl hnumeric => exact (numericRollups_sound hdb hpos hnumeric).2.2
    | inr htext => exact (textRollups_sound hdb hpos htext).2.2
  numbers := by
    intro device entry start hne
    obtain ⟨d, hd, hentry, r, hr, hkey⟩ :=
      exists_groupRows hdb hknown hpos (numericRollup_rows bucketSeconds) hne
    exact ⟨d, hd, hentry, r, List.mem_append_left _ (List.mem_append_right _ hr), hkey,
      (numericRollups_sound hdb hpos hr).2.1⟩
  texts := by
    intro device entry start hne
    obtain ⟨d, hd, hentry, r, hr, hkey⟩ := exists_groupRows hdb hknown hpos
      (textRollup_rows bucketSeconds (observedRows RegisterValue.textValue cutoffMs db)) hne
    exact ⟨d, hd, hentry, r, List.mem_append_right _ hr, hkey,
      (textRollups_sound hdb hpos hr).2.1⟩
  total := by
    have hsum : ((numericRollups cutoffMs bucketSeconds db ++
        textRollups cutoffMs bucketSeconds db).map RollupRow.sampleCount).sum =
        (observedRows RegisterValue.numericValue cutoffMs db).length +
          (observedRows RegisterValue.textValue cutoffMs db).length := by
      rw [List.map_append, List.sum_append]
      exact congrArg₂ (· + ·) (sum_groupRows (numericRollup_rows bucketSeconds))
        (sum_groupRows (textRollup_rows bucketSeconds _))
    show (((rebuiltRollups cutoffMs bucketSeconds db).filter fun r =>
      r.Older cutoffMs bucketSeconds).map RollupRow.sampleCount).sum = _
    rw [rebuilt_older hdb hpos, hsum, length_base hdb hknown, length_base hdb hknown]

/-- A call succeeds and leaves the reference rows exactly when no register of a device has
numbers and texts in one bucket. -/
theorem rollups_exact_iff (cutoffMs : Nat) {bucketSeconds : Nat} (hpos : 1 ≤ bucketSeconds)
    {db : StorageDb} (hdb : db.TablesKeyed) :
    (∃ db' n, buildRollups cutoffMs bucketSeconds db = .ok (db', n) ∧
        RollupsExact cutoffMs bucketSeconds db db') ↔
      ¬ MixedBucket cutoffMs bucketSeconds db := by
  obtain ⟨hkeyed, hknown⟩ := refresh_known hdb
  have hcall := @buildRollups_eq cutoffMs bucketSeconds hpos db
  have hiff := @keyed_rebuilt_iff cutoffMs bucketSeconds _ hkeyed hknown hpos
  constructor
  · intro h
    obtain ⟨db', n, hok, -⟩ := h
    refine hiff.mp ?_
    by_contra hnot
    rw [hok] at hcall
    simp only [if_neg hnot] at hcall
    cases hcall
  · intro hmixed
    have hexact := rebuilt_exact hkeyed hknown hpos hmixed
    simp only [if_pos (hiff.mpr hmixed)] at hcall
    cases hbuild : buildRollups cutoffMs bucketSeconds db with
    | error e =>
        rw [hbuild] at hcall
        cases hcall
    | ok result =>
        rw [hbuild] at hcall
        have hdb' := Except.ok.inj hcall
        exact ⟨result.1, result.2, rfl, hdb' ▸ ⟨hexact.keyed, hexact.sound, hexact.numbers,
          hexact.texts, hexact.total⟩⟩

end Call

/-- A temperature register that reads a number, then text, in one minute. -/
def disconnectedSensor : StorageDb where
  samples := [
    { id := 1, deviceId := "tristar", observedAtMs := 60000, latencyMs := 12, profile := "tristar" },
    { id := 2, deviceId := "tristar", observedAtMs := 70000, latencyMs := 12, profile := "tristar" }]
  values := [
    { sampleId := 1, registerName := "rts_temperature", address := 27, function := "holding",
      rawJson := "[25]", numericValue := some 25, textValue := none, unit := some "C" },
    { sampleId := 2, registerName := "rts_temperature", address := 27, function := "holding",
      rawJson := "[128]", numericValue := none, textValue := some "disconnected",
      unit := some "C" }]

/-- The store of the example has unique keys. -/
theorem disconnectedSensor_keyed : disconnectedSensor.TablesKeyed := by
  constructor <;> decide

/-- A sensor that shows a number and a text within a minute. -/
theorem rollups_exact_iff_disconnected :
    (∃ db' n, buildRollups 120000 60 disconnectedSensor = .ok (db', n) ∧
        RollupsExact 120000 60 disconnectedSensor db') ↔
      ¬ MixedBucket 120000 60 disconnectedSensor :=
  rollups_exact_iff 120000 (by decide) disconnectedSensor_keyed

/-- The sensor's minute is refused. -/
theorem not_rollups_exact_disconnected :
    ¬ ∀ (db : StorageDb) (cutoffMs bucketSeconds : Nat), db.TablesKeyed → 1 ≤ bucketSeconds →
      ∃ db' n, buildRollups cutoffMs bucketSeconds db = .ok (db', n) ∧
        RollupsExact cutoffMs bucketSeconds db db' := by
  intro h
  obtain ⟨db', n, hok, -⟩ := h disconnectedSensor 120000 60 disconnectedSensor_keyed (by decide)
  have herror : (buildRollups 120000 60 disconnectedSensor).map Prod.snd =
      .error .rollupExists := by decide +kernel
  rw [hok] at herror
  cases herror

end MorningstarModbus
