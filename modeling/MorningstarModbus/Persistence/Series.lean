import Mathlib.Data.List.Fold
import Mathlib.Data.Prod.Lex
import MorningstarModbus.Lib.Join
import MorningstarModbus.Lib.Query
import MorningstarModbus.Persistence.StorageV2

/-!
# MorningstarModbus.Persistence.Series

The values of one register of one device in the raw tables, and the `base` tables
through which the rollup and state-run statements read them.

* `refresh_known` — every register has an entry of the dictionary;
* `base_series` — the rows of a series in a base table are the values of a register;
* `base_values` — a base table has a row for each value.
-/

namespace MorningstarModbus

open Query Table

/-! ## keys -/

/-- The primary keys and uniqueness constraints of the schema. -/
structure StorageDb.TablesKeyed (db : StorageDb) : Prop where
  samples : Keyed PollSample.id db.samples
  values : Keyed RegisterValue.key db.values
  registerKeys : Keyed DictionaryRow.registerKey db.dictionary
  entries : Keyed DictionaryRow.entry db.dictionary
  rollups : Keyed RollupRow.key db.rollups
  stateRuns : Keyed StateRunRow.key db.stateRuns

/-! ## the dictionary -/

section Dictionary

variable {rows : List DictionaryRow} {e : String × Nat × String × String}

/-- A key over all keys is new. -/
theorem registerKey_lt (rows : List DictionaryRow) {d : DictionaryRow} (hd : d ∈ rows) :
    d.registerKey < (rows.map DictionaryRow.registerKey).foldl max 0 + 1 := by
  have hle := List.le_max_of_le' 0 (List.mem_map_of_mem (f := DictionaryRow.registerKey) hd) le_rfl
  rw [← List.foldl_eq_foldr] at hle
  omega

theorem addEntry_keyed (hkeys : Keyed DictionaryRow.registerKey rows)
    (hentries : Keyed DictionaryRow.entry rows) :
    Keyed DictionaryRow.registerKey (addEntry rows e) ∧
      Keyed DictionaryRow.entry (addEntry rows e) := by
  unfold addEntry
  split
  · exact ⟨hkeys, hentries⟩
  · case isFalse hnone =>
      refine ⟨hkeys.append fun d hd => (registerKey_lt rows hd).ne, hentries.append ?_⟩
      intro d hd heq
      exact hnone (List.any_eq_true.mpr ⟨d, hd, decide_eq_true heq⟩)

theorem mem_addEntry {d : DictionaryRow} (hd : d ∈ rows) : d ∈ addEntry rows e := by
  unfold addEntry
  split
  · exact hd
  · exact List.mem_append_left _ hd

theorem exists_addEntry : ∃ d ∈ addEntry rows e, d.entry = e := by
  unfold addEntry
  split
  · case isTrue hsome =>
      obtain ⟨d, hd, heq⟩ := List.any_eq_true.mp hsome
      exact ⟨d, hd, of_decide_eq_true heq⟩
  · exact ⟨_, List.mem_append_right _ (List.mem_singleton_self _), rfl⟩

theorem foldl_addEntry (es : List (String × Nat × String × String))
    (hkeys : Keyed DictionaryRow.registerKey rows) (hentries : Keyed DictionaryRow.entry rows) :
    Keyed DictionaryRow.registerKey (es.foldl addEntry rows) ∧
      Keyed DictionaryRow.entry (es.foldl addEntry rows) ∧
      (∀ d ∈ rows, d ∈ es.foldl addEntry rows) ∧
      ∀ e ∈ es, ∃ d ∈ es.foldl addEntry rows, d.entry = e := by
  induction es generalizing rows with
  | nil => exact ⟨hkeys, hentries, fun d hd => hd, by simp⟩
  | cons e es ih =>
      have hadd := addEntry_keyed (e := e) hkeys hentries
      obtain ⟨hkeys', hentries', hkeep, hnew⟩ := ih hadd.1 hadd.2
      refine ⟨hkeys', hentries', fun d hd => hkeep d (mem_addEntry hd), ?_⟩
      intro e' he'
      cases List.mem_cons.mp he' with
      | inl hfirst =>
          obtain ⟨d, hd, hentry⟩ := @exists_addEntry rows e
          exact ⟨d, hkeep d hd, hentry.trans hfirst.symm⟩
      | inr hlater => exact hnew e' hlater

end Dictionary

/-- Every register has an entry of the dictionary. -/
def StorageDb.Known (db : StorageDb) : Prop := ∀ v ∈ db.values, ∃ d ∈ db.dictionary, d.entry = v.entry

theorem refresh_known {db : StorageDb} (hdb : db.TablesKeyed) :
    (refreshRegisterDictionary db).1.TablesKeyed ∧ (refreshRegisterDictionary db).1.Known := by
  obtain ⟨hkeys, hentries, -, hnew⟩ :=
    foldl_addEntry (distinct (db.values.map RegisterValue.entry)) hdb.registerKeys hdb.entries
  refine ⟨⟨hdb.samples, hdb.values, hkeys, hentries, hdb.rollups, hdb.stateRuns⟩, ?_⟩
  intro v hv
  exact hnew v.entry (mem_distinct.mpr (List.mem_map_of_mem hv))

/-! ## the values of a register -/

/-- A value with its place in time. -/
structure SeriesPoint (V : Type) where
  observedAtMs : Nat
  sampleId : Nat
  value : V
  deriving DecidableEq

/-- `(observed_at_ms, sample id)` -/
def SeriesPoint.time {V : Type} (p : SeriesPoint V) : Nat ×ₗ Nat :=
  toLex (p.observedAtMs, p.sampleId)

section Series

variable {V : Type} (pick : RegisterValue → Option V) (cutoffMs : Nat)

/-- The values `pick` finds in a joined row. -/
def pointsOf (t : ArchivedRow) : List (SeriesPoint V) :=
  ((pick t.value).map fun value =>
    { observedAtMs := t.sample.observedAtMs, sampleId := t.sample.id, value }).toList

/-- The values of a device's register older than a cutoff. -/
def seriesOf (device : String) (entry : String × Nat × String × String) (db : StorageDb) :
    List (SeriesPoint V) :=
  (db.telemetry.filter fun t => t.sample.deviceId = device ∧ t.value.entry = entry ∧
    t.sample.observedAtMs < cutoffMs).flatMap (pointsOf pick)

/-- The values older than a cutoff. -/
def olderValues (db : StorageDb) : List (SeriesPoint V) :=
  (db.telemetry.filter fun t => t.sample.observedAtMs < cutoffMs).flatMap (pointsOf pick)

variable {pick cutoffMs} {device : String} {entry : String × Nat × String × String}
  {db : StorageDb} {p : SeriesPoint V}

theorem mem_seriesOf : p ∈ seriesOf pick cutoffMs device entry db ↔
    ∃ s ∈ db.samples, ∃ v ∈ db.values, v.sampleId = s.id ∧ s.deviceId = device ∧
      v.entry = entry ∧ s.observedAtMs < cutoffMs ∧ pick v = some p.value ∧
      p.observedAtMs = s.observedAtMs ∧ p.sampleId = s.id := by
  simp only [seriesOf, pointsOf, StorageDb.telemetry, List.mem_flatMap, List.mem_filter,
    List.mem_map, decide_eq_true_eq, Option.mem_toList, Option.map_eq_some_iff]
  constructor
  · intro h
    obtain ⟨t, ⟨⟨s, hs, v, ⟨hv, hid⟩, rfl⟩, hdevice, hentry, hold⟩, x, hx, rfl⟩ := h
    exact ⟨s, hs, v, hv, hid, hdevice, hentry, hold, hx, rfl, rfl⟩
  · intro h
    obtain ⟨s, hs, v, hv, hid, hdevice, hentry, hold, hx, hms, hsample⟩ := h
    refine ⟨⟨s, v⟩, ⟨⟨s, hs, v, ⟨hv, hid⟩, rfl⟩, hdevice, hentry, hold⟩, p.value, hx, ?_⟩
    rw [← hms, ← hsample]

/-! ## the base tables -/

/-- A base row as a value of its series. -/
def Observed.point (o : Observed V) : SeriesPoint V where
  observedAtMs := o.observedAtMs
  sampleId := o.sampleId
  value := o.value

theorem telemetry_flatMap {τ : Type} (f : ArchivedRow → List τ) (db : StorageDb) :
    (db.values.flatMap fun v => (db.samples.filter fun s => s.id = v.sampleId).flatMap fun s =>
      f ⟨s, v⟩).Perm (db.telemetry.flatMap f) := by
  have hjoin := flatMap_filter_comm db.values db.samples (fun v s => decide (s.id = v.sampleId))
    fun v s => f ⟨s, v⟩
  simpa only [StorageDb.telemetry, List.flatMap_assoc, List.flatMap_map, eq_comm] using hjoin

/-- The base rows of a joined row. -/
def baseRows (pick : RegisterValue → Option V) (cutoffMs : Nat) (db : StorageDb)
    (t : ArchivedRow) : List (Observed V) :=
  (db.dictionary.filter fun d => d.entry = t.value.entry).flatMap fun d =>
    if t.sample.observedAtMs < cutoffMs then
      ((pick t.value).map fun value =>
        { deviceId := t.sample.deviceId, registerKey := d.registerKey, sampleId := t.sample.id,
          observedAtMs := t.sample.observedAtMs, value }).toList
    else []

theorem observedRows_eq (pick : RegisterValue → Option V) (cutoffMs : Nat) (db : StorageDb) :
    observedRows pick cutoffMs db =
      db.values.flatMap fun v => (db.samples.filter fun s => s.id = v.sampleId).flatMap fun s =>
        baseRows pick cutoffMs db ⟨s, v⟩ := rfl

/-- One joined row gives the points of its register. -/
theorem baseRows_of_entry (hdb : db.TablesKeyed) {t : ArchivedRow} {d : DictionaryRow}
    (hd : d ∈ db.dictionary) (hentry : d.entry = t.value.entry) :
    (baseRows pick cutoffMs db t).map Observed.point =
        (if t.sample.observedAtMs < cutoffMs then pointsOf pick t else []) ∧
      ∀ o ∈ baseRows pick cutoffMs db t,
        o.series = (t.sample.deviceId, d.registerKey) := by
  rw [baseRows, ← hentry, filter_key hdb.entries hd, List.flatMap_singleton]
  split
  · constructor
    · cases hpick : pick t.value with
      | none => simp [pointsOf, hpick]
      | some x => simp [pointsOf, hpick, Observed.point]
    · intro o ho
      obtain ⟨x, -, rfl⟩ := Option.map_eq_some_iff.mp (Option.mem_toList.mp ho)
      rfl
  · exact ⟨rfl, by simp⟩

/-- The rows of a series in the base rows of a joined row. -/
theorem baseRows_series (hdb : db.TablesKeyed) (t : ArchivedRow) {d : DictionaryRow}
    (hd : d ∈ db.dictionary) :
    ((baseRows pick cutoffMs db t).filter fun o => o.series = (device, d.registerKey)).map
        Observed.point =
      if t.sample.deviceId = device ∧ t.value.entry = d.entry ∧ t.sample.observedAtMs < cutoffMs
      then pointsOf pick t else [] := by
  by_cases hentry : t.value.entry = d.entry
  · obtain ⟨hpoints, hseries⟩ := baseRows_of_entry hdb hd hentry.symm
    by_cases hdevice : t.sample.deviceId = device
    · have hall : (baseRows pick cutoffMs db t).filter
          (fun o => o.series = (device, d.registerKey)) = baseRows pick cutoffMs db t := by
        rw [List.filter_eq_self]
        intro o ho
        exact decide_eq_true ((hseries o ho).trans (by rw [hdevice]))
      rw [hall, hpoints]
      simp [hentry, hdevice]
    · have hnone : (baseRows pick cutoffMs db t).filter
          (fun o => o.series = (device, d.registerKey)) = [] := by
        rw [List.filter_eq_nil_iff]
        intro o ho
        simp [hseries o ho, hdevice]
      simp [hnone, hdevice]
  · have hnone : (baseRows pick cutoffMs db t).filter
        (fun o => o.series = (device, d.registerKey)) = [] := by
      rw [List.filter_eq_nil_iff]
      intro o ho hseries
      obtain ⟨d', hd', ho⟩ := List.mem_flatMap.mp ho
      rw [List.mem_filter, decide_eq_true_eq] at hd'
      have hkey : o.registerKey = d'.registerKey := by
        split at ho
        · obtain ⟨x, -, rfl⟩ := Option.map_eq_some_iff.mp (Option.mem_toList.mp ho)
          rfl
        · cases ho
      have hsame : d' = d := by
        refine hdb.registerKeys.eq hd'.1 hd ?_
        rw [← hkey]
        exact congrArg Prod.snd (of_decide_eq_true hseries)
      exact hentry (hsame ▸ hd'.2.symm)
    simp [hnone, hentry]

/-- The rows of a series in a base table are the values of a register. -/
theorem base_series (hdb : db.TablesKeyed) {d : DictionaryRow} (hd : d ∈ db.dictionary) :
    (((observedRows pick cutoffMs db).filter fun o => o.series = (device, d.registerKey)).map
      Observed.point).Perm (seriesOf pick cutoffMs device d.entry db) := by
  have hperm := telemetry_flatMap (fun t => ((baseRows pick cutoffMs db t).filter fun o =>
    o.series = (device, d.registerKey)).map Observed.point) db
  rw [observedRows_eq, seriesOf, flatMap_filter_eq]
  simpa only [List.filter_flatMap, List.map_flatMap, baseRows_series hdb _ hd,
    decide_eq_true_eq] using hperm

/-- A base table has a row for each value. -/
theorem base_values (hdb : db.TablesKeyed) (hknown : db.Known) :
    ((observedRows pick cutoffMs db).map Observed.point).Perm (olderValues pick cutoffMs db) := by
  have hperm := telemetry_flatMap (fun t => if t.sample.observedAtMs < cutoffMs then
    pointsOf pick t else []) db
  have hbase : (observedRows pick cutoffMs db).map Observed.point =
      db.values.flatMap fun v => (db.samples.filter fun s => s.id = v.sampleId).flatMap fun s =>
        if s.observedAtMs < cutoffMs then pointsOf pick ⟨s, v⟩ else [] := by
    rw [observedRows_eq, List.map_flatMap]
    refine List.flatMap_congr fun v hv => ?_
    obtain ⟨d, hd, hentry⟩ := hknown v hv
    rw [List.map_flatMap]
    exact List.flatMap_congr fun s _ => (baseRows_of_entry (t := ⟨s, v⟩) hdb hd hentry).1
  rw [hbase, olderValues, flatMap_filter_eq]
  simpa only [decide_eq_true_eq] using hperm

/-- Joined rows of one register name are of different samples. -/
theorem telemetry_pairwise (hdb : db.TablesKeyed) : db.telemetry.Pairwise fun t u =>
    t.value.registerName = u.value.registerName → t.sample.id ≠ u.sample.id := by
  have hsamples : db.samples.Pairwise fun s s' => s.id ≠ s'.id := List.pairwise_map.mp hdb.samples
  have hvalues : db.values.Pairwise fun v v' => v.key ≠ v'.key := List.pairwise_map.mp hdb.values
  rw [StorageDb.telemetry, List.pairwise_flatMap]
  constructor
  · intro s _
    rw [List.pairwise_map]
    refine List.Pairwise.imp_of_mem ?_ (hvalues.filter _)
    intro v v' hv hv' hkey hname
    simp only [List.mem_filter, decide_eq_true_eq] at hv hv'
    exact absurd (Prod.ext (hv.2.trans hv'.2.symm) hname) hkey
  · refine hsamples.imp fun {s s'} hid t ht u hu _ => ?_
    obtain ⟨v, -, rfl⟩ := List.mem_map.mp ht
    obtain ⟨v', -, rfl⟩ := List.mem_map.mp hu
    exact hid

/-- The values of a register differ in time. -/
theorem seriesOf_keyed (hdb : db.TablesKeyed) :
    Keyed SeriesPoint.time (seriesOf pick cutoffMs device entry db) := by
  have hpoint : ∀ {t : ArchivedRow} {p : SeriesPoint V}, p ∈ pointsOf pick t →
      p.sampleId = t.sample.id := by
    intro t p hp
    obtain ⟨x, -, rfl⟩ := Option.map_eq_some_iff.mp (Option.mem_toList.mp hp)
    rfl
  unfold Keyed seriesOf
  rw [List.Nodup, List.pairwise_map, List.pairwise_flatMap]
  constructor
  · intro t _
    unfold pointsOf
    cases pick t.value <;> simp
  · refine List.Pairwise.imp_of_mem ?_ ((telemetry_pairwise hdb).filter _)
    intro t u ht hu hid p hp q hq htime
    simp only [List.mem_filter, decide_eq_true_eq] at ht hu
    have hname : t.value.registerName = u.value.registerName :=
      congrArg Prod.fst (ht.2.2.1.trans hu.2.2.1.symm)
    refine hid hname ?_
    rw [← hpoint hp, ← hpoint hq]
    exact congrArg (fun x => (ofLex x).2) htime

theorem mem_observedRows {o : Observed V} (ho : o ∈ observedRows pick cutoffMs db) :
    o.observedAtMs < cutoffMs ∧ ∃ d ∈ db.dictionary, d.registerKey = o.registerKey := by
  simp only [observedRows, List.mem_flatMap, List.mem_filter, decide_eq_true_eq] at ho
  obtain ⟨v, -, s, -, d, hd, ho⟩ := ho
  split at ho
  · case isTrue hold =>
      obtain ⟨x, -, rfl⟩ := Option.map_eq_some_iff.mp (Option.mem_toList.mp ho)
      exact ⟨hold, d, hd.1, rfl⟩
  · cases ho

/-! ## the windows -/

theorem Observed.before_iff {a b : Observed V} : a.before b ↔ a.point.time ≤ b.point.time := by
  rw [Observed.before, SeriesPoint.time, SeriesPoint.time, Prod.Lex.toLex_le_toLex]
  rfl

/-- `ORDER BY observed_at_ms, sample_id`, read as the points of the rows. -/
theorem sorted_points (rows : List (Observed V)) :
    (rows.insertionSort Observed.before).map Observed.point =
      orderBy SeriesPoint.time .asc (rows.map Observed.point) :=
  List.map_insertionSort _ _ Observed.point rows fun _ _ _ _ => Observed.before_iff

/-- The row `LAG` reads is the last one before in its series. -/
theorem previous_point {rows : List (Observed V)} {series : List (SeriesPoint V)}
    {o : Observed V} (hkeyed : Keyed SeriesPoint.time series)
    (hseries : ((rows.filter fun q => q.series = o.series).map Observed.point).Perm series) :
    (Observed.previous rows o).map Observed.point =
      ((orderBy SeriesPoint.time .asc series).filter fun p => p.time < o.point.time).getLast? := by
  have hfilter : (rows.filter fun q => q.series = o.series ∧ ¬ o.before q).map Observed.point =
      ((rows.filter fun q => q.series = o.series).map Observed.point).filter
        fun p => p.time < o.point.time := by
    rw [List.filter_map, List.filter_filter]
    congr 1
    refine List.filter_congr fun q _ => ?_
    simp [Observed.before_iff, Bool.and_comm]
  rw [Observed.previous, ← List.getLast?_map, sorted_points, hfilter, ← orderBy_filter hkeyed]
  exact congrArg List.getLast? (orderBy_eq_of_perm (hkeyed.filter _) (hseries.filter _))

end Series

end MorningstarModbus
