import Mathlib.Algebra.BigOperators.Ring.Finset
import MorningstarModbus.History.Merge
import MorningstarModbus.History.TimeRange
import MorningstarModbus.Lib.Join

/-!
# MorningstarModbus.History.BucketStats

The buckets of a register's history combine to its statistics over the range.

* `Combines` — the law: counts and transitions add up, the minimum of the
  minima and the maximum of the maxima, the weighted mean of the averages, the
  first value of the earliest bucket and the last of the latest;
* `Sqlite.KeepsOrder` — what is used of SQLite's date functions;
* `buckets_combine` — the buckets of a history obey it, and each observation is
  in one bucket.
-/

namespace MorningstarModbus

open Calendar Query Table

/-! ## the date functions -/

/-- SQLite's date functions over some times: `strftime('%s', …)` keeps their order, and
the text of a bucket's start that of the starts. -/
structure Sqlite.KeepsOrder (sqlite : Sqlite) (bucketSeconds : Int) (times : List Timestamp) :
    Prop where
  epoch : ∀ t ∈ times, ∃ e, sqlite.epoch t.isoformat = some e
  epoch_le : ∀ t ∈ times, ∀ u ∈ times, t ≤ u → ∀ e f, sqlite.epoch t.isoformat = some e →
    sqlite.epoch u.isoformat = some f → e ≤ f
  isoTime : ∀ t ∈ times, ∀ e, bucketEpoch sqlite bucketSeconds t.isoformat = some e →
    ∃ text, sqlite.isoTime e = some text
  isoTime_lt : ∀ t ∈ times, ∀ u ∈ times, ∀ e f,
    bucketEpoch sqlite bucketSeconds t.isoformat = some e →
    bucketEpoch sqlite bucketSeconds u.isoformat = some f → e < f →
      ∀ a b, sqlite.isoTime e = some a → sqlite.isoTime f = some b → a < b

/-! ## the law -/

/-- Where a bucket starts; a null start comes first. -/
def AggregateRow.start (r : AggregateRow) : WithBot String := r.bucketStart.elim ⊥ WithBot.some

/-- Buckets that combine to the statistics of their register. -/
structure Combines (buckets : List AggregateRow) (s : StatsRow) : Prop where
  count : (buckets.map AggregateRow.count).sum = s.count
  min : (buckets.filterMap AggregateRow.minValue).min? = s.min
  max : (buckets.filterMap AggregateRow.maxValue).max? = s.max
  averaged : s.kind = .numeric → ∀ b ∈ buckets, ∃ a, b.avgValue = some a
  avg : s.kind = .numeric → s.avg = some
    ((buckets.map fun b => (b.count : ℚ) * b.avgValue.getD 0).sum /
      (buckets.map fun b => (b.count : ℚ)).sum)
  transitions : s.kind = .text → s.transitions = some
    (buckets.map fun b => b.transitions.getD 0).sum
  first : ∃ b ∈ buckets, (∀ b' ∈ buckets, b.start ≤ b'.start) ∧ b.firstValue = s.first
  last : ∃ b ∈ buckets, (∀ b' ∈ buckets, b'.start ≤ b.start) ∧ b.lastValue = s.last

/-- The buckets of a history. -/
def bucketRows {R : Type} (items : List (HistoryItem R)) : List AggregateRow :=
  items.filterMap fun
    | .raw _ => none
    | .bucket row => some row

/-- An observation has a value of the kind. -/
def Joined.has (j : Joined) : ValueKind → Bool
  | .numeric => j.value.numericValue.isSome
  | .text => j.value.textValue.isSome
  | .null => false

/-- A bucket is of an observation's register and of its time. -/
def AggregateRow.covers (sqlite : Sqlite) (bucketSeconds : Int) (b : AggregateRow) (j : Joined) :
    Bool :=
  j.has b.kind && b.registerName == j.value.registerName &&
    b.bucketStart == (bucketEpoch sqlite bucketSeconds j.sample.observedAt).bind sqlite.isoTime

section Combines

variable {buckets buckets' : List AggregateRow} {s : StatsRow}

theorem Combines.of_perm (hperm : buckets.Perm buckets') (h : Combines buckets' s) :
    Combines buckets s where
  count := by rw [(hperm.map _).sum_eq, h.count]
  min := by
    rw [← h.min]
    exact Option.ext fun m => by simp only [List.min?_eq_some_iff, (hperm.filterMap _).mem_iff]
  max := by
    rw [← h.max]
    exact Option.ext fun m => by simp only [List.max?_eq_some_iff, (hperm.filterMap _).mem_iff]
  averaged := fun hkind b hb => h.averaged hkind b (hperm.mem_iff.mp hb)
  avg := fun hkind => by rw [h.avg hkind, (hperm.map _).sum_eq, (hperm.map _).sum_eq]
  transitions := fun hkind => by rw [h.transitions hkind, (hperm.map _).sum_eq]
  first := by
    obtain ⟨b, hb, hle, hfirst⟩ := h.first
    exact ⟨b, hperm.mem_iff.mpr hb, fun b' hb' => hle b' (hperm.mem_iff.mp hb'), hfirst⟩
  last := by
    obtain ⟨b, hb, hle, hlast⟩ := h.last
    exact ⟨b, hperm.mem_iff.mpr hb, fun b' hb' => hle b' (hperm.mem_iff.mp hb'), hlast⟩

end Combines


/-! ## one register -/

/-- Where the bucket of a key starts. -/
def keyStart (sqlite : Sqlite) (k : String × Option Int) : WithBot String :=
  (k.2.bind sqlite.isoTime).elim ⊥ WithBot.some

/-- The least of the least elements. -/
theorem min?_filterMap (xss : List (List ℚ)) :
    (xss.filterMap List.min?).min? = xss.flatten.min? := by
  refine Option.ext fun m => ?_
  simp only [List.min?_eq_some_iff, List.mem_filterMap, List.mem_flatten, forall_exists_index,
    and_imp]
  constructor
  · intro h
    obtain ⟨⟨xs, hxs, hm, -⟩, hle⟩ := h
    refine ⟨⟨xs, hxs, hm⟩, fun x ys hys hx => ?_⟩
    obtain ⟨m', hm'⟩ := Option.isSome_iff_exists.mp (List.isSome_min?_of_mem hx)
    obtain ⟨hmem, hleast⟩ := List.min?_eq_some_iff.mp hm'
    exact (hle m' ys hys hmem hleast).trans (hleast x hx)
  · intro h
    obtain ⟨⟨xs, hxs, hm⟩, hle⟩ := h
    exact ⟨⟨xs, hxs, hm, fun x hx => hle x xs hxs hx⟩,
      fun x ys hys hx _ => hle x ys hys hx⟩

theorem max?_filterMap (xss : List (List ℚ)) :
    (xss.filterMap List.max?).max? = xss.flatten.max? := by
  refine Option.ext fun m => ?_
  simp only [List.max?_eq_some_iff, List.mem_filterMap, List.mem_flatten, forall_exists_index,
    and_imp]
  constructor
  · intro h
    obtain ⟨⟨xs, hxs, hm, -⟩, hle⟩ := h
    refine ⟨⟨xs, hxs, hm⟩, fun x ys hys hx => ?_⟩
    obtain ⟨m', hm'⟩ := Option.isSome_iff_exists.mp (List.isSome_max?_of_mem hx)
    obtain ⟨hmem, hgreatest⟩ := List.max?_eq_some_iff.mp hm'
    exact (hgreatest x hx).trans (hle m' ys hys hmem hgreatest)
  · intro h
    obtain ⟨⟨xs, hxs, hm⟩, hle⟩ := h
    exact ⟨⟨xs, hxs, hm, fun x hx => hle x xs hxs hx⟩,
      fun x ys hys hx _ => hle x ys hys hx⟩

section Register

variable {sqlite : Sqlite} {bucketSeconds : Int}

/-- The buckets of a register's numbers. -/
theorem combines_numeric (name : String) {cs : List (Cell ℚ)} (hne : cs ≠ [])
    (hsorted : cs.Pairwise fun c c' => keyStart sqlite (bucketOf sqlite bucketSeconds c) ≤
      keyStart sqlite (bucketOf sqlite bucketSeconds c')) :
    Combines ((groups (bucketOf sqlite bucketSeconds) cs).map (numericAggregate sqlite average))
      (numericStats sqlite average (name, cs)) := by
  have hflat := flatMap_groups_perm (bucketOf sqlite bucketSeconds) cs
  have hvalues : ((groups (bucketOf sqlite bucketSeconds) cs).map
      fun g => g.2.map Cell.value).flatten.Perm (cs.map Cell.value) := by
    have hmap := hflat.map Cell.value
    rwa [List.map_flatMap, List.flatMap_def] at hmap
  have hlength := sum_length_groups (bucketOf sqlite bucketSeconds) cs
  constructor
  case count =>
    rw [List.map_map]
    exact hlength
  case min =>
    have hmin := min?_filterMap ((groups (bucketOf sqlite bucketSeconds) cs).map
      fun g => g.2.map Cell.value)
    rw [List.filterMap_map] at hmin ⊢
    refine hmin.trans (Option.ext fun m => ?_)
    simp only [numericStats, List.min?_eq_some_iff, hvalues.mem_iff]
  case max =>
    have hmax := max?_filterMap ((groups (bucketOf sqlite bucketSeconds) cs).map
      fun g => g.2.map Cell.value)
    rw [List.filterMap_map] at hmax ⊢
    refine hmax.trans (Option.ext fun m => ?_)
    simp only [numericStats, List.max?_eq_some_iff, hvalues.mem_iff]
  case averaged =>
    intro _ b hb
    obtain ⟨g, -, rfl⟩ := List.mem_map.mp hb
    exact ⟨average g.2, rfl⟩
  case avg =>
    intro _
    have hsum : ((groups (bucketOf sqlite bucketSeconds) cs).map
        fun g => (g.2.length : ℚ) * average g.2).sum = (cs.map Cell.value).sum := by
      rw [List.map_congr_left fun g _ => length_mul_average g.2, ← hvalues.sum_eq,
        List.sum_flatten, List.map_map]
      rfl
    have hcount : ((groups (bucketOf sqlite bucketSeconds) cs).map
        fun g => (g.2.length : ℚ)).sum = cs.length := by
      rw [← hlength, Nat.cast_list_sum, List.map_map]
      rfl
    rw [List.map_map, List.map_map]
    show some (average cs) = some (((groups (bucketOf sqlite bucketSeconds) cs).map
      fun g => (g.2.length : ℚ) * average g.2).sum /
        ((groups (bucketOf sqlite bucketSeconds) cs).map fun g => (g.2.length : ℚ)).sum)
    rw [hsum, hcount, average]
  case transitions =>
    intro hkind
    cases hkind
  case first =>
    obtain ⟨g, hg, hhead, hfirst⟩ := groups_first hsorted hne
    refine ⟨_, List.mem_map_of_mem hg, fun b hb => ?_, ?_⟩
    · obtain ⟨g', hg', rfl⟩ := List.mem_map.mp hb
      exact hfirst g' hg'
    · show CellValue.ofOption .number g.2.head? = CellValue.ofOption .number cs.head?
      rw [hhead]
  case last =>
    obtain ⟨g, hg, hhead, hlast⟩ := groups_last hsorted hne
    refine ⟨_, List.mem_map_of_mem hg, fun b hb => ?_, ?_⟩
    · obtain ⟨g', hg', rfl⟩ := List.mem_map.mp hb
      exact hlast g' hg'
    · show CellValue.ofOption .number g.2.getLast? = CellValue.ofOption .number cs.getLast?
      rw [hhead]

theorem map_fst_lag (cs : List (Cell String)) : (lag cs).map Prod.fst = cs :=
  List.map_fst_zip (by simp)

/-- The buckets of a register's texts. -/
theorem combines_text (name : String) {cs : List (Cell String)} (hne : cs ≠ [])
    (hsorted : cs.Pairwise fun c c' => keyStart sqlite (bucketOf sqlite bucketSeconds c) ≤
      keyStart sqlite (bucketOf sqlite bucketSeconds c')) :
    Combines (textBucketsOf sqlite bucketSeconds cs) (textStats sqlite (name, cs)) := by
  obtain ⟨key, hkey⟩ : ∃ key : Cell String × Option String → String × Option Int,
    key = fun c => bucketOf sqlite bucketSeconds c.1 := ⟨_, rfl⟩
  have hlag : (lag cs).Pairwise fun c c' => keyStart sqlite (key c) ≤ keyStart sqlite (key c') := by
    rw [← map_fst_lag cs, List.pairwise_map] at hsorted
    rwa [hkey]
  have hnelag : lag cs ≠ [] := by
    intro hnil
    have hmap := map_fst_lag cs
    rw [hnil] at hmap
    exact hne hmap.symm
  have hflat := flatMap_groups_perm key (lag cs)
  rw [textBucketsOf, ← hkey]
  constructor
  case count =>
    have hlength := sum_length_groups key (lag cs)
    have hcs : (lag cs).length = cs.length := by
      rw [← List.length_map Prod.fst, map_fst_lag]
    rw [List.map_map, textStats, ← hcs, ← hlength]
    rfl
  case min =>
    have hnone : List.filterMap (AggregateRow.minValue ∘ textAggregate sqlite)
        (groups key (lag cs)) = [] := List.filterMap_eq_nil_iff.mpr fun g _ => rfl
    rw [List.filterMap_map, hnone]
    rfl
  case max =>
    have hnone : List.filterMap (AggregateRow.maxValue ∘ textAggregate sqlite)
        (groups key (lag cs)) = [] := List.filterMap_eq_nil_iff.mpr fun g _ => rfl
    rw [List.filterMap_map, hnone]
    rfl
  case averaged =>
    intro hkind
    cases hkind
  case avg =>
    intro hkind
    cases hkind
  case transitions =>
    intro _
    have hcount := hflat.countP_eq changed
    rw [List.countP_flatMap] at hcount
    rw [List.map_map]
    exact congrArg some hcount.symm
  case first =>
    obtain ⟨g, hg, hhead, hfirst⟩ := groups_first hlag hnelag
    refine ⟨_, List.mem_map_of_mem hg, fun b hb => ?_, ?_⟩
    · obtain ⟨g', hg', rfl⟩ := List.mem_map.mp hb
      exact hfirst g' hg'
    · show CellValue.ofOption .text (g.2.head?.map Prod.fst) = CellValue.ofOption .text cs.head?
      rw [hhead, ← List.head?_map, map_fst_lag]
  case last =>
    obtain ⟨g, hg, hhead, hlast⟩ := groups_last hlag hnelag
    refine ⟨_, List.mem_map_of_mem hg, fun b hb => ?_, ?_⟩
    · obtain ⟨g', hg', rfl⟩ := List.mem_map.mp hb
      exact hlast g' hg'
    · show CellValue.ofOption .text (g.2.getLast?.map Prod.fst) =
        CellValue.ofOption .text cs.getLast?
      rw [hhead, ← List.getLast?_map, map_fst_lag]

end Register


/-! ## the order of the buckets -/

theorem tdiv_mul_le {e f : Int} (h : e ≤ f) (b : Int) : e.tdiv b * b ≤ f.tdiv b * b := by
  obtain hneg | rfl | hpos := lt_trichotomy b 0
  · have hle := Int.mul_le_mul_of_nonneg_right
      (Int.tdiv_le_tdiv (c := -b) (by omega) h) (show 0 ≤ -b by omega)
    rwa [Int.tdiv_neg, Int.tdiv_neg, Int.neg_mul_neg, Int.neg_mul_neg] at hle
  · simp
  · exact Int.mul_le_mul_of_nonneg_right (Int.tdiv_le_tdiv hpos h) hpos.le

section Store

variable {sqlite : Sqlite} {bucketSeconds : Int} {db : TelemetryDb} {time : SampleRow → Timestamp}
  {deviceId : String} {names : List String} {range : TimeRange}

theorem bucketEpoch_le (hstored : ∀ s ∈ db.samples, s.observedAt = utcnow (time s))
    (hsqlite : sqlite.KeepsOrder bucketSeconds (db.samples.map time)) {s s' : SampleRow}
    (hs : s ∈ db.samples) (hs' : s' ∈ db.samples) (hle : s.observedAt ≤ s'.observedAt) :
    (bucketSeconds = 0 ∧ bucketEpoch sqlite bucketSeconds s.observedAt = none ∧
        bucketEpoch sqlite bucketSeconds s'.observedAt = none) ∨
      ∃ e f, e ≤ f ∧ bucketEpoch sqlite bucketSeconds s.observedAt = some e ∧
        bucketEpoch sqlite bucketSeconds s'.observedAt = some f := by
  by_cases hzero : bucketSeconds = 0
  · exact .inl ⟨hzero, if_pos hzero, if_pos hzero⟩
  · right
    rw [hstored s hs, hstored s' hs'] at hle ⊢
    have ht := List.mem_map_of_mem (f := time) hs
    have ht' := List.mem_map_of_mem (f := time) hs'
    obtain ⟨e, he⟩ := hsqlite.epoch _ ht
    obtain ⟨f, hf⟩ := hsqlite.epoch _ ht'
    have hef := hsqlite.epoch_le _ ht _ ht' (Timestamp.isoformat_le.mp hle) e f he hf
    refine ⟨_, _, tdiv_mul_le hef bucketSeconds, ?_, ?_⟩
    · rw [bucketEpoch, if_neg hzero, utcnow, he, Option.map_some]
    · rw [bucketEpoch, if_neg hzero, utcnow, hf, Option.map_some]

/-- The texts of the starts of two buckets. -/
theorem isoTime_of_epochs (hstored : ∀ s ∈ db.samples, s.observedAt = utcnow (time s))
    (hsqlite : sqlite.KeepsOrder bucketSeconds (db.samples.map time)) {s s' : SampleRow}
    (hs : s ∈ db.samples) (hs' : s' ∈ db.samples) {e f : Int}
    (he : bucketEpoch sqlite bucketSeconds s.observedAt = some e)
    (hf : bucketEpoch sqlite bucketSeconds s'.observedAt = some f) :
    ∃ a b, sqlite.isoTime e = some a ∧ sqlite.isoTime f = some b ∧ (e < f → a < b) := by
  rw [hstored s hs, utcnow] at he
  rw [hstored s' hs', utcnow] at hf
  have ht := List.mem_map_of_mem (f := time) hs
  have ht' := List.mem_map_of_mem (f := time) hs'
  obtain ⟨a, ha⟩ := hsqlite.isoTime _ ht e he
  obtain ⟨b, hb⟩ := hsqlite.isoTime _ ht' f hf
  exact ⟨a, b, ha, hb, fun hlt => hsqlite.isoTime_lt _ ht _ ht' e f he hf hlt a b ha hb⟩

/-- Later samples are in the same bucket or one that starts later. -/
theorem keyStart_le (hstored : ∀ s ∈ db.samples, s.observedAt = utcnow (time s))
    (hsqlite : sqlite.KeepsOrder bucketSeconds (db.samples.map time)) {V : Type} {c c' : Cell V}
    (hc : c.joined.sample ∈ db.samples) (hc' : c'.joined.sample ∈ db.samples)
    (hle : c.observedAt ≤ c'.observedAt) :
    keyStart sqlite (bucketOf sqlite bucketSeconds c) ≤
      keyStart sqlite (bucketOf sqlite bucketSeconds c') := by
  unfold keyStart bucketOf
  obtain ⟨-, hnone, hnone'⟩ | ⟨e, f, hef, he, hf⟩ := bucketEpoch_le hstored hsqlite hc hc' hle
  · rw [Cell.observedAt, Cell.observedAt, hnone, hnone']
  · obtain ⟨a, b, ha, hb, hlt⟩ := isoTime_of_epochs hstored hsqlite hc hc' he hf
    rw [Cell.observedAt, Cell.observedAt, he, hf]
    show (sqlite.isoTime e).elim ⊥ WithBot.some ≤ (sqlite.isoTime f).elim ⊥ WithBot.some
    rw [ha, hb]
    obtain hlt' | rfl := lt_or_eq_of_le hef
    · exact WithBot.coe_le_coe.mpr (hlt hlt').le
    · rw [ha] at hb
      rw [Option.some.inj hb]

/-- Buckets that start at one text are one bucket. -/
theorem bucketEpoch_inj (hstored : ∀ s ∈ db.samples, s.observedAt = utcnow (time s))
    (hsqlite : sqlite.KeepsOrder bucketSeconds (db.samples.map time)) {s s' : SampleRow}
    (hs : s ∈ db.samples) (hs' : s' ∈ db.samples)
    (hstart : (bucketEpoch sqlite bucketSeconds s.observedAt).bind sqlite.isoTime =
      (bucketEpoch sqlite bucketSeconds s'.observedAt).bind sqlite.isoTime) :
    bucketEpoch sqlite bucketSeconds s.observedAt =
      bucketEpoch sqlite bucketSeconds s'.observedAt := by
  have hcases : ∀ {r r' : SampleRow}, r ∈ db.samples → r' ∈ db.samples →
      r.observedAt ≤ r'.observedAt →
      (bucketEpoch sqlite bucketSeconds r.observedAt).bind sqlite.isoTime =
        (bucketEpoch sqlite bucketSeconds r'.observedAt).bind sqlite.isoTime →
      bucketEpoch sqlite bucketSeconds r.observedAt =
        bucketEpoch sqlite bucketSeconds r'.observedAt := by
    intro r r' hr hr' hle heq
    obtain ⟨-, hnone, hnone'⟩ | ⟨e, f, hef, he, hf⟩ := bucketEpoch_le hstored hsqlite hr hr' hle
    · rw [hnone, hnone']
    · obtain ⟨a, b, ha, hb, hlt⟩ := isoTime_of_epochs hstored hsqlite hr hr' he hf
      rw [he, hf, Option.bind_some, Option.bind_some, ha, hb, Option.some.injEq] at heq
      obtain hlt' | hsame := lt_or_eq_of_le hef
      · exact absurd heq (hlt hlt').ne
      · rw [he, hf, hsame]
  obtain hle | hle := le_total s.observedAt s'.observedAt
  · exact hcases hs hs' hle hstart
  · exact (hcases hs' hs hle hstart.symm).symm

/-- The buckets of one register and kind. -/
def bucketsOf (name : String) (kind : ValueKind) (buckets : List AggregateRow) :
    List AggregateRow :=
  buckets.filter fun b => b.registerName = name ∧ b.kind = kind

/-- The cells of one register in chronological order. -/
def registerCells {V : Type} (column : RegisterValue → Option V) (name : String)
    (rows : List Joined) : List (Cell V) :=
  (cells column (orderBy Joined.key .asc rows)).filter fun c => c.registerName = name

section Rows

variable {rows : List Joined} {name : String}

theorem chronological_filter {V : Type} {column : RegisterValue → Option V}
    (hkey : Keyed Joined.key rows) (name : String) :
    chronological ((cells column rows).filter fun c => c.registerName = name) =
      registerCells column name rows :=
  chronological_cells hkey fun _ hc => of_decide_eq_true hc

theorem mem_registerCells {V : Type} {column : RegisterValue → Option V} {c : Cell V}
    (hc : c ∈ registerCells column name rows) :
    c.joined ∈ rows ∧ column c.joined.value = some c.value ∧ c.registerName = name := by
  rw [registerCells, List.mem_filter, decide_eq_true_eq] at hc
  obtain ⟨hrow, hvalue⟩ := mem_cells hc.1
  exact ⟨(mem_orderBy _ _ _).mp hrow, hvalue, hc.2⟩

theorem registerCells_sorted {V : Type} {column : RegisterValue → Option V} :
    (registerCells column name rows).Pairwise fun c c' => c.observedAt ≤ c'.observedAt := by
  have hrows : ((cells column (orderBy Joined.key .asc rows)).map Cell.joined).Pairwise
      (Ordered Joined.key .asc) := by
    rw [map_joined_cells]
    exact (pairwise_orderBy Joined.key .asc rows).filter _
  refine ((List.pairwise_map.mp hrows).filter _).imp fun {c c'} hle => ?_
  have htime := Joined.time_le hle
  exact Prod.Lex.monotone_fst _ _ htime

/-- The numeric buckets of a register. -/
theorem bucketsOf_numeric (hkey : Keyed Joined.key rows) (name : String) :
    (bucketsOf name .numeric (aggregatedRows sqlite bucketSeconds rows)).Perm
      ((groups (bucketOf sqlite bucketSeconds)
        (registerCells RegisterValue.numericValue name rows)).map
          (numericAggregate sqlite average)) := by
  have htexts : bucketsOf name .numeric (textBuckets sqlite bucketSeconds rows) = [] := by
    rw [bucketsOf, List.filter_eq_nil_iff]
    intro b hb
    obtain ⟨g, -, hb⟩ := List.mem_flatMap.mp hb
    obtain ⟨g', -, rfl⟩ := List.mem_map.mp hb
    simp [textAggregate]
  have hnumbers : bucketsOf name .numeric (numericBuckets sqlite bucketSeconds rows) =
      (groups (bucketOf sqlite bucketSeconds)
        ((cells RegisterValue.numericValue rows).filter fun c => c.registerName = name)).map
          fun g => numericAggregate sqlite average (g.1, chronological g.2) := by
    have hgroups := groups_filter (bucketOf sqlite bucketSeconds)
      (fun k => decide (k.1 = name)) (cells RegisterValue.numericValue rows)
    have hfilter : (groups (bucketOf sqlite bucketSeconds) ((cells RegisterValue.numericValue
        rows).filter fun c => c.registerName = name)) =
        (groups (bucketOf sqlite bucketSeconds) (cells RegisterValue.numericValue rows)).filter
          fun g => g.1.1 = name := hgroups.symm
    rw [bucketsOf, numericBuckets, List.filter_map, hfilter]
    refine congrArg _ (List.filter_congr fun g _ => ?_)
    simp [numericAggregate]
  have happend : bucketsOf name .numeric (aggregatedRows sqlite bucketSeconds rows) =
      bucketsOf name .numeric (numericBuckets sqlite bucketSeconds rows) := by
    rw [aggregatedRows, bucketsOf, List.filter_append]
    exact (congrArg _ htexts).trans (List.append_nil _)
  rw [happend, hnumbers]
  refine map_groups_perm ((cells_perm (orderBy_perm Joined.key .asc rows).symm).filter _)
    fun k => ?_
  rw [registerCells, List.filter_filter, List.filter_filter, chronological_cells hkey]
  intro c hc
  rw [Bool.and_eq_true, decide_eq_true_eq, decide_eq_true_eq] at hc
  exact hc.2

theorem textBucketsOf_name {cs : List (Cell String)} {g : String}
    (hcs : ∀ c ∈ cs, c.registerName = g) :
    ∀ b ∈ textBucketsOf sqlite bucketSeconds cs, b.registerName = g ∧ b.kind = .text := by
  intro b hb
  obtain ⟨g', hg', rfl⟩ := List.mem_map.mp hb
  obtain ⟨c, hc⟩ := List.exists_mem_of_ne_nil _ (mem_groups hg').2
  obtain ⟨hmem, hkey⟩ := mem_of_mem_groups hg' hc
  have hcell : c.1 ∈ cs := by
    rw [← map_fst_lag cs]
    exact List.mem_map_of_mem hmem
  refine ⟨?_, rfl⟩
  show g'.1.1 = g
  rw [← hkey]
  exact hcs c.1 hcell

/-- The text buckets of a register. -/
theorem bucketsOf_text (hkey : Keyed Joined.key rows) (name : String) :
    bucketsOf name .text (aggregatedRows sqlite bucketSeconds rows) =
      textBucketsOf sqlite bucketSeconds (registerCells RegisterValue.textValue name rows) := by
  have hnumbers : bucketsOf name .text (numericBuckets sqlite bucketSeconds rows) = [] := by
    rw [bucketsOf, List.filter_eq_nil_iff]
    intro b hb
    obtain ⟨g, -, rfl⟩ := List.mem_map.mp hb
    simp [numericAggregate]
  have hgroup : ∀ g ∈ groups Cell.registerName (cells RegisterValue.textValue rows),
      (textBucketsOf sqlite bucketSeconds (chronological g.2)).filter
        (fun b => b.registerName = name ∧ b.kind = .text) =
      if g.1 = name then textBucketsOf sqlite bucketSeconds (chronological g.2) else [] := by
    intro g hg
    have hcs : ∀ c ∈ chronological g.2, c.registerName = g.1 := fun c hc =>
      (mem_of_mem_groups hg ((mem_orderBy _ _ _).mp hc)).2
    have hname := @textBucketsOf_name sqlite bucketSeconds _ _ hcs
    split
    · case isTrue heq =>
        rw [List.filter_eq_self]
        exact fun b hb => decide_eq_true ⟨(hname b hb).1.trans heq, (hname b hb).2⟩
    · case isFalse hne =>
        rw [List.filter_eq_nil_iff]
        intro b hb hmatch
        exact hne ((hname b hb).1.symm.trans (of_decide_eq_true hmatch).1)
  have htexts : bucketsOf name .text (textBuckets sqlite bucketSeconds rows) =
      (groups Cell.registerName ((cells RegisterValue.textValue rows).filter
        fun c => c.registerName = name)).flatMap fun g =>
          textBucketsOf sqlite bucketSeconds (chronological g.2) := by
    have hfilter := groups_filter Cell.registerName (fun k => decide (k = name))
      (cells RegisterValue.textValue rows)
    rw [bucketsOf, textBuckets, List.filter_flatMap, List.flatMap_congr hgroup, ← hfilter,
      flatMap_filter_eq]
    simp
  have happend : bucketsOf name .text (aggregatedRows sqlite bucketSeconds rows) =
      bucketsOf name .text (textBuckets sqlite bucketSeconds rows) := by
    rw [aggregatedRows, bucketsOf, List.filter_append]
    exact congrArg (· ++ _) hnumbers
  rw [happend, htexts, ← chronological_filter hkey]
  by_cases hnil : (cells RegisterValue.textValue rows).filter
      (fun c => c.registerName = name) = []
  · rw [hnil]
    rfl
  · rw [groups_of_forall hnil fun c hc => of_decide_eq_true (List.mem_filter.mp hc).2]
    simp

end Rows

/-! ## one bucket for each observation -/

/-- The key of the bucket that an observation is in. -/
def Joined.bucket (sqlite : Sqlite) (bucketSeconds : Int) (j : Joined) : String × Option Int :=
  (j.value.registerName, bucketEpoch sqlite bucketSeconds j.sample.observedAt)

section Covers

variable {γ : Type} {joined : γ → Joined} {cs : List γ} {rows : List Joined}
  {f : (String × Option Int) × List γ → AggregateRow} {kind : ValueKind} {name : String}

/-- The rows of one register and kind, grouped into buckets. -/
structure Bucketed (sqlite : Sqlite) (joined : γ → Joined) (cs : List γ) (rows : List Joined)
    (f : (String × Option Int) × List γ → AggregateRow) (kind : ValueKind) (name : String) :
    Prop where
  perm : (cs.map joined).Perm
    (rows.filter fun j => j.has kind && decide (j.value.registerName = name))
  registerName : ∀ g, (f g).registerName = g.1.1
  kind : ∀ g, (f g).kind = kind
  bucketStart : ∀ g, (f g).bucketStart = g.1.2.bind sqlite.isoTime
  count : ∀ g, (f g).count = g.2.length

variable (h : Bucketed sqlite joined cs rows f kind name)
  (hstored : ∀ s ∈ db.samples, s.observedAt = utcnow (time s))
  (hsqlite : sqlite.KeepsOrder bucketSeconds (db.samples.map time))
  (hrows : ∀ j ∈ rows, j.sample ∈ db.samples)
include h

theorem Bucketed.mem {c : γ} (hc : c ∈ cs) :
    joined c ∈ rows ∧ (joined c).has kind = true ∧ (joined c).value.registerName = name := by
  have hmem := h.perm.mem_iff.mp (List.mem_map_of_mem hc)
  simpa using hmem

include hstored hsqlite hrows

theorem Bucketed.covers_iff {g : (String × Option Int) × List γ}
    (hg : g ∈ groups (fun c => (joined c).bucket sqlite bucketSeconds) cs) {j : Joined}
    (hj : j ∈ rows) :
    (f g).covers sqlite bucketSeconds j = true ↔
      j.has kind = true ∧ j.bucket sqlite bucketSeconds = g.1 := by
  obtain ⟨c, hc⟩ := List.exists_mem_of_ne_nil _ (mem_groups hg).2
  obtain ⟨hmem, hkey⟩ := mem_of_mem_groups hg hc
  simp only [AggregateRow.covers, Bool.and_eq_true, beq_iff_eq, h.kind, h.registerName,
    h.bucketStart, and_assoc]
  refine and_congr_right fun _ => ?_
  rw [← hkey]
  constructor
  · intro hcovers
    have hepoch := bucketEpoch_inj hstored hsqlite (hrows _ (h.mem hmem).1) (hrows j hj)
      hcovers.2
    exact Prod.ext hcovers.1.symm hepoch.symm
  · intro hbucket
    rw [← hbucket]
    exact ⟨rfl, rfl⟩

/-- A bucket counts the observations that it covers. -/
theorem Bucketed.count_eq {g : (String × Option Int) × List γ}
    (hg : g ∈ groups (fun c => (joined c).bucket sqlite bucketSeconds) cs) :
    (f g).count = rows.countP ((f g).covers sqlite bucketSeconds) ∧ 0 < (f g).count := by
  have hpos : 0 < (f g).count := by
    rw [h.count]
    exact List.length_pos_of_ne_nil (mem_groups hg).2
  refine ⟨?_, hpos⟩
  obtain ⟨c, hc⟩ := List.exists_mem_of_ne_nil _ (mem_groups hg).2
  obtain ⟨hmem, hkey⟩ := mem_of_mem_groups hg hc
  have hname : g.1.1 = name := by
    rw [← hkey]
    exact (h.mem hmem).2.2
  have hcells : g.2.length =
      (cs.map joined).countP fun j => j.bucket sqlite bucketSeconds = g.1 := by
    rw [(mem_groups hg).1, ← List.countP_eq_length_filter, List.countP_map]
    rfl
  rw [h.count, hcells, h.perm.countP_eq, List.countP_filter]
  refine List.countP_congr fun j hj => ?_
  rw [h.covers_iff hstored hsqlite hrows hg hj, Bool.and_eq_true, Bool.and_eq_true,
    decide_eq_true_eq, decide_eq_true_eq]
  constructor
  · intro hboth
    exact ⟨hboth.2.1, hboth.1⟩
  · intro hboth
    refine ⟨hboth.2, hboth.1, ?_⟩
    rw [← hname, ← hboth.2]
    rfl

/-- An observation is in one bucket. -/
theorem Bucketed.exists_unique {j : Joined} (hj : j ∈ rows) (hkind : j.has kind = true)
    (hname : j.value.registerName = name) :
    ∃! b, b ∈ (groups (fun c => (joined c).bucket sqlite bucketSeconds) cs).map f ∧
      b.covers sqlite bucketSeconds j = true := by
  have hmem : j ∈ cs.map joined := h.perm.mem_iff.mpr (List.mem_filter.mpr ⟨hj, by simp [*]⟩)
  obtain ⟨c, hc, hcj⟩ := List.mem_map.mp hmem
  have hg : ((joined c).bucket sqlite bucketSeconds, _) ∈
      groups (fun c => (joined c).bucket sqlite bucketSeconds) cs := mem_groups_of_mem hc
  refine ⟨_, ⟨List.mem_map_of_mem hg, ?_⟩, ?_⟩
  · rw [h.covers_iff hstored hsqlite hrows hg hj, hcj]
    exact ⟨hkind, rfl⟩
  · intro b hb
    obtain ⟨g, hg', hgb⟩ := List.mem_map.mp hb.1
    have hcovers := hb.2
    rw [← hgb, h.covers_iff hstored hsqlite hrows hg' hj, ← hcj] at hcovers
    rw [← hgb]
    exact congrArg f ((keyed_groups _ cs).eq hg' hg hcovers.2.symm)

end Covers

section Aggregated

variable {rows : List Joined}

theorem registerCells_perm {V : Type} {column : RegisterValue → Option V} {kind : ValueKind}
    (hcolumn : ∀ j : Joined, j.has kind = (column j.value).isSome) (name : String) :
    ((registerCells column name rows).map Cell.joined).Perm
      (rows.filter fun j => j.has kind && decide (j.value.registerName = name)) := by
  have hmap : (registerCells column name rows).map Cell.joined =
      (orderBy Joined.key .asc rows).filter
        fun j => j.has kind && decide (j.value.registerName = name) := by
    have hcomp : (registerCells column name rows).map Cell.joined =
        ((cells column (orderBy Joined.key .asc rows)).map Cell.joined).filter
          fun j => decide (j.value.registerName = name) := by
      rw [registerCells, List.filter_map]
      rfl
    rw [hcomp, map_joined_cells, List.filter_filter]
    refine List.filter_congr fun j _ => ?_
    rw [hcolumn, Bool.and_comm]
  rw [hmap]
  exact (orderBy_perm _ _ _).filter _

theorem bucketed_numeric (name : String) :
    Bucketed sqlite Cell.joined (registerCells RegisterValue.numericValue name rows) rows
      (numericAggregate sqlite average) .numeric name where
  perm := registerCells_perm (fun _ => rfl) name
  registerName := fun _ => rfl
  kind := fun _ => rfl
  bucketStart := fun _ => rfl
  count := fun _ => rfl

theorem bucketed_text (name : String) :
    Bucketed sqlite (fun c => c.1.joined) (lag (registerCells RegisterValue.textValue name rows))
      rows (textAggregate sqlite) .text name where
  perm := by
    have hmap : (lag (registerCells RegisterValue.textValue name rows)).map
        (fun c => c.1.joined) =
        (registerCells RegisterValue.textValue name rows).map Cell.joined := by
      conv_rhs => rw [← map_fst_lag (registerCells RegisterValue.textValue name rows)]
      rw [List.map_map]
      rfl
    rw [hmap]
    exact registerCells_perm (fun _ => rfl) name
  registerName := fun _ => rfl
  kind := fun _ => rfl
  bucketStart := fun _ => rfl
  count := fun _ => rfl

theorem kind_of_mem_aggregatedRows {b : AggregateRow}
    (hb : b ∈ aggregatedRows sqlite bucketSeconds rows) : b.kind = .numeric ∨ b.kind = .text := by
  cases List.mem_append.mp hb with
  | inl hnumeric =>
      obtain ⟨g, -, rfl⟩ := List.mem_map.mp hnumeric
      exact .inl rfl
  | inr htext =>
      obtain ⟨g, -, hg⟩ := List.mem_flatMap.mp htext
      obtain ⟨g', -, rfl⟩ := List.mem_map.mp hg
      exact .inr rfl

variable (hstored : ∀ s ∈ db.samples, s.observedAt = utcnow (time s))
  (hsqlite : sqlite.KeepsOrder bucketSeconds (db.samples.map time))
  (hrows : ∀ j ∈ rows, j.sample ∈ db.samples) (hkeyed : Keyed Joined.key rows)
include hstored hsqlite hrows hkeyed

/-- The buckets of one register and kind cover its observations. -/
theorem bucketsOf_covers {kind : ValueKind} (hkind : kind ≠ .null) (name : String) :
    (∀ b ∈ bucketsOf name kind (aggregatedRows sqlite bucketSeconds rows),
      b.count = rows.countP (b.covers sqlite bucketSeconds) ∧ 0 < b.count) ∧
    ∀ j ∈ rows, j.has kind = true → j.value.registerName = name →
      ∃! b, b ∈ bucketsOf name kind (aggregatedRows sqlite bucketSeconds rows) ∧
        b.covers sqlite bucketSeconds j = true := by
  cases kind with
  | numeric =>
      have hperm := @bucketsOf_numeric sqlite bucketSeconds _ hkeyed name
      have hb := @bucketed_numeric sqlite rows name
      constructor
      · intro b hmem
        obtain ⟨g, hg, rfl⟩ := List.mem_map.mp (hperm.mem_iff.mp hmem)
        exact hb.count_eq hstored hsqlite hrows hg
      · intro j hj hhas hname
        simp only [hperm.mem_iff]
        exact hb.exists_unique hstored hsqlite hrows hj hhas hname
  | text =>
      have hb := @bucketed_text sqlite rows name
      rw [bucketsOf_text hkeyed name]
      constructor
      · intro b hmem
        obtain ⟨g, hg, rfl⟩ := List.mem_map.mp hmem
        exact hb.count_eq hstored hsqlite hrows hg
      · intro j hj hhas hname
        exact hb.exists_unique hstored hsqlite hrows hj hhas hname
  | null => exact absurd rfl hkind

omit hkeyed in
/-- The starts of the buckets ascend along a register's cells. -/
theorem registerCells_starts {V : Type} {column : RegisterValue → Option V} (name : String) :
    (registerCells column name rows).Pairwise fun c c' =>
      keyStart sqlite (bucketOf sqlite bucketSeconds c) ≤
        keyStart sqlite (bucketOf sqlite bucketSeconds c') := by
  refine registerCells_sorted.imp_of_mem fun {c c'} hc hc' hle => ?_
  exact keyStart_le hstored hsqlite (hrows _ (mem_registerCells hc).1)
    (hrows _ (mem_registerCells hc').1) hle

/-- The statistics of a register are combined from its buckets. -/
theorem statsRows_combine {s : StatsRow} (hs : s ∈ statsRows sqlite rows) :
    Combines (bucketsOf s.registerName s.kind (aggregatedRows sqlite bucketSeconds rows)) s := by
  have hgroup : ∀ {V : Type} {column : RegisterValue → Option V} {g : String × List (Cell V)},
      g ∈ groups Cell.registerName (cells column rows) →
        chronological g.2 = registerCells column g.1 rows ∧ registerCells column g.1 rows ≠ [] := by
    intro V column g hg
    have hcells : chronological g.2 = registerCells column g.1 rows := by
      rw [(mem_groups hg).1]
      exact chronological_filter hkeyed g.1
    refine ⟨hcells, ?_⟩
    rw [← hcells]
    obtain ⟨c, hc⟩ := List.exists_mem_of_ne_nil _ (mem_groups hg).2
    exact List.ne_nil_of_mem ((mem_orderBy _ _ _).mpr hc)
  cases List.mem_append.mp hs with
  | inl hnumeric =>
      obtain ⟨g, hg, rfl⟩ := List.mem_map.mp hnumeric
      obtain ⟨hcells, hne⟩ := hgroup hg
      rw [hcells]
      exact (combines_numeric g.1 hne
        (registerCells_starts hstored hsqlite hrows g.1)).of_perm
          (bucketsOf_numeric hkeyed g.1)
  | inr htext =>
      obtain ⟨g, hg, rfl⟩ := List.mem_map.mp htext
      obtain ⟨hcells, hne⟩ := hgroup hg
      rw [hcells]
      show Combines (bucketsOf g.1 .text (aggregatedRows sqlite bucketSeconds rows)) _
      rw [bucketsOf_text hkeyed g.1]
      exact combines_text g.1 hne (registerCells_starts hstored hsqlite hrows g.1)

omit hstored hsqlite hrows hkeyed in
/-- An observation has statistics. -/
theorem exists_stats {j : Joined} (hj : j ∈ rows) {kind : ValueKind} (hkind : j.has kind = true) :
    ∃ s ∈ statsRows sqlite rows, s.registerName = j.value.registerName ∧ s.kind = kind := by
  cases kind with
  | numeric =>
      obtain ⟨v, hv⟩ := Option.isSome_iff_exists.mp hkind
      have hmem : ({ joined := j, value := v } : Cell ℚ) ∈
          cells RegisterValue.numericValue rows :=
        List.mem_filterMap.mpr ⟨j, hj, by rw [hv]; rfl⟩
      exact ⟨_, List.mem_append_left _ (List.mem_map_of_mem (mem_groups_of_mem hmem)), rfl, rfl⟩
  | text =>
      obtain ⟨v, hv⟩ := Option.isSome_iff_exists.mp hkind
      have hmem : ({ joined := j, value := v } : Cell String) ∈
          cells RegisterValue.textValue rows :=
        List.mem_filterMap.mpr ⟨j, hj, by rw [hv]; rfl⟩
      exact ⟨_, List.mem_append_right _ (List.mem_map_of_mem (mem_groups_of_mem hmem)), rfl, rfl⟩
  | null => cases hkind

end Aggregated

/-! ## the history -/

section History

variable {env : Env} {plan : Plan AggregateRow} {order : String} {maxPoints : Int}
  {items : List (HistoryItem HistoryRow)}

/-- The buckets of a history are those of its observations. -/
theorem bucketRows_perm (hok : TelemetryStore.multiRegisterHistory env sqlite plan deviceId names
      range order (some bucketSeconds) maxPoints db = .ok items) :
    (bucketRows items).Perm
      (aggregatedRows sqlite bucketSeconds (db.history (· == deviceId) names range)) := by
  rw [TelemetryStore.multiRegisterHistory, historyItems_limit, checkPoints_limit, checkPoints]
    at hok
  split at hok
  · cases hok
  · rw [← Except.ok.inj hok]
    have hrows : bucketRows (historyItems Joined.row sqlite plan (· == deviceId) names range
        (orderSql env order) (some bucketSeconds) none db) =
        orderBy AggregateRow.key (orderSql env order)
          (plan.rows (aggregatedRows sqlite bucketSeconds
            (db.history (· == deviceId) names range))) := by
      simp [bucketRows, historyItems, selectAggregated, limitRows, List.filterMap_map]
    rw [hrows]
    exact (orderBy_perm _ _ _).trans (plan.perm _)

/-- The buckets of a device's history combine to its statistics, and an observation is
in one bucket for each kind of value it has. -/
theorem buckets_combine (hstored : ∀ s ∈ db.samples, s.observedAt = utcnow (time s))
    (hsqlite : sqlite.KeepsOrder bucketSeconds (db.samples.map time))
    (hok : TelemetryStore.multiRegisterHistory env sqlite plan deviceId names range order
      (some bucketSeconds) maxPoints db = .ok items) :
    (∀ s ∈ TelemetryStore.registerStats sqlite deviceId names range db,
      Combines (bucketsOf s.registerName s.kind (bucketRows items)) s) ∧
    (∀ b ∈ bucketRows items,
      (∃ s ∈ TelemetryStore.registerStats sqlite deviceId names range db,
        s.registerName = b.registerName ∧ s.kind = b.kind) ∧
      b.count = (db.history (· == deviceId) names range).countP (b.covers sqlite bucketSeconds)) ∧
    ∀ j ∈ db.history (· == deviceId) names range, ∀ kind, j.has kind = true →
      ∃! b, b ∈ bucketRows items ∧ b.kind = kind ∧ b.covers sqlite bucketSeconds j = true := by
  obtain ⟨rows, hrowsEq⟩ : ∃ rows, rows = db.history (· == deviceId) names range := ⟨_, rfl⟩
  have hkeyed : Keyed Joined.key rows := by
    rw [hrowsEq]
    exact db.history_keyed _ _ _
  have hrows : ∀ j ∈ rows, j.sample ∈ db.samples := by
    intro j hj
    rw [hrowsEq] at hj
    exact (TelemetryDb.mem_joined (mem_history hj).1).2.1
  have hperm := bucketRows_perm hok
  have hbuckets : ∀ name kind, (bucketsOf name kind (bucketRows items)).Perm
      (bucketsOf name kind (aggregatedRows sqlite bucketSeconds rows)) := by
    intro name kind
    rw [hrowsEq]
    exact hperm.filter _
  have hstats : ∀ s, s ∈ TelemetryStore.registerStats sqlite deviceId names range db ↔
      s ∈ statsRows sqlite rows := by
    intro s
    rw [hrowsEq]
    exact mem_orderBy _ _ _
  rw [← hrowsEq] at hperm ⊢
  have hself : ∀ b ∈ aggregatedRows sqlite bucketSeconds rows,
      b ∈ bucketsOf b.registerName b.kind (aggregatedRows sqlite bucketSeconds rows) :=
    fun b hb => List.mem_filter.mpr ⟨hb, by simp⟩
  refine ⟨?stats, ?counts, ?one⟩
  case stats =>
    intro s hs
    exact (statsRows_combine hstored hsqlite hrows hkeyed ((hstats s).mp hs)).of_perm
      (hbuckets _ _)
  case counts =>
    intro b hb
    have hmem := hperm.mem_iff.mp hb
    have hkind : b.kind ≠ .null := by
      obtain hnumeric | htext := kind_of_mem_aggregatedRows hmem
      · simp [hnumeric]
      · simp [htext]
    obtain ⟨hcount, hpos⟩ := (bucketsOf_covers hstored hsqlite hrows hkeyed hkind
      b.registerName).1 b (hself b hmem)
    refine ⟨?_, hcount⟩
    rw [hcount, List.countP_pos_iff] at hpos
    obtain ⟨j, hj, hcovers⟩ := hpos
    simp only [AggregateRow.covers, Bool.and_eq_true, beq_iff_eq] at hcovers
    obtain ⟨s, hs, hname, hskind⟩ := @exists_stats sqlite _ _ hj _ hcovers.1.1
    exact ⟨s, (hstats s).mpr hs, hname.trans hcovers.1.2.symm, hskind⟩
  case one =>
    intro j hj kind hhas
    have hkind : kind ≠ .null := by
      rintro rfl
      cases hhas
    obtain ⟨b, hb, hunique⟩ := (bucketsOf_covers hstored hsqlite hrows hkeyed hkind
      j.value.registerName).2 j hj hhas rfl
    have hof := List.mem_filter.mp hb.1
    refine ⟨b, ⟨hperm.mem_iff.mpr hof.1, (of_decide_eq_true hof.2).2, hb.2⟩, ?_⟩
    intro b' hb'
    refine hunique b' ⟨List.mem_filter.mpr ⟨hperm.mem_iff.mp hb'.1, ?_⟩, hb'.2.2⟩
    have hcovers := hb'.2.2
    simp only [AggregateRow.covers, Bool.and_eq_true, beq_iff_eq] at hcovers
    exact decide_eq_true ⟨hcovers.1.2, hb'.2.1⟩

end History

end Store

/-! ## two buckets -/

/-- A voltage, a charge state and a power that was not a number, in two polls. -/
def julyStore : TelemetryDb where
  samples :=
    [ { id := 1, deviceId := "dev", observedAt := "2026-07-14T00:02:00+00:00", latencyMs := 2,
        profile := "tristar_mppt" },
      { id := 2, deviceId := "dev", observedAt := "2026-07-14T00:07:00+00:00", latencyMs := 2,
        profile := "tristar_mppt" } ]
  values :=
    [ { sampleId := 1, registerName := "battery_voltage", address := 24, function := "holding",
        rawJson := "[120]", numericValue := some 12, textValue := none, unit := some "V" },
      { sampleId := 1, registerName := "charge_state", address := 50, function := "holding",
        rawJson := "[5]", numericValue := none, textValue := some "MPPT", unit := none },
      { sampleId := 2, registerName := "battery_voltage", address := 24, function := "holding",
        rawJson := "[130]", numericValue := some 13, textValue := none, unit := some "V" },
      { sampleId := 2, registerName := "charge_state", address := 50, function := "holding",
        rawJson := "[6]", numericValue := none, textValue := some "FLOAT", unit := none },
      { sampleId := 2, registerName := "input_power", address := 59, function := "holding",
        rawJson := "[32256]", numericValue := none, textValue := none, unit := some "W" } ]

/-- SQLite's date functions on these times. -/
def julyClock : Sqlite where
  epoch text :=
    if text = "2026-07-14T00:02:00+00:00" then some 1783987320
    else if text = "2026-07-14T00:07:00+00:00" then some 1783987620
    else none
  isoTime epoch :=
    if epoch = 1783987200 then some "2026-07-14T00:00:00Z"
    else if epoch = 1783987500 then some "2026-07-14T00:05:00Z"
    else none

/-- The time of a sample of the store. -/
def pollTime (s : SampleRow) : Timestamp := if s.id = 1 then july 13 120 else july 13 420

theorem julyClock_keepsOrder :
    julyClock.KeepsOrder 300 (julyStore.samples.map pollTime) := by
  have hearly : (july 13 120).isoformat = "2026-07-14T00:02:00+00:00" := by decide +kernel
  have hlate : (july 13 420).isoformat = "2026-07-14T00:07:00+00:00" := by decide +kernel
  have hlt : ¬ july 13 420 ≤ july 13 120 := by
    rw [← Timestamp.isoformat_le, hearly, hlate]
    decide
  have htimes : ∀ t ∈ julyStore.samples.map pollTime,
      t = july 13 120 ∨ t = july 13 420 := by
    simp [julyStore, pollTime]
  have hepoch : julyClock.epoch (july 13 120).isoformat = some 1783987320 ∧
      julyClock.epoch (july 13 420).isoformat = some 1783987620 := by
    rw [hearly, hlate]
    exact ⟨rfl, rfl⟩
  have hbucket : bucketEpoch julyClock 300 (july 13 120).isoformat = some 1783987200 ∧
      bucketEpoch julyClock 300 (july 13 420).isoformat = some 1783987500 := by
    rw [bucketEpoch, bucketEpoch, hepoch.1, hepoch.2]
    exact ⟨rfl, rfl⟩
  have hstart : julyClock.isoTime 1783987200 = some "2026-07-14T00:00:00Z" ∧
      julyClock.isoTime 1783987500 = some "2026-07-14T00:05:00Z" := ⟨rfl, rfl⟩
  constructor
  case epoch =>
    intro t ht
    obtain rfl | rfl := htimes t ht
    · exact ⟨_, hepoch.1⟩
    · exact ⟨_, hepoch.2⟩
  case epoch_le =>
    intro t ht u hu hle e f he hf
    obtain rfl | rfl := htimes t ht <;> obtain rfl | rfl := htimes u hu <;>
      simp_all
    omega
  case isoTime =>
    intro t ht e he
    obtain rfl | rfl := htimes t ht <;> simp_all
  case isoTime_lt =>
    intro t ht u hu e f he hf hef a b ha hb
    have hab : "2026-07-14T00:00:00Z" < "2026-07-14T00:05:00Z" := by decide
    obtain rfl | rfl := htimes t ht <;> obtain rfl | rfl := htimes u hu <;>
      simp_all
    grind

theorem buckets_combine_july :
    ∃ items, TelemetryStore.multiRegisterHistory plainEnv julyClock (Plan.scan _) "dev" [] {}
        "asc" (some 300) 100 julyStore = .ok items ∧
      (∀ s ∈ TelemetryStore.registerStats julyClock "dev" [] {} julyStore,
        Combines (bucketsOf s.registerName s.kind (bucketRows items)) s) ∧
      (∀ b ∈ bucketRows items,
        (∃ s ∈ TelemetryStore.registerStats julyClock "dev" [] {} julyStore,
          s.registerName = b.registerName ∧ s.kind = b.kind) ∧
        b.count = (julyStore.history (· == "dev") [] {}).countP (b.covers julyClock 300)) ∧
      ∀ j ∈ julyStore.history (· == "dev") [] {}, ∀ kind, j.has kind = true →
        ∃! b, b ∈ bucketRows items ∧ b.kind = kind ∧ b.covers julyClock 300 j = true := by
  have hstored : ∀ s ∈ julyStore.samples, s.observedAt = utcnow (pollTime s) := by
    decide +kernel
  have hok : (TelemetryStore.multiRegisterHistory plainEnv julyClock (Plan.scan _) "dev" [] {}
      "asc" (some 300) 100 julyStore).toBool = true := by decide +kernel
  obtain ⟨items, hrun⟩ := Loop.exists_ok hok
  exact ⟨items, hrun, buckets_combine hstored julyClock_keepsOrder hrun⟩

/-- The power that was not a number is in no bucket. -/
theorem not_covered_null :
    ∃ items, TelemetryStore.multiRegisterHistory plainEnv julyClock (Plan.scan _) "dev" [] {}
        "asc" (some 300) 100 julyStore = .ok items ∧
      ¬ ∀ j ∈ julyStore.history (· == "dev") [] {},
        ∃! b, b ∈ bucketRows items ∧ b.covers julyClock 300 j = true := by
  have hok : (TelemetryStore.multiRegisterHistory plainEnv julyClock (Plan.scan _) "dev" [] {}
      "asc" (some 300) 100 julyStore).toBool = true := by decide +kernel
  obtain ⟨items, hrun⟩ := Loop.exists_ok hok
  refine ⟨items, hrun, fun h => ?_⟩
  have hnull : ∃ j ∈ julyStore.history (· == "dev") [] {},
      j.value.numericValue = none ∧ j.value.textValue = none := by decide +kernel
  obtain ⟨j, hj, hnumeric, htext⟩ := hnull
  obtain ⟨b, hb, -⟩ := h j hj
  have hcovers := hb.2
  cases hkind : b.kind <;>
    simp [AggregateRow.covers, Joined.has, hkind, hnumeric, htext] at hcovers

end MorningstarModbus
