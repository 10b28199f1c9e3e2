import Mathlib.Data.String.Basic
import MorningstarModbus.Lib.Runs
import MorningstarModbus.Persistence.Series

/-!
# MorningstarModbus.Persistence.StateRuns

The state runs of `build_state_runs` against the text values they are built from.

* `RunLengthEncoding` — runs in order, with different neighbours, that expand to the values;
* `runsOf_rebuilt` — the runs of a series are its stretches of one `run_id`;
* `state_runs_encode_iff` — they encode the values exactly when values of one time agree.
-/

namespace MorningstarModbus

open Query Table

/-! ## the encoding -/

/-- Runs that encode a sequence of values. -/
structure RunLengthEncoding (values : List String) (runs : List StateRunRow) : Prop where
  spans : ∀ r ∈ runs, r.startedAtMs ≤ r.endedAtMs
  ordered : runs.Pairwise fun a b => a.endedAtMs < b.startedAtMs
  differ : runs.IsChain fun a b => a.value ≠ b.value
  positive : ∀ r ∈ runs, 0 < r.sampleCount
  expand : (runs.flatMap fun r => List.replicate r.sampleCount r.value) = values

/-- The text values of a register in the order of `(observed_at_ms, sample id)`. -/
def textSeries (cutoffMs : Nat) (device : String) (entry : String × Nat × String × String)
    (db : StorageDb) : List (SeriesPoint String) :=
  orderBy SeriesPoint.time .asc (seriesOf RegisterValue.textValue cutoffMs device entry db)

/-- The runs of a series that start before the cutoff, in order. -/
def runsOf (cutoffMs : Nat) (device : String) (registerKey : Nat) (db : StorageDb) :
    List StateRunRow :=
  orderBy StateRunRow.startedAtMs .asc (db.stateRuns.filter fun r =>
    r.deviceId = device ∧ r.registerKey = registerKey ∧ r.startedAtMs < cutoffMs)

/-- The runs of every series encode its text values older than the cutoff. -/
structure StateRunsEncode (cutoffMs : Nat) (db db' : StorageDb) : Prop where
  known : ∀ device entry, textSeries cutoffMs device entry db ≠ [] →
    ∃ d ∈ db'.dictionary, d.entry = entry
  encode : ∀ device, ∀ d ∈ db'.dictionary,
    RunLengthEncoding ((textSeries cutoffMs device d.entry db).map SeriesPoint.value)
      (runsOf cutoffMs device d.registerKey db')

/-- Text values of one register at one time agree. -/
def TiesAgree (cutoffMs : Nat) (db : StorageDb) : Prop :=
  ∀ device entry, ∀ p ∈ textSeries cutoffMs device entry db,
    ∀ q ∈ textSeries cutoffMs device entry db, p.observedAtMs = q.observedAtMs → p.value = q.value

/-! ## run ids over a series -/

/-- `changed`, over a series in order. -/
def SeriesPoint.StartsRun (series : List (SeriesPoint String)) (p : SeriesPoint String) : Prop :=
  (series.filter fun q => q.time < p.time).getLast?.map SeriesPoint.value ≠ some p.value

instance (series : List (SeriesPoint String)) (p : SeriesPoint String) :
    Decidable (p.StartsRun series) := by
  unfold SeriesPoint.StartsRun
  infer_instance

/-- `run_id`, over a series in order. -/
def runIdAt (series : List (SeriesPoint String)) (observedAtMs : Nat) : Nat :=
  (series.filter fun p => p.observedAtMs ≤ observedAtMs ∧ p.StartsRun series).length

section Series

variable {series : List (SeriesPoint String)}

/-- The runs started up to a time are among those up to a later one. -/
theorem runIdAt_sublist {t t' : Nat} (h : t ≤ t') :
    (series.filter fun p => p.observedAtMs ≤ t ∧ p.StartsRun series) =
      (series.filter fun p => p.observedAtMs ≤ t' ∧ p.StartsRun series).filter
        fun p => p.observedAtMs ≤ t := by
  rw [List.filter_filter]
  refine List.filter_congr fun p _ => ?_
  rw [← Bool.decide_and, decide_eq_decide]
  constructor
  · intro hp
    exact ⟨hp.1, hp.1.trans h, hp.2⟩
  · intro hp
    exact ⟨hp.1, hp.2.2⟩

/-- So the number of a run does not fall. -/
theorem runIdAt_mono {t t' : Nat} (h : t ≤ t') : runIdAt series t ≤ runIdAt series t' := by
  rw [runIdAt, runIdAt, runIdAt_sublist h]
  exact List.length_filter_le _ _

/-- A run id stays while no run starts. -/
theorem runIdAt_eq_iff {t t' : Nat} (h : t ≤ t') : runIdAt series t = runIdAt series t' ↔
    ∀ p ∈ series, t < p.observedAtMs → p.observedAtMs ≤ t' → ¬ p.StartsRun series := by
  rw [runIdAt, runIdAt, runIdAt_sublist h, List.length_filter_eq_length_iff]
  simp only [List.mem_filter, decide_eq_true_eq, and_imp]
  constructor
  · intro hall p hp hlt hle hstart
    exact absurd (hall p hp hle hstart) (not_le.mpr hlt)
  · intro hnone p hp hle hstart
    by_contra hlt
    exact hnone p hp (not_le.mp hlt) hle hstart

/-- The order of points is by time, then by id. -/
theorem time_le {p q : SeriesPoint String} (h : p.time < q.time) :
    p.observedAtMs ≤ q.observedAtMs := by
  rw [SeriesPoint.time, SeriesPoint.time, Prod.Lex.toLex_lt_toLex] at h
  omega

/-- A point starts a run where the one before it has another value. -/
theorem startsRun_iff (hsorted : series.Pairwise fun p q => p.time < q.time)
    {before after : List (SeriesPoint String)} {p : SeriesPoint String}
    (hseries : series = before ++ p :: after) :
    p.StartsRun series ↔ before.getLast?.map SeriesPoint.value ≠ some p.value := by
  rw [hseries] at hsorted
  rw [SeriesPoint.StartsRun, hseries, filter_lt hsorted]

/-- Where values of one time agree, adjacent values share a run id exactly when they are
the same. -/
theorem runId_adjacent (hsorted : series.Pairwise fun p q => p.time < q.time)
    (hties : ∀ p ∈ series, ∀ q ∈ series, p.observedAtMs = q.observedAtMs → p.value = q.value) :
    series.IsChain fun p q =>
      runIdAt series p.observedAtMs = runIdAt series q.observedAtMs ↔ p.value = q.value := by
  rw [List.isChain_iff_forall_rel_of_append_cons_cons]
  intro p q before after hseries
  have hp : p ∈ series := by simp [hseries]
  have hq : q ∈ series := by simp [hseries]
  have hpair := hsorted
  rw [hseries, List.pairwise_append, List.pairwise_cons, List.pairwise_cons] at hpair
  have hle : p.observedAtMs ≤ q.observedAtMs := time_le (hpair.2.1.1 q List.mem_cons_self)
  rw [runIdAt_eq_iff hle]
  have hstart : q.StartsRun series ↔ p.value ≠ q.value := by
    have hbefore : series = (before ++ [p]) ++ q :: after := by simp [hseries]
    rw [startsRun_iff hsorted hbefore]
    simp
  constructor
  · intro hnone
    by_contra hne
    have hlt : p.observedAtMs < q.observedAtMs :=
      lt_of_le_of_ne hle fun heq => hne (hties p hp q hq heq)
    exact hnone q hq hlt le_rfl (hstart.mpr hne)
  · intro hsame r hr hlt hrq
    -- `r` is `q`, or a later value of the time of `q`
    have hrmem : r ∈ q :: after := by
      rw [hseries, List.mem_append, List.mem_cons] at hr
      obtain hbefore | rfl | hafter := hr
      · exact absurd hlt (not_lt.mpr (time_le (hpair.2.2 r hbefore p List.mem_cons_self)))
      · exact absurd hlt (lt_irrefl _)
      · exact hafter
    cases List.mem_cons.mp hrmem with
    | inl heq =>
        rw [heq, hstart]
        exact fun hne => hne hsame
    | inr hafter =>
        obtain ⟨between, later, hsplit⟩ := List.append_of_mem hafter
        have hbefore : series = (before ++ p :: q :: between) ++ r :: later := by
          simp [hseries, hsplit]
        rw [startsRun_iff hsorted hbefore, not_not]
        obtain ⟨u, hu⟩ : ∃ u, (q :: between).getLast? = some u :=
          ⟨_, List.getLast?_eq_some_getLast (List.cons_ne_nil q between)⟩
        have hlast : (before ++ p :: q :: between).getLast? = some u := by
          rw [List.getLast?_append, List.getLast?_cons_cons, hu, Option.some_or]
        have humem : u ∈ q :: between := List.mem_of_getLast? hu
        have huseries : u ∈ series := by
          rw [hbefore]
          exact List.mem_append_left _ (List.mem_append_right _ (List.mem_cons_of_mem p humem))
        have hqu : q.observedAtMs ≤ u.observedAtMs := by
          cases List.mem_cons.mp humem with
          | inl heq => rw [heq]
          | inr hbetween =>
              exact time_le (hpair.2.1.2.1 u (by rw [hsplit]; exact List.mem_append_left _ hbetween))
        have hur : u.observedAtMs ≤ r.observedAtMs := by
          have hall := hsorted
          rw [hbefore, List.pairwise_append] at hall
          exact time_le (hall.2.2 u (List.mem_append_right _ (List.mem_cons_of_mem p humem)) r
            List.mem_cons_self)
        have hsameTime : u.observedAtMs = r.observedAtMs := by omega
        rw [hlast, Option.map_some, hties u huseries r hr hsameTime]

end Series

/-! ## the run of some values -/

/-- The state run of some values of a series. -/
def pointRun (device : String) (registerKey : Nat) (m : List (SeriesPoint String)) : StateRunRow where
  deviceId := device
  registerKey := registerKey
  startedAtMs := (m.map SeriesPoint.observedAtMs).min?.getD 0
  endedAtMs := (m.map SeriesPoint.observedAtMs).max?.getD 0
  value := (m.map SeriesPoint.value).foldl (fun a v => if a ≤ v then v else a) ""
  sampleCount := m.length

section PointRun

variable {device : String} {registerKey : Nat} {m : List (SeriesPoint String)}

/-- A run starts with its earliest point. -/
theorem startedAtMs_spec (hne : m ≠ []) :
    (∃ p ∈ m, p.observedAtMs = (pointRun device registerKey m).startedAtMs) ∧
      ∀ p ∈ m, (pointRun device registerKey m).startedAtMs ≤ p.observedAtMs := by
  have hsome : (m.map SeriesPoint.observedAtMs) ≠ [] := by simpa using hne
  obtain ⟨t, ht⟩ := Option.isSome_iff_exists.mp (List.isSome_min?_of_ne_nil hsome)
  have hstart : (pointRun device registerKey m).startedAtMs = t := by
    rw [pointRun, ht, Option.getD_some]
  obtain ⟨hmem, hle⟩ := List.min?_eq_some_iff.mp ht
  rw [hstart]
  exact ⟨List.mem_map.mp hmem, fun p hp => hle _ (List.mem_map_of_mem hp)⟩

/-- And ends with its latest. -/
theorem endedAtMs_spec (hne : m ≠ []) :
    (∃ p ∈ m, p.observedAtMs = (pointRun device registerKey m).endedAtMs) ∧
      ∀ p ∈ m, p.observedAtMs ≤ (pointRun device registerKey m).endedAtMs := by
  have hsome : (m.map SeriesPoint.observedAtMs) ≠ [] := by simpa using hne
  obtain ⟨t, ht⟩ := Option.isSome_iff_exists.mp (List.isSome_max?_of_ne_nil hsome)
  have hend : (pointRun device registerKey m).endedAtMs = t := by
    rw [pointRun, ht, Option.getD_some]
  obtain ⟨hmem, hle⟩ := List.max?_eq_some_iff.mp ht
  rw [hend]
  exact ⟨List.mem_map.mp hmem, fun p hp => hle _ (List.mem_map_of_mem hp)⟩

/-- `MAX(text_value)` of a run of one value. -/
theorem value_eq {v : String} (hne : m ≠ []) (hvalue : ∀ p ∈ m, p.value = v) :
    (pointRun device registerKey m).value = v := by
  have hall : ∀ (vs : List String), (∀ x ∈ vs, x = v) →
      vs.foldl (fun a v => if a ≤ v then v else a) v = v := by
    intro vs h
    induction vs with
    | nil => rfl
    | cons x vs ih =>
        rw [List.foldl_cons, h x List.mem_cons_self, ite_self]
        exact ih fun y hy => h y (List.mem_cons_of_mem x hy)
  cases m with
  | nil => exact absurd rfl hne
  | cons p m =>
      have hempty : "" ≤ v := by
        rw [String.le_iff_toList_le]
        exact not_lt.mp (List.not_lt_nil v.toList)
      show ((p :: m).map SeriesPoint.value).foldl _ "" = v
      rw [List.map_cons, List.foldl_cons, hvalue p List.mem_cons_self, if_pos hempty]
      refine hall _ fun x hx => ?_
      obtain ⟨q, hq, rfl⟩ := List.mem_map.mp hx
      exact hvalue q (List.mem_cons_of_mem p hq)

/-- The run of a group of base rows. -/
theorem stateRun_eq {g : (String × Nat × Nat) × List (Observed String)}
    (hperm : (g.2.map Observed.point).Perm m) : stateRun g = pointRun g.1.1 g.1.2.1 m := by
  have htimes : (g.2.map Observed.observedAtMs).Perm (m.map SeriesPoint.observedAtMs) := by
    have hmap := hperm.map SeriesPoint.observedAtMs
    rwa [List.map_map] at hmap
  have hvalues : (g.2.map Observed.value).Perm (m.map SeriesPoint.value) := by
    have hmap := hperm.map SeriesPoint.value
    rwa [List.map_map] at hmap
  have hlength : g.2.length = m.length := by simpa using hperm.length_eq
  have hmin : (g.2.map Observed.observedAtMs).min? = (m.map SeriesPoint.observedAtMs).min? :=
    Option.ext fun t => by simp only [List.min?_eq_some_iff, htimes.mem_iff]
  have hmax : (g.2.map Observed.observedAtMs).max? = (m.map SeriesPoint.observedAtMs).max? :=
    Option.ext fun t => by simp only [List.max?_eq_some_iff, htimes.mem_iff]
  have hvalue : (g.2.map Observed.value).foldl (fun a v => if a ≤ v then v else a) "" =
      (m.map SeriesPoint.value).foldl (fun a v => if a ≤ v then v else a) "" := by
    refine hvalues.foldl_eq' (fun x _ y _ a => ?_) ""
    show max (max a x) y = max (max a y) x
    rw [max_assoc, max_assoc, max_comm x y]
  rw [stateRun, pointRun, hlength, hmin, hmax, hvalue]

end PointRun

/-! ## the runs of a series -/

/-- The stretches of one `run_id`. -/
def runBlocks (series : List (SeriesPoint String)) : List (List (SeriesPoint String)) :=
  Runs.runs (fun p => runIdAt series p.observedAtMs) series

section Blocks

variable {device : String} {registerKey : Nat} {series : List (SeriesPoint String)}

/-- Later points have no lower number. -/
theorem runIds_ascend (hsorted : series.Pairwise fun p q => p.time < q.time) :
    series.Pairwise fun p q =>
      runIdAt series p.observedAtMs ≤ runIdAt series q.observedAtMs :=
  hsorted.imp fun h => runIdAt_mono (time_le h)

/-- Values of an earlier run are older. -/
theorem runBlocks_pairwise (hsorted : series.Pairwise fun p q => p.time < q.time) :
    (runBlocks series).Pairwise fun m m' => ∀ p ∈ m, ∀ q ∈ m', p.observedAtMs < q.observedAtMs := by
  refine (Runs.runs_pairwise (runIds_ascend hsorted)).imp fun {m m'} h p hp q hq => ?_
  by_contra hle
  exact absurd (runIdAt_mono (not_lt.mp hle)) (not_le.mpr (h p hp q hq))

/-- A run ends before the next one starts. -/
theorem runs_ordered (hsorted : series.Pairwise fun p q => p.time < q.time) :
    ((runBlocks series).map (pointRun device registerKey)).Pairwise
      fun a b => a.endedAtMs < b.startedAtMs := by
  rw [List.pairwise_map]
  refine List.Pairwise.imp_of_mem ?_ (runBlocks_pairwise hsorted)
  intro m m' hm hm' hlt
  obtain ⟨⟨p, hp, hend⟩, -⟩ := @endedAtMs_spec device registerKey m (Runs.ne_nil_of_mem_runs hm)
  obtain ⟨⟨q, hq, hstart⟩, -⟩ :=
    @startedAtMs_spec device registerKey m' (Runs.ne_nil_of_mem_runs hm')
  rw [← hend, ← hstart]
  exact hlt p hp q hq

/-- And not before it starts itself. -/
theorem runs_span : ∀ r ∈ (runBlocks series).map (pointRun device registerKey),
    r.startedAtMs ≤ r.endedAtMs := by
  intro r hr
  obtain ⟨m, hm, rfl⟩ := List.mem_map.mp hr
  obtain ⟨⟨p, hp, hend⟩, -⟩ := @endedAtMs_spec device registerKey m (Runs.ne_nil_of_mem_runs hm)
  rw [← hend]
  exact (startedAtMs_spec (Runs.ne_nil_of_mem_runs hm)).2 p hp

/-- The runs of a series encode it exactly when its values of one time agree. -/
theorem runs_encode_iff (hsorted : series.Pairwise fun p q => p.time < q.time) :
    RunLengthEncoding (series.map SeriesPoint.value)
        ((runBlocks series).map (pointRun device registerKey)) ↔
      ∀ p ∈ series, ∀ q ∈ series, p.observedAtMs = q.observedAtMs → p.value = q.value := by
  have hexpand : (((runBlocks series).map (pointRun device registerKey)).flatMap fun r =>
      List.replicate r.sampleCount r.value) = series.map SeriesPoint.value ↔
      ∀ m ∈ runBlocks series, m.map SeriesPoint.value =
        List.replicate m.length (pointRun device registerKey m).value := by
    rw [List.flatMap_map, ← Runs.flatMap_replicate_iff, runBlocks, Runs.flatten_runs]
    rfl
  constructor
  · intro h p hp q hq htime
    have hrun := hexpand.mp h.expand
    have hmem := (Runs.mem_runs_iff (runIds_ascend hsorted)).mpr ⟨p, hp, rfl⟩
    have hvalue : ∀ u ∈ series, runIdAt series u.observedAtMs = runIdAt series p.observedAtMs →
        u.value ∈ (series.filter fun b => runIdAt series b.observedAtMs =
          runIdAt series p.observedAtMs).map SeriesPoint.value := by
      intro u hu hid
      exact List.mem_map_of_mem (List.mem_filter.mpr ⟨hu, decide_eq_true hid⟩)
    have hp' := hvalue p hp rfl
    have hq' := hvalue q hq (by rw [htime])
    rw [hrun _ hmem] at hp' hq'
    exact (List.eq_of_mem_replicate hp').trans (List.eq_of_mem_replicate hq').symm
  · intro hties
    have hadjacent := runId_adjacent hsorted hties
    have hsame : ∀ m ∈ runBlocks series, ∀ p ∈ m, ∀ q ∈ m, p.value = q.value := by
      intro m hm p hp q hq
      have hchain : m.IsChain fun p q => p.value = q.value := by
        refine List.IsChain.imp_of_mem_imp ?_ (Runs.isChain_of_mem_runs hadjacent hm)
        intro a b ha hb hiff
        exact hiff.mp (Runs.label_eq_of_mem_runs hm ha hb)
      exact Runs.label_eq_of_isChain hchain hp hq
    have hvalue : ∀ m ∈ runBlocks series, ∀ p ∈ m,
        (pointRun device registerKey m).value = p.value := by
      intro m hm p hp
      exact value_eq (Runs.ne_nil_of_mem_runs hm) fun q hq => hsame m hm q hq p hp
    constructor
    case spans => exact runs_span
    case ordered => exact runs_ordered hsorted
    case differ =>
      rw [List.isChain_map]
      refine List.IsChain.imp_of_mem_imp ?_ (Runs.isChain_runs hadjacent)
      intro m m' hm hm' h
      obtain ⟨hne, hne', hid, hiff⟩ := h
      rw [hvalue m hm _ (List.getLast_mem hne), hvalue m' hm' _ (List.head_mem hne')]
      exact fun heq => hid (hiff.mpr heq)
    case positive =>
      intro r hr
      obtain ⟨m, hm, rfl⟩ := List.mem_map.mp hr
      exact List.length_pos_of_ne_nil (Runs.ne_nil_of_mem_runs hm)
    case expand =>
      refine hexpand.mpr fun m hm => List.eq_replicate_iff.mpr ⟨by simp, ?_⟩
      intro v hv
      obtain ⟨p, hp, rfl⟩ := List.mem_map.mp hv
      exact (hvalue m hm p hp).symm

end Blocks

/-! ## the rows of the statement -/

section Rows

variable {cutoffMs : Nat} {db : StorageDb} {device : String} {d : DictionaryRow}

/-- `GROUP BY device_id, register_key, run_id` -/
def runKey (rows : List (Observed String)) (o : Observed String) : String × Nat × Nat :=
  (o.deviceId, o.registerKey, runId rows o)

/-- The rows of the state-run statement. -/
def stateRunRows (cutoffMs : Nat) (db : StorageDb) : List StateRunRow :=
  let rows := observedRows RegisterValue.textValue cutoffMs db
  (groups (runKey rows) rows).map stateRun

/-- The series of a register is in order. -/
theorem textSeries_sorted (hdb : db.TablesKeyed) (entry : String × Nat × String × String) :
    (textSeries cutoffMs device entry db).Pairwise fun p q => p.time < q.time :=
  orderBy_lt (seriesOf_keyed hdb)

/-- The statement's rows of a register are its series. -/
theorem base_textSeries (hdb : db.TablesKeyed) (hd : d ∈ db.dictionary) :
    (((observedRows RegisterValue.textValue cutoffMs db).filter
      fun o => o.series = (device, d.registerKey)).map Observed.point).Perm
        (textSeries cutoffMs device d.entry db) :=
  (base_series hdb hd).trans (orderBy_perm _ _ _).symm

/-- What the statement calls a change is the start of a run. -/
theorem stateChanged_eq (hdb : db.TablesKeyed) (hd : d ∈ db.dictionary) {o : Observed String}
    (hseries : o.series = (device, d.registerKey)) :
    stateChanged (observedRows RegisterValue.textValue cutoffMs db) o =
      decide (o.point.StartsRun (textSeries cutoffMs device d.entry db)) := by
  have hbase : (((observedRows RegisterValue.textValue cutoffMs db).filter
      fun q => q.series = o.series).map Observed.point).Perm
        (seriesOf RegisterValue.textValue cutoffMs device d.entry db) := by
    rw [hseries]
    exact base_series hdb hd
  have hpoint := congrArg (Option.map SeriesPoint.value)
    (previous_point (seriesOf_keyed hdb) hbase)
  rw [Option.map_map] at hpoint
  rw [stateChanged, decide_eq_decide, SeriesPoint.StartsRun, textSeries, ← hpoint]
  rfl

/-- The statement's running sum numbers the runs. -/
theorem runId_eq (hdb : db.TablesKeyed) (hd : d ∈ db.dictionary) {o : Observed String}
    (hseries : o.series = (device, d.registerKey)) :
    runId (observedRows RegisterValue.textValue cutoffMs db) o =
      runIdAt (textSeries cutoffMs device d.entry db) o.observedAtMs := by
  obtain ⟨rows, hrows⟩ : ∃ rows, rows = observedRows RegisterValue.textValue cutoffMs db :=
    ⟨_, rfl⟩
  obtain ⟨series, hsorted⟩ : ∃ series, series = textSeries cutoffMs device d.entry db := ⟨_, rfl⟩
  have hfilter : rows.filter (fun p => p.series = o.series ∧ p.observedAtMs ≤ o.observedAtMs ∧
      stateChanged rows p) = (rows.filter fun p => p.series = (device, d.registerKey)).filter
        fun p => p.point.observedAtMs ≤ o.observedAtMs ∧ p.point.StartsRun series := by
    rw [List.filter_filter]
    refine List.filter_congr fun p _ => ?_
    rw [← Bool.decide_and, decide_eq_decide, hseries]
    constructor
    · intro h
      rw [hrows, stateChanged_eq hdb hd h.1, decide_eq_true_eq, ← hsorted] at h
      exact ⟨⟨h.2.1, h.2.2⟩, h.1⟩
    · intro h
      rw [hrows, stateChanged_eq hdb hd h.2, decide_eq_true_eq, ← hsorted]
      exact ⟨h.2, h.1.1, h.1.2⟩
  have hperm := (@base_textSeries cutoffMs db device d hdb hd).filter
    fun p => p.observedAtMs ≤ o.observedAtMs ∧ p.StartsRun series
  rw [List.filter_map] at hperm
  have hlength := hperm.length_eq
  rw [List.length_map, ← hrows, ← hsorted] at hlength
  rw [← hrows, ← hsorted, runId, runIdAt, hfilter]
  exact hlength

/-- A group of base rows of a series is a run of it. -/
theorem group_block (hdb : db.TablesKeyed) (hd : d ∈ db.dictionary) (id : Nat) :
    (((observedRows RegisterValue.textValue cutoffMs db).filter fun o =>
      runKey (observedRows RegisterValue.textValue cutoffMs db) o =
        (device, d.registerKey, id)).map Observed.point).Perm
      ((textSeries cutoffMs device d.entry db).filter fun p =>
        runIdAt (textSeries cutoffMs device d.entry db) p.observedAtMs = id) := by
  have hfilter : (observedRows RegisterValue.textValue cutoffMs db).filter (fun o =>
      runKey (observedRows RegisterValue.textValue cutoffMs db) o =
        (device, d.registerKey, id)) =
      ((observedRows RegisterValue.textValue cutoffMs db).filter
        fun o => o.series = (device, d.registerKey)).filter fun o =>
          runIdAt (textSeries cutoffMs device d.entry db) o.point.observedAtMs = id := by
    rw [List.filter_filter]
    refine List.filter_congr fun o _ => ?_
    rw [← Bool.decide_and, decide_eq_decide, runKey, Prod.mk.injEq, Prod.mk.injEq]
    constructor
    · intro h
      have hseries : o.series = (device, d.registerKey) := Prod.ext h.1 h.2.1
      refine ⟨?_, hseries⟩
      rw [← h.2.2, runId_eq hdb hd hseries]
      rfl
    · intro h
      refine ⟨congrArg Prod.fst h.2, congrArg Prod.snd h.2, ?_⟩
      rw [runId_eq hdb hd h.2]
      exact h.1
  have hmap : (((observedRows RegisterValue.textValue cutoffMs db).filter
      fun o => o.series = (device, d.registerKey)).filter fun o =>
        runIdAt (textSeries cutoffMs device d.entry db) o.point.observedAtMs = id).map
          Observed.point =
      (((observedRows RegisterValue.textValue cutoffMs db).filter
        fun o => o.series = (device, d.registerKey)).map Observed.point).filter fun p =>
          runIdAt (textSeries cutoffMs device d.entry db) p.observedAtMs = id := by
    rw [List.filter_map]
    rfl
  rw [hfilter, hmap]
  exact (base_textSeries hdb hd).filter _

/-- A group is a run of the series of its key. -/
theorem stateRun_group (hdb : db.TablesKeyed) {g : (String × Nat × Nat) × List (Observed String)}
    (hg : g ∈ groups (runKey (observedRows RegisterValue.textValue cutoffMs db))
      (observedRows RegisterValue.textValue cutoffMs db)) :
    ∃ d ∈ db.dictionary, d.registerKey = g.1.2.1 ∧
      ∃ m ∈ runBlocks (textSeries cutoffMs g.1.1 d.entry db),
        stateRun g = pointRun g.1.1 d.registerKey m ∧ ∀ p ∈ m,
          runIdAt (textSeries cutoffMs g.1.1 d.entry db) p.observedAtMs = g.1.2.2 := by
  obtain ⟨hrows, hne⟩ := mem_groups hg
  obtain ⟨o, ho⟩ := List.exists_mem_of_ne_nil _ hne
  obtain ⟨hmem, hkey⟩ := mem_of_mem_groups hg ho
  obtain ⟨-, d, hd, hname⟩ := mem_observedRows hmem
  have hdevice : g.1.1 = o.deviceId := by rw [← hkey, runKey]
  have hregister : d.registerKey = g.1.2.1 := by rw [hname, ← hkey, runKey]
  have hperm := @group_block cutoffMs db g.1.1 d hdb hd g.1.2.2
  rw [hregister, ← hrows] at hperm
  have hpoint := hperm.mem_iff.mp (List.mem_map_of_mem (f := Observed.point) ho)
  rw [List.mem_filter, decide_eq_true_eq] at hpoint
  refine ⟨d, hd, hregister, _, ?_, by rw [hregister]; exact stateRun_eq hperm, ?_⟩
  · refine (Runs.mem_runs_iff (runIds_ascend (textSeries_sorted hdb d.entry))).mpr
      ⟨o.point, hpoint.1, ?_⟩
    rw [hpoint.2]
  · intro p hp
    exact of_decide_eq_true (List.mem_filter.mp hp).2

/-- Every run of a series is inserted. -/
theorem mem_stateRunRows (hdb : db.TablesKeyed) {r : StateRunRow} :
    r ∈ stateRunRows cutoffMs db ↔ ∃ device, ∃ d ∈ db.dictionary,
      ∃ m ∈ runBlocks (textSeries cutoffMs device d.entry db),
        r = pointRun device d.registerKey m := by
  constructor
  · intro hr
    obtain ⟨g, hg, rfl⟩ := List.mem_map.mp hr
    obtain ⟨d, hd, -, m, hm, hrun, -⟩ := stateRun_group hdb hg
    exact ⟨g.1.1, d, hd, m, hm, hrun⟩
  · intro h
    obtain ⟨device, d, hd, m, hm, rfl⟩ := h
    obtain ⟨p, hp, rfl⟩ :=
      (Runs.mem_runs_iff (runIds_ascend (textSeries_sorted hdb d.entry))).mp hm
    have hbase := hp
    rw [← (base_textSeries hdb hd).mem_iff, List.mem_map] at hbase
    obtain ⟨o, ho, rfl⟩ := hbase
    rw [List.mem_filter, decide_eq_true_eq] at ho
    have hkey : runKey (observedRows RegisterValue.textValue cutoffMs db) o =
        (device, d.registerKey, runIdAt (textSeries cutoffMs device d.entry db)
          o.point.observedAtMs) := by
      have hdevice : o.deviceId = device := congrArg Prod.fst ho.2
      have hregister : o.registerKey = d.registerKey := congrArg Prod.snd ho.2
      rw [runKey, runId_eq hdb hd ho.2, hdevice, hregister]
      rfl
    refine List.mem_map.mpr ⟨_, List.mem_map_of_mem (mem_distinct.mpr
      (List.mem_map.mpr ⟨o, ho.1, hkey⟩)), ?_⟩
    exact stateRun_eq (group_block hdb hd _)

/-- State runs start before the cutoff. -/
theorem started_lt (hdb : db.TablesKeyed) {r : StateRunRow} (hr : r ∈ stateRunRows cutoffMs db) :
    r.startedAtMs < cutoffMs := by
  obtain ⟨device, d, -, m, hm, rfl⟩ := (mem_stateRunRows hdb).mp hr
  obtain ⟨⟨p, hp, hstart⟩, -⟩ :=
    @startedAtMs_spec device d.registerKey m (Runs.ne_nil_of_mem_runs hm)
  have hseries : p ∈ textSeries cutoffMs device d.entry db := by
    have hflat := List.mem_flatten.mpr ⟨m, hm, hp⟩
    rwa [runBlocks, Runs.flatten_runs] at hflat
  obtain ⟨s, -, v, -, -, -, -, hold, -, hms, -⟩ := mem_seriesOf.mp ((mem_orderBy _ _ _).mp hseries)
  rw [← hstart, hms]
  exact hold

/-- The primary key accepts the runs. -/
theorem keyed_stateRunRows (hdb : db.TablesKeyed) :
    Keyed StateRunRow.key (stateRunRows cutoffMs db) := by
  rw [Keyed, stateRunRows, List.map_map]
  refine (keyed_groups _ _).of_determines ?_
  intro g hg g' hg' hkey
  obtain ⟨d, hd, hname, m, hm, hrun, hid⟩ := stateRun_group hdb hg
  obtain ⟨d', hd', hname', m', hm', hrun', hid'⟩ := stateRun_group hdb hg'
  have hkeys : (stateRun g).key = (stateRun g').key := hkey
  rw [hrun, hrun', StateRunRow.key, StateRunRow.key, Prod.mk.injEq, Prod.mk.injEq] at hkeys
  obtain ⟨hdevice, hregister, hstart⟩ := hkeys
  replace hdevice : g.1.1 = g'.1.1 := hdevice
  have hsame : d = d' := hdb.registerKeys.eq hd hd' hregister
  obtain ⟨⟨p, hp, hp'⟩, -⟩ := @startedAtMs_spec g.1.1 d.registerKey m (Runs.ne_nil_of_mem_runs hm)
  obtain ⟨⟨q, hq, hq'⟩, -⟩ :=
    @startedAtMs_spec g'.1.1 d'.registerKey m' (Runs.ne_nil_of_mem_runs hm')
  have htime : p.observedAtMs = q.observedAtMs := by rw [hp', hq', hstart]
  refine Prod.ext hdevice (Prod.ext ?_ ?_)
  · rw [← hname, ← hname', hsame]
  · rw [← hid p hp, ← hid' q hq, htime, hdevice, hsame]

/-! ## a call -/

/-- The table after a call. -/
def rebuiltStateRuns (cutoffMs : Nat) (db : StorageDb) : List StateRunRow :=
  db.stateRuns.filter (fun r => ¬ r.startedAtMs < cutoffMs) ++ stateRunRows cutoffMs db

/-- No two rebuilt runs share a key. -/
theorem keyed_rebuiltStateRuns (hdb : db.TablesKeyed) :
    Keyed StateRunRow.key (rebuiltStateRuns cutoffMs db) := by
  have hkept : Keyed StateRunRow.key
      (db.stateRuns.filter fun r => ¬ r.startedAtMs < cutoffMs) := hdb.stateRuns.filter _
  rw [Keyed, rebuiltStateRuns, List.map_append, List.nodup_append]
  refine ⟨hkept, keyed_stateRunRows hdb, ?_⟩
  intro k hk l hl heq
  obtain ⟨r, hr, rfl⟩ := List.mem_map.mp hk
  obtain ⟨s, hs, rfl⟩ := List.mem_map.mp hl
  have hstart : r.startedAtMs = s.startedAtMs := congrArg (fun k => k.2.2) heq
  have hold := (List.mem_filter.mp hr).2
  rw [decide_eq_true_eq, hstart] at hold
  exact hold (started_lt hdb hs)

/-- A call always succeeds. -/
theorem buildStateRuns_eq (hdb : db.TablesKeyed) (cutoffMs : Nat) :
    let known := (refreshRegisterDictionary db).1
    buildStateRuns cutoffMs db =
      .ok ({ known with stateRuns := rebuiltStateRuns cutoffMs known },
        (stateRunRows cutoffMs known).length) := by
  intro known
  exact if_pos (keyed_rebuiltStateRuns (refresh_known hdb).1)

/-- The runs of a series are its stretches of one `run_id`. -/
theorem runsOf_rebuilt (hdb : db.TablesKeyed) (hd : d ∈ db.dictionary) :
    runsOf cutoffMs device d.registerKey
        { db with stateRuns := rebuiltStateRuns cutoffMs db } =
      (runBlocks (textSeries cutoffMs device d.entry db)).map (pointRun device d.registerKey) := by
  have hsorted := @textSeries_sorted cutoffMs db device hdb d.entry
  have hascend : ((runBlocks (textSeries cutoffMs device d.entry db)).map
      (pointRun device d.registerKey)).Pairwise fun a b => a.startedAtMs < b.startedAtMs := by
    refine List.Pairwise.imp_of_mem ?_ (runs_ordered hsorted)
    intro a b ha hb hlt
    exact (runs_span a ha).trans_lt hlt
  have hkeyed : Keyed StateRunRow.startedAtMs ((rebuiltStateRuns cutoffMs db).filter fun r =>
      r.deviceId = device ∧ r.registerKey = d.registerKey ∧ r.startedAtMs < cutoffMs) := by
    refine ((keyed_rebuiltStateRuns hdb).filter _).of_determines ?_
    intro r hr s hs hstart
    rw [List.mem_filter, decide_eq_true_eq] at hr hs
    rw [StateRunRow.key, StateRunRow.key, hr.2.1, hs.2.1, hr.2.2.1, hs.2.2.1, hstart]
  have hnodup : ((runBlocks (textSeries cutoffMs device d.entry db)).map
      (pointRun device d.registerKey)).Nodup :=
    hascend.imp fun {a b} hlt heq => (heq ▸ hlt).ne rfl
  have hordered : ((runBlocks (textSeries cutoffMs device d.entry db)).map
      (pointRun device d.registerKey)).Pairwise (Ordered StateRunRow.startedAtMs .asc) :=
    hascend.imp fun {a b} h => (le_of_lt h : a.startedAtMs ≤ b.startedAtMs)
  refine (eq_orderBy hkeyed ?_ hordered).symm
  rw [List.perm_ext_iff_of_nodup hnodup hkeyed.of_map]
  intro r
  rw [List.mem_filter, decide_eq_true_eq, rebuiltStateRuns, List.mem_append]
  constructor
  · intro hr
    obtain ⟨m, hm, rfl⟩ := List.mem_map.mp hr
    have hrow := (mem_stateRunRows hdb).mpr ⟨device, d, hd, m, hm, rfl⟩
    exact ⟨.inr hrow, rfl, rfl, started_lt hdb hrow⟩
  · intro hr
    obtain ⟨hkept | hrow, hdevice, hregister, hold⟩ := hr
    · have hnot := (List.mem_filter.mp hkept).2
      rw [decide_eq_true_eq] at hnot
      exact absurd hold hnot
    · obtain ⟨device', d', hd', m, hm, rfl⟩ := (mem_stateRunRows hdb).mp hrow
      replace hdevice : device' = device := hdevice
      have hsame : d' = d := hdb.registerKeys.eq hd' hd hregister
      rw [hdevice, hsame] at hm ⊢
      exact List.mem_map_of_mem hm

end Rows

/-- A call succeeds and leaves a run-length encoding of each series exactly when the text
values a register has at one time agree. -/
theorem state_runs_encode_iff (cutoffMs : Nat) {db : StorageDb} (hdb : db.TablesKeyed) :
    (∃ db' n, buildStateRuns cutoffMs db = .ok (db', n) ∧ StateRunsEncode cutoffMs db db') ↔
      TiesAgree cutoffMs db := by
  obtain ⟨hkeyed, hknown⟩ := refresh_known hdb
  have hcall := buildStateRuns_eq hdb cutoffMs
  simp only at hcall
  have hsorted : ∀ device entry, (textSeries cutoffMs device entry
      (refreshRegisterDictionary db).1).Pairwise fun p q => p.time < q.time :=
    fun device entry => textSeries_sorted hkeyed entry
  have hentry : ∀ device entry, textSeries cutoffMs device entry db ≠ [] →
      ∃ d ∈ (refreshRegisterDictionary db).1.dictionary, d.entry = entry := by
    intro device entry hne
    obtain ⟨p, hp⟩ := List.exists_mem_of_ne_nil _ hne
    obtain ⟨s, -, v, hv, -, -, hentry, -⟩ := mem_seriesOf.mp ((mem_orderBy _ _ _).mp hp)
    obtain ⟨d, hd, hdentry⟩ := hknown v hv
    exact ⟨d, hd, hdentry.trans hentry⟩
  constructor
  · intro h device entry p hp q hq
    obtain ⟨db', n, hok, hencode⟩ := h
    rw [hcall, Except.ok.injEq, Prod.mk.injEq] at hok
    obtain ⟨d, hd, rfl⟩ := hentry device entry (List.ne_nil_of_mem hp)
    have hruns := hencode.encode device d (by rw [← hok.1]; exact hd)
    rw [← hok.1, runsOf_rebuilt hkeyed hd] at hruns
    exact (runs_encode_iff (hsorted device d.entry)).mp hruns p hp q hq
  · intro hties
    refine ⟨_, _, hcall, hentry, ?_⟩
    intro device d hd
    rw [runsOf_rebuilt hkeyed hd]
    exact (runs_encode_iff (hsorted device d.entry)).mpr (hties device d.entry)

/-- Two polls of one controller in the same millisecond, with a state change between them. -/
def tiedStates : StorageDb where
  samples := [
    { id := 1, deviceId := "tristar", observedAtMs := 1000, latencyMs := 12, profile := "tristar" },
    { id := 2, deviceId := "tristar", observedAtMs := 1000, latencyMs := 12, profile := "tristar" }]
  values := [
    { sampleId := 1, registerName := "charge_state", address := 50, function := "holding",
      rawJson := "[5]", numericValue := none, textValue := some "MPPT", unit := none },
    { sampleId := 2, registerName := "charge_state", address := 50, function := "holding",
      rawJson := "[7]", numericValue := none, textValue := some "FLOAT", unit := none }]

/-- The store of the example has unique keys. -/
theorem tiedStates_keyed : tiedStates.TablesKeyed := by
  constructor <;> decide

/-- Two texts of one register at one time. -/
theorem state_runs_encode_iff_tied :
    (∃ db' n, buildStateRuns 2000 tiedStates = .ok (db', n) ∧
        StateRunsEncode 2000 tiedStates db') ↔ TiesAgree 2000 tiedStates :=
  state_runs_encode_iff 2000 tiedStates_keyed

/-- The two states become one run of the greater text. -/
theorem not_state_runs_encode_tied :
    ¬ ∀ (db : StorageDb) (cutoffMs : Nat), db.TablesKeyed →
      ∃ db' n, buildStateRuns cutoffMs db = .ok (db', n) ∧ StateRunsEncode cutoffMs db db' := by
  intro h
  obtain ⟨db', n, hok, hencode⟩ := h tiedStates 2000 tiedStates_keyed
  have htables : (buildStateRuns 2000 tiedStates).map (fun r => (r.1.dictionary, r.1.stateRuns)) =
      .ok ([{ registerKey := 1, registerName := "charge_state", address := 50,
              function := "holding", unit := "" }],
        [{ deviceId := "tristar", registerKey := 1, startedAtMs := 1000, endedAtMs := 1000,
           value := "MPPT", sampleCount := 2 }]) := by decide +kernel
  rw [hok] at htables
  obtain ⟨hdictionary, hruns⟩ := Prod.ext_iff.mp (Except.ok.inj htables)
  replace hdictionary : db'.dictionary = _ := hdictionary
  replace hruns : db'.stateRuns = _ := hruns
  have hexpand := (hencode.encode "tristar" _ (by
    rw [hdictionary]
    exact List.mem_singleton_self _)).expand
  simp only [runsOf, hruns] at hexpand
  revert hexpand
  decide +kernel

end MorningstarModbus
