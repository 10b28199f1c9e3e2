import Mathlib.Data.List.Perm.Subperm
import MorningstarModbus.Systems.Contributions

/-!
# MorningstarModbus.Systems.BucketLimit

The limit of the bucketed history.  The statement groups by bucket, device and
register, and the limit is on its rows; what it is said to bound is the number
of buckets.

* `timeBuckets` — the buckets of a metric in a range;
* `combinations` — the rows the statement makes of them;
* `bucket_limit_iff` — the limit counts buckets exactly when no store with few
  buckets has many rows.
-/

namespace MorningstarModbus

open Query Table

namespace SystemDataRepository

/-- The error of a query with too many rows. -/
def exceedsBuckets (maxBuckets : Int) : SystemError :=
  .value ("query exceeds " ++ toString maxBuckets ++ " aggregated buckets; " ++
    "narrow the range or use a coarser resolution")

section Counts

variable (sqlite : Sqlite) (seconds : Int) (spec : SystemMetricSpec)
  (scopes : List (String × List String)) (range : TimeRange) (db : TelemetryDb)

/-- The distinct buckets that have an observation of the metric. -/
def timeBuckets : List Int :=
  distinct ((metricCells spec (deviceToController scopes) range db).filterMap fun c =>
    bucketEpoch sqlite seconds c.observedAt)

/-- The distinct buckets with the devices and the registers observed in them. -/
def combinations : List (Option Int × String × String) :=
  distinct ((metricCells spec (deviceToController scopes) range db).map (metricKey sqlite seconds))

@[simp] theorem length_statementRows :
    (statementRows sqlite seconds spec scopes range db).length =
      (combinations sqlite seconds spec scopes range db).length := by
  simp [statementRows, metricRows, groups, combinations]

/-- A bucket has at least one row. -/
theorem length_timeBuckets_le :
    (timeBuckets sqlite seconds spec scopes range db).length ≤
      (combinations sqlite seconds spec scopes range db).length := by
  have hsub : (timeBuckets sqlite seconds spec scopes range db).map some ⊆
      (combinations sqlite seconds spec scopes range db).map Prod.fst := by
    intro epoch hepoch
    obtain ⟨bucket, hbucket, rfl⟩ := List.mem_map.mp hepoch
    obtain ⟨c, hc, heq⟩ := List.mem_filterMap.mp (mem_distinct.mp hbucket)
    refine List.mem_map.mpr ⟨metricKey sqlite seconds c, ?_, heq⟩
    exact mem_distinct.mpr (List.mem_map_of_mem hc)
  have hnodup : ((timeBuckets sqlite seconds spec scopes range db).map some).Nodup :=
    (nodup_distinct _).map (Option.some_injective Int)
  simpa using (List.subperm_of_subset hnodup hsub).length_le

end Counts

theorem map_error_iff {α β : Type} {f : α → β} {x : Except SystemError α} {e : SystemError} :
    x.map f = .error e ↔ x = .error e := by
  cases x <;> simp [Except.map]

/-- Folding rows fails on a bucket only. -/
theorem foldRow_error {mapping : Dict String String} {unit : Option String}
    {rows : List MetricRow} {buckets : List SourceItem} {e : SystemError}
    (h : rows.foldlM (foldRow mapping unit) buckets = .error e) : e = .type := by
  induction rows generalizing buckets with
  | nil => cases h
  | cons row rows ih =>
      rw [List.foldlM_cons] at h
      cases hrow : foldRow mapping unit buckets row with
      | ok next =>
          rw [hrow] at h
          exact ih h
      | error e' =>
          rw [hrow] at h
          obtain rfl : e' = e := Except.error.inj h
          unfold foldRow at hrow
          split at hrow
          · cases hrow
          · split at hrow
            · exact (Except.error.inj hrow).symm
            · cases hrow

section Limit

variable {env : Env} {config : SystemConfig} {now : Nat} {identifier metricName resolution : String}
  {db synced : SystemDb} {found : ScopeMap} {spec : SystemMetricSpec}
  {aggregation : NumericAggregation} {seconds : Int}

/-- The statement is refused for its rows. -/
theorem metricPoints_exceeds_iff {sqlite : Sqlite} {plan : Plan MetricRow}
    {scopes : List (String × List String)} {expected : List String} {range : TimeRange}
    {maxBuckets : Int} {telemetry : TelemetryDb} :
    metricPoints sqlite plan now spec aggregation seconds (deviceToController scopes) expected range
        maxBuckets telemetry = .error (exceedsBuckets maxBuckets) ↔
      maxBuckets < (combinations sqlite seconds spec scopes range telemetry).length := by
  have hperm : (plannedRows sqlite plan seconds spec scopes range telemetry).Perm _ :=
    plannedRows_perm plan
  have hlimit := length_limitRows_le maxBuckets
    (plannedRows sqlite plan seconds spec scopes range telemetry)
  rw [hperm.length_eq, length_statementRows] at hlimit
  rw [metricPoints, ← statementRows, ← plannedRows]
  by_cases hlen : (combinations sqlite seconds spec scopes range telemetry).length ≤ maxBuckets
  · rw [if_neg (not_lt.mpr (hlimit.mpr hlen))]
    refine iff_of_false ?_ (not_lt.mpr hlen)
    intro h
    cases hfold : (limitRows (some (maxBuckets + 1)) (plannedRows sqlite plan seconds spec scopes
        range telemetry)).foldlM (foldRow (deviceToController scopes) spec.unit) [] with
    | ok buckets =>
        rw [hfold] at h
        cases h
    | error e =>
        rw [hfold, foldRow_error hfold] at h
        cases h
  · rw [if_pos (by rw [gt_iff_lt, ← not_le, hlimit]; exact hlen)]
    exact iff_of_true rfl (not_le.mp hlen)

/-- The limit is on the number of buckets exactly when the buckets exceed it or
the rows do not. -/
theorem bucket_limit_iff (hspec : metricSpec metricName = some spec)
    (hagg : spec.aggregation = .numeric aggregation)
    (hseconds : resolutionSeconds (env.lower (Text.strip resolution)) = some seconds)
    (hfound : scopeMap env config now identifier db = .ok (synced, found))
    (catalog : String → List String) (sqlite : Sqlite) (plan : Plan MetricRow) (range : TimeRange)
    (maxBuckets : Int) (telemetry : TelemetryDb) :
    (bucketedMetricHistory env catalog sqlite plan config now identifier metricName range
        resolution maxBuckets telemetry db = .error (exceedsBuckets maxBuckets) ↔
      maxBuckets < (timeBuckets sqlite seconds spec found.scopes range telemetry).length) ↔
    (found.scopes.flatMap Prod.snd ≠ [] ∨ 0 ≤ maxBuckets) ∧
      ((combinations sqlite seconds spec found.scopes range telemetry).length ≤ maxBuckets ∨
        maxBuckets < (timeBuckets sqlite seconds spec found.scopes range telemetry).length) := by
  have hle := length_timeBuckets_le sqlite seconds spec found.scopes range telemetry
  rw [bucketedMetricHistory_eq hspec hagg hseconds hfound]
  by_cases hempty : (found.scopes.flatMap Prod.snd).isEmpty = true
  · have hnil : found.scopes.flatMap Prod.snd = [] := List.isEmpty_iff.mp hempty
    have hcells : metricCells spec (deviceToController found.scopes) range telemetry = [] := by
      rw [List.eq_nil_iff_forall_not_mem]
      intro c hc
      have hkept := ((mem_metricCells (registers_ne_nil hspec)).mp hc).2.1
      obtain ⟨uid, hin⟩ := (deviceToController_spec found.scopes c.deviceId).2.mp hkept
      simp only [inHistory, List.any_eq_true, decide_eq_true_eq] at hin
      obtain ⟨s, hs, -, hmem⟩ := hin
      rw [List.flatMap_eq_nil_iff.mp hnil s hs] at hmem
      cases hmem
    have hnone : (combinations sqlite seconds spec found.scopes range telemetry).length = 0 := by
      rw [combinations, hcells]
      rfl
    rw [if_pos hempty]
    simp only [hnil, reduceCtorEq, false_iff, ne_eq, not_true_eq_false, false_or]
    omega
  · have hne : found.scopes.flatMap Prod.snd ≠ [] := by simpa using hempty
    rw [if_neg hempty, map_error_iff, metricPoints_exceeds_iff]
    simp only [hne, ne_eq, not_false_eq_true, true_or, true_and]
    omega

end Limit

/-! ## one bucket, two rows -/

theorem bucket_limit_iff_moved :
    ∃ synced found, scopeMap plainEnv {} 5 "default" { registry := movedRegistry } =
        .ok (synced, found) ∧
      ((bucketedMetricHistory plainEnv (fun _ => []) noonClock (Plan.scan _) {} 5 "default"
          "solar_input_power_w" {} "1h" 20000 movedPower { registry := movedRegistry } =
            .error (exceedsBuckets 20000) ↔
          20000 < (timeBuckets noonClock 3600 solarInput found.scopes {} movedPower).length) ↔
        (found.scopes.flatMap Prod.snd ≠ [] ∨ (0 : Int) ≤ 20000) ∧
          ((combinations noonClock 3600 solarInput found.scopes {} movedPower).length ≤ (20000 : Int) ∨
            20000 < (timeBuckets noonClock 3600 solarInput found.scopes {} movedPower).length)) := by
  have hspec : metricSpec "solar_input_power_w" = some solarInput := by decide
  have hseconds : resolutionSeconds (plainEnv.lower (Text.strip "1h")) = some 3600 := by decide
  have hok : (scopeMap plainEnv {} 5 "default" { registry := movedRegistry }).toBool = true := by
    decide +kernel
  obtain ⟨r, hrun⟩ := Loop.exists_ok hok
  refine ⟨r.1, r.2, hrun, ?_⟩
  exact_mod_cast bucket_limit_iff hspec rfl hseconds hrun _ _ _ _ 20000 _

/-- The devices of one controller are two rows of one bucket: a limit of one bucket
refuses it. -/
theorem one_bucket_exceeds_one :
    ∃ synced found, scopeMap plainEnv {} 5 "default" { registry := movedRegistry } =
        .ok (synced, found) ∧
      timeBuckets noonClock 3600 solarInput found.scopes {} movedPower = [1767268800] ∧
      ¬ (bucketedMetricHistory plainEnv (fun _ => []) noonClock (Plan.scan _) {} 5 "default"
          "solar_input_power_w" {} "1h" 1 movedPower { registry := movedRegistry } =
            .error (exceedsBuckets 1) ↔
          1 < (timeBuckets noonClock 3600 solarInput found.scopes {} movedPower).length) := by
  have hscopes : (scopeMap plainEnv {} 5 "default" { registry := movedRegistry }).map
      (fun r => r.2.scopes) = .ok [("ctrl_", ["rtu", "tcp"])] := by decide +kernel
  have hbuckets : timeBuckets noonClock 3600 solarInput [("ctrl_", ["rtu", "tcp"])] {} movedPower =
      [1767268800] := by decide +kernel
  have hrefused : (bucketedMetricHistory plainEnv (fun _ => []) noonClock (Plan.scan _) {} 5
      "default" "solar_input_power_w" {} "1h" 1 movedPower { registry := movedRegistry }).map
        (fun _ => ()) = .error (exceedsBuckets 1) := by decide +kernel
  cases hrun : scopeMap plainEnv {} 5 "default" { registry := movedRegistry } with
  | error e =>
      rw [hrun] at hscopes
      cases hscopes
  | ok r =>
      rw [hrun] at hscopes
      have hfound : r.2.scopes = [("ctrl_", ["rtu", "tcp"])] := Except.ok.inj hscopes
      refine ⟨r.1, r.2, rfl, by rw [hfound, hbuckets], ?_⟩
      rw [hfound, hbuckets, map_error_iff.mp hrefused]
      simp

end SystemDataRepository

end MorningstarModbus
