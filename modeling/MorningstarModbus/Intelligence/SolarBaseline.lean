import Mathlib.Algebra.Order.BigOperators.Group.List
import MorningstarModbus.Forecasting.SolarForecast
import MorningstarModbus.Intelligence.IncidentMirror

/-!
# MorningstarModbus.Intelligence.SolarBaseline

The baseline of a site's solar power (`solar_baseline` of `intelligence/incidents.py`): what
other days had around this time of day.  Powers are rationals, means and percentiles are exact.

* `comparable` — the readings a baseline is made of;
* `solarBaseline_sound` — its bands are in order, and it is a function of these readings, in
  any order;
* `underproduction_sound` — what is known of the days when underproduction is found.
-/

namespace MorningstarModbus

open Calendar Query Table

/-! ## the baseline -/

/-- The fields of `IncidentPolicy` that a baseline reads. -/
structure BaselinePolicy extends IncidentPolicy where
  productionHistoryDays : Int := 8
  productionMinComparableDays : Nat := 3
  productionBaselineWindowMinutes : Nat := 45

/-- `abs(point_minutes - target_minutes)` -/
def minutesApart (t u : Timestamp) : Nat := ((minuteOfDay t : Int) - minuteOfDay u).natAbs

/-- A reading of another day, at about this time. -/
def IsComparable (policy : BaselinePolicy) (now : Timestamp) (r : Timestamp × ℚ) : Prop :=
  r.1.date ≠ now.date ∧ minutesApart r.1 now ≤ policy.productionBaselineWindowMinutes

instance (policy : BaselinePolicy) (now : Timestamp) (r : Timestamp × ℚ) :
    Decidable (IsComparable policy now r) :=
  inferInstanceAs (Decidable (_ ∧ _))

/-- The readings that are kept. -/
def comparable (texts : PyTexts) (policy : BaselinePolicy) (now : Timestamp)
    (points : List SolarPoint) : List (Timestamp × ℚ) :=
  (readings texts points).filter fun r => IsComparable policy now r

/-- `sum(values) / len(values)` -/
def mean (values : List ℚ) : ℚ := values.sum / values.length

/-- `by_day`, with the mean of each day. -/
def dailyMeans (rows : List (Timestamp × ℚ)) : List (String × ℚ) :=
  (groups (fun r => r.1.date.isoformat) rows).map fun g => (g.1, mean (g.2.map Prod.snd))

/-- What `solar_baseline` returns. -/
structure SolarBaselineReport where
  systemUid : String
  metric : String := "solar_input_power_w"
  unit : String := "W"
  status : String
  observedAt : Option String
  currentValue : Option ℚ
  expectedLow : Option ℚ
  expectedMedian : Option ℚ
  expectedHigh : Option ℚ
  comparableDays : Nat
  windowMinutes : Nat
  historyDays : Int
  confidence : String
  provenance : String := "local normalized system history; no weather dependency"
  deriving DecidableEq

/-- What is returned of the readings that are kept. -/
def baselineOf (policy : BaselinePolicy) (systemUid : String) (latest : SystemSnapshot)
    (rows : List (Timestamp × ℚ)) : SolarBaselineReport :=
  let current := (latest.metrics.lookup "solar_input_power_w").bind fun m => m.value.numeric?
  let dailyValues := (dailyMeans rows).map Prod.snd
  let median := Percentile.percentile dailyValues (1 / 2)
  let ready : Bool := current.isSome ∧ median.isSome ∧
    policy.productionMinComparableDays ≤ dailyValues.length
  { systemUid
    status := if ready then "ready" else "insufficient_evidence"
    observedAt := latest.observedAt
    currentValue := current
    expectedLow := Percentile.percentile dailyValues (1 / 10)
    expectedMedian := median
    expectedHigh := Percentile.percentile dailyValues (9 / 10)
    comparableDays := dailyValues.length
    windowMinutes := policy.productionBaselineWindowMinutes
    historyDays := policy.productionHistoryDays
    confidence := if 5 ≤ dailyValues.length then "high" else if ready then "medium" else "low" }

/-- `solar_baseline`; the history is read in buckets of 15 minutes. -/
def solarBaseline (reads : SolarReads) (texts : PyTexts) (policy : BaselinePolicy)
    (systemUid : String) (now : Timestamp) : Except ForecastError SolarBaselineReport := do
  let latest ← (reads.latest systemUid).mapError .system
  let start ← (daysBefore now policy.productionHistoryDays).mapError .raised
  let window : TimeInterval := { start := some start, stop := some now }
  let points ← (reads.history systemUid window.texts 20000).mapError .system
  return baselineOf policy systemUid latest (comparable texts policy now points)

/-- What `_evaluate_solar_baseline` reads of it. -/
def SolarBaselineReport.evidence (report : SolarBaselineReport) : SolarBaseline where
  ready := report.status = "ready"
  currentValue := report.currentValue
  expectedLow := report.expectedLow
  expectedMedian := report.expectedMedian
  expectedHigh := report.expectedHigh
  comparableDays := report.comparableDays

/-! ## what a baseline is made of -/

/-- The bands of a report, and where they lie. -/
structure SolarBaselineReport.Banded (report : SolarBaselineReport)
    (rows : List (Timestamp × ℚ)) : Prop where
  /-- there are bands exactly when there is a reading -/
  some_iff : ∀ band ∈ [report.expectedLow, report.expectedMedian, report.expectedHigh],
    band.isSome ↔ rows ≠ []
  low_le : ∀ low ∈ report.expectedLow, ∀ median ∈ report.expectedMedian, low ≤ median
  median_le : ∀ median ∈ report.expectedMedian, ∀ high ∈ report.expectedHigh, median ≤ high
  /-- they lie between any bounds of the readings -/
  within : ∀ below above, (∀ r ∈ rows, below ≤ r.2 ∧ r.2 ≤ above) →
    ∀ band ∈ [report.expectedLow, report.expectedMedian, report.expectedHigh],
      ∀ value ∈ band, below ≤ value ∧ value ≤ above
  /-- each day counts once -/
  days : report.comparableDays = (distinct (rows.map fun r => r.1.date)).length

section Means

variable {rows rows' : List (Timestamp × ℚ)}

theorem mean_perm {values values' : List ℚ} (h : values.Perm values') :
    mean values = mean values' := by
  rw [mean, mean, h.sum_eq, h.length_eq]

/-- A mean lies between the bounds of its values. -/
theorem mean_mem_bounds {values : List ℚ} {below above : ℚ} (hne : values ≠ [])
    (h : ∀ v ∈ values, below ≤ v ∧ v ≤ above) : below ≤ mean values ∧ mean values ≤ above := by
  have hpos : (0 : ℚ) < values.length := Nat.cast_pos.mpr (List.length_pos_iff.mpr hne)
  rw [mean, le_div_iff₀ hpos, div_le_iff₀ hpos]
  have hlow := List.card_nsmul_le_sum values below fun v hv => (h v hv).1
  have hhigh := List.sum_le_card_nsmul values above fun v hv => (h v hv).2
  rw [nsmul_eq_mul] at hlow hhigh
  constructor <;> linarith

theorem dailyMeans_perm (h : rows.Perm rows') : (dailyMeans rows).Perm (dailyMeans rows') := by
  refine map_groups_perm h fun day => ?_
  rw [mean_perm ((h.filter _).map Prod.snd)]

theorem dailyMeans_eq_nil : dailyMeans rows = [] ↔ rows = [] := by
  cases rows with
  | nil => simp [dailyMeans, groups, distinct]
  | cons r rows => simp [dailyMeans, groups, distinct]

theorem mem_dailyMeans_bounds {below above : ℚ} (h : ∀ r ∈ rows, below ≤ r.2 ∧ r.2 ≤ above) :
    ∀ v ∈ (dailyMeans rows).map Prod.snd, below ≤ v ∧ v ≤ above := by
  intro v hv
  obtain ⟨d, hd, rfl⟩ := List.mem_map.mp hv
  obtain ⟨g, hg, rfl⟩ := List.mem_map.mp hd
  refine mean_mem_bounds (by simpa using (mem_groups hg).2) fun x hx => ?_
  obtain ⟨r, hr, rfl⟩ := List.mem_map.mp hx
  exact h r (mem_of_mem_groups hg hr).1

/-- There is a mean for each date. -/
theorem length_dailyMeans :
    (dailyMeans rows).length = (distinct (rows.map fun r => r.1.date)).length := by
  have hperm : (distinct (rows.map fun r => r.1.date.isoformat)).Perm
      ((distinct (rows.map fun r => r.1.date)).map CivilDay.isoformat) := by
    refine (List.perm_ext_iff_of_nodup (nodup_distinct _)
      ((nodup_distinct _).map CivilDay.isoformat_strictMono.injective)).mpr fun text => ?_
    simp only [mem_distinct, List.mem_map]
    constructor
    · rintro ⟨r, hr, rfl⟩
      exact ⟨r.1.date, ⟨r, hr, rfl⟩, rfl⟩
    · rintro ⟨-, ⟨r, hr, rfl⟩, rfl⟩
      exact ⟨r, hr, rfl⟩
  rw [dailyMeans, groups, List.length_map, List.length_map, hperm.length_eq, List.length_map]

end Means

section Baseline

variable {policy : BaselinePolicy} {systemUid : String} {latest : SystemSnapshot}
  {rows rows' : List (Timestamp × ℚ)}

/-- A baseline does not depend on the order of its readings. -/
theorem baselineOf_perm (h : rows.Perm rows') :
    baselineOf policy systemUid latest rows = baselineOf policy systemUid latest rows' := by
  have hmeans := (dailyMeans_perm h).map Prod.snd
  simp only [baselineOf, Percentile.percentile_perm hmeans, hmeans.length_eq]

theorem baselineOf_banded : (baselineOf policy systemUid latest rows).Banded rows where
  some_iff := by
    have hsome : ∀ fraction : ℚ, fraction ≤ 1 →
        ((Percentile.percentile ((dailyMeans rows).map Prod.snd) fraction).isSome ↔ rows ≠ []) := by
      intro fraction hle
      constructor
      · rintro h rfl
        exact absurd h (by simp [dailyMeans, groups, distinct])
      · intro hne
        exact Percentile.percentile_isSome (by simpa [dailyMeans_eq_nil] using hne) hle
    intro band hband
    simp only [List.mem_cons, List.not_mem_nil, or_false] at hband
    rcases hband with rfl | rfl | rfl <;> exact hsome _ (by norm_num)
  low_le low hlow median hmedian :=
    Percentile.percentile_mono (by norm_num) (by norm_num) (by norm_num) hlow hmedian
  median_le median hmedian high hhigh :=
    Percentile.percentile_mono (by norm_num) (by norm_num) (by norm_num) hmedian hhigh
  within below above h band hband value hvalue := by
    have hbounds : ∀ fraction : ℚ, 0 ≤ fraction → fraction ≤ 1 →
        Percentile.percentile ((dailyMeans rows).map Prod.snd) fraction = some value →
        below ≤ value ∧ value ≤ above := fun fraction h0 h1 hx =>
      Percentile.percentile_mem_bounds h0 h1 hx (fun v hv => (mem_dailyMeans_bounds h v hv).1)
        fun v hv => (mem_dailyMeans_bounds h v hv).2
    simp only [List.mem_cons, List.not_mem_nil, or_false] at hband
    rcases hband with rfl | rfl | rfl <;>
      exact hbounds _ (by norm_num) (by norm_num) hvalue
  days := by
    show ((dailyMeans rows).map Prod.snd).length = _
    rw [List.length_map, length_dailyMeans]

end Baseline

/-- **The baseline** of a site: its bands are in order and within its readings, each other day
counts once, and whatever else the history holds, in whatever order, changes nothing. -/
theorem solarBaseline_sound {reads : SolarReads} {texts : PyTexts} {policy : BaselinePolicy}
    {systemUid : String} {now start : Timestamp} {points : List SolarPoint}
    {latest : SystemSnapshot} (hlatest : reads.latest systemUid = .ok latest)
    (hstart : daysBefore now policy.productionHistoryDays = .ok start)
    (hpoints : reads.history systemUid
      (TimeInterval.texts { start := some start, stop := some now }) 20000 = .ok points) :
    ∃ report, solarBaseline reads texts policy systemUid now = .ok report ∧
      report.Banded (comparable texts policy now points) ∧
      ∀ (reads' : SolarReads) (points' : List SolarPoint),
        reads'.latest systemUid = .ok latest →
        reads'.history systemUid
          (TimeInterval.texts { start := some start, stop := some now }) 20000 = .ok points' →
        (comparable texts policy now points').Perm (comparable texts policy now points) →
          solarBaseline reads' texts policy systemUid now = .ok report := by
  have heval : ∀ {reads : SolarReads} {points : List SolarPoint},
      reads.latest systemUid = .ok latest →
      reads.history systemUid
        (TimeInterval.texts { start := some start, stop := some now }) 20000 = .ok points →
      solarBaseline reads texts policy systemUid now =
        .ok (baselineOf policy systemUid latest (comparable texts policy now points)) := by
    intro reads points hlatest hpoints
    simp only [solarBaseline, hlatest, hstart, Except.mapError, Loop.ok_bind]
    rw [hpoints]
    rfl
  refine ⟨_, heval hlatest hpoints, baselineOf_banded, ?_⟩
  intro reads' points' hlatest' hpoints' hperm
  rw [heval hlatest' hpoints', baselineOf_perm hperm]

/-! ## underproduction -/

/-- What is known of other days when underproduction is found: enough of them are comparable,
their median is what a site has by daylight, and what it has now is below the warning fraction
of it; so on half of them or more the power around this time, taken down by that fraction, was
above what it is now. -/
structure FellBehind (policy : BaselinePolicy) (current : ℚ) (rows : List (Timestamp × ℚ)) :
    Prop where
  enough : policy.productionMinComparableDays ≤ (distinct (rows.map fun r => r.1.date)).length
  expected : ∃ median, Percentile.percentile ((dailyMeans rows).map Prod.snd) (1 / 2) =
    some median ∧ policy.productionMinExpectedW ≤ median ∧
      current < median * policy.productionWarningFraction
  half : (dailyMeans rows).length ≤ 2 * ((dailyMeans rows).filter fun d =>
    current < d.2 * policy.productionWarningFraction).length

/-- At least half of a sample is at least its median. -/
theorem length_le_of_median {values : List ℚ} {median : ℚ}
    (h : Percentile.percentile values (1 / 2) = some median) :
    values.length ≤ 2 * (values.filter fun v => median ≤ v).length := by
  have hcount := Percentile.length_le_of_percentile (by norm_num) h
  have hceil : ⌈((values.length - 1 : ℕ) : ℚ) * (1 / 2)⌉₊ ≤ values.length / 2 := by
    rw [Nat.ceil_le]
    have hdiv : values.length - 1 ≤ 2 * (values.length / 2) := by omega
    have hcast : ((values.length - 1 : ℕ) : ℚ) ≤ ((2 * (values.length / 2) : ℕ) : ℚ) :=
      Nat.cast_le.mpr hdiv
    rw [Nat.cast_mul] at hcast
    push_cast at hcast
    linarith
  omega

theorem judgeSolar_eq_true {policy : IncidentPolicy} {baseline : SolarBaseline}
    (h : judgeSolar policy baseline = some true) :
    baseline.ready = true ∧ ∃ current median, baseline.currentValue = some current ∧
      baseline.expectedMedian = some median ∧ policy.productionMinExpectedW ≤ median ∧
      current < median * policy.productionWarningFraction := by
  unfold judgeSolar at h
  split at h
  case isFalse => cases h
  case isTrue hready =>
    split at h
    case h_2 => cases h
    case h_1 current median hcurrent hmedian =>
      simp only [Option.some.injEq, decide_eq_true_eq, lt_min_iff] at h
      exact ⟨hready, current, median, hcurrent, hmedian, h.1, h.2.1⟩

theorem ready_baselineOf {policy : BaselinePolicy} {systemUid : String} {latest : SystemSnapshot}
    {rows : List (Timestamp × ℚ)}
    (h : (baselineOf policy systemUid latest rows).evidence.ready = true) :
    policy.productionMinComparableDays ≤ (dailyMeans rows).length := by
  simp only [SolarBaselineReport.evidence, baselineOf, decide_eq_true_eq, List.length_map] at h
  split at h
  case isTrue hready => exact hready.2.2
  case isFalse => exact absurd h (by decide)

/-- **Underproduction** is found on a baseline only when the site fell behind its other
days. -/
theorem underproduction_sound {reads : SolarReads} {texts : PyTexts} {policy : BaselinePolicy}
    {systemUid : String} {now : Timestamp} {report : SolarBaselineReport} {f : Finding}
    (hreport : solarBaseline reads texts policy systemUid now = .ok report)
    (hfraction : 0 ≤ policy.productionWarningFraction)
    (hfinding : (solarFinding policy.toIncidentPolicy systemUid report.evidence).1 = some f) :
    ∃ start points current, daysBefore now policy.productionHistoryDays = .ok start ∧
      reads.history systemUid
        (TimeInterval.texts { start := some start, stop := some now }) 20000 = .ok points ∧
      report.currentValue = some current ∧
      FellBehind policy current (comparable texts policy now points) := by
  simp only [solarBaseline, Loop.bind_eq_ok, Loop.mapError_eq_ok, Loop.pure_eq_ok,
    Except.ok.injEq] at hreport
  obtain ⟨latest, hlatest, start, hstart, points, hpoints, rfl⟩ := hreport
  have hjudged : judgeSolar policy.toIncidentPolicy _ = some true :=
    (judges_solar policy.toIncidentPolicy systemUid _).finding.mp (by rw [hfinding]; rfl)
  obtain ⟨hready, current, median, hcurrent, hmedian, hdaylight, hbelow⟩ :=
    judgeSolar_eq_true hjudged
  refine ⟨start, points, current, hstart, hpoints, hcurrent, ?_, ⟨median, hmedian, hdaylight, hbelow⟩,
    ?_⟩
  · rw [← length_dailyMeans]
    exact ready_baselineOf hready
  · have hhalf := length_le_of_median hmedian
    have hsub : ∀ d : String × ℚ, median ≤ d.2 →
        current < d.2 * policy.productionWarningFraction := fun d hd =>
      hbelow.trans_le (mul_le_mul_of_nonneg_right hd hfraction)
    have hcount : (((dailyMeans (comparable texts policy now points)).map Prod.snd).filter fun v =>
        median ≤ v).length ≤ ((dailyMeans (comparable texts policy now points)).filter fun d =>
          current < d.2 * policy.productionWarningFraction).length := by
      rw [List.filter_map, List.length_map]
      refine (List.monotone_filter_right _ fun d hd => ?_).length_le
      simp only [Function.comp, decide_eq_true_eq] at hd
      exact decide_eq_true (hsub d hd)
    rw [List.length_map] at hhalf
    omega

/-! ## four days in July -/

/-- A system with some points and a current power. -/
def julySite (power : ℚ) (points : List SolarPoint) : SolarReads where
  history _ _ _ := .ok points
  latest systemUid := .ok
    { systemUid, name := "", observedAt := none, controllerCount := 1
      metrics := [("solar_input_power_w",
        { value := .number power, unit := some "W", aggregation := .numeric .sum
          quality := .complete, contributors := 1, expectedContributors := 1
          oldestObservationAgeMs := none, sources := [] })] }

def sunnyNoons : List SolarPoint :=
  [julyPoint 4 43200 400, julyPoint 5 43200 400, julyPoint 6 43200 400, julyPoint 7 43200 400]

def sunnyTexts : PyTexts :=
  .ofTimes [july 4 43200, july 5 43200, july 6 43200, july 7 43200, july 9 42300]

/-- A reading of the same day changes nothing, nor does the order. -/
theorem solarBaseline_sound_july :
    ∃ report,
      solarBaseline (julySite 100 sunnyNoons) sunnyTexts {} "home" (july 9 43200) = .ok report ∧
      report.expectedMedian = some 400 ∧ report.comparableDays = 4 ∧
      solarBaseline (julySite 100 (julyPoint 9 42300 900 :: sunnyNoons.reverse)) sunnyTexts {}
        "home" (july 9 43200) = .ok report := by
  obtain ⟨report, hreport, -, hsame⟩ := @solarBaseline_sound (julySite 100 sunnyNoons) sunnyTexts
    {} "home" (july 9 43200) (july 1 43200) sunnyNoons _ rfl rfl rfl
  have heval : (solarBaseline (julySite 100 sunnyNoons) sunnyTexts {} "home" (july 9 43200)).map
      (fun report => (report.expectedMedian, report.comparableDays)) = .ok (some 400, 4) := by
    decide +kernel
  rw [hreport] at heval
  simp only [Except.map, Except.ok.injEq, Prod.mk.injEq] at heval
  exact ⟨report, hreport, heval.1, heval.2, hsame _ _ rfl rfl (by decide +kernel)⟩

/-- A quarter of the power of the other days. -/
theorem underproduction_sound_july :
    ∃ points, FellBehind {} 100 (comparable sunnyTexts {} (july 9 43200) points) := by
  have heval : (solarBaseline (julySite 100 sunnyNoons) sunnyTexts {} "home" (july 9 43200)).map
      (fun report => ((solarFinding {} "home" report.evidence).1.isSome, report.currentValue)) =
        .ok (true, some 100) := by
    decide +kernel
  cases hreport : solarBaseline (julySite 100 sunnyNoons) sunnyTexts {} "home" (july 9 43200) with
  | error e =>
      rw [hreport] at heval
      cases heval
  | ok report =>
      rw [hreport] at heval
      simp only [Except.map, Except.ok.injEq, Prod.mk.injEq] at heval
      obtain ⟨f, hf⟩ := Option.isSome_iff_exists.mp heval.1
      obtain ⟨start, points, current, -, -, hcurrent, hbehind⟩ :=
        underproduction_sound hreport (by norm_num) hf
      obtain rfl : current = 100 := Option.some.inj (hcurrent.symm.trans heval.2)
      exact ⟨points, hbehind⟩

end MorningstarModbus
