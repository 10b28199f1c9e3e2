import MorningstarModbus.Forecasting.ChargeForecast
import MorningstarModbus.Lib.Percentile

/-!
# MorningstarModbus.Forecasting.SolarForecast

The solar forecast of a system (`solar_forecast` of `forecasting/service.py`): for each
quarter of an hour a band of percentiles of the earlier days, and the energy that is
still to come today.

What the repository reads of the system is a parameter.

* `Tally.Sound` — what a turn of the loop over the day preserves;
* `solarForecast_bands` — the bands are in order, and the forecast does not depend on the
  order of the points.
-/

namespace MorningstarModbus

open Calendar Query Table

/-! ## the history of solar power -/

/-- The fields of `ForecastPolicy` that the forecasts of a system read. -/
structure SolarPolicy extends ForecastPolicy where
  minimumDailySamples : Int := 16
  productivePowerW : ℚ := 25
  backtestDays : Int := 14
  maxHistoryPoints : Int := 20000

/-- A point of a bucketed history; a text it lacks is empty. -/
structure SolarPoint where
  bucketStart : String
  observedAt : String
  value : MetricValue

/-- `point.get("bucket_start") or point.get("observed_at")` -/
def SolarPoint.time (p : SolarPoint) : String :=
  if p.bucketStart = "" then p.observedAt else p.bucketStart

/-- What is read of a point. -/
def SolarPoint.reading? (texts : PyTexts) (p : SolarPoint) : Option (Timestamp × ℚ) := do
  return (← texts.parseUtc p.time, ← p.value.numeric?)

def readings (texts : PyTexts) (points : List SolarPoint) : List (Timestamp × ℚ) :=
  points.filterMap (SolarPoint.reading? texts)

/-- The power of a day by the minute. -/
abbrev Curve := List (Nat × ℚ)

def curveOf (rows : List (Timestamp × ℚ)) : Curve :=
  rows.foldl (fun curve r => upsert Prod.fst (fun _ new => new) (minuteOfDay r.1, r.2) curve) []

/-- `_solar_history` -/
def solarHistory (texts : PyTexts) (points : List SolarPoint) : List (String × Curve) :=
  (groups (fun r => r.1.date.isoformat) (readings texts points)).map fun g => (g.1, curveOf g.2)

/-- What the forecasts read of a system. -/
structure SolarReads where
  /-- the points of `bucketed_metric_history` in buckets of 15 minutes -/
  history : String → TimeRange → Int → Except SystemError (List SolarPoint)
  latest : String → Except SystemError SystemSnapshot

inductive ForecastError where
  | raised (error : PyException)
  | system (error : SystemError)
  deriving DecidableEq

/-- The points of the days before a day, up to a time. -/
def SolarReads.since (reads : SolarReads) (policy : SolarPolicy) (systemUid : String)
    (days : Int) (dayStart stop : Timestamp) : Except ForecastError (List SolarPoint) := do
  let start ← (daysBefore dayStart days).mapError .raised
  let window : TimeInterval := { start := some start, stop := some stop }
  (reads.history systemUid window.texts policy.maxHistoryPoints).mapError .system

/-! ## a turn of the loop -/

/-- `_BUCKET_HOURS` -/
def bucketHours : ℚ := 15 / 60

/-- The energy of a bucket of some power. -/
def bucketEnergy (power : ℚ) : ℚ := max 0 power * bucketHours

theorem timeAt_lt (minute : Fin 1440) : minute.val * 60000000 < dayMicros := by
  have h := minute.isLt
  rw [dayMicros]
  omega

/-- `_at_minute`, at a minute of the day. -/
def timeAt (day : Timestamp) (minute : Fin 1440) : Timestamp :=
  { day with micros := minute * 60000000, micros_lt := timeAt_lt minute }

theorem quarterHour_lt (q : Fin 96) : 15 * q.val < 1440 := by omega

/-- `range(0, 24 * 60, _BUCKET_MINUTES)` -/
def quarterHours : List (Fin 1440) :=
  (List.finRange 96).map fun q => ⟨15 * q.val, quarterHour_lt q⟩

structure SolarSlot where
  /-- `at` -/
  time : String
  minuteOfDay : Nat
  phase : String
  observedW : Option ℚ
  p10W : Option ℚ
  p50W : Option ℚ
  p90W : Option ℚ
  trainingSamples : Nat
  deriving DecidableEq

/-- The powers of a minute on the training days. -/
def trainingValues (training : List (String × Curve)) (minute : Nat) : List ℚ :=
  training.filterMap fun d => d.2.lookup minute

/-- The variables of the loop. -/
structure Tally where
  curve : List SolarSlot := []
  productiveMinutes : List (Fin 1440) := []
  expectedBucketsBeforeNow : Nat := 0
  observedBucketsBeforeNow : Nat := 0
  expectedSoFarWh : ℚ := 0
  observedSoFarWh : ℚ := 0
  remainingP10Wh : ℚ := 0
  remainingP50Wh : ℚ := 0
  remainingP90Wh : ℚ := 0

section Turn

variable (policy : SolarPolicy) (dayStart : Timestamp) (currentBucket : Nat)
  (training : List (String × Curve)) (today : Curve)

/-- What the curve shows at a minute. -/
def slotAt (minute : Fin 1440) : SolarSlot where
  time := (timeAt dayStart minute).isoformat
  minuteOfDay := minute
  phase := if minute.val ≤ currentBucket then "observed" else "forecast"
  observedW := today.lookup minute.val
  p10W := Percentile.percentile (trainingValues training minute) (1 / 10)
  p50W := Percentile.percentile (trainingValues training minute) (1 / 2)
  p90W := Percentile.percentile (trainingValues training minute) (9 / 10)
  trainingSamples := (trainingValues training minute).length

/-- A turn of the loop. -/
def Tally.turn (acc : Tally) (minute : Fin 1440) : Tally :=
  let slot := slotAt dayStart currentBucket training today minute
  let productive : Bool := slot.p50W.any fun p50 => policy.productivePowerW ≤ p50
  let past : Bool := minute.val ≤ currentBucket
  { curve := acc.curve ++ if slot.p50W.isSome ∨ slot.observedW.isSome then [slot] else []
    productiveMinutes := acc.productiveMinutes ++ if productive then [minute] else []
    expectedBucketsBeforeNow :=
      acc.expectedBucketsBeforeNow + if past ∧ productive then 1 else 0
    observedBucketsBeforeNow :=
      acc.observedBucketsBeforeNow +
        if past ∧ productive ∧ slot.observedW.isSome then 1 else 0
    expectedSoFarWh :=
      acc.expectedSoFarWh + if past ∧ productive then slot.p50W.getD 0 * bucketHours else 0
    observedSoFarWh :=
      acc.observedSoFarWh + if past then bucketEnergy (slot.observedW.getD 0) else 0
    remainingP10Wh := acc.remainingP10Wh + if past then 0 else bucketEnergy (slot.p10W.getD 0)
    remainingP50Wh := acc.remainingP50Wh + if past then 0 else bucketEnergy (slot.p50W.getD 0)
    remainingP90Wh := acc.remainingP90Wh + if past then 0 else bucketEnergy (slot.p90W.getD 0) }

/-- The loop over the day. -/
def tallyOf : Tally :=
  quarterHours.foldl (Tally.turn policy dayStart currentBucket training today) {}

end Turn

/-! ## the forecast -/

/-- `_confidence` -/
def confidenceOf (days : Nat) (coverage : Option ℚ) : String :=
  if 14 ≤ days ∧ coverage.all (fun c => 4 / 5 ≤ c) then "high"
  else if 7 ≤ days ∧ coverage.all (fun c => 1 / 2 ≤ c) then "medium"
  else "low"

structure ProductiveWindow where
  start : Option String
  stop : Option String
  thresholdW : ℚ
  deriving DecidableEq

/-- The window from the first productive minute to the end of the last productive bucket,
which has no text at the end of the day. -/
def productiveWindow (policy : SolarPolicy) (dayStart : Timestamp) (minutes : List (Fin 1440)) :
    ProductiveWindow where
  start := minutes.min?.map fun first => (timeAt dayStart first).isoformat
  stop := minutes.max?.bind fun last =>
    if h : last.val + 15 < 1440 then some (timeAt dayStart ⟨last.val + 15, h⟩).isoformat else none
  thresholdW := policy.productivePowerW

structure SolarEnergy where
  observedInputWh : ℚ
  expectedSoFarP50Wh : ℚ
  progressRatio : Option ℚ
  remainingP10Wh : ℚ
  remainingP50Wh : ℚ
  remainingP90Wh : ℚ
  eodP10Wh : ℚ
  eodP50Wh : ℚ
  eodP90Wh : ℚ
  integrationSemantics : String
  deriving DecidableEq

def Tally.energy (tally : Tally) : SolarEnergy where
  observedInputWh := tally.observedSoFarWh
  expectedSoFarP50Wh := tally.expectedSoFarWh
  progressRatio :=
    if 0 < tally.expectedSoFarWh then some (tally.observedSoFarWh / tally.expectedSoFarWh) else none
  remainingP10Wh := tally.remainingP10Wh
  remainingP50Wh := tally.remainingP50Wh
  remainingP90Wh := tally.remainingP90Wh
  eodP10Wh := tally.observedSoFarWh + tally.remainingP10Wh
  eodP50Wh := tally.observedSoFarWh + tally.remainingP50Wh
  eodP90Wh := tally.observedSoFarWh + tally.remainingP90Wh
  integrationSemantics :=
    "15-minute normalized solar-input power buckets integrated locally; " ++
      "not a controller energy counter"

structure SolarProvenance where
  source : String := "local normalized system history"
  model : String := "local-time-of-day-percentile-v1"
  resolution : String := "15m"
  weatherUsed : Bool := false
  internetRequired : Bool := false
  deriving DecidableEq

structure SolarForecast where
  systemUid : String
  metric : String := "solar_input_power_w"
  unit : String := "W"
  status : String
  generatedAt : String
  currentPowerW : Option ℚ
  trainingDays : Nat
  historyDays : Int
  coverageFractionToday : Option ℚ
  confidence : String
  productiveWindow : ProductiveWindow
  energy : SolarEnergy
  curve : List SolarSlot
  provenance : SolarProvenance := {}
  deriving DecidableEq

/-- `_bucket_floor_minutes` -/
def bucketFloorMinutes (t : Timestamp) : Nat := minuteOfDay t - minuteOfDay t % 15

/-- `training` -/
def trainingOf (policy : SolarPolicy) (texts : PyTexts) (now : Timestamp)
    (points : List SolarPoint) : List (String × Curve) :=
  (solarHistory texts points).filter fun d =>
    d.1 ≠ now.date.isoformat ∧ policy.minimumDailySamples ≤ d.2.length

/-- `today` -/
def todayOf (texts : PyTexts) (now : Timestamp) (points : List SolarPoint) : Curve :=
  ((solarHistory texts points).lookup now.date.isoformat).getD []

/-- What is returned of a tally. -/
def Tally.forecast (tally : Tally) (policy : SolarPolicy) (systemUid : String) (now : Timestamp)
    (trainingDays : Nat) (latest : SystemSnapshot) : SolarForecast :=
  let coverage : Option ℚ :=
    if tally.expectedBucketsBeforeNow = 0 then none
    else some (tally.observedBucketsBeforeNow / tally.expectedBucketsBeforeNow)
  let ready : Bool :=
    policy.minimumTrainingDays ≤ trainingDays ∧ tally.productiveMinutes ≠ []
  { systemUid
    status := if ready then "ready" else "insufficient_evidence"
    generatedAt := now.isoformat
    currentPowerW :=
      (latest.metrics.lookup "solar_input_power_w").bind fun m => m.value.numeric?
    trainingDays
    historyDays := policy.historyDays
    coverageFractionToday := coverage
    confidence := if ready then confidenceOf trainingDays coverage else "low"
    productiveWindow := productiveWindow policy now.date.midnight tally.productiveMinutes
    energy := tally.energy
    curve := tally.curve }

/-- `solar_forecast` -/
def solarForecast (reads : SolarReads) (texts : PyTexts) (policy : SolarPolicy)
    (systemUid : String) (now : Timestamp) : Except ForecastError SolarForecast := do
  let points ← reads.since policy systemUid policy.historyDays now.date.midnight now
  let training := trainingOf policy texts now points
  let tally := tallyOf policy now.date.midnight (bucketFloorMinutes now) training
    (todayOf texts now points)
  let latest ← (reads.latest systemUid).mapError .system
  return tally.forecast policy systemUid now training.length latest

/-! ## bands in order -/

/-- The bands of a slot are in order between the least and the greatest of its training
values; without such a value there are none. -/
def SolarSlot.Banded (values : List ℚ) (slot : SolarSlot) : Prop :=
  match slot.p10W, slot.p50W, slot.p90W with
  | some p10, some p50, some p90 =>
      (∃ low, values.min? = some low ∧ low ≤ p10) ∧ p10 ≤ p50 ∧ p50 ≤ p90 ∧
        ∃ high, values.max? = some high ∧ p90 ≤ high
  | none, none, none => values = []
  | _, _, _ => False

theorem bucketEnergy_nonneg (power : ℚ) : 0 ≤ bucketEnergy power :=
  mul_nonneg (le_max_left 0 power) (by norm_num [bucketHours])

theorem bucketEnergy_mono {x y : ℚ} (h : x ≤ y) : bucketEnergy x ≤ bucketEnergy y :=
  mul_le_mul_of_nonneg_right (max_le_max_left 0 h) (by norm_num [bucketHours])

/-- The energy of the bands of a slot is in order. -/
theorem SolarSlot.Banded.energy_le {values : List ℚ} {slot : SolarSlot} (h : slot.Banded values) :
    bucketEnergy (slot.p10W.getD 0) ≤ bucketEnergy (slot.p50W.getD 0) ∧
      bucketEnergy (slot.p50W.getD 0) ≤ bucketEnergy (slot.p90W.getD 0) := by
  unfold SolarSlot.Banded at h
  split at h
  · case h_1 p10 p50 p90 h10 h50 h90 =>
      obtain ⟨-, hlow, hhigh, -⟩ := h
      rw [h10, h50, h90]
      exact ⟨bucketEnergy_mono hlow, bucketEnergy_mono hhigh⟩
  · case h_2 h10 h50 h90 =>
      rw [h10, h50, h90]
      exact ⟨le_refl _, le_refl _⟩
  · exact h.elim

section Bands

variable {policy : SolarPolicy} {dayStart : Timestamp} {currentBucket : Nat}
  {training : List (String × Curve)} {today : Curve}

theorem slotAt_banded (minute : Fin 1440) :
    (slotAt dayStart currentBucket training today minute).Banded
      (trainingValues training minute) := by
  simp only [SolarSlot.Banded, slotAt]
  generalize trainingValues training minute = values
  obtain rfl | hne := eq_or_ne values []
  · simp
  · obtain ⟨p10, h10⟩ := Option.isSome_iff_exists.mp
      (Percentile.percentile_isSome hne (by norm_num : (1 / 10 : ℚ) ≤ 1))
    obtain ⟨p50, h50⟩ := Option.isSome_iff_exists.mp
      (Percentile.percentile_isSome hne (by norm_num : (1 / 2 : ℚ) ≤ 1))
    obtain ⟨p90, h90⟩ := Option.isSome_iff_exists.mp
      (Percentile.percentile_isSome hne (by norm_num : (9 / 10 : ℚ) ≤ 1))
    obtain ⟨low, hlow, hleast⟩ := exists_min? hne
    obtain ⟨high, hhigh, hgreatest⟩ := exists_max? hne
    rw [h10, h50, h90]
    refine ⟨⟨low, hlow, ?_⟩, ?_, ?_, high, hhigh, ?_⟩
    · exact (Percentile.percentile_mem_bounds (by norm_num) (by norm_num) h10 hleast hgreatest).1
    · exact Percentile.percentile_mono (by norm_num) (by norm_num) (by norm_num) h10 h50
    · exact Percentile.percentile_mono (by norm_num) (by norm_num) (by norm_num) h50 h90
    · exact (Percentile.percentile_mem_bounds (by norm_num) (by norm_num) h90 hleast hgreatest).2

/-- What holds before every turn of the loop. -/
structure Tally.Sound (training : List (String × Curve)) (tally : Tally) : Prop where
  slots : ∀ slot ∈ tally.curve, slot.Banded (trainingValues training slot.minuteOfDay)
  nonneg : 0 ≤ tally.remainingP10Wh
  p10_le : tally.remainingP10Wh ≤ tally.remainingP50Wh
  p50_le : tally.remainingP50Wh ≤ tally.remainingP90Wh

/-- A turn of the loop keeps the bands in order. -/
theorem Tally.Sound.turn {tally : Tally} (h : tally.Sound training) (minute : Fin 1440) :
    (tally.turn policy dayStart currentBucket training today minute).Sound training := by
  have hbanded : (slotAt dayStart currentBucket training today minute).Banded
    (trainingValues training minute) := slotAt_banded minute
  obtain ⟨henergy, henergy'⟩ := hbanded.energy_le
  have hnonneg := bucketEnergy_nonneg
    ((slotAt dayStart currentBucket training today minute).p10W.getD 0)
  constructor
  · intro slot hslot
    cases List.mem_append.mp hslot with
    | inl hearlier => exact h.slots slot hearlier
    | inr hnew =>
        split at hnew
        · rw [List.mem_singleton.mp hnew]
          exact hbanded
        · cases hnew
  · simp only [Tally.turn]
    have hbefore := h.nonneg
    split <;> linarith
  · simp only [Tally.turn]
    have hbefore := h.p10_le
    split <;> linarith
  · simp only [Tally.turn]
    have hbefore := h.p50_le
    split <;> linarith

/-- The loop over the day keeps the bands in order. -/
theorem tallyOf_sound : (tallyOf policy dayStart currentBucket training today).Sound training := by
  have hfold : ∀ (minutes : List (Fin 1440)) (acc : Tally), acc.Sound training →
      (minutes.foldl (Tally.turn policy dayStart currentBucket training today) acc).Sound
        training := by
    intro minutes
    induction minutes with
    | nil => exact fun acc hacc => hacc
    | cons minute minutes ih => exact fun acc hacc => ih _ (hacc.turn minute)
  exact hfold quarterHours {} ⟨by simp, le_refl _, le_refl _, le_refl _⟩

end Bands

/-! ## the order of the points -/

section Order

variable {policy : SolarPolicy} {dayStart now : Timestamp} {currentBucket : Nat}
  {training training' : List (String × Curve)} {today today' : Curve}
  {texts : PyTexts} {points points' : List SolarPoint}

/-- The loop depends on what the training days and today show at each minute. -/
theorem tallyOf_congr
    (hvalues : ∀ minute, (trainingValues training minute).Perm (trainingValues training' minute))
    (htoday : ∀ minute, today.lookup minute = today'.lookup minute) :
    tallyOf policy dayStart currentBucket training today =
      tallyOf policy dayStart currentBucket training' today' := by
  have hslot : slotAt dayStart currentBucket training today =
      slotAt dayStart currentBucket training' today' := by
    funext minute
    simp only [slotAt, htoday, Percentile.percentile_perm (hvalues minute),
      (hvalues minute).length_eq]
  have hturn : Tally.turn policy dayStart currentBucket training today =
      Tally.turn policy dayStart currentBucket training' today' := by
    funext acc minute
    simp only [Tally.turn, hslot]
  rw [tallyOf, tallyOf, hturn]

/-- The points are of different buckets, which start at whole minutes. -/
structure DistinctBuckets (texts : PyTexts) (points : List SolarPoint) : Prop where
  whole : ∀ r ∈ readings texts points, 60000000 ∣ r.1.micros
  distinct : Keyed Prod.fst (readings texts points)

theorem keyed_curveOf (rows : List (Timestamp × ℚ)) : Keyed Prod.fst (curveOf rows) := by
  have hfold : ∀ curve : Curve, Keyed Prod.fst curve → Keyed Prod.fst
      (rows.foldl (fun curve r =>
        upsert Prod.fst (fun _ new => new) (minuteOfDay r.1, r.2) curve) curve) := by
    induction rows with
    | nil => exact fun curve h => h
    | cons r rows ih => exact fun curve h => ih _ (h.upsert fun _ _ => rfl)
  exact hfold [] (keyed_nil _)

/-- Where no minute repeats, the curve of a day is its readings. -/
theorem curveOf_eq_map {rows : List (Timestamp × ℚ)} (h : Keyed (fun r => minuteOfDay r.1) rows) :
    curveOf rows = rows.map fun r => (minuteOfDay r.1, r.2) := by
  induction rows using List.reverseRecOn with
  | nil => rfl
  | append_singleton rows r ih =>
      have hsplit := h
      rw [Keyed, List.map_append, List.nodup_append] at hsplit
      have hfresh : ∀ c ∈ curveOf rows, c.1 ≠ (minuteOfDay r.1, r.2).1 := by
        rw [ih hsplit.1]
        intro c hc
        obtain ⟨q, hq, rfl⟩ := List.mem_map.mp hc
        exact hsplit.2.2 _ (List.mem_map_of_mem hq) _ (by simp)
      rw [curveOf, List.foldl_append, ← curveOf, List.foldl_cons, List.foldl_nil, List.map_append,
        ← ih hsplit.1]
      exact upsert_of_fresh hfresh

/-- The readings of a day. -/
def readingsOn (texts : PyTexts) (points : List SolarPoint) (day : String) :
    List (Timestamp × ℚ) :=
  (readings texts points).filter fun r => r.1.date.isoformat = day

theorem DistinctBuckets.keyed (h : DistinctBuckets texts points) (day : String) :
    Keyed (fun r => minuteOfDay r.1) (readingsOn texts points day) := by
  refine List.pairwise_map.mpr ((List.pairwise_map.mp (h.distinct.filter _)).imp_of_mem ?_)
  intro r s hr hs hne heq
  obtain ⟨hr, hrday⟩ := List.mem_filter.mp hr
  obtain ⟨hs, hsday⟩ := List.mem_filter.mp hs
  have hday : r.1.date = s.1.date :=
    CivilDay.isoformat_inj.mp ((of_decide_eq_true hrday).trans (of_decide_eq_true hsday).symm)
  have hmicros : r.1.micros = s.1.micros := by
    have hrwhole := h.whole r hr
    have hswhole := h.whole s hs
    simp only [minuteOfDay] at heq
    omega
  exact hne (Timestamp.ext (congrArg CivilDay.day hday) hmicros)

/-- The curve of a day, from the points in another order. -/
theorem curveOf_perm (h : DistinctBuckets texts points) (hperm : points.Perm points')
    (day : String) :
    (curveOf (readingsOn texts points day)).Perm (curveOf (readingsOn texts points' day)) := by
  have hreadings : (readingsOn texts points day).Perm (readingsOn texts points' day) :=
    (hperm.filterMap _).filter _
  have hkeyed := h.keyed day
  have hkeyed' : Keyed (fun r => minuteOfDay r.1) (readingsOn texts points' day) :=
    (hreadings.map _).nodup_iff.mp hkeyed
  rw [curveOf_eq_map hkeyed, curveOf_eq_map hkeyed']
  exact hreadings.map _

/-- The curve of a day in the history. -/
theorem lookup_solarHistory (texts : PyTexts) (points : List SolarPoint) (day : String) :
    ((solarHistory texts points).lookup day).getD [] = curveOf (readingsOn texts points day) :=
  getD_lookup_map_groups curveOf (fun r => r.1.date.isoformat) day (readings texts points)

/-- What is read of the training days, from the points in another order. -/
theorem trainingOf_perm {β : Type} {f : Curve → Option β}
    (hf : ∀ c c', Keyed Prod.fst c → c.Perm c' → f c = f c') (h : DistinctBuckets texts points)
    (hperm : points.Perm points') :
    ((trainingOf policy texts now points).filterMap fun d => f d.2).Perm
      ((trainingOf policy texts now points').filterMap fun d => f d.2) := by
  obtain ⟨read, hread⟩ : ∃ read : String → Curve → Option β, read = fun day curve =>
      if day ≠ now.date.isoformat ∧ policy.minimumDailySamples ≤ curve.length then f curve
      else none := ⟨_, rfl⟩
  have hgroups : ∀ points, (trainingOf policy texts now points).filterMap (fun d => f d.2) =
      ((groups (fun r => r.1.date.isoformat) (readings texts points)).map fun g =>
        read g.1 (curveOf g.2)).filterMap id := by
    intro points
    rw [trainingOf, solarHistory, List.filterMap_filter, List.filterMap_map, List.filterMap_map]
    refine List.filterMap_congr fun g _ => ?_
    simp [hread]
  have hday : ∀ day, read day (curveOf (readingsOn texts points day)) =
      read day (curveOf (readingsOn texts points' day)) := by
    intro day
    have hcurve := curveOf_perm h hperm day
    simp only [hread, hcurve.length_eq, hf _ _ (keyed_curveOf _) hcurve]
  rw [hgroups, hgroups]
  exact (map_groups_perm (hperm.filterMap _) hday).filterMap id

theorem trainingValues_perm (h : DistinctBuckets texts points) (hperm : points.Perm points')
    (minute : Nat) :
    (trainingValues (trainingOf policy texts now points) minute).Perm
      (trainingValues (trainingOf policy texts now points') minute) :=
  trainingOf_perm (fun _ _ hkeyed hcurve => lookup_eq_of_perm hkeyed hcurve minute) h hperm

theorem length_trainingOf_perm (h : DistinctBuckets texts points) (hperm : points.Perm points') :
    (trainingOf policy texts now points).length = (trainingOf policy texts now points').length := by
  have hdays : ((trainingOf policy texts now points).filterMap fun _ => some ()).Perm
      ((trainingOf policy texts now points').filterMap fun _ => some ()) :=
    @trainingOf_perm policy now texts points points' Unit (fun _ => some ()) (fun _ _ _ _ => rfl) h
      hperm
  simpa using hdays.length_eq

theorem lookup_todayOf_perm (h : DistinctBuckets texts points) (hperm : points.Perm points')
    (minute : Nat) :
    (todayOf texts now points).lookup minute = (todayOf texts now points').lookup minute := by
  rw [todayOf, todayOf, lookup_solarHistory, lookup_solarHistory]
  exact lookup_eq_of_perm (keyed_curveOf _) (curveOf_perm h hperm _) minute

end Order

/-! ## the forecast -/

/-- The energy of a forecast is in order. -/
structure SolarEnergy.Ordered (energy : SolarEnergy) : Prop where
  remaining_p10_le : energy.remainingP10Wh ≤ energy.remainingP50Wh
  remaining_p50_le : energy.remainingP50Wh ≤ energy.remainingP90Wh
  eod_p10_le : energy.eodP10Wh ≤ energy.eodP50Wh
  eod_p50_le : energy.eodP50Wh ≤ energy.eodP90Wh
  observed_le_p10 : energy.observedInputWh ≤ energy.eodP10Wh
  observed_le_p50 : energy.observedInputWh ≤ energy.eodP50Wh
  observed_le_p90 : energy.observedInputWh ≤ energy.eodP90Wh

theorem Tally.Sound.energy_ordered {training : List (String × Curve)} {tally : Tally}
    (h : tally.Sound training) : tally.energy.Ordered := by
  have hnonneg := h.nonneg
  have hp10 := h.p10_le
  have hp50 := h.p50_le
  constructor <;> simp only [Tally.energy] <;> linarith

/-- The bands of a solar forecast are in order, no end of the day is below what has been
observed, and the forecast does not depend on the order of the points. -/
theorem solarForecast_bands {reads : SolarReads} {texts : PyTexts} {policy : SolarPolicy}
    {systemUid : String} {now : Timestamp} {points : List SolarPoint} {latest : SystemSnapshot}
    (hpoints : reads.since policy systemUid policy.historyDays now.date.midnight now = .ok points)
    (hlatest : reads.latest systemUid = .ok latest) :
    ∃ forecast, solarForecast reads texts policy systemUid now = .ok forecast ∧
      (∀ slot ∈ forecast.curve,
        slot.Banded (trainingValues (trainingOf policy texts now points) slot.minuteOfDay)) ∧
      forecast.energy.Ordered ∧
      (DistinctBuckets texts points → ∀ (reads' : SolarReads) (points' : List SolarPoint),
        reads'.since policy systemUid policy.historyDays now.date.midnight now = .ok points' →
        points'.Perm points → reads'.latest systemUid = .ok latest →
          solarForecast reads' texts policy systemUid now = .ok forecast) := by
  have hforecast : ∀ {reads : SolarReads} {points : List SolarPoint},
      reads.since policy systemUid policy.historyDays now.date.midnight now = .ok points →
      reads.latest systemUid = .ok latest →
        solarForecast reads texts policy systemUid now =
          .ok ((tallyOf policy now.date.midnight (bucketFloorMinutes now)
            (trainingOf policy texts now points) (todayOf texts now points)).forecast policy
              systemUid now (trainingOf policy texts now points).length latest) := by
    intro reads points hpoints hlatest
    rw [solarForecast, hpoints, hlatest]
    rfl
  have hsound : (tallyOf policy now.date.midnight (bucketFloorMinutes now)
      (trainingOf policy texts now points) (todayOf texts now points)).Sound
        (trainingOf policy texts now points) := tallyOf_sound
  refine ⟨_, hforecast hpoints hlatest, hsound.slots, hsound.energy_ordered, ?_⟩
  intro hbucketed reads' points' hpoints' hperm hlatest'
  rw [hforecast hpoints' hlatest', length_trainingOf_perm hbucketed hperm.symm,
    tallyOf_congr (fun minute => trainingValues_perm hbucketed hperm.symm minute)
      (fun minute => lookup_todayOf_perm hbucketed hperm.symm minute)]

/-- A point of July. -/
def julyPoint (day : Fin 31) (second : Nat) (power : ℚ) : SolarPoint where
  bucketStart := utcnow (july day second)
  observedAt := ""
  value := .number power

/-- A system with some points and no latest sample. -/
def julyReads (points : List SolarPoint) : SolarReads where
  history _ _ _ := .ok points
  latest systemUid := .ok
    { systemUid, name := "", observedAt := none, controllerCount := 0, metrics := [] }

def julyTexts : PyTexts := .ofTimes [july 0 43200, july 1 43200, july 1 44100]

def julyPoints : List SolarPoint :=
  [julyPoint 0 43200 80, julyPoint 1 43200 120, julyPoint 1 44100 100]

/-- A policy that trains on a day with one sample. -/
def lightPolicy : SolarPolicy := { minimumTrainingDays := 1, minimumDailySamples := 1 }

/-- Two days to train on, and a first point of a third. -/
def thirdDayPoints : List SolarPoint := julyPoints ++ [julyPoint 2 42300 60]

def thirdDayTexts : PyTexts := .ofTimes [july 0 43200, july 1 43200, july 1 44100, july 2 42300]

/-- The bands at noon are between 80 W and 120 W, also with the points the other way round. -/
theorem solarForecast_bands_july :
    ∃ forecast,
      solarForecast (julyReads thirdDayPoints) thirdDayTexts lightPolicy "home" (july 2 42600) =
        .ok forecast ∧
      (∃ slot ∈ forecast.curve, (slot.p10W = some 84 ∧ slot.p50W = some 100 ∧
        slot.p90W = some 116) ∧ slot.Banded [80, 120]) ∧
      (forecast.energy.observedInputWh = 15 ∧ forecast.energy.remainingP10Wh = 46 ∧
        forecast.energy.remainingP90Wh = 54) ∧
      forecast.energy.Ordered ∧
      solarForecast (julyReads thirdDayPoints.reverse) thirdDayTexts lightPolicy "home"
        (july 2 42600) = .ok forecast := by
  obtain ⟨forecast, hforecast, hbanded, henergy, horder⟩ :=
    @solarForecast_bands (julyReads thirdDayPoints) thirdDayTexts lightPolicy "home"
      (july 2 42600) _ _ rfl rfl
  have hbucketed : DistinctBuckets thirdDayTexts thirdDayPoints :=
    ⟨by decide +kernel, by decide +kernel⟩
  have hvalues : trainingValues (trainingOf lightPolicy thirdDayTexts (july 2 42600)
      thirdDayPoints) 720 = [80, 120] := by decide +kernel
  have hcurve : ((solarForecast (julyReads thirdDayPoints) thirdDayTexts lightPolicy "home"
      (july 2 42600)).map fun f => f.curve.map fun s => (s.minuteOfDay, s.p10W, s.p50W, s.p90W)
      ).toOption = some [(705, none, none, none), (720, some 84, some 100, some 116),
        (735, some 100, some 100, some 100)] := by decide +kernel
  have hfigures : ((solarForecast (julyReads thirdDayPoints) thirdDayTexts lightPolicy "home"
      (july 2 42600)).map fun f => (f.energy.observedInputWh, f.energy.remainingP10Wh,
        f.energy.remainingP90Wh)).toOption = some (15, 46, 54) := by decide +kernel
  rw [hforecast] at hcurve hfigures
  simp only [Except.map, Except.toOption, Option.some.injEq, Prod.mk.injEq] at hcurve hfigures
  obtain ⟨slot, hslot, hbands⟩ : ∃ slot ∈ forecast.curve,
      (slot.minuteOfDay, slot.p10W, slot.p50W, slot.p90W) =
        (720, some 84, some 100, some (116 : ℚ)) :=
    List.mem_map.mp (hcurve ▸ by simp)
  simp only [Prod.mk.injEq] at hbands
  obtain ⟨hminute, h10, h50, h90⟩ := hbands
  have hslotted := hbanded slot hslot
  rw [hminute, hvalues] at hslotted
  exact ⟨forecast, hforecast, ⟨slot, hslot, ⟨h10, h50, h90⟩, hslotted⟩, hfigures, henergy,
    horder hbucketed _ _ rfl (List.reverse_perm thirdDayPoints) rfl⟩

end MorningstarModbus
