import Mathlib.Tactic.FieldSimp
import Mathlib.Tactic.Linarith
import Mathlib.Tactic.Positivity
import MorningstarModbus.History.Analytics
import MorningstarModbus.Lib.Adjacent
import MorningstarModbus.Systems.Observations

/-!
# MorningstarModbus.History.Energy

Daily energy from power samples (`energy_daily` of `history/analytics.py`): the samples of
a controller are split into UTC days, and each day is integrated over its adjacent pairs by
the trapezoid rule, up to a longest gap.

* `integrate_append` — the totals of a day are those of its two parts at any sample;
* `energy_conservative` — no time is lost, the energy is within the bounds of the power, gaps
  contribute none, and a sample on the line between two changes nothing.
-/

namespace MorningstarModbus

open Calendar Query Adjacent

/-! ## integration -/

/-- A power sample. -/
structure PowerSample where
  observed : Timestamp
  watts : ℚ
  deriving DecidableEq

/-- Seconds since 1970. -/
def PowerSample.seconds (s : PowerSample) : ℚ := s.observed.unixMicros / 1000000

/-- What the loop over the adjacent samples adds up. -/
structure EnergyTotals where
  integratedWh : ℚ := 0
  integratedSeconds : ℚ := 0
  skippedSeconds : ℚ := 0
  deriving DecidableEq

/-- `(right_at - left_at).total_seconds()` -/
def delta (p : PowerSample × PowerSample) : ℚ := p.2.seconds - p.1.seconds

/-- A turn of the loop. -/
def addInterval (maxGapSeconds : ℚ) (totals : EnergyTotals) (p : PowerSample × PowerSample) :
    EnergyTotals :=
  if delta p ≤ 0 then totals
  else if delta p > maxGapSeconds then
    { totals with skippedSeconds := totals.skippedSeconds + delta p }
  else
    { totals with
      integratedWh := totals.integratedWh + (p.1.watts + p.2.watts) / 2 * (delta p / 3600)
      integratedSeconds := totals.integratedSeconds + delta p }

/-- The loop over the samples of a day. -/
def integrate (maxGapSeconds : ℚ) (samples : List PowerSample) : EnergyTotals :=
  (adjacent samples).foldl (addInterval maxGapSeconds) {}

/-! ## days -/

/-- `round(x, places)` -/
def roundTo (places : Nat) (x : ℚ) : ℚ := Decimal.roundHalfEven (x * 10 ^ places) / 10 ^ places

/-- `_parse_datetime` -/
def parseDatetime (texts : PyTexts) (value : String) : Except PyException Timestamp :=
  match texts.fromisoformat (String.ofList (value.toList.flatMap fun c =>
      if c = 'Z' then "+00:00".toList else [c])) with
  | some t => .ok t.time
  | none => .error ⟨"ValueError", "Invalid isoformat string: '" ++ value ++ "'"⟩

/-- The power samples of a period, in their order. -/
def powerRows (scope : ControllerScope) (startDay endDay : CivilDay) (db : HistoryDb) :
    List (Cell ℚ) :=
  chronological (cells RegisterValue.numericValue (db.telemetry.history scope.contains
    ["output_power"] { start := some (dayBoundary startDay.day),
                       stop := some (dayBoundary endDay.day) }))

/-- `by_day`, before it is split. -/
def powerSamples (texts : PyTexts) (rows : List (Cell ℚ)) :
    Except PyException (List PowerSample) :=
  rows.mapM fun c => do
    let observed ← parseDatetime texts c.observedAt
    return { observed, watts := c.value }

/-- `by_day.get(key, [])` -/
def samplesOf (day : Day) (samples : List PowerSample) : List PowerSample :=
  samples.filter fun s => s.observed.day = day

/-- A day of `energy_daily`; what its record says of charge, battery, array and events is
the record. -/
structure EnergyDay where
  date : Day
  controllerReportedWh : Option ℚ
  integratedOutputWh : Option ℚ
  differenceWh : Option ℚ
  differencePercent : Option ℚ
  retained : Option DailyRow
  persistedSampleCount : Nat
  outputPowerSampleCount : Nat
  integratedSeconds : ℚ
  skippedSeconds : ℚ
  maxGapSeconds : ℚ
  controllerDailyComplete : Bool
  provenance : List String
  deriving DecidableEq

/-- A turn of the loop over the days. -/
def energyDay (evidence : DailyEvidence) (samples : List PowerSample) (maxGapSeconds : ℚ)
    (day : Day) : EnergyDay :=
  let samples := samplesOf day samples
  let totals := integrate maxGapSeconds samples
  let retained := evidence.recordOf day
  let controllerWh := retained.bind fun r => r.measurements.chargeWh
  let localWh := if samples.length ≥ 2 then some (roundTo 3 totals.integratedWh) else none
  let differenceWh := do return roundTo 3 ((← localWh) - (← controllerWh))
  { date := day
    controllerReportedWh := controllerWh
    integratedOutputWh := localWh
    differenceWh
    differencePercent := do
      let reported ← controllerWh.filter (· ≠ 0)
      return roundTo 2 ((← differenceWh) / reported * 100)
    retained
    persistedSampleCount := evidence.samplesOn day
    outputPowerSampleCount := samples.length
    integratedSeconds := roundTo 3 totals.integratedSeconds
    skippedSeconds := roundTo 3 totals.skippedSeconds
    maxGapSeconds
    controllerDailyComplete := retained.any DailyRow.isComplete
    provenance :=
      (if samples = [] then [] else ["live_poll"]) ++
        if retained.isSome then ["controller_internal_logger"] else [] }

/-- `energy_daily` over a period. -/
def energyDays (texts : PyTexts) (scope : ControllerScope) (startDay endDay : CivilDay)
    (maxGapSeconds : ℚ) (db : HistoryDb) : Except PyException (List EnergyDay) := do
  if 366 < endDay.toordinal - startDay.toordinal then
    throw ⟨"ValueError", "energy daily range cannot exceed 366 days"⟩
  let samples ← powerSamples texts (powerRows scope startDay endDay db)
  return (Day.range startDay.day endDay.day).map
    (energyDay (dailyEvidence scope startDay endDay db) samples maxGapSeconds)

structure EnergyReport where
  scope : ControllerScope
  start : Option String
  stop : Option String
  days : List EnergyDay

/-- `ControllerHistoryAnalytics.energy_daily` -/
def energyDaily (env : Env) (texts : PyTexts)
    (dateFromisoformat : String → Except PyException CivilDay) (identifier : String)
    (start stop : Option String) (maxGapSeconds : ℚ) (db : HistoryDb) (registry : Db) :
    Except AnalyticsError (Db × EnergyReport) := do
  let (registry, scope, period) ←
    queryPeriod env dateFromisoformat identifier start stop db registry
  match period with
  | none => return (registry, { scope, start, stop, days := [] })
  | some (startDay, endDay) =>
      let days ← (energyDays texts scope startDay endDay maxGapSeconds db).mapError
        AnalyticsError.raised
      return (registry, { scope, start := some startDay.isoformat, stop := some endDay.isoformat,
                          days })

/-! ## sums -/

section Sums

variable {β : Type}

theorem foldl_totals (energy integrated skipped : β → ℚ) (ps : List β) (totals : EnergyTotals) :
    ps.foldl (fun totals p =>
      { integratedWh := totals.integratedWh + energy p
        integratedSeconds := totals.integratedSeconds + integrated p
        skippedSeconds := totals.skippedSeconds + skipped p }) totals =
      { integratedWh := totals.integratedWh + (ps.map energy).sum
        integratedSeconds := totals.integratedSeconds + (ps.map integrated).sum
        skippedSeconds := totals.skippedSeconds + (ps.map skipped).sum } := by
  induction ps generalizing totals with
  | nil => simp
  | cons p ps ih =>
      rw [List.foldl_cons, ih]
      simp [add_assoc]

theorem sum_map_cons (f : β → ℚ) (p : β) (ps : List β) :
    ((p :: ps).map f).sum = f p + (ps.map f).sum := by
  simp

/-- Bounds of each part are bounds of the sum. -/
theorem sum_bounds {lo hi : ℚ} {integrated energy : β → ℚ} {ps : List β}
    (h : ∀ p ∈ ps, lo * integrated p ≤ energy p * 3600 ∧ energy p * 3600 ≤ hi * integrated p) :
    lo * (ps.map integrated).sum ≤ (ps.map energy).sum * 3600 ∧
      (ps.map energy).sum * 3600 ≤ hi * (ps.map integrated).sum := by
  induction ps with
  | nil => simp
  | cons p ps ih =>
      have hp := h p List.mem_cons_self
      have hrest := ih fun q hq => h q (List.mem_cons_of_mem p hq)
      simp only [List.map_cons, List.sum_cons, mul_add, add_mul]
      exact ⟨add_le_add hp.1 hrest.1, add_le_add hp.2 hrest.2⟩

end Sums

/-! ## what a pair contributes -/

/-- The integrated seconds of a pair. -/
def integratedOf (maxGapSeconds : ℚ) (p : PowerSample × PowerSample) : ℚ :=
  if 0 < delta p ∧ delta p ≤ maxGapSeconds then delta p else 0

/-- The skipped seconds of a pair. -/
def skippedOf (maxGapSeconds : ℚ) (p : PowerSample × PowerSample) : ℚ :=
  if 0 < delta p ∧ maxGapSeconds < delta p then delta p else 0

/-- The energy of a pair. -/
def energyOf (maxGapSeconds : ℚ) (p : PowerSample × PowerSample) : ℚ :=
  (p.1.watts + p.2.watts) / 2 * (integratedOf maxGapSeconds p / 3600)

section Pairs

variable (maxGapSeconds : ℚ) {p : PowerSample × PowerSample}

theorem addInterval_eq (totals : EnergyTotals) (p : PowerSample × PowerSample) :
    addInterval maxGapSeconds totals p =
      { integratedWh := totals.integratedWh + energyOf maxGapSeconds p
        integratedSeconds := totals.integratedSeconds + integratedOf maxGapSeconds p
        skippedSeconds := totals.skippedSeconds + skippedOf maxGapSeconds p } := by
  rw [addInterval]
  split_ifs with hzero hgap
  · have hpos : ¬ 0 < delta p := not_lt.mpr hzero
    simp [energyOf, integratedOf, skippedOf, hpos]
  · have hpos : 0 < delta p := not_le.mp hzero
    have hlong : ¬ delta p ≤ maxGapSeconds := not_le.mpr hgap
    simp [energyOf, integratedOf, skippedOf, hpos, hgap, hlong]
  · have hpos : 0 < delta p := not_le.mp hzero
    have hshort : delta p ≤ maxGapSeconds := not_lt.mp hgap
    have hnot : ¬ maxGapSeconds < delta p := hgap
    simp [energyOf, integratedOf, skippedOf, hpos, hshort, hnot]

/-- The loop adds up what the pairs contribute. -/
theorem integrate_eq (samples : List PowerSample) :
    integrate maxGapSeconds samples =
      { integratedWh := ((adjacent samples).map (energyOf maxGapSeconds)).sum
        integratedSeconds := ((adjacent samples).map (integratedOf maxGapSeconds)).sum
        skippedSeconds := ((adjacent samples).map (skippedOf maxGapSeconds)).sum } := by
  have hstep : addInterval maxGapSeconds = fun totals p =>
      { integratedWh := totals.integratedWh + energyOf maxGapSeconds p
        integratedSeconds := totals.integratedSeconds + integratedOf maxGapSeconds p
        skippedSeconds := totals.skippedSeconds + skippedOf maxGapSeconds p } := by
    funext totals p
    exact addInterval_eq maxGapSeconds totals p
  rw [integrate, hstep, foldl_totals]
  simp only [zero_add]

/-- The totals of a day are those of its two parts at any sample. -/
theorem integrate_append (before : List PowerSample) (s : PowerSample)
    (later : List PowerSample) :
    (integrate maxGapSeconds (before ++ s :: later)).integratedWh =
        (integrate maxGapSeconds (before ++ [s])).integratedWh +
          (integrate maxGapSeconds (s :: later)).integratedWh ∧
      (integrate maxGapSeconds (before ++ s :: later)).integratedSeconds =
        (integrate maxGapSeconds (before ++ [s])).integratedSeconds +
          (integrate maxGapSeconds (s :: later)).integratedSeconds := by
  simp only [integrate_eq]
  rw [adjacent_append, List.map_append, List.map_append, List.sum_append, List.sum_append]
  exact ⟨rfl, rfl⟩

theorem integrate_cons_cons (a b : PowerSample) (later : List PowerSample) :
    (integrate maxGapSeconds (a :: b :: later)).integratedWh =
        energyOf maxGapSeconds (a, b) + (integrate maxGapSeconds (b :: later)).integratedWh ∧
      (integrate maxGapSeconds (a :: b :: later)).integratedSeconds =
        integratedOf maxGapSeconds (a, b) +
          (integrate maxGapSeconds (b :: later)).integratedSeconds := by
  rw [integrate_eq, integrate_eq, adjacent_cons_cons]
  exact ⟨sum_map_cons _ _ _, sum_map_cons _ _ _⟩

variable {maxGapSeconds}

/-- A pair in order is integrated or skipped. -/
theorem integratedOf_add_skippedOf (h : 0 ≤ delta p) :
    integratedOf maxGapSeconds p + skippedOf maxGapSeconds p = delta p := by
  rw [integratedOf, skippedOf]
  by_cases hzero : delta p = 0
  · simp [hzero]
  · have hpos : 0 < delta p := lt_of_le_of_ne h (Ne.symm hzero)
    by_cases hshort : delta p ≤ maxGapSeconds
    · simp [hpos, hshort]
    · simp [hpos, hshort, not_le.mp hshort]

theorem integratedOf_nonneg (maxGapSeconds : ℚ) (p : PowerSample × PowerSample) :
    0 ≤ integratedOf maxGapSeconds p := by
  rw [integratedOf]
  split_ifs with h
  · exact h.1.le
  · exact le_refl 0

theorem energyOf_bounds {lo hi : ℚ} (hleft : lo ≤ p.1.watts ∧ p.1.watts ≤ hi)
    (hright : lo ≤ p.2.watts ∧ p.2.watts ≤ hi) :
    lo * integratedOf maxGapSeconds p ≤ energyOf maxGapSeconds p * 3600 ∧
      energyOf maxGapSeconds p * 3600 ≤ hi * integratedOf maxGapSeconds p := by
  have henergy : energyOf maxGapSeconds p * 3600 =
      (p.1.watts + p.2.watts) / 2 * integratedOf maxGapSeconds p := by
    rw [energyOf]
    ring
  have hnonneg := integratedOf_nonneg maxGapSeconds p
  rw [henergy]
  constructor
  · exact mul_le_mul_of_nonneg_right (by linarith) hnonneg
  · exact mul_le_mul_of_nonneg_right (by linarith) hnonneg

/-- A gap contributes nothing. -/
theorem energyOf_gap (h : maxGapSeconds < delta p) :
    energyOf maxGapSeconds p = 0 ∧ integratedOf maxGapSeconds p = 0 := by
  have hlong : ¬ delta p ≤ maxGapSeconds := not_le.mpr h
  simp [energyOf, integratedOf, hlong]

/-- The two parts of an integrated pair at a sample on its line. -/
theorem energyOf_split {a s b : PowerSample} (hshort : delta (a, b) ≤ maxGapSeconds)
    (hleft : a.seconds < s.seconds) (hright : s.seconds < b.seconds)
    (hline : s.watts =
      a.watts + (b.watts - a.watts) * (s.seconds - a.seconds) / (b.seconds - a.seconds)) :
    energyOf maxGapSeconds (a, s) + energyOf maxGapSeconds (s, b) =
        energyOf maxGapSeconds (a, b) ∧
      integratedOf maxGapSeconds (a, s) + integratedOf maxGapSeconds (s, b) =
        integratedOf maxGapSeconds (a, b) := by
  simp only [delta] at hshort
  have hfirst : integratedOf maxGapSeconds (a, s) = s.seconds - a.seconds := by
    rw [integratedOf, delta, if_pos ⟨by linarith, by linarith⟩]
  have hsecond : integratedOf maxGapSeconds (s, b) = b.seconds - s.seconds := by
    rw [integratedOf, delta, if_pos ⟨by linarith, by linarith⟩]
  have hwhole : integratedOf maxGapSeconds (a, b) = b.seconds - a.seconds := by
    rw [integratedOf, delta, if_pos ⟨by linarith, by linarith⟩]
  have hne : b.seconds - a.seconds ≠ 0 := by
    have hpos : 0 < b.seconds - a.seconds := by linarith
    exact hpos.ne'
  rw [energyOf, energyOf, energyOf, hfirst, hsecond, hwhole, hline]
  constructor
  · field_simp
    ring
  · ring

end Pairs

/-! ## conservation -/

/-- What the integration of a day conserves. -/
structure EnergyConserved (maxGapSeconds : ℚ) (samples : List PowerSample) : Prop where
  /-- no time between the first and the last sample is lost -/
  time : ∀ first last, samples.head? = some first → samples.getLast? = some last →
    (integrate maxGapSeconds samples).integratedSeconds +
      (integrate maxGapSeconds samples).skippedSeconds = last.seconds - first.seconds
  /-- the energy is within the bounds of the power -/
  bounds : ∀ lo hi, (∀ s ∈ samples, lo ≤ s.watts ∧ s.watts ≤ hi) →
    lo * (integrate maxGapSeconds samples).integratedSeconds ≤
        (integrate maxGapSeconds samples).integratedWh * 3600 ∧
      (integrate maxGapSeconds samples).integratedWh * 3600 ≤
        hi * (integrate maxGapSeconds samples).integratedSeconds
  /-- a gap contributes no energy and no time -/
  gap : ∀ before a b later, samples = before ++ a :: b :: later →
    maxGapSeconds < b.seconds - a.seconds →
      (integrate maxGapSeconds samples).integratedWh =
          (integrate maxGapSeconds (before ++ [a])).integratedWh +
            (integrate maxGapSeconds (b :: later)).integratedWh ∧
        (integrate maxGapSeconds samples).integratedSeconds =
          (integrate maxGapSeconds (before ++ [a])).integratedSeconds +
            (integrate maxGapSeconds (b :: later)).integratedSeconds
  /-- a sample on the line of an integrated interval changes nothing -/
  refine : ∀ before a b later s, samples = before ++ a :: b :: later →
    b.seconds - a.seconds ≤ maxGapSeconds → a.seconds < s.seconds → s.seconds < b.seconds →
      s.watts =
        a.watts + (b.watts - a.watts) * (s.seconds - a.seconds) / (b.seconds - a.seconds) →
      (integrate maxGapSeconds (before ++ a :: s :: b :: later)).integratedWh =
          (integrate maxGapSeconds samples).integratedWh ∧
        (integrate maxGapSeconds (before ++ a :: s :: b :: later)).integratedSeconds =
          (integrate maxGapSeconds samples).integratedSeconds

section Conservation

variable {maxGapSeconds : ℚ} {samples : List PowerSample}

theorem seconds_le {a b : PowerSample} (h : a.observed ≤ b.observed) : a.seconds ≤ b.seconds := by
  have hmicros : a.observed.unixMicros ≤ b.observed.unixMicros := by
    rw [← not_lt, Timestamp.unixMicros_lt]
    exact not_lt.mpr h
  rw [PowerSample.seconds, PowerSample.seconds]
  exact div_le_div_of_nonneg_right (by exact_mod_cast hmicros) (by positivity)

theorem integrate_time (h : samples.Pairwise fun a b => a.observed ≤ b.observed)
    {first last : PowerSample} (hfirst : samples.head? = some first)
    (hlast : samples.getLast? = some last) :
    (integrate maxGapSeconds samples).integratedSeconds +
      (integrate maxGapSeconds samples).skippedSeconds = last.seconds - first.seconds := by
  cases samples with
  | nil => cases hfirst
  | cons s samples =>
      have hpairs : ∀ p ∈ adjacent (s :: samples),
          integratedOf maxGapSeconds p + skippedOf maxGapSeconds p = delta p := by
        intro p hp
        exact integratedOf_add_skippedOf (sub_nonneg.mpr (seconds_le (of_mem_adjacent h hp)))
      have hsum : ((adjacent (s :: samples)).map (integratedOf maxGapSeconds)).sum +
          ((adjacent (s :: samples)).map (skippedOf maxGapSeconds)).sum =
            ((adjacent (s :: samples)).map delta).sum := by
        rw [← List.sum_map_add, List.map_congr_left hpairs]
      have hend : (s :: samples).getLast (List.cons_ne_nil s samples) = last := by
        rw [List.getLast?_eq_some_getLast (List.cons_ne_nil s samples)] at hlast
        exact Option.some.inj hlast
      rw [List.head?_cons, Option.some.injEq] at hfirst
      rw [integrate_eq, hsum, ← hfirst, ← hend]
      exact sum_adjacent_sub PowerSample.seconds s samples

theorem integrate_bounds {lo hi : ℚ} (h : ∀ s ∈ samples, lo ≤ s.watts ∧ s.watts ≤ hi) :
    lo * (integrate maxGapSeconds samples).integratedSeconds ≤
        (integrate maxGapSeconds samples).integratedWh * 3600 ∧
      (integrate maxGapSeconds samples).integratedWh * 3600 ≤
        hi * (integrate maxGapSeconds samples).integratedSeconds := by
  have hpairs : ∀ p ∈ adjacent samples,
      lo * integratedOf maxGapSeconds p ≤ energyOf maxGapSeconds p * 3600 ∧
        energyOf maxGapSeconds p * 3600 ≤ hi * integratedOf maxGapSeconds p := by
    intro p hp
    have hmem := mem_of_mem_adjacent hp
    exact energyOf_bounds (h p.1 hmem.1) (h p.2 hmem.2)
  rw [integrate_eq]
  exact sum_bounds hpairs

/-- The integration of samples in the order of time. -/
theorem energyConserved (h : samples.Pairwise fun a b => a.observed ≤ b.observed) :
    EnergyConserved maxGapSeconds samples where
  time := fun _ _ => integrate_time h
  bounds := fun _ _ => integrate_bounds
  gap := by
    intro before a b later hsamples hgap
    have hzero := energyOf_gap (p := (a, b)) hgap
    have hsplit := integrate_append maxGapSeconds before a (b :: later)
    have hpair := integrate_cons_cons maxGapSeconds a b later
    rw [hzero.1, hzero.2, zero_add, zero_add] at hpair
    rw [hsamples, hsplit.1, hsplit.2, hpair.1, hpair.2]
    exact ⟨rfl, rfl⟩
  refine := by
    intro before a b later s hsamples hshort hleft hright hline
    have hsum := energyOf_split hshort hleft hright hline
    have hwith := integrate_append maxGapSeconds before a (s :: b :: later)
    have hwithout := integrate_append maxGapSeconds before a (b :: later)
    have hfirst := integrate_cons_cons maxGapSeconds a s (b :: later)
    have hsecond := integrate_cons_cons maxGapSeconds s b later
    have hpair := integrate_cons_cons maxGapSeconds a b later
    rw [hsamples, hwith.1, hwith.2, hwithout.1, hwithout.2, hfirst.1, hfirst.2, hsecond.1,
      hsecond.2, hpair.1, hpair.2, ← hsum.1, ← hsum.2]
    exact ⟨by ring, by ring⟩

end Conservation

/-- **Daily energy**: the integration of every day conserves time and energy, for samples in
the order of time. -/
theorem energy_conservative (maxGapSeconds : ℚ) (samples : List PowerSample)
    (h : samples.Pairwise fun a b => a.observed ≤ b.observed) (day : Day) :
    EnergyConserved maxGapSeconds (samplesOf day samples) :=
  energyConserved (h.filter _)

/-- A sample of the first day of 1970. -/
def epochSample (micros : Nat) (h : micros < dayMicros) (watts : ℚ) : PowerSample where
  observed := { Timestamp.unixEpoch with micros, micros_lt := h }
  watts := watts

theorem epochSample_le {m n : Nat} (hm : m < dayMicros) (hn : n < dayMicros) (h : m ≤ n)
    (v w : ℚ) : (epochSample m hm v).observed ≤ (epochSample n hn w).observed :=
  Nat.add_le_add_left h _

/-- A minute, and a gap of an hour. -/
theorem energy_conservative_hour :
    EnergyConserved 300 (samplesOf Timestamp.unixEpoch.day
      [ epochSample 0 (by decide) 100, epochSample 60000000 (by decide) 200,
        epochSample 3660000000 (by decide) 50 ]) := by
  refine energy_conservative 300 _ ?_ _
  refine List.pairwise_cons.mpr ⟨fun s hs => ?_, List.pairwise_cons.mpr ⟨fun s hs => ?_, ?_⟩⟩
  · obtain rfl | rfl : s = epochSample 60000000 (by decide) 200 ∨
        s = epochSample 3660000000 (by decide) 50 := by simpa using hs
    · exact epochSample_le _ _ (by decide) _ _
    · exact epochSample_le _ _ (by decide) _ _
  · obtain rfl : s = epochSample 3660000000 (by decide) 50 := by simpa using hs
    exact epochSample_le _ _ (by decide) _ _
  · exact List.pairwise_singleton _ _

end MorningstarModbus
