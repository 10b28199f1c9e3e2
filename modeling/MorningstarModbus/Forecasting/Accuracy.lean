import MorningstarModbus.Forecasting.SolarForecast

/-!
# MorningstarModbus.Forecasting.Accuracy

The back-test of the solar forecast (`forecast_accuracy` of `forecasting/service.py`):
each complete day against percentiles of the complete days before it.

* `take_orderedDays` — the days before a day depend on the history before it only;
* `accuracy_no_lookahead` — so do the percentiles that day is compared with.
-/

namespace MorningstarModbus

open Calendar Query Table

/-! ## the back-test -/

/-- `daily_energy` -/
def dailyEnergy (policy : SolarPolicy) (texts : PyTexts) (points : List SolarPoint) :
    List (String × ℚ) :=
  ((solarHistory texts points).filter fun d => policy.minimumDailySamples ≤ d.2.length).map
    fun d => (d.1, (d.2.map fun sample => bucketEnergy sample.2).sum)

/-- `ordered_days`, each with its energy. -/
def orderedDays (policy : SolarPolicy) (texts : PyTexts) (points : List SolarPoint) :
    List (String × ℚ) :=
  orderBy Prod.fst .asc (dailyEnergy policy texts points)

/-- `ordered_days[max(0, index - history_days) : index]` -/
def priorDays (policy : SolarPolicy) (ordered : List (String × ℚ)) (index : Nat) :
    List (String × ℚ) :=
  (ordered.take index).drop (max 0 (index - policy.historyDays)).toNat

/-- What a day is compared with. -/
structure Prediction where
  p10Wh : ℚ
  p50Wh : ℚ
  p90Wh : ℚ
  trainingDays : Nat
  deriving DecidableEq

/-- The percentiles of enough training days. -/
def predict (policy : SolarPolicy) (training : List ℚ) : Option Prediction :=
  if (training.length : Int) < policy.minimumTrainingDays then none
  else do
    return {
      p10Wh := ← Percentile.percentile training (1 / 10)
      p50Wh := ← Percentile.percentile training (1 / 2)
      p90Wh := ← Percentile.percentile training (9 / 10)
      trainingDays := training.length }

structure AccuracyRow extends Prediction where
  day : String
  actualWh : ℚ
  absoluteErrorPercent : Option ℚ
  insideP10P90 : Bool
  deriving DecidableEq

/-- The row of a day and its energy. -/
def AccuracyRow.of (day : String) (actual : ℚ) (p : Prediction) : AccuracyRow where
  toPrediction := p
  day
  actualWh := actual
  absoluteErrorPercent := if 0 < actual then some (|actual - p.p50Wh| / actual * 100) else none
  insideP10P90 := p.p10Wh ≤ actual ∧ actual ≤ p.p90Wh

/-- The loop over `ordered_days`. -/
def accuracyRows (policy : SolarPolicy) (ordered : List (String × ℚ)) : List AccuracyRow :=
  ordered.zipIdx.filterMap fun item =>
    (predict policy ((priorDays policy ordered item.2).map Prod.snd)).map
      (AccuracyRow.of item.1.1 item.1.2)

/-- `rows[-days:]` -/
def lastRows {α : Type} (days : Int) (rows : List α) : List α :=
  if 0 < days then rows.drop (rows.length - days.toNat) else rows.drop (-days).toNat

structure AccuracyReport where
  systemUid : String
  model : String := "local-time-of-day-percentile-v1"
  status : String
  evaluatedDays : Nat
  medianAbsoluteErrorPercent : Option ℚ
  meanAbsoluteErrorPercent : Option ℚ
  p90AbsoluteErrorPercent : Option ℚ
  p10P90IntervalCoverage : Option ℚ
  days : List AccuracyRow
  methodology : String :=
    "Completed-day solar-input energy is compared with a percentile " ++
      "forecast built only from earlier locally observed days."
  deriving DecidableEq

/-- What is returned of the points of the history. -/
def accuracyOf (policy : SolarPolicy) (texts : PyTexts) (systemUid : String)
    (points : List SolarPoint) : AccuracyReport :=
  let rows := lastRows policy.backtestDays (accuracyRows policy (orderedDays policy texts points))
  let errors := rows.filterMap AccuracyRow.absoluteErrorPercent
  let inside := rows.countP AccuracyRow.insideP10P90
  { systemUid
    status :=
      if policy.minimumTrainingDays ≤ rows.length then "ready" else "insufficient_evidence"
    evaluatedDays := rows.length
    medianAbsoluteErrorPercent := SystemDataRepository.median errors
    meanAbsoluteErrorPercent := if errors = [] then none else some (errors.sum / errors.length)
    p90AbsoluteErrorPercent := Percentile.percentile errors (9 / 10)
    p10P90IntervalCoverage := if rows = [] then none else some (inside / rows.length)
    days := rows }

/-- The history that the back-test reads. -/
def accuracyPoints (reads : SolarReads) (policy : SolarPolicy) (systemUid : String)
    (now : Timestamp) : Except ForecastError (List SolarPoint) :=
  reads.since policy systemUid (policy.historyDays + policy.backtestDays + 2) now.date.midnight
    now.date.midnight

/-- `forecast_accuracy` -/
def forecastAccuracy (reads : SolarReads) (texts : PyTexts) (policy : SolarPolicy)
    (systemUid : String) (now : Timestamp) : Except ForecastError AccuracyReport := do
  let points ← accuracyPoints reads policy systemUid now
  return accuracyOf policy texts systemUid points

/-! ## the days before a day -/

section Before

variable {policy : SolarPolicy} {texts : PyTexts} {points points' : List SolarPoint}
  {day : CivilDay}

/-- What a history shows of a day at a minute. -/
def powerAt (texts : PyTexts) (points : List SolarPoint) (day : CivilDay) (minute : Nat) :
    Option ℚ :=
  (curveOf (readingsOn texts points day.isoformat)).lookup minute

/-- Two histories show the same on every day before a day. -/
def AgreeBefore (texts : PyTexts) (day : CivilDay) (points points' : List SolarPoint) : Prop :=
  ∀ earlier < day, ∀ minute,
    powerAt texts points earlier minute = powerAt texts points' earlier minute

/-- The energy of a complete day. -/
def energyOn (policy : SolarPolicy) (texts : PyTexts) (points : List SolarPoint) (day : String) :
    Option ℚ :=
  let curve := curveOf (readingsOn texts points day)
  if curve ≠ [] ∧ policy.minimumDailySamples ≤ curve.length then
    some (curve.map fun sample => bucketEnergy sample.2).sum
  else none

theorem AgreeBefore.energyOn (h : AgreeBefore texts day points points') {earlier : CivilDay}
    (hearlier : earlier < day) :
    energyOn policy texts points earlier.isoformat =
      energyOn policy texts points' earlier.isoformat := by
  have hperm := perm_of_lookup (keyed_curveOf _) (keyed_curveOf _) (h earlier hearlier)
  have hnil : curveOf (readingsOn texts points earlier.isoformat) = [] ↔
      curveOf (readingsOn texts points' earlier.isoformat) = [] := by
    rw [← List.length_eq_zero_iff, hperm.length_eq, List.length_eq_zero_iff]
  simp only [MorningstarModbus.energyOn, ne_eq, hnil, hperm.length_eq,
    (hperm.map fun sample => bucketEnergy sample.2).sum_eq]

/-- Histories with the same readings before a day agree before it. -/
theorem agreeBefore_of_readings
    (h : (readings texts points).filter (fun r => r.1.date < day) =
      (readings texts points').filter fun r => r.1.date < day) :
    AgreeBefore texts day points points' := by
  intro earlier hearlier minute
  have hreadings : ∀ points, readingsOn texts points earlier.isoformat =
      ((readings texts points).filter fun r => r.1.date < day).filter fun r =>
        r.1.date.isoformat = earlier.isoformat := by
    intro points
    rw [readingsOn, List.filter_filter]
    refine List.filter_congr fun r _ => ?_
    by_cases hday : r.1.date = earlier
    · simp [hday, hearlier]
    · simp [hday]
  rw [powerAt, powerAt, hreadings, hreadings, h]

theorem curveOf_eq_nil {rows : List (Timestamp × ℚ)} : curveOf rows = [] ↔ rows = [] := by
  constructor
  · intro hcurve
    cases rows using List.reverseRecOn with
    | nil => rfl
    | append_singleton rows r =>
        have hlookup := lookup_set_self (curveOf rows) (minuteOfDay r.1) r.2
        rw [curveOf, List.foldl_append, List.foldl_cons, List.foldl_nil, ← curveOf] at hcurve
        rw [hcurve] at hlookup
        cases hlookup
  · intro hrows
    rw [hrows]
    rfl

theorem mem_solarHistory {text : String} {curve : Curve} :
    (text, curve) ∈ solarHistory texts points ↔
      curve ≠ [] ∧ curve = curveOf (readingsOn texts points text) := by
  rw [solarHistory, List.mem_map]
  constructor
  · intro hmem
    obtain ⟨g, hg, hpair⟩ := hmem
    obtain ⟨hrows, hne⟩ := mem_groups hg
    cases hpair
    rw [readingsOn, ← hrows]
    exact ⟨mt curveOf_eq_nil.mp hne, rfl⟩
  · intro hcurve
    obtain ⟨hne, rfl⟩ := hcurve
    obtain ⟨r, hr⟩ := List.exists_mem_of_ne_nil _ (mt curveOf_eq_nil.mpr hne)
    obtain ⟨hr, hday⟩ := List.mem_filter.mp hr
    have hgroup : (r.1.date.isoformat, readingsOn texts points r.1.date.isoformat) ∈
        groups (fun r => r.1.date.isoformat) (readings texts points) := mem_groups_of_mem hr
    rw [of_decide_eq_true hday] at hgroup
    exact ⟨_, hgroup, rfl⟩

/-- The energy of a day is listed where the day is complete. -/
theorem mem_dailyEnergy {text : String} {energy : ℚ} :
    (text, energy) ∈ dailyEnergy policy texts points ↔
      energyOn policy texts points text = some energy := by
  simp only [dailyEnergy, List.mem_map, List.mem_filter, decide_eq_true_eq, Prod.exists,
    mem_solarHistory, Prod.mk.injEq]
  constructor
  · intro h
    obtain ⟨_, _, ⟨⟨hne, rfl⟩, hcomplete⟩, rfl, rfl⟩ := h
    exact if_pos ⟨hne, hcomplete⟩
  · intro h
    simp only [energyOn] at h
    split at h
    · case isTrue hcomplete =>
        exact ⟨text, _, ⟨⟨hcomplete.1, rfl⟩, hcomplete.2⟩, rfl, Option.some.inj h⟩
    · cases h

theorem keyed_dailyEnergy : Keyed Prod.fst (dailyEnergy policy texts points) := by
  have hhistory : Keyed Prod.fst (solarHistory texts points) := by
    have hgroups := keyed_groups (fun r => r.1.date.isoformat) (readings texts points)
    rw [Keyed, solarHistory, List.map_map]
    exact hgroups
  have hcomplete := hhistory.filter fun d => policy.minimumDailySamples ≤ d.2.length
  rw [Keyed, dailyEnergy, List.map_map]
  exact hcomplete

/-- A complete day is the day of a reading. -/
theorem exists_date {text : String} {energy : ℚ}
    (h : energyOn policy texts points text = some energy) :
    ∃ date : CivilDay, date.isoformat = text := by
  simp only [energyOn] at h
  split at h
  · case isTrue hcomplete =>
      obtain ⟨r, hr⟩ := List.exists_mem_of_ne_nil _ (mt curveOf_eq_nil.mpr hcomplete.1)
      exact ⟨r.1.date, of_decide_eq_true (List.mem_filter.mp hr).2⟩
  · cases h

/-- The complete days before a day, with their energies. -/
theorem AgreeBefore.earlier_eq (h : AgreeBefore texts day points points') :
    (orderedDays policy texts points).filter (fun d => d.1 < day.isoformat) =
      (orderedDays policy texts points').filter fun d => d.1 < day.isoformat := by
  rw [orderedDays, orderedDays, ← orderBy_filter keyed_dailyEnergy,
    ← orderBy_filter keyed_dailyEnergy]
  refine orderBy_eq_of_perm (keyed_dailyEnergy.filter _) ?_
  refine (List.perm_ext_iff_of_nodup (keyed_dailyEnergy.filter _).of_map
    (keyed_dailyEnergy.filter _).of_map).mpr ?_
  intro d
  obtain ⟨text, energy⟩ := d
  rw [List.mem_filter, List.mem_filter, mem_dailyEnergy, mem_dailyEnergy]
  refine and_congr_left fun hearlier => ?_
  have hlt : text < day.isoformat := of_decide_eq_true hearlier
  constructor
  · intro henergy
    obtain ⟨earlier, rfl⟩ := exists_date henergy
    rwa [← h.energyOn (CivilDay.isoformat_lt.mp hlt)]
  · intro henergy
    obtain ⟨earlier, rfl⟩ := exists_date henergy
    rwa [h.energyOn (CivilDay.isoformat_lt.mp hlt)]

/-- The days before a day in order. -/
theorem take_orderedDays {index : Nat} {actual : ℚ} {text : String}
    (hindex : (orderedDays policy texts points)[index]? = some (text, actual)) :
    (orderedDays policy texts points).take index =
      (orderedDays policy texts points).filter fun d => d.1 < text := by
  obtain ⟨hlt, hget⟩ := List.getElem?_eq_some_iff.mp hindex
  have hsplit : (orderedDays policy texts points).take index ++
      (text, actual) :: (orderedDays policy texts points).drop (index + 1) =
        orderedDays policy texts points := by
    rw [← hget, List.getElem_cons_drop, List.take_append_drop]
  have hsorted : (orderedDays policy texts points).Pairwise fun a b => a.1 < b.1 :=
    orderBy_lt keyed_dailyEnergy
  rw [← hsplit] at hsorted
  have hfilter := filter_lt hsorted
  rw [hsplit] at hfilter
  exact hfilter.symm

theorem mem_accuracyRows {ordered : List (String × ℚ)} {row : AccuracyRow}
    (h : row ∈ accuracyRows policy ordered) :
    ∃ index : Nat, ordered[index]? = some (row.day, row.actualWh) ∧
      predict policy ((priorDays policy ordered index).map Prod.snd) = some row.toPrediction := by
  obtain ⟨⟨d, index⟩, hitem, hrow⟩ := List.mem_filterMap.mp h
  obtain ⟨p, hp, rfl⟩ := Option.map_eq_some_iff.mp hrow
  exact ⟨index, List.mem_zipIdx_iff_getElem?.mp hitem, hp⟩

theorem mem_of_mem_lastRows {α : Type} {days : Int} {rows : List α} {row : α}
    (h : row ∈ lastRows days rows) : row ∈ rows := by
  rw [lastRows] at h
  split at h
  · exact List.mem_of_mem_drop h
  · exact List.mem_of_mem_drop h

/-- A day is compared with what the history before it shows. -/
theorem AgreeBefore.prediction_eq (h : AgreeBefore texts day points points')
    {row row' : AccuracyRow}
    (hrow : row ∈ accuracyRows policy (orderedDays policy texts points))
    (hrow' : row' ∈ accuracyRows policy (orderedDays policy texts points'))
    (hday : row.day = day.isoformat) (hday' : row'.day = day.isoformat) :
    row.toPrediction = row'.toPrediction := by
  obtain ⟨index, hindex, hpredict⟩ := mem_accuracyRows hrow
  obtain ⟨index', hindex', hpredict'⟩ := mem_accuracyRows hrow'
  have htake : (orderedDays policy texts points).take index =
      (orderedDays policy texts points').take index' := by
    rw [take_orderedDays hindex, take_orderedDays hindex', hday, hday', h.earlier_eq]
  have hlength := congrArg List.length htake
  have hlt := (List.getElem?_eq_some_iff.mp hindex).1
  have hlt' := (List.getElem?_eq_some_iff.mp hindex').1
  rw [List.length_take_of_le hlt.le, List.length_take_of_le hlt'.le] at hlength
  have hprior : priorDays policy (orderedDays policy texts points) index =
      priorDays policy (orderedDays policy texts points') index' := by
    rw [priorDays, priorDays, htake, hlength]
  rw [hprior, hpredict', Option.some.injEq] at hpredict
  exact hpredict.symm

end Before

/-- What a day is compared with does not depend on that day or on what follows it. -/
theorem accuracy_no_lookahead {reads reads' : SolarReads} {texts : PyTexts}
    {policy : SolarPolicy} {systemUid : String} {now now' : Timestamp}
    {points points' : List SolarPoint} {report report' : AccuracyReport} {day : CivilDay}
    {row row' : AccuracyRow}
    (hpoints : accuracyPoints reads policy systemUid now = .ok points)
    (hpoints' : accuracyPoints reads' policy systemUid now' = .ok points')
    (hagree : AgreeBefore texts day points points')
    (hreport : forecastAccuracy reads texts policy systemUid now = .ok report)
    (hreport' : forecastAccuracy reads' texts policy systemUid now' = .ok report')
    (hrow : row ∈ report.days) (hrow' : row' ∈ report'.days)
    (hday : row.day = day.isoformat) (hday' : row'.day = day.isoformat) :
    row.p10Wh = row'.p10Wh ∧ row.p50Wh = row'.p50Wh ∧ row.p90Wh = row'.p90Wh ∧
      row.trainingDays = row'.trainingDays := by
  rw [forecastAccuracy, hpoints] at hreport
  rw [forecastAccuracy, hpoints'] at hreport'
  cases hreport
  cases hreport'
  have hsame := hagree.prediction_eq (mem_of_mem_lastRows hrow) (mem_of_mem_lastRows hrow')
    hday hday'
  rw [hsame]
  exact ⟨rfl, rfl, rfl, rfl⟩

def dimPoints : List SolarPoint := [julyPoint 0 43200 80, julyPoint 1 43200 50]

/-- A day after one training day, in two histories that part with it. -/
theorem accuracy_no_lookahead_july :
    ∃ row row' : AccuracyRow,
      (forecastAccuracy (julyReads julyPoints) julyTexts lightPolicy "home" (july 2 0)).map
        AccuracyReport.days = .ok [row] ∧
      (forecastAccuracy (julyReads dimPoints) julyTexts lightPolicy "home" (july 2 0)).map
        AccuracyReport.days = .ok [row'] ∧
      row.actualWh = 55 ∧ row'.actualWh = 25 / 2 ∧ row.p50Wh = row'.p50Wh := by
  obtain ⟨row, hrow⟩ : ∃ row, row = AccuracyRow.of "2026-07-02" 55 ⟨20, 20, 20, 1⟩ := ⟨_, rfl⟩
  obtain ⟨row', hrow'⟩ : ∃ row, row = AccuracyRow.of "2026-07-02" (25 / 2) ⟨20, 20, 20, 1⟩ :=
    ⟨_, rfl⟩
  have hdays : (accuracyOf lightPolicy julyTexts "home" julyPoints).days = [row] := by
    rw [hrow]
    decide +kernel
  have hdays' : (accuracyOf lightPolicy julyTexts "home" dimPoints).days = [row'] := by
    rw [hrow']
    decide +kernel
  have hday : (july 1 0).date.isoformat = "2026-07-02" := by decide +kernel
  have hagree : AgreeBefore julyTexts (july 1 0).date julyPoints dimPoints :=
    agreeBefore_of_readings (by decide +kernel)
  have hsame := @accuracy_no_lookahead (julyReads julyPoints) (julyReads dimPoints) julyTexts
    lightPolicy "home" (july 2 0) (july 2 0) julyPoints dimPoints _ _ (july 1 0).date row row' rfl
    rfl hagree rfl rfl (by simp [hdays]) (by simp [hdays']) (by rw [hday, hrow]; rfl)
    (by rw [hday, hrow']; rfl)
  exact ⟨row, row', congrArg Except.ok hdays, congrArg Except.ok hdays', by rw [hrow]; rfl,
    by rw [hrow']; rfl, hsame.2.1⟩

end MorningstarModbus
