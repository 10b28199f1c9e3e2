import MorningstarModbus.History.Analytics
import MorningstarModbus.Lib.Program

/-!
# MorningstarModbus.History.Gaps

The gaps of a controller's history against its coverage.

* `GroupedDays` — gaps are the maximal runs of days with one status;
* `coverage_gaps_agree` — a gap listing and a coverage summary of one query agree.
-/

namespace MorningstarModbus

open Calendar Effects Query Table

/-! ## grouping -/

/-- The days of a gap, with its status. -/
def Gap.entries (g : Gap) : List (Day × GapStatus) :=
  (Day.range g.start g.stop).map fun day => (day, g.status)

/-- The fields of a gap are those of its days. -/
structure Gap.Good (g : Gap) : Prop where
  start_lt : g.start < g.stop
  duration : g.durationDays = (Day.range g.start g.stop).length
  recoverability : g.recoverability = if g.status.recorded then "controller_daily" else "none"
  records : g.controllerRecordCount = if g.status.recorded then g.durationDays else 0

/-- One gap ends before the other, and not right before it when they have one status. -/
def Gap.Before (a b : Gap) : Prop := a.stop ≤ b.start ∧ (a.stop = b.start → a.status ≠ b.status)

/-- Gaps are the maximal runs of days with one status. -/
structure GroupedDays (entries : List (Day × GapStatus)) (grouped : List Gap) : Prop where
  good : ∀ g ∈ grouped, g.Good
  pairwise : grouped.Pairwise Gap.Before
  entries_eq : grouped.flatMap Gap.entries = entries

/-- A gap of one day. -/
theorem Gap.good_ofDay (entry : Day × GapStatus) : (Gap.ofDay entry).Good where
  start_lt := by simp [Gap.ofDay, Day.lt_def]
  duration := by simp [Gap.ofDay, Day.range_self_next]
  recoverability := rfl
  records := rfl

/-- A gap grows by the day after it, if that has the same status. -/
theorem Gap.Good.extend {g : Gap} (h : g.Good) {entry : Day × GapStatus}
    (hstatus : g.status = entry.2) (hstop : g.stop = entry.1) :
    (g.extend entry).Good ∧ (g.extend entry).entries = g.entries ++ [entry] := by
  have hle : g.start ≤ entry.1 := by
    have hlt := h.start_lt
    rw [Day.lt_def] at hlt
    rw [← hstop, Day.le_def]
    omega
  have hrange := Day.range_next hle
  refine ⟨⟨?_, ?_, h.recoverability, ?_⟩, ?_⟩
  · have hlt := h.start_lt
    simp only [Gap.extend, Day.lt_def, hstop, Day.toordinal_next] at hlt ⊢
    omega
  · simp only [Gap.extend, hrange, List.length_append, List.length_singleton, h.duration, hstop]
  · simp only [Gap.extend, h.records, hstatus]
    split <;> rfl
  · simp only [Gap.extend, Gap.entries, hrange, hstop, hstatus, List.map_append,
      List.map_singleton]

/-- It accounts for its day. -/
theorem Gap.entries_ofDay (entry : Day × GapStatus) : (Gap.ofDay entry).entries = [entry] := by
  simp [Gap.ofDay, Gap.entries, Day.range_self_next]

theorem groupedDays_nil : GroupedDays [] [] := ⟨by simp, List.Pairwise.nil, rfl⟩

/-- The last gap is before a later day. -/
theorem Gap.stop_le {g : Gap} (h : g.Good) {day : Day} (hlater : ∀ e ∈ g.entries, e.1 < day) :
    g.stop ≤ day := by
  obtain ⟨k, hk⟩ : ∃ k, g.stop.toordinal = g.start.toordinal + k + 1 :=
    ⟨g.stop.toordinal - g.start.toordinal - 1, by have := Day.lt_def.mp h.start_lt; omega⟩
  have hmem : g.start.add k ∈ Day.range g.start g.stop := by
    rw [Day.mem_range, Day.le_def, Day.lt_def, Day.toordinal_add]
    omega
  have hlt := hlater _ (List.mem_map_of_mem hmem)
  rw [Day.lt_def, Day.toordinal_add] at hlt
  rw [Day.le_def]
  omega

/-- A turn of the grouping, with a later day. -/
theorem GroupedDays.addGap {entries : List (Day × GapStatus)} {grouped : List Gap}
    (h : GroupedDays entries grouped) {entry : Day × GapStatus}
    (hlater : ∀ e ∈ entries, e.1 < entry.1) :
    GroupedDays (entries ++ [entry]) (addGap grouped entry) := by
  have hstop : ∀ g ∈ grouped, g.stop ≤ entry.1 := fun g hg =>
    Gap.stop_le (h.good g hg) fun e he => hlater e (h.entries_eq ▸ List.mem_flatMap.mpr ⟨g, hg, he⟩)
  obtain rfl | ⟨rest, previous, rfl⟩ := grouped.eq_nil_or_concat'
  · obtain rfl : entries = [] := h.entries_eq.symm
    refine ⟨?_, ?_, ?_⟩
    · simpa [MorningstarModbus.addGap] using Gap.good_ofDay entry
    · simp [MorningstarModbus.addGap]
    · simp [MorningstarModbus.addGap, Gap.entries_ofDay]
  · obtain ⟨hrest, -, hbefore⟩ := List.pairwise_append.mp h.pairwise
    have hprevious := h.good previous (by simp)
    have hflat := h.entries_eq
    rw [List.flatMap_append, List.flatMap_singleton] at hflat
    have hturn : MorningstarModbus.addGap (rest ++ [previous]) entry =
        if previous.status = entry.2 ∧ previous.stop = entry.1 then rest ++ [previous.extend entry]
        else rest ++ [previous] ++ [Gap.ofDay entry] := by
      simp [MorningstarModbus.addGap]
    rw [hturn]
    split
    case isTrue hsame =>
      obtain ⟨hgood, hentries⟩ := hprevious.extend hsame.1 hsame.2
      refine ⟨?_, ?_, ?_⟩
      · intro g hg
        obtain hg | hg := List.mem_append.mp hg
        · exact h.good g (List.mem_append_left _ hg)
        · rwa [List.mem_singleton.mp hg]
      · refine List.pairwise_append.mpr ⟨hrest, List.pairwise_singleton _ _, ?_⟩
        intro a ha b hb
        rw [List.mem_singleton.mp hb]
        exact hbefore a ha previous (by simp)
      · rw [List.flatMap_append, List.flatMap_singleton, hentries, ← List.append_assoc, hflat]
    case isFalse hdiff =>
      refine ⟨?_, ?_, ?_⟩
      · intro g hg
        obtain hg | hg := List.mem_append.mp hg
        · exact h.good g hg
        · rw [List.mem_singleton.mp hg]
          exact Gap.good_ofDay entry
      · refine List.pairwise_append.mpr ⟨h.pairwise, List.pairwise_singleton _ _, ?_⟩
        intro a ha b hb
        rw [List.mem_singleton.mp hb]
        refine ⟨hstop a ha, fun htouch => ?_⟩
        obtain ha' | ha' := List.mem_append.mp ha
        · -- an earlier gap ends before the last one
          have hle := (hbefore a ha' previous (by simp)).1
          have hlt := hprevious.start_lt
          have hle' := hstop previous (by simp)
          rw [show a.stop = entry.1 from htouch] at hle
          rw [Day.le_def] at hle hle'
          rw [Day.lt_def] at hlt
          omega
        · rw [List.mem_singleton.mp ha'] at htouch ⊢
          exact fun hstatus => hdiff ⟨hstatus, htouch⟩
      · rw [List.flatMap_append, List.flatMap_singleton, h.entries_eq, Gap.entries_ofDay]

/-- The loop groups days that come one after the other. -/
theorem groupedDays_foldl {entries : List (Day × GapStatus)}
    (h : (entries.map Prod.fst).Pairwise (· < ·)) :
    GroupedDays entries (entries.foldl MorningstarModbus.addGap []) := by
  induction entries using List.reverseRecOn with
  | nil => exact groupedDays_nil
  | append_singleton entries entry ih =>
      rw [List.map_append, List.pairwise_append] at h
      rw [List.foldl_append]
      refine (ih h.1).addGap fun e he => ?_
      exact h.2.2 _ (List.mem_map_of_mem he) _ (by simp)

/-! ## days -/

section Days

variable {evidence : DailyEvidence} {days : List Day}

/-- Gaps of days come in the order of the days. -/
theorem dailyGaps_pairwise (h : days.Pairwise (· < ·)) :
    ((dailyGaps evidence days).map Prod.fst).Pairwise (· < ·) := by
  have hsub : ((dailyGaps evidence days).map Prod.fst).Sublist days := by
    have hfst : (dailyGaps evidence days).map Prod.fst =
        days.filter fun day => decide ¬ 0 < evidence.samplesOn day := by
      rw [dailyGaps, List.map_filterMap, ← List.filterMap_eq_filter]
      refine List.filterMap_congr fun day _ => ?_
      by_cases hlive : 0 < evidence.samplesOn day <;> simp [Option.guard, hlive]
    rw [hfst]
    exact List.filter_sublist
  exact h.sublist hsub

/-- A day is a gap if it has no samples. -/
theorem mem_dailyGaps {entry : Day × GapStatus} : entry ∈ dailyGaps evidence days ↔
    entry.1 ∈ days ∧ evidence.samplesOn entry.1 = 0 ∧ evidence.status entry.1 = entry.2 := by
  obtain ⟨day, status⟩ := entry
  simp only [dailyGaps, List.mem_filterMap]
  constructor
  · rintro ⟨d, hd, heq⟩
    split at heq
    · cases heq
    · case isFalse hlive =>
        cases heq
        exact ⟨hd, by omega, rfl⟩
  · rintro ⟨hd, hlive, rfl⟩
    exact ⟨day, hd, by rw [if_neg (by omega)]⟩

/-- It is recovered if a record was completed on it. -/
theorem status_recovered (evidence : DailyEvidence) (day : Day) :
    evidence.status day = .recovered ↔ evidence.completedOn day = true := by
  unfold DailyEvidence.status DailyEvidence.completedOn
  cases evidence.recordOf day with
  | none => simp
  | some record => cases hcomplete : record.isComplete <;> simp [hcomplete]

/-- The days of a status are counted by the durations of its gaps. -/
theorem sum_durations {entries : List (Day × GapStatus)} {grouped : List Gap}
    (h : GroupedDays entries grouped) (p : GapStatus → Bool) :
    ((grouped.filter fun g => p g.status).map Gap.durationDays).sum =
      (entries.filter fun e => p e.2).length := by
  rw [← h.entries_eq]
  have hgood := h.good
  clear h
  induction grouped with
  | nil => rfl
  | cons g grouped ih =>
      have hrest := ih fun g' hg' => hgood g' (List.mem_cons_of_mem g hg')
      have hg := (hgood g List.mem_cons_self).duration
      have hentries : (g.entries.filter fun e => p e.2).length =
          if p g.status then g.durationDays else 0 := by
        rw [Gap.entries, List.filter_map, List.length_map, hg]
        cases hp : p g.status <;> simp [Function.comp_def, hp]
      rw [List.flatMap_cons, List.filter_append, List.length_append, hentries, ← hrest,
        List.filter_cons]
      cases hp : p g.status <;> simp

/-- The days without samples of a status. -/
theorem length_filter_dailyGaps (p : GapStatus → Bool) :
    ((dailyGaps evidence days).filter fun e => p e.2).length =
      (days.filter fun day => evidence.samplesOn day = 0 && p (evidence.status day)).length := by
  rw [dailyGaps, List.filter_filterMap, List.length_filterMap_eq_countP,
    ← List.countP_eq_length_filter]
  refine List.countP_congr fun day _ => ?_
  by_cases hlive : 0 < evidence.samplesOn day
  · simp [hlive, Nat.pos_iff_ne_zero.mp hlive]
  · have hzero : evidence.samplesOn day = 0 := by omega
    simp [hzero]

/-- The days of grouped gaps, for any choice of their status, are counted once each. -/
theorem sum_durations_days {grouped : List Gap} (h : GroupedDays (dailyGaps evidence days) grouped)
    (p : GapStatus → Bool) :
    ((grouped.filter fun g => p g.status).map Gap.durationDays).sum =
      (days.filter fun day => evidence.samplesOn day = 0 && p (evidence.status day)).length :=
  (sum_durations h p).trans (length_filter_dailyGaps p)

end Days

/-! ## live days -/

section Live

variable {scope : ControllerScope} {startDay endDay : CivilDay} {db : HistoryDb}

/-- The statement counts samples by the date in their text. -/
theorem samplesOn_dailyEvidence (day : Day) :
    (dailyEvidence scope startDay endDay db).samplesOn day =
      ((periodSamples scope startDay endDay db).filter fun s => s.dayText = day.isoformat).length :=
  getD_lookup_map_groups List.length SampleRow.dayText day.isoformat _

/-- A live sample of a day, in the period. -/
def LiveOn (scope : ControllerScope) (period : Option (CivilDay × CivilDay)) (db : HistoryDb)
    (day : Day) : Prop :=
  ∃ p ∈ period, ∃ s ∈ periodSamples scope p.1 p.2 db, s.dayText = day.isoformat

/-- The days of a period. -/
def periodDays (period : Option (CivilDay × CivilDay)) : List Day :=
  period.toList.flatMap fun p => Day.range p.1.day p.2.day

/-- A day has samples if the scope was live on it. -/
theorem samplesOn_pos (day : Day) :
    0 < (dailyEvidence scope startDay endDay db).samplesOn day ↔
      LiveOn scope (some (startDay, endDay)) db day := by
  simp [samplesOn_dailyEvidence, List.length_pos_iff_exists_mem, LiveOn]

/-- The samples of a period, in a store of times. -/
theorem mem_periodSamples {t : Timestamp} {s : SampleRow}
    (hs : s.observedAt = t.isoformat) :
    s ∈ periodSamples scope startDay endDay db ↔
      s ∈ db.telemetry.samples ∧ scope.contains s.deviceId = true ∧
        startDay ≤ t.date ∧ t.date < endDay := by
  have htexts : TimeRange.mk (some (dayBoundary startDay.day)) (some (dayBoundary endDay.day)) =
      TimeInterval.texts { start := some startDay.midnight, stop := some endDay.midnight } := by
    simp only [TimeInterval.texts, Option.map_some, CivilDay.midnight,
      dayBoundary_eq _ startDay.year_le, dayBoundary_eq _ endDay.year_le]
  have hcontains : TimeInterval.contains
      { start := some startDay.midnight, stop := some endDay.midnight } t = true ↔
      startDay ≤ t.date ∧ t.date < endDay := by
    rw [TimeInterval.contains, Option.all_some, Option.all_some, Bool.and_eq_true,
      decide_eq_true_eq, decide_eq_true_eq]
    exact Timestamp.date_mem_range
  rw [periodSamples, List.mem_filter, sampleFilter, htexts, hs, texts_contains, Bool.and_eq_true,
    hcontains]

/-- The text of a timestamp begins with its date. -/
theorem dayText_eq {t : Timestamp} {s : SampleRow}
    (hs : s.observedAt = t.isoformat) : s.dayText = t.date.isoformat := by
  rw [SampleRow.dayText, hs, Timestamp.take_isoformat]

/-- In a store of times, the live days are the UTC days of the samples. -/
theorem liveOn_iff {time : SampleRow → Timestamp}
    (hwritten : ∀ s ∈ db.telemetry.samples, s.observedAt = (time s).isoformat) {day : Day}
    (hday : day ∈ Day.range startDay.day endDay.day) :
    LiveOn scope (some (startDay, endDay)) db day ↔
      ∃ s ∈ db.telemetry.samples, scope.contains s.deviceId = true ∧ (time s).day = day := by
  obtain ⟨hstart, hstop⟩ := Day.mem_range.mp hday
  have hyear : day.date.year ≤ 9999 :=
    le_trans (Day.year_mono (Day.le_def.mpr (Nat.le_of_lt hstop))) endDay.year_le
  have htext : ∀ s ∈ db.telemetry.samples,
      (s.dayText = day.isoformat ↔ (time s).date = ⟨day, hyear⟩) := by
    intro s hs
    rw [dayText_eq (hwritten s hs)]
    exact CivilDay.isoformat_inj (e := ⟨day, hyear⟩)
  constructor
  · intro hlive
    obtain ⟨p, hp, s, hs, hday⟩ := hlive
    cases hp
    have hmem := (List.mem_filter.mp hs).1
    have hscope := ((mem_periodSamples (hwritten s hmem)).mp hs).2.1
    exact ⟨s, hmem, hscope, congrArg CivilDay.day ((htext s hmem).mp hday)⟩
  · intro hsample
    obtain ⟨s, hs, hscope, heq⟩ := hsample
    have hdate : (time s).date = ⟨day, hyear⟩ := CivilDay.ext heq
    refine ⟨_, rfl, s, (mem_periodSamples (hwritten s hs)).mpr ⟨hs, hscope, ?_⟩,
      (htext s hs).mpr hdate⟩
    rw [hdate]
    exact ⟨hstart, hstop⟩

end Live

/-! ## coverage -/

section Continuity

variable {scope : ControllerScope} {startDay endDay : CivilDay} {db : HistoryDb}

/-- A gap listing of a period against a coverage summary of it. -/
structure Continuity (scope : ControllerScope) (period : Option (CivilDay × CivilDay))
    (db : HistoryDb) (listed : List Gap) (summary : Coverage) : Prop where
  good : ∀ g ∈ listed, g.Good
  /-- in order, disjoint and maximal -/
  pairwise : listed.Pairwise Gap.Before
  /-- the days of gaps and the live days are the days of the period -/
  days : ∀ day, day ∈ periodDays period ↔
    (∃ g ∈ listed, g.start ≤ day ∧ day < g.stop) ∨
      day ∈ periodDays period ∧ LiveOn scope period db day
  disjoint : ∀ day, LiveOn scope period db day → ¬ ∃ g ∈ listed, g.start ≤ day ∧ day < g.stop
  /-- a live day is the UTC day of a sample -/
  live : ∀ time : SampleRow → Timestamp,
    (∀ s ∈ db.telemetry.samples, s.observedAt = (time s).isoformat) →
    ∀ day ∈ periodDays period, LiveOn scope period db day ↔
      ∃ s ∈ db.telemetry.samples, scope.contains s.deviceId = true ∧ (time s).day = day
  recovered : summary.recoveredDays =
    ((listed.filter fun g => g.status = .recovered).map Gap.durationDays).sum
  missing : summary.missingDays =
    ((listed.filter fun g => g.status ≠ .recovered).map Gap.durationDays).sum

/-- Without a period there is nothing to list. -/
theorem continuity_none {summary : Coverage} (hrecovered : summary.recoveredDays = 0)
    (hmissing : summary.missingDays = 0) : Continuity scope none db [] summary where
  good := by simp
  pairwise := List.Pairwise.nil
  days := by simp [periodDays]
  disjoint := by simp
  live := by simp [periodDays]
  recovered := hrecovered
  missing := hmissing

/-- A day of a gap is a day with the gap's status. -/
theorem GroupedDays.mem_entries {grouped : List Gap} {entries : List (Day × GapStatus)}
    (h : GroupedDays entries grouped) {day : Day} {status : GapStatus} :
    (∃ g ∈ grouped, g.status = status ∧ g.start ≤ day ∧ day < g.stop) ↔
      (day, status) ∈ entries := by
  simp only [← h.entries_eq, List.mem_flatMap, Gap.entries, List.mem_map, Day.mem_range]
  constructor
  · intro hgap
    obtain ⟨g, hg, rfl, hday⟩ := hgap
    exact ⟨g, hg, day, hday, rfl⟩
  · intro hentry
    obtain ⟨g, hg, d, hd, heq⟩ := hentry
    cases heq
    exact ⟨g, hg, rfl, hd⟩

/-- The gaps of a response group those of the days. -/
theorem grouped_gapsOf :
    GroupedDays (dailyGaps (dailyEvidence scope startDay endDay db)
      (Day.range startDay.day endDay.day)) (gapsOf scope startDay endDay db).gaps :=
  groupedDays_foldl (dailyGaps_pairwise (Day.pairwise_range _ _))

/-- So they are continuous with the coverage. -/
theorem continuity_gapsOf :
    Continuity scope (some (startDay, endDay)) db (gapsOf scope startDay endDay db).gaps
      (coverageOf scope startDay endDay db) := by
  obtain ⟨evidence, hevidence⟩ : ∃ e, e = dailyEvidence scope startDay endDay db := ⟨_, rfl⟩
  obtain ⟨days, hdays⟩ : ∃ d, d = Day.range startDay.day endDay.day := ⟨_, rfl⟩
  have hperiod : periodDays (some (startDay, endDay)) = days := by simp [periodDays, hdays]
  have hgrouped : GroupedDays (dailyGaps evidence days) (gapsOf scope startDay endDay db).gaps :=
    hevidence ▸ hdays ▸ grouped_gapsOf
  have hpos : ∀ day, 0 < evidence.samplesOn day ↔ LiveOn scope (some (startDay, endDay)) db day :=
    fun day => by rw [hevidence, samplesOn_pos]
  have hgap : ∀ day, (∃ g ∈ (gapsOf scope startDay endDay db).gaps, g.start ≤ day ∧ day < g.stop) ↔
      day ∈ days ∧ evidence.samplesOn day = 0 := by
    intro day
    constructor
    · intro hgap
      obtain ⟨g, hg, hin⟩ := hgap
      have hentry := mem_dailyGaps.mp (hgrouped.mem_entries.mp ⟨g, hg, rfl, hin⟩)
      exact ⟨hentry.1, hentry.2.1⟩
    · intro hday
      have hentry : (day, evidence.status day) ∈ dailyGaps evidence days :=
        mem_dailyGaps.mpr ⟨hday.1, hday.2, rfl⟩
      obtain ⟨g, hg, -, hin⟩ := hgrouped.mem_entries.mpr hentry
      exact ⟨g, hg, hin⟩
  exact {
    good := hgrouped.good
    pairwise := hgrouped.pairwise
    days := by
      intro day
      rw [hgap, hperiod, ← hpos]
      have := Nat.eq_zero_or_pos (evidence.samplesOn day)
      tauto
    disjoint := by
      intro day hlive
      rw [← hpos] at hlive
      rw [hgap]
      omega
    live := by
      intro time hwritten day hday
      rw [hperiod, hdays] at hday
      exact liveOn_iff hwritten hday
    recovered := by
      have hsum := sum_durations_days hgrouped fun status => decide (status = .recovered)
      simp only [status_recovered, Bool.decide_eq_true] at hsum
      rw [hsum, coverageOf, ← hevidence, ← hdays]
    missing := by
      have hsum := sum_durations_days hgrouped fun status => decide (status ≠ .recovered)
      simp only [ne_eq, status_recovered] at hsum
      rw [hsum, coverageOf, ← hevidence, ← hdays]
      have hsplit := List.length_eq_length_filter_add (l := days) fun day =>
        decide (0 < evidence.samplesOn day) || evidence.completedOn day
      have huncovered : (days.filter fun day => !(decide (0 < evidence.samplesOn day) ||
          evidence.completedOn day)) = days.filter fun day =>
            decide (evidence.samplesOn day = 0) && decide ¬ evidence.completedOn day = true := by
        refine List.filter_congr fun day _ => ?_
        cases evidence.completedOn day <;> simp [Nat.pos_iff_ne_zero]
      rw [huncovered] at hsplit
      dsimp only
      omega }

/-- **Gaps and coverage** of one query agree. -/
theorem coverage_gaps_agree (env : Env) (fromisoformat : String → Except PyException CivilDay)
    (identifier : String) (start stop : Option String) (db : HistoryDb) (registry : Db) :
    Alike (fun listed summed =>
        listed.1 = summed.1 ∧ listed.2.scope = summed.2.scope ∧
        listed.2.start = summed.2.start ∧ listed.2.stop = summed.2.stop ∧
        ∃ period, resolvePeriod fromisoformat listed.2.scope start stop db = .ok period ∧
          (∀ p ∈ period, listed.2.start = some p.1.isoformat ∧ listed.2.stop = some p.2.isoformat) ∧
          Continuity listed.2.scope period db listed.2.gaps summed.2)
      (gaps env fromisoformat identifier start stop db registry)
      (coverage env fromisoformat identifier start stop db registry) := by
  unfold gaps coverage
  cases hquery : queryPeriod env fromisoformat identifier start stop db registry with
  | error e => rfl
  | ok query =>
      obtain ⟨registry', scope, period⟩ := query
      have hperiod : resolvePeriod fromisoformat scope start stop db = .ok period := by
        simp only [queryPeriod, Loop.bind_eq_ok, Loop.pure_eq_ok, Except.ok.injEq] at hquery
        obtain ⟨found, -, p, hp, heq⟩ := hquery
        rw [Loop.mapError_eq_ok] at hp
        cases heq
        exact hp
      cases period with
      | none => exact ⟨rfl, rfl, rfl, rfl, none, hperiod, by simp, continuity_none rfl rfl⟩
      | some p =>
          refine ⟨rfl, rfl, rfl, rfl, some p, hperiod, ?_, continuity_gapsOf⟩
          intro p' hp
          cases hp
          exact ⟨rfl, rfl⟩

end Continuity

end MorningstarModbus
