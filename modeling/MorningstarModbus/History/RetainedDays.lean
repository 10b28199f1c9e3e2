import MorningstarModbus.History.Gaps

/-!
# MorningstarModbus.History.RetainedDays

Retained days against live samples, over runs of polls and synchronisations.

* `ranked` — one row of each day, the newest;
* `RetainedAgrees` — gap listings, coverage, rows and their summary agree with the live
  samples in the boundaries of the days;
* `RetainedCounted` — the invariant, that samples were counted where there are any;
* `retained_days_agree` — every state of a run whose steps fit.
-/

namespace MorningstarModbus

open Calendar Query Table

/-! ## ranked rows -/

section Ranked

variable {rows : List DailyRow} {r : DailyRow}

/-- The newest row of a day. -/
theorem head?_recency {day : String} :
    (orderBy DailyRow.recency .asc (rows.filter fun r => r.controllerDay = day)).head? = some r →
      r ∈ rows ∧ r.controllerDay = day ∧
        ∀ r' ∈ rows, r'.controllerDay = day → r.recency ≤ r'.recency := by
  intro hhead
  obtain ⟨rest, hrows⟩ := List.head?_eq_some_iff.mp hhead
  have hmem : r ∈ rows.filter fun r => r.controllerDay = day := by
    rw [← mem_orderBy DailyRow.recency .asc, hrows]
    exact List.mem_cons_self
  have hsorted := pairwise_orderBy DailyRow.recency .asc (rows.filter fun r => r.controllerDay = day)
  rw [hrows, List.pairwise_cons] at hsorted
  obtain ⟨hr, hday⟩ := List.mem_filter.mp hmem
  refine ⟨hr, of_decide_eq_true hday, fun r' hr' hday' => ?_⟩
  have hmem' : r' ∈ r :: rest := by
    rw [← hrows, mem_orderBy]
    exact List.mem_filter.mpr ⟨hr', decide_eq_true hday'⟩
  obtain rfl | htail := List.mem_cons.mp hmem'
  · exact le_refl _
  · exact hsorted.1 r' htail

/-- A day with a row has a newest one. -/
theorem exists_head?_recency (hr : r ∈ rows) :
    ∃ r', (orderBy DailyRow.recency .asc
      (rows.filter fun r' => r'.controllerDay = r.controllerDay)).head? = some r' := by
  cases hhead : (orderBy DailyRow.recency .asc
      (rows.filter fun r' => r'.controllerDay = r.controllerDay)).head? with
  | some r' => exact ⟨r', rfl⟩
  | none =>
      have hmem : r ∈ orderBy DailyRow.recency .asc
          (rows.filter fun r' => r'.controllerDay = r.controllerDay) := by simp [hr]
      rw [List.head?_eq_none_iff.mp hhead] at hmem
      cases hmem

theorem ranked_eq (rows : List DailyRow) : ranked rows =
    (distinct (rows.map DailyRow.controllerDay)).filterMap fun day =>
      (orderBy DailyRow.recency .asc (rows.filter fun r => r.controllerDay = day)).head? := by
  rw [ranked, groups, List.filterMap_map]
  rfl

/-- There is one row of each day. -/
theorem map_controllerDay_ranked (rows : List DailyRow) :
    (ranked rows).map DailyRow.controllerDay = distinct (rows.map DailyRow.controllerDay) := by
  rw [ranked_eq, List.map_filterMap]
  refine (List.filterMap_congr fun day hday => ?_).trans (List.filterMap_some)
  obtain ⟨r, hr, rfl⟩ := List.mem_map.mp (mem_distinct.mp hday)
  obtain ⟨r', hhead⟩ := exists_head?_recency hr
  simp [hhead, (head?_recency hhead).2.1]

theorem keyed_ranked (rows : List DailyRow) : Keyed DailyRow.controllerDay (ranked rows) := by
  rw [Keyed, map_controllerDay_ranked]
  exact nodup_distinct _

/-- A row is the newest of its day. -/
theorem mem_ranked (hkeyed : Keyed DailyRow.key rows) :
    r ∈ ranked rows ↔ r ∈ rows ∧
      ∀ r' ∈ rows, r'.controllerDay = r.controllerDay → r.recency ≤ r'.recency := by
  rw [ranked_eq, List.mem_filterMap]
  constructor
  · intro hhead
    obtain ⟨day, -, hhead⟩ := hhead
    obtain ⟨hr, rfl, hnewest⟩ := head?_recency hhead
    exact ⟨hr, hnewest⟩
  · intro hnewest
    obtain ⟨hr, hnewest⟩ := hnewest
    refine ⟨r.controllerDay, mem_distinct.mpr (List.mem_map_of_mem hr), ?_⟩
    obtain ⟨r', hhead⟩ := exists_head?_recency hr
    obtain ⟨hr', hday, hnewest'⟩ := head?_recency hhead
    have hrecency := le_antisymm (hnewest' r hr rfl) (hnewest r' hr' hday)
    have hdevice : r'.deviceId = r.deviceId :=
      congrArg (fun k : Stringᵒᵈ ×ₗ String => (ofLex k).2) hrecency
    rw [hhead, hkeyed.eq hr' hr (Prod.ext hdevice hday)]

/-- The days of a range have their newest rows. -/
theorem mem_ranked_filter (hkeyed : Keyed DailyRow.key rows) (p : String → Bool) :
    r ∈ ranked (rows.filter fun r => p r.controllerDay) ↔
      r ∈ ranked rows ∧ p r.controllerDay = true := by
  rw [mem_ranked hkeyed, mem_ranked (hkeyed.filter _)]
  simp only [List.mem_filter]
  constructor
  · intro h
    obtain ⟨⟨hr, hp⟩, hnewest⟩ := h
    exact ⟨⟨hr, fun r' hr' hday => hnewest r' ⟨hr', hday ▸ hp⟩ hday⟩, hp⟩
  · intro h
    obtain ⟨⟨hr, hnewest⟩, hp⟩ := h
    exact ⟨⟨hr, hp⟩, fun r' hr' hday => hnewest r' hr'.1 hday⟩

end Ranked

/-! ## runs -/

/-- `TelemetryStore.save_poll`; `sampleId` is the one the database gives. -/
def TelemetryDb.savePoll (now : Timestamp) (sampleId : Nat) (deviceId : String)
    (result : PollResult) (db : TelemetryDb) : Except StorageError TelemetryDb :=
  let sample : SampleRow := {
    id := sampleId, deviceId, observedAt := utcnow now, latencyMs := result.latencyMs
    profile := result.profile }
  let values := db.values ++ result.values.map fun r => r.row sampleId
  if h : Keyed SampleRow.id (db.samples ++ [sample]) ∧ Keyed RegisterValue.key values then
    .ok { samples := db.samples ++ [sample], values, samples_keyed := h.1, values_keyed := h.2 }
  else .error .registerValueExists

/-- The configuration of the synchronisations. -/
structure Backfill where
  zone : CalendarTimezone
  sourcePath : String
  maxDays : Int

inductive HistoryStep where
  | poll (now : Timestamp) (sampleId : Nat) (deviceId : String) (result : PollResult)
  | sync (deviceId : String) (attemptedAt retrievedAt : Timestamp) (syncId : Nat)
      (fetched : Except PyException (List DatalogColumn))

/-- A step; one that raises has left what it wrote. -/
def HistoryDb.step (config : Backfill) (db : HistoryDb) : HistoryStep → HistoryDb
  | .poll now sampleId deviceId result =>
      match db.telemetry.savePoll now sampleId deviceId result with
      | .ok telemetry => { db with telemetry }
      | .error _ => db
  | .sync deviceId attemptedAt retrievedAt syncId fetched =>
      (db.sync config.zone config.sourcePath config.maxDays deviceId attemptedAt retrievedAt syncId
        fetched).2

/-! ## live samples -/

/-- A member has a live sample on a UTC date. -/
def liveOnDate (scope : ControllerScope) (samples : List SampleRow) (day : String) : Bool :=
  samples.any fun s => scope.contains s.deviceId && s.dayText = day

/-- A member has a live sample between two times. -/
def liveWithin (scope : ControllerScope) (samples : List SampleRow) (start stop : String) : Bool :=
  samples.any fun s => scope.contains s.deviceId && withinDay start stop s

/-- The rows of a controller that are shown. -/
def shownRows (scope : ControllerScope) (db : HistoryDb) : List DailyRow :=
  ranked (db.daily.filter fun r => scope.contains r.deviceId)

/-- A complete retained day without live samples between its boundaries. -/
def DailyRow.fillsGap (scope : ControllerScope) (samples : List SampleRow) (r : DailyRow) : Bool :=
  r.isComplete && !liveWithin scope samples r.dayStartUtc r.dayEndUtc

/-- Retained days agree with the live samples in their own boundaries. -/
structure RetainedAgrees (scope : ControllerScope) (db : HistoryDb) : Prop where
  /-- in the gap listings -/
  listed : ∀ r ∈ shownRows scope db, r.isComplete = true → ∀ day startDay endDay : CivilDay,
    r.controllerDay = day.isoformat → startDay ≤ day → day < endDay →
      ((∃ g ∈ (gapsOf scope startDay endDay db).gaps,
          g.status = .recovered ∧ g.start ≤ day.day ∧ day.day < g.stop) ↔
        liveWithin scope db.telemetry.samples r.dayStartUtc r.dayEndUtc = false)
  /-- in the coverage summaries -/
  counted : ∀ startDay endDay : CivilDay, (coverageOf scope startDay endDay db).recoveredDays =
    ((shownRows scope db).filter fun r => r.fillsGap scope db.telemetry.samples &&
      startDay.isoformat ≤ r.controllerDay && r.controllerDay < endDay.isoformat).length
  /-- in the rows -/
  filled : ∀ r ∈ shownRows scope db, r.isComplete = true →
    (r.fillsFullDayGap = true ↔
      liveWithin scope db.telemetry.samples r.dayStartUtc r.dayEndUtc = false)
  /-- in the summary of the rows -/
  summed : (scope.dailySummary db).fullDayGapsFilled =
    ((shownRows scope db).filter (DailyRow.fillsGap scope db.telemetry.samples)).length

/-- The invariant: every complete day of a member has counted live samples exactly where
there are any. -/
structure RetainedCounted (scope : ControllerScope) (db : HistoryDb) : Prop where
  written : ∀ s ∈ db.telemetry.samples, ∃ t : Timestamp, s.observedAt = t.isoformat
  dated : ∀ r ∈ db.daily, ∃ day : CivilDay, r.controllerDay = day.isoformat
  onDate : ∀ r ∈ db.daily, scope.contains r.deviceId = true → r.isComplete = true →
    (liveOnDate scope db.telemetry.samples r.controllerDay = true ↔ r.liveSampleCount ≠ 0)
  within : ∀ r ∈ db.daily, scope.contains r.deviceId = true → r.isComplete = true →
    (liveWithin scope db.telemetry.samples r.dayStartUtc r.dayEndUtc = true ↔
      r.liveSampleCount ≠ 0)

section Agreement

variable {scope : ControllerScope} {db : HistoryDb}

theorem mem_shownRows {r : DailyRow} (h : r ∈ shownRows scope db) :
    r ∈ db.daily ∧ scope.contains r.deviceId = true :=
  List.mem_filter.mp ((mem_ranked (db.daily_keyed.filter _)).mp h).1

theorem RetainedCounted.fillsFullDayGap (h : RetainedCounted scope db) {r : DailyRow}
    (hr : r ∈ shownRows scope db) :
    r.fillsFullDayGap = r.fillsGap scope db.telemetry.samples := by
  obtain ⟨hmem, hscope⟩ := mem_shownRows hr
  rw [DailyRow.fillsFullDayGap, DailyRow.fillsGap]
  cases hcomplete : r.isComplete with
  | false => rfl
  | true =>
      have hwithin := h.within r hmem hscope hcomplete
      cases hlive : liveWithin scope db.telemetry.samples r.dayStartUtc r.dayEndUtc <;>
        simp_all

theorem mem_retained {startDay endDay : CivilDay} {r : DailyRow} :
    r ∈ (dailyEvidence scope startDay endDay db).retained ↔
      r ∈ shownRows scope db ∧ startDay.isoformat ≤ r.controllerDay ∧
        r.controllerDay < endDay.isoformat := by
  have hrows : (db.daily.filter fun r => scope.contains r.deviceId &&
      startDay.isoformat ≤ r.controllerDay && r.controllerDay < endDay.isoformat) =
      (db.daily.filter fun r => scope.contains r.deviceId).filter fun r =>
        startDay.isoformat ≤ r.controllerDay && r.controllerDay < endDay.isoformat := by
    rw [List.filter_filter]
    refine List.filter_congr fun r _ => ?_
    rw [Bool.and_assoc, Bool.and_comm]
  rw [dailyEvidence, hrows, mem_ranked_filter (db.daily_keyed.filter _) fun day =>
    startDay.isoformat ≤ day && day < endDay.isoformat, shownRows]
  simp

/-- A day of the period is completed by its shown row. -/
theorem completedOn_iff {startDay endDay day : CivilDay} (hstart : startDay ≤ day)
    (hstop : day < endDay) : (dailyEvidence scope startDay endDay db).completedOn day.day = true ↔
      ∃ r ∈ shownRows scope db, r.controllerDay = day.isoformat ∧ r.isComplete = true := by
  have hkeyed : Keyed DailyRow.controllerDay (dailyEvidence scope startDay endDay db).retained :=
    keyed_ranked _
  have hperiod : startDay.isoformat ≤ day.isoformat ∧ day.isoformat < endDay.isoformat :=
    ⟨CivilDay.isoformat_strictMono.monotone hstart, CivilDay.isoformat_lt.mpr hstop⟩
  rw [DailyEvidence.completedOn, DailyEvidence.recordOf, Option.any_eq_true]
  constructor
  · intro hrecord
    obtain ⟨r, hlookup, hcomplete⟩ := hrecord
    obtain ⟨hr, hday⟩ := mem_of_lookup hlookup
    exact ⟨r, (mem_retained.mp hr).1, hday, hcomplete⟩
  · intro hrow
    obtain ⟨r, hr, hday, hcomplete⟩ := hrow
    have hmem : r ∈ (dailyEvidence scope startDay endDay db).retained :=
      mem_retained.mpr ⟨hr, hday ▸ hperiod.1, hday ▸ hperiod.2⟩
    have hlookup := lookup_of_mem hkeyed hmem
    rw [hday] at hlookup
    exact ⟨r, hlookup, hcomplete⟩

/-- A day of the period has live samples on its UTC date. -/
theorem RetainedCounted.samplesOn_pos_iff (h : RetainedCounted scope db)
    {startDay endDay day : CivilDay} (hstart : startDay ≤ day) (hstop : day < endDay) :
    0 < (dailyEvidence scope startDay endDay db).samplesOn day.day ↔
      liveOnDate scope db.telemetry.samples day.isoformat = true := by
  rw [samplesOn_pos, liveOnDate, List.any_eq_true]
  simp only [Bool.and_eq_true, decide_eq_true_eq]
  constructor
  · intro hlive
    obtain ⟨p, hp, s, hs, hday⟩ := hlive
    cases hp
    obtain ⟨hs, hfilter⟩ := List.mem_filter.mp hs
    rw [sampleFilter, Bool.and_eq_true] at hfilter
    exact ⟨s, hs, hfilter.1, hday⟩
  · intro hlive
    obtain ⟨s, hs, hscope, hday⟩ := hlive
    obtain ⟨t, ht⟩ := h.written s hs
    have hdate : t.date = day := by
      rw [SampleRow.dayText, ht, Timestamp.take_isoformat] at hday
      exact CivilDay.isoformat_inj.mp hday
    refine ⟨_, rfl, s, (mem_periodSamples ht).mpr ⟨hs, hscope, ?_⟩, hday⟩
    rw [hdate]
    exact ⟨hstart, hstop⟩

/-- A day is recovered exactly where its shown row fills a gap. -/
theorem RetainedCounted.recovered_iff (h : RetainedCounted scope db)
    {startDay endDay day : CivilDay} (hstart : startDay ≤ day) (hstop : day < endDay) :
    ((dailyEvidence scope startDay endDay db).samplesOn day.day = 0 ∧
        (dailyEvidence scope startDay endDay db).completedOn day.day = true) ↔
      ∃ r ∈ shownRows scope db, r.controllerDay = day.isoformat ∧
        r.fillsGap scope db.telemetry.samples = true := by
  have hlive := h.samplesOn_pos_iff hstart hstop
  rw [Nat.pos_iff_ne_zero, ← Bool.not_eq_false, not_iff_not] at hlive
  rw [hlive, completedOn_iff hstart hstop]
  have hrow : ∀ r ∈ shownRows scope db, r.controllerDay = day.isoformat → r.isComplete = true →
      (liveOnDate scope db.telemetry.samples day.isoformat = false ↔
        r.fillsGap scope db.telemetry.samples = true) := by
    intro r hr hday hcomplete
    obtain ⟨hmem, hscope⟩ := mem_shownRows hr
    have hdate := h.onDate r hmem hscope hcomplete
    have hwithin := h.within r hmem hscope hcomplete
    rw [← hday, DailyRow.fillsGap, hcomplete, Bool.true_and, Bool.not_eq_true',
      ← Bool.not_eq_true, ← Bool.not_eq_true, hdate, hwithin]
  constructor
  · intro hday
    obtain ⟨hdate, r, hr, hday, hcomplete⟩ := hday
    exact ⟨r, hr, hday, (hrow r hr hday hcomplete).mp hdate⟩
  · intro hfills
    obtain ⟨r, hr, hday, hfills⟩ := hfills
    have hcomplete : r.isComplete = true := by
      rw [DailyRow.fillsGap, Bool.and_eq_true] at hfills
      exact hfills.1
    exact ⟨(hrow r hr hday hcomplete).mpr hfills, r, hr, hday, hcomplete⟩

/-- The recovered days of a period are the shown rows of it that fill a gap. -/
theorem RetainedCounted.recoveredDays (h : RetainedCounted scope db) (startDay endDay : CivilDay) :
    (coverageOf scope startDay endDay db).recoveredDays =
      ((shownRows scope db).filter fun r => r.fillsGap scope db.telemetry.samples &&
        startDay.isoformat ≤ r.controllerDay && r.controllerDay < endDay.isoformat).length := by
  obtain ⟨days, hdays⟩ : ∃ days, days = (Day.range startDay.day endDay.day).filter fun day =>
      decide ((dailyEvidence scope startDay endDay db).samplesOn day = 0) &&
        (dailyEvidence scope startDay endDay db).completedOn day := ⟨_, rfl⟩
  obtain ⟨rows, hrows⟩ : ∃ rows, rows = (shownRows scope db).filter fun r =>
      r.fillsGap scope db.telemetry.samples && startDay.isoformat ≤ r.controllerDay &&
        r.controllerDay < endDay.isoformat := ⟨_, rfl⟩
  have hcivil : ∀ day ∈ days, ∃ d : CivilDay, d.day = day ∧ startDay ≤ d ∧ d < endDay := by
    intro day hday
    rw [hdays, List.mem_filter, Day.mem_range] at hday
    obtain ⟨⟨hstart, hstop⟩, -⟩ := hday
    have hyear := Day.year_mono (Day.le_def.mpr (Nat.le_of_lt hstop))
    exact ⟨⟨day, le_trans hyear endDay.year_le⟩, rfl, hstart, hstop⟩
  have hnodup : (days.map Day.isoformat).Nodup := by
    refine List.Nodup.map_on ?_ ?_
    · intro a ha b hb hab
      obtain ⟨a', rfl, -⟩ := hcivil a ha
      obtain ⟨b', rfl, -⟩ := hcivil b hb
      rw [CivilDay.isoformat_inj.mp hab]
    · rw [hdays]
      refine List.Nodup.filter _ ((Day.pairwise_range _ _).imp fun hlt heq => ?_)
      rw [heq, Day.lt_def] at hlt
      exact lt_irrefl _ hlt
  have hkeyed : (rows.map DailyRow.controllerDay).Nodup := by
    rw [hrows]
    exact (keyed_ranked _).filter _
  have hmem : ∀ text, text ∈ days.map Day.isoformat ↔ text ∈ rows.map DailyRow.controllerDay := by
    intro text
    rw [List.mem_map, List.mem_map]
    constructor
    · intro hday
      obtain ⟨day, hday, rfl⟩ := hday
      obtain ⟨d, rfl, hstart, hstop⟩ := hcivil day hday
      rw [hdays, List.mem_filter, Bool.and_eq_true, decide_eq_true_eq] at hday
      obtain ⟨r, hr, hrday, hfills⟩ := (h.recovered_iff hstart hstop).mp hday.2
      refine ⟨r, ?_, hrday⟩
      rw [hrows, List.mem_filter, hrday]
      have hle := CivilDay.isoformat_strictMono.monotone hstart
      have hlt := CivilDay.isoformat_lt.mpr hstop
      simp [hr, hfills, hle, hlt]
    · intro hrow
      obtain ⟨r, hr, rfl⟩ := hrow
      rw [hrows, List.mem_filter, Bool.and_eq_true, Bool.and_eq_true, decide_eq_true_eq,
        decide_eq_true_eq] at hr
      obtain ⟨hr, ⟨hfills, hle⟩, hlt⟩ := hr
      obtain ⟨d, hd⟩ := h.dated r (mem_shownRows hr).1
      rw [hd, CivilDay.isoformat_strictMono.le_iff_le] at hle
      rw [hd, CivilDay.isoformat_lt] at hlt
      have hrecovered := (h.recovered_iff hle hlt).mpr ⟨r, hr, hd, hfills⟩
      refine ⟨d.day, ?_, hd.symm⟩
      rw [hdays, List.mem_filter, Day.mem_range, Bool.and_eq_true, decide_eq_true_eq]
      exact ⟨⟨hle, hlt⟩, hrecovered⟩
  have hperm := (List.perm_ext_iff_of_nodup hnodup hkeyed).mpr hmem
  have hlength := hperm.length_eq
  rw [List.length_map, List.length_map, hdays, hrows] at hlength
  exact hlength

/-- Where the counts are right, the reports agree. -/
theorem RetainedCounted.agrees (h : RetainedCounted scope db) : RetainedAgrees scope db where
  listed := by
    intro r hr hcomplete day startDay endDay hday hstart hstop
    have hrange : day.day ∈ Day.range startDay.day endDay.day := Day.mem_range.mpr ⟨hstart, hstop⟩
    have hfills : r.fillsGap scope db.telemetry.samples = true ↔
        liveWithin scope db.telemetry.samples r.dayStartUtc r.dayEndUtc = false := by
      rw [DailyRow.fillsGap, hcomplete, Bool.true_and, Bool.not_eq_true']
    rw [grouped_gapsOf.mem_entries, mem_dailyGaps, status_recovered, ← hfills,
      h.recovered_iff hstart hstop]
    constructor
    · intro hrow
      obtain ⟨-, r', hr', hday', hfills'⟩ := hrow
      rwa [(keyed_ranked _).eq hr hr' (hday.trans hday'.symm)]
    · intro hfills
      exact ⟨hrange, r, hr, hday, hfills⟩
  counted := h.recoveredDays
  filled := by
    intro r hr hcomplete
    rw [h.fillsFullDayGap hr, DailyRow.fillsGap, hcomplete, Bool.true_and, Bool.not_eq_true']
  summed := congrArg List.length (List.filter_congr fun _ hr => h.fillsFullDayGap hr)

end Agreement

/-! ## steps -/

section Steps

variable (scope : ControllerScope) (config : Backfill)

/-- A poll and the retained days of its time: those are counted already. -/
def PollFits (db : HistoryDb) (now : Timestamp) (deviceId : String) : Prop :=
  scope.contains deviceId = true →
    ∀ r ∈ db.daily, scope.contains r.deviceId = true → r.isComplete = true →
      now.date.isoformat = r.controllerDay ∨
        r.dayStartUtc ≤ now.isoformat ∧ now.isoformat < r.dayEndUtc →
      r.liveSampleCount ≠ 0

/-- A record and the live samples of the members: if one is on the UTC date of the record's
name, one is between its boundaries and the other way round, and then the device itself has one
between them. -/
structure RecordFits (samples : List SampleRow) (deviceId : String)
    (record : ControllerDailyRecord) : Prop where
  date : liveOnDate scope samples record.controllerDay.isoformat =
    liveWithin scope samples record.dayStartUtc record.dayEndUtc
  own : liveWithin scope samples record.dayStartUtc record.dayEndUtc = true →
    ∃ s ∈ samples, s.deviceId = deviceId ∧
      withinDay record.dayStartUtc record.dayEndUtc s = true

instance (samples : List SampleRow) (deviceId : String) (record : ControllerDailyRecord) :
    Decidable (RecordFits scope samples deviceId record) :=
  decidable_of_iff (liveOnDate scope samples record.controllerDay.isoformat =
      liveWithin scope samples record.dayStartUtc record.dayEndUtc ∧
    (liveWithin scope samples record.dayStartUtc record.dayEndUtc = true →
      ∃ s ∈ samples, s.deviceId = deviceId ∧
        withinDay record.dayStartUtc record.dayEndUtc s = true))
    ⟨fun h => ⟨h.1, h.2⟩, fun h => ⟨h.date, h.own⟩⟩

/-- What a step has to find, so that the reports agree after it. -/
def HistoryStep.Fits (db : HistoryDb) : HistoryStep → Prop
  | .poll now _ deviceId _ => PollFits scope db now deviceId
  | .sync deviceId _ retrievedAt _ fetched =>
      scope.contains deviceId = true → ∀ columns records, fetched = .ok columns →
        parseDatalog config.zone retrievedAt config.sourcePath config.maxDays columns =
          .ok records →
        ∀ record ∈ records, record.isComplete = true →
          RecordFits scope db.telemetry.samples deviceId record

/-- A run whose steps all find that. -/
def FittingRun (db : HistoryDb) : List HistoryStep → Prop
  | [] => True
  | step :: steps => step.Fits scope config db ∧ FittingRun (db.step config step) steps

def HistoryDb.run (db : HistoryDb) (steps : List HistoryStep) : HistoryDb :=
  steps.foldl (HistoryDb.step config) db

variable {scope config} {db : HistoryDb}

theorem liveOnDate_append (samples : List SampleRow) (s : SampleRow) (day : String) :
    liveOnDate scope (samples ++ [s]) day =
      (liveOnDate scope samples day || (scope.contains s.deviceId && s.dayText = day)) := by
  simp [liveOnDate]

theorem liveWithin_append (samples : List SampleRow) (s : SampleRow) (start stop : String) :
    liveWithin scope (samples ++ [s]) start stop =
      (liveWithin scope samples start stop ||
        (scope.contains s.deviceId && withinDay start stop s)) := by
  simp [liveWithin]

theorem savePoll_samples {now : Timestamp} {sampleId : Nat} {deviceId : String}
    {result : PollResult} {telemetry saved : TelemetryDb}
    (h : telemetry.savePoll now sampleId deviceId result = .ok saved) :
    saved.samples = telemetry.samples ++ [{
      id := sampleId, deviceId, observedAt := utcnow now, latencyMs := result.latencyMs
      profile := result.profile }] := by
  simp only [TelemetryDb.savePoll] at h
  split at h
  · cases h
    rfl
  · cases h

/-- Live samples after a poll. -/
theorem RetainedCounted.poll (h : RetainedCounted scope db) {now : Timestamp} {sampleId : Nat}
    {deviceId : String} {result : PollResult} (hfits : PollFits scope db now deviceId) :
    RetainedCounted scope (db.step config (.poll now sampleId deviceId result)) := by
  rw [HistoryDb.step]
  split
  case h_2 => exact h
  case h_1 saved hsave =>
    have hsamples := savePoll_samples hsave
    obtain ⟨sample, hsample⟩ : ∃ sample : SampleRow, sample = {
      id := sampleId, deviceId, observedAt := utcnow now, latencyMs := result.latencyMs
      profile := result.profile } := ⟨_, rfl⟩
    rw [← hsample] at hsamples
    have hobserved : sample.observedAt = now.isoformat := by rw [hsample]; rfl
    have hdevice : sample.deviceId = deviceId := by rw [hsample]
    have hdate : sample.dayText = now.date.isoformat := by
      rw [SampleRow.dayText, hobserved, Timestamp.take_isoformat]
    exact {
      written := by
        intro s hs
        rw [hsamples] at hs
        obtain hs | hs := List.mem_append.mp hs
        · exact h.written s hs
        · rw [List.mem_singleton.mp hs]
          exact ⟨now, hobserved⟩
      dated := h.dated
      onDate := by
        intro r hr hscope hcomplete
        have hold := h.onDate r hr hscope hcomplete
        have hcounted := fun hin => hfits hin r hr hscope hcomplete
        simp only [hsamples, liveOnDate_append, hdevice, hdate, Bool.or_eq_true, Bool.and_eq_true,
          decide_eq_true_eq, hold]
        exact ⟨fun hlive => hlive.elim id fun hnew => hcounted hnew.1 (.inl hnew.2), .inl⟩
      within := by
        intro r hr hscope hcomplete
        have hold := h.within r hr hscope hcomplete
        have hcounted := fun hin => hfits hin r hr hscope hcomplete
        simp only [hsamples, liveWithin_append, hdevice, withinDay, hobserved, Bool.or_eq_true,
          Bool.and_eq_true, decide_eq_true_eq, hold]
        exact ⟨fun hlive => hlive.elim id fun hnew => hcounted hnew.1 (.inr hnew.2), .inl⟩ }

/-! ### synchronisations -/

theorem parseDatalog_record {zone : CalendarTimezone} {retrievedAt : Timestamp}
    {sourcePath : String} {maxDays : Int} {columns : List DatalogColumn}
    {records : List ControllerDailyRecord}
    (h : parseDatalog zone retrievedAt sourcePath maxDays columns = .ok records)
    {record : ControllerDailyRecord} (hr : record ∈ records) :
    ∃ offset column, recordFromColumn zone retrievedAt sourcePath offset column = .ok record := by
  simp only [parseDatalog, Loop.bind_eq_ok] at h
  obtain ⟨found, hfound, h⟩ := h
  split at h
  · cases h
  · cases h
    obtain ⟨c, -, hc⟩ := Loop.mem_mapM hfound ((mem_orderBy _ _ _).mp hr)
    exact ⟨c.1, c.2, hc⟩

theorem inDateRange_eq_ok {α : Type} {value : Option α} {a : α} :
    inDateRange value = .ok a ↔ value = some a := by
  cases value <;> simp [inDateRange]

/-- The boundaries of a day are those of the calendar. -/
theorem recordFromColumn_bounds {zone : CalendarTimezone} {retrievedAt : Timestamp}
    {sourcePath : String} {offset : Int} {column : DatalogColumn} {record : ControllerDailyRecord}
    (h : recordFromColumn zone retrievedAt sourcePath offset column = .ok record) :
    some record.dayStartUtc = (zone.dayStart record.controllerDay).map Timestamp.isoformat ∧
      some record.dayEndUtc =
        ((record.controllerDay.shift 1).bind zone.dayStart).map Timestamp.isoformat := by
  simp only [recordFromColumn, Loop.bind_eq_ok, inDateRange_eq_ok, Loop.pure_eq_ok,
    Except.ok.injEq] at h
  obtain ⟨day, -, start, hstart, following, hfollowing, stop, hstop, rfl⟩ := h
  simp [hstart, hfollowing, hstop]

/-- The columns of a day have its boundaries. -/
theorem parseDatalog_bounds {zone : CalendarTimezone} {retrievedAt : Timestamp}
    {sourcePath : String} {maxDays : Int} {columns : List DatalogColumn}
    {records : List ControllerDailyRecord}
    (h : parseDatalog zone retrievedAt sourcePath maxDays columns = .ok records)
    {record r : ControllerDailyRecord} (hrecord : record ∈ records) (hr : r ∈ records)
    (hday : r.controllerDay = record.controllerDay) :
    r.dayStartUtc = record.dayStartUtc ∧ r.dayEndUtc = record.dayEndUtc := by
  obtain ⟨_, _, hcolumn⟩ := parseDatalog_record h hrecord
  obtain ⟨_, _, hcolumn'⟩ := parseDatalog_record h hr
  obtain ⟨hstart, hstop⟩ := recordFromColumn_bounds hcolumn
  obtain ⟨hstart', hstop'⟩ := recordFromColumn_bounds hcolumn'
  rw [hday] at hstart' hstop'
  exact ⟨Option.some.inj (hstart'.trans hstart.symm), Option.some.inj (hstop'.trans hstop.symm)⟩

/-- A day is counted where the device has a live sample between its boundaries. -/
theorem liveSampleCount_ne_zero {zone : CalendarTimezone} {retrievedAt : Timestamp}
    {sourcePath : String} {maxDays : Int} {columns : List DatalogColumn}
    {records : List ControllerDailyRecord}
    (h : parseDatalog zone retrievedAt sourcePath maxDays columns = .ok records)
    {record : ControllerDailyRecord} (hr : record ∈ records) (samples : List SampleRow)
    (deviceId : String) :
    liveSampleCount samples deviceId records record.controllerDay ≠ 0 ↔
      ∃ s ∈ samples, s.deviceId = deviceId ∧
        withinDay record.dayStartUtc record.dayEndUtc s = true := by
  rw [liveSampleCount, ← Nat.pos_iff_ne_zero, List.sum_pos_iff_exists_pos_nat]
  simp only [List.mem_map, List.mem_filter, decide_eq_true_eq]
  constructor
  · intro hcount
    obtain ⟨n, ⟨r, ⟨hr', hday⟩, rfl⟩, hpos⟩ := hcount
    obtain ⟨s, hs⟩ := List.length_pos_iff_exists_mem.mp hpos
    obtain ⟨hs, hin⟩ := List.mem_filter.mp hs
    rw [Bool.and_eq_true, decide_eq_true_eq] at hin
    obtain ⟨hstart, hstop⟩ := parseDatalog_bounds h hr hr' hday
    exact ⟨s, hs, hin.1, hstart ▸ hstop ▸ hin.2⟩
  · intro hsample
    obtain ⟨s, hs, hdevice, hwithin⟩ := hsample
    refine ⟨_, ⟨record, ⟨hr, rfl⟩, rfl⟩, ?_⟩
    refine List.length_pos_iff_exists_mem.mpr ⟨s, List.mem_filter.mpr ⟨hs, ?_⟩⟩
    rw [Bool.and_eq_true, decide_eq_true_eq]
    exact ⟨hdevice, hwithin⟩

theorem mem_upsertDaily {rows : List DailyRow} {r : DailyRow}
    (h : r ∈ (rows.foldl HistoryDb.upsertDaily db).daily) :
    (r ∈ db.daily ∧ ∀ row ∈ rows, row.key ≠ r.key) ∨ r ∈ rows := by
  induction rows generalizing db with
  | nil => exact .inl ⟨h, by simp⟩
  | cons row rows ih =>
      obtain ⟨hdaily, hother⟩ | hrows := ih h
      · have hupsert : r ∈ Table.upsert DailyRow.key (fun _ new => new) row db.daily := hdaily
        obtain hnew | hmerged | hold := mem_upsert hupsert
        · exact .inr (hnew.1 ▸ List.mem_cons_self)
        · obtain ⟨old, -, -, rfl⟩ := hmerged
          exact .inr List.mem_cons_self
        · exact .inl ⟨hold.1, List.forall_mem_cons.mpr ⟨Ne.symm hold.2, hother⟩⟩
      · exact .inr (List.mem_cons_of_mem row hrows)

/-- The keys after the rows are written. -/
theorem exists_key_upsertDaily (rows : List DailyRow) (db : HistoryDb) (k : String × String) :
    (∃ r ∈ (rows.foldl HistoryDb.upsertDaily db).daily, r.key = k) ↔
      (∃ row ∈ rows, row.key = k) ∨ ∃ r ∈ db.daily, r.key = k := by
  induction rows generalizing db with
  | nil => simp
  | cons row rows ih =>
      have hfirst : (∃ r ∈ (db.upsertDaily row).daily, r.key = k) ↔
          k = row.key ∨ ∃ r ∈ db.daily, r.key = k := by
        show (∃ r ∈ Table.upsert DailyRow.key (fun _ new => new) row db.daily, r.key = k) ↔ _
        rw [exists_key_upsert fun _ _ => rfl]
      rw [List.foldl_cons, ih, hfirst]
      grind

theorem telemetry_upsertDaily (rows : List DailyRow) (db : HistoryDb) :
    (rows.foldl HistoryDb.upsertDaily db).telemetry = db.telemetry := by
  induction rows generalizing db with
  | nil => rfl
  | cons row rows ih => exact ih _

/-- Retained days after a synchronisation. -/
theorem RetainedCounted.sync (h : RetainedCounted scope db) {deviceId : String}
    {attemptedAt retrievedAt : Timestamp} {syncId : Nat}
    {fetched : Except PyException (List DatalogColumn)}
    (hfits : (HistoryStep.sync deviceId attemptedAt retrievedAt syncId fetched).Fits scope config
      db) :
    RetainedCounted scope
      (db.step config (.sync deviceId attemptedAt retrievedAt syncId fetched)) := by
  rw [HistoryDb.step, HistoryDb.sync]
  dsimp only
  split
  case h_2 => exact ⟨h.written, h.dated, h.onDate, h.within⟩
  case h_1 records hparsed =>
    obtain ⟨columns, hfetched, hrecords⟩ : ∃ columns, fetched = .ok columns ∧
        parseDatalog config.zone retrievedAt config.sourcePath config.maxDays columns =
          .ok records := by
      cases fetched with
      | error e => cases hparsed
      | ok columns => exact ⟨columns, rfl, hparsed⟩
    have htelemetry := telemetry_upsertDaily
      (records.map (recordRow db.telemetry.samples deviceId records)) db
    have hnew : ∀ record ∈ records, scope.contains deviceId = true → record.isComplete = true →
        (liveOnDate scope db.telemetry.samples record.controllerDay.isoformat = true ↔
          liveSampleCount db.telemetry.samples deviceId records record.controllerDay ≠ 0) ∧
        (liveWithin scope db.telemetry.samples record.dayStartUtc record.dayEndUtc = true ↔
          liveSampleCount db.telemetry.samples deviceId records record.controllerDay ≠ 0) := by
      intro record hr hscope hcomplete
      have hfit := hfits hscope columns records hfetched hrecords record hr hcomplete
      have hcount := liveSampleCount_ne_zero hrecords hr db.telemetry.samples deviceId
      have hwithin : liveWithin scope db.telemetry.samples record.dayStartUtc record.dayEndUtc =
          true ↔ liveSampleCount db.telemetry.samples deviceId records record.controllerDay ≠ 0 := by
        rw [hcount]
        refine ⟨hfit.own, fun hown => ?_⟩
        obtain ⟨s, hs, hdevice, hin⟩ := hown
        rw [liveWithin, List.any_eq_true]
        exact ⟨s, hs, by rw [hdevice, hscope, hin]; rfl⟩
      exact ⟨hfit.date ▸ hwithin, hwithin⟩
    have hrows : ∀ r ∈ (db.upsert deviceId records).daily, r ∈ db.daily ∨
        ∃ record ∈ records, r = recordRow db.telemetry.samples deviceId records record := by
      intro r hr
      refine (mem_upsertDaily hr).imp And.left fun hmem => ?_
      obtain ⟨record, hrecord, rfl⟩ := List.mem_map.mp hmem
      exact ⟨record, hrecord, rfl⟩
    have hsamples : (db.upsert deviceId records).telemetry.samples = db.telemetry.samples :=
      congrArg TelemetryDb.samples htelemetry
    exact {
      written := fun s hs => h.written s (hsamples ▸ hs)
      dated := by
        intro r hr
        obtain hold | hrecord := hrows r hr
        · exact h.dated r hold
        · obtain ⟨record, -, rfl⟩ := hrecord
          exact ⟨record.controllerDay, rfl⟩
      onDate := by
        intro r hr hscope hcomplete
        show liveOnDate scope (db.upsert deviceId records).telemetry.samples _ = true ↔ _
        rw [hsamples]
        obtain hold | hrecord := hrows r hr
        · exact h.onDate r hold hscope hcomplete
        · obtain ⟨record, hmem, rfl⟩ := hrecord
          exact (hnew record hmem hscope hcomplete).1
      within := by
        intro r hr hscope hcomplete
        show liveWithin scope (db.upsert deviceId records).telemetry.samples _ _ = true ↔ _
        rw [hsamples]
        obtain hold | hrecord := hrows r hr
        · exact h.within r hold hscope hcomplete
        · obtain ⟨record, hmem, rfl⟩ := hrecord
          exact (hnew record hmem hscope hcomplete).2 }

theorem RetainedCounted.step (h : RetainedCounted scope db) {step : HistoryStep}
    (hfits : step.Fits scope config db) : RetainedCounted scope (db.step config step) := by
  cases step with
  | poll => exact h.poll hfits
  | sync => exact h.sync hfits

theorem RetainedCounted.run (h : RetainedCounted scope db) {steps : List HistoryStep}
    (hfits : FittingRun scope config db steps) :
    RetainedCounted scope (db.run config steps) := by
  induction steps generalizing db with
  | nil => exact h
  | cons step steps ih => exact ih (h.step hfits.1) hfits.2

/-- A store before the first poll. -/
def emptyHistory : HistoryDb where
  telemetry := noSamples
  daily := []
  syncs := []
  daily_keyed := keyed_nil _

theorem retainedCounted_empty : RetainedCounted scope emptyHistory :=
  ⟨by simp [emptyHistory, noSamples], by simp [emptyHistory], by simp [emptyHistory],
    by simp [emptyHistory]⟩

/-- **Retained days** agree with live data in every state of a run whose polls and
synchronisations all fit. -/
theorem retained_days_agree (scope : ControllerScope) (config : Backfill)
    (steps : List HistoryStep) (h : FittingRun scope config emptyHistory steps) :
    RetainedAgrees scope (emptyHistory.run config steps) :=
  (retainedCounted_empty.run h).agrees

/-! ### two runs -/

theorem june_valid {day : Nat} (h : 1 ≤ day ∧ day ≤ 30) : (⟨2024, 6, day⟩ : Date).Valid :=
  ⟨by simp, by simp, by simp, h.1, h.2⟩

theorem hour_lt {hour : Nat} (h : hour < 24) : hour * 3600000000 < dayMicros := by
  rw [dayMicros]
  omega

theorem year_2024_le : 2024 ≤ 9999 := by decide

/-- An hour in June 2024. -/
def june (day hour : Nat) (h : (1 ≤ day ∧ day ≤ 30) ∧ hour < 24 := by decide) : Timestamp where
  day := ⟨⟨2024, 6, day⟩, june_valid h.1⟩
  micros := hour * 3600000000
  year_le := year_2024_le
  micros_lt := hour_lt h.2

/-- The scope of one device. -/
def oneDeviceScope : ControllerScope where
  controllerUid := "ctrl_0"
  controllerId := "c"
  canonicalDeviceId := "d"
  historyDeviceIds := ["d"]

/-- A poll, and a synchronisation of the day before it and of two days later. -/
def pollThenSync (now retrievedAt : Timestamp) : List HistoryStep :=
  [.poll now 1 "d" { values := [], latencyMs := 12, profile := "tristar_mppt" },
    .sync "d" retrievedAt retrievedAt 1
      (.ok [{ dayOffset := some 0 }, { dayOffset := some (-1) }, { dayOffset := some (-2) }])]

def utcBackfill : Backfill where
  zone := .utc
  sourcePath := "/datalog.html"
  maxDays := 200

/-- A poll on the first of June, and two complete days, with the calendar in UTC. -/
theorem retained_days_agree_utc :
    RetainedAgrees oneDeviceScope
      (emptyHistory.run utcBackfill (pollThenSync (june 1 12) (june 3 6))) := by
  refine retained_days_agree _ _ _ ⟨?_, ?_, trivial⟩
  · intro _ r hr
    cases hr
  · intro _ columns records hfetched hrecords
    cases hfetched
    have hfits : (parseDatalog utcBackfill.zone (june 3 6) utcBackfill.sourcePath
        utcBackfill.maxDays [{ dayOffset := some 0 }, { dayOffset := some (-1) },
          { dayOffset := some (-2) }]).toOption.all (fun records =>
        decide (∀ record ∈ records, record.isComplete = true →
          RecordFits oneDeviceScope (emptyHistory.step utcBackfill (.poll (june 1 12) 1 "d"
            { values := [], latencyMs := 12, profile := "tristar_mppt" })).telemetry.samples "d"
            record)) = true := by decide +kernel
    rw [hrecords] at hfits
    exact of_decide_eq_true hfits

theorem prev_year_le (t : Timestamp) : t.day.prev.date.year ≤ 9999 :=
  le_trans t.day.year_prev_le t.year_le

theorem fiveHours_lt : 5 * 3600000000 < dayMicros := hour_lt (by decide)

/-- A calendar five hours behind UTC. -/
def fiveHoursBehind : CalendarTimezone where
  localDate := fun t =>
    if t.micros < 5 * 3600000000 then ⟨t.day.prev, prev_year_le t⟩ else t.date
  dayStart := fun day => some
    { day.midnight with micros := 5 * 3600000000, micros_lt := fiveHours_lt }

/-- A poll in the evening of the first of June, which is the second in UTC: the first is
reported as recovered, though its boundaries hold the poll. -/
theorem not_retained_days_agree_evening :
    ¬ RetainedAgrees oneDeviceScope (emptyHistory.run { utcBackfill with zone := fiveHoursBehind }
      (pollThenSync (june 2 1) (june 3 12))) := by
  intro h
  have hcounted := h.counted (june 1 0).date (june 2 0).date
  revert hcounted
  decide +kernel

end Steps

end MorningstarModbus
