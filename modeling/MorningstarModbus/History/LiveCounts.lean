import MorningstarModbus.History.RetainedDays

/-!
# MorningstarModbus.History.LiveCounts

The live samples that a synchronisation counts (`_live_sample_counts` of
`history/retained/storage.py`), over the columns of the page it read.

* `CountedOnce` — the stored days abut, and each live sample is counted once in one of them;
* `liveSampleCount_eq` — a day is counted once for each of its columns;
* `counted_once_iff` — samples are counted once exactly when no day with live samples is repeated.
-/

namespace MorningstarModbus

open Calendar Query Table

/-! ## days of a page -/

namespace CalendarTimezone

/-- The midnights come in order: no change of the offset is of more than a day. -/
structure InOrder (zone : CalendarTimezone) : Prop where
  dayStart_le : ∀ {day day' : CivilDay} {t t' : Timestamp}, day ≤ day' →
    zone.dayStart day = some t → zone.dayStart day' = some t' → t ≤ t'

/-- A sample is of a day, from its midnight to the next. -/
def Covers (zone : CalendarTimezone) (day : CivilDay) (s : SampleRow) : Prop :=
  ∃ start following stop, zone.dayStart day = some start ∧ day.shift 1 = some following ∧
    zone.dayStart following = some stop ∧ withinDay start.isoformat stop.isoformat s = true

end CalendarTimezone

/-- The day numbers of the columns that are read. -/
def keptOffsets (maxDays : Int) (columns : List DatalogColumn) : List Int :=
  (columns.filterMap DatalogColumn.dayOffset).filter fun offset => offset ≤ 0 ∧ |offset| ≤ maxDays

/-- The days of a page. -/
def pageDays (zone : CalendarTimezone) (retrievedAt : Timestamp) (maxDays : Int)
    (columns : List DatalogColumn) : List CivilDay :=
  (keptOffsets maxDays columns).filterMap (zone.localDate retrievedAt).shift

/-- No day number of a day with live samples is repeated. -/
def RepeatsNoLiveDay (zone : CalendarTimezone) (retrievedAt : Timestamp) (maxDays : Int)
    (columns : List DatalogColumn) (deviceId : String) (samples : List SampleRow) : Prop :=
  ∀ offset, 1 < (keptOffsets maxDays columns).count offset →
    ∀ day, (zone.localDate retrievedAt).shift offset = some day →
      ∀ s ∈ samples, s.deviceId = deviceId → ¬ zone.Covers day s

/-! ## stored days -/

/-- A sample of the device, in the interval of the day. -/
def DailyRow.holds (r : DailyRow) (s : SampleRow) : Bool :=
  s.deviceId = r.deviceId && withinDay r.dayStartUtc r.dayEndUtc s

/-- The rows of a device for some days. -/
def storedRows (deviceId : String) (days : List CivilDay) (db : HistoryDb) : List DailyRow :=
  db.daily.filter fun r =>
    r.deviceId = deviceId && days.any fun day => day.isoformat = r.controllerDay

/-- Each live sample is counted once, in one of the rows of some days. -/
structure CountedOnce (days : List CivilDay) (samples : List SampleRow) (rows : List DailyRow) :
    Prop where
  stored : ∀ day ∈ days, ∃ r ∈ rows, r.controllerDay = day.isoformat
  ordered : ∀ r ∈ rows, r.dayStartUtc ≤ r.dayEndUtc
  abut : ∀ r ∈ rows, ∀ r' ∈ rows, ∀ day following : CivilDay, day.shift 1 = some following →
    r.controllerDay = day.isoformat → r'.controllerDay = following.isoformat →
      r.dayEndUtc = r'.dayStartUtc
  /-- a day has counted the samples in its interval -/
  counted : ∀ r ∈ rows, r.liveSampleCount = (samples.filter r.holds).length
  /-- the intervals do not overlap -/
  once : ∀ s ∈ samples, ∀ r ∈ rows, ∀ r' ∈ rows, r.holds s = true → r'.holds s = true → r = r'
  /-- together, the days have counted the samples in the union of the intervals -/
  total : (rows.map DailyRow.liveSampleCount).sum =
    (samples.filter fun s => rows.any fun r => r.holds s).length

/-! ## records of a page -/

section Page

variable {zone : CalendarTimezone} {retrievedAt : Timestamp} {sourcePath : String} {maxDays : Int}
  {columns : List DatalogColumn} {records : List ControllerDailyRecord}
  {record : ControllerDailyRecord}

theorem recordFromColumn_day {offset : Int} {column : DatalogColumn}
    (h : recordFromColumn zone retrievedAt sourcePath offset column = .ok record) :
    record.dayOffset = offset ∧
      (zone.localDate retrievedAt).shift offset = some record.controllerDay := by
  simp only [recordFromColumn, Loop.bind_eq_ok, inDateRange_eq_ok, Loop.pure_eq_ok,
    Except.ok.injEq] at h
  obtain ⟨day, hday, start, -, following, -, stop, -, rfl⟩ := h
  exact ⟨rfl, hday⟩

theorem filterMap_dayOffset (columns : List DatalogColumn) :
    columns.filterMap DatalogColumn.dayOffset = (columns.filterMap fun column =>
      column.dayOffset.map fun offset => (offset, column)).map Prod.fst := by
  rw [List.map_filterMap]
  refine List.filterMap_congr fun column _ => ?_
  cases column.dayOffset <;> rfl

/-- The records have the day numbers of the columns. -/
theorem map_dayOffset_perm
    (h : parseDatalog zone retrievedAt sourcePath maxDays columns = .ok records) :
    (records.map ControllerDailyRecord.dayOffset).Perm (keptOffsets maxDays columns) := by
  simp only [parseDatalog, Loop.bind_eq_ok] at h
  obtain ⟨found, hfound, h⟩ := h
  split at h
  · cases h
  · cases h
    have hoffsets : found.map ControllerDailyRecord.dayOffset = List.map Prod.fst _ :=
      Loop.map_mapM (fun _ _ hc => (recordFromColumn_day hc).1) hfound
    refine ((orderBy_perm _ _ found).map _).trans (List.Perm.of_eq ?_)
    rw [hoffsets, keptOffsets, filterMap_dayOffset columns, List.filter_map]
    rfl

theorem shift_dayOffset
    (h : parseDatalog zone retrievedAt sourcePath maxDays columns = .ok records)
    (hr : record ∈ records) :
    (zone.localDate retrievedAt).shift record.dayOffset = some record.controllerDay := by
  obtain ⟨offset, column, hcolumn⟩ := parseDatalog_record h hr
  obtain ⟨rfl, hday⟩ := recordFromColumn_day hcolumn
  exact hday

theorem mem_pageDays (h : parseDatalog zone retrievedAt sourcePath maxDays columns = .ok records)
    {day : CivilDay} : day ∈ pageDays zone retrievedAt maxDays columns ↔
      ∃ record ∈ records, record.controllerDay = day := by
  rw [pageDays, List.mem_filterMap]
  constructor
  · intro hoffset
    obtain ⟨offset, hoffset, hday⟩ := hoffset
    obtain ⟨record, hr, rfl⟩ := List.mem_map.mp ((map_dayOffset_perm h).mem_iff.mpr hoffset)
    exact ⟨record, hr, Option.some.inj ((shift_dayOffset h hr).symm.trans hday)⟩
  · intro hrecord
    obtain ⟨record, hr, rfl⟩ := hrecord
    exact ⟨record.dayOffset, (map_dayOffset_perm h).mem_iff.mp (List.mem_map_of_mem hr),
      shift_dayOffset h hr⟩

/-- A day has a record for each of its columns. -/
theorem length_records_day
    (h : parseDatalog zone retrievedAt sourcePath maxDays columns = .ok records)
    (hr : record ∈ records) :
    (records.filter fun r => r.controllerDay = record.controllerDay).length =
      (keptOffsets maxDays columns).count record.dayOffset := by
  have hday : ∀ r ∈ records,
      r.controllerDay = record.controllerDay ↔ r.dayOffset = record.dayOffset := by
    intro r hr'
    have hshift := shift_dayOffset h hr
    have hshift' := shift_dayOffset h hr'
    constructor
    · intro heq
      rw [heq] at hshift'
      exact CivilDay.shift_inj hshift' hshift
    · intro heq
      rw [heq] at hshift'
      exact Option.some.inj (hshift'.symm.trans hshift)
  rw [← (map_dayOffset_perm h).count_eq, List.count, List.countP_map, List.countP_eq_length_filter]
  refine congrArg List.length (List.filter_congr fun r hr' => ?_)
  rw [Function.comp_apply, beq_eq_decide, decide_eq_decide]
  exact hday r hr'

/-- A day is counted once for each of its columns. -/
theorem liveSampleCount_eq
    (h : parseDatalog zone retrievedAt sourcePath maxDays columns = .ok records)
    (hr : record ∈ records) (samples : List SampleRow) (deviceId : String) :
    liveSampleCount samples deviceId records record.controllerDay =
      (keptOffsets maxDays columns).count record.dayOffset *
        (samples.filter (recordRow samples deviceId records record).holds).length := by
  have hcolumn : ∀ r ∈ records.filter fun r => r.controllerDay = record.controllerDay,
      (samples.filter fun s =>
        s.deviceId = deviceId && withinDay r.dayStartUtc r.dayEndUtc s).length =
      (samples.filter (recordRow samples deviceId records record).holds).length := by
    intro r hr'
    obtain ⟨hr', hday⟩ := List.mem_filter.mp hr'
    obtain ⟨hstart, hstop⟩ := parseDatalog_bounds h hr hr' (of_decide_eq_true hday)
    rw [hstart, hstop]
    rfl
  rw [liveSampleCount, List.map_congr_left hcolumn, List.map_const', List.sum_replicate_nat,
    length_records_day h hr]

/-! ## after a synchronisation -/

variable {db : HistoryDb} {deviceId : String}

/-- What a synchronisation writes of a page. -/
theorem sync_page (h : parseDatalog zone retrievedAt sourcePath maxDays columns = .ok records)
    (db : HistoryDb) (deviceId : String) (attemptedAt : Timestamp) (syncId : Nat) :
    ∃ row, (db.sync zone sourcePath maxDays deviceId attemptedAt retrievedAt syncId
      (.ok columns)).2 = (db.upsert deviceId records).recordSync row := by
  have hfetched : (Except.ok columns : Except PyException (List DatalogColumn)).bind
      (parseDatalog zone retrievedAt sourcePath maxDays) = .ok records := h
  rw [HistoryDb.sync, hfetched]
  exact ⟨_, rfl⟩

/-- The stored days of a page are rows of its records. -/
theorem mem_storedRows (h : parseDatalog zone retrievedAt sourcePath maxDays columns = .ok records)
    {r : DailyRow}
    (hr : r ∈ storedRows deviceId (pageDays zone retrievedAt maxDays columns)
      (db.upsert deviceId records)) :
    ∃ record ∈ records, r = recordRow db.telemetry.samples deviceId records record := by
  rw [storedRows, List.mem_filter, Bool.and_eq_true, decide_eq_true_eq, List.any_eq_true] at hr
  obtain ⟨hr, hdevice, day, hday, htext⟩ := hr
  obtain ⟨record, hrecord, rfl⟩ := (mem_pageDays h).mp hday
  obtain ⟨-, hother⟩ | hrow := mem_upsertDaily hr
  · have hkey : (recordRow db.telemetry.samples deviceId records record).key = r.key :=
      Prod.ext hdevice.symm (of_decide_eq_true htext)
    exact absurd hkey (hother _ (List.mem_map_of_mem hrecord))
  · obtain ⟨record, hrecord, rfl⟩ := List.mem_map.mp hrow
    exact ⟨record, hrecord, rfl⟩

/-- Every day of a page is stored. -/
theorem exists_storedRow
    (h : parseDatalog zone retrievedAt sourcePath maxDays columns = .ok records)
    (hrecord : record ∈ records) :
    ∃ r ∈ storedRows deviceId (pageDays zone retrievedAt maxDays columns)
      (db.upsert deviceId records), r.controllerDay = record.controllerDay.isoformat := by
  obtain ⟨r, hr, hkey⟩ := (exists_key_upsertDaily
    (records.map (recordRow db.telemetry.samples deviceId records)) db
    (deviceId, record.controllerDay.isoformat)).mpr
      (.inl ⟨_, List.mem_map_of_mem hrecord, rfl⟩)
  obtain ⟨hdevice, hday⟩ := Prod.ext_iff.mp hkey
  refine ⟨r, List.mem_filter.mpr ⟨hr, ?_⟩, hday⟩
  rw [Bool.and_eq_true, decide_eq_true_eq, List.any_eq_true]
  exact ⟨hdevice, record.controllerDay, (mem_pageDays h).mpr ⟨record, hrecord, rfl⟩,
    decide_eq_true hday.symm⟩

/-- The boundaries of a record. -/
theorem record_bounds (h : parseDatalog zone retrievedAt sourcePath maxDays columns = .ok records)
    (hrecord : record ∈ records) :
    ∃ start following stop, zone.dayStart record.controllerDay = some start ∧
      record.controllerDay.shift 1 = some following ∧ zone.dayStart following = some stop ∧
      record.dayStartUtc = start.isoformat ∧ record.dayEndUtc = stop.isoformat := by
  obtain ⟨offset, column, hcolumn⟩ := parseDatalog_record h hrecord
  simp only [recordFromColumn, Loop.bind_eq_ok, inDateRange_eq_ok, Loop.pure_eq_ok,
    Except.ok.injEq] at hcolumn
  obtain ⟨day, -, start, hstart, following, hfollowing, stop, hstop, rfl⟩ := hcolumn
  exact ⟨start, following, stop, hstart, hfollowing, hstop, rfl, rfl⟩

theorem covers_iff (h : parseDatalog zone retrievedAt sourcePath maxDays columns = .ok records)
    (hrecord : record ∈ records) {s : SampleRow} : zone.Covers record.controllerDay s ↔
      withinDay record.dayStartUtc record.dayEndUtc s = true := by
  obtain ⟨start, following, stop, hstart, hfollowing, hstop, hstartUtc, hendUtc⟩ :=
    record_bounds h hrecord
  rw [hstartUtc, hendUtc]
  constructor
  · intro hcovers
    obtain ⟨start', following', stop', hstart', hfollowing', hstop', hwithin⟩ := hcovers
    cases hstart.symm.trans hstart'
    cases hfollowing.symm.trans hfollowing'
    cases hstop.symm.trans hstop'
    exact hwithin
  · intro hwithin
    exact ⟨start, following, stop, hstart, hfollowing, hstop, hwithin⟩

/-- A sample is of one day. -/
theorem CalendarTimezone.InOrder.covers_inj (hzone : zone.InOrder) {day day' : CivilDay}
    {s : SampleRow} (h : zone.Covers day s) (h' : zone.Covers day' s) : day = day' := by
  have hnot : ∀ {day day' : CivilDay}, zone.Covers day s → zone.Covers day' s →
      ¬ day < day' := by
    intro day day' hcovers hcovers' hlt
    obtain ⟨_, following, stop, -, hfollowing, hstop, hwithin⟩ := hcovers
    obtain ⟨start', _, _, hstart', -, -, hwithin'⟩ := hcovers'
    have hle := hzone.dayStart_le (CivilDay.le_of_shift_one hfollowing hlt) hstop hstart'
    rw [withinDay, Bool.and_eq_true, decide_eq_true_eq, decide_eq_true_eq] at hwithin hwithin'
    have hbefore : s.observedAt < start'.isoformat :=
      lt_of_lt_of_le hwithin.2 (Timestamp.isoformat_le.mpr hle)
    exact absurd hwithin'.1 (not_le_of_gt hbefore)
  exact le_antisymm (not_lt.mp (hnot h' h)) (not_lt.mp (hnot h h'))

/-- Where the days of a page are counted right, each sample is counted once. -/
theorem countedOnce_of_counted (hzone : zone.InOrder)
    (h : parseDatalog zone retrievedAt sourcePath maxDays columns = .ok records)
    {rows : List DailyRow}
    (hrows : rows = storedRows deviceId (pageDays zone retrievedAt maxDays columns)
      (db.upsert deviceId records))
    (hcounted : ∀ r ∈ rows, r.liveSampleCount = (db.telemetry.samples.filter r.holds).length) :
    CountedOnce (pageDays zone retrievedAt maxDays columns) db.telemetry.samples rows := by
  have hrecord : ∀ r ∈ rows, ∃ record ∈ records,
      r = recordRow db.telemetry.samples deviceId records record :=
    fun r hr => mem_storedRows h (hrows ▸ hr)
  have hkeyed : Keyed DailyRow.key rows := by
    rw [hrows]
    exact (db.upsert deviceId records).daily_keyed.filter _
  have honce : ∀ s ∈ db.telemetry.samples, ∀ r ∈ rows, ∀ r' ∈ rows, r.holds s = true →
      r'.holds s = true → r = r' := by
    intro s _ r hr r' hr' hholds hholds'
    obtain ⟨record, hmem, rfl⟩ := hrecord r hr
    obtain ⟨record', hmem', rfl⟩ := hrecord r' hr'
    rw [DailyRow.holds, Bool.and_eq_true] at hholds hholds'
    have hday := hzone.covers_inj ((covers_iff h hmem).mpr hholds.2)
      ((covers_iff h hmem').mpr hholds'.2)
    exact hkeyed.eq hr hr' (Prod.ext rfl (congrArg CivilDay.isoformat hday))
  exact {
    stored := by
      intro day hday
      obtain ⟨record, hmem, rfl⟩ := (mem_pageDays h).mp hday
      rw [hrows]
      exact exists_storedRow h hmem
    ordered := by
      intro r hr
      obtain ⟨record, hmem, rfl⟩ := hrecord r hr
      obtain ⟨start, following, stop, hstart, hfollowing, hstop, hstartUtc, hendUtc⟩ :=
        record_bounds h hmem
      have hle : record.controllerDay ≤ following := by
        have hnext := CivilDay.toordinal_shift hfollowing
        rw [CivilDay.le_def]
        omega
      show record.dayStartUtc ≤ record.dayEndUtc
      rw [hstartUtc, hendUtc, Timestamp.isoformat_le]
      exact hzone.dayStart_le hle hstart hstop
    abut := by
      intro r hr r' hr' day following hfollowing hday hday'
      obtain ⟨record, hmem, rfl⟩ := hrecord r hr
      obtain ⟨record', hmem', rfl⟩ := hrecord r' hr'
      obtain ⟨_, next, stop, -, hnext, hstop, -, hendUtc⟩ := record_bounds h hmem
      obtain ⟨start', _, _, hstart', -, -, hstartUtc, -⟩ := record_bounds h hmem'
      cases CivilDay.isoformat_inj.mp hday
      cases CivilDay.isoformat_inj.mp hday'
      cases hfollowing.symm.trans hnext
      cases hstop.symm.trans hstart'
      show record.dayEndUtc = record'.dayStartUtc
      rw [hendUtc, hstartUtc]
    counted := hcounted
    once := honce
    total := by
      rw [← sum_length_filter DailyRow.holds (List.Nodup.of_map _ hkeyed) honce]
      exact congrArg List.sum (List.map_congr_left hcounted) }

/-- Days are counted right exactly when none with live samples is repeated. -/
theorem storedRows_counted_iff
    (h : parseDatalog zone retrievedAt sourcePath maxDays columns = .ok records) :
    (∀ r ∈ storedRows deviceId (pageDays zone retrievedAt maxDays columns)
      (db.upsert deviceId records),
      r.liveSampleCount = (db.telemetry.samples.filter r.holds).length) ↔
      RepeatsNoLiveDay zone retrievedAt maxDays columns deviceId db.telemetry.samples := by
  constructor
  · intro hcounted offset hrepeated day hday s hs hdevice hcovers
    have hoffset : offset ∈ keptOffsets maxDays columns :=
      List.count_pos_iff.mp (Nat.lt_of_succ_lt hrepeated)
    obtain ⟨record, hmem, rfl⟩ := List.mem_map.mp ((map_dayOffset_perm h).mem_iff.mpr hoffset)
    obtain ⟨r, hr, hrow⟩ := @exists_storedRow _ _ _ _ _ _ _ db deviceId h hmem
    have hcount := hcounted r hr
    obtain ⟨record', hmem', rfl⟩ := mem_storedRows h hr
    have hsame : record'.controllerDay = record.controllerDay := CivilDay.isoformat_inj.mp hrow
    have hshift := shift_dayOffset h hmem
    have hshift' := shift_dayOffset h hmem'
    rw [hsame] at hshift'
    have hrepeated' : record'.dayOffset = record.dayOffset := CivilDay.shift_inj hshift' hshift
    -- the sample is counted once for each of the columns
    have hpos : 0 < (db.telemetry.samples.filter
        (recordRow db.telemetry.samples deviceId records record').holds).length := by
      refine List.length_pos_iff_exists_mem.mpr ⟨s, List.mem_filter.mpr ⟨hs, ?_⟩⟩
      cases hshift.symm.trans hday
      rw [← hsame, covers_iff h hmem'] at hcovers
      rw [DailyRow.holds, Bool.and_eq_true, decide_eq_true_eq]
      exact ⟨hdevice, hcovers⟩
    have htimes := (liveSampleCount_eq h hmem' db.telemetry.samples deviceId).symm.trans hcount
    rw [hrepeated'] at htimes
    have hone := Nat.eq_of_mul_eq_mul_right hpos (htimes.trans (Nat.one_mul _).symm)
    omega
  · intro hnone r hr
    obtain ⟨record, hmem, rfl⟩ := mem_storedRows h hr
    have htimes := liveSampleCount_eq h hmem db.telemetry.samples deviceId
    have hoffset : 0 < (keptOffsets maxDays columns).count record.dayOffset :=
      List.count_pos_iff.mpr ((map_dayOffset_perm h).mem_iff.mp (List.mem_map_of_mem hmem))
    show liveSampleCount db.telemetry.samples deviceId records record.controllerDay = _
    rw [htimes]
    by_cases hrepeated : 1 < (keptOffsets maxDays columns).count record.dayOffset
    · have hempty : db.telemetry.samples.filter
          (recordRow db.telemetry.samples deviceId records record).holds = [] := by
        rw [List.filter_eq_nil_iff]
        intro s hs hholds
        rw [DailyRow.holds, Bool.and_eq_true, decide_eq_true_eq] at hholds
        exact hnone record.dayOffset hrepeated record.controllerDay (shift_dayOffset h hmem) s hs
          hholds.1 ((covers_iff h hmem).mpr hholds.2)
      rw [hempty, List.length_nil, Nat.mul_zero]
    · have hone : (keptOffsets maxDays columns).count record.dayOffset = 1 := by omega
      rw [hone, Nat.one_mul]

/-- After a synchronisation each live sample is counted once, in one of the days of its page,
exactly when no day with live samples is repeated on the page. -/
theorem counted_once_iff (hzone : zone.InOrder)
    (h : parseDatalog zone retrievedAt sourcePath maxDays columns = .ok records) (db : HistoryDb)
    (deviceId : String) (attemptedAt : Timestamp) (syncId : Nat) :
    CountedOnce (pageDays zone retrievedAt maxDays columns) db.telemetry.samples
        (storedRows deviceId (pageDays zone retrievedAt maxDays columns)
          (db.sync zone sourcePath maxDays deviceId attemptedAt retrievedAt syncId
            (.ok columns)).2) ↔
      RepeatsNoLiveDay zone retrievedAt maxDays columns deviceId db.telemetry.samples := by
  obtain ⟨row, hsync⟩ := sync_page h db deviceId attemptedAt syncId
  rw [hsync, ← storedRows_counted_iff h]
  exact ⟨CountedOnce.counted, countedOnce_of_counted hzone h rfl⟩

end Page

/-! ### two pages -/

theorem utc_inOrder : CalendarTimezone.utc.InOrder where
  dayStart_le := by
    intro day day' t t' hle ht ht'
    cases ht
    cases ht'
    refine not_lt.mp fun hlt => ?_
    rw [CivilDay.le_def] at hle
    rw [Timestamp.lt_iff_instant] at hlt
    simp only [Timestamp.instant, CivilDay.midnight, Timestamp.midnight, dayMicros] at hlt
    simp only [CivilDay.toordinal] at hle
    omega

/-- Live samples at two times in June. -/
def juneSamples : List SampleRow := [
  { id := 1, deviceId := "d", observedAt := "2024-06-01T12:00:00+00:00", latencyMs := 12
    profile := "tristar_mppt" },
  { id := 2, deviceId := "d", observedAt := "2024-06-02T01:00:00+00:00", latencyMs := 12
    profile := "tristar_mppt" }]

theorem juneSamples_keyed : Keyed SampleRow.id juneSamples := by decide

def juneStore : HistoryDb :=
  { emptyHistory with
    telemetry := {
      samples := juneSamples
      values := []
      samples_keyed := juneSamples_keyed
      values_keyed := keyed_noValues } }

/-- A page of the third of June, with the columns of some days. -/
def junePage (offsets : List Int) : List DatalogColumn :=
  offsets.map fun offset => { dayOffset := some offset }

/-- The days of a page that are not in order. -/
theorem counted_once_out_of_order : CountedOnce
    (pageDays .utc (june 3 6) 200 (junePage [-2, 0, -1])) juneStore.telemetry.samples
    (storedRows "d" (pageDays .utc (june 3 6) 200 (junePage [-2, 0, -1]))
      (juneStore.sync .utc "/datalog.html" 200 "d" (june 3 6) (june 3 6) 1
        (.ok (junePage [-2, 0, -1]))).2) := by
  have hok : (parseDatalog .utc (june 3 6) "/datalog.html" 200
      (junePage [-2, 0, -1])).toOption.isSome = true := by decide +kernel
  cases hparsed : parseDatalog .utc (june 3 6) "/datalog.html" 200 (junePage [-2, 0, -1]) with
  | error e => simp [hparsed, Except.toOption] at hok
  | ok records =>
      refine (counted_once_iff utc_inOrder hparsed juneStore "d" (june 3 6) 1).mpr ?_
      intro offset hrepeated
      have hnodup : (keptOffsets 200 (junePage [-2, 0, -1])).Nodup := by decide
      have hcount := List.nodup_iff_count_le_one.mp hnodup offset
      omega

/-- Two columns of the day before: its live sample is counted twice. -/
theorem repeated_day_counts_twice : ¬ CountedOnce
    (pageDays .utc (june 3 6) 200 (junePage [0, -1, -1])) juneStore.telemetry.samples
    (storedRows "d" (pageDays .utc (june 3 6) 200 (junePage [0, -1, -1]))
      (juneStore.sync .utc "/datalog.html" 200 "d" (june 3 6) (june 3 6) 1
        (.ok (junePage [0, -1, -1]))).2) := by
  intro h
  have htotal := h.total
  revert htotal
  decide +kernel

end MorningstarModbus
