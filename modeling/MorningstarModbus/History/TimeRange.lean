import MorningstarModbus.Lib.Timestamp
import MorningstarModbus.Persistence.Store

/-!
# MorningstarModbus.History.TimeRange

The texts of times: what the program stores (`utcnow`), and the ranges its
queries take (`normalize_time_range` in `history/query.py`, the day boundaries
of `history/analytics.py`).

`datetime.fromisoformat` is a parameter: `none` where it raises, `some none`
where the time has no zone, else the time in UTC.

* `text_order_is_time_order` — over stored times, filters, orders and extrema
  of the texts are those of the times.
-/

namespace MorningstarModbus

open Calendar Query

/-- `utcnow` -/
def utcnow (now : Timestamp) : String := now.isoformat

/-! ## ranges -/

structure HistoryQueryError where
  message : String
  deriving DecidableEq

/-- `_parse_timestamp` -/
def parseTimestamp (fromisoformat : String → Option (Option Timestamp)) (field value : String) :
    Except HistoryQueryError Timestamp :=
  let candidate := Text.strip value
  let candidate :=
    if candidate.toList.getLast? = some 'Z' then
      String.ofList candidate.toList.dropLast ++ "+00:00"
    else candidate
  match fromisoformat candidate with
  | none => .error ⟨field ++ " must be an RFC 3339 / ISO-8601 timestamp"⟩
  | some none => .error ⟨field ++ " must include a timezone"⟩
  | some (some t) => .ok t

/-- The bound of a range, where one is given. -/
def parseBound (fromisoformat : String → Option (Option Timestamp)) (field : String)
    (value : Option String) : Except HistoryQueryError (Option Timestamp) :=
  match value.filter (· ≠ "") with
  | none => .ok none
  | some value => (parseTimestamp fromisoformat field value).map some

/-- A range of times. -/
structure TimeInterval where
  start : Option Timestamp := none
  stop : Option Timestamp := none

def TimeInterval.contains (i : TimeInterval) (t : Timestamp) : Bool :=
  i.start.all (fun start => start ≤ t) && i.stop.all fun stop => t < stop

/-- The range as a statement takes it. -/
def TimeInterval.texts (i : TimeInterval) : TimeRange where
  start := i.start.map Timestamp.isoformat
  stop := i.stop.map Timestamp.isoformat

/-- `normalize_time_range` -/
def normalizeTimeRange (fromisoformat : String → Option (Option Timestamp))
    (start stop : Option String) : Except HistoryQueryError TimeRange := do
  let start ← parseBound fromisoformat "from" start
  let stop ← parseBound fromisoformat "to" stop
  if start.any fun start => stop.any fun stop => stop ≤ start then
    .error ⟨"from must be earlier than to"⟩
  else
    return { start := start.map Timestamp.isoformat, stop := stop.map Timestamp.isoformat }

/-- The boundary of a day. -/
def dayBoundary (day : Day) : String := day.isoformat ++ "T00:00:00+00:00"

/-- A range that is accepted is written as timestamps are. -/
theorem normalizeTimeRange_texts {fromisoformat : String → Option (Option Timestamp)}
    {start stop : Option String} {range : TimeRange}
    (h : normalizeTimeRange fromisoformat start stop = .ok range) :
    ∃ i : TimeInterval, range = i.texts := by
  simp only [normalizeTimeRange, Loop.bind_eq_ok] at h
  obtain ⟨first, -, last, -, h⟩ := h
  split at h
  · cases h
  · exact ⟨⟨first, last⟩, (Except.ok.inj h).symm⟩

theorem dayBoundary_eq (day : Day) (h : day.date.year ≤ 9999) :
    dayBoundary day = (Timestamp.midnight day h).isoformat :=
  (Timestamp.isoformat_midnight day h).symm

/-- Comparing the texts is comparing the times. -/
theorem texts_contains (i : TimeInterval) (t : Timestamp) :
    i.texts.contains t.isoformat = i.contains t := by
  have hstart : ∀ start : Timestamp, decide (start.isoformat ≤ t.isoformat) = decide (start ≤ t) :=
    fun start => decide_eq_decide.mpr Timestamp.isoformat_le
  have hstop : ∀ stop : Timestamp, decide (t.isoformat < stop.isoformat) = decide (t < stop) :=
    fun stop => decide_eq_decide.mpr Timestamp.isoformat_lt
  simp only [TimeInterval.texts, TimeRange.contains, TimeInterval.contains, Option.all_map,
    hstart, hstop]

/-- The start is in a range and the stop is not. -/
theorem contains_between {start stop t : Timestamp} (hstart : start.instant ≤ t.instant)
    (hstop : t.instant < stop.instant) :
    ({ start := some start, stop := some stop } : TimeInterval).contains t = true := by
  rw [TimeInterval.contains, Option.all_some, Option.all_some, Bool.and_eq_true, decide_eq_true_eq,
    decide_eq_true_eq]
  exact ⟨hstart, hstop⟩

/-! ## tables -/

/-- The rows of a table can be selected and ordered by the texts of their times as
by the times. -/
structure OrderedAsTimes {ρ : Type} (rows : List ρ) (text : ρ → String) (time : ρ → Timestamp) :
    Prop where
  filter : ∀ i : TimeInterval,
    (rows.filter fun r => i.texts.contains (text r)) = rows.filter fun r => i.contains (time r)
  orderBy : ∀ d, orderBy text d rows = orderBy time d rows
  orderByThen : ∀ {κ : Type} [LinearOrder κ] (key : ρ → κ) d,
    Query.orderBy (fun r => toLex (text r, key r)) d rows =
      Query.orderBy (fun r => toLex (time r, key r)) d rows
  min : (rows.map text).min? = (rows.map time).min?.map Timestamp.isoformat
  max : (rows.map text).max? = (rows.map time).max?.map Timestamp.isoformat

section Tables

variable {ρ : Type} {rows : List ρ} {text : ρ → String} {time : ρ → Timestamp}

/-- Ordering by text and id is ordering by time and id. -/
theorem toLex_le_iff {κ : Type} [LinearOrder κ] {t u : Timestamp} {k l : κ} :
    toLex (t.isoformat, k) ≤ toLex (u.isoformat, l) ↔ toLex (t, k) ≤ toLex (u, l) := by
  simp only [Prod.Lex.le_iff, ofLex_toLex, Timestamp.isoformat_lt,
    Timestamp.isoformat_strictMono.injective.eq_iff]

/-- Rows compare alike under two keys. -/
theorem orderBy_congr {κ κ' : Type} [LinearOrder κ] [LinearOrder κ'] {key : ρ → κ} {key' : ρ → κ'}
    (h : ∀ r ∈ rows, ∀ s ∈ rows, key r ≤ key s ↔ key' r ≤ key' s) (d : Direction) :
    Query.orderBy key d rows = Query.orderBy key' d rows := by
  have hmap := List.map_insertionSort (Ordered key d) (Ordered key' d) id rows ?_
  · simpa [Query.orderBy] using hmap
  · intro r hr s hs
    cases d with
    | asc => exact h r hr s hs
    | desc => exact h s hs r hr

/-- A fold over texts is the text of the fold over times. -/
theorem foldl_isoformat {f : Timestamp → Timestamp → Timestamp} {g : String → String → String}
    (h : ∀ t u : Timestamp, g t.isoformat u.isoformat = (f t u).isoformat) (t : Timestamp)
    (ts : List Timestamp) :
    (ts.map Timestamp.isoformat).foldl g t.isoformat = (ts.foldl f t).isoformat := by
  induction ts generalizing t with
  | nil => rfl
  | cons u ts ih => rw [List.map_cons, List.foldl_cons, List.foldl_cons, h, ih]

/-- The least text is that of the earliest time. -/
theorem min?_isoformat (ts : List Timestamp) :
    (ts.map Timestamp.isoformat).min? = ts.min?.map Timestamp.isoformat := by
  cases ts with
  | nil => rfl
  | cons t ts =>
      rw [List.map_cons, List.min?_cons', List.min?_cons', Option.map_some, foldl_isoformat]
      exact fun t u => Timestamp.isoformat_strictMono.monotone.map_min.symm

/-- The greatest is that of the latest. -/
theorem max?_isoformat (ts : List Timestamp) :
    (ts.map Timestamp.isoformat).max? = ts.max?.map Timestamp.isoformat := by
  cases ts with
  | nil => rfl
  | cons t ts =>
      rw [List.map_cons, List.max?_cons', List.max?_cons', Option.map_some, foldl_isoformat]
      exact fun t u => Timestamp.isoformat_strictMono.monotone.map_max.symm

/-- Rows whose texts are written times are filtered and ordered as their times. -/
theorem orderedAsTimes (h : ∀ r ∈ rows, text r = (time r).isoformat) :
    OrderedAsTimes rows text time where
  filter i := by
    refine List.filter_congr fun r hr => ?_
    rw [h r hr, texts_contains]
  orderBy d := orderBy_congr (fun r hr s hs => by rw [h r hr, h s hs, Timestamp.isoformat_le]) d
  orderByThen key d :=
    orderBy_congr (fun r hr s hs => by rw [h r hr, h s hs, toLex_le_iff]) d
  min := by
    rw [← min?_isoformat, List.map_map]
    exact congrArg List.min? (List.map_congr_left h)
  max := by
    rw [← max?_isoformat, List.map_map]
    exact congrArg List.max? (List.map_congr_left h)

/-- The texts the program stores and asks with are texts of times, which compare as
the times; so do the rows of any table that holds such texts. -/
theorem text_order_is_time_order :
    (∀ t u : Timestamp, (utcnow t < utcnow u ↔ t < u) ∧ (utcnow t ≤ utcnow u ↔ t ≤ u)) ∧
      (∀ fromisoformat start stop range,
        normalizeTimeRange fromisoformat start stop = .ok range →
          ∃ i : TimeInterval, range = i.texts) ∧
      (∀ (day : Day) (h : day.date.year ≤ 9999),
        dayBoundary day = (Timestamp.midnight day h).isoformat) ∧
      ∀ {ρ : Type} (rows : List ρ) (text : ρ → String) (time : ρ → Timestamp),
        (∀ r ∈ rows, text r = utcnow (time r)) → OrderedAsTimes rows text time :=
  ⟨fun _ _ => ⟨Timestamp.isoformat_lt, Timestamp.isoformat_le⟩,
    fun _ _ _ _ h => normalizeTimeRange_texts h, dayBoundary_eq,
    fun _ _ _ h => orderedAsTimes h⟩

/-- A time with a fraction and one without. -/
theorem text_order_is_time_order_mixed :
    OrderedAsTimes
      [("2026-01-01T00:00:01.500000+00:00",
          (⟨⟨⟨2026, 1, 1⟩, by decide⟩, 1500000, by decide, by decide⟩ : Timestamp)),
        ("2026-01-01T00:00:01+00:00", ⟨⟨⟨2026, 1, 1⟩, by decide⟩, 1000000, by decide, by decide⟩)]
      Prod.fst Prod.snd :=
  text_order_is_time_order.2.2.2 _ _ _ (by decide)

end Tables

/-! ## the samples -/

/-! ## the times of a month -/

theorem july_valid (day : Fin 31) : (⟨2026, 7, day + 1⟩ : Date).Valid :=
  ⟨by simp, by simp, by simp, by simp, Nat.succ_le_of_lt day.isLt⟩

theorem second_lt (second : Nat) : second % 86400 * 1000000 < dayMicros := by
  rw [dayMicros]
  omega

theorem year_2026_le : 2026 ≤ 9999 := by decide

instance neZero_july : NeZero 31 := ⟨by decide⟩

/-- A second of a day in July 2026, counted from its first day. -/
def july (day : Fin 31) (second : Nat) : Timestamp where
  day := ⟨⟨2026, 7, day + 1⟩, july_valid day⟩
  micros := second % 86400 * 1000000
  year_le := year_2026_le
  micros_lt := second_lt second

/-- The instants of the days of a month. -/
theorem july_instant (day : Fin 31) (second : Nat) :
    (july day second).instant = (739798 + day) * 86400000000 + second % 86400 * 1000000 := by
  have hbefore : daysBeforeYear 2026 + daysBeforeMonth 2026 7 = 739797 := by decide
  have hday : (july day second).day.toordinal =
      daysBeforeYear 2026 + daysBeforeMonth 2026 7 + (day + 1) := rfl
  have hmicros : (july day second).micros = second % 86400 * 1000000 := rfl
  rw [Timestamp.instant, hday, hmicros, hbefore, dayMicros]
  omega

end MorningstarModbus
