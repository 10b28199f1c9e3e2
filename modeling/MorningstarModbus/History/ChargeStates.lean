import MorningstarModbus.History.Analytics
import MorningstarModbus.History.Merge
import MorningstarModbus.History.TimeRange
import MorningstarModbus.Systems.Observations

/-!
# MorningstarModbus.History.ChargeStates

The charge states of a controller over a window of days, as the charge-cycle summary and
the charge forecast read them: from a register history with a limit, oldest first.

* `windowRows` — every observation of the window;
* `registerHistory_charge` — what a limited history holds of them: the oldest.
-/

namespace MorningstarModbus

open Calendar Query Table

/-! ## reading a row -/

/-- `value.replace("Z", "+00:00")` -/
def zoned (value : String) : String :=
  String.ofList (value.toList.flatMap fun c => if c = 'Z' then "+00:00".toList else [c])

/-- `_parse_time` of `incidents.py` and of `forecasting/service.py`. -/
def PyTexts.parseUtc (texts : PyTexts) (value : String) : Option Timestamp :=
  if value = "" then none else (texts.fromisoformat (zoned value)).map IsoDatetime.time

/-- `str(value or "").strip().upper()` -/
def PyTexts.chargeState (texts : PyTexts) (upper : String → String) (value : CellValue) : String :=
  upper (Text.strip (match value with
    | .missing => ""
    | .number x => if x = 0 then "" else texts.str x
    | .text s => s))

/-- An observed state, with its time where that could be read. -/
structure ChargeState where
  state : String
  observed : Option Timestamp
  deriving DecidableEq

/-- What is read of a row; a row without a state is passed over. -/
def PyTexts.chargeState? (texts : PyTexts) (upper : String → String)
    (row : Sourced RegisterPoint) : Option ChargeState :=
  let state := texts.chargeState upper row.row.value
  if state = "" then none
  else some { state, observed := texts.parseUtc row.row.observedAt }

/-- The states of some rows. -/
def PyTexts.chargeStates (texts : PyTexts) (upper : String → String)
    (rows : List (Sourced RegisterPoint)) : List ChargeState :=
  rows.filterMap (texts.chargeState? upper)

/-- Rows are read one by one. -/
theorem chargeStates_append (texts : PyTexts) (upper : String → String)
    (rows rows' : List (Sourced RegisterPoint)) :
    texts.chargeStates upper (rows ++ rows') =
      texts.chargeStates upper rows ++ texts.chargeStates upper rows' := by
  rw [PyTexts.chargeStates, PyTexts.chargeStates, PyTexts.chargeStates, List.filterMap_append]

/-! ## the window -/

/-- `now - timedelta(days=days)` -/
def daysBefore (now : Timestamp) (days : Int) : Except PyException Timestamp :=
  match now.date.shift (-days) with
  | none => .error ⟨"OverflowError", "date value out of range"⟩
  | some date => .ok { now with day := date.day, year_le := date.year_le }

/-- The days before a time. -/
def windowOf (now : Timestamp) (days : Int) : Except PyException TimeInterval := do
  let start ← daysBefore now days
  return { start := some start, stop := some now }

/-- Every observation of a controller's charge state in a window, oldest first. -/
def windowRows (scope : ControllerScope) (window : TimeInterval) (db : TelemetryDb) :
    List (Sourced RegisterPoint) :=
  (selectHistory scope.contains ["charge_state"] window.texts .asc none db).map
    fun j => j.sourced.map HistoryRow.point

/-- A limited history holds the oldest observations. -/
theorem registerHistory_charge {env : Env} {identifier : String} {registry synced : Db}
    {scope : ControllerScope} (hlower : env.lower "asc" = "asc")
    (hscope : ControllerDataRepository.scope env identifier registry = .ok (synced, scope))
    (limit : Int) (window : TimeInterval) (db : TelemetryDb) :
    ControllerDataRepository.registerHistory env identifier "charge_state" limit window.texts "asc"
      db registry =
        .ok (synced, (windowRows scope window db).take (clampLimit 10000 limit)) := by
  have horder : orderSql env "asc" = .asc := if_pos hlower
  rw [ControllerDataRepository.registerHistory, ControllerDataRepository.query_of_scope hscope,
    ControllerDataRepository.rawHistoryRows, windowRows, horder, List.map_map]
  have hnonneg : ¬ ((clampLimit 10000 limit : Int) < 0) := by omega
  simp [selectHistory, limitRows, hnonneg, List.map_take, Except.map, Function.comp_def]

/-! ## polls of one device -/

/-- A poll, by its number, and the state it read. -/
def statePoll (p : (Timestamp × String) × Nat) : SampleRow where
  id := p.2
  deviceId := "tcp"
  observedAt := utcnow p.1.1
  latencyMs := 5
  profile := "tristar_mppt"

def stateValue (p : (Timestamp × String) × Nat) : RegisterValue where
  sampleId := p.2
  registerName := "charge_state"
  address := 50
  function := "holding"
  rawJson := "[5]"
  numericValue := none
  textValue := some p.1.2
  unit := none

/-- Rows made of numbered polls are keyed by their numbers. -/
theorem keyed_polls {β : Type} {κ : Type} {key : β → κ} {f : (Timestamp × String) × Nat → β}
    (hkey : ∀ p q, key (f p) = key (f q) → p.2 = q.2) (polls : List (Timestamp × String)) :
    Keyed key (polls.zipIdx.map f) := by
  have hnodup : (polls.zipIdx.map Prod.snd).Nodup := by
    rw [List.zipIdx_map_snd]
    exact List.nodup_range'
  rw [Keyed, List.map_map]
  exact List.Nodup.map_on (fun p hp q hq h => List.inj_on_of_nodup_map hnodup hp hq (hkey p q h))
    (List.Nodup.of_map _ hnodup)

/-- The samples of the store have ids of their own. -/
theorem statePoll_keyed (polls : List (Timestamp × String)) :
    Keyed SampleRow.id (polls.zipIdx.map statePoll) :=
  @keyed_polls _ _ SampleRow.id statePoll (fun _ _ h => h) polls

/-- And so have their values. -/
theorem stateValue_keyed (polls : List (Timestamp × String)) :
    Keyed RegisterValue.key (polls.zipIdx.map stateValue) :=
  @keyed_polls _ _ RegisterValue.key stateValue (fun _ _ h => (Prod.mk.inj h).1) polls

/-- A store of polls of one device. -/
def stateStore (polls : List (Timestamp × String)) : TelemetryDb where
  samples := polls.zipIdx.map statePoll
  values := polls.zipIdx.map stateValue
  samples_keyed := statePoll_keyed polls
  values_keyed := stateValue_keyed polls

/-- A row of such a history. -/
def statePoint (p : Timestamp × String) : Sourced RegisterPoint where
  sourceDeviceId := "tcp"
  row :=
    { observedAt := utcnow p.1, address := 50, function := "holding", unit := none, raw := "[5]"
      value := .text p.2 }

/-- The observation of a poll. -/
def stateJoined (p : (Timestamp × String) × Nat) : Joined where
  sample := statePoll p
  value := stateValue p

/-- Joined, they are the polls in their order. -/
theorem joined_stateStore (polls : List (Timestamp × String)) :
    (stateStore polls).joined = polls.zipIdx.map stateJoined := by
  have hvalue : ∀ p ∈ polls.zipIdx,
      (lookup SampleRow.id (stateValue p).sampleId (stateStore polls).samples).map
        (fun sample => ({ sample, value := stateValue p } : Joined)) = some (stateJoined p) := by
    intro p hp
    have hlookup : lookup SampleRow.id p.2 (polls.zipIdx.map statePoll) = some (statePoll p) :=
      lookup_of_mem (statePoll_keyed polls) (List.mem_map_of_mem hp)
    exact congrArg (Option.map _) hlookup
  calc (stateStore polls).joined
      = polls.zipIdx.filterMap fun p =>
          (lookup SampleRow.id (stateValue p).sampleId (stateStore polls).samples).map
            fun sample => ({ sample, value := stateValue p } : Joined) := List.filterMap_map
    _ = polls.zipIdx.filterMap fun p => some (stateJoined p) := List.filterMap_congr hvalue
    _ = polls.zipIdx.map stateJoined := by rw [← List.filterMap_eq_map]; rfl

/-- The window of such a store. -/
theorem windowRows_stateStore {scope : ControllerScope} (hscope : scope.contains "tcp" = true)
    {polls : List (Timestamp × String)} (hsorted : polls.Pairwise fun p q => p.1 ≤ q.1)
    {window : TimeInterval} (hwindow : ∀ p ∈ polls, window.contains p.1 = true) :
    windowRows scope window (stateStore polls) = polls.map statePoint := by
  have hhistory : (stateStore polls).history scope.contains ["charge_state"] window.texts =
      polls.zipIdx.map stateJoined := by
    rw [TelemetryDb.history, joined_stateStore, List.filter_eq_self]
    intro j hj
    obtain ⟨p, hp, rfl⟩ := List.mem_map.mp hj
    have hcontains : window.texts.contains (utcnow p.1.1) = true := by
      rw [utcnow, texts_contains]
      exact hwindow p.1 (List.fst_mem_of_mem_zipIdx hp)
    simp [historyFilter, sampleFilter, stateJoined, statePoll, stateValue, hscope, hcontains]
  have hordered : (polls.zipIdx.map stateJoined).Pairwise (Ordered Joined.key .asc) := by
    have htimes : polls.zipIdx.Pairwise fun p q => p.1.1 ≤ q.1.1 := by
      rw [← List.zipIdx_map_fst 0 polls, List.pairwise_map] at hsorted
      exact hsorted
    have hids : polls.zipIdx.Pairwise fun p q => p.2 < q.2 := by
      have hrange : (List.range' 0 polls.length).Pairwise (· < ·) := List.pairwise_lt_range'
      rw [← List.zipIdx_map_snd 0 polls, List.pairwise_map] at hrange
      exact hrange
    refine List.pairwise_map.mpr ((htimes.and hids).imp ?_)
    intro p q hpq
    show (stateJoined p).key ≤ (stateJoined q).key
    rw [Joined.key, Joined.key, Prod.Lex.toLex_le_toLex, Prod.Lex.toLex_le_toLex]
    cases lt_or_eq_of_le hpq.1 with
    | inl hlt => exact .inl (Timestamp.isoformat_lt.mpr hlt)
    | inr heq => exact .inr ⟨congrArg utcnow heq, .inl hpq.2⟩
  have hkeyed := (stateStore polls).history_keyed scope.contains ["charge_state"] window.texts
  rw [hhistory] at hkeyed
  rw [windowRows, selectHistory, limitRows_none, hhistory,
    ← eq_orderBy hkeyed (List.Perm.refl _) hordered, List.map_map]
  conv_rhs => rw [← List.zipIdx_map_fst 0 polls, List.map_map]
  rfl

/-- The scope of the controller of these examples. -/
theorem movedController_scope :
    ControllerDataRepository.scope plainEnv "ctrl" movedController =
      .ok (movedController, movedScope) := by
  decide

/-- `datetime.fromisoformat` on the texts of some times. -/
def PyTexts.ofTimes (times : List Timestamp) : PyTexts where
  str _ := "0.0"
  fromisoformat text := (times.find? fun t => utcnow t = text).map fun t => ⟨t, true⟩

/-- Without a `Z` there is nothing to replace. -/
theorem zoned_ofList {cs : List Char} (h : 'Z' ∉ cs) :
    zoned (String.ofList cs) = String.ofList cs := by
  have hchars : ∀ c ∈ cs, (if c = 'Z' then "+00:00".toList else [c]) = [c] := by
    intro c hc
    rw [if_neg]
    rintro rfl
    exact h hc
  have hflat : (cs.flatMap fun c => if c = 'Z' then "+00:00".toList else [c]) = cs :=
    (List.flatMap_congr hchars).trans (List.flatMap_singleton' cs)
  have htext : (String.ofList cs).toList = cs := String.toList_ofList
  rw [zoned, htext, hflat]

/-- A stored text has no `Z`. -/
theorem zoned_utcnow (t : Timestamp) : zoned (utcnow t) = utcnow t :=
  zoned_ofList fun hZ => absurd (Timestamp.mem_isoChars hZ) (by decide)

/-- It reads the texts of these times. -/
theorem parseUtc_ofTimes {times : List Timestamp} {t : Timestamp} (ht : t ∈ times) :
    (PyTexts.ofTimes times).parseUtc (utcnow t) = some t := by
  have hne : utcnow t ≠ "" := by
    intro hempty
    have hlength := congrArg (fun s => s.toList.length) hempty
    simp [utcnow, Timestamp.isoformat, Timestamp.isoChars] at hlength
  have hfind : (times.find? fun u => utcnow u = utcnow t) = some t := by
    cases hf : times.find? fun u => utcnow u = utcnow t with
    | none =>
        rw [List.find?_eq_none] at hf
        exact absurd (decide_eq_true rfl) (hf t ht)
    | some u =>
        have hu : utcnow u = utcnow t := by simpa using List.find?_some hf
        rw [Timestamp.isoformat_strictMono.injective hu]
  rw [PyTexts.parseUtc, if_neg hne, zoned_utcnow]
  exact congrArg (fun found => (found.map fun u => (⟨u, true⟩ : IsoDatetime)).map
    IsoDatetime.time) hfind

/-- Upper case of ASCII letters. -/
def plainUpper (s : String) : String := String.ofList (s.toList.map Char.toUpper)

/-- The window of some days of July. -/
def julyWindow (first last : Fin 31) : TimeInterval where
  start := some (july first 0)
  stop := some (july last 0)

/-- A window of days has every second of its days. -/
theorem julyWindow_contains {first last day : Fin 31} (hfirst : first ≤ day) (hlast : day < last)
    (second : Nat) : (julyWindow first last).contains (july day second) = true := by
  refine contains_between ?_ ?_
  · rw [july_instant, july_instant]
    omega
  · rw [july_instant, july_instant]
    omega

/-- The states of a store whose texts are upper case already. -/
theorem chargeStates_polls (texts : PyTexts) {upper : String → String}
    {polls : List (Timestamp × String)}
    (hupper : ∀ p ∈ polls, upper (Text.strip p.2) = p.2 ∧ p.2 ≠ "") :
    texts.chargeStates upper (polls.map statePoint) =
      polls.map fun p => { state := p.2, observed := texts.parseUtc (utcnow p.1) } := by
  rw [PyTexts.chargeStates, List.filterMap_map, ← List.filterMap_eq_map]
  refine List.filterMap_congr fun p hp => ?_
  obtain ⟨hstate, hne⟩ := hupper p hp
  simp [PyTexts.chargeState?, PyTexts.chargeState, statePoint, hstate, hne]

/-- Polls of one day in one state, every `step` seconds. -/
def pollsOn (day : Fin 31) (first step n : Nat) (state : String) : List (Timestamp × String) :=
  (List.range n).map fun i => (july day (first + step * i), state)

section PollsOn

variable {day day' : Fin 31} {first step n first' step' n' : Nat} {state state' : String}

/-- Polls of a day come at a fixed step. -/
theorem mem_pollsOn {p : Timestamp × String} (hp : p ∈ pollsOn day first step n state) :
    ∃ i < n, p = (july day (first + step * i), state) := by
  obtain ⟨i, hi, rfl⟩ := List.mem_map.mp hp
  exact ⟨i, List.mem_range.mp hi, rfl⟩

/-- They come in order. -/
theorem pollsOn_pairwise (h : first + step * n < 86400) :
    (pollsOn day first step n state).Pairwise fun p q => p.1 ≤ q.1 := by
  refine List.pairwise_map.mpr (List.pairwise_lt_range.imp_of_mem fun {i j} _ hj hij => ?_)
  have hi : step * i + step ≤ step * j := Nat.mul_le_mul_left step hij
  have hj : step * j + step ≤ step * n := Nat.mul_le_mul_left step (List.mem_range.mp hj)
  rw [← not_lt, Timestamp.lt_iff_instant, july_instant, july_instant]
  omega

/-- The window of two such series, one after the other. -/
theorem windowRows_pollsOn {scope : ControllerScope} (hscope : scope.contains "tcp" = true)
    (h : first + step * n < 86400) (h' : first' + step' * n' < 86400)
    (hday : day < day' ∨ day = day' ∧ first + step * n ≤ first') {start stop : Fin 31}
    (hstart : start ≤ day) (hstop : day' < stop) :
    windowRows scope (julyWindow start stop)
        (stateStore (pollsOn day first step n state ++ pollsOn day' first' step' n' state')) =
      (pollsOn day first step n state).map statePoint ++
        (pollsOn day' first' step' n' state').map statePoint := by
  have hsorted : (pollsOn day first step n state ++ pollsOn day' first' step' n' state').Pairwise
      fun p q => p.1 ≤ q.1 := by
    rw [List.pairwise_append]
    refine ⟨pollsOn_pairwise h, pollsOn_pairwise h', fun p hp q hq => ?_⟩
    obtain ⟨i, hi, rfl⟩ := mem_pollsOn hp
    obtain ⟨j, hj, rfl⟩ := mem_pollsOn hq
    have hi : step * i + step ≤ step * n := Nat.mul_le_mul_left step hi
    have hj : step' * j + step' ≤ step' * n' := Nat.mul_le_mul_left step' hj
    rw [← not_lt, Timestamp.lt_iff_instant, july_instant, july_instant]
    omega
  have hle : day ≤ day' := by omega
  have hwindow : ∀ p ∈ pollsOn day first step n state ++ pollsOn day' first' step' n' state',
      (julyWindow start stop).contains p.1 = true := by
    intro p hp
    cases List.mem_append.mp hp with
    | inl hearlier =>
        obtain ⟨i, -, rfl⟩ := mem_pollsOn hearlier
        exact julyWindow_contains hstart (lt_of_le_of_lt hle hstop) _
    | inr hlater =>
        obtain ⟨i, -, rfl⟩ := mem_pollsOn hlater
        exact julyWindow_contains (hstart.trans hle) hstop _
  rw [windowRows_stateStore hscope hsorted hwindow, List.map_append]

/-- The states of such a series. -/
theorem chargeStates_pollsOn (texts : PyTexts) {upper : String → String}
    (hstate : upper (Text.strip state) = state ∧ state ≠ "") :
    texts.chargeStates upper ((pollsOn day first step n state).map statePoint) =
      (pollsOn day first step n state).map fun p =>
        { state, observed := texts.parseUtc (utcnow p.1) } := by
  have hupper : ∀ p ∈ pollsOn day first step n state, upper (Text.strip p.2) = p.2 ∧ p.2 ≠ "" := by
    intro p hp
    obtain ⟨i, -, rfl⟩ := mem_pollsOn hp
    exact hstate
  rw [chargeStates_polls texts hupper]
  refine List.map_congr_left fun p hp => ?_
  obtain ⟨i, -, rfl⟩ := mem_pollsOn hp
  rfl

@[simp] theorem length_pollsOn : (pollsOn day first step n state).length = n := by
  rw [pollsOn, List.length_map, List.length_range]

end PollsOn

end MorningstarModbus
