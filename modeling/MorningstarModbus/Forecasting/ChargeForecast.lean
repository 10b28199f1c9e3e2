import MorningstarModbus.History.ChargeStates
import MorningstarModbus.Lib.Group
import MorningstarModbus.Systems.Latest

/-!
# MorningstarModbus.Forecasting.ChargeForecast

The charge forecast of a controller (`controller_charge_forecast` of
`forecasting/service.py`), trained on at most 10000 observations.

* `foldl_train` — the loop over the days computes the training days and the times of their
  first float;
* `forecast_trained_iff` — the forecast is that of its whole window exactly when every
  training day has three observations, and one in float if it has any, among the first
  10000.
-/

namespace MorningstarModbus

open Calendar Query Table

/-! ## one controller -/

/-- `ControllerRegistry.get_controller` -/
def ControllerDataRepository.controller (env : Env) (clock : Nat) (identifier : String)
    (registry : Db) : Except ControllerDataError (Db × Option ControllerRecord) := do
  let (registry, scope) ← (resolve env identifier registry).mapError ControllerDataError.registry
  match scope with
  | none => return (registry, none)
  | some scope =>
      let registry := initializeInventory env clock registry
      let record := registry.identities.find? fun ci =>
        ci.controllerId = scope.controllerId ∧
          registry.devices.any fun d => d.id = ci.canonicalDeviceId
      return (registry, record.map fun ci => { scope, profile := ci.profile })

/-! ## the forecast -/

/-- The fields of `ForecastPolicy` that are read here. -/
structure ForecastPolicy where
  historyDays : Int := 28
  minimumTrainingDays : Int := 5

/-- `value.hour * 60 + value.minute` -/
def minuteOfDay (t : Timestamp) : Nat := t.micros / 60000000

/-- `_at_minute` -/
def atMinute (day : Timestamp) (minute : Nat) : Except PyException Timestamp :=
  if h : minute * 60000000 < dayMicros then
    .ok { day with micros := minute * 60000000, micros_lt := h }
  else .error ⟨"ValueError", "hour must be in 0..23"⟩

/-- `_confidence`, without a coverage. -/
def forecastConfidence (days : Nat) : String :=
  if 14 ≤ days then "high" else if 7 ≤ days then "medium" else "low"

/-- The variables of the loop over the days. -/
structure Training where
  observedDays : Nat := 0
  floatDays : Nat := 0
  firstFloatMinutes : List ℚ := []

/-- A turn of the loop. -/
def Training.turn (today : Day) (acc : Training) (g : Day × List (Timestamp × String)) :
    Training :=
  if g.1 = today ∨ g.2.length < 3 then acc
  else
    match g.2.find? fun s => s.2 = "FLOAT" with
    | none => { acc with observedDays := acc.observedDays + 1 }
    | some first =>
        { observedDays := acc.observedDays + 1
          floatDays := acc.floatDays + 1
          firstFloatMinutes := acc.firstFloatMinutes ++ [(minuteOfDay first.1 : ℚ)] }

/-- The loop over `states_by_day`. -/
def train (today : Day) (states : List (Timestamp × String)) : Training :=
  (groups (fun s : Timestamp × String => s.1.day) states).foldl (Training.turn today) {}

/-- `int(x)` -/
def intOf (x : ℚ) : Int := x.num.tdiv x.den

/-- `expected_float_at`, before it is known that there are enough days. -/
def expectedFloat (now : Timestamp) (minutes : List ℚ) : Except PyException (Option String) :=
  match SystemDataRepository.median minutes with
  | none => .ok none
  | some minute => (atMinute now (intOf minute).toNat).map fun t => some t.isoformat

structure ChargeForecast where
  controllerUid : String
  status : String
  generatedAt : String
  currentState : Option String
  floatProbability : Option ℚ
  historicalFloatProbability : Option ℚ
  expectedFloatAt : Option String
  trainingDays : Nat
  floatDays : Nat
  confidence : String
  model : String
  provenance : String
  deriving DecidableEq

section Forecast

variable (texts : PyTexts) (upper : String → String)

/-- The observed states with a time; a row without either is passed over. -/
def timedStates (rows : List (Sourced RegisterPoint)) : List (Timestamp × String) :=
  (texts.chargeStates upper rows).filterMap fun s => s.observed.map fun t => (t, s.state)

/-- The state in the latest sample. -/
def currentState (sample : LatestSample) : Option String :=
  (sample.values.find? fun v => v.registerName = "charge_state").bind fun v =>
    let state := texts.chargeState upper (normalizedValue v).1
    if state = "" then none else some state

/-- What is returned of what has been read. -/
def forecastOf (policy : ForecastPolicy) (controllerUid : String) (now : Timestamp)
    (rows : List (Sourced RegisterPoint)) (latest : Option LatestSample) :
    Except PyException ChargeForecast := do
  let training := train now.day (timedStates texts upper rows)
  let current := latest.bind (currentState texts upper)
  let historical : Option ℚ :=
    if training.observedDays = 0 then none
    else some (training.floatDays / training.observedDays)
  let probability := if current = some "FLOAT" then some 1 else historical
  let expected ← expectedFloat now training.firstFloatMinutes
  let ready : Bool := policy.minimumTrainingDays ≤ training.observedDays
  return {
    controllerUid
    status := if ready then "ready" else "insufficient_evidence"
    generatedAt := now.isoformat
    currentState := current
    floatProbability := if ready ∨ current = some "FLOAT" then probability else none
    historicalFloatProbability := historical
    expectedFloatAt := if ready then expected else none
    trainingDays := training.observedDays
    floatDays := training.floatDays
    confidence := if ready then forecastConfidence training.observedDays else "low"
    model := "historical-charge-cycle-frequency-v1"
    provenance :=
      "controller-scoped source-backed charge_state history; no controller mutation" }

/-- `controller_charge_forecast` -/
def controllerChargeForecast (policy : ForecastPolicy) (env : Env) (clock : Nat)
    (controllerUid : String) (now : Timestamp) (db : TelemetryDb) (registry : Db) :
    Except AnalyticsError (Db × ChargeForecast) := do
  let (registry, controller) ←
    (ControllerDataRepository.controller env clock controllerUid registry).mapError
      AnalyticsError.data
  match controller with
  | none => throw (.data (.notFound controllerUid))
  | some _ =>
      let window ← (windowOf now policy.historyDays).mapError AnalyticsError.raised
      let (registry, rows) ← (ControllerDataRepository.registerHistory env controllerUid
        "charge_state" 10000 window.texts "asc" db registry).mapError AnalyticsError.data
      let (registry, latest) ← (ControllerDataRepository.latest env controllerUid db
        registry).mapError AnalyticsError.data
      let forecast ← (forecastOf texts upper policy controllerUid now rows latest).mapError
        AnalyticsError.raised
      return (registry, forecast)

end Forecast

/-! ## training days -/

/-- The states of a day. -/
def statesOn (day : Day) (states : List (Timestamp × String)) : List (Timestamp × String) :=
  states.filter fun s => s.1.day = day

/-- The days before today with at least three states. -/
def trainingDays (today : Day) (states : List (Timestamp × String)) : List Day :=
  (distinct (states.map fun s => s.1.day)).filter fun day =>
    day ≠ today ∧ 3 ≤ (statesOn day states).length

/-- When a day first saw float. -/
def firstFloat (states : List (Timestamp × String)) (day : Day) : Option Timestamp :=
  ((statesOn day states).find? fun s => s.2 = "FLOAT").map Prod.fst

/-- The first floats of the training days. -/
def firstFloats (today : Day) (states : List (Timestamp × String)) : List Timestamp :=
  (trainingDays today states).filterMap (firstFloat states)

/-- **The loop** over the days trains on those that count. -/
theorem foldl_train (today : Day) (states : List (Timestamp × String)) :
    train today states =
      { observedDays := (trainingDays today states).length
        floatDays := (firstFloats today states).length
        firstFloatMinutes := (firstFloats today states).map fun t => (minuteOfDay t : ℚ) } := by
  obtain ⟨trains, htrains⟩ : ∃ trains : Day → Bool, trains = fun day =>
    decide (day ≠ today ∧ 3 ≤ (statesOn day states).length) := ⟨_, rfl⟩
  have hfold : ∀ (days : List Day) (acc : Training),
      (days.map fun day => (day, statesOn day states)).foldl (Training.turn today) acc =
        { observedDays := acc.observedDays + (days.filter trains).length
          floatDays := acc.floatDays + ((days.filter trains).filterMap (firstFloat states)).length
          firstFloatMinutes := acc.firstFloatMinutes ++
            ((days.filter trains).filterMap (firstFloat states)).map fun t =>
              (minuteOfDay t : ℚ) } := by
    intro days
    induction days with
    | nil => simp
    | cons day days ih =>
        intro acc
        rw [List.map_cons, List.foldl_cons, ih, Training.turn]
        by_cases hskip : day = today ∨ (statesOn day states).length < 3
        · have hnot : ¬ trains day = true := by grind
          rw [if_pos hskip, List.filter_cons_of_neg hnot]
        · have htrained : trains day = true := by grind
          rw [if_neg hskip, List.filter_cons_of_pos htrained]
          cases hfloat : (statesOn day states).find? fun s => s.2 = "FLOAT" with
          | none => simp [firstFloat, hfloat]; omega
          | some s => simp [firstFloat, hfloat]; omega
  rw [train, groups, trainingDays, firstFloats, trainingDays, ← htrains]
  exact (hfold _ {}).trans (by simp)

/-! ## the oldest states -/

/-- The oldest states train every day that all states train. -/
def TrainsAll (today : Day) (oldest all : List (Timestamp × String)) : Prop :=
  ∀ day, day ≠ today → 3 ≤ (statesOn day all).length →
    3 ≤ (statesOn day oldest).length ∧
      ((∃ s ∈ statesOn day all, s.2 = "FLOAT") → ∃ s ∈ statesOn day oldest, s.2 = "FLOAT")

section Oldest

variable {today day : Day} {states oldest later : List (Timestamp × String)}

/-- A day counts with three states or more, if it is not the present one. -/
theorem mem_trainingDays :
    day ∈ trainingDays today states ↔ day ≠ today ∧ 3 ≤ (statesOn day states).length := by
  have hday : 3 ≤ (statesOn day states).length → day ∈ states.map fun s => s.1.day := by
    intro hlength
    obtain ⟨s, hs⟩ := List.exists_mem_of_length_pos (show 0 < (statesOn day states).length by omega)
    rw [statesOn, List.mem_filter, decide_eq_true_eq] at hs
    exact List.mem_map.mpr ⟨s, hs⟩
  rw [trainingDays, List.mem_filter, mem_distinct, decide_eq_true_eq]
  exact ⟨fun h => h.2, fun h => ⟨hday h.2, h⟩⟩

theorem trainingDays_nodup : (trainingDays today states).Nodup := (nodup_distinct _).filter _

/-- There is a first float where there is any. -/
theorem isSome_firstFloat :
    (firstFloat states day).isSome ↔ ∃ s ∈ statesOn day states, s.2 = "FLOAT" := by
  simp [firstFloat, List.find?_isSome]

/-- The training days that saw float. -/
def floatDays (today : Day) (states : List (Timestamp × String)) : List Day :=
  (trainingDays today states).filter fun day => (firstFloat states day).isSome

/-- One for each day that has some. -/
theorem length_firstFloats :
    (firstFloats today states).length = (floatDays today states).length := by
  rw [firstFloats, floatDays, List.length_filterMap_eq_countP, List.countP_eq_length_filter]

/-- A day has its earlier and its later states. -/
theorem statesOn_append :
    statesOn day (oldest ++ later) = statesOn day oldest ++ statesOn day later :=
  List.filter_append _ _

/-- More states do not make a day shorter. -/
theorem length_statesOn_le :
    (statesOn day oldest).length ≤ (statesOn day (oldest ++ later)).length := by
  rw [statesOn_append, List.length_append]
  omega

/-- A float stays one. -/
theorem exists_float_append (h : ∃ s ∈ statesOn day oldest, s.2 = "FLOAT") :
    ∃ s ∈ statesOn day (oldest ++ later), s.2 = "FLOAT" := by
  obtain ⟨s, hs, hfloat⟩ := h
  rw [statesOn_append]
  exact ⟨s, List.mem_append_left _ hs, hfloat⟩

/-- Two lists without duplicates, one of which contains the other, of one length. -/
theorem mem_of_length_eq {xs ys : List Day} (hxs : xs.Nodup) (hsub : xs ⊆ ys)
    (hlength : xs.length = ys.length) (hday : day ∈ ys) : day ∈ xs :=
  ((List.subperm_of_subset hxs hsub).perm_of_length_le hlength.ge).mem_iff.mpr hday

/-- Where the counts agree the days do, since cutting states off can only lose days. -/
theorem trainsAll_of_length
    (hdays : (trainingDays today oldest).length = (trainingDays today (oldest ++ later)).length)
    (hfloats : (firstFloats today oldest).length = (firstFloats today (oldest ++ later)).length) :
    TrainsAll today oldest (oldest ++ later) := by
  intro day hday hthree
  have hsub : trainingDays today oldest ⊆ trainingDays today (oldest ++ later) := by
    intro d hd
    rw [mem_trainingDays] at hd ⊢
    exact ⟨hd.1, hd.2.trans length_statesOn_le⟩
  have hfloatSub : floatDays today oldest ⊆ floatDays today (oldest ++ later) := by
    intro d hd
    rw [floatDays, List.mem_filter, isSome_firstFloat] at hd ⊢
    exact ⟨hsub hd.1, exists_float_append hd.2⟩
  have htrained := mem_of_length_eq trainingDays_nodup hsub hdays
    (mem_trainingDays.mpr ⟨hday, hthree⟩)
  refine ⟨(mem_trainingDays.mp htrained).2, fun hfloat => ?_⟩
  rw [length_firstFloats, length_firstFloats] at hfloats
  have hmem : day ∈ floatDays today (oldest ++ later) :=
    List.mem_filter.mpr ⟨hsub htrained, isSome_firstFloat.mpr hfloat⟩
  have hfloated := mem_of_length_eq (trainingDays_nodup.filter _) hfloatSub hfloats hmem
  exact isSome_firstFloat.mp (List.mem_filter.mp hfloated).2

/-- Then the training days are those of all states, in their order. -/
theorem TrainsAll.trainingDays_eq (h : TrainsAll today oldest (oldest ++ later)) :
    trainingDays today (oldest ++ later) = trainingDays today oldest := by
  have hthree : ∀ d, (d ≠ today ∧ 3 ≤ (statesOn d (oldest ++ later)).length) ↔
      d ≠ today ∧ 3 ≤ (statesOn d oldest).length := by
    intro d
    refine and_congr_right fun hd => ⟨fun hall => (h d hd hall).1, fun hold => ?_⟩
    exact hold.trans length_statesOn_le
  have hnew : ((distinct (later.map fun s => s.1.day)).filter
      (· ∉ oldest.map fun s => s.1.day)).filter
        (fun d => d ≠ today ∧ 3 ≤ (statesOn d oldest).length) = [] := by
    rw [List.filter_filter, List.filter_eq_nil_iff]
    intro d _ hd
    simp only [Bool.and_eq_true, decide_eq_true_eq] at hd
    obtain ⟨s, hs⟩ := List.exists_mem_of_length_pos (show 0 < (statesOn d oldest).length by omega)
    rw [statesOn, List.mem_filter, decide_eq_true_eq] at hs
    exact hd.2 (List.mem_map.mpr ⟨s, hs⟩)
  simp only [trainingDays, hthree, List.map_append, distinct_append, List.filter_append, hnew,
    List.append_nil]

/-- And so are the first floats. -/
theorem TrainsAll.firstFloats_eq (h : TrainsAll today oldest (oldest ++ later)) :
    firstFloats today (oldest ++ later) = firstFloats today oldest := by
  rw [firstFloats, firstFloats, h.trainingDays_eq]
  refine List.filterMap_congr fun d hd => ?_
  obtain ⟨hday, hthree⟩ := mem_trainingDays.mp hd
  have hfloat := (h d hday (hthree.trans length_statesOn_le)).2
  cases hfirst : (statesOn d oldest).find? fun s => s.2 = "FLOAT" with
  | some s => simp [firstFloat, statesOn_append, List.find?_append, hfirst]
  | none =>
      have hnone : firstFloat oldest d = none := by rw [firstFloat, hfirst]; rfl
      rw [hnone, ← Option.not_isSome_iff_eq_none, isSome_firstFloat]
      intro hall
      have hsome := isSome_firstFloat.mpr (hfloat hall)
      rw [hnone] at hsome
      cases hsome

end Oldest

/-! ## the window -/

/-- A forecast trained on these states. -/
structure TrainedOn (policy : ForecastPolicy) (now : Timestamp)
    (states : List (Timestamp × String)) (forecast : ChargeForecast) : Prop where
  days : forecast.trainingDays = (trainingDays now.day states).length
  floats : forecast.floatDays = (firstFloats now.day states).length
  expected : (expectedFloat now ((firstFloats now.day states).map fun t => (minuteOfDay t : ℚ))).map
    (fun expected =>
      if policy.minimumTrainingDays ≤ (trainingDays now.day states).length then expected
      else none) = .ok forecast.expectedFloatAt

/-- States are read row by row. -/
theorem timedStates_append (texts : PyTexts) (upper : String → String)
    (rows rows' : List (Sourced RegisterPoint)) :
    timedStates texts upper (rows ++ rows') =
      timedStates texts upper rows ++ timedStates texts upper rows' := by
  rw [timedStates, timedStates, timedStates, chargeStates_append, List.filterMap_append]

/-- A forecast is trained on the states of its rows. -/
theorem forecastOf_trainedOn {texts : PyTexts} {upper : String → String} {policy : ForecastPolicy}
    {controllerUid : String} {now : Timestamp} {rows : List (Sourced RegisterPoint)}
    {latest : Option LatestSample} {forecast : ChargeForecast}
    (h : forecastOf texts upper policy controllerUid now rows latest = .ok forecast) :
    TrainedOn policy now (timedStates texts upper rows) forecast := by
  simp only [forecastOf, foldl_train, Loop.bind_eq_ok, Loop.pure_eq_ok, Except.ok.injEq] at h
  obtain ⟨expected, hexpected, rfl⟩ := h
  constructor
  · rfl
  · rfl
  · rw [hexpected]
    simp [Except.map]

/-- A forecast trained on the oldest states is trained on all exactly when they train every
day. -/
theorem TrainedOn.append_iff {policy : ForecastPolicy} {now : Timestamp}
    {oldest later : List (Timestamp × String)} {forecast : ChargeForecast}
    (h : TrainedOn policy now oldest forecast) :
    TrainedOn policy now (oldest ++ later) forecast ↔
      TrainsAll now.day oldest (oldest ++ later) := by
  constructor
  · intro hall
    exact trainsAll_of_length (h.days.symm.trans hall.days) (h.floats.symm.trans hall.floats)
  · intro htrains
    have hdays := htrains.trainingDays_eq
    have hfloats := htrains.firstFloats_eq
    constructor
    · rw [hdays]
      exact h.days
    · rw [hfloats]
      exact h.floats
    · rw [hdays, hfloats]
      exact h.expected

/-- A forecast from what it reads. -/
theorem controllerChargeForecast_of {texts : PyTexts} {upper : String → String}
    {policy : ForecastPolicy} {env : Env} {clock : Nat} {controllerUid : String} {now : Timestamp}
    {db : TelemetryDb} {registry opened synced final : Db} {record : ControllerRecord}
    {scope : ControllerScope} {window : TimeInterval} {latest : Option LatestSample}
    {forecast : ChargeForecast} (hlower : env.lower "asc" = "asc")
    (hcontroller : ControllerDataRepository.controller env clock controllerUid registry =
      .ok (opened, some record))
    (hscope : ControllerDataRepository.scope env controllerUid opened = .ok (synced, scope))
    (hwindow : windowOf now policy.historyDays = .ok window)
    (hlatest : ControllerDataRepository.latest env controllerUid db synced = .ok (final, latest))
    (hforecast : forecastOf texts upper policy controllerUid now
      ((windowRows scope window db).take 10000) latest = .ok forecast) :
    controllerChargeForecast texts upper policy env clock controllerUid now db registry =
      .ok (final, forecast) := by
  have hrows := registerHistory_charge hlower hscope 10000 window db
  have hclamp : clampLimit 10000 10000 = 10000 := rfl
  rw [hclamp] at hrows
  simp only [controllerChargeForecast, hcontroller, hwindow, hrows, hlatest, hforecast,
    Except.mapError, Loop.ok_bind]
  rfl

/-- What a forecast has read. -/
theorem controllerChargeForecast_eq_ok {texts : PyTexts} {upper : String → String}
    {policy : ForecastPolicy} {env : Env} {clock : Nat} {controllerUid : String} {now : Timestamp}
    {db : TelemetryDb} {registry final : Db} {forecast : ChargeForecast}
    (hlower : env.lower "asc" = "asc")
    (h : controllerChargeForecast texts upper policy env clock controllerUid now db registry =
      .ok (final, forecast)) :
    ∃ opened record synced scope window latest,
      ControllerDataRepository.controller env clock controllerUid registry =
        .ok (opened, some record) ∧
      ControllerDataRepository.scope env controllerUid opened = .ok (synced, scope) ∧
      windowOf now policy.historyDays = .ok window ∧
      forecastOf texts upper policy controllerUid now ((windowRows scope window db).take 10000)
        latest = .ok forecast := by
  simp only [controllerChargeForecast, Loop.bind_eq_ok, Loop.mapError_eq_ok] at h
  obtain ⟨⟨opened, controller⟩, hcontroller, h⟩ := h
  cases controller with
  | none => cases h
  | some record =>
      simp only [Loop.bind_eq_ok, Loop.mapError_eq_ok, Loop.pure_eq_ok, Except.ok.injEq,
        Prod.mk.injEq] at h
      obtain ⟨window, hwindow, ⟨listed, rows⟩, hrows, ⟨last, latest⟩, -, forecast', hforecast, -,
        rfl⟩ := h
      cases hscope : ControllerDataRepository.scope env controllerUid opened with
      | error e =>
          rw [ControllerDataRepository.registerHistory, ControllerDataRepository.query, hscope]
            at hrows
          cases hrows
      | ok found =>
          rw [registerHistory_charge hlower hscope, Except.ok.injEq, Prod.mk.injEq] at hrows
          rw [← hrows.2] at hforecast
          exact ⟨opened, record, found.1, found.2, window, latest, hcontroller, hscope, hwindow,
            hforecast⟩

/-- The forecast is that of its window exactly when the oldest 10000 observations train every
day that all of them do. -/
theorem forecast_trained_iff {texts : PyTexts} {upper : String → String}
    {policy : ForecastPolicy} {env : Env} {clock : Nat} {controllerUid : String} {now : Timestamp}
    {db : TelemetryDb} {registry final : Db} {forecast : ChargeForecast}
    (hlower : env.lower "asc" = "asc")
    (h : controllerChargeForecast texts upper policy env clock controllerUid now db registry =
      .ok (final, forecast)) :
    ∃ opened record synced scope window,
      ControllerDataRepository.controller env clock controllerUid registry =
        .ok (opened, some record) ∧
      ControllerDataRepository.scope env controllerUid opened = .ok (synced, scope) ∧
      windowOf now policy.historyDays = .ok window ∧
      (TrainedOn policy now (timedStates texts upper (windowRows scope window db)) forecast ↔
        TrainsAll now.day (timedStates texts upper ((windowRows scope window db).take 10000))
          (timedStates texts upper (windowRows scope window db))) := by
  obtain ⟨opened, record, synced, scope, window, latest, hcontroller, hscope, hwindow,
    hforecast⟩ := controllerChargeForecast_eq_ok hlower h
  refine ⟨opened, record, synced, scope, window, hcontroller, hscope, hwindow, ?_⟩
  have hsplit : timedStates texts upper (windowRows scope window db) =
      timedStates texts upper ((windowRows scope window db).take 10000) ++
        timedStates texts upper ((windowRows scope window db).drop 10000) := by
    rw [← timedStates_append, List.take_append_drop]
  rw [hsplit]
  exact (forecastOf_trainedOn hforecast).append_iff

/-! ## two days of polls -/

/-- Ten thousand polls in bulk charge on one day. -/
def fastPolls : List (Timestamp × String) := pollsOn 13 0 8 10000 "MPPT"

/-- Three polls in float on the next. -/
def nextPolls : List (Timestamp × String) := pollsOn 14 0 600 3 "FLOAT"

def fastStore : TelemetryDb := stateStore (fastPolls ++ nextPolls)

def fastTexts : PyTexts := .ofTimes ((fastPolls ++ nextPolls).map Prod.fst)

/-- The scope of that controller. -/
def openedScope : ControllerScope where
  controllerUid := "ctrl_"
  controllerId := "serial:1"
  canonicalDeviceId := "tcp"
  historyDeviceIds := ["rtu", "tcp"]

/-- The scope of the controller of the example. -/
theorem openedSystem_scope :
    ControllerDataRepository.scope plainEnv "ctrl_" openedSystem.registry =
      .ok (openedSystem.registry, openedScope) := by
  decide +kernel

/-- And its record. -/
theorem openedSystem_controller :
    ControllerDataRepository.controller plainEnv 5 "ctrl_" openedSystem.registry =
      .ok (openedSystem.registry, some { scope := openedScope, profile := "tristar_mppt" }) := by
  decide +kernel

theorem windowOf_julyMonth : windowOf (july 28 0) 28 = .ok (julyWindow 0 28) := rfl

/-- All polls are in the window. -/
theorem windowRows_fastStore :
    windowRows openedScope (julyWindow 0 28) fastStore =
      fastPolls.map statePoint ++ nextPolls.map statePoint :=
  windowRows_pollsOn (by decide) (by decide) (by decide) (by decide) (by decide) (by decide)

/-- The limit leaves those of the first day. -/
theorem take_fastStore :
    (windowRows openedScope (julyWindow 0 28) fastStore).take 10000 = fastPolls.map statePoint := by
  have hlength : (fastPolls.map statePoint).length = 10000 := by simp [fastPolls]
  rw [windowRows_fastStore, List.take_left' hlength]

/-- The states of a series whose texts can be read. -/
theorem timedStates_pollsOn {times : List Timestamp} {upper : String → String} {day : Fin 31}
    {first step n : Nat} {state : String}
    (hstate : upper (Text.strip state) = state ∧ state ≠ "")
    (htimes : ∀ p ∈ pollsOn day first step n state, p.1 ∈ times) :
    timedStates (.ofTimes times) upper ((pollsOn day first step n state).map statePoint) =
      pollsOn day first step n state := by
  rw [timedStates, chargeStates_pollsOn _ hstate, List.filterMap_map]
  refine (List.filterMap_congr fun p hp => ?_).trans List.filterMap_some
  have hparse := parseUtc_ofTimes (htimes p hp)
  obtain ⟨i, -, rfl⟩ := mem_pollsOn hp
  show ((PyTexts.ofTimes times).parseUtc _).map _ = _
  rw [hparse]
  rfl

theorem timedStates_fast :
    timedStates fastTexts plainUpper (fastPolls.map statePoint) = fastPolls :=
  timedStates_pollsOn (by decide) fun p hp =>
    List.mem_map_of_mem (List.mem_append_left nextPolls hp)

theorem timedStates_next :
    timedStates fastTexts plainUpper (nextPolls.map statePoint) = nextPolls :=
  timedStates_pollsOn (by decide) fun p hp =>
    List.mem_map_of_mem (List.mem_append_right fastPolls hp)

/-- Ten thousand polls hold no float. -/
theorem firstFloats_fast (today : Day) : firstFloats today fastPolls = [] := by
  have hnone : ∀ day, firstFloat fastPolls day = none := by
    intro day
    rw [firstFloat, List.find?_eq_none.mpr, Option.map_none]
    intro s hs
    obtain ⟨i, -, rfl⟩ := mem_pollsOn (List.mem_filter.mp hs).1
    show ¬ decide ("MPPT" = "FLOAT") = true
    decide
  exact List.filterMap_eq_nil_iff.mpr fun day _ => hnone day

/-- The forecast of the example is trained on them. -/
theorem fastForecast_ok :
    ∃ forecast, controllerChargeForecast fastTexts plainUpper {} plainEnv 5 "ctrl_" (july 28 0)
        fastStore openedSystem.registry = .ok (openedSystem.registry, forecast) ∧
      TrainedOn {} (july 28 0) fastPolls forecast := by
  obtain ⟨latest, hlatest⟩ : ∃ latest, ControllerDataRepository.latest plainEnv "ctrl_" fastStore
      openedSystem.registry = .ok (openedSystem.registry, latest) := by
    rw [ControllerDataRepository.latest, ControllerDataRepository.query_of_scope openedSystem_scope]
    exact ⟨_, Except.map.eq_2 _ _⟩
  have hexpected : expectedFloat (july 28 0) [] = .ok none := rfl
  obtain ⟨forecast, hforecast⟩ : ∃ forecast, forecastOf fastTexts plainUpper {} "ctrl_"
      (july 28 0) (fastPolls.map statePoint) latest = .ok forecast := by
    simp only [forecastOf, foldl_train, timedStates_fast, firstFloats_fast, List.map_nil,
      hexpected, Loop.ok_bind]
    exact ⟨_, rfl⟩
  refine ⟨forecast, ?_, ?_⟩
  · rw [← take_fastStore] at hforecast
    exact controllerChargeForecast_of (by decide) openedSystem_controller openedSystem_scope
      windowOf_julyMonth hlatest hforecast
  · have htrained := forecastOf_trainedOn hforecast
    rwa [timedStates_fast] at htrained

/-- Ten thousand fast polls, and more after them. -/
theorem forecast_trained_iff_fast :
    ∃ forecast opened record synced scope window,
      controllerChargeForecast fastTexts plainUpper {} plainEnv 5 "ctrl_" (july 28 0) fastStore
        openedSystem.registry = .ok (openedSystem.registry, forecast) ∧
      ControllerDataRepository.controller plainEnv 5 "ctrl_" openedSystem.registry =
        .ok (opened, some record) ∧
      ControllerDataRepository.scope plainEnv "ctrl_" opened = .ok (synced, scope) ∧
      windowOf (july 28 0) 28 = .ok window ∧
      (TrainedOn {} (july 28 0)
          (timedStates fastTexts plainUpper (windowRows scope window fastStore)) forecast ↔
        TrainsAll (july 28 0).day
          (timedStates fastTexts plainUpper ((windowRows scope window fastStore).take 10000))
          (timedStates fastTexts plainUpper (windowRows scope window fastStore))) := by
  obtain ⟨forecast, hforecast, -⟩ := fastForecast_ok
  obtain ⟨opened, record, synced, scope, window, h⟩ := forecast_trained_iff (by decide) hforecast
  exact ⟨forecast, opened, record, synced, scope, window, hforecast, h⟩

/-- The day after 10000 polls is not a training day of the forecast. -/
theorem not_forecast_trained_fast :
    ∃ forecast, controllerChargeForecast fastTexts plainUpper {} plainEnv 5 "ctrl_" (july 28 0)
        fastStore openedSystem.registry = .ok (openedSystem.registry, forecast) ∧
      ¬ TrainedOn {} (july 28 0)
        (timedStates fastTexts plainUpper (windowRows openedScope (julyWindow 0 28) fastStore))
          forecast := by
  obtain ⟨forecast, hforecast, htrained⟩ := fastForecast_ok
  refine ⟨forecast, hforecast, fun hall => ?_⟩
  rw [windowRows_fastStore, timedStates_append, timedStates_fast, timedStates_next,
    htrained.append_iff] at hall
  have hnext : ∀ s ∈ nextPolls, s.1.day = (july 14 0).day := by
    intro s hs
    obtain ⟨i, -, rfl⟩ := mem_pollsOn hs
    rfl
  have hfast : statesOn (july 14 0).day fastPolls = [] := by
    rw [statesOn, List.filter_eq_nil_iff]
    intro s hs
    obtain ⟨i, -, rfl⟩ := mem_pollsOn hs
    show ¬ decide ((july 13 0).day = (july 14 0).day) = true
    decide
  have hthree : (statesOn (july 14 0).day (fastPolls ++ nextPolls)).length = 3 := by
    rw [statesOn_append, hfast, statesOn, List.filter_eq_self.mpr fun s hs =>
      decide_eq_true (hnext s hs)]
    simp [nextPolls]
  have hday := hall (july 14 0).day (by decide) hthree.ge
  rw [hfast] at hday
  exact absurd hday.1 (by decide)

end MorningstarModbus
