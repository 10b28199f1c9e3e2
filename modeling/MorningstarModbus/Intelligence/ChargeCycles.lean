import Mathlib.Algebra.Order.BigOperators.Group.List
import Mathlib.Algebra.Order.Field.Rat
import MorningstarModbus.History.ChargeStates
import MorningstarModbus.Lib.Adjacent

/-!
# MorningstarModbus.Intelligence.ChargeCycles

The charge-cycle summary of a controller over the last day (`charge_cycle_summary` of
`intelligence/incidents.py`), from at most 5000 observations.

* `foldl_observe` — the loop computes the stages, their entries and the time in each state;
* `summary_covers_iff` — the summary is that of the whole day exactly when the observations
  after the 5000th add nothing to it.
-/

namespace MorningstarModbus

open Calendar Query Adjacent

/-! ## the summary -/

/-- `max(0.0, (timestamp - previous_at).total_seconds())`, where it is counted. -/
def heldSeconds (previous timestamp : Timestamp) : Option ℚ :=
  let delta : ℚ := (max 0 (timestamp.unixMicros - previous.unixMicros) : Int) / 1000000
  if delta ≤ 900 then some delta else none

/-- The variables of the loop. -/
structure CycleState where
  sequence : List String := []
  durations : Dict String ℚ := Dict.empty
  absorptionEntries : Nat := 0
  floatEntries : Nat := 0
  previousState : Option String := none
  previousAt : Option Timestamp := none

/-- What is counted between two observations, where both times could be read. -/
def heldBetween (previousAt timestamp : Option Timestamp) : Option ℚ :=
  previousAt.bind fun previousAt => timestamp.bind fun timestamp =>
    heldSeconds previousAt timestamp

/-- `durations[previous_state] += delta` -/
def addHeld (durations : Dict String ℚ) (previousState : Option String) (delta : Option ℚ) :
    Dict String ℚ :=
  match previousState, delta with
  | some previousState, some delta =>
      durations.set previousState ((durations previousState).getD 0 + delta)
  | _, _ => durations

/-- A turn of the loop, with a state. -/
def CycleState.observe (acc : CycleState) (s : ChargeState) : CycleState where
  durations := addHeld acc.durations acc.previousState (heldBetween acc.previousAt s.observed)
  sequence := if acc.previousState = some s.state then acc.sequence else acc.sequence ++ [s.state]
  absorptionEntries :=
    if acc.previousState ≠ some s.state ∧ s.state = "ABSORPTION" then acc.absorptionEntries + 1
    else acc.absorptionEntries
  floatEntries :=
    if acc.previousState ≠ some s.state ∧ s.state = "FLOAT" then acc.floatEntries + 1
    else acc.floatEntries
  previousState := some s.state
  previousAt := s.observed

structure ChargeCycleSummary where
  controllerUid : String
  periodHours : Nat
  observedSamples : Nat
  transitionCount : Nat
  absorptionEntries : Nat
  floatEntries : Nat
  stageSequence : List String
  durationSecondsByState : Dict String ℚ

section Summary

variable (texts : PyTexts) (upper : String → String)

/-- A turn of the loop. -/
def cycleTurn (acc : CycleState) (row : Sourced RegisterPoint) : CycleState :=
  match texts.chargeState? upper row with
  | none => acc
  | some s => acc.observe s

/-- What is made of the rows. -/
def summarizeCycles (controllerUid : String) (rows : List (Sourced RegisterPoint)) :
    ChargeCycleSummary :=
  let acc := rows.foldl (cycleTurn texts upper) {}
  { controllerUid
    periodHours := 24
    observedSamples := rows.length
    transitionCount := acc.sequence.length - 1
    absorptionEntries := acc.absorptionEntries
    floatEntries := acc.floatEntries
    stageSequence := acc.sequence
    durationSecondsByState := acc.durations }

/-- `charge_cycle_summary` -/
def chargeCycleSummary (env : Env) (controllerUid : String) (now : Timestamp) (db : TelemetryDb)
    (registry : Db) : Except AnalyticsError (Db × ChargeCycleSummary) := do
  let window ← (windowOf now 1).mapError AnalyticsError.raised
  let (registry, rows) ← (ControllerDataRepository.registerHistory env controllerUid
    "charge_state" 5000 window.texts "asc" db registry).mapError AnalyticsError.data
  return (registry, summarizeCycles texts upper controllerUid rows)

end Summary

/-! ## stages -/

/-- The states that the transitions of a history enter. -/
def enteredStates (states : List ChargeState) : List String :=
  ((adjacent states).filter fun p => p.1.state ≠ p.2.state).map fun p => p.2.state

/-- The stages of a history: its first state and what its transitions enter. -/
def stageSequence (states : List ChargeState) : List String :=
  (states.head?.map ChargeState.state).toList ++ enteredStates states

/-- What a pair of observations counts. -/
def held (p : ChargeState × ChargeState) : Option ℚ := heldBetween p.1.observed p.2.observed

/-- What is counted for one state. -/
def heldIn (state : String) (states : List ChargeState) : List ℚ :=
  ((adjacent states).filter fun p => p.1.state = state).filterMap held

/-- The time in each state of a history. -/
def timeInStates (states : List ChargeState) : Dict String ℚ := fun state =>
  if heldIn state states = [] then none else some (heldIn state states).sum

section Append

variable (earlier : List ChargeState) (last : ChargeState) (later : List ChargeState)

/-- Later states are compared with the last of the earlier ones. -/
theorem stageSequence_append :
    stageSequence (earlier ++ last :: later) =
      stageSequence (earlier ++ [last]) ++ enteredStates (last :: later) := by
  have hhead : (earlier ++ last :: later).head? = (earlier ++ [last]).head? := by
    cases earlier <;> rfl
  rw [stageSequence, stageSequence, hhead, enteredStates, enteredStates, enteredStates,
    adjacent_append, List.filter_append, List.map_append, List.append_assoc]

/-- The time at a seam counts for the state before it. -/
theorem heldIn_append (state : String) :
    heldIn state (earlier ++ last :: later) =
      heldIn state (earlier ++ [last]) ++ heldIn state (last :: later) := by
  rw [heldIn, heldIn, heldIn, adjacent_append, List.filter_append, List.filterMap_append]

end Append

/-- The sequence ends with the present state. -/
theorem getLast?_stageSequence (states : List ChargeState) :
    (stageSequence states).getLast? = states.getLast?.map ChargeState.state := by
  induction states using List.reverseRecOn with
  | nil => rfl
  | append_singleton states s ih =>
      cases states using List.reverseRecOn with
      | nil => rfl
      | append_singleton states last =>
          rw [List.append_assoc, List.singleton_append, stageSequence_append]
          by_cases hsame : last.state = s.state
          · simp [enteredStates, hsame, ih]
          · simp [enteredStates, hsame]

/-- The variables of the loop after a history. -/
def CycleState.after (states : List ChargeState) : CycleState where
  sequence := stageSequence states
  durations := timeInStates states
  absorptionEntries := (stageSequence states).count "ABSORPTION"
  floatEntries := (stageSequence states).count "FLOAT"
  previousState := states.getLast?.map ChargeState.state
  previousAt := states.getLast?.bind ChargeState.observed

/-- What one more observation counts for a state. -/
theorem heldIn_concat (state : String) (earlier : List ChargeState) (last s : ChargeState) :
    heldIn state (earlier ++ [last, s]) =
      heldIn state (earlier ++ [last]) ++
        if last.state = state then (held (last, s)).toList else [] := by
  rw [heldIn_append]
  by_cases hstate : last.state = state
  · cases hheld : held (last, s) <;> simp [heldIn, hstate, hheld]
  · simp [heldIn, hstate]

/-- One more state adds the time that the last one was held. -/
theorem timeInStates_concat (earlier : List ChargeState) (last s : ChargeState) :
    timeInStates (earlier ++ [last, s]) =
      addHeld (timeInStates (earlier ++ [last])) (some last.state) (held (last, s)) := by
  funext state
  rw [timeInStates, heldIn_concat]
  cases held (last, s) with
  | none => simp [addHeld, timeInStates]
  | some delta =>
      by_cases hstate : last.state = state
      · subst hstate
        by_cases hnone : heldIn last.state (earlier ++ [last]) = []
        · simp [addHeld, timeInStates, hnone]
        · simp [addHeld, timeInStates, hnone]
      · simp [addHeld, timeInStates, hstate, Ne.symm hstate]

/-- The loop over a history. -/
theorem foldl_observe (states : List ChargeState) :
    states.foldl CycleState.observe {} = CycleState.after states := by
  induction states using List.reverseRecOn with
  | nil => rfl
  | append_singleton states s ih =>
      rw [List.foldl_append, ih, List.foldl_cons, List.foldl_nil]
      cases states using List.reverseRecOn with
      | nil =>
          have hnone : timeInStates [s] = timeInStates [] := rfl
          simp [CycleState.observe, CycleState.after, stageSequence, enteredStates, hnone,
            addHeld, List.count_singleton]
      | append_singleton states last =>
          have htime := timeInStates_concat states last s
          have hstages := stageSequence_append states last [s]
          simp only [CycleState.observe, CycleState.after, List.append_assoc, List.singleton_append,
            htime, hstages, List.getLast?_append, List.getLast?_singleton, held]
          by_cases hsame : last.state = s.state
          · simp [enteredStates, hsame]
          · simp [enteredStates, hsame, List.count_singleton]
            grind

/-! ## what later observations add -/

/-- Observations that neither enter a state nor add to the time in one. -/
structure AddsNothing (earlier later : List ChargeState) : Prop where
  state : ∀ s ∈ later, earlier.getLast?.map ChargeState.state = some s.state
  time : ∀ p ∈ adjacent (earlier.getLast?.toList ++ later), ∀ delta, held p = some delta →
    delta = 0 ∧ ∃ q ∈ adjacent earlier, q.1.state = p.1.state ∧ (held q).isSome

/-- What was held in a state are times between neighbours. -/
theorem mem_heldIn {state : String} {states : List ChargeState} {delta : ℚ} :
    delta ∈ heldIn state states ↔
      ∃ p ∈ adjacent states, p.1.state = state ∧ held p = some delta := by
  simp [heldIn, and_assoc]

/-- No time is negative; a step back is none. -/
theorem held_nonneg {p : ChargeState × ChargeState} {delta : ℚ} (h : held p = some delta) :
    0 ≤ delta := by
  simp only [held, heldBetween, Option.bind_eq_some_iff] at h
  obtain ⟨previousAt, -, timestamp, -, h⟩ := h
  unfold heldSeconds at h
  simp only at h
  split at h
  · rw [← Option.some.inj h]
    have hclamped : (0 : Int) ≤ max 0 (timestamp.unixMicros - previousAt.unixMicros) :=
      le_max_left _ _
    exact div_nonneg (Int.cast_nonneg hclamped) (by norm_num)
  · cases h

/-- Every state is the first one where no transition enters another. -/
theorem enteredStates_eq_nil {last : ChargeState} {later : List ChargeState} :
    enteredStates (last :: later) = [] ↔ ∀ s ∈ later, last.state = s.state := by
  induction later generalizing last with
  | nil => simp [enteredStates]
  | cons s later ih =>
      have hrest : enteredStates (last :: s :: later) = [] ↔
          last.state = s.state ∧ enteredStates (s :: later) = [] := by
        by_cases hsame : last.state = s.state
        · simp [enteredStates, hsame]
        · simp [enteredStates, hsame]
      rw [hrest, ih, List.forall_mem_cons]
      refine and_congr_right fun hsame => ?_
      rw [hsame]

/-- More rows leave the times as they are if they add nothing to a state that already has a time. -/
theorem timeInStates_append_iff {earlier : List ChargeState} {last : ChargeState}
    {later : List ChargeState} :
    timeInStates (earlier ++ last :: later) = timeInStates (earlier ++ [last]) ↔
      ∀ p ∈ adjacent (last :: later), ∀ delta, held p = some delta →
        delta = 0 ∧ ∃ q ∈ adjacent (earlier ++ [last]), q.1.state = p.1.state ∧
          (held q).isSome := by
  have hstate : ∀ state, timeInStates (earlier ++ last :: later) state =
      timeInStates (earlier ++ [last]) state ↔
        ∀ delta ∈ heldIn state (last :: later),
          delta = 0 ∧ heldIn state (earlier ++ [last]) ≠ [] := by
    intro state
    have hnonneg : ∀ delta ∈ heldIn state (last :: later), 0 ≤ delta := by
      intro delta hdelta
      obtain ⟨p, -, -, hp⟩ := mem_heldIn.mp hdelta
      exact held_nonneg hp
    rw [timeInStates, timeInStates, heldIn_append]
    constructor
    · intro heq delta hdelta
      have hne : heldIn state (earlier ++ [last]) ++ heldIn state (last :: later) ≠ [] :=
        List.append_ne_nil_of_right_ne_nil _ (List.ne_nil_of_mem hdelta)
      rw [if_neg hne] at heq
      by_cases hnone : heldIn state (earlier ++ [last]) = []
      · rw [if_pos hnone] at heq
        cases heq
      · rw [if_neg hnone, Option.some.injEq, List.sum_append, add_eq_left] at heq
        have hle := List.single_le_sum hnonneg delta hdelta
        rw [heq] at hle
        exact ⟨le_antisymm hle (hnonneg delta hdelta), hnone⟩
    · intro hall
      cases hlater : heldIn state (last :: later) with
      | nil => rw [List.append_nil]
      | cons first rest =>
          rw [← hlater]
          have hfirst : first ∈ heldIn state (last :: later) := by simp [hlater]
          have hsum : (heldIn state (last :: later)).sum = 0 :=
            List.sum_eq_zero fun delta hdelta => (hall delta hdelta).1
          have hnone := (hall first hfirst).2
          have hne : heldIn state (earlier ++ [last]) ++ heldIn state (last :: later) ≠ [] :=
            List.append_ne_nil_of_left_ne_nil hnone _
          rw [if_neg hnone, if_neg hne, List.sum_append, hsum, add_zero]
  have hsome : ∀ state, heldIn state (earlier ++ [last]) ≠ [] ↔
      ∃ q ∈ adjacent (earlier ++ [last]), q.1.state = state ∧ (held q).isSome := by
    intro state
    constructor
    · intro hne
      obtain ⟨delta, hdelta⟩ := List.exists_mem_of_ne_nil _ hne
      obtain ⟨q, hq, hqstate, hheld⟩ := mem_heldIn.mp hdelta
      exact ⟨q, hq, hqstate, by rw [hheld]; rfl⟩
    · intro h
      obtain ⟨q, hq, hqstate, hheld⟩ := h
      obtain ⟨delta, hdelta⟩ := Option.isSome_iff_exists.mp hheld
      exact List.ne_nil_of_mem (mem_heldIn.mpr ⟨q, hq, hqstate, hdelta⟩)
  rw [funext_iff]
  constructor
  · intro h p hp delta hdelta
    have hadds := (hstate p.1.state).mp (h p.1.state) delta (mem_heldIn.mpr ⟨p, hp, rfl, hdelta⟩)
    exact ⟨hadds.1, (hsome _).mp hadds.2⟩
  · intro h state
    refine (hstate state).mpr fun delta hdelta => ?_
    obtain ⟨p, hp, rfl, hheld⟩ := mem_heldIn.mp hdelta
    obtain ⟨hzero, hsame⟩ := h p hp delta hheld
    exact ⟨hzero, (hsome _).mpr hsame⟩

/-- **The condition** on later rows under which neither part of the summary changes. -/
theorem addsNothing_iff (earlier later : List ChargeState) :
    stageSequence (earlier ++ later) = stageSequence earlier ∧
      timeInStates (earlier ++ later) = timeInStates earlier ↔ AddsNothing earlier later := by
  cases earlier using List.reverseRecOn with
  | nil =>
      cases later with
      | nil => exact ⟨fun _ => ⟨by simp, by simp⟩, fun _ => ⟨rfl, rfl⟩⟩
      | cons s later =>
          constructor
          · intro h
            exact absurd h.1 (by simp [stageSequence, enteredStates])
          · intro h
            exact absurd (h.state s List.mem_cons_self) (by simp)
  | append_singleton earlier last =>
      have hlast : (earlier ++ [last]).getLast? = some last := List.getLast?_concat
      have hsequence : stageSequence (earlier ++ last :: later) =
          stageSequence (earlier ++ [last]) ↔ ∀ s ∈ later, last.state = s.state := by
        rw [stageSequence_append, List.append_right_eq_self, enteredStates_eq_nil]
      rw [List.append_assoc, List.singleton_append, hsequence, timeInStates_append_iff]
      constructor
      · intro h
        refine ⟨fun s hs => ?_, ?_⟩
        · rw [hlast, Option.map_some, h.1 s hs]
        · rw [hlast]
          exact h.2
      · intro h
        refine ⟨fun s hs => ?_, ?_⟩
        · have hs' := h.state s hs
          rw [hlast] at hs'
          exact Option.some.inj hs'
        · have htime := h.time
          rw [hlast] at htime
          exact htime

/-! ## the summary of a day -/

/-- A summary of all charge states of a history. -/
structure CoversStates (summary : ChargeCycleSummary) (states : List ChargeState) : Prop where
  transitionCount : summary.transitionCount = (enteredStates states).length
  absorptionEntries : summary.absorptionEntries = (stageSequence states).count "ABSORPTION"
  floatEntries : summary.floatEntries = (stageSequence states).count "FLOAT"
  stageSequence : summary.stageSequence = stageSequence states
  durationSecondsByState : summary.durationSecondsByState = timeInStates states
  newest : summary.stageSequence.getLast? = states.getLast?.map ChargeState.state

/-- There are as many transitions as states entered. -/
theorem length_stageSequence (states : List ChargeState) :
    (stageSequence states).length - 1 = (enteredStates states).length := by
  cases states with
  | nil => rfl
  | cons s states => simp [stageSequence]

/-- The loop observes the charge states of its rows, whatever cannot be read left out. -/
theorem foldl_cycleTurn (texts : PyTexts) (upper : String → String)
    (rows : List (Sourced RegisterPoint)) (acc : CycleState) :
    rows.foldl (cycleTurn texts upper) acc =
      (texts.chargeStates upper rows).foldl CycleState.observe acc := by
  induction rows generalizing acc with
  | nil => rfl
  | cons row rows ih =>
      rw [List.foldl_cons, ih, PyTexts.chargeStates, PyTexts.chargeStates, cycleTurn]
      cases hrow : texts.chargeState? upper row with
      | none => rw [List.filterMap_cons_none hrow]
      | some s => rw [List.filterMap_cons_some hrow, List.foldl_cons]

/-- A summary of some rows covers a history that begins with their states exactly when the
others add nothing. -/
theorem summarizeCycles_covers_iff (texts : PyTexts) (upper : String → String)
    (controllerUid : String) (rows : List (Sourced RegisterPoint)) (later : List ChargeState) :
    CoversStates (summarizeCycles texts upper controllerUid rows)
        (texts.chargeStates upper rows ++ later) ↔
      AddsNothing (texts.chargeStates upper rows) later := by
  rw [← addsNothing_iff, summarizeCycles, foldl_cycleTurn, foldl_observe]
  obtain ⟨earlier, hearlier⟩ : ∃ earlier, earlier = texts.chargeStates upper rows := ⟨_, rfl⟩
  rw [← hearlier]
  constructor
  · intro h
    exact ⟨h.stageSequence.symm, h.durationSecondsByState.symm⟩
  · intro h
    have hlast := getLast?_stageSequence (earlier ++ later)
    rw [h.1] at hlast
    constructor
    · rw [← length_stageSequence, h.1]
      rfl
    · rw [h.1]
      rfl
    · rw [h.1]
      rfl
    · exact h.1.symm
    · exact h.2.symm
    · exact hlast

/-- The summary is made of the oldest 5000 observations. -/
theorem chargeCycleSummary_eq (texts : PyTexts) (upper : String → String) {env : Env}
    {controllerUid : String} {registry synced : Db} {scope : ControllerScope} {now : Timestamp}
    {window : TimeInterval} (hlower : env.lower "asc" = "asc")
    (hscope : ControllerDataRepository.scope env controllerUid registry = .ok (synced, scope))
    (hwindow : windowOf now 1 = .ok window) (db : TelemetryDb) :
    chargeCycleSummary texts upper env controllerUid now db registry = .ok (synced,
      summarizeCycles texts upper controllerUid ((windowRows scope window db).take 5000)) := by
  rw [chargeCycleSummary, hwindow]
  simp only [Except.mapError, Loop.ok_bind, registerHistory_charge hlower hscope]
  rfl

/-- The summary covers its day exactly when the observations after the 5000th add nothing. -/
theorem summary_covers_iff (texts : PyTexts) (upper : String → String) {env : Env}
    {controllerUid : String} {registry synced : Db} {scope : ControllerScope} {now : Timestamp}
    {window : TimeInterval} (hlower : env.lower "asc" = "asc")
    (hscope : ControllerDataRepository.scope env controllerUid registry = .ok (synced, scope))
    (hwindow : windowOf now 1 = .ok window) (db : TelemetryDb) :
    ∃ summary, chargeCycleSummary texts upper env controllerUid now db registry =
        .ok (synced, summary) ∧
      (CoversStates summary (texts.chargeStates upper (windowRows scope window db)) ↔
        AddsNothing (texts.chargeStates upper ((windowRows scope window db).take 5000))
          (texts.chargeStates upper ((windowRows scope window db).drop 5000))) := by
  refine ⟨_, chargeCycleSummary_eq texts upper hlower hscope hwindow db, ?_⟩
  have hsplit : texts.chargeStates upper (windowRows scope window db) =
      texts.chargeStates upper ((windowRows scope window db).take 5000) ++
        texts.chargeStates upper ((windowRows scope window db).drop 5000) := by
    rw [← chargeStates_append, List.take_append_drop]
  rw [hsplit, summarizeCycles_covers_iff]

/-! ## a day of polls every fifteen seconds -/

/-- Five thousand polls in bulk charge. -/
def bulkPolls : List (Timestamp × String) := pollsOn 13 0 15 5000 "MPPT"

/-- The poll after them. -/
def floatPolls : List (Timestamp × String) := pollsOn 13 75000 15 1 "FLOAT"

def bulkStore : TelemetryDb := stateStore (bulkPolls ++ floatPolls)

def bulkTexts : PyTexts := .ofTimes ((bulkPolls ++ floatPolls).map Prod.fst)

/-- The window has both stretches of polls. -/
theorem windowRows_bulkStore :
    windowRows movedScope (julyWindow 13 14) bulkStore =
      bulkPolls.map statePoint ++ floatPolls.map statePoint :=
  windowRows_pollsOn (by decide) (by decide) (by decide) (by decide) (by decide) (by decide)

theorem windowOf_july : windowOf (july 14 0) 1 = .ok (julyWindow 13 14) := rfl

/-- A day of `BULK`, then `FLOAT` beyond the limit. -/
theorem summary_covers_iff_bulk :
    ∃ summary, chargeCycleSummary bulkTexts plainUpper plainEnv "ctrl" (july 14 0) bulkStore
        movedController = .ok (movedController, summary) ∧
      (CoversStates summary
          (bulkTexts.chargeStates plainUpper (windowRows movedScope (julyWindow 13 14) bulkStore)) ↔
        AddsNothing
          (bulkTexts.chargeStates plainUpper
            ((windowRows movedScope (julyWindow 13 14) bulkStore).take 5000))
          (bulkTexts.chargeStates plainUpper
            ((windowRows movedScope (julyWindow 13 14) bulkStore).drop 5000))) :=
  summary_covers_iff bulkTexts plainUpper (by decide) movedController_scope windowOf_july bulkStore

/-- The float after 5000 polls in bulk is not in the summary. -/
theorem not_summary_covers_bulk :
    ∃ summary, chargeCycleSummary bulkTexts plainUpper plainEnv "ctrl" (july 14 0) bulkStore
        movedController = .ok (movedController, summary) ∧
      ¬ CoversStates summary
        (bulkTexts.chargeStates plainUpper
          (windowRows movedScope (julyWindow 13 14) bulkStore)) := by
  refine ⟨_, chargeCycleSummary_eq bulkTexts plainUpper (by decide) movedController_scope
    windowOf_july bulkStore, fun h => ?_⟩
  have hlength : (bulkPolls.map statePoint).length = 5000 := by simp [bulkPolls]
  have hlast : ∀ {first n : Nat} {state : String},
      plainUpper (Text.strip state) = state ∧ state ≠ "" → n ≠ 0 →
        (bulkTexts.chargeStates plainUpper
          ((pollsOn 13 first 15 n state).map statePoint)).getLast?.map ChargeState.state =
            some state := by
    intro first n state hstate hn
    rw [chargeStates_pollsOn bulkTexts hstate, pollsOn]
    simp [List.getLast?_range, hn]
  have hsequence : (summarizeCycles bulkTexts plainUpper "ctrl"
      ((windowRows movedScope (julyWindow 13 14) bulkStore).take 5000)).stageSequence =
        stageSequence (bulkTexts.chargeStates plainUpper (bulkPolls.map statePoint)) := by
    rw [windowRows_bulkStore, List.take_left' hlength, summarizeCycles, foldl_cycleTurn,
      foldl_observe]
    rfl
  have hbulk : (bulkTexts.chargeStates plainUpper (bulkPolls.map statePoint)).getLast?.map
      ChargeState.state = some "MPPT" := hlast (by decide) (by decide)
  have hfloat : (bulkTexts.chargeStates plainUpper (floatPolls.map statePoint)).getLast?.map
      ChargeState.state = some "FLOAT" := hlast (by decide) (by decide)
  have hnewest := h.newest
  rw [hsequence, getLast?_stageSequence, windowRows_bulkStore, chargeStates_append,
    List.getLast?_append, Option.map_or, hbulk, hfloat] at hnewest
  exact absurd (Option.some.inj hnewest) (by decide)

end MorningstarModbus
