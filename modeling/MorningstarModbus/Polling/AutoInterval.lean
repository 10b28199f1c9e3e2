import Mathlib.Data.List.Infix
import MorningstarModbus.Lib.Loop
import MorningstarModbus.Polling.Service

/-!
# MorningstarModbus.Polling.AutoInterval

Runs of the interval selection: `observe` and `reset` calls in any order, with
any controllers and any samples.  A run remembers the `observe` calls since the
last reset.

* `Proven` — an interval at which every controller of some call passed, on
  samples that were taken at that interval;
* `Inv` — what a run keeps from call to call;
* `auto_interval_selection` — intervals are tested from slow to fast, and the
  one that is locked is the fallback or proven.
-/

namespace MorningstarModbus

open Query

/-! ## runs -/

inductive AutoPollCall where
  | observe (samples : Dict String PollPerformanceSample) (controllerIds : List String)
  | reset

/-- An `observe` call and what it met. -/
structure ObserveCall where
  calibrating : Bool
  interval : Option ℚ
  tested : Bool
  samples : Dict String PollPerformanceSample
  controllerIds : List String

namespace AutoPollIntervalController

/-- A call with these arguments tests the current interval. -/
def tests (samples : Dict String PollPerformanceSample) (controllerIds : List String)
    (c : AutoPollIntervalController) : Bool :=
  c.calibrating && !controllerIds.isEmpty && (c.collect samples controllerIds).ready controllerIds

/-- A new controller, and what it was checked for. -/
theorem create_eq_ok {intervalsSeconds : List ℚ}
    {samplesPerInterval : Int} {thresholds : BenchmarkThresholds} {fallback : ℚ}
    {start : AutoPollIntervalController}
    (h : create intervalsSeconds samplesPerInterval thresholds fallback = .ok start) :
    intervalsSeconds ≠ [] ∧ (∀ x ∈ intervalsSeconds, x ≤ fallback) ∧ 3 ≤ samplesPerInterval ∧
      start =
        { intervalsSeconds := orderBy id .desc (Table.distinct (intervalsSeconds ++ [fallback]))
          samplesPerInterval := samplesPerInterval.toNat
          thresholds
          fallbackIntervalSeconds := fallback } := by
  unfold create at h
  cases hmax : intervalsSeconds.max? with
  | none => simp [hmax] at h
  | some slowest =>
      simp only [hmax] at h
      split_ifs at h with hfew hslow
      obtain ⟨hmem, hslowest⟩ := List.max?_eq_some_iff.mp hmax
      exact ⟨List.ne_nil_of_mem hmem, fun x hx => (hslowest x hx).trans (not_lt.mp hslow),
        not_lt.mp hfew, (Except.ok.inj h).symm⟩

end AutoPollIntervalController

/-- A controller with the `observe` calls since the last reset, oldest first. -/
structure AutoRun where
  controller : AutoPollIntervalController
  since : List ObserveCall := []

namespace AutoRun

/-- The record of a call. -/
def call (samples : Dict String PollPerformanceSample) (controllerIds : List String)
    (r : AutoRun) : ObserveCall where
  calibrating := r.controller.calibrating
  interval := r.controller.currentIntervalSeconds
  tested := r.controller.tests samples controllerIds
  samples
  controllerIds

def step (env : PollingEnv) (r : AutoRun) : AutoPollCall → Except AutoPollError AutoRun
  | .observe samples controllerIds => do
      let (controller, _) ← r.controller.observe env samples controllerIds
      return { controller, since := r.since ++ [r.call samples controllerIds] }
  | .reset => .ok { controller := r.controller.reset }

def run (env : PollingEnv) (start : AutoPollIntervalController) (calls : List AutoPollCall) :
    Except AutoPollError AutoRun :=
  calls.foldlM (step env) { controller := start }

/-- The intervals tested since the last reset. -/
def testedIntervals (r : AutoRun) : List ℚ :=
  (r.since.filter ObserveCall.tested).filterMap ObserveCall.interval

end AutoRun

/-- The sample of a controller that a call passed while an interval was current. -/
def ObserveCall.sampleAt (interval : ℚ) (controllerId : String) (call : ObserveCall) :
    Option PollPerformanceSample :=
  if call.calibrating ∧ call.interval = some interval ∧ controllerId ∈ call.controllerIds then
    call.samples controllerId
  else none

/-- The samples of a controller taken while an interval was current. -/
def samplesAt (interval : ℚ) (controllerId : String) (calls : List ObserveCall) :
    List PollPerformanceSample :=
  calls.filterMap (ObserveCall.sampleAt interval controllerId)

/-- In some call every controller of its set passed the benchmark of the interval on
its last samples, all taken at that interval. -/
def Proven (env : PollingEnv) (thresholds : BenchmarkThresholds) (samplesPerInterval : Nat)
    (calls : List ObserveCall) (interval : ℚ) : Prop :=
  ∃ before call after, calls = before ++ call :: after ∧ call.calibrating = true ∧
    call.interval = some interval ∧ call.controllerIds ≠ [] ∧
    ∀ id ∈ call.controllerIds, ∃ window, window.length = samplesPerInterval ∧
      window <:+ samplesAt interval id (before ++ [call]) ∧
      (evaluateBenchmarkStage env interval window thresholds).passed = true

section Selection

variable {env : PollingEnv} {start c : AutoPollIntervalController} {r r' : AutoRun}
  {samples : Dict String PollPerformanceSample} {ids : List String} {interval : ℚ} {id : String}
  {calls : List ObserveCall} {new : ObserveCall}

theorem Proven.append {thresholds : BenchmarkThresholds} {n : Nat}
    (h : Proven env thresholds n calls interval) (new : ObserveCall) :
    Proven env thresholds n (calls ++ [new]) interval := by
  obtain ⟨before, call, after, rfl, hproven⟩ := h
  exact ⟨before, call, after ++ [new], by simp, hproven⟩

theorem samplesAt_append :
    samplesAt interval id (calls ++ [new]) =
      samplesAt interval id calls ++ (new.sampleAt interval id).toList := by
  rw [samplesAt, List.filterMap_append, ← samplesAt]
  cases h : new.sampleAt interval id <;> simp [h]

/-! ## one call -/

namespace AutoPollIntervalController

theorem samplesOf_collect :
    (c.collect samples ids).samplesOf id =
      c.samplesOf id ++ (if id ∈ ids then samples id else none).toList := by
  simp only [samplesOf, collect]
  by_cases hid : id ∈ ids
  · simp only [if_pos hid]
    cases samples id <;> simp
  · simp [if_neg hid]

theorem failures_eq_nil_iff :
    c.failures env interval ids = [] ↔ ∀ id ∈ ids, (c.stage env interval id).passed = true := by
  simp only [failures, List.filterMap_eq_nil_iff, mem_orderBy, Table.mem_distinct,
    ite_eq_left_iff, reduceCtorEq, imp_false, not_not]

theorem collect_nil : c.collect samples [] = c := by
  have hsamples : (c.collect samples []).samples = c.samples := by
    funext id
    simp [collect]
  calc c.collect samples [] = { c with samples := (c.collect samples []).samples } := rfl
    _ = { c with samples := c.samples } := by rw [hsamples]
    _ = c := rfl

/-- A call that does not test collects the samples, unless an interval is locked. -/
theorem observe_of_not_tests (h : c.tests samples ids = false) :
    c.observe env samples ids =
      .ok (if c.calibrating then c.collect samples ids else c, none) := by
  unfold observe
  by_cases hlocked : c.lockedInterval.isSome = true
  · have hcalibrating : c.calibrating = false := by
      simpa [calibrating] using hlocked
    rw [if_pos (.inl hlocked), hcalibrating]
    rfl
  · have hcalibrating : c.calibrating = true := by
      simpa [calibrating] using hlocked
    rw [hcalibrating, if_pos rfl]
    by_cases hids : ids = []
    · rw [if_pos (.inr hids), hids, collect_nil]
    · have hready : ¬ (c.collect samples ids).ready ids = true := by
        simpa [tests, hcalibrating, hids] using h
      rw [if_neg (by simp [hlocked, hids])]
      dsimp only
      rw [if_pos hready]

/-- A call that tests concludes on the current interval. -/
theorem observe_of_tests (h : c.tests samples ids = true)
    (hcurrent : c.currentIntervalSeconds = some interval) :
    c.observe env samples ids = .ok (((c.collect samples ids).conclude env interval ids).1,
      some ((c.collect samples ids).conclude env interval ids).2) := by
  simp only [tests, Bool.and_eq_true, Bool.not_eq_true', List.isEmpty_eq_false_iff] at h
  obtain ⟨⟨hcalibrating, hids⟩, hready⟩ := h
  have hlocked : ¬ c.lockedInterval.isSome = true := by
    simpa [calibrating] using hcalibrating
  have hcurrent' : (c.collect samples ids).currentIntervalSeconds = some interval := hcurrent
  unfold observe
  rw [if_neg (by simp [hlocked, hids])]
  dsimp only
  rw [if_neg (not_not_intro hready), hcurrent']

/-- What a test leads to: a lock on the last safe interval, the next stage, or a lock on
the last stage. -/
theorem conclude_cases (env : PollingEnv) (interval : ℚ) (ids : List String)
    (c : AutoPollIntervalController) :
    (c.failures env interval ids ≠ [] ∧ (c.conclude env interval ids).1 =
        { c with samples := Dict.empty, lockedInterval := some c.safeOrFallback }) ∨
      (c.failures env interval ids = [] ∧ c.stageIndex + 1 < c.intervalsSeconds.length ∧
        (c.conclude env interval ids).1 = { c with
          samples := Dict.empty, lastSafeInterval := some interval,
          stageIndex := c.stageIndex + 1 }) ∨
      (c.failures env interval ids = [] ∧ c.intervalsSeconds.length ≤ c.stageIndex + 1 ∧
        (c.conclude env interval ids).1 = { c with
          samples := Dict.empty, lastSafeInterval := some interval,
          lockedInterval := some interval }) := by
  by_cases hfail : c.failures env interval ids = []
  · unfold conclude
    simp only [hfail, ne_eq, not_true_eq_false, if_false, true_and, false_and, false_or]
    cases hnext : c.intervalsSeconds[c.stageIndex + 1]? with
    | some next => exact .inl ⟨(List.getElem?_eq_some_iff.mp hnext).1, rfl⟩
    | none => exact .inr ⟨List.getElem?_eq_none_iff.mp hnext, rfl⟩
  · refine .inl ⟨hfail, ?_⟩
    unfold conclude
    simp only [ne_eq, hfail, not_false_eq_true, if_true]

end AutoPollIntervalController

/-! ## the invariant -/

namespace AutoRun

/-- What a run from `start` keeps. -/
structure Inv (env : PollingEnv) (start : AutoPollIntervalController) (r : AutoRun) : Prop where
  intervals : r.controller.intervalsSeconds = start.intervalsSeconds
  samplesPerInterval : r.controller.samplesPerInterval = start.samplesPerInterval
  thresholds : r.controller.thresholds = start.thresholds
  fallback : r.controller.fallbackIntervalSeconds = start.fallbackIntervalSeconds
  index : r.controller.stageIndex < start.intervalsSeconds.length
  /-- the stages before the current one were tested, and that one if it is over -/
  tested : r.testedIntervals = start.intervalsSeconds.take
    (if r.controller.calibrating then r.controller.stageIndex else r.controller.stageIndex + 1)
  /-- no later stage was met -/
  visited : ∀ call ∈ r.since, call.calibrating = true → ∀ interval, call.interval = some interval →
    interval ∈ start.intervalsSeconds.take (r.controller.stageIndex + 1)
  collected : r.controller.calibrating = true → ∀ interval,
    start.intervalsSeconds[r.controller.stageIndex]? = some interval →
      ∀ id, r.controller.samplesOf id = samplesAt interval id r.since
  safe : ∀ interval, r.controller.lastSafeInterval = some interval →
    Proven env start.thresholds start.samplesPerInterval r.since interval
  locked : ∀ interval, r.controller.lockedInterval = some interval →
    interval = start.fallbackIntervalSeconds ∨
      Proven env start.thresholds start.samplesPerInterval r.since interval

/-- A new or a reset controller. -/
theorem Inv.fresh (hne : start.intervalsSeconds ≠ [])
    (hintervals : c.intervalsSeconds = start.intervalsSeconds)
    (hsamples : c.samplesPerInterval = start.samplesPerInterval)
    (hthresholds : c.thresholds = start.thresholds)
    (hfallback : c.fallbackIntervalSeconds = start.fallbackIntervalSeconds) :
    Inv env start { controller := c.reset } where
  intervals := hintervals
  samplesPerInterval := hsamples
  thresholds := hthresholds
  fallback := hfallback
  index := List.length_pos_iff.mpr hne
  tested := rfl
  visited := by simp
  collected := fun _ _ _ _ => rfl
  safe := by simp [AutoPollIntervalController.reset]
  locked := by simp [AutoPollIntervalController.reset]

/-- A controller that is not locked is at its stage. -/
theorem Inv.current (h : Inv env start r) (hcalibrating : r.controller.calibrating = true) :
    ∃ interval, start.intervalsSeconds[r.controller.stageIndex]? = some interval ∧
      r.controller.currentIntervalSeconds = some interval := by
  have hlocked : r.controller.lockedInterval = none := by
    simpa [AutoPollIntervalController.calibrating] using hcalibrating
  refine ⟨_, List.getElem?_eq_getElem h.index, ?_⟩
  rw [AutoPollIntervalController.currentIntervalSeconds, hlocked, h.intervals]
  exact List.getElem?_eq_getElem h.index

/-- The calls after one more met no later stage. -/
theorem Inv.visited_append (h : Inv env start r) :
    ∀ call ∈ r.since ++ [r.call samples ids], call.calibrating = true → ∀ interval,
      call.interval = some interval →
        interval ∈ start.intervalsSeconds.take (r.controller.stageIndex + 1) := by
  intro call hcall hcalibrating interval hinterval
  rw [List.mem_append, List.mem_singleton] at hcall
  cases hcall with
  | inl hcall => exact h.visited call hcall hcalibrating interval hinterval
  | inr hcall =>
      subst hcall
      obtain ⟨current, hstage, hcurrent⟩ := h.current hcalibrating
      have heq : current = interval := Option.some.inj (hcurrent.symm.trans hinterval)
      subst heq
      exact List.mem_take_iff_getElem.mpr ⟨r.controller.stageIndex, by have := h.index; omega,
        (List.getElem?_eq_some_iff.mp hstage).2⟩

/-- Collecting keeps the samples those of the current stage. -/
theorem Inv.collected_append (h : Inv env start r) (hcalibrating : r.controller.calibrating = true)
    (hstage : start.intervalsSeconds[r.controller.stageIndex]? = some interval) (id : String) :
    (r.controller.collect samples ids).samplesOf id =
      samplesAt interval id (r.since ++ [r.call samples ids]) := by
  obtain ⟨current, hstage', hcurrent⟩ := h.current hcalibrating
  have heq : current = interval := Option.some.inj (hstage'.symm.trans hstage)
  rw [samplesAt_append, AutoPollIntervalController.samplesOf_collect,
    h.collected hcalibrating interval hstage]
  simp [ObserveCall.sampleAt, call, hcalibrating, hcurrent, heq]

theorem testedIntervals_append {controller : AutoPollIntervalController} :
    (AutoRun.mk controller (r.since ++ [r.call samples ids])).testedIntervals =
      r.testedIntervals ++
        if r.controller.tests samples ids then r.controller.currentIntervalSeconds.toList
        else [] := by
  simp only [testedIntervals, List.filter_append, List.filterMap_append, List.filter_singleton]
  cases htests : r.controller.tests samples ids with
  | false => simp [call, htests]
  | true =>
      cases hcurrent : r.controller.currentIntervalSeconds <;> simp [call, htests, hcurrent]

/-- A call that does not test. -/
theorem Inv.observe_of_not_tests (h : Inv env start r)
    (htests : r.controller.tests samples ids = false) :
    Inv env start
      { controller := if r.controller.calibrating then r.controller.collect samples ids
          else r.controller
        since := r.since ++ [r.call samples ids] } := by
  obtain ⟨c', hc'⟩ : ∃ c', c' = if r.controller.calibrating then r.controller.collect samples ids
    else r.controller := ⟨_, rfl⟩
  have hsame : c'.intervalsSeconds = r.controller.intervalsSeconds ∧
      c'.samplesPerInterval = r.controller.samplesPerInterval ∧
      c'.thresholds = r.controller.thresholds ∧
      c'.fallbackIntervalSeconds = r.controller.fallbackIntervalSeconds ∧
      c'.stageIndex = r.controller.stageIndex ∧
      c'.lastSafeInterval = r.controller.lastSafeInterval ∧
      c'.lockedInterval = r.controller.lockedInterval := by
    rw [hc']
    split
    · exact ⟨rfl, rfl, rfl, rfl, rfl, rfl, rfl⟩
    · exact ⟨rfl, rfl, rfl, rfl, rfl, rfl, rfl⟩
  obtain ⟨hintervals, hsamples, hthresholds, hfallback, hindex, hsafe, hlocked⟩ := hsame
  have hcalibrating : c'.calibrating = r.controller.calibrating := congrArg Option.isNone hlocked
  rw [← hc']
  exact {
    intervals := hintervals.trans h.intervals
    samplesPerInterval := hsamples.trans h.samplesPerInterval
    thresholds := hthresholds.trans h.thresholds
    fallback := hfallback.trans h.fallback
    index := by rw [hindex]; exact h.index
    tested := by
      rw [testedIntervals_append, htests, h.tested, hcalibrating, hindex]
      simp
    visited := by
      rw [hindex]
      exact h.visited_append
    collected := by
      intro hc interval hstage id
      rw [hindex] at hstage
      rw [hcalibrating] at hc
      rw [hc', hc, if_pos rfl]
      exact h.collected_append hc hstage id
    safe := fun interval hinterval => (h.safe interval (hsafe ▸ hinterval)).append _
    locked := by
      intro interval hinterval
      cases h.locked interval (hlocked ▸ hinterval) with
      | inl hfall => exact .inl hfall
      | inr hproven => exact .inr (hproven.append _) }

/-- A later interval of a decreasing list is none of the earlier ones. -/
theorem notMem_take {xs : List ℚ} (hsorted : xs.Pairwise (· > ·)) {k : Nat} {x : ℚ}
    (hx : xs[k]? = some x) : x ∉ xs.take k := by
  intro hmem
  obtain ⟨i, hi, heq⟩ := List.mem_take_iff_getElem.mp hmem
  obtain ⟨hlt, hget⟩ := List.getElem?_eq_some_iff.mp hx
  have hgt := List.pairwise_iff_getElem.mp hsorted i k (by omega) hlt (by omega)
  rw [heq, hget] at hgt
  exact lt_irrefl x hgt

/-- A test that every controller passes proves its interval. -/
theorem Inv.proven (h : Inv env start r) (htests : r.controller.tests samples ids = true)
    (hstage : start.intervalsSeconds[r.controller.stageIndex]? = some interval)
    (hpass : (r.controller.collect samples ids).failures env interval ids = []) :
    Proven env start.thresholds start.samplesPerInterval
      (r.since ++ [r.call samples ids]) interval := by
  simp only [AutoPollIntervalController.tests, Bool.and_eq_true, Bool.not_eq_true',
    List.isEmpty_eq_false_iff] at htests
  obtain ⟨⟨hcalibrating, hids⟩, hready⟩ := htests
  obtain ⟨current, hstage', hcurrent⟩ := h.current hcalibrating
  have heq : current = interval := Option.some.inj (hstage'.symm.trans hstage)
  refine ⟨r.since, r.call samples ids, [], rfl, hcalibrating, by rw [← heq]; exact hcurrent, hids, ?_⟩
  intro id hid
  have hpassed := AutoPollIntervalController.failures_eq_nil_iff.mp hpass id hid
  have hlen := of_decide_eq_true (List.all_eq_true.mp hready id hid)
  rw [← h.samplesPerInterval, ← h.thresholds, ← h.collected_append hcalibrating hstage id]
  refine ⟨_, ?_, List.drop_suffix _ _, hpassed⟩
  rw [List.length_drop]
  exact Nat.sub_sub_self hlen

/-- A call that tests. -/
theorem Inv.observe_of_tests (hsorted : start.intervalsSeconds.Pairwise (· > ·))
    (h : Inv env start r) (htests : r.controller.tests samples ids = true)
    (hstage : start.intervalsSeconds[r.controller.stageIndex]? = some interval) :
    Inv env start
      { controller := ((r.controller.collect samples ids).conclude env interval ids).1
        since := r.since ++ [r.call samples ids] } := by
  have hcalibrating : r.controller.calibrating = true := by
    simp only [AutoPollIntervalController.tests, Bool.and_eq_true] at htests
    exact htests.1.1
  obtain ⟨current, hstage', hcurrent⟩ := h.current hcalibrating
  have heq : current = interval := Option.some.inj (hstage'.symm.trans hstage)
  subst heq
  have hindex := h.index
  have htested : r.testedIntervals ++ [current] =
      start.intervalsSeconds.take (r.controller.stageIndex + 1) := by
    rw [List.take_add_one, hstage, h.tested, hcalibrating]
    rfl
  have hall : ∀ controller : AutoPollIntervalController,
      (AutoRun.mk controller (r.since ++ [r.call samples ids])).testedIntervals =
        start.intervalsSeconds.take (r.controller.stageIndex + 1) := by
    intro controller
    rw [testedIntervals_append, htests, hcurrent, ← htested]
    rfl
  have hsafe : ∀ v, r.controller.lastSafeInterval = some v →
      Proven env start.thresholds start.samplesPerInterval
        (r.since ++ [r.call samples ids]) v :=
    fun v hv => (h.safe v hv).append _
  have hlocked : r.controller.lockedInterval = none := by
    simpa [AutoPollIntervalController.calibrating] using hcalibrating
  have hfallback : r.controller.fallbackIntervalSeconds = start.fallbackIntervalSeconds := h.fallback
  obtain ⟨hfail, hnew⟩ | ⟨hpass, hnext, hnew⟩ | ⟨hpass, -, hnew⟩ :=
    (r.controller.collect samples ids).conclude_cases env current ids
  · rw [hnew]
    exact {
      intervals := h.intervals
      samplesPerInterval := h.samplesPerInterval
      thresholds := h.thresholds
      fallback := h.fallback
      index := hindex
      tested := hall _
      visited := h.visited_append
      collected := fun hc => by simp [AutoPollIntervalController.calibrating] at hc
      safe := hsafe
      locked := by
        intro v hv
        have hv' : r.controller.safeOrFallback = v := Option.some.inj hv
        cases hlast : r.controller.lastSafeInterval with
        | none => exact .inl (by rw [← hv', AutoPollIntervalController.safeOrFallback, hlast, hfallback])
        | some safe =>
            rw [AutoPollIntervalController.safeOrFallback, hlast] at hv'
            dsimp only at hv'
            split at hv'
            · exact .inl (by rw [← hv', hfallback])
            · exact .inr (hv' ▸ hsafe safe hlast) }
  · have hproven := h.proven htests hstage hpass
    rw [hnew]
    exact {
      intervals := h.intervals
      samplesPerInterval := h.samplesPerInterval
      thresholds := h.thresholds
      fallback := h.fallback
      index := by rw [← h.intervals]; exact hnext
      tested := by
        rw [hall]
        show _ = start.intervalsSeconds.take (if r.controller.calibrating then
          r.controller.stageIndex + 1 else r.controller.stageIndex + 1 + 1)
        rw [if_pos hcalibrating]
      visited := fun call hcall hc v hv => List.take_subset_take_left _ (Nat.le_succ _)
        (h.visited_append call hcall hc v hv)
      collected := by
        intro _ next hnextStage id
        -- the next interval comes after all that were met
        have hnone : ∀ call ∈ r.since ++ [r.call samples ids], call.sampleAt next id = none := by
          intro call hcall
          rw [ObserveCall.sampleAt, if_neg]
          rintro ⟨hc, hinterval, -⟩
          exact notMem_take hsorted hnextStage (h.visited_append call hcall hc next hinterval)
        exact (List.filterMap_eq_nil_iff.mpr hnone).symm
      safe := by
        intro v hv
        rw [← Option.some.inj hv]
        exact hproven
      locked := fun v hv => absurd (hv.symm.trans hlocked) (by simp) }
  · have hproven := h.proven htests hstage hpass
    rw [hnew]
    exact {
      intervals := h.intervals
      samplesPerInterval := h.samplesPerInterval
      thresholds := h.thresholds
      fallback := h.fallback
      index := hindex
      tested := hall _
      visited := h.visited_append
      collected := fun hc => by simp [AutoPollIntervalController.calibrating] at hc
      safe := by
        intro v hv
        rw [← Option.some.inj hv]
        exact hproven
      locked := by
        intro v hv
        rw [← Option.some.inj hv]
        exact .inr hproven }

/-- Every call keeps the invariant, and none fails. -/
theorem Inv.step (hsorted : start.intervalsSeconds.Pairwise (· > ·)) (h : Inv env start r)
    (call : AutoPollCall) : ∃ r', AutoRun.step env r call = .ok r' ∧ Inv env start r' := by
  cases call with
  | reset =>
      exact ⟨_, rfl, Inv.fresh (List.ne_nil_of_length_pos (Nat.zero_lt_of_lt h.index)) h.intervals
        h.samplesPerInterval h.thresholds h.fallback⟩
  | observe samples ids =>
      cases htests : r.controller.tests samples ids with
      | false =>
          refine ⟨_, ?_, h.observe_of_not_tests htests⟩
          rw [AutoRun.step, AutoPollIntervalController.observe_of_not_tests htests]
          rfl
      | true =>
          have hcalibrating : r.controller.calibrating = true := by
            simp only [AutoPollIntervalController.tests, Bool.and_eq_true] at htests
            exact htests.1.1
          obtain ⟨interval, hstage, hcurrent⟩ := h.current hcalibrating
          refine ⟨_, ?_, h.observe_of_tests hsorted htests hstage⟩
          rw [AutoRun.step, AutoPollIntervalController.observe_of_tests htests hcurrent]
          rfl

theorem Inv.run (hsorted : start.intervalsSeconds.Pairwise (· > ·)) (h : Inv env start r)
    (calls : List AutoPollCall) :
    ∃ r', calls.foldlM (AutoRun.step env) r = .ok r' ∧ Inv env start r' := by
  induction calls generalizing r with
  | nil => exact ⟨r, rfl, h⟩
  | cons call calls ih =>
      obtain ⟨next, hstep, hnext⟩ := h.step hsorted call
      obtain ⟨r', hrun, hr'⟩ := ih hnext
      exact ⟨r', by rw [List.foldlM_cons, hstep]; exact hrun, hr'⟩

/-- A locked interval stays through `observe` calls. -/
theorem locked_stays (hlocked : r.controller.lockedInterval = some interval)
    {more : List AutoPollCall} (hmore : .reset ∉ more) :
    ∃ r', more.foldlM (AutoRun.step env) r = .ok r' ∧ r'.controller = r.controller := by
  induction more generalizing r with
  | nil => exact ⟨r, rfl, rfl⟩
  | cons call more ih =>
      rw [List.mem_cons, not_or] at hmore
      cases call with
      | reset => exact absurd rfl hmore.1
      | observe samples ids =>
          obtain ⟨next, hnext⟩ : ∃ next, next = AutoRun.mk r.controller
            (r.since ++ [r.call samples ids]) := ⟨_, rfl⟩
          have hstep : AutoRun.step env r (.observe samples ids) = .ok next := by
            rw [AutoRun.step, AutoPollIntervalController.observe, hlocked, hnext]
            rfl
          have hsame : next.controller = r.controller := by rw [hnext]
          obtain ⟨r', hrun, hsame'⟩ := ih (by rw [hsame]; exact hlocked) hmore.2
          rw [hsame] at hsame'
          exact ⟨r', by rw [List.foldlM_cons, hstep]; exact hrun, hsame'⟩

end AutoRun

/-! ## the selection -/

/-- What the selection guarantees of a run since its last reset. -/
structure AutoRun.Sound (env : PollingEnv) (start : AutoPollIntervalController) (r : AutoRun) :
    Prop where
  intervals : r.controller.intervalsSeconds = start.intervalsSeconds
  index : r.controller.stageIndex < r.controller.intervalsSeconds.length
  decreasing : r.testedIntervals.Pairwise (· > ·)
  locked : ∀ interval, r.controller.lockedInterval = some interval →
    interval = start.fallbackIntervalSeconds ∨
      Proven env start.thresholds start.samplesPerInterval r.since interval
  stays : ∀ interval, r.controller.lockedInterval = some interval →
    ∀ more : List AutoPollCall, .reset ∉ more → ∃ r', more.foldlM (AutoRun.step env) r = .ok r' ∧
      r'.controller.currentIntervalSeconds = some interval

theorem AutoRun.Inv.sound (hsorted : start.intervalsSeconds.Pairwise (· > ·))
    (h : AutoRun.Inv env start r) : r.Sound env start where
  intervals := h.intervals
  index := by rw [h.intervals]; exact h.index
  decreasing := by
    rw [h.tested]
    exact hsorted.sublist (List.take_sublist _ _)
  locked := h.locked
  stays := by
    intro interval hlocked more hmore
    obtain ⟨r', hrun, hsame⟩ := AutoRun.locked_stays hlocked hmore
    refine ⟨r', hrun, ?_⟩
    rw [hsame, AutoPollIntervalController.currentIntervalSeconds, hlocked]

/-- The intervals of a new controller: not empty, and strictly decreasing. -/
theorem AutoPollIntervalController.create_intervals {intervalsSeconds : List ℚ}
    {samplesPerInterval : Int} {thresholds : BenchmarkThresholds} {fallback : ℚ}
    (h : create intervalsSeconds samplesPerInterval thresholds fallback = .ok start) :
    start.reset = start ∧ start.intervalsSeconds ≠ [] ∧
      start.intervalsSeconds.Pairwise (· > ·) := by
  obtain ⟨-, -, -, rfl⟩ := create_eq_ok h
  refine ⟨rfl, ?_, ?_⟩
  · have hmem : fallback ∈ orderBy id .desc (Table.distinct (intervalsSeconds ++ [fallback])) := by
      simp [Table.mem_distinct]
    exact List.ne_nil_of_mem hmem
  · have hnodup : (orderBy id .desc (Table.distinct (intervalsSeconds ++ [fallback]))).Nodup :=
      (orderBy_perm _ _ _).nodup_iff.mpr (Table.nodup_distinct _)
    refine (pairwise_orderBy id .desc (Table.distinct (intervalsSeconds ++ [fallback]))).imp₂ ?_
      hnodup
    intro x y hle hne
    exact lt_of_le_of_ne hle hne.symm

/-- Through any calls the intervals are tested from slow to fast, and an interval that
is locked is the fallback or proven, and stays until a reset. -/
theorem auto_interval_selection {intervalsSeconds : List ℚ} {samplesPerInterval : Int}
    {thresholds : BenchmarkThresholds} {fallback : ℚ}
    (hcreate : AutoPollIntervalController.create intervalsSeconds samplesPerInterval thresholds
      fallback = .ok start) (env : PollingEnv) (calls : List AutoPollCall) :
    ∃ r, AutoRun.run env start calls = .ok r ∧ r.Sound env start := by
  obtain ⟨hreset, hne, hsorted⟩ := AutoPollIntervalController.create_intervals hcreate
  have hfresh : AutoRun.Inv env start { controller := start.reset } :=
    AutoRun.Inv.fresh hne rfl rfl rfl rfl
  rw [hreset] at hfresh
  obtain ⟨r, hrun, hr⟩ := hfresh.run hsorted calls
  exact ⟨r, hrun, hr.sound hsorted⟩

end Selection

/-- A fast poll of one controller. -/
def fastSample : PollPerformanceSample where
  observedAt := "2026-08-15T00:00:00+00:00"
  transport := .tcp
  configuredIntervalSeconds := 5
  pollLatencyMs := 100
  requestCount := 1
  successfulRequests := 1
  failedRequests := 0
  requestBytes := 8
  responseBytes := 9
  estimatedWireTimeMs := none
  busUtilizationPercent := none
  deadlineMissed := false
  success := true

/-- Three polls of one controller, a reset, and one more poll. -/
theorem auto_interval_selection_reset :
    ∃ start r, AutoPollIntervalController.create [1, 1 / 2] 3 {} 5 = .ok start ∧
      AutoRun.run ⟨fun _ => none, fun _ => ""⟩ start
        (List.replicate 3 (.observe (Dict.empty.set "ctrl_a" fastSample) ["ctrl_a"]) ++
          [.reset, .observe (Dict.empty.set "ctrl_a" fastSample) ["ctrl_a"]]) = .ok r ∧
      r.Sound ⟨fun _ => none, fun _ => ""⟩ start := by
  have hok : (AutoPollIntervalController.create [1, 1 / 2] 3 {} 5).toBool = true := by
    decide +kernel
  obtain ⟨start, hcreate⟩ := Loop.exists_ok hok
  obtain ⟨r, hrun, hr⟩ := auto_interval_selection hcreate ⟨fun _ => none, fun _ => ""⟩
    (List.replicate 3 (.observe (Dict.empty.set "ctrl_a" fastSample) ["ctrl_a"]) ++
      [.reset, .observe (Dict.empty.set "ctrl_a" fastSample) ["ctrl_a"]])
  exact ⟨start, r, hcreate, hrun, hr⟩

end MorningstarModbus
