import MorningstarModbus.Config.Settings
import MorningstarModbus.Polling.Benchmark
import MorningstarModbus.Runtime.Watcher

/-!
# MorningstarModbus.Runtime.PollLoop

The loop of the watcher (`run` and the calibration in `_refresh_devices` of
`runtime/watcher.py`): refreshes of the devices, which start the calibration anew when the
controllers or their endpoints changed, and cycles of polls, which it observes.

* `poll_loop_calibrated` — under settings that were accepted the interval of the loop stays within
  their bounds, and a faster one than the fallback was proven by the controllers that are there;
* `WatchedLoop` — a loop over one device, with the polls that its lifecycle lets through;
* `auto_agrees_with_benchmark` — there the calibration locks the interval that the benchmark of the
  command line recommends.
-/

namespace MorningstarModbus

open Query

/-! ## settings -/

/-- The interval of the settings, unless it is calibrated. -/
def PollInterval.fixed : PollInterval → Option ℚ
  | .seconds x => some x.rat
  | .auto => none

def PollBenchmarkConfig.thresholds (benchmark : PollBenchmarkConfig) : BenchmarkThresholds where
  minSuccessRate := benchmark.minSuccessRate.rat
  maxP95IntervalRatio := benchmark.maxP95IntervalRatio.rat
  maxDeadlineMissRate := benchmark.maxDeadlineMissRate.rat
  maxRequestFailureRate := benchmark.maxRequestFailureRate.rat
  maxBusUtilizationPercent := benchmark.maxBusUtilizationPercent.rat

/-- The settings as the benchmark reads them. -/
def PollBenchmarkConfig.settings (benchmark : PollBenchmarkConfig) : BenchmarkSettings where
  intervalsSeconds := benchmark.intervalsSeconds.map PyFloat.rat
  samplesPerInterval := benchmark.samplesPerInterval
  minimumIntervalSeconds := benchmark.minimumIntervalSeconds.rat
  thresholds := benchmark.thresholds

/-- The numbers that the loop computes with are neither infinite nor `nan`. -/
structure AppConfig.Finite (config : AppConfig) (interval : PollInterval) : Prop where
  interval : ∀ x, interval = .seconds x → x.isFinite = true
  writes : config.database.telemetryWriteIntervalSeconds.isFinite = true
  minimum : config.pollBenchmark.minimumIntervalSeconds.isFinite = true
  stages : ∀ x ∈ config.pollBenchmark.intervalsSeconds, x.isFinite = true
  fallback : config.pollBenchmark.autoFallbackIntervalSeconds.isFinite = true

/-- The slowest of some finite intervals. -/
theorem slowestInterval_finite {xs : List PyFloat} (h : ∀ x ∈ xs, x.isFinite = true)
    (hne : xs ≠ []) : ∃ slowest, (xs.map PyFloat.rat).max? = some slowest ∧
      slowestInterval xs = .finite slowest := by
  cases xs with
  | nil => exact absurd rfl hne
  | cons x xs =>
      refine ⟨(xs.map PyFloat.rat).foldl max x.rat, rfl, ?_⟩
      have hx := PyFloat.eq_finite (h x List.mem_cons_self)
      have hxs : ∀ y ∈ xs, y.isFinite = true := fun y hy => h y (List.mem_cons_of_mem x hy)
      clear h hne
      rw [slowestInterval, hx]
      clear hx
      change xs.foldl PyFloat.max (.finite x.rat) = _
      generalize x.rat = acc
      induction xs generalizing acc with
      | nil => rfl
      | cons y ys ih =>
          rw [List.foldl_cons, PyFloat.eq_finite (hxs y List.mem_cons_self), PyFloat.max_finite,
            List.map_cons, List.foldl_cons]
          exact ih (fun z hz => hxs z (List.mem_cons_of_mem y hz)) _

/-! ## the loop -/

/-- A controller with its endpoint, as `_refresh_devices` compares them. -/
abbrev SignatureEntry := String ×ₗ String ×ₗ String ×ₗ String

/-- `signature` -/
def signature (selected : List Resolved) : List SignatureEntry :=
  orderBy id .asc (selected.map fun s => toLex (s.controllerId, toLex (s.key,
    toLex (s.device.profile, s.device.endpoint.transport.name))))

/-- What the loop knows.  In the `auto` mode the controller of the intervals comes with the calls
since its last reset. -/
structure PollLoop where
  watcher : Watcher := {}
  auto : Option AutoRun
  fixed : Option ℚ
  autoSignature : Option (List SignatureEntry) := none

inductive LoopError where
  | lifecycle (e : LifecycleError)
  | auto (e : AutoPollError)
  deriving DecidableEq

/-- What happens in the loop: a refresh with the devices that discovery resolved, or a cycle of
polls with the samples it ends with. -/
inductive LoopEvent where
  | refresh (now : Nat) (resolved : List Resolved)
  | cycle (settings : WatchSettings) (readings : String → PollReading)
      (performance : Dict String PollPerformanceSample)

namespace PollLoop

/-- `_poll_interval_seconds` -/
def pollIntervalSeconds (l : PollLoop) : Option ℚ :=
  match l.auto with
  | some r => r.controller.currentIntervalSeconds
  | none => l.fixed

/-- `_refresh_devices` -/
def refresh (now : Nat) (resolved : List Resolved) (l : PollLoop) : PollLoop :=
  let new := signature (selectControllerEndpoints l.watcher.controllerKeys resolved)
  { l with
    watcher := l.watcher.refresh now resolved
    auto := l.auto.map fun r =>
      if l.autoSignature.any (· ≠ new) then { controller := r.controller.reset } else r
    autoSignature := some new }

/-- `_poll_all`, and what the calibration makes of its samples. -/
def cycle (env : PollingEnv) (settings : WatchSettings) (readings : String → PollReading)
    (performance : Dict String PollPerformanceSample) (l : PollLoop) :
    Except LoopError PollLoop := do
  let watcher ← (l.watcher.pollAll settings readings).mapError .lifecycle
  match l.auto with
  | none => return { l with watcher }
  | some r => do
      let r ← (r.step env (.observe performance watcher.presentControllerIds)).mapError .auto
      return { l with watcher, auto := some r }

def apply (env : PollingEnv) (l : PollLoop) : LoopEvent → Except LoopError PollLoop
  | .refresh now resolved => .ok (l.refresh now resolved)
  | .cycle settings readings performance => l.cycle env settings readings performance

def run (env : PollingEnv) (start : PollLoop) (events : List LoopEvent) :
    Except LoopError PollLoop := events.foldlM (apply env) start

/-- The stage of the calibration. -/
def position (l : PollLoop) : Option (Nat × Option ℚ) := l.auto.map fun r => r.controller.position

end PollLoop

/-- What `_poll_all` returns where the polls of the cycle end with the same sample. -/
def Watcher.results (readings : String → PollReading) (sample : PollPerformanceSample)
    (w : Watcher) : Dict String PollPerformanceSample :=
  w.presentKeys.foldl (fun results key =>
    match w.polled readings key with
    | some (controllerId, _) => results.set controllerId sample
    | none => results) Dict.empty

/-- A loop over one device. -/
structure WatchedLoop where
  loop : PollLoop
  /-- polls of the stage -/
  polls : Nat := 0
  /-- polls since the start -/
  made : Nat := 0

namespace WatchedLoop

variable (env : PollingEnv) (device : PolledDevice) (controllerId : String)

/-- A cycle: if the lifecycle lets the device be polled, the poll ends with what the device answers at
the interval of the loop. -/
def cycle (w : WatchedLoop) (c : WatchSettings × (String → PollReading)) :
    Except LoopError WatchedLoop :=
  match w.loop.pollIntervalSeconds with
  | none => .error (.auto .index)
  | some interval => do
      let results := w.loop.watcher.results c.2 (device interval w.polls)
      let loop ← w.loop.cycle env c.1 c.2 results
      if (results controllerId).isSome then
        return {
          loop
          polls := if loop.position = w.loop.position then w.polls + 1 else 0
          made := w.made + 1 }
      else return { w with loop }

def run (cycles : List (WatchSettings × (String → PollReading))) (w : WatchedLoop) :
    Except LoopError WatchedLoop := cycles.foldlM (cycle env device controllerId) w

end WatchedLoop

/-- `__init__`, with the limiter of the writes. -/
def AppConfig.createLoop (config : AppConfig) (interval : PollInterval) :
    Except AutoPollError PollLoop :=
  match interval with
  | .seconds x => .ok { auto := none, fixed := some x.rat }
  | .auto => do
      let controller ← AutoPollIntervalController.create
        (config.pollBenchmark.intervalsSeconds.map PyFloat.rat)
        config.pollBenchmark.samplesPerInterval config.pollBenchmark.thresholds
        config.pollBenchmark.autoFallbackIntervalSeconds.rat
      return { auto := some { controller }, fixed := none }

/-! ## the calibration of a loop -/

/-- Every one of the controllers passed the benchmark of an interval, on its last samples of some
time since the calibration started, all taken at that interval. -/
def ProvenBy (env : PollingEnv) (start : AutoPollIntervalController) (calls : List ObserveCall)
    (controllerIds : List String) (interval : ℚ) : Prop :=
  controllerIds ≠ [] ∧ ∃ before, before <+: calls ∧
    ∀ id ∈ controllerIds, ∃ window, window.length = start.samplesPerInterval ∧
      window <:+ samplesAt interval id before ∧
      (evaluateBenchmarkStage env interval window start.thresholds).passed = true

/-- What holds of a loop in the `auto` mode. -/
structure PollLoop.Calibrated (env : PollingEnv) (start : AutoPollIntervalController)
    (minimum fallback : ℚ) (l : PollLoop) (r : AutoRun) : Prop where
  auto : l.auto = some r
  interval : ∃ x, l.pollIntervalSeconds = some x ∧ minimum ≤ x ∧ x ≤ fallback
  locked : ∀ x, r.controller.lockedInterval = some x →
    x = fallback ∨ ProvenBy env start r.since l.watcher.presentControllerIds x

/-! ### one controller -/

namespace Watcher

/-- One controller is there, at this endpoint. -/
structure Alone (controllerId key : String) (w : Watcher) : Prop where
  presentControllerIds : w.presentControllerIds = [controllerId]
  presentKeys : w.presentKeys = [key]
  controllerIds : w.controllerIds key = some controllerId

/-- Nothing keeps the endpoint from being polled. -/
structure Pollable (key : String) (w : Watcher) : Prop where
  device : ∃ device, w.devices key = some device
  deviceId : ∃ deviceId, w.deviceIds key = some deviceId
  lifecycle : ∃ l, w.lifecycles key = some l ∧ l.value.state ≠ .rediscovering ∧
    l.value.nextRetryMonotonic = .finite 0

variable {w w' : Watcher} {id key : String} {readings : String → PollReading}

theorem Alone.of_same (h : w.Alone id key) (hsame : w.SameOwners w') : w'.Alone id key where
  presentControllerIds := hsame.presentControllerIds.trans h.presentControllerIds
  presentKeys := hsame.presentKeys.trans h.presentKeys
  controllerIds := hsame.controllerIds ▸ h.controllerIds

/-- A poll is one of the controller at the endpoint. -/
theorem controllerIds_of_polled {p : String × DiscoveredDevice}
    (h : w.polled readings key = some p) : w.controllerIds key = some p.1 := by
  unfold polled at h
  split at h
  · next device controllerId _ _ hid _ =>
      split at h
      · obtain rfl := Option.some.inj h
        exact hid
      · cases h
  · cases h

theorem Alone.results_eq (h : w.Alone id key) (sample : PollPerformanceSample) :
    w.results readings sample =
      if (w.polled readings key).isSome then Dict.empty.set id sample else Dict.empty := by
  rw [results, h.presentKeys, List.foldl_cons, List.foldl_nil]
  cases hpolled : w.polled readings key with
  | none => rfl
  | some p =>
      obtain rfl : p.1 = id :=
        Option.some.inj ((controllerIds_of_polled hpolled).symm.trans h.controllerIds)
      rfl

/-- A refresh that found one controller. -/
theorem refresh_alone {now : Nat} {resolved : List Resolved}
    (h : (w.refresh now resolved).presentControllerIds = [id]) :
    ∃ key, (w.refresh now resolved).Alone id key ∧ (w.refresh now resolved).Pollable key := by
  obtain ⟨s, hselected, rfl⟩ := List.map_eq_singleton_iff.mp h
  obtain ⟨before, hrefresh⟩ : ∃ before : Watcher, w.refresh now resolved =
      { rebind now before s with presentControllerIds := [s.controllerId], presentKeys := [s.key] } := by
    unfold refresh
    rw [hselected]
    exact ⟨_, rfl⟩
  obtain ⟨hdevices, hdeviceIds, hcontrollerIds, -⟩ := rebind_frame now before s
  obtain ⟨-, -, l, hlifecycles, hstate, hretry⟩ := rebind_refs now before s
  rw [hrefresh]
  refine ⟨s.key, ⟨rfl, rfl, ?_⟩, ⟨s.device, ?_⟩, ⟨s.deviceId, ?_⟩, l, ?_, hstate, hretry⟩
  · rw [hcontrollerIds, Dict.set_self]
  · rw [hdevices, Dict.set_self]
  · rw [hdeviceIds, Dict.set_self]
  · rw [hlifecycles, Dict.set_self]

end Watcher

/-- The poll succeeds, at a time that is not negative. -/
def PollReading.Succeeds (reading : PollReading) : Prop :=
  reading.values.isSome = true ∧ 0 ≤ reading.monotonic

/-- A poll that succeeds, and the endpoint can be polled again. -/
theorem Watcher.Pollable.pollAll {w : Watcher} {id key : String} {readings : String → PollReading}
    (h : w.Pollable key) (settings : WatchSettings) (halone : w.Alone id key)
    (hreading : (readings key).Succeeds) :
    (w.polled readings key).isSome = true ∧
      ∃ w', w.pollAll settings readings = .ok w' ∧ w'.Pollable key := by
  obtain ⟨device, hdevice⟩ := h.device
  obtain ⟨deviceId, hdeviceId⟩ := h.deviceId
  obtain ⟨l, hl, hstate, hretry⟩ := h.lifecycle
  obtain ⟨hvalues, hclock⟩ := hreading
  obtain ⟨values, hvalues⟩ := Option.isSome_iff_exists.mp hvalues
  have hset : w.setdefaultLifecycle key = (l, w) := by
    rw [Watcher.setdefaultLifecycle, hl]
  have hcan : l.value.canPoll (readings key).monotonic = true := by
    rw [DeviceLifecycle.canPoll, hretry]
    simp [hstate, PyFloat.le, hclock]
  have hpolled : w.polled readings key = some (id, device) := by
    rw [Watcher.polled, hdevice, halone.controllerIds, hdeviceId]
    dsimp only
    rw [hset, if_pos hcan]
  refine ⟨by rw [hpolled]; rfl, ?_⟩
  rw [Watcher.pollAll, halone.presentKeys, List.foldlM_cons, Watcher.pollKey, hpolled]
  dsimp only
  rw [Watcher.pollOne, hset, hvalues]
  refine ⟨_, rfl, ⟨device, hdevice⟩, ⟨deviceId, hdeviceId⟩, _, Dict.set_self _ _ _, ?_, rfl⟩
  exact LifecycleState.noConfusion

section Loop

variable {env : PollingEnv} {start : AutoPollIntervalController} {l l' : PollLoop} {r : AutoRun}
  {resolved : List Resolved}

theorem mem_signature {selected : List Resolved} {id : String} :
    (∃ t ∈ signature selected, (ofLex t).1 = id) ↔ id ∈ selected.map Resolved.controllerId := by
  unfold signature
  constructor
  · rintro ⟨t, ht, rfl⟩
    rw [mem_orderBy] at ht
    obtain ⟨s, hs, rfl⟩ := List.mem_map.mp ht
    exact List.mem_map.mpr ⟨s, hs, rfl⟩
  · intro h
    obtain ⟨s, hs, rfl⟩ := List.mem_map.mp h
    exact ⟨_, (mem_orderBy _ _ _).mpr (List.mem_map.mpr ⟨s, hs, rfl⟩), rfl⟩

/-- What a loop in the `auto` mode keeps: the invariant of the selection, and that since the last
reset it was called for the controllers that are there. -/
structure PollLoop.Inv (env : PollingEnv) (start : AutoPollIntervalController) (l : PollLoop)
    (r : AutoRun) : Prop where
  auto : l.auto = some r
  selection : AutoRun.Inv env start r
  calls : ∀ call ∈ r.since, call.controllerIds = [] ∨
    ∀ id, id ∈ call.controllerIds ↔ id ∈ l.watcher.presentControllerIds
  /-- before the first refresh no controller is there -/
  absent : l.autoSignature = none → l.watcher.presentControllerIds = []
  present : ∀ entries, l.autoSignature = some entries → ∀ id,
    id ∈ l.watcher.presentControllerIds ↔ ∃ t ∈ entries, (ofLex t).1 = id

theorem PollLoop.Inv.refresh (h : l.Inv env start r) (now : Nat) (resolved : List Resolved) :
    ∃ r', (l.refresh now resolved).Inv env start r' := by
  obtain ⟨selected, hselected⟩ : ∃ selected, selected =
    selectControllerEndpoints l.watcher.controllerKeys resolved := ⟨_, rfl⟩
  obtain ⟨r', hr'⟩ : ∃ r', r' = if l.autoSignature.any (· ≠ signature selected) then
    ({ controller := r.controller.reset } : AutoRun) else r := ⟨_, rfl⟩
  have hpresent : (l.refresh now resolved).watcher.presentControllerIds =
      selected.map Resolved.controllerId := by
    rw [hselected]
    rfl
  refine ⟨r', ?_, ?_, ?_, ?_, ?_⟩
  · rw [PollLoop.refresh, h.auto, ← hselected, hr']
    rfl
  · rw [hr']
    split
    · exact AutoRun.Inv.fresh (List.ne_nil_of_length_pos (Nat.zero_lt_of_lt h.selection.index))
        h.selection.intervals h.selection.samplesPerInterval h.selection.thresholds
        h.selection.fallback
    · exact h.selection
  · intro call hcall
    rw [hpresent]
    rw [hr'] at hcall
    split at hcall
    · cases hcall
    · case isFalse hsame =>
        -- the controllers are those of the last refresh, or there was none
        cases hsignature : l.autoSignature with
        | none =>
            cases h.calls call hcall with
            | inl hnil => exact .inl hnil
            | inr hids =>
                rw [h.absent hsignature] at hids
                exact .inl (List.eq_nil_iff_forall_not_mem.mpr fun id hid =>
                  List.not_mem_nil ((hids id).mp hid))
        | some entries =>
            rw [hsignature, Option.any_some, decide_eq_true_eq, not_not] at hsame
            refine (h.calls call hcall).imp_right fun hids id => ?_
            rw [hids id, h.present entries hsignature id, hsame, mem_signature]
  · intro hnone
    cases hnone
  · intro entries hentries id
    have heq : signature selected = entries := by
      rw [hselected]
      exact Option.some.inj hentries
    rw [hpresent, ← heq, mem_signature]

theorem PollLoop.Inv.cycle (h : l.Inv env start r)
    (hsorted : start.intervalsSeconds.Pairwise (· > ·)) {settings : WatchSettings}
    {readings : String → PollReading} {performance : Dict String PollPerformanceSample}
    (hok : l.cycle env settings readings performance = .ok l') : ∃ r', l'.Inv env start r' := by
  simp only [PollLoop.cycle, Loop.bind_eq_ok, Loop.mapError_eq_ok] at hok
  obtain ⟨watcher, hpoll, hrest⟩ := hok
  have hsame := (Watcher.pollAll_sameOwners hpoll).presentControllerIds
  rw [h.auto] at hrest
  simp only [Loop.bind_eq_ok, Loop.mapError_eq_ok, Loop.pure_eq_ok, Except.ok.injEq] at hrest
  obtain ⟨r', hstep, rfl⟩ := hrest
  obtain ⟨r'', hstep', hinv⟩ :=
    h.selection.step hsorted (.observe performance watcher.presentControllerIds)
  obtain rfl : r'' = r' := Except.ok.inj (hstep'.symm.trans hstep)
  have hsince : r''.since = r.since ++ [r.call performance watcher.presentControllerIds] := by
    simp only [AutoRun.step, Loop.bind_eq_ok, Loop.pure_eq_ok, Except.ok.injEq] at hstep
    obtain ⟨out, -, rfl⟩ := hstep
    rfl
  refine ⟨r'', rfl, hinv, ?_, ?_, ?_⟩
  · intro call hcall
    rw [hsame]
    rw [hsince, List.mem_append, List.mem_singleton] at hcall
    cases hcall with
    | inl hold => exact h.calls call hold
    | inr hnew =>
        refine .inr fun id => ?_
        rw [hnew, ← hsame]
        exact Iff.rfl
  · rw [hsame]
    exact h.absent
  · rw [hsame]
    exact h.present

/-- Of the errors of a cycle none is one of the calibration. -/
theorem PollLoop.Inv.cycle_error (h : l.Inv env start r)
    (hsorted : start.intervalsSeconds.Pairwise (· > ·)) {settings : WatchSettings}
    {readings : String → PollReading} {performance : Dict String PollPerformanceSample}
    {e : LoopError} (herror : l.cycle env settings readings performance = .error e) :
    ∃ e', e = .lifecycle e' := by
  rw [PollLoop.cycle] at herror
  cases hpoll : l.watcher.pollAll settings readings with
  | error e' =>
      rw [hpoll] at herror
      exact ⟨e', (Except.error.inj herror).symm⟩
  | ok watcher =>
      obtain ⟨r', hstep, -⟩ :=
        h.selection.step hsorted (.observe performance watcher.presentControllerIds)
      rw [hpoll, h.auto] at herror
      change ((AutoRun.step env r _).mapError LoopError.auto >>= _) = _ at herror
      rw [hstep] at herror
      cases herror

/-- A proof by a call for the controllers that are there. -/
theorem PollLoop.Inv.provenBy (h : l.Inv env start r) {x : ℚ}
    (hproven : Proven env start.thresholds start.samplesPerInterval r.since x) :
    ProvenBy env start r.since l.watcher.presentControllerIds x ∧ x ∈ start.intervalsSeconds := by
  obtain ⟨before, call, after, hsince, hcalibrating, hinterval, hne, hids⟩ := hproven
  have hcall : call ∈ r.since := by
    rw [hsince]
    simp
  have hsame := (h.calls call hcall).resolve_left hne
  refine ⟨⟨?_, before ++ [call], ⟨after, by rw [hsince]; simp⟩, fun id hid => ?_⟩, ?_⟩
  · obtain ⟨id, hid⟩ := List.exists_mem_of_ne_nil _ hne
    exact List.ne_nil_of_mem ((hsame id).mp hid)
  · exact hids id ((hsame id).mpr hid)
  · exact List.mem_of_mem_take (h.selection.visited call hcall hcalibrating x hinterval)

/-- The interval of the loop is one of those that are tested, or the fallback. -/
theorem PollLoop.Inv.interval (h : l.Inv env start r) :
    ∃ x, l.pollIntervalSeconds = some x ∧
      (x ∈ start.intervalsSeconds ∨ x = start.fallbackIntervalSeconds) := by
  have hcurrent : l.pollIntervalSeconds = r.controller.currentIntervalSeconds := by
    rw [PollLoop.pollIntervalSeconds, h.auto]
  rw [hcurrent]
  cases hlocked : r.controller.lockedInterval with
  | none =>
      have hcalibrating : r.controller.calibrating = true := by
        rw [AutoPollIntervalController.calibrating, hlocked]
        rfl
      obtain ⟨x, hstage, hx⟩ := h.selection.current hcalibrating
      exact ⟨x, hx, .inl (List.mem_of_getElem? hstage)⟩
  | some x =>
      refine ⟨x, by rw [AutoPollIntervalController.currentIntervalSeconds, hlocked], ?_⟩
      cases h.selection.locked x hlocked with
      | inl hfallback => exact .inr hfallback
      | inr hproven => exact .inl (h.provenBy hproven).2

theorem PollLoop.Inv.calibrated (h : l.Inv env start r) {minimum fallback : ℚ}
    (hbounds : ∀ x, x ∈ start.intervalsSeconds ∨ x = start.fallbackIntervalSeconds →
      minimum ≤ x ∧ x ≤ fallback) (hfallback : start.fallbackIntervalSeconds = fallback) :
    l.Calibrated env start minimum fallback r where
  auto := h.auto
  interval := by
    obtain ⟨x, hx, hmem⟩ := h.interval
    exact ⟨x, hx, hbounds x hmem⟩
  locked := fun x hx => (h.selection.locked x hx).imp (fun heq => heq.trans hfallback)
    fun hproven => (h.provenBy hproven).1

/-- A run keeps the invariant, and a run that raises does not raise in the calibration. -/
theorem PollLoop.Inv.run (h : l.Inv env start r)
    (hsorted : start.intervalsSeconds.Pairwise (· > ·)) (events : List LoopEvent) :
    (∀ l', l.run env events = .ok l' → ∃ r', l'.Inv env start r') ∧
      ∀ e, l.run env events = .error e → ∃ e', e = .lifecycle e' := by
  induction events generalizing l r with
  | nil =>
      refine ⟨fun l' hok => ?_, fun e herror => by cases herror⟩
      obtain rfl := Except.ok.inj hok
      exact ⟨r, h⟩
  | cons event events ih =>
      cases event with
      | refresh now resolved =>
          obtain ⟨r', hr'⟩ := h.refresh now resolved
          exact ih hr'
      | cycle settings readings performance =>
          have hcons : l.run env (.cycle settings readings performance :: events) =
              l.cycle env settings readings performance >>= fun l => l.run env events := rfl
          rw [hcons]
          cases hcycle : l.cycle env settings readings performance with
          | ok next =>
              obtain ⟨r', hr'⟩ := h.cycle hsorted hcycle
              exact ih hr'
          | error e =>
              refine ⟨fun l' hok => (by cases hok), fun e' herror => ?_⟩
              obtain rfl : e = e' := Except.error.inj herror
              exact h.cycle_error hsorted hcycle

/-- A cycle in which polling does not raise. -/
theorem PollLoop.Inv.exists_cycle (h : l.Inv env start r)
    (hsorted : start.intervalsSeconds.Pairwise (· > ·)) {settings : WatchSettings}
    {readings : String → PollReading} {watcher : Watcher}
    (hpoll : l.watcher.pollAll settings readings = .ok watcher)
    (performance : Dict String PollPerformanceSample) :
    ∃ l', l.cycle env settings readings performance = .ok l' ∧ l'.watcher = watcher := by
  obtain ⟨r', hstep, -⟩ :=
    h.selection.step hsorted (.observe performance watcher.presentControllerIds)
  rw [PollLoop.cycle, hpoll, h.auto]
  change ∃ l', ((AutoRun.step env r _).mapError LoopError.auto >>= _) = _ ∧ _
  rw [hstep]
  exact ⟨_, rfl, rfl⟩

/-! ### over one device -/

/-- A cycle with one controller is a call of the selection for it. -/
theorem PollLoop.cycle_step {id : String} {settings : WatchSettings}
    {readings : String → PollReading} {performance : Dict String PollPerformanceSample}
    (hauto : l.auto = some r) (hpresent : l.watcher.presentControllerIds = [id])
    (hok : l.cycle env settings readings performance = .ok l') :
    ∃ r' message, l'.auto = some r' ∧
      r.controller.observe env performance [id] = .ok (r'.controller, message) := by
  simp only [PollLoop.cycle, Loop.bind_eq_ok, Loop.mapError_eq_ok] at hok
  obtain ⟨watcher, hpoll, hrest⟩ := hok
  have hsame := (Watcher.pollAll_sameOwners hpoll).presentControllerIds.trans hpresent
  rw [hauto] at hrest
  simp only [Loop.bind_eq_ok, Loop.mapError_eq_ok, Loop.pure_eq_ok, Except.ok.injEq] at hrest
  obtain ⟨r', hstep, rfl⟩ := hrest
  simp only [AutoRun.step, hsame, Loop.bind_eq_ok, Loop.pure_eq_ok, Except.ok.injEq] at hstep
  obtain ⟨⟨selection, message⟩, hobserve, rfl⟩ := hstep
  exact ⟨_, message, rfl, hobserve⟩

/-- A loop over one controller, whose selection is over or wants samples. -/
structure WatchedLoop.Follows (id key : String) (w : WatchedLoop) (r : AutoRun) : Prop where
  auto : w.loop.auto = some r
  alone : w.loop.watcher.Alone id key
  wanting : r.controller.Wanting id
  samples : 0 < r.controller.samplesPerInterval

/-- A cycle with a poll moves the selection as it does on its own, one without a poll leaves it. -/
theorem WatchedLoop.Follows.cycle {device : PolledDevice} {id key : String} {w w' : WatchedLoop}
    {c : WatchSettings × (String → PollReading)} (h : w.Follows id key r)
    (hok : w.cycle env device id c = .ok w') :
    ∃ r' k, w'.Follows id key r' ∧ w'.made = w.made + k ∧
      watchCycles env device id k { selection := r.controller, polls := w.polls } =
        .ok { selection := r'.controller, polls := w'.polls } := by
  rw [WatchedLoop.cycle] at hok
  cases hx : w.loop.pollIntervalSeconds with
  | none => simp [hx] at hok
  | some x =>
      simp only [hx, h.alone.results_eq, Loop.bind_eq_ok] at hok
      obtain ⟨loop, hcycle, hrest⟩ := hok
      have halone : loop.watcher.Alone id key := by
        simp only [PollLoop.cycle, Loop.bind_eq_ok, Loop.mapError_eq_ok] at hcycle
        obtain ⟨watcher, hpoll, hstep⟩ := hcycle
        have hwatcher : loop.watcher = watcher := by
          rw [h.auto] at hstep
          simp only [Loop.bind_eq_ok, Loop.pure_eq_ok, Except.ok.injEq] at hstep
          obtain ⟨r', -, rfl⟩ := hstep
          rfl
        rw [hwatcher]
        exact h.alone.of_same (Watcher.pollAll_sameOwners hpoll)
      obtain ⟨r', message, hauto, hstep⟩ :=
        PollLoop.cycle_step h.auto h.alone.presentControllerIds hcycle
      obtain ⟨hwanting, hsamples⟩ :=
        AutoPollIntervalController.wanting_of_observe h.samples hstep
      have hfollows : ∀ polls made, WatchedLoop.Follows id key { loop, polls, made } r' :=
        fun polls made => ⟨hauto, halone, hwanting, hsamples ▸ h.samples⟩
      cases hpolled : (w.loop.watcher.polled c.2 key).isSome with
      | true =>
          simp only [hpolled, if_true, Dict.set_self, Option.isSome_some, Loop.pure_eq_ok,
            Except.ok.injEq] at hrest hstep
          subst hrest
          refine ⟨r', 1, hfollows _ _, rfl, ?_⟩
          have hcurrent : r.controller.currentIntervalSeconds = some x := by
            rw [← hx, PollLoop.pollIntervalSeconds, h.auto]
          rw [watchCycles, watchCycle]
          dsimp only
          rw [hcurrent]
          dsimp only
          rw [hstep, Loop.ok_bind]
          simp only [PollLoop.position, hauto, h.auto, Option.map_some, Option.some.injEq]
          rfl
      | false =>
          simp only [hpolled, Bool.false_eq_true, if_false, Dict.empty_apply, Option.isSome_none,
            Loop.pure_eq_ok, Except.ok.injEq] at hrest hstep
          subst hrest
          rw [h.wanting.observe_empty env] at hstep
          obtain ⟨hsame, -⟩ := Prod.mk.inj (Except.ok.inj hstep)
          exact ⟨r', 0, hfollows _ _, rfl, by rw [← hsame]; rfl⟩

/-- So do any cycles. -/
theorem WatchedLoop.Follows.run {device : PolledDevice} {id key : String} {w w' : WatchedLoop}
    {cycles : List (WatchSettings × (String → PollReading))} (h : w.Follows id key r)
    (hok : w.run env device id cycles = .ok w') :
    ∃ r' k, w'.Follows id key r' ∧ w'.made = w.made + k ∧
      watchCycles env device id k { selection := r.controller, polls := w.polls } =
        .ok { selection := r'.controller, polls := w'.polls } := by
  induction cycles generalizing w r with
  | nil =>
      obtain rfl := Except.ok.inj hok
      exact ⟨r, 0, h, rfl, rfl⟩
  | cons c cycles ih =>
      simp only [WatchedLoop.run, List.foldlM_cons, Loop.bind_eq_ok] at hok
      obtain ⟨next, hcycle, hrest⟩ := hok
      obtain ⟨r₁, j, h₁, hmade₁, hstep⟩ := h.cycle hcycle
      obtain ⟨r', k, h', hmade, hrun⟩ := ih h₁ hrest
      refine ⟨r', j + k, h', by rw [hmade, hmade₁, Nat.add_assoc], ?_⟩
      rw [watchCycles_add, hstep]
      exact hrun

/-- Of the errors of such cycles none is one of the calibration. -/
theorem PollLoop.Inv.run_error {device : PolledDevice} {id : String} {w : WatchedLoop}
    {cycles : List (WatchSettings × (String → PollReading))} (h : w.loop.Inv env start r)
    (hsorted : start.intervalsSeconds.Pairwise (· > ·)) {e : LoopError}
    (herror : w.run env device id cycles = .error e) : ∃ e', e = .lifecycle e' := by
  induction cycles generalizing w r with
  | nil => cases herror
  | cons c cycles ih =>
      obtain ⟨x, hx, -⟩ := h.interval
      rw [WatchedLoop.run, List.foldlM_cons, WatchedLoop.cycle, hx] at herror
      dsimp only at herror
      cases hcycle : w.loop.cycle env c.1 c.2
          (w.loop.watcher.results c.2 (device x w.polls)) with
      | error e' =>
          rw [hcycle] at herror
          obtain rfl := Except.error.inj herror
          exact h.cycle_error hsorted hcycle
      | ok loop =>
          rw [hcycle, Loop.ok_bind] at herror
          obtain ⟨r', hr'⟩ := h.cycle hsorted hcycle
          split at herror
          · exact ih (w := { w with loop, polls := _, made := _ }) hr' herror
          · exact ih (w := { w with loop }) hr' herror

/-- Where the polls succeed every cycle is a poll. -/
theorem WatchedLoop.run_succeeding {device : PolledDevice} {id key : String} {w : WatchedLoop}
    {cycles : List (WatchSettings × (String → PollReading))} (h : w.loop.Inv env start r)
    (hsorted : start.intervalsSeconds.Pairwise (· > ·)) (halone : w.loop.watcher.Alone id key)
    (hpollable : w.loop.watcher.Pollable key) (hcycles : ∀ c ∈ cycles, ∀ k, (c.2 k).Succeeds) :
    ∃ w', w.run env device id cycles = .ok w' ∧ w'.made = w.made + cycles.length := by
  induction cycles generalizing w r with
  | nil => exact ⟨w, rfl, rfl⟩
  | cons c cycles ih =>
      obtain ⟨hhead, hrest⟩ := List.forall_mem_cons.mp hcycles
      obtain ⟨hpolled, watcher, hpoll, hnext⟩ := hpollable.pollAll c.1 halone (hhead key)
      obtain ⟨x, hx, -⟩ := h.interval
      obtain ⟨loop, hcycle, hwatcher⟩ := h.exists_cycle hsorted hpoll
        (w.loop.watcher.results c.2 (device x w.polls))
      obtain ⟨r', hr'⟩ := h.cycle hsorted hcycle
      have hsome : (w.loop.watcher.results c.2 (device x w.polls) id).isSome = true := by
        rw [halone.results_eq, if_pos hpolled, Dict.set_self]
        rfl
      have hstep : w.cycle env device id c = .ok
          { loop
            polls := if loop.position = w.loop.position then w.polls + 1 else 0
            made := w.made + 1 } := by
        rw [WatchedLoop.cycle, hx]
        dsimp only
        rw [hcycle, Loop.ok_bind, if_pos hsome]
        rfl
      obtain ⟨w', hrun, hmade⟩ := ih (w := { loop, polls := _, made := w.made + 1 }) hr'
        (hwatcher ▸ halone.of_same (Watcher.pollAll_sameOwners hpoll)) (hwatcher ▸ hnext) hrest
      refine ⟨w', ?_, ?_⟩
      · rw [WatchedLoop.run, List.foldlM_cons, hstep]
        exact hrun
      · dsimp only at hmade
        rw [hmade, List.length_cons]
        omega

/-! ### a fixed interval -/

/-- In the mode of a fixed interval nothing changes it. -/
theorem PollLoop.run_fixed (hauto : l.auto = none) (events : List LoopEvent) :
    (∀ l', l.run env events = .ok l' → l'.auto = none ∧ l'.fixed = l.fixed) ∧
      ∀ e, l.run env events = .error e → ∃ e', e = .lifecycle e' := by
  induction events generalizing l with
  | nil =>
      refine ⟨fun l' hok => ?_, fun e herror => by cases herror⟩
      obtain rfl := Except.ok.inj hok
      exact ⟨hauto, rfl⟩
  | cons event events ih =>
      cases event with
      | refresh now resolved => exact ih (l := l.refresh now resolved) (by
          rw [PollLoop.refresh, hauto]
          rfl)
      | cycle settings readings performance =>
          have hcons : l.run env (.cycle settings readings performance :: events) =
              l.cycle env settings readings performance >>= fun l => l.run env events := rfl
          rw [hcons, PollLoop.cycle]
          cases hpoll : l.watcher.pollAll settings readings with
          | error e =>
              refine ⟨fun l' hok => (by cases hok), fun e' herror => ?_⟩
              exact ⟨e, (Except.error.inj herror).symm⟩
          | ok watcher =>
              rw [hauto]
              exact ih (l := { l with watcher, auto := none }) rfl

end Loop

/-! ## under accepted settings -/

section Accepted

variable {config : AppConfig} {interval : PollInterval} {network : ConfigEnv}

/-- The intervals of a new controller, and its fallback. -/
theorem mem_create {intervalsSeconds : List ℚ} {samplesPerInterval : Int}
    {thresholds : BenchmarkThresholds} {fallback : ℚ} {start : AutoPollIntervalController}
    (h : AutoPollIntervalController.create intervalsSeconds samplesPerInterval thresholds
      fallback = .ok start) :
    (∀ x ∈ start.intervalsSeconds, x ∈ intervalsSeconds ∨ x = fallback) ∧
      start.fallbackIntervalSeconds = fallback := by
  obtain ⟨-, -, -, rfl⟩ := AutoPollIntervalController.create_eq_ok h
  refine ⟨fun x hx => ?_, rfl⟩
  simpa [Table.mem_distinct] using hx

/-- The controller of accepted settings can be created. -/
theorem exists_create (h : config.Accepted network interval) (hfinite : config.Finite interval) :
    ∃ start, AutoPollIntervalController.create
        (config.pollBenchmark.intervalsSeconds.map PyFloat.rat)
        config.pollBenchmark.samplesPerInterval config.pollBenchmark.thresholds
        config.pollBenchmark.autoFallbackIntervalSeconds.rat = .ok start ∧
      ∀ x, x ∈ start.intervalsSeconds ∨ x = start.fallbackIntervalSeconds →
        config.pollBenchmark.minimumIntervalSeconds.rat ≤ x ∧
          x ≤ config.pollBenchmark.autoFallbackIntervalSeconds.rat := by
  obtain ⟨slowest, hmax, hslowest⟩ := slowestInterval_finite hfinite.stages h.stages.1
  have hslow : slowest ≤ config.pollBenchmark.autoFallbackIntervalSeconds.rat := by
    have hlt := h.fallback
    rw [hslowest] at hlt
    exact PyFloat.rat_le hfinite.fallback rfl hlt
  have hstages : ∀ x ∈ config.pollBenchmark.intervalsSeconds.map PyFloat.rat,
      config.pollBenchmark.minimumIntervalSeconds.rat ≤ x ∧ x ≤ slowest := by
    intro x hx
    refine ⟨?_, (List.max?_eq_some_iff.mp hmax).2 x hx⟩
    obtain ⟨y, hy, rfl⟩ := List.mem_map.mp hx
    exact PyFloat.rat_le (hfinite.stages y hy) hfinite.minimum (h.stages.2 y hy)
  have hminimum : config.pollBenchmark.minimumIntervalSeconds.rat ≤
      config.pollBenchmark.autoFallbackIntervalSeconds.rat :=
    ((hstages slowest (List.max?_eq_some_iff.mp hmax).1).1).trans hslow
  have hok : ∃ start, AutoPollIntervalController.create
      (config.pollBenchmark.intervalsSeconds.map PyFloat.rat)
      config.pollBenchmark.samplesPerInterval config.pollBenchmark.thresholds
      config.pollBenchmark.autoFallbackIntervalSeconds.rat = .ok start := by
    rw [AutoPollIntervalController.create, hmax]
    dsimp only
    rw [if_neg (not_lt.mpr h.samples), if_neg (not_lt.mpr hslow)]
    exact ⟨_, rfl⟩
  obtain ⟨start, hstart⟩ := hok
  obtain ⟨hmem, hfallback⟩ := mem_create hstart
  refine ⟨start, hstart, fun x hx => ?_⟩
  have hcases : x ∈ config.pollBenchmark.intervalsSeconds.map PyFloat.rat ∨
      x = config.pollBenchmark.autoFallbackIntervalSeconds.rat := by
    cases hx with
    | inl hin => exact hmem x hin
    | inr heq => exact .inr (heq.trans hfallback)
  cases hcases with
  | inl hin => exact ⟨(hstages x hin).1, (hstages x hin).2.trans hslow⟩
  | inr heq =>
      rw [heq]
      exact ⟨hminimum, le_refl _⟩

/-- The loop with a new controller of the intervals. -/
theorem PollLoop.Inv.created (env : PollingEnv) {intervalsSeconds : List ℚ}
    {samplesPerInterval : Int} {thresholds : BenchmarkThresholds} {fallback : ℚ}
    {first : AutoPollIntervalController}
    (h : AutoPollIntervalController.create intervalsSeconds samplesPerInterval thresholds
      fallback = .ok first) :
    PollLoop.Inv env first { auto := some { controller := first }, fixed := none }
        { controller := first } ∧
      first.intervalsSeconds.Pairwise (· > ·) := by
  obtain ⟨hreset, hne, hsorted⟩ := AutoPollIntervalController.create_intervals h
  have hfresh : AutoRun.Inv env first { controller := first.reset } :=
    AutoRun.Inv.fresh hne rfl rfl rfl rfl
  rw [hreset] at hfresh
  exact ⟨⟨rfl, hfresh, by simp, fun _ => rfl, fun _ h => by cases h⟩, hsorted⟩

/-- What the loop guarantees at any time. -/
def PollLoop.Sound (env : PollingEnv) (config : AppConfig) (interval : PollInterval)
    (l start : PollLoop) : Prop :=
  match interval with
  | .seconds x => l.pollIntervalSeconds = some x.rat ∧ 0 < x.rat
  | .auto => 0 < config.pollBenchmark.minimumIntervalSeconds.rat ∧
      ∃ first r, start.auto = some first ∧ l.Calibrated env first.controller
        config.pollBenchmark.minimumIntervalSeconds.rat
        config.pollBenchmark.autoFallbackIntervalSeconds.rat r

/-- **The loop** under settings that were accepted and are finite can be created, and in every run
its interval stays positive and within the bounds of the settings, and is calibrated for the
controllers that are there; the calibration never raises. -/
theorem poll_loop_calibrated (env : PollingEnv) (hvalid : config.validate network = .ok interval)
    (hfinite : config.Finite interval) :
    (∃ limiter, PollPersistenceLimiter.create
        config.database.telemetryWriteIntervalSeconds.rat = .ok limiter ∧
      1 ≤ limiter.intervalSeconds) ∧
    ∃ start, config.createLoop interval = .ok start ∧ ∀ events,
      (∀ l, start.run env events = .ok l → l.Sound env config interval start) ∧
        ∀ e, start.run env events = .error e → ∃ e', e = .lifecycle e' := by
  have haccepted := validate_accepted hvalid
  constructor
  · have hone : (1 : ℚ) ≤ config.database.telemetryWriteIntervalSeconds.rat :=
      PyFloat.rat_le hfinite.writes rfl haccepted.writes
    refine ⟨{ intervalSeconds := config.database.telemetryWriteIntervalSeconds.rat }, ?_, hone⟩
    rw [PollPersistenceLimiter.create, if_neg (not_le.mpr (zero_lt_one.trans_le hone))]
  · cases interval with
    | seconds x =>
        refine ⟨_, rfl, fun events => ?_⟩
        have hauto : PollLoop.auto { auto := none, fixed := some x.rat } = none := rfl
        obtain ⟨hok, herror⟩ := @PollLoop.run_fixed env _ hauto events
        have hpos : 0 < x.rat := PyFloat.rat_pos (hfinite.interval x rfl) (haccepted.interval x rfl)
        refine ⟨fun l hl => ?_, herror⟩
        obtain ⟨hauto, hfixed⟩ := hok l hl
        have hsame : l.pollIntervalSeconds = l.fixed := by
          rw [PollLoop.pollIntervalSeconds, hauto]
        exact ⟨hsame.trans hfixed, hpos⟩
    | auto =>
        obtain ⟨first, hcreate, hbounds⟩ := exists_create haccepted hfinite
        obtain ⟨hstart, hsorted⟩ := PollLoop.Inv.created env hcreate
        refine ⟨{ auto := some { controller := first }, fixed := none }, ?_, fun events => ?_⟩
        · rw [AppConfig.createLoop, hcreate]
          rfl
        · obtain ⟨hok, herror⟩ := hstart.run hsorted events
          refine ⟨fun l hl => ?_, herror⟩
          obtain ⟨r, hr⟩ := hok l hl
          exact ⟨PyFloat.rat_pos hfinite.minimum haccepted.minimum, _, r, rfl,
            hr.calibrated hbounds (mem_create hcreate).2⟩

/-- **The calibration** of a loop that found one device, under settings that were accepted and are
finite: once there were polls enough for every interval, the loop polls at the interval that the
benchmark of that device recommends.  The fallback is tested first, and stays if it fails or
nothing is recommended.  Where the polls succeed every cycle is a poll; after others the backoff of
the lifecycle may leave cycles without one. -/
theorem auto_agrees_with_benchmark (env : PollingEnv)
    (hvalid : config.validate network = .ok .auto) (hfinite : config.Finite .auto)
    (device : PolledDevice) (profile : String) (transport : Transport) (controllerId : String) :
    ∃ report start,
      benchmarkPolling env config.pollBenchmark.settings {} profile transport device =
        .ok report ∧
      config.createLoop .auto = .ok start ∧
      ∀ now resolved cycles,
        (start.refresh now resolved).watcher.presentControllerIds = [controllerId] →
        (∀ w, WatchedLoop.run env device controllerId cycles
              { loop := start.refresh now resolved } = .ok w →
          (config.pollBenchmark.intervalsSeconds.length + 1) *
            config.pollBenchmark.samplesPerInterval.toNat ≤ w.made →
          w.loop.pollIntervalSeconds = some
            (if passesAt env config.pollBenchmark.settings device
                config.pollBenchmark.samplesPerInterval.toNat
                config.pollBenchmark.autoFallbackIntervalSeconds.rat then
              report.recommendedIntervalSeconds.getD
                config.pollBenchmark.autoFallbackIntervalSeconds.rat
            else config.pollBenchmark.autoFallbackIntervalSeconds.rat)) ∧
        (∀ e, WatchedLoop.run env device controllerId cycles
              { loop := start.refresh now resolved } = .error e →
          ∃ e', e = .lifecycle e') ∧
        ((∀ c ∈ cycles, ∀ key, (c.2 key).Succeeds) →
          ∃ w, WatchedLoop.run env device controllerId cycles
              { loop := start.refresh now resolved } = .ok w ∧ w.made = cycles.length) := by
  have haccepted := validate_accepted hvalid
  obtain ⟨first, hcreate, -⟩ := exists_create haccepted hfinite
  have hminimum : 0 < config.pollBenchmark.settings.minimumIntervalSeconds :=
    PyFloat.rat_pos hfinite.minimum haccepted.minimum
  have hlow : ∀ x ∈ config.pollBenchmark.settings.intervalsSeconds,
      config.pollBenchmark.settings.minimumIntervalSeconds ≤ x := by
    intro x hx
    obtain ⟨y, hy, rfl⟩ := List.mem_map.mp hx
    exact PyFloat.rat_le (hfinite.stages y hy) hfinite.minimum (haccepted.stages.2 y hy)
  obtain ⟨report, hreport, hagreed⟩ :=
    exists_agreed hminimum hlow hcreate env device profile transport controllerId
  refine ⟨report, { auto := some { controller := first }, fixed := none }, hreport, ?_, ?_⟩
  · rw [AppConfig.createLoop, hcreate]
    rfl
  · intro now resolved cycles hpresent
    obtain ⟨hstart, hsorted⟩ := PollLoop.Inv.created env hcreate
    obtain ⟨r, hrefreshed⟩ := hstart.refresh now resolved
    obtain ⟨key, halone, hpollable⟩ := Watcher.refresh_alone hpresent
    obtain ⟨l, hl⟩ : ∃ l, l = PollLoop.refresh now resolved
      { auto := some { controller := first }, fixed := none } := ⟨_, rfl⟩
    rw [← hl] at hrefreshed ⊢
    have halone' : l.watcher.Alone controllerId key := hl ▸ halone
    have hpollable' : l.watcher.Pollable key := hl ▸ hpollable
    refine ⟨fun w hrun hmade => ?_, fun e herror => ?_, fun hcycles => ?_⟩
    · have hfollows : WatchedLoop.Follows controllerId key { loop := l }
          { controller := first } := by
        obtain ⟨-, -, hsamples, rfl⟩ := AutoPollIntervalController.create_eq_ok hcreate
        have hpos : 0 < config.pollBenchmark.samplesPerInterval.toNat := by omega
        exact ⟨by rw [hl]; rfl, halone', .inr hpos, hpos⟩
      have hlong : (config.pollBenchmark.settings.intervalsSeconds.length + 1) *
          config.pollBenchmark.settings.samplesPerInterval.toNat ≤ w.made := by
        rw [PollBenchmarkConfig.settings, List.length_map]
        exact hmade
      obtain ⟨w', hw', hlocked⟩ := hagreed w.made hlong
      obtain ⟨r', k, hends, hcount, hsame⟩ := hfollows.run hrun
      obtain rfl : w.made = k := hcount.trans (Nat.zero_add k)
      obtain rfl := Except.ok.inj (hw'.symm.trans hsame)
      rw [PollLoop.pollIntervalSeconds, hends.auto]
      dsimp only at hlocked ⊢
      rw [AutoPollIntervalController.currentIntervalSeconds, hlocked]
      rfl
    · exact PollLoop.Inv.run_error (w := { loop := l }) hrefreshed hsorted herror
    · obtain ⟨w, hrun, hmade⟩ := WatchedLoop.run_succeeding (w := { loop := l }) hrefreshed hsorted
        halone' hpollable' hcycles
      exact ⟨w, hrun, hmade.trans (Nat.zero_add _)⟩

end Accepted

/-- The default settings with a calibrated interval. -/
def autoConfig : AppConfig where
  watch := { pollIntervalSeconds := .text "auto" }

def plainConfigEnv : ConfigEnv where
  lower := id
  ipNetwork _ := .error "not a network"
  addressText _ _ := ""

theorem autoFinite : autoConfig.Finite .auto where
  interval := fun _ h => PollInterval.noConfusion h
  writes := rfl
  minimum := rfl
  stages := by decide
  fallback := rfl

/-- A controller is found, and a cycle ends without a sample. -/
def foundOnce : List LoopEvent :=
  [.refresh 0 [{ controllerId := "ctrl_a", deviceId := "dev_a"
                 device := { endpoint := { transport := .tcp, target := "a", unitId := 1 }
                             profile := "p" } }],
    .cycle { failureThreshold := 3, retryBackoffInitialSeconds := 2,
             retryBackoffMaxSeconds := 60 }
      (fun _ => { monotonic := 0, utcnow := 0, values := none }) Dict.empty]

/-- The interval of a loop that found a controller is within the bounds. -/
theorem poll_loop_calibrated_default :
    ∃ start l, autoConfig.createLoop .auto = .ok start ∧
      start.run ⟨fun _ => none, fun _ => ""⟩ foundOnce = .ok l ∧
      l.Sound ⟨fun _ => none, fun _ => ""⟩ autoConfig .auto start := by
  have hvalid : autoConfig.validate plainConfigEnv = .ok .auto := by decide +kernel
  obtain ⟨-, start, hstart, hruns⟩ :=
    poll_loop_calibrated ⟨fun _ => none, fun _ => ""⟩ hvalid autoFinite
  have hok : ((autoConfig.createLoop .auto).mapError LoopError.auto >>= fun start =>
      start.run ⟨fun _ => none, fun _ => ""⟩ foundOnce).toBool = true := by
    decide +kernel
  rw [hstart] at hok
  obtain ⟨l, hl⟩ := Loop.exists_ok hok
  exact ⟨start, l, hstart, hl, (hruns foundOnce).1 l hl⟩

/-- A device whose polls take half a second. -/
def halfSecondDevice : PolledDevice := fun interval _ =>
  { fastSample with configuredIntervalSeconds := interval, pollLatencyMs := 500 }

/-- The refresh finds the controller, and the cycles poll it without a failure. -/
def foundHalfSecond : List Resolved :=
  [{ controllerId := "ctrl_a", deviceId := "dev_a"
     device := { endpoint := { transport := .tcp, target := "a", unitId := 1 }
                 profile := "p" } }]

def succeedingCycles : List (WatchSettings × (String → PollReading)) :=
  List.replicate 48
    ({ failureThreshold := 3, retryBackoffInitialSeconds := 2, retryBackoffMaxSeconds := 60 },
      fun _ => { monotonic := 0, utcnow := 0, values := some id })

/-- Of the default intervals such a device is fast enough for one, and for the fallback. -/
theorem auto_agrees_with_benchmark_halfsecond :
    ∃ report start w,
      benchmarkPolling ⟨fun _ => none, fun _ => ""⟩ autoConfig.pollBenchmark.settings {} "tristar"
        .tcp halfSecondDevice = .ok report ∧
      autoConfig.createLoop .auto = .ok start ∧
      WatchedLoop.run ⟨fun _ => none, fun _ => ""⟩ halfSecondDevice "ctrl_a" succeedingCycles
        { loop := start.refresh 0 foundHalfSecond } = .ok w ∧
      report.recommendedIntervalSeconds = some 1 ∧ w.loop.pollIntervalSeconds = some 1 := by
  have hvalid : autoConfig.validate plainConfigEnv = .ok .auto := by decide +kernel
  obtain ⟨report, start, hreport, hstart, hlocks⟩ :=
    auto_agrees_with_benchmark ⟨fun _ => none, fun _ => ""⟩ hvalid autoFinite halfSecondDevice
      "tristar" .tcp "ctrl_a"
  have hpresents : ((autoConfig.createLoop .auto).map fun start =>
      (start.refresh 0 foundHalfSecond).watcher.presentControllerIds) = .ok ["ctrl_a"] := by
    decide +kernel
  have hreports : (benchmarkPolling ⟨fun _ => none, fun _ => ""⟩ autoConfig.pollBenchmark.settings
      {} "tristar" .tcp halfSecondDevice).map PollingBenchmarkReport.recommendedIntervalSeconds =
        .ok (some 1) := by
    decide +kernel
  have hfallback : passesAt ⟨fun _ => none, fun _ => ""⟩ autoConfig.pollBenchmark.settings
      halfSecondDevice autoConfig.pollBenchmark.samplesPerInterval.toNat
      autoConfig.pollBenchmark.autoFallbackIntervalSeconds.rat = true := by
    decide +kernel
  have hsucceed : ∀ c ∈ succeedingCycles, ∀ key, (c.2 key).Succeeds := by
    intro c hc key
    rw [(List.mem_replicate.mp hc).2]
    exact ⟨rfl, le_refl _⟩
  rw [hstart] at hpresents
  rw [hreport] at hreports
  obtain ⟨hlocked, -, hpolls⟩ := hlocks 0 foundHalfSecond succeedingCycles (Except.ok.inj hpresents)
  obtain ⟨w, hrun, hmade⟩ := hpolls hsucceed
  have hrecommended : report.recommendedIntervalSeconds = some 1 := Except.ok.inj hreports
  have hinterval := hlocked w hrun (by rw [hmade]; decide)
  rw [if_pos hfallback, hrecommended] at hinterval
  exact ⟨report, start, w, hreport, hstart, hrun, hrecommended, hinterval⟩

end MorningstarModbus
