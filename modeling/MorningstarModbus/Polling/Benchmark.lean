import MorningstarModbus.Lib.Group
import MorningstarModbus.Polling.AutoInterval

/-!
# MorningstarModbus.Polling.Benchmark

The polling benchmark of the command line (`_benchmark_polling` of `cli/main.py` and
`build_benchmark_report` of `polling/service.py`), and the interval selection of the watcher on the
same device.

A device is what it answers: the sample of the `k`th poll at an interval.

* `recommend_benchmarkStages` — what is recommended of the stages that are run;
* `Measuring`, `AtStage` — where a selection stands in its stages;
* `exists_agreed` — the selection locks what the benchmark recommends.
-/

namespace MorningstarModbus

open Query

/-! ## the command -/

structure PollingBenchmarkReport where
  profile : String
  transport : Transport
  stages : List BenchmarkStage
  recommendedIntervalSeconds : Option ℚ
  fastestTestedIntervalSeconds : Option ℚ
  deriving DecidableEq

/-- The loop of `build_benchmark_report`. -/
def recommend (recommended fastest : Option ℚ) : List BenchmarkStage → Option ℚ × Option ℚ
  | [] => (recommended, fastest)
  | stage :: stages =>
      if stage.passed then
        recommend (some stage.intervalSeconds) (some stage.intervalSeconds) stages
      else (recommended, some stage.intervalSeconds)

/-- `build_benchmark_report` -/
def buildBenchmarkReport (profile : String) (transport : Transport) (stages : List BenchmarkStage) :
    PollingBenchmarkReport where
  profile := profile
  transport := transport
  stages := stages
  recommendedIntervalSeconds := (recommend none none stages).1
  fastestTestedIntervalSeconds := (recommend none none stages).2

/-- The part of `config.poll_benchmark` that the command reads. -/
structure BenchmarkSettings where
  intervalsSeconds : List ℚ
  samplesPerInterval : Int
  minimumIntervalSeconds : ℚ
  thresholds : BenchmarkThresholds

/-- `--intervals` and `--samples`, where they are given. -/
structure BenchmarkArguments where
  intervals : List ℚ := []
  samples : Int := 0

/-- A device: the samples of its polls at an interval. -/
abbrev PolledDevice := ℚ → Nat → PollPerformanceSample

section Command

variable (env : PollingEnv) (settings : BenchmarkSettings)

/-- `_benchmark_intervals` -/
def benchmarkIntervals (arguments : BenchmarkArguments) : Except String (List ℚ) :=
  let intervals := if arguments.intervals = [] then settings.intervalsSeconds
    else arguments.intervals
  if intervals = [] then .error "at least one benchmark interval is required"
  else if intervals.any fun interval => interval < settings.minimumIntervalSeconds then
    .error ("benchmark intervals must be >= " ++ env.general settings.minimumIntervalSeconds ++
      " seconds")
  else .ok (orderBy id .desc (Table.distinct intervals))

/-- The stage of an interval. -/
def measuredStage (device : PolledDevice) (samplesPerInterval : Nat) (interval : ℚ) :
    BenchmarkStage :=
  evaluateBenchmarkStage env interval ((List.range samplesPerInterval).map (device interval))
    settings.thresholds

/-- The loop over the intervals. -/
def benchmarkStages (device : PolledDevice) (samplesPerInterval : Nat) :
    List ℚ → List BenchmarkStage
  | [] => []
  | interval :: intervals =>
      let stage := measuredStage env settings device samplesPerInterval interval
      if stage.passed then stage :: benchmarkStages device samplesPerInterval intervals
      else [stage]

/-- `_benchmark_polling` of a device that was resolved: the report. -/
def benchmarkPolling (arguments : BenchmarkArguments) (profile : String) (transport : Transport)
    (device : PolledDevice) : Except String PollingBenchmarkReport :=
  let samplesPerInterval := if arguments.samples = 0 then settings.samplesPerInterval
    else arguments.samples
  if samplesPerInterval < 3 then .error "--samples must be >= 3"
  else (benchmarkIntervals env settings arguments).map fun intervals =>
    buildBenchmarkReport profile transport
      (benchmarkStages env settings device samplesPerInterval.toNat intervals)

end Command

/-! ## what is recommended -/

section Report

variable {env : PollingEnv} {settings : BenchmarkSettings} {device : PolledDevice} {n : Nat}

/-- The device passes at an interval. -/
def passesAt (env : PollingEnv) (settings : BenchmarkSettings) (device : PolledDevice) (n : Nat)
    (interval : ℚ) : Bool :=
  (measuredStage env settings device n interval).passed

theorem recommend_benchmarkStages (recommended fastest : Option ℚ) (intervals : List ℚ) :
    recommend recommended fastest (benchmarkStages env settings device n intervals) =
      (((intervals.takeWhile (passesAt env settings device n)).getLast?).or recommended,
        (((benchmarkStages env settings device n intervals).map
          BenchmarkStage.intervalSeconds).getLast?).or fastest) := by
  induction intervals generalizing recommended fastest with
  | nil => rfl
  | cons interval intervals ih =>
      rw [benchmarkStages, List.takeWhile_cons]
      cases hpassed : passesAt env settings device n interval with
      | true =>
          have hstage : (measuredStage env settings device n interval).passed = true := hpassed
          rw [if_pos hstage, if_pos rfl, recommend, if_pos hstage, ih, List.map_cons]
          have hlast : ∀ (x : ℚ) (xs : List ℚ) (y : Option ℚ),
              ((x :: xs).getLast?).or y = (xs.getLast?).or (some x) := by
            intro x xs y
            rw [List.getLast?_cons]
            cases xs.getLast? <;> rfl
          rw [hlast, hlast]
          rfl
      | false =>
          have hstage : ¬(measuredStage env settings device n interval).passed = true := by
            simpa [passesAt] using hpassed
          rw [if_neg hstage, if_neg (by simp), recommend, if_neg hstage]
          rfl

/-- The fallback is the slowest of the intervals that the selection tests. -/
theorem orderBy_distinct_append {xs : List ℚ} {fallback : ℚ} (hle : ∀ x ∈ xs, x ≤ fallback) :
    ∃ faster, orderBy id .desc (Table.distinct (xs ++ [fallback])) = fallback :: faster ∧
      (orderBy id .desc (Table.distinct xs) = faster ∨
        orderBy id .desc (Table.distinct xs) = fallback :: faster) := by
  have hmem : ∀ x, x ∈ orderBy id .desc (Table.distinct xs) ↔ x ∈ xs := by
    simp [Table.mem_distinct]
  have hsorted := pairwise_orderBy id .desc (Table.distinct xs)
  rw [Table.distinct_append]
  by_cases hfallback : fallback ∈ xs
  · have hold : (Table.distinct [fallback]).filter (· ∉ xs) = [] := by
      simp [Table.distinct, hfallback]
    rw [hold, List.append_nil]
    have hhead := (hmem fallback).mpr hfallback
    cases hlist : orderBy id .desc (Table.distinct xs) with
    | nil =>
        rw [hlist] at hhead
        cases hhead
    | cons x faster =>
        have hx : x ≤ fallback := hle x ((hmem x).mp (by rw [hlist]; exact List.mem_cons_self))
        rw [hlist] at hhead hsorted
        have hge : fallback ≤ x := by
          cases List.mem_cons.mp hhead with
          | inl heq => exact heq.le
          | inr hlater => exact (List.pairwise_cons.mp hsorted).1 fallback hlater
        obtain rfl := le_antisymm hx hge
        exact ⟨faster, rfl, .inr rfl⟩
  · have hnew : (Table.distinct [fallback]).filter (· ∉ xs) = [fallback] := by
      simp [Table.distinct, hfallback]
    rw [hnew]
    refine ⟨orderBy id .desc (Table.distinct xs), ?_, .inl rfl⟩
    have hperm : (Table.distinct xs ++ [fallback]).Perm
        (fallback :: orderBy id .desc (Table.distinct xs)) :=
      (List.perm_append_singleton fallback _).trans ((orderBy_perm id .desc _).symm.cons fallback)
    exact List.Perm.eq_of_pairwise (fun a b _ _ hab hba => Direction.le_antisymm hab hba)
      (pairwise_orderBy id .desc _)
      (List.pairwise_cons.mpr ⟨fun x hx => hle x ((hmem x).mp hx), hsorted⟩)
      ((orderBy_perm id .desc _).trans hperm)

/-- A benchmark with the intervals and the samples of the settings. -/
theorem exists_report (hne : settings.intervalsSeconds ≠ [])
    (hlow : ∀ x ∈ settings.intervalsSeconds, settings.minimumIntervalSeconds ≤ x)
    (hsamples : 3 ≤ settings.samplesPerInterval) (env : PollingEnv) (device : PolledDevice)
    (profile : String) (transport : Transport) :
    ∃ report, benchmarkPolling env settings {} profile transport device = .ok report ∧
      report.recommendedIntervalSeconds =
        ((orderBy id .desc (Table.distinct settings.intervalsSeconds)).takeWhile
          (passesAt env settings device settings.samplesPerInterval.toNat)).getLast? := by
  have hbelow : ¬(settings.intervalsSeconds.any fun interval =>
      interval < settings.minimumIntervalSeconds) = true := by
    simpa using hlow
  unfold benchmarkPolling benchmarkIntervals
  dsimp only
  rw [if_pos rfl, if_pos rfl, if_neg (not_lt.mpr hsamples), if_neg hne, if_neg hbelow]
  refine ⟨_, rfl, ?_⟩
  dsimp only [buildBenchmarkReport]
  rw [recommend_benchmarkStages, Option.or_none]

end Report

/-! ## the selection on the same device -/

/-- The stage of a selection, and whether it is over. -/
def AutoPollIntervalController.position (c : AutoPollIntervalController) : Nat × Option ℚ :=
  (c.stageIndex, c.lockedInterval)

@[simp] theorem AutoPollIntervalController.position_collect
    (samples : Dict String PollPerformanceSample) (controllerIds : List String)
    (c : AutoPollIntervalController) : (c.collect samples controllerIds).position = c.position :=
  rfl

/-- A selection that is over, or still wants samples of the controller. -/
def AutoPollIntervalController.Wanting (controllerId : String) (c : AutoPollIntervalController) :
    Prop :=
  c.lockedInterval.isSome = true ∨ (c.samplesOf controllerId).length < c.samplesPerInterval

theorem AutoPollIntervalController.collect_empty (controllerIds : List String)
    (c : AutoPollIntervalController) : c.collect Dict.empty controllerIds = c := by
  have hsamples : (c.collect Dict.empty controllerIds).samples = c.samples := by
    funext id
    simp [collect]
  exact congrArg (fun samples => { c with samples }) hsamples

/-- A cycle without a poll changes nothing. -/
theorem AutoPollIntervalController.Wanting.observe_empty {id : String}
    {c : AutoPollIntervalController} (h : c.Wanting id) (env : PollingEnv) :
    c.observe env Dict.empty [id] = .ok (c, none) := by
  have htests : c.tests Dict.empty [id] = false := by
    rw [tests, collect_empty]
    cases h with
    | inl hlocked =>
        have hcalibrating : c.calibrating = false := by
          rw [calibrating, ← Option.not_isSome, hlocked]
          rfl
        rw [hcalibrating]
        rfl
    | inr hfew =>
        have hready : c.ready [id] = false := by simp [ready, hfew]
        rw [hready, Bool.and_false]
  rw [observe_of_not_tests htests, collect_empty, ite_self]

/-- After a call for the controller the selection wants samples again. -/
theorem AutoPollIntervalController.wanting_of_observe {env : PollingEnv} {id : String}
    {samples : Dict String PollPerformanceSample} {c c' : AutoPollIntervalController}
    {message : Option String} (hn : 0 < c.samplesPerInterval)
    (h : c.observe env samples [id] = .ok (c', message)) :
    c'.Wanting id ∧ c'.samplesPerInterval = c.samplesPerInterval := by
  unfold observe at h
  by_cases hlocked : c.lockedInterval.isSome = true
  · rw [if_pos (.inl hlocked)] at h
    obtain ⟨rfl, -⟩ := Prod.mk.inj (Except.ok.inj h)
    exact ⟨.inl hlocked, rfl⟩
  · rw [if_neg (by simp [hlocked])] at h
    dsimp only at h
    by_cases hready : (c.collect samples [id]).ready [id] = true
    · rw [if_neg (not_not_intro hready)] at h
      cases hcurrent : (c.collect samples [id]).currentIntervalSeconds with
      | none => simp [hcurrent] at h
      | some interval =>
          simp only [hcurrent, Except.ok.injEq, Prod.mk.injEq] at h
          obtain ⟨rfl, -⟩ := h
          obtain ⟨-, hnew⟩ | ⟨-, -, hnew⟩ | ⟨-, -, hnew⟩ :=
            conclude_cases env interval [id] (c.collect samples [id])
          · rw [hnew]
            exact ⟨.inl rfl, rfl⟩
          · rw [hnew]
            exact ⟨.inr hn, rfl⟩
          · rw [hnew]
            exact ⟨.inl rfl, rfl⟩
    · rw [if_pos hready] at h
      obtain ⟨rfl, -⟩ := Prod.mk.inj (Except.ok.inj h)
      refine ⟨.inr ?_, rfl⟩
      simpa [ready] using hready

/-- What `run` keeps of a daemon over one controller. -/
structure WatchedDevice where
  selection : AutoPollIntervalController
  /-- polls of the current stage -/
  polls : Nat := 0

section Watch

variable (env : PollingEnv) (device : PolledDevice) (controllerId : String)

/-- A cycle of `run`: a poll at the current interval, which is observed. -/
def watchCycle (w : WatchedDevice) : Except AutoPollError WatchedDevice :=
  match w.selection.currentIntervalSeconds with
  | none => .error .index
  | some interval => do
      let (selection, _) ← w.selection.observe env
        (Dict.empty.set controllerId (device interval w.polls)) [controllerId]
      return {
        selection
        polls := if selection.position = w.selection.position then w.polls + 1 else 0 }

def watchCycles : Nat → WatchedDevice → Except AutoPollError WatchedDevice
  | 0, w => .ok w
  | cycles + 1, w => do watchCycles cycles (← watchCycle env device controllerId w)

end Watch

section Agreement

variable {env : PollingEnv} {settings : BenchmarkSettings} {device : PolledDevice} {n j : Nat}
  {id : String} {c : AutoPollIntervalController} {w : WatchedDevice} {interval : ℚ}
  {intervals : List ℚ}

theorem watchCycles_add (j k : Nat) (w : WatchedDevice) :
    watchCycles env device id (j + k) w =
      watchCycles env device id j w >>= watchCycles env device id k := by
  induction j generalizing w with
  | zero =>
      rw [Nat.zero_add]
      rfl
  | succ j ih =>
      rw [Nat.succ_add, watchCycles, watchCycles]
      cases watchCycle env device id w with
      | error e => rfl
      | ok next => exact ih next

/-- A locked interval is not measured any more. -/
theorem watchCycles_of_locked (hlocked : w.selection.lockedInterval = some interval)
    (cycles : Nat) : watchCycles env device id cycles w =
      .ok { w with polls := w.polls + cycles } := by
  induction cycles generalizing w with
  | zero => rfl
  | succ cycles ih =>
      have hcycle : watchCycle env device id w = .ok { w with polls := w.polls + 1 } := by
        rw [watchCycle, AutoPollIntervalController.currentIntervalSeconds, hlocked]
        dsimp only
        rw [AutoPollIntervalController.observe, if_pos (.inl (by rw [hlocked]; rfl)), Loop.ok_bind]
        dsimp only
        rw [if_pos rfl]
        rfl
      rw [watchCycles, hcycle, Loop.ok_bind, ih (w := { w with polls := w.polls + 1 }) hlocked,
        Nat.add_assoc, Nat.add_comm 1]

/-! ### a stage -/

/-- Some polls into a stage that began with the selection `c`. -/
structure Measuring (device : PolledDevice) (id : String) (c : AutoPollIntervalController)
    (interval : ℚ) (j : Nat) (w : WatchedDevice) : Prop where
  selection : w.selection = { c with samples := w.selection.samples }
  samples : w.selection.samplesOf id = (List.range j).map (device interval)
  polls : w.polls = j

/-- A selection at the stage of the first of these intervals. -/
structure AtStage (settings : BenchmarkSettings) (n : Nat) (interval : ℚ) (intervals : List ℚ)
    (c : AutoPollIntervalController) : Prop where
  thresholds : c.thresholds = settings.thresholds
  samplesPerInterval : c.samplesPerInterval = n
  remaining : c.intervalsSeconds.drop c.stageIndex = interval :: intervals
  unlocked : c.lockedInterval = none

theorem AtStage.current (h : AtStage settings n interval intervals c) :
    c.currentIntervalSeconds = some interval := by
  rw [AutoPollIntervalController.currentIntervalSeconds, h.unlocked]
  dsimp only
  rw [← Nat.add_zero c.stageIndex, ← List.getElem?_drop, h.remaining]
  rfl

theorem Measuring.current (h : Measuring device id c interval j w)
    (hc : AtStage settings n interval intervals c) :
    w.selection.currentIntervalSeconds = some interval := by
  rw [h.selection]
  exact hc.current

theorem Measuring.calibrating (h : Measuring device id c interval j w)
    (hc : AtStage settings n interval intervals c) : w.selection.calibrating = true := by
  rw [h.selection]
  exact congrArg Option.isNone hc.unlocked

theorem Measuring.position (h : Measuring device id c interval j w) :
    w.selection.position = c.position := by
  rw [h.selection]
  rfl

/-- Collecting changes the samples only. -/
theorem Measuring.collect (h : Measuring device id c interval j w)
    (samples : Dict String PollPerformanceSample) :
    w.selection.collect samples [id] =
      { c with samples := (w.selection.collect samples [id]).samples } :=
  congrArg (fun selection : AutoPollIntervalController =>
    { selection with samples := (w.selection.collect samples [id]).samples }) h.selection

/-- The samples with those of one more poll. -/
theorem Measuring.samplesOf_collect (h : Measuring device id c interval j w) :
    (w.selection.collect (Dict.empty.set id (device interval w.polls)) [id]).samplesOf id =
      (List.range (j + 1)).map (device interval) := by
  rw [AutoPollIntervalController.samplesOf_collect, h.samples, if_pos (List.mem_singleton_self id),
    Dict.set_self, h.polls, List.range_succ, List.map_append]
  rfl

theorem Measuring.tests (h : Measuring device id c interval j w)
    (hc : AtStage settings n interval intervals c) :
    w.selection.tests (Dict.empty.set id (device interval w.polls)) [id] = decide (n ≤ j + 1) := by
  have hsamples : (w.selection.collect (Dict.empty.set id (device interval w.polls))
      [id]).samplesPerInterval = n := by
    rw [h.selection]
    exact hc.samplesPerInterval
  simp only [AutoPollIntervalController.tests, AutoPollIntervalController.ready,
    h.calibrating hc, hsamples, h.samplesOf_collect, List.all_cons, List.all_nil, List.length_map,
    List.length_range, List.isEmpty_cons, Bool.not_false, Bool.true_and, Bool.and_true]

variable (env) in
/-- A poll that is not the last of its stage. -/
theorem Measuring.next (h : Measuring device id c interval j w)
    (hc : AtStage settings n interval intervals c) (hj : j + 1 < n) :
    ∃ next, watchCycle env device id w = .ok next ∧
      Measuring device id c interval (j + 1) next := by
  have htests : w.selection.tests (Dict.empty.set id (device interval w.polls)) [id] = false := by
    rw [h.tests hc, decide_eq_false_iff_not]
    omega
  refine ⟨⟨w.selection.collect (Dict.empty.set id (device interval w.polls)) [id], w.polls + 1⟩,
    ?_, ?_, h.samplesOf_collect, congrArg (· + 1) h.polls⟩
  · rw [watchCycle, h.current hc]
    dsimp only
    rw [AutoPollIntervalController.observe_of_not_tests htests, if_pos (h.calibrating hc),
      Loop.ok_bind]
    dsimp only
    rw [AutoPollIntervalController.position_collect, if_pos rfl]
    rfl
  · exact h.collect _

/-- The selection after a stage over these samples. -/
def concluded (env : PollingEnv) (id : String) (interval : ℚ) (c : AutoPollIntervalController)
    (samples : Dict String (List PollPerformanceSample)) : AutoPollIntervalController :=
  (AutoPollIntervalController.conclude env interval [id] { c with samples }).1

variable (env id) in
theorem AtStage.position_concluded (hc : AtStage settings n interval intervals c)
    (samples : Dict String (List PollPerformanceSample)) :
    (concluded env id interval c samples).position ≠ c.position := by
  have hunlocked := hc.unlocked
  obtain ⟨-, hnew⟩ | ⟨-, -, hnew⟩ | ⟨-, -, hnew⟩ :=
    AutoPollIntervalController.conclude_cases env interval [id] { c with samples }
  all_goals
    rw [concluded, hnew]
    simp [AutoPollIntervalController.position, hunlocked]

variable (env) in
/-- The last poll of a stage. -/
theorem Measuring.concludes (h : Measuring device id c interval j w)
    (hc : AtStage settings n interval intervals c) (hj : j + 1 = n) :
    ∃ samples, watchCycle env device id w =
        .ok { selection := concluded env id interval c samples } ∧
      AutoPollIntervalController.samplesOf { c with samples } id =
        (List.range n).map (device interval) := by
  have htests : w.selection.tests (Dict.empty.set id (device interval w.polls)) [id] = true := by
    rw [h.tests hc, decide_eq_true_iff]
    omega
  have hcollect := h.collect (Dict.empty.set id (device interval w.polls))
  refine ⟨(w.selection.collect (Dict.empty.set id (device interval w.polls)) [id]).samples, ?_, ?_⟩
  · rw [watchCycle, h.current hc]
    dsimp only
    have hposition := hc.position_concluded env id
      (w.selection.collect (Dict.empty.set id (device interval w.polls)) [id]).samples
    rw [concluded, ← hcollect] at hposition ⊢
    rw [AutoPollIntervalController.observe_of_tests htests (h.current hc), Loop.ok_bind]
    dsimp only
    rw [if_neg (by rw [h.position]; exact hposition)]
    rfl
  · rw [← hcollect, h.samplesOf_collect, hj]

variable (env) in
/-- The polls of a stage, and what they are concluded from. -/
theorem AtStage.concludes (hc : AtStage settings n interval intervals c) (k : Nat)
    (h : Measuring device id c interval j w) (hj : j + (k + 1) = n) :
    ∃ samples, watchCycles env device id (k + 1) w =
        .ok { selection := concluded env id interval c samples } ∧
      AutoPollIntervalController.samplesOf { c with samples } id =
        (List.range n).map (device interval) := by
  induction k generalizing j w with
  | zero =>
      obtain ⟨samples, hcycle, hsamples⟩ := h.concludes env hc hj
      refine ⟨samples, ?_, hsamples⟩
      rw [watchCycles, hcycle]
      rfl
  | succ k ih =>
      obtain ⟨next, hcycle, hnext⟩ := h.next env hc (by omega)
      obtain ⟨samples, hcycles, hsamples⟩ := ih hnext (by omega)
      refine ⟨samples, ?_, hsamples⟩
      rw [watchCycles, hcycle]
      exact hcycles

variable (env) in
/-- The stage fails where the benchmark's does. -/
theorem AtStage.failures_eq_nil_iff (hc : AtStage settings n interval intervals c)
    {samples : Dict String (List PollPerformanceSample)}
    (hsamples : AutoPollIntervalController.samplesOf { c with samples } id =
      (List.range n).map (device interval)) :
    AutoPollIntervalController.failures env interval [id] { c with samples } = [] ↔
      passesAt env settings device n interval = true := by
  rw [AutoPollIntervalController.failures_eq_nil_iff]
  have hstage : AutoPollIntervalController.stage env interval { c with samples } id =
      measuredStage env settings device n interval := by
    rw [AutoPollIntervalController.stage, hsamples, measuredStage, List.rtake, List.length_map,
      List.length_range, hc.samplesPerInterval, Nat.sub_self, List.drop_zero, hc.thresholds]
  simp only [List.mem_singleton, forall_eq, hstage, passesAt]

variable (env device) in
/-- A stage from its beginning. -/
theorem AtStage.run (hc : AtStage settings n interval intervals c) (hn : 0 < n)
    (hempty : c.samplesOf id = []) :
    ∃ samples, watchCycles env device id n { selection := c } =
        .ok { selection := concluded env id interval c samples } ∧
      AutoPollIntervalController.samplesOf { c with samples } id =
        (List.range n).map (device interval) := by
  have hstart : Measuring device id c interval 0 { selection := c } := ⟨rfl, hempty, rfl⟩
  have hrun := hc.concludes env (n - 1) hstart (by omega)
  rw [Nat.sub_add_cancel hn] at hrun
  exact hrun

/-! ### the stages -/

theorem AtStage.length (hc : AtStage settings n interval intervals c) :
    c.intervalsSeconds.length = c.stageIndex + (intervals.length + 1) := by
  have hlength := congrArg List.length hc.remaining
  rw [List.length_drop, List.length_cons] at hlength
  omega

variable (env) in
/-- What a stage leads to: a lock, or the stage of the next interval. -/
theorem AtStage.concluded_cases (hc : AtStage settings n interval intervals c)
    {samples : Dict String (List PollPerformanceSample)}
    (hsamples : AutoPollIntervalController.samplesOf { c with samples } id =
      (List.range n).map (device interval)) :
    (passesAt env settings device n interval = false ∧
      (concluded env id interval c samples).lockedInterval = some c.safeOrFallback) ∨
    (passesAt env settings device n interval = true ∧ intervals = [] ∧
      (concluded env id interval c samples).lockedInterval = some interval) ∨
    (passesAt env settings device n interval = true ∧ ∃ next rest, intervals = next :: rest ∧
      AtStage settings n next rest (concluded env id interval c samples) ∧
      (concluded env id interval c samples).lastSafeInterval = some interval ∧
      (concluded env id interval c samples).samplesOf id = []) := by
  have hpass := hc.failures_eq_nil_iff env hsamples
  have hlength := hc.length
  obtain ⟨hfail, hnew⟩ | ⟨hnil, hnext, hnew⟩ | ⟨hnil, hlast, hnew⟩ :=
    AutoPollIntervalController.conclude_cases env interval [id] { c with samples }
  · refine .inl ⟨Bool.eq_false_iff.mpr fun h => hfail (hpass.mpr h), ?_⟩
    rw [concluded, hnew]
    rfl
  · refine .inr (.inr ⟨hpass.mp hnil, ?_⟩)
    dsimp only at hnext
    cases intervals with
    | nil =>
        rw [List.length_nil] at hlength
        omega
    | cons next rest =>
        rw [concluded, hnew]
        refine ⟨next, rest, rfl, ⟨hc.thresholds, hc.samplesPerInterval, ?_, hc.unlocked⟩, rfl, rfl⟩
        dsimp only
        rw [← List.drop_drop, hc.remaining, List.drop_one, List.tail_cons]
  · refine .inr (.inl ⟨hpass.mp hnil, ?_, ?_⟩)
    · dsimp only at hlast
      exact List.eq_nil_of_length_eq_zero (by omega)
    · rw [concluded, hnew]

variable (env device) in
/-- The remaining intervals are tested until one fails. -/
theorem AtStage.exists_locked (hc : AtStage settings n interval intervals c) (hn : 0 < n)
    (hpositive : ∀ x ∈ interval :: intervals, 0 < x) (hempty : c.samplesOf id = []) :
    ∃ cycles ≤ (intervals.length + 1) * n, ∃ w,
      watchCycles env device id cycles { selection := c } = .ok w ∧
        w.selection.lockedInterval = some (((interval :: intervals).takeWhile
          (passesAt env settings device n)).getLast?.getD c.safeOrFallback) := by
  induction intervals generalizing c interval with
  | nil =>
      obtain ⟨samples, hrun, hsamples⟩ := hc.run env device hn hempty
      refine ⟨n, by simp, _, hrun, ?_⟩
      obtain ⟨hpass, hlocked⟩ | ⟨hpass, -, hlocked⟩ | ⟨-, next, rest, hnext, -⟩ :=
        hc.concluded_cases env hsamples
      · rw [hlocked, List.takeWhile_cons, hpass]
        rfl
      · rw [hlocked, List.takeWhile_cons, hpass]
        rfl
      · cases hnext
  | cons next intervals ih =>
      obtain ⟨samples, hrun, hsamples⟩ := hc.run env device hn hempty
      obtain ⟨hpass, hlocked⟩ | ⟨-, hnil, -⟩ |
        ⟨hpass, next', rest, hnext, hstage, hsafe, hempty'⟩ := hc.concluded_cases env hsamples
      · refine ⟨n, Nat.le_mul_of_pos_left n (Nat.succ_pos _), _, hrun, ?_⟩
        rw [hlocked, List.takeWhile_cons, hpass]
        rfl
      · cases hnil
      · obtain ⟨rfl, rfl⟩ := List.cons.inj hnext
        obtain ⟨cycles, hcycles, w, hrest, hlocked⟩ :=
          ih hstage (fun x hx => hpositive x (List.mem_cons_of_mem _ hx)) hempty'
        refine ⟨n + cycles, ?_, w, ?_, ?_⟩
        · rw [List.length_cons, Nat.succ_mul]
          omega
        · rw [watchCycles_add, hrun]
          exact hrest
        · have hne : interval ≠ 0 := (hpositive interval List.mem_cons_self).ne'
          have hlast : (concluded env id interval c samples).safeOrFallback = interval := by
            rw [AutoPollIntervalController.safeOrFallback, hsafe]
            exact if_neg hne
          rw [hlocked, hlast, List.takeWhile_cons (a := interval), hpass, if_pos rfl,
            List.getLast?_cons]
          rfl

/-- The selection locks what the benchmark recommends, unless the fallback itself fails, which is
tested first. -/
theorem exists_agreed {fallback : ℚ} {start : AutoPollIntervalController}
    (hminimum : 0 < settings.minimumIntervalSeconds)
    (hlow : ∀ x ∈ settings.intervalsSeconds, settings.minimumIntervalSeconds ≤ x)
    (hcreate : AutoPollIntervalController.create settings.intervalsSeconds
      settings.samplesPerInterval settings.thresholds fallback = .ok start)
    (env : PollingEnv) (device : PolledDevice) (profile : String) (transport : Transport)
    (id : String) :
    ∃ report, benchmarkPolling env settings {} profile transport device = .ok report ∧
      ∀ cycles, (settings.intervalsSeconds.length + 1) * settings.samplesPerInterval.toNat ≤
        cycles → ∃ w, watchCycles env device id cycles { selection := start } = .ok w ∧
          w.selection.lockedInterval = some
            (if passesAt env settings device settings.samplesPerInterval.toNat fallback then
              report.recommendedIntervalSeconds.getD fallback
            else fallback) := by
  obtain ⟨hne, hle, hsamples, hstart⟩ := AutoPollIntervalController.create_eq_ok hcreate
  obtain ⟨report, hreport, hrecommended⟩ :=
    exists_report hne hlow hsamples env device profile transport
  obtain ⟨faster, hintervals, hsame⟩ := orderBy_distinct_append hle
  have hpositive : ∀ x ∈ fallback :: faster, 0 < x := by
    have hstages : ∀ x ∈ settings.intervalsSeconds, 0 < x :=
      fun x hx => hminimum.trans_le (hlow x hx)
    intro x hx
    rw [← hintervals, mem_orderBy, Table.mem_distinct, List.mem_append, List.mem_singleton] at hx
    cases hx with
    | inl hx => exact hstages x hx
    | inr heq =>
        obtain ⟨y, hy⟩ := List.exists_mem_of_ne_nil _ hne
        rw [heq]
        exact (hstages y hy).trans_le (hle y hy)
  have hlength : faster.length ≤ settings.intervalsSeconds.length := by
    have hdistinct := Table.length_distinct_le (settings.intervalsSeconds ++ [fallback])
    have hordered := congrArg List.length hintervals
    rw [length_orderBy, List.length_cons] at hordered
    rw [List.length_append, List.length_singleton] at hdistinct
    omega
  have hstage : AtStage settings settings.samplesPerInterval.toNat fallback faster start := by
    rw [hstart]
    exact ⟨rfl, rfl, hintervals, rfl⟩
  have hempty : start.samplesOf id = [] := by
    rw [hstart]
    rfl
  have hfallback : start.safeOrFallback = fallback := by
    rw [hstart]
    rfl
  obtain ⟨k, hk, w, hrun, hlocked⟩ :=
    hstage.exists_locked env device (by omega) hpositive hempty
  refine ⟨report, hreport, fun cycles hcycles => ?_⟩
  have hk' : k ≤ cycles :=
    (hk.trans (Nat.mul_le_mul_right _ (Nat.succ_le_succ hlength))).trans hcycles
  obtain ⟨more, rfl⟩ := Nat.exists_eq_add_of_le hk'
  refine ⟨{ w with polls := w.polls + more }, ?_, ?_⟩
  · rw [watchCycles_add, hrun]
    exact watchCycles_of_locked hlocked more
  · rw [hlocked, hfallback, List.takeWhile_cons]
    cases hpass : passesAt env settings device settings.samplesPerInterval.toNat fallback with
    | false => rfl
    | true =>
        rw [if_pos rfl, if_pos rfl, List.getLast?_cons, hrecommended]
        cases hsame with
        | inl hsame =>
            rw [hsame]
            rfl
        | inr hsame =>
            rw [hsame, List.takeWhile_cons, hpass, if_pos rfl, List.getLast?_cons,
              Option.getD_some]

end Agreement

end MorningstarModbus
