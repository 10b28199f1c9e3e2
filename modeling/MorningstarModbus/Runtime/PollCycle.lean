import MorningstarModbus.Lib.Coroutine
import MorningstarModbus.Runtime.PollPersistence

/-!
# MorningstarModbus.Runtime.PollCycle

The polls of a cycle as the tasks of `_poll_all` (`runtime/watcher.py`): they take turns on the
dictionaries of the watcher, on the limiter and on the store.  Where one of them raises, its group
cancels the others; nobody else does.

* `pollTask` — `_poll_one` cut where other tasks may go on;
* `run_pollTask` — alone it does what `_poll_one` does;
* `PollJob.Cleanup` — what a poll that is cut off does on its way out;
* `poll_cycle_isolated` — polls of different endpoints do not disturb each other, unless one of them
  raises.
-/

namespace MorningstarModbus

open Effects Coroutine Coroutine.Task

variable {V : Type}

/-! ## tasks -/

/-- A poll that `_poll_all` creates a task for, with what it meets. -/
structure PollJob (V : Type) where
  key : String
  controllerId : String
  deviceId : String
  device : DiscoveredDevice
  /-- what `can_poll` reads of the clock -/
  clock : ℚ
  inputs : PollInputs V
  raises : StoreCall → Option PyException

abbrev PollTask (V α : Type) := Task (PollState V) PyException α

/-- The observer of the client: an exchange is recorded by the tracker of its endpoint. -/
def PollCore.record (key : String) (exchange : ModbusExchange) (c : PollCore) : PollCore :=
  match c.trackers key with
  | some tracker => { c with trackers := c.trackers.set key (tracker.record exchange) }
  | none => c

/-- What `_poll_one` does before it asks the device. -/
def PollCore.beginPoll (settings : PollSettings) (key : String) (device : DiscoveredDevice)
    (c : PollCore) : PollCore :=
  { c with
    watcher := c.watcher.openPoll key device
    trackers := c.trackers.set key (c.tracker settings key device).beginPoll }

section Tasks

variable (settings : PollSettings) (interval : ℚ) (job : PollJob V)

/-- The exchanges with the device, one after another. -/
def exchangeTask : List ModbusExchange → PollTask V Unit
  | [] => done (.ok ())
  | e :: es => (atomic (modify (PollState.onCore (PollCore.record job.key e)))).bind fun _ =>
      exchangeTask es

/-- The calls of `_persist_success`, each of which other tasks may come before. -/
def persistSuccessTask (values : List V) (performance : PollPerformanceSample)
    (intelligence : Option DeviceIntelligence) : PollTask V Unit :=
  (atomic (tryCatch
    (do callStore job.raises .savePoll
          (.poll job.deviceId job.device job.inputs.latencyMs values)
        pure true)
    fun _ => pure false)).bind fun saved =>
  if saved then
    (atomic (logged (callStore job.raises .recordSuccess
      (.success job.controllerId job.device.endpoint.stableKey)))).bind fun _ =>
    (atomic (logged (callStore job.raises .savePerformance
      (.performance job.deviceId performance (some job.inputs.sampleId))))).bind fun _ =>
    match intelligence with
    | some i => atomic (logged (callStore job.raises .saveIntelligence
        (.intelligence job.deviceId i)))
    | none => done (.ok ())
  else done (.ok ())

/-- The calls of `_persist_failure`. -/
def persistFailureTask (performance : PollPerformanceSample) (error : String) :
    PollTask V Unit :=
  (atomic (logged (callStore job.raises .savePerformance
    (.performance job.deviceId performance none)))).bind fun _ =>
  atomic (logged (callStore job.raises .saveError (.error job.deviceId error)))

/-- The question to the limiter. -/
def askLimiter : PollProgram V Bool := do
  let s ← get
  modify (PollState.onCore fun c =>
    (c.shouldPersist job.inputs.persistClock job.controllerId).2)
  pure (s.core.shouldPersist job.inputs.persistClock job.controllerId).1

def whenDueTask (t : PollTask V Unit) : PollTask V Unit :=
  (atomic (askLimiter job)).bind fun due => if due then t else done (.ok ())

/-- The part of `_poll_one` under `try`, from the answer of the device on. -/
def pollSuccessTask (tracker : PollTrafficTracker) (intelligence : Option DeviceIntelligence) :
    PollTask V PollPerformanceSample :=
  (atomic (PollProgram.ofExcept job.inputs.values)).bind fun values =>
  (atomic (onWatcher (Watcher.onLifecycle job.key
    (DeviceLifecycle.markSuccess job.inputs.utcnow.instant)))).bind fun _ =>
  let performance := tracker.finish job.inputs.utcnow interval job.inputs.latencyMs true ""
  (atomic (refreshed job.inputs job.key values intelligence)).bind fun intelligence =>
  (whenDueTask job (persistSuccessTask job values performance intelligence)).bind fun _ =>
  done (.ok performance)

/-- The client of a failed poll leaves the dictionary; it is closed while others go on. -/
def takeClient : PollProgram V (Option Endpoint) := do
  let s ← get
  onWatcher fun w => { w with clients := w.clients.pop job.key }
  pure (s.core.watcher.clients job.key)

def closeTask : Option Endpoint → PollTask V Unit
  | some client => atomic do
      modify (PollState.onCore fun c => { c with closed := c.closed ++ [client] })
      PollProgram.ofExcept (match job.inputs.close with
        | some e => .error e
        | none => .ok ())
  | none => done (.ok ())

/-- The part of `_poll_one` under `except Exception`. -/
def pollFailureTask (tracker : PollTrafficTracker) (e : PyException) :
    PollTask V PollPerformanceSample :=
  let performance := tracker.finish job.inputs.utcnow interval job.inputs.latencyMs false e.text
  (atomic (markPollFailure settings job.inputs job.key)).bind fun _ =>
  ((atomic (takeClient job)).bind (closeTask job)).bind fun _ =>
  (whenDueTask job (persistFailureTask job performance e.text)).bind fun _ =>
  done (.ok performance)

/-- The beginning of a poll, and the intelligence it starts from. -/
def openProgram : PollProgram V (Option DeviceIntelligence) := do
  let s ← get
  modify (PollState.onCore (PollCore.beginPoll settings job.key job.device))
  pure (s.core.watcher.intelligence job.key)

/-- The tracker with the exchanges it recorded. -/
def readTracker : PollProgram V PollTrafficTracker := do
  let s ← get
  pure (s.core.tracker settings job.key job.device)

/-- `_poll_one` of an endpoint with a device and a controller. -/
def pollTask : PollTask V PollPerformanceSample :=
  (atomic (openProgram settings job)).bind fun intelligence =>
  (exchangeTask job job.inputs.exchanges).bind fun _ =>
  (atomic (readTracker settings job)).bind fun tracker =>
  (pollSuccessTask interval job tracker intelligence).handle
    (pollFailureTask settings interval job tracker)

end Tasks

/-! ## a poll alone -/

section Alone

variable {settings : PollSettings} {interval : ℚ} {job : PollJob V}

/-- The task with its checks runs as the program does. -/
theorem runs_whenDue {t : PollTask V Unit} {m : PollProgram V Unit} (h : Runs t m) :
    Runs (whenDueTask job t) (whenDue job.inputs.persistClock job.controllerId m) := by
  have heq : whenDue job.inputs.persistClock job.controllerId m =
      askLimiter job >>= fun due => if due then m else pure () := rfl
  rw [heq]
  refine runs_bind (runs_atomic _) fun due => ?_
  cases due with
  | true => exact h
  | false => exact runs_pure ()

/-- Every write of a successful poll is a turn of its own. -/
theorem runs_persistSuccess (values : List V) (performance : PollPerformanceSample)
    (intelligence : Option DeviceIntelligence) :
    Runs (persistSuccessTask job values performance intelligence)
      (PollProgram.persistSuccess job.raises job.inputs job.controllerId job.deviceId job.device
        values performance intelligence) := by
  refine runs_bind (runs_atomic _) fun saved => ?_
  cases saved with
  | false => exact runs_pure ()
  | true =>
      refine runs_bind (runs_atomic _) fun _ => runs_bind (runs_atomic _) fun _ => ?_
      cases intelligence with
      | some i => exact runs_atomic _
      | none => exact runs_pure ()

/-- The same of a failed poll. -/
theorem runs_persistFailure (performance : PollPerformanceSample) (error : String) :
    Runs (persistFailureTask job performance error)
      (PollProgram.persistFailure job.raises job.deviceId performance error) :=
  runs_bind (runs_atomic _) fun _ => runs_atomic _

theorem runs_pollSuccess (tracker : PollTrafficTracker)
    (intelligence : Option DeviceIntelligence) :
    Runs (pollSuccessTask interval job tracker intelligence)
      (pollSuccess job.inputs job.raises interval job.key job.deviceId job.controllerId job.device
        tracker intelligence) :=
  runs_bind (runs_atomic _) fun values => runs_bind (runs_atomic _) fun _ =>
    runs_bind (runs_atomic _) fun i =>
      runs_bind (runs_whenDue (runs_persistSuccess values _ i)) fun _ => runs_pure _

/-- Taking the client out is one turn, closing it another. -/
theorem runs_dropClient :
    Runs ((atomic (takeClient job)).bind (closeTask job)) (dropClient job.inputs job.key) := by
  have heq : dropClient job.inputs job.key = takeClient job >>= fun client =>
      match client with
      | some client => do
          modify (PollState.onCore fun c => { c with closed := c.closed ++ [client] })
          PollProgram.ofExcept (match job.inputs.close with
            | some e => .error e
            | none => .ok ())
      | none => pure () := rfl
  rw [heq]
  refine runs_bind (runs_atomic _) fun client => ?_
  cases client with
  | some client => exact runs_atomic _
  | none => exact runs_pure ()

theorem runs_pollFailure (tracker : PollTrafficTracker) (e : PyException) :
    Runs (pollFailureTask settings interval job tracker e)
      (pollFailure settings job.inputs job.raises interval job.key job.deviceId job.controllerId
        tracker e) :=
  runs_bind (runs_atomic _) fun _ => runs_bind runs_dropClient fun _ =>
    runs_bind (runs_whenDue (runs_persistFailure _ _)) fun _ => runs_pure _

/-- The exchanges of a poll leave them all with the tracker. -/
theorem run_exchanges (es : List ModbusExchange) (s : PollState V) {t : PollTrafficTracker}
    (h : s.core.trackers job.key = some t) :
    run (exchangeTask job es) s = (.ok (), s.onCore fun c =>
      { c with trackers := c.trackers.set job.key (es.foldl (fun t e => t.record e) t) }) := by
  induction es generalizing s t with
  | nil =>
      have hsame : s.core.trackers.set job.key t = s.core.trackers := Dict.set_eq_self h
      rw [List.foldl_nil, exchangeTask, run, PollState.onCore, hsame]
  | cons e es ih =>
      rw [exchangeTask, run_bind]
      have hfirst : run (atomic (modify (PollState.onCore (PollCore.record job.key e)))) s =
          ((.ok () : Except PyException Unit), s.onCore fun c =>
            { c with trackers := c.trackers.set job.key (t.record e) }) := by
        have hstate : s.onCore (PollCore.record job.key e) = s.onCore fun c =>
            { c with trackers := c.trackers.set job.key (t.record e) } := by
          simp only [PollState.onCore, PollCore.record, h]
        rw [← hstate]
        rfl
      rw [hfirst]
      dsimp only
      rw [ih _ (t := t.record e) (Dict.set_self _ _ _)]
      simp only [PollState.onCore, Dict.set_set, List.foldl_cons]

/-- **Alone** the task does what `_poll_one` does. -/
theorem run_pollTask {s : PollState V}
    (hdevice : s.core.watcher.deviceIds job.key = some job.deviceId)
    (hcontroller : s.core.watcher.controllerIds job.key = some job.controllerId) :
    exec (pollOne settings job.inputs job.raises interval job.key job.device) s =
      ((run (pollTask settings interval job) s).1.map some,
        (run (pollTask settings interval job) s).2) := by
  obtain ⟨t, ht⟩ : ∃ t, t = (s.core.tracker settings job.key job.device).beginPoll := ⟨_, rfl⟩
  obtain ⟨tracker, htracker⟩ : ∃ tracker,
    tracker = job.inputs.exchanges.foldl (fun t e => t.record e) t := ⟨_, rfl⟩
  obtain ⟨opened, hopened⟩ : ∃ opened : PollState V, opened = s.onCore fun c => { c with
    watcher := c.watcher.openPoll job.key job.device
    trackers := c.trackers.set job.key tracker } := ⟨_, rfl⟩
  have hbegin : run (atomic (openProgram settings job)) s =
      (.ok (s.core.watcher.intelligence job.key),
        s.onCore (PollCore.beginPoll settings job.key job.device)) := rfl
  have hset : (s.onCore (PollCore.beginPoll settings job.key job.device)).core.trackers job.key =
      some t := by
    rw [ht]
    exact Dict.set_self _ _ _
  have hstate : (s.onCore (PollCore.beginPoll settings job.key job.device)).onCore (fun c =>
      { c with trackers := c.trackers.set job.key tracker }) = opened := by
    rw [hopened]
    simp only [PollState.onCore, PollCore.beginPoll, Dict.set_set]
  have hread : run (atomic (readTracker settings job)) opened = (.ok tracker, opened) := by
    have hsome : opened.core.trackers job.key = some tracker := by
      rw [hopened]
      exact Dict.set_self _ _ _
    have heq : opened.core.tracker settings job.key job.device = tracker := by
      rw [PollCore.tracker, hsome]
    rw [← heq]
    rfl
  have hbody : run (pollTask settings interval job) s =
      run ((pollSuccessTask interval job tracker (s.core.watcher.intelligence job.key)).handle
        (pollFailureTask settings interval job tracker)) opened := by
    rw [pollTask, run_bind, hbegin]
    dsimp only
    rw [run_bind, run_exchanges _ _ hset, ← htracker, hstate]
    dsimp only
    rw [run_bind, hread]
  have hruns := runs_handle
    (@runs_pollSuccess _ interval job tracker (s.core.watcher.intelligence job.key))
    (@runs_pollFailure _ settings interval job tracker) opened
  obtain ⟨polled, hpolled⟩ : ∃ polled, polled = exec (tryCatch
    (pollSuccess job.inputs job.raises interval job.key job.deviceId job.controllerId
      job.device tracker (s.core.watcher.intelligence job.key))
    (pollFailure settings job.inputs job.raises interval job.key job.deviceId
      job.controllerId tracker)) opened := ⟨_, rfl⟩
  have hpoll : exec (pollOne settings job.inputs job.raises interval job.key job.device) s =
      (polled.1.map some, polled.2) := by
    rw [pollOne, exec_bind, exec_get]
    dsimp only
    rw [hdevice, hcontroller]
    dsimp only
    rw [exec_bind, exec_modify, ← ht, ← htracker, ← hopened]
    dsimp only
    rw [exec_bind, ← hpolled]
    obtain ⟨r, s'⟩ := polled
    cases r <;> rfl
  rw [hpoll, hbody, hruns, hpolled]

end Alone

/-! ## what a poll sees -/

/-- A write about a controller or its device. -/
def StoreWrite.isOf (controllerId deviceId : String) : StoreWrite V → Bool
  | .poll d .. => d = deviceId
  | .success c _ => c = controllerId
  | .performance d .. => d = deviceId
  | .intelligence d _ => d = deviceId
  | .error d _ => d = deviceId

/-- The part of the state that belongs to a poll: the entries under its endpoint, what the
limiter knows of its controller, and the writes about it. -/
structure PollSlice (V : Type) where
  lifecycle : Option DeviceLifecycle
  client : Option Endpoint
  profile : Option String
  intelligence : Option DeviceIntelligence
  traffic : Option Endpoint
  tracker : Option PollTrafficTracker
  limiterInterval : ℚ
  lastWrite : Option ℚ
  attempts : List (String × ℚ)
  writes : List (StoreWrite V)

def PollJob.slice (job : PollJob V) (s : PollState V) : PollSlice V where
  lifecycle := (s.core.watcher.lifecycles job.key).map LifecycleObject.value
  client := s.core.watcher.clients job.key
  profile := s.core.watcher.profiles job.key
  intelligence := s.core.watcher.intelligence job.key
  traffic := s.core.watcher.traffic job.key
  tracker := s.core.trackers job.key
  limiterInterval := s.core.limiter.intervalSeconds
  lastWrite := s.core.limiter.lastWrite job.controllerId
  attempts := s.core.attempts.filter fun a => a.1 = job.controllerId
  writes := s.writes.filter (StoreWrite.isOf job.controllerId job.deviceId)

/-- Polls of different endpoints, of different controllers and devices. -/
structure PollJob.Apart (job other : PollJob V) : Prop where
  key : job.key ≠ other.key
  controllerId : job.controllerId ≠ other.controllerId
  deviceId : job.deviceId ≠ other.deviceId

section Lifecycles

variable {w : Watcher} {key k : String} {f : DeviceLifecycle → DeviceLifecycle}

/-- `setdefault` gives the lifecycle that is there, or a new one. -/
theorem setdefault_value : (w.setdefaultLifecycle key).1.value =
    ((w.lifecycles key).map LifecycleObject.value).getD {} := by
  unfold Watcher.setdefaultLifecycle
  cases w.lifecycles key <;> rfl

/-- What a change of one lifecycle does to it. -/
theorem onLifecycle_self : ((w.onLifecycle key f).lifecycles key).map LifecycleObject.value =
    some (f (((w.lifecycles key).map LifecycleObject.value).getD {})) := by
  rw [← setdefault_value]
  simp [Watcher.onLifecycle]

/-- The lifecycles of other endpoints stay. -/
theorem onLifecycle_of_ne (h : k ≠ key) :
    (w.onLifecycle key f).lifecycles k = w.lifecycles k := by
  unfold Watcher.onLifecycle Watcher.setdefaultLifecycle
  cases w.lifecycles key <;> simp [h]

/-- A change of a lifecycle leaves the other dictionaries alone. -/
theorem onLifecycle_rest : (w.onLifecycle key f).clients = w.clients ∧
    (w.onLifecycle key f).profiles = w.profiles ∧
    (w.onLifecycle key f).intelligence = w.intelligence ∧
    (w.onLifecycle key f).traffic = w.traffic := by
  unfold Watcher.onLifecycle Watcher.setdefaultLifecycle
  cases w.lifecycles key <;> exact ⟨rfl, rfl, rfl, rfl⟩

end Lifecycles

/-! ## locality -/

section Locality

variable {ι : Type} {jobs : ι → PollJob V} {i : ι} {settings : PollSettings} {interval : ℚ}

/-- The polls of a cycle. -/
def Separate (jobs : ι → PollJob V) : Prop := ∀ i j, i ≠ j → (jobs i).Apart (jobs j)

abbrev pollView (jobs : ι → PollJob V) (i : ι) : PollState V → PollSlice V := (jobs i).slice

/-- A change is local where it reads its job's own part and spares the parts of all jobs apart from
it. -/
theorem localChange_of (hjobs : Separate jobs) {change : PollState V → PollState V}
    (hown : ∀ s s', (jobs i).slice s = (jobs i).slice s' →
      (jobs i).slice (change s) = (jobs i).slice (change s'))
    (hframe : ∀ other : PollJob V, other.Apart (jobs i) → ∀ s,
      other.slice (change s) = other.slice s) :
    LocalChange (pollView jobs) i change :=
  ⟨hown, fun s j hj => hframe (jobs j) (hjobs j i hj) s⟩

/-- A result that is already known touches nothing. -/
theorem localProg_ofExcept {α : Type} (x : Except PyException α) :
    LocalProg (pollView jobs) i (PollProgram.ofExcept x) := by
  cases x with
  | ok a => exact localProg_pure a
  | error e => exact localProg_throw e

/-- Changing the own lifecycle is local. -/
theorem localProg_onLifecycle (hjobs : Separate jobs) (f : DeviceLifecycle → DeviceLifecycle) :
    LocalProg (pollView jobs) i (onWatcher (Watcher.onLifecycle (jobs i).key f)) := by
  refine localProg_modify (localChange_of hjobs (fun s s' h => ?_) fun other hother s => ?_)
  · simp only [PollJob.slice, PollSlice.mk.injEq] at h
    obtain ⟨hl, hrest⟩ := h
    simp only [PollJob.slice, PollState.onCore, onLifecycle_self, onLifecycle_rest, hl, hrest]
  · simp only [PollJob.slice, PollState.onCore, onLifecycle_of_ne hother.key, onLifecycle_rest]

/-- A write about the controller of a poll, or about its device. -/
theorem localProg_callStore (hjobs : Separate jobs)
    (raises : StoreCall → Option PyException) (call : StoreCall) {write : StoreWrite V}
    (hwrite : ∀ other : PollJob V, other.Apart (jobs i) →
      write.isOf other.controllerId other.deviceId = false) :
    LocalProg (pollView jobs) i (callStore raises call write) := by
  unfold callStore
  cases raises call with
  | some e => exact localProg_throw e
  | none =>
      refine localProg_modify (localChange_of hjobs (fun s s' h => ?_) fun other hother s => ?_)
      · simp only [PollJob.slice, PollSlice.mk.injEq, List.filter_append] at h ⊢
        simp only [h, and_self]
      · simp only [PollJob.slice, List.filter_append, List.filter_singleton,
          hwrite other hother, cond_false, List.append_nil]

/-- A write is local where no other job counts it as its own. -/
theorem localProg_logged (hjobs : Separate jobs) (raises : StoreCall → Option PyException)
    (call : StoreCall) {write : StoreWrite V}
    (hwrite : ∀ other : PollJob V, other.Apart (jobs i) →
      write.isOf other.controllerId other.deviceId = false) :
    LocalProg (pollView jobs) i (logged (callStore raises call write)) :=
  localProg_tryCatch (localProg_callStore hjobs raises call hwrite) fun _ => localProg_pure ()

/-- The answer of the limiter is that of the view. -/
theorem shouldPersist_congr {c c' : PollCore} {clock : ℚ} {controllerId : String}
    (hinterval : c.limiter.intervalSeconds = c'.limiter.intervalSeconds)
    (hlast : c.limiter.lastWrite controllerId = c'.limiter.lastWrite controllerId) :
    (c.shouldPersist clock controllerId).1 = (c'.shouldPersist clock controllerId).1 := by
  simp only [PollCore.shouldPersist, PollPersistenceLimiter.shouldPersist, hinterval, hlast]
  split <;> rfl

/-- The limiter after a question. -/
theorem shouldPersist_limiter {c : PollCore} {clock : ℚ} {controllerId : String} :
    (c.shouldPersist clock controllerId).2.watcher = c.watcher ∧
    (c.shouldPersist clock controllerId).2.trackers = c.trackers ∧
    (c.shouldPersist clock controllerId).2.limiter.intervalSeconds = c.limiter.intervalSeconds ∧
    (c.shouldPersist clock controllerId).2.limiter.lastWrite =
      (if (c.shouldPersist clock controllerId).1 then c.limiter.lastWrite.set controllerId clock
        else c.limiter.lastWrite) ∧
    (c.shouldPersist clock controllerId).2.attempts =
      if (c.shouldPersist clock controllerId).1 then c.attempts ++ [(controllerId, clock)]
        else c.attempts := by
  unfold PollCore.shouldPersist PollPersistenceLimiter.shouldPersist
  split <;> exact ⟨rfl, rfl, rfl, rfl, rfl⟩

/-- The limiter keeps its attempts by endpoint. -/
theorem localProg_askLimiter (hjobs : Separate jobs) :
    LocalProg (pollView jobs) i (askLimiter (jobs i)) := by
  refine localProg_get (fun s => localProg_bind (localProg_modify
    (localChange_of hjobs (fun s s' h => ?_) fun other hother s => ?_)) fun _ =>
      localProg_pure _) fun s s' h => ?_
  · simp only [PollJob.slice, PollSlice.mk.injEq] at h
    obtain ⟨hl, hc, hp, hi, ht, htracker, hinterval, hlast, hattempts, hwrites⟩ := h
    obtain ⟨due, hdue⟩ : ∃ due, due = (s.core.shouldPersist (jobs i).inputs.persistClock
      (jobs i).controllerId).1 := ⟨_, rfl⟩
    have hdue' := hdue.trans (shouldPersist_congr hinterval hlast)
    simp only [PollJob.slice, PollState.onCore, shouldPersist_limiter, ← hdue, ← hdue',
      PollSlice.mk.injEq, hl, hc, hp, hi, ht, htracker, hinterval, hwrites, true_and, and_true]
    cases due with
    | true => simp [hattempts]
    | false => simp [hlast, hattempts]
  · simp only [PollJob.slice, PollState.onCore, shouldPersist_limiter, PollSlice.mk.injEq, true_and,
      and_true]
    have hne := hother.controllerId
    split
    · simp [hne, hne.symm]
    · exact ⟨rfl, rfl⟩
  · simp only [pollView, PollJob.slice, PollSlice.mk.injEq] at h
    obtain ⟨-, -, -, -, -, -, hinterval, hlast, -, -⟩ := h
    rw [shouldPersist_congr hinterval hlast]

/-- What a successful poll learns of its device is kept by endpoint. -/
theorem localProg_refreshed (hjobs : Separate jobs) (values : List V)
    (intelligence : Option DeviceIntelligence) :
    LocalProg (pollView jobs) i (refreshed (jobs i).inputs (jobs i).key values intelligence) := by
  cases intelligence with
  | none => exact localProg_pure none
  | some old =>
      refine localProg_bind (localProg_ofExcept _) fun new => localProg_bind (localProg_modify
        (localChange_of hjobs (fun s s' h => ?_) fun other hother s => ?_)) fun _ =>
          localProg_pure _
      · simp only [PollJob.slice, PollSlice.mk.injEq, PollState.onCore, Dict.set_self] at h ⊢
        simp only [h, and_self]
      · simp only [PollJob.slice, PollState.onCore, Dict.set_of_ne _ _ hother.key]

/-- A failure changes the own lifecycle only. -/
theorem localProg_markPollFailure (hjobs : Separate jobs) :
    LocalProg (pollView jobs) i (markPollFailure settings (jobs i).inputs (jobs i).key) := by
  refine localProg_get (fun s => localProg_bind (localProg_onLifecycle hjobs _) fun _ => ?_)
    fun s s' h => ?_
  · split
    · exact localProg_pure ()
    · exact localProg_throw _
  · simp only [pollView, PollJob.slice, PollSlice.mk.injEq] at h
    simp only [setdefault_value, h.1]

/-- Only the own client leaves the watcher. -/
theorem localProg_takeClient (hjobs : Separate jobs) :
    LocalProg (pollView jobs) i (takeClient (jobs i)) := by
  refine localProg_get (fun s => localProg_bind (localProg_modify
    (localChange_of hjobs (fun s s' h => ?_) fun other hother s => ?_)) fun _ =>
      localProg_pure _) fun s s' h => ?_
  · simp only [PollJob.slice, PollSlice.mk.injEq, PollState.onCore, Dict.pop_self] at h ⊢
    simp only [h, and_self]
  · simp only [PollJob.slice, PollState.onCore, Dict.pop_of_ne _ hother.key]
  · simp only [pollView, PollJob.slice, PollSlice.mk.injEq] at h
    rw [h.2.1]

/-- Closing a client, whether it raises or not, changes nothing the watcher keeps. -/
theorem local_close (client : Option Endpoint) :
    Local (pollView jobs) i (closeTask (jobs i) client) := by
  cases client with
  | none => trivial
  | some client =>
      exact local_atomic (localProg_bind (localProg_modify ⟨fun _ _ h => h, fun _ _ _ => rfl⟩)
        fun _ => localProg_ofExcept _)

/-- A tracker depends on nothing but what is kept for its endpoint. -/
theorem tracker_congr {c c' : PollCore} {key : String} (device : DiscoveredDevice)
    (h : c.trackers key = c'.trackers key) :
    c.tracker settings key device = c'.tracker settings key device := by
  rw [PollCore.tracker, PollCore.tracker, h]

/-- Opening looks at the own lifecycle, client and tracker. -/
theorem localProg_open (hjobs : Separate jobs) :
    LocalProg (pollView jobs) i (openProgram settings (jobs i)) := by
  refine localProg_get (fun s => localProg_bind (localProg_modify
    (localChange_of hjobs (fun s s' h => ?_) fun other hother s => ?_)) fun _ =>
      localProg_pure _) fun s s' h => ?_
  · simp only [PollJob.slice, PollSlice.mk.injEq] at h
    obtain ⟨hl, hc, -, hi, ht, htracker, hrest⟩ := h
    simp only [PollJob.slice, PollState.onCore, PollCore.beginPoll, Watcher.openPoll,
      onLifecycle_self, onLifecycle_rest, Dict.set_self, hl, hc, hi, ht,
      @tracker_congr settings _ _ _ (jobs i).device htracker, hrest]
  · simp only [PollJob.slice, PollState.onCore, PollCore.beginPoll, Watcher.openPoll,
      onLifecycle_of_ne hother.key, onLifecycle_rest, Dict.set_of_ne _ _ hother.key]
  · simp only [pollView, PollJob.slice, PollSlice.mk.injEq] at h
    rw [h.2.2.2.1]

theorem localProg_readTracker : LocalProg (pollView jobs) i (readTracker settings (jobs i)) := by
  refine localProg_get (fun s => localProg_pure _) fun s s' h => ?_
  simp only [pollView, PollJob.slice, PollSlice.mk.injEq] at h
  rw [tracker_congr (jobs i).device h.2.2.2.2.2.1]

/-- An exchange is recorded in the tracker of its endpoint, and nowhere else. -/
theorem record_spec (c : PollCore) (key : String) (e : ModbusExchange) :
    (c.record key e).watcher = c.watcher ∧ (c.record key e).limiter = c.limiter ∧
    (c.record key e).attempts = c.attempts ∧
    (c.record key e).trackers key = (c.trackers key).map (PollTrafficTracker.record e) ∧
    ∀ k ≠ key, (c.record key e).trackers k = c.trackers k := by
  unfold PollCore.record
  cases h : c.trackers key with
  | none => exact ⟨rfl, rfl, rfl, by rw [h, Option.map_none], fun _ _ => rfl⟩
  | some tracker => exact ⟨rfl, rfl, rfl, Dict.set_self _ _ _, fun k hk => Dict.set_of_ne _ _ hk⟩

/-- Recording an exchange is local. -/
theorem localChange_record (hjobs : Separate jobs) (e : ModbusExchange) :
    LocalChange (pollView jobs) i (PollState.onCore (PollCore.record (jobs i).key e)) := by
  refine localChange_of hjobs (fun s s' h => ?_) fun other hother s => ?_
  · simp only [PollJob.slice, PollSlice.mk.injEq] at h
    simp only [PollJob.slice, PollState.onCore, record_spec, h]
  · obtain ⟨hwatcher, hlimiter, hattempts, -, hother'⟩ := record_spec s.core (jobs i).key e
    simp only [PollJob.slice, PollState.onCore, hwatcher, hlimiter, hattempts,
      hother' _ hother.key]

/-- The exchanges of a poll, turn by turn. -/
theorem local_exchanges (hjobs : Separate jobs) (es : List ModbusExchange) :
    Local (pollView jobs) i (exchangeTask (jobs i) es) := by
  induction es with
  | nil => trivial
  | cons e es ih =>
      exact local_bind (local_atomic (localProg_modify (localChange_record hjobs e))) fun _ => ih

theorem local_whenDue (hjobs : Separate jobs) {t : PollTask V Unit}
    (h : Local (pollView jobs) i t) : Local (pollView jobs) i (whenDueTask (jobs i) t) := by
  refine local_bind (local_atomic (localProg_askLimiter hjobs)) fun due => ?_
  cases due with
  | true => exact h
  | false => trivial

/-- All writes of a successful poll carry the ids of its own job. -/
theorem local_persistSuccess (hjobs : Separate jobs) (values : List V)
    (performance : PollPerformanceSample) (intelligence : Option DeviceIntelligence) :
    Local (pollView jobs) i
      (persistSuccessTask (jobs i) values performance intelligence) := by
  have hdevice : ∀ other : PollJob V, other.Apart (jobs i) →
      decide ((jobs i).deviceId = other.deviceId) = false :=
    fun other hother => decide_eq_false hother.deviceId.symm
  have hcontroller : ∀ other : PollJob V, other.Apart (jobs i) →
      decide ((jobs i).controllerId = other.controllerId) = false :=
    fun other hother => decide_eq_false hother.controllerId.symm
  refine local_bind (local_atomic (localProg_tryCatch (localProg_bind
    (localProg_callStore hjobs _ _ hdevice) fun _ => localProg_pure true)
      fun _ => localProg_pure false)) fun saved => ?_
  cases saved with
  | false => trivial
  | true =>
      refine local_bind (local_atomic (localProg_logged hjobs _ _ hcontroller)) fun _ =>
        local_bind (local_atomic (localProg_logged hjobs _ _ hdevice)) fun _ => ?_
      cases intelligence with
      | none => trivial
      | some new => exact local_atomic (localProg_logged hjobs _ _ hdevice)

/-- And so do those of a failed one. -/
theorem local_persistFailure (hjobs : Separate jobs) (performance : PollPerformanceSample)
    (error : String) :
    Local (pollView jobs) i (persistFailureTask (jobs i) performance error) := by
  have hdevice : ∀ other : PollJob V, other.Apart (jobs i) →
      decide ((jobs i).deviceId = other.deviceId) = false :=
    fun other hother => decide_eq_false hother.deviceId.symm
  exact local_bind (local_atomic (localProg_logged hjobs _ _ hdevice)) fun _ =>
    local_atomic (localProg_logged hjobs _ _ hdevice)

theorem local_pollSuccess (hjobs : Separate jobs) (tracker : PollTrafficTracker)
    (intelligence : Option DeviceIntelligence) :
    Local (pollView jobs) i (pollSuccessTask interval (jobs i) tracker intelligence) :=
  local_bind (local_atomic (localProg_ofExcept _)) fun values =>
    local_bind (local_atomic (localProg_onLifecycle hjobs _)) fun _ =>
      local_bind (local_atomic (localProg_refreshed hjobs values intelligence)) fun _ =>
        local_bind (local_whenDue hjobs (local_persistSuccess hjobs values _ _)) fun _ => trivial

theorem local_pollFailure (hjobs : Separate jobs) (tracker : PollTrafficTracker)
    (e : PyException) :
    Local (pollView jobs) i (pollFailureTask settings interval (jobs i) tracker e) :=
  local_bind (local_atomic (localProg_markPollFailure hjobs)) fun _ =>
    local_bind (local_bind (local_atomic (localProg_takeClient hjobs)) local_close) fun _ =>
      local_bind (local_whenDue hjobs (local_persistFailure hjobs _ _)) fun _ => trivial

/-- A poll reads and changes nothing but what belongs to it. -/
theorem local_pollTask (hjobs : Separate jobs) :
    Local (pollView jobs) i (pollTask settings interval (jobs i)) :=
  local_bind (local_atomic (localProg_open hjobs)) fun intelligence =>
    local_bind (local_exchanges hjobs _) fun _ =>
      local_bind (local_atomic localProg_readTracker) fun tracker =>
        local_handle (local_pollSuccess hjobs tracker intelligence)
          (local_pollFailure hjobs tracker)

end Locality

/-! ## a cycle -/

section Cycle

variable {ι : Type} (settings : PollSettings) (interval : ℚ)

/-- `_poll_all` creates a task for the poll. -/
def PollJob.due (job : PollJob V) (s : PollState V) : Bool :=
  (((s.core.watcher.lifecycles job.key).map LifecycleObject.value).getD {}).canPoll job.clock

/-- The task of an endpoint, which ends with a sample if there is one. -/
def cycleTask (s : PollState V) (job : PollJob V) : PollTask V (Option PollPerformanceSample) :=
  if job.due s then (pollTask settings interval job).bind fun sample => done (.ok (some sample))
  else done (.ok none)

/-- The tasks of a cycle in their group, and the state in which they start: the lifecycles of all
endpoints have been created. -/
def pollGroup (jobs : ι → PollJob V) (s : PollState V) :
    Group ι (PollState V) PyException (Option PollPerformanceSample) where
  tasks i := cycleTask settings interval s (jobs i)
  state := s
  cancelled _ := false

/-- The exchange in which a poll is cut off: without a response, and without an error, since
`CancelledError` is no `Exception`. -/
def ModbusExchange.CutOff (e : ModbusExchange) : Prop :=
  e.responseHex = "" ∧ e.responsePduHex = "" ∧ e.errorType = "" ∧ e.error = ""

/-- What is done while a poll is cut off: where it waits for the device, `_request` shows the
exchange to its observer. -/
inductive PollJob.Cleanup (job : PollJob V) : (PollState V → PollState V) → Prop where
  | silent : job.Cleanup id
  | observed {e : ModbusExchange} : e.CutOff →
      job.Cleanup (PollState.onCore (PollCore.record job.key e))

/-- The steps of a cycle. -/
abbrev CycleRun [DecidableEq ι] (jobs : ι → PollJob V) :
    Group ι (PollState V) PyException (Option PollPerformanceSample) →
      Group ι (PollState V) PyException (Option PollPerformanceSample) → Prop :=
  Group.Run fun i => (jobs i).Cleanup

/-- The poll of one endpoint without the others. -/
def pollAlone (s : PollState V) (job : PollJob V) :
    Except PyException (Option PollPerformanceSample) × PollState V :=
  if job.due s then
    exec (pollOne settings job.inputs job.raises interval job.key job.device) s
  else (.ok none, s)

/-- The watcher knows the endpoint of a poll with its device and its controller. -/
structure PollJob.Known (job : PollJob V) (s : PollState V) : Prop where
  deviceId : s.core.watcher.deviceIds job.key = some job.deviceId
  controllerId : s.core.watcher.controllerIds job.key = some job.controllerId

variable {settings interval}

/-- Nobody else taking turns, the task of a device is its poll alone. -/
theorem run_cycleTask {s : PollState V} {job : PollJob V} (h : job.Known s) :
    run (cycleTask settings interval s job) s = pollAlone settings interval s job := by
  unfold cycleTask pollAlone
  split
  · rw [run_bind, run_pollTask h.deviceId h.controllerId]
    generalize run _ s = out
    obtain ⟨r, s'⟩ := out
    cases r <;> rfl
  · rfl

/-- The whole task of a device is local; `Group.isolated` needs no more. -/
theorem local_cycleTask {jobs : ι → PollJob V} (hjobs : Separate jobs) (s : PollState V) (i : ι) :
    Local (pollView jobs) i (cycleTask settings interval s (jobs i)) := by
  unfold cycleTask
  split
  · exact local_bind (local_pollTask hjobs) fun _ => trivial
  · trivial

/-- Cutting a poll off is local. -/
theorem localChange_cleanup {jobs : ι → PollJob V} (hjobs : Separate jobs) {i : ι}
    {last : PollState V → PollState V} (h : (jobs i).Cleanup last) :
    LocalChange (pollView jobs) i last := by
  cases h with
  | silent => exact ⟨fun _ _ h => h, fun _ _ _ => rfl⟩
  | observed _ => exact localChange_record hjobs _

/-- **A cycle of polls**: in whatever order the tasks take their turns, they can all end, and one
that is done ended as it does without the others and left what belongs to it as that does: the
lifecycle, the client, the intelligence, the traffic, what the limiter let through, and the writes
in their order.  One that was cancelled left what a beginning of it leaves, with at most the
exchange that was cut off in its traffic; and then one of them raises without the others. -/
theorem poll_cycle_isolated [DecidableEq ι] (settings : PollSettings) (interval : ℚ)
    {jobs : ι → PollJob V} (hjobs : Separate jobs) {s : PollState V}
    (hknown : ∀ i, (jobs i).Known s)
    {g : Group ι (PollState V) PyException (Option PollPerformanceSample)}
    (hrun : CycleRun jobs (pollGroup settings interval jobs s) g) :
    (∀ is : List ι, ∃ g', CycleRun jobs g g' ∧ (∀ i ∈ is, g'.Ended i) ∧
      (g.Raised → g'.toPool = g.toPool)) ∧
    (∀ i r, g.tasks i = done r →
      r = (pollAlone settings interval s (jobs i)).1 ∧
        (jobs i).slice g.state = (jobs i).slice (pollAlone settings interval s (jobs i)).2) ∧
    ∀ i, g.cancelled i = true →
      (∃ j e, (pollAlone settings interval s (jobs j)).1 = .error e) ∧
      ∃ k last, (jobs i).Cleanup last ∧ (jobs i).slice g.state =
        (jobs i).slice (last (advance k (cycleTask settings interval s (jobs i)) s).2) := by
  have hsound : Group.Sound (fun i => (jobs i).Cleanup) (pollView jobs)
      (pollGroup settings interval jobs s) g :=
    Group.isolated (local_cycleTask hjobs s) (fun _ _ => localChange_cleanup hjobs)
      (fun _ => rfl) hrun
  have halone : ∀ i, run (cycleTask settings interval s (jobs i)) s =
      pollAlone settings interval s (jobs i) := fun i => run_cycleTask (hknown i)
  refine ⟨g.exists_ended fun _ => .silent, fun i r hdone => ?_, fun i hcut => ?_⟩
  · rw [← halone i]
    exact hsound.of_done hdone
  · obtain ⟨hraised, -, last, hlast, k, -, hseen⟩ := hsound.cut i hcut
    obtain ⟨j, e, hj⟩ := hsound.raised hraised
    exact ⟨⟨j, e, by rw [← halone j]; exact hj⟩, k, last, hlast, hseen⟩

end Cycle

/-- The polls of two endpoints, of which one does not answer and cannot be closed. -/
def pairJob (second : Bool) : PollJob Nat where
  key := if second then "b" else "a"
  controllerId := if second then "ctrl_b" else "ctrl_a"
  deviceId := if second then "dev_b" else "dev_a"
  device :=
    { endpoint := { transport := .tcp, target := if second then "b" else "a", unitId := 1 }
      profile := "p" }
  clock := 0
  inputs :=
    { utcnow := .midnight .first (Nat.le_add_left 1 9998), monotonic := 0, persistClock := 0
      latencyMs := 5, exchanges := []
      values := if second then .error ⟨"TimeoutError", ""⟩ else .ok [1]
      refresh := fun i _ => .ok i, close := some ⟨"OSError", ""⟩, sampleId := 1 }
  raises _ := none

def pairState : PollState Nat where
  core :=
    { watcher :=
        { deviceIds := (Dict.empty.set "a" "dev_a").set "b" "dev_b"
          controllerIds := (Dict.empty.set "a" "ctrl_a").set "b" "ctrl_b" }
      limiter := { intervalSeconds := 1 } }

def pairSettings : PollSettings where
  failureThreshold := 3
  retryBackoffInitialSeconds := 1
  retryBackoffMaxSeconds := 60
  serialBaudrate := 9600
  serialStopBits := 2

/-- A read of two registers that is not answered. -/
def cutExchange : ModbusExchange where
  transport := .tcp
  unitId := 1
  functionCode := 3
  address := some 0
  count := some 2
  requestHex := "000100000006010300000002"
  responseHex := ""
  requestPduHex := "0300000002"
  responsePduHex := ""

/-- Two polls in turns: where the first is faster it ends as alone, and where it waits until the
other raises it can be cut off in its exchange; its lifecycle stays connecting. -/
theorem poll_cycle_isolated_pair :
    (∃ g, CycleRun pairJob (pollGroup pairSettings 5 pairJob pairState) g ∧
      ∃ r, g.tasks false = done r ∧
        r = (pollAlone pairSettings 5 pairState (pairJob false)).1 ∧
        (pairJob false).slice g.state =
          (pairJob false).slice (pollAlone pairSettings 5 pairState (pairJob false)).2) ∧
    ∃ g, CycleRun pairJob (pollGroup pairSettings 5 pairJob pairState) g ∧
      g.cancelled false = true ∧
      ((pairJob false).slice g.state).lifecycle.map DeviceLifecycle.state = some .connecting ∧
      ∃ k last, (pairJob false).Cleanup last ∧ (pairJob false).slice g.state = (pairJob false).slice
        (last (advance k (cycleTask pairSettings 5 pairState (pairJob false)) pairState).2) := by
  have hjobs : Separate pairJob := by
    intro i j hij
    cases i <;> cases j
    · exact absurd rfl hij
    · exact ⟨by decide, by decide, by decide⟩
    · exact ⟨by decide, by decide, by decide⟩
    · exact absurd rfl hij
  have hknown : ∀ i, (pairJob i).Known pairState := by
    intro i
    cases i with
    | false => exact ⟨by decide, by decide⟩
    | true => exact ⟨by decide, by decide⟩
  have hturns : ∀ schedule, CycleRun pairJob (pollGroup pairSettings 5 pairJob pairState)
      { pollGroup pairSettings 5 pairJob pairState with
        toPool := (pollGroup pairSettings 5 pairJob pairState).follow schedule } :=
    fun schedule => Group.run_follow _ schedule fun _ _ => rfl
  have hfirst := hturns (List.replicate 12 [true, false]).flatten
  have hdone : (((pollGroup pairSettings 5 pairJob pairState).follow
      (List.replicate 12 [true, false]).flatten).tasks false).isDone = true := by decide +kernel
  obtain ⟨r, hr⟩ := isDone_iff.mp hdone
  have hsecond := hturns (false :: List.replicate 12 true)
  have hraised : (((pollGroup pairSettings 5 pairJob pairState).follow
      (false :: List.replicate 12 true)).tasks true).raised = true := by decide +kernel
  have hopen : (((pollGroup pairSettings 5 pairJob pairState).follow
      (false :: List.replicate 12 true)).tasks false).isDone = false := by decide +kernel
  have hcut := hsecond.tail (.cancel false _ ⟨true, hraised⟩ rfl hopen
    (.observed (e := cutExchange) ⟨rfl, rfl, rfl, rfl⟩))
  refine ⟨⟨_, hfirst, r, hr, ?_⟩, _, hcut, rfl, by decide +kernel, ?_⟩
  · exact (poll_cycle_isolated pairSettings 5 hjobs hknown hfirst).2.1 false r hr
  · exact ((poll_cycle_isolated pairSettings 5 hjobs hknown hcut).2.2 false rfl).2

end MorningstarModbus
