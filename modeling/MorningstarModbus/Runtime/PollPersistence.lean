import MorningstarModbus.Lib.Program
import MorningstarModbus.Polling.Service
import MorningstarModbus.Runtime.Watcher

/-!
# MorningstarModbus.Runtime.PollPersistence

One poll of an endpoint with what it persists (`_poll_one`, `_persist_success`
and `_persist_failure` of `runtime/watcher.py`).  Any of the calls to the store
may raise.

* `persistence_isolated` — which of them raise makes no difference to the
  watcher, to the sample or to an exception that leaves the poll;
* `persistence_spaced` — the polls of a controller that are persisted are at
  least the interval of the limiter apart.
-/

namespace MorningstarModbus

open Calendar Effects

/-! ## state -/

/-- The calls to the store. -/
inductive StoreCall where
  | savePoll
  | recordSuccess
  | savePerformance
  | saveIntelligence
  | saveError
  deriving DecidableEq

/-- What they write; `V` are the register values of a poll. -/
inductive StoreWrite (V : Type) where
  | poll (deviceId : String) (device : DiscoveredDevice) (latencyMs : ℚ) (values : List V)
  | success (controllerId endpointKey : String)
  | performance (deviceId : String) (sample : PollPerformanceSample) (sampleId : Option Nat)
  | intelligence (deviceId : String) (intelligence : DeviceIntelligence)
  | error (deviceId message : String)

/-- The watcher's part of the state; `attempts` are the polls that were let through to
the store, with the times of the limiter's clock. -/
structure PollCore where
  watcher : Watcher := {}
  trackers : Dict String PollTrafficTracker := Dict.empty
  limiter : PollPersistenceLimiter
  attempts : List (String × ℚ) := []
  /-- the clients that were closed -/
  closed : List Endpoint := []

structure PollState (V : Type) where
  core : PollCore
  writes : List (StoreWrite V) := []

def PollState.onCore {V : Type} (f : PollCore → PollCore) (s : PollState V) : PollState V :=
  { s with core := f s.core }

abbrev PollProgram (V α : Type) := Prog (PollState V) PyException α

structure PollSettings extends WatchSettings where
  serialBaudrate : Nat
  serialStopBits : Nat

/-- What a poll meets: the clocks, the device, and the intelligence it refreshes. -/
structure PollInputs (V : Type) where
  utcnow : Timestamp
  monotonic : ℚ
  persistClock : ℚ
  latencyMs : ℚ
  exchanges : List ModbusExchange
  /-- `profile.poll` -/
  values : Except PyException (List V)
  /-- `refresh_intelligence` -/
  refresh : DeviceIntelligence → List V → Except PyException DeviceIntelligence
  /-- what `client.close` raises -/
  close : Option PyException
  /-- the id that `save_poll` gives -/
  sampleId : Nat

variable {V : Type}

/-! ## persistence -/

/-- A call to the store; `raises` tells which calls fail. -/
def callStore (raises : StoreCall → Option PyException) (call : StoreCall) (write : StoreWrite V) :
    PollProgram V Unit :=
  match raises call with
  | some e => throw e
  | none => modify fun s => { s with writes := s.writes ++ [write] }

/-- `try: … except Exception: LOGGER.exception(…)` -/
def logged (m : PollProgram V Unit) : PollProgram V Unit := tryCatch m fun _ => pure ()

/-- `_persist_success` -/
def PollProgram.persistSuccess (raises : StoreCall → Option PyException) (inputs : PollInputs V)
    (controllerId deviceId : String) (device : DiscoveredDevice) (values : List V)
    (performance : PollPerformanceSample) (intelligence : Option DeviceIntelligence) :
    PollProgram V Unit := do
  let saved ← tryCatch
    (do callStore raises .savePoll (.poll deviceId device inputs.latencyMs values); pure true)
    fun _ => pure false
  if saved then
    logged (callStore raises .recordSuccess (.success controllerId device.endpoint.stableKey))
    logged (callStore raises .savePerformance
      (.performance deviceId performance (some inputs.sampleId)))
    match intelligence with
    | some i => logged (callStore raises .saveIntelligence (.intelligence deviceId i))
    | none => pure ()

/-- `_persist_failure` -/
def PollProgram.persistFailure (raises : StoreCall → Option PyException) (deviceId : String)
    (performance : PollPerformanceSample) (error : String) : PollProgram V Unit := do
  logged (callStore raises .savePerformance (.performance deviceId performance none))
  logged (callStore raises .saveError (.error deviceId error))

/-- `_persistence_limiter.should_persist` -/
def PollCore.shouldPersist (clock : ℚ) (controllerId : String) (c : PollCore) : Bool × PollCore :=
  let due := c.limiter.shouldPersist clock controllerId
  (due.1, { c with
    limiter := due.2
    attempts := if due.1 then c.attempts ++ [(controllerId, clock)] else c.attempts })

/-- Persistence of a poll, as far as the limiter lets it. -/
def whenDue (clock : ℚ) (controllerId : String) (m : PollProgram V Unit) :
    PollProgram V Unit := do
  let s ← get
  modify (PollState.onCore fun c => (c.shouldPersist clock controllerId).2)
  if (s.core.shouldPersist clock controllerId).1 then m

/-! ## one poll -/

/-- `_tracker` -/
def PollCore.tracker (settings : PollSettings) (key : String) (device : DiscoveredDevice)
    (c : PollCore) : PollTrafficTracker :=
  match c.trackers key with
  | some tracker => tracker
  | none =>
      let endpoint := device.endpoint
      { transport := endpoint.transport
        baudrate :=
          if endpoint.transport = .serial then
            some (match endpoint.baudrate with
              | none | some 0 => settings.serialBaudrate
              | some baudrate => baudrate)
          else none
        stopBits := match endpoint.stopBits with
          | none | some 0 => settings.serialStopBits
          | some stopBits => stopBits }

namespace Watcher

/-- A change of the lifecycle under a key, which is created when there is none. -/
def onLifecycle (key : String) (f : DeviceLifecycle → DeviceLifecycle) (w : Watcher) : Watcher :=
  let (l, w) := w.setdefaultLifecycle key
  { w with lifecycles := w.lifecycles.set key { l with value := f l.value } }

/-- The entries a poll of an endpoint starts from. -/
def openPoll (key : String) (device : DiscoveredDevice) (w : Watcher) : Watcher :=
  let w := w.onLifecycle key DeviceLifecycle.markConnecting
  { w with
    traffic := w.traffic.set key ((w.traffic key).getD device.endpoint)
    clients := w.clients.set key ((w.clients key).getD device.endpoint)
    profiles := w.profiles.set key device.profile }

end Watcher

/-- A change of the watcher's dictionaries. -/
def onWatcher (f : Watcher → Watcher) : PollProgram V Unit :=
  modify (PollState.onCore fun c => { c with watcher := f c.watcher })

def PollProgram.ofExcept {α : Type} : Except PyException α → PollProgram V α
  | .ok a => pure a
  | .error e => throw e

/-- The refreshed intelligence of a successful poll. -/
def refreshed (inputs : PollInputs V) (key : String) (values : List V) :
    Option DeviceIntelligence → PollProgram V (Option DeviceIntelligence)
  | none => pure none
  | some i => do
      let i ← PollProgram.ofExcept (inputs.refresh i values)
      onWatcher fun w => { w with intelligence := w.intelligence.set key i }
      pure (some i)

/-- The part of a poll under `try`. -/
def pollSuccess (inputs : PollInputs V) (raises : StoreCall → Option PyException) (interval : ℚ)
    (key deviceId controllerId : String) (device : DiscoveredDevice) (tracker : PollTrafficTracker)
    (intelligence : Option DeviceIntelligence) : PollProgram V PollPerformanceSample := do
  let values ← PollProgram.ofExcept inputs.values
  onWatcher (Watcher.onLifecycle key (DeviceLifecycle.markSuccess inputs.utcnow.instant))
  let performance := tracker.finish inputs.utcnow interval inputs.latencyMs true ""
  let intelligence ← refreshed inputs key values intelligence
  whenDue inputs.persistClock controllerId
    (PollProgram.persistSuccess raises inputs controllerId deviceId device values performance
      intelligence)
  return performance

/-- The lifecycle of a failed poll.  What `mark_failure` assigned before it raised stays. -/
def markPollFailure (settings : PollSettings) (inputs : PollInputs V) (key : String) :
    PollProgram V Unit := do
  let s ← get
  let l := (s.core.watcher.setdefaultLifecycle key).1
  let failed := l.value.markFailure settings.failureThreshold settings.retryBackoffInitialSeconds
    settings.retryBackoffMaxSeconds inputs.utcnow.instant inputs.monotonic
  onWatcher (Watcher.onLifecycle key fun _ => failed.1)
  match failed.2 with
  | .ok () => pure ()
  | .error .overflow => throw ⟨"OverflowError", "int too large to convert to float"⟩

/-- The client of a failed poll is forgotten and closed. -/
def dropClient (inputs : PollInputs V) (key : String) : PollProgram V Unit := do
  let s ← get
  onWatcher fun w => { w with clients := w.clients.pop key }
  match s.core.watcher.clients key with
  | some client => do
      modify (PollState.onCore fun c => { c with closed := c.closed ++ [client] })
      PollProgram.ofExcept (match inputs.close with
        | some e => .error e
        | none => .ok ())
  | none => pure ()

/-- The part of a poll under `except Exception`. -/
def pollFailure (settings : PollSettings) (inputs : PollInputs V)
    (raises : StoreCall → Option PyException) (interval : ℚ) (key deviceId controllerId : String)
    (tracker : PollTrafficTracker) (e : PyException) : PollProgram V PollPerformanceSample := do
  let performance := tracker.finish inputs.utcnow interval inputs.latencyMs false e.text
  markPollFailure settings inputs key
  dropClient inputs key
  whenDue inputs.persistClock controllerId
    (PollProgram.persistFailure raises deviceId performance e.text)
  return performance

/-- `_poll_one` -/
def pollOne (settings : PollSettings) (inputs : PollInputs V)
    (raises : StoreCall → Option PyException) (interval : ℚ) (key : String)
    (device : DiscoveredDevice) : PollProgram V (Option PollPerformanceSample) := do
  let s ← get
  match s.core.watcher.deviceIds key, s.core.watcher.controllerIds key with
  | some deviceId, some controllerId => do
      let tracker := inputs.exchanges.foldl (fun t e => t.record e)
        (s.core.tracker settings key device).beginPoll
      modify (PollState.onCore fun c => { c with
        watcher := c.watcher.openPoll key device, trackers := c.trackers.set key tracker })
      let performance ← tryCatch
        (pollSuccess inputs raises interval key deviceId controllerId device tracker
          (s.core.watcher.intelligence key))
        (pollFailure settings inputs raises interval key deviceId controllerId tracker)
      return some performance
  | _, _ => return none

/-! ## isolation -/

section Isolation

variable {settings : PollSettings} {inputs : PollInputs V}
  {raises raises' : StoreCall → Option PyException} {interval : ℚ}
  {key deviceId controllerId : String} {device : DiscoveredDevice} {tracker : PollTrafficTracker}

/-- A write of the store leaves the watcher and the limiter alone, even if it raises. -/
theorem callStore_core (call : StoreCall) (write : StoreWrite V) (s : PollState V) :
    (exec (callStore raises call write) s).2.core = s.core := by
  unfold callStore
  cases raises call <;> rfl

/-- And `logged` keeps what it raises from the rest. -/
theorem logged_silent (call : StoreCall) (write : StoreWrite V) :
    Silent PollState.core (logged (callStore raises call write)) :=
  Silent.handled (callStore_core call write)

/-- All writes of a successful poll together show nothing. -/
theorem persistSuccess_silent (values : List V) (performance : PollPerformanceSample)
    (intelligence : Option DeviceIntelligence) :
    Silent PollState.core
      (PollProgram.persistSuccess raises inputs controllerId deviceId device values performance
        intelligence) := by
  unfold PollProgram.persistSuccess
  refine Silent.after ?_ ?_
  · intro s
    cases hcall : raises .savePoll with
    | none =>
        simp only [callStore, hcall]
        exact ⟨⟨true, rfl⟩, rfl⟩
    | some e =>
        simp only [callStore, hcall]
        exact ⟨⟨false, rfl⟩, rfl⟩
  · intro saved
    cases saved with
    | false => exact Silent.pure
    | true =>
        refine (logged_silent _ _).bind ((logged_silent _ _).bind ?_)
        cases intelligence with
        | none => exact Silent.pure
        | some i => exact logged_silent _ _

/-- Nor do those of a failed one. -/
theorem persistFailure_silent (performance : PollPerformanceSample) (error : String) :
    Silent PollState.core
      (PollProgram.persistFailure raises deviceId performance error : PollProgram V Unit) :=
  (logged_silent _ _).bind (logged_silent _ _)

theorem onCore_agree (f : PollCore → PollCore) :
    Agree PollState.core (modify (PollState.onCore f) : PollProgram V Unit)
      (modify (PollState.onCore f)) :=
  agree_modify fun _ _ hcore => congrArg f hcore

theorem onWatcher_agree (f : Watcher → Watcher) :
    Agree PollState.core (onWatcher f : PollProgram V Unit) (onWatcher f) :=
  onCore_agree _

theorem ofExcept_agree {α : Type} (x : Except PyException α) :
    Agree PollState.core (PollProgram.ofExcept x : PollProgram V α) (PollProgram.ofExcept x) := by
  cases x with
  | ok a => exact agree_pure a
  | error e => exact agree_throw e

/-- Whether a write is due is asked of the core, so on both sides the same. -/
theorem whenDue_agree (clock : ℚ) {m m' : PollProgram V Unit} (h : Silent PollState.core m)
    (h' : Silent PollState.core m') :
    Agree PollState.core (whenDue clock controllerId m) (whenDue clock controllerId m') := by
  refine agree_get fun s s' hcore => ?_
  rw [hcore]
  refine agree_bind (onCore_agree _) fun _ => ?_
  split
  · exact h.agree h'
  · exact agree_pure _

/-- A poll that succeeds leaves one core, whatever its writes raise. -/
theorem pollSuccess_agree (intelligence : Option DeviceIntelligence) :
    Agree PollState.core
      (pollSuccess inputs raises interval key deviceId controllerId device tracker intelligence)
      (pollSuccess inputs raises' interval key deviceId controllerId device tracker
        intelligence) := by
  refine agree_bind (ofExcept_agree _) fun values => agree_bind (onWatcher_agree _) fun _ => ?_
  refine agree_bind ?_ fun i => agree_bind ?_ fun _ => agree_pure _
  · cases intelligence with
    | none => exact agree_pure _
    | some i =>
        exact agree_bind (ofExcept_agree _) fun i =>
          agree_bind (onWatcher_agree _) fun _ => agree_pure _
  · exact whenDue_agree _ (persistSuccess_silent _ _ _) (persistSuccess_silent _ _ _)

/-- So does a poll that fails. -/
theorem pollFailure_agree (e : PyException) :
    Agree PollState.core
      (pollFailure settings inputs raises interval key deviceId controllerId tracker e)
      (pollFailure settings inputs raises' interval key deviceId controllerId tracker e) := by
  refine agree_bind (agree_get fun s s' hcore => ?_) fun _ =>
    agree_bind (agree_get fun s s' hcore => ?_) fun _ =>
      agree_bind (whenDue_agree _ (persistFailure_silent _ _) (persistFailure_silent _ _))
        fun _ => agree_pure _
  · dsimp only
    rw [hcore]
    refine agree_bind (onWatcher_agree _) fun _ => ?_
    split
    · exact agree_pure _
    · exact agree_throw _
  · rw [hcore]
    refine agree_bind (onWatcher_agree _) fun _ => ?_
    split
    · exact agree_bind (onCore_agree _) fun _ => ofExcept_agree _
    · exact agree_pure _

/-- Which calls to the store raise does not show outside the store. -/
theorem pollOne_agree :
    Agree PollState.core (pollOne settings inputs raises interval key device)
      (pollOne settings inputs raises' interval key device) := by
  refine agree_get fun s s' hcore => ?_
  dsimp only
  rw [hcore]
  split
  · exact agree_bind (onCore_agree _) fun _ =>
      agree_bind (agree_tryCatch (pollSuccess_agree _) pollFailure_agree) fun _ => agree_pure _
  · exact agree_pure _

end Isolation

/-! ## spacing -/

/-- Two attempts of one controller are the interval of the limiter apart, and the limiter
knows the last one. -/
structure PollCore.Spaced (interval : ℚ) (c : PollCore) : Prop where
  interval_eq : c.limiter.intervalSeconds = interval
  interval_pos : 0 < interval
  last_write : ∀ a ∈ c.attempts, ∃ previous, c.limiter.lastWrite a.1 = some previous ∧
    a.2 ≤ previous
  pairwise : c.attempts.Pairwise fun a b => a.1 = b.1 → interval ≤ b.2 - a.2

/-- A write is due or not; if it is, the last one is at least the interval ago and the clock is
noted. -/
theorem shouldPersist_cases (l : PollPersistenceLimiter) (clock : ℚ) (controllerId : String) :
    l.shouldPersist clock controllerId = (false, l) ∨
    ((∀ previous, l.lastWrite controllerId = some previous →
        l.intervalSeconds ≤ clock - previous) ∧
      l.shouldPersist clock controllerId =
        (true, { l with lastWrite := l.lastWrite.set controllerId clock })) := by
  unfold PollPersistenceLimiter.shouldPersist
  split
  · exact .inl rfl
  case isFalse hdue =>
    simp only [Option.any_eq_true, decide_eq_true_eq, not_exists, not_and, not_lt] at hdue
    exact .inr ⟨hdue, rfl⟩

/-- **Step lemma.**  Asking the limiter keeps the writes apart. -/
theorem PollCore.Spaced.shouldPersist {interval : ℚ} {c : PollCore} (h : c.Spaced interval)
    (clock : ℚ) (controllerId : String) : (c.shouldPersist clock controllerId).2.Spaced interval := by
  obtain ⟨hinterval, hpos, hlast, hpairwise⟩ := h
  unfold PollCore.shouldPersist
  obtain hrefused | ⟨hdue, hallowed⟩ := shouldPersist_cases c.limiter clock controllerId
  · rw [hrefused]
    exact ⟨hinterval, hpos, hlast, hpairwise⟩
  · rw [hallowed]
    -- the attempts so far are at least the interval before the clock
    have hbefore : ∀ a ∈ c.attempts, a.1 = controllerId → interval ≤ clock - a.2 := by
      intro a ha hid
      obtain ⟨previous, hprevious, hle⟩ := hlast a ha
      have hgap := hdue previous (hid ▸ hprevious)
      linarith
    refine ⟨hinterval, hpos, ?_, ?_⟩
    · intro a ha
      rcases List.mem_append.mp ha with hold | hnew
      · by_cases hid : a.1 = controllerId
        · have hgap := hbefore a hold hid
          exact ⟨clock, by simp [hid], by linarith⟩
        · obtain ⟨previous, hprevious, hle⟩ := hlast a hold
          exact ⟨previous, by simpa [hid] using hprevious, hle⟩
      · obtain rfl := List.mem_singleton.mp hnew
        exact ⟨clock, by simp, le_refl _⟩
    · refine List.pairwise_append.mpr ⟨hpairwise, List.pairwise_singleton _ _, ?_⟩
      intro a ha b hb hid
      obtain rfl := List.mem_singleton.mp hb
      exact hbefore a ha hid

/-- A write that is due is recorded with the clock that the limiter noted. -/
theorem whenDue_spaced {bound clock : ℚ} {controllerId : String} {m : PollProgram V Unit}
    (h : Silent PollState.core m) :
    Keeps (fun s => s.core.Spaced bound) (whenDue clock controllerId m) := by
  refine keeps_get fun s hs => ?_
  have hset : Keeps (fun s => s.core.Spaced bound) (modify (PollState.onCore fun c =>
      (c.shouldPersist clock controllerId).2) : PollProgram V Unit) :=
    keeps_modify fun s hs => hs.shouldPersist clock controllerId
  refine keeps_bind hset (fun _ => ?_) s hs
  split
  · exact h.keeps
  · exact keeps_pure _

/-- A change of the watcher and of what belongs to its clients. -/
theorem onCore_spaced {bound : ℚ} {f : PollCore → PollCore}
    (hlimiter : ∀ c, (f c).limiter = c.limiter) (hattempts : ∀ c, (f c).attempts = c.attempts)
    (s : PollState V) (hs : s.core.Spaced bound) : (s.onCore f).core.Spaced bound := by
  obtain ⟨hinterval, hpos, hlast, hpairwise⟩ := hs
  rw [← hattempts s.core] at hlast hpairwise
  rw [← hlimiter s.core] at hinterval hlast
  exact ⟨hinterval, hpos, hlast, hpairwise⟩

section Spacing

variable {settings : PollSettings} {inputs : PollInputs V}
  {raises : StoreCall → Option PyException} {interval bound : ℚ}
  {key deviceId controllerId : String} {device : DiscoveredDevice} {tracker : PollTrafficTracker}

/-- Changes of the watcher make no writes. -/
theorem onWatcher_spaced (f : Watcher → Watcher) :
    Keeps (fun s : PollState V => s.core.Spaced bound) (onWatcher f) :=
  keeps_modify (onCore_spaced (fun c => by rfl) fun c => by rfl)

theorem ofExcept_spaced {α : Type} (x : Except PyException α) :
    Keeps (fun s : PollState V => s.core.Spaced bound) (PollProgram.ofExcept x) := by
  cases x with
  | ok a => exact keeps_pure a
  | error e => exact keeps_throw e

/-- A poll that succeeds makes its write where it is due. -/
theorem pollSuccess_spaced (intelligence : Option DeviceIntelligence) :
    Keeps (fun s => s.core.Spaced bound)
      (pollSuccess inputs raises interval key deviceId controllerId device tracker
        intelligence) := by
  refine keeps_bind (ofExcept_spaced _) fun values => keeps_bind (onWatcher_spaced _) fun _ => ?_
  refine keeps_bind ?_ fun i => keeps_bind ?_ fun _ => keeps_pure _
  · cases intelligence with
    | none => exact keeps_pure _
    | some i =>
        exact keeps_bind (ofExcept_spaced _) fun i =>
          keeps_bind (onWatcher_spaced _) fun _ => keeps_pure _
  · exact whenDue_spaced (persistSuccess_silent _ _ _)

/-- A failed one asks too, for the row of its error. -/
theorem pollFailure_spaced (e : PyException) :
    Keeps (fun s => s.core.Spaced bound)
      (pollFailure settings inputs raises interval key deviceId controllerId tracker e) := by
  refine keeps_bind (keeps_get fun s hs => ?_) fun _ =>
    keeps_bind (keeps_get fun s hs => ?_) fun _ =>
      keeps_bind (whenDue_spaced (persistFailure_silent _ _)) fun _ => keeps_pure _
  · refine keeps_bind (onWatcher_spaced _) (fun _ => ?_) s hs
    split
    · exact keeps_pure _
    · exact keeps_throw _
  · refine keeps_bind (onWatcher_spaced _) (fun _ => ?_) s hs
    split
    · exact keeps_bind (keeps_modify (onCore_spaced (fun c => by rfl) fun c => by rfl)) fun _ =>
        ofExcept_spaced _
    · exact keeps_pure _

/-- One poll of a device, from the lookup of its lifecycle to the end. -/
theorem pollOne_spaced :
    Keeps (fun s => s.core.Spaced bound)
      (pollOne settings inputs raises interval key device) := by
  refine keeps_get fun s hs => ?_
  dsimp only
  split
  · refine keeps_bind (keeps_modify (onCore_spaced (fun c => by rfl) fun c => by rfl)) (fun _ => ?_) s hs
    exact keeps_bind (keeps_tryCatch (pollSuccess_spaced _) pollFailure_spaced) fun _ =>
      keeps_pure _
  · exact hs

end Spacing

/-! ## runs -/

/-- What happens to a running watcher: a discovery refresh, or a poll. -/
inductive WatchEvent (V : Type) where
  | refresh (now : Nat) (resolved : List Resolved)
  | poll (inputs : PollInputs V) (raises : StoreCall → Option PyException) (interval : ℚ)
      (key : String) (device : DiscoveredDevice)

/-- A refresh drops the tracker of an endpoint with its traffic entry. -/
def PollCore.refresh (now : Nat) (resolved : List Resolved) (c : PollCore) : PollCore :=
  let watcher := c.watcher.refresh now resolved
  { c with
    watcher
    trackers := fun key => if (watcher.traffic key).isSome then c.trackers key else none }

/-- What an exception leaves behind is the state of the next event. -/
def WatchEvent.apply (settings : PollSettings) (s : PollState V) : WatchEvent V → PollState V
  | .refresh now resolved => s.onCore (PollCore.refresh now resolved)
  | .poll inputs raises interval key device =>
      (exec (pollOne settings inputs raises interval key device) s).2

/-- **Step lemma.**  Polls keep the writes apart, and so does all else that happens to the watcher.
-/
theorem apply_spaced {settings : PollSettings} {bound : ℚ} {s : PollState V}
    (h : s.core.Spaced bound) (event : WatchEvent V) :
    (event.apply settings s).core.Spaced bound := by
  cases event with
  | refresh now resolved => exact onCore_spaced (fun c => by rfl) (fun c => by rfl) s h
  | poll inputs raises interval key device => exact pollOne_spaced s h

/-- A fresh limiter has let nothing through. -/
theorem create_spaced {bound : ℚ} {limiter : PollPersistenceLimiter}
    (h : PollPersistenceLimiter.create bound = .ok limiter) (watcher : Watcher)
    (trackers : Dict String PollTrafficTracker) :
    PollCore.Spaced bound { watcher, trackers, limiter } := by
  unfold PollPersistenceLimiter.create at h
  split at h
  case isTrue => cases h
  case isFalse hpos =>
    cases h
    exact ⟨rfl, not_le.mp hpos, by simp, List.Pairwise.nil⟩

/-- **Run lemma.** -/
theorem run_spaced {settings : PollSettings} {bound : ℚ} (events : List (WatchEvent V))
    {s : PollState V} (h : s.core.Spaced bound) :
    (events.foldl (WatchEvent.apply settings) s).core.Spaced bound := by
  induction events generalizing s with
  | nil => exact h
  | cons event events ih => exact ih (apply_spaced h event)

/-- Whichever calls to the store raise, a poll ends as if none did, with the same watcher;
and the polls of a controller that are let through to the store are the interval apart. -/
theorem persistence_isolated (settings : PollSettings) :
    (∀ (inputs : PollInputs V) (raises : StoreCall → Option PyException) (interval : ℚ)
        (key : String) (device : DiscoveredDevice) (s : PollState V),
      let failing := exec (pollOne settings inputs raises interval key device) s
      let stored := exec (pollOne settings inputs (fun _ => none) interval key device) s
      failing.1 = stored.1 ∧ failing.2.core = stored.2.core) ∧
    (∀ (bound : ℚ) (limiter : PollPersistenceLimiter) (watcher : Watcher)
        (trackers : Dict String PollTrafficTracker) (events : List (WatchEvent V)),
      PollPersistenceLimiter.create bound = .ok limiter →
      (events.foldl (WatchEvent.apply settings) { core := { watcher, trackers, limiter } }
        ).core.attempts.Pairwise fun a b => a.1 = b.1 → bound ≤ b.2 - a.2) := by
  constructor
  · intro inputs raises interval key device s
    exact pollOne_agree s s rfl
  · intro bound limiter watcher trackers events hcreate
    exact (run_spaced events (create_spaced hcreate watcher trackers)).pairwise

/-- Polls at 0 s, 30 s and 60 s under a limit of 60 s, where the store fails at first. -/
theorem persistence_isolated_minute :
    let settings : PollSettings :=
      { failureThreshold := 3, retryBackoffInitialSeconds := 1, retryBackoffMaxSeconds := 60
        serialBaudrate := 9600, serialStopBits := 2 }
    let watcher : Watcher :=
      { deviceIds := Dict.empty.set "tcp" "d", controllerIds := Dict.empty.set "tcp" "c" }
    let poll (clock : ℚ) (raises : StoreCall → Option PyException) : WatchEvent Nat :=
      .poll
        { utcnow := .midnight .first (by decide), monotonic := clock, persistClock := clock
          latencyMs := 5, exchanges := [], values := .ok [1], refresh := fun i _ => .ok i
          close := none, sampleId := 1 }
        raises 30 "tcp" { endpoint := { transport := .tcp, target := "h", unitId := 1 }, profile := "p" }
    let events := [poll 0 fun _ => some ⟨"OperationalError", "disk I/O error"⟩,
      poll 30 fun _ => none, poll 60 fun _ => none]
    let limiter : PollPersistenceLimiter := { intervalSeconds := 60 }
    PollPersistenceLimiter.create 60 = .ok limiter ∧
    (events.foldl (WatchEvent.apply settings) { core := { watcher, limiter } }).core.attempts =
      [("c", 0), ("c", 60)] ∧
    (events.foldl (WatchEvent.apply settings) { core := { watcher, limiter } }
      ).core.attempts.Pairwise fun a b => a.1 = b.1 → 60 ≤ b.2 - a.2 := by
  intro settings watcher poll events limiter
  have hcreate : PollPersistenceLimiter.create 60 = .ok limiter := by
    simp [PollPersistenceLimiter.create, limiter]
  refine ⟨hcreate, ?_, (persistence_isolated settings).2 60 limiter watcher Dict.empty events hcreate⟩
  decide +kernel

end MorningstarModbus
