import Mathlib.Data.List.MinMax
import Mathlib.Data.Prod.Lex
import Mathlib.Data.String.Basic
import MorningstarModbus.Lib.Dict
import MorningstarModbus.Lib.Loop
import MorningstarModbus.Lib.Table
import MorningstarModbus.Domain.Models
import MorningstarModbus.Controllers.Lifecycle

/-!
# MorningstarModbus.Runtime.Watcher

The dictionaries of the watcher (`runtime/watcher.py`), all keyed by the
`stable_key` of an endpoint or by a controller uid, and what a discovery
refresh and a poll cycle do to them.

A client, a traffic tracker and a profile are represented by what they were
created for.  A `DeviceLifecycle` is mutable, and the maps hold references:
`LifecycleObject.ref` tells one object from another.
-/

namespace MorningstarModbus

/-! ## state -/

/-- A `DeviceLifecycle` object: which one it is, and its fields. -/
structure LifecycleObject where
  ref : Nat
  value : DeviceLifecycle
  deriving DecidableEq

structure Watcher where
  devices : Dict String DiscoveredDevice := Dict.empty
  deviceIds : Dict String String := Dict.empty
  controllerIds : Dict String String := Dict.empty
  controllerKeys : Dict String String := Dict.empty
  canonicalDeviceIds : Dict String String := Dict.empty
  clients : Dict String Endpoint := Dict.empty
  profiles : Dict String String := Dict.empty
  intelligence : Dict String DeviceIntelligence := Dict.empty
  lifecycles : Dict String LifecycleObject := Dict.empty
  traffic : Dict String Endpoint := Dict.empty
  presentKeys : List String := []
  presentControllerIds : List String := []
  /-- how many `DeviceLifecycle` objects were put in a map so far -/
  created : Nat := 0

/-- A discovered device with the controller uid and the device id the registry
gave it. -/
structure Resolved where
  controllerId : String
  deviceId : String
  device : DiscoveredDevice
  deriving DecidableEq

def Resolved.key (r : Resolved) : String := r.device.endpoint.stableKey

/-! ## selection -/

/-- `_endpoint_preference` -/
def endpointPreference (r : Resolved) : Nat ×ₗ String :=
  let endpoint := r.device.endpoint
  let rank := if endpoint.transport = .tcp then 0 else if endpoint.usb ≠ "" then 1 else 2
  toLex (rank, r.key)

/-- The endpoint of one controller: the one it has, else the preferred one. -/
def selectEndpoint (existingKey : Option String) (candidates : List Resolved) : Option Resolved :=
  match candidates.find? fun r => some r.key = existingKey with
  | some existing => some existing
  | none => candidates.argmin endpointPreference

/-- `_select_controller_endpoints`, in the order controllers were first seen. -/
def selectControllerEndpoints (controllerKeys : Dict String String) (resolved : List Resolved) :
    List Resolved :=
  (Table.distinct (resolved.map Resolved.controllerId)).filterMap fun uid =>
    selectEndpoint (controllerKeys uid) (resolved.filter fun r => r.controllerId = uid)

/-! ## rebinding -/

namespace Watcher

/-- `_lifecycles.setdefault(key, DeviceLifecycle())` -/
def setdefaultLifecycle (w : Watcher) (key : String) : LifecycleObject × Watcher :=
  match w.lifecycles key with
  | some l => (l, w)
  | none =>
      let l : LifecycleObject := { ref := w.created, value := {} }
      (l, { w with lifecycles := w.lifecycles.set key l, created := w.created + 1 })

/-- `_lifecycles.pop(key, DeviceLifecycle())` -/
def popLifecycle (w : Watcher) (key : String) : LifecycleObject × Watcher :=
  match w.lifecycles key with
  | some l => (l, { w with lifecycles := w.lifecycles.pop key })
  | none => ({ ref := w.created, value := {} }, { w with created := w.created + 1 })

/-- A controller of the last refresh that is not there any more. -/
def markMissing (now : Nat) (w : Watcher) (controllerId : String) : Watcher :=
  match w.controllerKeys controllerId with
  | none => w
  | some key =>
      let (l, w) := w.setdefaultLifecycle key
      { w with
        lifecycles := w.lifecycles.set key { l with value := l.value.markMissing now }
        clients := w.clients.pop key }

/-- The entries under an endpoint that its controller has left. -/
def leave (w : Watcher) (key : String) : Watcher :=
  { w with
    clients := w.clients.pop key
    profiles := w.profiles.pop key
    intelligence := w.intelligence.pop key
    traffic := w.traffic.pop key
    devices := w.devices.pop key
    deviceIds := w.deviceIds.pop key
    controllerIds := w.controllerIds.pop key }

/-- The device a selected controller was last known as. -/
def previousDevice (w : Watcher) (s : Resolved) : Option DiscoveredDevice :=
  ((w.controllerKeys s.controllerId).bind w.devices).or (w.devices s.key)

def endpointMoved (w : Watcher) (s : Resolved) : Bool :=
  (match w.controllerKeys s.controllerId with
    | some previousKey => previousKey ≠ s.key
    | none => false) ||
  (match w.previousDevice s with
    | some previous => previous.endpoint ≠ s.device.endpoint
    | none => false)

def profileChanged (w : Watcher) (s : Resolved) : Bool :=
  match w.previousDevice s with
  | some previous => previous.profile ≠ s.device.profile
  | none => false

/-- The lifecycle of a selected controller: it comes along from the endpoint
the controller has left. -/
def takeLifecycle (w : Watcher) (s : Resolved) : LifecycleObject × Watcher :=
  match w.controllerKeys s.controllerId with
  | some previousKey =>
      if previousKey ≠ s.key then
        let (l, w) := w.popLifecycle previousKey
        (l, w.leave previousKey)
      else w.setdefaultLifecycle s.key
  | none => w.setdefaultLifecycle s.key

/-- The entries of a selected controller under its endpoint. -/
def bind (moved profileChanged : Bool) (now : Nat) (s : Resolved) (l : LifecycleObject)
    (w : Watcher) : Watcher :=
  { w with
    lifecycles := w.lifecycles.set s.key { l with value := l.value.markDiscovered now moved }
    profiles := if moved || profileChanged then w.profiles.pop s.key else w.profiles
    intelligence := match s.device.intelligence with
      | some i => w.intelligence.set s.key i
      | none => w.intelligence
    devices := w.devices.set s.key s.device
    deviceIds := w.deviceIds.set s.key s.deviceId
    controllerIds := w.controllerIds.set s.key s.controllerId
    controllerKeys := w.controllerKeys.set s.controllerId s.key
    canonicalDeviceIds := w.canonicalDeviceIds.set s.controllerId s.deviceId }

/-- One turn of the loop over the selected controllers. -/
def rebind (now : Nat) (w : Watcher) (s : Resolved) : Watcher :=
  let moved := w.endpointMoved s
  let changed := w.profileChanged s
  let stays := w.controllerKeys s.controllerId = some s.key
  let (l, w) := w.takeLifecycle s
  let w := if moved ∧ stays then
      { w with clients := w.clients.pop s.key, traffic := w.traffic.pop s.key }
    else w
  bind moved changed now s l w

/-- The dictionaries after `_refresh_devices`. -/
def refresh (now : Nat) (resolved : List Resolved) (w : Watcher) : Watcher :=
  let selected := selectControllerEndpoints w.controllerKeys resolved
  let found := selected.map Resolved.controllerId
  let missing := w.presentControllerIds.filter fun uid => uid ∉ found
  let w := missing.foldl (markMissing now) w
  let w := selected.foldl (rebind now) w
  { w with presentControllerIds := found, presentKeys := selected.map Resolved.key }

end Watcher

/-! ## polling -/

structure WatchSettings where
  failureThreshold : Nat
  retryBackoffInitialSeconds : PyNumber
  retryBackoffMaxSeconds : PyNumber

/-- What a poll of one endpoint meets: the clocks, and the intelligence a
successful poll refreshes (`none` when it fails). -/
structure PollReading where
  monotonic : ℚ
  utcnow : Nat
  values : Option (DeviceIntelligence → DeviceIntelligence)

namespace Watcher

/-- `_poll_one`, what it does to the dictionaries. -/
def pollOne (settings : WatchSettings) (reading : PollReading) (key : String)
    (device : DiscoveredDevice) (w : Watcher) : Except LifecycleError Watcher :=
  let (l, w) := w.setdefaultLifecycle key
  let l := { l with value := l.value.markConnecting }
  let endpoint := device.endpoint
  let w := { w with
    traffic := w.traffic.set key ((w.traffic key).getD endpoint)
    clients := w.clients.set key ((w.clients key).getD endpoint)
    profiles := w.profiles.set key device.profile }
  match reading.values with
  | some values => .ok { w with
      lifecycles := w.lifecycles.set key { l with value := l.value.markSuccess reading.utcnow }
      intelligence := match w.intelligence key with
        | some i => w.intelligence.set key (values i)
        | none => w.intelligence }
  | none =>
      let failed := l.value.markFailure settings.failureThreshold
        settings.retryBackoffInitialSeconds settings.retryBackoffMaxSeconds reading.utcnow
        reading.monotonic
      match failed.2 with
      | .error e => .error e
      | .ok () => .ok { w with
          lifecycles := w.lifecycles.set key { l with value := failed.1 }
          clients := w.clients.pop key }

/-- An endpoint that `_poll_all` polls, with its controller and device. -/
def polled (readings : String → PollReading) (w : Watcher) (key : String) :
    Option (String × DiscoveredDevice) :=
  match w.devices key, w.controllerIds key, w.deviceIds key with
  | some device, some controllerId, some _ =>
      if (w.setdefaultLifecycle key).1.value.canPoll (readings key).monotonic then
        some (controllerId, device)
      else none
  | _, _, _ => none

/-- One key of `_poll_all`. -/
def pollKey (settings : WatchSettings) (readings : String → PollReading) (w : Watcher)
    (key : String) : Except LifecycleError Watcher :=
  match w.polled readings key with
  | some (_, device) => pollOne settings (readings key) key device w
  | none => .ok (w.setdefaultLifecycle key).2

/-- `_poll_all`; the tasks of different keys touch different entries. -/
def pollAll (settings : WatchSettings) (readings : String → PollReading) (w : Watcher) :
    Except LifecycleError Watcher :=
  w.presentKeys.foldlM (pollKey settings readings) w

end Watcher

/-! ## what a selection picks -/

section Selection

variable {controllerKeys : Dict String String} {resolved : List Resolved} {s : Resolved}

/-- The endpoint chosen is one of those found. -/
theorem selectEndpoint_mem {existingKey : Option String}
    (h : selectEndpoint existingKey resolved = some s) : s ∈ resolved := by
  unfold selectEndpoint at h
  split at h
  case h_1 existing hfind =>
    cases h
    exact List.mem_of_find?_eq_some hfind
  case h_2 => exact List.argmin_mem h

/-- Where any was found one is chosen. -/
theorem selectEndpoint_isSome (existingKey : Option String) (h : resolved ≠ []) :
    ∃ s, selectEndpoint existingKey resolved = some s := by
  unfold selectEndpoint
  split
  case h_1 existing _ => exact ⟨existing, rfl⟩
  case h_2 =>
    cases hmin : resolved.argmin endpointPreference with
    | some s => exact ⟨s, rfl⟩
    | none => exact absurd (List.argmin_eq_none.mp hmin) h

/-- A selected endpoint was discovered. -/
theorem mem_of_selected (h : s ∈ selectControllerEndpoints controllerKeys resolved) :
    s ∈ resolved := by
  obtain ⟨uid, -, hs⟩ := List.mem_filterMap.mp h
  exact (List.mem_filter.mp (selectEndpoint_mem hs)).1

/-- Every discovered controller is selected once. -/
theorem selected_controllers (controllerKeys : Dict String String) (resolved : List Resolved) :
    (selectControllerEndpoints controllerKeys resolved).map Resolved.controllerId =
      Table.distinct (resolved.map Resolved.controllerId) := by
  unfold selectControllerEndpoints
  have hsub : ∀ uid ∈ Table.distinct (resolved.map Resolved.controllerId),
      ∃ r ∈ resolved, r.controllerId = uid := by
    intro uid huid
    exact List.mem_map.mp (Table.mem_distinct.mp huid)
  generalize Table.distinct (resolved.map Resolved.controllerId) = uids at hsub
  induction uids with
  | nil => rfl
  | cons uid uids ih =>
      obtain ⟨r, hr, hru⟩ := hsub uid List.mem_cons_self
      have hne : resolved.filter (fun r => r.controllerId = uid) ≠ [] :=
        List.ne_nil_of_mem (List.mem_filter.mpr ⟨hr, by simpa using hru⟩)
      obtain ⟨s, hs⟩ := selectEndpoint_isSome (controllerKeys uid) hne
      have hsu : s.controllerId = uid := by
        simpa using (List.mem_filter.mp (selectEndpoint_mem hs)).2
      have hrest := ih fun v hv => hsub v (List.mem_cons_of_mem uid hv)
      simp only [List.filterMap_cons, hs, List.map_cons, hsu, hrest]

/-- One endpoint is chosen for each controller. -/
theorem selected_controllers_nodup (controllerKeys : Dict String String)
    (resolved : List Resolved) :
    ((selectControllerEndpoints controllerKeys resolved).map Resolved.controllerId).Nodup := by
  rw [selected_controllers]
  exact Table.nodup_distinct _

/-- Distinct endpoints are selected for distinct controllers. -/
theorem selected_keys_nodup (controllerKeys : Dict String String)
    (h : (resolved.map Resolved.key).Nodup) :
    ((selectControllerEndpoints controllerKeys resolved).map Resolved.key).Nodup := by
  have hnodup := List.Nodup.of_map _ (selected_controllers_nodup controllerKeys resolved)
  refine List.Nodup.map_on (fun s hs t ht heq => ?_) hnodup
  exact List.inj_on_of_nodup_map h (mem_of_selected hs) (mem_of_selected ht) heq

end Selection

/-! ## what a turn changes -/

namespace Watcher

variable {w : Watcher} {now : Nat} {s : Resolved}

/-- The endpoint a selected controller has left. -/
def vacated (w : Watcher) (s : Resolved) : Option String :=
  (w.controllerKeys s.controllerId).filter fun p => p ≠ s.key

/-- `d` without the endpoint a controller has left. -/
def without {α : Type} (d : Dict String α) : Option String → Dict String α
  | some p => d.pop p
  | none => d

/-- What is left without an entry. -/
theorem without_apply {α : Type} (d : Dict String α) (v : Option String) (k : String) :
    without d v k = if v = some k then none else d k := by
  cases v with
  | none => simp [without]
  | some p =>
      by_cases hk : k = p
      · simp [without, hk]
      · rw [without, Dict.pop_of_ne d hk, if_neg]
        simpa [eq_comm] using hk

section Frame

variable (w) (key : String)

/-- `setdefault` changes the lifecycles only. -/
@[simp] theorem setdefaultLifecycle_frame :
    (w.setdefaultLifecycle key).2.devices = w.devices ∧
      (w.setdefaultLifecycle key).2.deviceIds = w.deviceIds ∧
      (w.setdefaultLifecycle key).2.controllerIds = w.controllerIds ∧
      (w.setdefaultLifecycle key).2.controllerKeys = w.controllerKeys := by
  unfold setdefaultLifecycle
  split <;> exact ⟨rfl, rfl, rfl, rfl⟩

/-- Taking a lifecycle along vacates the endpoint it was at. -/
theorem takeLifecycle_frame (s : Resolved) :
    (w.takeLifecycle s).2.devices = without w.devices (w.vacated s) ∧
      (w.takeLifecycle s).2.deviceIds = without w.deviceIds (w.vacated s) ∧
      (w.takeLifecycle s).2.controllerIds = without w.controllerIds (w.vacated s) ∧
      (w.takeLifecycle s).2.controllerKeys = w.controllerKeys := by
  unfold takeLifecycle vacated
  cases hp : w.controllerKeys s.controllerId with
  | none => simp [without]
  | some p =>
      by_cases hpk : p = s.key
      · have hnone : (some p).filter (fun p => p ≠ s.key) = none := by simp [hpk]
        rw [hnone]
        simp [hpk, without]
      · have hsome : (some p).filter (fun p => p ≠ s.key) = some p := by simp [hpk]
        rw [hsome]
        simp only [ne_eq, hpk, not_false_eq_true, if_true, without]
        unfold popLifecycle leave
        split <;> exact ⟨rfl, rfl, rfl, rfl⟩

end Frame

/-- The four dictionaries that tell who is where, after a turn. -/
theorem rebind_frame (now : Nat) (w : Watcher) (s : Resolved) :
    (rebind now w s).devices = (without w.devices (w.vacated s)).set s.key s.device ∧
      (rebind now w s).deviceIds = (without w.deviceIds (w.vacated s)).set s.key s.deviceId ∧
      (rebind now w s).controllerIds =
        (without w.controllerIds (w.vacated s)).set s.key s.controllerId ∧
      (rebind now w s).controllerKeys = w.controllerKeys.set s.controllerId s.key := by
  obtain ⟨hd, hi, hc, hk⟩ := takeLifecycle_frame w s
  rw [← hd, ← hi, ← hc, ← hk]
  unfold rebind bind
  dsimp only
  split <;> exact ⟨rfl, rfl, rfl, rfl⟩

/-- Marking a controller missing changes its lifecycle only. -/
theorem markMissing_frame (now : Nat) (w : Watcher) (uid : String) :
    (markMissing now w uid).devices = w.devices ∧
      (markMissing now w uid).deviceIds = w.deviceIds ∧
      (markMissing now w uid).controllerIds = w.controllerIds ∧
      (markMissing now w uid).controllerKeys = w.controllerKeys := by
  unfold markMissing
  split
  · exact ⟨rfl, rfl, rfl, rfl⟩
  · exact setdefaultLifecycle_frame w _

/-- Marking the missing controllers tells nothing new about who is where. -/
theorem missing_frame (now : Nat) (missing : List String) (w : Watcher) :
    (missing.foldl (markMissing now) w).devices = w.devices ∧
      (missing.foldl (markMissing now) w).deviceIds = w.deviceIds ∧
      (missing.foldl (markMissing now) w).controllerIds = w.controllerIds ∧
      (missing.foldl (markMissing now) w).controllerKeys = w.controllerKeys := by
  induction missing generalizing w with
  | nil => exact ⟨rfl, rfl, rfl, rfl⟩
  | cons uid missing ih =>
      obtain ⟨hd, hi, hc, hk⟩ := markMissing_frame now w uid
      rw [List.foldl_cons, ← hd, ← hi, ← hc, ← hk]
      exact ih (markMissing now w uid)

/-! ## lifecycle objects -/

/-- Where a selected controller takes its lifecycle from. -/
def source (w : Watcher) (s : Resolved) : String := (w.vacated s).getD s.key

/-- Which object is under which key. -/
def refs (w : Watcher) : Dict String Nat := fun key =>
  (w.lifecycles key).map LifecycleObject.ref

/-- The object under a key, or the one that is created for it. -/
def refAt (w : Watcher) (key : String) : Nat := (w.refs key).getD w.created

/-- The objects created once the one under a key was asked for. -/
def createdAt (w : Watcher) (key : String) : Nat :=
  match w.refs key with
  | some _ => w.created
  | none => w.created + 1

/-- The lifecycle at an endpoint, a new object if there was none. -/
theorem setdefaultLifecycle_spec (w : Watcher) (key : String) :
    (w.setdefaultLifecycle key).1.ref = w.refAt key ∧
      (w.setdefaultLifecycle key).2.created = w.createdAt key ∧
      (w.setdefaultLifecycle key).2.lifecycles =
        w.lifecycles.set key (w.setdefaultLifecycle key).1 := by
  have hset : ∀ l, w.lifecycles key = some l → w.lifecycles = w.lifecycles.set key l :=
    fun l hl => (Dict.set_eq_self hl).symm
  unfold setdefaultLifecycle refAt createdAt refs
  cases hl : w.lifecycles key with
  | none => exact ⟨by simp, rfl, rfl⟩
  | some l => exact ⟨by simp, rfl, hset l hl⟩

/-- The same, and the endpoint has none any more. -/
theorem popLifecycle_spec (w : Watcher) (key : String) :
    (w.popLifecycle key).1.ref = w.refAt key ∧ (w.popLifecycle key).2.created = w.createdAt key ∧
      (w.popLifecycle key).2.lifecycles = w.lifecycles.pop key := by
  have hpop : w.lifecycles key = none → w.lifecycles = w.lifecycles.pop key :=
    fun hl => (Dict.pop_eq_self hl).symm
  unfold popLifecycle refAt createdAt refs
  cases hl : w.lifecycles key with
  | none => exact ⟨by simp, rfl, hpop hl⟩
  | some l => exact ⟨by simp, rfl, rfl⟩

/-- The lifecycle comes from the source of the controller, and ends at its new endpoint. -/
theorem takeLifecycle_spec (w : Watcher) (s : Resolved) :
    (w.takeLifecycle s).1.ref = w.refAt (w.source s) ∧
      (w.takeLifecycle s).2.created = w.createdAt (w.source s) ∧
      ∀ l, (w.takeLifecycle s).2.lifecycles.set s.key l =
        (without w.lifecycles (w.vacated s)).set s.key l := by
  obtain ⟨href, hcreated, hlifecycles⟩ := setdefaultLifecycle_spec w s.key
  have hstays : ∀ l, (w.setdefaultLifecycle s.key).2.lifecycles.set s.key l =
      w.lifecycles.set s.key l := by
    intro l
    rw [hlifecycles, Dict.set_set]
  unfold takeLifecycle source vacated
  cases hp : w.controllerKeys s.controllerId with
  | none => exact ⟨href, hcreated, hstays⟩
  | some p =>
      by_cases hpk : p = s.key
      · have hnone : (some p).filter (fun p => p ≠ s.key) = none := by simp [hpk]
        rw [hnone]
        simp only [hpk, ne_eq, not_true_eq_false, if_false]
        exact ⟨href, hcreated, hstays⟩
      · have hsome : (some p).filter (fun p => p ≠ s.key) = some p := by simp [hpk]
        obtain ⟨href, hcreated, hpop⟩ := popLifecycle_spec w p
        rw [hsome]
        simp only [hpk, ne_eq, not_false_eq_true, if_true]
        exact ⟨href, hcreated, fun l => congrArg (fun d => Dict.set d s.key l) hpop⟩

/-- The objects after a turn: that of the source is under the endpoint of the
controller, and it can be polled at once. -/
theorem rebind_refs (now : Nat) (w : Watcher) (s : Resolved) :
    (rebind now w s).created = w.createdAt (w.source s) ∧
      (rebind now w s).refs = (without w.refs (w.vacated s)).set s.key (w.refAt (w.source s)) ∧
      ∃ l, (rebind now w s).lifecycles = (without w.lifecycles (w.vacated s)).set s.key l ∧
        l.value.state ≠ .rediscovering ∧ l.value.nextRetryMonotonic = .finite 0 := by
  obtain ⟨href, hcreated, hset⟩ := takeLifecycle_spec w s
  obtain ⟨l, hl⟩ : ∃ l, l = { (w.takeLifecycle s).1 with
    value := (w.takeLifecycle s).1.value.markDiscovered now (w.endpointMoved s) } := ⟨_, rfl⟩
  have hlifecycles : (rebind now w s).lifecycles =
      (without w.lifecycles (w.vacated s)).set s.key l := by
    rw [← hset, hl]
    unfold rebind bind
    dsimp only
    split <;> rfl
  have hlref : l.ref = w.refAt (w.source s) := by rw [hl, ← href]
  refine ⟨?_, ?_, l, hlifecycles, ?_, ?_⟩
  · unfold rebind bind
    dsimp only
    split <;> exact hcreated
  · funext k
    simp only [refs, hlifecycles]
    by_cases hk : k = s.key
    · subst hk
      rw [Dict.set_self, Dict.set_self, Option.map_some, hlref]
    · rw [Dict.set_of_ne _ _ hk, Dict.set_of_ne _ _ hk, without_apply, without_apply]
      split <;> rfl
  · rw [hl]
    simp only [DeviceLifecycle.markDiscovered]
    cases (w.takeLifecycle s).1.value.state <;> simp
  · rw [hl]
    rfl

/-- Marking a controller missing replaces no object that is there. -/
theorem markMissing_refs (now : Nat) {uid : String} (w : Watcher)
    (h : ∀ key, w.controllerKeys uid = some key → w.refs key ≠ none) :
    (markMissing now w uid).refs = w.refs ∧ (markMissing now w uid).created = w.created := by
  unfold markMissing
  cases hk : w.controllerKeys uid with
  | none => exact ⟨rfl, rfl⟩
  | some p =>
      cases hl : w.lifecycles p with
      | none => exact absurd (by simp [refs, hl]) (h p hk)
      | some l =>
          simp only [setdefaultLifecycle, hl, and_true]
          funext key
          by_cases hkp : key = p
          · subst hkp
            simp [refs, hl]
          · simp [refs, Dict.set_of_ne _ _ hkp]

/-! ## what polls change -/

/-- What polling leaves alone. -/
structure SameOwners (w w' : Watcher) : Prop where
  devices : w'.devices = w.devices
  controllerIds : w'.controllerIds = w.controllerIds
  controllerKeys : w'.controllerKeys = w.controllerKeys
  presentKeys : w'.presentKeys = w.presentKeys
  presentControllerIds : w'.presentControllerIds = w.presentControllerIds

instance : Std.Refl SameOwners := ⟨fun _ => ⟨rfl, rfl, rfl, rfl, rfl⟩⟩

instance : IsTrans Watcher SameOwners where
  trans _ _ _ h h' := ⟨h'.devices.trans h.devices, h'.controllerIds.trans h.controllerIds,
    h'.controllerKeys.trans h.controllerKeys, h'.presentKeys.trans h.presentKeys,
    h'.presentControllerIds.trans h.presentControllerIds⟩

section Polls

variable {w' : Watcher} {settings : WatchSettings} {readings : String → PollReading} {key : String}

/-- A poll changes the fields of the object under its key, and creates one if
there is none. -/
theorem pollKey_spec (h : w.pollKey settings readings key = .ok w') :
    w.SameOwners w' ∧ w'.created = w.createdAt key ∧ w'.refs = w.refs.set key (w.refAt key) := by
  obtain ⟨href, hcreated, hlifecycles⟩ := setdefaultLifecycle_spec w key
  have hsame : w.SameOwners (w.setdefaultLifecycle key).2 := by
    unfold setdefaultLifecycle
    split <;> exact ⟨rfl, rfl, rfl, rfl, rfl⟩
  have hrefs : ∀ l : LifecycleObject, l.ref = w.refAt key →
      (fun k => ((w.lifecycles.set key l) k).map LifecycleObject.ref) =
        w.refs.set key (w.refAt key) := by
    intro l hl
    funext k
    by_cases hk : k = key
    · subst hk
      rw [Dict.set_self, Dict.set_self, Option.map_some, hl]
    · rw [Dict.set_of_ne _ _ hk, Dict.set_of_ne _ _ hk, refs]
  generalize hlw : w.setdefaultLifecycle key = lw at *
  obtain ⟨l, w₁⟩ := lw
  unfold pollKey at h
  split at h
  case h_1 uid device _ =>
    unfold pollOne at h
    rw [hlw] at h
    dsimp only at h hlifecycles
    rw [hlifecycles, Dict.set_set] at h
    split at h
    · cases h
      exact ⟨⟨hsame.devices, hsame.controllerIds, hsame.controllerKeys, hsame.presentKeys,
        hsame.presentControllerIds⟩, hcreated, hrefs _ href⟩
    · rw [Dict.set_set] at h
      split at h
      · cases h
      · cases h
        exact ⟨⟨hsame.devices, hsame.controllerIds, hsame.controllerKeys, hsame.presentKeys,
          hsame.presentControllerIds⟩, hcreated, hrefs _ href⟩
  case h_2 =>
    rw [hlw] at h
    cases h
    refine ⟨hsame, hcreated, ?_⟩
    rw [← hrefs l href, ← hlifecycles]
    rfl

theorem pollAll_sameOwners (h : w.pollAll settings readings = .ok w') : w.SameOwners w' :=
  Loop.foldlM_invariant (P := fun w' => w.SameOwners w') h (refl_of SameOwners w)
    fun _ _ _ _ hw₁ hok => trans_of SameOwners hw₁ (pollKey_spec hok).1

end Polls

end Watcher

end MorningstarModbus
