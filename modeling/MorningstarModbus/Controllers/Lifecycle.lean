import MorningstarModbus.Lib.PyNumber

/-!
# MorningstarModbus.Controllers.Lifecycle

Lifecycle state and retry policy of a polled controller
(`controllers/lifecycle.py`).

Timestamps are microseconds, an empty text is no timestamp; readings of the
monotonic clock are rationals.  Backoffs are integers or floats, as the settings
give them.
-/

namespace MorningstarModbus

inductive LifecycleState where
  | discovered
  | connecting
  | online
  | degraded
  | offline
  | rediscovering
  deriving DecidableEq

structure DeviceLifecycle where
  state : LifecycleState := .discovered
  consecutiveFailures : Nat := 0
  reconnectCount : Nat := 0
  endpointChanges : Nat := 0
  lastDiscovered : Option Nat := none
  lastSuccess : Option Nat := none
  offlineSince : Option Nat := none
  nextRetryMonotonic : PyFloat := .finite 0
  retryInSeconds : PyFloat := .finite 0
  deriving DecidableEq

/-- `OverflowError`: an integer too large to convert to a float. -/
inductive LifecycleError where
  | overflow
  deriving DecidableEq

namespace DeviceLifecycle

def markDiscovered (utcnow : Nat) (endpointChanged : Bool) (l : DeviceLifecycle) :
    DeviceLifecycle :=
  { l with
    lastDiscovered := some utcnow
    endpointChanges := if endpointChanged then l.endpointChanges + 1 else l.endpointChanges
    state := match l.state with
      | .offline | .rediscovering => .connecting
      | .online => .online
      | _ => .discovered
    nextRetryMonotonic := .finite 0
    retryInSeconds := .finite 0 }

def markMissing (utcnow : Nat) (l : DeviceLifecycle) : DeviceLifecycle :=
  { l with
    state := if l.state = .offline then .offline else .rediscovering
    offlineSince := l.offlineSince.or (some utcnow) }

def markConnecting (l : DeviceLifecycle) : DeviceLifecycle :=
  { l with state := if l.state = .online then .online else .connecting }

def markSuccess (utcnow : Nat) (l : DeviceLifecycle) : DeviceLifecycle :=
  { l with
    reconnectCount :=
      if l.state ∈ [.offline, .rediscovering, .degraded] ∨ l.consecutiveFailures ≠ 0 then
        l.reconnectCount + 1
      else l.reconnectCount
    state := .online
    consecutiveFailures := 0
    lastSuccess := some utcnow
    offlineSince := none
    nextRetryMonotonic := .finite 0
    retryInSeconds := .finite 0 }

/-- Two integers of any size can be multiplied; to multiply a float, or to add the delay to the
clock, an integer is converted to a float, which fails for large ones.  The assignments before it
stay. -/
def markFailure (threshold : Nat) (initialBackoff maxBackoff : PyNumber) (utcnow : Nat)
    (monotonic : ℚ) (l : DeviceLifecycle) : DeviceLifecycle × Except LifecycleError Unit :=
  let failures := l.consecutiveFailures + 1
  let state := if threshold ≤ failures then .offline else .degraded
  let l := { l with
    consecutiveFailures := failures
    state
    offlineSince := if state = .offline then l.offlineSince.or (some utcnow) else l.offlineSince }
  let exponent := failures - 1
  match initialBackoff.mulInt (2 ^ exponent) with
  | none => (l, .error .overflow)
  | some backoff =>
      let delay := maxBackoff.min backoff
      let l := { l with retryInSeconds := delay.value }
      match delay.addTo (.finite monotonic) with
      | none => (l, .error .overflow)
      | some next => ({ l with nextRetryMonotonic := next }, .ok ())

def canPoll (now : ℚ) (l : DeviceLifecycle) : Bool :=
  l.state ≠ .rediscovering ∧ l.nextRetryMonotonic.le (.finite now)

end DeviceLifecycle

end MorningstarModbus
