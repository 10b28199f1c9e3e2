import Mathlib.Data.List.Infix
import MorningstarModbus.Controllers.Lifecycle

/-!
# MorningstarModbus.Controllers.LifecycleRuns

Runs of the operations of a lifecycle (`controllers/lifecycle.py`), in any order, from a
fresh one.

* `Tracked` — what the fields say of the operations so far;
* `lifecycle_law_iff` — an online device is in order and an offline one knows since when, in
  every state of a run; reconnections are counted exactly when no device that went missing is
  seen again before its next success, unless it failed as well.
-/

namespace MorningstarModbus

/-! ## operations -/

inductive LifecycleOp where
  | discovered (utcnow : Nat) (endpointChanged : Bool)
  | missing (utcnow : Nat)
  | connecting
  | success (utcnow : Nat)
  | failure (threshold : Nat) (initialBackoff maxBackoff : PyNumber) (utcnow : Nat) (monotonic : ℚ)
  deriving DecidableEq

namespace LifecycleOp

/-- What an operation leaves; a failure that raises keeps the fields it assigned. -/
def run : LifecycleOp → DeviceLifecycle → DeviceLifecycle
  | discovered utcnow endpointChanged, l => l.markDiscovered utcnow endpointChanged
  | missing utcnow, l => l.markMissing utcnow
  | connecting, l => l.markConnecting
  | success utcnow, l => l.markSuccess utcnow
  | failure threshold initialBackoff maxBackoff utcnow monotonic, l =>
      (l.markFailure threshold initialBackoff maxBackoff utcnow monotonic).1

/-- The time of an operation. -/
def utcnow : LifecycleOp → Option Nat
  | discovered utcnow _ | missing utcnow | success utcnow | failure _ _ _ utcnow _ => some utcnow
  | connecting => none

def isSuccess : LifecycleOp → Bool
  | success _ => true
  | _ => false

def isFailure : LifecycleOp → Bool
  | failure .. => true
  | _ => false

def isMissing : LifecycleOp → Bool
  | missing _ => true
  | _ => false

end LifecycleOp

open LifecycleOp

namespace DeviceLifecycle

/-- A fresh lifecycle after some operations. -/
def after (ops : List LifecycleOp) : DeviceLifecycle := ops.foldl (fun l op => op.run l) {}

/-- Offline or missing. -/
def IsOut (l : DeviceLifecycle) : Prop := l.state = .offline ∨ l.state = .rediscovering

@[simp] theorem after_nil : after [] = {} := rfl

@[simp] theorem after_append_singleton (ops : List LifecycleOp) (op : LifecycleOp) :
    after (ops ++ [op]) = op.run (after ops) := by
  simp [after]

end DeviceLifecycle

open DeviceLifecycle

/-- The operations since the last success. -/
def sinceSuccess (ops : List LifecycleOp) : List LifecycleOp :=
  ops.foldl (fun since op => if op.isSuccess then [] else since ++ [op]) []

@[simp] theorem sinceSuccess_nil : sinceSuccess [] = [] := rfl

@[simp] theorem sinceSuccess_append_singleton (ops : List LifecycleOp) (op : LifecycleOp) :
    sinceSuccess (ops ++ [op]) = if op.isSuccess then [] else sinceSuccess ops ++ [op] := by
  simp [sinceSuccess]

/-- Operations without a success among them. -/
def NoSuccess (ops : List LifecycleOp) : Prop := ∀ op ∈ ops, op.isSuccess = false

/-! ## the law -/

/-- The time is that of the operation which put the device out first since its last success. -/
def FirstOut (ops : List LifecycleOp) (t : Nat) : Prop :=
  ∃ before op late, ops = before ++ op :: late ∧ NoSuccess (op :: late) ∧ op.utcnow = some t ∧
    (after (before ++ [op])).IsOut ∧
      ∀ early quiet, before = early ++ quiet → NoSuccess quiet → ¬ (after early).IsOut

/-- The law of a lifecycle after some operations. -/
structure LifecycleLaw (ops : List LifecycleOp) : Prop where
  online : (after ops).state = .online → (after ops).consecutiveFailures = 0 ∧
    (after ops).offlineSince = none ∧ (after ops).nextRetryMonotonic = .finite 0 ∧
      (after ops).retryInSeconds = .finite 0
  offline : (after ops).state = .offline →
    ∃ t, (after ops).offlineSince = some t ∧ FirstOut ops t
  reconnects : ∀ before utcnow, ops = before ++ [.success utcnow] →
    (after ops).reconnectCount = (after before).reconnectCount +
      if (sinceSuccess before).any (fun op => op.isFailure || op.isMissing) then 1 else 0

/-- What the count of reconnections needs of the operations since the last success: that
none was a missing mark, or one a failure, or the missing mark the last. -/
def Rejoins (since : List LifecycleOp) : Prop :=
  since.any isMissing = false ∨ since.any isFailure = true ∨ since.getLast?.any isMissing = true

instance (since : List LifecycleOp) : Decidable (Rejoins since) :=
  inferInstanceAs (Decidable (_ ∨ _))

/-! ## one operation -/

section Operation

variable (threshold : Nat) (initialBackoff maxBackoff : PyNumber) (utcnow : Nat) (monotonic : ℚ)
  (l : DeviceLifecycle)

theorem markFailure_fields :
    (l.markFailure threshold initialBackoff maxBackoff utcnow monotonic).1.consecutiveFailures =
        l.consecutiveFailures + 1 ∧
      (l.markFailure threshold initialBackoff maxBackoff utcnow monotonic).1.state =
        (if threshold ≤ l.consecutiveFailures + 1 then .offline else .degraded) ∧
      (l.markFailure threshold initialBackoff maxBackoff utcnow monotonic).1.offlineSince =
        (if threshold ≤ l.consecutiveFailures + 1 then l.offlineSince.or (some utcnow)
          else l.offlineSince) := by
  simp only [markFailure]
  by_cases hoffline : threshold ≤ l.consecutiveFailures + 1
  · simp only [hoffline, if_true]
    split
    · simp
    · split <;> simp
  · simp only [hoffline, if_false]
    split
    · simp
    · split <;> simp

end Operation

section Operation

variable {op : LifecycleOp} {l : DeviceLifecycle}

/-- The states that an operation may leave. -/
theorem state_run (op : LifecycleOp) (l : DeviceLifecycle) :
    (op.isSuccess = true ∧ (op.run l).state = .online) ∨
      (op.isFailure = true ∧ ((op.run l).state = .offline ∨ (op.run l).state = .degraded)) ∨
      (op.isMissing = true ∧ ((op.run l).state = .rediscovering ∨
        (l.state = .offline ∧ (op.run l).state = .offline))) ∨
      ((op.run l).state = .connecting ∨ (op.run l).state = .discovered ∨
        (l.state = .online ∧ (op.run l).state = .online)) := by
  cases op with
  | success utcnow => exact .inl ⟨rfl, rfl⟩
  | failure threshold initialBackoff maxBackoff utcnow monotonic =>
      refine .inr (.inl ⟨rfl, ?_⟩)
      rw [run, (markFailure_fields threshold initialBackoff maxBackoff utcnow monotonic l).2.1]
      split <;> simp
  | missing utcnow =>
      refine .inr (.inr (.inl ⟨rfl, ?_⟩))
      by_cases hoffline : l.state = .offline
      · simp [run, markMissing, hoffline]
      · simp [run, markMissing, hoffline]
  | connecting =>
      refine .inr (.inr (.inr ?_))
      by_cases honline : l.state = .online
      · simp [run, markConnecting, honline]
      · simp [run, markConnecting, honline]
  | discovered utcnow endpointChanged =>
      refine .inr (.inr (.inr ?_))
      cases hstate : l.state <;> simp [run, markDiscovered, hstate]

theorem isSuccess_of_isMissing (hop : op.isMissing = true) : op.isSuccess = false := by
  cases op with
  | missing utcnow => rfl
  | _ => cases hop

/-- Only an operation that puts a device out sets the time. -/
theorem offlineSince_run (hop : op.isSuccess = false) :
    (op.run l).offlineSince = l.offlineSince ∨
      (l.offlineSince = none ∧ (op.run l).IsOut ∧ (op.run l).offlineSince = op.utcnow) := by
  cases op with
  | success utcnow => cases hop
  | discovered utcnow endpointChanged => exact .inl rfl
  | connecting => exact .inl rfl
  | missing utcnow =>
      cases hsince : l.offlineSince with
      | some t => simp [run, markMissing, hsince]
      | none =>
          refine .inr ⟨rfl, ?_, by simp [run, markMissing, hsince, LifecycleOp.utcnow]⟩
          simp only [run, markMissing, IsOut]
          split <;> simp
  | failure threshold initialBackoff maxBackoff utcnow monotonic =>
      obtain ⟨-, hstate, hsince'⟩ :=
        markFailure_fields threshold initialBackoff maxBackoff utcnow monotonic l
      by_cases hoffline : threshold ≤ l.consecutiveFailures + 1
      · cases hsince : l.offlineSince with
        | some t => simp [run, hsince', hoffline, hsince]
        | none =>
            refine .inr ⟨rfl, .inl ?_, ?_⟩
            · simpa [run, hoffline] using hstate
            · simp [run, hsince', hoffline, hsince, LifecycleOp.utcnow]
      · exact .inl (by simp [run, hsince', hoffline])

/-- A device that is out knows since when. -/
theorem offlineSince_of_isOut (h : (op.run l).IsOut) : (op.run l).offlineSince ≠ none := by
  cases op with
  | success utcnow => simp [run, markSuccess, IsOut] at h
  | discovered utcnow endpointChanged =>
      simp only [run, markDiscovered, IsOut] at h
      cases hstate : l.state <;> simp [hstate] at h
  | connecting =>
      simp only [run, markConnecting, IsOut] at h
      split at h <;> simp at h
  | missing utcnow =>
      simp only [run, markMissing]
      cases l.offlineSince <;> simp
  | failure threshold initialBackoff maxBackoff utcnow monotonic =>
      obtain ⟨-, hstate, hsince⟩ :=
        markFailure_fields threshold initialBackoff maxBackoff utcnow monotonic l
      by_cases hoffline : threshold ≤ l.consecutiveFailures + 1
      · simp only [run, hsince, hoffline, if_true]
        cases l.offlineSince <;> simp
      · simp only [run, IsOut, hstate, hoffline, if_false] at h
        simp at h

/-- A device stays online only in order. -/
theorem online_run (h : (op.run l).state = .online) :
    op.isSuccess = true ∨ (l.state = .online ∧
      (op.run l).consecutiveFailures = l.consecutiveFailures ∧
        (op.run l).offlineSince = l.offlineSince ∧
          ((op.run l).nextRetryMonotonic = .finite 0 ∧ (op.run l).retryInSeconds = .finite 0 ∨
            (op.run l).nextRetryMonotonic = l.nextRetryMonotonic ∧
              (op.run l).retryInSeconds = l.retryInSeconds)) := by
  cases op with
  | success utcnow => exact .inl rfl
  | discovered utcnow endpointChanged =>
      refine .inr ⟨?_, rfl, rfl, .inl ⟨rfl, rfl⟩⟩
      simp only [run, markDiscovered] at h
      cases hstate : l.state <;> simp [hstate] at h
      rfl
  | connecting =>
      refine .inr ⟨?_, rfl, rfl, .inr ⟨rfl, rfl⟩⟩
      simp only [run, markConnecting] at h
      by_contra hnot
      simp [hnot] at h
  | missing utcnow =>
      simp only [run, markMissing] at h
      split at h <;> simp at h
  | failure threshold initialBackoff maxBackoff utcnow monotonic =>
      have hstate := (markFailure_fields threshold initialBackoff maxBackoff utcnow monotonic l).2.1
      simp only [run, hstate] at h
      split at h <;> simp at h

/-- A device that is offline or degraded has failed. -/
theorem failed_run (h : (op.run l).state = .offline ∨ (op.run l).state = .degraded) :
    op.isFailure = true ∨
      (op.isSuccess = false ∧ l.state = .offline) := by
  obtain ⟨-, hstate⟩ | ⟨hop, -⟩ | ⟨hop, hstate | ⟨hl, -⟩⟩ | hstate | hstate | ⟨-, hstate⟩ :=
    state_run op l
  case inr.inl => exact .inl hop
  case inr.inr.inl.inr => exact .inr ⟨isSuccess_of_isMissing hop, hl⟩
  all_goals simp [hstate] at h

theorem failures_run (hop : op.isSuccess = false) :
    (op.run l).consecutiveFailures = l.consecutiveFailures + if op.isFailure then 1 else 0 := by
  cases op with
  | success utcnow => cases hop
  | failure threshold initialBackoff maxBackoff utcnow monotonic =>
      exact (markFailure_fields threshold initialBackoff maxBackoff utcnow monotonic l).1
  | _ => rfl

/-- A missing mark leaves a device missing or offline. -/
theorem state_run_missing (hop : op.isMissing = true) :
    (op.run l).state = .rediscovering ∨ (op.run l).state = .offline := by
  cases op with
  | missing utcnow =>
      simp only [run, markMissing]
      split <;> simp
  | _ => cases hop

/-- Only a missing mark leaves a device missing. -/
theorem isMissing_of_rediscovering (h : (op.run l).state = .rediscovering) :
    op.isMissing = true := by
  obtain ⟨-, hstate⟩ | ⟨-, hstate | hstate⟩ | ⟨hop, -⟩ | hstate | hstate | ⟨-, hstate⟩ :=
    state_run op l
  case inr.inr.inl => exact hop
  all_goals simp [hstate] at h

end Operation

/-! ## what the fields say -/

/-- What the fields of a lifecycle say of the operations so far. -/
structure Tracked (ops : List LifecycleOp) : Prop where
  failures : (after ops).consecutiveFailures = (sinceSuccess ops).countP isFailure
  online : (after ops).state = .online → (after ops).consecutiveFailures = 0 ∧
    (after ops).offlineSince = none ∧ (after ops).nextRetryMonotonic = .finite 0 ∧
      (after ops).retryInSeconds = .finite 0
  failed : (after ops).state = .offline ∨ (after ops).state = .degraded →
    (after ops).consecutiveFailures ≠ 0
  rediscovering : (after ops).state = .rediscovering →
    (sinceSuccess ops).getLast?.any isMissing = true
  missing : (sinceSuccess ops).getLast?.any isMissing = true →
    (after ops).state = .rediscovering ∨ (after ops).state = .offline
  notOut : (after ops).offlineSince = none →
    ∀ early quiet, ops = early ++ quiet → NoSuccess quiet → ¬ (after early).IsOut
  firstOut : ∀ t, (after ops).offlineSince = some t → FirstOut ops t

theorem tracked_nil : Tracked [] where
  failures := rfl
  online := by simp
  failed := by simp
  rediscovering := by simp
  missing := by simp
  notOut := by
    intro _ early quiet hsplit _
    have hearly : early = [] := (List.append_eq_nil_iff.mp hsplit.symm).1
    simp [hearly, IsOut]
  firstOut := by simp

section Step

variable {ops : List LifecycleOp} {op : LifecycleOp}

/-- The splits of operations and one more. -/
theorem quiet_split {early quiet : List LifecycleOp}
    (hsplit : ops ++ [op] = early ++ quiet) (hquiet : NoSuccess quiet) :
    early = ops ++ [op] ∨ ∃ rest, ops = early ++ rest ∧ NoSuccess rest := by
  cases quiet using List.reverseRecOn with
  | nil => exact .inl (by rw [hsplit, List.append_nil])
  | append_singleton rest last =>
      rw [← List.append_assoc] at hsplit
      exact .inr ⟨rest, (List.append_inj' hsplit rfl).1,
        fun o ho => hquiet o (List.mem_append_left _ ho)⟩

theorem Tracked.notOut_step (h : Tracked ops) (hop : op.isSuccess = false)
    (hsince : (op.run (after ops)).offlineSince = none) {early quiet : List LifecycleOp}
    (hsplit : ops ++ [op] = early ++ quiet) (hquiet : NoSuccess quiet) : ¬ (after early).IsOut := by
  have hold : (after ops).offlineSince = none := by
    cases offlineSince_run (l := after ops) hop with
    | inl hkept => rwa [← hkept]
    | inr hset => exact hset.1
  cases quiet_split hsplit hquiet with
  | inl hall =>
      rw [hall, after_append_singleton]
      exact fun hout => offlineSince_of_isOut hout hsince
  | inr hrest =>
      obtain ⟨rest, hops, hrest⟩ := hrest
      exact h.notOut hold early rest hops hrest

theorem Tracked.firstOut_step (h : Tracked ops) (hop : op.isSuccess = false) {t : Nat}
    (hsince : (op.run (after ops)).offlineSince = some t) : FirstOut (ops ++ [op]) t := by
  cases offlineSince_run (l := after ops) hop with
  | inl hkept =>
      obtain ⟨before, first, late, hops, hquiet, hrest⟩ := h.firstOut t (by rw [← hkept, hsince])
      refine ⟨before, first, late ++ [op], by rw [hops, List.append_assoc]; rfl, ?_, hrest⟩
      intro o ho
      rw [← List.cons_append, List.mem_append, List.mem_singleton] at ho
      cases ho with
      | inl hmem => exact hquiet o hmem
      | inr hlast => rwa [hlast]
  | inr hset =>
      obtain ⟨hnone, hout, htime⟩ := hset
      refine ⟨ops, op, [], rfl, by simpa [NoSuccess] using hop, htime ▸ hsince, ?_, h.notOut hnone⟩
      rwa [after_append_singleton]

theorem Tracked.success (utcnow : Nat) : Tracked (ops ++ [.success utcnow]) where
  failures := by simp [run, markSuccess, isSuccess]
  online := by simp [run, markSuccess]
  failed := by simp [run, markSuccess]
  rediscovering := by simp [run, markSuccess]
  missing := by simp [isSuccess]
  notOut := by
    intro _ early quiet hsplit hquiet
    cases quiet using List.reverseRecOn with
    | nil =>
        rw [List.append_nil] at hsplit
        simp [← hsplit, run, markSuccess, IsOut]
    | append_singleton rest last =>
        rw [← List.append_assoc] at hsplit
        have hlast : LifecycleOp.success utcnow = last :=
          List.singleton_inj.mp (List.append_inj' hsplit rfl).2
        have hloud := hquiet last (by simp)
        rw [← hlast] at hloud
        cases hloud
  firstOut := by simp [run, markSuccess]

/-- Every operation keeps track. -/
theorem Tracked.step (h : Tracked ops) (op : LifecycleOp) : Tracked (ops ++ [op]) := by
  cases hop : op.isSuccess with
  | true =>
      cases op with
      | success utcnow => exact Tracked.success utcnow
      | _ => cases hop
  | false =>
      have hsince : sinceSuccess (ops ++ [op]) = sinceSuccess ops ++ [op] := by simp [hop]
      have hfailures := failures_run (l := after ops) hop
      constructor
      case failures =>
        rw [after_append_singleton, hfailures, hsince, h.failures, List.countP_append,
          List.countP_singleton]
      case online =>
        rw [after_append_singleton]
        intro honline
        cases online_run honline with
        | inl hsuccess =>
            rw [hop] at hsuccess
            cases hsuccess
        | inr hkept =>
            obtain ⟨hstate, hcount, hnone, hretry⟩ := hkept
            obtain ⟨hcount', hnone', hnext, hin⟩ := h.online hstate
            refine ⟨hcount.trans hcount', hnone.trans hnone', ?_⟩
            cases hretry with
            | inl hzero => exact hzero
            | inr hsame => exact ⟨hsame.1.trans hnext, hsame.2.trans hin⟩
      case failed =>
        rw [after_append_singleton, hfailures]
        intro hfailed
        cases failed_run hfailed with
        | inl hfailure => simp [hfailure]
        | inr hkept =>
            have hnonzero := h.failed (.inl hkept.2)
            omega
      case rediscovering =>
        rw [after_append_singleton, hsince, List.getLast?_concat]
        exact isMissing_of_rediscovering
      case missing =>
        rw [after_append_singleton, hsince, List.getLast?_concat]
        exact state_run_missing
      case notOut =>
        rw [after_append_singleton]
        exact fun hnone early quiet => h.notOut_step hop hnone
      case firstOut =>
        rw [after_append_singleton]
        exact fun t => h.firstOut_step hop

/-- The fields keep track of every run. -/
theorem tracked (ops : List LifecycleOp) : Tracked ops := by
  induction ops using List.reverseRecOn with
  | nil => exact tracked_nil
  | append_singleton ops op ih => exact ih.step op

end Step

/-! ## reconnections -/

section Reconnections

variable {before : List LifecycleOp}

/-- The reconnections that a success counts. -/
theorem counted_iff (before : List LifecycleOp) :
    ((after before).state ∈ [LifecycleState.offline, .rediscovering, .degraded] ∨
      (after before).consecutiveFailures ≠ 0) ↔
        (sinceSuccess before).any isFailure = true ∨
          (sinceSuccess before).getLast?.any isMissing = true := by
  have h := tracked before
  have hfailures : (after before).consecutiveFailures ≠ 0 ↔
      (sinceSuccess before).any isFailure = true := by
    rw [h.failures, ← Nat.pos_iff_ne_zero, List.countP_pos_iff, List.any_eq_true]
  rw [← hfailures]
  constructor
  · intro hcounted
    cases hcounted with
    | inr hnonzero => exact .inl hnonzero
    | inl hstate =>
        simp only [List.mem_cons, List.not_mem_nil, or_false] at hstate
        obtain hoffline | hmissing | hdegraded := hstate
        · exact .inl (h.failed (.inl hoffline))
        · exact .inr (h.rediscovering hmissing)
        · exact .inl (h.failed (.inr hdegraded))
  · intro htrouble
    cases htrouble with
    | inl hnonzero => exact .inr hnonzero
    | inr hlast =>
        cases h.missing hlast with
        | inl hmissing => exact .inl (by simp [hmissing])
        | inr hoffline => exact .inl (by simp [hoffline])

/-- A missing mark is seen by the success after it exactly when it rejoins. -/
theorem rejoins_iff (since : List LifecycleOp) :
    Rejoins since ↔ ((since.any isFailure = true ∨ since.getLast?.any isMissing = true) ↔
      since.any (fun op => op.isFailure || op.isMissing) = true) := by
  have hany : since.any (fun op => op.isFailure || op.isMissing) = true ↔
      since.any isFailure = true ∨ since.any isMissing = true := by
    simp only [List.any_eq_true, Bool.or_eq_true]
    grind
  have hlast : since.getLast?.any isMissing = true → since.any isMissing = true := by
    cases hget : since.getLast? with
    | none => simp
    | some last =>
        intro hmissing
        exact List.any_eq_true.mpr ⟨last, List.mem_of_getLast? hget, hmissing⟩
  rw [hany, Rejoins, ← Bool.not_eq_true]
  tauto

/-- A success keeps the law exactly when it rejoins. -/
theorem reconnects_iff (before : List LifecycleOp) (utcnow : Nat) :
    (after (before ++ [.success utcnow])).reconnectCount = (after before).reconnectCount +
        (if (sinceSuccess before).any (fun op => op.isFailure || op.isMissing) then 1 else 0) ↔
      Rejoins (sinceSuccess before) := by
  rw [rejoins_iff, ← counted_iff, after_append_singleton]
  simp only [run, markSuccess]
  split_ifs with hcounted htrouble htrouble
  · exact iff_of_true rfl (iff_of_true hcounted htrouble)
  · exact iff_of_false (by simp) fun h => htrouble (h.mp hcounted)
  · exact iff_of_false (by simp) fun h => hcounted (h.mpr htrouble)
  · exact iff_of_true rfl (iff_of_false hcounted htrouble)

end Reconnections

/-- **The law of a lifecycle** holds in every state of a run exactly when no device that went
missing is seen again before its next success without a failure: its reconnection is not
counted. -/
theorem lifecycle_law_iff (ops : List LifecycleOp) :
    (∀ past, past <+: ops → LifecycleLaw past) ↔
      ∀ before utcnow, before ++ [.success utcnow] <+: ops → Rejoins (sinceSuccess before) := by
  constructor
  · intro hlaw before utcnow hpast
    exact (reconnects_iff before utcnow).mp ((hlaw _ hpast).reconnects before utcnow rfl)
  · intro hrejoins past hpast
    have h := tracked past
    refine ⟨h.online, fun hoffline => ?_, fun before utcnow hsuccess => ?_⟩
    · cases hsince : (after past).offlineSince with
      | none =>
          exact absurd (.inl hoffline) (h.notOut hsince past [] (List.append_nil past).symm
            (fun _ hop => absurd hop List.not_mem_nil))
      | some t => exact ⟨t, rfl, h.firstOut t hsince⟩
    · rw [hsuccess] at hpast ⊢
      exact (reconnects_iff before utcnow).mpr (hrejoins before utcnow hpast)

/-- A device goes missing, is discovered again and polled: its reconnection is not counted. -/
theorem not_lifecycle_law_missing : ¬ ∀ ops, LifecycleLaw ops := by
  intro h
  have hcount := (h [.missing 1, .discovered 2 false, .connecting, .success 3]).reconnects
    [.missing 1, .discovered 2 false, .connecting] 3 rfl
  revert hcount
  decide +kernel

end MorningstarModbus
