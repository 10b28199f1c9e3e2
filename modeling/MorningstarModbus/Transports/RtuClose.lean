import MorningstarModbus.Transports.Shared

/-!
# MorningstarModbus.Transports.RtuClose

Closing an RTU client that coroutines still read through (`transports/modbus.py`): the lock,
the single worker thread of the executor, and `close`.

`_request` looks at `_closed` before it waits for the lock, and `close` takes no lock: a request
that waited there goes on behind the job that closes the port, and opens it again.  A second call of
`close` returns at once and is no step; nobody cancels the coroutines.

* `Step` — what coroutines, the worker and `close` do, in any order;
* `inv_of_reachable` — what every schedule keeps;
* `Inv.exists_done` — whoever asked gets to the end of its request;
* `rtu_close` — what a close that returned leaves behind.
-/

namespace MorningstarModbus

open Relation

variable {ι σ : Type}

/-! ## the machine -/

/-- What the worker thread is given. -/
inductive Job (ι : Type) where
  | exchange (i : ι)
  /-- `_close_blocking` -/
  | closePort
  deriving DecidableEq

/-- Where a `_request` is. -/
inductive RequestPhase where
  | idle
  /-- past the check of `_closed`, at the lock -/
  | waiting
  /-- it holds the lock, and the worker has its exchange -/
  | submitted
  /-- the worker is done with its exchange -/
  | answered (outcome : Except Failure (List UInt8 × List UInt8))
  /-- the executor dropped its exchange -/
  | cancelled
  /-- `none`: `CancelledError` -/
  | done (result : Option (Except Failure (List UInt8)))

def RequestPhase.HoldsLock : RequestPhase → Prop
  | submitted | answered _ | cancelled => True
  | _ => False

/-- How far `close` is. -/
inductive Closing where
  | notCalled
  /-- the worker has the job that closes the port -/
  | closing
  | portClosed
  /-- `shutdown` was called -/
  | shutdown
  | returned
  deriving DecidableEq

/-- The job that closes the port is done. -/
def Closing.portDone : Closing → Bool
  | portClosed | shutdown | returned => true
  | _ => false

/-- The executor takes no more jobs. -/
def Closing.stopped : Closing → Bool
  | shutdown | returned => true
  | _ => false

structure RtuMachine (ι σ : Type) where
  client : AsyncModbusRtuClient σ
  phases : ι → RequestPhase
  waiters : List ι := []
  queue : List (Job ι) := []
  running : Option (Job ι) := none
  closing : Closing := .notCalled
  /-- who waited at the lock when `close` was called -/
  overtaken : List ι := []
  /-- whose exchange was done after the port had been closed -/
  late : List ι := []

namespace RtuMachine

def start (c : AsyncModbusRtuClient σ) : RtuMachine ι σ where
  client := c
  phases _ := .idle

/-- What the worker has to do, what it does first. -/
def jobs (m : RtuMachine ι σ) : List (Job ι) := m.running.toList ++ m.queue

def Free (m : RtuMachine ι σ) : Prop := ∀ i, ¬(m.phases i).HoldsLock

end RtuMachine

/-- `_close_blocking` -/
def AsyncModbusRtuClient.closeBlocking (c : AsyncModbusRtuClient σ) : AsyncModbusRtuClient σ :=
  { c with isOpen := false }

/-- `_observe` after an attempt. -/
def AsyncModbusRtuClient.observed (pdu : List UInt8) (a : Attempt) (c : AsyncModbusRtuClient σ) :
    AsyncModbusRtuClient σ :=
  let frame := appendCrc (c.unitId :: pdu)
  { c with observer := observe c.observer (exchangeOf .serial c.unitId pdu frame a) }

/-- `ThreadPoolExecutor.submit` after `shutdown`. -/
def submitAfterShutdown : Failure := runtimeError "cannot schedule new futures after shutdown"

variable [DecidableEq ι] (line : SerialLine σ) (pdus : ι → List UInt8)

namespace RtuMachine

/-- The worker's exchange for `i`. -/
def exchanged (m : RtuMachine ι σ) (i : ι) :
    Except Failure (List UInt8 × List UInt8) × AsyncModbusRtuClient σ :=
  AsyncModbusRtuClient.exchange line (pdus i) (appendCrc (m.client.unitId :: pdus i)) m.client

inductive Step : RtuMachine ι σ → RtuMachine ι σ → Prop
  | refuse {m : RtuMachine ι σ} {i : ι} : m.phases i = .idle → m.client.closed = true →
      Step m { m with phases := Function.update m.phases i
                        (.done (some (.error (runtimeError "RTU client is closed")))) }
  | ask {m : RtuMachine ι σ} {i : ι} : m.phases i = .idle → m.client.closed = false →
      Step m { m with phases := Function.update m.phases i .waiting
                      waiters := m.waiters ++ [i] }
  /-- the lock, then `run_in_executor` -/
  | acquire {m : RtuMachine ι σ} {i : ι} {rest : List ι} : m.waiters = i :: rest → m.Free →
      m.closing.stopped = false →
      Step m { m with phases := Function.update m.phases i .submitted
                      waiters := rest
                      queue := m.queue ++ [.exchange i] }
  /-- the lock, and an executor that refuses the job -/
  | submitRefused {m : RtuMachine ι σ} {i : ι} {rest : List ι} : m.waiters = i :: rest → m.Free →
      m.closing.stopped = true →
      Step m { m with phases := Function.update m.phases i
                        (.done (some (.error submitAfterShutdown)))
                      waiters := rest
                      client := m.client.observed (pdus i)
                        { result := .error submitAfterShutdown } }
  | begin {m : RtuMachine ι σ} {job : Job ι} {rest : List (Job ι)} : m.queue = job :: rest →
      m.running = none →
      Step m { m with queue := rest, running := some job }
  | exchange {m : RtuMachine ι σ} {i : ι} : m.running = some (.exchange i) →
      Step m { m with phases := Function.update m.phases i
                        (.answered (m.exchanged line pdus i).1)
                      running := none
                      client := (m.exchanged line pdus i).2
                      late := if m.closing.portDone then m.late ++ [i] else m.late }
  | closePort {m : RtuMachine ι σ} : m.running = some .closePort →
      Step m { m with running := none
                      client := m.client.closeBlocking
                      closing := .portClosed }
  /-- the coroutine goes on with the outcome, and gives the lock back -/
  | resume {m : RtuMachine ι σ} {i : ι} {outcome : Except Failure (List UInt8 × List UInt8)} :
      m.phases i = .answered outcome →
      Step m { m with phases := Function.update m.phases i
                        (.done (some (AsyncModbusRtuClient.attempt outcome).result))
                      client := m.client.observed (pdus i) (AsyncModbusRtuClient.attempt outcome) }
  /-- `CancelledError` is no `Exception`: the observer sees no error -/
  | resumeCancelled {m : RtuMachine ι σ} {i : ι} : m.phases i = .cancelled →
      Step m { m with phases := Function.update m.phases i (.done none)
                      client := m.client.observed (pdus i) { result := .ok [] } }
  | close {m : RtuMachine ι σ} : m.client.closed = false →
      Step m { m with client := { m.client with closed := true }
                      queue := m.queue ++ [.closePort]
                      closing := .closing
                      overtaken := m.waiters }
  /-- `shutdown(cancel_futures=True)` drops what the worker did not begin -/
  | shutdown {m : RtuMachine ι σ} : m.closing = .portClosed →
      Step m { m with phases := fun i =>
                        if .exchange i ∈ m.queue then .cancelled else m.phases i
                      queue := []
                      closing := .shutdown }
  /-- `shutdown(wait=True)` is over once the worker is -/
  | finish {m : RtuMachine ι σ} : m.closing = .shutdown → m.running = none →
      Step m { m with closing := .returned }

abbrev Steps : RtuMachine ι σ → RtuMachine ι σ → Prop := ReflTransGen (Step line pdus)

def Reachable (c : AsyncModbusRtuClient σ) : RtuMachine ι σ → Prop := Steps line pdus (.start c)

/-! ## the lock and the worker -/

/-- Who waits, who has a job, and that one request at a time is past the lock. -/
structure Locked (phases : ι → RequestPhase) (waiters : List ι) (jobs : List (Job ι)) : Prop where
  waits : ∀ i, i ∈ waiters ↔ phases i = .waiting
  waitersNodup : waiters.Nodup
  exclusive : ∀ i j, (phases i).HoldsLock → (phases j).HoldsLock → i = j
  exchanges : ∀ i, .exchange i ∈ jobs ↔ phases i = .submitted
  jobsNodup : jobs.Nodup

section Locked

variable {phases : ι → RequestPhase} {waiters rest : List ι} {jobs queue : List (Job ι)} {i : ι}

/-- A request ends that is neither at the lock nor at the worker. -/
theorem Locked.done (h : Locked phases waiters jobs) (hwaits : phases i ≠ .waiting)
    (hsubmitted : phases i ≠ .submitted) (r : Option (Except Failure (List UInt8))) :
    Locked (Function.update phases i (.done r)) waiters jobs := by
  refine ⟨fun j => ?_, h.waitersNodup, fun j k hj hk => ?_, fun j => ?_, h.jobsNodup⟩
  · rw [h.waits j]
    grind [Function.update_apply]
  · refine h.exclusive j k ?_ ?_ <;> grind [Function.update_apply, RequestPhase.HoldsLock]
  · rw [h.exchanges j]
    grind [Function.update_apply]

/-- A request that comes to the lock goes to the end of the queue. -/
theorem Locked.ask (h : Locked phases waiters jobs) (hi : phases i = .idle) :
    Locked (Function.update phases i .waiting) (waiters ++ [i]) jobs := by
  have hnot : i ∉ waiters := fun hmem => by
    rw [h.waits i, hi] at hmem
    cases hmem
  refine ⟨fun j => ?_, ?_, fun j k hj hk => ?_, fun j => ?_, h.jobsNodup⟩
  · have := h.waits j
    grind [Function.update_apply]
  · exact List.nodup_append'.mpr ⟨h.waitersNodup, List.nodup_singleton i, by simp [hnot]⟩
  · refine h.exclusive j k ?_ ?_ <;> grind [Function.update_apply, RequestPhase.HoldsLock]
  · have := h.exchanges j
    grind [Function.update_apply]

/-- The next waiter takes the free lock and hands the worker its exchange. -/
theorem Locked.acquire (h : Locked phases (i :: rest) jobs)
    (hfree : ∀ j, ¬(phases j).HoldsLock) :
    Locked (Function.update phases i .submitted) rest (jobs ++ [.exchange i]) := by
  have hnodup := List.nodup_cons.mp h.waitersNodup
  have hnot : Job.exchange i ∉ jobs := fun hmem => by
    have hsubmitted := (h.exchanges i).mp hmem
    exact hfree i (hsubmitted ▸ trivial)
  refine ⟨fun j => ?_, hnodup.2, fun j k hj hk => ?_, fun j => ?_, ?_⟩
  · have := h.waits j
    grind [Function.update_apply]
  · have hj' := hfree j
    have hk' := hfree k
    grind [Function.update_apply]
  · have := h.exchanges j
    grind [Function.update_apply]
  · exact List.nodup_append'.mpr ⟨h.jobsNodup, List.nodup_singleton _, by simp [hnot]⟩

/-- A waiter that finds the executor shut down ends where it stands. -/
theorem Locked.drop (h : Locked phases (i :: rest) jobs)
    (r : Option (Except Failure (List UInt8))) :
    Locked (Function.update phases i (.done r)) rest jobs := by
  have hnodup := List.nodup_cons.mp h.waitersNodup
  have hi : phases i = .waiting := (h.waits i).mp List.mem_cons_self
  refine ⟨fun j => ?_, hnodup.2, fun j k hj hk => ?_, fun j => ?_, h.jobsNodup⟩
  · have := h.waits j
    grind [Function.update_apply]
  · refine h.exclusive j k ?_ ?_ <;> grind [Function.update_apply, RequestPhase.HoldsLock]
  · have := h.exchanges j
    grind [Function.update_apply]

/-- The worker is done with an exchange: its request still holds the lock. -/
theorem Locked.answered (h : Locked phases waiters (.exchange i :: queue))
    (outcome : Except Failure (List UInt8 × List UInt8)) :
    Locked (Function.update phases i (.answered outcome)) waiters queue := by
  have hnodup := List.nodup_cons.mp h.jobsNodup
  have hi : phases i = .submitted := (h.exchanges i).mp List.mem_cons_self
  refine ⟨fun j => ?_, h.waitersNodup, fun j k hj hk => ?_, fun j => ?_, hnodup.2⟩
  · have := h.waits j
    grind [Function.update_apply]
  · refine h.exclusive j k ?_ ?_ <;> grind [Function.update_apply, RequestPhase.HoldsLock]
  · have := h.exchanges j
    grind [Function.update_apply]

omit [DecidableEq ι] in
/-- Closing the port was nobody's exchange. -/
theorem Locked.closePort (h : Locked phases waiters (.closePort :: queue)) :
    Locked phases waiters queue := by
  refine ⟨h.waits, h.waitersNodup, h.exclusive, fun j => ?_, (List.nodup_cons.mp h.jobsNodup).2⟩
  rw [← h.exchanges j]
  simp

omit [DecidableEq ι] in
/-- Nor is the job that `close` appends. -/
theorem Locked.close (h : Locked phases waiters jobs) (hnot : Job.closePort ∉ jobs) :
    Locked phases waiters (jobs ++ [.closePort]) := by
  refine ⟨h.waits, h.waitersNodup, h.exclusive, fun j => ?_, ?_⟩
  · rw [← h.exchanges j]
    simp
  · exact List.nodup_append'.mpr ⟨h.jobsNodup, List.nodup_singleton _, by simp [hnot]⟩

/-- The executor drops what the worker has not begun; those requests are cancelled. -/
theorem Locked.shutdown (h : Locked phases waiters (jobs ++ queue)) :
    Locked (fun i => if .exchange i ∈ queue then .cancelled else phases i) waiters jobs := by
  have hnodup := List.nodup_append'.mp h.jobsNodup
  refine ⟨fun j => ?_, h.waitersNodup, fun j k hj hk => ?_, fun j => ?_, hnodup.1⟩
  · have hwaits := h.waits j
    have hsubmitted := h.exchanges j
    grind
  · have hj' := h.exchanges j
    have hk' := h.exchanges k
    refine h.exclusive j k ?_ ?_ <;> grind [RequestPhase.HoldsLock]
  · have hsubmitted := h.exchanges j
    have hdisjoint : Job.exchange j ∈ jobs → Job.exchange j ∉ queue := fun hj => hnodup.2.2 hj
    grind

end Locked

/-! ## closing -/

structure Inv (m : RtuMachine ι σ) : Prop where
  locked : Locked m.phases m.waiters m.jobs
  closed : m.client.closed = true ↔ m.closing ≠ .notCalled
  closePort : .closePort ∈ m.jobs ↔ m.closing = .closing
  dropped : m.closing.stopped = true → m.queue = []
  idle : m.closing = .returned → m.running = none
  overtaken : m.closing ≠ .notCalled → ∀ i ∈ m.waiters, i ∈ m.overtaken
  /-- only who was overtaken has an exchange behind the job that closes the port -/
  behind : ∀ before after, m.jobs = before ++ .closePort :: after →
    ∀ i, .exchange i ∈ after → i ∈ m.overtaken
  pending : m.closing.portDone = true → ∀ i, .exchange i ∈ m.jobs → i ∈ m.overtaken
  noneLate : m.closing.portDone = false → m.late = []
  late : ∀ i ∈ m.late, i ∈ m.overtaken
  /-- nothing but a late exchange opens the port again -/
  port : m.closing.portDone = true → m.client.isOpen = true → m.late ≠ []

section Inv

variable {line : SerialLine σ} {pdus : ι → List UInt8} {m m' : RtuMachine ι σ}
  {c : AsyncModbusRtuClient σ} {i : ι} {rest : List ι}

omit [DecidableEq ι] in
theorem jobs_of_running {job : Job ι} (h : m.running = some job) : m.jobs = job :: m.queue := by
  rw [jobs, h]
  rfl

omit [DecidableEq ι] in
/-- The worker's jobs, with more behind them. -/
theorem jobs_append (m : RtuMachine ι σ) (more : List (Job ι)) :
    m.running.toList ++ (m.queue ++ more) = m.jobs ++ more :=
  (List.append_assoc _ _ _).symm

omit [DecidableEq ι] in
/-- At first nobody is there. -/
theorem Inv.start (h : c.closed = false) : Inv (start c : RtuMachine ι σ) where
  locked := by
    refine ⟨fun j => ?_, List.nodup_nil, fun j k hj => hj.elim, fun j => ?_, List.nodup_nil⟩
    · simp [RtuMachine.start]
    · simp [RtuMachine.start, jobs]
  closed := by simp [RtuMachine.start, h]
  closePort := by simp [RtuMachine.start, jobs]
  dropped _ := rfl
  idle _ := rfl
  overtaken hcalled := absurd rfl hcalled
  behind before after hjobs := by simp [RtuMachine.start, jobs] at hjobs
  pending hdone := nomatch hdone
  noneLate _ := rfl
  late := by simp [RtuMachine.start]
  port hdone := nomatch hdone

omit [DecidableEq ι] in
/-- A job that is put behind the others. -/
theorem behind_append {jobs : List (Job ι)} {overtaken : List ι}
    (h : ∀ before after, jobs = before ++ .closePort :: after →
      ∀ i, .exchange i ∈ after → i ∈ overtaken)
    (hi : .closePort ∈ jobs → i ∈ overtaken) (before after : List (Job ι))
    (hjobs : jobs ++ [.exchange i] = before ++ .closePort :: after) :
    ∀ j, .exchange j ∈ after → j ∈ overtaken := by
  obtain rfl | ⟨after', last, rfl⟩ := List.eq_nil_or_concat after
  · simp
  · rw [List.concat_eq_append, ← List.cons_append, ← List.append_assoc] at hjobs
    obtain ⟨hfront, hlast⟩ := List.append_inj' hjobs rfl
    obtain rfl := List.singleton_inj.mp hlast
    intro j hj
    rw [List.concat_eq_append, List.mem_append, List.mem_singleton, Job.exchange.injEq] at hj
    obtain hj | rfl := hj
    · exact h before after' hfront j hj
    · exact hi (hfront ▸ by simp)

/-- A request that takes the lock after the close was called was at the lock before. -/
theorem Inv.acquire (h : Inv m) (hwaiters : m.waiters = i :: rest) (hfree : m.Free)
    (hstopped : m.closing.stopped = false) :
    Inv { m with phases := Function.update m.phases i .submitted
                 waiters := rest
                 queue := m.queue ++ [.exchange i] } where
  locked := by
    have hlocked := h.locked
    rw [hwaiters] at hlocked
    dsimp only [jobs]
    rw [jobs_append]
    exact hlocked.acquire hfree
  closed := h.closed
  closePort := by
    dsimp only [jobs]
    rw [jobs_append, ← h.closePort]
    simp
  dropped hstop := by
    rw [hstopped] at hstop
    cases hstop
  idle := h.idle
  overtaken hcalled j hj := h.overtaken hcalled j (hwaiters ▸ List.mem_cons_of_mem i hj)
  behind before after hjobs := by
    have hsplit := (jobs_append m _).symm.trans hjobs
    refine behind_append h.behind (fun hport => ?_) before after hsplit
    exact h.overtaken (by rw [h.closePort.mp hport]; decide) i (hwaiters ▸ List.mem_cons_self)
  pending hdone j hj := by
    dsimp only [jobs] at hj
    rw [jobs_append, List.mem_append, List.mem_singleton, Job.exchange.injEq] at hj
    obtain hj | rfl := hj
    · exact h.pending hdone j hj
    · exact h.overtaken (fun hcall => by rw [hcall] at hdone; cases hdone) j
        (hwaiters ▸ List.mem_cons_self)
  noneLate := h.noneLate
  late := h.late
  port := h.port

/-- An exchange may open the port; behind the job that closes it, the request is a late one. -/
theorem Inv.exchange (h : Inv m) (hrunning : m.running = some (.exchange i)) :
    Inv { m with phases := Function.update m.phases i (.answered (m.exchanged line pdus i).1)
                 running := none
                 client := (m.exchanged line pdus i).2
                 late := if m.closing.portDone then m.late ++ [i] else m.late } := by
  have hjobs := jobs_of_running hrunning
  have hmem : Job.exchange i ∈ m.jobs := hjobs ▸ List.mem_cons_self
  refine ⟨?_, ?_, ?_, h.dropped, fun _ => rfl, h.overtaken, fun before after heq => ?_,
    fun hdone j hj => ?_, fun hdone => ?_, fun j hj => ?_, fun hdone _ => ?_⟩
  · have hlocked := h.locked
    rw [hjobs] at hlocked
    exact hlocked.answered _
  · rw [← h.closed]
    exact iff_of_eq (congrArg (· = true) (AsyncModbusRtuClient.exchange_fixed line _ _ _).2.1)
  · rw [← h.closePort, hjobs]
    simp [jobs]
  · exact h.behind (.exchange i :: before) after (hjobs.trans (congrArg _ heq))
  · exact h.pending hdone j (hjobs ▸ List.mem_cons_of_mem _ hj)
  · dsimp only at hdone ⊢
    rw [if_neg (by simp [hdone])]
    exact h.noneLate hdone
  · dsimp only at hj
    split at hj
    · next hdone =>
      rw [List.mem_append, List.mem_singleton] at hj
      obtain hj | rfl := hj
      · exact h.late j hj
      · exact h.pending hdone j hmem
    · exact h.late j hj
  · dsimp only at hdone ⊢
    rw [if_pos hdone]
    simp

omit [DecidableEq ι] in
/-- Once the worker has closed the port, only what comes behind it can open it again. -/
theorem Inv.closePort_done (h : Inv m) (hrunning : m.running = some .closePort) :
    Inv { m with running := none
                 client := m.client.closeBlocking
                 closing := .portClosed } := by
  have hjobs := jobs_of_running hrunning
  have hclosing : m.closing = .closing := h.closePort.mp (hjobs ▸ List.mem_cons_self)
  have hcalled : m.closing ≠ .notCalled := by
    rw [hclosing]
    decide
  have hnot : Job.closePort ∉ m.queue := by
    have hnodup := h.locked.jobsNodup
    rw [hjobs] at hnodup
    exact (List.nodup_cons.mp hnodup).1
  refine ⟨?_, ?_, ?_, (fun hstop => nomatch hstop), fun _ => rfl, fun _ => h.overtaken hcalled,
    fun before after heq => ?_, fun _ j hj => ?_, (fun hdone => nomatch hdone), h.late,
    (fun _ hopen => nomatch hopen)⟩
  · have hlocked := h.locked
    rw [hjobs] at hlocked
    exact hlocked.closePort
  · exact iff_of_true (h.closed.mpr hcalled) (fun hcall => nomatch hcall)
  · exact iff_of_false hnot (fun hclosing => nomatch hclosing)
  · have hqueue : m.queue = before ++ .closePort :: after := heq
    exact absurd (hqueue ▸ by simp) hnot
  · exact h.behind [] m.queue hjobs j hj

omit [DecidableEq ι] in
/-- `close` marks the client first, so nobody asks any more. -/
theorem Inv.close (h : Inv m) (hclosed : m.client.closed = false) :
    Inv { m with client := { m.client with closed := true }
                 queue := m.queue ++ [.closePort]
                 closing := .closing
                 overtaken := m.waiters } := by
  have hcall : m.closing = .notCalled := by
    by_contra hcalled
    rw [h.closed.mpr hcalled] at hclosed
    cases hclosed
  have hnot : Job.closePort ∉ m.jobs := fun hmem => by
    rw [h.closePort, hcall] at hmem
    cases hmem
  have hlate : m.late = [] := h.noneLate (by rw [hcall]; rfl)
  refine ⟨?_, iff_of_true rfl (fun hclosing => nomatch hclosing), ?_, (fun hstop => nomatch hstop),
    (fun hreturned => nomatch hreturned), fun _ j hj => hj, fun before after heq j hj => ?_,
    (fun hdone => nomatch hdone), fun _ => hlate, fun j hj => ?_, (fun hdone => nomatch hdone)⟩
  · dsimp only [jobs]
    rw [jobs_append]
    exact h.locked.close hnot
  · exact iff_of_true (by simp [jobs]) rfl
  · -- nothing is behind the last job
    have hsplit : m.jobs ++ [.closePort] = before ++ .closePort :: after :=
      (jobs_append m _).symm.trans heq
    obtain rfl | ⟨after', last, rfl⟩ := List.eq_nil_or_concat after
    · simp at hj
    · rw [List.concat_eq_append, ← List.cons_append, ← List.append_assoc] at hsplit
      exact absurd ((List.append_inj' hsplit rfl).1 ▸ by simp) hnot
  · rw [hlate] at hj
    cases hj

/-- The executor is shut down only after the port has been closed. -/
theorem Inv.shutdown (h : Inv m) (hclosing : m.closing = .portClosed) :
    Inv { m with phases := fun i => if .exchange i ∈ m.queue then .cancelled else m.phases i
                 queue := []
                 closing := .shutdown } := by
  have hcalled : m.closing ≠ .notCalled := by
    rw [hclosing]
    decide
  have hdone : m.closing.portDone = true := by
    rw [hclosing]
    rfl
  have hjobs : m.running.toList ++ [] = m.running.toList := List.append_nil _
  have hmem : ∀ job ∈ m.running.toList, job ∈ m.jobs := fun job hjob =>
    List.mem_append_left _ hjob
  have hnot : Job.closePort ∉ m.jobs := fun hport => by
    rw [h.closePort, hclosing] at hport
    cases hport
  refine ⟨?_, iff_of_true (h.closed.mpr hcalled) (fun hcall => nomatch hcall), ?_, fun _ => rfl,
    (fun hreturned => nomatch hreturned), fun _ => h.overtaken hcalled,
    fun before after heq j hj => ?_, fun _ j hj => ?_, (fun hdone => nomatch hdone), h.late,
    fun _ => h.port hdone⟩
  · dsimp only [jobs]
    rw [hjobs]
    exact h.locked.shutdown
  · dsimp only [jobs]
    rw [hjobs]
    exact iff_of_false (fun hport => hnot (hmem _ hport)) (fun hclose => nomatch hclose)
  · dsimp only [jobs] at heq
    rw [hjobs] at heq
    exact absurd (hmem _ (heq ▸ by simp)) hnot
  · dsimp only [jobs] at hj
    rw [hjobs] at hj
    exact h.pending hdone j (hmem _ hj)

/-- **Step lemma.**  Each of the twelve steps keeps the invariant. -/
theorem Inv.step (h : Inv m) (hstep : Step line pdus m m') : Inv m' := by
  cases hstep with
  | refuse hi _ =>
      have hlocked := h.locked.done (by rw [hi]; nofun) (by rw [hi]; nofun)
      exact { h with locked := hlocked _ }
  | ask hi hclosed =>
      have hcall : m.closing = .notCalled := by
        by_contra hcalled
        rw [h.closed.mpr hcalled] at hclosed
        cases hclosed
      exact { h with locked := h.locked.ask hi
                     overtaken := fun hcalled => absurd hcall hcalled }
  | acquire hwaiters hfree hstopped => exact h.acquire hwaiters hfree hstopped
  | @submitRefused i rest hwaiters _ _ =>
      have hlocked := h.locked
      rw [hwaiters] at hlocked
      exact { h with locked := hlocked.drop _
                     overtaken := fun hcalled j hj =>
                       h.overtaken hcalled j (hwaiters ▸ List.mem_cons_of_mem i hj) }
  | @begin job rest hqueue hrunning =>
      have hjobs : ({ m with queue := rest, running := some job } : RtuMachine ι σ).jobs =
          m.jobs := by
        rw [jobs_of_running rfl, jobs, hrunning, hqueue]
        rfl
      have hstopped : m.closing.stopped ≠ true := fun hstop => by
        rw [h.dropped hstop] at hqueue
        cases hqueue
      refine ⟨?_, h.closed, ?_, fun hstop => absurd hstop hstopped, fun hreturned => ?_,
        h.overtaken, fun before after heq => h.behind before after (hjobs.symm.trans heq),
        fun hdone j hj => h.pending hdone j (hjobs ▸ hj), h.noneLate, h.late, h.port⟩
      · rw [hjobs]
        exact h.locked
      · rw [hjobs]
        exact h.closePort
      · have hreturned' : m.closing = .returned := hreturned
        exact absurd (by rw [hreturned']; rfl) hstopped
  | exchange hrunning => exact h.exchange hrunning
  | closePort hrunning => exact h.closePort_done hrunning
  | resume hi =>
      have hlocked := h.locked.done (by rw [hi]; nofun) (by rw [hi]; nofun)
      exact { h with locked := hlocked _ }
  | resumeCancelled hi =>
      have hlocked := h.locked.done (by rw [hi]; nofun) (by rw [hi]; nofun)
      exact { h with locked := hlocked _ }
  | close hclosed => exact h.close hclosed
  | shutdown hclosing => exact h.shutdown hclosing
  | finish hclosing hrunning =>
      have hcalled : m.closing ≠ .notCalled := by
        rw [hclosing]
        decide
      have hdone : m.closing.portDone = true := by
        rw [hclosing]
        rfl
      have hnot : Job.closePort ∉ m.jobs := fun hport => by
        rw [h.closePort, hclosing] at hport
        cases hport
      exact ⟨h.locked, iff_of_true (h.closed.mpr hcalled) (fun hcall => nomatch hcall),
        iff_of_false hnot (fun hclose => nomatch hclose),
        fun _ => h.dropped (by rw [hclosing]; rfl), fun _ => hrunning,
        fun _ => h.overtaken hcalled, h.behind, fun _ => h.pending hdone,
        (fun hnone => nomatch hnone), h.late, fun _ => h.port hdone⟩

/-- What every schedule keeps. -/
theorem inv_of_reachable (hc : c.closed = false) (h : Reachable line pdus c m) : Inv m := by
  induction h with
  | refl => exact .start hc
  | tail _ hstep ih => exact ih.step hstep

/-! ## runs -/

omit [DecidableEq ι] in
/-- When `close` has returned, the worker has nothing left. -/
theorem Inv.jobs_of_returned (h : Inv m) (hreturned : m.closing = .returned) : m.jobs = [] := by
  rw [jobs, h.idle hreturned, h.dropped (by rw [hreturned]; rfl)]
  rfl

/-- What becomes of a request after `close` has returned. -/
inductive Ends : RequestPhase → RequestPhase → Prop
  | stays (phase : RequestPhase) : Ends phase phase
  | refused : Ends .idle (.done (some (.error (runtimeError "RTU client is closed"))))
  | submitRefused : Ends .waiting (.done (some (.error submitAfterShutdown)))
  | resumed (outcome : Except Failure (List UInt8 × List UInt8)) :
      Ends (.answered outcome) (.done (some (AsyncModbusRtuClient.attempt outcome).result))
  | cancelled : Ends .cancelled (.done none)

/-- Phases only go forward. -/
theorem Ends.trans {p q r : RequestPhase} (h : Ends p q) (h' : Ends q r) : Ends p r := by
  cases h with
  | stays => exact h'
  | refused => cases h'; exact .refused
  | submitRefused => cases h'; exact .submitRefused
  | resumed outcome => cases h'; exact .resumed outcome
  | cancelled => cases h'; exact .cancelled

/-- A request that moves on is the only one that changes. -/
theorem ends_update {phases : ι → RequestPhase} {phase : RequestPhase} (h : Ends (phases i) phase)
    (j : ι) : Ends (phases j) (Function.update phases i phase j) := by
  by_cases hj : j = i
  · subst hj
    rw [Function.update_self]
    exact h
  · rw [Function.update_of_ne hj]
    exact .stays _

/-- After `close` has returned nobody gets to the line. -/
structure LineQuiet (m m' : RtuMachine ι σ) : Prop where
  closing : m'.closing = .returned
  isOpen : m'.client.isOpen = m.client.isOpen
  device : m'.client.device = m.client.device
  ends : ∀ i, Ends (m.phases i) (m'.phases i)

/-- After `close` has returned, a step can only end requests. -/
theorem Inv.quiet_step (h : Inv m) (hreturned : m.closing = .returned)
    (hstep : Step line pdus m m') : LineQuiet m m' := by
  have hjobs := h.jobs_of_returned hreturned
  have hidle := h.idle hreturned
  cases hstep with
  | refuse hi _ => exact ⟨hreturned, rfl, rfl, ends_update (hi ▸ .refused)⟩
  | ask _ hopen =>
      rw [h.closed.mpr (by rw [hreturned]; decide)] at hopen
      cases hopen
  | acquire _ _ hstopped =>
      rw [hreturned] at hstopped
      cases hstopped
  | @submitRefused i rest hwaiters _ _ =>
      have hi : m.phases i = .waiting := (h.locked.waits i).mp (hwaiters ▸ List.mem_cons_self)
      exact ⟨hreturned, rfl, rfl, ends_update (hi ▸ .submitRefused)⟩
  | begin hqueue _ =>
      rw [h.dropped (by rw [hreturned]; rfl)] at hqueue
      cases hqueue
  | exchange hrunning =>
      rw [hidle] at hrunning
      cases hrunning
  | closePort hrunning =>
      rw [hidle] at hrunning
      cases hrunning
  | resume hi => exact ⟨hreturned, rfl, rfl, ends_update (hi ▸ .resumed _)⟩
  | resumeCancelled hi => exact ⟨hreturned, rfl, rfl, ends_update (hi ▸ .cancelled)⟩
  | close hopen =>
      rw [h.closed.mpr (by rw [hreturned]; decide)] at hopen
      cases hopen
  | shutdown hclosing =>
      rw [hreturned] at hclosing
      cases hclosing
  | finish hclosing _ =>
      rw [hreturned] at hclosing
      cases hclosing

/-- **Run lemma.**  And so can any number of steps. -/
theorem Inv.quiet (h : Inv m) (hreturned : m.closing = .returned)
    (hrun : Steps line pdus m m') : LineQuiet m m' ∧ Inv m' := by
  induction hrun with
  | refl => exact ⟨⟨hreturned, rfl, rfl, fun i => .stays _⟩, h⟩
  | tail _ hstep ih =>
      obtain ⟨hquiet, hinv⟩ := ih
      have hnext := hinv.quiet_step hquiet.closing hstep
      exact ⟨⟨hnext.closing, hnext.isOpen.trans hquiet.isOpen, hnext.device.trans hquiet.device,
        fun i => (hquiet.ends i).trans (hnext.ends i)⟩, hinv.step hstep⟩

variable (line pdus)

/-- The worker is done with what it has begun, and did not close the port. -/
theorem exists_idle (hnot : m.running ≠ some .closePort) :
    ∃ m', Steps line pdus m m' ∧ m'.running = none ∧ m'.queue = m.queue ∧
      m'.closing = m.closing := by
  cases hrunning : m.running with
  | none => exact ⟨m, .refl, hrunning, rfl, rfl⟩
  | some job =>
      cases job with
      | exchange i => exact ⟨_, .single (.exchange hrunning), rfl, rfl, rfl⟩
      | closePort => exact absurd hrunning hnot

/-- **Run lemma.**  The invariant holds in every schedule. -/
theorem Inv.steps (h : Inv m) (hrun : Steps line pdus m m') : Inv m' := by
  induction hrun with
  | refl => exact h
  | tail _ hstep ih => exact ih.step hstep

/-- The worker gets to the job that closes the port. -/
theorem Inv.exists_portClosed (h : Inv m) (hclosing : m.closing = .closing) :
    ∃ m', Steps line pdus m m' ∧ m'.closing = .portClosed := by
  induction hsize : m.queue.length generalizing m with
  | zero =>
      have hport := h.closePort.mpr hclosing
      rw [jobs, List.length_eq_zero_iff.mp hsize, List.append_nil, Option.mem_toList] at hport
      exact ⟨_, .single (.closePort hport), rfl⟩
  | succ n ih =>
      by_cases hport : m.running = some .closePort
      · exact ⟨_, .single (.closePort hport), rfl⟩
      · obtain ⟨m₁, hrun, hidle, hqueue, hclosing₁⟩ := exists_idle line pdus hport
        obtain ⟨job, rest, heq⟩ := List.exists_cons_of_length_eq_add_one (hqueue ▸ hsize)
        have hbegin : Step line pdus m₁ { m₁ with queue := rest, running := some job } :=
          .begin heq hidle
        have hrest : rest.length = n := by
          rw [← hqueue, heq, List.length_cons] at hsize
          omega
        obtain ⟨m', hrun', hdone⟩ :=
          ih ((h.steps line pdus hrun).step hbegin) (hclosing₁.trans hclosing) hrest
        exact ⟨m', (hrun.tail hbegin).trans hrun', hdone⟩

/-- **A close can return**, whatever was going on when it was called. -/
theorem Inv.exists_returned (h : Inv m) (hcalled : m.closing ≠ .notCalled) :
    ∃ m', Steps line pdus m m' ∧ m'.closing = .returned := by
  have hfinish : ∀ m : RtuMachine ι σ, Inv m → m.closing = .shutdown →
      ∃ m', Steps line pdus m m' ∧ m'.closing = .returned := by
    intro m h hclosing
    have hnot : m.running ≠ some .closePort := fun hrunning => by
      have hport := h.closePort.mp (jobs_of_running hrunning ▸ List.mem_cons_self)
      rw [hclosing] at hport
      cases hport
    obtain ⟨m₁, hrun, hidle, -, hclosing₁⟩ := exists_idle line pdus hnot
    exact ⟨_, hrun.tail (.finish (hclosing₁.trans hclosing) hidle), rfl⟩
  have hshutdown : ∀ m : RtuMachine ι σ, Inv m → m.closing = .portClosed →
      ∃ m', Steps line pdus m m' ∧ m'.closing = .returned := by
    intro m h hclosing
    have hstep : Step line pdus m _ := .shutdown hclosing
    obtain ⟨m', hrun, hreturned⟩ := hfinish _ (h.step hstep) rfl
    exact ⟨m', .head hstep hrun, hreturned⟩
  cases hclosing : m.closing with
  | notCalled => exact absurd hclosing hcalled
  | closing =>
      obtain ⟨m₁, hrun, hdone⟩ := h.exists_portClosed line pdus hclosing
      obtain ⟨m', hrun', hreturned⟩ := hshutdown m₁ (h.steps line pdus hrun) hdone
      exact ⟨m', hrun.trans hrun', hreturned⟩
  | portClosed => exact hshutdown m h hclosing
  | shutdown => exact hfinish m h hclosing
  | returned => exact ⟨m, .refl, hclosing⟩

end Inv

/-! ## a port that is opened again -/

/-- The line can be opened, and what it answers to the PDU is no `OSError`. -/
def Opens (line : SerialLine σ) (unitId : UInt8) (pdu : List UInt8) : Prop :=
  ∀ s, (line.openPort s).1 = .ok () ∧
    ∀ e, (line.write s (appendCrc (unitId :: pdu))).1.bind (exchangeBlocking unitId pdu) =
      .error e → e.isOSError = false

/-- On a line that can be opened and answers, an exchange leaves the port open. -/
theorem isOpen_exchange {line : SerialLine σ} {c : AsyncModbusRtuClient σ} {pdu : List UInt8}
    (h : Opens line c.unitId pdu) :
    (AsyncModbusRtuClient.exchange line pdu (appendCrc (c.unitId :: pdu)) c).2.isOpen = true := by
  obtain ⟨c', hopen, hunit, hisOpen⟩ : ∃ c', AsyncModbusRtuClient.ensureOpen line c = (.ok (), c') ∧
      c'.unitId = c.unitId ∧ c'.isOpen = true := by
    unfold AsyncModbusRtuClient.ensureOpen
    split
    · next hisOpen => exact ⟨c, rfl, rfl, hisOpen⟩
    · have hok := (h c.device).1
      refine ⟨_, Prod.ext hok rfl, rfl, ?_⟩
      dsimp only
      rw [hok]
      rfl
  have hanswer := (h c'.device).2
  rw [← hunit] at hanswer ⊢
  unfold AsyncModbusRtuClient.exchange
  rw [hopen]
  dsimp only
  cases hresult : (line.write c'.device (appendCrc (c'.unitId :: pdu))).1.bind
      (exchangeBlocking c'.unitId pdu) with
  | error e =>
      dsimp only
      rw [hisOpen, hanswer e hresult]
      rfl
  | ok response => exact hisOpen

/-- Nobody holds the lock after its only holder left it. -/
theorem not_holds_update {phases : ι → RequestPhase} {phase : RequestPhase} {i : ι}
    (hphase : ¬phase.HoldsLock) (h : ∀ k ≠ i, ¬(phases k).HoldsLock) (k : ι) :
    ¬(Function.update phases i phase k).HoldsLock := by
  by_cases hk : k = i
  · subst hk
    rwa [Function.update_self]
  · rw [Function.update_of_ne hk]
    exact h k hk

/-- Behind the job that closes the port, an exchange opens it again. -/
theorem exists_late {c c' : AsyncModbusRtuClient σ} {phases : ι → RequestPhase} {j : ι}
    {overtaken : List ι} (hline : Opens line c.unitId (pdus j))
    (h : Reachable line pdus c'
      ⟨c, phases, [], [.closePort, .exchange j], none, .closing, overtaken, []⟩) :
    ∃ m, Reachable line pdus c' m ∧ m.closing = .returned ∧ m.client.isOpen = true := by
  have h₁ : Reachable line pdus c'
      ⟨c, phases, [], [.exchange j], some .closePort, .closing, overtaken, []⟩ :=
    h.tail (.begin rfl rfl)
  have h₂ : Reachable line pdus c'
      ⟨c.closeBlocking, phases, [], [.exchange j], none, .portClosed, overtaken, []⟩ :=
    h₁.tail (.closePort rfl)
  have h₃ : Reachable line pdus c'
      ⟨c.closeBlocking, phases, [], [], some (.exchange j), .portClosed, overtaken, []⟩ :=
    h₂.tail (.begin rfl rfl)
  have hopen := isOpen_exchange (c := c.closeBlocking) hline
  exact ⟨_, ((h₃.tail (.exchange rfl)).tail (.shutdown rfl)).tail (.finish rfl rfl), rfl, hopen⟩

/-- **The slip**: a close that returned, and a port that is open: `j` waits behind `i` when `close`
is called, and its exchange comes after the job that closes the port. -/
theorem exists_reopened {c : AsyncModbusRtuClient σ} {i j : ι} (hne : i ≠ j)
    (hc : c.closed = false) (hline : Opens line c.unitId (pdus j)) :
    ∃ m, Reachable line pdus c m ∧ m.closing = .returned ∧ m.client.isOpen = true := by
  obtain ⟨out, hout⟩ : ∃ out, out =
    AsyncModbusRtuClient.exchange line (pdus i) (appendCrc (c.unitId :: pdus i)) c := ⟨_, rfl⟩
  obtain ⟨hunit, hclosed, -⟩ := hout ▸ AsyncModbusRtuClient.exchange_fixed line (pdus i) _ c
  obtain ⟨p₁, hp₁⟩ : ∃ p, p = Function.update (fun _ => RequestPhase.idle) i .waiting := ⟨_, rfl⟩
  obtain ⟨p₂, hp₂⟩ : ∃ p, p = Function.update p₁ i .submitted := ⟨_, rfl⟩
  obtain ⟨p₃, hp₃⟩ : ∃ p, p = Function.update p₂ j .waiting := ⟨_, rfl⟩
  obtain ⟨p₄, hp₄⟩ : ∃ p, p = Function.update p₃ i (.answered out.1) := ⟨_, rfl⟩
  obtain ⟨p₅, hp₅⟩ : ∃ p, p = Function.update p₄ i
    (.done (some (AsyncModbusRtuClient.attempt out.1).result)) := ⟨_, rfl⟩
  have hidle : ∀ k ≠ i, p₂ k = .idle := fun k hk => by
    rw [hp₂, Function.update_of_ne hk, hp₁, Function.update_of_ne hk]
  have h₁ : Reachable line pdus c ⟨c, p₁, [i], [], none, .notCalled, [], []⟩ :=
    hp₁ ▸ .single (.ask rfl hc)
  have h₂ : Reachable line pdus c ⟨c, p₂, [], [.exchange i], none, .notCalled, [], []⟩ :=
    hp₂ ▸ h₁.tail (.acquire rfl (hp₁ ▸ not_holds_update id fun _ _ => id) rfl)
  have h₃ : Reachable line pdus c ⟨c, p₃, [j], [.exchange i], none, .notCalled, [], []⟩ :=
    hp₃ ▸ h₂.tail (.ask (hidle j hne.symm) hc)
  have h₄ : Reachable line pdus c ⟨c, p₃, [j], [], some (.exchange i), .notCalled, [], []⟩ :=
    h₃.tail (.begin rfl rfl)
  have h₅ : Reachable line pdus c ⟨out.2, p₄, [j], [], none, .notCalled, [], []⟩ :=
    hp₄ ▸ hout ▸ h₄.tail (.exchange rfl)
  have h₆ : Reachable line pdus c
      ⟨{ out.2 with closed := true }, p₄, [j], [.closePort], none, .closing, [j], []⟩ :=
    h₅.tail (.close (hclosed.trans hc))
  have h₇ : Reachable line pdus c
      ⟨AsyncModbusRtuClient.observed (pdus i) (AsyncModbusRtuClient.attempt out.1)
        { out.2 with closed := true }, p₅, [j], [.closePort], none, .closing, [j], []⟩ :=
    hp₅ ▸ h₆.tail (.resume (by rw [hp₄]; exact Function.update_self _ _ _))
  have hfree : ∀ k, ¬(p₅ k).HoldsLock := by
    rw [hp₅]
    refine not_holds_update id fun k hk => ?_
    rw [hp₄, Function.update_of_ne hk, hp₃]
    by_cases hkj : k = j
    · rw [hkj, Function.update_self]
      exact id
    · rw [Function.update_of_ne hkj, hidle k hk]
      exact id
  refine exists_late line pdus ?_ (h₇.tail (.acquire rfl hfree rfl))
  exact hunit.symm ▸ hline

/-! ## requests that come to their end -/

/-- A step of those who asked, of the worker, or of a `close` that was called: nobody new asks for
the lock, and nobody calls `close`. -/
def Onward (m m' : RtuMachine ι σ) : Prop :=
  Step line pdus m m' ∧ m'.waiters <:+ m.waiters ∧ m'.client.closed = m.client.closed

section Onward

variable {line pdus} {m m' : RtuMachine ι σ} {i : ι} {rest : List ι}

/-- Steps onward are steps. -/
theorem Inv.onward (h : Inv m) (hrun : ReflTransGen (Onward line pdus) m m') : Inv m' := by
  induction hrun with
  | refl => exact h
  | tail _ hstep ih => exact ih.step hstep.1

/-- The worker begins its first job, if it has not. -/
theorem exists_begun (hjobs : m.jobs ≠ []) : ∃ m' job, ReflTransGen (Onward line pdus) m m' ∧
    m'.running = some job ∧ m'.jobs = m.jobs ∧ m'.waiters = m.waiters ∧ m'.phases = m.phases := by
  cases hrunning : m.running with
  | some job => exact ⟨m, job, .refl, hrunning, rfl, rfl, rfl⟩
  | none =>
      rw [jobs, hrunning] at hjobs
      obtain ⟨job, rest, hqueue⟩ := List.exists_cons_of_ne_nil hjobs
      refine ⟨_, job, .single ⟨.begin hqueue hrunning, List.suffix_refl _, rfl⟩, rfl, ?_, rfl, rfl⟩
      rw [jobs, jobs, hrunning, hqueue]
      rfl

/-- The worker gets to the exchange of who holds the lock. -/
theorem Inv.exists_answered (h : Inv m) (hi : m.phases i = .submitted) :
    ∃ m' outcome, ReflTransGen (Onward line pdus) m m' ∧ m'.waiters = m.waiters ∧
      m'.phases i = .answered outcome := by
  induction hsize : m.jobs.length using Nat.strong_induction_on generalizing m with
  | _ n ih =>
      have hne : m.jobs ≠ [] := List.ne_nil_of_mem ((h.locked.exchanges i).mpr hi)
      obtain ⟨m₁, job, hrun, hrunning, hjobs, hwaiters, hphases⟩ :=
        @exists_begun ι σ _ line pdus m hne
      have h₁ := h.onward hrun
      have hi₁ : m₁.phases i = .submitted := by rw [hphases, hi]
      have hcons := jobs_of_running hrunning
      cases job with
      | exchange j =>
          have hj : m₁.phases j = .submitted :=
            (h₁.locked.exchanges j).mp (hcons ▸ List.mem_cons_self)
          obtain rfl : j = i := h₁.locked.exclusive j i (hj ▸ trivial) (hi₁ ▸ trivial)
          have hclosed : (m₁.exchanged line pdus j).2.closed = m₁.client.closed :=
            (AsyncModbusRtuClient.exchange_fixed line _ _ _).2.1
          exact ⟨_, _, hrun.tail ⟨.exchange hrunning, List.suffix_refl _, hclosed⟩, hwaiters,
            Function.update_self _ _ _⟩
      | closePort =>
          have hstep : Onward line pdus m₁ _ :=
            ⟨.closePort hrunning, List.suffix_refl _, rfl⟩
          have hlt : m₁.queue.length < n := by
            rw [← hsize, ← hjobs, hcons, List.length_cons]
            exact Nat.lt_succ_self _
          obtain ⟨m', outcome, hrun', hwaiters', hanswered⟩ :=
            ih _ hlt (h₁.step hstep.1) hi₁ rfl
          exact ⟨m', outcome, (hrun.tail hstep).trans hrun', hwaiters'.trans hwaiters, hanswered⟩

/-- Who holds the lock comes to its end, and gives it back. -/
theorem Inv.exists_released (h : Inv m) (hi : (m.phases i).HoldsLock) :
    ∃ m', ReflTransGen (Onward line pdus) m m' ∧ m'.waiters = m.waiters ∧ m'.Free ∧
      ∃ r, m'.phases i = .done r := by
  have hresume : ∀ m : RtuMachine ι σ, Inv m → ∀ outcome, m.phases i = .answered outcome →
      ∃ m', ReflTransGen (Onward line pdus) m m' ∧ m'.waiters = m.waiters ∧ m'.Free ∧
        ∃ r, m'.phases i = .done r := by
    intro m h outcome hanswered
    refine ⟨_, .single ⟨.resume hanswered, List.suffix_refl _, rfl⟩, rfl, ?_, _,
      Function.update_self _ _ _⟩
    exact not_holds_update id fun k hk hholds =>
      hk (h.locked.exclusive k i hholds (hanswered ▸ trivial))
  cases hphase : m.phases i with
  | submitted =>
      obtain ⟨m₁, outcome, hrun, hwaiters, hanswered⟩ := h.exists_answered hphase
      obtain ⟨m', hrun', hwaiters', hfree, hdone⟩ := hresume m₁ (h.onward hrun) outcome hanswered
      exact ⟨m', hrun.trans hrun', hwaiters'.trans hwaiters, hfree, hdone⟩
  | answered outcome => exact hresume m h outcome hphase
  | cancelled =>
      refine ⟨_, .single ⟨.resumeCancelled hphase, List.suffix_refl _, rfl⟩, rfl, ?_, _,
        Function.update_self _ _ _⟩
      exact not_holds_update id fun k hk hholds =>
        hk (h.locked.exclusive k i hholds (hphase ▸ trivial))
  | idle => exact absurd hi (by rw [hphase]; exact id)
  | waiting => exact absurd hi (by rw [hphase]; exact id)
  | done r => exact absurd hi (by rw [hphase]; exact id)

/-- Who is next at the lock comes to its end. -/
theorem Inv.exists_next (h : Inv m) (hfree : m.Free) (hwaiters : m.waiters = i :: rest) :
    ∃ m', ReflTransGen (Onward line pdus) m m' ∧ m'.waiters = rest ∧ m'.Free ∧
      ∃ r, m'.phases i = .done r := by
  have hsuffix : rest <:+ m.waiters := hwaiters ▸ List.suffix_cons i rest
  cases hstopped : m.closing.stopped with
  | true =>
      exact ⟨_, .single ⟨.submitRefused hwaiters hfree hstopped, hsuffix, rfl⟩, rfl,
        not_holds_update id fun k _ => hfree k, _, Function.update_self _ _ _⟩
  | false =>
      have hstep : Onward line pdus m _ := ⟨.acquire hwaiters hfree hstopped, hsuffix, rfl⟩
      have hholds : (Function.update m.phases i .submitted i).HoldsLock := by
        rw [Function.update_self]
        trivial
      obtain ⟨m', hrun, hrest, hfree', hdone⟩ := (h.step hstep.1).exists_released hholds
      exact ⟨m', .head hstep hrun, hrest, hfree', hdone⟩

/-- Where the lock is free, one waiter after another comes to its end. -/
theorem Inv.exists_served (h : Inv m) (hfree : m.Free) (hi : i ∈ m.waiters) :
    ∃ m', ReflTransGen (Onward line pdus) m m' ∧ ∃ r, m'.phases i = .done r := by
  induction hwaiters : m.waiters generalizing m with
  | nil => exact absurd (hwaiters ▸ hi) List.not_mem_nil
  | cons j rest ih =>
      obtain ⟨m₁, hrun, hrest, hfree₁, hdone⟩ := h.exists_next hfree hwaiters
      by_cases hij : i = j
      · exact ⟨m₁, hrun, hij ▸ hdone⟩
      · have hmem : i ∈ m₁.waiters := by
          rw [hwaiters] at hi
          exact hrest ▸ List.mem_of_ne_of_mem hij hi
        obtain ⟨m', hrun', hdone'⟩ := ih (h.onward hrun) hfree₁ hmem hrest
        exact ⟨m', hrun.trans hrun', hdone'⟩

/-- **Nobody waits for ever**: whoever asked comes to its end, though nobody new asks and nobody
calls `close`. -/
theorem Inv.exists_done (h : Inv m) (hi : m.phases i ≠ .idle) :
    ∃ m', ReflTransGen (Onward line pdus) m m' ∧ ∃ r, m'.phases i = .done r := by
  by_cases hholds : (m.phases i).HoldsLock
  · obtain ⟨m', hrun, -, -, hdone⟩ := h.exists_released hholds
    exact ⟨m', hrun, hdone⟩
  · cases hphase : m.phases i with
    | idle => exact absurd hphase hi
    | done r => exact ⟨m, .refl, r, hphase⟩
    | waiting =>
        have hmem := (h.locked.waits i).mpr hphase
        by_cases hfree : m.Free
        · exact h.exists_served hfree hmem
        · simp only [Free, not_forall, not_not] at hfree
          obtain ⟨j, hj⟩ := hfree
          obtain ⟨m₁, hrun, hwaiters, hfree₁, -⟩ := h.exists_released hj
          obtain ⟨m', hrun', hdone⟩ :=
            (h.onward hrun).exists_served hfree₁ (hwaiters ▸ hmem)
          exact ⟨m', hrun.trans hrun', hdone⟩
    | submitted => exact absurd (by rw [hphase]; trivial) hholds
    | answered outcome => exact absurd (by rw [hphase]; trivial) hholds
    | cancelled => exact absurd (by rw [hphase]; trivial) hholds

end Onward

end RtuMachine

open RtuMachine

/-- **Closing a shared RTU client**, whatever the schedule: one request at a time is past the lock,
whoever asked can get to the end of its request without anybody new, and a close can return.  Once
it has, nobody gets to the line, and the port is open only if a request that waited at the lock when
`close` was called had its exchange after the port had been closed; which happens on every line that
can be opened and answers. -/
theorem rtu_close {line : SerialLine σ} {pdus : ι → List UInt8} {c : AsyncModbusRtuClient σ}
    (hc : c.closed = false) {m : RtuMachine ι σ} (h : Reachable line pdus c m) :
    (∀ i j, (m.phases i).HoldsLock → (m.phases j).HoldsLock → i = j) ∧
    (∀ i, m.phases i ≠ .idle →
      ∃ m', ReflTransGen (Onward line pdus) m m' ∧ ∃ r, m'.phases i = .done r) ∧
    (m.closing ≠ .notCalled → ∃ m', Steps line pdus m m' ∧ m'.closing = .returned) ∧
    (m.closing = .returned → (∀ m', Steps line pdus m m' → LineQuiet m m') ∧
      (m.client.isOpen = true → ∃ i ∈ m.overtaken, i ∈ m.late)) ∧
    ∀ i j, i ≠ j → Opens line c.unitId (pdus j) →
      ∃ m', Reachable line pdus c m' ∧ m'.closing = .returned ∧ m'.client.isOpen = true := by
  have hinv := inv_of_reachable hc h
  refine ⟨hinv.locked.exclusive, fun i => hinv.exists_done, hinv.exists_returned line pdus,
    fun hreturned => ⟨fun m' hrun => (hinv.quiet hreturned hrun).1, fun hopen => ?_⟩,
    fun i j hne hline => exists_reopened line pdus hne hc hline⟩
  obtain ⟨i, rest, hlate⟩ :=
    List.exists_cons_of_ne_nil (hinv.port (by rw [hreturned]; rfl) hopen)
  have hmem : i ∈ m.late := hlate ▸ List.mem_cons_self
  exact ⟨i, hinv.late i hmem, hmem⟩

/-- A line on which every request is answered with an identification. -/
def identifyingLine : SerialLine Unit :=
  ⟨fun s => (.ok (), s), byteByByte (appendCrc (1 :: shortIdentification))⟩

/-- This line can be opened, and it answers. -/
theorem opens_identifyingLine : Opens identifyingLine 1 readDeviceIdentificationPdu := by
  have hanswer : exchangeBlocking 1 readDeviceIdentificationPdu
      { chunks := (appendCrc (1 :: shortIdentification)).map fun b => [b] } =
        .ok (shortIdentification, appendCrc (1 :: shortIdentification)) := by
    decide +kernel
  have hwrite (s : Unit) (frame : List UInt8) : (identifyingLine.write s frame).1 =
      .ok { chunks := (appendCrc (1 :: shortIdentification)).map fun b => [b] } := rfl
  refine fun s => ⟨rfl, fun e herror => ?_⟩
  rw [hwrite, Except.bind, hanswer] at herror
  cases herror

/-- Two probes of one port, and a close between them. -/
theorem rtu_close_two :
    ∃ (c : AsyncModbusRtuClient Unit) (m : RtuMachine Bool Unit),
      Reachable identifyingLine (fun _ => readDeviceIdentificationPdu) c m ∧
        m.client.isOpen = true ∧ (∀ m', Steps identifyingLine
          (fun _ => readDeviceIdentificationPdu) m m' → LineQuiet m m') ∧
        ∃ i ∈ m.overtaken, i ∈ m.late := by
  obtain ⟨c, hunit, hc⟩ : ∃ c : AsyncModbusRtuClient Unit, c.unitId = 1 ∧ c.closed = false :=
    ⟨{ unitId := 1, unit_valid := by decide, device := () }, rfl, rfl⟩
  obtain ⟨m, hreach, hreturned, hopen⟩ := exists_reopened identifyingLine
    (fun _ => readDeviceIdentificationPdu) Bool.false_ne_true hc (hunit ▸ opens_identifyingLine)
  obtain ⟨hquiet, hlate⟩ := (rtu_close hc hreach).2.2.2.1 hreturned
  exact ⟨c, m, hreach, hopen, hquiet, hlate hopen⟩

end MorningstarModbus
