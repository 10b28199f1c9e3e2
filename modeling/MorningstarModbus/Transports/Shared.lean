import MorningstarModbus.Lib.FairLock
import MorningstarModbus.Transports.Agreement

/-!
# MorningstarModbus.Transports.Shared

One Modbus client and many coroutines that read through it: `_request` holds the lock of its
client (`transports/modbus.py`).  Nobody cancels the coroutines, or closes the client.

* `AsyncModbusTcpClient.requestTask`, `AsyncModbusRtuClient.requestTask` — `_request` between
  its awaits;
* `shared_reads` — whatever the schedule, the reads come one after another, in the order in
  which they asked.
-/

namespace MorningstarModbus

open Coroutine

variable {σ : Type}

/-! ## the parts of a request -/

/-- `_request` between its awaits: the transaction id is taken, the machine answers, the
exchange is observed. -/
def AsyncModbusTcpClient.requestTask (connect : σ → List UInt8 → Except Failure Incoming × σ)
    (pdu : List UInt8) : Task (AsyncModbusTcpClient σ) Failure (List UInt8) :=
  .part (fun c => { c with transactionId := (c.transactionId + 1) % 65536 }) fun c =>
    let transactionId := (c.transactionId + 1) % 65536
    let frame := mbapFrame transactionId c.unitId pdu
    .part (fun c => { c with device := (connect c.device frame).2 }) fun c =>
      let a := attempt transactionId c.unitId pdu (connect c.device frame).1
      .part (fun c =>
          { c with observer := observe c.observer (exchangeOf .tcp c.unitId pdu frame a) }) fun _ =>
        .done a.result

theorem AsyncModbusTcpClient.run_requestTask
    (connect : σ → List UInt8 → Except Failure Incoming × σ) (pdu : List UInt8)
    (c : AsyncModbusTcpClient σ) : (requestTask connect pdu).run c = request connect pdu c := rfl

/-- `_request` of a client that is not closed: the worker does the exchange, then it is
observed. -/
def AsyncModbusRtuClient.requestTask (line : SerialLine σ) (pdu : List UInt8) :
    Task (AsyncModbusRtuClient σ) Failure (List UInt8) :=
  .part (fun c => (exchange line pdu (appendCrc (c.unitId :: pdu)) c).2) fun c =>
    let frame := appendCrc (c.unitId :: pdu)
    let a := attempt (exchange line pdu frame c).1
    let seen (c : AsyncModbusRtuClient σ) : ModbusExchange :=
      exchangeOf .serial c.unitId pdu frame a
    .part (fun c => { c with observer := observe c.observer (seen c) }) fun _ => .done a.result

namespace AsyncModbusRtuClient

/-- The exchange changes the port and the line only. -/
theorem exchange_fixed (line : SerialLine σ) (pdu frame : List UInt8)
    (c : AsyncModbusRtuClient σ) :
    (exchange line pdu frame c).2.unitId = c.unitId ∧
      (exchange line pdu frame c).2.closed = c.closed ∧
      (exchange line pdu frame c).2.observer = c.observer := by
  have hopen : (ensureOpen line c).2.unitId = c.unitId ∧
      (ensureOpen line c).2.closed = c.closed ∧ (ensureOpen line c).2.observer = c.observer := by
    unfold ensureOpen
    split
    · exact ⟨rfl, rfl, rfl⟩
    · exact ⟨rfl, rfl, rfl⟩
  unfold exchange
  generalize ensureOpen line c = out at hopen
  obtain ⟨opened, c'⟩ := out
  cases opened with
  | error e => exact hopen
  | ok u =>
      dsimp only
      cases (line.write c'.device frame).1.bind (exchangeBlocking c'.unitId pdu) with
      | error e => exact hopen
      | ok response => exact hopen

theorem run_requestTask (line : SerialLine σ) (pdu : List UInt8) {c : AsyncModbusRtuClient σ}
    (h : c.closed = false) : (requestTask line pdu).run c = request line pdu c := by
  rw [request, if_neg (by simp [h])]
  rfl

/-- A request leaves the client as open as it was. -/
theorem closed_request (line : SerialLine σ) (pdu : List UInt8) (c : AsyncModbusRtuClient σ) :
    (request line pdu c).2.closed = c.closed := by
  unfold request
  split
  · rfl
  · exact (exchange_fixed line pdu _ c).2.1

end AsyncModbusRtuClient

/-! ## schedules -/

variable {ι : Type} [DecidableEq ι]

/-- The client after reads that were made one after another. -/
def readAll (client : ReadOnlyModbusClient σ) (reads : List Request) (c : σ) : σ :=
  reads.foldl (fun c r => (client.read r c).2) c

/-- What the coroutines did at a shared client is what reads do that come one after another. -/
structure Sequential (client : ReadOnlyModbusClient σ) (reads : ι → Request)
    (sections : ι → Task σ Failure (List UInt8)) (c : σ)
    (m : FairLock.Machine ι σ Failure (List UInt8)) : Prop where
  exclusive : ∀ i j t t', m.phases i = .holding t → m.phases j = .holding t' → i = j
  once : m.served.Nodup
  result : ∀ i r, m.phases i = .done r → ∃ before rest, m.served = before ++ i :: rest ∧
    r.bind (reads i).parse = (client.read (reads i) (readAll client (before.map reads) c)).1
  state : m.Free → m.state = readAll client (m.served.map reads) c
  /-- nobody is overtaken -/
  order : ∀ m', Relation.ReflTransGen (FairLock.Step sections) m m' →
    m.served ++ m.waiters <+: m'.served ++ m'.waiters
  /-- where somebody waits, the holder or the next waiter can go on: nobody new asks -/
  alive : m.waiters ≠ [] → ∃ m', FairLock.Step sections m m' ∧ m'.waiters <:+ m.waiters

section Linear

variable {request : List UInt8 → σ → Except Failure (List UInt8) × σ} {valid : σ → Prop}
  {reads : ι → Request} {pdus : ι → List UInt8} {sections : ι → Task σ Failure (List UInt8)}
  {c : σ}

omit [DecidableEq ι] in
/-- The sections one after another are the reads one after another. -/
theorem after_sections (hvalid : ∀ pdu c, valid c → valid (request pdu c).2)
    (hrun : ∀ i c, valid c → (sections i).run c = request (pdus i) c)
    (hpdu : ∀ i, (reads i).pdu = .ok (pdus i)) (hc : valid c) (order : List ι) :
    FairLock.after sections order c = readAll (transportClient request) (order.map reads) c ∧
      valid (FairLock.after sections order c) := by
  induction order generalizing c with
  | nil => exact ⟨rfl, hc⟩
  | cons i order ih =>
      have hstep : ((transportClient request).read (reads i) c).2 = ((sections i).run c).2 := by
        rw [read_transportClient, hpdu i, hrun i c hc]
      rw [List.map_cons, readAll, List.foldl_cons, hstep]
      have hnext : valid ((sections i).run c).2 := by
        rw [hrun i c hc]
        exact hvalid (pdus i) c hc
      exact ih hnext

/-- Requests that a lock separates come one after another. -/
theorem sequential_of_lock (hvalid : ∀ pdu c, valid c → valid (request pdu c).2)
    (hrun : ∀ i c, valid c → (sections i).run c = request (pdus i) c)
    (hpdu : ∀ i, (reads i).pdu = .ok (pdus i)) (hc : valid c)
    {m : FairLock.Machine ι σ Failure (List UInt8)} (h : FairLock.Reachable sections c m) :
    Sequential (transportClient request) reads sections c m := by
  have hlinear := FairLock.linear h
  have hafter := after_sections hvalid hrun hpdu hc
  refine ⟨fun i j t t' hi hj => hlinear.exclusive hi hj, (List.nodup_append'.mp hlinear.nodup).1,
    fun i r hi => ?_, fun hfree => (hlinear.free hfree).trans (hafter m.served).1,
    fun m' hrun' => FairLock.order hrun', FairLock.exists_step⟩
  obtain ⟨before, rest, hserved, hr⟩ := hlinear.of_done hi
  obtain ⟨heq, hvalid'⟩ := hafter before
  refine ⟨before, rest, hserved, ?_⟩
  rw [hr, hrun i _ hvalid', read_transportClient, hpdu i, heq]

end Linear

/-- **A shared client**: whatever the schedule, one coroutine at a time talks to the device; the
reads return and leave behind what they do one after another, in the order in which they asked;
and where one waits, the holder of the lock or the next waiter can go on. -/
theorem shared_reads {reads : ι → Request} {pdus : ι → List UInt8}
    (hpdu : ∀ i, (reads i).pdu = .ok (pdus i)) :
    (∀ (connect : σ → List UInt8 → Except Failure Incoming × σ) (c : AsyncModbusTcpClient σ) m,
      FairLock.Reachable (fun i => AsyncModbusTcpClient.requestTask connect (pdus i)) c m →
        Sequential (AsyncModbusTcpClient.client connect) reads
          (fun i => AsyncModbusTcpClient.requestTask connect (pdus i)) c m) ∧
    ∀ (line : SerialLine σ) (c : AsyncModbusRtuClient σ) m, c.closed = false →
      FairLock.Reachable (fun i => AsyncModbusRtuClient.requestTask line (pdus i)) c m →
        Sequential (AsyncModbusRtuClient.client line) reads
          (fun i => AsyncModbusRtuClient.requestTask line (pdus i)) c m := by
  refine ⟨fun connect c m h => ?_, fun line c m hc h => ?_⟩
  · have hrun : ∀ i (c : AsyncModbusTcpClient σ), True →
        (AsyncModbusTcpClient.requestTask connect (pdus i)).run c =
          AsyncModbusTcpClient.request connect (pdus i) c :=
      fun i c _ => AsyncModbusTcpClient.run_requestTask connect (pdus i) c
    exact sequential_of_lock (fun _ _ _ => trivial) hrun hpdu trivial h
  · have hvalid : ∀ pdu (c : AsyncModbusRtuClient σ), c.closed = false →
        (AsyncModbusRtuClient.request line pdu c).2.closed = false :=
      fun pdu c hopen => (AsyncModbusRtuClient.closed_request line pdu c).trans hopen
    have hrun : ∀ i (c : AsyncModbusRtuClient σ), c.closed = false →
        (AsyncModbusRtuClient.requestTask line (pdus i)).run c =
          AsyncModbusRtuClient.request line (pdus i) c :=
      fun i c hopen => AsyncModbusRtuClient.run_requestTask line (pdus i) hopen
    exact sequential_of_lock hvalid hrun hpdu hc h

/-- A register read and an identification. -/
def twoReads (identifies : Bool) : Request := if identifies then .identification else .holding 0 2

/-- A status read while a probe identifies the machine. -/
theorem shared_reads_two :
    ∃ pdus : Bool → List UInt8,
      (∀ connect (c : AsyncModbusTcpClient Unit) m,
        FairLock.Reachable (fun i => AsyncModbusTcpClient.requestTask connect (pdus i)) c m →
          Sequential (AsyncModbusTcpClient.client connect) twoReads
            (fun i => AsyncModbusTcpClient.requestTask connect (pdus i)) c m) ∧
      ∀ (line : SerialLine Unit) (c : AsyncModbusRtuClient Unit) m, c.closed = false →
        FairLock.Reachable (fun i => AsyncModbusRtuClient.requestTask line (pdus i)) c m →
          Sequential (AsyncModbusRtuClient.client line) twoReads
            (fun i => AsyncModbusRtuClient.requestTask line (pdus i)) c m := by
  refine ⟨fun i => if i then readDeviceIdentificationPdu else [0x03, 0, 0, 0, 2], ?_⟩
  exact shared_reads (by decide)

end MorningstarModbus
