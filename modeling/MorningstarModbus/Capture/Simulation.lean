import MorningstarModbus.Capture.Replay
import MorningstarModbus.Transports.Agreement

/-!
# MorningstarModbus.Capture.Simulation

Replaying a capture is the run that was captured.

* `load_writeTransactions` — a bundle loads what was written;
* `Recording` — a transport observes every request once, with its outcome;
* `read_recorded` — the replay of an observed request has its outcome;
* `capture_replay` — the same for whole programs, over TCP and over RTU.
-/

namespace MorningstarModbus

open Bytes

/-! ## the bundle -/

/-- A line of a capture has no break of its own. -/
theorem dumps_no_break (o : Json.Object) : ∀ c ∈ (Json.dumps o).toList, Text.isLineBreak c = false := by
  intro c hc
  have h := Json.dumps_printable o c hc
  simp only [Text.isLineBreak, Bool.or_eq_false_iff, Bool.and_eq_false_iff, decide_eq_false_iff_not,
    beq_eq_false_iff_ne]
  omega

/-- Nor is it blank, so the loader does not skip it. -/
theorem dumps_not_blank (o : Json.Object) : Text.stripChars (Json.dumps o).toList ≠ [] := by
  have hbrace : '{' ∈ (Json.dumps o).toList := by
    rw [Json.dumps, String.toList_ofList]
    exact List.mem_cons_self
  exact Text.stripChars_ne_nil hbrace (by decide)

/-- The lines of a capture are its exchanges. -/
theorem splitlines_writeTransactions (exchanges : List ModbusExchange) :
    Text.splitlines (writeTransactions exchanges) =
      exchanges.map fun e => (Json.dumps e.toDict).toList := by
  induction exchanges with
  | nil => rfl
  | cons e es ih =>
      have hline := Text.splitlines_line (dumps_no_break e.toDict) (writeTransactions es)
      rw [writeTransactions, List.flatMap_cons, List.append_assoc, List.singleton_append]
      rw [writeTransactions] at hline ih
      rw [hline, ih, List.map_cons]

/-- Every line is loaded as what it was made of. -/
theorem loads_lines (exchanges : List ModbusExchange) :
    (exchanges.map fun e => (Json.dumps e.toDict).toList).mapM (fun line =>
      Json.loads (String.ofList line)) = some (exchanges.map ModbusExchange.toDict) := by
  induction exchanges with
  | nil => rfl
  | cons e es ih =>
      rw [List.map_cons, List.mapM_cons, ih, String.ofList_toList, Json.loads_dumps]
      rfl

/-- A bundle loads what was written. -/
theorem load_writeTransactions (exchanges : List ModbusExchange) :
    loadCaptureTransactions (writeTransactions exchanges) =
      some (exchanges.map ModbusExchange.toDict) := by
  have hkept : ((exchanges.map fun e => (Json.dumps e.toDict).toList).filter fun line =>
      Text.stripChars line ≠ []) = exchanges.map fun e => (Json.dumps e.toDict).toList := by
    rw [List.filter_eq_self]
    intro line hline
    obtain ⟨e, -, rfl⟩ := List.mem_map.mp hline
    simpa using dumps_not_blank e.toDict
  rw [loadCaptureTransactions, splitlines_writeTransactions, hkept, loads_lines]

/-! ## transports record -/

/-- A transport's `_request` hands every request to its observer, with the PDU it
returns. -/
structure Recording {σ : Type} (request : List UInt8 → σ → Except Failure (List UInt8) × σ)
    (observer : σ → Option (List ModbusExchange)) (ready : σ → Prop) : Prop where
  observed : ∀ pdu s es, ready s → observer s = some es →
    ∃ transport unitId frame a, (request pdu s).1 = a.result ∧
      observer (request pdu s).2 = some (es ++ [exchangeOf transport unitId pdu frame a]) ∧
      ready (request pdu s).2 ∧ ∀ response, a.result = .ok response → a.responsePdu = response

/-- A checked response is the one received. -/
theorem checkResponse_eq {pdu responsePdu response : List UInt8}
    (h : checkResponse pdu responsePdu = .ok response) : responsePdu = response := by
  simp only [checkResponse, Loop.bind_eq_ok] at h
  obtain ⟨-, -, h⟩ := h
  split at h
  · cases h
  · exact Except.ok.inj h

/-- The TCP client tells its observer of each exchange once, with what the caller gets. -/
theorem AsyncModbusTcpClient.recording {σ : Type}
    (connect : σ → List UInt8 → Except Failure Incoming × σ) :
    Recording (request connect) AsyncModbusTcpClient.observer fun _ => True where
  observed pdu c es _ hes := by
    obtain ⟨a, ha⟩ : ∃ a, a = attempt ((c.transactionId + 1) % 65536) c.unitId pdu
      (connect c.device (mbapFrame ((c.transactionId + 1) % 65536) c.unitId pdu)).1 := ⟨_, rfl⟩
    refine ⟨.tcp, c.unitId, mbapFrame ((c.transactionId + 1) % 65536) c.unitId pdu, a, ?_, ?_,
      trivial, ?_⟩
    · rw [ha]
      rfl
    · rw [ha]
      simp [request, observe, hes]
    · intro response hresponse
      rw [ha, attempt] at hresponse ⊢
      split at hresponse
      · cases hresponse
      · exact checkResponse_eq hresponse

/-- An exchange changes the device and the port, and nothing else of an RTU client. -/
theorem AsyncModbusRtuClient.exchange_frame {σ : Type} (line : SerialLine σ) (pdu frame : List UInt8)
    (c : AsyncModbusRtuClient σ) :
    (exchange line pdu frame c).2.observer = c.observer ∧
      (exchange line pdu frame c).2.closed = c.closed ∧
      (exchange line pdu frame c).2.unitId = c.unitId := by
  unfold exchange
  have hopen : (ensureOpen line c).2.observer = c.observer ∧
      (ensureOpen line c).2.closed = c.closed ∧ (ensureOpen line c).2.unitId = c.unitId := by
    unfold ensureOpen
    split <;> exact ⟨rfl, rfl, rfl⟩
  split
  · next heq =>
    rw [heq] at hopen
    exact hopen
  · next heq =>
    rw [heq] at hopen
    simp only
    split <;> exact hopen

/-- The RTU client records likewise while it is open. -/
theorem AsyncModbusRtuClient.recording {σ : Type} (line : SerialLine σ) :
    Recording (request line) AsyncModbusRtuClient.observer fun c => c.closed = false where
  observed pdu c es hclosed hes := by
    obtain ⟨hobserver, hclosed', hunit⟩ :=
      exchange_frame line pdu (appendCrc (c.unitId :: pdu)) c
    obtain ⟨exchanged, c', hexchange⟩ : ∃ exchanged c',
      exchange line pdu (appendCrc (c.unitId :: pdu)) c = (exchanged, c') := ⟨_, _, rfl⟩
    rw [hexchange] at hobserver hclosed' hunit
    simp only at hobserver hclosed' hunit
    have hrequest : request line pdu c = ((attempt exchanged).result, { c' with
        observer := observe c'.observer (exchangeOf .serial c'.unitId pdu
          (appendCrc (c.unitId :: pdu)) (attempt exchanged)) }) := by
      rw [request, if_neg (by simp [hclosed])]
      simp only [hexchange]
    refine ⟨.serial, c'.unitId, appendCrc (c.unitId :: pdu), attempt exchanged, ?_, ?_, ?_, ?_⟩
    · rw [hrequest]
    · rw [hrequest]
      simp [observe, hobserver, hes]
    · rw [hrequest]
      exact hclosed'.trans hclosed
    · intro response hresponse
      cases exchanged with
      | error e => cases hresponse
      | ok r => exact Except.ok.inj hresponse

/-! ## one read -/

/-- What `_request_shape` and the replay client see of a read. -/
def Request.shape : Request → Option Int × Option Int
  | holding address count => (some address, some count)
  | input address count => (some address, some count)
  | identification => (none, none)

def Request.functionCode : Request → Nat
  | holding _ _ => 0x03
  | input _ _ => 0x04
  | identification => 0x2B

/-- A valid read has a request, and its shape can be read off it. -/
theorem readRegistersPdu_of_valid {functionCode : UInt8} {address count : Int}
    (hcode : functionCode = 0x03 ∨ functionCode = 0x04)
    (h : (0 ≤ address ∧ address ≤ 0xFFFF) ∧ 1 ≤ count ∧ count ≤ 125) :
    ∃ pdu, readRegistersPdu functionCode address count = .ok pdu ∧
      pdu.headD 0 = functionCode ∧ requestShape pdu = (some address, some count) := by
  refine ⟨functionCode :: (packWord address.toNat ++ packWord count.toNat), ?_, rfl, ?_⟩
  · rw [readRegistersPdu, if_neg, if_neg, if_neg]
    · simpa using h.2
    · simpa using h.1
    · cases hcode with
      | inl h3 => simp [h3]
      | inr h4 => simp [h4]
  · have haddress : (word (UInt8.ofNat (address.toNat / 256)) (UInt8.ofNat address.toNat) : Int) =
        address := by
      rw [word_pack (by omega)]
      omega
    have hcount : (word (UInt8.ofNat (count.toNat / 256)) (UInt8.ofNat count.toNat) : Int) =
        count := by
      rw [word_pack (by omega)]
      omega
    show requestShape [functionCode, _, _, _, _] = _
    rw [requestShape, if_pos hcode, haddress, hcount]

/-- The same of every request of the client. -/
theorem Request.pdu_of_valid {r : Request} (h : r.Valid) :
    ∃ pdu, r.pdu = .ok pdu ∧ (pdu.headD 0).toNat = r.functionCode ∧ requestShape pdu = r.shape := by
  cases r with
  | holding address count =>
      obtain ⟨pdu, hpdu, hhead, hshape⟩ := readRegistersPdu_of_valid (.inl rfl) h
      exact ⟨pdu, hpdu, by rw [hhead]; rfl, hshape⟩
  | input address count =>
      obtain ⟨pdu, hpdu, hhead, hshape⟩ := readRegistersPdu_of_valid (.inr rfl) h
      exact ⟨pdu, hpdu, by rw [hhead]; rfl, hshape⟩
  | identification => exact ⟨_, rfl, rfl, rfl⟩

namespace ReplayModbusClient

/-- The replay client answers a read from the next item of the capture. -/
theorem read_client (r : Request) (c : ReplayModbusClient) :
    client.read r c =
      (((next r.functionCode r.shape.1 r.shape.2 c).1.bind responsePdu).bind r.parse,
        (next r.functionCode r.shape.1 r.shape.2 c).2) := by
  cases r with
  | holding address count =>
      show (Except.map _ (Except.bind (Except.bind (next 3 _ _ c).1 responsePdu) _), _) = _
      simp only [Request.shape, Request.functionCode]
      cases (next 3 (some address) (some count) c).1.bind responsePdu <;> rfl
  | input address count =>
      show (Except.map _ (Except.bind (Except.bind (next 4 _ _ c).1 responsePdu) _), _) = _
      simp only [Request.shape, Request.functionCode]
      cases (next 4 (some address) (some count) c).1.bind responsePdu <;> rfl
  | identification =>
      show (Except.map _ (Except.bind (Except.bind (next 0x2B _ _ c).1 responsePdu) _), _) = _
      simp only [Request.shape, Request.functionCode]
      cases (next 0x2B none none c).1.bind responsePdu <;> rfl

/-- What replay makes of an exchange: its answer, its timeout, or its recorded error. -/
theorem checkItem_toDict (e : ModbusExchange) :
    checkItem e.functionCode e.address e.count e.toDict =
      if e.errorType = "" then .ok e.toDict
      else if e.errorType = "TimeoutError" ∨ e.errorType = "CancelledError" then
        .error (.timeout (textOr e.toDict "error" "recorded Modbus failure"))
      else .error (recordedError (e.errorType ++ ": " ++
        textOr e.toDict "error" "recorded Modbus failure")) := by
  have hcode : e.toDict.get "function_code" = some (.int e.functionCode) := by
    simp [ModbusExchange.toDict, Json.Object.get, List.lookup_cons]
  have haddress : e.toDict.get "address" = some (jsonInt e.address) := by
    simp [ModbusExchange.toDict, Json.Object.get, List.lookup_cons]
  have hcount : e.toDict.get "count" = some (jsonInt e.count) := by
    simp [ModbusExchange.toDict, Json.Object.get, List.lookup_cons]
  have htype : textOr e.toDict "error_type" "" = e.errorType := by
    have hget : e.toDict.get "error_type" = some (.str e.errorType) := by
      simp [ModbusExchange.toDict, Json.Object.get, List.lookup_cons]
    simp only [textOr, hget]
    split
    · next hempty => exact hempty.symm
    · rfl
  rw [checkItem, hcode]
  simp only [pyInt, Loop.ok_bind, haddress, hcount, htype, Option.getD_some]
  by_cases hempty : e.errorType = ""
  · simp [hempty]
  · simp [hempty]

/-- The response comes back from its hexadecimal digits. -/
theorem responsePdu_toDict (e : ModbusExchange) {pdu : List UInt8} (h : e.responsePduHex = hex pdu) :
    responsePdu e.toDict = .ok pdu := by
  have hget : e.toDict.get "response_pdu_hex" = some (.str e.responsePduHex) := by
    simp [ModbusExchange.toDict, Json.Object.get, List.lookup_cons]
  simp only [responsePdu, hget, pyStr, h, fromHex_hex]

end ReplayModbusClient

open ReplayModbusClient in
/-- The replay of an observed request has its outcome. -/
theorem read_recorded {σ : Type} {request : List UInt8 → σ → Except Failure (List UInt8) × σ}
    {observer : σ → Option (List ModbusExchange)} {ready : σ → Prop}
    (hrec : Recording request observer ready) {r : Request} (hr : r.Valid) {s : σ}
    {es : List ModbusExchange} (hready : ready s) (hes : observer s = some es) :
    ∃ e, observer ((transportClient request).read r s).2 = some (es ++ [e]) ∧
      ready ((transportClient request).read r s).2 ∧
      ∀ c : ReplayModbusClient, c.closed = false → c.transactions[c.index]? = some e.toDict →
        (client.read r c).1.mapError Failure.kind =
          ((transportClient request).read r s).1.mapError Failure.kind ∧
        (client.read r c).2 = { c with index := c.index + 1 } := by
  obtain ⟨pdu, hpdu, hhead, hshape⟩ := Request.pdu_of_valid hr
  obtain ⟨transport, unitId, frame, a, hresult, hobserved, hready', hresponse⟩ :=
    hrec.observed pdu s es hready hes
  have hlive : (transportClient request).read r s =
      (a.result.bind r.parse, (request pdu s).2) := by
    rw [read_transportClient, hpdu]
    simp only [hresult]
  refine ⟨exchangeOf transport unitId pdu frame a, by rw [hlive]; exact hobserved,
    by rw [hlive]; exact hready', ?_⟩
  intro c hclosed hitem
  obtain ⟨e, he⟩ : ∃ e, e = exchangeOf transport unitId pdu frame a := ⟨_, rfl⟩
  have hcode : e.functionCode = r.functionCode := by rw [he, ← hhead]; rfl
  have haddress : e.address = r.shape.1 := by rw [he, ← hshape]; rfl
  have hcount : e.count = r.shape.2 := by rw [he, ← hshape]; rfl
  have hcheck := checkItem_toDict e
  rw [hcode, haddress, hcount] at hcheck
  have hnext : next r.functionCode r.shape.1 r.shape.2 c =
      (checkItem r.functionCode r.shape.1 r.shape.2 e.toDict, { c with index := c.index + 1 }) := by
    rw [next, if_neg (by simp [hclosed]), hitem, he]
  rw [read_client, hnext, hlive, hcheck]
  refine ⟨?_, rfl⟩
  cases ha : a.result with
  | ok response =>
      have htype : e.errorType = "" := by rw [he, exchangeOf, ha]
      have hhex : e.responsePduHex = hex response := by rw [he, ← hresponse response ha]; rfl
      rw [if_pos htype]
      show Except.mapError _ ((responsePdu e.toDict).bind r.parse) = _
      rw [responsePdu_toDict e hhex]
  | error failure =>
      have htype : e.errorType = failure.typeName := by rw [he, exchangeOf, ha]
      rw [if_neg (htype ▸ failure.typeName_ne_empty), htype]
      by_cases htimeout : failure.isTimeout = true
      · rw [if_pos (failure.typeName_timeout_iff.mpr htimeout)]
        show Except.error FailureKind.timeout = Except.error failure.kind
        rw [Failure.kind, if_pos htimeout]
      · rw [if_neg (mt failure.typeName_timeout_iff.mp htimeout)]
        show Except.error FailureKind.other = Except.error failure.kind
        rw [Failure.kind, if_neg htimeout]

/-! ## programs -/

open ReplayModbusClient in
/-- Replaying what a run adds to the capture is that run. -/
theorem run_recorded {α σ : Type} {request : List UInt8 → σ → Except Failure (List UInt8) × σ}
    {observer : σ → Option (List ModbusExchange)} {ready : σ → Prop}
    (hrec : Recording request observer ready) (p : Program α) {s : σ} {es : List ModbusExchange}
    (hready : ready s) (hes : observer s = some es) :
    ∃ new, observer (p.run (transportClient request) s).2 = some (es ++ new) ∧
      ∀ c : ReplayModbusClient, c.closed = false →
        new.map ModbusExchange.toDict <+: c.transactions.drop c.index →
        (p.run client c).1 = (p.run (transportClient request) s).1 ∧
        (p.run client c).2 = { c with index := c.index + new.length } := by
  induction p generalizing s es with
  | done a => exact ⟨[], by simp [Program.run, hes], fun c _ _ => ⟨rfl, rfl⟩⟩
  | read r valid next ih =>
      obtain ⟨e, hobserved, hready', hreplay⟩ := read_recorded hrec valid hready hes
      obtain ⟨new, hnew, hrest⟩ := ih (((transportClient request).read r s).1.mapError Failure.kind)
        hready' hobserved
      refine ⟨e :: new, by simpa [Program.run] using hnew, ?_⟩
      intro c hclosed hprefix
      obtain ⟨rest, hdrop⟩ := hprefix
      have hitem : c.transactions[c.index]? = some e.toDict := by
        have hhead := congrArg List.head? hdrop
        rw [List.head?_drop] at hhead
        exact hhead.symm
      have htail : new.map ModbusExchange.toDict <+: c.transactions.drop (c.index + 1) := by
        refine ⟨rest, ?_⟩
        have := congrArg List.tail hdrop
        rwa [List.tail_drop] at this
      obtain ⟨hout, hstate⟩ := hreplay c hclosed hitem
      obtain ⟨hresult, hindex⟩ := hrest { c with index := c.index + 1 } hclosed htail
      simp only [Program.run, hout, hstate, hresult, hindex]
      refine ⟨trivial, ?_⟩
      rw [List.length_cons, Nat.add_right_comm]
      rfl

/-- The bundle of what was observed loads, replays the run, and is used up. -/
def Replays {α : Type} (p : Program α) (live : α × List Outcome)
    (observed : Option (List ModbusExchange)) : Prop :=
  ∃ exchanges transactions, observed = some exchanges ∧
    loadCaptureTransactions (writeTransactions exchanges) = some transactions ∧
    (p.run ReplayModbusClient.client { transactions }).1 = live ∧
    (p.run ReplayModbusClient.client { transactions }).2.remaining = 0

/-- By induction on the program: each answer of the replay is the one recorded, so both take the
same way. -/
theorem replays_of_recording {α σ : Type}
    {request : List UInt8 → σ → Except Failure (List UInt8) × σ}
    {observer : σ → Option (List ModbusExchange)} {ready : σ → Prop}
    (hrec : Recording request observer ready) (p : Program α) {s : σ} (hready : ready s)
    (hobserver : observer s = some []) :
    Replays p (p.run (transportClient request) s).1
      (observer (p.run (transportClient request) s).2) := by
  obtain ⟨new, hnew, hreplay⟩ := run_recorded hrec p hready hobserver
  obtain ⟨hresult, hindex⟩ := hreplay { transactions := new.map ModbusExchange.toDict } rfl
    (List.prefix_refl _)
  refine ⟨new, _, hnew, load_writeTransactions new, hresult, ?_⟩
  simp [ReplayModbusClient.remaining, hindex]

/-- **Capture and replay.**  A program run over a fresh TCP or RTU client with a
recorder replays to the same results and failures, whatever the machine does. -/
theorem capture_replay {α σ : Type} (p : Program α) :
    (∀ (connect : σ → List UInt8 → Except Failure Incoming × σ) (c : AsyncModbusTcpClient σ),
      c.observer = some [] →
        Replays p (p.run (AsyncModbusTcpClient.client connect) c).1
          (p.run (AsyncModbusTcpClient.client connect) c).2.observer) ∧
    ∀ (line : SerialLine σ) (c : AsyncModbusRtuClient σ), c.observer = some [] → c.closed = false →
      Replays p (p.run (AsyncModbusRtuClient.client line) c).1
        (p.run (AsyncModbusRtuClient.client line) c).2.observer :=
  ⟨fun connect _ hobserver =>
    replays_of_recording (AsyncModbusTcpClient.recording connect) p trivial hobserver,
  fun line _ hobserver hclosed =>
    replays_of_recording (AsyncModbusRtuClient.recording line) p hclosed hobserver⟩

/-- Reads a block, and asks for the identification when that times out. -/
def probe : Program Nat :=
  .read (.holding 8 2) (by decide) fun first =>
    match first with
    | .ok (.registers values) => .done values.length
    | .error .timeout => .read .identification trivial fun _ => .done 0
    | _ => .done 1

/-- A machine that never answers is replayed as one that never answers. -/
theorem capture_replay_silent :
    Replays probe (0, [.error .timeout, .error .timeout])
      (probe.run (AsyncModbusTcpClient.client fun s _ => (.ok { chunks := [] }, s))
        { unitId := 1, unit_valid := by decide, observer := some [], device := () }).2.observer ∧
    Replays probe (0, [.error .timeout, .error .timeout])
      (probe.run
        (AsyncModbusRtuClient.client ⟨fun s => (.ok (), s), fun s _ => (.ok { chunks := [] }, s)⟩)
        { unitId := 1, unit_valid := by decide, observer := some [], device := () }).2.observer :=
  ⟨(capture_replay probe).1 (fun s _ => (.ok { chunks := [] }, s))
    { unitId := 1, unit_valid := by decide, observer := some [], device := () } rfl,
  (capture_replay probe).2 ⟨fun s => (.ok (), s), fun s _ => (.ok { chunks := [] }, s)⟩
    { unitId := 1, unit_valid := by decide, observer := some [], device := () } rfl rfl⟩

end MorningstarModbus
