import MorningstarModbus.Lib.Loop
import MorningstarModbus.Transports.Modbus

/-!
# MorningstarModbus.Transports.Agreement

The RTU reader and the TCP reader on the same response.

* `readExact_of_bytes` / `readexactly_of_bytes` — reads do not depend on chunks;
* `readObjects_of_bytes` — the RTU walk over identification objects;
* `transports_agree` — both clients return or raise the same, and what the RTU
  reader accepts as an identification parses.
-/

namespace MorningstarModbus

open Bytes

/-! ## exact reads -/

/-- The asyncio stream gives what is asked for, if it comes. -/
theorem readexactly_of_bytes {i : Incoming} {ys : List UInt8} (xs : List UInt8)
    (h : i.bytes = xs ++ ys) : ∃ i', readexactly xs.length i = .ok (xs, i') ∧ i'.bytes = ys := by
  obtain ⟨rest, htake, hrest⟩ := Stream.take_of_flatten h
  exact ⟨{ i with chunks := rest }, by rw [readexactly, htake], hrest⟩

/-- And so does the serial port. -/
theorem readExact_of_bytes {i : Incoming} {ys : List UInt8} (xs : List UInt8)
    (h : i.bytes = xs ++ ys) : ∃ i', readExact xs.length i = .ok (xs, i') ∧ i'.bytes = ys := by
  obtain ⟨rest, htake, hrest⟩ := Stream.take_of_flatten h
  exact ⟨{ i with chunks := rest }, by rw [readExact, htake], hrest⟩

/-- A read returns as many bytes as it asked for. -/
theorem readExact_length {n : Nat} {i i' : Incoming} {xs : List UInt8}
    (h : readExact n i = .ok (xs, i')) : xs.length = n := by
  unfold readExact at h
  split at h
  · next bytes rest htake =>
    have hxs : bytes = xs := by
      have := Except.ok.inj h
      exact congrArg Prod.fst this
    rw [← hxs]
    exact Stream.take_length htake
  · split at h <;> cases h

/-- The RTU walk takes exactly the encoded objects. -/
theorem readObjects_of_bytes {objects : List (UInt8 × List UInt8)}
    (hlen : ∀ o ∈ objects, o.2.length < 256) {i : Incoming} {ys : List UInt8}
    (h : i.bytes = encodeObjects objects ++ ys) :
    ∃ i', readObjects objects.length i = .ok (encodeObjects objects, i') ∧ i'.bytes = ys := by
  induction objects generalizing i with
  | nil => exact ⟨i, rfl, by simpa [encodeObjects] using h⟩
  | cons o objects ih =>
      have hsize : (UInt8.ofNat o.2.length).toNat = o.2.length := by
        rw [UInt8.toNat_ofNat', Nat.mod_eq_of_lt (hlen o List.mem_cons_self)]
      have hflat : i.bytes =
          [o.1, UInt8.ofNat o.2.length] ++ (o.2 ++ (encodeObjects objects ++ ys)) := by
        simp [h, encodeObjects]
      obtain ⟨i₁, h₁, hb₁⟩ := readExact_of_bytes [o.1, UInt8.ofNat o.2.length] hflat
      obtain ⟨i₂, h₂, hb₂⟩ := readExact_of_bytes o.2 hb₁
      obtain ⟨i₃, h₃, hb₃⟩ := ih (fun p hp => hlen p (List.mem_cons_of_mem o hp)) hb₂
      have hhead : readExact 2 i = .ok ([o.1, UInt8.ofNat o.2.length], i₁) := h₁
      have hvalue : ([o.1, UInt8.ofNat o.2.length].getD 1 0).toNat = o.2.length := hsize
      refine ⟨i₃, ?_, hb₃⟩
      rw [List.length_cons, readObjects, hhead, Loop.ok_bind]
      simp only [hvalue, h₂, h₃, Loop.ok_bind, Loop.pure_eq_ok]
      rw [encodeObjects, encodeObjects, List.flatMap_cons]
      simp

/-! ## well-formed responses -/

/-- The response PDUs of the three functions: register reads with any byte count,
identifications with any objects, and exceptions. -/
inductive WellFormedResponse : List UInt8 → Prop
  | registers {functionCode : UInt8} {data : List UInt8}
      (hfunction : functionCode = 0x03 ∨ functionCode = 0x04) (hdata : data.length < 256) :
      WellFormedResponse (functionCode :: UInt8.ofNat data.length :: data)
  | identification {conformity more next : UInt8} {objects : List (UInt8 × List UInt8)}
      (hcount : objects.length < 256) (hlength : ∀ o ∈ objects, o.2.length < 256) :
      WellFormedResponse ([0x2B, 0x0E, 0x01, conformity, more, next, UInt8.ofNat objects.length] ++
        encodeObjects objects)
  | exception {functionCode code : UInt8} (hfunction : functionCode &&& 0x80 ≠ 0) :
      WellFormedResponse [functionCode, code]

/-- A well-formed response has two bytes or more. -/
theorem WellFormedResponse.ne_nil {pdu : List UInt8} (h : WellFormedResponse pdu) :
    2 ≤ pdu.length := by
  cases h <;> simp

/-! ## TCP -/

/-- The header reads back. -/
theorem readMbap_of_bytes {transactionId : Nat} {unitId : UInt8} {pdu more : List UInt8}
    {i : Incoming} (hid : transactionId < 65536) (hpdu : pdu ≠ []) (hlen : pdu.length + 1 < 65536)
    (h : i.bytes = mbapFrame transactionId unitId pdu ++ more) :
    ∃ header, readMbap transactionId unitId i = .ok (header, pdu) := by
  obtain ⟨header, hheader⟩ : ∃ header, header =
    packWord transactionId ++ packWord 0 ++ packWord (pdu.length + 1) ++ [unitId] := ⟨_, rfl⟩
  have hpos : 0 < pdu.length := List.length_pos_iff.mpr hpdu
  have hbytes : i.bytes = header ++ (pdu ++ more) := by
    simp [h, hheader, mbapFrame]
  obtain ⟨i₁, h₁, hb₁⟩ := readexactly_of_bytes header hbytes
  obtain ⟨i₂, h₂, hb₂⟩ := readexactly_of_bytes pdu hb₁
  have hseven : readexactly 7 i = .ok (header, i₁) := by
    rw [← h₁, hheader]
    rfl
  have hrx : word (header.getD 0 0) (header.getD 1 0) = transactionId := by
    rw [hheader]
    exact word_pack hid
  have hprotocol : word (header.getD 2 0) (header.getD 3 0) = 0 := by
    rw [hheader]
    exact word_pack (by decide)
  have hlength : word (header.getD 4 0) (header.getD 5 0) = pdu.length + 1 := by
    rw [hheader]
    exact word_pack hlen
  have hunit : header.getD 6 0 = unitId := by
    rw [hheader]
    rfl
  refine ⟨header, ?_⟩
  rw [readMbap, hseven, Loop.ok_bind]
  simp only [hrx, hprotocol, hlength, hunit]
  rw [if_neg (by simp), if_neg (by omega), Nat.add_sub_cancel, h₂]
  rfl

/-- Over TCP a response in its frame arrives as it is. -/
theorem AsyncModbusTcpClient.attempt_of_bytes {transactionId : Nat} {unitId : UInt8}
    {pdu responsePdu more : List UInt8} {i : Incoming} (hid : transactionId < 65536)
    (hpdu : responsePdu ≠ []) (hlen : responsePdu.length + 1 < 65536)
    (h : i.bytes = mbapFrame transactionId unitId responsePdu ++ more) :
    (attempt transactionId unitId pdu (.ok i)).result = checkResponse pdu responsePdu := by
  obtain ⟨header, hread⟩ := readMbap_of_bytes hid hpdu hlen h
  rw [attempt, Except.bind, hread]

/-! ## RTU -/

/-- The PDU of a frame is what lies between unit id and CRC. -/
theorem checkFrame_appendCrc (pdu : List UInt8) (unitId : UInt8) (responsePdu : List UInt8) :
    checkFrame pdu (appendCrc (unitId :: responsePdu)) =
      if responsePdu.head? ≠ pdu.head? then .error (.protocol "Modbus function code mismatch")
      else .ok (responsePdu, appendCrc (unitId :: responsePdu)) := by
  have hvalid := validCrc_appendCrc (List.cons_ne_nil unitId responsePdu)
  rw [checkFrame, if_neg (by simp [hvalid]), take_appendCrc]
  rfl

/-- A function code without the high bit is no exception. -/
theorem raiseIfException_of_low {functionCode : UInt8} {rest : List UInt8}
    (h : functionCode &&& 0x80 = 0) : raiseIfException (functionCode :: rest) = .ok () := by
  simp [raiseIfException, h]

/-- Over RTU the length of a register response is in its third byte. -/
theorem exchangeBlocking_registers {unitId functionCode : UInt8} {data more pdu : List UInt8}
    {i : Incoming} (hfunction : functionCode = 0x03 ∨ functionCode = 0x04)
    (hdata : data.length < 256)
    (h : i.bytes = appendCrc (unitId :: functionCode :: UInt8.ofNat data.length :: data) ++ more) :
    exchangeBlocking unitId pdu i =
      checkFrame pdu (appendCrc (unitId :: functionCode :: UInt8.ofNat data.length :: data)) := by
  obtain ⟨crc, hcrc⟩ : ∃ crc, crc =
    packCrc (crc16 (unitId :: functionCode :: UInt8.ofNat data.length :: data)) := ⟨_, rfl⟩
  have hsize : (UInt8.ofNat data.length).toNat = data.length := by
    rw [UInt8.toNat_ofNat', Nat.mod_eq_of_lt hdata]
  have hbytes : i.bytes =
      [unitId, functionCode] ++ ([UInt8.ofNat data.length] ++ ((data ++ crc) ++ more)) := by
    simp [h, appendCrc, hcrc]
  obtain ⟨i₁, h₁, hb₁⟩ := readExact_of_bytes [unitId, functionCode] hbytes
  obtain ⟨i₂, h₂, hb₂⟩ := readExact_of_bytes [UInt8.ofNat data.length] hb₁
  obtain ⟨i₃, h₃, hb₃⟩ := readExact_of_bytes (data ++ crc) hb₂
  have htwo : readExact 2 i = .ok ([unitId, functionCode], i₁) := h₁
  have hone : readExact 1 i₁ = .ok ([UInt8.ofNat data.length], i₂) := h₂
  have hrest : readExact (data.length + 2) i₂ = .ok (data ++ crc, i₃) := by
    rw [← h₃, List.length_append, hcrc]
    rfl
  have hlow : functionCode &&& 0x80 = 0 := by
    cases hfunction with
    | inl h3 => subst h3; decide
    | inr h4 => subst h4; decide
  have hframe : readFrame [unitId, functionCode] i₁ =
      .ok (appendCrc (unitId :: functionCode :: UInt8.ofNat data.length :: data)) := by
    have hcode : [unitId, functionCode].getD 1 0 = 0x03 ∨ [unitId, functionCode].getD 1 0 = 0x04 :=
      hfunction
    rw [readFrame, if_pos hcode, hone, Loop.ok_bind]
    simp only [List.getD_cons_zero, hsize, hrest, Loop.ok_bind, Loop.pure_eq_ok, appendCrc, hcrc]
    simp
  rw [exchangeBlocking, htwo, Loop.ok_bind]
  simp only [List.getD_cons_zero, List.getD_cons_succ]
  rw [if_neg (by simp), if_neg (by simp [hlow]), hframe, Loop.ok_bind]

/-- That of an identification is found object by object. -/
theorem exchangeBlocking_identification {unitId conformity more next : UInt8}
    {objects : List (UInt8 × List UInt8)} {extra pdu : List UInt8} {i : Incoming}
    (hcount : objects.length < 256) (hlength : ∀ o ∈ objects, o.2.length < 256)
    (h : i.bytes = appendCrc (unitId :: ([0x2B, 0x0E, 0x01, conformity, more, next,
      UInt8.ofNat objects.length] ++ encodeObjects objects)) ++ extra) :
    exchangeBlocking unitId pdu i = checkFrame pdu (appendCrc (unitId :: ([0x2B, 0x0E, 0x01,
      conformity, more, next, UInt8.ofNat objects.length] ++ encodeObjects objects))) := by
  obtain ⟨crc, hcrc⟩ : ∃ crc, crc = packCrc (crc16 (unitId :: ([0x2B, 0x0E, 0x01, conformity, more,
    next, UInt8.ofNat objects.length] ++ encodeObjects objects))) := ⟨_, rfl⟩
  have hsize : (UInt8.ofNat objects.length).toNat = objects.length := by
    rw [UInt8.toNat_ofNat', Nat.mod_eq_of_lt hcount]
  have hbytes : i.bytes = [unitId, 0x2B] ++ ([0x0E, 0x01, conformity, more, next,
      UInt8.ofNat objects.length] ++ (encodeObjects objects ++ (crc ++ extra))) := by
    simp [h, appendCrc, hcrc]
  obtain ⟨i₁, h₁, hb₁⟩ := readExact_of_bytes [unitId, 0x2B] hbytes
  obtain ⟨i₂, h₂, hb₂⟩ := readExact_of_bytes [0x0E, 0x01, conformity, more, next,
    UInt8.ofNat objects.length] hb₁
  obtain ⟨i₃, h₃, hb₃⟩ := readObjects_of_bytes hlength hb₂
  obtain ⟨i₄, h₄, hb₄⟩ := readExact_of_bytes crc hb₃
  have htwo : readExact 2 i = .ok ([unitId, 0x2B], i₁) := h₁
  have hsix : readExact 6 i₁ = .ok ([0x0E, 0x01, conformity, more, next,
    UInt8.ofNat objects.length], i₂) := h₂
  have hlast : readExact 2 i₃ = .ok (crc, i₄) := by
    rw [← h₄, hcrc]
    rfl
  have hframe : readFrame [unitId, 0x2B] i₁ = .ok (appendCrc (unitId :: ([0x2B, 0x0E, 0x01,
      conformity, more, next, UInt8.ofNat objects.length] ++ encodeObjects objects))) := by
    have hcode : [unitId, 0x2B].getD 1 0 = 0x2B := rfl
    rw [readFrame, if_neg (by simp), if_pos hcode, hsix, Loop.ok_bind]
    simp only [List.getD_cons_zero, List.getD_cons_succ, hsize, h₃, hlast, Loop.ok_bind,
      Loop.pure_eq_ok, appendCrc, hcrc]
    simp
  rw [exchangeBlocking, htwo, Loop.ok_bind]
  simp only [List.getD_cons_zero, List.getD_cons_succ]
  rw [if_neg (by simp), if_neg (by decide), hframe, Loop.ok_bind]

/-- An exception has five bytes, and is raised. -/
theorem exchangeBlocking_exception {unitId functionCode code : UInt8} {more pdu : List UInt8}
    {i : Incoming} (hfunction : functionCode &&& 0x80 ≠ 0)
    (h : i.bytes = appendCrc [unitId, functionCode, code] ++ more) :
    exchangeBlocking unitId pdu i = .error (.device (functionCode &&& 0x7F) code) := by
  obtain ⟨crc, hcrc⟩ : ∃ crc, crc = packCrc (crc16 [unitId, functionCode, code]) := ⟨_, rfl⟩
  have hbytes : i.bytes = [unitId, functionCode] ++ ((code :: crc) ++ more) := by
    simp [h, appendCrc, hcrc]
  obtain ⟨i₁, h₁, hb₁⟩ := readExact_of_bytes [unitId, functionCode] hbytes
  obtain ⟨i₂, h₂, hb₂⟩ := readExact_of_bytes (code :: crc) hb₁
  have htwo : readExact 2 i = .ok ([unitId, functionCode], i₁) := h₁
  have hthree : readExact 3 i₁ = .ok (code :: crc, i₂) := by
    rw [← h₂, hcrc]
    rfl
  have hvalid : validCrc ([unitId, functionCode] ++ code :: crc) = true := by
    rw [hcrc]
    exact validCrc_appendCrc (List.cons_ne_nil unitId [functionCode, code])
  rw [exchangeBlocking, htwo, Loop.ok_bind]
  simp only [List.getD_cons_zero, List.getD_cons_succ]
  rw [if_neg (by simp), if_pos hfunction, hthree, Loop.ok_bind]
  simp only [hvalid, List.getD_cons_zero]
  rfl

/-- The RTU reader on a well-formed response: what TCP makes of its PDU. -/
theorem AsyncModbusRtuClient.attempt_of_bytes {unitId : UInt8} {pdu responsePdu more : List UInt8}
    {i : Incoming} (hpdu : WellFormedResponse responsePdu)
    (h : i.bytes = appendCrc (unitId :: responsePdu) ++ more) :
    (attempt (exchangeBlocking unitId pdu i)).result = checkResponse pdu responsePdu := by
  have hcheck : ∀ functionCode rest, responsePdu = functionCode :: rest →
      functionCode &&& 0x80 = 0 →
      (attempt (checkFrame pdu (appendCrc (unitId :: responsePdu)))).result =
        checkResponse pdu responsePdu := by
    intro functionCode rest heq hlow
    rw [checkFrame_appendCrc, checkResponse]
    rw [heq, raiseIfException_of_low hlow, Loop.ok_bind]
    split <;> rfl
  cases hpdu with
  | registers hfunction hdata =>
      rw [exchangeBlocking_registers hfunction hdata h]
      refine hcheck _ _ rfl ?_
      cases hfunction with
      | inl h3 => subst h3; decide
      | inr h4 => subst h4; decide
  | identification hcount hlength =>
      rw [exchangeBlocking_identification hcount hlength h]
      exact hcheck _ _ rfl (by decide)
  | @exception functionCode code hfunction =>
      rw [exchangeBlocking_exception hfunction h, checkResponse, raiseIfException, if_pos hfunction]
      rfl

/-! ## what the RTU reader accepts as an identification -/

/-- What RTU reads object by object can be parsed so. -/
theorem parseObjects_of_readObjects {n : Nat} {i i' : Incoming} {bytes : List UInt8}
    (h : readObjects n i = .ok (bytes, i')) :
    ∃ objects, parseObjects n bytes = .ok (objects, []) := by
  suffices hrest : ∀ rest, ∃ objects, parseObjects n (bytes ++ rest) = .ok (objects, rest) by
    simpa using hrest []
  intro rest
  induction n generalizing i i' bytes with
  | zero =>
      rw [readObjects, Except.ok.injEq, Prod.mk.injEq] at h
      exact ⟨[], by rw [← h.1]; rfl⟩
  | succ n ih =>
      simp only [readObjects, Loop.bind_eq_ok, Loop.pure_eq_ok, Except.ok.injEq, Prod.mk.injEq] at h
      obtain ⟨⟨header, i₁⟩, h₁, ⟨value, i₂⟩, h₂, ⟨objects, i₃⟩, h₃, hbytes, -⟩ := h
      obtain ⟨objectId, length, hheader⟩ := List.length_eq_two.mp (readExact_length h₁)
      have hvalue : value.length = length.toNat := by
        rw [readExact_length h₂, hheader]
        rfl
      obtain ⟨parsed, hparsed⟩ := ih h₃
      have hflat : bytes ++ rest = objectId :: length :: (value ++ (objects ++ rest)) := by
        rw [← hbytes, hheader]
        simp
      rw [hflat, parseObjects, ← hvalue, if_neg (by simp), List.drop_left, List.take_left, hparsed]
      exact ⟨_, rfl⟩

/-- An identification frame that the RTU reader returns parses. -/
theorem parse_of_readFrame {unitId : UInt8} {i : Incoming} {response : List UInt8}
    (h : readFrame [unitId, 0x2B] i = .ok response) :
    ∃ d, parseDeviceIdentification ((response.take (response.length - 2)).drop 1) = .ok d := by
  have hcode : [unitId, 0x2B].getD 1 0 = 0x2B := rfl
  rw [readFrame, if_neg (by simp), if_pos hcode] at h
  simp only [Loop.bind_eq_ok] at h
  obtain ⟨⟨fixed, i₁⟩, h₁, h⟩ := h
  split at h
  · cases h
  next hheader =>
    simp only [Loop.bind_eq_ok, Loop.pure_eq_ok, Except.ok.injEq] at h
    obtain ⟨⟨objects, i₂⟩, h₂, ⟨crc, i₃⟩, h₃, hresponse⟩ := h
    have hfixed := readExact_length h₁
    have hcrc := readExact_length h₃
    have hpdu : (response.take (response.length - 2)).drop 1 = 0x2B :: (fixed ++ objects) := by
      have happend : response = (unitId :: 0x2B :: (fixed ++ objects)) ++ crc := by
        simp [← hresponse]
      rw [happend, List.length_append, hcrc, Nat.add_sub_cancel, List.take_left]
      rfl
    obtain ⟨parsed, hparsed⟩ := parseObjects_of_readObjects h₂
    match fixed, hfixed with
    | [mei, code, conformity, more, next, count], _ =>
        have hmei : mei = 0x0E ∧ code = 0x01 := by simpa using hheader
        rw [hpdu, hmei.1, hmei.2]
        have hcount : parseObjects count.toNat objects = .ok (parsed, []) := hparsed
        rw [parseDeviceIdentification, if_neg (by simp), if_neg (by simp)]
        simp [hcount]

/-- A frame starts with the two bytes it was read for, and ends in a CRC. -/
theorem readFrame_head {unitId functionCode : UInt8} {i : Incoming} {frame : List UInt8}
    (h : readFrame [unitId, functionCode] i = .ok frame) :
    ∃ rest, 2 ≤ rest.length ∧ frame = unitId :: functionCode :: rest := by
  simp only [readFrame] at h
  split at h
  · simp only [Loop.bind_eq_ok, Loop.pure_eq_ok, Except.ok.injEq] at h
    obtain ⟨⟨byteCount, i₁⟩, -, ⟨rest, i₂⟩, h₂, hframe⟩ := h
    have hrest := readExact_length h₂
    refine ⟨byteCount ++ rest, ?_, by simp [← hframe]⟩
    rw [List.length_append]
    omega
  split at h
  · simp only [Loop.bind_eq_ok] at h
    obtain ⟨⟨fixed, i₁⟩, -, h⟩ := h
    split at h
    · cases h
    simp only [Loop.bind_eq_ok, Loop.pure_eq_ok, Except.ok.injEq] at h
    obtain ⟨⟨objects, i₂⟩, -, ⟨crc, i₃⟩, h₃, hframe⟩ := h
    have hcrc := readExact_length h₃
    refine ⟨fixed ++ (objects ++ crc), ?_, by simp [← hframe]⟩
    rw [List.length_append, List.length_append]
    omega
  · cases h

/-- What the RTU reader returns under function 0x2B parses. -/
theorem parse_of_exchangeBlocking {unitId : UInt8} {pdu responsePdu response : List UInt8}
    {i : Incoming} (h : exchangeBlocking unitId pdu i = .ok (responsePdu, response))
    (hfunction : responsePdu.head? = some 0x2B) :
    ∃ d, parseDeviceIdentification responsePdu = .ok d := by
  simp only [exchangeBlocking, Loop.bind_eq_ok] at h
  obtain ⟨⟨head, i₁⟩, h₁, h⟩ := h
  obtain ⟨unit, functionCode, hhead⟩ := List.length_eq_two.mp (readExact_length h₁)
  subst hhead
  simp only [List.getD_cons_zero, List.getD_cons_succ] at h
  split at h
  · cases h
  split at h
  · simp only [Loop.bind_eq_ok] at h
    obtain ⟨tail, -, h⟩ := h
    split at h <;> cases h
  simp only [Loop.bind_eq_ok] at h
  obtain ⟨frame, hframe, h⟩ := h
  unfold checkFrame at h
  split at h
  · cases h
  simp only at h
  split at h
  · cases h
  next hmatch =>
    rw [Except.ok.injEq, Prod.mk.injEq] at h
    obtain ⟨hpdu, -⟩ := h
    have hcode : functionCode = 0x2B := by
      obtain ⟨rest, hrest, hflat⟩ := readFrame_head hframe
      have hhead : ((frame.take (frame.length - 2)).drop 1).head? = some functionCode := by
        obtain ⟨n, hn⟩ : ∃ n, rest.length = n + 2 := ⟨rest.length - 2, by omega⟩
        simp [hflat, hn]
      rw [hpdu, hfunction] at hhead
      exact (Option.some.inj hhead).symm
    subst hcode
    rw [← hpdu]
    exact parse_of_readFrame hframe

/-! ## agreement -/

/-- The request PDU of a read. -/
def Request.pdu : Request → Except Failure (List UInt8)
  | holding address count => readRegistersPdu 0x03 address count
  | input address count => readRegistersPdu 0x04 address count
  | identification => .ok readDeviceIdentificationPdu

/-- What a read makes of its response PDU. -/
def Request.parse (r : Request) (responsePdu : List UInt8) : Except Failure Reading :=
  match r with
  | holding _ count => (parseRegisterResponse 0x03 count responsePdu).map .registers
  | input _ count => (parseRegisterResponse 0x04 count responsePdu).map .registers
  | identification => (parseDeviceIdentification responsePdu).map .identification

/-- A read is its request, then its parse. -/
theorem read_transportClient {σ : Type}
    (request : List UInt8 → σ → Except Failure (List UInt8) × σ) (r : Request) (s : σ) :
    (transportClient request).read r s =
      match r.pdu with
      | .error e => (.error e, s)
      | .ok pdu => ((request pdu s).1.bind r.parse, (request pdu s).2) := by
  cases r with
  | holding address count =>
      simp only [ReadOnlyModbusClient.read, transportClient, readRegisters, Request.pdu]
      cases readRegistersPdu 0x03 address count with
      | error e => rfl
      | ok pdu =>
          simp only
          cases (request pdu s).1 <;> rfl
  | input address count =>
      simp only [ReadOnlyModbusClient.read, transportClient, readRegisters, Request.pdu]
      cases readRegistersPdu 0x04 address count with
      | error e => rfl
      | ok pdu =>
          simp only
          cases (request pdu s).1 <;> rfl
  | identification =>
      simp only [ReadOnlyModbusClient.read, transportClient, Request.pdu]
      cases (request readDeviceIdentificationPdu s).1 <;> rfl

/-- The machine answers a request PDU with a correctly framed response PDU, in
any chunks and with anything behind it. -/
def AsyncModbusTcpClient.Answered {σ : Type}
    (connect : σ → List UInt8 → Except Failure Incoming × σ) (c : AsyncModbusTcpClient σ)
    (pdu responsePdu : List UInt8) : Prop :=
  let transactionId := (c.transactionId + 1) % 65536
  responsePdu.length + 1 < 65536 ∧
    ∃ i more, (connect c.device (mbapFrame transactionId c.unitId pdu)).1 = .ok i ∧
      i.bytes = mbapFrame transactionId c.unitId responsePdu ++ more

/-- The same on a serial line that is open or can be opened. -/
def AsyncModbusRtuClient.Answered {σ : Type} (line : SerialLine σ) (c : AsyncModbusRtuClient σ)
    (pdu responsePdu : List UInt8) : Prop :=
  c.closed = false ∧ ∃ c' i more, ensureOpen line c = (.ok (), c') ∧
    (line.write c'.device (appendCrc (c.unitId :: pdu))).1 = .ok i ∧
      i.bytes = appendCrc (c.unitId :: responsePdu) ++ more

/-- A TCP request that is answered returns the checked response. -/
theorem AsyncModbusTcpClient.request_of_answered {σ : Type}
    {connect : σ → List UInt8 → Except Failure Incoming × σ} {c : AsyncModbusTcpClient σ}
    {pdu responsePdu : List UInt8} (hpdu : WellFormedResponse responsePdu)
    (h : c.Answered connect pdu responsePdu) :
    (request connect pdu c).1 = checkResponse pdu responsePdu := by
  obtain ⟨hlen, i, more, hconnect, hbytes⟩ := h
  have hne : responsePdu ≠ [] := by
    have := hpdu.ne_nil
    rintro rfl
    simp at this
  rw [request]
  simp only [hconnect]
  exact attempt_of_bytes (Nat.mod_lt _ (by decide)) hne hlen hbytes

/-- Opening the port does not change the unit. -/
theorem AsyncModbusRtuClient.unitId_ensureOpen {σ : Type} {line : SerialLine σ}
    {c c' : AsyncModbusRtuClient σ} {opened : Except Failure Unit}
    (h : ensureOpen line c = (opened, c')) : c'.unitId = c.unitId := by
  unfold ensureOpen at h
  split at h
  · cases h
    rfl
  · cases h
    rfl

/-- An RTU request that is answered returns the same. -/
theorem AsyncModbusRtuClient.request_of_answered {σ : Type} {line : SerialLine σ}
    {c : AsyncModbusRtuClient σ} {pdu responsePdu : List UInt8}
    (hpdu : WellFormedResponse responsePdu) (h : c.Answered line pdu responsePdu) :
    (request line pdu c).1 = checkResponse pdu responsePdu := by
  obtain ⟨hclosed, c', i, more, hopen, hwrite, hbytes⟩ := h
  have hexchange : (exchange line pdu (appendCrc (c.unitId :: pdu)) c).1 =
      exchangeBlocking c.unitId pdu i := by
    rw [exchange, hopen]
    simp only [hwrite, unitId_ensureOpen hopen, Except.bind]
    cases exchangeBlocking c.unitId pdu i <;> rfl
  rw [request, if_neg (by simp [hclosed])]
  simp only [hexchange]
  exact attempt_of_bytes hpdu hbytes

/-- **Agreement.**  A read that is answered with a well-formed response, framed
for each transport and in any chunks, ends in the same way on both; and an
identification that the RTU reader returns parses. -/
theorem transports_agree :
    (∀ {σ τ : Type} {connect : σ → List UInt8 → Except Failure Incoming × σ} {line : SerialLine τ}
      {c : AsyncModbusTcpClient σ} {d : AsyncModbusRtuClient τ} {r : Request}
      {responsePdu : List UInt8}, WellFormedResponse responsePdu →
      (∀ pdu, r.pdu = .ok pdu → c.Answered connect pdu responsePdu) →
      (∀ pdu, r.pdu = .ok pdu → d.Answered line pdu responsePdu) →
      ((AsyncModbusTcpClient.client connect).read r c).1 =
        ((AsyncModbusRtuClient.client line).read r d).1) ∧
    ∀ {unitId : UInt8} {pdu responsePdu response : List UInt8} {i : Incoming},
      exchangeBlocking unitId pdu i = .ok (responsePdu, response) →
      responsePdu.head? = some 0x2B → ∃ d, parseDeviceIdentification responsePdu = .ok d := by
  constructor
  · intro σ τ connect line c d r responsePdu hpdu htcp hrtu
    rw [AsyncModbusTcpClient.client, AsyncModbusRtuClient.client, read_transportClient,
      read_transportClient]
    cases hr : r.pdu with
    | error e => rfl
    | ok pdu =>
        simp only [AsyncModbusTcpClient.request_of_answered hpdu (htcp pdu hr),
          AsyncModbusRtuClient.request_of_answered hpdu (hrtu pdu hr)]
  · intro unitId pdu responsePdu response i h hfunction
    exact parse_of_exchangeBlocking h hfunction

/-- A machine that sends its answer one byte at a time. -/
def byteByByte (frame : List UInt8) : Unit → List UInt8 → Except Failure Incoming × Unit :=
  fun s _ => (.ok { chunks := frame.map fun b => [b] }, s)

/-- `"PS"` as vendor name, and an empty product code. -/
def shortObjects : List (UInt8 × List UInt8) := [(0x00, [0x50, 0x53]), (0x01, [])]

def shortIdentification : List UInt8 :=
  [0x2B, 0x0E, 0x01, 0x01, 0x00, 0x00, UInt8.ofNat shortObjects.length] ++
    encodeObjects shortObjects

/-- The response of the example. -/
theorem shortIdentification_wellFormed : WellFormedResponse shortIdentification :=
  .identification (by decide) (by decide)

/-- One identification over both transports. -/
theorem transports_agree_identification :
    ((AsyncModbusTcpClient.client (byteByByte (mbapFrame 1 1 shortIdentification))).read
        .identification { unitId := 1, unit_valid := by decide, device := () }).1 =
      ((AsyncModbusRtuClient.client ⟨fun s => (.ok (), s),
        byteByByte (appendCrc (1 :: shortIdentification))⟩).read
        .identification { unitId := 1, unit_valid := by decide, device := () }).1 ∧
    ∃ d, parseDeviceIdentification shortIdentification = .ok d := by
  constructor
  · refine transports_agree.1 shortIdentification_wellFormed (fun pdu _ => ?_) (fun pdu _ => ?_)
    · exact ⟨by decide, _, [], rfl, by decide⟩
    · exact ⟨rfl, _, _, [], rfl, rfl, by decide +kernel⟩
  · have hread : exchangeBlocking 1 readDeviceIdentificationPdu
        { chunks := [appendCrc (1 :: shortIdentification)] } =
          .ok (shortIdentification, appendCrc (1 :: shortIdentification)) := by
      decide +kernel
    exact transports_agree.2 hread rfl

end MorningstarModbus
