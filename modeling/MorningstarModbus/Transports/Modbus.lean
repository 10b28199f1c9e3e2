import MorningstarModbus.Lib.Stream
import MorningstarModbus.Protocol.Codec

/-!
# MorningstarModbus.Transports.Modbus

The Modbus TCP and RTU clients (`transports/modbus.py`).

What a client talks to is any machine that answers each request with the chunks
that arrive before the deadline and with how the wait for more of them ends, or
that fails at once.  TCP knows the length of a response from its header; RTU
finds it out while reading.
-/

namespace MorningstarModbus

open Bytes

/-! ## what arrives -/

/-- How the wait for more bytes ends. -/
inductive Ending where
  /-- the deadline passes -/
  | silent
  /-- the peer closes the connection; a serial port never does -/
  | eof
  | failed (e : Failure)
  deriving DecidableEq

structure Incoming where
  chunks : List (List UInt8)
  ending : Ending := .silent
  deriving DecidableEq

/-- The bytes that arrive. -/
def Incoming.bytes (i : Incoming) : List UInt8 := i.chunks.flatten

/-! ## the client interface -/

/-- `ReadOnlyModbusClient` -/
structure ReadOnlyModbusClient (σ : Type) where
  readHoldingRegisters : Int → Int → σ → Except Failure (List Nat) × σ
  readInputRegisters : Int → Int → σ → Except Failure (List Nat) × σ
  readDeviceIdentification : σ → Except Failure DeviceIdentification × σ

/-- A read that a program asks a client for. -/
inductive Request where
  | holding (address count : Int)
  | input (address count : Int)
  | identification
  deriving DecidableEq

/-- The address and the count are ones `read_registers_pdu` accepts. -/
def Request.Valid : Request → Prop
  | holding address count => (0 ≤ address ∧ address ≤ 0xFFFF) ∧ 1 ≤ count ∧ count ≤ 125
  | input address count => (0 ≤ address ∧ address ≤ 0xFFFF) ∧ 1 ≤ count ∧ count ≤ 125
  | identification => True

instance (r : Request) : Decidable r.Valid :=
  match r with
  | .holding address count => inferInstanceAs
      (Decidable ((0 ≤ address ∧ address ≤ 0xFFFF) ∧ 1 ≤ count ∧ count ≤ 125))
  | .input address count => inferInstanceAs
      (Decidable ((0 ≤ address ∧ address ≤ 0xFFFF) ∧ 1 ≤ count ∧ count ≤ 125))
  | .identification => inferInstanceAs (Decidable True)

inductive Reading where
  | registers (values : List Nat)
  | identification (d : DeviceIdentification)
  deriving DecidableEq

/-- One read of a client. -/
def ReadOnlyModbusClient.read {σ : Type} (client : ReadOnlyModbusClient σ) (r : Request) (s : σ) :
    Except Failure Reading × σ :=
  match r with
  | .holding address count =>
      let (result, s) := client.readHoldingRegisters address count s
      (result.map .registers, s)
  | .input address count =>
      let (result, s) := client.readInputRegisters address count s
      (result.map .registers, s)
  | .identification =>
      let (result, s) := client.readDeviceIdentification s
      (result.map .identification, s)

/-- The register reads of both transports, over their `_request`. -/
def readRegisters {σ : Type} (request : List UInt8 → σ → Except Failure (List UInt8) × σ)
    (functionCode : UInt8) (address count : Int) (s : σ) : Except Failure (List Nat) × σ :=
  match readRegistersPdu functionCode address count with
  | .error e => (.error e, s)
  | .ok pdu =>
      let (response, s) := request pdu s
      (response.bind (parseRegisterResponse functionCode count), s)

/-- The read methods of both transports, over their `_request`. -/
def transportClient {σ : Type} (request : List UInt8 → σ → Except Failure (List UInt8) × σ) :
    ReadOnlyModbusClient σ where
  readHoldingRegisters := readRegisters request 0x03
  readInputRegisters := readRegisters request 0x04
  readDeviceIdentification s :=
    let (response, s) := request readDeviceIdentificationPdu s
    (response.bind parseDeviceIdentification, s)

/-! ## observing -/

/-- What one request came to: the bytes an observer sees, and the outcome. -/
structure Attempt where
  response : List UInt8 := []
  responsePdu : List UInt8 := []
  result : Except Failure (List UInt8)

/-- `_request_shape` -/
def requestShape : List UInt8 → Option Int × Option Int
  | functionCode :: a₁ :: a₀ :: c₁ :: c₀ :: _ =>
      if functionCode = 0x03 ∨ functionCode = 0x04 then
        (some (word a₁ a₀), some (word c₁ c₀))
      else (none, none)
  | _ => (none, none)

/-- The exchange that `_observe` hands to the observer. -/
def exchangeOf (transport : Transport) (unitId : UInt8) (pdu request : List UInt8) (a : Attempt) :
    ModbusExchange where
  transport
  unitId := unitId.toNat
  functionCode := (pdu.headD 0).toNat
  address := (requestShape pdu).1
  count := (requestShape pdu).2
  requestHex := hex request
  responseHex := hex a.response
  requestPduHex := hex pdu
  responsePduHex := hex a.responsePdu
  errorType := match a.result with
    | .ok _ => ""
    | .error e => e.typeName
  error := match a.result with
    | .ok _ => ""
    | .error e => e.message

/-- `_observe`: a client without observer records nothing. -/
def observe (observer : Option (List ModbusExchange)) (e : ModbusExchange) :
    Option (List ModbusExchange) :=
  observer.map (· ++ [e])

/-! ## TCP -/

/-- `asyncio.IncompleteReadError` -/
def incompleteRead (read expected : Nat) : Failure :=
  .other { typeName := "IncompleteReadError"
           message := toString read ++ " bytes read on a total of " ++ toString expected ++
             " expected bytes"
           named := by decide }

/-- `StreamReader.readexactly` -/
def readexactly (n : Nat) (incoming : Incoming) : Except Failure (List UInt8 × Incoming) :=
  match Stream.take n incoming.chunks with
  | some (bytes, rest) => .ok (bytes, { incoming with chunks := rest })
  | none => match incoming.ending with
      | .silent => .error (.timeout "")
      | .eof => .error (incompleteRead incoming.bytes.length n)
      | .failed e => .error e

/-- `_raise_if_exception` -/
def raiseIfException : List UInt8 → Except Failure Unit
  | [] => .error (.protocol "empty Modbus response")
  | functionCode :: rest =>
      if functionCode &&& 0x80 ≠ 0 then
        match rest with
        | [] => .error (.protocol "truncated Modbus exception response")
        | code :: _ => .error (.device (functionCode &&& 0x7F) code)
      else .ok ()

/-- `struct.pack(">HHHB", transaction_id, 0, len(pdu) + 1, unit_id) + pdu` -/
def mbapFrame (transactionId : Nat) (unitId : UInt8) (pdu : List UInt8) : List UInt8 :=
  packWord transactionId ++ packWord 0 ++ packWord (pdu.length + 1) ++ unitId :: pdu

/-- The body of the TCP deadline: the header, then the PDU it announces. -/
def readMbap (transactionId : Nat) (unitId : UInt8) (incoming : Incoming) :
    Except Failure (List UInt8 × List UInt8) := do
  let (header, incoming) ← readexactly 7 incoming
  let rxId := word (header.getD 0 0) (header.getD 1 0)
  let protocolId := word (header.getD 2 0) (header.getD 3 0)
  let length := word (header.getD 4 0) (header.getD 5 0)
  if rxId ≠ transactionId ∨ protocolId ≠ 0 ∨ header.getD 6 0 ≠ unitId then
    .error (.protocol "invalid Modbus TCP response header")
  else if length < 2 then .error (.protocol "invalid Modbus TCP response length")
  else do
    let (responsePdu, _) ← readexactly (length - 1) incoming
    return (header, responsePdu)

/-- The checks on a response PDU after the TCP deadline. -/
def checkResponse (pdu responsePdu : List UInt8) : Except Failure (List UInt8) := do
  raiseIfException responsePdu
  if responsePdu.head? ≠ pdu.head? then .error (.protocol "Modbus function code mismatch")
  else return responsePdu

/-- `AsyncModbusTcpClient`, with what its observer has seen and the machine at
the other end. -/
structure AsyncModbusTcpClient (σ : Type) where
  unitId : UInt8
  unit_valid : 1 ≤ unitId.toNat ∧ unitId.toNat ≤ 247
  transactionId : Nat := 0
  observer : Option (List ModbusExchange) := none
  device : σ

namespace AsyncModbusTcpClient

variable {σ : Type}

/-- The outcome of one attempt, from what arrived. -/
def attempt (transactionId : Nat) (unitId : UInt8) (pdu : List UInt8)
    (incoming : Except Failure Incoming) : Attempt :=
  match incoming.bind (readMbap transactionId unitId) with
  | .error e => { result := .error e }
  | .ok (header, responsePdu) =>
      { response := header ++ responsePdu, responsePdu, result := checkResponse pdu responsePdu }

/-- `_request`.  `connect` is the machine's part: opening the connection and
taking the request. -/
def request (connect : σ → List UInt8 → Except Failure Incoming × σ) (pdu : List UInt8)
    (c : AsyncModbusTcpClient σ) : Except Failure (List UInt8) × AsyncModbusTcpClient σ :=
  let transactionId := (c.transactionId + 1) % 65536
  let frame := mbapFrame transactionId c.unitId pdu
  let (incoming, device) := connect c.device frame
  let a := attempt transactionId c.unitId pdu incoming
  (a.result, { c with transactionId, device,
                      observer := observe c.observer (exchangeOf .tcp c.unitId pdu frame a) })

def client (connect : σ → List UInt8 → Except Failure Incoming × σ) :
    ReadOnlyModbusClient (AsyncModbusTcpClient σ) :=
  transportClient (request connect)

end AsyncModbusTcpClient

/-! ## RTU -/

/-- `_read_exact` -/
def readExact (size : Nat) (incoming : Incoming) : Except Failure (List UInt8 × Incoming) :=
  match Stream.take size incoming.chunks with
  | some (bytes, rest) => .ok (bytes, { incoming with chunks := rest })
  | none => match incoming.ending with
      | .failed e => .error e
      | _ => .error (.timeout ("timed out reading " ++ toString size ++ " RTU bytes"))

/-- The loop over the identification objects. -/
def readObjects : Nat → Incoming → Except Failure (List UInt8 × Incoming)
  | 0, incoming => .ok ([], incoming)
  | n + 1, incoming => do
      let (header, incoming) ← readExact 2 incoming
      let (value, incoming) ← readExact (header.getD 1 0).toNat incoming
      let (objects, incoming) ← readObjects n incoming
      return (header ++ (value ++ objects), incoming)

/-- The frame that starts with unit id and function code, by its function code. -/
def readFrame (head : List UInt8) (incoming : Incoming) : Except Failure (List UInt8) :=
  let functionCode := head.getD 1 0
  if functionCode = 0x03 ∨ functionCode = 0x04 then do
    let (byteCount, incoming) ← readExact 1 incoming
    let (rest, _) ← readExact ((byteCount.getD 0 0).toNat + 2) incoming
    return head ++ (byteCount ++ rest)
  else if functionCode = 0x2B then do
    let (fixed, incoming) ← readExact 6 incoming
    if fixed.getD 0 0 ≠ 0x0E ∨ fixed.getD 1 0 ≠ 0x01 then
      .error (.protocol "unexpected device-identification RTU header")
    else do
      let (objects, incoming) ← readObjects (fixed.getD 5 0).toNat incoming
      let (crc, _) ← readExact 2 incoming
      return head ++ (fixed ++ (objects ++ crc))
  else .error (.protocol ("unsupported RTU function 0x" ++ hex [functionCode]))

/-- The checks on a frame: CRC, then function code.  `response[1:-2]` is the PDU. -/
def checkFrame (pdu response : List UInt8) : Except Failure (List UInt8 × List UInt8) :=
  if validCrc response = false then .error (.protocol "invalid RTU CRC")
  else
    let responsePdu := (response.take (response.length - 2)).drop 1
    if responsePdu.head? ≠ pdu.head? then .error (.protocol "Modbus function code mismatch")
    else .ok (responsePdu, response)

/-- `_exchange_blocking`, from the first byte read. -/
def exchangeBlocking (unitId : UInt8) (pdu : List UInt8) (incoming : Incoming) :
    Except Failure (List UInt8 × List UInt8) := do
  let (head, incoming) ← readExact 2 incoming
  let functionCode := head.getD 1 0
  if head.getD 0 0 ≠ unitId then
    .error (.protocol ("unexpected unit ID " ++ toString (head.getD 0 0).toNat))
  else if functionCode &&& 0x80 ≠ 0 then do
    let (tail, _) ← readExact 3 incoming
    if validCrc (head ++ tail) = false then .error (.protocol "invalid RTU CRC")
    else .error (.device (functionCode &&& 0x7F) (tail.getD 0 0))
  else do
    let response ← readFrame head incoming
    checkFrame pdu response

/-- What a serial line and the devices on it do. -/
structure SerialLine (σ : Type) where
  /-- `serial.Serial(…)` -/
  openPort : σ → Except Failure Unit × σ
  /-- clearing the buffers and writing the request -/
  write : σ → List UInt8 → Except Failure Incoming × σ

/-- `AsyncModbusRtuClient`, with what its observer has seen and the line. -/
structure AsyncModbusRtuClient (σ : Type) where
  unitId : UInt8
  unit_valid : 1 ≤ unitId.toNat ∧ unitId.toNat ≤ 247
  /-- `_serial is not None` -/
  isOpen : Bool := false
  closed : Bool := false
  observer : Option (List ModbusExchange) := none
  device : σ

namespace AsyncModbusRtuClient

variable {σ : Type}

/-- `_ensure_open_blocking` -/
def ensureOpen (line : SerialLine σ) (c : AsyncModbusRtuClient σ) :
    Except Failure Unit × AsyncModbusRtuClient σ :=
  if c.isOpen then (.ok (), c)
  else
    let (opened, device) := line.openPort c.device
    (opened, { c with device, isOpen := opened.isOk })

/-- `_exchange_blocking`: the port is closed after an `OSError` or a timeout, and
opening it is not part of that. -/
def exchange (line : SerialLine σ) (pdu frame : List UInt8) (c : AsyncModbusRtuClient σ) :
    Except Failure (List UInt8 × List UInt8) × AsyncModbusRtuClient σ :=
  match ensureOpen line c with
  | (.error e, c) => (.error e, c)
  | (.ok _, c) =>
      let (incoming, device) := line.write c.device frame
      match incoming.bind (exchangeBlocking c.unitId pdu) with
      | .error e => (.error e, { c with device, isOpen := c.isOpen && !e.isOSError })
      | .ok response => (.ok response, { c with device })

/-- The outcome of one attempt, from the exchange. -/
def attempt : Except Failure (List UInt8 × List UInt8) → Attempt
  | .error e => { result := .error e }
  | .ok (responsePdu, response) => { response, responsePdu, result := .ok responsePdu }

/-- `_request` -/
def request (line : SerialLine σ) (pdu : List UInt8) (c : AsyncModbusRtuClient σ) :
    Except Failure (List UInt8) × AsyncModbusRtuClient σ :=
  if c.closed then
    (.error (runtimeError "RTU client is closed"), c)
  else
    let frame := appendCrc (c.unitId :: pdu)
    let (exchanged, c) := exchange line pdu frame c
    let a := attempt exchanged
    (a.result, { c with observer := observe c.observer (exchangeOf .serial c.unitId pdu frame a) })

def client (line : SerialLine σ) : ReadOnlyModbusClient (AsyncModbusRtuClient σ) :=
  transportClient (request line)

end AsyncModbusRtuClient

end MorningstarModbus
