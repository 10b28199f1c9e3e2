import MorningstarModbus.Lib.Json
import MorningstarModbus.Transports.Modbus

/-!
# MorningstarModbus.Capture.Replay

Capture bundles and their replay (`capture/recorder.py`, `capture/replay.py`).

A recorder keeps the exchanges of a client in order; a bundle stores one JSON
object a line; the replay client answers from the loaded objects, one for each
read, and raises where a read is not the recorded one.
-/

namespace MorningstarModbus

open Bytes

/-! ## transactions -/

def jsonInt : Option Int → Json.Value
  | none => .null
  | some i => .int i

/-- `exchange.to_dict()`, in the order `sort_keys` writes it. -/
def ModbusExchange.toDict (e : ModbusExchange) : Json.Object :=
  [("address", jsonInt e.address),
   ("count", jsonInt e.count),
   ("error", .str e.error),
   ("error_type", .str e.errorType),
   ("function_code", .int e.functionCode),
   ("request_hex", .str e.requestHex),
   ("request_pdu_hex", .str e.requestPduHex),
   ("response_hex", .str e.responseHex),
   ("response_pdu_hex", .str e.responsePduHex),
   ("transport", .str e.transport.name),
   ("unit_id", .int e.unitId)]

/-- The `transactions.jsonl` that `write_capture_bundle` writes. -/
def writeTransactions (exchanges : List ModbusExchange) : List Char :=
  exchanges.flatMap fun e => (Json.dumps e.toDict).toList ++ ['\n']

/-- `load_capture_transactions`; `none` is an exception of `json.loads`. -/
def loadCaptureTransactions (text : List Char) : Option (List Json.Object) :=
  ((Text.splitlines text).filter fun line => Text.stripChars line ≠ []).mapM fun line =>
    Json.loads (String.ofList line)

/-! ## replay -/

/-- `ReplayModbusClient` -/
structure ReplayModbusClient where
  transactions : List Json.Object
  index : Nat := 0
  closed : Bool := false

namespace ReplayModbusClient

def mismatch (message : String) : Failure :=
  .other { typeName := "ReplayMismatch", message, named := by decide }

def recordedError (message : String) : Failure :=
  .other { typeName := "ReplayRecordedError", message, named := by decide }

def keyError (key : String) : Failure :=
  .other { typeName := "KeyError", message := "'" ++ key ++ "'", named := by decide }

/-- `int(value)` -/
def pyInt : Json.Value → Except Failure Int
  | .int i => .ok i
  | .str s => match Json.readInt (Text.stripChars s.toList) with
      | some (i, []) => .ok i
      | _ => .error (.value ("invalid literal for int() with base 10: '" ++ s ++ "'"))
  | .null => .error (.other { typeName := "TypeError", message := "int() argument must be a number",
                              named := by decide })

/-- `str(value)` -/
def pyStr : Json.Value → String
  | .int i => toString i
  | .str s => s
  | .null => "None"

/-- `repr(value)`, without the escapes of a text. -/
def pyRepr : Json.Value → String
  | .str s => "'" ++ s ++ "'"
  | value => pyStr value

/-- `str(item.get(key) or default)` -/
def textOr (item : Json.Object) (key default : String) : String :=
  match item.get key with
  | none => default
  | some .null => default
  | some (.int i) => if i = 0 then default else toString i
  | some (.str s) => if s = "" then default else s

def requestRepr (functionCode address count : Json.Value) : String :=
  "(" ++ pyRepr functionCode ++ ", " ++ pyRepr address ++ ", " ++ pyRepr count ++ ")"

/-- The checks of `_next` on the item it takes. -/
def checkItem (functionCode : Int) (address count : Option Int) (item : Json.Object) :
    Except Failure Json.Object :=
  match item.get "function_code" with
  | none => .error (keyError "function_code")
  | some value => do
      let code ← pyInt value
      let expected := (Json.Value.int code, (item.get "address").getD .null,
        (item.get "count").getD .null)
      let actual := (Json.Value.int functionCode, jsonInt address, jsonInt count)
      let errorType := textOr item "error_type" ""
      let error := textOr item "error" "recorded Modbus failure"
      if expected ≠ actual then
        .error (mismatch ("request mismatch expected=" ++
          requestRepr expected.1 expected.2.1 expected.2.2 ++ " actual=" ++
          requestRepr actual.1 actual.2.1 actual.2.2))
      else if errorType ≠ "" then
        if errorType = "TimeoutError" ∨ errorType = "CancelledError" then .error (.timeout error)
        else .error (recordedError (errorType ++ ": " ++ error))
      else return item

/-- `_next`: an item is used up even when it is refused. -/
def next (functionCode : Int) (address count : Option Int) (c : ReplayModbusClient) :
    Except Failure Json.Object × ReplayModbusClient :=
  if c.closed then
    (.error (runtimeError "replay client is closed"), c)
  else match c.transactions[c.index]? with
    | none => (.error (mismatch "capture exhausted before runtime stopped requesting data"), c)
    | some item => (checkItem functionCode address count item, { c with index := c.index + 1 })

/-- `bytes.fromhex(str(item["response_pdu_hex"]))` -/
def responsePdu (item : Json.Object) : Except Failure (List UInt8) :=
  match item.get "response_pdu_hex" with
  | none => .error (keyError "response_pdu_hex")
  | some value => match fromHex (pyStr value) with
      | none => .error (.value "non-hexadecimal number found in fromhex() arg")
      | some pdu => .ok pdu

/-- The register reads, by function code. -/
def readRegisters (functionCode : UInt8) (address count : Int) (c : ReplayModbusClient) :
    Except Failure (List Nat) × ReplayModbusClient :=
  let (item, c) := next functionCode.toNat (some address) (some count) c
  ((item.bind responsePdu).bind (parseRegisterResponse functionCode count), c)

def client : ReadOnlyModbusClient ReplayModbusClient where
  readHoldingRegisters := readRegisters 0x03
  readInputRegisters := readRegisters 0x04
  readDeviceIdentification c :=
    let (item, c) := next 0x2B none none c
    ((item.bind responsePdu).bind parseDeviceIdentification, c)

/-- `remaining` -/
def remaining (c : ReplayModbusClient) : Nat := c.transactions.length - c.index

end ReplayModbusClient

/-! ## programs -/

/-- All that a program may distinguish about a failure. -/
inductive FailureKind where
  | timeout
  | other
  deriving DecidableEq

def Failure.kind (e : Failure) : FailureKind := if e.isTimeout then .timeout else .other

abbrev Outcome := Except FailureKind Reading

/-- A sequential program over a read-only client: every read it makes may depend
on the outcomes so far. -/
inductive Program (α : Type) where
  | done (a : α)
  | read (r : Request) (valid : r.Valid) (next : Outcome → Program α)

/-- The result of a program and the outcomes it saw, in order. -/
def Program.run {α σ : Type} (client : ReadOnlyModbusClient σ) :
    Program α → σ → (α × List Outcome) × σ
  | .done a, s => ((a, []), s)
  | .read r _ next, s =>
      let (result, s) := client.read r s
      let outcome := result.mapError Failure.kind
      let (rest, s) := (next outcome).run client s
      ((rest.1, outcome :: rest.2), s)

end MorningstarModbus
