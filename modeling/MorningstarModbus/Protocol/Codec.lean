import MorningstarModbus.Lib.Bytes
import MorningstarModbus.Domain.Models

/-!
# MorningstarModbus.Protocol.Codec

The read-only Modbus codec that both transports share (`protocol/codec.py`,
`protocol/errors.py`): CRC framing, request PDUs, and the two response parsers.

* `validCrc_appendCrc` — a frame passes its own check;
* `parseObjects_encode` — identification objects read back from their bytes.
-/

namespace MorningstarModbus

open Bytes

/-! ## exceptions -/

/-- An exception of a class that this program does not distinguish: an operating
system or serial port error, the end of a stream, or one of its own. -/
structure OtherError where
  typeName : String
  message : String
  isOSError : Bool := false
  named : typeName ≠ "" ∧ typeName ≠ "TimeoutError" ∧ typeName ≠ "CancelledError"
  deriving DecidableEq

/-- What a read can raise. -/
inductive Failure where
  /-- `ModbusProtocolError` -/
  | protocol (message : String)
  /-- `ModbusDeviceError` -/
  | device (functionCode exceptionCode : UInt8)
  /-- `ValueError` -/
  | value (message : String)
  /-- `TimeoutError` -/
  | timeout (message : String)
  | other (e : OtherError)
  deriving DecidableEq

/-- `RuntimeError` -/
def runtimeError (message : String) : Failure :=
  .other { typeName := "RuntimeError", message, named := by decide }

namespace Failure

/-- `type(error).__name__` -/
def typeName : Failure → String
  | protocol _ => "ModbusProtocolError"
  | device _ _ => "ModbusDeviceError"
  | value _ => "ValueError"
  | timeout _ => "TimeoutError"
  | other e => e.typeName

/-- `str(error)` -/
def message : Failure → String
  | protocol message => message
  | device functionCode exceptionCode =>
      "Modbus device exception function=0x" ++ hex [functionCode] ++ " code=0x" ++
        hex [exceptionCode]
  | value message => message
  | timeout message => message
  | other e => e.message

/-- `isinstance(error, TimeoutError)` -/
def isTimeout : Failure → Bool
  | timeout _ => true
  | _ => false

/-- `isinstance(error, (OSError, TimeoutError))` -/
def isOSError : Failure → Bool
  | timeout _ => true
  | other e => e.isOSError
  | _ => false

theorem typeName_ne_empty (e : Failure) : e.typeName ≠ "" := by
  cases e with
  | other e => exact e.named.1
  | _ => simp [typeName]

/-- The two names the replay takes for a timeout are the timeout's. -/
theorem typeName_timeout_iff (e : Failure) :
    (e.typeName = "TimeoutError" ∨ e.typeName = "CancelledError") ↔ e.isTimeout = true := by
  cases e with
  | other e => simp [typeName, isTimeout, e.named.2]
  | _ => simp [typeName, isTimeout]

end Failure

/-! ## CRC -/

def crcShift (crc : BitVec 16) : BitVec 16 :=
  if crc &&& 1 ≠ 0 then (crc >>> 1) ^^^ 0xA001 else crc >>> 1

def crcByte (crc : BitVec 16) (byte : UInt8) : BitVec 16 :=
  Nat.repeat crcShift 8 (crc ^^^ byte.toBitVec.setWidth 16)

/-- `crc16` -/
def crc16 (payload : List UInt8) : BitVec 16 := payload.foldl crcByte 0xFFFF

/-- `struct.pack("<H", crc)` -/
def packCrc (crc : BitVec 16) : List UInt8 := [UInt8.ofNat crc.toNat, UInt8.ofNat (crc.toNat / 256)]

/-- `struct.unpack("<H", …)` -/
def unpackCrc (bs : List UInt8) : BitVec 16 :=
  BitVec.ofNat 16 ((bs.getD 0 0).toNat + 256 * (bs.getD 1 0).toNat)

/-- `append_crc` -/
def appendCrc (payload : List UInt8) : List UInt8 := payload ++ packCrc (crc16 payload)

/-- `valid_crc` -/
def validCrc (frame : List UInt8) : Bool :=
  3 ≤ frame.length ∧ crc16 (frame.take (frame.length - 2)) = unpackCrc (frame.drop (frame.length - 2))

theorem unpackCrc_packCrc (crc : BitVec 16) : unpackCrc (packCrc crc) = crc := by
  have h := crc.isLt
  apply BitVec.eq_of_toNat_eq
  simp only [unpackCrc, packCrc, List.getD_cons_zero, List.getD_cons_succ, UInt8.toNat_ofNat',
    BitVec.toNat_ofNat]
  omega

theorem take_appendCrc (payload : List UInt8) :
    (appendCrc payload).take ((appendCrc payload).length - 2) = payload := by
  simp [appendCrc, packCrc]

theorem drop_appendCrc (payload : List UInt8) :
    (appendCrc payload).drop ((appendCrc payload).length - 2) = packCrc (crc16 payload) := by
  simp [appendCrc, packCrc]

/-- A frame passes its own check. -/
theorem validCrc_appendCrc {payload : List UInt8} (h : payload ≠ []) :
    validCrc (appendCrc payload) = true := by
  have hpos : 0 < payload.length := List.length_pos_iff.mpr h
  have hlen : (appendCrc payload).length = payload.length + 2 := by
    simp [appendCrc, packCrc]
  rw [validCrc, take_appendCrc, drop_appendCrc, unpackCrc_packCrc, hlen]
  simp
  omega

/-! ## requests -/

/-- `READ_DEVICE_IDENTIFICATION` -/
def readDeviceIdentificationPdu : List UInt8 := [0x2B, 0x0E, 0x01, 0x00]

/-- `read_registers_pdu` -/
def readRegistersPdu (functionCode : UInt8) (address count : Int) : Except Failure (List UInt8) :=
  if functionCode ≠ 0x03 ∧ functionCode ≠ 0x04 then
    .error (.value "only holding (0x03) and input (0x04) reads are supported")
  else if ¬(0 ≤ address ∧ address ≤ 0xFFFF) then .error (.value "address must fit uint16")
  else if ¬(1 ≤ count ∧ count ≤ 125) then .error (.value "count must be between 1 and 125")
  else .ok (functionCode :: (packWord address.toNat ++ packWord count.toNat))

/-! ## responses -/

/-- `parse_register_response` -/
def parseRegisterResponse (functionCode : UInt8) (count : Int) (pdu : List UInt8) :
    Except Failure (List Nat) :=
  if pdu.length < 2 ∨ pdu.head? ≠ some functionCode then
    .error (.protocol "unexpected register response function")
  else if ((pdu.getD 1 0).toNat : Int) ≠ count * 2 ∨ ((pdu.drop 2).length : Int) ≠ count * 2 then
    .error (.protocol "register response byte count mismatch")
  else .ok (words (pdu.drop 2))

/-- `bytes.decode("ascii", errors="replace")` -/
def decodeAscii (bs : List UInt8) : String :=
  String.ofList (bs.map fun b => if b.toNat < 128 then Char.ofNat b.toNat else Char.ofNat 0xFFFD)

/-- The loop over the identification objects, from the cursor on. -/
def parseObjects : Nat → List UInt8 → Except Failure (List (Nat × String) × List UInt8)
  | 0, rest => .ok ([], rest)
  | n + 1, objectId :: length :: rest =>
      if rest.length < length.toNat then
        .error (.protocol "truncated device-identification object value")
      else do
        let (objects, left) ← parseObjects n (rest.drop length.toNat)
        return ((objectId.toNat, Text.strip (decodeAscii (rest.take length.toNat))) :: objects, left)
  | _ + 1, _ => .error (.protocol "truncated device-identification object header")

/-- `dict(objects).get(key, "")`: the last object with the key counts. -/
def objectValue (objects : List (Nat × String)) (key : Nat) : String :=
  (objects.reverse.lookup key).getD ""

/-- `parse_device_identification` -/
def parseDeviceIdentification (pdu : List UInt8) : Except Failure DeviceIdentification :=
  if pdu.length < 7 then .error (.protocol "truncated Read Device Identification response")
  else if pdu.take 3 ≠ [0x2B, 0x0E, 0x01] then
    .error (.protocol "unexpected Read Device Identification header")
  else do
    let (objects, left) ← parseObjects (pdu.getD 6 0).toNat (pdu.drop 7)
    if left ≠ [] then
      .error (.protocol "unexpected trailing bytes in device-identification response")
    else return {
      vendorName := objectValue objects 0x00
      productCode := objectValue objects 0x01
      majorMinorRevision := objectValue objects 0x02
      conformityLevel := (pdu.getD 3 0).toNat
      rawObjects := objects
      rawPduHex := hex pdu }

/-! ## identification objects -/

/-- Objects as they lie in a response: id, length, value. -/
def encodeObjects (objects : List (UInt8 × List UInt8)) : List UInt8 :=
  objects.flatMap fun o => o.1 :: UInt8.ofNat o.2.length :: o.2

/-- Objects read back from their bytes. -/
theorem parseObjects_encode {objects : List (UInt8 × List UInt8)}
    (h : ∀ o ∈ objects, o.2.length < 256) (rest : List UInt8) :
    parseObjects objects.length (encodeObjects objects ++ rest) =
      .ok (objects.map fun o => (o.1.toNat, Text.strip (decodeAscii o.2)), rest) := by
  induction objects with
  | nil => rfl
  | cons o objects ih =>
      have hlen : (UInt8.ofNat o.2.length).toNat = o.2.length := by
        rw [UInt8.toNat_ofNat', Nat.mod_eq_of_lt (h o List.mem_cons_self)]
      have hrest := ih fun p hp => h p (List.mem_cons_of_mem o hp)
      have hflat : encodeObjects (o :: objects) ++ rest =
          o.1 :: UInt8.ofNat o.2.length :: (o.2 ++ (encodeObjects objects ++ rest)) := by
        simp [encodeObjects]
      rw [hflat, List.length_cons, parseObjects, hlen, if_neg (by simp), List.drop_left,
        List.take_left, hrest]
      rfl

end MorningstarModbus
