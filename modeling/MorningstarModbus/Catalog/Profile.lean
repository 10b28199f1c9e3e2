import Mathlib.Data.Prod.Lex
import MorningstarModbus.Catalog.Scaling
import MorningstarModbus.Lib.Program
import MorningstarModbus.Lib.Query

/-!
# MorningstarModbus.Catalog.Profile

The profile of a device (`CatalogProfile` of `catalog/profile.py`): metadata blocks
are read once and kept, the other blocks at every poll, and registers are decoded
from the words.

A device answers a request as it likes, and differently each time it is asked.
-/

namespace MorningstarModbus.Catalog

open Effects Query

/-! ## words -/

abbrev WordKey := RegisterFunction × Nat

/-- Words by their keys, in the order in which the keys were set first. -/
abbrev WordMap := List (WordKey × Nat)

namespace WordMap

/-- `words[key] = word` -/
def set (words : WordMap) (key : WordKey) (word : Nat) : WordMap :=
  Table.upsert Prod.fst (fun _ new => new) (key, word) words

/-- The words of a reply, under their keys. -/
def store (words : WordMap) (function : RegisterFunction) (address : Nat) (reply : List Nat) :
    WordMap :=
  reply.zipIdx.foldl (fun words entry => words.set (function, address + entry.2) entry.1) words

/-- The words of one function. -/
def context (words : WordMap) (function : RegisterFunction) : WordContext := fun address =>
  words.lookup (function, address)

/-- Keys compare by the names of the functions, then by addresses. -/
def rank (key : WordKey) : ℕ ×ₗ ℕ := toLex (if key.1 = .holding then 0 else 1, key.2)

/-- `sorted(words.items(), …)` -/
def sorted (words : WordMap) : WordMap := orderBy (fun entry => rank entry.1) .asc words

end WordMap

/-! ## the device -/

structure ReadRequest where
  function : RegisterFunction
  address : Nat
  count : Nat
  deriving DecidableEq

/-- The answer to the `n`-th request. -/
abbrev Device := Nat → ReadRequest → Except PyException (List Nat)

/-- A profile, and the requests sent so far with their answers. -/
structure ProfileState where
  metadata : WordMap := []
  cachedBlocks : List (RegisterFunction × Nat × Nat) := []
  log : List (ReadRequest × Except PyException (List Nat)) := []

abbrev ProfileProgram (α : Type) := Prog ProfileState PyException α

def RegisterBlock.request (block : RegisterBlock) : ReadRequest :=
  { function := block.function, address := block.address, count := block.count }

def RegisterBlock.key (block : RegisterBlock) : RegisterFunction × Nat × Nat :=
  (block.function, block.address, block.count)

def RegisterSpec.request (register : RegisterSpec) : ReadRequest :=
  { function := register.function, address := register.address, count := register.words }

section Reading

variable (device : Device)

/-- A request to the device, with its answer. -/
def readRegisters (request : ReadRequest) :
    ProfileProgram (Except PyException (List Nat)) := do
  let s ← get
  let reply := device s.log.length request
  modify fun s => { s with log := s.log ++ [(request, reply)] }
  return reply

/-- A turn of the loop of `_load_metadata`. -/
def loadBlock (block : RegisterBlock) : ProfileProgram Unit := do
  let s ← get
  if !block.cache || block.key ∈ s.cachedBlocks then return
  match ← readRegisters device block.request with
  | .ok words =>
      modify fun s => { s with
        metadata := s.metadata.store block.function block.address words
        cachedBlocks := s.cachedBlocks ++ [block.key] }
  | .error e => if block.optional then return else throw e

/-- `_load_metadata` -/
def loadMetadata (spec : DeviceProfileSpec) : ProfileProgram Unit :=
  spec.blocks.forM (loadBlock device)

/-- A turn of the loop of `read_metadata`. -/
def readMetadataField (register : RegisterSpec) : ProfileProgram Unit := do
  let s ← get
  let addresses := List.range' register.address register.words
  if register.category ≠ .metadata then return
  if addresses.all fun a => (s.metadata.context register.function a).isSome then return
  match ← readRegisters device register.request with
  | .ok words =>
      modify fun s =>
        { s with metadata := s.metadata.store register.function register.address words }
  | .error _ => return

/-- A turn of the loop over the blocks of `poll`. -/
def readTelemetry (words : WordMap) (block : RegisterBlock) : ProfileProgram WordMap := do
  if block.cache then return words
  match ← readRegisters device block.request with
  | .ok reply => return words.store block.function block.address reply
  | .error e => if block.optional then return words else throw e

end Reading

/-! ## values -/

/-- The value of a register, decoded from `raw`. -/
def registerValue (register : RegisterSpec) (raw : List Nat) (value : Scalar) : RegisterValue where
  name := register.name
  address := register.address
  function := register.function
  raw := raw
  value := value
  unit := register.unit

/-- The value that stands for a single word. -/
def wordValue (key : WordKey) (word : Nat) : RegisterValue where
  name := wordName key.1 key.2
  address := key.2
  function := key.1
  raw := [word]
  value := .int word

/-- The words of a register, as far as they are there. -/
def registerRaw (words : WordMap) (register : RegisterSpec) : List Nat :=
  (List.range' register.address register.words).filterMap (words.context register.function)

/-- A turn of the loop of `_decode_named`: nothing where a word of the register is missing. -/
def decodeNamedRegister (words : WordMap) (register : RegisterSpec) :
    Except PyException (Option RegisterValue) := do
  let raw := registerRaw words register
  if raw.length ≠ register.words then return none
  let value ← decodeRegister register raw (words.context register.function)
  return some (registerValue register raw value)

/-- `_decode_named` -/
def decodeNamed (spec : DeviceProfileSpec) (words : WordMap) (category : Option RegisterCategory)
    (firmware : String) : Except PyException (List RegisterValue) := do
  let registers ← effectiveItems RegisterSpec.toFirmwareGate firmware spec.registers
  let registers := registers.filter fun register =>
    category.isNone || category = some register.category
  let values ← registers.mapM (decodeNamedRegister words)
  return values.reduceOption

def wordValues (words : WordMap) : List RegisterValue :=
  words.sorted.map fun entry => wordValue entry.1 entry.2

/-- `read_metadata` -/
def readMetadata (device : Device) (spec : DeviceProfileSpec) :
    ProfileProgram (List RegisterValue) := do
  loadMetadata device spec
  spec.registers.forM (readMetadataField device)
  let s ← get
  ofResult (decodeNamed spec s.metadata (some .metadata) "")

/-- `poll` -/
def poll (device : Device) (spec : DeviceProfileSpec) (firmware : String) :
    ProfileProgram (List RegisterValue) := do
  loadMetadata device spec
  let s ← get
  let blocks ← ofResult (effectiveItems RegisterBlock.toFirmwareGate firmware spec.blocks)
  let words ← blocks.foldlM (readTelemetry device) s.metadata
  let named ← ofResult (decodeNamed spec words none firmware)
  return wordValues words ++ named ++ deriveRegisterValues spec.name named

end MorningstarModbus.Catalog
