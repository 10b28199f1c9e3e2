import Mathlib.Data.List.Sort
import MorningstarModbus.Lib.Table
import MorningstarModbus.Lib.Loop
import MorningstarModbus.Domain.Models

/-!
# MorningstarModbus.Controllers.Inventory

The persistent controller inventory (`controllers/inventory.py`): the tables
that tie a controller identity to its telemetry device, its member devices and
the endpoints it was seen at, and the statements `register_observation`,
`reconcile_presence` and `record_success` send to them.

Timestamps are microseconds; the program orders them as ISO texts, which is
the same order.  Match confidences are in hundredths.
-/

namespace MorningstarModbus

/-! ## rows -/

inductive DeviceStatus where
  | online
  | offline
  | error
  deriving DecidableEq

/-- A row of `devices`; the columns `transport … usb_pid` are grouped as
`endpoint`, and `vendor_name … revision` as `identification`. -/
structure DeviceRow where
  id : String
  stableKey : String
  endpoint : Endpoint
  identification : DeviceIdentification
  profile : String
  status : DeviceStatus
  firstSeen : Nat
  lastSeen : Nat
  lastError : Option String
  deriving DecidableEq

structure IntelligenceRow where
  deviceId : String
  intelligence : DeviceIntelligence
  deriving DecidableEq

inductive IdentitySource where
  | controllerSerial
  | usbSerial
  | endpoint
  deriving DecidableEq

structure IdentityRow where
  controllerId : String
  canonicalDeviceId : String
  identitySource : IdentitySource
  identityValue : String
  profile : String
  family : String
  model : String
  serialNumber : String
  firstSeen : Nat
  lastSeen : Nat
  deriving DecidableEq

structure MemberRow where
  deviceId : String
  controllerId : String
  firstSeen : Nat
  lastSeen : Nat
  deriving DecidableEq

/-- `match_strategy`: an identity found by its own key is matched by its
source. -/
inductive MatchStrategy where
  | legacy
  | identity (source : IdentitySource)
  | controllerSerialConflict
  | controllerSerialPromotion
  | knownEndpointOwner
  | newController
  deriving DecidableEq

structure ConnectionRow where
  controllerId : String
  endpointKey : String
  endpoint : Endpoint
  active : Bool
  matchStrategy : MatchStrategy
  matchConfidence : Nat
  firstSeen : Nat
  lastSeen : Nat
  lastSuccess : Option Nat
  deriving DecidableEq

structure LocationRow where
  controllerId : String
  endpointKey : String
  transport : Transport
  target : String
  port : Option Nat
  unitId : Nat
  firstSeen : Nat
  lastSeen : Nat
  observations : Nat
  deriving DecidableEq

inductive EvidenceType where
  | endpoint
  | usbSerial
  | productCode
  | controllerSerial
  | model
  deriving DecidableEq

structure EvidenceRow where
  controllerId : String
  endpointKey : String
  evidenceType : EvidenceType
  evidenceValue : String
  confidence : Nat
  firstObserved : Nat
  lastObserved : Nat
  observations : Nat
  deriving DecidableEq

structure PhysicalRow where
  controllerUid : String
  canonicalDeviceId : String
  currentControllerId : String
  firstSeen : Nat
  lastSeen : Nat
  deriving DecidableEq

structure AliasRow where
  controllerId : String
  controllerUid : String
  identitySource : IdentitySource
  identityValue : String
  firstSeen : Nat
  lastSeen : Nat
  active : Bool
  deriving DecidableEq

/-! ## the database -/

/-- The tables of the registry, and how many uuids it has drawn. -/
structure Db where
  devices : List DeviceRow := []
  deviceIntelligence : List IntelligenceRow := []
  identities : List IdentityRow := []
  members : List MemberRow := []
  connections : List ConnectionRow := []
  locations : List LocationRow := []
  evidence : List EvidenceRow := []
  physical : List PhysicalRow := []
  aliases : List AliasRow := []
  uidsDrawn : Nat := 0
  deriving DecidableEq

inductive TableName where
  | controllerIdentities
  | controllerConnections
  | controllerConnectionLocations
  | controllerIdentityEvidence
  | physicalControllers
  deriving DecidableEq

inductive RegistryError where
  | unique (table : TableName)
  | foreignKey (table : TableName)
  | scopeMissing (controllerId : String)
  deriving DecidableEq

/-- Primary keys and uniqueness constraints. -/
def ConnectionRow.key (c : ConnectionRow) : String × String := (c.controllerId, c.endpointKey)

def LocationRow.key (l : LocationRow) : String × String × Transport × String × Nat :=
  (l.controllerId, l.endpointKey, l.transport, l.target, l.unitId)

def EvidenceRow.key (e : EvidenceRow) : String × String × EvidenceType × String :=
  (e.controllerId, e.endpointKey, e.evidenceType, e.evidenceValue)

namespace Db

/-- `SELECT * FROM controller_identities WHERE controller_id=?` -/
def identity? (db : Db) (controllerId : String) : Option IdentityRow :=
  Table.lookup IdentityRow.controllerId controllerId db.identities

/-- The identity most recently seen at an endpoint key: connections joined
with identities, `ORDER BY cc.last_seen DESC LIMIT 1`. -/
def endpointOwner? (db : Db) (endpointKey : String) : Option IdentityRow :=
  let joined := db.connections.filterMap fun cc =>
    if cc.endpointKey = endpointKey then
      (db.identity? cc.controllerId).map fun ci => (cc.lastSeen, ci)
    else none
  (joined.argmax Prod.fst).map Prod.snd

end Db

/-! ## identity keys -/

/-- The columns of a device that identify its controller: what `_device_row`
and the legacy query both produce. -/
structure DeviceFields where
  stableKey : String
  unitId : Nat
  usbSerial : String
  profile : String
  family : String
  model : String
  serialNumber : String
  deriving DecidableEq

/-- `_controller_identity`: the identity key, its source and its value. -/
@[irreducible] def controllerIdentity (env : Env) (row : DeviceFields) :
    String × IdentitySource × String :=
  let serial := Text.strip row.serialNumber
  let profile := env.lower (Text.strip row.profile)
  if serial ≠ "" then
    ("morningstar:" ++ profile ++ ":" ++ env.lower serial, .controllerSerial, serial)
  else
    let usbSerial := Text.strip row.usbSerial
    if usbSerial ≠ "" then
      ("usb:" ++ env.lower usbSerial ++ ":unit:" ++ toString row.unitId, .usbSerial, usbSerial)
    else ("endpoint:" ++ row.stableKey, .endpoint, row.stableKey)

/-- `_device_row` -/
def deviceRow (device : DiscoveredDevice) : DeviceFields where
  stableKey := device.endpoint.stableKey
  unitId := device.endpoint.unitId
  usbSerial := device.endpoint.usb
  profile := device.profile
  family := match device.intelligence with
    | some i => i.family
    | none => ""
  model := match device.intelligence with
    | some i => i.model
    | none => device.identification.productCode
  serialNumber := device.serialNumber

/-- The identity key an observation computes, before any lookup. -/
def identityKey (env : Env) (device : DiscoveredDevice) : String :=
  (controllerIdentity env (deviceRow device)).1

/-- The serial number the registry goes by. -/
def DiscoveredDevice.serial (device : DiscoveredDevice) : String := Text.strip device.serialNumber

/-- `_conflict_device_id` -/
def conflictDeviceId (env : Env) (device : DiscoveredDevice) : String :=
  let material := device.profile ++ "\x00" ++ device.serialNumber ++ "\x00" ++
    device.endpoint.stableKey
  "device:" ++ device.profile ++ ":" ++ env.digest material

/-- A serial number always gives a serial key, and nothing else does. -/
theorem controllerIdentity_of_serial (env : Env) {row : DeviceFields}
    (h : Text.strip row.serialNumber ≠ "") :
    (controllerIdentity env row).1 = "morningstar:" ++ env.lower (Text.strip row.profile) ++ ":" ++
      env.lower (Text.strip row.serialNumber) := by
  simp only [controllerIdentity, if_pos h]

/-- The kinds of keys differ in their first letter; that of a serial number is `m`. -/
theorem head_controllerIdentity_of_serial (env : Env) {row : DeviceFields}
    (h : Text.strip row.serialNumber ≠ "") :
    (controllerIdentity env row).1.toList.head? = some 'm' := by
  rw [controllerIdentity_of_serial env h]
  simp

/-- Without a serial number a key begins with `u` or `e`. -/
theorem head_controllerIdentity_of_no_serial (env : Env) {row : DeviceFields}
    (h : Text.strip row.serialNumber = "") :
    (controllerIdentity env row).1.toList.head? = some 'u' ∨
      (controllerIdentity env row).1.toList.head? = some 'e' := by
  have hs : ¬ Text.strip row.serialNumber ≠ "" := by simpa using h
  simp only [controllerIdentity, if_neg hs]
  split
  · left; simp
  · right; simp

/-- The row of a device has its serial number, stripped. -/
theorem strip_deviceRow (device : DiscoveredDevice) :
    Text.strip (deviceRow device).serialNumber = device.serial := rfl

@[simp] theorem strip_serial (device : DiscoveredDevice) : Text.strip device.serial = device.serial :=
  Text.strip_strip _

/-- Where there is a serial number the key is made of it and the profile, in lower case. -/
theorem identityKey_of_serial {env : Env} {device : DiscoveredDevice} (h : device.serial ≠ "") :
    identityKey env device = "morningstar:" ++ env.lower (Text.strip device.profile) ++ ":" ++
      env.lower device.serial := by
  rw [← strip_deviceRow] at h ⊢
  exact controllerIdentity_of_serial env h

/-- The id of a conflict begins like no key of an identity. -/
theorem head_conflictDeviceId (env : Env) (device : DiscoveredDevice) :
    (conflictDeviceId env device).toList.head? = some 'd' := by
  simp [conflictDeviceId]

/-! ## single statements -/

/-- The endpoint columns a table stores. -/
def Endpoint.columns (e : Endpoint) : Endpoint := { e with baudrate := none, stopBits := none }

/-- The endpoint `_upsert_connection_from_row` reads back: an empty USB
serial is stored as none. -/
def Endpoint.fromRow (e : Endpoint) : Endpoint :=
  { e.columns with usbSerial := if e.usb ≠ "" then some e.usb else none }

/-- `_upsert_member` -/
def upsertMember (controllerId deviceId : String) (firstSeen lastSeen : Nat) (db : Db) : Db :=
  { db with
    members := Table.upsert MemberRow.deviceId
      (fun old new => { old with
        controllerId := new.controllerId
        firstSeen := min old.firstSeen new.firstSeen
        lastSeen := max old.lastSeen new.lastSeen })
      { deviceId, controllerId, firstSeen, lastSeen } db.members }

/-- `_upsert_connection`: the connection of a controller at an endpoint, and
the concrete location it was seen at. -/
def upsertConnection (controllerId : String) (endpoint : Endpoint) (now : Nat)
    (matchStrategy : MatchStrategy) (matchConfidence : Nat) (firstSeen : Nat) (active : Bool)
    (db : Db) : Db :=
  { db with
    connections := Table.upsert ConnectionRow.key
      (fun old new => { old with
        endpoint := new.endpoint
        active := new.active
        matchStrategy := new.matchStrategy
        matchConfidence := max old.matchConfidence new.matchConfidence
        firstSeen := min old.firstSeen new.firstSeen
        lastSeen := max old.lastSeen new.lastSeen })
      { controllerId, endpointKey := endpoint.stableKey, endpoint := endpoint.columns, active,
        matchStrategy, matchConfidence, firstSeen, lastSeen := now, lastSuccess := none }
      db.connections
    locations := Table.upsert LocationRow.key
      (fun old new => { old with
        port := new.port
        firstSeen := min old.firstSeen new.firstSeen
        lastSeen := max old.lastSeen new.lastSeen
        observations := old.observations + 1 })
      { controllerId, endpointKey := endpoint.stableKey, transport := endpoint.transport,
        target := endpoint.target, port := endpoint.port, unitId := endpoint.unitId,
        firstSeen, lastSeen := now, observations := 1 }
      db.locations }

/-- The row `_insert_canonical_device` inserts. -/
def observedDevice (deviceId stableKey : String) (device : DiscoveredDevice) (now : Nat) :
    DeviceRow where
  id := deviceId
  stableKey := stableKey
  endpoint := device.endpoint.columns
  identification := device.identification
  profile := device.profile
  status := .online
  firstSeen := now
  lastSeen := now
  lastError := none

/-- `_insert_canonical_device`: `INSERT OR IGNORE`, under the endpoint's key
unless another device holds it. -/
def insertCanonicalDevice (deviceId : String) (device : DiscoveredDevice) (now : Nat) (db : Db) :
    Db :=
  let key := device.endpoint.stableKey
  let stableKey := match Table.lookup DeviceRow.stableKey key db.devices with
    | some occupied => if occupied.id ≠ deviceId then deviceId else key
    | none => key
  { db with
    devices := Table.insertOrIgnore (fun d => d.id = deviceId ∨ d.stableKey = stableKey)
      (observedDevice deviceId stableKey device now) db.devices }

/-- `_update_canonical_device` -/
def updateCanonicalDevice (deviceId : String) (device : DiscoveredDevice) (now : Nat) (db : Db) :
    Db :=
  { db with
    devices := Table.update (fun d => d.id = deviceId)
      (fun d => { d with
        endpoint := device.endpoint.columns
        identification := device.identification
        profile := device.profile
        status := .online
        lastSeen := now
        lastError := none })
      db.devices }

/-- The evidence one observation yields, in the order it is recorded. -/
def observedEvidence (device : DiscoveredDevice) : List (EvidenceType × String × Nat) :=
  [(.endpoint, device.endpoint.stableKey, 50)] ++
  (if device.endpoint.usb ≠ "" then [(.usbSerial, device.endpoint.usb, 80)] else []) ++
  (if device.identification.productCode ≠ "" then
    [(.productCode, device.identification.productCode, 35)] else []) ++
  (match device.intelligence with
    | some i =>
        (if i.serialNumber ≠ "" then [(.controllerSerial, i.serialNumber, 100)] else []) ++
        (if i.model ≠ "" then [(.model, i.model, 40)] else [])
    | none => [])

/-- One `INSERT … ON CONFLICT` of `_record_evidence`. -/
def upsertEvidence (controllerId endpointKey : String) (now : Nat) (rows : List EvidenceRow)
    (item : EvidenceType × String × Nat) : List EvidenceRow :=
  Table.upsert EvidenceRow.key
    (fun old new => { old with
      confidence := max old.confidence new.confidence
      lastObserved := new.lastObserved
      observations := old.observations + 1 })
    { controllerId, endpointKey, evidenceType := item.1, evidenceValue := item.2.1,
      confidence := item.2.2, firstObserved := now, lastObserved := now, observations := 1 }
    rows

/-- `_record_evidence` -/
def recordEvidence (controllerId : String) (device : DiscoveredDevice) (now : Nat) (db : Db) : Db :=
  { db with
    evidence := (observedEvidence device).foldl
      (upsertEvidence controllerId device.endpoint.stableKey now) db.evidence }

/-! ## legacy rows -/

/-- One row of `devices LEFT JOIN device_intelligence`. -/
def legacyFields (db : Db) (d : DeviceRow) : DeviceFields :=
  let intelligence := (Table.lookup IntelligenceRow.deviceId d.id db.deviceIntelligence).map
    IntelligenceRow.intelligence
  { stableKey := d.stableKey
    unitId := d.endpoint.unitId
    usbSerial := d.endpoint.usb
    profile := d.profile
    family := match intelligence with
      | some i => i.family
      | none => ""
    model := match intelligence with
      | some i => if i.model ≠ "" then i.model else d.identification.productCode
      | none => d.identification.productCode
    serialNumber := match intelligence with
      | some i => i.serialNumber
      | none => "" }

/-- `ONLINE_GRACE_SECONDS`, in microseconds. -/
def onlineGrace : Nat := 120000000

/-- Most recently seen first; `sorted(…, key=(last_seen, id), reverse=True)`. -/
def seenAfter (a b : DeviceRow) : Prop :=
  b.lastSeen < a.lastSeen ∨ (a.lastSeen = b.lastSeen ∧ b.id ≤ a.id)

instance : DecidableRel seenAfter := fun a b => by unfold seenAfter; infer_instance

/-- The identity key of a legacy device. -/
def legacyKey (env : Env) (db : Db) (d : DeviceRow) : String :=
  (controllerIdentity env (legacyFields db d)).1

/-- One row of a legacy group: it becomes a member and a connection of the
group's identity; only the newest row can still be active. -/
def bootstrapRow (now : Nat) (controllerId : String) (newest : Bool) (db : Db) (d : DeviceRow) :
    Db :=
  let active := newest && (d.status == .online || d.status == .error) &&
    decide (now - d.lastSeen ≤ onlineGrace)
  upsertConnection controllerId d.endpoint.fromRow d.lastSeen .legacy 50 d.firstSeen active
    (upsertMember controllerId d.id d.firstSeen d.lastSeen db)

/-- The `INSERT … ON CONFLICT(controller_id)` of the bootstrap. -/
def upsertLegacyIdentity (row : IdentityRow) (db : Db) : Db :=
  { db with
    identities := Table.upsert IdentityRow.controllerId
      (fun old new => { new with
        canonicalDeviceId := old.canonicalDeviceId
        firstSeen := min old.firstSeen new.firstSeen
        lastSeen := max old.lastSeen new.lastSeen })
      row db.identities }

/-- The identity of a legacy group: its newest row is `current`, the row that
was read last is `last`. -/
def legacyIdentity (env : Env) (source : Db) (controllerId : String) (current : DeviceRow)
    (older : List DeviceRow) (last : DeviceRow) : IdentityRow :=
  let identity := controllerIdentity env (legacyFields source last)
  let fields := legacyFields source current
  { controllerId, canonicalDeviceId := current.id, identitySource := identity.2.1,
    identityValue := identity.2.2, profile := current.profile, family := fields.family,
    model := fields.model, serialNumber := fields.serialNumber,
    firstSeen := (older.map DeviceRow.firstSeen).foldl min current.firstSeen,
    lastSeen := current.lastSeen }

/-- One legacy group: its newest row becomes the canonical device.  `source`
is the database the rows were read from, `db` the one being written. -/
def bootstrapGroup (env : Env) (now : Nat) (source : Db) (rows : List DeviceRow) (db : Db)
    (controllerId : String) : Db :=
  let group := rows.filter fun d => legacyKey env source d = controllerId
  match group.insertionSort seenAfter, group.getLast? with
  | current :: older, some last =>
      let db := upsertLegacyIdentity (legacyIdentity env source controllerId current older last) db
      older.foldl (bootstrapRow now controllerId false) (bootstrapRow now controllerId true db current)
  | _, _ => db

/-- `_bootstrap_legacy_rows`: devices grouped by identity key. -/
def bootstrapLegacyRows (env : Env) (now : Nat) (db : Db) : Db :=
  let rows := db.devices.insertionSort fun a b => b.lastSeen ≤ a.lastSeen
  (Table.distinct (rows.map (legacyKey env db))).foldl (bootstrapGroup env now db rows) db

/-- `ControllerInventoryRepository.initialize` -/
def initializeInventory (env : Env) (now : Nat) (db : Db) : Db :=
  if db.identities.isEmpty then bootstrapLegacyRows env now db else db

/-! ## registering an observation -/

/-- The identity row an observation inserts. -/
def observedIdentity (env : Env) (device : DiscoveredDevice) (canonicalDeviceId : String)
    (firstSeen now : Nat) : IdentityRow :=
  let row := deviceRow device
  let identity := controllerIdentity env row
  { controllerId := identity.1, canonicalDeviceId, identitySource := identity.2.1,
    identityValue := identity.2.2, profile := device.profile, family := row.family,
    model := row.model, serialNumber := row.serialNumber, firstSeen, lastSeen := now }

/-- The `INSERT INTO controller_identities` both branches share. -/
def insertIdentity (row : IdentityRow) (db : Db) : Except RegistryError Db := do
  let identities ← Table.insertUnique (.unique .controllerIdentities) IdentityRow.controllerId row
    db.identities
  return { db with identities }

/-- `_insert_new_identity` -/
def insertNewIdentity (env : Env) (device : DiscoveredDevice) (canonicalDeviceId : String)
    (now : Nat) (db : Db) : Except RegistryError Db :=
  insertIdentity (observedIdentity env device canonicalDeviceId now now)
    (insertCanonicalDevice canonicalDeviceId device now db)

/-- `_promote_identity`: the owner's rows move to the stronger identity, and
the owner's identity is deleted. -/
def promoteIdentity (env : Env) (device : DiscoveredDevice) (owner : IdentityRow) (now : Nat)
    (db : Db) : Except RegistryError Db := do
  let old := owner.controllerId
  let new := identityKey env device
  let firstSeen := match db.identity? old with
    | some r => r.firstSeen
    | none => now
  let db ← insertIdentity (observedIdentity env device owner.canonicalDeviceId firstSeen now) db
  let members := Table.update (fun m => m.controllerId = old)
    (fun m => { m with controllerId := new }) db.members
  let connections ← Table.updateUnique (.unique .controllerConnections) ConnectionRow.key
    (fun c => c.controllerId = old) (fun c => { c with controllerId := new }) db.connections
  let locations ← Table.updateUnique (.unique .controllerConnectionLocations) LocationRow.key
    (fun l => l.controllerId = old) (fun l => { l with controllerId := new }) db.locations
  let evidence ← Table.updateUnique (.unique .controllerIdentityEvidence) EvidenceRow.key
    (fun e => e.controllerId = old) (fun e => { e with controllerId := new }) db.evidence
  return { db with
    members, connections, locations, evidence
    identities := db.identities.filter fun r => r.controllerId ≠ old }

/-- Which identity an observation is attributed to, on which device, and how
it was matched. -/
structure Attribution where
  controllerId : String
  canonicalDeviceId : String
  matchStrategy : MatchStrategy
  matchConfidence : Nat
  deriving DecidableEq

/-- The branches of `register_observation` that decide the attribution. -/
def attributeObservation (env : Env) (now : Nat) (device : DiscoveredDevice) (db : Db) :
    Except RegistryError (Db × Attribution) :=
  let key := identityKey env device
  let serial := device.serial
  match db.identity? key with
  | some found =>
      let source := (controllerIdentity env (deviceRow device)).2.1
      .ok (db, { controllerId := key, canonicalDeviceId := found.canonicalDeviceId,
                 matchStrategy := .identity source,
                 matchConfidence := if source = .controllerSerial then 100 else 80 })
  | none =>
    match db.endpointOwner? device.endpoint.stableKey with
    | some owner =>
        let ownerSerial := Text.strip owner.serialNumber
        if serial ≠ "" ∧ ownerSerial ≠ "" ∧ serial ≠ ownerSerial then do
          let canonicalDeviceId := conflictDeviceId env device
          let db ← insertNewIdentity env device canonicalDeviceId now db
          return (db, { controllerId := key, canonicalDeviceId,
                        matchStrategy := .controllerSerialConflict, matchConfidence := 95 })
        else if serial ≠ "" ∧ ownerSerial = "" then do
          let db ← promoteIdentity env device owner now db
          return (db, { controllerId := key, canonicalDeviceId := owner.canonicalDeviceId,
                        matchStrategy := .controllerSerialPromotion, matchConfidence := 100 })
        else
          .ok (db, { controllerId := owner.controllerId,
                     canonicalDeviceId := owner.canonicalDeviceId,
                     matchStrategy := .knownEndpointOwner,
                     matchConfidence := if ownerSerial ≠ "" then 95 else 65 })
    | none => do
        let canonicalDeviceId :=
          match Table.lookup DeviceRow.stableKey device.endpoint.stableKey db.devices with
          | some endpointRow => endpointRow.id
          | none => device.endpoint.stableKey
        let db ← insertNewIdentity env device canonicalDeviceId now db
        return (db, { controllerId := key, canonicalDeviceId,
                      matchStrategy := .newController, matchConfidence := 40 })

/-- The closing `UPDATE controller_identities` of an observation. -/
def touchIdentity (controllerId : String) (device : DiscoveredDevice) (now : Nat) (db : Db) : Db :=
  { db with
    identities := Table.update (fun r => r.controllerId = controllerId)
      (fun r => { r with
        lastSeen := now
        profile := device.profile
        family := (deviceRow device).family
        model := (deviceRow device).model
        serialNumber := if device.serial ≠ "" then device.serial else r.serialNumber })
      db.identities }

/-- What `register_observation` records once the attribution is decided. -/
def recordObservation (a : Attribution) (device : DiscoveredDevice) (now : Nat) (db : Db) : Db :=
  touchIdentity a.controllerId device now
    (recordEvidence a.controllerId device now
      (upsertConnection a.controllerId device.endpoint now a.matchStrategy a.matchConfidence now true
        (upsertMember a.controllerId a.canonicalDeviceId now now
          (updateCanonicalDevice a.canonicalDeviceId device now db))))

/-- `ControllerInventoryRepository.register_observation`: the controller id
and the canonical device id of one discovery observation. -/
def registerInventoryObservation (env : Env) (now : Nat) (device : DiscoveredDevice) (db : Db) :
    Except RegistryError (Db × String × String) := do
  let (db, a) ← attributeObservation env now device (initializeInventory env now db)
  return (recordObservation a device now db, a.controllerId, a.canonicalDeviceId)

/-! ## presence -/

/-- `ControllerInventoryRepository.reconcile_presence` -/
def reconcileInventoryPresence (env : Env) (now : Nat) (observed : List (String × String))
    (db : Db) : Db :=
  let db := initializeInventory env now db
  let cleared := Table.update (fun _ => true) (fun c => { c with active := false }) db.connections
  { db with
    connections := observed.foldl
      (fun rows item => Table.update (fun c => c.controllerId = item.1 ∧ c.endpointKey = item.2)
        (fun c => { c with active := true }) rows)
      cleared }

/-- `ControllerInventoryRepository.record_success` -/
def recordInventorySuccess (now : Nat) (controllerId endpointKey : String) (db : Db) : Db :=
  { db with
    connections := Table.update (fun c => c.controllerId = controllerId ∧ c.endpointKey = endpointKey)
      (fun c => { c with active := true, lastSeen := now, lastSuccess := some now }) db.connections
    identities := Table.update (fun r => r.controllerId = controllerId)
      (fun r => { r with lastSeen := now }) db.identities }

/-- `mark_all_offline` -/
def markAllOffline (db : Db) : Db :=
  { db with
    devices := Table.update (fun d => d.status = .online ∨ d.status = .error)
      (fun d => { d with status := .offline }) db.devices
    connections := Table.update (fun _ => true) (fun c => { c with active := false }) db.connections }

/-- `mark_device_offline` -/
def markDeviceOffline (deviceId : String) (db : Db) : Db :=
  { db with
    devices := Table.update (fun d => d.id = deviceId) (fun d => { d with status := .offline })
      db.devices }

end MorningstarModbus
