import MorningstarModbus.Controllers.Inventory

/-!
# MorningstarModbus.Controllers.Scope

Immutable controller uids over the evidence-derived identities
(`controllers/scope.py`): the synchronisation pass, `resolve`, and the
`ControllerRegistry` facade.

A registry call takes the reading of the clock it makes.  `RegistryOp` lists
the calls that change the database, and `runRegistry` is a sequence of them.
-/

namespace MorningstarModbus

/-! ## synchronisation -/

/-- `_new_uid`, at the `n`-th draw. -/
def newUid (env : Env) (n : Nat) : String := "ctrl_" ++ env.uuid4 n

namespace Db

/-- `SELECT controller_uid FROM controller_identity_aliases WHERE controller_id=?` -/
def alias? (db : Db) (controllerId : String) : Option AliasRow :=
  Table.lookup AliasRow.controllerId controllerId db.aliases

/-- `SELECT … FROM physical_controllers WHERE canonical_device_id=?` -/
def physicalOf? (db : Db) (canonicalDeviceId : String) : Option PhysicalRow :=
  Table.lookup PhysicalRow.canonicalDeviceId canonicalDeviceId db.physical

/-- `SELECT … FROM physical_controllers WHERE controller_uid=?` -/
def physical? (db : Db) (controllerUid : String) : Option PhysicalRow :=
  Table.lookup PhysicalRow.controllerUid controllerUid db.physical

end Db

/-- The uid of an identity: by its alias, by its device, or a new one. -/
def chooseUid (env : Env) (row : IdentityRow) (db : Db) : Db × String :=
  match db.alias? row.controllerId with
  | some found => (db, found.controllerUid)
  | none =>
      match db.physicalOf? row.canonicalDeviceId with
      | some physical => (db, physical.controllerUid)
      | none => ({ db with uidsDrawn := db.uidsDrawn + 1 }, newUid env db.uidsDrawn)

/-- `INSERT INTO physical_controllers … ON CONFLICT(controller_uid)` -/
def upsertPhysicalRow (controllerUid : String) (row : IdentityRow) (rows : List PhysicalRow) :
    List PhysicalRow :=
  Table.upsert PhysicalRow.controllerUid
    (fun old new => { old with
      canonicalDeviceId := new.canonicalDeviceId
      currentControllerId := new.currentControllerId
      firstSeen := min old.firstSeen new.firstSeen
      lastSeen := max old.lastSeen new.lastSeen })
    { controllerUid, canonicalDeviceId := row.canonicalDeviceId,
      currentControllerId := row.controllerId, firstSeen := row.firstSeen, lastSeen := row.lastSeen }
    rows

/-- That statement under the unique `canonical_device_id` and its reference
to `devices`. -/
def upsertPhysical (controllerUid : String) (row : IdentityRow) (db : Db) :
    Except RegistryError Db :=
  let physical := upsertPhysicalRow controllerUid row db.physical
  if ¬ Table.Keyed PhysicalRow.canonicalDeviceId physical then .error (.unique .physicalControllers)
  else if ¬ db.devices.any (fun d => d.id = row.canonicalDeviceId) then
    .error (.foreignKey .physicalControllers)
  else .ok { db with physical }

/-- The alias of an identity becomes the active one of its uid. -/
def upsertAlias (controllerUid : String) (row : IdentityRow) (db : Db) : Db :=
  { db with
    aliases := Table.upsert AliasRow.controllerId
      (fun old new => { new with
        firstSeen := min old.firstSeen new.firstSeen
        lastSeen := max old.lastSeen new.lastSeen })
      { controllerId := row.controllerId, controllerUid, identitySource := row.identitySource,
        identityValue := row.identityValue, firstSeen := row.firstSeen, lastSeen := row.lastSeen,
        active := true }
      (Table.update (fun a => a.controllerUid = controllerUid) (fun a => { a with active := false })
        db.aliases) }

/-- The body of the loop in `_sync_current_identities`. -/
def syncIdentity (env : Env) (db : Db) (row : IdentityRow) : Except RegistryError Db := do
  let (db, controllerUid) := chooseUid env row db
  let db ← upsertPhysical controllerUid row db
  return upsertAlias controllerUid row db

/-- `ORDER BY last_seen, controller_id` -/
def syncBefore (a b : IdentityRow) : Prop :=
  a.lastSeen < b.lastSeen ∨ (a.lastSeen = b.lastSeen ∧ a.controllerId ≤ b.controllerId)

instance : DecidableRel syncBefore := fun a b => by unfold syncBefore; infer_instance

/-- `_sync_current_identities`, all that `ControllerScopeRepository.initialize`
and `sync` do. -/
def syncCurrentIdentities (env : Env) (db : Db) : Except RegistryError Db :=
  (db.identities.insertionSort syncBefore).foldlM (syncIdentity env) db

/-! ## resolution -/

structure ControllerScope where
  controllerUid : String
  controllerId : String
  canonicalDeviceId : String
  historyDeviceIds : List String
  deriving DecidableEq

/-- `ORDER BY last_seen, device_id` -/
def memberBefore (a b : MemberRow) : Prop :=
  a.lastSeen < b.lastSeen ∨ (a.lastSeen = b.lastSeen ∧ a.deviceId ≤ b.deviceId)

instance : DecidableRel memberBefore := fun a b => by unfold memberBefore; infer_instance

namespace Db

/-- The row an identifier names: a uid first, else an alias. -/
def physicalByIdentifier? (db : Db) (identifier : String) : Option PhysicalRow :=
  match db.physical? identifier with
  | some physical => some physical
  | none => (db.alias? identifier).bind fun a => db.physical? a.controllerUid

/-- The scope of a physical controller. -/
def scopeOf (db : Db) (physical : PhysicalRow) : ControllerScope :=
  let members := (db.members.filter fun m => m.controllerId = physical.currentControllerId)
    |>.insertionSort memberBefore
  let ids := members.map MemberRow.deviceId
  { controllerUid := physical.controllerUid
    controllerId := physical.currentControllerId
    canonicalDeviceId := physical.canonicalDeviceId
    historyDeviceIds := Table.distinct
      (if physical.canonicalDeviceId ∈ ids then ids else ids ++ [physical.canonicalDeviceId]) }

/-- The queries of `resolve`. -/
def scope? (db : Db) (identifier : String) : Option ControllerScope :=
  (db.physicalByIdentifier? identifier).map db.scopeOf

end Db

/-- `ControllerScopeRepository.resolve` -/
def resolve (env : Env) (identifier : String) (db : Db) :
    Except RegistryError (Db × Option ControllerScope) := do
  let db ← syncCurrentIdentities env db
  return (db, db.scope? identifier)

/-! ## the registry -/

/-- `ControllerRegistry.initialize` -/
def initializeRegistry (env : Env) (now : Nat) (db : Db) : Except RegistryError Db :=
  syncCurrentIdentities env (initializeInventory env now db)

/-- `ControllerRegistry.register_observation`: the uid and the canonical device
id an observation is attributed to. -/
def registerObservation (env : Env) (now : Nat) (device : DiscoveredDevice) (db : Db) :
    Except RegistryError (Db × String × String) := do
  let db ← initializeRegistry env now db
  let (db, controllerId, deviceId) ← registerInventoryObservation env now device db
  let db ← syncCurrentIdentities env db
  let (db, scope) ← resolve env controllerId db
  match scope with
  | some scope => return (db, scope.controllerUid, deviceId)
  | none => throw (.scopeMissing controllerId)

/-- The translation of uids to current identities in `reconcile_presence`. -/
def translateObserved (env : Env) (acc : Db × List (String × String)) (item : String × String) :
    Except RegistryError (Db × List (String × String)) := do
  let (db, scope) ← resolve env item.1 acc.1
  match scope with
  | some scope => return (db, acc.2 ++ [(scope.controllerId, item.2)])
  | none => return (db, acc.2)

/-- `ControllerRegistry.reconcile_presence` -/
def reconcilePresence (env : Env) (now : Nat) (observed : List (String × String)) (db : Db) :
    Except RegistryError Db := do
  let (db, translated) ← observed.foldlM (translateObserved env) (db, [])
  return reconcileInventoryPresence env now translated db

/-- `ControllerRegistry.record_success` -/
def recordSuccess (env : Env) (now : Nat) (controllerUid endpointKey : String) (db : Db) :
    Except RegistryError Db := do
  let (db, scope) ← resolve env controllerUid db
  match scope with
  | none => return db
  | some scope =>
      syncCurrentIdentities env (recordInventorySuccess now scope.controllerId endpointKey db)

/-! ## runs -/

/-- A sequence of observations, each at a reading of the clock, and what each
is attributed to: its uid and its canonical device id. -/
def observeAll (env : Env) (db : Db) :
    List (Nat × DiscoveredDevice) → Except RegistryError (Db × List (String × String))
  | [] => .ok (db, [])
  | o :: rest => do
      let (db, uid, deviceId) ← registerObservation env o.1 o.2 db
      let (db, out) ← observeAll env db rest
      return (db, (uid, deviceId) :: out)

/-- The registry calls that write to the database. -/
inductive RegistryOp where
  | initializeRegistry
  | observe (device : DiscoveredDevice)
  | resolve (identifier : String)
  | reconcilePresence (observed : List (String × String))
  | recordSuccess (controllerUid endpointKey : String)
  | markAllOffline
  | markDeviceOffline (deviceId : String)

/-- One call, at a reading of the clock. -/
def stepRegistry (env : Env) (db : Db) (call : Nat × RegistryOp) : Except RegistryError Db :=
  match call.2 with
  | .initializeRegistry => initializeRegistry env call.1 db
  | .observe device => Prod.fst <$> registerObservation env call.1 device db
  | .resolve identifier => Prod.fst <$> resolve env identifier db
  | .reconcilePresence observed => reconcilePresence env call.1 observed db
  | .recordSuccess uid endpointKey => recordSuccess env call.1 uid endpointKey db
  | .markAllOffline => .ok (markAllOffline db)
  | .markDeviceOffline deviceId => .ok (markDeviceOffline deviceId db)

/-- A sequence of calls. -/
def runRegistry (env : Env) (db : Db) (calls : List (Nat × RegistryOp)) : Except RegistryError Db :=
  calls.foldlM (stepRegistry env) db

end MorningstarModbus
