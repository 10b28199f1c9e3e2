import Mathlib.Logic.Relation
import MorningstarModbus.Controllers.LegacyRows

/-!
# MorningstarModbus.Controllers.RegistryRun

The specification of the registry calls, and of runs of them.

* `Inv.sync` — a synchronisation keeps the invariant;
* `Observation` — the states an observation passes through;
* `registerObservation_spec` — an observation never fails, and passes through them;
* `Quiet` — the calls that leave the identity graph alone;
* `RegistryStep` — the registry as a transition system, which every call
  refines (`stepRegistry_spec`).
-/

namespace MorningstarModbus

open Table

/-! ## synchronisation -/

section Sync

variable {env : Env} {D : Set DiscoveredDevice} {E : Set Endpoint} {db : Db}

/-- A synchronisation keeps the invariant. -/
theorem Inv.synchronize (h : Inv env D db) (hf : env.FreshUuids) :
    ∃ db', syncCurrentIdentities env db = .ok db' ∧ Inv env D db' ∧ db'.graph.Synced ∧
      IdentityGraph.Syncs db.syncOrder db.graph db'.graph ∧ db.SameInventory db' := by
  obtain ⟨db', hok, hsyncs, hi', hsame⟩ := syncCurrentIdentities_spec h.sync hf
  obtain ⟨hcan, hmem, hconn⟩ := hsyncs.frame
  have hsynced : db'.graph.Synced := hsyncs.synced h.coherent mem_syncOrder
  refine ⟨db', hok, ?_, hsynced, hsyncs, hsame⟩
  -- an alias after the pass is one from before it, or that of an identity
  have halias : ∀ {a u}, db'.graph.uidOf a = some u →
      db.graph.uidOf a = some u ∨ ∃ r ∈ db.identities, r.controllerId = a := by
    intro a u hu
    by_cases ha : a ∈ db.syncOrder
    · right
      obtain ⟨r, hr, hid⟩ := List.mem_map.mp ha
      exact ⟨r, (List.mem_insertionSort syncBefore).mp hr, hid⟩
    · left
      rw [← hsyncs.uidOf_of_notMem ha, hu]
  constructor
  case wellFormed => exact hi'.wellFormed
  case coherent => exact hi'.coherent
  case drawn => exact hi'.drawn
  case member_device =>
    intro d a hd
    rw [hmem] at hd
    rw [hsame.devices]
    exact h.member_device hd
  case location_identity =>
    rw [hsame.locations, hcan]
    exact h.location_identity
  case evidence_identity =>
    rw [hsame.evidence, hcan]
    exact h.evidence_identity
  case connected_key =>
    intro a k hk
    rw [hconn] at hk
    exact h.connected_key hk
  case device_id =>
    unfold Accounted
    rw [hsame.devices, hcan, hconn]
    exact h.device_id
  case device_key =>
    rw [hsame.devices, hconn]
    exact h.device_key
  case serial_identity =>
    rw [hsame.identities]
    exact h.serial_identity
  case identity_shape =>
    rw [hsame.identities]
    exact h.identity_shape
  case alias_serial =>
    intro a u hu hs
    rw [hcan]
    rcases halias hu with hu | hr
    · exact h.alias_serial hu hs
    · exact canonical_isSome.mpr hr
  case alias_shape =>
    intro a u hu
    rcases halias hu with hu | ⟨r, hr, hid⟩
    · exact h.alias_shape hu
    · exact hid ▸ h.identity_shape r hr

/-- A database the registry can start from or has written. -/
def Good (env : Env) (D : Set DiscoveredDevice) (E : Set Endpoint) (db : Db) : Prop :=
  Legacy E db ∨ Inv env D db

/-- Initializing the inventory, whatever the database. -/
theorem Good.inventory (h : Good env D E db) (now : Nat) :
    Inv env D (initializeInventory env now db) := by
  rcases h with hl | hi
  · obtain ⟨seen, hseen, hg⟩ := hl.grouped env now
    have hempty : db.identities.isEmpty = true := by rw [hl.identities]; rfl
    rw [initializeInventory, if_pos hempty]
    exact hg.inv hl hseen
  · rw [hi.initializeInventory_eq now]
    exact hi

end Sync

/-! ## resolution -/

/-- The uid an identifier resolves to, read off the graph. -/
def Db.uidFor (db : Db) (identifier : String) : Option String :=
  match db.graph.physical identifier with
  | some _ => some identifier
  | none => db.graph.uidOf identifier

/-- `resolve` finds the scope of that uid. -/
theorem scope?_spec {db : Db} (hg : db.graph.Coherent) (identifier : String) :
    (db.scope? identifier).map ControllerScope.controllerUid = db.uidFor identifier := by
  have hphys : db.graph.physical identifier =
      (db.physical? identifier).map PhysicalRow.canonicalDeviceId := rfl
  have halias : db.graph.uidOf identifier =
      (db.alias? identifier).map AliasRow.controllerUid := rfl
  cases hp : db.physical? identifier with
  | some p =>
      have hid : p.controllerUid = identifier := (mem_of_lookup hp).2
      simp [Db.scope?, Db.physicalByIdentifier?, Db.uidFor, hphys, hp, Db.scopeOf, hid]
  | none =>
      cases ha : db.alias? identifier with
      | none =>
          simp [Db.scope?, Db.physicalByIdentifier?, Db.uidFor, hphys, halias, hp, ha]
      | some al =>
          have hal : db.graph.uidOf identifier = some al.controllerUid := by
            rw [halias, ha, Option.map_some]
          obtain ⟨d, hd⟩ := hg.uid_physical hal
          have hphysU : (db.physical? al.controllerUid).map PhysicalRow.canonicalDeviceId = some d :=
            hd
          rw [Option.map_eq_some_iff] at hphysU
          obtain ⟨q, hq, -⟩ := hphysU
          have hid : q.controllerUid = al.controllerUid := (mem_of_lookup hq).2
          simp [Db.scope?, Db.physicalByIdentifier?, Db.uidFor, hphys, hal, hp, ha, hq, Db.scopeOf,
            hid]

/-- A uid, once resolved, is resolved for ever, as long as no identity key
looks like a uid. -/
theorem uidFor_extends {env : Env} {D : Set DiscoveredDevice} {db db' : Db} (h : Inv env D db)
    (h' : Inv env D db') (hext : db.graph.Extends db'.graph) {identifier u : String}
    (hu : db.uidFor identifier = some u) : db'.uidFor identifier = some u := by
  unfold Db.uidFor at hu ⊢
  cases hp : db.graph.physical identifier with
  | some d =>
      obtain ⟨d', hd'⟩ := hext.physical hp
      simpa [hp, hd'] using hu
  | none =>
      have hal : db.graph.uidOf identifier = some u := by simpa [hp] using hu
      have hnone : db'.graph.physical identifier = none := by
        cases hp' : db'.graph.physical identifier with
        | none => rfl
        | some d =>
            obtain ⟨n, -, hn⟩ := h'.drawn hp'
            exact absurd (hn ▸ isUidKey_newUid env n) (h.alias_shape hal)
      simpa [hnone] using hext.uidOf hal

/-! ## observations -/

/-- The states one observation passes through, and its result. -/
structure Observation (env : Env) (D : Set DiscoveredDevice) (now : Nat) (device : DiscoveredDevice)
    (db db' : Db) (uid deviceId : String) where
  start : Db
  attribution : Attribution
  placed : Db
  synced : Db
  start_ok : initializeRegistry env now db = .ok start
  start_sync : IdentityGraph.Syncs (initializeInventory env now db).syncOrder
    (initializeInventory env now db).graph start.graph
  start_same : (initializeInventory env now db).SameInventory start
  start_inv : Inv env D start
  start_synced : start.graph.Synced
  attributed : Attributed env now device start attribution placed
  recorded_inv : Inv env D (recordObservation attribution device now placed)
  first_sync : IdentityGraph.Syncs (recordObservation attribution device now placed).syncOrder
    (recordObservation attribution device now placed).graph synced.graph
  first_same : (recordObservation attribution device now placed).SameInventory synced
  synced_inv : Inv env D synced
  second_sync : IdentityGraph.Syncs synced.syncOrder synced.graph db'.graph
  second_same : synced.SameInventory db'
  final_inv : Inv env D db'
  final_synced : db'.graph.Synced
  uid_eq : db'.graph.uidOf attribution.controllerId = some uid
  deviceId_eq : deviceId = attribution.canonicalDeviceId

section Observe

variable {env : Env} {D : Set DiscoveredDevice} {E : Set Endpoint} {db : Db} {now : Nat}
  {device : DiscoveredDevice}

theorem Good.registry (h : Good env D E db) (hf : env.FreshUuids) (now : Nat) :
    ∃ db', initializeRegistry env now db = .ok db' ∧ Inv env D db' ∧ db'.graph.Synced ∧
      IdentityGraph.Syncs (initializeInventory env now db).syncOrder
        (initializeInventory env now db).graph db'.graph ∧
      (initializeInventory env now db).SameInventory db' :=
  (h.inventory now).synchronize hf

/-- **An observation never fails**: no statement of it meets a constraint, and
its scope is found. -/
theorem registerObservation_spec (h : Good env D E db) (hf : env.FreshUuids)
    (hcol : NoCollision env D) (now : Nat) (hd : device ∈ D) :
    ∃ db' uid deviceId, registerObservation env now device db = .ok (db', uid, deviceId) ∧
      Nonempty (Observation env D now device db db' uid deviceId) := by
  obtain ⟨start, hstart, hsi, hss, hys0, hsame0⟩ := h.registry hf now
  obtain ⟨placed, a, hattr, ha⟩ := attributeObservation_spec now hsi hcol hd
  have hplaced := ha.placed hsi
  have hri : Inv env D (recordObservation a device now placed) := hsi.observed hd hplaced
  obtain ⟨synced, hsync, hyi, hys, hys1, hsame1⟩ := hri.synchronize hf
  obtain ⟨db', hsync2, hfi, hfs, hys2, hsame2⟩ := hyi.synchronize hf
  -- the attributed identity is there, so it has a uid, and its scope is found by it
  have hcan : db'.graph.canonical a.controllerId = some a.canonicalDeviceId := by
    rw [hys2.frame.1, hys1.frame.1, graph_recordObservation]
    exact hplaced.canonical
  obtain ⟨uid, huid⟩ := hfs.uidOf hcan
  have hnone : db'.graph.physical a.controllerId = none := by
    cases hp : db'.graph.physical a.controllerId with
    | none => rfl
    | some d =>
        obtain ⟨n, -, hn⟩ := hfi.drawn hp
        exact absurd (hn ▸ isUidKey_newUid env n) (hfi.alias_shape huid)
  have hscope := scope?_spec hfi.coherent a.controllerId
  rw [Db.uidFor, hnone] at hscope
  simp only [huid, Option.map_eq_some_iff] at hscope
  obtain ⟨scope, hsc, hscu⟩ := hscope
  refine ⟨db', uid, a.canonicalDeviceId, ?_, ⟨?_⟩⟩
  · have hinv : registerInventoryObservation env now device start =
        .ok (recordObservation a device now placed, a.controllerId, a.canonicalDeviceId) := by
      simp only [registerInventoryObservation, hsi.initializeInventory_eq now, hattr, Loop.ok_bind,
        Loop.pure_eq_ok]
    simp only [registerObservation, hstart, hinv, hsync, resolve, hsync2, hsc, hscu, Loop.ok_bind,
      Loop.pure_eq_ok]
  · exact { start := start, attribution := a, placed := placed, synced := synced,
            start_ok := hstart, start_sync := hys0, start_same := hsame0, start_inv := hsi,
            start_synced := hss, attributed := ha,
            recorded_inv := hri, first_sync := hys1, first_same := hsame1, synced_inv := hyi,
            second_sync := hys2, second_same := hsame2, final_inv := hfi, final_synced := hfs,
            uid_eq := huid, deviceId_eq := rfl }

end Observe

/-! ## calls that leave the identity graph alone -/

/-- `db'` differs from `db` in status, activity and time columns only. -/
structure Quiet (db db' : Db) : Prop where
  graph : db'.graph = db.graph
  wellFormed : WellFormed db → WellFormed db'
  devices : db'.devices.map (fun d => (d.id, d.stableKey, d.endpoint)) =
    db.devices.map fun d => (d.id, d.stableKey, d.endpoint)
  identities : db'.identities.map (fun r => (r.controllerId, r.serialNumber)) =
    db.identities.map fun r => (r.controllerId, r.serialNumber)
  locations : db'.locations = db.locations
  evidence : db'.evidence = db.evidence
  uidsDrawn : db'.uidsDrawn = db.uidsDrawn

/-- A column that reads the same has the same entries. -/
theorem exists_mem_of_map_eq {α β : Type} {f : α → β} {xs ys : List α} (h : xs.map f = ys.map f)
    {x : α} (hx : x ∈ xs) : ∃ y ∈ ys, f y = f x := by
  have hmem := List.mem_map_of_mem (f := f) hx
  rw [h] at hmem
  exact List.mem_map.mp hmem

section Quiet

variable {env : Env} {D : Set DiscoveredDevice} {E : Set Endpoint} {db db' : Db}

theorem Inv.quiet (h : Inv env D db) (hq : Quiet db db') : Inv env D db' := by
  have hdev : ∀ row ∈ db'.devices, ∃ row₀ ∈ db.devices, row₀.id = row.id ∧
      row₀.stableKey = row.stableKey := by
    intro row hrow
    obtain ⟨row₀, hrow₀, hEq⟩ := exists_mem_of_map_eq hq.devices hrow
    simp only [Prod.mk.injEq] at hEq
    exact ⟨row₀, hrow₀, hEq.1, hEq.2.1⟩
  have hids : ∀ r ∈ db'.identities, ∃ r₀ ∈ db.identities, r₀.controllerId = r.controllerId ∧
      r₀.serialNumber = r.serialNumber := by
    intro r hr
    obtain ⟨r₀, hr₀, hEq⟩ := exists_mem_of_map_eq hq.identities hr
    simp only [Prod.mk.injEq] at hEq
    exact ⟨r₀, hr₀, hEq⟩
  have hg := hq.graph
  constructor
  case wellFormed => exact hq.wellFormed h.wellFormed
  case coherent => exact hg ▸ h.coherent
  case drawn =>
    intro u d hu
    rw [hg] at hu
    obtain ⟨n, hn, hun⟩ := h.drawn hu
    exact ⟨n, hq.uidsDrawn ▸ hn, hun⟩
  case member_device =>
    intro d a hd
    rw [hg] at hd
    obtain ⟨row, hrow, hid⟩ := h.member_device hd
    obtain ⟨row', hrow', hEq⟩ := exists_mem_of_map_eq hq.devices.symm hrow
    simp only [Prod.mk.injEq] at hEq
    exact ⟨row', hrow', hEq.1.trans hid⟩
  case location_identity =>
    rw [hq.locations, hg]
    exact h.location_identity
  case evidence_identity =>
    rw [hq.evidence, hg]
    exact h.evidence_identity
  case connected_key =>
    intro a k hk
    rw [hg] at hk
    exact h.connected_key hk
  case device_id =>
    intro row hrow
    obtain ⟨row₀, hrow₀, hid, -⟩ := hdev row hrow
    unfold Accounted
    rw [hg, ← hid]
    exact h.device_id row₀ hrow₀
  case device_key =>
    intro row hrow
    obtain ⟨row₀, hrow₀, hid, hkey⟩ := hdev row hrow
    rw [hg, ← hid, ← hkey]
    exact h.device_key row₀ hrow₀
  case serial_identity =>
    intro r hr hs
    obtain ⟨r₀, hr₀, hid, hserial⟩ := hids r hr
    rw [← hserial]
    exact h.serial_identity r₀ hr₀ (hid ▸ hs)
  case identity_shape =>
    intro r hr
    obtain ⟨r₀, hr₀, hid, -⟩ := hids r hr
    rw [← hid]
    exact h.identity_shape r₀ hr₀
  case alias_serial =>
    intro a u hu hs
    rw [hg] at hu ⊢
    exact h.alias_serial hu hs
  case alias_shape =>
    intro a u hu
    rw [hg] at hu
    exact h.alias_shape hu

theorem quiet_recordInventorySuccess (now : Nat) (controllerId endpointKey : String) (db : Db) :
    Quiet db (recordInventorySuccess now controllerId endpointKey db) where
  graph := graph_recordInventorySuccess now db controllerId endpointKey
  wellFormed := fun hw => { hw with
    connections := hw.connections.update_of_key (by intro c; rfl)
    identities := hw.identities.update_of_key (by intro r; rfl) }
  devices := rfl
  identities := map_update (by intro r; rfl)
  locations := rfl
  evidence := rfl
  uidsDrawn := rfl

theorem quiet_markAllOffline (db : Db) : Quiet db (markAllOffline db) where
  graph := graph_markAllOffline db
  wellFormed := fun hw => { hw with
    connections := hw.connections.update_of_key (by intro c; rfl) }
  devices := map_update (by intro d; rfl)
  identities := rfl
  locations := rfl
  evidence := rfl
  uidsDrawn := rfl

theorem quiet_markDeviceOffline (deviceId : String) (db : Db) :
    Quiet db (markDeviceOffline deviceId db) where
  graph := graph_markDeviceOffline db deviceId
  wellFormed := fun hw => { hw with }
  devices := map_update (by intro d; rfl)
  identities := rfl
  locations := rfl
  evidence := rfl
  uidsDrawn := rfl

/-- The connections after presence was reconciled have the keys they had. -/
theorem map_key_reconciled (observed : List (String × String)) (rows : List ConnectionRow) :
    (observed.foldl (fun rows item =>
      update (fun c => c.controllerId = item.1 ∧ c.endpointKey = item.2)
        (fun c => { c with active := true }) rows)
      (update (fun _ => true) (fun c => { c with active := false }) rows)).map ConnectionRow.key =
    rows.map ConnectionRow.key := by
  refine Loop.foldl_invariant (fun _ (rows' : List ConnectionRow) =>
    rows'.map ConnectionRow.key = rows.map ConnectionRow.key) observed
    (map_update (by intro c; rfl)) ?_
  intro done item rest rows' _ hrows
  rw [← hrows]
  exact map_update (by intro c; rfl)

theorem Inv.quiet_reconcile (h : Inv env D db) (now : Nat) (observed : List (String × String)) :
    Quiet db (reconcileInventoryPresence env now observed db) := by
  have hkeys := map_key_reconciled observed db.connections
  simp only [reconcileInventoryPresence, h.initializeInventory_eq now]
  constructor
  case graph =>
    simp only [Db.graph]
    congr 1
    funext a k
    have hmem := congrArg (fun l => (a, k) ∈ l) hkeys
    simpa only [List.mem_map, eq_iff_iff] using hmem
  case wellFormed =>
    intro hw
    refine { hw with connections := ?_ }
    unfold Keyed
    rw [hkeys]
    exact hw.connections
  case devices => rfl
  case identities => rfl
  case locations => rfl
  case evidence => rfl
  case uidsDrawn => rfl

/-- A legacy database stays one when its devices change status only. -/
theorem Legacy.quiet (h : Legacy E db) (hids : db'.identities = db.identities)
    (hmembers : db'.members = db.members) (hconn : db'.connections.map ConnectionRow.key =
      db.connections.map ConnectionRow.key) (hphysical : db'.physical = db.physical)
    (haliases : db'.aliases = db.aliases) (hq : Quiet db db') : Legacy E db' := by
  have hrows : ∀ row ∈ db'.devices, ∃ row₀ ∈ db.devices, row₀.id = row.id ∧
      row₀.stableKey = row.stableKey ∧ row₀.endpoint = row.endpoint := by
    intro row hrow
    obtain ⟨row₀, hrow₀, hEq⟩ := exists_mem_of_map_eq hq.devices hrow
    simp only [Prod.mk.injEq] at hEq
    exact ⟨row₀, hrow₀, hEq⟩
  constructor
  case identities => rw [hids, h.identities]
  case members => rw [hmembers, h.members]
  case connections => simpa [h.connections] using hconn
  case locations => rw [hq.locations, h.locations]
  case evidence => rw [hq.evidence, h.evidence]
  case physical => rw [hphysical, h.physical]
  case aliases => rw [haliases, h.aliases]
  case keyed =>
    have hkeys := congrArg (List.map fun x : String × String × Endpoint => x.2.1) hq.devices
    simp only [List.map_map] at hkeys
    have hkeyed := h.keyed
    unfold Keyed at hkeyed ⊢
    exact hkeys ▸ hkeyed
  case id_key =>
    intro row hrow
    obtain ⟨row₀, hrow₀, hid, hkey, -⟩ := hrows row hrow
    rw [← hid, ← hkey]
    exact h.id_key row₀ hrow₀
  case endpoint =>
    intro row hrow
    obtain ⟨row₀, hrow₀, hid, hkey, hend⟩ := hrows row hrow
    rw [← hkey, ← hend]
    exact h.endpoint row₀ hrow₀

end Quiet

/-! ## the registry as a transition system -/

/-- What a call does to the database, step by step. -/
inductive RegistryStep (env : Env) (D : Set DiscoveredDevice) (E : Set Endpoint) : Db → Db → Prop
  where
  /-- legacy rows are grouped -/
  | bootstrap {db} (now : Nat) : Legacy E db →
      RegistryStep env D E db (initializeInventory env now db)
  /-- a synchronisation pass -/
  | sync {db db'} : Inv env D db → Inv env D db' → db'.graph.Synced →
      IdentityGraph.Syncs db.syncOrder db.graph db'.graph → db.SameInventory db' →
      RegistryStep env D E db db'
  /-- an observation, in a synchronised state -/
  | observe {db placed a device} (now : Nat) : device ∈ D → Inv env D db → db.graph.Synced →
      Attributed env now device db a placed →
      RegistryStep env D E db (recordObservation a device now placed)
  /-- status, activity and times -/
  | quiet {db db'} : Inv env D db → Quiet db db' → RegistryStep env D E db db'
  /-- the status of legacy rows -/
  | legacy {db db'} : Legacy E db → Legacy E db' → RegistryStep env D E db db'

/-- Any number of steps. -/
abbrev RegistrySteps (env : Env) (D : Set DiscoveredDevice) (E : Set Endpoint) : Db → Db → Prop :=
  Relation.ReflTransGen (RegistryStep env D E)

section Calls

variable {env : Env} {D : Set DiscoveredDevice} {E : Set Endpoint} {db db' : Db}

/-- Every step starts and ends in a database the registry can work with. -/
theorem RegistryStep.good (h : RegistryStep env D E db db') : Good env D E db ∧ Good env D E db' := by
  cases h with
  | bootstrap now hl => exact ⟨.inl hl, .inr (Good.inventory (.inl hl) now)⟩
  | sync hi hi' _ _ _ => exact ⟨.inr hi, .inr hi'⟩
  | observe now hd hi _ ha => exact ⟨.inr hi, .inr (hi.observed hd (ha.placed hi))⟩
  | quiet hi hq => exact ⟨.inr hi, .inr (hi.quiet hq)⟩
  | legacy hl hl' => exact ⟨.inl hl, .inl hl'⟩

theorem Good.steps_inventory (h : Good env D E db) (now : Nat) :
    RegistrySteps env D E db (initializeInventory env now db) := by
  rcases h with hl | hi
  · exact .single (.bootstrap now hl)
  · rw [hi.initializeInventory_eq now]

theorem Observation.steps {now : Nat} {device : DiscoveredDevice} {uid deviceId : String}
    (o : Observation env D now device db db' uid deviceId) (h : Good env D E db)
    (hd : device ∈ D) : RegistrySteps env D E db db' := by
  have hstart : RegistryStep env D E (initializeInventory env now db) o.start :=
    .sync (h.inventory now) o.start_inv o.start_synced o.start_sync o.start_same
  have hobserve := RegistryStep.observe (E := E) now hd o.start_inv o.start_synced o.attributed
  have hsynced : o.synced.graph.Synced := o.first_sync.synced o.recorded_inv.coherent mem_syncOrder
  have hfirst : RegistryStep env D E _ o.synced :=
    .sync o.recorded_inv o.synced_inv hsynced o.first_sync o.first_same
  have hsecond : RegistryStep env D E o.synced db' :=
    .sync o.synced_inv o.final_inv o.final_synced o.second_sync o.second_same
  exact ((((h.steps_inventory now).tail hstart).tail hobserve).tail hfirst).tail hsecond

/-- `resolve` never fails. -/
theorem resolve_spec (h : Good env D E db) (hf : env.FreshUuids) (identifier : String) :
    ∃ db' scope, resolve env identifier db = .ok (db', scope) ∧ Good env D E db' ∧
      RegistrySteps env D E db db' ∧ (scope.isSome → Inv env D db') := by
  rcases h with hl | hi
  · have hsync : syncCurrentIdentities env db = .ok db := by
      simp [syncCurrentIdentities, hl.identities]
    have hnone : db.scope? identifier = none := by
      simp [Db.scope?, Db.physicalByIdentifier?, Db.physical?, Db.alias?, hl.physical, hl.aliases,
        lookup]
    refine ⟨db, none, ?_, .inl hl, .refl, by simp⟩
    simp only [resolve, hsync, hnone, Loop.ok_bind, Loop.pure_eq_ok]
  · obtain ⟨db', hok, hi', hs, hsyncs, hsame⟩ := hi.synchronize hf
    refine ⟨db', db'.scope? identifier, ?_, .inr hi', .single (.sync hi hi' hs hsyncs hsame),
      fun _ => hi'⟩
    simp only [resolve, hok, Loop.ok_bind, Loop.pure_eq_ok]

theorem reconcilePresence_spec (h : Good env D E db) (hf : env.FreshUuids) (now : Nat)
    (observed : List (String × String)) :
    ∃ db', reconcilePresence env now observed db = .ok db' ∧ Good env D E db' ∧
      RegistrySteps env D E db db' := by
  have hloop : ∃ acc, observed.foldlM (translateObserved env) (db, []) = .ok acc ∧
      Good env D E acc.1 ∧ RegistrySteps env D E db acc.1 := by
    refine Loop.foldlM_ok (fun _ (acc : Db × List (String × String)) =>
      Good env D E acc.1 ∧ RegistrySteps env D E db acc.1) observed ⟨h, .refl⟩ ?_
    rintro done item rest acc - ⟨hgood, hsteps⟩
    obtain ⟨db', scope, hok, hgood', hsteps', -⟩ := resolve_spec hgood hf item.1
    cases scope with
    | none =>
        exact ⟨(db', acc.2), by simp [translateObserved, hok], hgood', hsteps.trans hsteps'⟩
    | some scope =>
        exact ⟨(db', acc.2 ++ [(scope.controllerId, item.2)]), by simp [translateObserved, hok],
          hgood', hsteps.trans hsteps'⟩
  obtain ⟨acc, hok, hgood, hsteps⟩ := hloop
  have hinv := hgood.inventory now
  have hrec : reconcileInventoryPresence env now acc.2 acc.1 =
      reconcileInventoryPresence env now acc.2 (initializeInventory env now acc.1) := by
    simp only [reconcileInventoryPresence, hinv.initializeInventory_eq now]
  have hquiet := hinv.quiet_reconcile now acc.2
  rw [← hrec] at hquiet
  refine ⟨_, ?_, .inr (hinv.quiet hquiet),
    (hsteps.trans (hgood.steps_inventory now)).tail (.quiet hinv hquiet)⟩
  simp only [reconcilePresence, hok, Loop.ok_bind, Loop.pure_eq_ok]

theorem recordSuccess_spec (h : Good env D E db) (hf : env.FreshUuids) (now : Nat)
    (uid endpointKey : String) :
    ∃ db', recordSuccess env now uid endpointKey db = .ok db' ∧ Good env D E db' ∧
      RegistrySteps env D E db db' := by
  obtain ⟨db₁, scope, hok, hgood, hsteps, hinv⟩ := resolve_spec h hf uid
  cases scope with
  | none =>
      refine ⟨db₁, ?_, hgood, hsteps⟩
      simp only [recordSuccess, hok, Loop.ok_bind, Loop.pure_eq_ok]
  | some scope =>
      have hi₁ := hinv rfl
      have hq := quiet_recordInventorySuccess now scope.controllerId endpointKey db₁
      have hi₂ := hi₁.quiet hq
      obtain ⟨db', hsync, hi', hs, hsyncs, hsame⟩ := hi₂.synchronize hf
      refine ⟨db', ?_, .inr hi',
        (hsteps.tail (.quiet hi₁ hq)).tail (.sync hi₂ hi' hs hsyncs hsame)⟩
      simp only [recordSuccess, hok, hsync, Loop.ok_bind]

theorem offline_spec (h : Good env D E db) (hq : Quiet db db')
    (hids : db'.identities = db.identities) (hmembers : db'.members = db.members)
    (hconn : db'.connections.map ConnectionRow.key = db.connections.map ConnectionRow.key)
    (hphysical : db'.physical = db.physical) (haliases : db'.aliases = db.aliases) :
    Good env D E db' ∧ RegistrySteps env D E db db' := by
  rcases h with hl | hi
  · have hl' := hl.quiet hids hmembers hconn hphysical haliases hq
    exact ⟨.inl hl', .single (.legacy hl hl')⟩
  · exact ⟨.inr (hi.quiet hq), .single (.quiet hi hq)⟩

/-- **No call fails**, and each is a sequence of steps. -/
theorem stepRegistry_spec (h : Good env D E db) (hf : env.FreshUuids) (hcol : NoCollision env D)
    (call : Nat × RegistryOp) (hD : ∀ device, call.2 = .observe device → device ∈ D) :
    ∃ db', stepRegistry env db call = .ok db' ∧ Good env D E db' ∧ RegistrySteps env D E db db' := by
  obtain ⟨now, op⟩ := call
  cases op with
  | initializeRegistry =>
      obtain ⟨db', hok, hi, hs, hsyncs, hsame⟩ := h.registry hf now
      exact ⟨db', hok, .inr hi, (h.steps_inventory now).tail
        (.sync (h.inventory now) hi hs hsyncs hsame)⟩
  | observe device =>
      have hd := hD device rfl
      obtain ⟨db', uid, deviceId, hok, ⟨o⟩⟩ := registerObservation_spec h hf hcol now hd
      refine ⟨db', ?_, .inr o.final_inv, o.steps h hd⟩
      simp only [stepRegistry, hok]
      rfl
  | resolve identifier =>
      obtain ⟨db', scope, hok, hgood, hsteps, -⟩ := resolve_spec h hf identifier
      refine ⟨db', ?_, hgood, hsteps⟩
      simp only [stepRegistry, hok]
      rfl
  | reconcilePresence observed => exact reconcilePresence_spec h hf now observed
  | recordSuccess uid endpointKey => exact recordSuccess_spec h hf now uid endpointKey
  | markAllOffline =>
      obtain ⟨hgood, hsteps⟩ := offline_spec h (quiet_markAllOffline db) rfl rfl
        (map_update (by intro c; rfl)) rfl rfl
      exact ⟨_, rfl, hgood, hsteps⟩
  | markDeviceOffline deviceId =>
      obtain ⟨hgood, hsteps⟩ := offline_spec h (quiet_markDeviceOffline deviceId db) rfl rfl rfl
        rfl rfl
      exact ⟨_, rfl, hgood, hsteps⟩

/-- The devices a run of calls observes. -/
def callDevices (calls : List (Nat × RegistryOp)) : List DiscoveredDevice :=
  calls.filterMap fun call => match call.2 with
    | .observe device => some device
    | _ => none

theorem callDevices_append (before after : List (Nat × RegistryOp)) :
    callDevices (before ++ after) = callDevices before ++ callDevices after :=
  List.filterMap_append

/-- **Runs of calls never fail**, and are sequences of steps. -/
theorem runRegistry_spec (h : Good env D E db) (hf : env.FreshUuids) (hcol : NoCollision env D)
    {calls : List (Nat × RegistryOp)} (hD : ∀ d ∈ callDevices calls, d ∈ D) :
    ∃ db', runRegistry env db calls = .ok db' ∧ Good env D E db' ∧ RegistrySteps env D E db db' := by
  refine Loop.foldlM_ok (fun _ db' => Good env D E db' ∧ RegistrySteps env D E db db') calls
    ⟨h, .refl⟩ ?_
  rintro done call rest db₁ hsplit ⟨hgood, hsteps⟩
  have hobserved : ∀ device, call.2 = .observe device → device ∈ D := by
    intro device hop
    refine hD device (List.mem_filterMap.mpr ⟨call, ?_, by rw [hop]⟩)
    rw [hsplit]
    simp
  obtain ⟨db₂, hok, hgood₂, hsteps₂⟩ := stepRegistry_spec hgood hf hcol call hobserved
  exact ⟨db₂, hok, hgood₂, hsteps.trans hsteps₂⟩

end Calls

end MorningstarModbus
