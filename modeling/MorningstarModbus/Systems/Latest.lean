import Mathlib.Tactic.Linarith
import MorningstarModbus.Controllers.RegistryGraph
import MorningstarModbus.Systems.Contributions
import MorningstarModbus.Systems.Observations

/-!
# MorningstarModbus.Systems.Latest

The snapshot of a system (`SystemDataRepository.latest`), from the latest sample
of each controller.  The stream of a system sends it when it differs from the
one before.

* `latestReads_now` — what is read does not depend on the clock;
* `snapshot_unchanged_iff` — when the snapshot does not.
-/

namespace MorningstarModbus

open Calendar Query Table

/-! ## the latest sample of a controller -/

/-- A sample with its register values. -/
structure LatestSample where
  sample : ControllerSample
  values : List RegisterValue
  deriving DecidableEq

/-- `ORDER BY address, register_name` -/
def RegisterValue.place (v : RegisterValue) : Nat ×ₗ String := toLex (v.address, v.registerName)

/-- `ControllerDataRepository.latest` -/
def ControllerDataRepository.latest (env : Env) (identifier : String) (db : TelemetryDb)
    (registry : Db) : Except ControllerDataError (Db × Option LatestSample) :=
  query env identifier (fun scope =>
    .ok ((orderBy SampleRow.key .desc (db.samples.filter (sampleFilter scope.contains {}))).head?.map
      fun s =>
        { sample := s.ofController scope
          values := orderBy RegisterValue.place .asc
            (db.values.filter fun v => v.sampleId = s.id) })) registry

/-! ## the snapshot -/

/-- What `latest` reads: the system, its controllers, and the latest sample of each. -/
structure LatestReads where
  system : SystemsRow
  controllers : List (ControllerRecord × Option LatestSample)
  deriving DecidableEq

structure SystemSnapshot where
  systemUid : String
  name : String
  observedAt : Option String
  controllerCount : Nat
  metrics : List (String × MetricAggregate)
  deriving DecidableEq

namespace SystemDataRepository

/-- `system` -/
def system (env : Env) (config : SystemConfig) (now : Nat) (identifier : String) (db : SystemDb) :
    Except SystemError (SystemDb × SystemsRow) := do
  let (db, systemUid) ← resolveUid env config now identifier db
  match db.systems.find? fun s => s.systemUid = systemUid with
  | none => throw (.notFound identifier)
  | some system => return (db, system)

/-- The latest sample of each controller. -/
def latestSamples (env : Env) (telemetry : TelemetryDb) (controllers : List ControllerRecord)
    (registry : Db) :
    Except ControllerDataError (Db × List (ControllerRecord × Option LatestSample)) :=
  controllers.foldlM (fun acc controller => do
    let (registry, sample) ←
      ControllerDataRepository.latest env controller.scope.controllerUid telemetry acc.1
    return (registry, acc.2 ++ [(controller, sample)])) (registry, [])

/-- The reading part of `latest`. -/
def latestReads (env : Env) (config : SystemConfig) (now : Nat) (identifier : String)
    (telemetry : TelemetryDb) (db : SystemDb) : Except SystemError (SystemDb × LatestReads) := do
  let (db, system) ← system env config now identifier db
  let (db, controllers) ← controllers env config now system.systemUid db
  let (db, controllers) ← onRegistry (latestSamples env telemetry controllers) db
  return (db, { system, controllers })

/-- `_select_value`, with the observation it becomes. -/
def selectValue (spec : SystemMetricSpec) (controller : ControllerRecord) (s : LatestSample) :
    Option MetricObservation :=
  spec.registers.findSome? fun registerName =>
    match lookup RegisterValue.registerName registerName s.values.reverse with
    | none => none
    | some v =>
        match (normalizedValue v).1 with
        | .missing => none
        | value => some
            { controllerUid := controller.scope.controllerUid, sourceDeviceId := none
              observedAt := s.sample.observedAt, registerName, value
              unit := unitOr v.unit spec.unit }

end SystemDataRepository

namespace LatestReads

open SystemDataRepository

/-- The observations of a metric. -/
def observations (r : LatestReads) (spec : SystemMetricSpec) : List MetricObservation :=
  r.controllers.filterMap fun c => c.2.bind (selectValue spec c.1)

/-- What `latest` returns of what it has read. -/
def snapshot (texts : PyTexts) (catalog : String → List String) (now : Nat) (r : LatestReads) :
    SystemSnapshot where
  systemUid := r.system.systemUid
  name := r.system.name
  observedAt := ((r.controllers.filterMap fun c => c.2.map fun s => s.sample.observedAt).filter
    (· ≠ "")).max?
  controllerCount := r.controllers.length
  metrics := systemMetrics.map fun spec =>
    (spec.name, MetricObservation.aggregateObservations texts now spec (r.observations spec)
      (eligibleControllerUids catalog (r.controllers.map Prod.fst) spec))

end LatestReads

/-- `SystemDataRepository.latest` -/
def SystemDataRepository.latest (env : Env) (catalog : String → List String) (texts : PyTexts)
    (config : SystemConfig) (now : Nat) (identifier : String) (telemetry : TelemetryDb)
    (db : SystemDb) : Except SystemError (SystemDb × SystemSnapshot) := do
  let (db, reads) ← latestReads env config now identifier telemetry db
  return (db, reads.snapshot texts catalog now)

/-! ## reading does not depend on the clock -/

section Inventory

variable {env : Env} {now : Nat} {db db' : Db}

/-- There are identities, or no devices to make them of. -/
def Db.Settled (db : Db) : Prop := db.identities ≠ [] ∨ db.devices = []

/-- What keeps the inventory keeps it settled. -/
theorem Db.SameInventory.settled (h : db.SameInventory db') (hs : db.Settled) : db'.Settled := by
  unfold Db.Settled
  rw [h.identities, h.devices]
  exact hs

/-- On a settled inventory nothing is left to bootstrap, and the clock is not looked at. -/
theorem initializeInventory_of_settled (env : Env) (now : Nat) (h : db.Settled) :
    initializeInventory env now db = db := by
  unfold initializeInventory
  split
  case isTrue hempty =>
    have hnone : db.devices = [] := h.resolve_left (not_not.mpr (List.isEmpty_iff.mp hempty))
    simp [bootstrapLegacyRows, hnone, distinct]
  case isFalse => rfl

/-- An upsert leaves an identity behind. -/
theorem identities_upsertLegacyIdentity (row : IdentityRow) (db : Db) :
    (upsertLegacyIdentity row db).identities ≠ [] := by
  simp only [upsertLegacyIdentity, upsert]
  split
  case isTrue hold =>
    intro hnil
    simp [List.map_eq_nil_iff.mp hnil] at hold
  case isFalse => simp

/-- The rows of a group leave the identities as they are. -/
theorem foldl_bootstrapRow_identities (controllerId : String) (newest : Bool) (rows : List DeviceRow)
    (db : Db) : (rows.foldl (bootstrapRow now controllerId newest) db).identities = db.identities := by
  induction rows generalizing db with
  | nil => rfl
  | cons d rows ih => exact ih _

/-- A group leaves an identity. -/
theorem bootstrapGroup_identities (source : Db) {rows : List DeviceRow} {d : DeviceRow}
    (hd : d ∈ rows) (db : Db) :
    (bootstrapGroup env now source rows db (legacyKey env source d)).identities ≠ [] := by
  obtain ⟨group, hgroup⟩ :
    ∃ group, group = rows.filter fun e => legacyKey env source e = legacyKey env source d := ⟨_, rfl⟩
  have hmem : d ∈ group := by simp [hgroup, hd]
  obtain ⟨current, older, hsorted⟩ : ∃ current older,
      group.insertionSort seenAfter = current :: older :=
    List.exists_cons_of_ne_nil fun hnil => by
      have := (List.perm_insertionSort seenAfter group).mem_iff.mpr hmem
      rw [hnil] at this
      cases this
  obtain ⟨last, hlast⟩ := Option.isSome_iff_exists.mp
    (List.getLast?_isSome.mpr (List.ne_nil_of_mem hmem))
  simp only [bootstrapGroup, ← hgroup, hsorted, hlast, foldl_bootstrapRow_identities]
  exact identities_upsertLegacyIdentity _ db

/-- Bootstrapping another group does not empty the identities again. -/
theorem bootstrapGroup_keeps (source : Db) (rows : List DeviceRow) (k : String) {db : Db}
    (h : db.identities ≠ []) : (bootstrapGroup env now source rows db k).identities ≠ [] := by
  unfold bootstrapGroup
  simp only
  split
  · rw [foldl_bootstrapRow_identities]
    exact identities_upsertLegacyIdentity _ db
  · exact h

/-- After the first call of `initialize` nothing is left to bootstrap. -/
theorem settled_initializeInventory (env : Env) (now : Nat) (db : Db) :
    (initializeInventory env now db).Settled := by
  by_cases hs : db.Settled
  · rw [initializeInventory_of_settled env now hs]
    exact hs
  · obtain ⟨hnone, hdevices⟩ := not_or.mp hs
    obtain ⟨rows, hrows⟩ : ∃ rows, rows = db.devices.insertionSort fun a b => b.lastSeen ≤ a.lastSeen :=
      ⟨_, rfl⟩
    obtain ⟨d, rest, hcons⟩ : ∃ d rest, rows = d :: rest :=
      List.exists_cons_of_ne_nil fun hnil => by
        have hlength := (List.perm_insertionSort (fun a b => b.lastSeen ≤ a.lastSeen)
          db.devices).length_eq
        rw [← hrows, hnil] at hlength
        exact hdevices (List.length_eq_zero_iff.mp hlength.symm)
    refine .inl ?_
    rw [initializeInventory, if_pos (List.isEmpty_iff.mpr (not_not.mp hnone)), bootstrapLegacyRows]
    simp only [← hrows]
    -- the first group leaves an identity, and the others keep it
    have hkeys : distinct (rows.map (legacyKey env db)) = legacyKey env db d ::
        (distinct (rest.map (legacyKey env db))).filter (· ≠ legacyKey env db d) := by
      rw [hcons, List.map_cons, distinct]
    rw [hkeys, List.foldl_cons]
    exact Loop.foldl_invariant (fun _ (db : Db) => db.identities ≠ []) _
      (bootstrapGroup_identities db (hcons ▸ List.mem_cons_self) db)
      fun _ _ _ _ _ h => bootstrapGroup_keeps db rows _ h

/-- The registry's tables are not those of the inventory. -/
theorem syncIdentity_inventory {row : IdentityRow} (h : syncIdentity env db row = .ok db') :
    db.SameInventory db' := by
  simp only [syncIdentity, Loop.bind_eq_ok, Loop.pure_eq_ok, Except.ok.injEq] at h
  obtain ⟨placed, hplaced, rfl⟩ := h
  have hchosen : db.SameInventory (chooseUid env row db).1 := by
    unfold chooseUid
    split
    · exact ⟨rfl, rfl, rfl, rfl, rfl, rfl⟩
    · split <;> exact ⟨rfl, rfl, rfl, rfl, rfl, rfl⟩
  have hphysical : (chooseUid env row db).1.SameInventory placed := by
    unfold upsertPhysical at hplaced
    simp only at hplaced
    split at hplaced
    · cases hplaced
    · split at hplaced
      · cases hplaced
      · cases hplaced
        exact ⟨rfl, rfl, rfl, rfl, rfl, rfl⟩
  have hall := IsTrans.trans _ _ _ hchosen hphysical
  exact ⟨hall.devices, hall.identities, hall.members, hall.connections, hall.locations,
    hall.evidence⟩

theorem syncCurrentIdentities_inventory (h : syncCurrentIdentities env db = .ok db') :
    db.SameInventory db' := by
  refine Loop.foldlM_invariant h (refl db) fun row _ db₁ db₂ hsame hstep => ?_
  exact IsTrans.trans _ _ _ hsame (syncIdentity_inventory hstep)

theorem resolve_inventory {identifier : String} {scope : Option ControllerScope}
    (h : resolve env identifier db = .ok (db', scope)) : db.SameInventory db' := by
  simp only [resolve, Loop.bind_eq_ok, Loop.pure_eq_ok, Except.ok.injEq, Prod.mk.injEq] at h
  obtain ⟨synced, hsync, rfl, -⟩ := h
  exact syncCurrentIdentities_inventory hsync

/-- All that `initialize` of the registry does to the inventory is its bootstrap. -/
theorem initializeRegistry_inventory (h : initializeRegistry env now db = .ok db') :
    (initializeInventory env now db).SameInventory db' :=
  syncCurrentIdentities_inventory h

/-- On a settled inventory the registry has only to catch up with the identities. -/
theorem initializeRegistry_of_settled (env : Env) (now : Nat) (h : db.Settled) :
    initializeRegistry env now db = syncCurrentIdentities env db := by
  rw [initializeRegistry, initializeInventory_of_settled env now h]

/-- Whatever it started from, `initialize` leaves a settled inventory. -/
theorem initializeRegistry_settled (h : initializeRegistry env now db = .ok db') : db'.Settled :=
  (initializeRegistry_inventory h).settled (settled_initializeInventory env now db)

/-! ### controllers -/

theorem inventoryControllers_of_settled (env : Env) (now : Nat) (h : db.Settled) :
    (inventoryControllers env now db).1 = db := initializeInventory_of_settled env now h

/-- The clock is read only for the bootstrap. -/
theorem listControllers_now (env : Env) (now now' : Nat) (h : db.Settled) :
    listControllers env now db = listControllers env now' db := by
  unfold listControllers
  rw [initializeRegistry_of_settled env now h, initializeRegistry_of_settled env now' h]
  refine Loop.bind_congr fun synced hsync => ?_
  have hs := (syncCurrentIdentities_inventory hsync).settled h
  simp only [inventoryControllers, initializeInventory_of_settled env _ hs]

/-- One row of the listing: placeholders are resolved, the inventory stays. -/
theorem listController_inventory {placeholders : List String} {acc acc' : Db × List ControllerRecord}
    {record : IdentityRow} (h : listController env placeholders acc record = .ok acc') :
    acc.1.SameInventory acc'.1 := by
  unfold listController at h
  split at h
  · cases h
    exact refl acc.1
  · simp only [Loop.bind_eq_ok] at h
    obtain ⟨⟨resolved, scope⟩, hresolve, h⟩ := h
    have hsame := resolve_inventory hresolve
    cases scope <;> cases h <;> exact hsame

theorem listControllers_inventory {records : List ControllerRecord}
    (h : listControllers env now db = .ok (db', records)) :
    (initializeInventory env now db).SameInventory db' := by
  simp only [listControllers, Loop.bind_eq_ok] at h
  obtain ⟨synced, hsync, hrecords⟩ := h
  have hsame := initializeRegistry_inventory hsync
  refine IsTrans.trans _ _ _ hsame ?_
  rw [← inventoryControllers_of_settled env now (initializeRegistry_settled hsync)]
  exact Loop.foldlM_invariant
    (P := fun acc => (inventoryControllers env now synced).1.SameInventory acc.1) hrecords (refl _) fun record _ acc acc' hacc hstep =>
      IsTrans.trans _ _ _ hacc (listController_inventory hstep)

/-- Reading the latest sample of a controller resolves its identifier and no more. -/
theorem latest_inventory {identifier : String} {telemetry : TelemetryDb}
    {sample : Option LatestSample}
    (h : ControllerDataRepository.latest env identifier telemetry db = .ok (db', sample)) :
    db.SameInventory db' := by
  simp only [ControllerDataRepository.latest, ControllerDataRepository.query,
    ControllerDataRepository.scope, Loop.bind_eq_ok] at h
  obtain ⟨⟨registry, scope⟩, ⟨⟨resolved, found⟩, hresolve, hfound⟩, rows, -, hrows⟩ := h
  have hr := Loop.mapError_eq_ok.mp hresolve
  cases found with
  | none => cases hfound
  | some found =>
      cases hfound
      cases hrows
      exact resolve_inventory hr

end Inventory

namespace SystemDataRepository

section Clock

variable {env : Env} {config : SystemConfig} {now now' : Nat} {identifier : String}
  {telemetry : TelemetryDb} {db db' : SystemDb}

/-- A call on the registry answers as it does alone. -/
theorem onRegistry_registry {α : Type} {call : Db → Except ControllerDataError (Db × α)} {a : α}
    (h : onRegistry call db = .ok (db', a)) : call db.registry = .ok (db'.registry, a) := by
  simp only [onRegistry, Loop.bind_eq_ok] at h
  obtain ⟨called, hcall, h⟩ := h
  cases h
  exact Loop.mapError_eq_ok.mp hcall

/-- On a settled inventory the controllers do not depend on the clock. -/
theorem controllersOf_now (env : Env) (now now' : Nat) (h : db.registry.Settled) :
    onRegistry (controllersOf env now) db = onRegistry (controllersOf env now') db := by
  simp only [onRegistry, controllersOf, listControllers_now env now now' h]

theorem controllersOf_inventory {records : List ControllerRecord}
    (h : onRegistry (controllersOf env now) db = .ok (db', records)) :
    (initializeInventory env now db.registry).SameInventory db'.registry :=
  listControllers_inventory (Loop.mapError_eq_ok.mp (onRegistry_registry h))

/-- Memberships are tables of the system store. -/
theorem syncMemberships_inventory (h : syncMemberships env config now db = .ok db') :
    (initializeInventory env now db.registry).SameInventory db'.registry := by
  simp only [syncMemberships, Loop.bind_eq_ok] at h
  obtain ⟨⟨listed, records⟩, hlist, h⟩ := h
  cases h
  have hsame := controllersOf_inventory hlist
  exact hsame

/-- Nor do the memberships that are synchronised. -/
theorem syncMemberships_now (env : Env) (config : SystemConfig) (now now' : Nat)
    (h : db.registry.Settled) :
    syncMemberships env config now db = syncMemberships env config now' db := by
  unfold syncMemberships
  rw [controllersOf_now env now now' h]

/-- A call from where the registry is initialised. -/
theorem initialized_trans {registry registry' : Db}
    (h : (initializeInventory env now db.registry).SameInventory registry)
    (h' : (initializeInventory env now registry).SameInventory registry') :
    (initializeInventory env now db.registry).SameInventory registry' := by
  rw [initializeInventory_of_settled env now
    (h.settled (settled_initializeInventory env now db.registry))] at h'
  exact IsTrans.trans _ _ _ h h'

theorem initializeSystems_inventory (h : initializeSystems env config now db = .ok db') :
    (initializeInventory env now db.registry).SameInventory db'.registry := by
  simp only [initializeSystems, Loop.bind_eq_ok] at h
  obtain ⟨⟨opened, u⟩, hopen, h⟩ := h
  obtain ⟨registry, hinit, heq⟩ := Loop.bind_eq_ok.mp (onRegistry_registry hopen)
  cases heq
  have hsame := initializeRegistry_inventory (Loop.mapError_eq_ok.mp hinit)
  split at h
  · cases h
  · have hsynced := syncMemberships_inventory h
    exact initialized_trans hsame hsynced

/-- Nor does the initialisation of the system store. -/
theorem initializeSystems_now (env : Env) (config : SystemConfig) (now now' : Nat)
    (h : db.registry.Settled) :
    initializeSystems env config now db = initializeSystems env config now' db := by
  unfold initializeSystems
  simp only [initializeRegistry_of_settled env _ h, onRegistry]
  refine Loop.bind_congr fun opened hopened => ?_
  obtain ⟨called, hcalled, heq⟩ := Loop.bind_eq_ok.mp hopened
  obtain ⟨registry, hsync, hregistry⟩ := Loop.bind_eq_ok.mp (Loop.mapError_eq_ok.mp hcalled)
  cases hregistry
  cases heq
  have hs := (syncCurrentIdentities_inventory (Loop.mapError_eq_ok.mp hsync)).settled h
  split
  · rfl
  · exact syncMemberships_now env config now now' hs

theorem resolveUid_inventory {systemUid : String}
    (h : resolveUid env config now identifier db = .ok (db', systemUid)) :
    (initializeInventory env now db.registry).SameInventory db'.registry := by
  simp only [resolveUid, Loop.bind_eq_ok] at h
  obtain ⟨opened, hopen, h⟩ := h
  have hsame := initializeSystems_inventory hopen
  split at h
  · cases h
  · cases h
    exact hsame

/-- The system an identifier means does not depend on the clock. -/
theorem resolveUid_now (env : Env) (config : SystemConfig) (now now' : Nat) (identifier : String)
    (h : db.registry.Settled) :
    resolveUid env config now identifier db = resolveUid env config now' identifier db := by
  unfold resolveUid
  rw [initializeSystems_now env config now now' h]

/-- Looking a system up bootstraps the inventory, as every call does, and keeps it then. -/
theorem system_inventory {system : SystemsRow}
    (h : SystemDataRepository.system env config now identifier db = .ok (db', system)) :
    (initializeInventory env now db.registry).SameInventory db'.registry := by
  simp only [SystemDataRepository.system, Loop.bind_eq_ok] at h
  obtain ⟨⟨resolved, systemUid⟩, hresolve, h⟩ := h
  have hsame := resolveUid_inventory hresolve
  split at h
  · cases h
  · cases h
    exact hsame

theorem system_now (env : Env) (config : SystemConfig) (now now' : Nat) (identifier : String)
    (h : db.registry.Settled) :
    SystemDataRepository.system env config now identifier db =
      SystemDataRepository.system env config now' identifier db := by
  unfold SystemDataRepository.system
  rw [resolveUid_now env config now now' identifier h]

/-- So does listing its controllers. -/
theorem controllers_inventory {records : List ControllerRecord}
    (h : controllers env config now identifier db = .ok (db', records)) :
    (initializeInventory env now db.registry).SameInventory db'.registry := by
  simp only [controllers, Loop.bind_eq_ok] at h
  obtain ⟨⟨resolved, systemUid⟩, hresolve, ⟨listed, all⟩, hlist, h⟩ := h
  cases h
  exact initialized_trans (resolveUid_inventory hresolve) (controllersOf_inventory hlist)

/-- After any of these calls the inventory is settled. -/
theorem settled_of_inventory {registry : Db}
    (h : (initializeInventory env now db.registry).SameInventory registry) : registry.Settled :=
  h.settled (settled_initializeInventory env now db.registry)

/-- The controllers of a system do not depend on the clock once the inventory is settled. -/
theorem controllers_now (env : Env) (config : SystemConfig) (now now' : Nat) (identifier : String)
    (h : db.registry.Settled) :
    controllers env config now identifier db = controllers env config now' identifier db := by
  unfold controllers
  rw [resolveUid_now env config now now' identifier h]
  refine Loop.bind_congr fun resolved hresolve => ?_
  have hs := settled_of_inventory (resolveUid_inventory hresolve)
  simp only [controllersOf_now env now now' hs]

/-- Reading the samples of controllers one after another keeps the inventory. -/
theorem latestSamples_inventory {records : List ControllerRecord}
    {samples : List (ControllerRecord × Option LatestSample)} {registry registry' : Db}
    (h : latestSamples env telemetry records registry = .ok (registry', samples)) :
    registry.SameInventory registry' := by
  refine Loop.foldlM_invariant (P := fun acc => registry.SameInventory acc.1) h (refl registry) ?_
  intro record _ acc acc' hacc hstep
  simp only [Loop.bind_eq_ok] at hstep
  obtain ⟨⟨latest, sample⟩, hlatest, hstep⟩ := hstep
  cases hstep
  exact IsTrans.trans _ _ _ hacc (latest_inventory hlatest)

/-- The same of all reads of a snapshot. -/
theorem latestReads_inventory {reads : LatestReads}
    (h : latestReads env config now identifier telemetry db = .ok (db', reads)) :
    (initializeInventory env now db.registry).SameInventory db'.registry := by
  simp only [latestReads, Loop.bind_eq_ok] at h
  obtain ⟨⟨found, system⟩, hsystem, ⟨listed, records⟩, hlist, ⟨latest, samples⟩, hlatest, h⟩ := h
  cases h
  have hlisted := initialized_trans (system_inventory hsystem) (controllers_inventory hlist)
  exact IsTrans.trans _ _ _ hlisted (latestSamples_inventory (onRegistry_registry hlatest))

/-- What is read from a settled registry does not depend on the clock. -/
theorem latestReads_now (env : Env) (config : SystemConfig) (now now' : Nat) (identifier : String)
    (telemetry : TelemetryDb) (h : db.registry.Settled) :
    latestReads env config now identifier telemetry db =
      latestReads env config now' identifier telemetry db := by
  unfold latestReads
  rw [system_now env config now now' identifier h]
  refine Loop.bind_congr fun ⟨opened, system⟩ hfound => ?_
  have hs := settled_of_inventory (system_inventory hfound)
  simp only [controllers_now env config now now' system.systemUid hs]

/-- A call that changes nothing starts from a settled registry. -/
theorem latestReads_settled {reads : LatestReads}
    (h : latestReads env config now identifier telemetry db = .ok (db, reads)) :
    db.registry.Settled :=
  settled_of_inventory (latestReads_inventory h)

end Clock

end SystemDataRepository

/-! ## what the clock changes -/

section Ages

variable {texts : PyTexts} {now now' : Nat}

/-- An observation from the future has age zero. -/
theorem ageMs_eq_zero {t : Timestamp} (h : (now : Int) ≤ t.unixMicros) :
    MetricObservation.ageMs now t = 0 := by
  have hle : (now : ℚ) ≤ t.unixMicros := by exact_mod_cast h
  rw [MetricObservation.ageMs, max_eq_left]
  linarith

/-- From the moment of an observation on, its age grows with the clock. -/
theorem ageMs_lt {t : Timestamp} (h : now < now') (ht : t.unixMicros < now') :
    MetricObservation.ageMs now t < MetricObservation.ageMs now' t := by
  have hlt : (now : ℚ) < now' := by exact_mod_cast h
  have hlt' : (t.unixMicros : ℚ) < now' := by exact_mod_cast ht
  unfold MetricObservation.ageMs
  rw [max_eq_right (by linarith : (0 : ℚ) ≤ (now' - t.unixMicros) / 1000), max_lt_iff]
  constructor <;> linarith

theorem ageMs_nonneg (now : Nat) (t : Timestamp) : 0 ≤ MetricObservation.ageMs now t :=
  le_max_left _ _

/-- The greatest age grows as soon as one time is past. -/
theorem max_age_unchanged_iff (h : now < now') (times : List Timestamp) :
    (times.map (MetricObservation.ageMs now)).max? = (times.map (MetricObservation.ageMs now')).max? ↔
      ∀ t ∈ times, (now' : Int) ≤ t.unixMicros := by
  constructor
  · intro heq t ht
    by_contra hpast
    rw [not_le] at hpast
    obtain ⟨a, ha⟩ := Option.isSome_iff_exists.mp (List.isSome_max?_of_ne_nil
      (List.ne_nil_of_mem (List.mem_map_of_mem (f := MetricObservation.ageMs now) ht)))
    obtain ⟨hmem, -⟩ := List.max?_eq_some_iff.mp ha
    obtain ⟨-, hmax'⟩ := List.max?_eq_some_iff.mp (heq ▸ ha)
    obtain ⟨u, hu, rfl⟩ := List.mem_map.mp hmem
    have hu' := hmax' _ (List.mem_map_of_mem hu)
    have ht' := hmax' _ (List.mem_map_of_mem ht)
    by_cases hbefore : u.unixMicros < now'
    · exact absurd hu' (not_le.mpr (ageMs_lt h hbefore))
    · -- the oldest time is still to come, while `t` has an age
      rw [ageMs_eq_zero (by omega : (now : Int) ≤ u.unixMicros)] at ht'
      have hage := ageMs_lt h hpast
      have hpos := ageMs_nonneg now t
      linarith
  · intro hall
    have hzero : ∀ now : Nat, (∀ t ∈ times, (now : Int) ≤ t.unixMicros) →
        times.map (MetricObservation.ageMs now) = times.map fun _ => 0 := fun now hle =>
      List.map_congr_left fun t ht => ageMs_eq_zero (hle t ht)
    rw [hzero now' hall, hzero now fun t ht => by have := hall t ht; omega]

/-- The readable times of the observations of a metric. -/
def LatestReads.times (texts : PyTexts) (r : LatestReads) (spec : SystemMetricSpec) :
    List Timestamp :=
  (r.observations spec).filterMap fun o => texts.parseTime o.observedAt

/-- Two clocks give one snapshot exactly when they give every metric the same greatest age. -/
theorem snapshot_eq_iff (catalog : String → List String) (r : LatestReads) (now now' : Nat) :
    r.snapshot texts catalog now = r.snapshot texts catalog now' ↔
      ∀ spec ∈ systemMetrics,
        ((r.times texts spec).map (MetricObservation.ageMs now)).max? =
          ((r.times texts spec).map (MetricObservation.ageMs now')).max? := by
  simp only [LatestReads.snapshot, SystemSnapshot.mk.injEq, true_and, List.map_inj_left,
    Prod.mk.injEq, MetricObservation.aggregateObservations, MetricAggregate.mk.injEq, and_true,
    MetricObservation.oldestAgeMs, LatestReads.times]

end Ages

/-! ## the snapshot of an unchanged store -/

section Snapshot

variable {env : Env} {catalog : String → List String} {texts : PyTexts} {config : SystemConfig}
  {now now' : Nat} {identifier : String} {telemetry : TelemetryDb} {db db' : SystemDb}
  {s s' : SystemSnapshot}

open SystemDataRepository

/-- A controller of the system whose latest sample, of that time, supplies a metric. -/
def Supplies (env : Env) (texts : PyTexts) (config : SystemConfig) (now : Nat)
    (identifier : String) (telemetry : TelemetryDb) (db : SystemDb) (t : Timestamp) : Prop :=
  ∃ synced reads, latestReads env config now identifier telemetry db = .ok (synced, reads) ∧
    ∃ spec ∈ systemMetrics, t ∈ reads.times texts spec

/-- A snapshot is made of reads, and of the clock only through the ages. -/
theorem latest_eq_ok
    (h : SystemDataRepository.latest env catalog texts config now identifier telemetry db =
      .ok (db', s)) :
    ∃ reads, latestReads env config now identifier telemetry db = .ok (db', reads) ∧
      s = reads.snapshot texts catalog now := by
  simp only [SystemDataRepository.latest, Loop.bind_eq_ok] at h
  obtain ⟨⟨synced, reads⟩, hreads, h⟩ := h
  cases h
  exact ⟨reads, hreads, rfl⟩

/-- Two snapshots of a store that the first leaves as it is are the same exactly when the
clock stands, or every sample that supplies a metric is dated later.  `json.dumps` tells
different snapshots apart, so it is the same with the texts that the stream compares. -/
theorem snapshot_unchanged_iff
    (h : SystemDataRepository.latest env catalog texts config now identifier telemetry db =
      .ok (db, s))
    (h' : SystemDataRepository.latest env catalog texts config now' identifier telemetry db =
      .ok (db', s')) :
    s = s' ↔ (now = now' ∨ ∀ t, Supplies env texts config now identifier telemetry db t →
      (max now now' : Int) ≤ t.unixMicros) := by
  obtain ⟨reads, hreads, rfl⟩ := latest_eq_ok h
  obtain ⟨reads', hreads', rfl⟩ := latest_eq_ok h'
  rw [latestReads_now env config now' now identifier telemetry (latestReads_settled hreads),
    hreads] at hreads'
  cases hreads'
  have hsupplies : ∀ bound : Int, (∀ t, Supplies env texts config now identifier telemetry db t →
      bound ≤ t.unixMicros) ↔
        ∀ spec ∈ systemMetrics, ∀ t ∈ reads.times texts spec, bound ≤ t.unixMicros := by
    intro bound
    constructor
    · intro hall spec hspec t ht
      exact hall t ⟨db, reads, hreads, spec, hspec, ht⟩
    · rintro hall t ⟨synced, reads', hreads', spec, hspec, ht⟩
      rw [hreads] at hreads'
      cases hreads'
      exact hall spec hspec t ht
  rw [snapshot_eq_iff, hsupplies]
  obtain hlt | rfl | hlt := Nat.lt_trichotomy now now'
  · rw [or_iff_right (Nat.ne_of_lt hlt), max_eq_right (by omega)]
    exact forall₂_congr fun spec _ => max_age_unchanged_iff hlt _
  · simp
  · rw [or_iff_right (Nat.ne_of_gt hlt), max_eq_left (by omega)]
    exact forall₂_congr fun spec _ => eq_comm.trans (max_age_unchanged_iff hlt _)

end Snapshot

/-! ## a controller that is polled no more -/

section Noon

open SystemDataRepository

/-- The registry of a moved controller after it was opened. -/
def openedSystem : SystemDb where
  registry := { movedRegistry with
    physical :=
      [ { controllerUid := "ctrl_", canonicalDeviceId := "tcp", currentControllerId := "serial:1",
          firstSeen := 1, lastSeen := 4 } ]
    aliases :=
      [ { controllerId := "serial:1", controllerUid := "ctrl_", identitySource := .controllerSerial,
          identityValue := "1", firstSeen := 1, lastSeen := 4, active := true } ]
    uidsDrawn := 1 }
  systems := [{ systemUid := "sys_default", name := "default" }]
  members := [{ systemUid := "sys_default", controllerUid := "ctrl_" }]

/-- The library on the times of that controller. -/
def noonTexts : PyTexts where
  str _ := "0.0"
  fromisoformat text :=
    let day : Day := ⟨⟨2026, 1, 1⟩, by decide⟩
    if text = "2026-01-01T12:05:00+00:00" then some ⟨⟨day, 43500000000, by decide, by decide⟩, true⟩
    else if text = "2026-01-01T12:35:00+00:00" then
      some ⟨⟨day, 45300000000, by decide, by decide⟩, true⟩
    else none

/-- The snapshot of that controller. -/
def openedSnapshot (now : Nat) : Except SystemError (SystemDb × SystemSnapshot) :=
  SystemDataRepository.latest plainEnv (fun _ => []) noonTexts {} now "default" movedPower
    openedSystem

theorem openedSnapshot_ok (now : Nat) (h : (openedSnapshot now).map Prod.fst = .ok openedSystem) :
    ∃ s, openedSnapshot now = .ok (openedSystem, s) := by
  cases hrun : openedSnapshot now with
  | error e =>
      rw [hrun] at h
      cases h
  | ok r =>
      rw [hrun] at h
      have hdb : r.1 = openedSystem := Except.ok.inj h
      exact ⟨r.2, by rw [← hdb]⟩

/-- One reading at noon, looked at one second and two seconds after it. -/
theorem snapshot_unchanged_iff_noon :
    ∃ s s', openedSnapshot 1767270901000000 = .ok (openedSystem, s) ∧
      openedSnapshot 1767270902000000 = .ok (openedSystem, s') ∧
      (s = s' ↔ ((1767270901000000 : Nat) = 1767270902000000 ∨
        ∀ t, Supplies plainEnv noonTexts {} 1767270901000000 "default" movedPower openedSystem t →
          (max (1767270901000000 : Nat) (1767270902000000 : Nat) : Int) ≤ t.unixMicros)) := by
  obtain ⟨s, hs⟩ := openedSnapshot_ok 1767270901000000 (by decide +kernel)
  obtain ⟨s', hs'⟩ := openedSnapshot_ok 1767270902000000 (by decide +kernel)
  exact ⟨s, s', hs, hs', snapshot_unchanged_iff hs hs'⟩

/-- A second later the same store has another snapshot. -/
theorem snapshot_changed_noon :
    ∃ s s', openedSnapshot 1767270901000000 = .ok (openedSystem, s) ∧
      openedSnapshot 1767270902000000 = .ok (openedSystem, s') ∧ s ≠ s' := by
  obtain ⟨s, hs⟩ := openedSnapshot_ok 1767270901000000 (by decide +kernel)
  obtain ⟨s', hs'⟩ := openedSnapshot_ok 1767270902000000 (by decide +kernel)
  refine ⟨s, s', hs, hs', ?_⟩
  rintro rfl
  have hdiffer : openedSnapshot 1767270901000000 ≠ openedSnapshot 1767270902000000 := by
    decide +kernel
  exact hdiffer (hs.trans hs'.symm)

end Noon

end MorningstarModbus
