import MorningstarModbus.Controllers.RegistryGraph

/-!
# MorningstarModbus.Controllers.RegistryInvariant

The invariant of the controller registry and the specification of each call.

* `Inv` — what holds of the tables once the legacy rows are grouped;
* `Attributed` — the four ways an observation finds its identity;
* `attributeObservation_spec` — one of them always applies, and none of the
  inserts meets a constraint;
* `Inv.observed` — recording the observation restores the invariant.
-/

namespace MorningstarModbus

open Table

/-! ## key shapes -/

/-- An identity key built from a controller serial number. -/
def IsSerialKey (a : String) : Prop := a.toList.head? = some 'm'

instance : DecidablePred IsSerialKey := fun _ => inferInstanceAs (Decidable (_ = _))

/-- A key of the form of a controller uid. -/
def IsUidKey (a : String) : Prop := a.toList.head? = some 'c'

theorem isUidKey_newUid (env : Env) (n : Nat) : IsUidKey (newUid env n) := by
  simp [IsUidKey, newUid]

theorem isSerialKey_identityKey {env : Env} {device : DiscoveredDevice} :
    IsSerialKey (identityKey env device) ↔ device.serial ≠ "" := by
  rw [← strip_deviceRow]
  constructor
  · intro h hs
    have hhead := head_controllerIdentity_of_no_serial env hs
    simp only [IsSerialKey, identityKey] at h
    simp [h] at hhead
  · intro h
    exact head_controllerIdentity_of_serial env h

theorem not_isUidKey_controllerIdentity (env : Env) (row : DeviceFields) :
    ¬ IsUidKey (controllerIdentity env row).1 := by
  intro h
  simp only [IsUidKey] at h
  by_cases hs : Text.strip row.serialNumber = ""
  · have := head_controllerIdentity_of_no_serial env hs
    simp [h] at this
  · have := head_controllerIdentity_of_serial env hs
    simp [h] at this

/-- A conflict device id is never an endpoint key. -/
theorem conflictDeviceId_ne_stableKey (env : Env) (device : DiscoveredDevice) (e : Endpoint) :
    conflictDeviceId env device ≠ e.stableKey := by
  intro h
  have hd := head_conflictDeviceId env device
  rw [h] at hd
  rcases e.head_stableKey with he | he <;> simp [he] at hd

/-- The truncated digest tells the observed devices apart. -/
def NoCollision (env : Env) (D : Set DiscoveredDevice) : Prop :=
  ∀ d ∈ D, ∀ d' ∈ D, conflictDeviceId env d = conflictDeviceId env d' →
    d.profile = d'.profile ∧ d.serialNumber = d'.serialNumber ∧
      d.endpoint.stableKey = d'.endpoint.stableKey

theorem NoCollision.identityKey_eq {env : Env} {D : Set DiscoveredDevice} (h : NoCollision env D)
    {d d' : DiscoveredDevice} (hd : d ∈ D) (hd' : d' ∈ D) (hs : d.serial ≠ "")
    (hc : conflictDeviceId env d = conflictDeviceId env d') :
    identityKey env d = identityKey env d' := by
  obtain ⟨hp, hn, -⟩ := h d hd d' hd' hc
  have hserial : d.serial = d'.serial := by rw [DiscoveredDevice.serial, hn, DiscoveredDevice.serial]
  rw [identityKey_of_serial hs, identityKey_of_serial (hserial ▸ hs), hp, hserial]

/-! ## the invariant -/

/-- A device id is a conflict id of a known serial, or an endpoint somebody was
seen at. -/
def Accounted (env : Env) (D : Set DiscoveredDevice) (db : Db) (k : String) : Prop :=
  (∃ d ∈ D, k = conflictDeviceId env d ∧ d.serial ≠ "" ∧
    ∃ c, db.graph.canonical (identityKey env d) = some c) ∨
  ∃ a, db.graph.connected a k

/-- The invariant of the registry tables. -/
structure Inv (env : Env) (D : Set DiscoveredDevice) (db : Db) : Prop where
  wellFormed : WellFormed db
  coherent : db.graph.Coherent
  drawn : UidsDrawn env db
  member_device : ∀ {d a}, db.graph.member d = some a → ∃ row ∈ db.devices, row.id = d
  location_identity : ∀ l ∈ db.locations, ∃ c, db.graph.canonical l.controllerId = some c
  evidence_identity : ∀ e ∈ db.evidence, ∃ c, db.graph.canonical e.controllerId = some c
  connected_key : ∀ {a k}, db.graph.connected a k → ∃ e : Endpoint, k = e.stableKey
  device_id : ∀ row ∈ db.devices, Accounted env D db row.id
  device_key : ∀ row ∈ db.devices, row.stableKey = row.id ∨
    ∃ a, db.graph.connected a row.stableKey
  serial_identity : ∀ r ∈ db.identities, IsSerialKey r.controllerId →
    Text.strip r.serialNumber ≠ ""
  identity_shape : ∀ r ∈ db.identities, ¬ IsUidKey r.controllerId
  alias_serial : ∀ {a u}, db.graph.uidOf a = some u → IsSerialKey a →
    ∃ c, db.graph.canonical a = some c
  alias_shape : ∀ {a u}, db.graph.uidOf a = some u → ¬ IsUidKey a

section Facts

variable {env : Env} {D : Set DiscoveredDevice} {db : Db}

theorem Inv.sync (h : Inv env D db) : SyncInv env db where
  wellFormed := h.wellFormed
  coherent := h.coherent
  drawn := h.drawn
  device := by
    intro r hr
    have hcan := h.wellFormed.canonical hr
    exact h.member_device (h.coherent.member_canonical hcan)

/-- A serial key without an identity never had a uid. -/
theorem Inv.uidOf_eq_none (h : Inv env D db) {a : String} (hs : IsSerialKey a)
    (ha : db.graph.canonical a = none) : db.graph.uidOf a = none := by
  cases hu : db.graph.uidOf a with
  | none => rfl
  | some u =>
      obtain ⟨c, hc⟩ := h.alias_serial hu hs
      simp [ha] at hc

/-- The conflict id of a serial without an identity is used nowhere. -/
theorem Inv.conflict_fresh (h : Inv env D db) (hcol : NoCollision env D)
    {device : DiscoveredDevice} (hd : device ∈ D)
    (hn : db.graph.canonical (identityKey env device) = none) :
    ∀ row ∈ db.devices, row.id ≠ conflictDeviceId env device ∧
      row.stableKey ≠ conflictDeviceId env device := by
  intro row hrow
  have hconn : ∀ a, ¬ db.graph.connected a (conflictDeviceId env device) := by
    intro a ha
    obtain ⟨e, he⟩ := h.connected_key ha
    exact conflictDeviceId_ne_stableKey env device e he
  have hid : row.id ≠ conflictDeviceId env device := by
    intro hEq
    rcases h.device_id row hrow with ⟨d, hdD, hk, hs, c, hc⟩ | ⟨a, ha⟩
    · have hkey := hcol.identityKey_eq hdD hd hs (hk.symm.trans hEq)
      simp [hkey, hn] at hc
    · exact hconn a (hEq ▸ ha)
  refine ⟨hid, fun hEq => ?_⟩
  rcases h.device_key row hrow with hk | ⟨a, ha⟩
  · exact hid (hk.symm.trans hEq)
  · exact hconn a (hEq ▸ ha)

/-- At an endpoint nobody was seen at, no device is stored. -/
theorem Inv.endpoint_fresh (h : Inv env D db) {e : Endpoint}
    (hn : ∀ a, ¬ db.graph.connected a e.stableKey) :
    ∀ row ∈ db.devices, row.id ≠ e.stableKey ∧ row.stableKey ≠ e.stableKey := by
  intro row hrow
  have hid : row.id ≠ e.stableKey := by
    intro hEq
    rcases h.device_id row hrow with ⟨d, -, hk, -, -⟩ | ⟨a, ha⟩
    · exact conflictDeviceId_ne_stableKey env d e (hk.symm.trans hEq)
    · exact hn a (hEq ▸ ha)
  refine ⟨hid, fun hEq => ?_⟩
  rcases h.device_key row hrow with hk | ⟨a, ha⟩
  · exact hid (hk.symm.trans hEq)
  · exact hn a (hEq ▸ ha)

/-- A device without a row is nobody's member. -/
theorem Inv.member_eq_none (h : Inv env D db) {d : String}
    (hd : ∀ row ∈ db.devices, row.id ≠ d) : db.graph.member d = none := by
  cases hm : db.graph.member d with
  | none => rfl
  | some a =>
      obtain ⟨row, hrow, hid⟩ := h.member_device hm
      exact absurd hid (hd row hrow)

end Facts

/-! ## the owner of an endpoint -/

theorem endpointOwner?_some {db : Db} {k : String} {owner : IdentityRow}
    (h : db.endpointOwner? k = some owner) :
    db.identity? owner.controllerId = some owner ∧ db.graph.connected owner.controllerId k := by
  simp only [Db.endpointOwner?, Option.map_eq_some_iff] at h
  obtain ⟨⟨t, ci⟩, harg, rfl⟩ := h
  obtain ⟨cc, hcc, hjoin⟩ := List.mem_filterMap.mp (List.argmax_mem harg)
  split at hjoin
  · next hk =>
    simp only [Option.map_eq_some_iff, Prod.mk.injEq] at hjoin
    obtain ⟨r, hr, -, rfl⟩ := hjoin
    have hid : r.controllerId = cc.controllerId := (mem_of_lookup hr).2
    exact ⟨by rw [hid, hr], cc, hcc, by simp [ConnectionRow.key, hid, hk]⟩
  · simp at hjoin

theorem endpointOwner?_none {db : Db} (hg : db.graph.Coherent) {k : String}
    (h : db.endpointOwner? k = none) : ∀ a, ¬ db.graph.connected a k := by
  intro a ha
  obtain ⟨c, hc⟩ := hg.connected_identity ha
  obtain ⟨cc, hcc, hk⟩ := ha
  simp only [ConnectionRow.key, Prod.mk.injEq] at hk
  obtain ⟨r, -, -, -, hr⟩ := exists_identity hc
  simp only [Db.endpointOwner?, Option.map_eq_none_iff, List.argmax_eq_none,
    List.filterMap_eq_nil_iff] at h
  have hnone := h cc hcc
  simp [hk, hr] at hnone

/-! ## attribution -/

/-- The tables after a new identity and its device were inserted. -/
def Db.introduced (db : Db) (row : IdentityRow) (deviceRow : DeviceRow) : Db :=
  { db with identities := db.identities ++ [row], devices := db.devices ++ [deviceRow] }

theorem graph_introduced {env : Env} {device : DiscoveredDevice} {db : Db}
    (hn : db.identity? (identityKey env device) = none) (canonicalDeviceId : String)
    (firstSeen now : Nat) (row : DeviceRow) :
    (db.introduced (observedIdentity env device canonicalDeviceId firstSeen now) row).graph =
      db.graph.identify (identityKey env device) canonicalDeviceId :=
  graph_identities_append hn

/-- The four ways an observation finds its identity, with the tables each
leaves for `recordObservation`. -/
inductive Attributed (env : Env) (now : Nat) (device : DiscoveredDevice) (db : Db) :
    Attribution → Db → Prop where
  /-- the identity key is known -/
  | matched {a r} : db.identity? (identityKey env device) = some r →
      a.controllerId = identityKey env device → a.canonicalDeviceId = r.canonicalDeviceId →
      Attributed env now device db a db
  /-- the endpoint's owner is assumed to be seen again -/
  | fallback {a owner} : db.identity? (identityKey env device) = none →
      db.endpointOwner? device.endpoint.stableKey = some owner →
      (device.serial = "" ∨ device.serial = Text.strip owner.serialNumber) →
      a.controllerId = owner.controllerId → a.canonicalDeviceId = owner.canonicalDeviceId →
      Attributed env now device db a db
  /-- the endpoint's owner turns out to have a serial number -/
  | promoted {a owner} : db.identity? (identityKey env device) = none →
      db.endpointOwner? device.endpoint.stableKey = some owner →
      device.serial ≠ "" → Text.strip owner.serialNumber = "" →
      a.controllerId = identityKey env device → a.canonicalDeviceId = owner.canonicalDeviceId →
      Attributed env now device db a
        (db.promoted (observedIdentity env device owner.canonicalDeviceId owner.firstSeen now)
          owner.controllerId)
  /-- a new controller, on a device nobody has -/
  | introduced {a stableKey} : db.identity? (identityKey env device) = none →
      a.controllerId = identityKey env device →
      (device.serial ≠ "" ∨ db.endpointOwner? device.endpoint.stableKey = none) →
      (device.serial ≠ "" ∧ a.canonicalDeviceId = conflictDeviceId env device ∨
        a.canonicalDeviceId = device.endpoint.stableKey) →
      (∀ r ∈ db.devices, r.id ≠ a.canonicalDeviceId) →
      (stableKey = a.canonicalDeviceId ∨ stableKey = device.endpoint.stableKey) →
      Attributed env now device db a
        (db.introduced (observedIdentity env device a.canonicalDeviceId now now)
          (observedDevice a.canonicalDeviceId stableKey device now))

section Attribution

variable {env : Env} {D : Set DiscoveredDevice} {db : Db} {device : DiscoveredDevice} {now : Nat}

/-- `INSERT OR IGNORE` stores the device when nobody has its id. -/
theorem insertCanonicalDevice_fresh (device : DiscoveredDevice) (now : Nat) {deviceId : String}
    (h : ∀ r ∈ db.devices, r.id ≠ deviceId ∧ r.stableKey ≠ deviceId) :
    ∃ stableKey, (stableKey = deviceId ∨ stableKey = device.endpoint.stableKey) ∧
      insertCanonicalDevice deviceId device now db =
        { db with devices := db.devices ++ [observedDevice deviceId stableKey device now] } := by
  cases hl : lookup DeviceRow.stableKey device.endpoint.stableKey db.devices with
  | none =>
      have hfree := lookup_eq_none_iff.mp hl
      refine ⟨device.endpoint.stableKey, .inr rfl, ?_⟩
      simp only [insertCanonicalDevice, hl]
      rw [insertOrIgnore_of_free]
      intro r hr
      simp [(h r hr).1, hfree r hr]
  | some occupied =>
      have hne : occupied.id ≠ deviceId := (h occupied (mem_of_lookup hl).1).1
      refine ⟨deviceId, .inl rfl, ?_⟩
      simp only [insertCanonicalDevice, hl, if_pos hne]
      rw [insertOrIgnore_of_free]
      intro r hr
      simp [h r hr]

/-- A new identity on a device nobody has is inserted. -/
theorem insertNewIdentity_fresh (now : Nat) {deviceId : String}
    (hn : db.identity? (identityKey env device) = none)
    (h : ∀ r ∈ db.devices, r.id ≠ deviceId ∧ r.stableKey ≠ deviceId) :
    ∃ stableKey, (stableKey = deviceId ∨ stableKey = device.endpoint.stableKey) ∧
      insertNewIdentity env device deviceId now db =
        .ok (db.introduced (observedIdentity env device deviceId now now)
          (observedDevice deviceId stableKey device now)) := by
  obtain ⟨stableKey, hkey, hins⟩ := insertCanonicalDevice_fresh device now h
  refine ⟨stableKey, hkey, ?_⟩
  rw [insertNewIdentity, hins]
  exact insertIdentity_spec hn

/-- A promotion to a new identity meets no constraint. -/
theorem Inv.promoteIdentity_ok (h : Inv env D db) (now : Nat) {owner : IdentityRow}
    (ho : db.identity? owner.controllerId = some owner)
    (hn : db.identity? (identityKey env device) = none) :
    WellFormed (db.promoted
      (observedIdentity env device owner.canonicalDeviceId owner.firstSeen now)
      owner.controllerId) ∧
    promoteIdentity env device owner now db =
      .ok (db.promoted (observedIdentity env device owner.canonicalDeviceId owner.firstSeen now)
        owner.controllerId) := by
  have hnone : db.graph.canonical (identityKey env device) = none := canonical_eq_none.mpr hn
  have hw : WellFormed (db.promoted
      (observedIdentity env device owner.canonicalDeviceId owner.firstSeen now)
      owner.controllerId) := by
    have hfree : ∀ a, (∃ d, db.graph.canonical a = some d) → a ≠ identityKey env device := by
      rintro a ⟨d, ha⟩ rfl
      simp [hnone] at ha
    exact h.wellFormed.promoted owner.controllerId hn
      (fun c hc => hfree _ (h.coherent.connected_identity ⟨c, hc, rfl⟩))
      (fun l hl => hfree _ (h.location_identity l hl))
      (fun e he => hfree _ (h.evidence_identity e he))
  exact ⟨hw, MorningstarModbus.promoteIdentity_ok ho hn hw⟩

/-- **Attribution never fails** and is one of the four cases. -/
theorem attributeObservation_spec (now : Nat) (h : Inv env D db) (hcol : NoCollision env D)
    (hd : device ∈ D) :
    ∃ db' a, attributeObservation env now device db = .ok (db', a) ∧
      Attributed env now device db a db' := by
  cases hfound : db.identity? (identityKey env device) with
  | some found =>
      simp only [attributeObservation, hfound]
      refine ⟨db, _, rfl, ?_⟩
      exact .matched hfound rfl rfl
  | none =>
      have hnone : db.graph.canonical (identityKey env device) = none :=
        canonical_eq_none.mpr hfound
      cases howner : db.endpointOwner? device.endpoint.stableKey with
      | none =>
          have hfresh := h.endpoint_fresh (endpointOwner?_none h.coherent howner)
          have hlook : lookup DeviceRow.stableKey device.endpoint.stableKey db.devices = none :=
            lookup_eq_none_iff.mpr fun r hr => (hfresh r hr).2
          obtain ⟨stableKey, hkey, hok⟩ := insertNewIdentity_fresh now hfound hfresh
          simp only [attributeObservation, hfound, howner, hlook, hok, Loop.ok_bind,
            Loop.pure_eq_ok]
          refine ⟨_, _, rfl, ?_⟩
          exact .introduced hfound rfl (.inr howner) (.inr rfl) (fun r hr => (hfresh r hr).1) hkey
      | some owner =>
          simp only [attributeObservation, hfound, howner]
          obtain ⟨hoid, -⟩ := endpointOwner?_some howner
          by_cases hs : device.serial = ""
          · simp only [hs, ne_eq, not_true_eq_false, false_and, if_false]
            refine ⟨db, _, rfl, ?_⟩
            exact .fallback hfound howner (.inl hs) rfl rfl
          · by_cases ho : Text.strip owner.serialNumber = ""
            · obtain ⟨-, hok⟩ := h.promoteIdentity_ok now hoid hfound
              simp only [hs, ho, ne_eq, not_true_eq_false, not_false_eq_true, false_and, and_false,
                and_self, if_true, if_false, hok, Loop.ok_bind, Loop.pure_eq_ok]
              refine ⟨_, _, rfl, ?_⟩
              exact .promoted hfound howner hs ho rfl rfl
            · by_cases hso : device.serial = Text.strip owner.serialNumber
              · simp only [ho, hso, ne_eq, not_true_eq_false, not_false_eq_true, and_false,
                  if_false]
                refine ⟨db, _, rfl, ?_⟩
                exact .fallback hfound howner (.inr hso) rfl rfl
              · have hfresh := h.conflict_fresh hcol hd hnone
                obtain ⟨stableKey, hkey, hok⟩ := insertNewIdentity_fresh now hfound hfresh
                simp only [hs, ho, hso, ne_eq, not_false_eq_true, and_self, if_true, hok,
                  Loop.ok_bind, Loop.pure_eq_ok]
                refine ⟨_, _, rfl, ?_⟩
                exact .introduced hfound rfl (.inl hs) (.inl ⟨hs, rfl⟩)
                  (fun r hr => (hfresh r hr).1) hkey

end Attribution

/-! ## recording an observation -/

section Record

variable {env : Env} {D : Set DiscoveredDevice} {db db₁ : Db} {device : DiscoveredDevice}
  {now : Nat} {a : Attribution}

/-- Recording adopts the device and connects the endpoint. -/
theorem graph_recordObservation (db : Db) (a : Attribution) (device : DiscoveredDevice)
    (now : Nat) :
    (recordObservation a device now db).graph =
      (db.graph.adopt a.canonicalDeviceId a.controllerId).connect a.controllerId
        device.endpoint.stableKey := by
  rw [recordObservation, graph_touchIdentity, graph_recordEvidence, graph_upsertConnection,
    graph_upsertMember, graph_updateCanonicalDevice]

/-- The evidence loop keeps the key and adds rows of its controller only. -/
theorem foldl_upsertEvidence {rows : List EvidenceRow} (h : Keyed EvidenceRow.key rows)
    (controllerId endpointKey : String) (now : Nat) (items : List (EvidenceType × String × Nat)) :
    Keyed EvidenceRow.key (items.foldl (upsertEvidence controllerId endpointKey now) rows) ∧
      ∀ e ∈ items.foldl (upsertEvidence controllerId endpointKey now) rows,
        e.controllerId = controllerId ∨ ∃ e₀ ∈ rows, e₀.controllerId = e.controllerId := by
  refine Loop.foldl_invariant (fun _ rows' => Keyed EvidenceRow.key rows' ∧ ∀ e ∈ rows',
    e.controllerId = controllerId ∨ ∃ e₀ ∈ rows, e₀.controllerId = e.controllerId) items
    ⟨h, fun e he => .inr ⟨e, he, rfl⟩⟩ ?_
  rintro done item rest rows' - ⟨hkeyed, hrows⟩
  refine ⟨hkeyed.upsert (by intro e he; exact he), fun e he => ?_⟩
  rcases mem_upsert he with ⟨rfl, -⟩ | ⟨old, hold, -, rfl⟩ | ⟨he, -⟩
  · exact .inl rfl
  · exact hrows old hold
  · exact hrows e he

theorem WellFormed.recorded (h : WellFormed db) (a : Attribution)
    (device : DiscoveredDevice) (now : Nat) : WellFormed (recordObservation a device now db) where
  identities := by
    simp only [recordObservation, touchIdentity]
    exact h.identities.update_of_key (by intro r; rfl)
  members := by
    simp only [recordObservation, touchIdentity, recordEvidence,
      upsertConnection, upsertMember]
    exact h.members.upsert (by intro m hm; exact hm)
  connections := by
    simp only [recordObservation, touchIdentity, recordEvidence, upsertConnection]
    exact h.connections.upsert (by intro c hc; exact hc)
  locations := by
    simp only [recordObservation, touchIdentity, recordEvidence, upsertConnection]
    exact h.locations.upsert (by intro l hl; exact hl)
  evidence := (foldl_upsertEvidence h.evidence _ _ _ _).1
  physical := h.physical
  aliases := h.aliases

/-- Recording keeps the ids and keys of all devices. -/
theorem devices_recordObservation (db : Db) (a : Attribution) (device : DiscoveredDevice)
    (now : Nat) :
    (recordObservation a device now db).devices.map (fun d => (d.id, d.stableKey)) =
      db.devices.map fun d => (d.id, d.stableKey) :=
  map_update (by intro d; rfl)

/-- The evidence and the locations recorded belong to the attributed identity. -/
theorem mem_locations_recordObservation {l : LocationRow}
    (h : l ∈ (recordObservation a device now db).locations) :
    l.controllerId = a.controllerId ∨ ∃ l₀ ∈ db.locations, l₀.controllerId = l.controllerId := by
  simp only [recordObservation, touchIdentity, recordEvidence, upsertConnection] at h
  rcases mem_upsert h with ⟨rfl, -⟩ | ⟨old, hold, -, rfl⟩ | ⟨hl, -⟩
  · exact .inl rfl
  · exact .inr ⟨old, hold, rfl⟩
  · exact .inr ⟨l, hl, rfl⟩

theorem mem_evidence_recordObservation (hw : WellFormed db) {e : EvidenceRow}
    (h : e ∈ (recordObservation a device now db).evidence) :
    e.controllerId = a.controllerId ∨ ∃ e₀ ∈ db.evidence, e₀.controllerId = e.controllerId :=
  (foldl_upsertEvidence hw.evidence _ _ _ _).2 e h

/-- The identity rows after recording: the attributed one is stamped, and takes
over the serial number. -/
theorem mem_identities_recordObservation {r : IdentityRow}
    (h : r ∈ (recordObservation a device now db).identities) :
    (r ∈ db.identities ∧ r.controllerId ≠ a.controllerId) ∨
      ∃ r₀ ∈ db.identities, r₀.controllerId = a.controllerId ∧ r.controllerId = a.controllerId ∧
        r.canonicalDeviceId = r₀.canonicalDeviceId ∧ r.lastSeen = now ∧
        r.serialNumber = if device.serial ≠ "" then device.serial else r₀.serialNumber := by
  simp only [recordObservation, touchIdentity] at h
  obtain ⟨r₀, hr₀, ⟨hp, rfl⟩ | ⟨hp, rfl⟩⟩ := mem_update.mp h
  · exact .inr ⟨r₀, hr₀, by simpa using hp, by simpa using hp, rfl, rfl, rfl⟩
  · exact .inl ⟨hr₀, by simpa using hp⟩

/-- What every kind of attribution leaves for recording. -/
structure Placed (env : Env) (device : DiscoveredDevice) (db : Db) (a : Attribution) (db₁ : Db) :
    Prop where
  wellFormed : WellFormed db₁
  canonical : db₁.graph.canonical a.controllerId = some a.canonicalDeviceId
  coherent : (db₁.graph.adopt a.canonicalDeviceId a.controllerId).Coherent
  aliases : db₁.aliases = db.aliases
  physical : db₁.physical = db.physical
  uidsDrawn : db₁.uidsDrawn = db.uidsDrawn
  stored : ∃ row ∈ db₁.devices, row.id = a.canonicalDeviceId
  kept : ∀ row ∈ db.devices, row ∈ db₁.devices
  devices : ∀ row ∈ db₁.devices, row ∈ db.devices ∨
    (row.id = a.canonicalDeviceId ∧
      (row.stableKey = a.canonicalDeviceId ∨ row.stableKey = device.endpoint.stableKey) ∧
      (device.serial ≠ "" ∧ a.canonicalDeviceId = conflictDeviceId env device ∧
          a.controllerId = identityKey env device ∨
        a.canonicalDeviceId = device.endpoint.stableKey))
  member : ∀ {d b}, db₁.graph.member d = some b → ∃ b', db.graph.member d = some b'
  serials : ∀ {b c}, IsSerialKey b → db.graph.canonical b = some c →
    db₁.graph.canonical b = some c
  locations : ∀ l ∈ db₁.locations, ∃ c, db₁.graph.canonical l.controllerId = some c
  evidence : ∀ e ∈ db₁.evidence, ∃ c, db₁.graph.canonical e.controllerId = some c
  connected : ∀ {k}, (∃ b, db.graph.connected b k) ↔ ∃ b, db₁.graph.connected b k
  identities : ∀ r ∈ db₁.identities, r ∈ db.identities ∨
    (r.controllerId = identityKey env device ∧ a.controllerId = identityKey env device ∧
      Text.strip r.serialNumber = device.serial)

/-- Attributing to an identity that is there changes nothing. -/
theorem Inv.placed_same (h : Inv env D db)
    (hcan : db.graph.canonical a.controllerId = some a.canonicalDeviceId) :
    Placed env device db a db where
  wellFormed := h.wellFormed
  canonical := hcan
  coherent := by
    rw [IdentityGraph.adopt_self (h.coherent.member_canonical hcan)]
    exact h.coherent
  aliases := rfl
  physical := rfl
  uidsDrawn := rfl
  stored := h.member_device (h.coherent.member_canonical hcan)
  kept := fun _ hrow => hrow
  devices := fun _ hrow => .inl hrow
  member := fun hm => ⟨_, hm⟩
  serials := fun _ hc => hc
  locations := h.location_identity
  evidence := h.evidence_identity
  connected := Iff.rfl
  identities := fun _ hr => .inl hr

/-- A promotion moves the owner's rows; the owner had no serial key. -/
theorem Inv.placed_promoted (h : Inv env D db) {owner : IdentityRow}
    (hn : db.identity? (identityKey env device) = none)
    (ho : db.identity? owner.controllerId = some owner) (hs : device.serial ≠ "")
    (hos : Text.strip owner.serialNumber = "") (hid : a.controllerId = identityKey env device)
    (hdev : a.canonicalDeviceId = owner.canonicalDeviceId) :
    Placed env device db a (db.promoted
      (observedIdentity env device owner.canonicalDeviceId owner.firstSeen now)
      owner.controllerId) := by
  obtain ⟨hmem, -⟩ := mem_of_lookup ho
  have hcano : db.graph.canonical owner.controllerId = some owner.canonicalDeviceId :=
    h.wellFormed.canonical hmem
  have hnone : db.graph.canonical (identityKey env device) = none := canonical_eq_none.mpr hn
  have hon : owner.controllerId ≠ identityKey env device := by
    intro hEq
    rw [hEq, hnone] at hcano
    cases hcano
  have hnu : db.graph.uidOf (identityKey env device) = none :=
    h.uidOf_eq_none (isSerialKey_identityKey.mpr hs) hnone
  obtain ⟨hw, -⟩ := h.promoteIdentity_ok now ho hn
  have hgraph : (db.promoted (observedIdentity env device owner.canonicalDeviceId owner.firstSeen now)
      owner.controllerId).graph = db.graph.promote owner.controllerId (identityKey env device) :=
    graph_promoted hn hcano
  have hcoh := h.coherent.promote hcano hnone hnu
  have hnew : (db.graph.promote owner.controllerId (identityKey env device)).canonical
      (identityKey env device) = some owner.canonicalDeviceId := by
    rw [IdentityGraph.promote_canonical_new hon, hcano]
  -- whoever had an identity still has one, the owner under its new key
  have hmoved : ∀ {b}, (∃ c, db.graph.canonical b = some c) → b ≠ owner.controllerId →
      ∃ c, (db.graph.promote owner.controllerId (identityKey env device)).canonical b = some c := by
    rintro b ⟨c, hc⟩ hb
    have hbn : b ≠ identityKey env device := by
      rintro rfl
      rw [hnone] at hc
      cases hc
    exact ⟨c, by rw [IdentityGraph.promote_canonical_of_ne hb hbn, hc]⟩
  constructor
  case wellFormed => exact hw
  case canonical => rw [hgraph, hid, hdev, hnew]
  case coherent =>
    rw [hgraph, hid, hdev, IdentityGraph.adopt_self (hcoh.member_canonical hnew)]
    exact hcoh
  case aliases => rfl
  case physical => rfl
  case uidsDrawn => rfl
  case stored =>
    rw [hdev]
    exact h.member_device (h.coherent.member_canonical hcano)
  case kept => exact fun _ hrow => hrow
  case devices => exact fun _ hrow => .inl hrow
  case member =>
    intro d b hm
    rw [hgraph] at hm
    simp only [IdentityGraph.promote, Option.map_eq_some_iff] at hm
    obtain ⟨b', hb', -⟩ := hm
    exact ⟨b', hb'⟩
  case serials =>
    intro b c hb hc
    have hbo : b ≠ owner.controllerId := by
      rintro rfl
      exact h.serial_identity owner hmem hb hos
    have hbn : b ≠ identityKey env device := by
      rintro rfl
      rw [hnone] at hc
      cases hc
    rw [hgraph, IdentityGraph.promote_canonical_of_ne hbo hbn, hc]
  case locations =>
    intro l hl
    rw [hgraph]
    obtain ⟨l₀, hl₀, ⟨hp, rfl⟩ | ⟨hp, rfl⟩⟩ := mem_update.mp hl
    · exact ⟨_, hnew⟩
    · exact hmoved (h.location_identity l hl₀) (by simpa using hp)
  case evidence =>
    intro e he
    rw [hgraph]
    obtain ⟨e₀, he₀, ⟨hp, rfl⟩ | ⟨hp, rfl⟩⟩ := mem_update.mp he
    · exact ⟨_, hnew⟩
    · exact hmoved (h.evidence_identity e he₀) (by simpa using hp)
  case connected =>
    intro k
    rw [hgraph]
    constructor
    · rintro ⟨b, hb⟩
      by_cases hbo : b = owner.controllerId
      · exact ⟨identityKey env device, .inl ⟨rfl, hbo ▸ hb⟩⟩
      · exact ⟨b, .inr ⟨hbo, hb⟩⟩
    · rintro ⟨b, ⟨-, hb⟩ | ⟨-, hb⟩⟩
      · exact ⟨_, hb⟩
      · exact ⟨b, hb⟩
  case identities =>
    intro r hr
    have hr' := (List.mem_filter.mp hr).1
    rcases List.mem_append.mp hr' with hr' | hr'
    · exact .inl hr'
    · rw [List.mem_singleton] at hr'
      subst hr'
      exact .inr ⟨rfl, hid, strip_deviceRow device⟩

/-- A new identity on a device nobody has. -/
theorem Inv.placed_introduced (h : Inv env D db) {stableKey : String}
    (hn : db.identity? (identityKey env device) = none)
    (hid : a.controllerId = identityKey env device)
    (hdev : device.serial ≠ "" ∧ a.canonicalDeviceId = conflictDeviceId env device ∨
      a.canonicalDeviceId = device.endpoint.stableKey)
    (hfresh : ∀ r ∈ db.devices, r.id ≠ a.canonicalDeviceId)
    (hkey : stableKey = a.canonicalDeviceId ∨ stableKey = device.endpoint.stableKey) :
    Placed env device db a
      (db.introduced (observedIdentity env device a.canonicalDeviceId now now)
        (observedDevice a.canonicalDeviceId stableKey device now)) := by
  have hnone : db.graph.canonical (identityKey env device) = none := canonical_eq_none.mpr hn
  have hgraph := graph_introduced hn a.canonicalDeviceId now now
    (observedDevice a.canonicalDeviceId stableKey device now)
  have hmember : db.graph.member a.canonicalDeviceId = none := h.member_eq_none hfresh
  have hkeep : ∀ {b c}, db.graph.canonical b = some c →
      (db.graph.identify (identityKey env device) a.canonicalDeviceId).canonical b = some c := by
    intro b c hc
    have hbn : b ≠ identityKey env device := by
      rintro rfl
      rw [hnone] at hc
      cases hc
    simpa [IdentityGraph.identify, hbn] using hc
  constructor
  case wellFormed =>
    exact { h.wellFormed with identities := h.wellFormed.identities.append (lookup_eq_none_iff.mp hn) }
  case canonical =>
    rw [hgraph, hid]
    simp [IdentityGraph.identify]
  case coherent =>
    rw [hgraph, hid]
    exact h.coherent.introduce hnone hmember
  case aliases => rfl
  case physical => rfl
  case uidsDrawn => rfl
  case stored => exact ⟨_, List.mem_append_right _ (List.mem_singleton_self _), rfl⟩
  case kept => exact fun row hrow => List.mem_append_left _ hrow
  case devices =>
    intro row hrow
    rcases List.mem_append.mp hrow with hrow | hrow
    · exact .inl hrow
    · rw [List.mem_singleton] at hrow
      subst hrow
      refine .inr ⟨rfl, hkey, ?_⟩
      exact hdev.imp (fun hc => ⟨hc.1, hc.2, hid⟩) id
  case member =>
    intro d b hm
    rw [hgraph] at hm
    exact ⟨b, hm⟩
  case serials =>
    intro b c _ hc
    rw [hgraph]
    exact hkeep hc
  case locations =>
    intro l hl
    obtain ⟨c, hc⟩ := h.location_identity l hl
    exact ⟨c, by rw [hgraph]; exact hkeep hc⟩
  case evidence =>
    intro e he
    obtain ⟨c, hc⟩ := h.evidence_identity e he
    exact ⟨c, by rw [hgraph]; exact hkeep hc⟩
  case connected => exact Iff.rfl
  case identities =>
    intro r hr
    rcases List.mem_append.mp hr with hr | hr
    · exact .inl hr
    · rw [List.mem_singleton] at hr
      subst hr
      exact .inr ⟨rfl, hid, strip_deviceRow device⟩

theorem Attributed.placed (h : Inv env D db) (ha : Attributed env now device db a db₁) :
    Placed env device db a db₁ := by
  cases ha with
  | matched hfound hid hdev =>
      refine h.placed_same ?_
      obtain ⟨hmem, hrid⟩ := mem_of_lookup hfound
      rw [hid, hdev, ← hrid]
      exact h.wellFormed.canonical hmem
  | fallback _ howner _ hid hdev =>
      refine h.placed_same ?_
      obtain ⟨ho, -⟩ := endpointOwner?_some howner
      rw [hid, hdev]
      exact h.wellFormed.canonical (mem_of_lookup ho).1
  | promoted hn howner hs hos hid hdev =>
      exact h.placed_promoted hn (endpointOwner?_some howner).1 hs hos hid hdev
  | introduced hn hid _ hdev hfresh hkey => exact h.placed_introduced hn hid hdev hfresh hkey

/-- An observation gives no uid and takes none. -/
theorem Placed.uids (hp : Placed env device db a db₁) (now : Nat) :
    (recordObservation a device now db₁).graph.uidOf = db.graph.uidOf ∧
      (recordObservation a device now db₁).graph.physical = db.graph.physical := by
  have haliases : (recordObservation a device now db₁).aliases = db.aliases := hp.aliases
  have hphysical : (recordObservation a device now db₁).physical = db.physical := hp.physical
  constructor
  · simp only [Db.graph, haliases]
  · simp only [Db.graph, hphysical]

/-- **Recording restores the invariant.** -/
theorem Inv.observed (h : Inv env D db) (hd : device ∈ D) (hp : Placed env device db a db₁) :
    Inv env D (recordObservation a device now db₁) := by
  have hgraph := graph_recordObservation db₁ a device now
  obtain ⟨huid, hphys⟩ := hp.uids now
  have hcan : (recordObservation a device now db₁).graph.canonical = db₁.graph.canonical := by
    simp only [hgraph, IdentityGraph.connect, IdentityGraph.adopt]
  have hconn : ∀ {k}, (∃ b, db.graph.connected b k) →
      ∃ b, (recordObservation a device now db₁).graph.connected b k := by
    intro k hk
    obtain ⟨b, hb⟩ := hp.connected.mp hk
    exact ⟨b, by rw [hgraph]; exact .inr hb⟩
  have hconn_new : (recordObservation a device now db₁).graph.connected a.controllerId
      device.endpoint.stableKey := by
    rw [hgraph]
    exact .inl ⟨rfl, rfl⟩
  -- every device row after recording is a row before it, up to its other columns
  have hrows : ∀ row ∈ (recordObservation a device now db₁).devices, ∃ row₀ ∈ db₁.devices,
      row₀.id = row.id ∧ row₀.stableKey = row.stableKey := by
    intro row hrow
    have hmem := List.mem_map_of_mem (f := fun d : DeviceRow => (d.id, d.stableKey)) hrow
    rw [devices_recordObservation, List.mem_map] at hmem
    obtain ⟨row₀, hrow₀, hEq⟩ := hmem
    exact ⟨row₀, hrow₀, by simpa using hEq⟩
  have hids : ∀ {d}, (∃ row ∈ db₁.devices, row.id = d) →
      ∃ row ∈ (recordObservation a device now db₁).devices, row.id = d := by
    rintro d ⟨row, hrow, rfl⟩
    have hmem := List.mem_map_of_mem (f := fun d : DeviceRow => (d.id, d.stableKey)) hrow
    rw [← devices_recordObservation db₁ a device now, List.mem_map] at hmem
    obtain ⟨row', hrow', hEq⟩ := hmem
    exact ⟨row', hrow', by simpa using congrArg Prod.fst hEq⟩
  constructor
  case wellFormed => exact hp.wellFormed.recorded a device now
  case coherent =>
    rw [hgraph]
    exact hp.coherent.connect hp.canonical _
  case drawn =>
    intro u d hu
    rw [hphys] at hu
    obtain ⟨n, hn, hun⟩ := h.drawn hu
    exact ⟨n, hp.uidsDrawn ▸ hn, hun⟩
  case member_device =>
    intro d b hm
    refine hids ?_
    rw [hgraph] at hm
    by_cases hda : d = a.canonicalDeviceId
    · exact hda ▸ hp.stored
    · have hm₁ : db₁.graph.member d = some b := by
        simpa [IdentityGraph.connect, IdentityGraph.adopt, hda] using hm
      obtain ⟨b', hb'⟩ := hp.member hm₁
      obtain ⟨row, hrow, hid⟩ := h.member_device hb'
      exact ⟨row, hp.kept row hrow, hid⟩
  case location_identity =>
    intro l hl
    rw [hcan]
    rcases mem_locations_recordObservation hl with hid | ⟨l₀, hl₀, hid⟩
    · exact ⟨_, by rw [hid]; exact hp.canonical⟩
    · exact hid ▸ hp.locations l₀ hl₀
  case evidence_identity =>
    intro e he
    rw [hcan]
    rcases mem_evidence_recordObservation hp.wellFormed he with hid | ⟨e₀, he₀, hid⟩
    · exact ⟨_, by rw [hid]; exact hp.canonical⟩
    · exact hid ▸ hp.evidence e₀ he₀
  case connected_key =>
    intro b k hb
    rw [hgraph] at hb
    rcases hb with ⟨-, rfl⟩ | hb
    · exact ⟨device.endpoint, rfl⟩
    · obtain ⟨b', hb'⟩ := hp.connected.mpr ⟨b, hb⟩
      exact h.connected_key hb'
  case device_id =>
    intro row hrow
    obtain ⟨row₀, hrow₀, hid, -⟩ := hrows row hrow
    rw [← hid]
    rcases hp.devices row₀ hrow₀ with hold | ⟨hid₀, -, ⟨hs, hc, hkey⟩ | hk⟩
    · rcases h.device_id row₀ hold with ⟨d, hdD, hk, hs, c, hc⟩ | hk
      · exact .inl ⟨d, hdD, hk, hs, c, by
          rw [hcan]
          exact hp.serials (isSerialKey_identityKey.mpr hs) hc⟩
      · exact .inr (hconn hk)
    · exact .inl ⟨device, hd, hid₀.trans hc, hs, a.canonicalDeviceId, by
        rw [hcan, ← hkey]
        exact hp.canonical⟩
    · exact .inr ⟨a.controllerId, by rw [hid₀, hk]; exact hconn_new⟩
  case device_key =>
    intro row hrow
    obtain ⟨row₀, hrow₀, hid, hkey⟩ := hrows row hrow
    rw [← hid, ← hkey]
    rcases hp.devices row₀ hrow₀ with hold | ⟨hid₀, hk | hk, -⟩
    · exact (h.device_key row₀ hold).imp id hconn
    · exact .inl (hk.trans hid₀.symm)
    · exact .inr ⟨a.controllerId, by rw [hk]; exact hconn_new⟩
  case serial_identity =>
    have hbase : ∀ r ∈ db₁.identities, IsSerialKey r.controllerId →
        Text.strip r.serialNumber ≠ "" := by
      intro r hr hser
      rcases hp.identities r hr with hold | ⟨hid, -, hserial⟩
      · exact h.serial_identity r hold hser
      · rw [hid] at hser
        rw [hserial]
        exact isSerialKey_identityKey.mp hser
    intro r hr hser
    rcases mem_identities_recordObservation hr with ⟨hr₁, -⟩ | ⟨r₀, hr₀, hid₀, hid, -, -, hserial⟩
    · exact hbase r hr₁ hser
    · rw [hserial]
      by_cases hs : device.serial = ""
      · simp only [hs, ne_eq, not_true_eq_false, if_false]
        exact hbase r₀ hr₀ (by rw [hid₀, ← hid]; exact hser)
      · rw [if_pos hs, strip_serial]
        exact hs
  case identity_shape =>
    have hbase : ∀ r ∈ db₁.identities, ¬ IsUidKey r.controllerId := by
      intro r hr
      rcases hp.identities r hr with hold | ⟨hid, -, -⟩
      · exact h.identity_shape r hold
      · rw [hid]
        exact not_isUidKey_controllerIdentity env _
    intro r hr
    rcases mem_identities_recordObservation hr with ⟨hr₁, -⟩ | ⟨r₀, hr₀, hid₀, hid, -⟩
    · exact hbase r hr₁
    · rw [hid, ← hid₀]
      exact hbase r₀ hr₀
  case alias_serial =>
    intro b u hu hser
    rw [huid] at hu
    obtain ⟨c, hc⟩ := h.alias_serial hu hser
    exact ⟨c, by rw [hcan]; exact hp.serials hser hc⟩
  case alias_shape =>
    intro b u hu
    rw [huid] at hu
    exact h.alias_shape hu

end Record

end MorningstarModbus
