import MorningstarModbus.Controllers.RegistryInvariant

/-!
# MorningstarModbus.Controllers.LegacyRows

Databases written before the controller registry existed hold device rows only
(`TelemetryStore.upsert_device`).  The first initialization groups them by
identity key.

* `legacyDb` — what a sequence of `upsert_device` calls writes;
* `Grouped` — the tables after some rows were grouped, kept by every row;
* `Inv.bootstrap` — grouping all rows establishes the registry invariant.
-/

namespace MorningstarModbus

open Table

/-! ## the rows of `upsert_device` -/

/-- `TelemetryStore.upsert_device`, with its `save_device_intelligence`. -/
def upsertDevice (now : Nat) (device : DiscoveredDevice) (db : Db) : Db :=
  let key := device.endpoint.stableKey
  { db with
    devices := upsert DeviceRow.stableKey
      (fun old new => { new with
        id := old.id
        stableKey := old.stableKey
        firstSeen := old.firstSeen })
      (observedDevice key key device now) db.devices
    deviceIntelligence := match device.intelligence with
      | some intelligence =>
          upsert IntelligenceRow.deviceId (fun _ new => new) { deviceId := key, intelligence }
            db.deviceIntelligence
      | none => db.deviceIntelligence }

/-- A database written by `upsert_device` calls alone. -/
def legacyDb (ups : List (Nat × DiscoveredDevice)) : Db :=
  ups.foldl (fun db up => upsertDevice up.1 up.2 db) {}

/-- Only device rows, each under its endpoint's key. -/
structure Legacy (E : Set Endpoint) (db : Db) : Prop where
  identities : db.identities = []
  members : db.members = []
  connections : db.connections = []
  locations : db.locations = []
  evidence : db.evidence = []
  physical : db.physical = []
  aliases : db.aliases = []
  keyed : Keyed DeviceRow.stableKey db.devices
  id_key : ∀ row ∈ db.devices, row.id = row.stableKey
  endpoint : ∀ row ∈ db.devices, ∃ e ∈ E, row.endpoint = e.columns ∧ row.stableKey = e.stableKey

theorem stableKey_columns (e : Endpoint) : e.columns.stableKey = e.stableKey := rfl

theorem usb_fromRow (e : Endpoint) : e.fromRow.usb = e.usb := by
  by_cases h : e.usb = "" <;> simp [Endpoint.fromRow, Endpoint.usb, Endpoint.columns] at h ⊢ <;>
    simp [h]

theorem stableKey_fromRow (e : Endpoint) : e.fromRow.stableKey = e.stableKey := by
  simp only [Endpoint.stableKey, usb_fromRow]
  rfl

theorem legacy_empty (E : Set Endpoint) : Legacy E {} where
  identities := rfl
  members := rfl
  connections := rfl
  locations := rfl
  evidence := rfl
  physical := rfl
  aliases := rfl
  keyed := keyed_nil _
  id_key := by simp
  endpoint := by simp

/-- The ids of legacy rows are their keys, so they are unique too. -/
theorem Legacy.keyed_id {E : Set Endpoint} {db : Db} (h : Legacy E db) :
    Keyed DeviceRow.id db.devices := by
  refine h.keyed.of_determines fun r hr s hs hrs => ?_
  rw [← h.id_key r hr, ← h.id_key s hs, hrs]

theorem Legacy.upsert {E : Set Endpoint} {db : Db} (h : Legacy E db) (now : Nat)
    {device : DiscoveredDevice} (hd : device.endpoint ∈ E) :
    Legacy E (upsertDevice now device db) where
  identities := h.identities
  members := h.members
  connections := h.connections
  locations := h.locations
  evidence := h.evidence
  physical := h.physical
  aliases := h.aliases
  keyed := by
    simp only [upsertDevice]
    exact h.keyed.upsert (by intro r hr; exact hr)
  id_key := by
    intro row hrow
    simp only [upsertDevice] at hrow
    rcases mem_upsert hrow with ⟨rfl, -⟩ | ⟨old, hold, -, rfl⟩ | ⟨hrow, -⟩
    · rfl
    · exact h.id_key old hold
    · exact h.id_key row hrow
  endpoint := by
    intro row hrow
    simp only [upsertDevice] at hrow
    rcases mem_upsert hrow with ⟨rfl, -⟩ | ⟨old, hold, hk, rfl⟩ | ⟨hrow, -⟩
    · exact ⟨device.endpoint, hd, rfl, rfl⟩
    · exact ⟨device.endpoint, hd, rfl, hk⟩
    · exact h.endpoint row hrow

/-- Whatever devices were upserted, the database is a legacy one. -/
theorem legacy_legacyDb {E : Set Endpoint} {ups : List (Nat × DiscoveredDevice)}
    (h : ∀ up ∈ ups, up.2.endpoint ∈ E) : Legacy E (legacyDb ups) := by
  refine Loop.foldl_invariant (fun _ db => Legacy E db) ups (legacy_empty E) ?_
  intro done up rest db hsplit hdb
  exact hdb.upsert up.1 (h up (by simp [hsplit]))

/-! ## grouping -/

/-- The tables once the rows `seen` of `source` were grouped. -/
structure Grouped (env : Env) (source : Db) (seen : List DeviceRow) (db : Db) : Prop where
  wellFormed : WellFormed db
  devices : db.devices = source.devices
  evidence : db.evidence = []
  physical : db.physical = []
  aliases : db.aliases = []
  known : ∀ d ∈ seen, d ∈ source.devices
  identity_sound : ∀ r ∈ db.identities,
    (∃ d ∈ source.devices, d.id = r.canonicalDeviceId ∧ legacyKey env source d = r.controllerId) ∧
      (IsSerialKey r.controllerId → Text.strip r.serialNumber ≠ "")
  identified : ∀ d ∈ seen, ∃ c, db.graph.canonical (legacyKey env source d) = some c
  member : ∀ x a, db.graph.member x = some a ↔
    ∃ d ∈ seen, d.id = x ∧ legacyKey env source d = a
  connected : ∀ a k, db.graph.connected a k ↔
    ∃ d ∈ seen, legacyKey env source d = a ∧ d.endpoint.stableKey = k
  locations : ∀ l ∈ db.locations, ∃ d ∈ seen, legacyKey env source d = l.controllerId

section Grouping

variable {env : Env} {source db : Db} {seen : List DeviceRow}

theorem graph_bootstrapRow (now : Nat) (k : String) (newest : Bool) (db : Db) (d : DeviceRow) :
    (bootstrapRow now k newest db d).graph =
      (db.graph.adopt d.id k).connect k d.endpoint.stableKey := by
  simp only [bootstrapRow, graph_upsertConnection, graph_upsertMember, stableKey_fromRow]

/-- One row joins its group. -/
theorem Grouped.row (h : Grouped env source seen db) (now : Nat)
    (hid : Keyed DeviceRow.id source.devices) {d : DeviceRow} (hd : d ∈ source.devices) {c : String}
    (hc : db.graph.canonical (legacyKey env source d) = some c) (newest : Bool) :
    Grouped env source (seen ++ [d]) (bootstrapRow now (legacyKey env source d) newest db d) := by
  have hgraph := graph_bootstrapRow now (legacyKey env source d) newest db d
  constructor
  case wellFormed =>
    refine { h.wellFormed with members := ?_, connections := ?_, locations := ?_ }
    · simp only [bootstrapRow, upsertConnection, upsertMember]
      exact h.wellFormed.members.upsert (by intro m hm; exact hm)
    · simp only [bootstrapRow, upsertConnection, upsertMember]
      exact h.wellFormed.connections.upsert (by intro m hm; exact hm)
    · simp only [bootstrapRow, upsertConnection, upsertMember]
      exact h.wellFormed.locations.upsert (by intro m hm; exact hm)
  case devices => exact h.devices
  case evidence => exact h.evidence
  case physical => exact h.physical
  case aliases => exact h.aliases
  case known =>
    intro e he
    rcases List.mem_append.mp he with he | he
    · exact h.known e he
    · rw [List.mem_singleton] at he
      exact he ▸ hd
  case identity_sound => exact h.identity_sound
  case identified =>
    intro e he
    rw [hgraph]
    rcases List.mem_append.mp he with he | he
    · exact h.identified e he
    · rw [List.mem_singleton] at he
      rw [he]
      exact ⟨c, hc⟩
  case member =>
    intro x a
    rw [hgraph]
    by_cases hx : x = d.id
    · -- the device of this row belongs to this row's group, before and after
      subst hx
      simp only [IdentityGraph.connect, IdentityGraph.adopt, Function.update_self, Option.some.injEq]
      constructor
      · rintro rfl
        exact ⟨d, by simp, rfl, rfl⟩
      · rintro ⟨e, he, hei, rfl⟩
        have hes : e ∈ source.devices := by
          rcases List.mem_append.mp he with he | he
          · exact h.known e he
          · rw [List.mem_singleton] at he
            exact he ▸ hd
        rw [hid.eq hes hd hei]
    · simp only [IdentityGraph.connect, IdentityGraph.adopt, ne_eq, hx, not_false_eq_true,
        Function.update_of_ne, h.member]
      constructor
      · rintro ⟨e, he, hek⟩
        exact ⟨e, List.mem_append_left _ he, hek⟩
      · rintro ⟨e, he, hei, hek⟩
        rcases List.mem_append.mp he with he | he
        · exact ⟨e, he, hei, hek⟩
        · rw [List.mem_singleton] at he
          exact absurd (he ▸ hei.symm) hx
  case connected =>
    intro a k
    rw [hgraph]
    simp only [IdentityGraph.connect, IdentityGraph.adopt, h.connected, List.mem_append,
      List.mem_singleton]
    constructor
    · rintro (⟨rfl, rfl⟩ | ⟨e, he, hek⟩)
      · exact ⟨d, .inr rfl, rfl, rfl⟩
      · exact ⟨e, .inl he, hek⟩
    · rintro ⟨e, he | rfl, hea, hek⟩
      · exact .inr ⟨e, he, hea, hek⟩
      · exact .inl ⟨hea.symm, hek.symm⟩
  case locations =>
    intro l hl
    simp only [bootstrapRow, upsertConnection, upsertMember] at hl
    rcases mem_upsert hl with ⟨rfl, -⟩ | ⟨old, hold, -, rfl⟩ | ⟨hl, -⟩
    · exact ⟨d, by simp, rfl⟩
    · obtain ⟨e, he, hek⟩ := h.locations old hold
      exact ⟨e, List.mem_append_left _ he, hek⟩
    · obtain ⟨e, he, hek⟩ := h.locations l hl
      exact ⟨e, List.mem_append_left _ he, hek⟩

/-- The rows of a group join it one after the other. -/
theorem Grouped.rows (h : Grouped env source seen db) (now : Nat)
    (hid : Keyed DeviceRow.id source.devices) {k c : String} (hc : db.graph.canonical k = some c) {rows : List DeviceRow}
    (hrows : ∀ d ∈ rows, d ∈ source.devices ∧ legacyKey env source d = k) (newest : Bool) :
    Grouped env source (seen ++ rows) (rows.foldl (bootstrapRow now k newest) db) := by
  suffices hall : Grouped env source (seen ++ rows) (rows.foldl (bootstrapRow now k newest) db) ∧
      (rows.foldl (bootstrapRow now k newest) db).graph.canonical k = some c from hall.1
  refine Loop.foldl_invariant (fun done db' => Grouped env source (seen ++ done) db' ∧
    db'.graph.canonical k = some c) rows ⟨by simpa using h, hc⟩ ?_
  · rintro done d rest db' hsplit ⟨hg, hc'⟩
    obtain ⟨hd, hk⟩ := hrows d (by simp [hsplit])
    have hc'' : db'.graph.canonical (legacyKey env source d) = some c := by rw [hk, hc']
    have hrow := hg.row now hid hd hc'' newest
    rw [hk, List.append_assoc] at hrow
    exact ⟨hrow, by rw [graph_bootstrapRow]; exact hc'⟩

theorem canonical_upsertLegacyIdentity (row : IdentityRow) (db : Db) (k : String) :
    (∃ c, (upsertLegacyIdentity row db).graph.canonical k = some c) ↔
      k = row.controllerId ∨ ∃ c, db.graph.canonical k = some c := by
  rw [canonical_isSome, canonical_isSome]
  simp only [upsertLegacyIdentity]
  exact exists_key_upsert (by intro r _; rfl)

/-- The identity of a group is written before its rows. -/
theorem Grouped.identity (h : Grouped env source seen db) (row : IdentityRow)
    (hrow : ∃ d ∈ source.devices, d.id = row.canonicalDeviceId ∧
      legacyKey env source d = row.controllerId)
    (hserial : IsSerialKey row.controllerId → Text.strip row.serialNumber ≠ "") :
    Grouped env source seen (upsertLegacyIdentity row db) := by
  constructor
  case wellFormed =>
    refine { h.wellFormed with identities := ?_ }
    simp only [upsertLegacyIdentity]
    exact h.wellFormed.identities.upsert (by intro r _; rfl)
  case devices => exact h.devices
  case evidence => exact h.evidence
  case physical => exact h.physical
  case aliases => exact h.aliases
  case known => exact h.known
  case identity_sound =>
    intro r hr
    simp only [upsertLegacyIdentity] at hr
    rcases mem_upsert hr with ⟨rfl, -⟩ | ⟨old, hold, hk, rfl⟩ | ⟨hr, -⟩
    · exact ⟨hrow, hserial⟩
    · obtain ⟨⟨d, hd, hdc, hdk⟩, -⟩ := h.identity_sound old hold
      exact ⟨⟨d, hd, hdc, hdk.trans hk⟩, hserial⟩
    · exact h.identity_sound r hr
  case identified =>
    intro d hd
    exact (canonical_upsertLegacyIdentity row db _).mpr (.inr (h.identified d hd))
  case member => exact h.member
  case connected => exact h.connected
  case locations => exact h.locations

/-- A serial key comes from a serial number. -/
theorem strip_serialNumber_of_legacyKey {d : DeviceRow}
    (h : IsSerialKey (legacyKey env source d)) :
    Text.strip (legacyFields source d).serialNumber ≠ "" := by
  intro hs
  have hhead := head_controllerIdentity_of_no_serial env hs
  simp only [IsSerialKey, legacyKey] at h
  simp [h] at hhead

/-- **One group**: its newest row gives the device, and all its rows join. -/
theorem Grouped.group (h : Grouped env source seen db) (now : Nat)
    (hid : Keyed DeviceRow.id source.devices) {rows : List DeviceRow}
    (hrows : ∀ d, d ∈ rows ↔ d ∈ source.devices) {k : String}
    (hk : ∃ d ∈ source.devices, legacyKey env source d = k) :
    ∃ group, (∀ d, d ∈ group ↔ d ∈ source.devices ∧ legacyKey env source d = k) ∧
      Grouped env source (seen ++ group) (bootstrapGroup env now source rows db k) := by
  have hmem : ∀ d, d ∈ (rows.filter fun d => legacyKey env source d = k).insertionSort seenAfter ↔
      d ∈ source.devices ∧ legacyKey env source d = k := by
    intro d
    rw [List.mem_insertionSort, List.mem_filter, hrows, decide_eq_true_eq]
  refine ⟨_, hmem, ?_⟩
  cases hsort : (rows.filter fun d => legacyKey env source d = k).insertionSort seenAfter with
  | nil =>
      obtain ⟨d, hd, hdk⟩ := hk
      have hin := (hmem d).mpr ⟨hd, hdk⟩
      rw [hsort] at hin
      exact absurd hin List.not_mem_nil
  | cons current older =>
      cases hlast : (rows.filter fun d => legacyKey env source d = k).getLast? with
      | none =>
          have hnil := List.getLast?_eq_none_iff.mp hlast
          simp [hnil] at hsort
      | some last =>
          rw [hsort] at hmem
          obtain ⟨hcur, hcurk⟩ := (hmem current).mp List.mem_cons_self
          have holder : ∀ d ∈ older, d ∈ source.devices ∧ legacyKey env source d = k :=
            fun d hd => (hmem d).mp (List.mem_cons_of_mem current hd)
          simp only [bootstrapGroup, hsort, hlast]
          have hg := h.identity (legacyIdentity env source k current older last)
            ⟨current, hcur, rfl, hcurk⟩ (by
              intro hs
              have hs' : IsSerialKey (legacyKey env source current) := by rw [hcurk]; exact hs
              exact strip_serialNumber_of_legacyKey hs')
          obtain ⟨c, hc⟩ := (canonical_upsertLegacyIdentity
            (legacyIdentity env source k current older last) db k).mpr (.inl rfl)
          have hcurrent : ∀ d ∈ [current], d ∈ source.devices ∧ legacyKey env source d = k := by
            simpa using ⟨hcur, hcurk⟩
          have h1 := hg.rows now hid hc hcurrent true
          have hc1 := congrArg (fun g => g.canonical k) (graph_bootstrapRow now k true
            (upsertLegacyIdentity (legacyIdentity env source k current older last) db) current)
          have h2 := h1.rows now hid (hc1.trans hc) holder false
          simpa using h2

end Grouping

/-! ## initialization -/

section Initialization

variable {env : Env} {D : Set DiscoveredDevice} {E : Set Endpoint} {db : Db}

/-- Nothing is grouped yet. -/
theorem Legacy.grouped_nil (h : Legacy E db) : Grouped env db [] db := by
  have hmember : db.graph.member = fun _ => none := by
    simp [Db.graph, h.members, lookup]
  constructor
  case wellFormed =>
    constructor <;>
      simp only [h.identities, h.members, h.connections, h.locations, h.evidence, h.physical,
        h.aliases, keyed_nil]
  case devices => rfl
  case evidence => exact h.evidence
  case physical => exact h.physical
  case aliases => exact h.aliases
  case known => simp
  case identity_sound => simp [h.identities]
  case identified => simp
  case member => simp [hmember]
  case connected => simp [Db.graph, h.connections]
  case locations => simp [h.locations]

/-- **The bootstrap groups every row.** -/
theorem Legacy.grouped (h : Legacy E db) (env : Env) (now : Nat) :
    ∃ seen, (∀ d, d ∈ seen ↔ d ∈ db.devices) ∧
      Grouped env db seen (bootstrapLegacyRows env now db) := by
  have hrows : ∀ d, d ∈ db.devices.insertionSort (fun a b => b.lastSeen ≤ a.lastSeen) ↔
      d ∈ db.devices := fun d => List.mem_insertionSort _
  have hkeys : ∀ k, k ∈ distinct ((db.devices.insertionSort
      fun a b => b.lastSeen ≤ a.lastSeen).map (legacyKey env db)) ↔
      ∃ d ∈ db.devices, legacyKey env db d = k := by
    intro k
    simp only [mem_distinct, List.mem_map, hrows]
  suffices hloop : ∃ seen, (∀ d, d ∈ seen ↔ d ∈ db.devices ∧ legacyKey env db d ∈
      distinct ((db.devices.insertionSort fun a b => b.lastSeen ≤ a.lastSeen).map
        (legacyKey env db))) ∧ Grouped env db seen (bootstrapLegacyRows env now db) by
    obtain ⟨seen, hseen, hg⟩ := hloop
    refine ⟨seen, fun d => ?_, hg⟩
    rw [hseen, hkeys]
    exact ⟨fun hd => hd.1, fun hd => ⟨hd, d, hd, rfl⟩⟩
  refine Loop.foldl_invariant (fun done db' => ∃ seen,
    (∀ d, d ∈ seen ↔ d ∈ db.devices ∧ legacyKey env db d ∈ done) ∧ Grouped env db seen db') _
    ⟨[], by simp, h.grouped_nil⟩ ?_
  · rintro done k rest db' hsplit ⟨seen, hseen, hg⟩
    have hk := (hkeys k).mp (by rw [hsplit]; simp)
    obtain ⟨group, hgroup, hg'⟩ := hg.group now h.keyed_id hrows hk
    refine ⟨seen ++ group, fun d => ?_, hg'⟩
    simp only [List.mem_append, hseen, hgroup, List.mem_singleton]
    exact and_or_left.symm

/-- Once all rows are grouped the registry invariant holds. -/
theorem Grouped.inv (hl : Legacy E db) {db' : Db} {seen : List DeviceRow}
    (hg : Grouped env db seen db') (hseen : ∀ d, d ∈ seen ↔ d ∈ db.devices) : Inv env D db' := by
  have hid := hl.keyed_id
  have hphysical : db'.graph.physical = fun _ => none := by
    simp [Db.graph, hg.physical, lookup]
  have huid : db'.graph.uidOf = fun _ => none := by
    simp [Db.graph, hg.aliases, lookup]
  have hsound : ∀ {a c}, db'.graph.canonical a = some c →
      ∃ d ∈ db.devices, d.id = c ∧ legacyKey env db d = a := by
    intro a c hc
    obtain ⟨r, hr, rfl, rfl, -⟩ := exists_identity hc
    exact (hg.identity_sound r hr).1
  have hcan : ∀ {d}, d ∈ seen → ∃ c, db'.graph.canonical (legacyKey env db d) = some c :=
    fun hd => hg.identified _ hd
  constructor
  case wellFormed => exact hg.wellFormed
  case coherent =>
    constructor
    case canonical_inj =>
      intro a b c ha hb
      obtain ⟨d, hd, hdc, hda⟩ := hsound ha
      obtain ⟨e, he, hec, heb⟩ := hsound hb
      have hde : d = e := hid.eq hd he (hdc.trans hec.symm)
      rw [← hda, ← heb, hde]
    case member_canonical =>
      intro a c ha
      obtain ⟨d, hd, hdc, hda⟩ := hsound ha
      exact (hg.member c a).mpr ⟨d, (hseen d).mpr hd, hdc, hda⟩
    case member_identity =>
      intro a x hx
      obtain ⟨d, hd, -, rfl⟩ := (hg.member x a).mp hx
      exact hcan hd
    case connected_identity =>
      intro a k hk
      obtain ⟨d, hd, rfl, -⟩ := (hg.connected a k).mp hk
      exact hcan hd
    case uid_physical => simp [huid]
    case physical_inj => simp [hphysical]
    case physical_claim => simp [hphysical]
  case drawn => simp [UidsDrawn, hphysical]
  case member_device =>
    intro x a hx
    obtain ⟨d, hd, hdx, -⟩ := (hg.member x a).mp hx
    exact ⟨d, by rw [hg.devices]; exact hg.known d hd, hdx⟩
  case location_identity =>
    intro l hloc
    obtain ⟨d, hd, hdl⟩ := hg.locations l hloc
    exact hdl ▸ hcan hd
  case evidence_identity => simp [hg.evidence]
  case connected_key =>
    intro a k hk
    obtain ⟨d, -, -, rfl⟩ := (hg.connected a k).mp hk
    exact ⟨d.endpoint, rfl⟩
  case device_id =>
    intro row hrow
    rw [hg.devices] at hrow
    obtain ⟨e, -, hcol, hkey⟩ := hl.endpoint row hrow
    refine .inr ⟨legacyKey env db row, (hg.connected _ _).mpr ⟨row, (hseen row).mpr hrow, rfl, ?_⟩⟩
    rw [hl.id_key row hrow, hkey, hcol, stableKey_columns]
  case device_key =>
    intro row hrow
    rw [hg.devices] at hrow
    exact .inl (hl.id_key row hrow).symm
  case serial_identity => exact fun r hr => (hg.identity_sound r hr).2
  case identity_shape =>
    intro r hr
    obtain ⟨⟨d, -, -, hk⟩, -⟩ := hg.identity_sound r hr
    rw [← hk]
    exact not_isUidKey_controllerIdentity env (legacyFields db d)
  case alias_serial => simp [huid]
  case alias_shape => simp [huid]

/-- A registry without identities has no devices either, so initializing it
again groups nothing. -/
theorem Inv.initializeInventory_eq (h : Inv env D db) (now : Nat) :
    initializeInventory env now db = db := by
  unfold initializeInventory
  split
  · next hempty =>
    have hids : db.identities = [] := List.isEmpty_iff.mp hempty
    have hnone : ∀ a c, db.graph.canonical a ≠ some c := by
      intro a c hc
      obtain ⟨r, hr, -⟩ := exists_identity hc
      simp [hids] at hr
    have hdevices : db.devices = [] := by
      rw [List.eq_nil_iff_forall_not_mem]
      intro row hrow
      rcases h.device_id row hrow with ⟨d, -, -, -, c, hc⟩ | ⟨a, ha⟩
      · exact hnone _ c hc
      · obtain ⟨c, hc⟩ := h.coherent.connected_identity ha
        exact hnone a c hc
    simp [bootstrapLegacyRows, hdevices, distinct]
  · rfl

end Initialization

end MorningstarModbus
