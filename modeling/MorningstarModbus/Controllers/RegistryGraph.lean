import MorningstarModbus.Controllers.IdentityGraph
import MorningstarModbus.Controllers.Scope

/-!
# MorningstarModbus.Controllers.RegistryGraph

The registry tables refine the identity graph: `Db.graph` reads the partial
maps off the tables, and each statement of the inventory and of the
synchronisation pass is a transition of the graph.

* `WellFormed` — the uniqueness constraints of the tables;
* `graph_…` — what a statement does to the graph;
* `syncIdentity_spec`, `syncCurrentIdentities_spec` — the pass never meets a
  constraint and is `IdentityGraph.Syncs`.
-/

namespace MorningstarModbus

open Table

/-! ## the graph of a database -/

/-- The identity graph the tables describe. -/
def Db.graph (db : Db) : IdentityGraph String String String String where
  canonical a := (lookup IdentityRow.controllerId a db.identities).map IdentityRow.canonicalDeviceId
  member d := (lookup MemberRow.deviceId d db.members).map MemberRow.controllerId
  uidOf a := (lookup AliasRow.controllerId a db.aliases).map AliasRow.controllerUid
  physical u := (lookup PhysicalRow.controllerUid u db.physical).map PhysicalRow.canonicalDeviceId
  current u := (lookup PhysicalRow.controllerUid u db.physical).map PhysicalRow.currentControllerId
  connected a k := ∃ c ∈ db.connections, c.key = (a, k)

/-- The uniqueness constraints of the registry tables. -/
structure WellFormed (db : Db) : Prop where
  identities : Keyed IdentityRow.controllerId db.identities
  members : Keyed MemberRow.deviceId db.members
  connections : Keyed ConnectionRow.key db.connections
  locations : Keyed LocationRow.key db.locations
  evidence : Keyed EvidenceRow.key db.evidence
  physical : Keyed PhysicalRow.controllerUid db.physical
  aliases : Keyed AliasRow.controllerId db.aliases

/-- An identity row is the graph's identity. -/
theorem WellFormed.canonical {db : Db} (hw : WellFormed db) {r : IdentityRow}
    (hr : r ∈ db.identities) : db.graph.canonical r.controllerId = some r.canonicalDeviceId := by
  simp only [Db.graph, lookup_of_mem hw.identities hr, Option.map_some]

/-- An identity of the graph has a row. -/
theorem exists_identity {db : Db} {a d : String} (h : db.graph.canonical a = some d) :
    ∃ r ∈ db.identities, r.controllerId = a ∧ r.canonicalDeviceId = d ∧ db.identity? a = some r := by
  simp only [Db.graph, Option.map_eq_some_iff] at h
  obtain ⟨r, hr, hd⟩ := h
  obtain ⟨hmem, hid⟩ := mem_of_lookup hr
  exact ⟨r, hmem, hid, hd, hr⟩

/-- The identities of the graph are the keys of the table. -/
theorem canonical_isSome {db : Db} {a : String} :
    (∃ d, db.graph.canonical a = some d) ↔ ∃ r ∈ db.identities, r.controllerId = a := by
  constructor
  · rintro ⟨d, hd⟩
    obtain ⟨r, hr, hid, -, -⟩ := exists_identity hd
    exact ⟨r, hr, hid⟩
  · rintro ⟨r, hr, rfl⟩
    obtain ⟨s, hs⟩ := exists_lookup_of_mem IdentityRow.controllerId hr
    exact ⟨s.canonicalDeviceId, by simp only [Db.graph, hs, Option.map_some]⟩

/-- Without an identity row there is no identity. -/
theorem canonical_eq_none {db : Db} {a : String} :
    db.graph.canonical a = none ↔ db.identity? a = none := by
  simp [Db.graph, Db.identity?]

/-- Under coherence the device of a uid is unique in the table as well. -/
theorem WellFormed.physicalCanonical {db : Db} (hw : WellFormed db) (hg : db.graph.Coherent) :
    Keyed PhysicalRow.canonicalDeviceId db.physical := by
  refine hw.physical.of_determines ?_
  intro r hr s hs hrs
  have hpr : db.graph.physical r.controllerUid = some r.canonicalDeviceId := by
    simp only [Db.graph, lookup_of_mem hw.physical hr, Option.map_some]
  have hps : db.graph.physical s.controllerUid = some r.canonicalDeviceId := by
    simp only [Db.graph, lookup_of_mem hw.physical hs, Option.map_some, hrs]
  exact hg.physical_inj hpr hps

/-! ## statements that leave the graph alone -/

section Frame

variable (env : Env) (device : DiscoveredDevice) (now : Nat) (db : Db)

@[simp] theorem graph_insertCanonicalDevice (deviceId : String) :
    (insertCanonicalDevice deviceId device now db).graph = db.graph := rfl

@[simp] theorem graph_updateCanonicalDevice (deviceId : String) :
    (updateCanonicalDevice deviceId device now db).graph = db.graph := rfl

@[simp] theorem graph_recordEvidence (controllerId : String) :
    (recordEvidence controllerId device now db).graph = db.graph := rfl

@[simp] theorem graph_touchIdentity (controllerId : String) :
    (touchIdentity controllerId device now db).graph = db.graph := by
  simp only [touchIdentity, Db.graph]
  congr 1
  funext a
  exact lookup_update_map (fun _ => rfl) (fun _ => rfl)

/-- Updates that leave the keys alone connect nobody anew. -/
theorem connected_update {p : ConnectionRow → Bool} {f : ConnectionRow → ConnectionRow}
    (hf : ∀ c, (f c).key = c.key) (x : String × String) :
    (∃ c ∈ update p f db.connections, c.key = x) ↔ ∃ c ∈ db.connections, c.key = x := by
  have hmap : (update p f db.connections).map ConnectionRow.key =
      db.connections.map ConnectionRow.key := map_update hf
  have hmem := congrArg (fun l => x ∈ l) hmap
  simpa only [List.mem_map, eq_iff_iff] using hmem

@[simp] theorem graph_recordInventorySuccess (controllerId endpointKey : String) :
    (recordInventorySuccess now controllerId endpointKey db).graph = db.graph := by
  simp only [recordInventorySuccess, Db.graph]
  congr 1
  · funext a
    exact lookup_update_map (fun _ => rfl) (fun _ => rfl)
  · funext a k
    exact propext (connected_update db (by intro c; rfl) (a, k))

@[simp] theorem graph_markAllOffline : (markAllOffline db).graph = db.graph := by
  simp only [markAllOffline, Db.graph]
  congr 1
  funext a k
  exact propext (connected_update db (by intro c; rfl) (a, k))

@[simp] theorem graph_markDeviceOffline (deviceId : String) :
    (markDeviceOffline deviceId db).graph = db.graph := rfl

end Frame

/-! ## statements that are transitions -/

section Transitions

variable {db : Db}

/-- A member is one more edge. -/
theorem graph_upsertMember (a d : String) (first last : Nat) :
    (upsertMember a d first last db).graph = db.graph.adopt d a := by
  simp only [upsertMember, Db.graph, IdentityGraph.adopt]
  congr 1
  exact lookup_upsert_map (fun _ h => h) rfl (fun _ _ => rfl)

/-- And so is a connection. -/
theorem graph_upsertConnection (a : String) (e : Endpoint) (now : Nat) (s : MatchStrategy)
    (confidence first : Nat) (active : Bool) :
    (upsertConnection a e now s confidence first active db).graph =
      db.graph.connect a e.stableKey := by
  simp only [upsertConnection, Db.graph, IdentityGraph.connect]
  congr 1
  funext b k
  refine propext ((exists_key_upsert (by intro c hc; exact hc)).trans ?_)
  simp [ConnectionRow.key]

/-- A new identity, on a key that has none. -/
theorem insertIdentity_spec {row : IdentityRow} (h : db.identity? row.controllerId = none) :
    insertIdentity row db = .ok { db with identities := db.identities ++ [row] } := by
  have hfresh : ∀ r ∈ db.identities, r.controllerId ≠ row.controllerId :=
    lookup_eq_none_iff.mp h
  simp only [insertIdentity, insertUnique_ok hfresh, Loop.ok_bind, Loop.pure_eq_ok]

/-- A new identity is a node more. -/
theorem graph_identities_append {row : IdentityRow} (h : db.identity? row.controllerId = none) :
    ({ db with identities := db.identities ++ [row] } : Db).graph =
      db.graph.identify row.controllerId row.canonicalDeviceId := by
  simp only [Db.graph, IdentityGraph.identify]
  congr 1
  exact lookup_append_map (lookup_eq_none_iff.mp h)

/-- Moving the rows of one controller to another breaks no key, because the
other has none. -/
theorem keyed_move {ρ κ : Type} {key : ρ → κ} (owner : ρ → String) (move : ρ → ρ) (o : String)
    {n : String} {rows : List ρ} (hk : Keyed key rows) (hfree : ∀ r ∈ rows, owner r ≠ n)
    (howner : ∀ r, owner (move r) = n) (hkey : ∀ r s, key r = key s → owner r = owner s)
    (hmove : ∀ r s, owner r = owner s → key (move r) = key (move s) → key r = key s) :
    Keyed key (update (fun r => owner r = o) move rows) := by
  refine hk.update_rows ?_ ?_
  · intro r hr s hs hro hso hrs
    have hroo : owner r = o := by simpa using hro
    have hsoo : owner s = o := by simpa using hso
    exact hmove r s (hroo.trans hsoo.symm) hrs
  · intro r hr s hs hro hso hrs
    have hns : n = owner s := by
      rw [← howner r]
      exact hkey _ _ hrs
    exact hfree s hs hns.symm

/-- The tables a promotion leaves. -/
def Db.promoted (db : Db) (row : IdentityRow) (o : String) : Db :=
  { db with
    identities := (db.identities ++ [row]).filter fun r => r.controllerId ≠ o
    members := update (fun m => m.controllerId = o)
      (fun m => { m with controllerId := row.controllerId }) db.members
    connections := update (fun c => c.controllerId = o)
      (fun c => { c with controllerId := row.controllerId }) db.connections
    locations := update (fun l => l.controllerId = o)
      (fun l => { l with controllerId := row.controllerId }) db.locations
    evidence := update (fun e => e.controllerId = o)
      (fun e => { e with controllerId := row.controllerId }) db.evidence }

/-- No row belongs to a controller without an identity, so a promotion to a
new identity breaks no constraint. -/
theorem WellFormed.promoted (hw : WellFormed db) {row : IdentityRow} (o : String)
    (hn : db.identity? row.controllerId = none)
    (hconn : ∀ c ∈ db.connections, c.controllerId ≠ row.controllerId)
    (hloc : ∀ l ∈ db.locations, l.controllerId ≠ row.controllerId)
    (hev : ∀ e ∈ db.evidence, e.controllerId ≠ row.controllerId) :
    WellFormed (db.promoted row o) where
  identities := (hw.identities.append (lookup_eq_none_iff.mp hn)).filter _
  members := hw.members.update_of_key fun _ => rfl
  connections := keyed_move ConnectionRow.controllerId _ o hw.connections hconn (fun _ => rfl)
    (by simp only [ConnectionRow.key]; grind) (by simp only [ConnectionRow.key]; grind)
  locations := keyed_move LocationRow.controllerId _ o hw.locations hloc (fun _ => rfl)
    (by simp only [LocationRow.key]; grind) (by simp only [LocationRow.key]; grind)
  evidence := keyed_move EvidenceRow.controllerId _ o hw.evidence hev (fun _ => rfl)
    (by simp only [EvidenceRow.key]; grind) (by simp only [EvidenceRow.key]; grind)
  physical := hw.physical
  aliases := hw.aliases

/-- A promotion goes through where the key it leads to is free. -/
theorem promoteIdentity_ok {env : Env} {device : DiscoveredDevice} {owner : IdentityRow} {now : Nat}
    (ho : db.identity? owner.controllerId = some owner)
    (hn : db.identity? (identityKey env device) = none)
    (hw : WellFormed (db.promoted
      (observedIdentity env device owner.canonicalDeviceId owner.firstSeen now) owner.controllerId)) :
    promoteIdentity env device owner now db =
      .ok (db.promoted (observedIdentity env device owner.canonicalDeviceId owner.firstSeen now)
        owner.controllerId) := by
  have hins : insertIdentity
      (observedIdentity env device owner.canonicalDeviceId owner.firstSeen now) db = .ok _ :=
    insertIdentity_spec hn
  have hc := updateUnique_of_keyed (RegistryError.unique .controllerConnections)
    hw.connections
  have hl := updateUnique_of_keyed (RegistryError.unique .controllerConnectionLocations)
    hw.locations
  have he := updateUnique_of_keyed (RegistryError.unique .controllerIdentityEvidence)
    hw.evidence
  simp only [observedIdentity] at hc hl he
  simp only [promoteIdentity, ho, hins, Loop.ok_bind, identityKey, hc, hl, he, Loop.pure_eq_ok]
  rfl

/-- A promotion is the graph's promotion. -/
theorem graph_promoted {row : IdentityRow} {o : String} (hn : db.identity? row.controllerId = none)
    (ho : db.graph.canonical o = some row.canonicalDeviceId) :
    (db.promoted row o).graph = db.graph.promote o row.controllerId := by
  have hins : (fun a => (lookup IdentityRow.controllerId a (db.identities ++ [row])).map
      IdentityRow.canonicalDeviceId) =
      Function.update db.graph.canonical row.controllerId (some row.canonicalDeviceId) :=
    lookup_append_map (lookup_eq_none_iff.mp hn)
  ext1
  case canonical =>
    funext a
    simp only [Db.graph, Db.promoted, IdentityGraph.promote, lookup_delete]
    by_cases ha : a = o
    · simp [ha]
    · have happ := congrFun hins a
      simp only [Db.graph] at happ ho
      simp [ha, happ, ho, Function.update_apply]
  case member =>
    funext d
    simp only [Db.graph, Db.promoted, IdentityGraph.promote]
    rw [lookup_update (by intro m; rfl), Option.map_map, Option.map_map]
    congr 1
    funext m
    by_cases hm : m.controllerId = o <;> simp [hm]
  case connected =>
    funext b k
    simp only [Db.graph, Db.promoted, IdentityGraph.promote, eq_iff_iff]
    constructor
    · rintro ⟨c, hc, hk⟩
      obtain ⟨c₀, hc₀, ⟨hp, rfl⟩ | ⟨hp, rfl⟩⟩ := mem_update.mp hc
      · left
        simp only [ConnectionRow.key, Prod.mk.injEq, decide_eq_true_eq] at hk hp
        exact ⟨hk.1.symm, c₀, hc₀, by simp [ConnectionRow.key, hp, hk.2]⟩
      · right
        simp only [ConnectionRow.key, Prod.mk.injEq, decide_eq_false_iff_not] at hk hp
        exact ⟨hk.1 ▸ hp, c, hc₀, by simp [ConnectionRow.key, hk]⟩
    · rintro (⟨rfl, c, hc, hk⟩ | ⟨hb, c, hc, hk⟩)
      · simp only [ConnectionRow.key, Prod.mk.injEq] at hk
        refine ⟨_, mem_update.mpr ⟨c, hc, .inl ⟨by simp [hk.1], rfl⟩⟩, ?_⟩
        simp [ConnectionRow.key, hk.2]
      · simp only [ConnectionRow.key, Prod.mk.injEq] at hk
        refine ⟨c, mem_update.mpr ⟨c, hc, .inr ⟨?_, rfl⟩⟩, by simp [ConnectionRow.key, hk]⟩
        simpa [hk.1] using hb
  all_goals rfl

end Transitions

/-! ## synchronisation -/

/-- What a synchronisation does not write. -/
structure Db.SameInventory (db db' : Db) : Prop where
  devices : db'.devices = db.devices
  identities : db'.identities = db.identities
  members : db'.members = db.members
  connections : db'.connections = db.connections
  locations : db'.locations = db.locations
  evidence : db'.evidence = db.evidence

instance : Std.Refl Db.SameInventory := ⟨fun _ => ⟨rfl, rfl, rfl, rfl, rfl, rfl⟩⟩

instance : IsTrans Db Db.SameInventory where
  trans _ _ _ h h' := ⟨h'.devices.trans h.devices, h'.identities.trans h.identities,
    h'.members.trans h.members, h'.connections.trans h.connections,
    h'.locations.trans h.locations, h'.evidence.trans h.evidence⟩

/-- Every uid in use is one of the uuids drawn so far. -/
def UidsDrawn (env : Env) (db : Db) : Prop :=
  ∀ {u d}, db.graph.physical u = some d → ∃ n < db.uidsDrawn, u = newUid env n

/-- `uuid4` never repeats. -/
def Env.FreshUuids (env : Env) : Prop := Function.Injective env.uuid4

/-- Fresh uids are not drawn twice. -/
theorem newUid_injective {env : Env} (h : env.FreshUuids) : Function.Injective (newUid env) := by
  intro m n hmn
  have huuid : env.uuid4 m = env.uuid4 n := by
    simpa [newUid, ← String.toList_inj] using hmn
  exact h huuid

/-- A uid not drawn yet is nobody's. -/
theorem UidsDrawn.fresh {env : Env} {db : Db} (h : UidsDrawn env db) (hf : env.FreshUuids) :
    db.graph.physical (newUid env db.uidsDrawn) = none := by
  cases hp : db.graph.physical (newUid env db.uidsDrawn) with
  | none => rfl
  | some d =>
      obtain ⟨n, hn, hu⟩ := h hp
      have heq : db.uidsDrawn = n := newUid_injective hf hu
      omega

/-- The device a uid is on, looked up the other way round. -/
theorem physicalOf?_spec {db : Db} (hw : WellFormed db) (d : String) :
    (∃ p, db.physicalOf? d = some p ∧ db.graph.physical p.controllerUid = some d) ∨
      (db.physicalOf? d = none ∧ ∀ u, db.graph.physical u ≠ some d) := by
  cases hp : db.physicalOf? d with
  | some p =>
      left
      obtain ⟨hmem, hd⟩ := mem_of_lookup hp
      exact ⟨p, rfl, by simp only [Db.graph, lookup_of_mem hw.physical hmem, Option.map_some, hd]⟩
  | none =>
      right
      refine ⟨rfl, fun u hu => ?_⟩
      simp only [Db.graph, Option.map_eq_some_iff] at hu
      obtain ⟨q, hq, hqd⟩ := hu
      exact lookup_eq_none_iff.mp hp q (mem_of_lookup hq).1 hqd

/-- The uid chosen for an identity is assignable, and drawn. -/
theorem chooseUid_spec {env : Env} {db : Db} (hw : WellFormed db) (hdrawn : UidsDrawn env db)
    (hf : env.FreshUuids) {r : IdentityRow} (hr : r ∈ db.identities) :
    ∃ u n, chooseUid env r db = ({ db with uidsDrawn := n }, u) ∧ db.uidsDrawn ≤ n ∧
      db.graph.Assignable r.controllerId u ∧
      ((∃ d, db.graph.uidOf r.controllerId = some u ∨ db.graph.physical u = some d) ∨
        ∃ m < n, u = newUid env m) := by
  have hcan := hw.canonical hr
  have huid : db.graph.uidOf r.controllerId =
      (db.alias? r.controllerId).map AliasRow.controllerUid := rfl
  cases ha : db.alias? r.controllerId with
  | some found =>
      have hau : db.graph.uidOf r.controllerId = some found.controllerUid := by
        rw [huid, ha, Option.map_some]
      exact ⟨found.controllerUid, db.uidsDrawn, by simp only [chooseUid, ha], le_refl _, .inl hau,
        .inl ⟨"", .inl hau⟩⟩
  | none =>
      have hau : db.graph.uidOf r.controllerId = none := by rw [huid, ha, Option.map_none]
      rcases physicalOf?_spec hw r.canonicalDeviceId with ⟨p, hp, hpd⟩ | ⟨hp, hnone⟩
      · exact ⟨p.controllerUid, db.uidsDrawn, by simp only [chooseUid, ha, hp], le_refl _,
          .inr (.inl ⟨hau, hpd.trans hcan.symm⟩), .inl ⟨_, .inr hpd⟩⟩
      · have hfresh := hdrawn.fresh hf
        exact ⟨newUid env db.uidsDrawn, db.uidsDrawn + 1, by simp only [chooseUid, ha, hp],
          by omega, .inr (.inr ⟨hau, hfresh, fun v => hcan ▸ hnone v⟩),
          .inr ⟨db.uidsDrawn, by omega, rfl⟩⟩

/-- The tables after a uid was given to an identity. -/
def Db.assigned (db : Db) (drawn : Nat) (u : String) (r : IdentityRow) : Db :=
  upsertAlias u r
    { db with uidsDrawn := drawn, physical := upsertPhysicalRow u r db.physical }

/-- A uid is assigned to its identity, and in the graph as well. -/
theorem graph_assigned {db : Db} (hw : WellFormed db) {r : IdentityRow} (hr : r ∈ db.identities)
    (drawn : Nat) (u : String) :
    (db.assigned drawn u r).graph = db.graph.assign r.controllerId u := by
  ext1
  case uidOf =>
    simp only [Db.assigned, Db.graph, upsertAlias, IdentityGraph.assign]
    refine (lookup_upsert_map (by intro a _; rfl) rfl (by intro a _; rfl)).trans ?_
    congr 1
    funext a
    exact lookup_update_map (by intro a; rfl) (by intro a; rfl)
  case physical =>
    simp only [Db.assigned, Db.graph, upsertAlias, upsertPhysicalRow, IdentityGraph.assign]
    have hcan := hw.canonical hr
    simp only [Db.graph] at hcan
    rw [hcan]
    exact lookup_upsert_map (by intro p hp; exact hp) rfl (by intro p hp; rfl)
  case current =>
    simp only [Db.assigned, Db.graph, upsertAlias, upsertPhysicalRow, IdentityGraph.assign]
    exact lookup_upsert_map (by intro p hp; exact hp) rfl (by intro p hp; rfl)
  all_goals rfl

/-- Assigning one keeps the tables well formed. -/
theorem WellFormed.assigned {db : Db} (hw : WellFormed db) (drawn : Nat) (u : String)
    (r : IdentityRow) : WellFormed (db.assigned drawn u r) where
  identities := hw.identities
  members := hw.members
  connections := hw.connections
  locations := hw.locations
  evidence := hw.evidence
  physical := by
    simp only [Db.assigned, upsertAlias, upsertPhysicalRow]
    exact hw.physical.upsert (by intro p hp; exact hp)
  aliases := by
    simp only [Db.assigned, upsertAlias]
    exact (hw.aliases.update_of_key (by intro a; rfl)).upsert (by intro a _; rfl)

theorem sameInventory_assigned (db : Db) (drawn : Nat) (u : String) (r : IdentityRow) :
    db.SameInventory (db.assigned drawn u r) := ⟨rfl, rfl, rfl, rfl, rfl, rfl⟩

/-- What a synchronisation keeps and relies on. -/
structure SyncInv (env : Env) (db : Db) : Prop where
  wellFormed : WellFormed db
  coherent : db.graph.Coherent
  drawn : UidsDrawn env db
  device : ∀ r ∈ db.identities, ∃ d ∈ db.devices, d.id = r.canonicalDeviceId

/-- One identity of the pass: no constraint is met, and the graph assigns. -/
theorem syncIdentity_spec {env : Env} {db : Db} (hi : SyncInv env db) (hf : env.FreshUuids)
    {r : IdentityRow} (hr : r ∈ db.identities) :
    ∃ db' u, syncIdentity env db r = .ok db' ∧ db.graph.Assignable r.controllerId u ∧
      db'.graph = db.graph.assign r.controllerId u ∧ SyncInv env db' ∧ db.SameInventory db' := by
  obtain ⟨u, n, hchoose, hn, hassign, hdrawn⟩ := chooseUid_spec hi.wellFormed hi.drawn hf hr
  have hcan := hi.wellFormed.canonical hr
  have hgraph := graph_assigned hi.wellFormed hr n u
  have hcoh : (db.assigned n u r).graph.Coherent := hgraph ▸ hi.coherent.assign hcan hassign
  have hw' := hi.wellFormed.assigned n u r
  have hkeyed : Keyed PhysicalRow.canonicalDeviceId (upsertPhysicalRow u r db.physical) :=
    hw'.physicalCanonical hcoh
  have hdev : db.devices.any (fun d => d.id = r.canonicalDeviceId) = true := by
    obtain ⟨d, hd, hid⟩ := hi.device r hr
    exact List.any_eq_true.mpr ⟨d, hd, by simpa using hid⟩
  have hok : syncIdentity env db r = .ok (db.assigned n u r) := by
    simp only [syncIdentity, hchoose, upsertPhysical, hkeyed, hdev, not_true_eq_false, if_false,
      Loop.ok_bind, Loop.pure_eq_ok, Db.assigned]
  refine ⟨_, u, hok, hassign, hgraph, ⟨hw', hcoh, ?_, hi.device⟩,
    sameInventory_assigned db n u r⟩
  intro v d hv
  rw [hgraph] at hv
  show ∃ m < n, v = newUid env m
  by_cases hvu : v = u
  · rcases hdrawn with ⟨d', h | h⟩ | h
    · obtain ⟨e, he⟩ := hi.coherent.uid_physical h
      obtain ⟨m, hm, hvm⟩ := hi.drawn he
      exact ⟨m, by omega, hvu.trans hvm⟩
    · obtain ⟨m, hm, hvm⟩ := hi.drawn h
      exact ⟨m, by omega, hvu.trans hvm⟩
    · exact hvu ▸ h
  · have hold : db.graph.physical v = some d := by
      simpa [IdentityGraph.assign, hvu] using hv
    obtain ⟨m, hm, hvm⟩ := hi.drawn hold
    exact ⟨m, by omega, hvm⟩

/-- The identities in the order a pass visits them. -/
def Db.syncOrder (db : Db) : List String :=
  (db.identities.insertionSort syncBefore).map IdentityRow.controllerId

/-- **A synchronisation pass never fails**, and it is a pass of the graph
over all identities. -/
theorem syncCurrentIdentities_spec {env : Env} {db : Db} (hi : SyncInv env db)
    (hf : env.FreshUuids) :
    ∃ db', syncCurrentIdentities env db = .ok db' ∧
      IdentityGraph.Syncs db.syncOrder db.graph db'.graph ∧ SyncInv env db' ∧
      db.SameInventory db' := by
  have hnil : IdentityGraph.Syncs (([] : List IdentityRow).map IdentityRow.controllerId) db.graph
      db.graph := .nil db.graph
  refine Loop.foldlM_ok (fun done db' => IdentityGraph.Syncs (done.map IdentityRow.controllerId)
    db.graph db'.graph ∧ SyncInv env db' ∧ db.SameInventory db') _
    ⟨hnil, hi, refl_of Db.SameInventory db⟩ ?_
  rintro done r rest db₁ hsplit ⟨hsync, hi₁, hsame⟩
  have hr : r ∈ db₁.identities := by
    rw [hsame.identities, ← List.mem_insertionSort syncBefore, hsplit]
    simp
  obtain ⟨db₂, u, hok, hassign, hgraph, hi₂, hsame₂⟩ := syncIdentity_spec hi₁ hf hr
  refine ⟨db₂, hok, ?_, hi₂, trans_of Db.SameInventory hsame hsame₂⟩
  rw [List.map_append, List.map_cons, List.map_nil, hgraph]
  exact hsync.snoc u (hi₁.wellFormed.canonical hr) hassign

instance : Std.Total syncBefore where
  total a b := by
    have hkey := String.le_total a.controllerId b.controllerId
    simp only [syncBefore]
    grind

instance : IsTrans IdentityRow syncBefore where
  trans a b c hab hbc := by
    simp only [syncBefore] at *
    rcases hab with hab | ⟨hab, hkab⟩
    · left
      rcases hbc with hbc | ⟨hbc, -⟩ <;> omega
    · rcases hbc with hbc | ⟨hbc, hkbc⟩
      · left
        omega
      · exact .inr ⟨hab.trans hbc, String.le_trans hkab hkbc⟩

/-- The order in which identities are synchronised has no ties. -/
theorem syncBefore_antisymm {a b : IdentityRow} (hab : syncBefore a b) (hba : syncBefore b a) :
    a.controllerId = b.controllerId := by
  simp only [syncBefore] at hab hba
  rcases hab with hab | ⟨hab, hkab⟩
  · rcases hba with hba | ⟨hba, -⟩ <;> omega
  · rcases hba with hba | ⟨-, hkba⟩
    · omega
    · exact String.le_antisymm hkab hkba

/-- When an identity is visited, those that sort before it have been. -/
theorem syncOrder_split {db : Db} (hw : WellFormed db) {r : IdentityRow} (hr : r ∈ db.identities) :
    ∃ as bs, db.syncOrder = as ++ r.controllerId :: bs ∧ r.controllerId ∉ as ∧
      ∀ s ∈ db.identities, syncBefore s r → s.controllerId ≠ r.controllerId →
        s.controllerId ∈ as := by
  have hperm := List.perm_insertionSort syncBefore db.identities
  obtain ⟨xs, ys, hsplit⟩ := List.append_of_mem (hperm.mem_iff.mpr hr)
  have hsorted := List.pairwise_insertionSort syncBefore db.identities
  have hkeyed : (db.identities.insertionSort syncBefore |>.map IdentityRow.controllerId).Nodup :=
    (hperm.map IdentityRow.controllerId).nodup_iff.mpr hw.identities
  rw [hsplit] at hsorted hkeyed
  refine ⟨xs.map IdentityRow.controllerId, ys.map IdentityRow.controllerId, ?_, ?_, ?_⟩
  · rw [Db.syncOrder, hsplit, List.map_append, List.map_cons]
  · rw [List.map_append, List.map_cons, List.nodup_append] at hkeyed
    intro hmem
    exact hkeyed.2.2 _ hmem _ List.mem_cons_self rfl
  · intro s hs hsr hne
    have hmem : s ∈ xs ++ r :: ys := hsplit ▸ hperm.mem_iff.mpr hs
    rcases List.mem_append.mp hmem with hmem | hmem
    · exact List.mem_map_of_mem hmem
    · rcases List.mem_cons.mp hmem with rfl | hmem
      · exact absurd rfl hne
      · have hrs : syncBefore r s :=
          List.rel_of_pairwise_cons (List.pairwise_append.mp hsorted).2.1 hmem
        exact absurd (syncBefore_antisymm hsr hrs) hne

/-- Every identity is in it. -/
theorem mem_syncOrder {db : Db} {a d : String} (h : db.graph.canonical a = some d) :
    a ∈ db.syncOrder := by
  obtain ⟨r, hr, hid, -, -⟩ := exists_identity h
  exact List.mem_map.mpr ⟨r, (List.mem_insertionSort syncBefore).mpr hr, hid⟩

end MorningstarModbus
