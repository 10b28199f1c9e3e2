import MorningstarModbus.Controllers.HistoryScope

/-!
# MorningstarModbus.Controllers.Presence

The active connections after `reconcile_presence`: exactly the reconciled ones,
as long as no uid has two identities, which is so until an observation brings
back the key of a promoted placeholder.

* `Db.Revives` — such an observation;
* `observeAll_reaches` — every observation of a run stays connected to its uid;
* `Db.Present` — the active connections are the given ones;
* `reconcilePresence_present`, `recordSuccess_present` — the calls that
  establish and keep it.
-/

namespace MorningstarModbus

open Table

/-! ## one identity per uid -/

/-- An observation brings back a key: it has an alias but no identity, and
nobody was seen at the endpoint. -/
def Db.Revives (env : Env) (db : Db) (device : DiscoveredDevice) : Prop :=
  db.identity? (identityKey env device) = none ∧
    db.endpointOwner? device.endpoint.stableKey = none ∧
    (db.alias? (identityKey env device)).isSome

instance (env : Env) (db : Db) (device : DiscoveredDevice) : Decidable (db.Revives env device) := by
  unfold Db.Revives
  infer_instance

/-- No observation of a run brings back a key. -/
def NoRevival (env : Env) : Db → List (Nat × DiscoveredDevice) → Prop
  | _, [] => True
  | db, o :: rest => ¬ db.Revives env o.2 ∧ ∀ db' out,
      registerObservation env o.1 o.2 db = .ok (db', out) → NoRevival env db' rest

section Exclusive

variable {env : Env} {D : Set DiscoveredDevice} {E : Set Endpoint} {db db' : Db} {now : Nat}
  {device : DiscoveredDevice} {uid deviceId : String}

theorem Good.exclusive_inventory (h : Good env D E db) (he : db.graph.Exclusive) (now : Nat) :
    (initializeInventory env now db).graph.Exclusive ∧
      db.graph.Carries (initializeInventory env now db).graph := by
  rcases h with hl | hi
  · exact ⟨fun b c u hb => absurd hb (hl.not_claims_bootstrap env now b u), hl.carries _⟩
  · rw [hi.initializeInventory_eq now]
    exact ⟨he, refl_of _ _⟩

/-- A key that is not brought back gets its first uid. -/
theorem Observation.uidOf_new (o : Observation env D now device db db' uid deviceId)
    (h : Good env D E db) (hno : ¬ db.Revives env device)
    (hn : o.start.identity? (identityKey env device) = none)
    (howner : o.start.endpointOwner? device.endpoint.stableKey = none) :
    o.start.graph.uidOf (identityKey env device) = none := by
  have hnot : identityKey env device ∉ (initializeInventory env now db).syncOrder := by
    intro hmem
    obtain ⟨r, hr, hrk⟩ := List.mem_map.mp hmem
    rw [Db.identity?, o.start_same.identities] at hn
    exact lookup_eq_none_iff.mp hn r ((List.mem_insertionSort syncBefore).mp hr) hrk
  rw [o.start_sync.uidOf_of_notMem hnot]
  rcases h with hl | hi
  · obtain ⟨seen, -, hg⟩ := hl.grouped env now
    have hempty : db.identities.isEmpty = true := by rw [hl.identities]; rfl
    rw [initializeInventory, if_pos hempty]
    simp [Db.graph, hg.aliases, lookup]
  · have hsame := o.start_same
    rw [hi.initializeInventory_eq now] at hsame ⊢
    have hn' : db.identity? (identityKey env device) = none := by
      rw [Db.identity?, ← hsame.identities]
      exact hn
    have howner' : db.endpointOwner? device.endpoint.stableKey = none := by
      simpa only [Db.endpointOwner?, Db.identity?, hsame.connections, hsame.identities] using howner
    have halias : db.graph.uidOf (identityKey env device) =
        (db.alias? (identityKey env device)).map AliasRow.controllerUid := rfl
    rw [halias, Option.map_eq_none_iff, ← Option.not_isSome_iff_eq_none]
    exact fun hsome => hno ⟨hn', howner', hsome⟩

/-- **An observation that brings no key back** keeps one identity per uid, and
ends connected to its uid. -/
theorem Observation.exclusive (o : Observation env D now device db db' uid deviceId)
    (h : Good env D E db) (he : db.graph.Exclusive) (hno : ¬ db.Revives env device) :
    db'.graph.Exclusive ∧ db.graph.Carries db'.graph ∧
      db'.graph.Reaches uid device.endpoint.stableKey := by
  obtain ⟨he₀, hc₀⟩ := h.exclusive_inventory he now
  obtain ⟨he₁, hc₁⟩ := o.start_sync.exclusive (h.inventory now).coherent he₀
  have hnew : o.start.identity? (identityKey env device) = none →
      (device.serial ≠ "" ∨ o.start.endpointOwner? device.endpoint.stableKey = none) →
        o.start.graph.uidOf (identityKey env device) = none := by
    intro hn hs
    by_cases hser : device.serial = ""
    · exact o.uidOf_new h hno hn (hs.resolve_left (not_not_intro hser))
    · exact o.start_inv.uidOf_eq_none (isSerialKey_identityKey.mpr hser) (canonical_eq_none.mpr hn)
  obtain ⟨he₂, hc₂⟩ := exclusive_observed he₁ o.start_inv o.start_synced o.attributed hnew
  obtain ⟨he₃, hc₃⟩ := o.first_sync.exclusive o.recorded_inv.coherent he₂
  obtain ⟨he₄, hc₄⟩ := o.second_sync.exclusive o.synced_inv.coherent he₃
  refine ⟨he₄, trans_of IdentityGraph.Carries (trans_of IdentityGraph.Carries
    (trans_of IdentityGraph.Carries (trans_of IdentityGraph.Carries hc₀ hc₁) hc₂) hc₃) hc₄, ?_⟩
  have hconn : db'.graph.connected o.attribution.controllerId device.endpoint.stableKey := by
    rw [o.second_sync.frame.2.2, o.first_sync.frame.2.2, graph_recordObservation]
    exact .inl ⟨rfl, rfl⟩
  have hcan := o.final_inv.coherent.connected_identity hconn
  exact ⟨o.attribution.controllerId, ⟨hcan, .inl o.uid_eq⟩, hconn⟩

/-- **A run of observations** that brings no key back: it succeeds, and every
observation is still connected to its uid at the end. -/
theorem observeAll_reaches (hf : env.FreshUuids) (hcol : NoCollision env D)
    {observations : List (Nat × DiscoveredDevice)} (h : Good env D E db) (he : db.graph.Exclusive)
    (hD : ∀ o ∈ observations, o.2 ∈ D) (hno : NoRevival env db observations) :
    ∃ db' out, observeAll env db observations = .ok (db', out) ∧ db'.graph.Exclusive ∧
      out.length = observations.length ∧
      (∀ p ∈ observations.zip out, db'.graph.Reaches p.2.1 p.1.2.endpoint.stableKey) ∧
      (observations = [] ∨ Ready env D db') := by
  obtain ⟨db', out, hok, hI, hlen, hreach, -, hready⟩ := observeAll_ok
    (fun db rest => db.graph.Exclusive ∧ NoRevival env db rest)
    (fun db d r => db.graph.Reaches r.1 d.endpoint.stableKey) hf hcol h hD ⟨he, hno⟩
    (by
      rintro now device rest db db' uid deviceId hd hgood hok o ⟨he, hno⟩
      obtain ⟨he', hcarries, hreach⟩ := o.exclusive hgood he hno.1
      exact ⟨⟨he', hno.2 db' _ hok⟩, hreach, fun d r => hcarries.reaches⟩)
  exact ⟨db', out, hok, hI.1, hlen, hreach, hready⟩

end Exclusive

/-! ## synchronised states -/

section Ready

variable {env : Env} {D : Set DiscoveredDevice} {db db' : Db}

/-- The registry between two calls, with one identity per uid. -/
structure Steady (env : Env) (D : Set DiscoveredDevice) (db : Db) : Prop extends
  Ready env D db where
  exclusive : db.graph.Exclusive

/-- What a synchronisation of a steady registry leaves as it is. -/
structure SameUids (db db' : Db) : Prop where
  uidOf : db'.graph.uidOf = db.graph.uidOf
  canonical : db'.graph.canonical = db.graph.canonical
  connections : db'.connections = db.connections

instance : Std.Refl SameUids := ⟨fun _ => ⟨rfl, rfl, rfl⟩⟩

instance : IsTrans Db SameUids where
  trans _ _ _ h h' := ⟨h'.uidOf.trans h.uidOf, h'.canonical.trans h.canonical,
    h'.connections.trans h.connections⟩

/-- **A synchronisation of a steady registry** gives no uid away. -/
theorem Steady.synchronize (h : Steady env D db) (hf : env.FreshUuids) :
    ∃ db', syncCurrentIdentities env db = .ok db' ∧ Steady env D db' ∧ SameUids db db' := by
  obtain ⟨db', hok, hi, hs, hsyncs, hsame⟩ := h.inv.synchronize hf
  have hall : ∀ a ∈ db.syncOrder, ∃ u, db.graph.uidOf a = some u := by
    intro a ha
    obtain ⟨r, hr, rfl⟩ := List.mem_map.mp ha
    exact h.synced.uidOf (h.inv.wellFormed.canonical ((List.mem_insertionSort syncBefore).mp hr))
  obtain ⟨hexcl, -⟩ := hsyncs.exclusive h.inv.coherent h.exclusive
  exact ⟨db', hok, ⟨⟨hi, hs⟩, hexcl⟩, (hsyncs.stable h.inv.coherent hall).1, hsyncs.frame.1,
    hsame.connections⟩

/-- An identity that was seen somewhere is the one identity of its uid. -/
theorem Steady.eq_of_uidOf (h : Steady env D db) {a b k j u : String}
    (ha : db.graph.connected a k) (hb : db.graph.connected b j) (hau : db.graph.uidOf a = some u)
    (hbu : db.graph.uidOf b = some u) : a = b :=
  h.exclusive a b u ⟨h.inv.coherent.connected_identity ha, .inl hau⟩
    ⟨h.inv.coherent.connected_identity hb, .inl hbu⟩

/-- In a synchronised state a claim is an assigned uid. -/
theorem Ready.reaches_iff (h : Ready env D db) {u k : String} :
    db.graph.Reaches u k ↔ ∃ a, db.graph.uidOf a = some u ∧ db.graph.connected a k := by
  constructor
  · rintro ⟨a, ⟨⟨d, hd⟩, hau⟩, hconn⟩
    obtain ⟨v, hv⟩ := h.synced.uidOf hd
    rcases hau with hau | ⟨hnone, -⟩
    · exact ⟨a, hau, hconn⟩
    · simp [hv] at hnone
  · rintro ⟨a, hau, hconn⟩
    exact ⟨a, ⟨h.inv.coherent.connected_identity hconn, .inl hau⟩, hconn⟩

theorem SameUids.connected (h : SameUids db db') : db'.graph.connected = db.graph.connected := by
  funext a k
  simp only [Db.graph, h.connections]

theorem SameUids.reaches (h : SameUids db db') (hr : Ready env D db) (hr' : Ready env D db')
    {u k : String} (hk : db.graph.Reaches u k) : db'.graph.Reaches u k := by
  rw [hr'.reaches_iff, h.uidOf, h.connected]
  exact hr.reaches_iff.mp hk

/-- A uid that reaches an endpoint resolves to the identity seen there. -/
theorem Steady.scope_of_reaches (h : Steady env D db) {u k : String}
    (hk : db.graph.Reaches u k) : ∃ s, db.scope? u = some s ∧
      db.graph.uidOf s.controllerId = some u ∧ db.graph.connected s.controllerId k := by
  obtain ⟨a, hau, hconn⟩ := h.reaches_iff.mp hk
  obtain ⟨d, hd⟩ := h.inv.coherent.connected_identity hconn
  obtain ⟨e, he⟩ := h.inv.coherent.uid_physical hau
  obtain ⟨b, hcur, hbu, hbe⟩ := h.synced.current he
  have hab : a = b := h.exclusive a b u ⟨⟨d, hd⟩, .inl hau⟩ ⟨⟨e, hbe⟩, .inl hbu⟩
  simp only [Db.graph, Option.map_eq_some_iff] at hcur
  obtain ⟨p, hp, hpb⟩ := hcur
  have hp' : db.physical? u = some p := hp
  refine ⟨db.scopeOf p, ?_, ?_, ?_⟩
  · simp only [Db.scope?, Db.physicalByIdentifier?, hp', Option.map_some]
  · simp only [Db.scopeOf, hpb, hbu]
  · simp only [Db.scopeOf, hpb, ← hab, hconn]

/-- Resolving a uid that reaches an endpoint. -/
theorem Steady.resolve (h : Steady env D db) (hf : env.FreshUuids) {u k : String}
    (hk : db.graph.Reaches u k) : ∃ db' s, resolve env u db = .ok (db', some s) ∧
      Steady env D db' ∧ SameUids db db' ∧ db.graph.uidOf s.controllerId = some u ∧
      db.graph.connected s.controllerId k := by
  obtain ⟨db', hok, h', hsame⟩ := h.synchronize hf
  obtain ⟨s, hs, hsu, hsc⟩ := h'.scope_of_reaches (hsame.reaches h.toReady h'.toReady hk)
  rw [hsame.uidOf] at hsu
  rw [hsame.connected] at hsc
  exact ⟨db', s, by simp only [MorningstarModbus.resolve, hok, hs, Loop.ok_bind, Loop.pure_eq_ok],
    h', hsame, hsu, hsc⟩

/-- Status, activity and times do not matter. -/
theorem Steady.quiet (h : Steady env D db) (hq : Quiet db db') : Steady env D db' where
  inv := h.inv.quiet hq
  synced := hq.graph ▸ h.synced
  exclusive := hq.graph ▸ h.exclusive

end Ready

/-! ## active connections -/

/-- The active connections are those of the pairs of a uid and an endpoint key
in `sel`, each of which is connected. -/
structure Db.Present (db : Db) (sel : List (String × String)) : Prop where
  active : ∀ c ∈ db.connections, c.active = true ↔
    ∃ u, (u, c.endpointKey) ∈ sel ∧ db.graph.uidOf c.controllerId = some u
  reaches : ∀ u k, (u, k) ∈ sel → db.graph.Reaches u k

section Present

variable {env : Env} {D : Set DiscoveredDevice} {E : Set Endpoint} {db db' : Db}
  {sel : List (String × String)}

/-- Presence only depends on the connections and the graph. -/
theorem Db.Present.congr (h : db.Present sel) (hg : db'.graph = db.graph)
    (hc : db'.connections = db.connections) : db'.Present sel where
  active := by
    rw [hc, hg]
    exact h.active
  reaches := by
    rw [hg]
    exact h.reaches

theorem Db.Present.of_sameUids (h : db.Present sel) (hsame : SameUids db db')
    (hr : Ready env D db) (hr' : Ready env D db') : db'.Present sel where
  active := by
    rw [hsame.connections, hsame.uidOf]
    exact h.active
  reaches := fun u k huk => hsame.reaches hr hr' (h.reaches u k huk)

/-- All updates of `reconcile_presence` at once. -/
theorem connections_reconciled (observed : List (String × String)) (rows : List ConnectionRow) :
    observed.foldl (fun rows item =>
      update (fun c => c.controllerId = item.1 ∧ c.endpointKey = item.2)
        (fun c => { c with active := true }) rows)
      (update (fun _ => true) (fun c => { c with active := false }) rows) =
    rows.map fun c => { c with active := decide (c.key ∈ observed) } := by
  refine Loop.foldl_invariant (fun done (rows' : List ConnectionRow) =>
    rows' = rows.map fun c => { c with active := decide (c.key ∈ done) }) observed ?_ ?_
  · simp [update]
  · rintro done item rest rows' - rfl
    rw [update, List.map_map]
    refine List.map_congr_left fun c _ => ?_
    have hkey : (c.controllerId = item.1 ∧ c.endpointKey = item.2) ↔ c.key = item := by
      simp [ConnectionRow.key, Prod.ext_iff]
    by_cases hc : c.key = item
    · simp [hkey, hc]
    · simp [hkey, hc]

/-- A uid at an endpoint, and the identity it stands for. -/
def Translates (db : Db) (p t : String × String) : Prop :=
  t.2 = p.2 ∧ db.graph.uidOf t.1 = some p.1 ∧ db.graph.connected t.1 t.2

/-- The loop that translates uids to their current identities. -/
theorem Steady.translate (h : Steady env D db) (hf : env.FreshUuids)
    (hreach : ∀ p ∈ sel, db.graph.Reaches p.1 p.2) :
    ∃ acc, sel.foldlM (translateObserved env) (db, []) = .ok acc ∧ Steady env D acc.1 ∧
      SameUids db acc.1 ∧ (∀ t ∈ acc.2, ∃ p ∈ sel, Translates db p t) ∧
      ∀ p ∈ sel, ∃ t ∈ acc.2, Translates db p t := by
  refine Loop.foldlM_ok (fun done (acc : Db × List (String × String)) => Steady env D acc.1 ∧
    SameUids db acc.1 ∧ (∀ t ∈ acc.2, ∃ p ∈ done, Translates db p t) ∧
    ∀ p ∈ done, ∃ t ∈ acc.2, Translates db p t) sel ⟨h, refl_of _ _, by simp, by simp⟩ ?_
  rintro done p rest acc hsplit ⟨hs, hsame, hsound, hcomplete⟩
  have hp := hreach p (by simp [hsplit])
  obtain ⟨db', s, hok, hs', hsame', hsu, hsc⟩ :=
    hs.resolve hf (hsame.reaches h.toReady hs.toReady hp)
  rw [hsame.uidOf] at hsu
  rw [hsame.connected] at hsc
  have ht : Translates db p (s.controllerId, p.2) := ⟨rfl, hsu, hsc⟩
  refine ⟨(db', acc.2 ++ [(s.controllerId, p.2)]), by simp [translateObserved, hok], hs',
    trans_of SameUids hsame hsame', ?_, ?_⟩
  · intro t htmem
    rcases List.mem_append.mp htmem with htmem | htmem
    · obtain ⟨q, hq, htq⟩ := hsound t htmem
      exact ⟨q, List.mem_append_left _ hq, htq⟩
    · rw [List.mem_singleton] at htmem
      subst htmem
      exact ⟨p, List.mem_append_right _ (List.mem_singleton_self p), ht⟩
  · intro q hq
    rcases List.mem_append.mp hq with hq | hq
    · obtain ⟨t, htmem, htq⟩ := hcomplete q hq
      exact ⟨t, List.mem_append_left _ htmem, htq⟩
    · rw [List.mem_singleton] at hq
      subst hq
      exact ⟨_, List.mem_append_right _ (List.mem_singleton_self _), ht⟩

/-- **Presence after a reconciliation**: the active connections are the
reconciled ones. -/
theorem reconcilePresence_present (h : Steady env D db) (hf : env.FreshUuids) (now : Nat)
    (hreach : ∀ p ∈ sel, db.graph.Reaches p.1 p.2) :
    ∃ db', reconcilePresence env now sel db = .ok db' ∧ Steady env D db' ∧ db'.Present sel := by
  obtain ⟨⟨db₁, translated⟩, hok, hs, hsame, hsound, hcomplete⟩ := h.translate hf hreach
  have hquiet := hs.inv.quiet_reconcile now translated
  have hs' := hs.quiet hquiet
  refine ⟨reconcileInventoryPresence env now translated db₁, ?_, hs', ?_⟩
  · simp only [reconcilePresence, hok, Loop.ok_bind, Loop.pure_eq_ok]
  have hrows : (reconcileInventoryPresence env now translated db₁).connections =
      db₁.connections.map fun c => { c with active := decide (c.key ∈ translated) } := by
    rw [reconcileInventoryPresence, hs.inv.initializeInventory_eq now]
    exact connections_reconciled translated db₁.connections
  constructor
  case active =>
    rw [hrows, hquiet.graph, hsame.uidOf, hsame.connections]
    intro c hc
    obtain ⟨old, hold, rfl⟩ := List.mem_map.mp hc
    show decide (old.key ∈ translated) = true ↔
      ∃ u, (u, old.endpointKey) ∈ sel ∧ db.graph.uidOf old.controllerId = some u
    rw [decide_eq_true_eq]
    constructor
    · intro hmem
      obtain ⟨p, hp, hkey, hu, -⟩ := hsound old.key hmem
      have hpk : p = (p.1, old.endpointKey) := Prod.ext rfl hkey.symm
      exact ⟨p.1, hpk ▸ hp, hu⟩
    · rintro ⟨u, hu, huid⟩
      obtain ⟨t, ht, hkey, htu, htc⟩ := hcomplete (u, old.endpointKey) hu
      have hconn : db.graph.connected old.controllerId old.endpointKey := ⟨old, hold, rfl⟩
      have heq : t.1 = old.controllerId := h.eq_of_uidOf htc hconn htu huid
      have htk : t = old.key := Prod.ext heq hkey
      exact htk ▸ ht
  case reaches =>
    intro u k huk
    rw [hquiet.graph]
    exact hsame.reaches h.toReady hs.toReady (hreach (u, k) huk)

/-- With nothing to reconcile no connection is active. -/
theorem reconcilePresence_nil (h : Good env D E db) (now : Nat) :
    ∃ db', reconcilePresence env now [] db = .ok db' ∧ Inv env D db' ∧
      db'.graph = (initializeInventory env now db).graph ∧ db'.Present [] := by
  have hi := h.inventory now
  have hquiet := hi.quiet_reconcile now []
  have hrows : (reconcileInventoryPresence env now [] db).connections =
      (initializeInventory env now db).connections.map fun c =>
        { c with active := decide (c.key ∈ ([] : List (String × String))) } :=
    connections_reconciled [] _
  have heq : reconcileInventoryPresence env now [] db =
      reconcileInventoryPresence env now [] (initializeInventory env now db) := by
    simp only [reconcileInventoryPresence, hi.initializeInventory_eq now]
  rw [← heq] at hquiet
  refine ⟨reconcileInventoryPresence env now [] db, rfl, hi.quiet hquiet, hquiet.graph, ?_, ?_⟩
  · rw [hrows]
    intro c hc
    obtain ⟨old, -, rfl⟩ := List.mem_map.mp hc
    simp
  · intro u k huk
    cases huk

/-- **A successful poll** of a present controller keeps the presence. -/
theorem recordSuccess_present (h : Steady env D db) (hf : env.FreshUuids) (now : Nat)
    (hp : db.Present sel) {u k : String} (huk : (u, k) ∈ sel) :
    ∃ db', recordSuccess env now u k db = .ok db' ∧ Steady env D db' ∧ db'.Present sel := by
  obtain ⟨db₁, s, hok, hs, hsame, hsu, hsc⟩ := h.resolve hf (hp.reaches u k huk)
  have hp₁ := hp.of_sameUids hsame h.toReady hs.toReady
  have hq := quiet_recordInventorySuccess now s.controllerId k db₁
  have hs₂ := hs.quiet hq
  obtain ⟨db', hok', hs', hsame'⟩ := hs₂.synchronize hf
  refine ⟨db', by simp only [recordSuccess, hok, hok', Loop.ok_bind], hs', ?_⟩
  refine Db.Present.of_sameUids ⟨?_, ?_⟩ hsame' hs₂.toReady hs'.toReady
  · intro c hc
    rw [hq.graph]
    obtain ⟨old, hold, ⟨hkey, rfl⟩ | ⟨-, rfl⟩⟩ := mem_update.mp hc
    · simp only [Bool.decide_and, Bool.and_eq_true, decide_eq_true_eq] at hkey
      have hactive := (hp₁.active old hold).mpr
        ⟨u, by rw [hkey.2]; exact huk, by rw [hkey.1, hsame.uidOf, hsu]⟩
      exact iff_of_true rfl ((hp₁.active old hold).mp hactive)
    · exact hp₁.active c hold
  · rw [hq.graph]
    exact hp₁.reaches

end Present

end MorningstarModbus
