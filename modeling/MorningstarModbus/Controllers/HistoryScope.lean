import MorningstarModbus.Controllers.Permanence

/-!
# MorningstarModbus.Controllers.HistoryScope

History scopes are disjoint and only grow: the device ids that two uids resolve
to never overlap, and a device id in a uid's history stays there, through
promotions, conflicts and endpoint reuse, as long as every USB adapter reports
one serial number.

* `AdapterConsistent` — that assumption, over the endpoints in use;
* `Scoped` — each uid has one identity, and placeholder keys that were used
  are still known at their endpoint;
* `RegistryStep.scoped` — every step keeps it and moves no device.
-/

namespace MorningstarModbus

open Table

/-! ## placeholder keys -/

/-- The key of a controller without a serial number: its USB adapter, else its
endpoint. -/
def placeholderKey (env : Env) (e : Endpoint) : String :=
  if Text.strip e.usb ≠ "" then
    "usb:" ++ env.lower (Text.strip e.usb) ++ ":unit:" ++ toString e.unitId
  else "endpoint:" ++ e.stableKey

theorem controllerIdentity_of_no_serial {env : Env} {row : DeviceFields} {e : Endpoint}
    (hs : Text.strip row.serialNumber = "") (husb : row.usbSerial = e.usb)
    (hunit : row.unitId = e.unitId) (hkey : row.stableKey = e.stableKey) :
    (controllerIdentity env row).1 = placeholderKey env e := by
  have hs' : ¬ Text.strip row.serialNumber ≠ "" := by simpa using hs
  simp only [controllerIdentity, if_neg hs', husb, hunit, hkey, placeholderKey]
  split <;> rfl

theorem identityKey_of_no_serial {env : Env} {device : DiscoveredDevice} (hs : device.serial = "") :
    identityKey env device = placeholderKey env device.endpoint := by
  rw [← strip_deviceRow] at hs
  exact controllerIdentity_of_no_serial hs rfl rfl rfl

/-- A USB adapter always reports its serial as the same string, and only serial
endpoints have one. -/
structure AdapterConsistent (env : Env) (E : Set Endpoint) : Prop where
  serial : ∀ e ∈ E, Text.strip e.usb ≠ "" → e.transport = .serial
  same : ∀ e ∈ E, ∀ e' ∈ E, Text.strip e.usb ≠ "" → Text.strip e'.usb ≠ "" →
    env.lower (Text.strip e.usb) = env.lower (Text.strip e'.usb) → e.usb = e'.usb

/-- Then a placeholder key belongs to one endpoint key. -/
theorem AdapterConsistent.stableKey_eq {env : Env} {E : Set Endpoint} (h : AdapterConsistent env E)
    {e e' : Endpoint} (he : e ∈ E) (he' : e' ∈ E)
    (hkey : placeholderKey env e = placeholderKey env e') : e.stableKey = e'.stableKey := by
  have hhead : ∀ {x : Endpoint}, (placeholderKey env x).toList.head? =
      if Text.strip x.usb ≠ "" then some 'u' else some 'e' := by
    intro x
    unfold placeholderKey
    split <;> simp
  by_cases hu : Text.strip e.usb = ""
  · have hu' : Text.strip e'.usb = "" := by
      by_contra hne
      have heads := congrArg (fun s => s.toList.head?) hkey
      simp only [hhead, hu, hne, ne_eq, not_true_eq_false, not_false_eq_true, if_true,
        if_false] at heads
      revert heads
      decide
    simp only [placeholderKey, hu, hu', ne_eq, not_true_eq_false, if_false] at hkey
    simpa [← String.toList_inj] using hkey
  · have hu' : Text.strip e'.usb ≠ "" := by
      intro hEq
      have heads := congrArg (fun s => s.toList.head?) hkey
      simp only [hhead, hu, hEq, ne_eq, not_true_eq_false, not_false_eq_true, if_true,
        if_false] at heads
      revert heads
      decide
    simp only [placeholderKey, hu, hu', ne_eq, not_false_eq_true, if_true] at hkey
    -- the unit number has no colon, so the last colon ends the serial number
    have hsplit : ("usb:" ++ env.lower (Text.strip e.usb) ++ ":unit").toList =
          ("usb:" ++ env.lower (Text.strip e'.usb) ++ ":unit").toList ∧
        (toString e.unitId).toList = (toString e'.unitId).toList :=
      Text.split_last (Text.colon_notMem_toString e.unitId) (Text.colon_notMem_toString e'.unitId)
        (by simpa [← String.toList_inj] using hkey)
    have husb : e.usb = e'.usb := h.same e he e' he' hu hu' (by
      simpa [← String.toList_inj] using hsplit.1)
    have hunit : toString e.unitId = toString e'.unitId := String.toList_inj.mp hsplit.2
    have hne : e.usb ≠ "" := by
      intro hEq
      exact hu (by rw [hEq, Text.strip_empty])
    rw [Endpoint.stableKey_usb (h.serial e he hu) hne,
      Endpoint.stableKey_usb (h.serial e' he' hu') (husb ▸ hne), husb, hunit]

/-! ## the scoping invariant -/

/-- Beyond the registry invariant: no uid has two identities, and where a
placeholder key was used its endpoint is known. -/
structure Scoped (env : Env) (E : Set Endpoint) (db : Db) : Prop where
  exclusive : db.graph.Exclusive
  placeholder : ∀ {a}, (∃ u, db.graph.uidOf a = some u) ∨ (∃ c, db.graph.canonical a = some c) →
    ¬ IsSerialKey a → ∀ e ∈ E, placeholderKey env e = a → ∃ b, db.graph.connected b e.stableKey

section Scoped

variable {env : Env} {D : Set DiscoveredDevice} {E : Set Endpoint} {db db' db₁ : Db} {now : Nat}
  {device : DiscoveredDevice} {a : Attribution}

theorem Legacy.scoped (h : Legacy E db) : Scoped env E db where
  exclusive := by
    rintro b c u ⟨⟨d, hd⟩, -⟩ -
    simp [Db.graph, h.identities, lookup] at hd
  placeholder := by
    simp [Db.graph, h.identities, h.aliases, lookup]

theorem Legacy.carries (h : Legacy E db) (g : IdentityGraph String String String String) :
    db.graph.Carries g := by
  rintro b u ⟨⟨d, hd⟩, -⟩
  simp [Db.graph, h.identities, lookup] at hd

/-- Grouping gives no uid. -/
theorem Legacy.not_claims_bootstrap (h : Legacy E db) (env : Env) (now : Nat) (b u : String) :
    ¬ (initializeInventory env now db).graph.Claims b u := by
  obtain ⟨seen, -, hg⟩ := h.grouped env now
  have hempty : db.identities.isEmpty = true := by rw [h.identities]; rfl
  rw [initializeInventory, if_pos hempty]
  rintro ⟨⟨d, hd⟩, hb | ⟨-, hb⟩⟩
  · simp [Db.graph, hg.aliases, lookup] at hb
  · rw [hd] at hb
    simp [Db.graph, hg.physical, lookup] at hb

/-- Then nothing is claimed twice. -/
theorem Legacy.scoped_bootstrap (h : Legacy E db) (had : AdapterConsistent env E) (now : Nat) :
    Scoped env E (initializeInventory env now db) := by
  have hnot := h.not_claims_bootstrap env now
  obtain ⟨seen, hseen, hg⟩ := h.grouped env now
  have hempty : db.identities.isEmpty = true := by rw [h.identities]; rfl
  rw [initializeInventory, if_pos hempty] at hnot ⊢
  constructor
  case exclusive =>
    intro b c u hb
    exact absurd hb (hnot b u)
  case placeholder =>
    rintro k hk hser e he hek
    have hcan : ∃ c, (bootstrapLegacyRows env now db).graph.canonical k = some c := by
      rcases hk with ⟨u, hu⟩ | hc
      · simp [Db.graph, hg.aliases, lookup] at hu
      · exact hc
    obtain ⟨c, hc⟩ := hcan
    obtain ⟨r, hr, hrk, -, -⟩ := exists_identity hc
    obtain ⟨⟨d, hd, -, hdk⟩, -⟩ := hg.identity_sound r hr
    obtain ⟨e₀, he₀, hcol, hdkey⟩ := h.endpoint d hd
    -- the row has no serial number, so its key is the placeholder of its endpoint
    have hno : Text.strip (legacyFields db d).serialNumber = "" := by
      by_contra hne
      have := head_controllerIdentity_of_serial env hne
      exact hser (by rw [← hrk, ← hdk]; exact this)
    have hplace : legacyKey env db d = placeholderKey env e₀ :=
      controllerIdentity_of_no_serial hno (by rw [legacyFields, hcol]; rfl)
        (by rw [legacyFields, hcol]; rfl) (by rw [legacyFields]; exact hdkey)
    have hsame : e.stableKey = e₀.stableKey := had.stableKey_eq he he₀ (by
      rw [hek, ← hplace, hdk, hrk])
    refine ⟨legacyKey env db d, (hg.connected _ _).mpr ⟨d, (hseen d).mpr hd, rfl, ?_⟩⟩
    rw [hcol, stableKey_columns, hsame]

/-- The observation of a key that had a uid finds its endpoint's owner. -/
theorem Scoped.uidOf_introduced (h : Scoped env E db) (hi : Inv env D db)
    (hE : device.endpoint ∈ E) (hn : db.identity? (identityKey env device) = none)
    (hs : device.serial ≠ "" ∨ db.endpointOwner? device.endpoint.stableKey = none) :
    db.graph.uidOf (identityKey env device) = none := by
  have hnone : db.graph.canonical (identityKey env device) = none := canonical_eq_none.mpr hn
  by_cases hser : device.serial = ""
  · have howner := hs.resolve_left (not_not_intro hser)
    cases hu : db.graph.uidOf (identityKey env device) with
    | none => rfl
    | some u =>
        have hnot : ¬ IsSerialKey (identityKey env device) := by
          rw [isSerialKey_identityKey]
          exact not_not_intro hser
        obtain ⟨b, hb⟩ := h.placeholder (.inl ⟨u, hu⟩) hnot device.endpoint hE
          (identityKey_of_no_serial hser).symm
        exact absurd hb (endpointOwner?_none hi.coherent howner b)
  · exact hi.uidOf_eq_none (isSerialKey_identityKey.mpr hser) hnone

/-- **An observation keeps one identity per uid**, unless it brings back the
key of one that is gone, and every claim lives on. -/
theorem exclusive_observed (he : db.graph.Exclusive) (hi : Inv env D db) (hsync : db.graph.Synced)
    (ha : Attributed env now device db a db₁)
    (hnew : db.identity? (identityKey env device) = none →
      (device.serial ≠ "" ∨ db.endpointOwner? device.endpoint.stableKey = none) →
        db.graph.uidOf (identityKey env device) = none) :
    (recordObservation a device now db₁).graph.Exclusive ∧
      db.graph.Carries (recordObservation a device now db₁).graph := by
  have hp := ha.placed hi
  have hgraph := graph_recordObservation db₁ a device now
  -- the graph before the endpoint is connected
  have hmain : (db₁.graph.adopt a.canonicalDeviceId a.controllerId).Exclusive ∧
      db.graph.Carries (db₁.graph.adopt a.canonicalDeviceId a.controllerId) := by
    cases ha with
    | matched hfound hid hdev =>
        have hcan := hp.canonical
        rw [IdentityGraph.adopt_self (hi.coherent.member_canonical hcan)]
        exact ⟨he, refl_of _ _⟩
    | fallback _ howner _ hid hdev =>
        have hcan := hp.canonical
        rw [IdentityGraph.adopt_self (hi.coherent.member_canonical hcan)]
        exact ⟨he, refl_of _ _⟩
    | @promoted owner hn howner hs hos hid hdev =>
        obtain ⟨ho, -⟩ := endpointOwner?_some howner
        have hcano := hi.wellFormed.canonical (mem_of_lookup ho).1
        have hnone : db.graph.canonical (identityKey env device) = none := canonical_eq_none.mpr hn
        have hnu := hnew hn (.inl hs)
        have hg : (db.promoted (observedIdentity env device owner.canonicalDeviceId
            owner.firstSeen now) owner.controllerId).graph =
              db.graph.promote owner.controllerId (identityKey env device) :=
          graph_promoted hn hcano
        have hmem := (hg ▸ hi.coherent.promote hcano hnone hnu).member_canonical hp.canonical
        rw [IdentityGraph.adopt_self hmem, hg]
        exact ⟨he.promote hi.coherent hsync hcano hnone hnu,
          IdentityGraph.carries_promote he hi.coherent hsync hcano hnone hnu⟩
    | introduced hn hid hs hdev hfresh hkey =>
        have hnone : db.graph.canonical (identityKey env device) = none := canonical_eq_none.mpr hn
        have hnu := hnew hn hs
        have hmem := hi.member_eq_none hfresh
        rw [graph_introduced hn, hid]
        exact ⟨he.introduce hi.coherent hnone hmem hnu,
          IdentityGraph.carries_introduce hi.coherent hnone hmem hnu⟩
  rw [hgraph]
  exact ⟨hmain.1, trans_of IdentityGraph.Carries hmain.2 (IdentityGraph.carries_connect _)⟩

/-- **An observation keeps one identity per uid and moves no device.** -/
theorem Scoped.observed (h : Scoped env E db) (hi : Inv env D db) (hsync : db.graph.Synced)
    (hE : device.endpoint ∈ E) (had : AdapterConsistent env E)
    (ha : Attributed env now device db a db₁) :
    Scoped env E (recordObservation a device now db₁) ∧
      db.graph.Carries (recordObservation a device now db₁).graph := by
  have hp := ha.placed hi
  have hgraph := graph_recordObservation db₁ a device now
  obtain ⟨hexcl, hcarries⟩ := exclusive_observed h.exclusive hi hsync ha
    fun hn hs => h.uidOf_introduced hi hE hn hs
  refine ⟨⟨hexcl, ?_⟩, hcarries⟩
  -- a placeholder key is an old one, or the key of this endpoint
  intro k hk hser e he hek
  have hconn : (∃ b, db.graph.connected b e.stableKey) →
      ∃ b, (recordObservation a device now db₁).graph.connected b e.stableKey := by
    intro hb
    obtain ⟨b, hb⟩ := hp.connected.mp hb
    exact ⟨b, by rw [hgraph]; exact .inr hb⟩
  rcases hk with ⟨u, hu⟩ | hc
  · rw [(hp.uids now).1] at hu
    exact hconn (h.placeholder (.inl ⟨u, hu⟩) hser e he hek)
  · have hc₁ : ∃ c, db₁.graph.canonical k = some c := by
      rw [hgraph] at hc
      exact hc
    obtain ⟨r, hr, hrk⟩ := canonical_isSome.mp hc₁
    rcases hp.identities r hr with hold | ⟨hrkey, -, -⟩
    · exact hconn (h.placeholder (.inr (canonical_isSome.mpr ⟨r, hold, hrk⟩)) hser e he hek)
    · have hs : device.serial = "" := by
        by_contra hne
        exact hser (by rw [← hrk, hrkey]; exact isSerialKey_identityKey.mpr hne)
      have hsame : e.stableKey = device.endpoint.stableKey := had.stableKey_eq he hE (by
        rw [hek, ← hrk, hrkey, identityKey_of_no_serial hs])
      exact ⟨a.controllerId, by rw [hgraph]; exact .inl ⟨rfl, hsame⟩⟩

/-- **Every step** keeps one identity per uid and moves no device. -/
theorem RegistryStep.scoped (hstep : RegistryStep env D E db db') (h : Scoped env E db)
    (hD : ∀ d ∈ D, d.endpoint ∈ E) (had : AdapterConsistent env E) :
    Scoped env E db' ∧ db.graph.Carries db'.graph := by
  cases hstep with
  | bootstrap now hl => exact ⟨hl.scoped_bootstrap had now, hl.carries _⟩
  | sync hi hi' _ hsyncs hsame =>
      obtain ⟨hexcl, hcarries⟩ := hsyncs.exclusive hi.coherent h.exclusive
      obtain ⟨hcan, -, hconn⟩ := hsyncs.frame
      refine ⟨⟨hexcl, ?_⟩, hcarries⟩
      intro k hk hser e he hek
      rw [hconn]
      refine h.placeholder ?_ hser e he hek
      rcases hk with ⟨u, hu⟩ | hc
      · by_cases hmem : k ∈ db.syncOrder
        · obtain ⟨r, hr, hrk⟩ := List.mem_map.mp hmem
          exact .inr (canonical_isSome.mpr ⟨r, (List.mem_insertionSort syncBefore).mp hr, hrk⟩)
        · exact .inl ⟨u, by rw [← hsyncs.uidOf_of_notMem hmem, hu]⟩
      · exact .inr (hcan ▸ hc)
  | observe now hd hi hs ha => exact h.observed hi hs (hD _ hd) had ha
  | quiet _ hq =>
      have hg := hq.graph
      exact ⟨⟨hg ▸ h.exclusive, by rw [hg]; exact h.placeholder⟩, by rw [hg]; exact refl_of _ _⟩
  | legacy hl hl' => exact ⟨hl'.scoped, hl.carries _⟩

theorem scoped_of_steps (hsteps : RegistrySteps env D E db db') (h : Scoped env E db)
    (hD : ∀ d ∈ D, d.endpoint ∈ E) (had : AdapterConsistent env E) :
    Scoped env E db' ∧ db.graph.Carries db'.graph := by
  induction hsteps with
  | refl => exact ⟨h, refl_of _ _⟩
  | tail _ hstep ih =>
      obtain ⟨h', hcarries'⟩ := hstep.scoped ih.1 hD had
      exact ⟨h', trans_of IdentityGraph.Carries ih.2 hcarries'⟩

end Scoped

/-! ## resolved scopes -/

section History

variable {env : Env} {D : Set DiscoveredDevice} {E : Set Endpoint} {db db' : Db}

theorem mem_append_unless {x c : String} {ids : List String} :
    x ∈ (if c ∈ ids then ids else ids ++ [c]) ↔ x ∈ ids ∨ c = x := by
  by_cases hc : c ∈ ids
  · rw [if_pos hc]
    constructor
    · exact .inl
    · rintro (hx | rfl)
      · exact hx
      · exact hc
  · simp [hc, eq_comm]

/-- The history ids of a scope are the graph's history of its uid. -/
theorem mem_historyDeviceIds (hw : WellFormed db) {p : PhysicalRow} (hp : p ∈ db.physical)
    (d : String) : d ∈ (db.scopeOf p).historyDeviceIds ↔ d ∈ db.graph.History p.controllerUid := by
  have hcur : db.graph.current p.controllerUid = some p.currentControllerId := by
    simp only [Db.graph, lookup_of_mem hw.physical hp, Option.map_some]
  have hphys : db.graph.physical p.controllerUid = some p.canonicalDeviceId := by
    simp only [Db.graph, lookup_of_mem hw.physical hp, Option.map_some]
  have hmember : d ∈ ((db.members.filter fun m => m.controllerId = p.currentControllerId)
      |>.insertionSort memberBefore).map MemberRow.deviceId ↔
      db.graph.member d = some p.currentControllerId := by
    simp only [List.mem_map, List.mem_insertionSort, List.mem_filter, decide_eq_true_eq, Db.graph,
      Option.map_eq_some_iff]
    constructor
    · rintro ⟨m, ⟨hm, hmc⟩, rfl⟩
      exact ⟨m, lookup_of_mem hw.members hm, hmc⟩
    · rintro ⟨m, hm, hmc⟩
      obtain ⟨hmem, hmd⟩ := mem_of_lookup hm
      exact ⟨m, ⟨hmem, hmc⟩, hmd⟩
  have hhistory : d ∈ db.graph.History p.controllerUid ↔
      db.graph.member d = some p.currentControllerId ∨ p.canonicalDeviceId = d := by
    simp [IdentityGraph.History, hcur, hphys]
  rw [hhistory, Db.scopeOf]
  simp only [mem_distinct, mem_append_unless, hmember]

/-- A scope `resolve` returns comes from a synchronised state. -/
theorem resolve_scope (h : Good env D E db) (hf : env.FreshUuids) {identifier : String}
    {scope : ControllerScope} (hres : resolve env identifier db = .ok (db', some scope)) :
    Ready env D db' ∧ RegistrySteps env D E db db' ∧
      ∃ p ∈ db'.physical, scope = db'.scopeOf p ∧
        db'.graph.physical scope.controllerUid = some p.canonicalDeviceId := by
  rcases h with hl | hi
  · exact absurd ⟨db', scope, hres, rfl⟩ hl.not_resolvesTo
  · obtain ⟨db'', hok, hi', hs, hsyncs, hsame⟩ := hi.synchronize hf
    simp only [resolve, hok, Loop.ok_bind, Loop.pure_eq_ok, Except.ok.injEq, Prod.mk.injEq] at hres
    obtain ⟨rfl, hscope⟩ := hres
    obtain ⟨p, hp, rfl⟩ := Option.map_eq_some_iff.mp hscope
    have hmem : p ∈ db''.physical := by
      unfold Db.physicalByIdentifier? at hp
      split at hp
      · next q hq =>
        cases hp
        exact (mem_of_lookup hq).1
      · obtain ⟨al, -, hal⟩ := Option.bind_eq_some_iff.mp hp
        exact (mem_of_lookup hal).1
    refine ⟨⟨hi', hs⟩, .single (.sync hi hi' hs hsyncs hsame), p, hmem, rfl, ?_⟩
    simp only [Db.graph, Db.scopeOf, lookup_of_mem hi'.wellFormed.physical hmem, Option.map_some]

/-- The devices of a resolved scope are those its uid holds. -/
theorem mem_history_iff (hr : Ready env D db) (hs : Scoped env E db) {p : PhysicalRow}
    (hp : p ∈ db.physical) (hphys : db.graph.physical p.controllerUid = some p.canonicalDeviceId)
    (d : String) : d ∈ (db.scopeOf p).historyDeviceIds ↔ db.graph.Holds d p.controllerUid := by
  rw [mem_historyDeviceIds hr.inv.wellFormed hp,
    IdentityGraph.mem_history_iff_holds hr.inv.coherent hr.synced hs.exclusive hphys]

/-- A uid of a good database resolves to itself. -/
theorem resolve_uid (h : Good env D E db) (hf : env.FreshUuids) {uid c : String}
    (hu : db.graph.physical uid = some c) :
    ∃ db' scope, resolve env uid db = .ok (db', some scope) ∧ scope.controllerUid = uid := by
  rcases h with hl | hi
  · simp [Db.graph, hl.physical, lookup] at hu
  · obtain ⟨db', hok, hi', -, hsyncs, -⟩ := hi.synchronize hf
    obtain ⟨c', hc'⟩ := hsyncs.extend.physical hu
    have hscope := scope?_spec hi'.coherent uid
    simp only [Db.uidFor, hc', Option.map_eq_some_iff] at hscope
    obtain ⟨scope, hs, hsu⟩ := hscope
    exact ⟨db', scope, by simp only [resolve, hok, hs, Loop.ok_bind, Loop.pure_eq_ok], hsu⟩

end History

/-- The endpoints of legacy rows and of observed devices. -/
def usedEndpoints (ups : List (Nat × DiscoveredDevice)) (calls : List (Nat × RegistryOp)) :
    List Endpoint :=
  ups.map (fun up => up.2.endpoint) ++ (callDevices calls).map DiscoveredDevice.endpoint

/-- **History scopes.**  From an empty or a legacy database no sequence of
registry calls fails; the device ids two uids resolve to are disjoint; and the
device ids of a resolved scope belong to its uid's scope after any later calls. -/
theorem history_scopes_disjoint_and_growing {env : Env} (hf : env.FreshUuids)
    (ups : List (Nat × DiscoveredDevice)) (before after : List (Nat × RegistryOp))
    (hcol : NoCollision env {d | d ∈ callDevices (before ++ after)})
    (had : AdapterConsistent env {e | e ∈ usedEndpoints ups (before ++ after)}) :
    ∃ db₁, runRegistry env (legacyDb ups) before = .ok db₁ ∧
      (∀ x y dbx dby s t, resolve env x db₁ = .ok (dbx, some s) →
        resolve env y db₁ = .ok (dby, some t) → s.controllerUid ≠ t.controllerUid →
        List.Disjoint s.historyDeviceIds t.historyDeviceIds) ∧
      ∀ x dbx s, resolve env x db₁ = .ok (dbx, some s) →
        ∃ db₂ db₃ t, runRegistry env dbx after = .ok db₂ ∧
          resolve env s.controllerUid db₂ = .ok (db₃, some t) ∧
          t.controllerUid = s.controllerUid ∧ s.historyDeviceIds ⊆ t.historyDeviceIds := by
  have hD : ∀ d ∈ callDevices (before ++ after),
      d.endpoint ∈ usedEndpoints ups (before ++ after) :=
    fun d hd => List.mem_append_right _ (List.mem_map_of_mem hd)
  have hlegacy : Legacy {e | e ∈ usedEndpoints ups (before ++ after)} (legacyDb ups) :=
    legacy_legacyDb fun up hup => List.mem_append_left _
      (List.mem_map_of_mem (f := fun up : Nat × DiscoveredDevice => up.2.endpoint) hup)
  have hbefore : ∀ d ∈ callDevices before, d ∈ callDevices (before ++ after) := by
    intro d hd
    rw [callDevices_append]
    exact List.mem_append_left _ hd
  have hafter : ∀ d ∈ callDevices after, d ∈ callDevices (before ++ after) := by
    intro d hd
    rw [callDevices_append]
    exact List.mem_append_right _ hd
  obtain ⟨db₁, hrun₁, hgood₁, hsteps₁⟩ := runRegistry_spec (.inl hlegacy) hf hcol hbefore
  have hscoped₁ := (scoped_of_steps hsteps₁ hlegacy.scoped hD had).1
  refine ⟨db₁, hrun₁, ?_, ?_⟩
  · intro x y dbx dby s t hs ht hne
    obtain ⟨hready, hsteps, p, hp, rfl, hphys⟩ := resolve_scope hgood₁ hf hs
    obtain ⟨hready', -, q, hq, rfl, hphys'⟩ := resolve_scope hgood₁ hf ht
    have hsame : dbx = dby := by
      simp only [resolve, Loop.bind_eq_ok] at hs ht
      obtain ⟨a, ha, hs⟩ := hs
      obtain ⟨b, hb, ht⟩ := ht
      rw [ha, Except.ok.injEq] at hb
      simp only [Loop.pure_eq_ok, Except.ok.injEq, Prod.mk.injEq] at hs ht
      rw [← hs.1, hb, ht.1]
    subst hsame
    intro d hd hd'
    rw [mem_historyDeviceIds hready.inv.wellFormed hp] at hd
    rw [mem_historyDeviceIds hready.inv.wellFormed hq] at hd'
    exact Set.disjoint_left.mp (IdentityGraph.disjoint_history hready.inv.coherent hready.synced
      hphys hphys' hne) hd hd'
  · intro x dbx s hs
    obtain ⟨hready, hsteps, p, hp, rfl, hphys⟩ := resolve_scope hgood₁ hf hs
    have hscopedx := (scoped_of_steps hsteps hscoped₁ hD had).1
    obtain ⟨db₂, hrun₂, hgood₂, hsteps₂⟩ := runRegistry_spec (.inr hready.inv) hf hcol hafter
    obtain ⟨hscoped₂, hcarries₂⟩ := scoped_of_steps hsteps₂ hscopedx hD had
    obtain ⟨c, hc⟩ := (extends_of_steps hsteps₂).physical hphys
    obtain ⟨db₃, t, hres, htu⟩ := resolve_uid hgood₂ hf hc
    obtain ⟨hready₃, hsteps₃, q, hq, rfl, hphys₃⟩ := resolve_scope hgood₂ hf hres
    obtain ⟨hscoped₃, hcarries₃⟩ := scoped_of_steps hsteps₃ hscoped₂ hD had
    refine ⟨db₂, db₃, _, hrun₂, hres, htu, fun d hd => ?_⟩
    rw [mem_history_iff hready hscopedx hp hphys] at hd
    rw [mem_history_iff hready₃ hscoped₃ hq hphys₃]
    have htu' : q.controllerUid = p.controllerUid := htu
    rw [htu']
    exact hcarries₃.holdsExtends d _ (hcarries₂.holdsExtends d _ hd)

/-- For a list of endpoints the assumption can be decided. -/
theorem adapterConsistent_of_list {env : Env} {endpoints : List Endpoint}
    (hserial : ∀ e ∈ endpoints, Text.strip e.usb ≠ "" → e.transport = .serial)
    (hsame : ∀ e ∈ endpoints, ∀ e' ∈ endpoints, Text.strip e.usb ≠ "" → Text.strip e'.usb ≠ "" →
      env.lower (Text.strip e.usb) = env.lower (Text.strip e'.usb) → e.usb = e'.usb) :
    AdapterConsistent env {e | e ∈ endpoints} := ⟨hserial, hsame⟩

/-- A controller behind a USB adapter, first without its serial number. -/
theorem history_scopes_of_promoted_adapter :
    ∃ db₁, runRegistry plainEnv (legacyDb [(1, usbDevice "AB" "" "ps")])
        [(2, .observe (usbDevice "AB" "S" "ps")), (3, .observe (tcpDevice "10.0.0.1" "" "ps"))] =
          .ok db₁ ∧
      (∀ x y dbx dby s t, resolve plainEnv x db₁ = .ok (dbx, some s) →
        resolve plainEnv y db₁ = .ok (dby, some t) → s.controllerUid ≠ t.controllerUid →
        List.Disjoint s.historyDeviceIds t.historyDeviceIds) ∧
      ∀ x dbx s, resolve plainEnv x db₁ = .ok (dbx, some s) →
        ∃ db₂ db₃ t, runRegistry plainEnv dbx [(4, .observe (tcpDevice "10.0.0.1" "S" "ps"))] =
            .ok db₂ ∧
          resolve plainEnv s.controllerUid db₂ = .ok (db₃, some t) ∧
          t.controllerUid = s.controllerUid ∧ s.historyDeviceIds ⊆ t.historyDeviceIds :=
  history_scopes_disjoint_and_growing plainEnv_freshUuids [(1, usbDevice "AB" "" "ps")]
    [(2, .observe (usbDevice "AB" "S" "ps")), (3, .observe (tcpDevice "10.0.0.1" "" "ps"))]
    [(4, .observe (tcpDevice "10.0.0.1" "S" "ps"))]
    (noCollision_of_list (by decide)) (adapterConsistent_of_list (by decide) (by decide))

end MorningstarModbus
