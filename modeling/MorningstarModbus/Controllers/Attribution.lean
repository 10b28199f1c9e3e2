import MorningstarModbus.Controllers.Permanence

/-!
# MorningstarModbus.Controllers.Attribution

Whom an observation is attributed to, over whole runs.

* `Throughout` — a condition every step of a run meets;
* `OneUidPerSerial` — one serial number under one profile has one uid, as long
  as no known endpoint reports its serial under another profile;
* `NeverMerges` — different serial numbers never share a uid or a device, as
  long as a promoted identity is the last of its uid in the synchronisation;
* `KeepsOwner` — an observation without a serial number falls to the owner of
  its endpoint, as long as no other identity has its placeholder key.
-/

namespace MorningstarModbus

open Table

/-! ## conditions on the steps of a run -/

/-- Every observation of a run meets `C`, on the initialized database it finds. -/
def Throughout (env : Env) (C : Nat → DiscoveredDevice → Db → Prop) :
    Db → List (Nat × DiscoveredDevice) → Prop
  | _, [] => True
  | db, o :: rest =>
      C o.1 o.2 (initializeInventory env o.1 db) ∧
        match registerObservation env o.1 o.2 db with
        | .ok (db', _) => Throughout env C db' rest
        | .error _ => True

instance Throughout.decidable (env : Env) (C : Nat → DiscoveredDevice → Db → Prop)
    [∀ now device db, Decidable (C now device db)] :
    ∀ db observations, Decidable (Throughout env C db observations)
  | _, [] => .isTrue trivial
  | db, o :: rest =>
      have : Decidable (match registerObservation env o.1 o.2 db with
          | .ok (db', _) => Throughout env C db' rest
          | .error _ => True) :=
        match registerObservation env o.1 o.2 db with
        | .ok (db', _) => Throughout.decidable env C db' rest
        | .error _ => .isTrue trivial
      inferInstanceAs (Decidable (_ ∧ _))

theorem Throughout.step {env : Env} {C : Nat → DiscoveredDevice → Db → Prop} {db db' : Db}
    {now : Nat} {device : DiscoveredDevice} {rest : List (Nat × DiscoveredDevice)}
    {r : String × String} (h : Throughout env C db ((now, device) :: rest))
    (hok : registerObservation env now device db = .ok (db', r)) :
    C now device (initializeInventory env now db) ∧ Throughout env C db' rest := by
  obtain ⟨hC, hrest⟩ := h
  simp only [hok] at hrest
  exact ⟨hC, hrest⟩

/-! ## what a synchronisation does not change -/

section SameInventory

variable {db db' : Db}

theorem Db.SameInventory.identity? (h : db.SameInventory db') : db'.identity? = db.identity? := by
  funext a
  simp only [Db.identity?, h.identities]

theorem Db.SameInventory.endpointOwner? (h : db.SameInventory db') :
    db'.endpointOwner? = db.endpointOwner? := by
  funext k
  simp only [Db.endpointOwner?, h.connections, h.identity?]

end SameInventory

/-! ## one serial number, one uid -/

/-- The serial number is that of the endpoint's owner, under another key: then
the observation falls to the owner. -/
def KnownUnderOtherKey (env : Env) (_now : Nat) (device : DiscoveredDevice) (db : Db) : Prop :=
  device.serial ≠ "" ∧ db.identity? (identityKey env device) = none ∧
    (db.endpointOwner? device.endpoint.stableKey).map (fun owner => Text.strip owner.serialNumber) =
      some device.serial

instance (env : Env) (now : Nat) (device : DiscoveredDevice) (db : Db) :
    Decidable (KnownUnderOtherKey env now device db) := by
  unfold KnownUnderOtherKey
  infer_instance

/-- The run succeeds, and observations of one non-empty serial number under one
profile have one uid. -/
def OneUidPerSerial (env : Env) (db : Db) (observations : List (Nat × DiscoveredDevice)) : Prop :=
  ∃ db' out, observeAll env db observations = .ok (db', out) ∧ out.length = observations.length ∧
    ∀ p ∈ observations.zip out, ∀ q ∈ observations.zip out, p.1.2.serial ≠ "" →
      p.1.2.serial = q.1.2.serial → p.1.2.profile = q.1.2.profile → p.2.1 = q.2.1

section OneUid

variable {env : Env} {D : Set DiscoveredDevice} {E : Set Endpoint} {db db' : Db} {now : Nat}
  {device : DiscoveredDevice} {uid deviceId : String}

theorem Db.SameInventory.knownUnderOtherKey (h : db.SameInventory db') :
    KnownUnderOtherKey env now device db' ↔ KnownUnderOtherKey env now device db := by
  simp only [KnownUnderOtherKey, h.identity?, h.endpointOwner?]

/-- An observation with a serial number is attributed to its own key, unless
the owner of the endpoint has that serial under another key. -/
theorem Attributed.controllerId_eq {a : Attribution} (ha : Attributed env now device db a db')
    (hs : device.serial ≠ "") (hother : ¬ KnownUnderOtherKey env now device db) :
    a.controllerId = identityKey env device := by
  cases ha with
  | matched _ hid _ => exact hid
  | fallback hn howner hso _ _ =>
      exact absurd ⟨hs, hn, by rw [howner, Option.map_some, hso.resolve_left hs]⟩ hother
  | promoted _ _ _ _ hid _ => exact hid
  | introduced _ hid _ _ _ _ => exact hid

/-- **One physical controller, one uid**, in every run in which no known
endpoint reports its owner's serial number under another profile. -/
theorem one_uid_per_serial (hf : env.FreshUuids) (ups observations : List (Nat × DiscoveredDevice))
    (hcol : NoCollision env {d | d ∈ observations.map Prod.snd})
    (hother : Throughout env (fun now device db => ¬ KnownUnderOtherKey env now device db)
      (legacyDb ups) observations) :
    OneUidPerSerial env (legacyDb ups) observations := by
  have hgood := good_legacyDb env {d | d ∈ observations.map Prod.snd} ups
  obtain ⟨db', out, hok, -, hlen, hresults, -, -⟩ := observeAll_ok
    (Throughout env fun now device db => ¬ KnownUnderOtherKey env now device db)
    (fun db device r => device.serial ≠ "" →
      db.graph.uidOf (identityKey env device) = some r.1)
    hf hcol hgood (fun o ho => List.mem_map_of_mem ho) hother
    (by
      intro now device rest db db' uid deviceId hd hgood hok o hI
      obtain ⟨hC, hrest⟩ := hI.step hok
      refine ⟨hrest, fun hs => ?_, fun d r hr hs => ?_⟩
      · rw [← o.start_same.knownUnderOtherKey] at hC
        rw [← o.attributed.controllerId_eq hs hC]
        exact o.uid_eq
      · exact (extends_of_steps (o.steps hgood hd)).uidOf (hr hs))
  refine ⟨db', out, hok, hlen, fun p hp q hq hs hserial hprofile => ?_⟩
  have hpu := hresults p hp hs
  have hqu := hresults q hq (hserial ▸ hs)
  have hkey : identityKey env p.1.2 = identityKey env q.1.2 := by
    rw [identityKey_of_serial hs, identityKey_of_serial (hserial ▸ hs), hserial, hprofile]
  rw [hkey, hqu, Option.some.injEq] at hpu
  exact hpu.symm

/-- Two endpoints, three profiles and serials. -/
theorem one_uid_per_serial_two_endpoints :
    OneUidPerSerial plainEnv (legacyDb [(1, tcpDevice "10.0.0.1" "" "ps")])
      [(2, tcpDevice "10.0.0.1" "R" "ps"), (3, tcpDevice "10.0.0.2" "S" "ps"),
       (4, tcpDevice "10.0.0.2" "R" "ps")] :=
  one_uid_per_serial plainEnv_freshUuids _ _ (noCollision_of_list (by decide))
    (by decide +kernel)

/-- A profile changes at a known endpoint, and the controller then moves: it
gets a second uid. -/
theorem not_one_uid_per_serial_profile_change :
    ¬ OneUidPerSerial plainEnv (legacyDb [])
      [(1, tcpDevice "10.0.0.2" "R" "p"), (2, tcpDevice "10.0.0.2" "R" "q"),
       (3, tcpDevice "10.0.0.1" "R" "q")] := by
  rintro ⟨db', out, hok, -, hone⟩
  have hout : (observeAll plainEnv (legacyDb []) [(1, tcpDevice "10.0.0.2" "R" "p"),
      (2, tcpDevice "10.0.0.2" "R" "q"), (3, tcpDevice "10.0.0.1" "R" "q")]).map Prod.snd =
      .ok [("ctrl_", "tcp:10.0.0.2:502:unit:1"), ("ctrl_", "tcp:10.0.0.2:502:unit:1"),
        ("ctrl_a", "tcp:10.0.0.1:502:unit:1")] := by
    decide +kernel
  rw [hok] at hout
  cases hout
  have hsame := hone ((2, tcpDevice "10.0.0.2" "R" "q"), ("ctrl_", "tcp:10.0.0.2:502:unit:1"))
    (by simp) ((3, tcpDevice "10.0.0.1" "R" "q"), ("ctrl_a", "tcp:10.0.0.1:502:unit:1")) (by simp)
    (by decide) rfl rfl
  revert hsame
  decide

end OneUid

/-! ## serial keys -/

/-- `a` is the identity key of the serial number `s` under some profile. -/
def SerialKey (env : Env) (s a : String) : Prop :=
  ∃ p : String, ':' ∉ p.toList ∧ a = "morningstar:" ++ p ++ ":" ++ env.lower s

/-- Profile names come from the catalog, and have no colon. -/
def CatalogProfile (env : Env) (device : DiscoveredDevice) : Prop :=
  ':' ∉ (env.lower (Text.strip device.profile)).toList

section SerialKeys

variable {env : Env} {s t a : String} {device : DiscoveredDevice}

theorem SerialKey.isSerialKey (h : SerialKey env s a) : IsSerialKey a := by
  obtain ⟨p, -, rfl⟩ := h
  simp [IsSerialKey]

/-- A key tells the serial number it was made of, up to letter case. -/
theorem SerialKey.unique (h : SerialKey env s a) (h' : SerialKey env t a) :
    env.lower s = env.lower t := by
  obtain ⟨p, hp, rfl⟩ := h
  obtain ⟨q, hq, hpq⟩ := h'
  have hlist : p.toList ++ ':' :: (env.lower s).toList = q.toList ++ ':' :: (env.lower t).toList := by
    simpa [← String.toList_inj] using hpq
  exact String.toList_inj.mp (Text.split_first hp hq hlist).2

theorem serialKey_identityKey (hp : CatalogProfile env device) (hs : device.serial ≠ "") :
    SerialKey env device.serial (identityKey env device) :=
  ⟨_, hp, identityKey_of_serial hs⟩

end SerialKeys

/-! ## different serial numbers, different controllers -/

/-- The observation promotes the owner of its endpoint, and another identity
with the owner's uid comes after the promoted one in the synchronisation. -/
def PromotedBeforeSharer (env : Env) (now : Nat) (device : DiscoveredDevice) (db : Db) : Prop :=
  device.serial ≠ "" ∧ db.identity? (identityKey env device) = none ∧
    ∃ owner ∈ db.endpointOwner? device.endpoint.stableKey, Text.strip owner.serialNumber = "" ∧
      ∃ r ∈ db.identities, r.controllerId ≠ owner.controllerId ∧
        db.graph.uidOf r.controllerId = db.graph.uidOf owner.controllerId ∧
        ¬ syncBefore r (observedIdentity env device owner.canonicalDeviceId owner.firstSeen now)

instance (env : Env) (now : Nat) (device : DiscoveredDevice) (db : Db) :
    Decidable (PromotedBeforeSharer env now device db) := by
  unfold PromotedBeforeSharer
  infer_instance

/-- The run succeeds, and serial numbers that differ after trimming and
lower-casing never share a uid nor a canonical device. -/
def NeverMerges (env : Env) (db : Db) (observations : List (Nat × DiscoveredDevice)) : Prop :=
  ∃ db' out, observeAll env db observations = .ok (db', out) ∧ out.length = observations.length ∧
    ∀ p ∈ observations.zip out, ∀ q ∈ observations.zip out, p.1.2.serial ≠ "" →
      q.1.2.serial ≠ "" → env.lower p.1.2.serial ≠ env.lower q.1.2.serial →
      p.2.1 ≠ q.2.1 ∧ p.2.2 ≠ q.2.2

/-- Serial numbers and identity keys agree, and no two serial keys have one
uid. -/
structure Separated (env : Env) (D : Set DiscoveredDevice) (db : Db) : Prop where
  ready : Ready env D db
  labelled : ∀ r ∈ db.identities, Text.strip r.serialNumber ≠ "" →
    SerialKey env (Text.strip r.serialNumber) r.controllerId
  uidOf_inj : ∀ {a b u}, IsSerialKey a → IsSerialKey b → db.graph.uidOf a = some u →
    db.graph.uidOf b = some u → a = b

section Separate

variable {env : Env} {D : Set DiscoveredDevice} {E : Set Endpoint} {db db₁ db' : Db} {now : Nat}
  {device : DiscoveredDevice} {uid deviceId : String} {a : Attribution}

/-- A synchronised state finds every identity with its uid, so the pass an
observation starts with gives none away. -/
theorem Observation.start_eq (o : Observation env D now device db db' uid deviceId)
    (h : Ready env D db) : db.SameInventory o.start ∧ o.start.graph.uidOf = db.graph.uidOf ∧
      o.start.graph.canonical = db.graph.canonical := by
  have hsame := o.start_same
  have hsync := o.start_sync
  rw [h.inv.initializeInventory_eq now] at hsame hsync
  have hall : ∀ a ∈ db.syncOrder, ∃ u, db.graph.uidOf a = some u := by
    intro a ha
    obtain ⟨r, hr, rfl⟩ := List.mem_map.mp ha
    exact h.synced.uidOf (h.inv.wellFormed.canonical ((List.mem_insertionSort syncBefore).mp hr))
  exact ⟨hsame, (hsync.stable h.inv.coherent hall).1, hsync.frame.1⟩

/-- The passes after an observation leave its identities where they were. -/
theorem Observation.canonical_eq (o : Observation env D now device db db' uid deviceId) :
    db'.graph.canonical = o.placed.graph.canonical := by
  rw [o.second_sync.frame.1, o.first_sync.frame.1, graph_recordObservation]
  rfl

/-- An identity that was not attributed to is not written. -/
theorem mem_recordObservation_of_ne {r : IdentityRow} (hr : r ∈ db.identities)
    (hne : r.controllerId ≠ a.controllerId) :
    r ∈ (recordObservation a device now db).identities := by
  simp only [recordObservation, touchIdentity]
  exact mem_update.mpr ⟨r, hr, .inr ⟨by simpa using hne, rfl⟩⟩

/-- The attributed identity is stamped with the time of the observation. -/
theorem exists_recordObservation (device : DiscoveredDevice) (now : Nat)
    (ha : ∃ c, db.graph.canonical a.controllerId = some c) :
    ∃ r ∈ (recordObservation a device now db).identities,
      r.controllerId = a.controllerId ∧ r.lastSeen = now := by
  obtain ⟨r, hr, hid⟩ := canonical_isSome.mp ha
  simp only [recordObservation, touchIdentity]
  exact ⟨_, mem_update.mpr ⟨r, hr, .inl ⟨by simpa using hid, rfl⟩⟩, hid, rfl⟩

/-- The key an observation with a serial number is attributed to is a key of
this serial number. -/
theorem Attributed.serialKey (ha : Attributed env now device db a db₁)
    (hlabel : ∀ r ∈ db.identities, Text.strip r.serialNumber ≠ "" →
      SerialKey env (Text.strip r.serialNumber) r.controllerId)
    (hp : CatalogProfile env device) (hs : device.serial ≠ "") :
    SerialKey env device.serial a.controllerId := by
  have hown := serialKey_identityKey hp hs
  cases ha with
  | matched _ hid _ => exact hid ▸ hown
  | fallback _ howner hso hid _ =>
      have hserial := hso.resolve_left hs
      obtain ⟨ho, -⟩ := endpointOwner?_some howner
      rw [hid, hserial]
      exact hlabel _ (mem_of_lookup ho).1 (hserial ▸ hs)
  | promoted _ _ _ _ hid _ => exact hid ▸ hown
  | introduced _ hid _ _ _ _ => exact hid ▸ hown

/-- Recording keeps serial numbers and keys in agreement. -/
theorem Attributed.labelled (ha : Attributed env now device db a db₁)
    (hpl : Placed env device db a db₁)
    (hlabel : ∀ r ∈ db.identities, Text.strip r.serialNumber ≠ "" →
      SerialKey env (Text.strip r.serialNumber) r.controllerId)
    (hp : CatalogProfile env device) :
    ∀ r ∈ (recordObservation a device now db₁).identities, Text.strip r.serialNumber ≠ "" →
      SerialKey env (Text.strip r.serialNumber) r.controllerId := by
  have hplaced : ∀ r ∈ db₁.identities, Text.strip r.serialNumber ≠ "" →
      SerialKey env (Text.strip r.serialNumber) r.controllerId := by
    intro r hr hs
    rcases hpl.identities r hr with hold | ⟨hid, -, hserial⟩
    · exact hlabel r hold hs
    · rw [hid, hserial]
      exact serialKey_identityKey hp (hserial ▸ hs)
  intro r hr hs
  rcases mem_identities_recordObservation hr with ⟨hr₁, -⟩ | ⟨r₀, hr₀, hid₀, hid, -, -, hserial⟩
  · exact hplaced r hr₁ hs
  · rw [hserial] at hs ⊢
    by_cases hd : device.serial = ""
    · simp only [hd, ne_eq, not_true_eq_false, if_false] at hs ⊢
      rw [hid, ← hid₀]
      exact hplaced r₀ hr₀ hs
    · rw [if_pos hd, strip_serial, hid]
      exact ha.serialKey hlabel hp hd

/-- A serial key that got its uid from this observation is the attributed one,
and was unknown before. -/
theorem Observation.uidOf_cases (o : Observation env D now device db db' uid deviceId) {b u : String}
    (hb : IsSerialKey b) (hu : o.synced.graph.uidOf b = some u) :
    o.start.graph.uidOf b = some u ∨
      b = o.attribution.controllerId ∧ o.start.graph.canonical b = none := by
  have hpl := o.attributed.placed o.start_inv
  have huid := (hpl.uids now).1
  cases hc : o.start.graph.canonical b with
  | some c =>
      obtain ⟨v, hv⟩ := o.start_synced.uidOf hc
      have hv' : o.synced.graph.uidOf b = some v := o.first_sync.extend.uidOf (by rw [huid, hv])
      left
      rw [hv, ← hv', hu]
  | none =>
      right
      refine ⟨?_, rfl⟩
      have hnone := o.start_inv.uidOf_eq_none hb hc
      -- so `b` was given its uid by the pass, and has an identity
      have hmem : b ∈ (recordObservation o.attribution device now o.placed).syncOrder := by
        by_contra hmem
        rw [o.first_sync.uidOf_of_notMem hmem, huid, hnone] at hu
        cases hu
      obtain ⟨r, hr, rfl⟩ := List.mem_map.mp hmem
      have hr' := (List.mem_insertionSort syncBefore).mp hr
      rcases mem_identities_recordObservation hr' with ⟨hr₁, hne⟩ | ⟨-, -, -, hid, -⟩
      · rcases hpl.identities r hr₁ with hold | ⟨hid, hid', -⟩
        · rw [o.start_inv.wellFormed.canonical hold] at hc
          cases hc
        · exact hid.trans hid'.symm
      · exact hid

/-- A new serial identity never takes the uid of another one, unless it was
promoted before the other one's turn. -/
theorem Observation.uidOf_ne (o : Observation env D now device db db' uid deviceId)
    (hearly : ¬ PromotedBeforeSharer env now device o.start) {b u : String}
    (hk : IsSerialKey o.attribution.controllerId)
    (hkn : o.start.graph.canonical o.attribution.controllerId = none) (hb : IsSerialKey b)
    (hbu : o.start.graph.uidOf b = some u) :
    o.synced.graph.uidOf o.attribution.controllerId ≠ some u := by
  intro hku
  have hpl := o.attributed.placed o.start_inv
  obtain ⟨huid, hphys⟩ := hpl.uids now
  have hcan : (recordObservation o.attribution device now o.placed).graph.canonical =
      o.placed.graph.canonical := by
    rw [graph_recordObservation]
    rfl
  obtain ⟨k, hk_mem, hkid, hktime⟩ := exists_recordObservation device now
    ⟨_, hpl.canonical⟩
  obtain ⟨as, bs, hsplit, hkas, hbefore⟩ := syncOrder_split o.recorded_inv.wellFormed hk_mem
  rw [hkid] at hsplit hkas
  have hsync := o.first_sync
  rw [hsplit] at hsync
  obtain ⟨hbas, hdev⟩ := hsync.taken o.recorded_inv.coherent hkas
    (by rw [huid]; exact o.start_inv.uidOf_eq_none hk hkn) (by rw [huid]; exact hbu) hku
  rw [hphys, hcan, hpl.canonical] at hdev
  -- the uid is on the device of an identity of the starting state
  obtain ⟨c, -, hcu, hcd⟩ := o.start_synced.current hdev
  obtain ⟨rb, hrb, hrbid⟩ := canonical_isSome.mp (o.start_inv.alias_serial hbu hb)
  have hbk : b ≠ o.attribution.controllerId := by
    rintro rfl
    rw [o.start_inv.uidOf_eq_none hk hkn] at hbu
    cases hbu
  generalize hattr : o.attribution = a at *
  generalize hplaced : o.placed = placed at *
  have ha := o.attributed
  rw [hattr, hplaced] at ha
  cases ha with
  | @matched r hfound hid _ =>
      rw [hid] at hkn
      rw [canonical_eq_none] at hkn
      rw [hkn] at hfound
      cases hfound
  | @fallback owner _ howner _ hid _ =>
      obtain ⟨ho, -⟩ := endpointOwner?_some howner
      rw [hid, canonical_eq_none, ho] at hkn
      cases hkn
  | introduced _ _ _ _ hfresh _ =>
      have hnone := o.start_inv.member_eq_none hfresh
      rw [o.start_inv.coherent.member_canonical hcd] at hnone
      cases hnone
  | @promoted owner hn howner hs hos hid hd =>
      obtain ⟨ho, -⟩ := endpointOwner?_some howner
      have hmem := (mem_of_lookup ho).1
      have hco : c = owner.controllerId := o.start_inv.coherent.canonical_inj hcd
        (by rw [hd]; exact o.start_inv.wellFormed.canonical hmem)
      have hbo : b ≠ owner.controllerId := by
        rintro rfl
        exact o.start_inv.serial_identity owner hmem hb hos
      apply hearly
      refine ⟨hs, hn, owner, howner, hos, rb, hrb, hrbid ▸ hbo, ?_, ?_⟩
      · rw [hrbid, hbu, ← hco, hcu]
      · intro hle
        have hrec : rb ∈ (recordObservation a device now
            (o.start.promoted (observedIdentity env device owner.canonicalDeviceId owner.firstSeen
              now) owner.controllerId)).identities := by
          refine mem_recordObservation_of_ne ?_ (hrbid ▸ hbk)
          exact List.mem_filter.mpr ⟨List.mem_append_left _ hrb, by simpa [hrbid] using hbo⟩
        refine hbas (hrbid ▸ hbefore rb hrec ?_ ?_)
        · have hkid' : k.controllerId = identityKey env device := hkid.trans hid
          simpa only [syncBefore, hkid', hktime, observedIdentity, identityKey] using hle
        · rw [hrbid, hkid]
          exact hbk

theorem Db.SameInventory.promotedBeforeSharer (h : db.SameInventory db')
    (huid : db'.graph.uidOf = db.graph.uidOf) :
    PromotedBeforeSharer env now device db' ↔ PromotedBeforeSharer env now device db := by
  simp only [PromotedBeforeSharer, h.identity?, h.endpointOwner?, h.identities, huid]

/-- **An observation keeps serial numbers apart.** -/
theorem Separated.observed (h : Separated env D db)
    (o : Observation env D now device db db' uid deviceId) (hp : CatalogProfile env device)
    (hearly : ¬ PromotedBeforeSharer env now device db) : Separated env D db' := by
  obtain ⟨hsame, huid, -⟩ := o.start_eq h.ready
  have hpl := o.attributed.placed o.start_inv
  have hids : db'.identities =
      (recordObservation o.attribution device now o.placed).identities := by
    rw [o.second_same.identities, o.first_same.identities]
  have hsynced : o.synced.graph.Synced := o.first_sync.synced o.recorded_inv.coherent mem_syncOrder
  have huids : db'.graph.uidOf = o.synced.graph.uidOf := by
    refine (o.second_sync.stable o.synced_inv.coherent ?_).1
    intro a ha
    obtain ⟨r, hr, rfl⟩ := List.mem_map.mp ha
    exact hsynced.uidOf (o.synced_inv.wellFormed.canonical
      ((List.mem_insertionSort syncBefore).mp hr))
  rw [← hsame.promotedBeforeSharer huid] at hearly
  refine ⟨o.ready, ?_, ?_⟩
  · rw [hids]
    refine o.attributed.labelled hpl ?_ hp
    rw [hsame.identities]
    exact h.labelled
  · intro a b u ha hb hau hbu
    rw [huids] at hau hbu
    rcases o.uidOf_cases ha hau with haold | ⟨ha', hanone⟩
    · rcases o.uidOf_cases hb hbu with hbold | ⟨hb', hbnone⟩
      · rw [huid] at haold hbold
        exact h.uidOf_inj ha hb haold hbold
      · subst hb'
        exact absurd hbu (o.uidOf_ne hearly hb hbnone ha haold)
    · subst ha'
      rcases o.uidOf_cases hb hbu with hbold | ⟨hb', -⟩
      · exact absurd hau (o.uidOf_ne hearly ha hanone hb hbold)
      · exact hb'.symm

theorem ready_empty (env : Env) (D : Set DiscoveredDevice) : Ready env D {} where
  inv := by
    have hi : Inv env D (initializeInventory env 0 {}) :=
      Good.inventory (.inl (legacy_empty Set.univ)) 0
    exact hi
  synced := ⟨by simp [Db.graph, lookup], by simp [Db.graph, lookup]⟩

/-- An empty database separates everything. -/
theorem separated_empty (env : Env) (D : Set DiscoveredDevice) : Separated env D {} where
  ready := ready_empty env D
  labelled := by simp
  uidOf_inj := by simp [Db.graph, lookup]

/-- The identity an observation with a serial number was attributed to, for
ever after. -/
theorem Separated.result (h : Separated env D db)
    (o : Observation env D now device db db' uid deviceId) (hp : CatalogProfile env device)
    (hs : device.serial ≠ "") : ∃ a, SerialKey env device.serial a ∧
      db'.graph.uidOf a = some uid ∧ db'.graph.canonical a = some deviceId := by
  obtain ⟨hsame, -, -⟩ := o.start_eq h.ready
  have hlabel : ∀ r ∈ o.start.identities, Text.strip r.serialNumber ≠ "" →
      SerialKey env (Text.strip r.serialNumber) r.controllerId := by
    rw [hsame.identities]
    exact h.labelled
  have hcan := (o.attributed.placed o.start_inv).canonical
  rw [← o.canonical_eq, ← o.deviceId_eq] at hcan
  exact ⟨_, o.attributed.serialKey hlabel hp hs, o.uid_eq, hcan⟩

/-- An observation leaves the device of every serial key where it was. -/
theorem Observation.canonical_serial (o : Observation env D now device db db' uid deviceId)
    (h : Ready env D db) {b c : String} (hb : IsSerialKey b) (hc : db.graph.canonical b = some c) :
    db'.graph.canonical b = some c := by
  obtain ⟨-, -, hcan⟩ := o.start_eq h
  rw [o.canonical_eq]
  exact (o.attributed.placed o.start_inv).serials hb (by rw [hcan, hc])

end Separate

/-- **Endpoint reuse never merges controllers**, in every run from an empty
database in which no placeholder is promoted before the turn of another
identity with its uid. -/
theorem never_merges {env : Env} (hf : env.FreshUuids) (observations : List (Nat × DiscoveredDevice))
    (hcol : NoCollision env {d | d ∈ observations.map Prod.snd})
    (hprofile : ∀ o ∈ observations, CatalogProfile env o.2)
    (hearly : Throughout env (fun now device db => ¬ PromotedBeforeSharer env now device db) {}
      observations) :
    NeverMerges env {} observations := by
  have hempty := separated_empty env {d | d ∈ observations.map Prod.snd}
  have hcatalog : ∀ d ∈ observations.map Prod.snd, CatalogProfile env d := by
    intro d hd
    obtain ⟨o, ho, rfl⟩ := List.mem_map.mp hd
    exact hprofile o ho
  obtain ⟨db', out, hok, ⟨hsep, -⟩, hlen, hresults, -, -⟩ := observeAll_ok (E := Set.univ)
    (fun db rest => Separated env {d | d ∈ observations.map Prod.snd} db ∧
      Throughout env (fun now device db => ¬ PromotedBeforeSharer env now device db) db rest)
    (fun db device r => device.serial ≠ "" → ∃ a, SerialKey env device.serial a ∧
      db.graph.uidOf a = some r.1 ∧ db.graph.canonical a = some r.2)
    hf hcol (.inr hempty.ready.inv) (fun o ho => List.mem_map_of_mem ho) ⟨hempty, hearly⟩
    (by
      intro now device rest db db' uid deviceId hd hgood hok o hI
      obtain ⟨hsep, hrest⟩ := hI
      obtain ⟨hC, hrest⟩ := hrest.step hok
      rw [hsep.ready.inv.initializeInventory_eq now] at hC
      refine ⟨⟨hsep.observed o (hcatalog device hd) hC, hrest⟩,
        hsep.result o (hcatalog device hd), ?_⟩
      intro d r hr hs
      obtain ⟨a, ha, hau, hac⟩ := hr hs
      exact ⟨a, ha, (extends_of_steps (o.steps hgood hd)).uidOf hau,
        o.canonical_serial hsep.ready ha.isSerialKey hac⟩)
  refine ⟨db', out, hok, hlen, fun p hp q hq hps hqs hne => ?_⟩
  obtain ⟨a, ha, hau, hac⟩ := hresults p hp hps
  obtain ⟨b, hb, hbu, hbc⟩ := hresults q hq hqs
  have hab : a ≠ b := by
    rintro rfl
    exact hne (ha.unique hb)
  constructor
  · intro hu
    exact hab (hsep.uidOf_inj ha.isSerialKey hb.isSerialKey hau (hu ▸ hbu))
  · intro hdev
    exact hab (hsep.ready.inv.coherent.canonical_inj hac (hdev ▸ hbc))

/-- Two serial numbers on one endpoint, with an observation without metadata
between them. -/
theorem never_merges_reused_endpoint :
    NeverMerges plainEnv {}
      [(1, tcpDevice "10.0.0.1" "" "ps"), (2, tcpDevice "10.0.0.1" "S" "ps"),
       (3, tcpDevice "10.0.0.1" "" "ps"), (4, tcpDevice "10.0.0.1" "R" "qs")] :=
  never_merges plainEnv_freshUuids _ (noCollision_of_list (by decide))
    (by unfold CatalogProfile; decide +kernel) (by decide +kernel)

/-- Two USB adapters whose serial numbers differ in case, and a clock set back
between their observations: the second controller takes the uid of the first. -/
theorem not_never_merges_clock_set_back :
    ¬ NeverMerges plainEnv {}
      [(10, usbDevice "AB" "" "ps"), (20, usbDevice "AB" "S" "ps"), (30, usbDevice "ab" "" "ps"),
       (15, usbDevice "ab" "R" "ps")] := by
  rintro ⟨db', out, hok, -, hnever⟩
  have hout : (observeAll plainEnv {} [(10, usbDevice "AB" "" "ps"), (20, usbDevice "AB" "S" "ps"),
      (30, usbDevice "ab" "" "ps"), (15, usbDevice "ab" "R" "ps")]).map Prod.snd =
      .ok [("ctrl_", "serial:usb:AB:unit:1"), ("ctrl_", "serial:usb:AB:unit:1"),
        ("ctrl_", "serial:usb:ab:unit:1"), ("ctrl_", "serial:usb:ab:unit:1")] := by
    decide +kernel
  rw [hok] at hout
  cases hout
  have hne := hnever ((20, usbDevice "AB" "S" "ps"), ("ctrl_", "serial:usb:AB:unit:1")) (by simp)
    ((15, usbDevice "ab" "R" "ps"), ("ctrl_", "serial:usb:ab:unit:1")) (by simp)
    (by decide) (by decide) (by decide)
  exact hne.1 rfl

/-! ## temporary metadata loss -/

/-- The observation is attributed to the uid of the endpoint's owner, and adds
no identity. -/
def KeepsOwner (env : Env) (now : Nat) (device : DiscoveredDevice) (db : Db) : Prop :=
  ∃ start db' owner uid deviceId, initializeRegistry env now db = .ok start ∧
    start.endpointOwner? device.endpoint.stableKey = some owner ∧
    start.graph.uidOf owner.controllerId = some uid ∧
    registerObservation env now device db = .ok (db', uid, deviceId) ∧
    db'.identities.map IdentityRow.controllerId = start.identities.map IdentityRow.controllerId

section KeepOwner

variable {env : Env} {D : Set DiscoveredDevice} {E : Set Endpoint} {db db₁ start : Db} {now : Nat}
  {device : DiscoveredDevice} {a : Attribution}

/-- Without a serial number, an endpoint with an owner gets no new identity. -/
theorem Attributed.of_no_serial (ha : Attributed env now device db a db₁)
    (hs : device.serial = "") {owner : IdentityRow}
    (howner : db.endpointOwner? device.endpoint.stableKey = some owner) :
    db₁ = db ∧ a.controllerId =
      match db.identity? (identityKey env device) with
      | some r => r.controllerId
      | none => owner.controllerId := by
  cases ha with
  | matched hfound hid _ =>
      refine ⟨rfl, ?_⟩
      simp only [hfound]
      exact hid.trans (mem_of_lookup hfound).2.symm
  | fallback hn howner' _ hid _ =>
      rw [howner, Option.some.injEq] at howner'
      refine ⟨rfl, ?_⟩
      simp only [hn]
      exact howner' ▸ hid
  | promoted _ _ hne _ _ _ => exact absurd hs hne
  | introduced _ _ hnew _ _ _ =>
      rcases hnew with hne | hnone
      · exact absurd hs hne
      · rw [howner] at hnone
        cases hnone

/-- Recording and the synchronisations that follow add no identity. -/
theorem Observation.identities_eq {db' : Db} {uid deviceId : String}
    (o : Observation env D now device db db' uid deviceId) :
    db'.identities.map IdentityRow.controllerId =
      o.placed.identities.map IdentityRow.controllerId := by
  rw [o.second_same.identities, o.first_same.identities]
  exact map_update (by intro r; rfl)

/-- An observation without a serial number keeps the owner of its endpoint
exactly when its placeholder key names no other controller. -/
theorem Good.keepsOwner_iff (h : Good env D E db) (hf : env.FreshUuids) (hcol : NoCollision env D)
    (hd : device ∈ D) (hs : device.serial = "")
    (hstart : initializeRegistry env now db = .ok start) {owner : IdentityRow}
    (howner : start.endpointOwner? device.endpoint.stableKey = some owner) :
    KeepsOwner env now device db ↔
      ∀ r, start.identity? (identityKey env device) = some r →
        start.graph.uidOf r.controllerId = start.graph.uidOf owner.controllerId := by
  obtain ⟨db', uid, deviceId, hok, ⟨o⟩⟩ := registerObservation_spec h hf hcol now hd
  have hso : start = o.start := by
    have hsync := o.start_ok
    rw [hstart, Except.ok.injEq] at hsync
    exact hsync
  subst hso
  obtain ⟨hplaced, hid⟩ := o.attributed.of_no_serial hs howner
  have hids := o.identities_eq
  rw [hplaced] at hids
  -- the uid the call returns is the one the attributed identity had at the start
  have hcan : ∃ c, o.start.graph.canonical o.attribution.controllerId = some c := by
    have hc := (o.attributed.placed o.start_inv).canonical
    rw [hplaced] at hc
    exact ⟨_, hc⟩
  obtain ⟨c, hc⟩ := hcan
  obtain ⟨v, hv⟩ := o.start_synced.uidOf hc
  have hvuid : uid = v := by
    have hrec := ((o.attributed.placed o.start_inv).uids now).1
    have hfinal := o.second_sync.extend.uidOf (o.first_sync.extend.uidOf (by rw [hrec, hv]))
    rw [o.uid_eq, Option.some.injEq] at hfinal
    exact hfinal
  constructor
  · rintro ⟨start', db'', owner', uid', deviceId', hstart', howner', huid', hok', -⟩
    rw [hstart, Except.ok.injEq] at hstart'
    subst hstart'
    rw [howner, Option.some.injEq] at howner'
    subst howner'
    rw [hok, Except.ok.injEq] at hok'
    cases hok'
    intro r hr
    simp only [hr] at hid
    rw [← hid, hv, huid', hvuid]
  · intro hsame
    have howned : o.start.graph.uidOf owner.controllerId = some v := by
      cases hfound : o.start.identity? (identityKey env device) with
      | some r =>
          simp only [hfound] at hid
          rw [← hsame r hfound, ← hid, hv]
      | none =>
          simp only [hfound] at hid
          rw [← hid, hv]
    exact ⟨o.start, db', owner, uid, deviceId, hstart, howner, hvuid ▸ howned, hok, hids⟩

end KeepOwner

/-- **Temporary metadata loss.**  In every reachable state, and for every
endpoint with an owner, an observation there without a serial number keeps the
owner exactly when no identity has its placeholder key, or that identity has
the owner's uid. -/
theorem keeps_owner_iff {env : Env} (hf : env.FreshUuids) (ups : List (Nat × DiscoveredDevice))
    (calls : List (Nat × RegistryOp)) (now : Nat) (device : DiscoveredDevice)
    (hcol : NoCollision env {d | d ∈ device :: callDevices calls}) {db start : Db}
    (hrun : runRegistry env (legacyDb ups) calls = .ok db)
    (hstart : initializeRegistry env now db = .ok start) {owner : IdentityRow}
    (howner : start.endpointOwner? device.endpoint.stableKey = some owner)
    (hs : device.serial = "") :
    KeepsOwner env now device db ↔
      ∀ r, start.identity? (identityKey env device) = some r →
        start.graph.uidOf r.controllerId = start.graph.uidOf owner.controllerId := by
  have hgood := good_legacyDb env {d | d ∈ device :: callDevices calls} ups
  obtain ⟨db', hrun', hgood', -⟩ := runRegistry_spec hgood hf hcol
    (fun d hd => List.mem_cons_of_mem device hd)
  rw [hrun, Except.ok.injEq] at hrun'
  subst hrun'
  exact hgood'.keepsOwner_iff hf hcol List.mem_cons_self hs hstart howner

/-- One serial number at one endpoint: nothing has a placeholder key. -/
theorem keeps_owner_of_one_endpoint :
    ∃ db start owner, runRegistry plainEnv (legacyDb [])
        [(1, .observe (tcpDevice "10.0.0.2" "S" "ps"))] = .ok db ∧
      initializeRegistry plainEnv 2 db = .ok start ∧
      start.endpointOwner? (tcpDevice "10.0.0.2" "" "ps").endpoint.stableKey = some owner ∧
      (KeepsOwner plainEnv 2 (tcpDevice "10.0.0.2" "" "ps") db ↔
        ∀ r, start.identity? (identityKey plainEnv (tcpDevice "10.0.0.2" "" "ps")) = some r →
          start.graph.uidOf r.controllerId = start.graph.uidOf owner.controllerId) := by
  have heval : (do
      let db ← runRegistry plainEnv (legacyDb []) [(1, .observe (tcpDevice "10.0.0.2" "S" "ps"))]
      let start ← initializeRegistry plainEnv 2 db
      return (start.endpointOwner? "tcp:10.0.0.2:502:unit:1").isSome) = .ok true := by
    decide +kernel
  simp only [Loop.bind_eq_ok, Loop.pure_eq_ok, Except.ok.injEq] at heval
  obtain ⟨db, hrun, start, hstart, hsome⟩ := heval
  obtain ⟨owner, howner⟩ := Option.isSome_iff_exists.mp hsome
  have hkey : (tcpDevice "10.0.0.2" "" "ps").endpoint.stableKey = "tcp:10.0.0.2:502:unit:1" := by
    decide
  rw [← hkey] at howner
  exact ⟨db, start, owner, hrun, hstart, howner, keeps_owner_iff plainEnv_freshUuids [] _ 2 _
    (noCollision_of_list (by decide)) hrun hstart howner (by decide)⟩

/-- A USB adapter is seen without a serial number, then with the serial number
of a controller known elsewhere, then without one again: the observation falls
to the placeholder of the adapter. -/
theorem not_keeps_owner_stale_placeholder :
    ∃ db start owner, runRegistry plainEnv (legacyDb [])
        [(1, .observe (tcpDevice "10.0.0.2" "S" "ps")), (2, .observe (usbDevice "AB" "" "ps")),
         (3, .observe (usbDevice "AB" "S" "ps"))] = .ok db ∧
      initializeRegistry plainEnv 4 db = .ok start ∧
      start.endpointOwner? (usbDevice "AB" "" "ps").endpoint.stableKey = some owner ∧
      Text.strip owner.serialNumber = "S" ∧
      ¬ KeepsOwner plainEnv 4 (usbDevice "AB" "" "ps") db := by
  have heval : (do
      let db ← runRegistry plainEnv (legacyDb []) [(1, .observe (tcpDevice "10.0.0.2" "S" "ps")),
        (2, .observe (usbDevice "AB" "" "ps")), (3, .observe (usbDevice "AB" "S" "ps"))]
      let start ← initializeRegistry plainEnv 4 db
      let out ← registerObservation plainEnv 4 (usbDevice "AB" "" "ps") db
      return ((start.endpointOwner? "serial:usb:AB:unit:1").map fun owner : IdentityRow =>
        (Text.strip owner.serialNumber, start.graph.uidOf owner.controllerId), out.2.1)) =
      .ok (some ("S", some "ctrl_"), "ctrl_a") := by
    decide +kernel
  simp only [Loop.bind_eq_ok, Loop.pure_eq_ok, Except.ok.injEq, Prod.mk.injEq,
    Option.map_eq_some_iff] at heval
  obtain ⟨db, hrun, start, hstart, out, hout, ⟨owner, howner, hserial, huid⟩, hout_uid⟩ := heval
  have hkey : (usbDevice "AB" "" "ps").endpoint.stableKey = "serial:usb:AB:unit:1" := by decide
  refine ⟨db, start, owner, hrun, hstart, hkey ▸ howner, hserial, ?_⟩
  rintro ⟨start', db', owner', uid', deviceId, hstart', howner', huid', hok, -⟩
  rw [hstart, Except.ok.injEq] at hstart'
  subst hstart'
  rw [hkey, howner, Option.some.injEq] at howner'
  subst howner'
  rw [hout, Except.ok.injEq] at hok
  subst hok
  rw [huid, Option.some.injEq] at huid'
  simp [← huid'] at hout_uid

end MorningstarModbus
