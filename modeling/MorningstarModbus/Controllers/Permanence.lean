import MorningstarModbus.Controllers.RegistryRun

/-!
# MorningstarModbus.Controllers.Permanence

Controller uids are permanent: over any sequence of observations, from an
empty or a legacy database, no call fails, and an identifier that resolves to
a uid resolves to it ever after.

* `Ready` — the state an observation leaves;
* `RegistryStep.extends` — no step forgets a uid;
* `observeAll_ok` — the run rule: runs succeed, and keep what each step keeps.
-/

namespace MorningstarModbus

/-! ## the state between observations -/

/-- The registry between two observations: every identity has its uid. -/
structure Ready (env : Env) (D : Set DiscoveredDevice) (db : Db) : Prop where
  inv : Inv env D db
  synced : db.graph.Synced

/-- Resolving an identifier yields a scope with this uid. -/
def ResolvesTo (env : Env) (db : Db) (identifier uid : String) : Prop :=
  ∃ db' scope, resolve env identifier db = .ok (db', some scope) ∧ scope.controllerUid = uid

section Resolve

variable {env : Env} {D : Set DiscoveredDevice} {E : Set Endpoint} {db : Db}

/-- Between observations `resolve` reads the uid off the graph: its own
synchronisation gives no uid away. -/
theorem Ready.resolvesTo (h : Ready env D db) (hf : env.FreshUuids) {identifier uid : String} :
    ResolvesTo env db identifier uid ↔ db.uidFor identifier = some uid := by
  obtain ⟨db', hok, hinv, -, hsyncs, -⟩ := h.inv.synchronize hf
  have hall : ∀ a ∈ db.syncOrder, ∃ u, db.graph.uidOf a = some u := by
    intro a ha
    obtain ⟨r, hr, rfl⟩ := List.mem_map.mp ha
    have hmem : r ∈ db.identities := (List.mem_insertionSort syncBefore).mp hr
    exact h.synced.uidOf (h.inv.wellFormed.canonical hmem)
  obtain ⟨huid, hphys⟩ := hsyncs.stable h.inv.coherent hall
  have hsame : db'.uidFor identifier = db.uidFor identifier := by
    unfold Db.uidFor
    cases hp : db.graph.physical identifier with
    | none => simp only [(hphys identifier).mpr hp, huid]
    | some d =>
        cases hp' : db'.graph.physical identifier with
        | none => simp [(hphys identifier).mp hp'] at hp
        | some d' => rfl
  have hscope := scope?_spec hinv.coherent identifier
  rw [← hsame, ← hscope, Option.map_eq_some_iff]
  simp only [ResolvesTo, resolve, hok, Loop.ok_bind, Loop.pure_eq_ok, Except.ok.injEq,
    Prod.mk.injEq]
  constructor
  · rintro ⟨_, scope, ⟨rfl, hs⟩, hu⟩
    exact ⟨scope, hs, hu⟩
  · rintro ⟨scope, hs, hu⟩
    exact ⟨db', scope, ⟨rfl, hs⟩, hu⟩

/-- A legacy database resolves nothing. -/
theorem Legacy.not_resolvesTo (h : Legacy E db) {identifier uid : String} :
    ¬ ResolvesTo env db identifier uid := by
  rintro ⟨db', scope, hok, -⟩
  have hsync : syncCurrentIdentities env db = .ok db := by
    simp [syncCurrentIdentities, h.identities]
  simp only [resolve, hsync, Loop.ok_bind, Loop.pure_eq_ok, Except.ok.injEq, Prod.mk.injEq] at hok
  simp [Db.scope?, Db.physicalByIdentifier?, Db.physical?, Db.alias?, h.physical, h.aliases,
    Table.lookup] at hok

end Resolve

/-! ## no step forgets a uid -/

section Steps

variable {env : Env} {D : Set DiscoveredDevice} {E : Set Endpoint} {db db' : Db} {now : Nat}
  {device : DiscoveredDevice} {uid deviceId : String}

/-- A legacy database has no uid to forget. -/
theorem Legacy.extends (h : Legacy E db) (g : IdentityGraph String String String String) :
    db.graph.Extends g where
  uidOf := by simp [Db.graph, h.aliases, Table.lookup]
  physical := by simp [Db.graph, h.physical, Table.lookup]

/-- **No step forgets a uid.** -/
theorem RegistryStep.extends (h : RegistryStep env D E db db') : db.graph.Extends db'.graph := by
  cases h with
  | bootstrap now hl => exact hl.extends _
  | sync _ _ _ hsyncs _ => exact hsyncs.extend
  | observe now _ hi _ ha =>
      obtain ⟨huid, hphys⟩ := (ha.placed hi).uids now
      exact ⟨fun ha => by rw [huid]; exact ha, fun hu => ⟨_, by rw [hphys]; exact hu⟩⟩
  | quiet _ hq =>
      rw [hq.graph]
      exact refl_of IdentityGraph.Extends _
  | legacy hl _ => exact hl.extends _

theorem extends_of_steps (h : RegistrySteps env D E db db') : db.graph.Extends db'.graph := by
  induction h with
  | refl => exact refl_of IdentityGraph.Extends _
  | tail _ hstep ih => exact trans_of IdentityGraph.Extends ih hstep.extends

theorem Observation.ready (o : Observation env D now device db db' uid deviceId) :
    Ready env D db' := ⟨o.final_inv, o.final_synced⟩

end Steps

/-! ## runs of observations -/

section Runs

variable {env : Env} {D : Set DiscoveredDevice} {E : Set Endpoint}

/-- The run rule.  `I` holds of the database and the observations to come, and
every observation keeps it; `Q` holds of an observation and its result, and
later observations keep it.  Then the run succeeds and has both. -/
theorem observeAll_ok (I : Db → List (Nat × DiscoveredDevice) → Prop)
    (Q : Db → DiscoveredDevice → String × String → Prop) (hf : env.FreshUuids)
    (hcol : NoCollision env D) {db : Db} {rest : List (Nat × DiscoveredDevice)}
    (hdb : Good env D E db) (hD : ∀ o ∈ rest, o.2 ∈ D) (h0 : I db rest)
    (hstep : ∀ {now device rest db db' uid deviceId}, device ∈ D → Good env D E db →
      registerObservation env now device db = .ok (db', uid, deviceId) →
      Observation env D now device db db' uid deviceId → I db ((now, device) :: rest) →
      I db' rest ∧ Q db' device (uid, deviceId) ∧ ∀ d r, Q db d r → Q db' d r) :
    ∃ db' out, observeAll env db rest = .ok (db', out) ∧ I db' [] ∧ out.length = rest.length ∧
      (∀ p ∈ rest.zip out, Q db' p.1.2 p.2) ∧ (∀ d r, Q db d r → Q db' d r) ∧
      (rest = [] ∨ Ready env D db') := by
  induction rest generalizing db with
  | nil => exact ⟨db, [], rfl, h0, rfl, by simp, fun _ _ hQ => hQ, .inl rfl⟩
  | cons o rest ih =>
      obtain ⟨now, device⟩ := o
      have hd : device ∈ D := hD _ List.mem_cons_self
      obtain ⟨db₁, uid, deviceId, hok, ⟨o⟩⟩ := registerObservation_spec hdb hf hcol now hd
      obtain ⟨hI, hQ, hkeep⟩ := hstep hd hdb hok o h0
      obtain ⟨db', out, hrun, hI', hlen, hQs, hkeep', hready⟩ := ih (.inr o.final_inv)
        (fun o' ho' => hD o' (List.mem_cons_of_mem _ ho')) hI
      refine ⟨db', (uid, deviceId) :: out, ?_, hI', by simp [hlen], ?_,
        fun d r hr => hkeep' d r (hkeep d r hr), .inr ?_⟩
      · simp only [observeAll, hok, hrun, Loop.ok_bind, Loop.pure_eq_ok]
      · intro p hp
        rcases List.mem_cons.mp hp with rfl | hp
        · exact hkeep' _ _ hQ
        · exact hQs p hp
      · rcases hready with rfl | hready
        · have hdb' : db₁ = db' := by
            simp only [observeAll, Except.ok.injEq, Prod.mk.injEq] at hrun
            exact hrun.1
          exact hdb' ▸ o.ready
        · exact hready

theorem good_legacyDb (env : Env) (D : Set DiscoveredDevice) (ups : List (Nat × DiscoveredDevice)) :
    Good env D Set.univ (legacyDb ups) :=
  .inl (legacy_legacyDb fun _ _ => Set.mem_univ _)

/-- A run of observations ends in a `Ready` state. -/
theorem observeAll_ready (hf : env.FreshUuids) (hcol : NoCollision env D) {db : Db}
    (hdb : Good env D E db) {observations : List (Nat × DiscoveredDevice)}
    (hD : ∀ o ∈ observations, o.2 ∈ D) :
    ∃ db' out, observeAll env db observations = .ok (db', out) ∧ db.graph.Extends db'.graph ∧
      (observations = [] ∨ Ready env D db') := by
  obtain ⟨db', out, hok, hext, -, -, -, hready⟩ := observeAll_ok
    (fun db' _ => db.graph.Extends db'.graph) (fun _ _ _ => True) hf hcol hdb hD
    (refl_of _ db.graph) (fun hd hgood _ o hext =>
      ⟨trans_of IdentityGraph.Extends hext (extends_of_steps (o.steps hgood hd)), trivial,
        fun _ _ _ => trivial⟩)
  exact ⟨db', out, hok, hext, hready⟩

/-- **Identity permanence.**  From an empty or a legacy database no sequence of
observations fails, and an identifier that resolves to a uid at some point of
the run resolves to it at every later point. -/
theorem controller_uid_permanent (hf : env.FreshUuids)
    (ups before after : List (Nat × DiscoveredDevice))
    (hcol : NoCollision env {d | d ∈ (before ++ after).map Prod.snd}) :
    ∃ db₁ out₁ db₂ out₂, observeAll env (legacyDb ups) before = .ok (db₁, out₁) ∧
      observeAll env db₁ after = .ok (db₂, out₂) ∧
      ∀ identifier uid, ResolvesTo env db₁ identifier uid → ResolvesTo env db₂ identifier uid := by
  have hgood := good_legacyDb env {d | d ∈ (before ++ after).map Prod.snd} ups
  have hbefore : ∀ o ∈ before, o.2 ∈ (before ++ after).map Prod.snd :=
    fun o ho => List.mem_map_of_mem (List.mem_append_left after ho)
  have hafter : ∀ o ∈ after, o.2 ∈ (before ++ after).map Prod.snd :=
    fun o ho => List.mem_map_of_mem (List.mem_append_right before ho)
  obtain ⟨db₁, out₁, hok₁, -, hready₁⟩ := observeAll_ready hf hcol hgood hbefore
  have hgood₁ : Good env {d | d ∈ (before ++ after).map Prod.snd} Set.univ db₁ := by
    rcases hready₁ with rfl | hready₁
    · cases hok₁
      exact hgood
    · exact .inr hready₁.inv
  obtain ⟨db₂, out₂, hok₂, hext, hready₂⟩ := observeAll_ready hf hcol hgood₁ hafter
  refine ⟨db₁, out₁, db₂, out₂, hok₁, hok₂, fun identifier uid hres => ?_⟩
  rcases hready₁ with rfl | hready₁
  · -- nothing resolves before the first observation
    cases hok₁
    exact absurd hres (legacy_legacyDb (E := Set.univ) fun _ _ => Set.mem_univ _).not_resolvesTo
  · rcases hready₂ with rfl | hready₂
    · cases hok₂
      exact hres
    · rw [hready₁.resolvesTo hf] at hres
      exact (hready₂.resolvesTo hf).mpr (uidFor_extends hready₁.inv hready₂.inv hext hres)

end Runs

/-! ## a concrete environment -/

/-- ASCII lower-casing, a digest that never collides, and uuids of growing
length. -/
def plainEnv : Env where
  lower s := String.ofList (s.toList.map fun c =>
    if 'A' ≤ c ∧ c ≤ 'Z' then Char.ofNat (c.toNat + 32) else c)
  digest s := s
  uuid4 n := String.ofList (List.replicate n 'a')

theorem plainEnv_freshUuids : plainEnv.FreshUuids := by
  intro m n hmn
  have hlist : List.replicate m 'a' = List.replicate n 'a' := by
    simpa only [plainEnv, String.toList_ofList] using congrArg String.toList hmn
  simpa using congrArg List.length hlist

/-- A TCP controller as discovery reports it. -/
def tcpDevice (target serial profile : String) : DiscoveredDevice where
  endpoint := { transport := .tcp, target, unitId := 1 }
  profile
  intelligence := some { profile, family := "", serialNumber := serial }

/-- A controller behind a USB adapter. -/
def usbDevice (usbSerial serial profile : String) : DiscoveredDevice where
  endpoint := { transport := .serial, target := "/dev/ttyUSB0", unitId := 1,
                usbSerial := some usbSerial }
  profile
  intelligence := some { profile, family := "", serialNumber := serial }

/-- For a list of devices the assumption can be decided. -/
theorem noCollision_of_list {env : Env} {devices : List DiscoveredDevice}
    (h : ∀ d ∈ devices, ∀ d' ∈ devices, conflictDeviceId env d = conflictDeviceId env d' →
      d.profile = d'.profile ∧ d.serialNumber = d'.serialNumber ∧
        d.endpoint.stableKey = d'.endpoint.stableKey) :
    NoCollision env {d | d ∈ devices} := h

/-- A placeholder is promoted, then another serial number takes the endpoint. -/
theorem controller_uid_permanent_reused_endpoint :
    ∃ db₁ out₁ db₂ out₂,
      observeAll plainEnv (legacyDb [(1, tcpDevice "10.0.0.1" "" "ps")])
        [(2, tcpDevice "10.0.0.1" "" "ps"), (3, tcpDevice "10.0.0.1" "S" "ps")] =
          .ok (db₁, out₁) ∧
      observeAll plainEnv db₁ [(4, tcpDevice "10.0.0.1" "R" "ps")] = .ok (db₂, out₂) ∧
      ∀ identifier uid, ResolvesTo plainEnv db₁ identifier uid →
        ResolvesTo plainEnv db₂ identifier uid :=
  controller_uid_permanent plainEnv_freshUuids [(1, tcpDevice "10.0.0.1" "" "ps")]
    [(2, tcpDevice "10.0.0.1" "" "ps"), (3, tcpDevice "10.0.0.1" "S" "ps")]
    [(4, tcpDevice "10.0.0.1" "R" "ps")] (noCollision_of_list (by decide))

end MorningstarModbus
