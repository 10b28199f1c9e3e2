import MorningstarModbus.Controllers.Presence
import MorningstarModbus.Runtime.Watcher

/-!
# MorningstarModbus.Runtime.Presence

The daemon: the watcher's dictionaries over the controller registry, and the
presence of controllers after every discovery refresh.

* `Daemon` — the calls of `run`, `_refresh_devices` and `_poll_all` that reach
  the registry;
* `Daemon.Present` — the active connections are the selected ones;
* `presence_follows_selection` — so it is after every refresh, and until the
  next one, as long as no observation brings back a promoted placeholder.
-/

namespace MorningstarModbus

open Table

/-! ## the daemon -/

structure Daemon where
  db : Db
  watcher : Watcher := {}

inductive DaemonError where
  | registry (e : RegistryError)
  | lifecycle (e : LifecycleError)
  deriving DecidableEq

/-- The uids and the endpoint keys a refresh selected. -/
def Watcher.selectedPairs (w : Watcher) : List (String × String) :=
  w.presentControllerIds.zip w.presentKeys

/-- A poll that succeeded, and is persisted at this time. -/
def persistSuccess (env : Env) (readings : String → PollReading) (w : Watcher) (db : Db)
    (poll : Nat × String) : Except RegistryError Db :=
  if poll.2 ∉ w.presentKeys then .ok db
  else match w.polled readings poll.2, (readings poll.2).values with
  | some (uid, device), some _ => recordSuccess env poll.1 uid device.endpoint.stableKey db
  | _, _ => .ok db

namespace Daemon

variable (env : Env)

/-- The start of `run`: nothing that was stored is online. -/
def start (now : Nat) (d : Daemon) : Except DaemonError Daemon := do
  let db ← (initializeRegistry env now d.db).mapError .registry
  return { db := markAllOffline db }

/-- `_refresh_devices`, from the devices `discover` found, each at the time it
is registered. -/
def refreshDevices (found : List (Nat × DiscoveredDevice)) (now : Nat) (d : Daemon) :
    Except DaemonError Daemon := do
  let (db, ids) ← (observeAll env d.db found).mapError .registry
  let resolved := (found.zip ids).map fun p => { controllerId := p.2.1, deviceId := p.2.2,
                                                 device := p.1.2 : Resolved }
  let selected := selectControllerEndpoints d.watcher.controllerKeys resolved
  let db ← (reconcilePresence env now (selected.map fun s => (s.controllerId, s.key)) db).mapError
    .registry
  let missing := d.watcher.presentControllerIds.filter fun uid =>
    uid ∉ selected.map Resolved.controllerId
  let db := (missing.filterMap d.watcher.canonicalDeviceIds).foldl
    (fun db deviceId => markDeviceOffline deviceId db) db
  return { db, watcher := d.watcher.refresh now resolved }

/-- `_poll_all`, with the polls that are persisted in the order they are. -/
def pollAll (settings : WatchSettings) (readings : String → PollReading)
    (persisted : List (Nat × String)) (d : Daemon) : Except DaemonError Daemon := do
  let watcher ← (d.watcher.pollAll settings readings).mapError .lifecycle
  let db ← (persisted.foldlM (persistSuccess env readings d.watcher) d.db).mapError .registry
  return { db, watcher }

end Daemon

/-- The arguments of a poll cycle. -/
structure PollCycle where
  settings : WatchSettings
  readings : String → PollReading
  persisted : List (Nat × String)

/-- Poll cycles one after the other. -/
def Daemon.pollCycles (env : Env) (cycles : List PollCycle) (d : Daemon) :
    Except DaemonError Daemon :=
  cycles.foldlM (fun d c => d.pollAll env c.settings c.readings c.persisted) d

/-- What one refresh is given: devices of `D` at distinct endpoints, none of
which brings back the key of a promoted placeholder. -/
structure Discovery (env : Env) (D : Set DiscoveredDevice) (db : Db)
    (found : List (Nat × DiscoveredDevice)) : Prop where
  known : ∀ o ∈ found, o.2 ∈ D
  distinct : (found.map fun o => o.2.endpoint.stableKey).Nodup
  noRevival : NoRevival env db found

/-- The states the daemon reaches from a database of legacy rows. -/
inductive DaemonRun (env : Env) (D : Set DiscoveredDevice) (ups : List (Nat × DiscoveredDevice)) :
    Daemon → Prop
  | new : DaemonRun env D ups { db := legacyDb ups }
  | start {d d'} (now : Nat) : DaemonRun env D ups d → d.start env now = .ok d' →
      DaemonRun env D ups d'
  | refresh {d d'} {found : List (Nat × DiscoveredDevice)} (now : Nat) : DaemonRun env D ups d →
      Discovery env D d.db found → d.refreshDevices env found now = .ok d' → DaemonRun env D ups d'
  | poll {d d'} (c : PollCycle) : DaemonRun env D ups d →
      d.pollAll env c.settings c.readings c.persisted = .ok d' → DaemonRun env D ups d'

/-- The active rows of `controller_connections` are the selected pairs, so
every controller has at most one and every endpoint at most one owner. -/
structure Daemon.Present (d : Daemon) : Prop where
  exact : ∀ controllerId endpointKey,
    (∃ c ∈ d.db.connections, c.active = true ∧ c.controllerId = controllerId ∧
      c.endpointKey = endpointKey) ↔
    ∃ uid scope, (uid, endpointKey) ∈ d.watcher.selectedPairs ∧ d.db.scope? uid = some scope ∧
      scope.controllerId = controllerId
  controller : ∀ c ∈ d.db.connections, ∀ c' ∈ d.db.connections, c.active = true →
    c'.active = true → (d.db.scope? c.controllerId).map ControllerScope.controllerUid =
      (d.db.scope? c'.controllerId).map ControllerScope.controllerUid → c = c'
  endpoint : ∀ c ∈ d.db.connections, ∀ c' ∈ d.db.connections, c.active = true →
    c'.active = true → c.endpointKey = c'.endpointKey → c = c'

/-! ## the dictionaries -/

section Watcher

variable {w w' : Watcher} {now : Nat} {settings : WatchSettings} {readings : String → PollReading}

/-- Every device is under the key of its endpoint. -/
def Watcher.KeyedByEndpoint (w : Watcher) : Prop :=
  ∀ k device, w.devices k = some device → device.endpoint.stableKey = k

/-- A present endpoint that has a controller has the one it was selected for. -/
def Watcher.OwnersSelected (w : Watcher) : Prop :=
  ∀ k ∈ w.presentKeys, ∀ uid, w.controllerIds k = some uid → (uid, k) ∈ w.selectedPairs

theorem mem_without {α : Type} {d : Dict String α} {v : Option String} {k : String} {x : α}
    (h : Watcher.without d v k = some x) : d k = some x := by
  rw [Watcher.without_apply] at h
  split at h
  · cases h
  · exact h

theorem Watcher.KeyedByEndpoint.rebind (h : w.KeyedByEndpoint) (now : Nat) (s : Resolved) :
    (w.rebind now s).KeyedByEndpoint := by
  intro k device hk
  rw [(Watcher.rebind_frame now w s).1] at hk
  by_cases hks : k = s.key
  · subst hks
    rw [Dict.set_self, Option.some.injEq] at hk
    rw [← hk]
    rfl
  · rw [Dict.set_of_ne _ _ hks] at hk
    exact h k device (mem_without hk)

theorem refresh_selectedPairs (now : Nat) (resolved : List Resolved) (w : Watcher) :
    (w.refresh now resolved).selectedPairs =
      (selectControllerEndpoints w.controllerKeys resolved).map fun s =>
        (s.controllerId, s.key) := by
  simp only [Watcher.selectedPairs, Watcher.refresh, List.zip_map']

/-- **A refresh** keeps the devices under their keys, and the owner of a
present endpoint is the controller it was selected for. -/
theorem refresh_owners (h : w.KeyedByEndpoint) (now : Nat) {resolved : List Resolved}
    (hkeys : (resolved.map Resolved.key).Nodup) :
    (w.refresh now resolved).KeyedByEndpoint ∧ (w.refresh now resolved).OwnersSelected := by
  obtain ⟨selected, hselected⟩ : ∃ selected, selected =
    selectControllerEndpoints w.controllerKeys resolved := ⟨_, rfl⟩
  have hnodup : (selected.map Resolved.key).Nodup :=
    hselected ▸ selected_keys_nodup w.controllerKeys hkeys
  obtain ⟨w₀, hw₀⟩ : ∃ w₀, w₀ = (w.presentControllerIds.filter fun uid =>
    uid ∉ selected.map Resolved.controllerId).foldl (Watcher.markMissing now) w := ⟨_, rfl⟩
  have hkeyed₀ : w₀.KeyedByEndpoint := by
    rw [hw₀, Watcher.KeyedByEndpoint, (Watcher.missing_frame now _ w).1]
    exact h
  -- once a selected endpoint has its controller, later turns can only take it away
  have hloop : (selected.foldl (Watcher.rebind now) w₀).KeyedByEndpoint ∧
      ∀ s ∈ selected, ∀ uid, (selected.foldl (Watcher.rebind now) w₀).controllerIds s.key =
        some uid → uid = s.controllerId := by
    refine Loop.foldl_invariant (fun done (w' : Watcher) => w'.KeyedByEndpoint ∧
      ∀ s ∈ done, ∀ uid, w'.controllerIds s.key = some uid → uid = s.controllerId) selected
      ⟨hkeyed₀, by simp⟩ ?_
    rintro done t rest w' hsplit ⟨hkeyed, howners⟩
    refine ⟨hkeyed.rebind now t, fun s hs uid huid => ?_⟩
    rw [(Watcher.rebind_frame now w' t).2.2.1] at huid
    rcases List.mem_append.mp hs with hs | hs
    · have hne : s.key ≠ t.key := by
        rw [hsplit, List.map_append, List.map_cons, List.nodup_append] at hnodup
        exact hnodup.2.2 _ (List.mem_map_of_mem hs) _ List.mem_cons_self
      rw [Dict.set_of_ne _ _ hne] at huid
      exact howners s hs uid (mem_without huid)
    · rw [List.mem_singleton] at hs
      subst hs
      rw [Dict.set_self, Option.some.injEq] at huid
      exact huid.symm
  have hrefresh : w.refresh now resolved = { selected.foldl (Watcher.rebind now) w₀ with
      presentControllerIds := selected.map Resolved.controllerId
      presentKeys := selected.map Resolved.key } := by
    rw [hw₀, hselected]
    rfl
  have hpairs := refresh_selectedPairs now resolved w
  rw [← hselected] at hpairs
  refine ⟨by rw [hrefresh]; exact hloop.1, ?_⟩
  intro k hk uid huid
  rw [hpairs]
  rw [hrefresh] at hk huid
  obtain ⟨s, hs, rfl⟩ := List.mem_map.mp hk
  rw [hloop.2 s hs uid huid]
  exact List.mem_map.mpr ⟨s, hs, rfl⟩

end Watcher

/-! ## presence -/

section Presence

variable {env : Env} {D : Set DiscoveredDevice} {ups : List (Nat × DiscoveredDevice)}
  {d d' : Daemon}

/-- What holds between two calls of the daemon. -/
structure Daemon.Between (env : Env) (D : Set DiscoveredDevice) (d : Daemon) : Prop where
  good : Good env D Set.univ d.db
  exclusive : d.db.graph.Exclusive
  keyed : d.watcher.KeyedByEndpoint

/-- What holds between a refresh and the next one. -/
structure Daemon.Refreshed (env : Env) (D : Set DiscoveredDevice) (d : Daemon) : Prop extends
  Daemon.Between env D d where
  present : d.db.Present d.watcher.selectedPairs
  owners : d.watcher.OwnersSelected
  ready : d.watcher.selectedPairs = [] ∨ Steady env D d.db
  controllers : (d.watcher.selectedPairs.map Prod.fst).Nodup
  keys : (d.watcher.selectedPairs.map Prod.snd).Nodup

/-- Storing devices offline leaves the graph and the connections alone. -/
theorem Good.markDevicesOffline {E : Set Endpoint} (ids : List String) {db : Db}
    (h : Good env D E db) :
    Good env D E (ids.foldl (fun db deviceId => markDeviceOffline deviceId db) db) ∧
      (ids.foldl (fun db deviceId => markDeviceOffline deviceId db) db).graph = db.graph ∧
      (ids.foldl (fun db deviceId => markDeviceOffline deviceId db) db).connections =
        db.connections ∧
      (Steady env D db →
        Steady env D (ids.foldl (fun db deviceId => markDeviceOffline deviceId db) db)) := by
  refine Loop.foldl_invariant (fun _ db' => Good env D E db' ∧ db'.graph = db.graph ∧
    db'.connections = db.connections ∧ (Steady env D db → Steady env D db')) ids
    ⟨h, rfl, rfl, id⟩ ?_
  rintro done deviceId rest db' - ⟨hgood, hgraph, hconn, hsteady⟩
  have hquiet := quiet_markDeviceOffline deviceId db'
  have hgood' := (offline_spec hgood hquiet rfl rfl rfl rfl rfl).1
  exact ⟨hgood', hquiet.graph.trans hgraph, hconn, fun hs => (hsteady hs).quiet hquiet⟩

/-- The devices of a refresh with what the registry gave them. -/
def resolvedDevices (found : List (Nat × DiscoveredDevice)) (ids : List (String × String)) :
    List Resolved :=
  (found.zip ids).map fun p => { controllerId := p.2.1, deviceId := p.2.2, device := p.1.2 }

theorem keys_resolvedDevices {found : List (Nat × DiscoveredDevice)}
    {ids : List (String × String)} (h : ids.length = found.length) :
    (resolvedDevices found ids).map Resolved.key = found.map fun o => o.2.endpoint.stableKey := by
  have hfst : (found.zip ids).map Prod.fst = found := List.map_fst_zip (by omega)
  rw [resolvedDevices, List.map_map]
  conv_rhs => rw [← hfst, List.map_map]
  rfl

/-- **A refresh** finds its devices, and leaves the daemon refreshed. -/
theorem Daemon.Between.refresh (h : d.Between env D) (hf : env.FreshUuids)
    (hcol : NoCollision env D) {found : List (Nat × DiscoveredDevice)}
    (hfound : Discovery env D d.db found) (now : Nat) :
    ∃ d', d.refreshDevices env found now = .ok d' ∧ d'.Refreshed env D := by
  obtain ⟨db₁, ids, hobserve, hexcl, hlen, hreach, hready⟩ := observeAll_reaches hf hcol h.good
    h.exclusive hfound.known hfound.noRevival
  obtain ⟨selected, hselected⟩ : ∃ selected, selected = selectControllerEndpoints
    d.watcher.controllerKeys (resolvedDevices found ids) := ⟨_, rfl⟩
  have hkeys : ((resolvedDevices found ids).map Resolved.key).Nodup := by
    rw [keys_resolvedDevices hlen]
    exact hfound.distinct
  have hsel : ∀ p ∈ selected.map (fun s => (s.controllerId, s.key)),
      db₁.graph.Reaches p.1 p.2 := by
    intro p hp
    obtain ⟨s, hs, rfl⟩ := List.mem_map.mp hp
    obtain ⟨q, hq, rfl⟩ := List.mem_map.mp (mem_of_selected (hselected ▸ hs))
    exact hreach q hq
  -- the registry after presence was reconciled
  obtain ⟨db₂, hreconcile, hgood₂, hexcl₂, hpresent₂, hsteady₂⟩ : ∃ db₂,
      reconcilePresence env now (selected.map fun s => (s.controllerId, s.key)) db₁ = .ok db₂ ∧
      Good env D Set.univ db₂ ∧ db₂.graph.Exclusive ∧
      db₂.Present (selected.map fun s => (s.controllerId, s.key)) ∧
      (selected.map (fun s => (s.controllerId, s.key)) = [] ∨ Steady env D db₂) := by
    rcases hready with rfl | hready
    · have hnil : selected = [] := by
        rw [hselected]
        rfl
      have hdb : d.db = db₁ := by
        simp only [observeAll, Except.ok.injEq, Prod.mk.injEq] at hobserve
        exact hobserve.1
      have hgood₁ : Good env D Set.univ db₁ := hdb ▸ h.good
      obtain ⟨db₂, hok, hi, hgraph, hp⟩ := reconcilePresence_nil hgood₁ now
      rw [hnil]
      exact ⟨db₂, hok, .inr hi, hgraph ▸ (hgood₁.exclusive_inventory hexcl now).1, hp, .inl rfl⟩
    · obtain ⟨db₂, hok, hs, hp⟩ := reconcilePresence_present ⟨hready, hexcl⟩ hf now hsel
      exact ⟨db₂, hok, .inr hs.inv, hs.exclusive, hp, .inr hs⟩
  obtain ⟨hgood₃, hgraph₃, hconn₃, hsteady₃⟩ := hgood₂.markDevicesOffline
    ((d.watcher.presentControllerIds.filter fun uid =>
      uid ∉ selected.map Resolved.controllerId).filterMap d.watcher.canonicalDeviceIds)
  obtain ⟨hkeyed, howners⟩ := refresh_owners h.keyed now hkeys
  have hpairs := refresh_selectedPairs now (resolvedDevices found ids) d.watcher
  rw [← hselected] at hpairs
  refine ⟨⟨_, d.watcher.refresh now (resolvedDevices found ids)⟩, ?_, ⟨hgood₃, ?_, hkeyed⟩, ?_,
    howners, ?_, ?_, ?_⟩
  · have hok₁ := (Loop.mapError_eq_ok (f := DaemonError.registry)).mpr hobserve
    have hok₂ := (Loop.mapError_eq_ok (f := DaemonError.registry)).mpr hreconcile
    rw [hselected, resolvedDevices] at hok₂ ⊢
    simp only [Daemon.refreshDevices, hok₁, hok₂, Loop.ok_bind, Loop.pure_eq_ok]
  · rw [hgraph₃]
    exact hexcl₂
  · rw [hpairs]
    exact hpresent₂.congr hgraph₃ hconn₃
  · rw [hpairs]
    exact hsteady₂.imp_right hsteady₃
  · rw [hpairs, List.map_map]
    exact hselected ▸ selected_controllers_nodup _ _
  · rw [hpairs, List.map_map]
    exact hselected ▸ selected_keys_nodup _ hkeys

/-- **Polls** leave the daemon refreshed. -/
theorem Daemon.Refreshed.poll (h : d.Refreshed env D) (hf : env.FreshUuids) (c : PollCycle)
    (hok : d.pollAll env c.settings c.readings c.persisted = .ok d') :
    d'.Refreshed env D ∧ d'.watcher.selectedPairs = d.watcher.selectedPairs := by
  simp only [Daemon.pollAll, Loop.bind_eq_ok, Loop.mapError_eq_ok, Loop.pure_eq_ok,
    Except.ok.injEq] at hok
  obtain ⟨w', hw, db', hdb, rfl⟩ := hok
  have hsame := Watcher.pollAll_sameOwners hw
  have hpairs : w'.selectedPairs = d.watcher.selectedPairs := by
    simp only [Watcher.selectedPairs, hsame.presentControllerIds, hsame.presentKeys]
  obtain ⟨hgood, hexcl, hpresent, hready⟩ : Good env D Set.univ db' ∧ db'.graph.Exclusive ∧
      db'.Present d.watcher.selectedPairs ∧
      (d.watcher.selectedPairs = [] ∨ Steady env D db') := by
    refine Loop.foldlM_invariant (P := fun db => Good env D Set.univ db ∧ db.graph.Exclusive ∧
      db.Present d.watcher.selectedPairs ∧ (d.watcher.selectedPairs = [] ∨ Steady env D db)) hdb
      ⟨h.good, h.exclusive, h.present, h.ready⟩ ?_
    rintro ⟨time, key⟩ - db₁ db₂ ⟨hgood, hexcl, hpresent, hready⟩ hstep
    unfold persistSuccess at hstep
    split at hstep
    · cases hstep
      exact ⟨hgood, hexcl, hpresent, hready⟩
    · next hkey =>
      rw [not_not] at hkey
      split at hstep
      · next uid device _ hpolled _ =>
        have hentry : d.watcher.devices key = some device ∧
            d.watcher.controllerIds key = some uid := by
          unfold Watcher.polled at hpolled
          split at hpolled
          · next device' uid' _ hdev huid _ =>
            split at hpolled
            · simp only [Option.some.injEq, Prod.mk.injEq] at hpolled
              exact ⟨hpolled.2 ▸ hdev, hpolled.1 ▸ huid⟩
            · cases hpolled
          · cases hpolled
        have hmem := h.owners key hkey uid hentry.2
        have hsteady : Steady env D db₁ := by
          rcases hready with hnil | hsteady
          · rw [hnil] at hmem
            cases hmem
          · exact hsteady
        rw [h.keyed key device hentry.1] at hstep
        obtain ⟨db₃, hok, hsteady', hpresent'⟩ := recordSuccess_present hsteady hf time hpresent hmem
        rw [hok, Except.ok.injEq] at hstep
        subst hstep
        exact ⟨.inr hsteady'.inv, hsteady'.exclusive, hpresent', .inr hsteady'⟩
      · cases hstep
        exact ⟨hgood, hexcl, hpresent, hready⟩
  refine ⟨⟨⟨hgood, hexcl, ?_⟩, ?_, ?_, ?_, ?_, ?_⟩, hpairs⟩
  · rw [Watcher.KeyedByEndpoint, hsame.devices]
    exact h.keyed
  · rw [hpairs]
    exact hpresent
  · rw [Watcher.OwnersSelected, hsame.presentKeys, hsame.controllerIds, hpairs]
    exact h.owners
  · rw [hpairs]
    exact hready
  · rw [hpairs]
    exact h.controllers
  · rw [hpairs]
    exact h.keys

/-- A daemon without a present controller. -/
theorem Daemon.refreshed_of_idle (hgood : Good env D Set.univ d.db)
    (hexcl : d.db.graph.Exclusive) (hactive : ∀ c ∈ d.db.connections, c.active = false)
    (hw : d.watcher = {}) : d.Refreshed env D := by
  have hnil : d.watcher.selectedPairs = [] := by
    rw [hw]
    rfl
  refine ⟨⟨hgood, hexcl, ?_⟩, ?_, ?_, .inl hnil, ?_, ?_⟩
  · rw [hw]
    intro k device hk
    cases hk
  · rw [hnil]
    exact ⟨fun c hc => by simp [hactive c hc], fun u k huk => by cases huk⟩
  · rw [hw]
    intro k hk
    cases hk
  · rw [hnil]
    exact List.nodup_nil
  · rw [hnil]
    exact List.nodup_nil

/-- **Every state of a run** is refreshed. -/
theorem DaemonRun.refreshed (h : DaemonRun env D ups d) (hf : env.FreshUuids)
    (hcol : NoCollision env D) : d.Refreshed env D := by
  induction h with
  | new =>
      have hl : Legacy Set.univ (legacyDb ups) := legacy_legacyDb fun _ _ => Set.mem_univ _
      have hscoped : Scoped env Set.univ (legacyDb ups) := hl.scoped
      exact Daemon.refreshed_of_idle (.inl hl) hscoped.exclusive (by simp [hl.connections]) rfl
  | @start d d' now _ hok ih =>
      obtain ⟨db, hreg, hi, hs, hsyncs, -⟩ := ih.good.registry hf now
      have hexcl₀ := (ih.good.exclusive_inventory ih.exclusive now).1
      obtain ⟨hexcl, -⟩ := hsyncs.exclusive (ih.good.inventory now).coherent hexcl₀
      simp only [Daemon.start, (Loop.mapError_eq_ok (f := DaemonError.registry)).mpr hreg, Loop.ok_bind,
        Loop.pure_eq_ok, Except.ok.injEq] at hok
      subst hok
      have hquiet := quiet_markAllOffline db
      refine Daemon.refreshed_of_idle (.inr (hi.quiet hquiet)) ?_ ?_ rfl
      · exact hquiet.graph ▸ hexcl
      · intro c hc
        obtain ⟨old, -, ⟨-, rfl⟩ | ⟨hp, -⟩⟩ := mem_update.mp hc
        · rfl
        · cases hp
  | refresh now _ hfound hok ih =>
      obtain ⟨d₁, hok₁, hr⟩ := ih.toBetween.refresh hf hcol hfound now
      rw [hok, Except.ok.injEq] at hok₁
      exact hok₁ ▸ hr
  | poll c _ hok ih => exact (ih.poll hf c hok).1

/-- A refreshed daemon has the connections it selected, and no others, active. -/
theorem Daemon.Refreshed.presence (h : d.Refreshed env D) : d.Present := by
  have hsteady : ∀ {p}, p ∈ d.watcher.selectedPairs → Steady env D d.db := by
    intro p hp
    rcases h.ready with hnil | hs
    · rw [hnil] at hp
      cases hp
    · exact hs
  -- an active connection belongs to the uid that was selected for its endpoint
  have hown : ∀ c ∈ d.db.connections, c.active = true →
      ∃ u, (u, c.endpointKey) ∈ d.watcher.selectedPairs ∧
        d.db.graph.uidOf c.controllerId = some u :=
    fun c hc ha => (h.present.active c hc).mp ha
  have hsame : ∀ c ∈ d.db.connections, ∀ c' ∈ d.db.connections, ∀ u,
      (u, c.endpointKey) ∈ d.watcher.selectedPairs → d.db.graph.uidOf c.controllerId = some u →
      d.db.graph.uidOf c'.controllerId = some u → c.endpointKey = c'.endpointKey → c = c' := by
    intro c hc c' hc' u hu hcu hcu' hkey
    have hs := hsteady hu
    have hid : c.controllerId = c'.controllerId :=
      hs.eq_of_uidOf ⟨c, hc, rfl⟩ ⟨c', hc', rfl⟩ hcu hcu'
    exact hs.inv.wellFormed.connections.eq hc hc' (Prod.ext hid hkey)
  constructor
  case exact =>
    intro a k
    constructor
    · rintro ⟨c, hc, ha, rfl, rfl⟩
      obtain ⟨u, hu, hcu⟩ := hown c hc ha
      obtain ⟨s, hscope, hsu, hsc⟩ := (hsteady hu).scope_of_reaches (h.present.reaches _ _ hu)
      exact ⟨u, s, hu, hscope, (hsteady hu).eq_of_uidOf hsc ⟨c, hc, rfl⟩ hsu hcu⟩
    · rintro ⟨u, s, hu, hscope, rfl⟩
      obtain ⟨s', hscope', hsu, c, hc, hkey⟩ :=
        (hsteady hu).scope_of_reaches (h.present.reaches _ _ hu)
      rw [hscope, Option.some.injEq] at hscope'
      subst hscope'
      simp only [ConnectionRow.key, Prod.mk.injEq] at hkey
      refine ⟨c, hc, (h.present.active c hc).mpr ⟨u, ?_, ?_⟩, hkey⟩
      · rw [hkey.2]
        exact hu
      · rw [hkey.1]
        exact hsu
  case controller =>
    intro c hc c' hc' ha ha' heq
    obtain ⟨u, hu, hcu⟩ := hown c hc ha
    obtain ⟨u', hu', hcu'⟩ := hown c' hc' ha'
    have hi := (hsteady hu).inv
    have hfor : ∀ {a v}, d.db.graph.uidOf a = some v → d.db.uidFor a = some v := by
      intro a v hv
      unfold Db.uidFor
      cases hp : d.db.graph.physical a with
      | none => exact hv
      | some x =>
          obtain ⟨n, -, hn⟩ := hi.drawn hp
          exact absurd (hn ▸ isUidKey_newUid env n) (hi.alias_shape hv)
    rw [scope?_spec hi.coherent, scope?_spec hi.coherent, hfor hcu, hfor hcu',
      Option.some.injEq] at heq
    subst heq
    have hpair : (u, c.endpointKey) = (u, c'.endpointKey) :=
      List.inj_on_of_nodup_map h.controllers hu hu' rfl
    exact hsame c hc c' hc' u hu hcu hcu' (congrArg Prod.snd hpair)
  case endpoint =>
    intro c hc c' hc' ha ha' heq
    obtain ⟨u, hu, hcu⟩ := hown c hc ha
    obtain ⟨u', hu', hcu'⟩ := hown c' hc' ha'
    have hpair : (u, c.endpointKey) = (u', c'.endpointKey) :=
      List.inj_on_of_nodup_map h.keys hu hu' heq
    have huu : u = u' := congrArg Prod.fst hpair
    exact hsame c hc c' hc' u hu hcu (huu ▸ hcu') heq

/-- **Connection presence.**  In every run, each refresh succeeds, and from it
until the next one, whatever polls succeed, the active connections are exactly
the selected ones. -/
theorem presence_follows_selection (hf : env.FreshUuids) (hcol : NoCollision env D)
    (hrun : DaemonRun env D ups d) {found : List (Nat × DiscoveredDevice)}
    (hfound : Discovery env D d.db found) (now : Nat) :
    ∃ d₁, d.refreshDevices env found now = .ok d₁ ∧ d₁.Present ∧
      ∀ cycles d₂, d₁.pollCycles env cycles = .ok d₂ →
        d₂.Present ∧ d₂.watcher.selectedPairs = d₁.watcher.selectedPairs := by
  obtain ⟨d₁, hok, hr⟩ := (hrun.refreshed hf hcol).toBetween.refresh hf hcol hfound now
  refine ⟨d₁, hok, hr.presence, fun cycles d₂ hcycles => ?_⟩
  have hrun₂ : d₂.Refreshed env D ∧
      d₂.watcher.selectedPairs = d₁.watcher.selectedPairs := by
    refine Loop.foldlM_invariant (P := fun d₂ : Daemon => d₂.Refreshed env D ∧
      d₂.watcher.selectedPairs = d₁.watcher.selectedPairs) hcycles ⟨hr, rfl⟩ ?_
    rintro c - d₂ d₃ ⟨hr₂, hsel⟩ hpoll
    obtain ⟨hr₃, hsel'⟩ := hr₂.poll hf c hpoll
    exact ⟨hr₃, hsel'.trans hsel⟩
  exact ⟨hrun₂.1.presence, hrun₂.2⟩

end Presence

/-! ## one controller at two endpoints -/

/-- Deciding `NoRevival` by running the observations. -/
def checkNoRevival (env : Env) : Db → List (Nat × DiscoveredDevice) → Bool
  | _, [] => true
  | db, o :: rest => !decide (db.Revives env o.2) &&
      match registerObservation env o.1 o.2 db with
      | .ok (db', _) => checkNoRevival env db' rest
      | .error _ => true

theorem noRevival_of_check {env : Env} {found : List (Nat × DiscoveredDevice)} {db : Db}
    (h : checkNoRevival env db found = true) : NoRevival env db found := by
  induction found generalizing db with
  | nil => trivial
  | cons o rest ih =>
      simp only [checkNoRevival, Bool.and_eq_true, Bool.not_eq_true',
        decide_eq_false_iff_not] at h
      refine ⟨h.1, fun db' out hok => ih ?_⟩
      have hrest := h.2
      rw [hok] at hrest
      exact hrest

/-- A placeholder is promoted in the refresh that finds it at a second
endpoint. -/
theorem presence_follows_selection_promoted :
    ∃ d₁ d₂, ({ db := legacyDb [] } : Daemon).refreshDevices plainEnv
        [(1, usbDevice "AB" "" "ps")] 1 = .ok d₁ ∧
      d₁.refreshDevices plainEnv [(2, usbDevice "AB" "S" "ps"), (3, tcpDevice "10.0.0.2" "S" "ps")]
        3 = .ok d₂ ∧
      d₂.Present ∧ d₂.watcher.selectedPairs = [("ctrl_", "serial:usb:AB:unit:1")] := by
  have hcol : NoCollision plainEnv {d | d ∈ [usbDevice "AB" "" "ps", usbDevice "AB" "S" "ps",
      tcpDevice "10.0.0.2" "S" "ps"]} := noCollision_of_list (by decide)
  have heval : (do
      let d₁ ← ({ db := legacyDb [] } : Daemon).refreshDevices plainEnv
        [(1, usbDevice "AB" "" "ps")] 1
      let d₂ ← d₁.refreshDevices plainEnv
        [(2, usbDevice "AB" "S" "ps"), (3, tcpDevice "10.0.0.2" "S" "ps")] 3
      return (checkNoRevival plainEnv d₁.db
        [(2, usbDevice "AB" "S" "ps"), (3, tcpDevice "10.0.0.2" "S" "ps")],
          d₂.watcher.selectedPairs)) = .ok (true, [("ctrl_", "serial:usb:AB:unit:1")]) := by
    decide +kernel
  simp only [Loop.bind_eq_ok, Loop.pure_eq_ok, Except.ok.injEq, Prod.mk.injEq] at heval
  obtain ⟨d₁, hok₁, d₂, hok₂, hcheck, hpairs⟩ := heval
  have hfirst : Discovery plainEnv {d | d ∈ [usbDevice "AB" "" "ps", usbDevice "AB" "S" "ps",
      tcpDevice "10.0.0.2" "S" "ps"]} (legacyDb []) [(1, usbDevice "AB" "" "ps")] :=
    ⟨by decide, by decide, noRevival_of_check (by decide +kernel)⟩
  have hsecond : Discovery plainEnv {d | d ∈ [usbDevice "AB" "" "ps", usbDevice "AB" "S" "ps",
      tcpDevice "10.0.0.2" "S" "ps"]} d₁.db
      [(2, usbDevice "AB" "S" "ps"), (3, tcpDevice "10.0.0.2" "S" "ps")] :=
    ⟨by decide, by decide, noRevival_of_check hcheck⟩
  obtain ⟨d₂', hok₂', hpresent, -⟩ := presence_follows_selection plainEnv_freshUuids hcol
    (.refresh 1 .new hfirst hok₁) hsecond 3
  rw [hok₂, Except.ok.injEq] at hok₂'
  exact ⟨d₁, d₂, hok₁, hok₂, hok₂' ▸ hpresent, hpairs⟩

/-- An adapter that differs from a promoted one in letter case brings the
placeholder back, and the controller loses its connection. -/
theorem not_presence_follows_selection_letter_case :
    ∃ d₀ d₁ d₂ d₃, ({ db := legacyDb [] } : Daemon).start plainEnv 1 = .ok d₀ ∧
      d₀.refreshDevices plainEnv [(10, usbDevice "AB" "" "ps")] 10 = .ok d₁ ∧
      d₁.refreshDevices plainEnv [(20, usbDevice "AB" "S" "ps")] 20 = .ok d₂ ∧
      d₂.refreshDevices plainEnv [(30, usbDevice "AB" "S" "ps"), (31, usbDevice "ab" "" "ps")] 31 =
        .ok d₃ ∧ ¬ d₃.Present := by
  have heval : (do
      let d₀ ← ({ db := legacyDb [] } : Daemon).start plainEnv 1
      let d₁ ← d₀.refreshDevices plainEnv [(10, usbDevice "AB" "" "ps")] 10
      let d₂ ← d₁.refreshDevices plainEnv [(20, usbDevice "AB" "S" "ps")] 20
      let d₃ ← d₂.refreshDevices plainEnv
        [(30, usbDevice "AB" "S" "ps"), (31, usbDevice "ab" "" "ps")] 31
      return (d₃.watcher.selectedPairs, d₃.db.connections.map ConnectionRow.active,
        (d₃.db.scope? "ctrl_").isSome)) =
          .ok ([("ctrl_", "serial:usb:AB:unit:1")], [false, false], true) := by
    decide +kernel
  simp only [Loop.bind_eq_ok, Loop.pure_eq_ok, Except.ok.injEq, Prod.mk.injEq] at heval
  obtain ⟨d₀, hok₀, d₁, hok₁, d₂, hok₂, d₃, hok₃, hpairs, hactive, hscope⟩ := heval
  refine ⟨d₀, d₁, d₂, d₃, hok₀, hok₁, hok₂, hok₃, fun hpresent => ?_⟩
  obtain ⟨scope, hscope⟩ := Option.isSome_iff_exists.mp hscope
  obtain ⟨c, hc, ha, -⟩ := (hpresent.exact scope.controllerId "serial:usb:AB:unit:1").mpr
    ⟨"ctrl_", scope, by rw [hpairs]; exact List.mem_singleton_self _, hscope, rfl⟩
  have hmem := List.mem_map_of_mem (f := ConnectionRow.active) hc
  rw [hactive, ha] at hmem
  simp at hmem

end MorningstarModbus
