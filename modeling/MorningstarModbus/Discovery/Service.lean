import Mathlib.Algebra.Order.BigOperators.Group.List
import MorningstarModbus.Config.Settings
import MorningstarModbus.Discovery.Probe
import MorningstarModbus.Lib.Gather
import MorningstarModbus.Lib.Tally

/-!
# MorningstarModbus.Discovery.Service

Discovery (`discovery/service.py`): the serial ports one after another, the hosts of the network
side by side under a semaphore, and the devices that answered under their stable keys.

What a probe meets is a parameter, one target for each probe, so devices may come and go.

* `discover_sound` — under settings that were accepted: which hosts are probed, that the schedule of
  the probes makes no difference, and which devices are found.
-/

namespace MorningstarModbus

open Catalog

/-! ## targets -/

/-- A port that `list_ports.comports()` lists. -/
structure SerialPort where
  device : String
  serialNumber : Option String := none
  vid : Option Nat := none
  pid : Option Nat := none
  deriving DecidableEq

/-- A unit of the settings, and the endpoint at which it is probed. -/
structure DiscoveryTarget where
  unitId : Int
  endpoint : Endpoint
  deriving DecidableEq

/-- The endpoints `discover_serial` probes, in order. -/
def serialTargets (config : AppConfig) (ports : List SerialPort) : List DiscoveryTarget :=
  let allowed := ports.filter fun port =>
    config.serial.ports = [] ∨ port.device ∈ config.serial.ports
  allowed.flatMap fun port => config.watch.unitIds.map fun unitId =>
    { unitId
      endpoint :=
        { transport := .serial
          target := port.device
          unitId := unitId.toNat
          baudrate := some config.serial.baudrate
          stopBits := some config.serial.stopBits
          usbSerial := port.serialNumber
          usbVid := port.vid
          usbPid := port.pid } }

section Targets

variable (env : ConfigEnv)

/-- `ip_network` and what it raises -/
def network (subnet : String) : Except PyException IpNetwork :=
  (env.ipNetwork subnet).mapError ValueError

/-- `_tcp_hosts` -/
def tcpHosts (tcp : TcpConfig) : Except PyException (List String) := do
  let networks ← tcp.subnets.mapM (network env)
  return Table.distinct (tcp.hosts ++ networks.flatMap fun n =>
    n.hosts.map (env.addressText n.version))

/-- The endpoints `discover_tcp` probes, in the order of its tasks. -/
def tcpTargets (config : AppConfig) : Except PyException (List DiscoveryTarget) := do
  let hosts ← tcpHosts env config.tcp
  return hosts.flatMap fun host => config.watch.unitIds.map fun unitId =>
    { unitId
      endpoint :=
        { transport := .tcp
          target := host
          unitId := unitId.toNat
          port := some config.tcp.port } }

end Targets

/-! ## probes -/

/-- The checks of the constructors of the clients. -/
def createClient (target : DiscoveryTarget) : Except PyException Unit :=
  if ¬ (1 ≤ target.unitId ∧ target.unitId ≤ 247) then .error (ValueError "unit_id must be 1..247")
  else if target.endpoint.transport = .serial ∧ target.endpoint.stopBits ≠ some 1 ∧
      target.endpoint.stopBits ≠ some 2 then .error (ValueError "stop_bits must be 1 or 2")
  else .ok ()

/-- The device of a probe that succeeded. -/
def foundDevice (endpoint : Endpoint)
    (result : DeviceIdentification × ResolvedIntelligence) : DiscoveredDevice where
  endpoint
  identification := result.1
  profile := result.2.profile
  intelligence := some result.2.toDeviceIntelligence

section Discover

variable (env : DiscoveryEnv) (network : ConfigEnv)

/-- What a probe finds. -/
def probed (world : ProbeTarget) (target : DiscoveryTarget) : Option DiscoveredDevice :=
  (env.probe world target.endpoint).map (foundDevice target.endpoint)

/-- `probe_host`, and the body of the loop of `discover_serial`. -/
def probeTarget (world : ProbeTarget) (target : DiscoveryTarget) :
    Except PyException (Option DiscoveredDevice) := do
  createClient target
  return probed env world target

/-- The outcomes of all probes, in the order of their targets. -/
def outcomes (world : Nat → ProbeTarget) (targets : List DiscoveryTarget) :
    List (Except PyException (Option DiscoveredDevice)) :=
  targets.zipIdx.map fun t => probeTarget env (world t.2) t.1

/-- The devices of probes, unless one of them raises. -/
def probeAll (world : Nat → ProbeTarget) (targets : List DiscoveryTarget) :
    Except PyException (List DiscoveredDevice) := do
  let results ← (outcomes env world targets).mapM id
  return results.filterMap id

/-- `discover_serial` -/
def discoverSerial (config : AppConfig) (ports : List SerialPort) (bus : Nat → ProbeTarget) :
    Except PyException (List DiscoveredDevice) :=
  if config.serial.enabled then probeAll env bus (serialTargets config ports) else .ok []

/-- `discover_tcp` -/
def discoverTcp (config : AppConfig) (net : Nat → ProbeTarget) :
    Except PyException (List DiscoveredDevice) := do
  if config.tcp.enabled then
    let targets ← tcpTargets network config
    probeAll env net targets
  else return []

/-- `merged` -/
def mergeDevices (devices : List DiscoveredDevice) : List DiscoveredDevice :=
  devices.foldl (fun merged device =>
    Table.assign (fun d : DiscoveredDevice => d.endpoint.stableKey) device merged) []

/-- `discover` -/
def discover (config : AppConfig) (ports : List SerialPort) (bus net : Nat → ProbeTarget) :
    Except PyException (List DiscoveredDevice) := do
  let serialDevices ← discoverSerial env config ports bus
  let tcpDevices ← discoverTcp env network config net
  return mergeDevices (serialDevices ++ tcpDevices)

end Discover

/-! ## targets of accepted settings -/

section Accepted

variable {env : DiscoveryEnv} {network : ConfigEnv} {config : AppConfig} {interval : PollInterval}
  {ports : List SerialPort} {bus net world : Nat → ProbeTarget} {targets : List DiscoveryTarget}

/-- A host that the settings name, or that a subnet of theirs has. -/
def InScope (network : ConfigEnv) (tcp : TcpConfig) (host : String) : Prop :=
  host ∈ tcp.hosts ∨ ∃ subnet ∈ tcp.subnets, ∃ n : IpNetwork, network.ipNetwork subnet = .ok n ∧
    ∃ address ∈ n.hosts, host = network.addressText n.version address

/-- The networks of accepted settings can be read, and none of them is large. -/
theorem exists_networks {subnets : List String}
    (h : ∀ subnet ∈ subnets, ∃ n, network.ipNetwork subnet = .ok n ∧ n.numAddresses ≤ 4096) :
    ∃ networks : List IpNetwork, subnets.mapM (MorningstarModbus.network network) = .ok networks ∧
      networks.length = subnets.length ∧ (∀ n ∈ networks, n.numAddresses ≤ 4096) ∧
      ∀ n, n ∈ networks ↔ ∃ subnet ∈ subnets, network.ipNetwork subnet = .ok n := by
  induction subnets with
  | nil => exact ⟨[], rfl, rfl, by simp, by simp⟩
  | cons subnet subnets ih =>
      obtain ⟨networks, hmap, hlength, hsmall, hall⟩ :=
        ih fun s hs => h s (List.mem_cons_of_mem _ hs)
      obtain ⟨n, hn, hsize⟩ := h subnet List.mem_cons_self
      have hread : MorningstarModbus.network network subnet = .ok n := by
        rw [MorningstarModbus.network, hn]
        rfl
      refine ⟨n :: networks, ?_, by rw [List.length_cons, hlength, List.length_cons], ?_, ?_⟩
      · rw [List.mapM_cons, hread, Loop.ok_bind, hmap]
        rfl
      · exact List.forall_mem_cons.mpr ⟨hsize, hsmall⟩
      · intro m
        rw [List.mem_cons, hall, List.exists_mem_cons_iff, hn, Except.ok.injEq, eq_comm]

/-- The hosts are those in the scope of the settings, none is twice, and there is a bound on
them. -/
theorem tcpHosts_ok (h : config.Accepted network interval) :
    ∃ hosts, tcpHosts network config.tcp = .ok hosts ∧ hosts.Nodup ∧
      (∀ host, host ∈ hosts ↔ InScope network config.tcp host) ∧
      hosts.length ≤ config.tcp.hosts.length + 4096 * config.tcp.subnets.length := by
  obtain ⟨networks, hnetworks, hlength, hsmall, hall⟩ := exists_networks h.subnets
  refine ⟨_, by rw [tcpHosts, hnetworks, Loop.ok_bind]; rfl, Table.nodup_distinct _, ?_, ?_⟩
  · intro host
    rw [Table.mem_distinct, List.mem_append, List.mem_flatMap]
    refine or_congr_right ⟨fun hfound => ?_, fun hscope => ?_⟩
    · obtain ⟨n, hn, hmem⟩ := hfound
      obtain ⟨address, haddress, rfl⟩ := List.mem_map.mp hmem
      obtain ⟨subnet, hsubnet, hok⟩ := (hall n).mp hn
      exact ⟨subnet, hsubnet, n, hok, address, haddress, rfl⟩
    · obtain ⟨subnet, hsubnet, n, hok, address, haddress, rfl⟩ := hscope
      exact ⟨n, (hall n).mpr ⟨subnet, hsubnet, hok⟩, List.mem_map_of_mem haddress⟩
  · refine (Table.length_distinct_le _).trans ?_
    rw [List.length_append, List.length_flatMap, ← hlength]
    refine Nat.add_le_add_left ?_ _
    have hsum := List.sum_le_card_nsmul
      (networks.map fun n => (n.hosts.map (network.addressText n.version)).length) 4096 ?_
    · rw [List.length_map, nsmul_eq_mul] at hsum
      exact hsum.trans_eq (Nat.mul_comm _ _)
    · intro size hsize
      obtain ⟨n, hn, rfl⟩ := List.mem_map.mp hsize
      rw [List.length_map]
      exact n.length_hosts_le.trans (hsmall n hn)

/-- What `discover_tcp` probes under accepted settings. -/
structure TcpTargets (network : ConfigEnv) (config : AppConfig) (targets : List DiscoveryTarget) :
    Prop where
  bounded : targets.length ≤
    (config.tcp.hosts.length + 4096 * config.tcp.subnets.length) * config.watch.unitIds.length
  scope : ∀ t ∈ targets, InScope network config.tcp t.endpoint.target ∧
    t.endpoint.port = some config.tcp.port ∧ t.unitId ∈ config.watch.unitIds
  /-- every host in scope is a target for every unit -/
  complete : ∀ host, InScope network config.tcp host → ∀ unit ∈ config.watch.unitIds,
    ∃ t ∈ targets, t.endpoint.target = host ∧ t.unitId = unit
  /-- no target is probed twice, unless the settings list a unit twice -/
  nodup : config.watch.unitIds.Nodup → targets.Nodup
  client : ∀ t ∈ targets, createClient t = .ok ()

theorem tcpTargets_ok (h : config.Accepted network interval) :
    ∃ targets, tcpTargets network config = .ok targets ∧ TcpTargets network config targets := by
  obtain ⟨hosts, hok, hnodup, hscope, hlength⟩ := tcpHosts_ok h
  refine ⟨_, by rw [tcpTargets, hok, Loop.ok_bind]; rfl, ?_, ?_, ?_, ?_, ?_⟩
  · simp only [List.length_flatMap, List.length_map, List.map_const', List.sum_replicate,
      nsmul_eq_mul]
    exact Nat.mul_le_mul_right _ hlength
  · intro t ht
    obtain ⟨host, hhost, hmem⟩ := List.mem_flatMap.mp ht
    obtain ⟨unit, hunit, rfl⟩ := List.mem_map.mp hmem
    exact ⟨(hscope host).mp hhost, rfl, hunit⟩
  · intro host hhost unit hunit
    exact ⟨_, List.mem_flatMap.mpr ⟨host, (hscope host).mpr hhost, List.mem_map_of_mem hunit⟩,
      rfl, rfl⟩
  · intro hunits
    refine List.nodup_flatMap.mpr ⟨fun host _ => ?_, ?_⟩
    · exact hunits.map fun u v heq => (DiscoveryTarget.mk.inj heq).1
    · refine hnodup.imp fun {a b} hne t ha hb => hne ?_
      obtain ⟨u, -, rfl⟩ := List.mem_map.mp ha
      obtain ⟨v, -, heq⟩ := List.mem_map.mp hb
      exact (congrArg (fun t : DiscoveryTarget => t.endpoint.target) heq).symm
  · intro t ht
    obtain ⟨host, -, hmem⟩ := List.mem_flatMap.mp ht
    obtain ⟨unit, hunit, rfl⟩ := List.mem_map.mp hmem
    simp [createClient, h.units unit hunit]

/-! ## probes of accepted settings -/

/-- The probes of a list of targets, each with what it meets. -/
def probesOf (world : Nat → ProbeTarget) (targets : List DiscoveryTarget) :
    List (DiscoveryTarget × ProbeTarget) :=
  targets.zipIdx.map fun t => (t.1, world t.2)

theorem mapM_ok {α β : Type} {f : α → β} (xs : List α) :
    (xs.map fun x => (Except.ok (f x) : Except PyException β)).mapM id = .ok (xs.map f) := by
  induction xs with
  | nil => rfl
  | cons x xs ih =>
      rw [List.map_cons, List.mapM_cons, ih]
      rfl

/-- Where the clients can be created, probing does not raise. -/
theorem probeAll_ok (hclient : ∀ t ∈ targets, createClient t = .ok ()) :
    probeAll env world targets =
      .ok ((probesOf world targets).filterMap fun p => probed env p.2 p.1) := by
  have houtcomes : outcomes env world targets =
      (probesOf world targets).map fun p => .ok (probed env p.2 p.1) := by
    rw [outcomes, probesOf, List.map_map]
    refine List.map_congr_left fun t ht => ?_
    have hmem : t.1 ∈ targets := (List.mem_zipIdx' ht).2 ▸ List.getElem_mem _
    rw [probeTarget, hclient t.1 hmem]
    rfl
  rw [probeAll, houtcomes, mapM_ok, Loop.ok_bind, List.filterMap_map]
  rfl

/-- The first client that cannot be created ends the probing. -/
theorem probeAll_error {e : PyException} (hne : targets ≠ [])
    (hclient : ∀ t ∈ targets, createClient t = .error e) :
    probeAll env world targets = .error e := by
  cases targets with
  | nil => exact absurd rfl hne
  | cons t targets =>
      rw [probeAll, outcomes, List.zipIdx_cons, List.map_cons, List.mapM_cons, probeTarget,
        hclient t List.mem_cons_self]
      rfl

/-- The serial ports cannot be probed with these settings, and one is there. -/
def SerialRefused (config : AppConfig) (ports : List SerialPort) : Prop :=
  config.serial.enabled = true ∧ config.serial.stopBits ≠ 1 ∧ config.serial.stopBits ≠ 2 ∧
    serialTargets config ports ≠ []

theorem createClient_serial (h : config.Accepted network interval) {t : DiscoveryTarget}
    (ht : t ∈ serialTargets config ports) : createClient t =
      if config.serial.stopBits ≠ 1 ∧ config.serial.stopBits ≠ 2 then
        .error (ValueError "stop_bits must be 1 or 2") else .ok () := by
  obtain ⟨port, -, hmem⟩ := List.mem_flatMap.mp ht
  obtain ⟨unit, hunit, rfl⟩ := List.mem_map.mp hmem
  simp [createClient, h.units unit hunit]

/-- The probes of a run of `discover`. -/
def allProbes (config : AppConfig) (ports : List SerialPort) (targets : List DiscoveryTarget)
    (bus net : Nat → ProbeTarget) : List (DiscoveryTarget × ProbeTarget) :=
  (if config.serial.enabled then probesOf bus (serialTargets config ports) else []) ++
    if config.tcp.enabled then probesOf net targets else []

/-- What `discover` finds: one device for each stable key under which one answered. -/
structure Discovered (env : DiscoveryEnv) (probes : List (DiscoveryTarget × ProbeTarget))
    (found : List DiscoveredDevice) : Prop where
  distinct : Table.Keyed (fun d : DiscoveredDevice => d.endpoint.stableKey) found
  answered : ∀ d ∈ found, ∃ p ∈ probes, probed env p.2 p.1 = some d
  complete : ∀ p ∈ probes, ∀ d, probed env p.2 p.1 = some d →
    ∃ d' ∈ found, d'.endpoint.stableKey = d.endpoint.stableKey

theorem mergeDevices_assigned (devices : List DiscoveredDevice) :
    Table.Assigned (fun d : DiscoveredDevice => d.endpoint.stableKey) (mergeDevices devices)
      devices :=
  Loop.foldl_invariant (fun done rows => Table.Assigned _ rows done) devices .nil
    fun _ device _ _ _ h => h.assign device

theorem discovered_merge (probes : List (DiscoveryTarget × ProbeTarget)) :
    Discovered env probes (mergeDevices (probes.filterMap fun p => probed env p.2 p.1)) := by
  have hassigned := mergeDevices_assigned (probes.filterMap fun p => probed env p.2 p.1)
  refine ⟨hassigned.keyed, fun d hd => ?_, fun p hp d hd => ?_⟩
  · exact List.mem_filterMap.mp (hassigned.subset d hd)
  · exact hassigned.keys d (List.mem_filterMap.mpr ⟨p, hp, hd⟩)

theorem discoverTcp_ok (hok : tcpTargets network config = .ok targets)
    (htargets : TcpTargets network config targets) :
    discoverTcp env network config net = .ok ((if config.tcp.enabled then probesOf net targets
      else []).filterMap fun p => probed env p.2 p.1) := by
  unfold discoverTcp
  split
  · rw [hok, Loop.ok_bind, probeAll_ok htargets.client]
  · rfl

/-- Unless the serial ports are refused, `discover` returns. -/
theorem discover_ok (h : config.Accepted network interval)
    (hok : tcpTargets network config = .ok targets) (htargets : TcpTargets network config targets)
    (hserial : ¬ SerialRefused config ports) :
    discover env network config ports bus net = .ok (mergeDevices
      ((allProbes config ports targets bus net).filterMap fun p => probed env p.2 p.1)) := by
  have hbus : discoverSerial env config ports bus =
      .ok ((if config.serial.enabled then probesOf bus (serialTargets config ports)
        else []).filterMap fun p => probed env p.2 p.1) := by
    unfold discoverSerial
    split
    · case isTrue henabled =>
        refine probeAll_ok fun t ht => ?_
        rw [createClient_serial h ht, if_neg]
        exact fun hstop => hserial ⟨henabled, hstop.1, hstop.2, List.ne_nil_of_mem ht⟩
    · rfl
  rw [discover, hbus, Loop.ok_bind, discoverTcp_ok hok htargets, Loop.ok_bind, allProbes,
    List.filterMap_append]
  rfl

theorem discover_error (h : config.Accepted network interval)
    (hserial : SerialRefused config ports) :
    discover env network config ports bus net = .error (ValueError "stop_bits must be 1 or 2") := by
  obtain ⟨henabled, hone, htwo, hne⟩ := hserial
  rw [discover, discoverSerial, if_pos henabled, probeAll_error hne fun t ht => by
    rw [createClient_serial h ht, if_pos ⟨hone, htwo⟩]]
  rfl

/-! ## a run -/

/-- What any schedule of the tasks of `discover_tcp` comes to. -/
structure Swept (permits : Nat) (results : List (Except PyException (Option DiscoveredDevice)))
    (pool : Gather.Pool (Except PyException (Option DiscoveredDevice))) : Prop where
  running : pool.running ≤ permits
  ends : ∃ final, Relation.ReflTransGen (Gather.Step permits fun i r => results[i]? = some r)
    pool final ∧ final.AllDone
  ordered : pool.AllDone → pool = results.map .done

theorem swept {permits : Nat} {results : List (Except PyException (Option DiscoveredDevice))}
    {pool : Gather.Pool (Except PyException (Option DiscoveredDevice))} (hpermits : 0 < permits)
    (h : Gather.Reachable permits (fun i r => results[i]? = some r) results.length pool) :
    Swept permits results pool where
  running := Gather.running_le h
  ends := Gather.exists_allDone hpermits
    (fun i hi => ⟨results[i], List.getElem?_eq_getElem hi⟩) h
  ordered := Gather.eq_of_allDone (fun _ _ hr => hr) h

/-- **Discovery** under settings that were accepted: the network is swept within the bounds of the
settings, and whatever the schedule the results are those of probing one after another; of the
devices that answered one is found under each stable key.  With other stop bits than the serial
client knows, `discover` raises as soon as there is a port. -/
theorem discover_sound (env : DiscoveryEnv) {network : ConfigEnv} {config : AppConfig}
    {interval : PollInterval} (hvalid : config.validate network = .ok interval)
    (ports : List SerialPort) (bus net : Nat → ProbeTarget) :
    ∃ targets, tcpTargets network config = .ok targets ∧ TcpTargets network config targets ∧
      (∀ pool, Gather.Reachable config.watch.maxTcpConcurrency.toNat
          (fun i r => (outcomes env net targets)[i]? = some r) (outcomes env net targets).length
          pool →
        Swept config.watch.maxTcpConcurrency.toNat (outcomes env net targets) pool) ∧
      (SerialRefused config ports → discover env network config ports bus net =
        .error (ValueError "stop_bits must be 1 or 2")) ∧
      (¬ SerialRefused config ports → ∃ found,
        discover env network config ports bus net = .ok found ∧
          Discovered env (allProbes config ports targets bus net) found) := by
  have haccepted := validate_accepted hvalid
  obtain ⟨targets, hok, htargets⟩ := tcpTargets_ok haccepted
  have hpermits : 0 < config.watch.maxTcpConcurrency.toNat := by
    have hone := haccepted.concurrency.1
    omega
  exact ⟨targets, hok, htargets, fun pool => swept hpermits, discover_error haccepted,
    fun hserial => ⟨_, discover_ok haccepted hok htargets hserial, discovered_merge _⟩⟩

end Accepted

/-- The settings of a small network, without serial ports. -/
def lanConfig : AppConfig where
  serial := { enabled := false }
  tcp := { hosts := ["10.0.0.2"], subnets := ["10.0.0.0/30"] }

def lanEnv : ConfigEnv where
  lower := id
  ipNetwork subnet :=
    if subnet = "10.0.0.0/30" then .ok (.mk .v4 0x0A000000 30 (Nat.le_add_right 30 2))
    else .error "not a network"
  addressText _ address := "10.0.0." ++ toString (address % 256)

/-- A registry without families. -/
def noFamilies : DiscoveryEnv where
  casefold := id
  floatText _ := ""
  registry :=
    { families := []
      suresineGen2 := { name := "suresine_gen2", family := "SureSine", aliases := [] }
      suresineClassic := { name := "suresine_classic", family := "SureSine", aliases := [] }
      sunsaverDuo := { name := "sunsaver_duo", family := "SunSaver", aliases := [] }
      tristarPwm := { name := "tristar_pwm", family := "TriStar", aliases := [] }
      named := by simp }

/-- Somebody answers at the second address that is asked, and nobody else does. -/
def lanWorld (i : Nat) : ProbeTarget where
  identification :=
    if i = 1 then .ok { vendorName := "Morningstar Corp.", productCode := "TS-MPPT-60" }
    else .error ⟨"ConnectionRefusedError", ""⟩
  device _ _ := .error ⟨"ConnectionRefusedError", ""⟩

/-- Two hosts, one of them listed as well; the other answers. -/
theorem discover_sound_lan :
    ∃ targets found, tcpTargets lanEnv lanConfig = .ok targets ∧
      targets.map (fun t => (t.endpoint.target, t.unitId)) = [("10.0.0.2", 1), ("10.0.0.1", 1)] ∧
      TcpTargets lanEnv lanConfig targets ∧
      discover noFamilies lanEnv lanConfig [] lanWorld lanWorld = .ok found ∧
      found.map (·.endpoint.target) = ["10.0.0.1"] ∧
      Discovered noFamilies (allProbes lanConfig [] targets lanWorld lanWorld) found := by
  have hvalid : lanConfig.validate lanEnv = .ok (.seconds (.finite 5)) := by decide +kernel
  obtain ⟨targets, hok, htargets, -, -, hfound⟩ :=
    discover_sound noFamilies hvalid [] lanWorld lanWorld
  obtain ⟨found, hdiscover, hdiscovered⟩ := hfound fun h => Bool.false_ne_true h.1
  have hasked : (tcpTargets lanEnv lanConfig).map
      (List.map fun t => (t.endpoint.target, t.unitId)) =
        .ok [("10.0.0.2", 1), ("10.0.0.1", 1)] := by decide +kernel
  have hanswered : (discover noFamilies lanEnv lanConfig [] lanWorld lanWorld).map
      (List.map fun d => d.endpoint.target) = .ok ["10.0.0.1"] := by decide +kernel
  rw [hok] at hasked
  rw [hdiscover] at hanswered
  exact ⟨targets, found, hok, Except.ok.inj hasked, htargets, hdiscover,
    Except.ok.inj hanswered, hdiscovered⟩

end MorningstarModbus
