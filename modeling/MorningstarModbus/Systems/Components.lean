import MorningstarModbus.Lib.KeyedGraph
import MorningstarModbus.Systems.Latest

/-!
# MorningstarModbus.Systems.Components

The component graph of a system (`systems/components.py`): its controllers, what they charge, and
the products that a ReadyEdge reports, which are controllers of the system where a serial number
says so.

What the catalogue knows of a profile and the truncated SHA-256 digest are parameters.

* `graph_wellFormed` — every uid is one component's, and every relationship joins components;
* `graph_eq` — which components and relationships there are;
* `componentGraph_sound` — both, and what a serial number resolves to.
-/

namespace MorningstarModbus

open Query Table

/-! ## values -/

/-- What the graph takes from the Python library and the catalogue. -/
structure ComponentEnv extends PyTexts where
  /-- `str.lower()` -/
  lower : String → String
  /-- `str.casefold()` -/
  casefold : String → String
  /-- `hashlib.sha256(…).hexdigest()[:20]` -/
  digest : String → String
  /-- `get_profile(…).spec.register_names` -/
  registerNames : String → List String

/-- `_decoded(_value_map(sample).get(name))` -/
def valueNamedIn (sample : Option LatestSample) (name : String) : CellValue :=
  match sample.bind fun s => lookup RegisterValue.registerName name s.values.reverse with
  | none => .missing
  | some v => (normalizedValue v).1

/-- `.strip("\x00")` -/
def stripNul (s : String) : String :=
  String.ofList ((s.toList.dropWhile (· = '\x00')).rdropWhile (· = '\x00'))

/-- `str(value or "")` -/
def PyTexts.orEmpty (texts : PyTexts) : CellValue → String
  | .missing => ""
  | .number x => if x = 0 then "" else texts.str x
  | .text s => s

/-- `_serial` -/
def ComponentEnv.serial (env : ComponentEnv) (value : CellValue) : String :=
  stripNul (Text.strip (env.orEmpty value))

/-! ## connected products -/

/-- `_READYEDGE_BUS_NAMES` -/
def readyedgeBusNames : List (Int × String) :=
  [(0, "meterbus_rj11_a"), (1, "meterbus_rj11_b"), (2, "rs232_a"), (3, "rs232_b"), (4, "eia485")]

/-- `_READYEDGE_PRODUCT_PROFILES` -/
def readyedgeProductProfiles : List (String × String) :=
  [("TriStar-PWM", "tristar_pwm"), ("TriStar-MPPT", "tristar_mppt"),
    ("SunSaver-MPPT", "sunsaver_mppt"), ("SureSine-300", "suresine_classic"),
    ("TriStar-MPPT-600V", "tristar_mppt_600v"), ("ProStar-MPPT", "prostar_mppt"),
    ("ProStar-PWM", "prostar_pwm")]

structure BusAndAddress where
  raw : Int
  busCode : Int
  bus : String
  modbusId : Int
  deriving DecidableEq

/-- `int(x)` -/
def truncated (x : ℚ) : Int := if 0 ≤ x then x.floor else x.ceil

/-- `decode_readyedge_bus_and_address` -/
def decodeReadyedgeBusAndAddress : CellValue → Option BusAndAddress
  | .number x =>
      let raw := truncated x
      let busCode := raw / 256 % 256
      some {
        raw
        busCode
        bus := (readyedgeBusNames.lookup busCode).getD ("unknown_" ++ toString busCode)
        modbusId := raw % 256 }
  | _ => none

/-- `ConnectedProductDescriptor` -/
structure ConnectedProduct where
  slot : Nat
  productType : String
  serialNumber : String
  profile : Option String
  bus : Option BusAndAddress
  status : CellValue
  hardwareVersion : CellValue
  softwareVersion : CellValue
  softwarePatchlevel : CellValue
  deriving DecidableEq

/-- A register of a slot. -/
def slotRegister (slot : Nat) (field : String) : String :=
  "connected_product_" ++ toString slot ++ "_" ++ field

section Products

variable (env : ComponentEnv)

/-- The body of the loop of `readyedge_connected_products`. -/
def connectedProduct (sample : Option LatestSample) (slot : Nat) : Option ConnectedProduct :=
  let value (field : String) := valueNamedIn sample (slotRegister slot field)
  match value "type" with
  | .missing => none
  | productType =>
      let productName := env.strValue productType
      if env.lower productName ∈ ["none", "unknown_65535"] then none
      else some {
        slot
        productType := productName
        serialNumber := env.serial (value "serial")
        profile := readyedgeProductProfiles.lookup productName
        bus := decodeReadyedgeBusAndAddress (value "bus_and_address")
        status := value "status"
        hardwareVersion := value "hardware_version"
        softwareVersion := value "software_version"
        softwarePatchlevel := value "software_patchlevel" }

/-- `readyedge_connected_products` -/
def readyedgeConnectedProducts (sample : Option LatestSample) : List ConnectedProduct :=
  (List.range 16).filterMap (connectedProduct env sample)

/-- What a connected product is told apart by. -/
def productIdentity (hostUid : String) (product : ConnectedProduct) : String :=
  hostUid ++ "|" ++ product.serialNumber ++ "|" ++ product.productType ++ "|" ++
    toString product.slot

/-- `_connected_uid` -/
def connectedUid (hostUid : String) (product : ConnectedProduct) : String :=
  "cp_" ++ env.digest (productIdentity hostUid product)

end Products

/-! ## components and relationships -/

inductive ControllerType where
  | gateway
  | controller
  | chargeController
  deriving DecidableEq

/-- What the inventory knows of a listed controller. -/
structure ControllerDetail where
  uid : String
  profile : String
  family : String
  model : String
  serialNumber : String
  firmware : String
  status : String
  deriving DecidableEq

/-- What a component is, with its own fields. -/
inductive ComponentBody where
  | system (name : String)
  | batteryBus
  | controller (type : ControllerType) (detail : ControllerDetail) (serialNumber : String)
  | connectedProduct (profile : Option String) (productType serialNumber : String)
  deriving DecidableEq

structure Component where
  uid : String
  body : ComponentBody
  deriving DecidableEq

def Component.source (c : Component) : String :=
  match c.body with
  | .system _ => "system_membership"
  | .batteryBus => "system_semantics"
  | .controller .. => "physical_controller_inventory"
  | .connectedProduct .. => "readyedge_connected_product"

def Component.confidence (c : Component) : String :=
  match c.body with
  | .system _ => "configured"
  | .batteryBus => "logical"
  | .controller .. => "verified"
  | .connectedProduct .. => "reported"

inductive RelationshipBody where
  | memberOf
  | charges
  | monitors (product : ConnectedProduct) (matched : Bool)
  deriving DecidableEq

structure Relationship where
  fromUid : String
  toUid : String
  body : RelationshipBody
  deriving DecidableEq

namespace Relationship

def ends (r : Relationship) : String × String := (r.fromUid, r.toUid)

def source (r : Relationship) : String :=
  match r.body with
  | .memberOf => "system_membership"
  | .charges => "catalog_register_semantics"
  | .monitors .. => "readyedge_connected_product"

def confidence (r : Relationship) : String :=
  match r.body with
  | .memberOf => "configured"
  | .charges => "capability"
  | .monitors _ matched => if matched then "verified" else "reported"

/-- The registers that are named as evidence. -/
def evidence (r : Relationship) : List String :=
  match r.body with
  | .monitors product _ =>
      ["type", "serial", "bus_and_address"].map (slotRegister product.slot)
  | _ => []

end Relationship

/-! ## the graph -/

/-- What `graph` reads: the system, and its controllers with the latest sample of each. -/
structure ComponentReads where
  system : SystemsRow
  controllers : List (ControllerDetail × Option LatestSample)
  /-- The registry gives every controller a uid. -/
  named : ∀ c ∈ controllers, c.1.uid ≠ ""

structure ComponentSummary where
  componentCount : Nat
  relationshipCount : Nat
  controllerCount : Nat
  readyedgeConnectedProducts : Nat
  deriving DecidableEq

structure ComponentGraph where
  systemUid : String
  components : List Component
  relationships : List Relationship
  summary : ComponentSummary
  deriving DecidableEq

/-- The graph while it is put together, with `serial_to_uid`. -/
structure GraphState where
  graph : KeyedGraph Component Relationship
  serials : Dict String String := Dict.empty

def systemComponentUid (systemUid : String) : String := "system:" ++ systemUid

def batteryBusUid (systemUid : String) : String := "battery_bus:" ++ systemUid

/-- `_CHARGE_REGISTER_NAMES` -/
def chargeRegisterNames : List String :=
  ["battery_charge_current", "charge_current", "output_current", "output_power", "charge_power",
    "battery_charge_power"]

section Graph

variable (env : ComponentEnv)

/-- `_controller_type` -/
def controllerType (profileName : String) : ControllerType :=
  if profileName = "readyedge" then .gateway
  else if (env.registerNames profileName).any fun name => name ∈ chargeRegisterNames then
    .chargeController
  else .controller

def systemComponent (system : SystemsRow) : Component where
  uid := systemComponentUid system.systemUid
  body := .system (if system.name = "" then system.systemUid else system.name)

def batteryBusComponent (system : SystemsRow) : Component where
  uid := batteryBusUid system.systemUid
  body := .batteryBus

/-- The serial number of the inventory, else that of the sample. -/
def controllerSerial (controller : ControllerDetail) (sample : Option LatestSample) : String :=
  env.serial (if controller.serialNumber = "" then valueNamedIn sample "serial_number"
    else .text controller.serialNumber)

def controllerComponent (controller : ControllerDetail) (sample : Option LatestSample) :
    Component where
  uid := controller.uid
  body := .controller (controllerType env controller.profile)
    { controller with status := if controller.status = "" then "unknown" else controller.status }
    (controllerSerial env controller sample)

def productComponent (hostUid : String) (product : ConnectedProduct) : Component where
  uid := connectedUid env hostUid product
  body := .connectedProduct product.profile product.productType product.serialNumber

namespace GraphState

def put (c : Component) (s : GraphState) : GraphState :=
  { s with graph := s.graph.putNode Component.uid c }

def relate (r : Relationship) (s : GraphState) : GraphState :=
  { s with graph := s.graph.addEdge r }

/-- The body of the first loop. -/
def addController (system : SystemsRow) (s : GraphState)
    (c : ControllerDetail × Option LatestSample) : GraphState :=
  let serialNumber := controllerSerial env c.1 c.2
  let serials := if serialNumber = "" then s.serials
    else s.serials.set (env.casefold serialNumber) c.1.uid
  let s := ({ s with serials }.put (controllerComponent env c.1 c.2)).relate
    { fromUid := c.1.uid, toUid := systemComponentUid system.systemUid, body := .memberOf }
  if controllerType env c.1.profile = .chargeController then
    s.relate { fromUid := c.1.uid, toUid := batteryBusUid system.systemUid, body := .charges }
  else s

/-- The controller that a product is. -/
def matched (s : GraphState) (product : ConnectedProduct) : Option String :=
  if product.serialNumber = "" then none else s.serials (env.casefold product.serialNumber)

/-- The body of the inner loop: `matched_uid or …`, where no uid is empty. -/
def addProduct (hostUid : String) (s : GraphState) (product : ConnectedProduct) : GraphState :=
  match s.matched env product with
  | some uid => s.relate
      { fromUid := hostUid, toUid := uid, body := .monitors product true }
  | none => (s.put (productComponent env hostUid product)).relate
      { fromUid := hostUid
        toUid := connectedUid env hostUid product
        body := .monitors product false }

/-- The body of the second loop. -/
def addHost (samples : List (String × Option LatestSample)) (s : GraphState)
    (c : ControllerDetail × Option LatestSample) : GraphState :=
  if c.1.profile ≠ "readyedge" then s
  else (readyedgeConnectedProducts env ((samples.reverse.lookup c.1.uid).join)).foldl
    (addProduct env c.1.uid) s

end GraphState

/-- The graph of what was read. -/
def graphState (r : ComponentReads) : GraphState :=
  let start : GraphState :=
    { graph := { nodes := [systemComponent r.system, batteryBusComponent r.system] } }
  let s := r.controllers.foldl (GraphState.addController env r.system) start
  r.controllers.foldl (GraphState.addHost env (r.controllers.map fun c => (c.1.uid, c.2))) s

/-- What `graph` returns of what it has read. -/
def graphOf (r : ComponentReads) : ComponentGraph :=
  let s := graphState env r
  { systemUid := r.system.systemUid
    components := s.graph.nodes
    relationships := s.graph.edges
    summary :=
      { componentCount := s.graph.nodes.length
        relationshipCount := s.graph.edges.length
        controllerCount := r.controllers.length
        readyedgeConnectedProducts := s.graph.edges.countP fun r =>
          r.source = "readyedge_connected_product" } }

end Graph

/-! ## every relationship joins components -/

section WellFormed

variable {env : ComponentEnv} {s : GraphState} {system : SystemsRow}
  {systemUid hostUid uid : String}

/-- What the loops keep: a graph with the system and its battery bus, in which every controller is
that a serial number stands for. -/
structure GraphState.Inv (systemUid : String) (s : GraphState) : Prop where
  wellFormed : s.graph.WellFormed Component.uid Relationship.ends
  system : s.graph.Has Component.uid (systemComponentUid systemUid)
  batteryBus : s.graph.Has Component.uid (batteryBusUid systemUid)
  matched : ∀ key uid, s.serials key = some uid → s.graph.Has Component.uid uid

/-- A component that is put is there, and no other goes. -/
theorem has_put {c : Component} : (s.put c).graph.Has Component.uid uid ↔
    uid = c.uid ∨ s.graph.Has Component.uid uid := KeyedGraph.has_putNode

/-- Putting a component keeps the invariant. -/
theorem GraphState.Inv.put (h : s.Inv systemUid) (c : Component) : (s.put c).Inv systemUid where
  wellFormed := h.wellFormed.putNode
  system := has_put.mpr (.inr h.system)
  batteryBus := has_put.mpr (.inr h.batteryBus)
  matched := fun key uid huid => has_put.mpr (.inr (h.matched key uid huid))

/-- So does relating two that are there. -/
theorem GraphState.Inv.relate (h : s.Inv systemUid) {r : Relationship}
    (hfrom : s.graph.Has Component.uid r.fromUid) (hto : s.graph.Has Component.uid r.toUid) :
    (s.relate r).Inv systemUid where
  wellFormed := h.wellFormed.addEdge hfrom hto
  system := h.system
  batteryBus := h.batteryBus
  matched := h.matched

/-- A turn of the first loop. -/
theorem GraphState.Inv.addController (h : s.Inv system.systemUid)
    (c : ControllerDetail × Option LatestSample) :
    (s.addController env system c).Inv system.systemUid ∧
      ∀ uid, (s.addController env system c).graph.Has Component.uid uid ↔
        uid = c.1.uid ∨ s.graph.Has Component.uid uid := by
  obtain ⟨serials, hserials⟩ : ∃ serials, serials =
    if controllerSerial env c.1 c.2 = "" then s.serials
    else s.serials.set (env.casefold (controllerSerial env c.1 c.2)) c.1.uid := ⟨_, rfl⟩
  obtain ⟨t, ht⟩ : ∃ t : GraphState, t =
    { s with serials }.put (controllerComponent env c.1 c.2) := ⟨_, rfl⟩
  have hhas : ∀ uid, t.graph.Has Component.uid uid ↔
      uid = c.1.uid ∨ s.graph.Has Component.uid uid := by
    intro uid
    rw [ht]
    exact has_put
  have hself : t.graph.Has Component.uid c.1.uid := (hhas _).mpr (.inl rfl)
  have hput : t.Inv system.systemUid := by
    refine ⟨?_, (hhas _).mpr (.inr h.system), (hhas _).mpr (.inr h.batteryBus), ?_⟩
    · rw [ht]
      exact h.wellFormed.putNode
    · intro key uid huid
      have hset : serials key = some uid := by rwa [ht] at huid
      rw [hserials] at hset
      split at hset
      next => exact (hhas uid).mpr (.inr (h.matched key uid hset))
      next =>
        by_cases hkey : key = env.casefold (controllerSerial env c.1 c.2)
        · rw [hkey, Dict.set_self, Option.some.injEq] at hset
          exact hset ▸ hself
        · rw [Dict.set_of_ne _ _ hkey] at hset
          exact (hhas uid).mpr (.inr (h.matched key uid hset))
  have hmember := hput.relate (r := { fromUid := c.1.uid
                                      toUid := systemComponentUid system.systemUid
                                      body := .memberOf }) hself hput.system
  rw [GraphState.addController, ← hserials, ← ht]
  split
  · exact ⟨hmember.relate hself hmember.batteryBus, hhas⟩
  · exact ⟨hmember, hhas⟩

/-- A turn of the inner loop. -/
theorem GraphState.Inv.addProduct (h : s.Inv systemUid)
    (hhost : s.graph.Has Component.uid hostUid) (product : ConnectedProduct) :
    (s.addProduct env hostUid product).Inv systemUid ∧
      ∀ uid, s.graph.Has Component.uid uid →
        (s.addProduct env hostUid product).graph.Has Component.uid uid := by
  rw [GraphState.addProduct]
  cases hmatched : s.matched env product with
  | some uid =>
      rw [GraphState.matched] at hmatched
      split at hmatched
      next => cases hmatched
      next => exact ⟨h.relate hhost (h.matched _ uid hmatched), fun _ hbefore => hbefore⟩
  | none =>
      have hput := h.put (productComponent env hostUid product)
      exact ⟨hput.relate (has_put.mpr (.inr hhost)) (has_put.mpr (.inl rfl)),
        fun _ hbefore => has_put.mpr (.inr hbefore)⟩

/-- A turn of the second loop. -/
theorem GraphState.Inv.addHost (h : s.Inv systemUid)
    (samples : List (String × Option LatestSample)) (c : ControllerDetail × Option LatestSample)
    (hhost : s.graph.Has Component.uid c.1.uid) :
    (s.addHost env samples c).Inv systemUid ∧ ∀ uid, s.graph.Has Component.uid uid →
      (s.addHost env samples c).graph.Has Component.uid uid := by
  rw [GraphState.addHost]
  split
  · exact ⟨h, fun _ hbefore => hbefore⟩
  · generalize readyedgeConnectedProducts env _ = products
    induction products generalizing s with
    | nil => exact ⟨h, fun _ hbefore => hbefore⟩
    | cons product products ih =>
        obtain ⟨hadd, hkeep⟩ := @GraphState.Inv.addProduct env s systemUid c.1.uid h hhost product
        obtain ⟨hrest, hall⟩ := ih hadd (hkeep _ hhost)
        exact ⟨hrest, fun uid hbefore => hall uid (hkeep uid hbefore)⟩

/-- The graph once the controllers are in it. -/
def controllersState (env : ComponentEnv) (system : SystemsRow)
    (controllers : List (ControllerDetail × Option LatestSample)) : GraphState :=
  controllers.foldl (GraphState.addController env system)
    { graph := { nodes := [systemComponent system, batteryBusComponent system] } }

/-- The controllers are added one after another. -/
theorem controllersState_concat
    (controllers : List (ControllerDetail × Option LatestSample))
    (c : ControllerDetail × Option LatestSample) :
    controllersState env system (controllers ++ [c]) =
      (controllersState env system controllers).addController env system c := by
  rw [controllersState, List.foldl_append]
  rfl

/-- The system is not its own battery bus. -/
theorem systemComponentUid_ne (uid uid' : String) :
    systemComponentUid uid ≠ batteryBusUid uid' := by
  intro h
  have hlist := congrArg String.toList h
  simp [systemComponentUid, batteryBusUid] at hlist

/-- After the first loop the controllers are there. -/
theorem inv_controllersState (env : ComponentEnv) (system : SystemsRow)
    (controllers : List (ControllerDetail × Option LatestSample)) :
    (controllersState env system controllers).Inv system.systemUid ∧
      ∀ c ∈ controllers,
        (controllersState env system controllers).graph.Has Component.uid c.1.uid := by
  induction controllers using List.reverseRecOn with
  | nil =>
      refine ⟨⟨⟨?_, fun _ he => absurd he List.not_mem_nil⟩, ?_, ?_, fun _ _ h => ?_⟩,
        fun _ hc => absurd hc List.not_mem_nil⟩
      · simp [controllersState, Keyed, systemComponent, batteryBusComponent, systemComponentUid_ne]
      · exact ⟨systemComponent system, List.mem_cons_self, rfl⟩
      · exact ⟨batteryBusComponent system, by simp [controllersState], rfl⟩
      · cases h
  | append_singleton controllers c ih =>
      obtain ⟨hinv, hhas⟩ := ih
      obtain ⟨hadd, hhere⟩ := @GraphState.Inv.addController env _ system hinv c
      rw [controllersState_concat]
      refine ⟨hadd, fun c' hc' => (hhere _).mpr ?_⟩
      cases List.mem_append.mp hc' with
      | inl hbefore => exact .inr (hhas c' hbefore)
      | inr hlast => exact .inl (by rw [List.mem_singleton.mp hlast])

/-- **Every relationship joins components**, whatever is read, and no two components have the same
uid. -/
theorem graph_wellFormed (env : ComponentEnv) (r : ComponentReads) :
    (graphState env r).graph.WellFormed Component.uid Relationship.ends := by
  obtain ⟨hinv, hhas⟩ := inv_controllersState env r.system r.controllers
  have hfold : ∀ (samples : List (String × Option LatestSample))
      (hosts : List (ControllerDetail × Option LatestSample)) (s : GraphState),
      s.Inv r.system.systemUid → (∀ c ∈ hosts, s.graph.Has Component.uid c.1.uid) →
        (hosts.foldl (GraphState.addHost env samples) s).Inv r.system.systemUid := by
    intro samples hosts
    induction hosts with
    | nil => exact fun _ h _ => h
    | cons host hosts ih =>
        intro s h hall
        obtain ⟨hadd, hkeep⟩ := @GraphState.Inv.addHost env s _ h samples host
          (hall host List.mem_cons_self)
        exact ih _ hadd fun c hc => hkeep _ (hall c (List.mem_cons_of_mem host hc))
  exact (hfold _ r.controllers _ hinv hhas).wellFormed

end WellFormed

/-! ## which there are -/

section Parts

variable (env : ComponentEnv)

/-- The relationships of a controller of the system. -/
def controllerRelationships (system : SystemsRow) (controller : ControllerDetail) :
    List Relationship :=
  { fromUid := controller.uid
    toUid := systemComponentUid system.systemUid
    body := .memberOf } ::
    if controllerType env controller.profile = .chargeController then
      [{ fromUid := controller.uid, toUid := batteryBusUid system.systemUid, body := .charges }]
    else []

/-- The controller that a serial number stands for, without regard to its case: the last one. -/
def controllerOfSerial (controllers : List (ControllerDetail × Option LatestSample))
    (serialNumber : String) : Option String :=
  if serialNumber = "" then none
  else (controllers.reverse.find? fun c => controllerSerial env c.1 c.2 ≠ "" ∧
    env.casefold (controllerSerial env c.1 c.2) = env.casefold serialNumber).map fun c => c.1.uid

/-- The products that the hosts report, with the uids of the hosts. -/
def reportedProducts (controllers : List (ControllerDetail × Option LatestSample)) :
    List (String × ConnectedProduct) :=
  (controllers.filter fun c => c.1.profile = "readyedge").flatMap fun c =>
    (readyedgeConnectedProducts env c.2).map fun product => (c.1.uid, product)

namespace ComponentReads

variable (r : ComponentReads)

/-- What a product is: a controller of the system, or a component of its own. -/
def monitorOf (p : String × ConnectedProduct) : Relationship :=
  match controllerOfSerial env r.controllers p.2.serialNumber with
  | some uid => { fromUid := p.1, toUid := uid, body := .monitors p.2 true }
  | none => { fromUid := p.1, toUid := connectedUid env p.1 p.2, body := .monitors p.2 false }

def unmatchedProducts : List (String × ConnectedProduct) :=
  (reportedProducts env r.controllers).filter fun p =>
    controllerOfSerial env r.controllers p.2.serialNumber = none

def components : List Component :=
  systemComponent r.system :: batteryBusComponent r.system ::
    (r.controllers.map (fun c => controllerComponent env c.1 c.2) ++
      (r.unmatchedProducts env).map fun p => productComponent env p.1 p.2)

def relationships : List Relationship :=
  (r.controllers.flatMap fun c => controllerRelationships env r.system c.1) ++
    (reportedProducts env r.controllers).map (r.monitorOf env)

end ComponentReads

end Parts

section Exact

variable {env : ComponentEnv} {r : ComponentReads} {system : SystemsRow}
  {controllers : List (ControllerDetail × Option LatestSample)}

theorem serials_put {s : GraphState} {c : Component} : (s.put c).serials = s.serials := rfl

theorem serials_relate {s : GraphState} {r : Relationship} :
    (s.relate r).serials = s.serials := rfl

/-- A controller adds its relationships. -/
theorem edges_addController (s : GraphState) (c : ControllerDetail × Option LatestSample) :
    (s.addController env system c).graph.edges =
      s.graph.edges ++ controllerRelationships env system c.1 := by
  rw [GraphState.addController, controllerRelationships]
  split
  next => exact List.append_assoc _ _ _
  next => rfl

/-- A controller with a serial number is known by it from then on. -/
theorem serials_addController (s : GraphState) (c : ControllerDetail × Option LatestSample) :
    (s.addController env system c).serials =
      if controllerSerial env c.1 c.2 = "" then s.serials
      else s.serials.set (env.casefold (controllerSerial env c.1 c.2)) c.1.uid := by
  rw [GraphState.addController]
  by_cases hcharges : controllerType env c.1.profile = .chargeController
  · rw [if_pos hcharges, serials_relate, serials_relate, serials_put]
  · rw [if_neg hcharges, serials_relate, serials_put]

/-- It adds itself. -/
theorem nodes_addController (s : GraphState) (c : ControllerDetail × Option LatestSample) :
    (s.addController env system c).graph.nodes =
      (s.graph.putNode Component.uid (controllerComponent env c.1 c.2)).nodes := by
  rw [GraphState.addController]
  split <;> rfl

/-- The first components of a graph. -/
def firstComponents (env : ComponentEnv) (system : SystemsRow)
    (controllers : List (ControllerDetail × Option LatestSample)) : List Component :=
  systemComponent system :: batteryBusComponent system ::
    controllers.map fun c => controllerComponent env c.1 c.2

theorem firstComponents_concat (c : ControllerDetail × Option LatestSample) :
    firstComponents env system (controllers ++ [c]) =
      firstComponents env system controllers ++ [controllerComponent env c.1 c.2] := by
  simp [firstComponents]

/-- The relationships of all controllers, in their order. -/
theorem edges_controllersState :
    (controllersState env system controllers).graph.edges =
      controllers.flatMap fun c => controllerRelationships env system c.1 := by
  induction controllers using List.reverseRecOn with
  | nil => rfl
  | append_singleton controllers c ih =>
      rw [controllersState_concat, edges_addController, ih, List.flatMap_append]
      simp

/-- And their components, where no uid is used twice. -/
theorem nodes_controllersState (h : Keyed Component.uid (firstComponents env system controllers)) :
    (controllersState env system controllers).graph.nodes =
      firstComponents env system controllers := by
  induction controllers using List.reverseRecOn with
  | nil => rfl
  | append_singleton controllers c ih =>
      rw [firstComponents_concat] at h ⊢
      have hbefore : Keyed Component.uid (firstComponents env system controllers) :=
        List.Nodup.sublist ((List.sublist_append_left _ _).map _) h
      rw [controllersState_concat, nodes_addController,
        KeyedGraph.nodes_putNode (by rwa [ih hbefore]), ih hbefore]

/-- What `serial_to_uid` holds. -/
theorem matched_controllersState (product : ConnectedProduct) :
    (controllersState env system controllers).matched env product =
      controllerOfSerial env controllers product.serialNumber := by
  have hserials : ∀ key, (controllersState env system controllers).serials key =
      (controllers.reverse.find? fun c => controllerSerial env c.1 c.2 ≠ "" ∧
        env.casefold (controllerSerial env c.1 c.2) = key).map fun c => c.1.uid := by
    intro key
    induction controllers using List.reverseRecOn with
    | nil => rfl
    | append_singleton controllers c ih =>
        rw [controllersState_concat, serials_addController, List.reverse_append,
          List.reverse_singleton, List.singleton_append, List.find?_cons]
        by_cases hserial : controllerSerial env c.1 c.2 = ""
        · rw [if_pos hserial, ih]
          simp [hserial]
        · rw [if_neg hserial]
          by_cases hkey : env.casefold (controllerSerial env c.1 c.2) = key
          · simp [hserial, hkey]
          · rw [Dict.set_of_ne _ _ (Ne.symm hkey), ih]
            simp [hserial, hkey]
  rw [GraphState.matched, controllerOfSerial, hserials]

/-- Connected products are not known by their serial numbers. -/
theorem serials_addProduct (s : GraphState) (p : String × ConnectedProduct) :
    (s.addProduct env p.1 p.2).serials = s.serials := by
  rw [GraphState.addProduct]
  split <;> rfl

/-- The second loop, product by product. -/
def productsState (env : ComponentEnv) (s : GraphState)
    (products : List (String × ConnectedProduct)) : GraphState :=
  products.foldl (fun s p => s.addProduct env p.1 p.2) s

/-- What the second loop adds to a graph. -/
theorem productsState_spec {s : GraphState} {matched : ConnectedProduct → Option String}
    (hmatched : s.matched env = matched) (products : List (String × ConnectedProduct)) :
    (productsState env s products).graph.edges = s.graph.edges ++ products.map (fun p =>
        match matched p.2 with
        | some uid => { fromUid := p.1, toUid := uid, body := .monitors p.2 true }
        | none =>
            { fromUid := p.1, toUid := connectedUid env p.1 p.2, body := .monitors p.2 false })
      ∧ (Keyed Component.uid (s.graph.nodes ++ (products.filter fun p => matched p.2 = none).map
          fun p => productComponent env p.1 p.2) →
        (productsState env s products).graph.nodes = s.graph.nodes ++
          (products.filter fun p => matched p.2 = none).map fun p =>
            productComponent env p.1 p.2) := by
  induction products generalizing s with
  | nil => exact ⟨(List.append_nil _).symm, fun _ => (List.append_nil _).symm⟩
  | cons p products ih =>
      have hlater : (s.addProduct env p.1 p.2).matched env = matched := by
        funext product
        rw [← hmatched, GraphState.matched, GraphState.matched, serials_addProduct]
      obtain ⟨hedges, hnodes⟩ := ih hlater
      have hcons : productsState env s (p :: products) =
          productsState env (s.addProduct env p.1 p.2) products := rfl
      have hhere : s.matched env p.2 = matched p.2 := by rw [hmatched]
      rw [hcons, hedges]
      cases hp : matched p.2 with
      | some uid =>
          have hadd : s.addProduct env p.1 p.2 =
              s.relate { fromUid := p.1, toUid := uid, body := .monitors p.2 true } := by
            rw [GraphState.addProduct, hhere, hp]
          rw [hadd] at hnodes ⊢
          refine ⟨?_, fun hkeyed => ?_⟩
          · rw [List.map_cons, hp]
            exact List.append_assoc _ _ _
          · rw [List.filter_cons_of_neg (by simp [hp])] at hkeyed ⊢
            exact hnodes hkeyed
      | none =>
          have hadd : s.addProduct env p.1 p.2 =
              (s.put (productComponent env p.1 p.2)).relate
                { fromUid := p.1
                  toUid := connectedUid env p.1 p.2
                  body := .monitors p.2 false } := by
            rw [GraphState.addProduct, hhere, hp]
          rw [hadd] at hnodes ⊢
          refine ⟨?_, fun hkeyed => ?_⟩
          · rw [List.map_cons, hp]
            exact List.append_assoc _ _ _
          · rw [List.filter_cons_of_pos (by simp [hp]), List.map_cons, List.append_cons]
              at hkeyed ⊢
            have hput : (s.put (productComponent env p.1 p.2)).graph.nodes =
                s.graph.nodes ++ [productComponent env p.1 p.2] :=
              KeyedGraph.nodes_putNode
                (List.Nodup.sublist ((List.sublist_append_left _ _).map _) hkeyed)
            have hsame : ((s.put (productComponent env p.1 p.2)).relate
                { fromUid := p.1
                  toUid := connectedUid env p.1 p.2
                  body := .monitors p.2 false }).graph.nodes =
                s.graph.nodes ++ [productComponent env p.1 p.2] := hput
            rw [hsame] at hnodes
            exact hnodes hkeyed

/-- The second loop goes through what the hosts report. -/
theorem foldl_addHost {samples : List (String × Option LatestSample)} (s : GraphState)
    (h : ∀ c ∈ controllers, (samples.reverse.lookup c.1.uid).join = c.2) :
    controllers.foldl (GraphState.addHost env samples) s =
      productsState env s (reportedProducts env controllers) := by
  induction controllers generalizing s with
  | nil => rfl
  | cons c controllers ih =>
      have hrest := fun t => ih t fun c' hc' => h c' (List.mem_cons_of_mem c hc')
      rw [List.foldl_cons, hrest, GraphState.addHost, h c List.mem_cons_self]
      by_cases hprofile : c.1.profile = "readyedge"
      · rw [if_neg (not_not.mpr hprofile), reportedProducts, reportedProducts,
          List.filter_cons_of_pos (by simpa using hprofile), List.flatMap_cons, productsState,
          productsState, List.foldl_append, List.foldl_map]
      · rw [if_pos hprofile, reportedProducts, reportedProducts,
          List.filter_cons_of_neg (by simpa using hprofile)]

/-- **The graph** is that of the controllers and of what the hosts among them report, where the
uids of the components tell them apart. -/
theorem graph_eq (h : Keyed Component.uid (r.components env)) :
    (graphState env r).graph = ⟨r.components env, r.relationships env⟩ := by
  have hfirst : r.components env = firstComponents env r.system r.controllers ++
      (r.unmatchedProducts env).map fun p => productComponent env p.1 p.2 := rfl
  rw [hfirst] at h
  have hkeyed : Keyed Component.uid (firstComponents env r.system r.controllers) :=
    List.Nodup.sublist ((List.sublist_append_left _ _).map _) h
  have huids : Keyed Prod.fst (r.controllers.map fun c => (c.1.uid, c.2)).reverse := by
    have hmap : (r.controllers.map fun c => (c.1.uid, c.2)).map Prod.fst =
        (r.controllers.map fun c => controllerComponent env c.1 c.2).map Component.uid := by
      simp only [List.map_map]
      rfl
    rw [Keyed, List.map_reverse, List.nodup_reverse, hmap]
    have htail : (r.controllers.map fun c => controllerComponent env c.1 c.2).Sublist
        (firstComponents env r.system r.controllers) :=
      (List.sublist_cons_self _ _).trans (List.sublist_cons_self _ _)
    exact List.Nodup.sublist (htail.map _) hkeyed
  have hsamples : ∀ c ∈ r.controllers,
      ((r.controllers.map fun c => (c.1.uid, c.2)).reverse.lookup c.1.uid).join = c.2 := by
    intro c hc
    have hmem : (c.1.uid, c.2) ∈ (r.controllers.map fun c => (c.1.uid, c.2)).reverse :=
      List.mem_reverse.mpr (List.mem_map.mpr ⟨c, hc, rfl⟩)
    rw [(mem_iff_lookup_eq huids).mp hmem, Option.join_some]
  obtain ⟨s, hs⟩ : ∃ s, s = controllersState env r.system r.controllers := ⟨_, rfl⟩
  have hmatched : s.matched env =
      fun product => controllerOfSerial env r.controllers product.serialNumber := by
    rw [hs]
    exact funext matched_controllersState
  obtain ⟨hedges, hnodes⟩ := productsState_spec hmatched (reportedProducts env r.controllers)
  have hstate : graphState env r = productsState env s (reportedProducts env r.controllers) := by
    rw [hs]
    exact foldl_addHost _ hsamples
  have hbase : s.graph.nodes = firstComponents env r.system r.controllers := by
    rw [hs]
    exact nodes_controllersState hkeyed
  rw [hbase] at hnodes
  have hgraphNodes := hnodes h
  rw [← hstate] at hedges hgraphNodes
  have hgraphEdges : (graphState env r).graph.edges = r.relationships env := by
    rw [hedges, hs, edges_controllersState]
    rfl
  rw [← hgraphEdges, hfirst]
  exact congrArg (fun nodes => (⟨nodes, (graphState env r).graph.edges⟩ : KeyedGraph _ _))
    hgraphNodes

end Exact

/-! ## uids -/

/-- The uid of a controller, as the registry makes them: `ctrl_` and digits. -/
def Minted (uid : String) : Prop := "ctrl_".toList <+: uid.toList ∧ '|' ∉ uid.toList

instance : DecidablePred Minted := fun _ => inferInstanceAs (Decidable (_ ∧ _))

/-- What tells the components of a system apart. -/
structure ComponentReads.Distinct (env : ComponentEnv) (r : ComponentReads) : Prop where
  controllers : Keyed (fun c : ControllerDetail × Option LatestSample => c.1.uid) r.controllers
  minted : ∀ c ∈ r.controllers, Minted c.1.uid
  /-- the digests of the products that are no controllers do not collide -/
  digests : ∀ p ∈ r.unmatchedProducts env, ∀ q ∈ r.unmatchedProducts env,
    env.digest (productIdentity p.1 p.2) = env.digest (productIdentity q.1 q.2) →
      productIdentity p.1 p.2 = productIdentity q.1 q.2

section Uids

variable {env : ComponentEnv} {r : ComponentReads} {sample : Option LatestSample}
  {controllers : List (ControllerDetail × Option LatestSample)} {p q : String × ConnectedProduct}

/-- A product is read from the words of its own slot. -/
theorem slot_connectedProduct {slot : Nat} {product : ConnectedProduct}
    (h : connectedProduct env sample slot = some product) : product.slot = slot := by
  rw [connectedProduct] at h
  dsimp only at h
  split at h
  next => cases h
  next =>
    split at h
    next => cases h
    next =>
      cases h
      rfl

/-- A host reports a slot once. -/
theorem keyed_slots (env : ComponentEnv) (sample : Option LatestSample) :
    Keyed ConnectedProduct.slot (readyedgeConnectedProducts env sample) := by
  rw [Keyed, readyedgeConnectedProducts, List.map_filterMap]
  refine List.Nodup.filterMap (fun slot slot' n hn hn' => ?_) List.nodup_range
  obtain ⟨product, hproduct, rfl⟩ := Option.map_eq_some_iff.mp hn
  obtain ⟨product', hproduct', hsame⟩ := Option.map_eq_some_iff.mp hn'
  rw [← slot_connectedProduct hproduct, ← slot_connectedProduct hproduct', hsame]

/-- Only a ReadyEdge host reports products. -/
theorem mem_reportedProducts (h : p ∈ reportedProducts env controllers) :
    ∃ c ∈ controllers, c.1.profile = "readyedge" ∧ p.1 = c.1.uid ∧
      p.2 ∈ readyedgeConnectedProducts env c.2 := by
  obtain ⟨c, hc, hp⟩ := List.mem_flatMap.mp h
  obtain ⟨product, hproduct, rfl⟩ := List.mem_map.mp hp
  obtain ⟨hmem, hprofile⟩ := List.mem_filter.mp hc
  exact ⟨c, hmem, by simpa using hprofile, rfl, hproduct⟩

/-- Where the hosts have uids of their own, a host and a slot tell the products apart. -/
theorem keyed_reportedProducts
    (h : Keyed (fun c : ControllerDetail × Option LatestSample => c.1.uid) controllers) :
    Keyed (fun p => (p.1, p.2.slot)) (reportedProducts env controllers) := by
  have hhosts : (controllers.filter fun c => c.1.profile = "readyedge").Pairwise
      fun c c' => c.1.uid ≠ c'.1.uid :=
    List.Pairwise.sublist List.filter_sublist (List.pairwise_map.mp h)
  rw [Keyed, reportedProducts, List.map_flatMap, List.nodup_flatMap]
  constructor
  · intro c _
    rw [List.map_map]
    have hslots : ((readyedgeConnectedProducts env c.2).map ConnectedProduct.slot).Nodup :=
      keyed_slots env c.2
    exact (List.pairwise_map.mpr ((List.pairwise_map.mp hslots).imp fun hne heq =>
      hne (congrArg Prod.snd heq)))
  · refine hhosts.imp fun hne => ?_
    intro k hk hk'
    obtain ⟨p, hp, rfl⟩ := List.mem_map.mp hk
    obtain ⟨q, hq, hsame⟩ := List.mem_map.mp hk'
    obtain ⟨product, -, rfl⟩ := List.mem_map.mp hp
    obtain ⟨product', -, rfl⟩ := List.mem_map.mp hq
    exact hne (congrArg Prod.fst hsame).symm

/-- A product is told apart by its host and its slot: what comes before the first bar of its
identity, and after the last. -/
theorem productIdentity_inj {host host' : String} {product product' : ConnectedProduct}
    (hhost : '|' ∉ host.toList) (hhost' : '|' ∉ host'.toList)
    (h : productIdentity host product = productIdentity host' product') :
    (host, product.slot) = (host', product'.slot) := by
  have hbar : "|".toList = ['|'] := rfl
  have hlist := congrArg String.toList h
  simp only [productIdentity, String.toList_append, hbar] at hlist
  have hlast : (toString product.slot).toList = (toString product'.slot).toList := by
    rw [← List.append_cons _ '|' (toString product.slot).toList,
      ← List.append_cons _ '|' (toString product'.slot).toList] at hlist
    exact (Text.split_last (Text.notMem_toString rfl _) (Text.notMem_toString rfl _) hlist).2
  have hfirst : host.toList = host'.toList := by
    simp only [List.append_assoc, List.singleton_append] at hlist
    exact (Text.split_first hhost hhost' hlist).1
  rw [String.toList_injective hfirst, Text.toString_inj.mp (String.toList_injective hlast)]

/-- The uid of a product has a head of its own. -/
theorem connectedUid_toList (host : String) (product : ConnectedProduct) :
    (connectedUid env host product).toList =
      'c' :: 'p' :: '_' :: (env.digest (productIdentity host product)).toList := by
  simp [connectedUid]

/-- A minted uid is not that of a product. -/
theorem Minted.ne_connectedUid {uid : String} (h : Minted uid) (host : String)
    (product : ConnectedProduct) : uid ≠ connectedUid env host product := by
  rintro rfl
  have hhead := h.1
  rw [connectedUid_toList] at hhead
  simp at hhead

theorem Minted.ne_systemComponentUid {uid : String} (h : Minted uid) (systemUid : String) :
    uid ≠ systemComponentUid systemUid := by
  rintro rfl
  have hhead := h.1
  simp [systemComponentUid] at hhead

theorem Minted.ne_batteryBusUid {uid : String} (h : Minted uid) (systemUid : String) :
    uid ≠ batteryBusUid systemUid := by
  rintro rfl
  have hhead := h.1
  simp [batteryBusUid] at hhead

/-- Nor is the system's, nor that of its battery bus. -/
theorem connectedUid_ne_system (host systemUid : String) (product : ConnectedProduct) :
    connectedUid env host product ≠ systemComponentUid systemUid ∧
      connectedUid env host product ≠ batteryBusUid systemUid := by
  constructor
  all_goals
    intro h
    have hlist := congrArg String.toList h
    rw [connectedUid_toList] at hlist
    simp [systemComponentUid, batteryBusUid] at hlist

/-- No two components have the same uid. -/
theorem ComponentReads.Distinct.keyed (h : r.Distinct env) :
    Keyed Component.uid (r.components env) := by
  have hminted : ∀ p ∈ r.unmatchedProducts env, Minted p.1 := by
    intro p hp
    obtain ⟨c, hc, -, hhost, -⟩ := mem_reportedProducts (List.mem_filter.mp hp).1
    exact hhost ▸ h.minted c hc
  have hproducts : ((r.unmatchedProducts env).map fun p => connectedUid env p.1 p.2).Nodup := by
    have hreported : (r.unmatchedProducts env).Pairwise
        fun p q => (p.1, p.2.slot) ≠ (q.1, q.2.slot) :=
      List.Pairwise.sublist List.filter_sublist
        (List.pairwise_map.mp (keyed_reportedProducts h.controllers))
    refine List.pairwise_map.mpr (hreported.imp_of_mem fun hp hq hne heq => hne ?_)
    have hlist := congrArg String.toList heq
    rw [connectedUid_toList, connectedUid_toList] at hlist
    have hdigest : env.digest _ = env.digest _ := String.toList_injective (by simpa using hlist)
    exact productIdentity_inj (hminted _ hp).2 (hminted _ hq).2 (h.digests _ hp _ hq hdigest)
  have hcontrollers : (r.controllers.map fun c => c.1.uid).Nodup := h.controllers
  have hrest : ((r.controllers.map fun c => c.1.uid) ++
      (r.unmatchedProducts env).map fun p => connectedUid env p.1 p.2).Nodup := by
    refine List.nodup_append.mpr ⟨hcontrollers, hproducts, fun uid huid uid' huid' => ?_⟩
    obtain ⟨c, hc, rfl⟩ := List.mem_map.mp huid
    obtain ⟨p, -, rfl⟩ := List.mem_map.mp huid'
    exact (h.minted c hc).ne_connectedUid p.1 p.2
  have hbus : batteryBusUid r.system.systemUid ∉ (r.controllers.map fun c => c.1.uid) ++
      (r.unmatchedProducts env).map fun p => connectedUid env p.1 p.2 := by
    intro hmem
    rcases List.mem_append.mp hmem with hmem | hmem
    · obtain ⟨c, hc, hsame⟩ := List.mem_map.mp hmem
      exact (h.minted c hc).ne_batteryBusUid _ hsame
    · obtain ⟨p, -, hsame⟩ := List.mem_map.mp hmem
      exact (connectedUid_ne_system p.1 _ p.2).2 hsame
  have hsystem : systemComponentUid r.system.systemUid ∉ batteryBusUid r.system.systemUid ::
      ((r.controllers.map fun c => c.1.uid) ++
        (r.unmatchedProducts env).map fun p => connectedUid env p.1 p.2) := by
    intro hmem
    rcases List.mem_cons.mp hmem with hsame | hmem
    · exact systemComponentUid_ne _ _ hsame
    rcases List.mem_append.mp hmem with hmem | hmem
    · obtain ⟨c, hc, hsame⟩ := List.mem_map.mp hmem
      exact (h.minted c hc).ne_systemComponentUid _ hsame
    · obtain ⟨p, -, hsame⟩ := List.mem_map.mp hmem
      exact (connectedUid_ne_system p.1 _ p.2).1 hsame
  have huids : (r.components env).map Component.uid = systemComponentUid r.system.systemUid ::
      batteryBusUid r.system.systemUid :: ((r.controllers.map fun c => c.1.uid) ++
        (r.unmatchedProducts env).map fun p => connectedUid env p.1 p.2) := by
    simp only [ComponentReads.components, List.map_cons, List.map_append, List.map_map]
    rfl
  rw [Keyed, huids]
  exact List.nodup_cons.mpr ⟨hsystem, List.nodup_cons.mpr ⟨hbus, hrest⟩⟩

end Uids

/-! ## what a product is -/

/-- The controller has the serial number, without regard to its case. -/
def HasSerial (env : ComponentEnv) (serialNumber : String)
    (c : ControllerDetail × Option LatestSample) : Prop :=
  serialNumber ≠ "" ∧ controllerSerial env c.1 c.2 ≠ "" ∧
    env.casefold (controllerSerial env c.1 c.2) = env.casefold serialNumber

section Monitors

variable {env : ComponentEnv} {r : ComponentReads}
  {controllers : List (ControllerDetail × Option LatestSample)} {serialNumber uid : String}

/-- Without a controller the serial number is nobody's. -/
theorem controllerOfSerial_eq_none :
    controllerOfSerial env controllers serialNumber = none ↔
      ∀ c ∈ controllers, ¬HasSerial env serialNumber c := by
  rw [controllerOfSerial]
  by_cases hserial : serialNumber = ""
  · rw [if_pos hserial]
    exact ⟨fun _ _ _ h => h.1 hserial, fun _ => rfl⟩
  · rw [if_neg hserial, Option.map_eq_none_iff, List.find?_eq_none]
    simp [HasSerial, hserial]

/-- The controller found by a serial number has it. -/
theorem controllerOfSerial_eq_some
    (h : controllerOfSerial env controllers serialNumber = some uid) :
    ∃ c ∈ controllers, HasSerial env serialNumber c ∧ c.1.uid = uid := by
  rw [controllerOfSerial] at h
  split at h
  next => cases h
  next hserial =>
    obtain ⟨c, hc, huid⟩ := Option.map_eq_some_iff.mp h
    have hfound := List.find?_some hc
    rw [decide_eq_true_eq] at hfound
    obtain ⟨hown, hsame⟩ := hfound
    exact ⟨c, List.mem_reverse.mp (List.mem_of_find?_eq_some hc), ⟨hserial, hown, hsame⟩, huid⟩

/-- A monitoring relationship says where it comes from. -/
theorem source_monitorOf (p : String × ConnectedProduct) :
    (r.monitorOf env p).source = "readyedge_connected_product" := by
  rw [ComponentReads.monitorOf]
  split <;> rfl

/-- The relationships of controllers come from elsewhere. -/
theorem source_controllerRelationships {system : SystemsRow} {controller : ControllerDetail}
    {e : Relationship} (h : e ∈ controllerRelationships env system controller) :
    e.source ≠ "readyedge_connected_product" := by
  rw [controllerRelationships] at h
  have hmember : "system_membership" ≠ "readyedge_connected_product" := by decide
  have hcharges : "catalog_register_semantics" ≠ "readyedge_connected_product" := by decide
  rcases List.mem_cons.mp h with rfl | h
  · exact hmember
  · split at h
    · rw [List.mem_singleton.mp h]
      exact hcharges
    · cases h

/-- A product is monitored once. -/
theorem filter_relationships :
    (r.relationships env).filter (fun e => e.source = "readyedge_connected_product") =
      (reportedProducts env r.controllers).map (r.monitorOf env) := by
  rw [ComponentReads.relationships, List.filter_append]
  have hothers : (r.controllers.flatMap fun c => controllerRelationships env r.system c.1).filter
      (fun e => e.source = "readyedge_connected_product") = [] := by
    refine List.filter_eq_nil_iff.mpr fun e he => ?_
    obtain ⟨c, -, hc⟩ := List.mem_flatMap.mp he
    simpa using source_controllerRelationships hc
  rw [hothers, List.nil_append, List.filter_eq_self]
  intro e he
  obtain ⟨p, -, rfl⟩ := List.mem_map.mp he
  exact decide_eq_true (source_monitorOf p)

/-- What a reported product is taken for: the controller with its serial number, or a component of
its own where there is none. -/
def ComponentReads.Resolved (env : ComponentEnv) (r : ComponentReads)
    (p : String × ConnectedProduct) : Prop :=
  (∃ c ∈ r.controllers, HasSerial env p.2.serialNumber c ∧
    r.monitorOf env p = { fromUid := p.1, toUid := c.1.uid, body := .monitors p.2 true }) ∨
  ((∀ c ∈ r.controllers, ¬HasSerial env p.2.serialNumber c) ∧
    productComponent env p.1 p.2 ∈ r.components env ∧
    r.monitorOf env p =
      { fromUid := p.1, toUid := connectedUid env p.1 p.2, body := .monitors p.2 false })

/-- A reported product is one of the controllers exactly if its serial number says so. -/
theorem resolved {p : String × ConnectedProduct} (h : p ∈ reportedProducts env r.controllers) :
    r.Resolved env p := by
  cases hserial : controllerOfSerial env r.controllers p.2.serialNumber with
  | some uid =>
      obtain ⟨c, hc, hhas, rfl⟩ := controllerOfSerial_eq_some hserial
      exact .inl ⟨c, hc, hhas, by rw [ComponentReads.monitorOf, hserial]⟩
  | none =>
      have hmem : p ∈ r.unmatchedProducts env :=
        List.mem_filter.mpr ⟨h, decide_eq_true hserial⟩
      have hcomponent : productComponent env p.1 p.2 ∈ r.components env :=
        List.mem_cons_of_mem _ (List.mem_cons_of_mem _
          (List.mem_append_right _ (List.mem_map.mpr ⟨p, hmem, rfl⟩)))
      exact .inr ⟨controllerOfSerial_eq_none.mp hserial, hcomponent, by
        rw [ComponentReads.monitorOf, hserial]⟩

end Monitors

/-- **The component graph.**  Whatever is read, no two components have the same uid and every
relationship joins components.  Where the uids of the controllers and the digests tell their
bearers apart, the components are the system, its battery bus, its controllers and those reported
products that no serial number makes one of the controllers; and every reported product is
monitored by its host once, as the controller it is or as itself. -/
theorem componentGraph_sound (env : ComponentEnv) (r : ComponentReads) :
    KeyedGraph.WellFormed Component.uid Relationship.ends
      { nodes := (graphOf env r).components, edges := (graphOf env r).relationships } ∧
    (r.Distinct env →
      (graphOf env r).components = r.components env ∧
      (graphOf env r).relationships = r.relationships env ∧
      (graphOf env r).relationships.filter (fun e => e.source = "readyedge_connected_product") =
        (reportedProducts env r.controllers).map (r.monitorOf env) ∧
      (∀ p ∈ reportedProducts env r.controllers, r.Resolved env p) ∧
      (graphOf env r).summary.readyedgeConnectedProducts =
        (reportedProducts env r.controllers).length) := by
  refine ⟨graph_wellFormed env r, fun h => ?_⟩
  have hgraph := graph_eq h.keyed
  have hcomponents : (graphOf env r).components = r.components env :=
    congrArg KeyedGraph.nodes hgraph
  have hrelationships : (graphOf env r).relationships = r.relationships env :=
    congrArg KeyedGraph.edges hgraph
  have hmonitors : (graphOf env r).relationships.filter
      (fun e => e.source = "readyedge_connected_product") =
        (reportedProducts env r.controllers).map (r.monitorOf env) := by
    rw [hrelationships, filter_relationships]
  refine ⟨hcomponents, hrelationships, hmonitors, fun p hp => resolved hp, ?_⟩
  calc (graphOf env r).summary.readyedgeConnectedProducts
    _ = (graphOf env r).relationships.countP
          fun e => e.source = "readyedge_connected_product" := rfl
    _ = ((reportedProducts env r.controllers).map (r.monitorOf env)).length := by
      rw [List.countP_eq_length_filter, hmonitors]
    _ = (reportedProducts env r.controllers).length := List.length_map _

/-- ASCII texts, and the digest of one product. -/
def siteEnv : ComponentEnv where
  str := fun _ => ""
  fromisoformat := fun _ => none
  lower := String.map Char.toLower
  casefold := String.map Char.toLower
  digest := fun text =>
    if text = "ctrl_1|34567890|ProStar-PWM|1" then "e9dd18498e4c4262e9bc" else ""
  registerNames := fun profile => if profile = "tristar_mppt" then ["output_power"] else []

def textCell (name text : String) : RegisterValue where
  sampleId := 1
  registerName := name
  address := 0
  function := "holding"
  rawJson := "[]"
  numericValue := none
  textValue := some text
  unit := none

/-- A ReadyEdge that reports a controller of the system and another product. -/
def siteReads : ComponentReads where
  system := { systemUid := "sys_1", name := "cabin" }
  controllers :=
    [({ uid := "ctrl_1", profile := "readyedge", family := "readyedge", model := "ReadyEdge",
        serialNumber := "RE-1", firmware := "", status := "online" },
      some {
        sample := { id := 1, sourceDeviceId := "d1", controllerUid := "ctrl_1",
                    observedAt := "2026-01-01T00:00:00+00:00", latencyMs := 1,
                    profile := "readyedge" }
        values :=
          [textCell "connected_product_0_type" "TriStar-MPPT",
            textCell "connected_product_0_serial" "ts-12",
            textCell "connected_product_1_type" "ProStar-PWM",
            textCell "connected_product_1_serial" "34567890",
            textCell "connected_product_2_type" "None"] }),
      ({ uid := "ctrl_2", profile := "tristar_mppt", family := "tristar", model := "TS-MPPT-60",
         serialNumber := "TS-12", firmware := "", status := "" }, none)]
  named := by decide

theorem siteReads_distinct : siteReads.Distinct siteEnv where
  controllers := by decide +kernel
  minted := by decide +kernel
  digests := by decide +kernel

/-- The one product is the second controller; the other is a component of its own. -/
theorem componentGraph_sound_readyedge :
    (siteReads.components siteEnv).length = 5 ∧
      (siteReads.relationships siteEnv).map Relationship.ends =
        [("ctrl_1", "system:sys_1"), ("ctrl_2", "system:sys_1"), ("ctrl_2", "battery_bus:sys_1"),
          ("ctrl_1", "ctrl_2"), ("ctrl_1", "cp_e9dd18498e4c4262e9bc")] ∧
      (graphOf siteEnv siteReads).components = siteReads.components siteEnv ∧
      (graphOf siteEnv siteReads).relationships = siteReads.relationships siteEnv :=
  have h := (componentGraph_sound siteEnv siteReads).2 siteReads_distinct
  ⟨by decide +kernel, by decide +kernel, h.1, h.2.1⟩

end MorningstarModbus
