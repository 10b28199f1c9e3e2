import MorningstarModbus.Catalog.FirmwareGates
import MorningstarModbus.Discovery.Probe
import MorningstarModbus.Intelligence.Validation

/-!
# MorningstarModbus.Capture.Verification

The verification of a device (`capture/verification.py`): one poll of a new profile, and how much
of what the catalog says of it could be read.

* `poll_answered` — a poll that ends well has read every block that is not optional;
* `poll_available` — a block counts as readable exactly when all its words were read;
* `verification_sound` — what the counts and the result of a report say of the reads.
-/

namespace MorningstarModbus

open Catalog Effects Query Table

/-! ## reports -/

inductive VerificationResult where
  | verified
  | failed
  deriving DecidableEq

structure VerificationReport where
  profile : String
  family : String
  model : String
  firmware : String
  hardwareRevision : String
  transport : Transport
  unitId : Nat
  intelligenceStatus : IntelligenceStatus
  confidence : ℚ
  runtimeBlocksReadable : Nat
  runtimeBlocksTotal : Nat
  metadataBlocksReadable : Nat
  metadataBlocksTotal : Nat
  namedRegistersDecoded : Nat
  namedRegistersTotal : Nat
  optionalBlocksReadable : Nat
  optionalBlocksTotal : Nat
  result : VerificationResult
  warnings : List String
  deriving DecidableEq

/-- `_block_available` -/
def blockAvailable (values : List Catalog.RegisterValue) (block : RegisterBlock) : Bool :=
  let rawKeys := (values.filter fun value => isWordName value.name).map fun value =>
    (value.function, value.address)
  (List.range' block.address block.count).all fun address => (block.function, address) ∈ rawKeys

/-- The report of `verify_device`, of the blocks and registers that apply to the firmware. -/
def reportOf (spec : DeviceProfileSpec) (endpoint : Endpoint) (intelligence : ResolvedIntelligence)
    (values : List Catalog.RegisterValue) (blocks : List RegisterBlock)
    (registers : List RegisterSpec) : VerificationReport :=
  let runtime := blocks.filter fun block => block.category ≠ .metadata
  let metadata := blocks.filter fun block => block.category = .metadata
  let optional := blocks.filter fun block => block.optional
  let named := (namedValues values).map Catalog.RegisterValue.name
  let requiredOk := (blocks.filter fun block => !block.optional).all (blockAvailable values)
  { profile := spec.name
    family := spec.family
    model := intelligence.model
    firmware := intelligence.firmware
    hardwareRevision := intelligence.hardwareRevision
    transport := endpoint.transport
    unitId := endpoint.unitId
    intelligenceStatus := intelligence.status
    confidence := intelligence.confidence
    runtimeBlocksReadable := runtime.countP (blockAvailable values)
    runtimeBlocksTotal := runtime.length
    metadataBlocksReadable := metadata.countP (blockAvailable values)
    metadataBlocksTotal := metadata.length
    namedRegistersDecoded := registers.countP fun register => register.name ∈ named
    namedRegistersTotal := registers.length
    optionalBlocksReadable := optional.countP (blockAvailable values)
    optionalBlocksTotal := optional.length
    result :=
      if requiredOk ∧ intelligence.status ≠ .generic ∧ intelligence.status ≠ .invalid then .verified
      else .failed
    warnings := intelligence.warnings.map ValidationIssue.message }

section Verify

variable (env : DiscoveryEnv)

/-- What `verify_device` knows once it has polled the device. -/
structure VerifiedPoll where
  identification : DeviceIdentification
  /-- after the poll -/
  intelligence : ResolvedIntelligence
  values : List Catalog.RegisterValue

/-- The reading part of `verify_device`. -/
def verifyPoll (target : ProbeTarget) (endpoint : Endpoint) : ProfileProgram VerifiedPoll := do
  let identification := target.identification.toOption.getD {}
  let spec ← detectProfile env.casefold env.registry target.device identification
  let intelligence ←
    resolveDeviceIntelligence env.resolver target.device spec identification (some endpoint)
  -- the poll is of a new profile
  modify fun s => { log := s.log }
  let values ←
    poll target.device (env.registry.profileByName intelligence.profile) intelligence.firmware
  let intelligence ←
    ofResult (refreshIntelligence env.resolver intelligence values (some endpoint))
  return { identification, intelligence, values }

/-- `verify_device` -/
def verifyDevice (target : ProbeTarget) (endpoint : Endpoint) :
    ProfileProgram (VerificationReport × DeviceIdentification × List Catalog.RegisterValue) := do
  let polled ← verifyPoll env target endpoint
  let spec := env.registry.profileByName polled.intelligence.profile
  let firmware := polled.intelligence.firmware
  let blocks ← ofResult (effectiveItems RegisterBlock.toFirmwareGate firmware spec.blocks)
  let registers ← ofResult (effectiveItems RegisterSpec.toFirmwareGate firmware spec.registers)
  return (reportOf spec endpoint polled.intelligence polled.values blocks registers,
    polled.identification, polled.values)

end Verify

/-! ## what was read -/

/-- Every word that is asked for is in one of the reads. -/
def Answered (reads : List BlockRead) (request : ReadRequest) : Prop :=
  ∀ i < request.count, ∃ read ∈ reads, ∃ word, read.Has (request.function, request.address + i) word

/-- What the device answered in a poll. -/
def pollReads (device : Device) (spec : DeviceProfileSpec) (firmware : String) (s : ProfileState) :
    List BlockRead :=
  successes (pollLog device spec firmware s)

theorem answered_of_mem {reads : List BlockRead} {read : BlockRead} (hread : read ∈ reads)
    (hlength : read.2.length = read.1.count) : Answered reads read.1 := fun i hi =>
  ⟨read, hread, read.2.get ⟨i, hlength ▸ hi⟩, i, List.getElem?_eq_getElem (hlength ▸ hi), rfl⟩

/-- The words that are there are those that were read. -/
theorem isSome_lookup_absorb_iff {reads : List BlockRead} {key : WordKey} :
    ((WordMap.absorb [] reads).lookup key).isSome = true ↔
      ∃ read ∈ reads, ∃ word, read.Has key word := by
  constructor
  · intro h
    obtain ⟨word, hword⟩ := Option.isSome_iff_exists.mp h
    obtain ⟨read, hread, hhas⟩ | hnone := WordMap.lookup_absorb hword
    · exact ⟨read, hread, word, hhas⟩
    · cases hnone
  · intro h
    obtain ⟨read, hread, word, hhas⟩ := h
    exact WordMap.isSome_lookup_absorb hread hhas

section Required

variable {device : Device} {spec : DeviceProfileSpec} {firmware : String} {s : ProfileState}

/-- A loop over the cached blocks that ended well has cached those that are not optional. -/
theorem cached_of_loadBlocks {blocks : List RegisterBlock}
    (h : (exec (blocks.forM (loadBlock device)) s).1 = .ok ()) {block : RegisterBlock}
    (hblock : block ∈ blocks) (hcache : block.cache = true) (hrequired : block.optional = false) :
    block.key ∈ (exec (blocks.forM (loadBlock device)) s).2.cachedBlocks := by
  induction blocks generalizing s with
  | nil => cases hblock
  | cons first blocks ih =>
      have hcons : exec ((first :: blocks).forM (loadBlock device)) s =
          exec (loadBlock device first >>= fun _ => blocks.forM (loadBlock device)) s := rfl
      rw [hcons, exec_bind] at h ⊢
      have hfirst : first = block → (exec (loadBlock device first) s).1 = .ok () →
          block.key ∈ (exec (loadBlock device first) s).2.cachedBlocks := by
        rintro rfl hok
        rw [exec_loadBlock] at hok ⊢
        by_cases hskip : first.cache = false ∨ first.key ∈ s.cachedBlocks
        · rw [if_pos hskip]
          exact hskip.resolve_left (by simp [hcache])
        · rw [if_neg hskip] at hok ⊢
          cases hreply : device s.log.length first.request with
          | ok words => simp
          | error e => simp [hreply, hrequired] at hok
      generalize exec (loadBlock device first) s = out at h hfirst ⊢
      obtain ⟨r, t⟩ := out
      cases r with
      | error e => cases h
      | ok u =>
          have hall : ∀ block ∈ blocks, block ∈ DeviceProfileSpec.blocks
              { name := "", family := "", blocks } := fun _ hb => hb
          obtain ⟨new, hnew, -⟩ := loadBlocks_spec device hall t
          obtain rfl | hlater := List.mem_cons.mp hblock
          · rw [hnew.cachedBlocks]
            exact List.mem_append_left _ (hfirst rfl rfl)
          · exact ih h hlater

/-- A loop over the other blocks that ended well has read those that are not optional. -/
theorem read_of_readBlocks {blocks : List RegisterBlock} {words words' : WordMap} {n : Nat}
    (hn : n ≤ s.log.length)
    (h : (exec (blocks.foldlM (readTelemetry device) words) s).1 = .ok words')
    {block : RegisterBlock} (hblock : block ∈ blocks) (hcache : block.cache = false)
    (hrequired : block.optional = false) :
    ∃ reply, (block.request, .ok reply) ∈
      (exec (blocks.foldlM (readTelemetry device) words) s).2.log.drop n := by
  induction blocks generalizing s words with
  | nil => cases hblock
  | cons first blocks ih =>
      rw [List.foldlM_cons, exec_bind] at h ⊢
      obtain ⟨new, hnew, -⟩ :=
        readTelemetry_spec device (List.mem_cons_self (a := first) (l := blocks)) words s
      have hfirst : first = block → ∀ read,
          (exec (readTelemetry device words first) s).1 = .ok read → ∃ reply,
            (exec (readTelemetry device words first) s).2.log =
              s.log ++ [(block.request, .ok reply)] := by
        rintro rfl read hok
        rw [exec_readTelemetry, hcache, if_neg Bool.false_ne_true] at hok ⊢
        cases hreply : device s.log.length first.request with
        | ok reply => exact ⟨reply, by simp [ProfileState.asked, hreply]⟩
        | error e => simp [hreply, hrequired] at hok
      generalize exec (readTelemetry device words first) s = out at h hnew hfirst ⊢
      obtain ⟨r, t⟩ := out
      cases r with
      | error e => cases h
      | ok read =>
          dsimp only at h ⊢
          obtain rfl | hlater := List.mem_cons.mp hblock
          · obtain ⟨reply, hlog⟩ := hfirst rfl read rfl
            obtain ⟨later, hrest, -⟩ := readBlocks_spec device (fun b hb => hb) read t
            refine ⟨reply, ?_⟩
            rw [hrest.log, hlog, List.append_assoc, List.drop_append_of_le_length hn]
            exact List.mem_append_right _ (List.mem_append_left _ (List.mem_singleton_self _))
          · refine ih ?_ h hlater
            rw [hnew.log, List.length_append]
            omega

/-- The answers of a poll are to requests of their length. -/
theorem length_of_mem_pollReads (hcounted : device.Counted) {read : BlockRead}
    (h : read ∈ pollReads device spec firmware s) : read.2.length = read.1.count := by
  have hentry := mem_successes.mp h
  have hanswer : ∃ n, .ok read.2 = device n read.1 := by
    cases List.mem_append.mp hentry with
    | inl hloaded => exact (metadataLog_spec device spec s).answers _ hloaded
    | inr hread => exact telemetryLog_spec.answers _ hread
  obtain ⟨n, hn⟩ := hanswer
  exact hcounted n _ _ hn.symm

/-- A poll of a new profile that ends well has read the blocks that are not optional. -/
theorem exists_read_of_poll (hfresh : s.cachedBlocks = []) {values : List Catalog.RegisterValue}
    (h : (exec (poll device spec firmware) s).1 = .ok values) {blocks : List RegisterBlock}
    (heffective : effectiveItems RegisterBlock.toFirmwareGate firmware spec.blocks = .ok blocks)
    {block : RegisterBlock} (hblock : block ∈ blocks) (hrequired : block.optional = false) :
    ∃ read ∈ pollReads device spec firmware s, read.1 = block.request := by
  have hpoll := exec_poll device spec firmware s
  obtain ⟨loaded, hloaded⟩ : ∃ out, exec (loadMetadata device spec) s = out := ⟨_, rfl⟩
  obtain ⟨r, t⟩ := loaded
  rw [hloaded] at hpoll
  cases r with
  | error e =>
      rw [hpoll] at h
      cases h
  | ok u =>
      have ht : afterMetadata device spec s = t := by rw [afterMetadata, hloaded]
      cases hcache : block.cache with
      | true =>
          have hdone : (exec (spec.blocks.forM (loadBlock device)) s).1 = .ok () := by
            rw [← loadMetadata, hloaded]
          have hmem := (effectiveItems_sublist heffective).subset hblock
          have hkey := cached_of_loadBlocks hdone hmem hcache hrequired
          have hspec := metadataLog_spec device spec s
          rw [← loadMetadata, ← afterMetadata, hspec.cachedBlocks, hfresh, List.nil_append,
            List.mem_map] at hkey
          obtain ⟨read, hread, hkey⟩ := hkey
          refine ⟨read, ?_, ReadRequest.key_injective hkey⟩
          rw [pollReads, pollLog, successes_append]
          exact List.mem_append_left _ hread
      | false =>
          rw [heffective] at hpoll
          dsimp only at hpoll
          obtain ⟨out, hout⟩ : ∃ out,
            exec (blocks.foldlM (readTelemetry device) t.metadata) t = out := ⟨_, rfl⟩
          obtain ⟨r, v⟩ := out
          rw [hout] at hpoll
          cases r with
          | error e =>
              rw [hpoll] at h
              cases h
          | ok words =>
              obtain ⟨reply, hreply⟩ := read_of_readBlocks (n := t.log.length) le_rfl
                (by rw [hout]) hblock hcache hrequired
              have hv : afterPoll device spec firmware s = v := by rw [afterPoll, hpoll]
              refine ⟨(block.request, reply), mem_successes.mpr ?_, rfl⟩
              rw [pollLog, telemetryLog, ht, hv]
              rw [hout] at hreply
              exact List.mem_append_right _ hreply

/-- **Required blocks.**  A poll of a new profile that ends well has read every word of the blocks
that are not optional. -/
theorem poll_answered (hcounted : device.Counted) (hfresh : s.cachedBlocks = [])
    {values : List Catalog.RegisterValue}
    (h : (exec (poll device spec firmware) s).1 = .ok values) {blocks : List RegisterBlock}
    (heffective : effectiveItems RegisterBlock.toFirmwareGate firmware spec.blocks = .ok blocks)
    {block : RegisterBlock} (hblock : block ∈ blocks) (hrequired : block.optional = false) :
    Answered (pollReads device spec firmware s) block.request := by
  obtain ⟨read, hread, hrequest⟩ := exists_read_of_poll hfresh h heffective hblock hrequired
  exact hrequest ▸ answered_of_mem hread (length_of_mem_pollReads hcounted hread)

end Required

/-! ## what is counted -/

/-- The names of the values that `derive_register_values` adds. -/
def derivedNames : List String :=
  ["input_power", "input_power_source", "input_power_quality", "input_power_note"]

/-- No register is called as a word is. -/
def PlainNames (spec : DeviceProfileSpec) : Prop :=
  ∀ register ∈ spec.registers, isWordName register.name = false

theorem plainNames_profileByName {registry : Registry}
    (h : ∀ entry ∈ registry.families, PlainNames entry.toDeviceProfileSpec) (name : String) :
    PlainNames (registry.profileByName name) := by
  have hgeneric : PlainNames generic := fun _ hmem => absurd hmem List.not_mem_nil
  rw [Registry.profileByName]
  split
  · exact hgeneric
  · cases hlast : (registry.profiles.filter fun p => p.name = name).getLast? with
    | none => exact hgeneric
    | some entry =>
        have hmem := List.mem_of_mem_filter (List.mem_of_getLast? hlast)
        exact h entry ((mem_orderBy _ _ _).mp hmem)

section Counted

variable {spec : DeviceProfileSpec} {firmware : String} {words : WordMap}
  {values : List Catalog.RegisterValue} {registers : List RegisterSpec}

theorem name_deriveRegisterValues {profileName : String} {named : List Catalog.RegisterValue}
    {v : Catalog.RegisterValue} (h : v ∈ deriveRegisterValues profileName named) :
    v.name ∈ derivedNames := by
  rw [deriveRegisterValues] at h
  split at h
  next => cases h
  next =>
    split at h
    next =>
      simp only [List.mem_cons, List.not_mem_nil, or_false] at h
      obtain rfl | rfl | rfl | rfl := h <;> simp [derivedNames]
    next => cases h

/-- The parts of what a poll returns. -/
structure PollParts (spec : DeviceProfileSpec) (firmware : String) (words : WordMap)
    (named : List Catalog.RegisterValue) (values : List Catalog.RegisterValue) : Prop where
  decoded : decodeNamed spec words none firmware = .ok named
  values : values = wordValues words ++ named ++ deriveRegisterValues spec.name named
  plain : ∀ v ∈ named ++ deriveRegisterValues spec.name named, isWordName v.name = false

theorem exists_pollParts (hnames : PlainNames spec)
    (h : pollValues spec firmware words = .ok values) :
    ∃ named, PollParts spec firmware words named values := by
  simp only [pollValues, Loop.bind_eq_ok, Loop.pure_eq_ok, Except.ok.injEq] at h
  obtain ⟨named, hnamed, rfl⟩ := h
  refine ⟨named, hnamed, rfl, fun v hv => ?_⟩
  cases List.mem_append.mp hv with
  | inl hmem =>
      obtain ⟨registers, heffective, register, hregister, -, value, rfl⟩ :=
        mem_decodeNamed hnamed hmem
      exact hnames register ((effectiveItems_sublist heffective).subset hregister)
  | inr hderived =>
      have hplain : ∀ name ∈ derivedNames, isWordName name = false := by decide +kernel
      exact hplain v.name (name_deriveRegisterValues hderived)

theorem isWordName_of_mem_wordValues {v : Catalog.RegisterValue} (h : v ∈ wordValues words) :
    isWordName v.name = true := by
  obtain ⟨entry, -, rfl⟩ := List.mem_map.mp h
  exact isWordName_wordName entry.1.1 entry.1.2

namespace PollParts

variable {named : List Catalog.RegisterValue} (h : PollParts spec firmware words named values)

include h

/-- The values that are not named are those of the words. -/
theorem filter_isWordName : values.filter (fun v => isWordName v.name) = wordValues words := by
  have hwords : (wordValues words).filter (fun v => isWordName v.name) = wordValues words :=
    List.filter_eq_self.mpr fun v hv => isWordName_of_mem_wordValues hv
  have hplain : (named ++ deriveRegisterValues spec.name named).filter
      (fun v => isWordName v.name) = [] :=
    List.filter_eq_nil_iff.mpr fun v hv => by simp [h.plain v hv]
  rw [h.values, List.append_assoc, List.filter_append, hwords, hplain, List.append_nil]

theorem namedValues_eq : namedValues values = named ++ deriveRegisterValues spec.name named := by
  have hwords : (wordValues words).filter (fun v => !isWordName v.name) = [] :=
    List.filter_eq_nil_iff.mpr fun v hv => by simp [isWordName_of_mem_wordValues hv]
  have hplain : (named ++ deriveRegisterValues spec.name named).filter
      (fun v => !isWordName v.name) = named ++ deriveRegisterValues spec.name named :=
    List.filter_eq_self.mpr fun v hv => by simp [h.plain v hv]
  rw [namedValues, h.values, List.append_assoc, List.filter_append, hwords, hplain,
    List.nil_append]

/-- The addresses that a block is looked up in are those with a word. -/
theorem blockAvailable_iff (hwords : Keyed Prod.fst words) (block : RegisterBlock) :
    blockAvailable values block = true ↔
      ∀ i < block.count, (words.lookup (block.function, block.address + i)).isSome = true := by
  have hkey : ∀ key : WordKey, key ∈ (wordValues words).map (fun v => (v.function, v.address)) ↔
      (words.lookup key).isSome = true := by
    intro key
    simp only [wordValues, List.map_map, WordMap.sorted, List.mem_map, mem_orderBy,
      Function.comp_apply, wordValue, Prod.mk.eta, Option.isSome_iff_exists]
    constructor
    · intro hmem
      obtain ⟨⟨key, word⟩, hentry, rfl⟩ := hmem
      exact ⟨word, (mem_iff_lookup_eq hwords).mp hentry⟩
    · intro hsome
      obtain ⟨word, hword⟩ := hsome
      exact ⟨(key, word), (mem_iff_lookup_eq hwords).mpr hword, rfl⟩
  simp only [blockAvailable, h.filter_isWordName, List.all_eq_true, decide_eq_true_eq, hkey,
    List.mem_range'_1]
  constructor
  · intro hall i hi
    exact hall (block.address + i) ⟨Nat.le_add_right _ _, Nat.add_lt_add_left hi _⟩
  · intro hall address haddress
    have hread := hall (address - block.address) (by omega)
    rwa [Nat.add_sub_cancel' haddress.1] at hread

/-- Of registers with names of their own those are decoded whose words are all there. -/
theorem mem_names (heffective :
      effectiveItems RegisterSpec.toFirmwareGate firmware spec.registers = .ok registers)
    (hnodup : (registers.map RegisterSpec.name).Nodup) {register : RegisterSpec}
    (hregister : register ∈ registers) :
    register.name ∈ named.map Catalog.RegisterValue.name ↔
      (registerRaw words register).length = register.words := by
  constructor
  · intro hmem
    obtain ⟨v, hv, hname⟩ := List.mem_map.mp hmem
    obtain ⟨registers', heffective', register', hregister', hlength, value, rfl⟩ :=
      mem_decodeNamed h.decoded hv
    obtain rfl := Except.ok.inj (heffective.symm.trans heffective')
    obtain rfl : register' = register :=
      List.inj_on_of_nodup_map hnodup hregister' hregister hname
    exact hlength
  · intro hlength
    have hdecoded := h.decoded
    simp only [decodeNamed, heffective, Loop.ok_bind, Option.isNone_none, Bool.true_or,
      List.filter_true, Loop.bind_eq_ok, Loop.pure_eq_ok, Except.ok.injEq] at hdecoded
    obtain ⟨decoded, hdecoded, rfl⟩ := hdecoded
    obtain ⟨value, hvalue, hread⟩ := Loop.exists_of_mapM hdecoded hregister
    rw [decodeNamedRegister] at hread
    rw [if_neg (not_not.mpr hlength)] at hread
    simp only [Loop.bind_eq_ok, Loop.pure_eq_ok, Except.ok.injEq] at hread
    obtain ⟨scalar, -, rfl⟩ := hread
    exact List.mem_map.mpr ⟨_, List.reduceOption_mem_iff.mpr hvalue, rfl⟩

end PollParts

/-- The words of a register are there where none is missing. -/
theorem length_registerRaw_iff (words : WordMap) (register : RegisterSpec) :
    (registerRaw words register).length = register.words ↔ ∀ i < register.words,
      (words.lookup (register.function, register.address + i)).isSome = true := by
  have hall := @List.filterMap_length_eq_length _ _ (words.context register.function)
    (List.range' register.address register.words)
  rw [List.length_range'] at hall
  rw [registerRaw, hall]
  constructor
  · intro hall i hi
    exact hall _ (List.mem_range'_1.mpr ⟨Nat.le_add_right _ _, Nat.add_lt_add_left hi _⟩)
  · intro hall address haddress
    obtain ⟨hfrom, hto⟩ := List.mem_range'_1.mp haddress
    have hread := hall (address - register.address) (by omega)
    rwa [Nat.add_sub_cancel' hfrom] at hread

end Counted

/-! ## the result -/

section Result

variable {env : ResolverEnv} {device : Device} {spec : DeviceProfileSpec}
  {identity : DeviceIdentification} {endpoint : Option Endpoint} {s : ProfileState}
  {x y : ResolvedIntelligence} {values : List Catalog.RegisterValue}

/-- The checks find an error exactly where a named value fails them. -/
theorem exists_error_iff : (∃ issue ∈ (validateValues values).2, issue.severity = .error) ↔
    ∃ v ∈ namedValues values, v.failed = true := by
  have hspec := validationOf_named (namedValues values)
  have hissues : (validateValues values).2 = (validateNamed (namedValues values)).2 := rfl
  have hfailed : ∀ v ∈ (namedValues values).filter Catalog.RegisterValue.isNumber,
      v.nonFinite = true ∨ v.outside = true → ∃ v ∈ namedValues values, v.failed = true := by
    intro v hv hcause
    exact ⟨v, List.mem_of_mem_filter hv, by simpa [Catalog.RegisterValue.failed] using hcause⟩
  rw [hissues]
  constructor
  · intro h
    obtain ⟨issue, hissue, -⟩ := h
    obtain ⟨new, hnew, -, hcodes⟩ := foldl_validateValue_issues (0, []) (namedValues values)
    rw [List.nil_append] at hnew
    cases hcodes issue (hnew ▸ hissue) with
    | inl hcode =>
        have hmem : issue ∈ (validateNamed (namedValues values)).2.filter
            fun issue => issue.code = "non-finite" :=
          List.mem_filter.mpr ⟨hissue, decide_eq_true hcode⟩
        rw [hspec.nonFinite] at hmem
        obtain ⟨v, hv, -⟩ := List.mem_map.mp hmem
        obtain ⟨hv, hnonFinite⟩ := List.mem_filter.mp hv
        exact hfailed v hv (.inl hnonFinite)
    | inr hcode =>
        obtain ⟨v, ⟨before, after, hsplit, -, hcause⟩, -⟩ := (hspec.blames issue).mp ⟨hissue, hcode⟩
        cases hcause with
        | inl hlast =>
            obtain ⟨u, hu, hnonFinite⟩ := (Option.any_eq_true _ _).mp hlast
            refine hfailed u ?_ (.inl hnonFinite)
            rw [hsplit]
            exact List.mem_append_left _ (List.mem_of_getLast? hu)
        | inr hfirst => exact hfailed v (by simp [hsplit]) (.inr hfirst.1)
  · intro h
    obtain ⟨v, hv, hfails⟩ := h
    have hnumber := List.mem_filter.mpr ⟨hv, isNumber_of_failed hfails⟩
    by_cases hsome : ∃ u ∈ (namedValues values).filter Catalog.RegisterValue.isNumber,
        u.nonFinite = true
    · obtain ⟨u, hu, hnonFinite⟩ := hsome
      have hmem : nonFiniteIssue u.name ∈ (validateNamed (namedValues values)).2.filter
          fun issue => issue.code = "non-finite" := by
        rw [hspec.nonFinite]
        exact List.mem_map.mpr ⟨u, List.mem_filter.mpr ⟨hu, hnonFinite⟩, rfl⟩
      exact ⟨_, List.mem_of_mem_filter hmem, rfl⟩
    · -- every number is finite, so that the last issue blames one
      have hcount : ((namedValues values).filter Catalog.RegisterValue.isNumber).countP
          Catalog.RegisterValue.failed ≠ 0 := by
        have hpos := List.countP_pos_iff.mpr ⟨v, hnumber, hfails⟩
        omega
      have hlast : ((namedValues values).filter Catalog.RegisterValue.isNumber).getLast?.any
          Catalog.RegisterValue.nonFinite = false := by
        rw [Bool.eq_false_iff]
        intro hany
        obtain ⟨u, hu, hnonFinite⟩ := (Option.any_eq_true _ _).mp hany
        exact hsome ⟨u, List.mem_of_getLast? hu, hnonFinite⟩
      have hblamed := hspec.last.mpr ⟨hcount, hlast⟩
      obtain ⟨issue, hissue, hcode⟩ := (Option.any_eq_true _ _).mp hblamed
      have hmem := List.mem_of_getLast? hissue
      obtain ⟨w, -, rfl⟩ := (hspec.blames issue).mp ⟨hmem, by simpa using hcode⟩
      exact ⟨_, hmem, rfl⟩

/-- What is found before the poll is no error. -/
theorem severity_resolve
    (h : (exec (resolveDeviceIntelligence env device spec identity endpoint) s).1 = .ok x) :
    ∀ issue ∈ x.warnings, issue.severity ≠ .error := by
  have hunread : ∀ read, (exec (identityMetadata device spec) s).1 = .ok read →
      ∀ issue ∈ read.2, issue.severity ≠ .error := by
    intro read hread issue hissue
    rw [identityMetadata] at hread
    split at hread
    next =>
      cases hread
      cases hissue
    next =>
      rw [exec_tryCatch, exec_bind] at hread
      generalize exec (readMetadata device spec) s = out at hread
      obtain ⟨r, t⟩ := out
      cases r with
      | ok metadata =>
          cases hread
          cases hissue
      | error e =>
          cases hread
          rw [List.mem_singleton.mp hissue]
          exact IssueSeverity.noConfusion
  rw [resolveDeviceIntelligence, exec_bind] at h
  generalize exec (identityMetadata device spec) s = out at h hunread
  obtain ⟨r, t⟩ := out
  cases r with
  | error e => cases h
  | ok read =>
      dsimp only at h
      rw [exec_ofResult] at h
      simp only [intelligenceOf, Loop.bind_eq_ok, Loop.pure_eq_ok, Except.ok.injEq] at h
      obtain ⟨newer, -, status, -, rfl⟩ := h
      intro issue hissue
      cases List.mem_append.mp hissue with
      | inl hmem => exact hunread read rfl issue hmem
      | inr hmem =>
          cases newer with
          | true =>
              rw [List.mem_singleton.mp hmem]
              exact IssueSeverity.noConfusion
          | false => cases hmem

/-- A refresh ends neither generic nor invalid where the profile is not the fallback and every
named value of the poll is plausible. -/
theorem status_refresh (hwarnings : ∀ issue ∈ x.warnings, issue.severity ≠ .error)
    (h : refreshIntelligence env x values endpoint = .ok y) :
    y.status ≠ .generic ∧ y.status ≠ .invalid ↔
      (env.profileByName x.profile).name ≠ "generic" ∧
        ∀ v ∈ namedValues values, v.failed = false := by
  simp only [refreshIntelligence, Loop.bind_eq_ok, Loop.pure_eq_ok, Except.ok.injEq] at h
  obtain ⟨status, hstatus, rfl⟩ := h
  have herror : ((refreshedWarnings x values).any fun issue => issue.severity = .error) = true ↔
      ∃ v ∈ namedValues values, v.failed = true := by
    rw [← exists_error_iff, List.any_eq_true, refreshedWarnings]
    constructor
    · intro h
      obtain ⟨issue, hissue, hseverity⟩ := h
      cases List.mem_append.mp hissue with
      | inl hkept =>
          have hwarning := hwarnings issue (List.mem_of_mem_filter hkept)
          exact absurd (of_decide_eq_true hseverity) hwarning
      | inr hnew => exact ⟨issue, hnew, of_decide_eq_true hseverity⟩
    · intro h
      obtain ⟨issue, hissue, hseverity⟩ := h
      exact ⟨issue, List.mem_append_right _ hissue, decide_eq_true hseverity⟩
  have hnone : (∀ v ∈ namedValues values, v.failed = false) ↔
      ¬ ∃ v ∈ namedValues values, v.failed = true := by simp
  rw [hnone, ← herror]
  unfold intelligenceStatus at hstatus
  split at hstatus
  next hgeneric =>
    obtain rfl := Except.ok.inj hstatus
    simp [hgeneric]
  next hname =>
    split at hstatus
    next hany =>
      obtain rfl := Except.ok.inj hstatus
      simp [hany]
    next hany =>
      simp only [Loop.bind_eq_ok, Loop.pure_eq_ok] at hstatus
      obtain ⟨newer, -, hstatus⟩ := hstatus
      have hfine : status ≠ .generic ∧ status ≠ .invalid := by grind
      exact ⟨fun _ => ⟨hname, hany⟩, fun _ => hfine⟩

end Result

/-! ## reports of polls -/

open Classical in
/-- How many of the requests were answered in full. -/
noncomputable def answered (reads : List BlockRead) (requests : List ReadRequest) : Nat :=
  requests.countP fun request => decide (Answered reads request)

/-- What a report says of the reads of its poll. -/
structure ReportsReads (reads : List BlockRead) (values : List Catalog.RegisterValue)
    (blocks : List RegisterBlock) (registers : List RegisterSpec)
    (report : VerificationReport) : Prop where
  required : ∀ block ∈ blocks, block.optional = false → Answered reads block.request
  runtime : report.runtimeBlocksReadable = answered reads
    ((blocks.filter fun block => block.category ≠ .metadata).map RegisterBlock.request)
  metadata : report.metadataBlocksReadable = answered reads
    ((blocks.filter fun block => block.category = .metadata).map RegisterBlock.request)
  optional : report.optionalBlocksReadable = answered reads
    ((blocks.filter fun block => block.optional).map RegisterBlock.request)
  /-- every total is of the blocks or registers that apply -/
  runtimeTotal : report.runtimeBlocksTotal =
    (blocks.filter fun block => block.category ≠ .metadata).length
  metadataTotal : report.metadataBlocksTotal =
    (blocks.filter fun block => block.category = .metadata).length
  optionalTotal : report.optionalBlocksTotal = (blocks.filter fun block => block.optional).length
  namedTotal : report.namedRegistersTotal = registers.length
  total : report.runtimeBlocksTotal + report.metadataBlocksTotal = blocks.length
  /-- only optional blocks are missing -/
  missing : report.runtimeBlocksReadable + report.metadataBlocksReadable +
    report.optionalBlocksTotal = blocks.length + report.optionalBlocksReadable
  /-- where the names of the registers are distinct and none is of a derived value -/
  named : (registers.map RegisterSpec.name).Nodup →
    (∀ register ∈ registers, register.name ∉ derivedNames) →
      report.namedRegistersDecoded = answered reads (registers.map RegisterSpec.request)
  result : report.result = .verified ↔ report.profile ≠ "generic" ∧
    ∀ v ∈ namedValues values, v.failed = false

/-- Where one of two tests always holds, both hold as often as they do together. -/
theorem countP_add_countP {α : Type} {p q : α → Bool} {items : List α}
    (h : ∀ a ∈ items, p a = false → q a = true) :
    items.countP p + items.countP q = items.length + (items.filter q).countP p := by
  induction items with
  | nil => rfl
  | cons a items ih =>
      have hrest := ih fun b hb => h b (List.mem_cons_of_mem a hb)
      have hhere := h a List.mem_cons_self
      cases hp : p a <;> cases hq : q a <;> simp_all <;> omega

section Reports

variable {device : Device} {spec : DeviceProfileSpec} {firmware : String} {s : ProfileState}
  {values : List Catalog.RegisterValue}

/-- **Availability.**  A block counts as readable exactly when all its words were read, by
whichever blocks. -/
theorem poll_available (hnames : PlainNames spec) (hfresh : s.metadata = [])
    (h : (exec (poll device spec firmware) s).1 = .ok values) (block : RegisterBlock) :
    blockAvailable values block = true ↔
      Answered (pollReads device spec firmware s) block.request := by
  have hvalues := poll_values h
  rw [hfresh] at hvalues
  obtain ⟨named, hparts⟩ := exists_pollParts hnames hvalues
  rw [hparts.blockAvailable_iff (WordMap.keyed_absorb (keyed_nil _) _)]
  exact forall₂_congr fun i _ => isSome_lookup_absorb_iff

/-- The registers of which something is in the values. -/
theorem poll_named (hnames : PlainNames spec) (hfresh : s.metadata = [])
    (h : (exec (poll device spec firmware) s).1 = .ok values) {registers : List RegisterSpec}
    (heffective :
      effectiveItems RegisterSpec.toFirmwareGate firmware spec.registers = .ok registers)
    (hnodup : (registers.map RegisterSpec.name).Nodup) {register : RegisterSpec}
    (hregister : register ∈ registers) (hderived : register.name ∉ derivedNames) :
    register.name ∈ (namedValues values).map Catalog.RegisterValue.name ↔
      Answered (pollReads device spec firmware s) register.request := by
  have hvalues := poll_values h
  rw [hfresh] at hvalues
  obtain ⟨named, hparts⟩ := exists_pollParts hnames hvalues
  have hwords := length_registerRaw_iff
    (WordMap.absorb [] (successes (pollLog device spec firmware s))) register
  simp only [isSome_lookup_absorb_iff] at hwords
  refine Iff.trans ?_ ((hparts.mem_names heffective hnodup hregister).trans hwords)
  rw [hparts.namedValues_eq, List.map_append, List.mem_append]
  refine or_iff_left fun hmem => ?_
  obtain ⟨v, hv, hname⟩ := List.mem_map.mp hmem
  exact hderived (hname ▸ name_deriveRegisterValues hv)

/-- A report of a poll says of its reads what it should. -/
theorem reportsReads (hcounted : device.Counted) (hnames : PlainNames spec)
    (hmetadata : s.metadata = []) (hcached : s.cachedBlocks = [])
    (h : (exec (poll device spec firmware) s).1 = .ok values)
    {blocks : List RegisterBlock} {registers : List RegisterSpec}
    (hblocks : effectiveItems RegisterBlock.toFirmwareGate firmware spec.blocks = .ok blocks)
    (hregisters :
      effectiveItems RegisterSpec.toFirmwareGate firmware spec.registers = .ok registers)
    (endpoint : Endpoint) {intelligence : ResolvedIntelligence}
    (hstatus : intelligence.status ≠ .generic ∧ intelligence.status ≠ .invalid ↔
      spec.name ≠ "generic" ∧ ∀ v ∈ namedValues values, v.failed = false) :
    ReportsReads (pollReads device spec firmware s) values blocks registers
      (reportOf spec endpoint intelligence values blocks registers) := by
  have havailable := poll_available hnames hmetadata h
  have hrequired : ∀ block ∈ blocks, block.optional = false → blockAvailable values block = true :=
    fun block hblock hoptional =>
      (havailable block).mpr (poll_answered hcounted hcached h hblocks hblock hoptional)
  have hcount : ∀ chosen : List RegisterBlock, chosen.countP (blockAvailable values) =
      answered (pollReads device spec firmware s) (chosen.map RegisterBlock.request) := by
    intro chosen
    rw [answered, List.countP_map]
    refine List.countP_congr fun block _ => ?_
    simp only [Function.comp_apply, decide_eq_true_eq]
    exact havailable block
  have hsplit : ∀ p : RegisterBlock → Bool,
      (blocks.filter fun block => block.category ≠ .metadata).countP p +
        (blocks.filter fun block => block.category = .metadata).countP p = blocks.countP p := by
    intro p
    rw [List.countP_eq_countP_filter_add blocks p fun block => block.category ≠ .metadata]
    simp
  exact {
    required := fun block hblock hoptional =>
      (havailable block).mp (hrequired block hblock hoptional)
    runtime := hcount _
    metadata := hcount _
    optional := hcount _
    runtimeTotal := rfl
    metadataTotal := rfl
    optionalTotal := rfl
    namedTotal := rfl
    total := by simpa [reportOf] using hsplit fun _ => true
    missing := by
      have hoptional : ∀ block ∈ blocks, blockAvailable values block = false →
          block.optional = true := by
        intro block hblock hnot
        by_contra hoptional
        rw [hrequired block hblock (by simpa using hoptional)] at hnot
        cases hnot
      have hmissing := countP_add_countP hoptional
      rw [List.countP_eq_length_filter (p := RegisterBlock.optional)] at hmissing
      exact (congrArg (· + _) (hsplit _)).trans hmissing
    named := fun hnodup hderived => by
      rw [answered, List.countP_map]
      refine List.countP_congr fun register hregister => ?_
      simp only [Function.comp_apply, decide_eq_true_eq]
      exact poll_named hnames hmetadata h hregisters hnodup hregister (hderived register hregister)
    result := by
      have hall : (blocks.filter fun block => !block.optional).all (blockAvailable values) =
          true := by
        rw [List.all_eq_true]
        intro block hblock
        obtain ⟨hmem, hoptional⟩ := List.mem_filter.mp hblock
        exact hrequired block hmem (by simpa using hoptional)
      show (if (blocks.filter fun block => !block.optional).all (blockAvailable values) = true ∧
          intelligence.status ≠ .generic ∧ intelligence.status ≠ .invalid then
        VerificationResult.verified else .failed) = .verified ↔ spec.name ≠ "generic" ∧ _
      rw [← hstatus]
      split
      next hfine => exact iff_of_true rfl hfine.2
      next hfine => exact iff_of_false VerificationResult.noConfusion fun hok => hfine ⟨hall, hok⟩ }

end Reports

/-- What holds of a verification that ends well: the last part of its log is a poll of the profile,
and the report says of it what it should. -/
structure VerifiedAs (env : DiscoveryEnv) (target : ProbeTarget) (log : List LogEntry)
    (report : VerificationReport) (identification : DeviceIdentification)
    (values : List Catalog.RegisterValue) : Prop where
  identified : identification = target.identification.toOption.getD {}
  polled : ∃ name spec before polled blocks registers,
    spec = env.registry.profileByName name ∧ report.profile = spec.name ∧
      log = before ++ polled ∧
      effectiveItems RegisterBlock.toFirmwareGate report.firmware spec.blocks = .ok blocks ∧
      effectiveItems RegisterSpec.toFirmwareGate report.firmware spec.registers = .ok registers ∧
      ReportsReads (successes polled) values blocks registers report

/-- **A verification** that ends well has read every word of every block that is not optional, of
those that apply to the firmware; its counts are those of the blocks that were read in full, and of
the registers where their names are distinct and none is of a derived value; its totals are of all
that apply, and what is missing is optional.  Its result is then decided without the blocks: by the
profile, which is not the fallback, and by the named values, all of them plausible. -/
theorem verification_sound (env : DiscoveryEnv) (target : ProbeTarget) (endpoint : Endpoint)
    (hcounted : target.device.Counted)
    (hfamilies : ∀ entry ∈ env.registry.families, PlainNames entry.toDeviceProfileSpec)
    {s s' : ProfileState}
    {report : VerificationReport} {identification : DeviceIdentification}
    {values : List Catalog.RegisterValue}
    (h : exec (verifyDevice env target endpoint) s = (.ok (report, identification, values), s')) :
    VerifiedAs env target s'.log report identification values := by
  rw [verifyDevice, exec_bind_eq_ok] at h
  obtain ⟨verified, t, hverified, h⟩ := h
  simp only [exec_bind_eq_ok, exec_ofResult, exec_pure, Prod.mk.injEq, Except.ok.injEq] at h
  obtain ⟨blocks, _, ⟨hblocks, rfl⟩, registers, _, ⟨hregisters, rfl⟩, ⟨rfl, rfl, rfl⟩, rfl⟩ := h
  simp only [verifyPoll, exec_bind_eq_ok, exec_ofResult, exec_modify, exec_pure, Prod.mk.injEq,
    Except.ok.injEq] at hverified
  obtain ⟨spec, t₁, -, x, t₂, hresolve, ⟨⟩, _, ⟨-, rfl⟩, values, t₃, hpoll, y, _, ⟨hrefresh, rfl⟩,
    rfl, rfl⟩ := hverified
  obtain ⟨-, hprofile, confidence, status, capabilities, evidence, warnings, hy⟩ :=
    refreshIntelligence_spec hrefresh
  have hfirmware : y.firmware = x.firmware := by rw [hy]
  have hstatus := status_refresh (severity_resolve (by rw [hresolve])) hrefresh
  dsimp only at hblocks hregisters ⊢
  rw [hprofile, hfirmware] at hblocks hregisters
  obtain ⟨start, hstart⟩ : ∃ start : ProfileState, start = { log := t₂.log } := ⟨_, rfl⟩
  rw [← hstart] at hpoll
  have hlog : t₃.log = t₂.log ++ pollLog target.device
      (env.registry.profileByName x.profile) x.firmware start := by
    have hafter := @afterPoll_log target.device (env.registry.profileByName x.profile) x.firmware
      start
    rw [afterPoll, hpoll, hstart] at hafter
    rw [hstart]
    exact hafter
  have hmetadata : start.metadata = [] := by rw [hstart]
  have hcached : start.cachedBlocks = [] := by rw [hstart]
  have hnames := plainNames_profileByName hfamilies x.profile
  have hreports := reportsReads hcounted hnames hmetadata hcached (by rw [hpoll])
    hblocks hregisters endpoint hstatus
  rw [← hfirmware] at hblocks hregisters
  refine ⟨rfl, x.profile, _, t₂.log, _, blocks, registers, rfl, ?_, hlog, hblocks, hregisters, ?_⟩
  · rw [hprofile]
    rfl
  · rw [hprofile]
    exact hreports

/-- A family with a block that not every device has. -/
def relayFamily : CatalogEntry where
  name := "relay_driver"
  family := "Relay Driver"
  blocks := [{ address := 0, count := 2 }, { address := 16, count := 1, optional := true }]
  registers := [{ name := "adc_vb", address := 0 }, { name := "slide", address := 16 }]
  aliases := ["relay driver"]

theorem relayFamily_named : ∀ entry ∈ [relayFamily], entry.name ≠ "generic" := by
  simp [relayFamily]

def relayEnv : DiscoveryEnv where
  casefold := id
  floatText := fixed2
  registry := {
    families := [relayFamily]
    suresineGen2 := relayFamily
    suresineClassic := relayFamily
    sunsaverDuo := relayFamily
    tristarPwm := relayFamily
    named := relayFamily_named }

/-- A device that does not have it. -/
def relayTarget : ProbeTarget where
  identification := .ok { vendorName := "morningstar", productCode := "relay driver" }
  device := fun n request =>
    if request.address = 16 then .error ⟨"ModbusException", "illegal data address"⟩
    else zeroDevice n request

def relayRun : Except PyException (VerificationReport × DeviceIdentification ×
    List Catalog.RegisterValue) × ProfileState :=
  exec (verifyDevice relayEnv relayTarget
    { transport := .serial, target := "/dev/ttyUSB0", unitId := 1 }) {}

theorem verification_sound_optional :
    (relayRun.1.toOption.map fun verified => (verified.1.result, verified.1.optionalBlocksReadable,
      verified.1.runtimeBlocksReadable)) = some (.verified, 0, 1) ∧
    ∃ report identification values,
      VerifiedAs relayEnv relayTarget relayRun.2.log report identification values := by
  refine ⟨by decide +kernel, ?_⟩
  have hcounted : relayTarget.device.Counted := by
    intro n request words hwords
    by_cases haddress : request.address = 16
    · simp [relayTarget, haddress] at hwords
    · exact zeroDevice_counted n request words (by simpa [relayTarget, haddress] using hwords)
  have hfamilies : ∀ entry ∈ relayEnv.registry.families, PlainNames entry.toDeviceProfileSpec := by
    intro entry hentry
    obtain rfl := List.mem_singleton.mp hentry
    have hplain : ∀ register ∈ relayFamily.registers, isWordName register.name = false := by
      decide +kernel
    exact hplain
  obtain ⟨⟨report, identification, values⟩, hok⟩ :=
    Loop.exists_ok (x := relayRun.1) (by decide +kernel)
  exact ⟨report, identification, values,
    verification_sound relayEnv relayTarget _ hcounted hfamilies (Prod.ext hok rfl)⟩

end MorningstarModbus
