import MorningstarModbus.Capture.Recorder
import MorningstarModbus.Catalog.Agreement

/-!
# MorningstarModbus.Capture.Redaction

Two captures that differ in the endpoint's target, the USB serial number and the words of
the serial number: what their structured files may differ in.

* `SameButSerial` — the captures, `SerialWord` — the words;
* `SameFiles` — the structured files, up to raw words and to what is weighed;
* `capture_redacted` — two captures have the same files.
-/

namespace MorningstarModbus

open Catalog Effects Query Table

/-! ## words of the serial number -/

/-- A word of a register of the serial number that no other register looks at. -/
def SerialWord (spec : DeviceProfileSpec) (key : WordKey) : Prop :=
  (∃ r ∈ spec.registers, isSerialName r.name = true ∧ r.function = key.1 ∧
    key.2 ∈ List.range' r.address r.words) ∧
  ∀ r ∈ spec.registers, isSerialName r.name = false → key ∉ r.reads

instance (spec : DeviceProfileSpec) : DecidablePred (SerialWord spec) := fun key =>
  inferInstanceAs (Decidable ((∃ r ∈ spec.registers, isSerialName r.name = true ∧
    r.function = key.1 ∧ key.2 ∈ List.range' r.address r.words) ∧
    ∀ r ∈ spec.registers, isSerialName r.name = false → key ∉ r.reads))

/-- The registers of the serial number are decoded as text. -/
def SerialsAsText (spec : DeviceProfileSpec) : Prop :=
  ∀ r ∈ spec.registers, isSerialName r.name = true →
    r.decoder = .asciiLoHi ∨ r.decoder = .asciiHiLo

/-- Two captures that differ in the endpoint's target, the USB serial number, the words of
the serial number, and the exchanges that carry them. -/
structure SameButSerial (spec : DeviceProfileSpec) (c c' : CaptureInput) : Prop where
  createdAt : c.createdAt = c'.createdAt
  endpoint : { c.endpoint with target := "", usbSerial := none } =
    { c'.endpoint with target := "", usbSerial := none }
  identification : c.identification = c'.identification
  device : SameDevice (SerialWord spec) c.device c'.device
  exchanges : c.exchanges.length = c'.exchanges.length

/-- The values of two captures. -/
abbrev SameValues (spec : DeviceProfileSpec) :
    List Catalog.RegisterValue → List Catalog.RegisterValue → Prop :=
  List.Forall₂ (SameValue spec (SerialWord spec))

section Values

variable {spec : DeviceProfileSpec} {values values' : List Catalog.RegisterValue}

/-- A register that reads a word of the serial number is one of its registers. -/
theorem isSerialName_of_reads {r : RegisterSpec} (hr : r ∈ spec.registers)
    (h : ∃ key ∈ r.reads, SerialWord spec key) : isSerialName r.name = true := by
  obtain ⟨key, hkey, -, hother⟩ := h
  by_contra hname
  exact hother r hr (Bool.not_eq_true _ ▸ hname) hkey

/-- Every other register reads none. -/
theorem not_serialWord_of_reads {r : RegisterSpec} (hr : r ∈ spec.registers)
    (hname : isSerialName r.name = false) : ∀ key ∈ r.reads, ¬ SerialWord spec key :=
  fun _ hkey hP => hP.2 r hr hname hkey

/-- Values of registers: the same, or both of the serial number. -/
theorem Catalog.SameValue.named {v v' : Catalog.RegisterValue}
    (h : SameValue spec (SerialWord spec) v v') (hword : isWordName v.name = false) :
    v = v' ∨ isSerialName v.name = true ∧ v.name = v'.name := by
  cases h with
  | same => exact .inl rfl
  | word =>
      rw [wordValue, isWordName_wordName] at hword
      cases hword
  | register hr hreads => exact .inr ⟨isSerialName_of_reads hr hreads, rfl⟩

/-- The named values are those of the same names. -/
theorem namedValues_forall₂ (h : SameValues spec values values') :
    SameValues spec (namedValues values) (namedValues values') :=
  filter_forall₂ h fun v v' hv => by rw [hv.name_eq]

/-- Both sides have one list of names. -/
theorem map_name_eq (h : SameValues spec values values') :
    values.map Catalog.RegisterValue.name = values'.map Catalog.RegisterValue.name :=
  map_eq_of_forall₂ h fun _ _ hv => hv.name_eq

/-- The metadata differs at most under names of the serial number. -/
theorem foldl_metadata_sameBut (h : SameValues spec values values')
    (hword : ∀ v ∈ values, isWordName v.name = false) {metadata metadata' : List (String × Scalar)}
    (hsame : SameBut (fun name => isSerialName name = true) metadata metadata') :
    SameBut (fun name => isSerialName name = true)
      (values.foldl (fun metadata value =>
        Table.upsert Prod.fst (fun _ new => new) (value.name, value.value) metadata) metadata)
      (values'.foldl (fun metadata value =>
        Table.upsert Prod.fst (fun _ new => new) (value.name, value.value) metadata)
        metadata') := by
  induction h generalizing metadata metadata' with
  | nil => exact hsame
  | @cons v v' _ _ hv _ ih =>
      refine ih (fun u hu => hword u (List.mem_cons_of_mem v hu)) ?_
      dsimp only
      rw [← hv.name_eq]
      refine hsame.upsert ?_
      obtain rfl | ⟨hserial, -⟩ := hv.named (hword v List.mem_cons_self)
      · exact .inl rfl
      · exact .inr hserial

/-- The metadata differs in the serial number only. -/
theorem metadataDict_sameBut (h : SameValues spec values values') :
    SameBut (fun name => isSerialName name = true) (metadataDict values)
      (metadataDict values') := by
  refine foldl_metadata_sameBut (namedValues_forall₂ h) (fun v hv => ?_) (SameBut.refl _ [])
  simpa using (List.mem_filter.mp hv).2

/-- A fact that is looked up under other names is the same. -/
theorem firstOf_eq (env : ResolverEnv) {metadata metadata' : List (String × Scalar)}
    (h : SameBut (fun name => isSerialName name = true) metadata metadata') {names : List String}
    (hnames : ∀ name ∈ names, isSerialName name = false) :
    firstOf env metadata names = firstOf env metadata' names := by
  have hlookup : ∀ name ∈ names, metadata.lookup name = metadata'.lookup name :=
    fun name hname => h.lookup_eq (by simp [hnames name hname])
  have hfound : (names.findSome? fun name =>
      (metadata.lookup name).filter fun value =>
        value ≠ .null ∧ value ≠ .text "" ∧ value ≠ .text "NONE") =
      names.findSome? fun name => (metadata'.lookup name).filter fun value =>
        value ≠ .null ∧ value ≠ .text "" ∧ value ≠ .text "NONE" := by
    induction names with
    | nil => rfl
    | cons name names ih =>
        rw [List.findSome?_cons, List.findSome?_cons, hlookup name List.mem_cons_self,
          ih (fun n hn => hnames n (List.mem_cons_of_mem name hn))
            fun n hn => hlookup n (List.mem_cons_of_mem name hn)]
  rw [firstOf, firstOf, hfound]

/-- The value of a serial number that is decoded as text. -/
theorem SerialsAsText.text (htext : SerialsAsText spec) {r : RegisterSpec}
    (hr : r ∈ spec.registers) (hname : isSerialName r.name = true) {raw : List Nat}
    {context : WordContext} {value : Scalar} (h : decodeRegister r raw context = .ok value) :
    ∃ s, value = .text s := by
  cases raw with
  | nil => cases h
  | cons w ws =>
      obtain hdecoder | hdecoder := htext r hr hname <;>
      · rw [decodeRegister, hdecoder] at h
        cases h
        exact ⟨_, rfl⟩

/-- Text is plausible, so a serial number that is decoded as text is too. -/
theorem validateValue_eq (htext : SerialsAsText spec) {v v' : Catalog.RegisterValue}
    (h : SameValue spec (SerialWord spec) v v') (hword : isWordName v.name = false)
    (acc : Validation) : validateValue acc v = validateValue acc v' := by
  cases h with
  | same => rfl
  | word =>
      rw [wordValue, isWordName_wordName] at hword
      cases hword
  | register hr hreads hdecode hdecode' =>
      have hname := isSerialName_of_reads hr hreads
      obtain ⟨s, rfl⟩ := htext.text hr hname hdecode
      obtain ⟨s', rfl⟩ := htext.text hr hname hdecode'
      rfl

/-- A serial number is a text, so the validation passes over it. -/
theorem foldl_validateValue_eq (htext : SerialsAsText spec) (h : SameValues spec values values')
    (hword : ∀ v ∈ values, isWordName v.name = false) (acc : Validation) :
    values.foldl validateValue acc = values'.foldl validateValue acc := by
  induction h generalizing acc with
  | nil => rfl
  | @cons v v' _ _ hv _ ih =>
      rw [List.foldl_cons, List.foldl_cons, validateValue_eq htext hv (hword v List.mem_cons_self)]
      exact ih (fun u hu => hword u (List.mem_cons_of_mem v hu)) _

/-- Either there are values on both sides or on none. -/
theorem nil_iff (h : SameValues spec values values') : values = [] ↔ values' = [] := by
  rw [← List.length_eq_zero_iff, ← List.length_eq_zero_iff, h.length_eq]

/-- Evidence and issues do not show the serial number. -/
theorem validateValues_eq (htext : SerialsAsText spec) (h : SameValues spec values values') :
    validateValues values = validateValues values' := by
  have hnamed := namedValues_forall₂ h
  have hword : ∀ v ∈ namedValues values, isWordName v.name = false :=
    fun v hv => by simpa using (List.mem_filter.mp hv).2
  simp only [validateValues, foldl_validateValue_eq htext hnamed hword, nil_iff hnamed]

end Values

/-! ## what is resolved -/

/-- What is resolved of two devices that differ in the serial number. -/
structure SameResolved (spec : DeviceProfileSpec) (i i' : ResolvedIntelligence) : Prop where
  profile : i.profile = spec.name
  profile' : i'.profile = spec.name
  family : i.family = i'.family
  model : i.model = i'.model
  firmware : i.firmware = i'.firmware
  hardwareRevision : i.hardwareRevision = i'.hardwareRevision
  warnings : i.warnings = i'.warnings
  /-- the firmware could be compared -/
  newer : ∃ newer, isNewer spec i.firmware = .ok newer
  /-- the evidence tells whether there is a serial number -/
  evidence : (i.serialNumber = "" ↔ i'.serialNumber = "") → i.evidence = i'.evidence

section Resolution

variable {env : ResolverEnv} {spec : DeviceProfileSpec} {identity : DeviceIdentification}
  {endpoint endpoint' : Option Endpoint} {values values' : List Catalog.RegisterValue}

/-- A status can be told where the firmware can be compared. -/
theorem intelligenceStatus_ok {firmware : String}
    (h : ∃ newer, isNewer spec firmware = .ok newer) (confidence : ℚ)
    (warnings : List ValidationIssue) :
    ∃ status, intelligenceStatus spec confidence firmware warnings = .ok status := by
  obtain ⟨newer, hnewer⟩ := h
  unfold intelligenceStatus
  simp only [hnewer, Loop.ok_bind]
  split_ifs <;> exact ⟨_, rfl⟩

/-- What is resolved shows it in its own fields at most. -/
theorem intelligenceOf_alike (h : SameValues spec values values')
    (unread : List ValidationIssue) :
    Alike (SameResolved spec) (intelligenceOf env spec identity endpoint values unread)
      (intelligenceOf env spec identity endpoint' values' unread) := by
  have hmetadata := metadataDict_sameBut h
  have hfirmware : firstOf env (metadataDict values)
      ["firmware_version", "firmware", "software_version"] = firstOf env (metadataDict values')
      ["firmware_version", "firmware", "software_version"] :=
    firstOf_eq env hmetadata (by decide)
  have hhardware : firstOf env (metadataDict values)
      ["hardware_version", "hardware_revision", "fpga_version"] = firstOf env (metadataDict values')
      ["hardware_version", "hardware_revision", "fpga_version"] :=
    firstOf_eq env hmetadata (by decide)
  have hmodel : firstOf env (metadataDict values) ["model", "model_name", "model_flag"] =
      firstOf env (metadataDict values') ["model", "model_name", "model_flag"] :=
    firstOf_eq env hmetadata (by decide)
  simp only [intelligenceOf, hfirmware, hhardware, hmodel]
  generalize orElse _ identity.majorMinorRevision = firmware
  cases hnewer : isNewer spec firmware with
  | error e => exact rfl
  | ok newer =>
      simp only [Loop.ok_bind]
      have htold := intelligenceStatus_ok ⟨newer, hnewer⟩
      refine Alike.bind (alike_of_ok (htold _ _) (htold _ _)) fun status status' _ => ?_
      exact {
        profile := rfl, profile' := rfl, family := rfl, model := rfl, firmware := rfl,
        hardwareRevision := rfl, warnings := rfl
        newer := ⟨newer, hnewer⟩
        evidence := fun hserial => by simp only [resolutionEvidence, nil_iff h, hserial] }

/-- What a capture has of the resolved device, after the poll. -/
structure SameRefreshed (spec : DeviceProfileSpec) (i i' : ResolvedIntelligence) : Prop where
  profile : i.profile = i'.profile
  family : i.family = i'.family
  model : i.model = i'.model
  firmware : i.firmware = i'.firmware
  hardwareRevision : i.hardwareRevision = i'.hardwareRevision
  /-- what is weighed is the same -/
  weighed : SerialsAsText spec → (i.serialNumber = "" ↔ i'.serialNumber = "") →
    i.confidence = i'.confidence ∧ i.status = i'.status

/-- And what is refreshed. -/
theorem refreshIntelligence_alike {i i' : ResolvedIntelligence}
    (hspec : env.profileByName spec.name = spec) (h : SameResolved spec i i')
    (hvalues : SameValues spec values values') :
    Alike (SameRefreshed spec) (refreshIntelligence env i values endpoint)
      (refreshIntelligence env i' values' endpoint') := by
  have hweighed : SerialsAsText spec → (i.serialNumber = "" ↔ i'.serialNumber = "") →
      refreshedEvidence i values = refreshedEvidence i' values' ∧
        refreshedWarnings i values = refreshedWarnings i' values' := by
    intro htext hserial
    simp only [refreshedEvidence, refreshedWarnings, validateValues_eq htext hvalues,
      h.evidence hserial, h.warnings, and_self]
  have htold := intelligenceStatus_ok (h.firmware ▸ h.newer)
  simp only [refreshIntelligence, h.profile, h.profile', hspec, h.firmware]
  obtain ⟨status, hstatus⟩ :=
    htold (score (refreshedEvidence i values)) (refreshedWarnings i values)
  obtain ⟨status', hstatus'⟩ :=
    htold (score (refreshedEvidence i' values')) (refreshedWarnings i' values')
  rw [hstatus, hstatus']
  exact {
    profile := h.profile.trans h.profile'.symm, family := h.family, model := h.model
    firmware := h.firmware, hardwareRevision := h.hardwareRevision
    weighed := by
      intro htext hserial
      obtain ⟨hevidence, hwarnings⟩ := hweighed htext hserial
      rw [hevidence, hwarnings, hstatus'] at hstatus
      exact ⟨congrArg score hevidence, (Except.ok.inj hstatus).symm⟩ }

end Resolution

/-! ## programs -/

section Programs

variable {env : ResolverEnv} {spec : DeviceProfileSpec} {P : WordKey → Prop}
  {device device' : Device}

/-- The metadata of two devices, with the same warning where it cannot be read. -/
theorem identityMetadata_relates (hdevice : SameDevice P device device') :
    Relates (SameProfile P)
      (fun read read' => List.Forall₂ (SameValue spec P) read.1 read'.1 ∧ read.2 = read'.2)
      (identityMetadata device spec) (identityMetadata device' spec) := by
  unfold identityMetadata
  split
  · exact relates_pure ⟨List.Forall₂.nil, rfl⟩
  · refine relates_tryCatch ?_ fun e => relates_pure ⟨List.Forall₂.nil, rfl⟩
    exact relates_bind (readMetadata_relates hdevice) fun values values' hvalues =>
      relates_pure ⟨hvalues, rfl⟩

/-- The resolution reads the same registers of both devices. -/
theorem resolve_relates (hdevice : SameDevice (SerialWord spec) device device')
    (identity : DeviceIdentification) (endpoint endpoint' : Option Endpoint) :
    Relates (SameProfile (SerialWord spec)) (SameResolved spec)
      (resolveDeviceIntelligence env device spec identity endpoint)
      (resolveDeviceIntelligence env device' spec identity endpoint') := by
  refine relates_bind (identityMetadata_relates hdevice) fun read read' hread => ?_
  obtain ⟨values, unread⟩ := read
  obtain ⟨values', unread'⟩ := read'
  obtain ⟨hvalues, rfl : unread = unread'⟩ := hread
  exact relates_ofResult (intelligenceOf_alike hvalues unread)

/-- No register of the serial number is looked at by derived telemetry. -/
theorem isSerialName_derivedFrom : ∀ name ∈ derivedFrom, isSerialName name = false := by decide

/-- So does a whole capture. -/
theorem capture_relates {c c' : CaptureInput} (hspec : env.profileByName spec.name = spec)
    (h : SameButSerial spec c c') :
    Relates (SameProfile (SerialWord spec))
      (fun r r' => SameRefreshed spec r.1 r'.1 ∧ SameValues spec r.2 r'.2)
      (capture env spec c) (capture env spec c') := by
  unfold capture
  rw [h.identification]
  refine relates_bind (resolve_relates h.device _ _ _) fun i i' hi => ?_
  refine relates_bind (relates_modify fun s s' hs => ⟨SameBut.refl _ [], rfl, hs.log⟩)
    fun _ _ _ => ?_
  rw [hi.profile, hi.profile', hspec, hi.firmware]
  have hderived : ∀ r ∈ spec.registers, r.name ∈ derivedFrom →
      ∀ key ∈ r.reads, ¬ SerialWord spec key :=
    fun r hr hname => not_serialWord_of_reads hr (isSerialName_derivedFrom _ hname)
  refine relates_bind (poll_relates h.device _ hderived) fun values values' hvalues => ?_
  refine relates_bind (relates_ofResult (refreshIntelligence_alike hspec hi hvalues))
    fun refreshed refreshed' hrefreshed => relates_pure ⟨hrefreshed, hvalues⟩

end Programs

/-! ## the files -/

/-- Entries of `registers.json` that differ in raw words of the serial number only. -/
inductive SameEntry (spec : DeviceProfileSpec) :
    Catalog.RegisterValue → Catalog.RegisterValue → Prop
  | same (v : Catalog.RegisterValue) : SameEntry spec v v
  | redacted {v : Catalog.RegisterValue} (raw raw' : List Nat) : isSerialName v.name = true →
      v.value = .text "<redacted>" → SameEntry spec { v with raw := raw } { v with raw := raw' }
  | word {key : WordKey} (w w' : Nat) : SerialWord spec key →
      SameEntry spec (wordValue key w) (wordValue key w')

/-- The structured files of two bundles, up to raw words and to what is weighed. -/
structure SameFiles (spec : DeviceProfileSpec) (b b' : CaptureBundle) : Prop where
  manifest : b.manifest = b'.manifest
  identification : b.identification = b'.identification
  registers : List.Forall₂ (SameEntry spec) b.registers b'.registers
  expected : { b.expected with status := .generic, confidence := 0 } =
    { b'.expected with status := .generic, confidence := 0 }

section Files

variable {spec : DeviceProfileSpec}

/-- An item of the values file shows a serial number only as one. -/
theorem registerItem_sameEntry {v v' : Catalog.RegisterValue}
    (h : SameValue spec (SerialWord spec) v v') :
    SameEntry spec (registerItem false v) (registerItem false v') := by
  cases h with
  | same => exact .same _
  | @word key w w' hkey =>
      have hname : isSerialName (wordName key.1 key.2) = false := by
        by_contra hserial
        have hword := isWordName_wordName key.1 key.2
        simp only [isSerialName, Bool.not_eq_false, Bool.or_eq_true, decide_eq_true_eq] at hserial
        obtain heq | heq := hserial <;> rw [heq] at hword <;> revert hword <;> decide +kernel
      have hkept : ∀ w, registerItem false (wordValue key w) = wordValue key w := by
        intro w
        simp [registerItem, wordValue, hname]
      rw [hkept, hkept]
      exact .word w w' hkey
  | @register r raw raw' _ _ value value' hr hreads =>
      have hname := isSerialName_of_reads hr hreads
      have hitem : ∀ raw value, registerItem false (registerValue r raw value) =
          { registerValue r [] (.text "<redacted>") with raw := raw } := by
        intro raw value
        simp [registerItem, registerValue, hname]
      rw [hitem, hitem]
      exact .redacted raw raw' hname rfl

/-- The files of both captures differ where a serial number is written. -/
theorem bundle_sameFiles {c c' : CaptureInput} (h : SameButSerial spec c c')
    {i i' : ResolvedIntelligence} {values values' : List Catalog.RegisterValue}
    (hi : SameRefreshed spec i i') (hvalues : SameValues spec values values') :
    SameFiles spec (c.bundle (i, values)) (c'.bundle (i', values')) := by
  have hnames := map_name_eq (namedValues_forall₂ hvalues)
  have hendpoint : endpointPayload false c.endpoint = endpointPayload false c'.endpoint :=
    congrArg (fun e : Endpoint => { e with target := "<redacted>" }) h.endpoint
  exact {
    manifest := by
      simp only [CaptureInput.bundle, writeCaptureBundle, hendpoint, hi.profile, hi.family,
        hi.model, hi.firmware, hi.hardwareRevision, h.createdAt, h.exchanges]
    identification := by simp only [CaptureInput.bundle, writeCaptureBundle, h.identification]
    registers := List.forall₂_map_left_iff.mpr (List.forall₂_map_right_iff.mpr
      (hvalues.imp fun _ _ hv => registerItem_sameEntry hv))
    expected := by
      simp only [CaptureInput.bundle, writeCaptureBundle, hi.profile, hi.family, hi.model,
        hi.firmware, hnames] }

/-- The expectations agree in all fields. -/
theorem expected_eq {e e' : CaptureExpected}
    (h : { e with status := .generic, confidence := 0 } =
      { e' with status := .generic, confidence := 0 })
    (hstatus : e.status = e'.status) (hconfidence : e.confidence = e'.confidence) : e = e' := by
  obtain ⟨_, _, _, _, _, _, _⟩ := e
  obtain ⟨_, _, _, _, _, _, _⟩ := e'
  simp_all

/-- **Redaction**: two captures of a device that differ in the endpoint's target, the USB
serial number and the words of the serial number end alike, and their structured files are
the same up to raw words in `registers.json` and to what is weighed in `expected.json`. -/
theorem capture_redacted (env : ResolverEnv) (spec : DeviceProfileSpec) (c c' : CaptureInput)
    (hspec : env.profileByName spec.name = spec) (h : SameButSerial spec c c') :
    Alike (fun r r' =>
        SameFiles spec (c.bundle r) (c'.bundle r') ∧
        (SerialsAsText spec → (r.1.serialNumber = "" ↔ r'.1.serialNumber = "") →
          (c.bundle r).expected = (c'.bundle r').expected))
      (exec (capture env spec c) {}).1 (exec (capture env spec c') {}).1 := by
  obtain ⟨halike, -⟩ := capture_relates hspec h {} {} ⟨SameBut.refl _ [], rfl, rfl⟩
  obtain ⟨r, r', hr, hr', hi, hvalues⟩ | ⟨e, hr, hr'⟩ := halike.cases
  · rw [hr, hr']
    have hfiles := bundle_sameFiles h hi hvalues
    refine ⟨hfiles, fun htext hserial => ?_⟩
    obtain ⟨hconfidence, hstatus⟩ := hi.weighed htext hserial
    exact expected_eq hfiles.expected hstatus hconfidence
  · rw [hr, hr']
    rfl

/-- A controller with its serial number in the first words of the metadata. -/
def serialSpec : DeviceProfileSpec where
  name := "tristar_pwm"
  family := "TriStar PWM"
  blocks := [{ address := 0x000E, count := 1 },
    { address := 0xF000, count := 4, category := .metadata, optional := true, cache := true }]
  registers := [
    { name := "heatsink_temp", address := 0x000E, decoder := .s16, unit := some "C" },
    { name := "serial_number", address := 0xF000, words := 4, decoder := .asciiLoHi,
      category := .metadata }]

def serialEnv : ResolverEnv where
  casefold := fun text => String.ofList (text.toList.map Char.toLower)
  floatText := fun _ => ""
  selectSpec := fun _ _ => { name := "generic", family := "Generic Modbus" }
  profileByName := fun _ => serialSpec

/-- The capture of a controller with a serial number, at an address of the network. -/
def serialCapture (target : String) (serial : List Nat) : CaptureInput where
  createdAt := "2026-01-01T00:00:00+00:00"
  endpoint := { transport := .tcp, target, unitId := 1, port := some 502 }
  identification := {}
  device := fun _ request => .ok ((List.range' request.address request.count).map fun a =>
    if request.function = .holding ∧ a ∈ List.range' 0xF000 4 then
      (serial[a - 0xF000]?).getD 0 else 0)
  exchanges := []

theorem serialCapture_sameButSerial (target target' : String) (serial serial' : List Nat) :
    SameButSerial serialSpec (serialCapture target serial) (serialCapture target' serial') where
  createdAt := rfl
  endpoint := rfl
  identification := rfl
  exchanges := rfl
  device := by
    intro _ request
    refine ⟨by simp, fun i w w' hw hw' => ?_⟩
    have hwords : ∀ a ∈ List.range' 0xF000 4, SerialWord serialSpec (.holding, a) := by decide
    simp only [List.getElem?_map, Option.map_eq_some_iff] at hw hw'
    obtain ⟨a, ha, rfl⟩ := hw
    obtain ⟨a', ha', rfl⟩ := hw'
    rw [ha] at ha'
    cases ha'
    obtain ⟨hi, rfl⟩ := List.getElem?_eq_some_iff.mp ha
    by_cases hserial : request.function = .holding ∧
      (List.range' request.address request.count)[i] ∈ List.range' 0xF000 4
    · have hword := hwords _ hserial.2
      refine .inr ?_
      simpa [hserial.1] using hword
    · rw [if_neg hserial, if_neg hserial]
      exact .inl rfl

/-- Two controllers, `12345678` and `87654321`. -/
theorem capture_redacted_serials :
    let c := serialCapture "10.0.0.5" [0x3231, 0x3433, 0x3635, 0x3837]
    let c' := serialCapture "10.0.0.6" [0x3738, 0x3536, 0x3334, 0x3132]
    ∃ r r', (exec (capture serialEnv serialSpec c) {}).1 = .ok r ∧
      (exec (capture serialEnv serialSpec c') {}).1 = .ok r' ∧
      r.1.serialNumber = "12345678" ∧ r'.1.serialNumber = "87654321" ∧
      (c.bundle r).manifest = (c'.bundle r').manifest ∧
      (c.bundle r).expected = (c'.bundle r').expected := by
  intro c c'
  have hrun : (exec (capture serialEnv serialSpec c) {}).1.map (fun r => r.1.serialNumber) =
      .ok "12345678" := by decide +kernel
  have hrun' : (exec (capture serialEnv serialSpec c') {}).1.map (fun r => r.1.serialNumber) =
      .ok "87654321" := by decide +kernel
  have htext : SerialsAsText serialSpec := by
    unfold SerialsAsText
    decide
  have h := capture_redacted serialEnv serialSpec c c' rfl (serialCapture_sameButSerial _ _ _ _)
  cases hr : (exec (capture serialEnv serialSpec c) {}).1 with
  | error e => simp [hr, Except.map] at hrun
  | ok r =>
      cases hr' : (exec (capture serialEnv serialSpec c') {}).1 with
      | error e => simp [hr', Except.map] at hrun'
      | ok r' =>
          simp only [hr, hr', Except.map, Except.ok.injEq] at h hrun hrun'
          have hserial : r.1.serialNumber = "" ↔ r'.1.serialNumber = "" := by
            rw [hrun, hrun']
            decide
          exact ⟨r, r', rfl, rfl, hrun, hrun', h.1.manifest, h.2 htext hserial⟩

/-- The raw words of a serial number stay in `registers.json`, and a device without one is
identified with less confidence. -/
theorem not_capture_redacted :
    let files (serial : List Nat) :=
      (exec (capture serialEnv serialSpec (serialCapture "10.0.0.5" serial)) {}).1.map
        (serialCapture "10.0.0.5" serial).bundle
    SameButSerial serialSpec (serialCapture "10.0.0.5" [0x3231, 0x3433, 0x3635, 0x3837])
      (serialCapture "10.0.0.5" [0x3738, 0x3536, 0x3334, 0x3132]) ∧
    (files [0x3231, 0x3433, 0x3635, 0x3837]).map (fun b => b.registers.map RegisterValue.raw) =
      .ok [[0], [0x3231], [0x3433], [0x3635], [0x3837], [0],
        [0x3231, 0x3433, 0x3635, 0x3837]] ∧
    (files [0x3738, 0x3536, 0x3334, 0x3132]).map (fun b => b.registers.map RegisterValue.raw) =
      .ok [[0], [0x3738], [0x3536], [0x3334], [0x3132], [0],
        [0x3738, 0x3536, 0x3334, 0x3132]] ∧
    SameButSerial serialSpec (serialCapture "10.0.0.5" [0x3231, 0x3433, 0x3635, 0x3837])
      (serialCapture "10.0.0.5" [0, 0, 0, 0]) ∧
    (files [0x3231, 0x3433, 0x3635, 0x3837]).map (fun b => b.expected.confidence) =
      .ok (66 / 100) ∧
    (files [0, 0, 0, 0]).map (fun b => b.expected.confidence) = .ok (60 / 100) := by
  exact ⟨serialCapture_sameButSerial _ _ _ _, by decide +kernel, by decide +kernel,
    serialCapture_sameButSerial _ _ _ _, by decide +kernel, by decide +kernel⟩

end Files

end MorningstarModbus
