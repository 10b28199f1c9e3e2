import MorningstarModbus.Catalog.PollReads
import MorningstarModbus.Intelligence.Resolver

/-!
# MorningstarModbus.Catalog.Registry

The registry of profiles and the detection of a device's profile (`catalog/registry.py`): by
what the device says of itself, else by a few reads that fit one family only.

The register maps of the families are a parameter.

* `exec_detectProfile` — what detection reads and what it finds;
* `Fingerprinted.decided` — which of the two decided.
-/

namespace MorningstarModbus.Catalog

open Effects Query

/-! ## the registry -/

/-- A profile with the fields that only detection reads. -/
structure CatalogEntry extends DeviceProfileSpec where
  aliases : List String
  detectionPriority : Int := 100
  deriving DecidableEq

/-- `GENERIC` -/
def generic : DeviceProfileSpec where
  name := "generic"
  family := "Generic Modbus"
  blocks := [{ address := 0x0000, count := 16, optional := true }]
  capabilities := ["rtu", "modbus_tcp"]

/-- The families, and the four that detection knows by their registers.  No family is called as
the fallback is. -/
structure Registry where
  families : List CatalogEntry
  suresineGen2 : CatalogEntry
  suresineClassic : CatalogEntry
  sunsaverDuo : CatalogEntry
  tristarPwm : CatalogEntry
  named : ∀ entry ∈ families, entry.name ≠ "generic"

/-- `PROFILES` -/
def Registry.profiles (registry : Registry) : List CatalogEntry :=
  orderBy CatalogEntry.detectionPriority .asc registry.families

/-- `PROFILE_BY_NAME.get(name, GENERIC)`; of two profiles of a name the last one is kept. -/
def Registry.profileByName (registry : Registry) (name : String) : DeviceProfileSpec :=
  if name = "generic" then generic
  else ((registry.profiles.filter fun p => p.name = name).getLast?.map
    CatalogEntry.toDeviceProfileSpec).getD generic

/-! ## identities -/

/-- `re.sub(r"[^a-z0-9]+", " ", …)`; `gap` says whether a run of other characters is open. -/
def spaceOthers : List Char → Bool → List Char
  | [], _ => []
  | c :: cs, gap =>
      if ('a' ≤ c ∧ c ≤ 'z') ∨ ('0' ≤ c ∧ c ≤ '9') then c :: spaceOthers cs false
      else if gap then spaceOthers cs true
      else ' ' :: spaceOthers cs true

section Select

variable (casefold : String → String)

/-- `_normalize`, as its characters. -/
def normalize (value : String) : List Char :=
  Text.stripChars (spaceOthers (casefold value).toList false)

/-- `_is_explicit_non_morningstar_vendor` -/
def isExplicitNonMorningstarVendor (vendorName : String) : Bool :=
  let vendor := normalize casefold vendorName
  vendor ≠ [] ∧ ¬ "morningstar".toList <:+: vendor

/-- An alias that the inner loop of `select_spec` accepts. -/
def aliasMatches (identity product : List Char) (text : String) : Bool :=
  let normalized := normalize casefold text
  normalized ≠ [] ∧ (normalized <:+: identity ∨ normalized = product)

/-- `select_spec` -/
def Registry.selectSpec (registry : Registry) (vendorName productCode : String) :
    DeviceProfileSpec :=
  if isExplicitNonMorningstarVendor casefold vendorName then generic
  else
    let identity := normalize casefold (vendorName ++ " " ++ productCode)
    let product := normalize casefold productCode
    let found := registry.profiles.find? fun entry =>
      (orderBy String.length .desc entry.aliases).any (aliasMatches casefold identity product)
    (found.map CatalogEntry.toDeviceProfileSpec).getD generic

end Select

/-! ## fingerprints -/

/-- A read that tells a family; a reply of another shape raises in the source, and the raise is
passed over. -/
structure Fingerprint where
  request : ReadRequest
  fits : List Nat → Bool
  entry : CatalogEntry

namespace Registry

variable (registry : Registry)

def suresineGen2Fingerprint : Fingerprint where
  request := { function := .holding, address := 0x0003, count := 4 }
  fits
    | rated :: nominal :: rating :: frequency :: _ =>
        let ratedW : ℚ := rated / 10
        let nominalDc : ℚ := nominal / 100
        let acRating : ℚ := rating / 10
        (100 ≤ ratedW ∧ ratedW ≤ 3000) ∧ (10 ≤ nominalDc ∧ nominalDc ≤ 60) ∧
          (90 ≤ acRating ∧ acRating ≤ 260) ∧ 45 ≤ frequency ∧ frequency ≤ 65
    | _ => false
  entry := registry.suresineGen2

def suresineClassicFingerprint : Fingerprint where
  request := { function := .holding, address := 0x000D, count := 2 }
  fits
    | [volts, frequency] => (90 ≤ volts ∧ volts ≤ 260) ∧ 45 ≤ frequency ∧ frequency ≤ 65
    | _ => false
  entry := registry.suresineClassic

def sunsaverDuoFingerprint : Fingerprint where
  request := { function := .holding, address := 0x0106, count := 6 }
  fits
    | _ :: _ :: kind :: _ :: level :: _ => (kind = 1 ∨ kind = 3 ∨ kind = 4) ∧ level ≤ 0x00FF
    | _ => false
  entry := registry.sunsaverDuo

def tristarPwmFingerprint : Fingerprint where
  request := { function := .holding, address := 0x001A, count := 2 }
  fits
    | [mode, state] => mode ≤ 3 ∧ state ≤ 8
    | _ => false
  entry := registry.tristarPwm

/-- In the order in which they are read. -/
def fingerprints : List Fingerprint :=
  [registry.suresineGen2Fingerprint, registry.suresineClassicFingerprint,
    registry.sunsaverDuoFingerprint, registry.tristarPwmFingerprint]

end Registry

/-- The first fingerprint that fits what the device answers. -/
def readFingerprints (device : Device) : List Fingerprint → ProfileProgram (Option CatalogEntry)
  | [] => return none
  | f :: fs => do
      match ← readRegisters device f.request with
      | .ok words => if f.fits words then return some f.entry else readFingerprints device fs
      | .error _ => readFingerprints device fs

/-- `detect_profile` -/
def detectProfile (casefold : String → String) (registry : Registry) (device : Device)
    (identity : DeviceIdentification) : ProfileProgram DeviceProfileSpec := do
  let selected := registry.selectSpec casefold identity.vendorName identity.productCode
  if selected.name ≠ "generic" then return selected
  if isExplicitNonMorningstarVendor casefold identity.vendorName then return selected
  match ← readFingerprints device registry.fingerprints with
  | some entry => return entry.toDeviceProfileSpec
  | none => return selected

/-! ## what detection reads -/

section Detection

variable {casefold : String → String} {registry : Registry} {device : Device}
  {identity : DeviceIdentification}

/-- What the identity selects is the fallback, or a profile that has another name. -/
theorem Registry.selectSpec_eq_generic {vendorName productCode : String}
    (h : (registry.selectSpec casefold vendorName productCode).name = "generic") :
    registry.selectSpec casefold vendorName productCode = generic := by
  unfold Registry.selectSpec at h ⊢
  split at h
  · rename_i hvendor
    rw [if_pos hvendor]
  · rename_i hvendor
    rw [if_neg hvendor]
    dsimp only at h ⊢
    generalize hfound : registry.profiles.find? _ = found at h ⊢
    cases found with
    | none => rfl
    | some entry =>
        have hmem := (mem_orderBy _ _ _).mp (List.mem_of_find?_eq_some hfound)
        exact absurd h (registry.named entry hmem)

/-- A fingerprint fits the answer to its read. -/
def Fingerprint.Accepts (f : Fingerprint) (reply : Except PyException (List Nat)) : Prop :=
  ∃ words, reply = .ok words ∧ f.fits words = true

/-- The reads of some fingerprints, up to the first that fits. -/
structure Fingerprinted (device : Device) (fs : List Fingerprint) (s : ProfileState)
    (tried : List (Fingerprint × Except PyException (List Nat))) (found : Option CatalogEntry) :
    Prop where
  order : tried.map Prod.fst <+: fs
  answers : ∀ t ∈ tried, ∃ n, s.log.length ≤ n ∧ t.2 = device n t.1.request
  all : found = none → tried.map Prod.fst = fs ∧ ∀ t ∈ tried, ¬ t.1.Accepts t.2
  first : ∀ entry, found = some entry → ∃ earlier f reply, tried = earlier ++ [(f, reply)] ∧
    (∀ t ∈ earlier, ¬ t.1.Accepts t.2) ∧ f.Accepts reply ∧ f.entry = entry

/-- The log entries of reads. -/
def triedLog (tried : List (Fingerprint × Except PyException (List Nat))) : List LogEntry :=
  tried.map fun t => (t.1.request, t.2)

/-- All fingerprints but the last that is read do not fit. -/
theorem Fingerprinted.dropLast_not_accepts {fs : List Fingerprint} {s : ProfileState}
    {tried : List (Fingerprint × Except PyException (List Nat))} {found : Option CatalogEntry}
    (h : Fingerprinted device fs s tried found) : ∀ t ∈ tried.dropLast, ¬ t.1.Accepts t.2 := by
  intro t ht
  cases hfound : found with
  | none => exact (h.all hfound).2 t (List.mem_of_mem_dropLast ht)
  | some entry =>
      obtain ⟨earlier, f, reply, rfl, hearlier, -, -⟩ := h.first entry hfound
      rw [List.dropLast_concat] at ht
      exact hearlier t ht

/-- Where none fits, all are read. -/
theorem Fingerprinted.exhausted {fs : List Fingerprint} {s : ProfileState}
    {tried : List (Fingerprint × Except PyException (List Nat))} {found : Option CatalogEntry}
    (h : Fingerprinted device fs s tried found) (hnone : ∀ t ∈ tried, ¬ t.1.Accepts t.2) :
    tried.map Prod.fst = fs := by
  cases hfound : found with
  | none => exact (h.all hfound).1
  | some entry =>
      obtain ⟨earlier, f, reply, rfl, -, haccepts, -⟩ := h.first entry hfound
      exact absurd haccepts (hnone (f, reply) (by simp))

/-- One more fingerprint that does not fit. -/
theorem Fingerprinted.cons {fs : List Fingerprint} {s : ProfileState} {f : Fingerprint}
    {tried : List (Fingerprint × Except PyException (List Nat))} {found : Option CatalogEntry}
    (h : Fingerprinted device fs { s with log := s.log ++ [s.asked device f.request] } tried found)
    (hnot : ¬ f.Accepts (device s.log.length f.request)) :
    Fingerprinted device (f :: fs) s ((f, device s.log.length f.request) :: tried) found where
  order := by
    rw [List.map_cons]
    exact List.prefix_cons_inj f |>.mpr h.order
  answers := by
    intro t ht
    cases List.mem_cons.mp ht with
    | inl heq => exact ⟨s.log.length, le_refl _, by rw [heq]⟩
    | inr hmem =>
        obtain ⟨n, hn, hreply⟩ := h.answers t hmem
        rw [List.length_append] at hn
        exact ⟨n, by omega, hreply⟩
  all := by
    intro hnone
    obtain ⟨horder, hfit⟩ := h.all hnone
    refine ⟨by rw [List.map_cons, horder], fun t ht => ?_⟩
    cases List.mem_cons.mp ht with
    | inl heq => rwa [heq]
    | inr hmem => exact hfit t hmem
  first := by
    intro entry hsome
    obtain ⟨earlier, g, reply, rfl, hearlier, hfit⟩ := h.first entry hsome
    refine ⟨(f, device s.log.length f.request) :: earlier, g, reply, rfl, fun t ht => ?_, hfit⟩
    cases List.mem_cons.mp ht with
    | inl heq => rwa [heq]
    | inr hmem => exact hearlier t hmem

/-- Fingerprints are read one after another, up to the first that fits. -/
theorem exec_readFingerprints (device : Device) (fs : List Fingerprint) (s : ProfileState) :
    ∃ tried found, Fingerprinted device fs s tried found ∧
      exec (readFingerprints device fs) s =
        (.ok found, { s with log := s.log ++ triedLog tried }) := by
  induction fs generalizing s with
  | nil =>
      refine ⟨[], none, ⟨by simp, by simp, by simp, by simp⟩, ?_⟩
      rw [readFingerprints, exec_pure, triedLog, List.map_nil, List.append_nil]
  | cons f fs ih =>
      obtain ⟨reply, hreply⟩ : ∃ reply, reply = device s.log.length f.request := ⟨_, rfl⟩
      obtain ⟨tried, found, htried, hexec⟩ :=
        ih { s with log := s.log ++ [s.asked device f.request] }
      have hrest : ¬ f.Accepts reply → ∃ tried found,
          Fingerprinted device (f :: fs) s tried found ∧
            exec (readFingerprints device fs)
                { s with log := s.log ++ [s.asked device f.request] } =
              (.ok found, { s with log := s.log ++ triedLog tried }) := by
        intro hnot
        refine ⟨(f, reply) :: tried, found, hreply ▸ htried.cons (hreply ▸ hnot), ?_⟩
        rw [hexec, hreply]
        simp [triedLog, ProfileState.asked]
      rw [readFingerprints, exec_bind, exec_readRegisters, ← hreply]
      cases hcase : reply with
      | error e =>
          refine (hrest ?_)
          rintro ⟨words, hwords, -⟩
          rw [hcase] at hwords
          cases hwords
      | ok words =>
          by_cases hfits : f.fits words = true
          · refine ⟨[(f, reply)], some f.entry, ⟨?_, ?_, by simp, ?_⟩, ?_⟩
            · exact ⟨fs, rfl⟩
            · intro t ht
              rw [List.mem_singleton.mp ht]
              exact ⟨s.log.length, le_refl _, hreply⟩
            · intro entry hentry
              exact ⟨[], f, reply, rfl, by simp, ⟨words, hcase, hfits⟩, Option.some.inj hentry⟩
            · simp [hfits, triedLog, ProfileState.asked, hreply]
          · have hnot : ¬ f.Accepts reply := by
              rintro ⟨words', hwords, hfit⟩
              rw [hcase, Except.ok.injEq] at hwords
              exact hfits (hwords ▸ hfit)
            simp only [hfits, Bool.false_eq_true, if_false]
            exact hrest hnot

/-- The identity of a device leaves its profile open: it selects none, and names no other
vendor. -/
def LeavesOpen (casefold : String → String) (registry : Registry)
    (identity : DeviceIdentification) : Prop :=
  registry.selectSpec casefold identity.vendorName identity.productCode = generic ∧
    isExplicitNonMorningstarVendor casefold identity.vendorName = false

/-- What detection found. -/
def detected (casefold : String → String) (registry : Registry) (identity : DeviceIdentification)
    (found : Option CatalogEntry) : DeviceProfileSpec :=
  (found.map CatalogEntry.toDeviceProfileSpec).getD
    (registry.selectSpec casefold identity.vendorName identity.productCode)

/-- A fingerprint that fits decides the profile, else the identity does. -/
structure Decided (casefold : String → String) (registry : Registry)
    (identity : DeviceIdentification)
    (tried : List (Fingerprint × Except PyException (List Nat))) (spec : DeviceProfileSpec) :
    Prop where
  fits : ∀ t, tried.getLast? = some t → t.1.Accepts t.2 → spec = t.1.entry.toDeviceProfileSpec
  selected : (∀ t ∈ tried, ¬ t.1.Accepts t.2) →
    spec = registry.selectSpec casefold identity.vendorName identity.productCode

theorem Fingerprinted.decided {fs : List Fingerprint} {s : ProfileState}
    {tried : List (Fingerprint × Except PyException (List Nat))} {found : Option CatalogEntry}
    (h : Fingerprinted device fs s tried found) :
    Decided casefold registry identity tried (detected casefold registry identity found) := by
  cases hfound : found with
  | none =>
      exact ⟨fun t ht hfit => absurd hfit ((h.all hfound).2 t (List.mem_of_getLast? ht)),
        fun _ => rfl⟩
  | some entry =>
      obtain ⟨earlier, f, reply, rfl, -, hfit, rfl⟩ := h.first entry hfound
      refine ⟨fun t ht _ => ?_, fun hnone => ?_⟩
      · rw [List.getLast?_concat, Option.some.injEq] at ht
        rw [← ht]
        rfl
      · exact absurd hfit (hnone _ (List.mem_append_right _ (List.mem_singleton_self _)))

theorem decided_nil : Decided casefold registry identity []
    (registry.selectSpec casefold identity.vendorName identity.productCode) :=
  ⟨fun _ ht => by simp at ht, fun _ => rfl⟩

/-- **Detection** never raises, and reads fingerprints only of a device whose identity leaves its
profile open. -/
theorem exec_detectProfile (device : Device) (identity : DeviceIdentification) (s : ProfileState) :
    ∃ tried found, exec (detectProfile casefold registry device identity) s =
        (.ok (detected casefold registry identity found),
          { s with log := s.log ++ triedLog tried }) ∧
      (LeavesOpen casefold registry identity →
        Fingerprinted device registry.fingerprints s tried found) ∧
      (¬ LeavesOpen casefold registry identity → tried = [] ∧ found = none) := by
  obtain ⟨selected, hselected⟩ : ∃ selected,
    selected = registry.selectSpec casefold identity.vendorName identity.productCode := ⟨_, rfl⟩
  have hstays : ∃ tried found, ((.ok selected, s) : Except PyException DeviceProfileSpec × _) =
        (.ok (detected casefold registry identity found),
          { s with log := s.log ++ triedLog tried }) ∧ tried = [] ∧ found = none :=
    ⟨[], none, by simp [detected, triedLog, hselected], rfl, rfl⟩
  unfold detectProfile
  rw [← hselected]
  by_cases hname : selected.name ≠ "generic"
  · obtain ⟨tried, found, heq, hnone⟩ := hstays
    refine ⟨tried, found, ?_, fun hopen => absurd ?_ hname, fun _ => hnone⟩
    · rw [← heq]
      simp [hname]
    · rw [hselected, hopen.1]
      rfl
  · by_cases hvendor : isExplicitNonMorningstarVendor casefold identity.vendorName = true
    · obtain ⟨tried, found, heq, hnone⟩ := hstays
      refine ⟨tried, found, ?_, fun hopen => ?_, fun _ => hnone⟩
      · rw [← heq]
        simp [hname, hvendor]
      · exact absurd (hopen.2.symm.trans hvendor) (by decide)
    · obtain ⟨tried, found, htried, hexec⟩ :=
        exec_readFingerprints device registry.fingerprints s
      refine ⟨tried, found, ?_, fun _ => htried, fun hopen => absurd ?_ hopen⟩
      · simp only [hname, hvendor, Bool.false_eq_true, if_false, exec_bind, hexec]
        cases found <;> simp [detected, hselected]
      · exact ⟨registry.selectSpec_eq_generic (hselected ▸ not_not.mp hname),
          by simpa using hvendor⟩

end Detection

end MorningstarModbus.Catalog
