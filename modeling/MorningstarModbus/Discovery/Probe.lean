import MorningstarModbus.Catalog.Registry
import MorningstarModbus.Catalog.Requests

/-!
# MorningstarModbus.Discovery.Probe

The probe of an endpoint (`_probe` of `discovery/service.py`): is a device there, and which.

* `probe_reads` — what a probe may read of a device it does not know.
-/

namespace MorningstarModbus

open Catalog Effects

/-- What discovery takes from the Python library, and the registry. -/
structure DiscoveryEnv where
  /-- `str.casefold()` -/
  casefold : String → String
  /-- `str(x)` of a float -/
  floatText : PyFloat → String
  registry : Registry

def DiscoveryEnv.resolver (env : DiscoveryEnv) : ResolverEnv where
  casefold := env.casefold
  floatText := env.floatText
  selectSpec := env.registry.selectSpec env.casefold
  profileByName := env.registry.profileByName

/-- What a client finds at an endpoint: how the identification ends, and how the device answers
register reads.  Where nobody is there, everything fails. -/
structure ProbeTarget where
  identification : Except PyException DeviceIdentification
  device : Device

/-- The read that shows whether a device without identification is there. -/
def presenceRequest : ReadRequest := { function := .holding, address := 0, count := 1 }

section Probe

variable (env : DiscoveryEnv)

/-- `read_device_identification`, or the presence of a device that has none. -/
def identify (target : ProbeTarget) : ProfileProgram DeviceIdentification :=
  match target.identification with
  | .ok identity => return identity
  | .error _ => do
      let words ← readRegisters target.device presenceRequest
      let _ ← ofResult words
      return {}

/-- The body of the `try` of `_probe`. -/
def probeBody (target : ProbeTarget) (endpoint : Endpoint) :
    ProfileProgram (DeviceIdentification × ResolvedIntelligence) := do
  let identity ← identify target
  let spec ← detectProfile env.casefold env.registry target.device identity
  let intelligence ←
    resolveDeviceIntelligence env.resolver target.device spec identity (some endpoint)
  return (identity, intelligence)

/-- `_probe`: nothing where it raises.  The client is closed afterwards in any case. -/
def DiscoveryEnv.probe (target : ProbeTarget) (endpoint : Endpoint) :
    Option (DeviceIdentification × ResolvedIntelligence) :=
  (exec (probeBody env target endpoint) {}).1.toOption

/-- The register reads of a probe, in order. -/
def probeLog (target : ProbeTarget) (endpoint : Endpoint) : List LogEntry :=
  (exec (probeBody env target endpoint) {}).2.log

end Probe

/-! ## what a probe reads -/

/-- The parts of the reads of a probe: what shows that a device without identification is there,
fingerprints, and metadata. -/
structure ProbeParts (env : DiscoveryEnv) (target : ProbeTarget) (identity : DeviceIdentification)
    (spec : DeviceProfileSpec) (presence : List LogEntry)
    (tried : List (Fingerprint × Except PyException (List Nat))) (metadata : List LogEntry) :
    Prop where
  asked : presence.map Prod.fst = if target.identification.isOk then [] else [presenceRequest]
  /-- of a device that is not there nothing else is read -/
  absent : (∃ entry ∈ presence, entry.2.isOk = false) → tried = [] ∧ metadata = []
  order : tried.map Prod.fst <+: env.registry.fingerprints
  /-- fingerprints are read only while the profile is open, up to the first that fits -/
  leavesOpen : tried ≠ [] → LeavesOpen env.casefold env.registry identity
  first : ∀ t ∈ tried.dropLast, ¬ t.1.Accepts t.2
  /-- where none fits all are read -/
  exhausted : LeavesOpen env.casefold env.registry identity →
    (∀ entry ∈ presence, entry.2.isOk = true) → (∀ t ∈ tried, ¬ t.1.Accepts t.2) →
      tried.map Prod.fst = env.registry.fingerprints
  decided : Decided env.casefold env.registry identity tried spec
  metadata_of : ∀ entry ∈ metadata, spec.name ≠ "generic" ∧ spec.MetadataRequest entry.1

/-- The reads of a probe, and the identity it goes on with. -/
structure ProbeReads (env : DiscoveryEnv) (target : ProbeTarget) (log : List LogEntry)
    (identity : DeviceIdentification) (spec : DeviceProfileSpec) : Prop where
  identified : ∀ known, target.identification = .ok known → known = identity
  unidentified : target.identification.isOk = false → identity = {}
  parts : ∃ presence tried metadata, log = presence ++ triedLog tried ++ metadata ∧
    ProbeParts env target identity spec presence tried metadata

section Reads

variable {env : DiscoveryEnv} {target : ProbeTarget} {endpoint : Endpoint}

/-- Resolving reads metadata of a profile that was decided, and nothing else. -/
theorem sends_resolve (env : ResolverEnv) (device : Device) (spec : DeviceProfileSpec)
    (identity : DeviceIdentification) (endpoint : Option Endpoint) :
    Sends (fun r => spec.name ≠ "generic" ∧ spec.MetadataRequest r)
      (resolveDeviceIntelligence env device spec identity endpoint) := by
  refine sends_bind ?_ fun _ => sends_ofResult _
  unfold identityMetadata
  split
  · exact sends_pure _
  · case isFalse hname =>
      refine sends_tryCatch (sends_bind ?_ fun _ => sends_pure _) fun _ => sends_pure _
      exact (sends_readMetadata device spec).mono fun r hr => ⟨hname, hr⟩

/-- What the profile of the intelligence is. -/
theorem profile_resolve {env : ResolverEnv} {device : Device} {spec : DeviceProfileSpec}
    {identity : DeviceIdentification} {endpoint : Option Endpoint} {s : ProfileState}
    {intelligence : ResolvedIntelligence}
    (h : (exec (resolveDeviceIntelligence env device spec identity endpoint) s).1 =
      .ok intelligence) : intelligence.profile = spec.name := by
  rw [resolveDeviceIntelligence, exec_bind] at h
  generalize exec (identityMetadata device spec) s = out at h
  obtain ⟨r, t⟩ := out
  cases r with
  | error e => cases h
  | ok read =>
      dsimp only at h
      rw [exec_ofResult] at h
      simp only [intelligenceOf, Loop.bind_eq_ok, Loop.pure_eq_ok, Except.ok.injEq] at h
      obtain ⟨newer, -, status, -, rfl⟩ := h
      rfl

/-- What follows the identification. -/
def resolveIdentity (env : DiscoveryEnv) (target : ProbeTarget) (endpoint : Endpoint)
    (identity : DeviceIdentification) :
    ProfileProgram (DeviceIdentification × ResolvedIntelligence) := do
  let spec ← detectProfile env.casefold env.registry target.device identity
  let intelligence ←
    resolveDeviceIntelligence env.resolver target.device spec identity (some endpoint)
  return (identity, intelligence)

/-- What an identity leads to: the fingerprints tried in order, the profile they decide, its
metadata. -/
theorem resolveIdentity_spec (identity : DeviceIdentification) (s : ProfileState) :
    ∃ tried metadata, ∃ spec : DeviceProfileSpec,
      (exec (resolveIdentity env target endpoint identity) s).2.log =
        s.log ++ triedLog tried ++ metadata ∧
      tried.map Prod.fst <+: env.registry.fingerprints ∧
      (¬ LeavesOpen env.casefold env.registry identity → tried = [] ∧
        spec = env.registry.selectSpec env.casefold identity.vendorName identity.productCode) ∧
      (∀ t ∈ tried.dropLast, ¬ t.1.Accepts t.2) ∧
      (LeavesOpen env.casefold env.registry identity → (∀ t ∈ tried, ¬ t.1.Accepts t.2) →
        tried.map Prod.fst = env.registry.fingerprints) ∧
      Decided env.casefold env.registry identity tried spec ∧
      (∀ entry ∈ metadata, spec.name ≠ "generic" ∧ spec.MetadataRequest entry.1) ∧
      ∀ result, (exec (resolveIdentity env target endpoint identity) s).1 = .ok result →
        result.1 = identity ∧ result.2.profile = spec.name := by
  obtain ⟨tried, found, hdetect, hopen, hclosed⟩ :=
    @exec_detectProfile env.casefold env.registry target.device identity s
  obtain ⟨spec, hspec⟩ : ∃ spec, spec = detected env.casefold env.registry identity found :=
    ⟨_, rfl⟩
  obtain ⟨metadata, hlog, hmetadata⟩ := sends_resolve env.resolver target.device spec identity
    (some endpoint) { s with log := s.log ++ triedLog tried }
  refine ⟨tried, metadata, spec, ?_, ?_, ?_, ?_, fun h => (hopen h).exhausted, ?_, hmetadata, ?_⟩
  · rw [resolveIdentity, exec_bind, hdetect, ← hspec]
    dsimp only
    rw [exec_bind, ← hlog]
    generalize exec (resolveDeviceIntelligence _ _ _ _ _) _ = out
    obtain ⟨r, t⟩ := out
    cases r <;> rfl
  · by_cases h : LeavesOpen env.casefold env.registry identity
    · exact (hopen h).order
    · rw [(hclosed h).1]
      exact List.nil_prefix
  · intro h
    obtain ⟨htried, hfound⟩ := hclosed h
    exact ⟨htried, by rw [hspec, hfound]; rfl⟩
  · by_cases h : LeavesOpen env.casefold env.registry identity
    · exact (hopen h).dropLast_not_accepts
    · rw [(hclosed h).1]
      simp
  · by_cases h : LeavesOpen env.casefold env.registry identity
    · exact hspec ▸ (hopen h).decided
    · obtain ⟨htried, hfound⟩ := hclosed h
      rw [htried, hspec, hfound]
      exact decided_nil
  · intro result hresult
    rw [resolveIdentity, exec_bind, hdetect, ← hspec] at hresult
    dsimp only at hresult
    rw [exec_bind] at hresult
    generalize hout : exec (resolveDeviceIntelligence _ _ _ _ _) _ = out at hresult
    obtain ⟨r, t⟩ := out
    cases r with
    | error e => cases hresult
    | ok intelligence =>
        obtain rfl : (identity, intelligence) = result := Except.ok.inj hresult
        exact ⟨rfl, profile_resolve (by rw [hout])⟩

/-- Who does not name itself is asked for its presence, and then resolved with an empty identity. -/
theorem exec_probeBody (s : ProfileState) : exec (probeBody env target endpoint) s =
    match target.identification with
    | .ok identity => exec (resolveIdentity env target endpoint identity) s
    | .error _ =>
        match target.device s.log.length presenceRequest with
        | .ok _ => exec (resolveIdentity env target endpoint {})
            { s with log := s.log ++ [s.asked target.device presenceRequest] }
        | .error e =>
            (.error e, { s with log := s.log ++ [s.asked target.device presenceRequest] }) := by
  rw [probeBody, exec_bind, identify]
  cases target.identification with
  | ok identity => rfl
  | error e =>
      dsimp only
      rw [exec_bind, exec_readRegisters]
      cases target.device s.log.length presenceRequest <;> rfl

end Reads

theorem toOption_eq_some {ε α : Type} {x : Except ε α} {a : α} (h : x.toOption = some a) :
    x = .ok a := by
  cases x with
  | error e => cases h
  | ok b =>
      obtain rfl : b = a := Option.some.inj h
      rfl

/-- **A probe** reads of an unknown device what shows that it is there, and fingerprints up to the
first that fits, which decides the profile, or all of them; everything else it reads is metadata of
that profile.
Of a device that names another vendor it reads no register. -/
theorem probe_reads (env : DiscoveryEnv) (target : ProbeTarget) (endpoint : Endpoint) :
    ∃ identity spec, ProbeReads env target (probeLog env target endpoint) identity spec ∧
      (∀ result, env.probe target endpoint = some result →
        result.1 = identity ∧ result.2.profile = spec.name) ∧
      (target.identification = .ok identity →
        isExplicitNonMorningstarVendor env.casefold identity.vendorName = true →
          probeLog env target endpoint = []) := by
  rw [DiscoveryEnv.probe, probeLog, exec_probeBody]
  cases hidentity : target.identification with
  | ok identity =>
      obtain ⟨tried, metadata, spec, hlog, horder, hclosed, hfirst, hexhausted, hdecided, hmetadata,
        hresult⟩ := @resolveIdentity_spec env target endpoint identity {}
      have hparts : ProbeParts env target identity spec [] tried metadata :=
        ⟨by rw [hidentity]; rfl, by simp, horder, fun hne => by_contra fun h => hne (hclosed h).1,
          hfirst, fun h _ => hexhausted h, hdecided, hmetadata⟩
      have hknown : ∀ known, target.identification = .ok known → known = identity := by
        intro known h
        rw [hidentity, Except.ok.injEq] at h
        exact h.symm
      have hunknown : target.identification.isOk = false → identity = {} := by
        intro h
        rw [hidentity] at h
        cases h
      refine ⟨identity, spec, ⟨hknown, hunknown, [], tried, metadata, hlog, hparts⟩,
        fun result hok => hresult result (toOption_eq_some hok), fun _ hvendor => ?_⟩
      have hnot : ¬ LeavesOpen env.casefold env.registry identity := fun h =>
        absurd (h.2.symm.trans hvendor) (by decide)
      obtain ⟨htried, hspec⟩ := hclosed hnot
      have hgeneric : spec.name = "generic" := by
        rw [hspec, Registry.selectSpec, if_pos hvendor]
        rfl
      have hnone : metadata = [] :=
        List.eq_nil_iff_forall_not_mem.mpr fun entry h => (hmetadata entry h).1 hgeneric
      rw [hlog, htried, hnone]
      rfl
  | error e =>
      have hknown : ∀ known, target.identification = .ok known → known = {} := by
        intro known h
        rw [hidentity] at h
        cases h
      obtain ⟨entry, hentry⟩ : ∃ entry, entry =
        ({} : ProfileState).asked target.device presenceRequest := ⟨_, rfl⟩
      have hasked : [entry].map Prod.fst =
          if target.identification.isOk then [] else [presenceRequest] := by
        rw [hidentity, hentry]
        rfl
      dsimp only
      cases hreply : target.device ({} : ProfileState).log.length presenceRequest with
      | error e' =>
          have hfailed : entry.2.isOk = false := by
            rw [hentry]
            exact congrArg Except.isOk hreply
          have hparts : ProbeParts env target {} (env.registry.selectSpec env.casefold "" "")
              [entry] [] [] :=
            ⟨hasked, fun _ => ⟨rfl, rfl⟩, List.nil_prefix, fun h => absurd rfl h, by simp,
              fun _ hthere => absurd (hthere entry List.mem_cons_self) (by simp [hfailed]),
              decided_nil, by simp⟩
          refine ⟨{}, _, ⟨hknown, fun _ => rfl, [entry], [], [], by rw [hentry]; rfl, hparts⟩,
            fun result hok => ?_, fun h => ?_⟩
          · cases hok
          · cases h
      | ok words =>
          obtain ⟨tried, metadata, spec, hlog, horder, hclosed, hfirst, hexhausted, hdecided,
            hmetadata, hresult⟩ := @resolveIdentity_spec env target endpoint {}
              { log := [({} : ProfileState).asked target.device presenceRequest] }
          have hthere : entry.2.isOk = true := by
            rw [hentry]
            exact congrArg Except.isOk hreply
          have hparts : ProbeParts env target {} spec [entry] tried metadata := by
            refine ⟨hasked, fun habsent => ?_, horder,
              fun hne => by_contra fun h => hne (hclosed h).1, hfirst,
              fun h _ => hexhausted h, hdecided, hmetadata⟩
            simp [hthere] at habsent
          refine ⟨{}, spec, ⟨hknown, fun _ => rfl, [entry], tried, metadata, ?_, hparts⟩,
            fun result hok => hresult result (toOption_eq_some hok), fun h => ?_⟩
          · rw [hentry]
            exact hlog
          · cases h

end MorningstarModbus
