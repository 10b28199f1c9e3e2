import MorningstarModbus.Catalog.PollReads

/-!
# MorningstarModbus.Catalog.FirmwareGates

The firmware gates of a catalog (`effective_items` of `catalog/compatibility.py`) and what a
profile reads and decodes under them.

* `FirmwareGated` — the reads are of selected blocks, the named values of selected registers
  whose words were read;
* `polls_gated_iff` — the polls of every device are gated exactly when the cached blocks, which
  are read for any firmware, are selected as well.
-/

namespace MorningstarModbus.Catalog

open Effects Query Table

/-- An item that `effective_items` selects for a firmware. -/
def Selected {α : Type} (gate : α → FirmwareGate) (firmware : String) (items : List α) (item : α) :
    Prop :=
  ∃ effective, effectiveItems gate firmware items = .ok effective ∧ item ∈ effective

/-- A reply has as many words as were asked for (`parse_register_response` checks it). -/
def Device.Counted (device : Device) : Prop :=
  ∀ n request words, device n request = .ok words → words.length = request.count

/-- A word of the device lies in a block. -/
def RegisterBlock.Covers (block : RegisterBlock) (key : WordKey) : Prop :=
  block.function = key.1 ∧ block.address ≤ key.2 ∧ key.2 < block.address + block.count

/-- A poll decodes registers that apply to the firmware, of words in blocks that were read. -/
def DecodesSelected (device : Device) (spec : DeviceProfileSpec) (firmware : String)
    (s : ProfileState) : Prop :=
  ∀ values, (exec (poll device spec firmware) s).1 = .ok values → ∃ words named,
    values = wordValues words ++ named ++ deriveRegisterValues spec.name named ∧
      ∀ v ∈ named, ∃ register value,
        Selected RegisterSpec.toFirmwareGate firmware spec.registers register ∧
          v = registerValue register (registerRaw words register) value ∧
            ∀ i < register.words, ∃ block ∈ spec.blocks,
              block.Covers (register.function, register.address + i) ∧
                ∃ reply, (block.request, .ok reply) ∈ (afterPoll device spec firmware s).log

/-- What is read and decoded over a number of polls. -/
structure FirmwareGated (device : Device) (spec : DeviceProfileSpec) (firmware : String)
    (polls : Nat) : Prop where
  reads : ∀ entry ∈ (afterPolls device spec (List.replicate polls firmware) {}).log,
    ∃ block, Selected RegisterBlock.toFirmwareGate firmware spec.blocks block ∧
      entry.1 = block.request
  decodes : DecodesSelected device spec firmware
    (afterPolls device spec (List.replicate polls firmware) {})

/-! ## the log of a run -/

section Log

variable {device : Device} {spec : DeviceProfileSpec} {firmware : String} {s : ProfileState}

theorem afterPoll_log : (afterPoll device spec firmware s).log =
    s.log ++ pollLog device spec firmware s := by
  have htelemetry : ReadFrom device spec.blocks (afterMetadata device spec s)
      (afterPoll device spec firmware s) (telemetryLog device spec firmware s) := telemetryLog_spec
  rw [htelemetry.log, (metadataLog_spec device spec s).log, pollLog, List.append_assoc]

/-- A run has sent what its polls have sent. -/
theorem mem_log_afterPolls {firmwares : List String} {entry : LogEntry}
    (h : entry ∈ (afterPolls device spec firmwares s).log) : entry ∈ s.log ∨
      ∃ firmware ∈ firmwares, ∃ t, entry ∈ pollLog device spec firmware t := by
  induction firmwares generalizing s with
  | nil => exact .inl h
  | cons firmware firmwares ih =>
      cases ih h with
      | inl hhere =>
          rw [afterPoll_log, List.mem_append] at hhere
          exact hhere.imp_right fun hpoll => ⟨firmware, List.mem_cons_self, s, hpoll⟩
      | inr hlater =>
          obtain ⟨later, hmem, hpoll⟩ := hlater
          exact .inr ⟨later, List.mem_cons_of_mem firmware hmem, hpoll⟩

theorem log_subset_afterPolls (firmwares : List String) :
    s.log ⊆ (afterPolls device spec firmwares s).log := by
  induction firmwares generalizing s with
  | nil => exact List.Subset.refl _
  | cons firmware firmwares ih =>
      have hpoll : s.log ⊆ (afterPoll device spec firmware s).log := by
        rw [afterPoll_log]
        exact List.subset_append_left _ _
      exact List.Subset.trans hpoll ih

/-- The words that are kept were read in the run. -/
theorem keptReads_mem_log {firmwares : List String} {read : BlockRead}
    (h : read ∈ keptReads device spec firmwares s) :
    (read.1, .ok read.2) ∈ (afterPolls device spec firmwares s).log := by
  induction firmwares generalizing s with
  | nil => cases h
  | cons firmware firmwares ih =>
      cases List.mem_append.mp h with
      | inl hhere =>
          have hpoll : (read.1, .ok read.2) ∈ (afterPoll device spec firmware s).log := by
            rw [afterPoll_log, pollLog]
            simp [mem_successes.mp hhere]
          exact log_subset_afterPolls firmwares hpoll
      | inr hlater => exact ih hlater

end Log

/-! ## gates -/

section Gates

variable {device : Device} {spec : DeviceProfileSpec} {firmware : String}

/-- The blocks that are read at every poll are selected. -/
theorem telemetryLog_selected {s : ProfileState} {entry : LogEntry}
    (h : entry ∈ telemetryLog device spec firmware s) : ∃ block,
      Selected RegisterBlock.toFirmwareGate firmware spec.blocks block ∧
        entry.1 = block.request := by
  obtain ⟨blocks, heffective, block, hblock, -, hrequest⟩ := telemetryLog_effective h
  exact ⟨block, ⟨blocks, heffective, hblock⟩, hrequest⟩

/-- What a poll has sent for a block, the device has answered. -/
theorem blockLog_answers {s : ProfileState} {block : RegisterBlock} {entry : LogEntry}
    (h : entry ∈ blockLog device spec firmware s block) :
    entry ∈ pollLog device spec firmware s ∧ ∃ n, entry.2 = device n entry.1 := by
  rw [blockLog, List.mem_filter] at h
  rw [pollLog, List.mem_append]
  cases hcache : block.cache with
  | true =>
      rw [if_pos hcache] at h
      exact ⟨.inl h.1, (metadataLog_spec device spec s).answers entry h.1⟩
  | false =>
      rw [if_neg (by simp [hcache])] at h
      exact ⟨.inr h.1, telemetryLog_spec.answers entry h.1⟩

theorem covers_of_has {block : RegisterBlock} {words : List Nat} {key : WordKey} {word : Nat}
    (hlength : words.length = block.count) (h : BlockRead.Has (block.request, words) key word) :
    block.Covers key := by
  obtain ⟨i, hword, rfl⟩ := h
  have hi : i < words.length := (List.getElem?_eq_some_iff.mp hword).1
  refine ⟨rfl, ?_, ?_⟩
  · exact Nat.le_add_right _ _
  · show block.address + i < block.address + block.count
    omega

/-- A block that has a word of a poll covers it, and was read. -/
theorem Contributes.covers (hcounted : device.Counted) {firmwares : List String}
    {block : RegisterBlock} {key : WordKey} {word : Nat}
    (h : Contributes device spec firmware (keptReads device spec firmwares {})
      (afterPolls device spec firmwares {}) block key word) :
    block.Covers key ∧ ∃ reply, (block.request, .ok reply) ∈
      (afterPoll device spec firmware (afterPolls device spec firmwares {})).log := by
  rw [afterPoll_log]
  cases h with
  | read reply hentry hhas =>
      obtain ⟨hpoll, n, hn⟩ := blockLog_answers hentry
      exact ⟨covers_of_has (hcounted n _ _ hn.symm) hhas, reply, List.mem_append_right _ hpoll⟩
  | kept read hcache hfirst hhas =>
      have hread := List.mem_of_find?_eq_some hfirst
      have hrequest : read.1 = block.request := by simpa using List.find?_some hfirst
      obtain ⟨n, hn⟩ := (afterPolls_kept device spec firmwares {}).answers read hread
      have hlog := keptReads_mem_log hread
      obtain ⟨request, words⟩ := read
      obtain rfl : request = block.request := hrequest
      exact ⟨covers_of_has (hcounted n _ _ hn) hhas, words, List.mem_append_left _ hlog⟩

/-- A register that is decoded applies to the firmware, and its words were read. -/
theorem poll_decodesSelected (hcounted : device.Counted) (firmwares : List String) :
    DecodesSelected device spec firmware (afterPolls device spec firmwares {}) := by
  intro values hvalues
  have hs := afterPolls_kept device spec firmwares {}
  have hpoll := poll_values hvalues
  simp only [pollValues, Loop.bind_eq_ok, Loop.pure_eq_ok, Except.ok.injEq] at hpoll
  obtain ⟨named, hnamed, rfl⟩ := hpoll
  refine ⟨_, named, rfl, fun v hv => ?_⟩
  obtain ⟨registers, heffective, register, hregister, hlength, value, rfl⟩ :=
    mem_decodeNamed hnamed hv
  refine ⟨register, value, ⟨registers, heffective, hregister⟩, rfl, fun i hi => ?_⟩
  obtain ⟨word, hword⟩ : ∃ word, (registerRaw _ register)[i]? = some word :=
    ⟨_, List.getElem?_eq_getElem (hlength ▸ hi)⟩
  obtain ⟨block, hblock, hhas⟩ := exists_contributes hs (registerRaw_getElem? hlength hword)
  obtain ⟨hcovers, hread⟩ := hhas.covers hcounted
  exact ⟨block, hblock, hcovers, hread⟩

/-- The cached blocks are selected, or read the same registers as a selected one. -/
def CachedSelected (spec : DeviceProfileSpec) (firmware : String) : Prop :=
  ∀ block ∈ spec.blocks, block.cache = true → ∃ selected,
    Selected RegisterBlock.toFirmwareGate firmware spec.blocks selected ∧
      block.request = selected.request

theorem log_selected (h : CachedSelected spec firmware) (polls : Nat) {entry : LogEntry}
    (hentry : entry ∈ (afterPolls device spec (List.replicate polls firmware) {}).log) :
    ∃ block, Selected RegisterBlock.toFirmwareGate firmware spec.blocks block ∧
      entry.1 = block.request := by
  obtain hnone | ⟨firmware', hfirmware, s, hpoll⟩ := mem_log_afterPolls hentry
  · cases hnone
  · obtain rfl : firmware' = firmware := List.eq_of_mem_replicate hfirmware
    cases List.mem_append.mp hpoll with
    | inl hloaded =>
        obtain ⟨block, hblock, hcache, hrequest, -⟩ :=
          (metadataLog_spec device spec s).blocks entry hloaded
        obtain ⟨selected, hselected, hsame⟩ := h block hblock hcache
        exact ⟨selected, hselected, hrequest.trans hsame⟩
    | inr hread => exact telemetryLog_selected hread

/-- A device that answers every request. -/
def zeroDevice : Device := fun _ request => .ok (List.replicate request.count 0)

theorem zeroDevice_counted : zeroDevice.Counted := by
  intro n request words h
  cases h
  exact List.length_replicate

/-- The cached blocks are read of a device that answers. -/
theorem cached_mem_log {block : RegisterBlock} (hblock : block ∈ spec.blocks)
    (hcache : block.cache = true) :
    ∃ entry ∈ (afterPoll zeroDevice spec firmware {}).log, entry.1 = block.request := by
  have hloaded := metadataLog_spec zeroDevice spec {}
  have hfine : NoneFailed (metadataLog zeroDevice spec {}) := by
    intro entry hentry
    obtain ⟨n, hn⟩ := hloaded.answers entry hentry
    rw [hn]
    rfl
  have hkey := (afterMetadata_cached zeroDevice spec {} hfine).2 block hblock hcache
  rw [hloaded.cachedBlocks, List.nil_append, List.mem_map] at hkey
  obtain ⟨read, hread, hkey⟩ := hkey
  have hrequest : read.1 = block.request := ReadRequest.key_injective hkey
  refine ⟨(read.1, .ok read.2), ?_, hrequest⟩
  rw [afterPoll_log, pollLog]
  exact List.mem_append_right _ (List.mem_append_left _ (mem_successes.mp hread))

end Gates

/-- **Firmware gates.**  The polls of every device with a firmware are gated exactly when the
cached blocks, which are read for any firmware, are selected for this one as well. -/
theorem polls_gated_iff (spec : DeviceProfileSpec) (firmware : String) :
    (∀ device : Device, device.Counted → ∀ polls, FirmwareGated device spec firmware polls) ↔
      CachedSelected spec firmware := by
  constructor
  · intro h block hblock hcache
    obtain ⟨entry, hentry, hrequest⟩ := @cached_mem_log spec firmware block hblock hcache
    obtain ⟨selected, hselected, hsame⟩ :=
      (h zeroDevice zeroDevice_counted 1).reads entry hentry
    exact ⟨selected, hselected, hrequest ▸ hsame⟩
  · intro h device hcounted polls
    exact ⟨fun entry hentry => log_selected h polls hentry,
      poll_decodesSelected hcounted (List.replicate polls firmware)⟩

/-- A cached block that came with firmware 2.0. -/
def gatedSpec : DeviceProfileSpec where
  name := "firmware-gate-test"
  family := "test"
  blocks := [{ address := 0, count := 1 },
    { address := 10, count := 1, category := .metadata, cache := true,
      sinceFirmware := some "2.0" }]
  registers := [{ name := "always", address := 0 },
    { name := "new", address := 10, category := .metadata, sinceFirmware := some "2.0" }]

theorem not_firmwareGated : zeroDevice.Counted ∧ ¬ FirmwareGated zeroDevice gatedSpec "1.9" 1 := by
  refine ⟨zeroDevice_counted, fun h => ?_⟩
  have hread : (⟨.holding, 10, 1⟩, .ok [0]) ∈
      (afterPolls zeroDevice gatedSpec (List.replicate 1 "1.9") {}).log := by decide +kernel
  obtain ⟨block, ⟨blocks, heffective, hblock⟩, hrequest⟩ := h.reads _ hread
  have hselected : effectiveItems RegisterBlock.toFirmwareGate "1.9" gatedSpec.blocks =
      .ok [{ address := 0, count := 1 }] := by decide +kernel
  obtain rfl := Except.ok.inj (hselected.symm.trans heffective)
  obtain rfl := List.mem_singleton.mp hblock
  exact absurd hrequest (by decide)

end MorningstarModbus.Catalog
