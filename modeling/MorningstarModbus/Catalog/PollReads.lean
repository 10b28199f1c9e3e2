import Mathlib.Data.List.ReduceOption
import MorningstarModbus.Catalog.Profile

/-!
# MorningstarModbus.Catalog.PollReads

Where the words of a poll were read (`CatalogProfile` of `catalog/profile.py`), over runs of
polls of one profile.

* `WordMap.absorb` — the words of reads, the later over the earlier;
* `LoadedFrom`, `ReadFrom` — what the loops over the blocks do to the profile;
* `poll_unmixed` — every word is of a read of this poll or of the first read of a cached block,
  and where the cached blocks do not change, what was kept does not show.
-/

namespace MorningstarModbus.Catalog

open Effects Query Table

/-! ## words of reads -/

abbrev LogEntry := ReadRequest × Except PyException (List Nat)

/-- A request with the words it was answered with. -/
abbrev BlockRead := ReadRequest × List Nat

/-- The reads that did not fail. -/
def successes (log : List LogEntry) : List BlockRead :=
  log.filterMap fun entry => entry.2.toOption.map fun reply => (entry.1, reply)

@[simp] theorem successes_append (log log' : List LogEntry) :
    successes (log ++ log') = successes log ++ successes log' := List.filterMap_append

/-- A success of the log is a request that was answered. -/
theorem mem_successes {log : List LogEntry} {read : BlockRead} :
    read ∈ successes log ↔ (read.1, .ok read.2) ∈ log := by
  rw [successes, List.mem_filterMap]
  constructor
  · intro h
    obtain ⟨⟨request, reply⟩, hentry, hread⟩ := h
    cases reply with
    | error e => cases hread
    | ok words =>
        cases hread
        exact hentry
  · intro h
    exact ⟨_, h, rfl⟩

/-- The word of a read under a key. -/
def BlockRead.Has (read : BlockRead) (key : WordKey) (word : Nat) : Prop :=
  ∃ i, read.2[i]? = some word ∧ key = (read.1.function, read.1.address + i)

namespace WordMap

/-- The words of reads, the later over the earlier. -/
def absorb (words : WordMap) (reads : List BlockRead) : WordMap :=
  reads.foldl (fun words read => words.store read.1.function read.1.address read.2) words

@[simp] theorem absorb_nil (words : WordMap) : words.absorb [] = words := rfl

/-- Reads are absorbed one after another. -/
@[simp] theorem absorb_append (words : WordMap) (reads reads' : List BlockRead) :
    words.absorb (reads ++ reads') = (words.absorb reads).absorb reads' := List.foldl_append

variable {words : WordMap} {key : WordKey} {word : Nat}

/-- A word is found under the key it was stored last. -/
theorem lookup_set (key' : WordKey) (word' : Nat) :
    (words.set key' word').lookup key = if key = key' then some word' else words.lookup key := by
  by_cases hkey : key = key'
  · rw [if_pos hkey, hkey]
    exact lookup_set_self words key' word'
  · rw [if_neg hkey]
    exact lookup_set_of_ne words word' hkey

theorem keyed_set (h : Keyed Prod.fst words) (key' : WordKey) (word' : Nat) :
    Keyed Prod.fst (words.set key' word') := h.upsert fun _ _ => rfl

/-- A word found after a reply was stored comes from the reply, or was there. -/
theorem lookup_storeFrom (function : RegisterFunction) (address n : Nat) (reply : List Nat)
    (h : ((reply.zipIdx n).foldl (fun words entry => words.set (function, address + entry.2) entry.1)
      words).lookup key = some word) :
    (∃ i, reply[i]? = some word ∧ key = (function, address + (n + i))) ∨
      words.lookup key = some word := by
  induction reply generalizing n words with
  | nil => exact .inr h
  | cons w reply ih =>
      rw [List.zipIdx_cons, List.foldl_cons] at h
      cases ih (n + 1) h with
      | inl hlater =>
          obtain ⟨i, hword, hkey⟩ := hlater
          exact .inl ⟨i + 1, hword, by rw [hkey, show n + 1 + i = n + (i + 1) by omega]⟩
      | inr hhere =>
          rw [lookup_set] at hhere
          split at hhere
          next hkey => exact .inl ⟨0, hhere, hkey⟩
          next => exact .inr hhere

/-- A word that is there was read, or was there before. -/
theorem lookup_absorb {reads : List BlockRead} (h : (words.absorb reads).lookup key = some word) :
    (∃ read ∈ reads, read.Has key word) ∨ words.lookup key = some word := by
  induction reads generalizing words with
  | nil => exact .inr h
  | cons read reads ih =>
      cases ih h with
      | inl hlater =>
          obtain ⟨later, hmem, hhas⟩ := hlater
          exact .inl ⟨later, List.mem_cons_of_mem read hmem, hhas⟩
      | inr hhere =>
          cases lookup_storeFrom read.1.function read.1.address 0 read.2 hhere with
          | inl hread =>
              obtain ⟨i, hword, hkey⟩ := hread
              exact .inl ⟨read, List.mem_cons_self, i, hword, by rw [hkey, Nat.zero_add]⟩
          | inr hbefore => exact .inr hbefore

/-- All words of a reply are found. -/
theorem isSome_lookup_storeFrom (function : RegisterFunction) (address n : Nat) (reply : List Nat)
    (h : (words.lookup key).isSome ∨
      ∃ i, reply[i]? = some word ∧ key = (function, address + (n + i))) :
    (((reply.zipIdx n).foldl (fun words entry => words.set (function, address + entry.2) entry.1)
      words).lookup key).isSome := by
  induction reply generalizing n words with
  | nil => simpa using h
  | cons w reply ih =>
      rw [List.zipIdx_cons, List.foldl_cons]
      refine ih (n + 1) ?_
      rw [lookup_set]
      obtain hbefore | ⟨i, hword, hkey⟩ := h
      · left
        split <;> simp [hbefore]
      · cases i with
        | zero => exact .inl (by simp [hkey])
        | succ i => exact .inr ⟨i, hword, by rw [hkey, show n + 1 + i = n + (i + 1) by omega]⟩

/-- A key that was read stays, whatever is read after it. -/
theorem isSome_lookup_absorb {reads : List BlockRead} {read : BlockRead} (hread : read ∈ reads)
    (hhas : read.Has key word) : ((words.absorb reads).lookup key).isSome := by
  have hkeep : ∀ (reads : List BlockRead) (words : WordMap), (words.lookup key).isSome →
      ((words.absorb reads).lookup key).isSome := by
    intro reads
    induction reads with
    | nil => exact fun _ h => h
    | cons later reads ih =>
        intro words h
        exact ih _ (@isSome_lookup_storeFrom _ key word _ _ 0 later.2 (.inl h))
  induction reads generalizing words with
  | nil => cases hread
  | cons first reads ih =>
      cases List.mem_cons.mp hread with
      | inl hfirst =>
          obtain ⟨i, hword, hkey⟩ := hhas
          subst hfirst
          refine hkeep reads _ (isSome_lookup_storeFrom _ _ 0 read.2 (.inr ⟨i, hword, ?_⟩))
          rw [hkey, Nat.zero_add]
      | inr hlater => exact ih hlater

/-- The word map keeps one word for each key. -/
theorem keyed_absorb (h : Keyed Prod.fst words) (reads : List BlockRead) :
    Keyed Prod.fst (words.absorb reads) := by
  induction reads generalizing words with
  | nil => exact h
  | cons read reads ih =>
      refine ih (List.foldlRecOn _ _ h ?_)
      intro words hwords entry _
      exact keyed_set hwords _ _

end WordMap

/-! ## the loops -/

/-- The log entry of a request that is sent next. -/
def ProfileState.asked (s : ProfileState) (device : Device) (request : ReadRequest) : LogEntry :=
  (request, device s.log.length request)

/-- The key under which a cached block is remembered. -/
def ReadRequest.key (request : ReadRequest) : RegisterFunction × Nat × Nat :=
  (request.function, request.address, request.count)

/-- Requests are told apart by their keys. -/
theorem ReadRequest.key_injective : Function.Injective ReadRequest.key := by
  intro request request' h
  cases request
  cases request'
  simpa [ReadRequest.key] using h

/-- What the loop over the cached blocks does, with the entries it adds to the log. -/
structure LoadedFrom (device : Device) (spec : DeviceProfileSpec) (s s' : ProfileState)
    (new : List LogEntry) : Prop where
  log : s'.log = s.log ++ new
  metadata : s'.metadata = s.metadata.absorb (successes new)
  cachedBlocks : s'.cachedBlocks = s.cachedBlocks ++ (successes new).map fun read => read.1.key
  blocks : ∀ entry ∈ new, ∃ block ∈ spec.blocks, block.cache ∧ entry.1 = block.request ∧
    block.key ∉ s.cachedBlocks
  answers : ∀ entry ∈ new, ∃ n, entry.2 = device n entry.1
  nodup : s.cachedBlocks.Nodup → s'.cachedBlocks.Nodup

section Loops

variable {device : Device} {spec : DeviceProfileSpec} {s s' s'' : ProfileState}
  {new new' : List LogEntry}

theorem LoadedFrom.refl (s : ProfileState) : LoadedFrom device spec s s [] where
  log := (List.append_nil _).symm
  metadata := rfl
  cachedBlocks := (List.append_nil _).symm
  blocks := fun _ h => absurd h List.not_mem_nil
  answers := fun _ h => absurd h List.not_mem_nil
  nodup := id

/-- What is loaded in two parts. -/
theorem LoadedFrom.trans (h : LoadedFrom device spec s s' new)
    (h' : LoadedFrom device spec s' s'' new') :
    LoadedFrom device spec s s'' (new ++ new') where
  log := by rw [h'.log, h.log, List.append_assoc]
  metadata := by rw [h'.metadata, h.metadata, successes_append, WordMap.absorb_append]
  cachedBlocks := by
    rw [h'.cachedBlocks, h.cachedBlocks, successes_append, List.map_append, List.append_assoc]
  blocks := by
    intro entry hentry
    cases List.mem_append.mp hentry with
    | inl hearlier => exact h.blocks entry hearlier
    | inr hlater =>
        obtain ⟨block, hblock, hcache, hrequest, hkey⟩ := h'.blocks entry hlater
        have hbefore : block.key ∉ s.cachedBlocks := fun hmem =>
          hkey (by rw [h.cachedBlocks]; exact List.mem_append_left _ hmem)
        exact ⟨block, hblock, hcache, hrequest, hbefore⟩
  answers := fun entry hentry =>
    (List.mem_append.mp hentry).elim (h.answers entry) (h'.answers entry)
  nodup := fun hs => h'.nodup (h.nodup hs)

/-- A read asks once, and returns whatever the device answers. -/
theorem exec_readRegisters (device : Device) (request : ReadRequest) (s : ProfileState) :
    exec (readRegisters device request) s =
      (.ok (device s.log.length request), { s with log := s.log ++ [s.asked device request] }) :=
  rfl

/-- A cached block is asked for until it was read; a failure is raised unless it is optional. -/
theorem exec_loadBlock (device : Device) (block : RegisterBlock) (s : ProfileState) :
    exec (loadBlock device block) s =
      if block.cache = false ∨ block.key ∈ s.cachedBlocks then (.ok (), s)
      else
        match device s.log.length block.request with
        | .ok words =>
            (.ok (), { metadata := s.metadata.store block.function block.address words
                       cachedBlocks := s.cachedBlocks ++ [block.key]
                       log := s.log ++ [s.asked device block.request] })
        | .error e =>
            (if block.optional then .ok () else .error e,
              { s with log := s.log ++ [s.asked device block.request] }) := by
  rw [loadBlock, exec_bind, exec_get]
  dsimp only
  by_cases hskip : block.cache = false ∨ block.key ∈ s.cachedBlocks
  · rw [if_pos hskip, if_pos (by simpa using hskip)]
    rfl
  · rw [if_neg hskip, if_neg (by simpa using hskip), exec_bind]
    rw [exec_readRegisters]
    dsimp only
    cases device s.log.length block.request with
    | ok words => rfl
    | error e => cases block.optional <;> rfl

/-- A log without a failed read. -/
def NoneFailed (log : List LogEntry) : Prop := ∀ entry ∈ log, entry.2.isOk = true

/-- A turn of the loop: where no read failed it has ended well, and the block is cached. -/
theorem loadBlock_spec (device : Device) {block : RegisterBlock} (hblock : block ∈ spec.blocks)
    (s : ProfileState) : ∃ new, LoadedFrom device spec s (exec (loadBlock device block) s).2 new ∧
      (NoneFailed new → (exec (loadBlock device block) s).1 = .ok () ∧
        (block.cache = true → block.key ∈ (exec (loadBlock device block) s).2.cachedBlocks)) := by
  rw [exec_loadBlock]
  by_cases hskip : block.cache = false ∨ block.key ∈ s.cachedBlocks
  · rw [if_pos hskip]
    refine ⟨[], LoadedFrom.refl s, fun _ => ⟨rfl, fun hcache => ?_⟩⟩
    simpa [hcache] using hskip
  · rw [if_neg hskip]
    obtain ⟨hcache, hkey⟩ := not_or.mp hskip
    have hblocks : ∀ entry ∈ [s.asked device block.request], ∃ block ∈ spec.blocks,
        block.cache ∧ entry.1 = block.request ∧ block.key ∉ s.cachedBlocks := by
      intro entry hentry
      rw [List.mem_singleton.mp hentry]
      exact ⟨block, hblock, by simpa using hcache, rfl, hkey⟩
    have hanswers : ∀ entry ∈ [s.asked device block.request], ∃ n, entry.2 = device n entry.1 := by
      intro entry hentry
      rw [List.mem_singleton.mp hentry]
      exact ⟨s.log.length, rfl⟩
    refine ⟨[s.asked device block.request], ?_⟩
    cases hreply : device s.log.length block.request with
    | ok words =>
        have hsuccess : successes [s.asked device block.request] = [(block.request, words)] := by
          simp [successes, ProfileState.asked, hreply, Except.toOption]
        refine ⟨?_, fun _ => ⟨rfl, fun _ => by simp⟩⟩
        exact {
          log := rfl
          metadata := by rw [hsuccess]; rfl
          cachedBlocks := by rw [hsuccess]; rfl
          blocks := hblocks
          answers := hanswers
          nodup := fun hs => by
            rw [List.nodup_append]
            grind }
    | error e =>
        have hnone : successes [s.asked device block.request] = [] := by
          simp [successes, ProfileState.asked, hreply, Except.toOption]
        have hfailed : ¬ NoneFailed [s.asked device block.request] := by
          simp [NoneFailed, ProfileState.asked, hreply, Except.isOk, Except.toBool]
        refine ⟨?_, fun h => absurd h hfailed⟩
        exact {
          log := rfl
          metadata := by rw [hnone]; rfl
          cachedBlocks := by rw [hnone]; simp
          blocks := hblocks
          answers := hanswers
          nodup := id }

/-- The loop over metadata blocks, which ends at one that raises. -/
theorem loadBlocks_spec (device : Device) {blocks : List RegisterBlock}
    (hblocks : ∀ block ∈ blocks, block ∈ spec.blocks) (s : ProfileState) :
    ∃ new, LoadedFrom device spec s (exec (blocks.forM (loadBlock device)) s).2 new ∧
      (NoneFailed new → (exec (blocks.forM (loadBlock device)) s).1 = .ok () ∧
        ∀ block ∈ blocks, block.cache = true →
          block.key ∈ (exec (blocks.forM (loadBlock device)) s).2.cachedBlocks) := by
  induction blocks generalizing s with
  | nil => exact ⟨[], LoadedFrom.refl s, fun _ => ⟨rfl, fun _ h => absurd h List.not_mem_nil⟩⟩
  | cons block blocks ih =>
      obtain ⟨new, hnew, hdone⟩ := loadBlock_spec device (hblocks block List.mem_cons_self) s
      have hcons : exec ((block :: blocks).forM (loadBlock device)) s =
          exec (loadBlock device block >>= fun _ => blocks.forM (loadBlock device)) s := rfl
      rw [hcons, exec_bind]
      generalize exec (loadBlock device block) s = out at hnew hdone ⊢
      obtain ⟨r, t⟩ := out
      cases r with
      | error e => exact ⟨new, hnew, fun hfine => absurd (hdone hfine).1 (by simp)⟩
      | ok u =>
          obtain ⟨later, hlater, hrest⟩ :=
            ih (fun b hb => hblocks b (List.mem_cons_of_mem block hb)) t
          refine ⟨new ++ later, hnew.trans hlater, fun hfine => ?_⟩
          obtain ⟨hok, hall⟩ := hrest fun entry h => hfine entry (List.mem_append_right new h)
          refine ⟨hok, fun b hb hcache => ?_⟩
          obtain rfl | hb := List.mem_cons.mp hb
          · have hkey := (hdone fun entry h => hfine entry (List.mem_append_left later h)).2 hcache
            rw [hlater.cachedBlocks]
            exact List.mem_append_left _ hkey
          · exact hall b hb hcache

/-- `_load_metadata` -/
theorem loadMetadata_spec (device : Device) (spec : DeviceProfileSpec) (s : ProfileState) :
    ∃ new, LoadedFrom device spec s (exec (loadMetadata device spec) s).2 new ∧
      (NoneFailed new → (exec (loadMetadata device spec) s).1 = .ok () ∧
        ∀ block ∈ spec.blocks, block.cache = true →
          block.key ∈ (exec (loadMetadata device spec) s).2.cachedBlocks) :=
  loadBlocks_spec device (fun _ h => h) s

/-- What the loop over the other blocks does, with the entries it adds to the log. -/
structure ReadFrom (device : Device) (blocks : List RegisterBlock) (s s' : ProfileState)
    (new : List LogEntry) : Prop where
  log : s'.log = s.log ++ new
  metadata : s'.metadata = s.metadata
  cachedBlocks : s'.cachedBlocks = s.cachedBlocks
  blocks : ∀ entry ∈ new, ∃ block ∈ blocks, block.cache = false ∧ entry.1 = block.request
  answers : ∀ entry ∈ new, ∃ n, entry.2 = device n entry.1

/-- A telemetry block is asked for at every poll, and raises if it is not optional. -/
theorem exec_readTelemetry (device : Device) (words : WordMap) (block : RegisterBlock)
    (s : ProfileState) : exec (readTelemetry device words block) s =
      if block.cache then (.ok words, s)
      else
        (match device s.log.length block.request with
          | .ok reply => .ok (words.store block.function block.address reply)
          | .error e => if block.optional then .ok words else .error e,
          { s with log := s.log ++ [s.asked device block.request] }) := by
  rw [readTelemetry]
  cases block.cache with
  | true => rfl
  | false =>
      rw [if_neg Bool.false_ne_true, if_neg Bool.false_ne_true, exec_bind]
      rw [exec_readRegisters]
      dsimp only
      cases device s.log.length block.request with
      | ok words => rfl
      | error e => cases block.optional <;> rfl

theorem ReadFrom.refl (blocks : List RegisterBlock) (s : ProfileState) :
    ReadFrom device blocks s s [] where
  log := (List.append_nil _).symm
  metadata := rfl
  cachedBlocks := rfl
  blocks := fun _ h => absurd h List.not_mem_nil
  answers := fun _ h => absurd h List.not_mem_nil

/-- What is read in two parts. -/
theorem ReadFrom.trans {blocks : List RegisterBlock} (h : ReadFrom device blocks s s' new)
    (h' : ReadFrom device blocks s' s'' new') : ReadFrom device blocks s s'' (new ++ new') where
  log := by rw [h'.log, h.log, List.append_assoc]
  metadata := h'.metadata.trans h.metadata
  cachedBlocks := h'.cachedBlocks.trans h.cachedBlocks
  blocks := fun entry hentry => (List.mem_append.mp hentry).elim (h.blocks entry) (h'.blocks entry)
  answers := fun entry hentry =>
    (List.mem_append.mp hentry).elim (h.answers entry) (h'.answers entry)

/-- A turn of the loop. -/
theorem readTelemetry_spec (device : Device) {blocks : List RegisterBlock} {block : RegisterBlock}
    (hblock : block ∈ blocks) (words : WordMap) (s : ProfileState) :
    ∃ new, ReadFrom device blocks s (exec (readTelemetry device words block) s).2 new ∧
      ∀ words', (exec (readTelemetry device words block) s).1 = .ok words' →
        words' = words.absorb (successes new) := by
  rw [exec_readTelemetry]
  split
  next => exact ⟨[], ReadFrom.refl blocks s, fun words' h => (Except.ok.inj h).symm⟩
  next hcache =>
    refine ⟨[s.asked device block.request], ?_, ?_⟩
    · exact {
        log := rfl
        metadata := rfl
        cachedBlocks := rfl
        blocks := fun entry hentry => by
          rw [List.mem_singleton.mp hentry]
          exact ⟨block, hblock, by simpa using hcache, rfl⟩
        answers := fun entry hentry => by
          rw [List.mem_singleton.mp hentry]
          exact ⟨s.log.length, rfl⟩ }
    · intro words' hwords'
      cases hreply : device s.log.length block.request with
      | ok reply =>
          have hsuccess : successes [s.asked device block.request] = [(block.request, reply)] := by
            simp [successes, ProfileState.asked, hreply, Except.toOption]
          rw [hreply] at hwords'
          rw [hsuccess, ← Except.ok.inj hwords']
          rfl
      | error e =>
          have hnone : successes [s.asked device block.request] = [] := by
            simp [successes, ProfileState.asked, hreply, Except.toOption]
          simp only [hreply] at hwords'
          split at hwords'
          · rw [hnone, ← Except.ok.inj hwords', WordMap.absorb_nil]
          · cases hwords'

/-- **Run lemma.**  The words of a poll are those of the metadata and all successes since. -/
theorem readBlocks_spec (device : Device) {blocks all : List RegisterBlock}
    (hblocks : ∀ block ∈ blocks, block ∈ all) (words : WordMap) (s : ProfileState) :
    ∃ new, ReadFrom device all s (exec (blocks.foldlM (readTelemetry device) words) s).2 new ∧
      ∀ words', (exec (blocks.foldlM (readTelemetry device) words) s).1 = .ok words' →
        words' = words.absorb (successes new) := by
  induction blocks generalizing words s with
  | nil => exact ⟨[], ReadFrom.refl all s, fun words' h => (Except.ok.inj h).symm⟩
  | cons block blocks ih =>
      obtain ⟨new, hnew, hwords⟩ :=
        readTelemetry_spec device (hblocks block List.mem_cons_self) words s
      rw [List.foldlM_cons, exec_bind]
      generalize exec (readTelemetry device words block) s = out at hnew hwords ⊢
      obtain ⟨r, t⟩ := out
      cases r with
      | error e => exact ⟨new, hnew, fun words' h => by cases h⟩
      | ok read =>
          obtain ⟨later, hlater, hrest⟩ :=
            ih (fun b hb => hblocks b (List.mem_cons_of_mem block hb)) read t
          refine ⟨new ++ later, hnew.trans hlater, fun words' h => ?_⟩
          rw [hrest words' h, hwords read rfl, successes_append, WordMap.absorb_append]

end Loops

/-! ## polls -/

/-- What a poll returns of the words it has. -/
def pollValues (spec : DeviceProfileSpec) (firmware : String) (words : WordMap) :
    Except PyException (List RegisterValue) := do
  let named ← decodeNamed spec words none firmware
  return wordValues words ++ named ++ deriveRegisterValues spec.name named

section Poll

variable (device : Device) (spec : DeviceProfileSpec) (firmware : String) (s : ProfileState)

/-- The profile once the cached blocks are read. -/
def afterMetadata : ProfileState := (exec (loadMetadata device spec) s).2

/-- What a poll has sent for the cached blocks, with the answers. -/
def metadataLog : List LogEntry := (afterMetadata device spec s).log.drop s.log.length

/-- The profile after a poll, successful or not. -/
def afterPoll : ProfileState := (exec (poll device spec firmware) s).2

/-- What a poll has sent for the other blocks, with the answers. -/
def telemetryLog : List LogEntry :=
  (afterPoll device spec firmware s).log.drop (afterMetadata device spec s).log.length

/-- What a poll has sent, with the answers. -/
def pollLog : List LogEntry := metadataLog device spec s ++ telemetryLog device spec firmware s

/-- A poll is metadata, telemetry and the values of all words. -/
theorem exec_poll : exec (poll device spec firmware) s =
    match exec (loadMetadata device spec) s with
    | (.error e, t) => (.error e, t)
    | (.ok _, t) =>
        match effectiveItems RegisterBlock.toFirmwareGate firmware spec.blocks with
        | .error e => (.error e, t)
        | .ok blocks =>
            match exec (blocks.foldlM (readTelemetry device) t.metadata) t with
            | (.error e, u) => (.error e, u)
            | (.ok words, u) => (pollValues spec firmware words, u) := by
  rw [poll, exec_bind]
  generalize exec (loadMetadata device spec) s = out
  obtain ⟨r, t⟩ := out
  cases r with
  | error e => rfl
  | ok u =>
      dsimp only
      rw [exec_bind, exec_get]
      dsimp only
      rw [exec_bind, exec_ofResult]
      cases effectiveItems RegisterBlock.toFirmwareGate firmware spec.blocks with
      | error e => rfl
      | ok blocks =>
          dsimp only
          rw [exec_bind]
          generalize exec (blocks.foldlM (readTelemetry device) t.metadata) t = out
          obtain ⟨r, v⟩ := out
          cases r with
          | error e => rfl
          | ok words =>
              dsimp only
              rw [exec_bind, exec_ofResult, pollValues]
              cases decodeNamed spec words none firmware <;> rfl

/-- The log only grows, so what is new can be read off it. -/
theorem drop_log {t u : ProfileState} {new : List LogEntry} (h : u.log = t.log ++ new) :
    u.log.drop t.log.length = new := by
  rw [h, List.drop_left]

/-- The reads of the metadata part. -/
theorem metadataLog_spec :
    LoadedFrom device spec s (afterMetadata device spec s) (metadataLog device spec s) := by
  obtain ⟨new, hnew, -⟩ := loadMetadata_spec device spec s
  have hlog : metadataLog device spec s = new := drop_log hnew.log
  exact hlog ▸ hnew

/-- Where no read of a cached block failed, all of them are cached. -/
theorem afterMetadata_cached (h : NoneFailed (metadataLog device spec s)) :
    (exec (loadMetadata device spec) s).1 = .ok () ∧
      ∀ block ∈ spec.blocks, block.cache = true →
        block.key ∈ (afterMetadata device spec s).cachedBlocks := by
  obtain ⟨new, hnew, hall⟩ := loadMetadata_spec device spec s
  have hlog : metadataLog device spec s = new := drop_log hnew.log
  exact hall (hlog ▸ h)

/-- The part of a poll that follows: it reads blocks that apply to the firmware. -/
theorem poll_spec : ∃ read,
    ReadFrom device spec.blocks (afterMetadata device spec s) (afterPoll device spec firmware s) read ∧
      (∀ entry ∈ read, ∃ blocks,
        effectiveItems RegisterBlock.toFirmwareGate firmware spec.blocks = .ok blocks ∧
          ∃ block ∈ blocks, block.cache = false ∧ entry.1 = block.request) ∧
      ∀ values, (exec (poll device spec firmware) s).1 = .ok values →
        pollValues spec firmware
          ((afterMetadata device spec s).metadata.absorb (successes read)) = .ok values := by
  rw [afterPoll, exec_poll, afterMetadata]
  generalize exec (loadMetadata device spec) s = out
  obtain ⟨r, t⟩ := out
  cases r with
  | error e => exact ⟨[], ReadFrom.refl _ t, by simp, by simp⟩
  | ok u =>
      dsimp only
      cases heffective : effectiveItems RegisterBlock.toFirmwareGate firmware spec.blocks with
      | error e => exact ⟨[], ReadFrom.refl _ t, by simp, by simp⟩
      | ok blocks =>
          dsimp only
          obtain ⟨read, hread, hwords⟩ :=
            readBlocks_spec device (fun block (h : block ∈ blocks) => h) t.metadata t
          have hall : ReadFrom device spec.blocks t
              (exec (blocks.foldlM (readTelemetry device) t.metadata) t).2 read :=
            { hread with
              blocks := fun entry hentry => by
                obtain ⟨block, hblock, hrest⟩ := hread.blocks entry hentry
                exact ⟨block, (effectiveItems_sublist heffective).subset hblock, hrest⟩ }
          have heach : ∀ entry ∈ read, ∃ blocks',
              (.ok blocks : Except PyException (List RegisterBlock)) = .ok blocks' ∧
                ∃ block ∈ blocks', block.cache = false ∧ entry.1 = block.request :=
            fun entry hentry => ⟨blocks, rfl, hread.blocks entry hentry⟩
          generalize exec (blocks.foldlM (readTelemetry device) t.metadata) t = out at hall hwords ⊢
          obtain ⟨r, v⟩ := out
          cases r with
          | error e => exact ⟨read, hall, heach, by simp⟩
          | ok words =>
              refine ⟨read, hall, heach, fun values hvalues => ?_⟩
              rw [← hwords words rfl]
              exact hvalues

variable {device spec firmware s}

/-- And of the telemetry part. -/
theorem telemetryLog_spec : ReadFrom device spec.blocks (afterMetadata device spec s)
    (afterPoll device spec firmware s) (telemetryLog device spec firmware s) := by
  obtain ⟨read, hread, -⟩ := poll_spec device spec firmware s
  rw [telemetryLog, drop_log hread.log]
  exact hread

/-- A telemetry read is of a block that applies and is not cached. -/
theorem telemetryLog_effective {entry : LogEntry}
    (h : entry ∈ telemetryLog device spec firmware s) : ∃ blocks,
      effectiveItems RegisterBlock.toFirmwareGate firmware spec.blocks = .ok blocks ∧
        ∃ block ∈ blocks, block.cache = false ∧ entry.1 = block.request := by
  obtain ⟨read, hread, heach, -⟩ := poll_spec device spec firmware s
  rw [telemetryLog, drop_log hread.log] at h
  exact heach entry h

/-- What a poll returns is of the words kept and the words read. -/
theorem poll_values {values : List RegisterValue}
    (h : (exec (poll device spec firmware) s).1 = .ok values) :
    pollValues spec firmware (s.metadata.absorb (successes (pollLog device spec firmware s))) =
      .ok values := by
  obtain ⟨read, hread, -, hvalues⟩ := poll_spec device spec firmware s
  have htelemetry : telemetryLog device spec firmware s = read := drop_log hread.log
  rw [pollLog, successes_append, WordMap.absorb_append, htelemetry,
    ← (metadataLog_spec device spec s).metadata]
  exact hvalues values h

end Poll

/-! ## runs of polls -/

section Runs

variable (device : Device) (spec : DeviceProfileSpec)

/-- The profile after polls, successful or not. -/
def afterPolls : List String → ProfileState → ProfileState
  | [], s => s
  | firmware :: firmwares, s => afterPolls firmwares (afterPoll device spec firmware s)

/-- The successful reads of cached blocks over polls. -/
def keptReads : List String → ProfileState → List BlockRead
  | [], _ => []
  | firmware :: firmwares, s =>
      successes (metadataLog device spec s) ++
        keptReads firmwares (afterPoll device spec firmware s)

/-- What is kept over polls: the words of those reads, each block read once. -/
structure KeptFrom (s s' : ProfileState) (reads : List BlockRead) : Prop where
  metadata : s'.metadata = s.metadata.absorb reads
  cachedBlocks : s'.cachedBlocks = s.cachedBlocks ++ reads.map fun read => read.1.key
  blocks : ∀ read ∈ reads, ∃ block ∈ spec.blocks, block.cache ∧ read.1 = block.request
  answers : ∀ read ∈ reads, ∃ n, device n read.1 = .ok read.2
  nodup : s.cachedBlocks.Nodup → s'.cachedBlocks.Nodup

/-- **Run lemma.**  Over any number of polls the cache holds what was kept. -/
theorem afterPolls_kept (firmwares : List String) (s : ProfileState) :
    KeptFrom device spec s (afterPolls device spec firmwares s)
      (keptReads device spec firmwares s) := by
  induction firmwares generalizing s with
  | nil =>
      exact {
        metadata := rfl
        cachedBlocks := (List.append_nil _).symm
        blocks := fun _ h => absurd h List.not_mem_nil
        answers := fun _ h => absurd h List.not_mem_nil
        nodup := id }
  | cons firmware firmwares ih =>
      have hloaded := metadataLog_spec device spec s
      have hread : ReadFrom device spec.blocks (afterMetadata device spec s)
          (afterPoll device spec firmware s) (telemetryLog device spec firmware s) :=
        telemetryLog_spec
      have hlater := ih (afterPoll device spec firmware s)
      exact {
        metadata := by
          rw [afterPolls, hlater.metadata, hread.metadata, hloaded.metadata, keptReads,
            WordMap.absorb_append]
        cachedBlocks := by
          rw [afterPolls, hlater.cachedBlocks, hread.cachedBlocks, hloaded.cachedBlocks, keptReads,
            List.map_append, List.append_assoc]
        blocks := by
          intro read hmem
          cases List.mem_append.mp hmem with
          | inl hhere =>
              obtain ⟨block, hblock, hcache, hrequest, -⟩ :=
                hloaded.blocks _ (mem_successes.mp hhere)
              exact ⟨block, hblock, hcache, hrequest⟩
          | inr hrest => exact hlater.blocks read hrest
        answers := by
          intro read hmem
          cases List.mem_append.mp hmem with
          | inl hhere =>
              obtain ⟨n, hn⟩ := hloaded.answers _ (mem_successes.mp hhere)
              exact ⟨n, hn.symm⟩
          | inr hrest => exact hlater.answers read hrest
        nodup := fun hs => hlater.nodup (by rw [hread.cachedBlocks]; exact hloaded.nodup hs) }

end Runs

/-! ## the words of values -/

section Values

variable {spec : DeviceProfileSpec} {firmware : String} {words words' : WordMap}

/-- The words of a register, where none is missing. -/
theorem registerRaw_getElem? {register : RegisterSpec}
    (h : (registerRaw words register).length = register.words) {i word : Nat}
    (hi : (registerRaw words register)[i]? = some word) :
    words.context register.function (register.address + i) = some word := by
  have hall : ∀ (n address i : Nat) (f : Nat → Option Nat),
      ((List.range' address n).filterMap f).length = n →
        ((List.range' address n).filterMap f)[i]? = some word → f (address + i) = some word := by
    intro n
    induction n with
    | zero => intro address i f _ hi; simp at hi
    | succ n ih =>
        intro address i f hlength hi
        rw [List.range'_succ] at hlength hi
        have hle := List.length_filterMap_le f (List.range' (address + 1) n)
        rw [List.length_range'] at hle
        cases hf : f address with
        | none =>
            rw [List.filterMap_cons_none hf] at hlength
            omega
        | some first =>
            rw [List.filterMap_cons_some hf] at hlength hi
            cases i with
            | zero => simpa [hf] using hi
            | succ i =>
                have hlater := ih (address + 1) i f (by simpa using hlength) (by simpa using hi)
                rwa [show address + (i + 1) = address + 1 + i by omega]
  exact hall register.words register.address i _ h hi

/-- A named value is of a register that applies to the firmware and whose words are there. -/
theorem mem_decodeNamed {category : Option RegisterCategory} {named : List RegisterValue}
    {v : RegisterValue} (h : decodeNamed spec words category firmware = .ok named)
    (hv : v ∈ named) : ∃ registers,
      effectiveItems RegisterSpec.toFirmwareGate firmware spec.registers = .ok registers ∧
        ∃ register ∈ registers, (registerRaw words register).length = register.words ∧
          ∃ value, v = registerValue register (registerRaw words register) value := by
  simp only [decodeNamed, Loop.bind_eq_ok, Loop.pure_eq_ok, Except.ok.injEq] at h
  obtain ⟨registers, hregisters, decoded, hdecoded, rfl⟩ := h
  obtain ⟨register, hregister, hvalue⟩ := Loop.mem_mapM hdecoded (List.reduceOption_mem_iff.mp hv)
  refine ⟨registers, hregisters, register, List.mem_of_mem_filter hregister, ?_⟩
  rw [decodeNamedRegister] at hvalue
  split at hvalue
  next => cases hvalue
  next hlength =>
    simp only [Loop.bind_eq_ok, Loop.pure_eq_ok, Except.ok.injEq, Option.some.injEq] at hvalue
    obtain ⟨value, -, rfl⟩ := hvalue
    exact ⟨not_not.mp hlength, value, rfl⟩

/-- A derived value shows the words of a named one. -/
theorem raw_deriveRegisterValues {profileName : String} {named : List RegisterValue}
    {v : RegisterValue} (h : v ∈ deriveRegisterValues profileName named) :
    ∃ u ∈ named, v.raw = u.raw := by
  rw [deriveRegisterValues] at h
  split at h
  next => cases h
  next =>
    split at h
    next register _ hregister _ =>
      have hmem : register ∈ named := List.mem_reverse.mp (List.mem_of_find?_eq_some hregister)
      refine ⟨register, hmem, ?_⟩
      grind
    next => cases h

/-- A value, or the one that it was derived from, has the words under its own addresses. -/
theorem pollValues_words (hwords : Keyed Prod.fst words) {values : List RegisterValue}
    (h : pollValues spec firmware words = .ok values) {v : RegisterValue} (hv : v ∈ values) :
    ∃ u ∈ values, v.raw = u.raw ∧ ∀ i word, u.raw[i]? = some word →
      words.lookup (u.function, u.address + i) = some word := by
  simp only [pollValues, Loop.bind_eq_ok, Loop.pure_eq_ok, Except.ok.injEq] at h
  obtain ⟨named, hnamed, rfl⟩ := h
  have hown : ∀ u ∈ named, ∀ i word, u.raw[i]? = some word →
      words.lookup (u.function, u.address + i) = some word := by
    intro u hu i word hword
    obtain ⟨registers, -, register, -, hlength, value, rfl⟩ := mem_decodeNamed hnamed hu
    exact registerRaw_getElem? hlength hword
  rw [List.mem_append, List.mem_append] at hv
  obtain (hv | hv) | hv := hv
  · refine ⟨v, by simp [hv], rfl, fun i word hword => ?_⟩
    obtain ⟨⟨key, w⟩, hentry, rfl⟩ := List.mem_map.mp hv
    rw [WordMap.sorted, mem_orderBy, mem_iff_lookup_eq hwords] at hentry
    cases i with
    | zero =>
        obtain rfl : w = word := by simpa [wordValue] using hword
        exact hentry
    | succ i => simp [wordValue] at hword
  · exact ⟨v, by simp [hv], rfl, hown v hv⟩
  · obtain ⟨u, hu, hraw⟩ := raw_deriveRegisterValues hv
    exact ⟨u, by simp [hu], hraw, hown u hu⟩

/-- Keys of words are ordered without ties. -/
theorem rank_injective : Function.Injective WordMap.rank := by
  intro key key' h
  obtain ⟨function, address⟩ := key
  obtain ⟨function', address'⟩ := key'
  have hpair := toLex.injective h
  cases function <;> cases function' <;> simp_all

/-- What a poll returns depends on what is looked up. -/
theorem pollValues_congr (hwords : Keyed Prod.fst words) (hwords' : Keyed Prod.fst words')
    (h : ∀ key, words.lookup key = words'.lookup key) :
    pollValues spec firmware words = pollValues spec firmware words' := by
  have hcontext : ∀ function, words.context function = words'.context function :=
    fun function => funext fun address => h (function, address)
  have hkeyed : Keyed (fun entry : WordKey × Nat => WordMap.rank entry.1) words' := by
    rw [Keyed, ← Function.comp_def WordMap.rank, ← List.map_map]
    exact List.Nodup.map rank_injective hwords'
  have hsorted : words.sorted = words'.sorted :=
    orderBy_eq_of_perm hkeyed (perm_of_lookup hwords hwords' h)
  have hdecode : decodeNamedRegister words = decodeNamedRegister words' := funext fun register => by
    have hraw : registerRaw words register = registerRaw words' register := by
      rw [registerRaw, registerRaw, hcontext]
    simp only [decodeNamedRegister, hraw, hcontext]
  simp only [pollValues, decodeNamed, hdecode, wordValues, hsorted]

end Values

/-! ## blocks and their words -/

section Blocks

variable (device : Device) (spec : DeviceProfileSpec) (firmware : String)

/-- What a poll has sent for a block, with the answers. -/
def blockLog (s : ProfileState) (block : RegisterBlock) : List LogEntry :=
  (if block.cache then metadataLog device spec s else telemetryLog device spec firmware s).filter
    fun entry => entry.1 = block.request

/-- The first successful read of a cached block. -/
def firstRead (earlier : List BlockRead) (block : RegisterBlock) : Option BlockRead :=
  earlier.find? fun read => read.1 = block.request

/-- A block has a word for a poll: it was read in this poll, or it is a cached block and the word
is of its first read. -/
inductive Contributes (earlier : List BlockRead) (s : ProfileState) (block : RegisterBlock)
    (key : WordKey) (word : Nat) : Prop
  | read (reply : List Nat) : (block.request, .ok reply) ∈ blockLog device spec firmware s block →
      BlockRead.Has (block.request, reply) key word → Contributes earlier s block key word
  | kept (read : BlockRead) : block.cache = true → firstRead earlier block = some read →
      read.Has key word → Contributes earlier s block key word

/-- The reads of a block in a poll failed. -/
def BlockFailed (s : ProfileState) (block : RegisterBlock) : Prop :=
  blockLog device spec firmware s block ≠ [] ∧
    ∀ entry ∈ blockLog device spec firmware s block, entry.2.isOk = false

variable {device spec firmware} {earlier : List BlockRead} {s : ProfileState}

/-- A block is read once for the profile. -/
theorem firstRead_eq (hs : KeptFrom device spec {} s earlier) {read : BlockRead}
    {block : RegisterBlock} (hread : read ∈ earlier) (hrequest : read.1 = block.request) :
    firstRead earlier block = some read := by
  have hnodup : (earlier.map fun read => read.1.key).Nodup := by
    have h := hs.nodup List.nodup_nil
    rwa [hs.cachedBlocks, List.nil_append] at h
  obtain ⟨first, hfirst⟩ : ∃ first, firstRead earlier block = some first :=
    Option.isSome_iff_exists.mp (List.find?_isSome.mpr ⟨read, hread, by simpa using hrequest⟩)
  have hsame : first.1 = block.request := by simpa using List.find?_some hfirst
  rw [hfirst, List.inj_on_of_nodup_map hnodup (List.mem_of_find?_eq_some hfirst) hread
    (by rw [hsame, hrequest])]

/-- Every word that a poll has is of one of its blocks. -/
theorem exists_contributes (hs : KeptFrom device spec {} s earlier) {key : WordKey} {word : Nat}
    (h : (s.metadata.absorb (successes (pollLog device spec firmware s))).lookup key = some word) :
    ∃ block ∈ spec.blocks, Contributes device spec firmware earlier s block key word := by
  cases WordMap.lookup_absorb h with
  | inl hhere =>
      obtain ⟨read, hread, hhas⟩ := hhere
      rw [pollLog, successes_append, List.mem_append, mem_successes, mem_successes] at hread
      cases hread with
      | inl hloaded =>
          obtain ⟨block, hblock, hcache, hrequest, -⟩ :=
            (metadataLog_spec device spec s).blocks _ hloaded
          refine ⟨block, hblock, .read read.2 ?_ (hrequest ▸ hhas)⟩
          rw [blockLog, if_pos hcache, List.mem_filter]
          exact ⟨hrequest ▸ hloaded, by simp⟩
      | inr hread =>
          obtain ⟨block, hblock, hcache, hrequest⟩ := telemetryLog_spec.blocks _ hread
          refine ⟨block, hblock, .read read.2 ?_ (hrequest ▸ hhas)⟩
          rw [blockLog, if_neg (by simp [hcache]), List.mem_filter]
          exact ⟨hrequest ▸ hread, by simp⟩
  | inr hkept =>
      rw [hs.metadata] at hkept
      cases WordMap.lookup_absorb hkept with
      | inl hearlier =>
          obtain ⟨read, hread, hhas⟩ := hearlier
          obtain ⟨block, hblock, hcache, hrequest⟩ := hs.blocks read hread
          exact ⟨block, hblock, .kept read hcache (firstRead_eq hs hread hrequest) hhas⟩
      | inr hnothing => cases hnothing

/-- A block whose reads failed has no words for the poll. -/
theorem BlockFailed.not_contributes (hs : KeptFrom device spec {} s earlier) {block : RegisterBlock}
    (h : BlockFailed device spec firmware s block) (key : WordKey) (word : Nat) :
    ¬ Contributes device spec firmware earlier s block key word := by
  intro hword
  cases hword with
  | read reply hentry => exact absurd (h.2 _ hentry) (by simp [Except.isOk, Except.toBool])
  | kept read hcache hfirst =>
      obtain ⟨entry, hentry⟩ := List.exists_mem_of_ne_nil _ h.1
      rw [blockLog, if_pos hcache, List.mem_filter, decide_eq_true_eq] at hentry
      obtain ⟨other, -, -, hrequest, hkey⟩ := (metadataLog_spec device spec s).blocks _ hentry.1
      have hread := List.mem_of_find?_eq_some hfirst
      have hsame : read.1 = block.request := by simpa using List.find?_some hfirst
      refine hkey ?_
      rw [hs.cachedBlocks, List.nil_append, List.mem_map]
      exact ⟨read, hread, by rw [hsame, ← hentry.2, hrequest]; rfl⟩

end Blocks

/-! ## cached blocks that do not change -/

/-- The words of a request, out of the memory of a device. -/
def memoryWords (memory : WordKey → Nat) (request : ReadRequest) : List Nat :=
  (List.range request.count).map fun i => memory (request.function, request.address + i)

/-- The cached blocks do not change: a read of one, where it does not fail, answers their words. -/
def SteadyCache (memory : WordKey → Nat) (spec : DeviceProfileSpec) (device : Device) : Prop :=
  ∀ block ∈ spec.blocks, block.cache = true → ∀ n words,
    device n block.request = .ok words → words = memoryWords memory block.request

/-- Two dictionaries of the same words. -/
structure SameWords (words words' : WordMap) : Prop where
  left : Keyed Prod.fst words
  right : Keyed Prod.fst words'
  lookup : ∀ key, words.lookup key = words'.lookup key

/-- Two devices that answer alike from now on, each at its own time. -/
def SameAnswers (device device' : Device) (s s' : ProfileState) : Prop :=
  ∀ i request, device (s.log.length + i) request = device' (s'.log.length + i) request

section Steady

variable {device device' : Device} {spec : DeviceProfileSpec} {memory : WordKey → Nat}
  {words words' : WordMap}

/-- The same reply is stored alike. -/
theorem SameWords.store (h : SameWords words words') (function : RegisterFunction) (address : Nat)
    (reply : List Nat) :
    SameWords (words.store function address reply) (words'.store function address reply) := by
  rw [WordMap.store, WordMap.store]
  generalize reply.zipIdx = entries
  induction entries generalizing words words' with
  | nil => exact h
  | cons entry entries ih =>
      refine ih ⟨WordMap.keyed_set h.left _ _, WordMap.keyed_set h.right _ _, fun key => ?_⟩
      rw [WordMap.lookup_set, WordMap.lookup_set, h.lookup]

/-- Devices that answer alike are read alike. -/
theorem readTelemetry_sameWords (h : SameWords words words') (block : RegisterBlock) :
    Relates (SameAnswers device device') SameWords (readTelemetry device words block)
      (readTelemetry device' words' block) := by
  intro s s' hanswers
  have hreply : device s.log.length block.request = device' s'.log.length block.request :=
    hanswers 0 block.request
  have hlater : SameAnswers device device'
      { s with log := s.log ++ [s.asked device block.request] }
      { s' with log := s'.log ++ [s'.asked device' block.request] } := by
    intro i request
    simpa [Nat.add_assoc, Nat.add_comm 1 i] using hanswers (i + 1) request
  rw [exec_readTelemetry, exec_readTelemetry, hreply]
  split
  next => exact ⟨h, hanswers⟩
  next =>
    refine ⟨?_, hlater⟩
    cases device' s'.log.length block.request with
    | ok reply => exact h.store block.function block.address reply
    | error e =>
        cases block.optional with
        | true => exact h
        | false => exact rfl

/-- What is kept of cached blocks that do not change. -/
theorem lookup_absorb_steady {reads : List BlockRead}
    (hreads : ∀ read ∈ reads, read.2 = memoryWords memory read.1) {key : WordKey} {word : Nat} :
    (WordMap.absorb [] reads).lookup key = some word ↔
      word = memory key ∧
        ∃ read ∈ reads, ∃ i < read.1.count, key = (read.1.function, read.1.address + i) := by
  have hhas : ∀ read ∈ reads, ∀ i w, read.2[i]? = some w →
      i < read.1.count ∧ w = memory (read.1.function, read.1.address + i) := by
    intro read hread i w hw
    rw [hreads read hread, memoryWords, List.getElem?_map, Option.map_eq_some_iff] at hw
    obtain ⟨j, hj, rfl⟩ := hw
    obtain ⟨hlt, rfl⟩ := List.getElem?_eq_some_iff.mp hj
    simpa using hlt
  constructor
  · intro h
    cases WordMap.lookup_absorb h with
    | inl hread =>
        obtain ⟨read, hread, i, hw, rfl⟩ := hread
        obtain ⟨hi, rfl⟩ := hhas read hread i word hw
        exact ⟨rfl, read, hread, i, hi, rfl⟩
    | inr hnothing => cases hnothing
  · intro h
    obtain ⟨rfl, read, hread, i, hi, rfl⟩ := h
    have hword : BlockRead.Has read (read.1.function, read.1.address + i)
        (memory (read.1.function, read.1.address + i)) := by
      refine ⟨i, ?_, rfl⟩
      simp [hreads read hread, memoryWords, hi]
    obtain ⟨word, hlookup⟩ :=
      Option.isSome_iff_exists.mp (@WordMap.isSome_lookup_absorb [] _ _ _ _ hread hword)
    cases WordMap.lookup_absorb hlookup with
    | inl hlater =>
        obtain ⟨later, hlater, j, hw, hkey⟩ := hlater
        rw [hlookup, hkey, (hhas later hlater j word hw).2]
    | inr hnothing => cases hnothing

/-- What is kept of the cached blocks, once all of them are read. -/
theorem lookup_afterMetadata {s : ProfileState} {earlier : List BlockRead}
    (hs : KeptFrom device spec {} s earlier) (hsteady : SteadyCache memory spec device)
    (hfine : NoneFailed (metadataLog device spec s)) {key : WordKey} {word : Nat} :
    (afterMetadata device spec s).metadata.lookup key = some word ↔
      word = memory key ∧ ∃ block ∈ spec.blocks, block.cache = true ∧
        ∃ i < block.count, key = (block.function, block.address + i) := by
  obtain ⟨reads, hreads⟩ : ∃ reads, reads = earlier ++ successes (metadataLog device spec s) :=
    ⟨_, rfl⟩
  have hloaded := metadataLog_spec device spec s
  have hmetadata : (afterMetadata device spec s).metadata = WordMap.absorb [] reads := by
    rw [hloaded.metadata, hs.metadata, hreads, WordMap.absorb_append]
  have hblocks : ∀ read ∈ reads, ∃ block ∈ spec.blocks, block.cache = true ∧
      read.1 = block.request ∧ ∃ n, device n read.1 = .ok read.2 := by
    intro read hread
    rw [hreads, List.mem_append, mem_successes] at hread
    cases hread with
    | inl hearlier =>
        obtain ⟨block, hblock, hcache, hrequest⟩ := hs.blocks read hearlier
        exact ⟨block, hblock, hcache, hrequest, hs.answers read hearlier⟩
    | inr hhere =>
        obtain ⟨block, hblock, hcache, hrequest, -⟩ := hloaded.blocks _ hhere
        obtain ⟨n, hn⟩ := hloaded.answers _ hhere
        exact ⟨block, hblock, hcache, hrequest, n, hn.symm⟩
  have hwords : ∀ read ∈ reads, read.2 = memoryWords memory read.1 := by
    intro read hread
    obtain ⟨block, hblock, hcache, hrequest, n, hn⟩ := hblocks read hread
    rw [hrequest] at hn ⊢
    exact hsteady block hblock hcache n read.2 hn
  have hall : ∀ block ∈ spec.blocks, block.cache = true → ∃ read ∈ reads,
      read.1 = block.request := by
    intro block hblock hcache
    have hkey := (afterMetadata_cached device spec s hfine).2 block hblock hcache
    rw [hloaded.cachedBlocks, hs.cachedBlocks, List.nil_append, ← List.map_append, ← hreads,
      List.mem_map] at hkey
    obtain ⟨read, hread, hkey⟩ := hkey
    exact ⟨read, hread, ReadRequest.key_injective hkey⟩
  rw [hmetadata, lookup_absorb_steady hwords]
  constructor
  · intro h
    obtain ⟨hword, read, hread, i, hi, hkey⟩ := h
    obtain ⟨block, hblock, hcache, hrequest, -⟩ := hblocks read hread
    rw [hrequest] at hi hkey
    exact ⟨hword, block, hblock, hcache, i, hi, hkey⟩
  · intro h
    obtain ⟨hword, block, hblock, hcache, i, hi, hkey⟩ := h
    obtain ⟨read, hread, hrequest⟩ := hall block hblock hcache
    exact ⟨hword, read, hread, i, hrequest ▸ hi, hrequest ▸ hkey⟩

/-- The words that telemetry starts from are keyed. -/
theorem keyed_afterMetadata {s : ProfileState} {earlier : List BlockRead}
    (hs : KeptFrom device spec {} s earlier) :
    Keyed Prod.fst (afterMetadata device spec s).metadata := by
  rw [(metadataLog_spec device spec s).metadata, hs.metadata]
  exact WordMap.keyed_absorb (WordMap.keyed_absorb (keyed_nil _) _) _

/-- What two profiles have kept, once all cached blocks are read. -/
theorem sameWords_afterMetadata {s s' : ProfileState} {earlier earlier' : List BlockRead}
    (hs : KeptFrom device spec {} s earlier) (hs' : KeptFrom device' spec {} s' earlier')
    (hsteady : SteadyCache memory spec device) (hsteady' : SteadyCache memory spec device')
    (hfine : NoneFailed (metadataLog device spec s))
    (hfine' : NoneFailed (metadataLog device' spec s')) :
    SameWords (afterMetadata device spec s).metadata (afterMetadata device' spec s').metadata where
  left := keyed_afterMetadata hs
  right := keyed_afterMetadata hs'
  lookup := fun key => Option.ext fun word => by
    rw [lookup_afterMetadata hs hsteady hfine, lookup_afterMetadata hs' hsteady' hfine']

/-- Two polls whose cached blocks are read and the same. -/
theorem poll_steady {s s' : ProfileState} {earlier earlier' : List BlockRead} (firmware : String)
    (hs : KeptFrom device spec {} s earlier) (hs' : KeptFrom device' spec {} s' earlier')
    (hsteady : SteadyCache memory spec device) (hsteady' : SteadyCache memory spec device')
    (hfine : NoneFailed (metadataLog device spec s))
    (hfine' : NoneFailed (metadataLog device' spec s'))
    (hanswers : SameAnswers device device' (afterMetadata device spec s)
      (afterMetadata device' spec s')) :
    (exec (poll device spec firmware) s).1 = (exec (poll device' spec firmware) s').1 := by
  have hsame := sameWords_afterMetadata hs hs' hsteady hsteady' hfine hfine'
  have hok := (afterMetadata_cached device spec s hfine).1
  have hok' := (afterMetadata_cached device' spec s' hfine').1
  rw [exec_poll, exec_poll]
  rw [afterMetadata, afterMetadata] at hsame hanswers
  generalize exec (loadMetadata device spec) s = out at hsame hanswers hok ⊢
  generalize exec (loadMetadata device' spec) s' = out' at hsame hanswers hok' ⊢
  obtain ⟨r, t⟩ := out
  obtain ⟨r', t'⟩ := out'
  obtain rfl : r = .ok () := hok
  obtain rfl : r' = .ok () := hok'
  dsimp only
  cases effectiveItems RegisterBlock.toFirmwareGate firmware spec.blocks with
  | error e => rfl
  | ok blocks =>
      dsimp only
      have hread := (relates_foldlM (f := readTelemetry device) (g := readTelemetry device') blocks
        (fun words words' hwords block _ => readTelemetry_sameWords hwords block) hsame t t'
        hanswers).1
      generalize exec (blocks.foldlM (readTelemetry device) t.metadata) t = out at hread ⊢
      generalize exec (blocks.foldlM (readTelemetry device') t'.metadata) t' = out' at hread ⊢
      obtain ⟨r, u⟩ := out
      obtain ⟨r', u'⟩ := out'
      obtain ⟨words, words', hr, hr', hwords⟩ | ⟨e, hr, hr'⟩ := hread.cases
      · obtain rfl : r = .ok words := hr
        obtain rfl : r' = .ok words' := hr'
        exact pollValues_congr hwords.left hwords.right hwords.lookup
      · obtain rfl : r = .error e := hr
        obtain rfl : r' = .error e := hr'
        rfl

end Steady

/-- **Polls do not mix reads.**  Every word of a value was read in the poll, or in the first
successful read of a cached block; a block whose reads failed has no words; and where the cached
blocks do not change, a poll is that of a fresh profile. -/
theorem poll_unmixed (device : Device) (spec : DeviceProfileSpec) (firmwares : List String)
    (firmware : String) :
    let s := afterPolls device spec firmwares {}
    let earlier := keptReads device spec firmwares {}
    (∀ values, (exec (poll device spec firmware) s).1 = .ok values → ∀ v ∈ values,
      ∃ u ∈ values, v.raw = u.raw ∧ ∀ i word, u.raw[i]? = some word → ∃ block ∈ spec.blocks,
        Contributes device spec firmware earlier s block (u.function, u.address + i) word) ∧
    (∀ block, BlockFailed device spec firmware s block → ∀ key word,
      ¬ Contributes device spec firmware earlier s block key word) ∧
    ∀ memory device', SteadyCache memory spec device → SteadyCache memory spec device' →
      SameAnswers device device' (afterMetadata device spec s) (afterMetadata device' spec {}) →
      NoneFailed (pollLog device spec firmware s) → NoneFailed (metadataLog device' spec {}) →
      (exec (poll device spec firmware) s).1 = (exec (poll device' spec firmware) {}).1 := by
  have hs := afterPolls_kept device spec firmwares {}
  refine ⟨fun values hvalues v hv => ?_, fun block hfailed => hfailed.not_contributes hs, ?_⟩
  · have hkeyed : Keyed Prod.fst ((afterPolls device spec firmwares {}).metadata.absorb
        (successes (pollLog device spec firmware (afterPolls device spec firmwares {})))) := by
      rw [hs.metadata]
      exact WordMap.keyed_absorb (WordMap.keyed_absorb (keyed_nil _) _) _
    obtain ⟨u, hu, hraw, hwords⟩ := pollValues_words hkeyed (poll_values hvalues) hv
    exact ⟨u, hu, hraw, fun i word hword => exists_contributes hs (hwords i word hword)⟩
  · intro memory device' hsteady hsteady' hanswers hfine hfine'
    have hfine : NoneFailed (metadataLog device spec (afterPolls device spec firmwares {})) :=
      fun entry hentry => hfine entry (List.mem_append_left _ hentry)
    exact poll_steady firmware hs (afterPolls_kept device' spec [] {}) hsteady hsteady' hfine
      hfine' hanswers

/-- A cached block that may be missing, and a block of telemetry. -/
def retrySpec : DeviceProfileSpec where
  name := "metadata-retry-test"
  family := "test"
  blocks := [{ address := 0x10, count := 1, category := .metadata, optional := true, cache := true },
    { address := 0x20, count := 1 }]
  registers := [{ name := "metadata_value", address := 0x10, category := .metadata },
    { name := "telemetry_value", address := 0x20 }]

def retryMemory (key : WordKey) : Nat := if key.2 = 0x10 then 42 else 7

/-- A device that does not answer the first request. -/
def retryDevice : Device := fun n request =>
  if n = 0 then .error ⟨"TimeoutError", "transient"⟩ else .ok (memoryWords retryMemory request)

theorem poll_unmixed_retry :
    (exec (poll retryDevice retrySpec "") (afterPolls retryDevice retrySpec [""] {})).1 =
      (exec (poll (fun _ request => .ok (memoryWords retryMemory request)) retrySpec "") {}).1 := by
  have hlength : (afterMetadata retryDevice retrySpec
      (afterPolls retryDevice retrySpec [""] {})).log.length = 3 := by decide +kernel
  have hsteady : SteadyCache retryMemory retrySpec retryDevice := by
    intro block _ _ n words hwords
    rw [retryDevice] at hwords
    split at hwords
    · cases hwords
    · exact (Except.ok.inj hwords).symm
  refine (poll_unmixed retryDevice retrySpec [""] "").2.2 retryMemory _ hsteady
    (fun _ _ _ _ _ h => (Except.ok.inj h).symm) ?_ ?_ ?_
  · intro i request
    rw [hlength, retryDevice, if_neg (by omega)]
  · unfold NoneFailed
    decide +kernel
  · unfold NoneFailed
    decide +kernel

end MorningstarModbus.Catalog
