import Mathlib.Data.List.ReduceOption
import MorningstarModbus.Catalog.Profile
import MorningstarModbus.Lib.Loop
import MorningstarModbus.Lib.SameBut

/-!
# MorningstarModbus.Catalog.Agreement

Two devices that differ in some words, read by the same profile.

* `SameValue` — the values that two polls may differ in;
* `readMetadata_relates`, `poll_relates` — what is read of registers that look at none of
  those words is the same.
-/

namespace MorningstarModbus.Catalog

open Effects Query Table

/-! ## words -/

/-- The words that a register looks at. -/
def RegisterSpec.reads (register : RegisterSpec) : List WordKey :=
  (List.range' register.address register.words ++ scaleAddresses register.decoder).map
    fun address => (register.function, address)

/-- Replies to one request that differ in the words `P` only. -/
def SameReply (P : WordKey → Prop) (request : ReadRequest) (reply reply' : List Nat) : Prop :=
  reply.length = reply'.length ∧ ∀ i w w', reply[i]? = some w → reply'[i]? = some w' →
    w = w' ∨ P (request.function, request.address + i)

/-- Devices that answer alike but for the words `P`. -/
def SameDevice (P : WordKey → Prop) (device device' : Device) : Prop :=
  ∀ n request, Alike (SameReply P request) (device n request) (device' n request)

/-- Two profiles that differ in the words `P`. -/
structure SameProfile (P : WordKey → Prop) (s s' : ProfileState) : Prop where
  metadata : SameBut P s.metadata s'.metadata
  cachedBlocks : s.cachedBlocks = s'.cachedBlocks
  log : s.log.length = s'.log.length

section Reading

variable {P : WordKey → Prop} {device device' : Device}

/-- Answers that differ at most inside `P` are stored into word maps that do. -/
theorem store_from {words words' : WordMap} (function : RegisterFunction) (address n : Nat)
    {reply reply' : List Nat} (hlength : reply.length = reply'.length)
    (hreply : ∀ i w w', reply[i]? = some w → reply'[i]? = some w' →
      w = w' ∨ P (function, address + (n + i)))
    (h : SameBut P words words') :
    SameBut P
      ((reply.zipIdx n).foldl (fun words e => WordMap.set words (function, address + e.2) e.1)
        words)
      ((reply'.zipIdx n).foldl (fun words e => WordMap.set words (function, address + e.2) e.1)
        words') := by
  induction reply generalizing reply' n words words' with
  | nil =>
      cases reply' with
      | nil => exact h
      | cons => cases hlength
  | cons w reply ih =>
      cases reply' with
      | nil => cases hlength
      | cons w' reply' =>
          rw [List.zipIdx_cons, List.zipIdx_cons, List.foldl_cons, List.foldl_cons]
          refine ih (n + 1) (Nat.succ.inj hlength) (fun i v v' hv hv' => ?_) (h.upsert ?_)
          · have hlater := hreply (i + 1) v v' hv hv'
            rwa [show n + (i + 1) = n + 1 + i by omega] at hlater
          · exact hreply 0 w w' rfl rfl

/-- A related reply is stored. -/
theorem SameReply.store {words words' : WordMap} {request : ReadRequest}
    {reply reply' : List Nat} (hreply : SameReply P request reply reply')
    (h : SameBut P words words') :
    SameBut P (WordMap.store words request.function request.address reply)
      (WordMap.store words' request.function request.address reply') :=
  store_from request.function request.address 0 hreply.1
    (fun i w w' hw hw' => by rw [Nat.zero_add]; exact hreply.2 i w w' hw hw') h

theorem readRegisters_relates (hdevice : SameDevice P device device') (request : ReadRequest) :
    Relates (SameProfile P) (Alike (SameReply P request)) (readRegisters device request)
      (readRegisters device' request) := by
  refine relates_get fun s s' hs => ?_
  have hmodify : ∀ t t', SameProfile P t t' → SameProfile P
      { t with log := t.log ++ [(request, device s.log.length request)] }
      { t' with log := t'.log ++ [(request, device' s'.log.length request)] } :=
    fun t t' ht => ⟨ht.metadata, ht.cachedBlocks, by simp [ht.log]⟩
  refine relates_bind (relates_modify hmodify) fun _ _ _ => relates_pure ?_
  rw [hs.log]
  exact hdevice _ request

/-- Loading a block reads it, or fails alike on both sides. -/
theorem loadBlock_relates (hdevice : SameDevice P device device') (block : RegisterBlock) :
    Relates (SameProfile P) (fun _ _ => True) (loadBlock device block)
      (loadBlock device' block) := by
  refine relates_get fun s s' hs => ?_
  rw [hs.cachedBlocks]
  split
  · exact relates_pure trivial
  · refine relates_bind (readRegisters_relates hdevice block.request) fun r r' hr => ?_
    obtain ⟨words, words', rfl, rfl, hwords⟩ | ⟨e, rfl, rfl⟩ := hr.cases
    · refine relates_modify fun t t' ht => ⟨hwords.store ht.metadata, ?_, ht.log⟩
      rw [ht.cachedBlocks]
    · cases block.optional with
      | true => exact relates_pure trivial
      | false => exact relates_throw e

/-- The walk over the metadata blocks looks at no word. -/
theorem loadMetadata_relates (hdevice : SameDevice P device device')
    (spec : DeviceProfileSpec) :
    Relates (SameProfile P) (fun _ _ => True) (loadMetadata device spec)
      (loadMetadata device' spec) :=
  relates_forM spec.blocks fun block _ => loadBlock_relates hdevice block

/-- The same addresses are known on both sides. -/
theorem context_isSome {words words' : WordMap} (h : SameBut P words words')
    (function : RegisterFunction) (address : Nat) :
    (WordMap.context words function address).isSome =
      (WordMap.context words' function address).isSome :=
  h.lookup_isSome (function, address)

/-- Outside `P` the same word is. -/
theorem context_eq {words words' : WordMap} (h : SameBut P words words')
    {function : RegisterFunction} {address : Nat} (hP : ¬ P (function, address)) :
    WordMap.context words function address = WordMap.context words' function address :=
  h.lookup_eq hP

/-- A field that has no cached word is read by itself; which words it has is the same on both sides.
-/
theorem readMetadataField_relates (hdevice : SameDevice P device device')
    (register : RegisterSpec) :
    Relates (SameProfile P) (fun _ _ => True) (readMetadataField device register)
      (readMetadataField device' register) := by
  refine relates_get fun s s' hs => ?_
  simp only [context_isSome hs.metadata]
  split
  · exact relates_pure trivial
  · split
    · exact relates_pure trivial
    · refine relates_bind (readRegisters_relates hdevice register.request) fun r r' hr => ?_
      obtain ⟨words, words', rfl, rfl, hwords⟩ | ⟨e, rfl, rfl⟩ := hr.cases
      · exact relates_modify fun t t' ht => ⟨hwords.store ht.metadata, ht.cachedBlocks, ht.log⟩
      · exact relates_pure trivial

/-- A telemetry block, optional or not, adds the same addresses. -/
theorem readTelemetry_relates (hdevice : SameDevice P device device') {words words' : WordMap}
    (h : SameBut P words words') (block : RegisterBlock) :
    Relates (SameProfile P) (SameBut P) (readTelemetry device words block)
      (readTelemetry device' words' block) := by
  unfold readTelemetry
  split
  · exact relates_pure h
  · refine relates_bind (readRegisters_relates hdevice block.request) fun r r' hr => ?_
    obtain ⟨reply, reply', rfl, rfl, hreply⟩ | ⟨e, rfl, rfl⟩ := hr.cases
    · exact relates_pure (hreply.store h)
    · cases block.optional with
      | true => exact relates_pure h
      | false => exact relates_throw e

end Reading

/-! ## values -/

/-- Values of two polls: the same, or of a single word of `P`, or of a register that looks at
one. -/
inductive SameValue (spec : DeviceProfileSpec) (P : WordKey → Prop) :
    RegisterValue → RegisterValue → Prop
  | same (v : RegisterValue) : SameValue spec P v v
  | word {key : WordKey} (w w' : Nat) : P key →
      SameValue spec P (wordValue key w) (wordValue key w')
  | register {r : RegisterSpec} {raw raw' : List Nat} {context context' : WordContext}
      {value value' : Scalar} : r ∈ spec.registers → (∃ key ∈ r.reads, P key) →
      decodeRegister r raw context = .ok value → decodeRegister r raw' context' = .ok value' →
      SameValue spec P (registerValue r raw value) (registerValue r raw' value')

section Values

variable {spec : DeviceProfileSpec} {P : WordKey → Prop} {words words' : WordMap}

/-- Two values that are the same but for `P` go by one name. -/
theorem SameValue.name_eq {v v' : RegisterValue} (h : SameValue spec P v v') :
    v.name = v'.name := by
  cases h <;> rfl

/-- The raw words come in the same order under the same names. -/
theorem wordValues_forall₂ (h : SameBut P words words') :
    List.Forall₂ (SameValue spec P) (wordValues words) (wordValues words') := by
  have hsorted : SameBut P (WordMap.sorted words) (WordMap.sorted words') :=
    orderBy_forall₂ .asc h fun a b hab => by rw [hab.1]
  refine List.forall₂_map_left_iff.mpr (List.forall₂_map_right_iff.mpr (hsorted.imp ?_))
  rintro ⟨key, w⟩ ⟨key', w'⟩ ⟨hkey, hw⟩
  obtain rfl : key = key' := hkey
  cases hw with
  | inl heq =>
      obtain rfl : w = w' := heq
      exact .same _
  | inr hP => exact .word w w' hP

/-- Whether a decoder of two words raises is a matter of how many there are. -/
theorem twoWords_alike (name : String) {raw raw' : List Nat} (decode : Nat → Nat → Scalar)
    (h : raw.length = raw'.length) :
    Alike (fun _ _ => True) (twoWords name raw decode) (twoWords name raw' decode) := by
  match raw, raw', h with
  | [], [], _ => rfl
  | [_], [_], _ => rfl
  | [_, _], [_, _], _ => trivial
  | _ :: _ :: _ :: _, _ :: _ :: _ :: _, _ => rfl

/-- A division raises by its denominator alone, which comes from the catalog. -/
theorem divided_alike (x x' denominator : ℚ) :
    Alike (fun _ _ => True) (divided x denominator) (divided x' denominator) := by
  unfold divided
  split
  · rfl
  · trivial

/-- Whether a value can be decoded depends on the number of its words only. -/
theorem decodeValue_alike (decoder : Decoder) {raw raw' : List Nat}
    (context context' : WordContext) (h : raw.length = raw'.length) :
    Alike (fun _ _ => True) (decodeValue decoder raw context)
      (decodeValue decoder raw' context') := by
  match raw, raw', h with
  | [], [], _ => rfl
  | w :: ws, w' :: ws', h =>
      cases decoder <;> simp only [decodeValue]
      case f32 => exact twoWords_alike _ _ h
      case u32 => exact twoWords_alike _ _ h
      case s32 => exact twoWords_alike _ _ h
      case u32Factor => exact twoWords_alike _ _ h
      case s32Factor => exact twoWords_alike _ _ h
      case divide => exact divided_alike _ _ _
      case udivide => exact divided_alike _ _ _
      case percent => exact divided_alike _ _ _
      case ts600 => split_ifs <;> trivial
      case unknown => rfl
      all_goals trivial

theorem decodeRegister_alike (r : RegisterSpec) {raw raw' : List Nat}
    (context context' : WordContext) (h : raw.length = raw'.length) :
    Alike (fun _ _ => True) (decodeRegister r raw context) (decodeRegister r raw' context') :=
  (decodeValue_alike r.decoder context context' h).bind fun _ _ _ => trivial

/-- The words of a register that looks at none of `P`. -/
theorem registerRaw_eq {r : RegisterSpec} (h : SameBut P words words')
    (hr : ∀ key ∈ r.reads, ¬ P key) : registerRaw words r = registerRaw words' r := by
  refine List.filterMap_congr fun a ha => context_eq h (hr _ ?_)
  exact List.mem_map_of_mem (List.mem_append_left _ ha)

/-- A register has as many words on both sides. -/
theorem length_registerRaw (r : RegisterSpec) (h : SameBut P words words') :
    (registerRaw words r).length = (registerRaw words' r).length := by
  simp only [registerRaw, List.length_filterMap_eq_countP, context_isSome h]

theorem decodeNamedRegister_alike {r : RegisterSpec} (hr : r ∈ spec.registers)
    (h : SameBut P words words') :
    Alike (Option.Rel (SameValue spec P)) (decodeNamedRegister words r)
      (decodeNamedRegister words' r) := by
  have hlength := length_registerRaw r h
  unfold decodeNamedRegister
  dsimp only
  rw [hlength]
  split
  · exact Option.Rel.none
  · by_cases htouch : ∃ key ∈ r.reads, P key
    · have halike := decodeRegister_alike r (WordMap.context words r.function)
        (WordMap.context words' r.function) hlength
      obtain ⟨v, v', hv, hv', -⟩ | ⟨e, hv, hv'⟩ := halike.cases
      · simp only [hv, hv', Loop.ok_bind]
        exact Option.Rel.some (.register hr htouch hv hv')
      · rw [hv, hv']
        rfl
    · have hfree : ∀ key ∈ r.reads, ¬ P key := fun key hkey hP => htouch ⟨key, hkey, hP⟩
      have hscale : ∀ a ∈ scaleAddresses r.decoder,
          WordMap.context words r.function a = WordMap.context words' r.function a :=
        fun a ha => context_eq h (hfree _ (List.mem_map_of_mem (List.mem_append_right _ ha)))
      rw [registerRaw_eq h hfree, decodeRegister_congr hscale]
      exact (alike_refl (fun _ => rfl) _).bind fun v v' hv => by
        obtain rfl : v = v' := hv
        exact Option.Rel.some (.same _)

/-- What is absent is absent on both sides. -/
theorem reduceOption_forall₂ {α β : Type} {R : α → β → Prop} {xs : List (Option α)}
    {ys : List (Option β)} (h : List.Forall₂ (Option.Rel R) xs ys) :
    List.Forall₂ R xs.reduceOption ys.reduceOption := by
  induction h with
  | nil => exact List.Forall₂.nil
  | cons hxy _ ih =>
      cases hxy with
      | none =>
          rw [List.reduceOption_cons_of_none, List.reduceOption_cons_of_none]
          exact ih
      | some hr =>
          rw [List.reduceOption_cons_of_some, List.reduceOption_cons_of_some]
          exact List.Forall₂.cons hr ih

/-- The named registers of a poll, one by one. -/
theorem decodeNamed_alike (category : Option RegisterCategory) (firmware : String)
    (h : SameBut P words words') :
    Alike (List.Forall₂ (SameValue spec P)) (decodeNamed spec words category firmware)
      (decodeNamed spec words' category firmware) := by
  unfold decodeNamed
  cases heffective : effectiveItems RegisterSpec.toFirmwareGate firmware spec.registers with
  | error e => rfl
  | ok registers =>
      simp only [Loop.ok_bind]
      have hmem : ∀ r ∈ registers, r ∈ spec.registers :=
        fun r hr => (effectiveItems_sublist heffective).subset hr
      exact (alike_mapM _ fun r hr =>
        decodeNamedRegister_alike (hmem r (List.mem_of_mem_filter hr)) h).bind
          fun values values' hvalues => reduceOption_forall₂ hvalues

/-- A name that no single word and no register that looks at `P` has. -/
theorem valueNamed_eq {values values' : List RegisterValue} {name : String}
    (h : List.Forall₂ (SameValue spec P) values values') (hword : isWordName name = false)
    (hname : ∀ r ∈ spec.registers, r.name = name → ∀ key ∈ r.reads, ¬ P key) :
    valueNamed name values = valueNamed name values' := by
  have hreverse := List.forall₂_reverse_iff.mpr h
  unfold valueNamed
  generalize values.reverse = rows at hreverse ⊢
  generalize values'.reverse = rows' at hreverse ⊢
  induction hreverse with
  | nil => rfl
  | @cons v v' rows rows' hv _ ih =>
      rw [List.find?_cons, List.find?_cons, ← hv.name_eq]
      by_cases heq : v.name = name
      · have hsame : v = v' := by
          cases hv with
          | same => rfl
          | word w w' hP =>
              rw [← heq, wordValue, isWordName_wordName] at hword
              cases hword
          | register hr htouch =>
              obtain ⟨key, hkey, hP⟩ := htouch
              exact absurd hP (hname _ hr heq key hkey)
        have heq' : v'.name = name := hsame ▸ heq
        simp [hsame, heq']
      · simpa [heq] using ih

end Values

/-! ## polls -/

/-- The names of the registers that `derive_register_values` looks at. -/
def derivedFrom : List String :=
  ["input_power_reported", "output_power", "battery_voltage", "battery_charge_current"]

section Polls

variable {spec : DeviceProfileSpec} {P : WordKey → Prop} {device device' : Device}

/-- A derived value depends on the named values it is derived from, and on nothing else. -/
theorem deriveRegisterValues_eq {named named' : List RegisterValue} (profileName : String)
    (h : ∀ name ∈ derivedFrom, valueNamed name named = valueNamed name named') :
    deriveRegisterValues profileName named = deriveRegisterValues profileName named' := by
  simp only [derivedFrom, List.forall_mem_cons, List.not_mem_nil, false_imp_iff, implies_true,
    and_true] at h
  obtain ⟨hreported, houtput, hvoltage, hcurrent⟩ := h
  simp only [deriveRegisterValues, batterySidePower, hreported, houtput, hvoltage, hcurrent]

/-- The metadata values as a whole. -/
theorem readMetadata_relates (hdevice : SameDevice P device device') :
    Relates (SameProfile P) (List.Forall₂ (SameValue spec P)) (readMetadata device spec)
      (readMetadata device' spec) := by
  refine relates_bind (loadMetadata_relates hdevice spec) fun _ _ _ => ?_
  refine relates_bind (relates_forM spec.registers fun r _ =>
    readMetadataField_relates hdevice r) fun _ _ _ => ?_
  refine relates_get fun s s' hs => ?_
  exact relates_ofResult (decodeNamed_alike (some .metadata) "" hs.metadata)

/-- **Two polls**, where derived telemetry looks at none of the words. -/
theorem poll_relates (hdevice : SameDevice P device device') (firmware : String)
    (hderived : ∀ r ∈ spec.registers, r.name ∈ derivedFrom → ∀ key ∈ r.reads, ¬ P key) :
    Relates (SameProfile P) (List.Forall₂ (SameValue spec P)) (poll device spec firmware)
      (poll device' spec firmware) := by
  refine relates_bind (loadMetadata_relates hdevice spec) fun _ _ _ => ?_
  refine relates_get fun s s' hs => ?_
  refine relates_bind (relates_ofResult (alike_refl (fun _ => rfl) _)) fun blocks blocks' hb => ?_
  obtain rfl : blocks = blocks' := hb
  refine relates_bind (relates_foldlM blocks
    (fun words words' hwords block _ => readTelemetry_relates hdevice hwords block) hs.metadata)
    fun words words' hwords => ?_
  refine relates_bind (relates_ofResult (decodeNamed_alike none firmware hwords))
    fun named named' hnamed => relates_pure ?_
  have hnot : ∀ name ∈ derivedFrom, isWordName name = false := by decide +kernel
  have hsame : deriveRegisterValues spec.name named = deriveRegisterValues spec.name named' :=
    deriveRegisterValues_eq spec.name fun name hname =>
      valueNamed_eq hnamed (hnot name hname) fun r hr heq => hderived r hr (heq ▸ hname)
  rw [hsame]
  exact List.rel_append (List.rel_append (wordValues_forall₂ hwords) hnamed)
    (List.forall₂_same.mpr fun v _ => .same v)

end Polls

end MorningstarModbus.Catalog
