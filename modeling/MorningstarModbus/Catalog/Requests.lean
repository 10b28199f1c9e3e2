import MorningstarModbus.Catalog.PollReads

/-!
# MorningstarModbus.Catalog.Requests

The requests that programs over a profile send.

* `Sends` — a program sends requests of a kind only, however it ends;
* `sends_bind`, … — the rules for `do` and `try`;
* `sends_readMetadata` — the requests for the metadata of a profile.
-/

namespace MorningstarModbus.Catalog

open Effects

/-- The log grows by requests that are allowed. -/
def Sends {α : Type} (allowed : ReadRequest → Prop) (m : ProfileProgram α) : Prop :=
  ∀ s, ∃ sent, (exec m s).2.log = s.log ++ sent ∧ ∀ entry ∈ sent, allowed entry.1

section Rules

variable {α β : Type} {allowed allowed' : ReadRequest → Prop} {m : ProfileProgram α}

/-- More may be allowed. -/
theorem Sends.mono (h : Sends allowed m) (hle : ∀ r, allowed r → allowed' r) :
    Sends allowed' m := by
  intro s
  obtain ⟨sent, hlog, hsent⟩ := h s
  exact ⟨sent, hlog, fun entry hentry => hle _ (hsent entry hentry)⟩

/-- A program that leaves the log alone. -/
theorem sends_of_log_eq (h : ∀ s, (exec m s).2.log = s.log) : Sends allowed m := fun s =>
  ⟨[], by rw [h s, List.append_nil], by simp⟩

theorem sends_pure (a : α) : Sends allowed (pure a : ProfileProgram α) :=
  sends_of_log_eq fun _ => rfl

theorem sends_throw (e : PyException) : Sends allowed (throw e : ProfileProgram α) :=
  sends_of_log_eq fun _ => rfl

theorem sends_ofResult (result : Except PyException α) :
    Sends allowed (ofResult result : ProfileProgram α) :=
  sends_of_log_eq fun s => by rw [exec_ofResult]

/-- A change that does not touch the log sends nothing. -/
theorem sends_modify {f : ProfileState → ProfileState} (h : ∀ s, (f s).log = s.log) :
    Sends allowed (modify f : ProfileProgram PUnit) :=
  sends_of_log_eq h

/-- Nor does looking at the state. -/
theorem sends_get {f : ProfileState → ProfileProgram β} (h : ∀ s, Sends allowed (f s)) :
    Sends allowed (get >>= f) := fun s => by
  rw [exec_bind, exec_get]
  exact h s s

/-- **Sequence rule.** -/
theorem sends_bind {f : α → ProfileProgram β} (h : Sends allowed m)
    (hf : ∀ a, Sends allowed (f a)) : Sends allowed (m >>= f) := by
  intro s
  obtain ⟨sent, hlog, hsent⟩ := h s
  rw [exec_bind]
  generalize exec m s = out at hlog ⊢
  obtain ⟨r, t⟩ := out
  cases r with
  | error e => exact ⟨sent, hlog, hsent⟩
  | ok a =>
      obtain ⟨later, hlater, hrest⟩ := hf a t
      refine ⟨sent ++ later, ?_, fun entry hentry => ?_⟩
      · rw [hlater, hlog, List.append_assoc]
      · exact (List.mem_append.mp hentry).elim (hsent entry) (hrest entry)

/-- **Handler rule.**  What was sent before the error stays sent. -/
theorem sends_tryCatch {f : PyException → ProfileProgram α} (h : Sends allowed m)
    (hf : ∀ e, Sends allowed (f e)) : Sends allowed (tryCatch m f) := by
  intro s
  obtain ⟨sent, hlog, hsent⟩ := h s
  rw [exec_tryCatch]
  generalize exec m s = out at hlog ⊢
  obtain ⟨r, t⟩ := out
  cases r with
  | ok a => exact ⟨sent, hlog, hsent⟩
  | error e =>
      obtain ⟨later, hlater, hrest⟩ := hf e t
      refine ⟨sent ++ later, ?_, fun entry hentry => ?_⟩
      · rw [hlater, hlog, List.append_assoc]
      · exact (List.mem_append.mp hentry).elim (hsent entry) (hrest entry)

/-- **Loop rule.** -/
theorem sends_forM {γ : Type} {f : γ → ProfileProgram PUnit} {items : List γ}
    (h : ∀ x ∈ items, Sends allowed (f x)) : Sends allowed (items.forM f) := by
  induction items with
  | nil => exact sends_pure _
  | cons x xs ih =>
      exact sends_bind (h x List.mem_cons_self) fun _ =>
        ih fun y hy => h y (List.mem_cons_of_mem x hy)

/-- A read sends its one request, whether it is answered or not. -/
theorem sends_readRegisters (device : Device) {request : ReadRequest} (h : allowed request) :
    Sends allowed (readRegisters device request) := fun s => by
  rw [exec_readRegisters]
  exact ⟨[s.asked device request], rfl, fun entry hentry => by
    rw [List.mem_singleton.mp hentry]
    exact h⟩

end Rules

/-! ## a profile -/

/-- A request that reads the metadata of a profile. -/
def DeviceProfileSpec.MetadataRequest (spec : DeviceProfileSpec) (request : ReadRequest) : Prop :=
  (∃ block ∈ spec.blocks, block.cache = true ∧ request = block.request) ∨
    ∃ register ∈ spec.registers, register.category = .metadata ∧ request = register.request

section Profile

variable (device : Device) (spec : DeviceProfileSpec)

/-- A metadata block is asked for as the profile declares it. -/
theorem sends_loadBlock {block : RegisterBlock} (hblock : block ∈ spec.blocks) :
    Sends spec.MetadataRequest (loadBlock device block) := by
  refine sends_get fun s => ?_
  split
  · exact sends_pure _
  · case isFalse hload =>
      have hcache : block.cache = true := by
        by_contra h
        simp [h] at hload
      refine sends_bind (sends_readRegisters device (.inl ⟨block, hblock, hcache, rfl⟩)) fun r => ?_
      cases r with
      | ok words => exact sends_modify fun _ => rfl
      | error e => cases block.optional <;> first | exact sends_throw e | exact sends_pure _

theorem sends_loadMetadata : Sends spec.MetadataRequest (loadMetadata device spec) :=
  sends_forM fun _ hblock => sends_loadBlock device spec hblock

/-- A field without cached words is asked for by itself. -/
theorem sends_readMetadataField {register : RegisterSpec} (hregister : register ∈ spec.registers) :
    Sends spec.MetadataRequest (readMetadataField device register) := by
  refine sends_get fun s => ?_
  split
  · exact sends_pure _
  · case isFalse hcategory =>
      dsimp only
      split
      · exact sends_pure _
      · refine sends_bind (sends_readRegisters device
          (.inr ⟨register, hregister, not_not.mp hcategory, rfl⟩)) fun r => ?_
        cases r with
        | ok words => exact sends_modify fun _ => rfl
        | error e => exact sends_pure _

/-- `read_metadata` -/
theorem sends_readMetadata : Sends spec.MetadataRequest (readMetadata device spec) :=
  sends_bind (sends_loadMetadata device spec) fun _ =>
    sends_bind (sends_forM fun _ h => sends_readMetadataField device spec h) fun _ =>
      sends_get fun _ => sends_ofResult _

end Profile

end MorningstarModbus.Catalog
