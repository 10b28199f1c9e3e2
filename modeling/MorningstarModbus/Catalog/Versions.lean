import MorningstarModbus.Catalog.Compatibility
import MorningstarModbus.Lib.Padded

/-!
# MorningstarModbus.Catalog.Versions

The order of firmware versions (`compare_versions` of `catalog/compatibility.py`) and the
firmware ranges that follow it.

* `compareVersions_eq` — a comparison is that of the versions as sequences of components;
* `inRange_iff` — a range holds the versions from its first to its last;
* `versions_ordered` — comparison is a total preorder, and ranges are convex.
-/

namespace MorningstarModbus.Catalog

open Padded

/-! ## the statement -/

/-- A text with a digit. -/
def HasDigit (value : String) : Prop := ∃ c ∈ value.toList, (decimalDigit? c).isSome = true

/-- `compare_versions(left, right) <= 0` -/
def AtMost (left right : String) : Prop := ∃ n ≤ 0, compareVersions left right = .ok n

/-- Bounds that are absent or contain a digit. -/
structure FirmwareGate.Versioned (gate : FirmwareGate) : Prop where
  since : ∀ since, gate.sinceFirmware = some since → HasDigit since
  limit : ∀ limit, gate.untilFirmware = some limit → HasDigit limit

/-- Comparison is a total preorder of the versions with a digit, ranges are convex in it, and so
are the firmware versions an item is effective at. -/
structure VersionsOrdered : Prop where
  antisymmetric : ∀ a b, HasDigit a → HasDigit b →
    ∃ n, compareVersions a b = .ok n ∧ compareVersions b a = .ok (-n)
  transitive : ∀ a b c m n, HasDigit a → HasDigit b → HasDigit c → compareVersions a b = .ok m →
    compareVersions b c = .ok n → m ≤ 0 → n ≤ 0 →
      ∃ k ≤ 0, compareVersions a c = .ok k ∧ (m < 0 ∨ n < 0 → k < 0)
  zero_iff : ∀ a b, HasDigit a → HasDigit b → (compareVersions a b = .ok 0 ↔
    ∀ i, (versionTuple a).getD i 0 = (versionTuple b).getD i 0)
  convex : ∀ gate a b c, gate.Versioned → AtMost a b → AtMost b c →
    inRange a gate = .ok true → inRange c gate = .ok true → inRange b gate = .ok true
  effective : ∀ (α : Type) (gate : α → FirmwareGate) (items : List α),
    (∀ item ∈ items, (gate item).Versioned) → ∀ a b c atA atC, AtMost a b → AtMost b c →
      effectiveItems gate a items = .ok atA → effectiveItems gate c items = .ok atC →
        ∃ atB, effectiveItems gate b items = .ok atB ∧ ∀ item ∈ atA, item ∈ atC → item ∈ atB

/-! ## versions as sequences -/

/-- The components of a version, with zeros after the last. -/
def version (value : String) : Sequence ℕ := sequence 0 (versionTuple value)

theorem findDigits_ne_nil {run cs : List Char} :
    findDigits run cs ≠ [] ↔ run ≠ [] ∨ ∃ c ∈ cs, (decimalDigit? c).isSome = true := by
  induction cs generalizing run with
  | nil => by_cases hrun : run = [] <;> simp [findDigits, hrun]
  | cons c cs ih =>
      rw [findDigits]
      by_cases hdigit : (decimalDigit? c).isSome = true
      · rw [if_pos hdigit, ih]
        simp [hdigit]
      · rw [if_neg hdigit]
        by_cases hrun : run = []
        · rw [if_pos hrun, ih]
          simp [hrun, hdigit]
        · simp [hrun]

theorem versionTuple_ne_nil {value : String} : versionTuple value ≠ [] ↔ HasDigit value := by
  rw [versionTuple, findDigits_ne_nil]
  simp [HasDigit]

section Compare

variable {a b c : String}

/-- **A comparison** is that of the sequences. -/
theorem compareVersions_eq (ha : HasDigit a) (hb : HasDigit b) :
    compareVersions a b = .ok (threeWay (version a) (version b)) := by
  have hne : ¬ (versionTuple a = [] ∨ versionTuple b = []) :=
    not_or.mpr ⟨versionTuple_ne_nil.mpr ha, versionTuple_ne_nil.mpr hb⟩
  have hleft := le_max_left (versionTuple a).length (versionTuple b).length
  have hright := le_max_right (versionTuple a).length (versionTuple b).length
  rw [compareVersions, if_neg hne]
  refine congrArg Except.ok (congrArg₂ (· - ·) ?_ ?_)
  · exact if_congr (pad_lt_pad_iff hright hleft) rfl rfl
  · exact if_congr (pad_lt_pad_iff hleft hright) rfl rfl

theorem compareVersions_ok {n : Int} (h : compareVersions a b = .ok n) :
    HasDigit a ∧ HasDigit b := by
  rw [compareVersions] at h
  split at h
  · cases h
  · case isFalse hne =>
      rw [not_or] at hne
      exact ⟨versionTuple_ne_nil.mp hne.1, versionTuple_ne_nil.mp hne.2⟩

theorem atMost_iff : AtMost a b ↔ HasDigit a ∧ HasDigit b ∧ version a ≤ version b := by
  constructor
  · intro h
    obtain ⟨n, hn, hcompare⟩ := h
    obtain ⟨ha, hb⟩ := compareVersions_ok hcompare
    rw [compareVersions_eq ha hb, Except.ok.injEq] at hcompare
    exact ⟨ha, hb, threeWay_nonpos_iff.mp (hcompare ▸ hn)⟩
  · intro h
    obtain ⟨ha, hb, hle⟩ := h
    exact ⟨_, threeWay_nonpos_iff.mpr hle, compareVersions_eq ha hb⟩

end Compare

/-! ## ranges -/

section Range

variable {a b c : String} {gate : FirmwareGate}

/-- The versions from the first of a range to its last. -/
def FirmwareGate.Holds (gate : FirmwareGate) (value : String) : Prop :=
  (∀ since, gate.sinceFirmware = some since → version since ≤ version value) ∧
    ∀ limit, gate.untilFirmware = some limit → version value ≤ version limit

/-- **A range** holds the versions from its first to its last. -/
theorem inRange_iff (hgate : gate.Versioned) (ha : HasDigit a) :
    ∃ included, inRange a gate = .ok included ∧ (included = true ↔ gate.Holds a) := by
  obtain ⟨since, limit⟩ := gate
  rw [inRange, if_neg (versionTuple_ne_nil.mpr ha)]
  have hsince : ∀ since', since = some since' →
      compareVersions a since' = .ok (threeWay (version a) (version since')) :=
    fun since' h => compareVersions_eq ha (hgate.since since' h)
  have hlimit : ∀ limit', limit = some limit' →
      compareVersions a limit' = .ok (threeWay (version a) (version limit')) :=
    fun limit' h => compareVersions_eq ha (hgate.limit limit' h)
  cases since with
  | none =>
      cases limit with
      | none => exact ⟨true, rfl, by simp [FirmwareGate.Holds]⟩
      | some limit =>
          simp only [hlimit limit rfl, Loop.ok_bind]
          refine ⟨_, rfl, ?_⟩
          simp [FirmwareGate.Holds, threeWay_nonpos_iff]
  | some since =>
      simp only [hsince since rfl, Loop.ok_bind]
      by_cases hearly : threeWay (version a) (version since) < 0
      · rw [if_pos hearly]
        refine ⟨false, rfl, ?_⟩
        simp [FirmwareGate.Holds, threeWay_neg_iff.mp hearly]
      · rw [if_neg hearly]
        rw [threeWay_neg_iff, not_lt] at hearly
        cases limit with
        | none => exact ⟨true, rfl, by simp [FirmwareGate.Holds, hearly]⟩
        | some limit =>
            simp only [hlimit limit rfl, Loop.ok_bind]
            refine ⟨_, rfl, ?_⟩
            simp [FirmwareGate.Holds, hearly, threeWay_nonpos_iff]

theorem inRange_eq_true (hgate : gate.Versioned) (ha : HasDigit a) :
    inRange a gate = .ok true ↔ gate.Holds a := by
  obtain ⟨included, hok, hiff⟩ := inRange_iff hgate ha
  rw [hok, Except.ok.injEq]
  exact hiff

/-- What lies between two versions of a range is in it. -/
theorem FirmwareGate.Holds.between (ha : gate.Holds a) (hc : gate.Holds c)
    (hab : version a ≤ version b) (hbc : version b ≤ version c) : gate.Holds b :=
  ⟨fun since h => (ha.1 since h).trans hab, fun limit h => hbc.trans (hc.2 limit h)⟩

end Range

/-! ## effective items -/

section Items

variable {α : Type} {gate : α → FirmwareGate} {firmware : String} {items : List α}

/-- The effective items are those in range. -/
theorem effectiveItems_iff (hgates : ∀ item ∈ items, (gate item).Versioned)
    (hfirmware : HasDigit firmware) :
    ∃ effective, effectiveItems gate firmware items = .ok effective ∧
      ∀ item, item ∈ effective ↔ item ∈ items ∧ (gate item).Holds firmware := by
  induction items with
  | nil => exact ⟨[], rfl, by simp⟩
  | cons first items ih =>
      obtain ⟨hfirst, hrest⟩ := List.forall_mem_cons.mp hgates
      obtain ⟨included, hincluded, hiff⟩ := inRange_iff hfirst hfirmware
      obtain ⟨effective, heffective, hmem⟩ := ih hrest
      refine ⟨if included = true then first :: effective else effective, ?_, fun item => ?_⟩
      · rw [effectiveItems, hincluded, heffective]
        rfl
      · by_cases hin : included = true
        · rw [if_pos hin, List.mem_cons, List.mem_cons, hmem]
          constructor
          · intro h
            obtain rfl | h := h
            · exact ⟨.inl rfl, hiff.mp hin⟩
            · exact ⟨.inr h.1, h.2⟩
          · intro h
            exact h.1.imp id fun hitem => ⟨hitem, h.2⟩
        · rw [if_neg hin, List.mem_cons, hmem]
          constructor
          · exact fun h => ⟨.inr h.1, h.2⟩
          · intro h
            obtain ⟨rfl | hitem, hholds⟩ := h
            · exact absurd (hiff.mpr hholds) hin
            · exact ⟨hitem, hholds⟩

end Items

/-! ## the order -/

/-- **Firmware version comparison** is a total preorder of the versions with a digit, and what is
effective at two versions is effective between them. -/
theorem versions_ordered : VersionsOrdered where
  antisymmetric := by
    intro a b ha hb
    refine ⟨_, compareVersions_eq ha hb, ?_⟩
    rw [compareVersions_eq hb ha, threeWay_swap]
  transitive := by
    intro a b c m n ha hb hc hm hn hab hbc
    rw [compareVersions_eq ha hb, Except.ok.injEq] at hm
    rw [compareVersions_eq hb hc, Except.ok.injEq] at hn
    rw [← hm] at hab ⊢
    rw [← hn] at hbc ⊢
    rw [threeWay_nonpos_iff] at hab hbc
    refine ⟨_, threeWay_nonpos_iff.mpr (hab.trans hbc), compareVersions_eq ha hc, ?_⟩
    rw [threeWay_neg_iff, threeWay_neg_iff, threeWay_neg_iff]
    intro h
    cases h with
    | inl hlt => exact hlt.trans_le hbc
    | inr hlt => exact hab.trans_lt hlt
  zero_iff := by
    intro a b ha hb
    rw [compareVersions_eq ha hb, Except.ok.injEq, threeWay_eq_zero_iff]
    exact sequence_eq_iff
  convex := by
    intro gate a b c hgate hab hbc hinA hinC
    obtain ⟨ha, hb, hleft⟩ := atMost_iff.mp hab
    obtain ⟨-, hc, hright⟩ := atMost_iff.mp hbc
    rw [inRange_eq_true hgate ha] at hinA
    rw [inRange_eq_true hgate hc] at hinC
    exact (inRange_eq_true hgate hb).mpr (hinA.between hinC hleft hright)
  effective := by
    intro α gate items hgates a b c atA atC hab hbc hatA hatC
    obtain ⟨ha, hb, hleft⟩ := atMost_iff.mp hab
    obtain ⟨-, hc, hright⟩ := atMost_iff.mp hbc
    obtain ⟨effA, hokA, hmemA⟩ := effectiveItems_iff hgates ha
    obtain ⟨effC, hokC, hmemC⟩ := effectiveItems_iff hgates hc
    obtain ⟨atB, hokB, hmemB⟩ := effectiveItems_iff hgates hb
    rw [hokA, Except.ok.injEq] at hatA
    rw [hokC, Except.ok.injEq] at hatC
    refine ⟨atB, hokB, fun item hitemA hitemC => ?_⟩
    rw [← hatA, hmemA] at hitemA
    rw [← hatC, hmemC] at hitemC
    exact (hmemB item).mpr ⟨hitemA.1, hitemA.2.between hitemC.2 hleft hright⟩

example : compareVersions "v1.10" "1.9" = .ok 1 := by decide +kernel

example : compareVersions "29" "v29.0" = .ok 0 := by decide +kernel

end MorningstarModbus.Catalog
