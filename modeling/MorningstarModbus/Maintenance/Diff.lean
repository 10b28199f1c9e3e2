import Mathlib.Data.Prod.Lex
import Mathlib.Data.Rat.Lemmas
import Mathlib.Data.String.Basic
import MorningstarModbus.Catalog.Types
import MorningstarModbus.Lib.Group
import MorningstarModbus.Lib.Tally

/-!
# MorningstarModbus.Maintenance.Diff

Register observations extracted from documents, compared with the catalog profiles
(`maintenance/diff.py`, with the records of `maintenance/models.py`).

* `fate` — what becomes of an observation under one profile;
* `accounted` — the entries of a comparison are those of the fates;
* `observations_conserved` — every observation under every profile is counted as ignored or has
  its key among the changes, and nothing else has.
-/

namespace MorningstarModbus.Maintenance

open Catalog Query Table

/-! ## records -/

inductive ObservationScope where
  | runtime
  | configuration
  | control
  | log
  | examples
  | reserved
  | alternateEncoding
  deriving DecidableEq

def ObservationScope.name : ObservationScope → String
  | runtime => "runtime"
  | configuration => "configuration"
  | control => "control"
  | log => "log"
  | examples => "example"
  | reserved => "reserved"
  | alternateEncoding => "alternate_encoding"

structure RegisterObservation where
  sourceId : String
  address : Int
  label : String
  page : Int
  sourceText : String
  confidence : ℚ
  scope : ObservationScope := .runtime
  deriving DecidableEq

structure ProposedChange where
  profile : String
  sourceId : String
  changeType : String
  address : Int
  observedLabel : String
  declaredNames : List String
  confidence : ℚ
  page : Int
  sourceText : String
  deriving DecidableEq

structure CatalogComparison where
  actionable : List ProposedChange
  coverageCandidates : List ProposedChange
  ignoredCounts : List (String × Nat) := []
  deriving DecidableEq

/-! ## coverage -/

def registersCovering (profile : DeviceProfileSpec) (address : Int) : List RegisterSpec :=
  profile.registers.filter fun register =>
    register.address ≤ address ∧ address < register.address + register.words

def blocksCovering (profile : DeviceProfileSpec) (address : Int) : List RegisterBlock :=
  profile.blocks.filter fun block => block.address ≤ address ∧ address < block.address + block.count

/-- `sorted({register.name for register in registers})` -/
def declaredNames (registers : List RegisterSpec) : List String :=
  orderBy id .asc (distinct (registers.map RegisterSpec.name))

def change (profile : DeviceProfileSpec) (observation : RegisterObservation) (changeType : String)
    (declaredNames : List String) (confidence : ℚ) : ProposedChange where
  profile := profile.name
  sourceId := observation.sourceId
  changeType := changeType
  address := observation.address
  observedLabel := observation.label
  declaredNames := declaredNames
  confidence := confidence
  page := observation.page
  sourceText := observation.sourceText

/-! ## the comparison -/

/-- `profiles_by_source` -/
def profilesBySource (profiles : List DeviceProfileSpec) :
    List (String × List DeviceProfileSpec) :=
  groups DeviceProfileSpec.sourceId (profiles.filter fun profile => profile.sourceId ≠ "")

/-- The dictionaries that the loops fill. -/
structure Findings where
  actionable : List ProposedChange := []
  coverage : List ProposedChange := []
  ignored : List (String × Nat) := []
  deriving DecidableEq

section Compare

/- `str.casefold` -/
variable (casefold : String → String)

/-- The key of a change in the dictionaries. -/
def ProposedChange.key (item : ProposedChange) : String × String × Int × String :=
  (item.profile, item.changeType, item.address, casefold item.observedLabel)

/-- The key the changes are sorted by. -/
def ProposedChange.sortKey (item : ProposedChange) : String ×ₗ Int ×ₗ String ×ₗ String :=
  toLex (item.profile, toLex (item.address, toLex (item.changeType, casefold item.observedLabel)))

/-- The loop body for one profile. -/
def compareProfile (observation : RegisterObservation) (found : Findings)
    (profile : DeviceProfileSpec) : Findings :=
  let registers := registersCovering profile observation.address
  if observation.scope = .reserved then
    if registers ≠ [] then
      let new := change profile observation "declared_register_overlaps_reserved_vendor_row"
        (declaredNames registers) (95 / 100)
      { found with actionable := assign (ProposedChange.key casefold) new found.actionable }
    else { found with ignored := bump "reserved" found.ignored }
  else if observation.scope ≠ .runtime then
    { found with ignored := bump observation.scope.name found.ignored }
  else if registers ≠ [] then
    { found with ignored := bump "covered_named_register" found.ignored }
  else
    let new :=
      if blocksCovering profile observation.address ≠ [] then
        change profile observation "unnamed_field_in_read_block" []
          (min observation.confidence (70 / 100))
      else
        change profile observation "runtime_address_outside_read_blocks" []
          (min observation.confidence (90 / 100))
    { found with coverage := assign (ProposedChange.key casefold) new found.coverage }

/-- The loop body for one observation. -/
def compareObservation (bySource : List (String × List DeviceProfileSpec)) (found : Findings)
    (observation : RegisterObservation) : Findings :=
  let profiles := (bySource.lookup observation.sourceId).getD []
  if profiles = [] then { found with ignored := bump "unmapped_source" found.ignored }
  else profiles.foldl (compareProfile casefold observation) found

def compareObservations (profiles : List DeviceProfileSpec)
    (observations : List RegisterObservation) : CatalogComparison :=
  let found := observations.foldl (compareObservation casefold (profilesBySource profiles)) {}
  { actionable := orderBy (ProposedChange.sortKey casefold) .asc found.actionable
    coverageCandidates := orderBy (ProposedChange.sortKey casefold) .asc found.coverage
    ignoredCounts := orderBy toLex .asc found.ignored }

end Compare

/-! ## fates -/

/-- A register of the profile spans the address. -/
def Declared (profile : DeviceProfileSpec) (address : Int) : Prop :=
  ∃ register ∈ profile.registers,
    register.address ≤ address ∧ address < register.address + register.words

/-- A read block of the profile spans the address. -/
def InBlock (profile : DeviceProfileSpec) (address : Int) : Prop :=
  ∃ block ∈ profile.blocks, block.address ≤ address ∧ address < block.address + block.count

instance (profile : DeviceProfileSpec) (address : Int) : Decidable (Declared profile address) :=
  inferInstanceAs (Decidable (∃ register ∈ profile.registers, _))

instance (profile : DeviceProfileSpec) (address : Int) : Decidable (InBlock profile address) :=
  inferInstanceAs (Decidable (∃ block ∈ profile.blocks, _))

inductive Fate where
  | ignored (reason : String)
  | actionable (item : ProposedChange)
  | candidate (item : ProposedChange)
  deriving DecidableEq

namespace Fate

def reason? : Fate → Option String
  | ignored reason => some reason
  | _ => none

def actionable? : Fate → Option ProposedChange
  | actionable item => some item
  | _ => none

def candidate? : Fate → Option ProposedChange
  | candidate item => some item
  | _ => none

/-- The change a fate proposes. -/
def change? (f : Fate) : Option ProposedChange := f.actionable?.or f.candidate?

/-- Only an ignored pair has a reason. -/
@[simp] theorem reason?_eq_some {f : Fate} {reason : String} :
    f.reason? = some reason ↔ f = ignored reason := by
  cases f <;> simp [reason?]

@[simp] theorem actionable?_eq_some {f : Fate} {item : ProposedChange} :
    f.actionable? = some item ↔ f = actionable item := by
  cases f <;> simp [actionable?]

@[simp] theorem candidate?_eq_some {f : Fate} {item : ProposedChange} :
    f.candidate? = some item ↔ f = candidate item := by
  cases f <;> simp [candidate?]

/-- A change is proposed for a pair that is actionable or a candidate. -/
@[simp] theorem change?_eq_some {f : Fate} {item : ProposedChange} :
    f.change? = some item ↔ f = actionable item ∨ f = candidate item := by
  cases f <;> simp [change?, actionable?, candidate?]

end Fate

/-- What becomes of an observation under a profile. -/
def fate (observation : RegisterObservation) (profile : DeviceProfileSpec) : Fate :=
  match observation.scope with
  | .reserved =>
      if Declared profile observation.address then
        .actionable (change profile observation "declared_register_overlaps_reserved_vendor_row"
          (declaredNames (registersCovering profile observation.address)) (95 / 100))
      else .ignored "reserved"
  | .runtime =>
      if Declared profile observation.address then .ignored "covered_named_register"
      else if InBlock profile observation.address then
        .candidate (change profile observation "unnamed_field_in_read_block" []
          (min observation.confidence (70 / 100)))
      else
        .candidate (change profile observation "runtime_address_outside_read_blocks" []
          (min observation.confidence (90 / 100)))
  | scope => .ignored scope.name

/-- The profiles of the source of an observation. -/
def mappedProfiles (profiles : List DeviceProfileSpec) (observation : RegisterObservation) :
    List DeviceProfileSpec :=
  profiles.filter fun profile => profile.sourceId ≠ "" ∧ profile.sourceId = observation.sourceId

/-- Every observation with every profile of its source. -/
def pairs (profiles : List DeviceProfileSpec) (observations : List RegisterObservation) :
    List (RegisterObservation × DeviceProfileSpec) :=
  observations.flatMap fun observation =>
    (mappedProfiles profiles observation).map fun profile => (observation, profile)

/-! ## the statement -/

inductive Place where
  | ignored
  | actionable
  | candidates

namespace CatalogComparison

/-- `dict(ignored_counts).get(reason, 0)` -/
def ignored (comparison : CatalogComparison) (reason : String) : Nat :=
  (comparison.ignoredCounts.lookup reason).getD 0

/-- A pair is counted as ignored, or has its key among the changes. -/
def Holds (casefold : String → String) (comparison : CatalogComparison)
    (pair : RegisterObservation × DeviceProfileSpec) : Place → Prop
  | .ignored => ∃ reason, fate pair.1 pair.2 = .ignored reason ∧ 0 < comparison.ignored reason
  | .actionable => ∃ item, (fate pair.1 pair.2).change? = some item ∧
      item.key casefold ∈ comparison.actionable.map (ProposedChange.key casefold)
  | .candidates => ∃ item, (fate pair.1 pair.2).change? = some item ∧
      item.key casefold ∈ comparison.coverageCandidates.map (ProposedChange.key casefold)

end CatalogComparison

/-- An observation without profiles is counted once, a pair is counted once or has its key in
one place, nothing else is listed, and the order of the observations shows only in which change
stands under a key. -/
structure Conserved (casefold : String → String) (profiles : List DeviceProfileSpec)
    (observations : List RegisterObservation) (comparison : CatalogComparison) : Prop where
  unmapped : comparison.ignored "unmapped_source" =
    observations.countP fun observation => mappedProfiles profiles observation = []
  counted : ∀ reason, reason ≠ "unmapped_source" → comparison.ignored reason =
    (pairs profiles observations).countP fun pair => fate pair.1 pair.2 = .ignored reason
  once : ∀ pair ∈ pairs profiles observations, ∃! place, comparison.Holds casefold pair place
  ignored_from : ∀ e ∈ comparison.ignoredCounts,
    (e.1 = "unmapped_source" ∧ ∃ o ∈ observations, mappedProfiles profiles o = []) ∨
      ∃ pair ∈ pairs profiles observations, fate pair.1 pair.2 = .ignored e.1
  actionable_from : ∀ item ∈ comparison.actionable,
    ∃ pair ∈ pairs profiles observations, fate pair.1 pair.2 = .actionable item
  candidates_from : ∀ item ∈ comparison.coverageCandidates,
    ∃ pair ∈ pairs profiles observations, fate pair.1 pair.2 = .candidate item
  ignored_keyed : Keyed Prod.fst comparison.ignoredCounts
  actionable_keyed : Keyed (ProposedChange.key casefold) comparison.actionable
  candidates_keyed : Keyed (ProposedChange.key casefold) comparison.coverageCandidates
  ignored_sorted : comparison.ignoredCounts.Pairwise fun a b => toLex a < toLex b
  actionable_sorted : comparison.actionable.Pairwise fun a b =>
    a.sortKey casefold < b.sortKey casefold
  candidates_sorted : comparison.coverageCandidates.Pairwise fun a b =>
    a.sortKey casefold < b.sortKey casefold

/-- Two comparisons with the same keys and counts. -/
structure SameKeys (casefold : String → String) (comparison comparison' : CatalogComparison) :
    Prop where
  ignoredCounts : comparison'.ignoredCounts = comparison.ignoredCounts
  actionable : comparison'.actionable.map (ProposedChange.key casefold) =
    comparison.actionable.map (ProposedChange.key casefold)
  candidates : comparison'.coverageCandidates.map (ProposedChange.key casefold) =
    comparison.coverageCandidates.map (ProposedChange.key casefold)

/-! ## the loop -/

section Loop

variable {casefold : String → String} {profiles : List DeviceProfileSpec}
  {observations : List RegisterObservation} {found : Findings}

/-- Some register covers an address exactly when it is declared. -/
theorem registersCovering_ne_nil {profile : DeviceProfileSpec} {address : Int} :
    registersCovering profile address ≠ [] ↔ Declared profile address := by
  rw [registersCovering, ne_eq, List.filter_eq_nil_iff]
  simp [Declared]

/-- The same of blocks. -/
theorem blocksCovering_ne_nil {profile : DeviceProfileSpec} {address : Int} :
    blocksCovering profile address ≠ [] ↔ InBlock profile address := by
  rw [blocksCovering, ne_eq, List.filter_eq_nil_iff]
  simp [InBlock]

/-- What a fate leaves in the dictionaries. -/
def Findings.record (casefold : String → String) (found : Findings) : Fate → Findings
  | .ignored reason => { found with ignored := bump reason found.ignored }
  | .actionable item =>
      { found with actionable := assign (ProposedChange.key casefold) item found.actionable }
  | .candidate item =>
      { found with coverage := assign (ProposedChange.key casefold) item found.coverage }

/-- **The loop body** records the fate of the pair. -/
theorem compareProfile_eq (observation : RegisterObservation) (profile : DeviceProfileSpec) :
    compareProfile casefold observation found profile =
      found.record casefold (fate observation profile) := by
  simp only [compareProfile, registersCovering_ne_nil, blocksCovering_ne_nil]
  cases hscope : observation.scope with
  | reserved =>
      by_cases hdeclared : Declared profile observation.address
      · simp [fate, hscope, hdeclared, Findings.record]
      · simp [fate, hscope, hdeclared, Findings.record]
  | runtime =>
      by_cases hdeclared : Declared profile observation.address
      · simp [fate, hscope, hdeclared, Findings.record]
      · by_cases hblock : InBlock profile observation.address
        · simp [fate, hscope, hdeclared, hblock, Findings.record]
        · simp [fate, hscope, hdeclared, hblock, Findings.record]
  | _ => simp [fate, hscope, Findings.record]

/-- The fates of an observation. -/
def fatesOf (profiles : List DeviceProfileSpec) (observation : RegisterObservation) : List Fate :=
  if mappedProfiles profiles observation = [] then [.ignored "unmapped_source"]
  else (mappedProfiles profiles observation).map (fate observation)

/-- The fates of a run. -/
def fates (profiles : List DeviceProfileSpec) (observations : List RegisterObservation) :
    List Fate :=
  observations.flatMap (fatesOf profiles)

/-- The table by source gives the profiles that name the source, in their order. -/
theorem profilesBySource_lookup (observation : RegisterObservation) :
    ((profilesBySource profiles).lookup observation.sourceId).getD [] =
      mappedProfiles profiles observation := by
  have hlookup := getD_lookup_map_groups id DeviceProfileSpec.sourceId observation.sourceId
    (profiles.filter fun profile => profile.sourceId ≠ "")
  simp only [id_eq, Prod.mk.eta, List.map_id'] at hlookup
  rw [profilesBySource, hlookup, mappedProfiles, List.filter_filter]
  refine List.filter_congr fun profile _ => ?_
  simp [and_comm]

/-- One round of the outer loop records the fates of the observation's pairs, one after another. -/
theorem compareObservation_eq (observation : RegisterObservation) :
    compareObservation casefold (profilesBySource profiles) found observation =
      (fatesOf profiles observation).foldl (Findings.record casefold) found := by
  have hbody : compareProfile casefold observation = fun found profile =>
      found.record casefold (fate observation profile) :=
    funext₂ fun _ profile => compareProfile_eq observation profile
  rw [compareObservation, profilesBySource_lookup, fatesOf]
  split
  · rfl
  · rw [List.foldl_map, hbody]

/-- **The loop** records the fates in order. -/
theorem foldl_compareObservation :
    observations.foldl (compareObservation casefold (profilesBySource profiles)) found =
      (fates profiles observations).foldl (Findings.record casefold) found := by
  have hbody : compareObservation casefold (profilesBySource profiles) =
      fun found observation =>
        (fatesOf profiles observation).foldl (Findings.record casefold) found :=
    funext₂ fun _ observation => compareObservation_eq observation
  rw [fates, List.foldl_flatMap, hbody]

/-- The dictionaries hold what some fates leave. -/
structure Accounted (casefold : String → String) (found : Findings) (fates : List Fate) :
    Prop where
  ignored : Tallied found.ignored (fates.filterMap Fate.reason?)
  actionable : Assigned (ProposedChange.key casefold) found.actionable
    (fates.filterMap Fate.actionable?)
  candidates : Assigned (ProposedChange.key casefold) found.coverage
    (fates.filterMap Fate.candidate?)

/-- **Step lemma.**  One more fate is recorded where it belongs. -/
theorem Accounted.record {done : List Fate} (h : Accounted casefold found done) (f : Fate) :
    Accounted casefold (found.record casefold f) (done ++ [f]) := by
  constructor
  · rw [List.filterMap_append]
    cases f with
    | ignored reason => exact h.ignored.bump reason
    | actionable item => exact (List.append_nil _).symm ▸ h.ignored
    | candidate item => exact (List.append_nil _).symm ▸ h.ignored
  · rw [List.filterMap_append]
    cases f with
    | ignored reason => exact (List.append_nil _).symm ▸ h.actionable
    | actionable item => exact h.actionable.assign item
    | candidate item => exact (List.append_nil _).symm ▸ h.actionable
  · rw [List.filterMap_append]
    cases f with
    | ignored reason => exact (List.append_nil _).symm ▸ h.candidates
    | actionable item => exact (List.append_nil _).symm ▸ h.candidates
    | candidate item => exact h.candidates.assign item

/-- And any number of them. -/
theorem Accounted.foldl {done : List Fate} (h : Accounted casefold found done) (fs : List Fate) :
    Accounted casefold (fs.foldl (Findings.record casefold) found) (done ++ fs) := by
  induction fs generalizing found done with
  | nil => simpa using h
  | cons f fs ih =>
      rw [List.foldl_cons, List.append_cons]
      exact ih (h.record f)

/-- The entries of a comparison. -/
def CatalogComparison.findings (comparison : CatalogComparison) : Findings where
  actionable := comparison.actionable
  coverage := comparison.coverageCandidates
  ignored := comparison.ignoredCounts

/-- **Run lemma.**  What the whole loop has found are the fates of all pairs. -/
theorem accounted_loop : Accounted casefold
    (observations.foldl (compareObservation casefold (profilesBySource profiles)) {})
    (fates profiles observations) := by
  have hempty : Accounted casefold {} [] := ⟨.nil, .nil, .nil⟩
  rw [foldl_compareObservation]
  exact hempty.foldl (fates profiles observations)

/-- **A comparison** holds what the fates of its run leave. -/
theorem accounted : Accounted casefold (compareObservations casefold profiles observations).findings
    (fates profiles observations) where
  ignored := accounted_loop.ignored.of_perm (orderBy_perm _ _ _)
  actionable := accounted_loop.actionable.of_perm (orderBy_perm _ _ _)
  candidates := accounted_loop.candidates.of_perm (orderBy_perm _ _ _)

end Loop

/-! ## the fates of a run -/

section Fates

variable {profiles : List DeviceProfileSpec} {observations observations' : List RegisterObservation}

/-- A pair is never ignored for want of a profile; only an observation alone is. -/
theorem fate_ne_unmapped (observation : RegisterObservation) (profile : DeviceProfileSpec) :
    fate observation profile ≠ .ignored "unmapped_source" := by
  rw [fate]
  split
  · split <;> simp
  · split
    · simp
    · split <;> simp
  · cases observation.scope <;> simp [ObservationScope.name]

/-- A fate belongs to a pair, or to an observation whose source no profile names. -/
theorem mem_fates {f : Fate} : f ∈ fates profiles observations ↔
    (f = .ignored "unmapped_source" ∧ ∃ o ∈ observations, mappedProfiles profiles o = []) ∨
      ∃ pair ∈ pairs profiles observations, fate pair.1 pair.2 = f := by
  simp only [fates, fatesOf, pairs, List.mem_flatMap, List.mem_map]
  constructor
  · intro h
    obtain ⟨o, ho, hf⟩ := h
    split at hf
    · case isTrue hnone => exact .inl ⟨List.mem_singleton.mp hf, o, ho, hnone⟩
    · obtain ⟨profile, hprofile, rfl⟩ := List.mem_map.mp hf
      exact .inr ⟨(o, profile), ⟨o, ho, profile, hprofile, rfl⟩, rfl⟩
  · intro h
    obtain ⟨rfl, o, ho, hnone⟩ | ⟨-, ⟨o, ho, profile, hprofile, rfl⟩, rfl⟩ := h
    · exact ⟨o, ho, by rw [if_pos hnone]; exact List.mem_singleton_self _⟩
    · refine ⟨o, ho, ?_⟩
      rw [if_neg (List.ne_nil_of_mem hprofile)]
      exact List.mem_map_of_mem hprofile

/-- A fate that proposes a change is that of a pair. -/
theorem exists_pair {f : Fate} (hf : f ∈ fates profiles observations)
    (hreason : f ≠ .ignored "unmapped_source") :
    ∃ pair ∈ pairs profiles observations, fate pair.1 pair.2 = f :=
  (mem_fates.mp hf).resolve_left fun h => hreason h.1

/-- Another order of the observations gives the same fates in another order. -/
theorem fates_perm (h : observations'.Perm observations) :
    (fates profiles observations').Perm (fates profiles observations) :=
  h.flatMap_right _

/-- A reason is counted once for each fate ignored for it. -/
theorem count_reasons {fs : List Fate} {reason : String} :
    (fs.filterMap Fate.reason?).count reason = fs.countP fun f => f = .ignored reason := by
  induction fs with
  | nil => rfl
  | cons f fs ih =>
      rw [List.countP_cons, ← ih]
      cases f with
      | ignored other => simp [Fate.reason?, List.count_cons]
      | actionable item => simp [Fate.reason?, List.filterMap_cons]
      | candidate item => simp [Fate.reason?, List.filterMap_cons]

/-- The observations without profiles, counted. -/
theorem countP_unmapped :
    (fates profiles observations).countP (fun f => f = .ignored "unmapped_source") =
      observations.countP fun observation => mappedProfiles profiles observation = [] := by
  induction observations with
  | nil => rfl
  | cons o observations ih =>
      rw [List.countP_cons, ← ih, fates, List.flatMap_cons, List.countP_append, ← fates, add_comm]
      congr 1
      by_cases hnone : mappedProfiles profiles o = []
      · simp [fatesOf, hnone]
      · simp [fatesOf, hnone, List.countP_map, fate_ne_unmapped]

/-- The ignored pairs, counted. -/
theorem countP_ignored {reason : String} (hreason : reason ≠ "unmapped_source") :
    (fates profiles observations).countP (fun f => f = .ignored reason) =
      (pairs profiles observations).countP fun pair => fate pair.1 pair.2 = .ignored reason := by
  induction observations with
  | nil => rfl
  | cons o observations ih =>
      rw [fates, pairs, List.flatMap_cons, List.flatMap_cons, List.countP_append,
        List.countP_append, ← fates, ← pairs, ih]
      congr 1
      by_cases hnone : mappedProfiles profiles o = []
      · simp [fatesOf, hnone, hreason.symm]
      · rw [fatesOf, if_neg hnone, List.countP_map, List.countP_map]
        rfl

end Fates

/-! ## keys -/

section Keys

variable {casefold : String → String} {rows rows' : List ProposedChange}

/-- The parts of a key in the order of the sort. -/
def sorting (k : String × String × Int × String) : String ×ₗ Int ×ₗ String ×ₗ String :=
  toLex (k.1, toLex (k.2.2.1, toLex (k.2.1, k.2.2.2)))

/-- No two tuples sort alike, so the order of the report is decided. -/
theorem sorting_injective : Function.Injective sorting := by
  intro k k' h
  obtain ⟨profile, changeType, address, label⟩ := k
  obtain ⟨profile', changeType', address', label'⟩ := k'
  simp only [sorting, toLex_inj, Prod.mk.injEq] at h
  obtain ⟨rfl, rfl, rfl, rfl⟩ := h
  rfl

/-- Rows with keys of their own have sort keys of their own. -/
theorem keyed_sortKey (h : Keyed (ProposedChange.key casefold) rows) :
    Keyed (ProposedChange.sortKey casefold) rows := by
  have hmap : rows.map (ProposedChange.sortKey casefold) =
      (rows.map (ProposedChange.key casefold)).map sorting := by
    rw [List.map_map]
    rfl
  rw [Keyed, hmap]
  exact h.map sorting_injective

/-- The sorted keys depend on the keys only. -/
theorem keys_orderBy (h : (rows'.map (ProposedChange.key casefold)).Perm
      (rows.map (ProposedChange.key casefold))) :
    (orderBy (ProposedChange.sortKey casefold) .asc rows').map (ProposedChange.key casefold) =
      (orderBy (ProposedChange.sortKey casefold) .asc rows).map (ProposedChange.key casefold) := by
  refine sorting_injective.list_map ?_
  have hsorted : ∀ rs : List ProposedChange,
      ((orderBy (ProposedChange.sortKey casefold) .asc rs).map
        (ProposedChange.key casefold)).map sorting =
        orderBy id .asc ((rs.map (ProposedChange.key casefold)).map sorting) := by
    intro rs
    rw [List.map_map, List.map_map]
    exact (orderBy_map (ProposedChange.sortKey casefold) .asc rs).symm
  rw [hsorted, hsorted]
  exact orderBy_id_perm (h.map sorting)

end Keys

/-! ## conservation -/

section Conservation

variable {casefold : String → String} {profiles : List DeviceProfileSpec}
  {observations : List RegisterObservation} {observation : RegisterObservation}
  {profile : DeviceProfileSpec} {item : ProposedChange}

/-- What is actionable is an overlap with a reserved row. -/
theorem fate_actionable (h : fate observation profile = .actionable item) :
    item.changeType = "declared_register_overlaps_reserved_vendor_row" := by
  rw [fate] at h
  split at h
  · split at h
    · cases h
      rfl
    · cases h
  · split at h
    · cases h
    · split at h <;> cases h
  · cases h

/-- And a candidate never is one, so the two lists cannot share a change. -/
theorem fate_candidate (h : fate observation profile = .candidate item) :
    item.changeType ≠ "declared_register_overlaps_reserved_vendor_row" := by
  rw [fate] at h
  split at h
  · split at h <;> cases h
  · split at h
    · cases h
    · split at h
      · cases h
        simp [change]
      · cases h
        simp [change]
  · cases h

/-- The count of a reason is that of its fates. -/
theorem ignored_eq (reason : String) :
    (compareObservations casefold profiles observations).ignored reason =
      (fates profiles observations).countP fun f => f = .ignored reason := by
  have haccounts : Accounted casefold _ (fates profiles observations) := accounted
  rw [← count_reasons, ← haccounts.ignored.lookup]
  rfl

/-- Every row of the report is the fate of some pair. -/
theorem mem_actionable
    (h : item ∈ (compareObservations casefold profiles observations).actionable) :
    .actionable item ∈ fates profiles observations := by
  simpa using accounted.actionable.subset item h

theorem mem_coverageCandidates
    (h : item ∈ (compareObservations casefold profiles observations).coverageCandidates) :
    .candidate item ∈ fates profiles observations := by
  simpa using accounted.candidates.subset item h

/-- The keys of the two kinds of change differ. -/
theorem key_ne {item' : ProposedChange} (h : .actionable item ∈ fates profiles observations)
    (h' : .candidate item' ∈ fates profiles observations) :
    item.key casefold ≠ item'.key casefold := by
  intro hkey
  obtain ⟨pair, -, hfate⟩ := exists_pair h (by simp)
  obtain ⟨pair', -, hfate'⟩ := exists_pair h' (by simp)
  have htype : item.changeType = item'.changeType := congrArg (fun k => k.2.1) hkey
  exact fate_candidate hfate' (htype ▸ fate_actionable hfate)

/-- The place of a fate. -/
def Fate.place : Fate → Place
  | ignored _ => .ignored
  | actionable _ => .actionable
  | candidate _ => .candidates

section Pair

variable {pair : RegisterObservation × DeviceProfileSpec}

theorem fate_mem (hpair : pair ∈ pairs profiles observations) :
    fate pair.1 pair.2 ∈ fates profiles observations :=
  mem_fates.mpr (.inr ⟨pair, hpair, rfl⟩)

/-- In the report a pair is ignored exactly when its fate says so. -/
theorem holds_ignored (hpair : pair ∈ pairs profiles observations) :
    (compareObservations casefold profiles observations).Holds casefold pair .ignored ↔
      ∃ reason, fate pair.1 pair.2 = .ignored reason := by
  refine exists_congr fun reason => and_iff_left_of_imp fun hfate => ?_
  rw [ignored_eq]
  exact List.countP_pos_iff.mpr ⟨_, fate_mem hpair, by simpa using hfate⟩

/-- It is among the actionable changes exactly when its fate is. -/
theorem holds_actionable (hpair : pair ∈ pairs profiles observations) :
    (compareObservations casefold profiles observations).Holds casefold pair .actionable ↔
      ∃ item, fate pair.1 pair.2 = .actionable item := by
  refine exists_congr fun item => ?_
  rw [Fate.change?_eq_some]
  constructor
  · intro h
    obtain ⟨hfate | hfate, hkey⟩ := h
    · exact hfate
    · obtain ⟨other, hother, hkey⟩ := List.mem_map.mp hkey
      exact absurd hkey (key_ne (mem_actionable hother) (hfate ▸ fate_mem hpair))
  · intro hfate
    refine ⟨.inl hfate, accounted.actionable.mem_keys.mpr (List.mem_map_of_mem ?_)⟩
    simpa [hfate] using fate_mem hpair

/-- And among the candidates. -/
theorem holds_candidates (hpair : pair ∈ pairs profiles observations) :
    (compareObservations casefold profiles observations).Holds casefold pair .candidates ↔
      ∃ item, fate pair.1 pair.2 = .candidate item := by
  refine exists_congr fun item => ?_
  rw [Fate.change?_eq_some]
  constructor
  · intro h
    obtain ⟨hfate | hfate, hkey⟩ := h
    · obtain ⟨other, hother, hkey⟩ := List.mem_map.mp hkey
      exact absurd hkey.symm (key_ne (hfate ▸ fate_mem hpair) (mem_coverageCandidates hother))
    · exact hfate
  · intro hfate
    refine ⟨.inr hfate, accounted.candidates.mem_keys.mpr (List.mem_map_of_mem ?_)⟩
    simpa [hfate] using fate_mem hpair

/-- **A pair** is in the place of its fate. -/
theorem holds_iff (hpair : pair ∈ pairs profiles observations) {place : Place} :
    (compareObservations casefold profiles observations).Holds casefold pair place ↔
      (fate pair.1 pair.2).place = place := by
  cases place with
  | ignored =>
      rw [holds_ignored hpair]
      cases fate pair.1 pair.2 <;> simp [Fate.place]
  | actionable =>
      rw [holds_actionable hpair]
      cases fate pair.1 pair.2 <;> simp [Fate.place]
  | candidates =>
      rw [holds_candidates hpair]
      cases fate pair.1 pair.2 <;> simp [Fate.place]

end Pair

/-- Every pair is in exactly one part of the report, and nothing else is. -/
theorem conserved : Conserved casefold profiles observations
    (compareObservations casefold profiles observations) := by
  have haccounts : Accounted casefold
      (compareObservations casefold profiles observations).findings
      (fates profiles observations) := accounted
  have hloop : Accounted casefold _ (fates profiles observations) := accounted_loop
  constructor
  · rw [ignored_eq, countP_unmapped]
  · intro reason hreason
    rw [ignored_eq, countP_ignored hreason]
  · exact fun pair hpair => ⟨_, (holds_iff hpair).mpr rfl, fun _ h => ((holds_iff hpair).mp h).symm⟩
  · intro e he
    have hreason := (haccounts.ignored.mem e.1).mp ⟨e, he, rfl⟩
    simp only [List.mem_filterMap, Fate.reason?_eq_some, exists_eq_right] at hreason
    obtain ⟨hunmapped, hobservation⟩ | hpair := mem_fates.mp hreason
    · exact .inl ⟨Fate.ignored.inj hunmapped, hobservation⟩
    · exact .inr hpair
  · exact fun item hitem => exists_pair (mem_actionable hitem) (by simp)
  · exact fun item hitem => exists_pair (mem_coverageCandidates hitem) (by simp)
  · exact haccounts.ignored.keyed
  · exact haccounts.actionable.keyed
  · exact haccounts.candidates.keyed
  · exact orderBy_lt (hloop.ignored.keyed.of_map.map toLex.injective)
  · exact orderBy_lt (keyed_sortKey hloop.actionable.keyed)
  · exact orderBy_lt (keyed_sortKey hloop.candidates.keyed)

/-- The order of the observations decides at most which of two equal keys is shown. -/
theorem sameKeys {observations' : List RegisterObservation}
    (hperm : observations'.Perm observations) :
    SameKeys casefold (compareObservations casefold profiles observations)
      (compareObservations casefold profiles observations') := by
  have hloop : Accounted casefold _ (fates profiles observations) := accounted_loop
  have hloop' : Accounted casefold _ (fates profiles observations') := accounted_loop
  have hfates : (fates profiles observations').Perm (fates profiles observations) :=
    fates_perm hperm
  constructor
  · refine orderBy_eq_of_perm (hloop.ignored.keyed.of_map.map toLex.injective) ?_
    exact hloop.ignored.perm hloop'.ignored (hfates.filterMap _)
  · exact keys_orderBy (hloop.actionable.keys_perm hloop'.actionable (hfates.filterMap _))
  · exact keys_orderBy (hloop.candidates.keys_perm hloop'.candidates (hfates.filterMap _))

end Conservation

/-- **Documentation diff** conserves observations: each is accounted for under every profile of
its source, in any order. -/
theorem observations_conserved (casefold : String → String) (profiles : List DeviceProfileSpec)
    (observations : List RegisterObservation) :
    Conserved casefold profiles observations
        (compareObservations casefold profiles observations) ∧
      ∀ observations', observations'.Perm observations →
        SameKeys casefold (compareObservations casefold profiles observations)
          (compareObservations casefold profiles observations') :=
  ⟨conserved, fun _ hperm => sameKeys hperm⟩

end MorningstarModbus.Maintenance
