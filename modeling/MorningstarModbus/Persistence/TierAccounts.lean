import MorningstarModbus.Persistence.StorageRuns

/-!
# MorningstarModbus.Persistence.TierAccounts

Whether rollups and state runs account for every observation ever persisted, once
raw rows are pruned.

* `RollupsCount` — the times a tier's rollups count the raw observations of;
* `tiers_count` — a later tier of the same size cuts the buckets that its cutoff falls in;
* `maintain_returns_iff` — a call raises where a register has numbers and texts in one bucket;
* `tiers_account_iff` — a run keeps the accounts exactly when every `maintain` call starts with
  everything older than its cutoffs still raw, and with no such bucket.
-/

namespace MorningstarModbus

open Query Table

/-! ## the accounts -/

/-- The start of the bucket of a time. -/
def startOfBucket (bucketSeconds t : Nat) : Nat :=
  t / (bucketSeconds * 1000) * (bucketSeconds * 1000)

/-- The number of values `pick` finds at some times. -/
def valuesAt {V : Type} (pick : RegisterValue → Option V) (times : Nat → Bool)
    (rows : List ArchivedRow) : Nat :=
  rows.countP fun t => times t.sample.observedAtMs && (pick t.value).isSome

/-- The number of numeric and text observations at some times. -/
def observationsAt (times : Nat → Bool) (rows : List ArchivedRow) : Nat :=
  valuesAt RegisterValue.numericValue times rows + valuesAt RegisterValue.textValue times rows

/-- A row with a number or a text. -/
def ArchivedRow.Observes (t : ArchivedRow) : Prop :=
  t.value.numericValue.isSome = true ∨ t.value.textValue.isSome = true

/-- A value is of a kind. -/
def RollupKind.Of (kind : RollupKind) (v : RegisterValue) : Prop :=
  match kind with
  | .numeric => v.numericValue.isSome = true
  | .text => v.textValue.isSome = true

/-- A row is one of those a rollup counts. -/
def RollupRow.Counts (dictionary : List DictionaryRow) (r : RollupRow) (t : ArchivedRow) : Prop :=
  t.sample.deviceId = r.deviceId ∧
    startOfBucket r.bucketSeconds t.sample.observedAtMs = r.bucketStartMs ∧ r.kind.Of t.value ∧
    ∃ d ∈ dictionary, d.registerKey = r.registerKey ∧ d.entry = t.value.entry

/-- What the rollups of a tier count. -/
def StorageDb.tierCount (tier : Tier) (db : StorageDb) : Nat :=
  ((db.rollups.filter fun r => r.Older tier.cutoffMs tier.bucketSeconds).map
    RollupRow.sampleCount).sum

/-- What the state runs that start before a cutoff count. -/
def StorageDb.runCount (cutoffMs : Nat) (db : StorageDb) : Nat :=
  ((db.stateRuns.filter fun r => r.startedAtMs < cutoffMs).map StateRunRow.sampleCount).sum

/-- Rollups and state runs account once for every observation ever persisted that is older than
their cutoff. -/
structure Accounts (config : Retention) (now : Nat) (m : Machine) : Prop where
  rollups : ∀ tier ∈ config.tiers now,
    m.db.tierCount tier = observationsAt (fun t => t < tier.cutoffMs) m.persisted
  stateRuns : m.db.runCount (cutoffMs now config.hotDays) =
    valuesAt RegisterValue.textValue (fun t => t < cutoffMs now config.hotDays) m.persisted

/-- Rollups whose raw rows have been pruned do not change. -/
def RollupsStay (m m' : Machine) : Prop :=
  ∀ r ∈ m.db.rollups, (∀ t ∈ m.db.telemetry, ¬ r.Counts m.db.dictionary t) → r ∈ m'.db.rollups

/-- The tier rebuilds the bucket of a time without the time. -/
def Tier.Cuts (tier : Tier) (bucketSeconds t : Nat) : Prop :=
  tier.bucketSeconds = bucketSeconds ∧ startOfBucket bucketSeconds t < tier.cutoffMs ∧
    tier.cutoffMs ≤ t

instance (tier : Tier) (bucketSeconds t : Nat) : Decidable (tier.Cuts bucketSeconds t) := by
  unfold Tier.Cuts
  infer_instance

/-- What is older than the cutoffs of a call is still raw: every observation, and for every
rollup one of those it is of.  A later tier of the same size cuts no bucket, and no register has
numbers and texts in one bucket of a tier. -/
structure StillRaw (config : Retention) (now : Nat) (m : Machine) : Prop where
  raw : ∀ t ∈ m.persisted, t.Observes → t.sample.observedAtMs < cutoffMs now config.hotDays →
    t ∈ m.db.telemetry
  rollups : ∀ tier ∈ config.tiers now, ∀ r ∈ m.db.rollups,
    r.Older tier.cutoffMs tier.bucketSeconds →
      ∃ t ∈ m.db.telemetry, r.Counts m.db.dictionary t
  uncut : (config.tiers now).Pairwise fun tier later => ∀ t ∈ m.persisted, t.Observes →
    t.sample.observedAtMs < tier.cutoffMs →
      ¬ later.Cuts tier.bucketSeconds t.sample.observedAtMs
  unmixed : ∀ tier ∈ config.tiers now, ¬ MixedBucket tier.cutoffMs tier.bucketSeconds m.db

/-! ## counting -/

theorem telemetry_nodup {db : StorageDb} (hdb : db.TablesKeyed) : db.telemetry.Nodup := by
  refine (telemetry_pairwise hdb).imp fun {t u} hne heq => ?_
  exact hne (congrArg (fun r => r.value.registerName) heq) (congrArg (fun r => r.sample.id) heq)

section Counting

variable {V : Type} {pick : RegisterValue → Option V} {cutoffMs bucketSeconds : Nat}
  {rows persisted : List ArchivedRow} {db : StorageDb}

theorem valuesAt_split (pick : RegisterValue → Option V) (p q : Nat → Bool)
    (rows : List ArchivedRow) :
    valuesAt pick p rows =
      valuesAt pick (fun t => p t && q t) rows + valuesAt pick (fun t => p t && !q t) rows := by
  have hsplit := List.countP_eq_countP_filter_add rows
    (fun t : ArchivedRow => p t.sample.observedAtMs && (pick t.value).isSome)
    fun t => q t.sample.observedAtMs
  rw [List.countP_filter, List.countP_filter] at hsplit
  simpa only [valuesAt, Bool.and_right_comm] using hsplit

theorem observationsAt_split (p q : Nat → Bool) (rows : List ArchivedRow) :
    observationsAt p rows =
      observationsAt (fun t => p t && q t) rows + observationsAt (fun t => p t && !q t) rows := by
  have hnumbers := valuesAt_split RegisterValue.numericValue p q rows
  have htexts := valuesAt_split RegisterValue.textValue p q rows
  simp only [observationsAt]
  omega

/-- The rows of a base table are the values older than the cutoff. -/
theorem base_valuesAt (hdb : db.TablesKeyed) (hknown : db.Known) (p : Nat → Bool) :
    ((observedRows pick cutoffMs db).filter fun o => p o.observedAtMs).length =
      valuesAt pick (fun t => decide (t < cutoffMs) && p t) db.telemetry := by
  have hpoints : ∀ rows : List ArchivedRow,
      (((rows.filter fun t => t.sample.observedAtMs < cutoffMs).flatMap (pointsOf pick)).filter
        fun q => p q.observedAtMs).length =
      valuesAt pick (fun t => decide (t < cutoffMs) && p t) rows := by
    intro rows
    induction rows with
    | nil => rfl
    | cons t rows ih =>
        simp only [valuesAt, List.countP_cons] at ih ⊢
        rw [← ih]
        by_cases hold : t.sample.observedAtMs < cutoffMs
        · cases hpick : pick t.value with
          | none => simp [hold, pointsOf, hpick]
          | some x => cases hp : p t.sample.observedAtMs <;> simp [hold, pointsOf, hpick, hp]
        · simp [hold]
  have hperm := ((@base_values V pick cutoffMs db hdb hknown).filter fun q =>
    p q.observedAtMs).length_eq
  rw [olderValues, hpoints, List.filter_map, List.length_map] at hperm
  exact hperm

/-- Counts of a part of the persisted rows agree exactly when the part has them all. -/
theorem observationsAt_eq_iff {p q : Nat → Bool} (hrows : rows.Nodup) (hpersisted : persisted.Nodup)
    (hsub : rows ⊆ persisted) (hpq : ∀ t, p t = true → q t = true) :
    observationsAt p rows = observationsAt q persisted ↔
      ∀ t ∈ persisted, t.Observes → q t.sample.observedAtMs = true →
        t ∈ rows ∧ p t.sample.observedAtMs = true := by
  have hle : ∀ {W : Type} (pick : RegisterValue → Option W) (t : ArchivedRow), t ∈ rows →
      (p t.sample.observedAtMs && (pick t.value).isSome) = true →
        (q t.sample.observedAtMs && (pick t.value).isSome) = true := by
    intro W pick t _ h
    rw [Bool.and_eq_true] at h ⊢
    exact ⟨hpq _ h.1, h.2⟩
  have hnumbers := countP_le_of_subset hrows hsub (hle RegisterValue.numericValue)
  have htexts := countP_le_of_subset hrows hsub (hle RegisterValue.textValue)
  have hnumbers' := countP_eq_iff_of_subset hrows hpersisted hsub (hle RegisterValue.numericValue)
  have htexts' := countP_eq_iff_of_subset hrows hpersisted hsub (hle RegisterValue.textValue)
  simp only [Bool.and_eq_true] at hnumbers' htexts'
  constructor
  · intro heq t ht hobserves hq
    simp only [observationsAt, valuesAt] at heq
    cases hobserves with
    | inl hnumber =>
        obtain ⟨hmem, hp, -⟩ := hnumbers'.mp (by omega) t ht ⟨hq, hnumber⟩
        exact ⟨hmem, hp⟩
    | inr htext =>
        obtain ⟨hmem, hp, -⟩ := htexts'.mp (by omega) t ht ⟨hq, htext⟩
        exact ⟨hmem, hp⟩
  · intro hall
    simp only [observationsAt, valuesAt]
    rw [hnumbers'.mpr, htexts'.mpr]
    · intro t ht h
      obtain ⟨hmem, hp⟩ := hall t ht (.inr h.2) h.1
      exact ⟨hmem, hp, h.2⟩
    · intro t ht h
      obtain ⟨hmem, hp⟩ := hall t ht (.inl h.2) h.1
      exact ⟨hmem, hp, h.2⟩

end Counting

/-! ## one tier -/

section Build

variable {tier later : Tier} {counted : Nat → Bool} {db db' : StorageDb} {r : RollupRow}

/-- The rollups of a tier count the raw observations at some times, each in its bucket. -/
def RollupsCount (tier : Tier) (counted : Nat → Bool) (db : StorageDb) : Prop :=
  ∀ p : Nat → Bool,
    ((db.rollups.filter fun r =>
        decide (r.Older tier.cutoffMs tier.bucketSeconds) && p r.bucketStartMs).map
      RollupRow.sampleCount).sum =
    observationsAt (fun t => counted t && p (startOfBucket tier.bucketSeconds t)) db.telemetry

/-- The rows of the two statements. -/
def newRollups (tier : Tier) (db : StorageDb) : List RollupRow :=
  numericRollups tier.cutoffMs tier.bucketSeconds db ++
    textRollups tier.cutoffMs tier.bucketSeconds db

theorem sum_newRollups (hdb : db.TablesKeyed) (hknown : db.Known) (tier : Tier) (p : Nat → Bool) :
    (((newRollups tier db).filter fun r => p r.bucketStartMs).map RollupRow.sampleCount).sum =
      observationsAt (fun t => decide (t < tier.cutoffMs) &&
        p (startOfBucket tier.bucketSeconds t)) db.telemetry := by
  rw [newRollups, List.filter_append, List.map_append, List.sum_append, observationsAt]
  congr 1
  · rw [← base_valuesAt hdb hknown fun t => p (startOfBucket tier.bucketSeconds t)]
    exact sum_groupRows_filter (numericRollup_rows tier.bucketSeconds) p
  · rw [← base_valuesAt hdb hknown fun t => p (startOfBucket tier.bucketSeconds t)]
    exact sum_groupRows_filter (textRollup_rows tier.bucketSeconds _) p

/-- A row of the two statements counts a raw row. -/
theorem newRollups_counts (hdb : db.TablesKeyed) (hpos : 1 ≤ tier.bucketSeconds)
    (hr : r ∈ newRollups tier db) :
    r.Older tier.cutoffMs tier.bucketSeconds ∧ ∃ t ∈ db.telemetry, r.Counts db.dictionary t := by
  have hcounts : ∀ {V : Type} {pick : RegisterValue → Option V}
      {row : (String × Nat × Nat) × List (Observed V) → RollupRow},
      GroupRows tier.bucketSeconds row → (∀ g, ∀ v, (pick v).isSome = true → (row g).kind.Of v) →
      r ∈ groupRows pick tier.cutoffMs tier.bucketSeconds db row →
      r.Older tier.cutoffMs tier.bucketSeconds ∧ ∃ t ∈ db.telemetry, r.Counts db.dictionary t := by
    intro V pick row hrow hkind hmem
    obtain ⟨hold, d, hd, hkey, g, hg, -, hne, -⟩ := mem_groupRows hdb hpos hrow hmem
    obtain ⟨q, hq⟩ := List.exists_mem_of_ne_nil _ hne
    obtain ⟨hseries, hbucket⟩ := List.mem_filter.mp hq
    obtain ⟨s, hs, v, hv, hid, hdevice, hentry, -, hpick, htime, -⟩ := mem_seriesOf.mp hseries
    rw [decide_eq_true_eq, inBucket_iff (by omega), htime] at hbucket
    refine ⟨hold, ⟨s, v⟩, mem_telemetry.mpr ⟨hs, hv, hid⟩, hdevice, ?_, ?_, d, hd, hkey,
      hentry.symm⟩
    · rw [hold.1]
      exact hbucket
    · rw [hg]
      exact hkind g v (by rw [hpick, Option.isSome_some])
  cases List.mem_append.mp hr with
  | inl hnumeric =>
      exact hcounts (numericRollup_rows tier.bucketSeconds) (fun _ _ h => h) hnumeric
  | inr htext => exact hcounts (textRollup_rows tier.bucketSeconds _) (fun _ _ h => h) htext

/-- What building a tier does. -/
structure Built (tier : Tier) (db db' : StorageDb) : Prop where
  telemetry : db'.telemetry = db.telemetry
  keyed : db'.TablesKeyed
  known : db'.Known
  grows : ∀ d ∈ db.dictionary, d ∈ db'.dictionary
  positive : 1 ≤ tier.bucketSeconds
  rollups : db'.rollups =
    db.rollups.filter (fun r => ¬ r.Older tier.cutoffMs tier.bucketSeconds) ++ newRollups tier db'

theorem buildTier_built (hdb : db.TablesKeyed) (h : buildTier db tier = .ok db') :
    Built tier db db' := by
  obtain ⟨n, h⟩ := buildTier_eq_ok.mp h
  obtain ⟨hpos, hdb', hrollups⟩ := buildRollups_ok h
  obtain ⟨hkeyed, hknown⟩ := refresh_known hdb
  rw [hdb'] at hrollups ⊢
  refine ⟨rfl, { hkeyed with rollups := hrollups }, hknown, ?_, hpos, ?_⟩
  · exact fun d hd => refresh_grows hdb hd
  · exact List.append_assoc _ _ _

/-- A row that a tier leaves is one it did not reach, or counts a raw row. -/
theorem Built.row (h : Built tier db db') (hr : r ∈ db'.rollups) :
    (r ∈ db.rollups ∧ ¬ r.Older tier.cutoffMs tier.bucketSeconds) ∨
      ∃ t ∈ db'.telemetry, r.Counts db'.dictionary t := by
  rw [h.rollups] at hr
  cases List.mem_append.mp hr with
  | inl hkept =>
      rw [List.mem_filter, decide_eq_true_eq] at hkept
      exact .inl hkept
  | inr hnew => exact .inr (newRollups_counts h.keyed h.positive hnew).2

/-- A tier counts the raw observations older than its cutoff. -/
theorem Built.count (h : Built tier db db') :
    RollupsCount tier (fun t => t < tier.cutoffMs) db' := by
  intro p
  have hkept : (db.rollups.filter fun r => ¬ r.Older tier.cutoffMs tier.bucketSeconds).filter
      (fun r => decide (r.Older tier.cutoffMs tier.bucketSeconds) && p r.bucketStartMs) = [] := by
    rw [List.filter_eq_nil_iff]
    intro r hr hboth
    rw [List.mem_filter, decide_eq_true_eq] at hr
    rw [Bool.and_eq_true, decide_eq_true_eq] at hboth
    exact hr.2 hboth.1
  have hnew : (newRollups tier db').filter
      (fun r => decide (r.Older tier.cutoffMs tier.bucketSeconds) && p r.bucketStartMs) =
      (newRollups tier db').filter fun r => p r.bucketStartMs := by
    refine List.filter_congr fun r hr => ?_
    simp [(newRollups_counts h.keyed h.positive hr).1]
  rw [h.rollups, List.filter_append, hkept, hnew, List.nil_append,
    sum_newRollups h.keyed h.known]

/-- A tier of another size leaves the count. -/
theorem Built.keeps_of_ne (h : Built later db db') (hne : later.bucketSeconds ≠ tier.bucketSeconds)
    (hcount : RollupsCount tier counted db) : RollupsCount tier counted db' := by
  intro p
  have hkept : (db.rollups.filter fun r => ¬ r.Older later.cutoffMs later.bucketSeconds).filter
      (fun r => decide (r.Older tier.cutoffMs tier.bucketSeconds) && p r.bucketStartMs) =
      db.rollups.filter fun r =>
        decide (r.Older tier.cutoffMs tier.bucketSeconds) && p r.bucketStartMs := by
    rw [List.filter_filter]
    refine List.filter_congr fun r _ => ?_
    by_cases hold : r.Older tier.cutoffMs tier.bucketSeconds
    · have hlater : ¬ r.Older later.cutoffMs later.bucketSeconds :=
        fun hlater => hne (hlater.1.symm.trans hold.1)
      simp [hold, hlater]
    · simp [hold]
  have hnew : (newRollups later db').filter
      (fun r => decide (r.Older tier.cutoffMs tier.bucketSeconds) && p r.bucketStartMs) = [] := by
    rw [List.filter_eq_nil_iff]
    intro r hr hboth
    rw [Bool.and_eq_true, decide_eq_true_eq] at hboth
    have hlater := (newRollups_counts h.keyed h.positive hr).1
    exact hne (hlater.1.symm.trans hboth.1.1)
  rw [h.rollups, List.filter_append, hkept, hnew, List.append_nil, h.telemetry]
  exact hcount p

/-- A later tier of the same size cuts the bucket that its cutoff falls in. -/
theorem Built.keeps_of_eq (h : Built later db db')
    (hsize : later.bucketSeconds = tier.bucketSeconds) (hle : later.cutoffMs ≤ tier.cutoffMs)
    (hcounted : ∀ t < later.cutoffMs, counted t = true) (hcount : RollupsCount tier counted db) :
    RollupsCount tier (fun t => counted t && !later.Cuts tier.bucketSeconds t) db' := by
  intro p
  have hkept : (db.rollups.filter fun r => ¬ r.Older later.cutoffMs later.bucketSeconds).filter
      (fun r => decide (r.Older tier.cutoffMs tier.bucketSeconds) && p r.bucketStartMs) =
      db.rollups.filter fun r => decide (r.Older tier.cutoffMs tier.bucketSeconds) &&
        (p r.bucketStartMs && !decide (r.bucketStartMs < later.cutoffMs)) := by
    rw [List.filter_filter]
    refine List.filter_congr fun r _ => ?_
    by_cases hold : r.Older tier.cutoffMs tier.bucketSeconds
    · have hlater : r.Older later.cutoffMs later.bucketSeconds ↔ r.bucketStartMs < later.cutoffMs :=
        ⟨fun h => h.2, fun h => ⟨hold.1.trans hsize.symm, h⟩⟩
      simp [hold, hlater, ← decide_not]
    · simp [hold]
  have hnew : (newRollups later db').filter
      (fun r => decide (r.Older tier.cutoffMs tier.bucketSeconds) && p r.bucketStartMs) =
      (newRollups later db').filter fun r => p r.bucketStartMs := by
    refine List.filter_congr fun r hr => ?_
    have hlater := (newRollups_counts h.keyed h.positive hr).1
    have hold : r.Older tier.cutoffMs tier.bucketSeconds :=
      ⟨hlater.1.trans hsize, hlater.2.trans_le hle⟩
    simp [hold]
  have hbefore := hcount fun start => p start && !decide (start < later.cutoffMs)
  have hstart : ∀ t, startOfBucket tier.bucketSeconds t ≤ t := fun t => Nat.div_mul_le_self _ _
  -- the new rows count the times before the later cutoff, the kept ones the buckets after it
  rw [observationsAt_split _ fun t =>
    decide (startOfBucket tier.bucketSeconds t < later.cutoffMs)]
  rw [h.rollups, List.filter_append, hkept, hnew, List.map_append, List.sum_append, hbefore,
    sum_newRollups h.keyed h.known, hsize, h.telemetry, Nat.add_comm]
  congr 2 <;> funext t <;> have ht := hstart t
  · by_cases hcut : startOfBucket tier.bucketSeconds t < later.cutoffMs
    · by_cases hbefore : t < later.cutoffMs
      · simp [hcut, hbefore, hcounted t hbefore, Tier.Cuts]
      · simp [hcut, hbefore, Tier.Cuts, hsize, not_lt.mp hbefore]
    · have hafter : ¬ t < later.cutoffMs := fun hlt => hcut (ht.trans_lt hlt)
      simp [hcut, hafter]
  · by_cases hcut : startOfBucket tier.bucketSeconds t < later.cutoffMs
    · simp [hcut]
    · simp [hcut, Tier.Cuts]

theorem Built.keeps (h : Built later db db') (hle : later.cutoffMs ≤ tier.cutoffMs)
    (hcounted : ∀ t < later.cutoffMs, counted t = true) (hcount : RollupsCount tier counted db) :
    RollupsCount tier (fun t => counted t && !later.Cuts tier.bucketSeconds t) db' := by
  by_cases hsize : later.bucketSeconds = tier.bucketSeconds
  · exact h.keeps_of_eq hsize hle hcounted hcount
  · have huncut : (fun t => counted t && !later.Cuts tier.bucketSeconds t) = counted := by
      funext t
      simp [Tier.Cuts, hsize]
    rw [huncut]
    exact h.keeps_of_ne hsize hcount

end Build

/-! ## the tiers of a call -/

section Tiers

variable {tier : Tier} {tiers later : List Tier} {counted : Nat → Bool} {db db' : StorageDb}

/-- What the later tiers leave of a tier's count. -/
theorem later_keep (hdb : db.TablesKeyed)
    (hle : ∀ l ∈ later, l.cutoffMs ≤ tier.cutoffMs ∧ ∀ t < l.cutoffMs, counted t = true)
    (hpair : later.Pairwise fun a b => b.cutoffMs ≤ a.cutoffMs)
    (hcount : RollupsCount tier counted db) (h : later.foldlM buildTier db = .ok db') :
    RollupsCount tier (fun t => counted t && later.all fun l => !l.Cuts tier.bucketSeconds t)
      db' := by
  induction later generalizing db counted with
  | nil =>
      cases h
      simpa using hcount
  | cons l later ih =>
      rw [List.foldlM_cons, Loop.bind_eq_ok] at h
      obtain ⟨mid, hmid, h⟩ := h
      have hbuilt := buildTier_built hdb hmid
      obtain ⟨hfirst, hrest⟩ := List.forall_mem_cons.mp hle
      obtain ⟨hbelow, hpair⟩ := List.pairwise_cons.mp hpair
      have hkeep := hbuilt.keeps hfirst.1 hfirst.2 hcount
      have hall := ih hbuilt.keyed (fun a ha => ⟨(hrest a ha).1, fun t ht => ?_⟩) hpair hkeep h
      · simpa [Bool.and_assoc] using hall
      · have hnot : ¬ l.Cuts tier.bucketSeconds t := by
          intro hcut
          exact absurd (ht.trans_le (hbelow a ha)) (not_lt.mpr hcut.2.2)
        simp [(hrest a ha).2 t ht, hnot]

/-- What all tiers leave. -/
structure AllBuilt (tiers : List Tier) (db db' : StorageDb) : Prop where
  telemetry : db'.telemetry = db.telemetry
  keyed : db'.TablesKeyed
  grows : ∀ d ∈ db.dictionary, d ∈ db'.dictionary
  row : ∀ r ∈ db'.rollups, ∀ tier ∈ tiers, r.Older tier.cutoffMs tier.bucketSeconds →
    ∃ t ∈ db'.telemetry, r.Counts db'.dictionary t
  kept : ∀ r ∈ db.rollups, (∀ tier ∈ tiers, ¬ r.Older tier.cutoffMs tier.bucketSeconds) →
    r ∈ db'.rollups

theorem RollupRow.Counts.mono {dictionary dictionary' : List DictionaryRow} {r : RollupRow}
    {t : ArchivedRow} (hgrows : ∀ d ∈ dictionary, d ∈ dictionary') (h : r.Counts dictionary t) :
    r.Counts dictionary' t := by
  obtain ⟨hdevice, hstart, hkind, d, hd, hkey⟩ := h
  exact ⟨hdevice, hstart, hkind, d, hgrows d hd, hkey⟩

theorem tiers_built (hdb : db.TablesKeyed) (h : tiers.foldlM buildTier db = .ok db') :
    AllBuilt tiers db db' := by
  refine Loop.foldlM_prefix (fun done db' => AllBuilt done db db') h
    ⟨rfl, hdb, fun _ hd => hd, by simp, fun r hr _ => hr⟩ ?_
  intro done tier _ mid mid' _ hmid hbuild
  have hbuilt := buildTier_built hmid.keyed hbuild
  refine ⟨hbuilt.telemetry.trans hmid.telemetry, hbuilt.keyed,
    fun d hd => hbuilt.grows d (hmid.grows d hd), ?_, ?_⟩
  · intro r hr a ha hold
    cases hbuilt.row hr with
    | inl hkept =>
        have hdone : a ∈ done := by
          refine (List.mem_append.mp ha).resolve_right fun hlast => ?_
          rw [List.mem_singleton] at hlast
          exact hkept.2 (hlast ▸ hold)
        obtain ⟨t, ht, hcounts⟩ := hmid.row r hkept.1 a hdone hold
        exact ⟨t, hbuilt.telemetry ▸ ht, hcounts.mono hbuilt.grows⟩
    | inr hnew => exact hnew
  · intro r hr hnone
    have hmem := hmid.kept r hr fun a ha => hnone a (List.mem_append_left _ ha)
    rw [hbuilt.rollups]
    refine List.mem_append_left _ (List.mem_filter.mpr ⟨hmem, decide_eq_true ?_⟩)
    exact hnone tier (List.mem_append_right _ (List.mem_singleton_self tier))

/-- **The tiers of a call**: each counts the raw observations older than its cutoff that no
later tier cuts. -/
theorem tiers_count {done : List Tier} (hdb : db.TablesKeyed)
    (hpair : (done ++ tier :: later).Pairwise fun a b => b.cutoffMs ≤ a.cutoffMs)
    (h : (done ++ tier :: later).foldlM buildTier db = .ok db') :
    db'.tierCount tier = observationsAt (fun t => decide (t < tier.cutoffMs) &&
      later.all fun l => !l.Cuts tier.bucketSeconds t) db.telemetry := by
  rw [List.foldlM_append, Loop.bind_eq_ok] at h
  obtain ⟨before, hbefore, h⟩ := h
  rw [List.foldlM_cons, Loop.bind_eq_ok] at h
  obtain ⟨mid, hmid, h⟩ := h
  have hdone := tiers_built hdb hbefore
  have hbuilt := buildTier_built hdone.keyed hmid
  have hlater := List.pairwise_cons.mp (List.pairwise_append.mp hpair).2.1
  have hcount := later_keep hbuilt.keyed
    (fun l hl => ⟨hlater.1 l hl, fun t ht => decide_eq_true (ht.trans_le (hlater.1 l hl))⟩)
    hlater.2 hbuilt.count h
  have hraw : db'.telemetry = db.telemetry := (tiers_built hbuilt.keyed h).telemetry.trans
    (hbuilt.telemetry.trans hdone.telemetry)
  have hall := hcount fun _ => true
  rw [hraw] at hall
  simpa only [StorageDb.tierCount, Bool.and_true] using hall

/-- Buckets are of the raw tables. -/
theorem MixedBucket.congr {cutoffMs bucketSeconds : Nat} (h : db.SameRaw db') :
    MixedBucket cutoffMs bucketSeconds db' ↔ MixedBucket cutoffMs bucketSeconds db := by
  simp only [MixedBucket, bucketPoints, seriesOf, StorageDb.telemetry, h.samples, h.values]

/-- Building a tier leaves the raw tables. -/
theorem buildTier_sameRaw (h : buildTier db tier = .ok db') : db.SameRaw db' := by
  obtain ⟨n, h⟩ := buildTier_eq_ok.mp h
  exact buildRollups_sameRaw h

/-- A tier is built where no register has numbers and texts in one of its buckets. -/
theorem buildTier_returns (hdb : db.TablesKeyed) (hpos : 1 ≤ tier.bucketSeconds)
    (hmixed : ¬ MixedBucket tier.cutoffMs tier.bucketSeconds db) :
    ∃ db', buildTier db tier = .ok db' := by
  obtain ⟨db', n, hok, -⟩ := (rollups_exact_iff tier.cutoffMs hpos hdb).mpr hmixed
  exact ⟨db', buildTier_eq_ok.mpr ⟨n, hok⟩⟩

/-- A tier that was built has no such bucket. -/
theorem unmixed_of_buildTier (hdb : db.TablesKeyed) (h : buildTier db tier = .ok db') :
    ¬ MixedBucket tier.cutoffMs tier.bucketSeconds db := by
  obtain ⟨n, h⟩ := buildTier_eq_ok.mp h
  obtain ⟨hpos, rfl, hkeyed⟩ := buildRollups_ok h
  obtain ⟨hdb', hknown⟩ := refresh_known hdb
  rw [← MixedBucket.congr (sameRaw_refreshRegisterDictionary db)]
  exact (keyed_rebuilt_iff hdb' hknown hpos).mp hkeyed

/-- Nor has any of the tiers that were built one after another. -/
theorem unmixed_of_tiers (hdb : db.TablesKeyed) (h : tiers.foldlM buildTier db = .ok db') :
    ∀ tier ∈ tiers, ¬ MixedBucket tier.cutoffMs tier.bucketSeconds db := by
  induction tiers generalizing db with
  | nil => simp
  | cons tier tiers ih =>
      rw [List.foldlM_cons, Loop.bind_eq_ok] at h
      obtain ⟨mid, hmid, h⟩ := h
      have hlater := ih (buildTier_built hdb hmid).keyed h
      simp only [MixedBucket.congr (buildTier_sameRaw hmid)] at hlater
      exact List.forall_mem_cons.mpr ⟨unmixed_of_buildTier hdb hmid, hlater⟩

/-- Tiers without such buckets are built. -/
theorem tiers_return (hdb : db.TablesKeyed) (hpos : ∀ tier ∈ tiers, 1 ≤ tier.bucketSeconds)
    (hunmixed : ∀ tier ∈ tiers, ¬ MixedBucket tier.cutoffMs tier.bucketSeconds db) :
    ∃ db', tiers.foldlM buildTier db = .ok db' := by
  induction tiers generalizing db with
  | nil => exact ⟨db, rfl⟩
  | cons tier tiers ih =>
      obtain ⟨hfirst, hrest⟩ := List.forall_mem_cons.mp hpos
      obtain ⟨hnow, hlater⟩ := List.forall_mem_cons.mp hunmixed
      obtain ⟨mid, hmid⟩ := buildTier_returns hdb hfirst hnow
      simp only [← MixedBucket.congr (buildTier_sameRaw hmid)] at hlater
      obtain ⟨db', h⟩ := ih (buildTier_built hdb hmid).keyed hrest hlater
      exact ⟨db', by rw [List.foldlM_cons, hmid]; exact h⟩

end Tiers

/-- The state runs count the raw texts older than their cutoff. -/
theorem stateRuns_count {cutoffMs n : Nat} {db db' : StorageDb} (hdb : db.TablesKeyed)
    (h : buildStateRuns cutoffMs db = .ok (db', n)) :
    db'.runCount cutoffMs =
      valuesAt RegisterValue.textValue (fun t => t < cutoffMs) db.telemetry := by
  rw [buildStateRuns_eq hdb, Except.ok.injEq, Prod.mk.injEq] at h
  obtain ⟨rfl, -⟩ := h
  obtain ⟨known, hknown⟩ : ∃ known, known = (refreshRegisterDictionary db).1 := ⟨_, rfl⟩
  obtain ⟨hkeyed, hall⟩ := hknown ▸ refresh_known hdb
  have htelemetry : db.telemetry = known.telemetry := by rw [hknown]; rfl
  have hkept : (known.stateRuns.filter fun r => ¬ r.startedAtMs < cutoffMs).filter
      (fun r => r.startedAtMs < cutoffMs) = [] := by
    rw [List.filter_eq_nil_iff]
    intro r hr hold
    have hnot := (List.mem_filter.mp hr).2
    rw [decide_eq_true_eq] at hold hnot
    exact hnot hold
  have hnew : (stateRunRows cutoffMs known).filter (fun r => r.startedAtMs < cutoffMs) =
      stateRunRows cutoffMs known := by
    rw [List.filter_eq_self]
    exact fun r hr => decide_eq_true (started_lt hkeyed hr)
  have hcounts : ((stateRunRows cutoffMs known).map StateRunRow.sampleCount).sum =
      (observedRows RegisterValue.textValue cutoffMs known).length := by
    rw [stateRunRows, List.map_map]
    exact sum_length_groups _ _
  have hbase := @base_valuesAt String RegisterValue.textValue cutoffMs known hkeyed hall
    fun _ => true
  simp only [Bool.and_true, List.filter_true] at hbase
  rw [← hknown, StorageDb.runCount, rebuiltStateRuns, List.filter_append, hkept, hnew,
    List.nil_append, hcounts, hbase, htelemetry]

/-! ## whole calls -/

section Calls

variable {env : StorageEnv} {config : Retention} {now : Nat} {m m' : Machine}

theorem cutoffMs_anti {days days' : Nat} (h : days ≤ days') :
    cutoffMs now days' ≤ cutoffMs now days :=
  Nat.sub_le_sub_left (Nat.mul_le_mul_right _ h) _

/-- The counts of a call are right exactly when everything older than the cutoffs is raw and no
later tier cuts a bucket. -/
theorem tierCounts_iff {db db' : StorageDb} {persisted : List ArchivedRow}
    (hdays : config.hotDays ≤ config.warmDays ∧ config.warmDays ≤ config.coolDays)
    (hdb : db.TablesKeyed) (hsub : db.telemetry ⊆ persisted) (hnodup : persisted.Nodup)
    (h : (config.tiers now).foldlM buildTier db = .ok db') :
    (∀ tier ∈ config.tiers now,
        db'.tierCount tier = observationsAt (fun t => t < tier.cutoffMs) persisted) ↔
      (∀ t ∈ persisted, t.Observes → t.sample.observedAtMs < cutoffMs now config.hotDays →
        t ∈ db.telemetry) ∧
      (config.tiers now).Pairwise fun tier later => ∀ t ∈ persisted, t.Observes →
        t.sample.observedAtMs < tier.cutoffMs →
          ¬ later.Cuts tier.bucketSeconds t.sample.observedAtMs := by
  have hpair : (config.tiers now).Pairwise fun a b => b.cutoffMs ≤ a.cutoffMs := by
    have hwarm := @cutoffMs_anti now _ _ hdays.1
    have hcool := @cutoffMs_anti now _ _ hdays.2
    simp [Retention.tiers, hwarm, hcool, hcool.trans hwarm]
  have hraw := telemetry_nodup hdb
  have htier : ∀ done tier later, config.tiers now = done ++ tier :: later →
      (db'.tierCount tier = observationsAt (fun t => t < tier.cutoffMs) persisted ↔
        ∀ t ∈ persisted, t.Observes → t.sample.observedAtMs < tier.cutoffMs →
          t ∈ db.telemetry ∧ ∀ l ∈ later, ¬ l.Cuts tier.bucketSeconds t.sample.observedAtMs) := by
    intro done tier later htiers
    rw [htiers] at hpair h
    rw [tiers_count hdb hpair h, observationsAt_eq_iff hraw hnodup hsub
      fun t ht => (Bool.and_eq_true_iff.mp ht).1]
    simp only [decide_eq_true_eq, Bool.and_eq_true, List.all_eq_true, Bool.not_eq_true',
      decide_eq_false_iff_not]
    constructor
    · intro hall t ht hobserves hold
      exact ⟨(hall t ht hobserves hold).1, (hall t ht hobserves hold).2.2⟩
    · intro hall t ht hobserves hold
      exact ⟨(hall t ht hobserves hold).1, hold, (hall t ht hobserves hold).2⟩
  constructor
  · intro hcounts
    constructor
    · intro t ht hobserves hold
      exact ((htier [] _ _ rfl).mp (hcounts _ List.mem_cons_self) t ht hobserves hold).1
    · rw [List.pairwise_iff_forall_sublist]
      intro tier later hsub t ht hobserves hold
      obtain ⟨front, rest, htiers, hfront, hlater⟩ := List.cons_sublist_iff.mp hsub
      obtain ⟨done, between, hsplit⟩ := List.append_of_mem hfront
      rw [hsplit, List.append_assoc, List.cons_append] at htiers
      have hmem : tier ∈ config.tiers now := by simp [htiers]
      exact ((htier done tier _ htiers).mp (hcounts tier hmem) t ht hobserves hold).2 later
        (List.mem_append_right _ (List.singleton_sublist.mp hlater))
  · intro h tier hmem
    obtain ⟨hall, huncut⟩ := h
    obtain ⟨done, later, htiers⟩ := List.append_of_mem hmem
    refine (htier done tier later htiers).mpr fun t ht hobserves hold => ⟨?_, ?_⟩
    · have hhot : tier.cutoffMs ≤ cutoffMs now config.hotDays := by
        cases List.mem_cons.mp hmem with
        | inl hfirst => exact hfirst ▸ le_refl _
        | inr hlater => exact (List.pairwise_cons.mp hpair).1 tier hlater
      exact hall t ht hobserves (hold.trans_le hhot)
    · rw [htiers] at huncut
      intro l hl
      exact (List.pairwise_cons.mp (List.pairwise_append.mp huncut).2.1).1 l hl t ht hobserves hold

/-- The buckets of the tiers have a length. -/
theorem Retention.Valid.positive (h : config.Valid) (now : Nat) :
    ∀ tier ∈ config.tiers now, 1 ≤ tier.bucketSeconds := by
  simp [Retention.tiers, h.warmBucket, h.coolBucket, h.coldBucket]

/-- After the tiers, the state runs are built as well. -/
theorem buildTiers_returns {db built : StorageDb} (hdb : db.TablesKeyed)
    (h : (config.tiers now).foldlM buildTier db = .ok built) :
    ∃ result, buildTiers config now db = .ok result := by
  have hruns := buildStateRuns_eq (tiers_built hdb h).keyed (cutoffMs now config.hotDays)
  simp only [Retention.tiers, List.foldlM_cons, List.foldlM_nil, Loop.bind_eq_ok, Loop.pure_eq_ok,
    Except.ok.injEq, buildTier_eq_ok] at h
  obtain ⟨warm, ⟨n, hwarm⟩, cool, ⟨k, hcool⟩, cold, ⟨l, hcold⟩, rfl⟩ := h
  unfold buildTiers
  simp only [hwarm, hcool, hcold, hruns, Loop.ok_bind, Loop.pure_eq_ok]
  exact ⟨_, rfl⟩

/-- **A call raises** exactly where a register has numbers and texts in a bucket before the cutoff
of its tier. -/
theorem maintain_returns_iff (env : StorageEnv) (hm : Recorded m) (hvalid : config.Valid) :
    (∃ m', Machine.call env m (.maintain config now) = .ok m') ↔
      ∀ tier ∈ config.tiers now, ¬ MixedBucket tier.cutoffMs tier.bucketSeconds m.db := by
  obtain ⟨known, hknown⟩ : ∃ known,
    known = (refreshRegisterDictionary (refreshRegisterDictionary m.db).1).1 := ⟨_, rfl⟩
  have hkeyed : known.TablesKeyed := hknown ▸ hm.refresh.refresh.keyed
  have hraw : m.db.SameRaw known := by
    rw [hknown]
    exact trans_of StorageDb.SameRaw (sameRaw_refreshRegisterDictionary m.db)
      (sameRaw_refreshRegisterDictionary _)
  simp only [← MixedBucket.congr hraw]
  constructor
  · intro h
    obtain ⟨m', h⟩ := h
    simp only [Machine.call, Loop.bind_eq_ok, Loop.pure_eq_ok, Except.ok.injEq] at h
    obtain ⟨⟨db', details⟩, hmaintain, -⟩ := h
    obtain ⟨-, -, built, done, n, hbuilt, -⟩ := maintain_built hmaintain
    exact unmixed_of_tiers hkeyed (hknown ▸ hbuilt)
  · intro hunmixed
    obtain ⟨built, hbuilt⟩ := tiers_return hkeyed (hvalid.positive now) hunmixed
    obtain ⟨done, hdone⟩ := buildTiers_returns hkeyed hbuilt
    obtain ⟨archived, harchived⟩ :=
      archiveAllBefore_returns env now (cutoffMs now config.hotDays) done.1
    have hdays : ¬ ¬ (1 ≤ config.hotDays ∧ config.hotDays ≤ config.warmDays ∧
        config.warmDays ≤ config.coolDays) := not_not.mpr ⟨hvalid.hot, hvalid.warm, hvalid.cool⟩
    rw [hknown] at hdone
    obtain ⟨result, hmaintain⟩ : ∃ result, maintain env config now m.db = .ok result := by
      unfold maintain
      rw [if_neg hdays]
      simp only [hdone, harchived, Loop.ok_bind, Loop.pure_eq_ok]
      exact ⟨_, rfl⟩
    exact ⟨_, by rw [Machine.call, hmaintain]; rfl⟩

/-- **A call that returns** keeps the accounts exactly when it starts with everything older than
its cutoffs still raw. -/
theorem maintain_accounts_iff (hm : Recorded m)
    (h : Machine.call env m (.maintain config now) = .ok m') :
    Accounts config now m' ∧ RollupsStay m m' ↔ StillRaw config now m := by
  simp only [Machine.call, Loop.bind_eq_ok, Loop.pure_eq_ok, Except.ok.injEq] at h
  obtain ⟨⟨db', details⟩, hmaintain, rfl⟩ := h
  obtain ⟨hdays, -, built, done, n, hbuilt, hruns, hderived⟩ := maintain_built hmaintain
  have hknown := hm.refresh.refresh
  obtain ⟨known, hdef⟩ : ∃ known,
    known = (refreshRegisterDictionary (refreshRegisterDictionary m.db).1).1 := ⟨_, rfl⟩
  rw [← hdef] at hbuilt
  have hkeyed : known.TablesKeyed := hdef ▸ hknown.keyed
  have htelemetry : known.telemetry = m.db.telemetry := by rw [hdef]; rfl
  have hrollups : known.rollups = m.db.rollups := by rw [hdef]; rfl
  have hgrows : ∀ d ∈ m.db.dictionary, d ∈ known.dictionary := by
    intro d hd
    rw [hdef]
    exact refresh_grows hm.refresh.keyed (refresh_grows hm.keyed hd)
  have hall := tiers_built hkeyed hbuilt
  have hdone : db'.rollups = built.rollups := by
    have hruns := hruns
    rw [buildStateRuns_eq hall.keyed, Except.ok.injEq, Prod.mk.injEq] at hruns
    rw [hderived.rollups, ← hruns.1]
    rfl
  have hsub : known.telemetry ⊆ m.persisted := by
    rw [htelemetry]
    exact hm.raw
  have hcounts := tierCounts_iff hdays hkeyed hsub hm.nodup hbuilt
  have htier : ∀ tier, db'.tierCount tier = built.tierCount tier := by
    intro tier
    rw [StorageDb.tierCount, StorageDb.tierCount, hdone]
  have hunmixed : ∀ tier ∈ config.tiers now,
      ¬ MixedBucket tier.cutoffMs tier.bucketSeconds m.db := by
    have hraw : m.db.SameRaw known := by
      rw [hdef]
      exact trans_of StorageDb.SameRaw (sameRaw_refreshRegisterDictionary m.db)
        (sameRaw_refreshRegisterDictionary _)
    simpa only [MixedBucket.congr hraw] using unmixed_of_tiers hkeyed hbuilt
  rw [htelemetry] at hcounts
  constructor
  · intro h
    obtain ⟨haccounts, hstay⟩ := h
    obtain ⟨hraw, huncut⟩ := hcounts.mp fun tier hmem =>
      (htier tier).symm.trans (haccounts.rollups tier hmem)
    refine ⟨hraw, ?_, huncut, hunmixed⟩
    intro tier hmem r hr hold
    by_contra hnone
    rw [not_exists] at hnone
    have hgone : ∀ t ∈ m.db.telemetry, ¬ r.Counts m.db.dictionary t :=
      fun t ht hc => hnone t ⟨ht, hc⟩
    -- the rollup would stay, but the rows of the tier are of raw rows
    have hkept : r ∈ built.rollups := hdone ▸ hstay r hr hgone
    obtain ⟨t, ht, hdevice, hstart, hkind, d, hd, hkey, hentry⟩ := hall.row r hkept tier hmem hold
    obtain ⟨d', hd', hkey'⟩ := hm.registered r hr
    have hsame : d = d' := hall.keyed.registerKeys.eq hd (hall.grows d' (hgrows d' hd'))
      (hkey.trans hkey'.symm)
    rw [hall.telemetry, htelemetry] at ht
    exact hgone t ht ⟨hdevice, hstart, hkind, d', hd', hkey', hsame ▸ hentry⟩
  · intro h
    refine ⟨⟨?_, ?_⟩, ?_⟩
    · intro tier hmem
      exact (htier tier).trans (hcounts.mpr ⟨h.raw, h.uncut⟩ tier hmem)
    · have hstates : db'.runCount (cutoffMs now config.hotDays) =
          done.runCount (cutoffMs now config.hotDays) := by
        rw [StorageDb.runCount, StorageDb.runCount, hderived.stateRuns]
      have hrawNodup : m.db.telemetry.Nodup := telemetry_nodup hm.keyed
      refine (hstates.trans (stateRuns_count hall.keyed hruns)).trans ?_
      rw [hall.telemetry, htelemetry]
      refine (countP_eq_iff_of_subset hrawNodup hm.nodup hm.raw fun _ _ h => h).mpr ?_
      intro t ht hold
      have hboth := Bool.and_eq_true_iff.mp hold
      exact ⟨h.raw t ht (.inr hboth.2) (of_decide_eq_true hboth.1), hold⟩
    · intro r hr hgone
      show r ∈ db'.rollups
      rw [hdone]
      refine hall.kept r (hrollups ▸ hr) fun tier hmem hold => ?_
      obtain ⟨t, ht, hc⟩ := h.rollups tier hmem r hr hold
      exact hgone t ht hc

theorem poll_stays {now observedAtMs : Nat} {deviceId : String} {result : PollResult}
    (h : Machine.call env m (.poll now observedAtMs deviceId result) = .ok m') :
    RollupsStay m m' := by
  simp only [Machine.call, Loop.bind_eq_ok, Loop.pure_eq_ok, Except.ok.injEq] at h
  obtain ⟨db, hpoll, rfl⟩ := h
  intro r hr _
  simp only [savePoll] at hpoll
  split at hpoll
  · cases hpoll
    exact hr
  · cases hpoll

end Calls

/-! ## whole runs -/

/-- A call keeps the accounts: pruned rollups stay, and a `maintain` call returns, with everything
older than its cutoffs counted. -/
def CallEvent.Kept (e : CallEvent) : Prop :=
  RollupsStay e.before e.after ∧ ∀ config now, e.call = .maintain config now →
    e.returned = true ∧ Accounts config now e.after

/-- A `maintain` call starts with everything older than its cutoffs still raw. -/
def CallEvent.Covered (e : CallEvent) : Prop :=
  ∀ config now, e.call = .maintain config now → StillRaw config now e.before

theorem CallEvent.kept_iff {env : StorageEnv} {e : CallEvent} (hm : Recorded e.before)
    (h : e.Outcome env) : e.Kept ↔ e.Covered := by
  obtain ⟨m, c, m', returned⟩ := e
  cases returned with
  | false =>
      obtain ⟨config, now, error, hc, hvalid, herror⟩ := h
      have hc : c = .maintain config now := hc
      subst hc
      constructor
      · intro hkept
        exact absurd (hkept.2 config now rfl).1 Bool.false_ne_true
      · intro hcovered
        obtain ⟨after, hok⟩ :=
          (maintain_returns_iff env hm hvalid).mpr (hcovered config now rfl).unmixed
        cases hok.symm.trans herror
  | true =>
      have hcall : Machine.call env m c = .ok m' := h
      cases c with
      | poll now observedAtMs deviceId result =>
          have hstay := poll_stays hcall
          simp [CallEvent.Kept, CallEvent.Covered, hstay]
      | maintain config now =>
          have hiff := maintain_accounts_iff hm hcall
          constructor
          · intro hkept config' now' heq
            cases heq
            exact hiff.mp ⟨(hkept.2 config now rfl).2, hkept.1⟩
          · intro hcovered
            obtain ⟨haccounts, hstay⟩ := hiff.mpr (hcovered config now rfl)
            refine ⟨hstay, fun config' now' heq => ?_⟩
            cases heq
            exact ⟨rfl, haccounts⟩

/-- **A run keeps the accounts** exactly when each of its `maintain` calls starts with everything
older than its cutoffs still raw, and no bucket of numbers and texts. -/
theorem tiers_account_iff {env : StorageEnv} {events : List CallEvent} {m : Machine}
    (hrun : StorageRun env events m) :
    (∀ e ∈ events, e.Kept) ↔ ∀ e ∈ events, e.Covered := by
  refine forall₂_congr fun e he => ?_
  obtain ⟨hm, houtcome⟩ := hrun.event he
  exact CallEvent.kept_iff hm houtcome

/-- Calls that return are a run. -/
theorem storageRun_of_calls {env : StorageEnv} {calls : List StorageCall} {m : Machine}
    (h : calls.foldlM (Machine.call env) Machine.start = .ok m) :
    ∃ events, StorageRun env events m ∧ events.map CallEvent.call = calls := by
  refine Loop.foldlM_prefix (fun done m => ∃ events, StorageRun env events m ∧
    events.map CallEvent.call = done) h ⟨[], .start, rfl⟩ ?_
  intro done c _ m m' _ hdone hcall
  obtain ⟨events, hrun, hcalls⟩ := hdone
  refine ⟨_, hrun.call hcall, ?_⟩
  rw [List.map_append, hcalls]
  rfl

/-- A poll, and a call two days later that archives and prunes it. -/
def prunedPoll : List StorageCall :=
  [.poll (hourOfDay 6) (hourOfDay 6) "dev" (voltagePoll "12" 12), .maintain oneDay (hourOfDay 48)]

/-- The warm tier of `oneDay`, an hour later. -/
def warmTier : Tier := { cutoffMs := cutoffMs (hourOfDay 49) 1, bucketSeconds := 10 }

theorem tiers_account_iff_pruned : ∃ events m, StorageRun rawEnv events m ∧
    events.map CallEvent.call = prunedPoll ∧ m.db.samples = [] ∧ m.db.tierCount warmTier = 1 ∧
    ((∀ e ∈ events, e.Kept) ↔ ∀ e ∈ events, e.Covered) := by
  have heval : (do
      let m ← prunedPoll.foldlM (Machine.call rawEnv) Machine.start
      return (m.db.samples, m.db.tierCount warmTier)) = .ok ([], 1) := by
    decide +kernel
  simp only [Loop.bind_eq_ok, Loop.pure_eq_ok, Except.ok.injEq, Prod.mk.injEq] at heval
  obtain ⟨m, hcalls, hsamples, hcount⟩ := heval
  obtain ⟨events, hrun, hevents⟩ := storageRun_of_calls hcalls
  exact ⟨events, m, hrun, hevents, hsamples, hcount, tiers_account_iff hrun⟩

/-- The next call deletes the rollups of the pruned poll. -/
theorem not_tiers_account_second_call :
    ¬ ∀ env events m, StorageRun env events m →
      OnSchedule anyRule 0 (events.map CallEvent.call) →
      (∀ e ∈ events, ∀ config now, e.call = .maintain config now →
        config.pruneArchivedRaw = true) →
      ∀ e ∈ events, e.Kept := by
  intro h
  have heval : (do
      let m ← prunedPoll.foldlM (Machine.call rawEnv) Machine.start
      let m' ← Machine.call rawEnv m (.maintain oneDay (hourOfDay 49))
      return (m'.db.tierCount warmTier,
        observationsAt (fun t => t < warmTier.cutoffMs) m'.persisted)) = .ok (0, 1) := by
    decide +kernel
  simp only [Loop.bind_eq_ok, Loop.pure_eq_ok, Except.ok.injEq, Prod.mk.injEq] at heval
  obtain ⟨m, hcalls, m', hcall, hcount, hobserved⟩ := heval
  obtain ⟨events, hrun, hevents⟩ := storageRun_of_calls hcalls
  have hsecond := h rawEnv _ m' (hrun.call hcall) ?_ ?_ _
    (List.mem_append_right _ (List.mem_singleton_self _))
  · have haccounts := (hsecond.2 oneDay (hourOfDay 49) rfl).2.rollups warmTier List.mem_cons_self
    rw [hcount, hobserved] at haccounts
    cases haccounts
  · rw [List.map_append, hevents]
    simp [prunedPoll, OnSchedule, StorageCall.now, StorageCall.Stamped, anyRule, hourOfDay]
  · intro e he config now heq
    have hmem : StorageCall.maintain config now ∈
        prunedPoll ++ [StorageCall.maintain oneDay (hourOfDay 49)] := by
      rw [← heq, ← hevents]
      have hmap := List.mem_map_of_mem (f := CallEvent.call) he
      rwa [List.map_append] at hmap
    obtain ⟨rfl, -⟩ | ⟨rfl, -⟩ : (config = oneDay ∧ now = hourOfDay 48) ∨
        (config = oneDay ∧ now = hourOfDay 49) := by simpa [prunedPoll] using hmem
    · rfl
    · rfl

end MorningstarModbus
