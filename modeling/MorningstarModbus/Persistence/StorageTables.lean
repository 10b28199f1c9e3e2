import MorningstarModbus.Persistence.StorageV2

/-!
# MorningstarModbus.Persistence.StorageTables

The telemetry tables under storage v2: their keys, and what each statement of
polls, archive and pruning does to the joined rows.

* `StorageDb.WellFormed` — keys and references of samples and register values;
* `StorageDb.SameRaw` — the rollup statements write derived tables only;
* `savePoll_spec`, `mem_telemetry_deleteRange` — the joined rows afterwards.
-/

namespace MorningstarModbus

open Table

/-! ## well-formed tables -/

/-- Keys and references of the telemetry tables. -/
structure StorageDb.WellFormed (db : StorageDb) : Prop where
  samples : Keyed PollSample.id db.samples
  values : Keyed RegisterValue.key db.values
  reference : ∀ v ∈ db.values, ∃ s ∈ db.samples, s.id = v.sampleId
  sequence : ∀ s ∈ db.samples, s.id ≤ db.lastSampleId
  performance : Keyed PerformanceSample.id db.performance
  performanceSequence : ∀ p ∈ db.performance, p.id ≤ db.lastPerformanceId

/-- The raw tables, the catalogue and the files are untouched. -/
structure StorageDb.SameRaw (db db' : StorageDb) : Prop where
  samples : db'.samples = db.samples
  values : db'.values = db.values
  performance : db'.performance = db.performance
  archives : db'.archives = db.archives
  lastSampleId : db'.lastSampleId = db.lastSampleId
  lastPerformanceId : db'.lastPerformanceId = db.lastPerformanceId
  file : db'.file = db.file

instance : Std.Refl StorageDb.SameRaw := ⟨fun _ => ⟨rfl, rfl, rfl, rfl, rfl, rfl, rfl⟩⟩

instance : IsTrans StorageDb StorageDb.SameRaw where
  trans _ _ _ h h' := ⟨h'.samples.trans h.samples, h'.values.trans h.values,
    h'.performance.trans h.performance, h'.archives.trans h.archives,
    h'.lastSampleId.trans h.lastSampleId,
    h'.lastPerformanceId.trans h.lastPerformanceId, h'.file.trans h.file⟩

section SameRaw

variable {db db' : StorageDb}

/-- The telemetry is joined from the raw tables. -/
theorem StorageDb.SameRaw.telemetry (h : db.SameRaw db') : db'.telemetry = db.telemetry := by
  simp only [StorageDb.telemetry, h.samples, h.values]

/-- And so is all that makes a store well formed. -/
theorem StorageDb.SameRaw.wellFormed (h : db.SameRaw db') (hw : db.WellFormed) :
    db'.WellFormed where
  samples := h.samples ▸ hw.samples
  values := h.values ▸ hw.values
  reference := by
    rw [h.samples, h.values]
    exact hw.reference
  sequence := by
    rw [h.samples, h.lastSampleId]
    exact hw.sequence
  performance := h.performance ▸ hw.performance
  performanceSequence := by
    rw [h.performance, h.lastPerformanceId]
    exact hw.performanceSequence

theorem sameRaw_refreshRegisterDictionary (db : StorageDb) :
    db.SameRaw (refreshRegisterDictionary db).1 := ⟨rfl, rfl, rfl, rfl, rfl, rfl, rfl⟩

/-- Inserting rollups does not touch the raw tables. -/
theorem insertRollups_sameRaw {new : List RollupRow} (h : insertRollups new db = .ok db') :
    db.SameRaw db' := by
  unfold insertRollups at h
  split at h
  · cases h
    exact ⟨rfl, rfl, rfl, rfl, rfl, rfl, rfl⟩
  · cases h

/-- Nor does building a tier of them. -/
theorem buildRollups_sameRaw {cutoffMs bucketSeconds n : Nat}
    (h : buildRollups cutoffMs bucketSeconds db = .ok (db', n)) : db.SameRaw db' := by
  unfold buildRollups at h
  split at h
  · cases h
  · simp only [Loop.pure_eq_ok, Loop.bind_eq_ok, Except.ok.injEq, Prod.mk.injEq] at h
    obtain ⟨db₁, h₁, db₂, h₂, rfl, -⟩ := h
    have hdel : db.SameRaw (deleteRollups cutoffMs bucketSeconds
        (refreshRegisterDictionary db).1) := ⟨rfl, rfl, rfl, rfl, rfl, rfl, rfl⟩
    exact trans_of StorageDb.SameRaw (trans_of StorageDb.SameRaw hdel (insertRollups_sameRaw h₁))
      (insertRollups_sameRaw h₂)

/-- Nor do the state runs. -/
theorem buildStateRuns_sameRaw {cutoffMs n : Nat}
    (h : buildStateRuns cutoffMs db = .ok (db', n)) : db.SameRaw db' := by
  unfold buildStateRuns at h
  simp only at h
  split at h
  · simp only [Except.ok.injEq, Prod.mk.injEq] at h
    obtain ⟨rfl, -⟩ := h
    exact ⟨rfl, rfl, rfl, rfl, rfl, rfl, rfl⟩
  · cases h

/-- Nor does all of that together. -/
theorem buildTiers_sameRaw {config : Retention} {now : Nat} {counts : Nat × Nat × Nat × Nat}
    (h : buildTiers config now db = .ok (db', counts)) : db.SameRaw db' := by
  simp only [buildTiers, Loop.bind_eq_ok, Loop.pure_eq_ok, Except.ok.injEq, Prod.exists,
    Prod.mk.injEq] at h
  obtain ⟨db₁, n₁, h₁, db₂, n₂, h₂, db₃, n₃, h₃, db₄, n₄, h₄, rfl, -⟩ := h
  exact trans_of StorageDb.SameRaw (trans_of StorageDb.SameRaw (trans_of StorageDb.SameRaw
    (buildRollups_sameRaw h₁) (buildRollups_sameRaw h₂)) (buildRollups_sameRaw h₃))
    (buildStateRuns_sameRaw h₄)

end SameRaw

/-! ## joined rows -/

section Telemetry

variable {db db' : StorageDb}

/-- Telemetry is a sample with one of its values. -/
theorem mem_telemetry {r : ArchivedRow} : r ∈ db.telemetry ↔
    r.sample ∈ db.samples ∧ r.value ∈ db.values ∧ r.value.sampleId = r.sample.id := by
  simp only [StorageDb.telemetry, List.mem_flatMap, List.mem_map, List.mem_filter,
    decide_eq_true_eq]
  constructor
  · rintro ⟨s, hs, v, ⟨hv, hid⟩, rfl⟩
    exact ⟨hs, hv, hid⟩
  · rintro ⟨hs, hv, hid⟩
    exact ⟨r.sample, hs, r.value, ⟨hv, hid⟩, rfl⟩

/-- An archive of a range has its telemetry, the end excluded. -/
theorem mem_archiveRows {startMs endMs : Nat} {r : ArchivedRow} :
    r ∈ archiveRows startMs endMs db ↔
      r ∈ db.telemetry ∧ startMs ≤ r.sample.observedAtMs ∧ r.sample.observedAtMs < endMs := by
  simp only [archiveRows, List.mem_insertionSort, List.mem_filter, decide_eq_true_eq]

/-- The rows one poll inserts. -/
def pollRows (observedAtMs : Nat) (deviceId : String) (result : PollResult) (db : StorageDb) :
    List ArchivedRow :=
  result.values.map fun reading =>
    { sample := { id := db.lastSampleId + 1, deviceId, observedAtMs,
                  latencyMs := result.latencyMs, profile := result.profile }
      value := reading.row (db.lastSampleId + 1) }

/-- A poll adds its rows, and nothing else. -/
theorem savePoll_spec (hw : db.WellFormed) {observedAtMs : Nat} {deviceId : String}
    {result : PollResult} (h : savePoll observedAtMs deviceId result db = .ok db') :
    db'.WellFormed ∧ db'.archives = db.archives ∧ db'.file = db.file ∧
      db'.performance = db.performance ∧
      (∀ s, s ∈ db'.samples ↔ s ∈ db.samples ∨
        s = { id := db.lastSampleId + 1, deviceId, observedAtMs, latencyMs := result.latencyMs,
              profile := result.profile }) ∧
      db'.values = db.values ++ result.values.map (fun r => r.row (db.lastSampleId + 1)) ∧
      db'.lastSampleId = db.lastSampleId + 1 ∧
      ∀ r, r ∈ db'.telemetry ↔
        r ∈ db.telemetry ∨ r ∈ pollRows observedAtMs deviceId result db := by
  simp only [savePoll] at h
  split at h
  case isFalse => cases h
  case isTrue hkeyed =>
    cases h
    have hfresh : ∀ s ∈ db.samples, s.id ≠ db.lastSampleId + 1 := by
      intro s hs hid
      have hle := hw.sequence s hs
      omega
    refine ⟨⟨hw.samples.append hfresh, hkeyed, ?_, ?_, hw.performance, hw.performanceSequence⟩,
      rfl, rfl, rfl, ?_, rfl, rfl, ?_⟩
    · intro v hv
      rcases List.mem_append.mp hv with hv | hv
      · obtain ⟨s, hs, hid⟩ := hw.reference v hv
        exact ⟨s, List.mem_append_left _ hs, hid⟩
      · obtain ⟨reading, -, rfl⟩ := List.mem_map.mp hv
        exact ⟨_, List.mem_append_right _ (List.mem_singleton_self _), rfl⟩
    · intro s hs
      rcases List.mem_append.mp hs with hs | hs
      · have hle := hw.sequence s hs
        show s.id ≤ db.lastSampleId + 1
        omega
      · rw [List.mem_singleton] at hs
        rw [hs]
    · intro s
      simp
    · intro r
      simp only [mem_telemetry, List.mem_append, List.mem_singleton, pollRows, List.mem_map]
      constructor
      · rintro ⟨hs | hs, hv | ⟨reading, hreading, hv⟩, hid⟩
        · exact .inl ⟨hs, hv, hid⟩
        · rw [← hv] at hid
          exact absurd hid.symm (hfresh _ hs)
        · obtain ⟨s, hs', hsid⟩ := hw.reference _ hv
          rw [hid, hs] at hsid
          exact absurd hsid (hfresh s hs')
        · right
          refine ⟨reading, hreading, ?_⟩
          rw [hv, ← hs]
      · rintro (⟨hs, hv, hid⟩ | ⟨reading, hreading, rfl⟩)
        · exact ⟨.inl hs, .inl hv, hid⟩
        · exact ⟨.inr rfl, .inr ⟨reading, hreading, rfl⟩, rfl⟩

/-- A performance sample gets an id of its own. -/
theorem StorageDb.WellFormed.savePerformance (hw : db.WellFormed) (deviceId : String)
    (sampleId : Option Nat) (observedAtMs : Nat) :
    (savePerformance deviceId sampleId observedAtMs db).WellFormed := by
  refine ⟨hw.samples, hw.values, hw.reference, hw.sequence, hw.performance.append ?_, ?_⟩
  · intro p hp
    have hle := hw.performanceSequence p hp
    show p.id ≠ db.lastPerformanceId + 1
    omega
  · intro p hp
    rcases List.mem_append.mp hp with hp | hp
    · have hle := hw.performanceSequence p hp
      show p.id ≤ db.lastPerformanceId + 1
      omega
    · rw [List.mem_singleton] at hp
      exact hp ▸ le_refl _

end Telemetry

/-! ## deleting a range -/

section Delete

variable {db : StorageDb}

/-- A deleted range takes the samples with it whose time lies in it. -/
theorem mem_samples_deleteRange {n startMs endMs : Nat} {s : PollSample} :
    s ∈ (deleteRange (db, n) (startMs, endMs)).1.samples ↔
      s ∈ db.samples ∧ ¬ (startMs ≤ s.observedAtMs ∧ s.observedAtMs < endMs) := by
  simp [deleteRange]
  omega

/-- A register value is deleted with its sample. -/
theorem mem_values_deleteRange {n startMs endMs : Nat} {v : RegisterValue} :
    v ∈ (deleteRange (db, n) (startMs, endMs)).1.values ↔
      v ∈ db.values ∧ ∀ s ∈ db.samples, s.id = v.sampleId →
        ¬ (startMs ≤ s.observedAtMs ∧ s.observedAtMs < endMs) := by
  simp only [deleteRange, List.mem_filter, List.any_eq_true, decide_eq_true_eq, not_exists,
    not_and]
  constructor
  · rintro ⟨hv, h⟩
    exact ⟨hv, fun s hs hid hin hlt => h s ⟨hs, hin, hlt⟩ hid⟩
  · rintro ⟨hv, h⟩
    exact ⟨hv, fun s hs hid => h s hs.1 hid hs.2.1 hs.2.2⟩

/-- What a deletion keeps of the performance rows it does not delete. -/
def PerformanceSample.mark (p : PerformanceSample) : Nat × Nat := (p.id, p.observedAtMs)

/-- Performance rows outside the range stay. -/
theorem mem_performance_deleteRange {n startMs endMs : Nat} {mark : Nat × Nat} :
    mark ∈ (deleteRange (db, n) (startMs, endMs)).1.performance.map PerformanceSample.mark ↔
      mark ∈ db.performance.map PerformanceSample.mark ∧
        ¬ (startMs ≤ mark.2 ∧ mark.2 < endMs) := by
  simp only [deleteRange, List.mem_map, decide_eq_true_eq]
  rw [← List.mem_map, map_update fun p => by rfl]
  simp only [List.mem_map, List.mem_filter, decide_eq_true_eq]
  constructor
  · rintro ⟨p, ⟨hp, hout⟩, rfl⟩
    exact ⟨⟨p, hp, rfl⟩, hout⟩
  · rintro ⟨⟨p, hp, rfl⟩, hout⟩
    exact ⟨p, ⟨hp, hout⟩, rfl⟩

/-- The joined rows outside the range stay. -/
theorem mem_telemetry_deleteRange (hw : db.WellFormed) {n startMs endMs : Nat} {r : ArchivedRow} :
    r ∈ (deleteRange (db, n) (startMs, endMs)).1.telemetry ↔
      r ∈ db.telemetry ∧
        ¬ (startMs ≤ r.sample.observedAtMs ∧ r.sample.observedAtMs < endMs) := by
  simp only [mem_telemetry, mem_samples_deleteRange, mem_values_deleteRange]
  constructor
  · rintro ⟨⟨hs, hout⟩, ⟨hv, -⟩, hid⟩
    exact ⟨⟨hs, hv, hid⟩, hout⟩
  · rintro ⟨⟨hs, hv, hid⟩, hout⟩
    refine ⟨⟨hs, hout⟩, ⟨hv, fun s hs' hsid => ?_⟩, hid⟩
    rw [hw.samples.eq hs' hs (hsid.trans hid)]
    exact hout

/-- No value is left without its sample. -/
theorem StorageDb.WellFormed.deleteRange (hw : db.WellFormed) (n : Nat) (range : Nat × Nat) :
    (deleteRange (db, n) range).1.WellFormed := by
  obtain ⟨startMs, endMs⟩ := range
  constructor
  case samples => exact hw.samples.filter _
  case values => exact hw.values.filter _
  case reference =>
    intro v hv
    rw [mem_values_deleteRange] at hv
    obtain ⟨s, hs, hid⟩ := hw.reference v hv.1
    exact ⟨s, mem_samples_deleteRange.mpr ⟨hs, hv.2 s hs hid⟩, hid⟩
  case sequence =>
    intro s hs
    exact hw.sequence s (mem_samples_deleteRange.mp hs).1
  case performance => exact (hw.performance.filter _).update_of_key (by intro p; rfl)
  case performanceSequence =>
    intro p hp
    obtain ⟨q, hq, ⟨-, rfl⟩ | ⟨-, rfl⟩⟩ := mem_update.mp hp
    · exact hw.performanceSequence q (List.mem_filter.mp hq).1
    · exact hw.performanceSequence p (List.mem_filter.mp hq).1

end Delete

/-! ## archiving a day -/

@[simp] theorem replaceFile_samples (path : Calendar.Date) (rows : List ArchivedRow)
    (db : StorageDb) : (replaceFile path rows db).samples = db.samples := rfl

@[simp] theorem replaceFile_values (path : Calendar.Date) (rows : List ArchivedRow)
    (db : StorageDb) : (replaceFile path rows db).values = db.values := rfl

@[simp] theorem replaceFile_performance (path : Calendar.Date) (rows : List ArchivedRow)
    (db : StorageDb) : (replaceFile path rows db).performance = db.performance := rfl

@[simp] theorem recordArchive_samples (entry : ArchiveRow) (db : StorageDb) :
    (recordArchive entry db).samples = db.samples := rfl

@[simp] theorem recordArchive_values (entry : ArchiveRow) (db : StorageDb) :
    (recordArchive entry db).values = db.values := rfl

@[simp] theorem recordArchive_performance (entry : ArchiveRow) (db : StorageDb) :
    (recordArchive entry db).performance = db.performance := rfl

@[simp] theorem replaceFile_archives (path : Calendar.Date) (rows : List ArchivedRow)
    (db : StorageDb) : (replaceFile path rows db).archives = db.archives := rfl

@[simp] theorem recordArchive_file (entry : ArchiveRow) (db : StorageDb) :
    (recordArchive entry db).file = db.file := rfl

@[simp] theorem replaceFile_file (path : Calendar.Date) (rows : List ArchivedRow)
    (db : StorageDb) : (replaceFile path rows db).file = Function.update db.file path (some rows) :=
  rfl

/-- `archive_before` writes a new file for the day. -/
def Rewrites (cutoff : Nat) (db : StorageDb) (day : Nat) : Prop :=
  dayStart day < dayEnd cutoff day ∧
    alreadyVerified (dayStart day) (dayEnd cutoff day) db = false ∧
    archiveRows (dayStart day) (dayEnd cutoff day) db ≠ []

instance (cutoff : Nat) (db : StorageDb) (day : Nat) : Decidable (Rewrites cutoff db day) := by
  unfold Rewrites
  infer_instance

/-- A day is left alone, or its rows are put into its file. -/
theorem archiveDay_cases {env : StorageEnv} {now cutoff day n k : Nat} {db db' : StorageDb}
    (h : archiveDay env now cutoff (db, n) day = .ok (db', k)) :
    (¬ Rewrites cutoff db day ∧ db' = db) ∨ (Rewrites cutoff db day ∧
      let rows := archiveRows (dayStart day) (dayEnd cutoff day) db
      let written := replaceFile (archivePath (dayStart day)) rows db
      db' = recordArchive
        (archiveEntry env now (dayStart day) (dayEnd cutoff day) rows written) written) := by
  unfold archiveDay at h
  split at h
  case isFalse hlt =>
    cases h
    exact .inl ⟨fun hr => hlt hr.1, rfl⟩
  case isTrue hlt =>
    simp only [archiveRange, Loop.bind_eq_ok, Loop.pure_eq_ok, Except.ok.injEq, Prod.mk.injEq] at h
    obtain ⟨⟨db₁, n'⟩, hrange, rfl, -⟩ := h
    split at hrange
    case isTrue hver =>
      cases hrange
      exact .inl ⟨fun hr => by simp [hr.2.1] at hver, rfl⟩
    case isFalse hver =>
      split at hrange
      case isTrue hempty =>
        cases hrange
        exact .inl ⟨fun hr => hr.2.2 (List.isEmpty_iff.mp hempty), rfl⟩
      case isFalse hrows =>
        split at hrange
        case isFalse => cases hrange
        case isTrue =>
          cases hrange
          exact .inr ⟨⟨hlt, by simpa using hver, by simpa using hrows⟩, rfl⟩

/-- A day of the archive returns: the file in place has the digest of what was written. -/
theorem archiveDay_returns (env : StorageEnv) (now cutoff day : Nat) (acc : StorageDb × Nat) :
    ∃ acc', archiveDay env now cutoff acc day = .ok acc' := by
  unfold archiveDay
  split
  · obtain ⟨result, hrange⟩ : ∃ result,
        archiveRange env now (dayStart day) (dayEnd cutoff day) acc.1 = .ok result := by
      unfold archiveRange
      split
      · exact ⟨_, rfl⟩
      · dsimp only
        split
        · exact ⟨_, rfl⟩
        · exact ⟨_, if_pos (by simp [archiveEntry])⟩
    exact ⟨(result.1, acc.2 + result.2), by rw [hrange]; rfl⟩
  · exact ⟨acc, rfl⟩

/-- So does the whole archive. -/
theorem archiveAllBefore_returns (env : StorageEnv) (now cutoff : Nat) (db : StorageDb) :
    ∃ result, archiveAllBefore env now cutoff db = .ok result := by
  obtain ⟨result, hok, -⟩ := Loop.foldlM_ok
    (fun _ _ => True) (archiveDays cutoff db) trivial fun _ day _ acc _ _ =>
      let ⟨acc', h⟩ := archiveDay_returns env now cutoff day acc
      ⟨acc', h, trivial⟩
  exact ⟨result, hok⟩

/-! ## a whole call -/

/-- A `maintain` call that returns: the tiers, the archive, then pruning. -/
theorem maintain_eq_ok {env : StorageEnv} {config : Retention} {now : Nat} {db db' : StorageDb}
    {details : MaintenanceDetails} (h : maintain env config now db = .ok (db', details)) :
    1 ≤ config.hotDays ∧ config.hotDays ≤ config.warmDays ∧ config.warmDays ≤ config.coolDays ∧
      ∃ built counts archived n,
        buildTiers config now (refreshRegisterDictionary (refreshRegisterDictionary db).1).1 =
          .ok (built, counts) ∧
        archiveAllBefore env now (cutoffMs now config.hotDays) built = .ok (archived, n) ∧
        db' = if config.pruneArchivedRaw = true then
          (pruneVerifiedArchives (cutoffMs now config.hotDays) archived).1 else archived := by
  unfold maintain at h
  by_cases hdays : ¬ (1 ≤ config.hotDays ∧ config.hotDays ≤ config.warmDays ∧
      config.warmDays ≤ config.coolDays)
  · rw [if_pos hdays] at h
    cases h
  · rw [if_neg hdays] at h
    simp only [Loop.bind_eq_ok, Loop.pure_eq_ok, Except.ok.injEq, Prod.mk.injEq] at h
    obtain ⟨⟨built, counts⟩, htiers, ⟨archived, n⟩, harchive, rfl, -⟩ := h
    obtain ⟨hhot, hwarm, hcool⟩ := not_not.mp hdays
    refine ⟨hhot, hwarm, hcool, built, counts, archived, n, htiers, harchive, ?_⟩
    by_cases hprune : config.pruneArchivedRaw = true
    · rw [if_pos hprune, if_pos hprune]
    · rw [if_neg hprune, if_neg hprune]

/-- What a `maintain` call that returns has done: derived tables, then the
archive, then pruning. -/
theorem maintain_cases {env : StorageEnv} {config : Retention} {now : Nat} {db db' : StorageDb}
    {details : MaintenanceDetails} (h : maintain env config now db = .ok (db', details)) :
    1 ≤ config.hotDays ∧ ∃ db₁ db₂ n, db.SameRaw db₁ ∧
      archiveAllBefore env now (cutoffMs now config.hotDays) db₁ = .ok (db₂, n) ∧
      db' = if config.pruneArchivedRaw = true then
        (pruneVerifiedArchives (cutoffMs now config.hotDays) db₂).1 else db₂ := by
  obtain ⟨hhot, -, -, db₁, counts, db₂, n, htiers, harchive, hdb⟩ := maintain_eq_ok h
  have hinit : db.SameRaw (refreshRegisterDictionary (refreshRegisterDictionary db).1).1 :=
    trans_of StorageDb.SameRaw (sameRaw_refreshRegisterDictionary db)
      (sameRaw_refreshRegisterDictionary _)
  exact ⟨hhot, db₁, db₂, n, trans_of StorageDb.SameRaw hinit (buildTiers_sameRaw htiers),
    harchive, hdb⟩

end MorningstarModbus
