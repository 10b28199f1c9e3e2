import MorningstarModbus.Persistence.Catalogue

/-!
# MorningstarModbus.Persistence.Pruning

Which rows a `maintain` call deletes, and which of them an archive file holds.

* `ArchivedUpTo` — what `archive_before` does to each day's file and range;
* `mem_samples_prune` … — what `prune_verified_archives` leaves;
* `PruneAuthorized` — every deleted row is in the verified file of its time;
* `prune_authorized_iff` — this holds exactly for `PruneSafe` databases.
-/

namespace MorningstarModbus

open Table

/-! ## archiving all days -/

/-- No record of the day's file. -/
def Unrecorded (db : StorageDb) (day : Nat) : Prop :=
  ∀ a ∈ db.archives, a.path ≠ Calendar.ofDay day

/-- The archive after the days `done` of a call that started from `db`. -/
structure ArchivedUpTo (cutoff : Nat) (db : StorageDb) (done : List Nat) (db' : StorageDb) :
    Prop where
  samples : db'.samples = db.samples
  values : db'.values = db.values
  performance : db'.performance = db.performance
  catalogue : Catalogue db'
  file : ∀ day, db'.file (Calendar.ofDay day) =
    if day ∈ done ∧ Rewrites cutoff db day then
      some (archiveRows (dayStart day) (dayEnd cutoff day) db)
    else db.file (Calendar.ofDay day)
  hasRange : ∀ day startMs endMs, db'.HasRange (Calendar.ofDay day) startMs endMs ↔
    db.HasRange (Calendar.ofDay day) startMs endMs ∨ (day ∈ done ∧ Rewrites cutoff db day ∧
      startMs = dayStart day ∧ endMs = dayEnd cutoff day ∧ Unrecorded db day)

section Archive

variable {env : StorageEnv} {cutoff now n k : Nat} {db db₁ db₂ : StorageDb} {done : List Nat}

theorem archivedUpTo_nil (h : Catalogue db) : ArchivedUpTo cutoff db [] db where
  samples := rfl
  values := rfl
  performance := rfl
  catalogue := h
  file := by simp
  hasRange := by simp

theorem unrecorded_iff {day : Nat} :
    Unrecorded db day ↔ ∀ startMs endMs, ¬ db.HasRange (Calendar.ofDay day) startMs endMs := by
  constructor
  · rintro h startMs endMs ⟨a, ha, hpath, -⟩
    exact h a ha hpath
  · intro h a ha hpath
    exact h a.startMs a.endMs ⟨a, ha, hpath, rfl, rfl⟩

/-- The days before leave a day as it was. -/
theorem ArchivedUpTo.rewrites_iff (h : ArchivedUpTo cutoff db done db₁) (hc : Catalogue db)
    {day : Nat} (hday : day ∉ done) : Rewrites cutoff db₁ day ↔ Rewrites cutoff db day := by
  have hver : alreadyVerified (dayStart day) (dayEnd cutoff day) db₁ =
      alreadyVerified (dayStart day) (dayEnd cutoff day) db := by
    rw [Bool.eq_iff_iff, h.catalogue.alreadyVerified_iff, hc.alreadyVerified_iff, h.hasRange]
    simp [hday]
  have hrows : archiveRows (dayStart day) (dayEnd cutoff day) db₁ =
      archiveRows (dayStart day) (dayEnd cutoff day) db := by
    simp only [archiveRows, StorageDb.telemetry, h.samples, h.values]
  simp only [Rewrites, hver, hrows]

theorem ArchivedUpTo.unrecorded_iff (h : ArchivedUpTo cutoff db done db₁) {day : Nat}
    (hday : day ∉ done) : Unrecorded db₁ day ↔ Unrecorded db day := by
  simp only [MorningstarModbus.unrecorded_iff, h.hasRange, hday, false_and, or_false]

/-- **One day** of the archive. -/
theorem ArchivedUpTo.day (h : ArchivedUpTo cutoff db done db₁) (hc : Catalogue db) {day : Nat}
    (hday : day ∉ done) (hok : archiveDay env now cutoff (db₁, n) day = .ok (db₂, k)) :
    ArchivedUpTo cutoff db (done ++ [day]) db₂ := by
  have hrewrites := h.rewrites_iff hc hday
  have hunrecorded := h.unrecorded_iff hday
  rcases archiveDay_cases hok with ⟨hskip, rfl⟩ | ⟨hwrite, rfl⟩
  · rw [hrewrites] at hskip
    have hdone : ∀ other, other ∈ done ++ [day] ∧ Rewrites cutoff db other ↔
        other ∈ done ∧ Rewrites cutoff db other := by
      intro other
      by_cases hother : other = day
      · subst hother
        simp [hskip]
      · simp [hother]
    refine ⟨h.samples, h.values, h.performance, h.catalogue, ?_, ?_⟩
    · intro other
      simp only [hdone other, h.file other]
    · intro other startMs endMs
      rw [h.hasRange other]
      simp only [← and_assoc, hdone other]
  · have hrows : archiveRows (dayStart day) (dayEnd cutoff day) db₁ =
        archiveRows (dayStart day) (dayEnd cutoff day) db := by
      simp only [archiveRows, StorageDb.telemetry, h.samples, h.values]
    have hc₁ : Catalogue (replaceFile (archivePath (dayStart day))
        (archiveRows (dayStart day) (dayEnd cutoff day) db₁) db₁) :=
      h.catalogue.of_archives (replaceFile_archives _ _ _)
    constructor
    case samples => rw [recordArchive_samples, replaceFile_samples, h.samples]
    case values => rw [recordArchive_values, replaceFile_values, h.values]
    case performance => rw [recordArchive_performance, replaceFile_performance, h.performance]
    case catalogue =>
      refine hc₁.record (archiveEntry_startMs ..) (archiveEntry_endMs ..) ?_ hwrite.1
        (archiveEntry_verified ?_)
      · rw [archiveEntry_path, archiveEntry_startMs]
      · rw [replaceFile_file, Function.update_self]
    case file =>
      intro other
      rw [recordArchive_file, replaceFile_file, archivePath_dayStart]
      by_cases hother : other = day
      · subst hother
        simp [hrewrites.mp hwrite, hrows]
      · have hpath : Calendar.ofDay other ≠ Calendar.ofDay day :=
          fun heq => hother (Calendar.ofDay_injective heq)
        rw [Function.update_of_ne hpath, h.file other]
        simp [hother]
    case hasRange =>
      intro other startMs endMs
      have hbefore : (replaceFile (archivePath (dayStart day))
          (archiveRows (dayStart day) (dayEnd cutoff day) db₁) db₁).HasRange
            (Calendar.ofDay other) startMs endMs ↔
          db₁.HasRange (Calendar.ofDay other) startMs endMs := by
        rw [StorageDb.HasRange, replaceFile_archives, StorageDb.HasRange]
      rw [hasRange_recordArchive, hbefore, archiveEntry_path, archivePath_dayStart,
        archiveEntry_startMs, archiveEntry_endMs, replaceFile_archives, h.hasRange]
      change _ ∨ _ ∧ _ ∧ _ ∧ Unrecorded db₁ day ↔ _
      rw [hunrecorded]
      by_cases hother : other = day
      · subst hother
        simp [hday, hrewrites.mp hwrite]
      · have hpath : Calendar.ofDay other ≠ Calendar.ofDay day :=
          fun heq => hother (Calendar.ofDay_injective heq)
        simp [hother, hpath]

theorem nodup_archiveDays (cutoff : Nat) (db : StorageDb) : (archiveDays cutoff db).Nodup := by
  simp only [archiveDays]
  split
  · exact List.nodup_range'
  · exact List.nodup_nil

/-- **All days** of the archive. -/
theorem archivedUpTo_of_ok (hc : Catalogue db)
    (hok : archiveAllBefore env now cutoff db = .ok (db₁, k)) :
    ArchivedUpTo cutoff db (archiveDays cutoff db) db₁ := by
  refine Loop.foldlM_prefix (fun done acc => ArchivedUpTo cutoff db done acc.1) hok
    (archivedUpTo_nil hc) ?_
  intro done day rest acc acc' hdays hdone hday
  have hnodup := nodup_archiveDays cutoff db
  rw [hdays] at hnodup
  have hnot : day ∉ done := by
    intro hmem
    exact List.disjoint_of_nodup_append hnodup hmem List.mem_cons_self
  exact hdone.day hc hnot hday

/-- The day of a sample before the cutoff is visited. -/
theorem mem_archiveDays {s : PollSample} (hs : s ∈ db.samples) (ht : s.observedAtMs < cutoff) :
    s.observedAtMs / Calendar.dayMs ∈ archiveDays cutoff db := by
  have hmem : s.observedAtMs ∈ (db.samples.map PollSample.observedAtMs).filter (· < cutoff) :=
    List.mem_filter.mpr ⟨List.mem_map_of_mem hs, by simpa using ht⟩
  have hne := List.ne_nil_of_mem hmem
  simp only [archiveDays]
  split
  case h_1 first last hmin hmax =>
    have hlo := Nat.div_le_div_right (c := Calendar.dayMs) ((List.min?_eq_some_iff.mp hmin).2 _ hmem)
    have hhi := Nat.div_le_div_right (c := Calendar.dayMs) ((List.max?_eq_some_iff.mp hmax).2 _ hmem)
    rw [List.mem_range'_1]
    omega
  case h_2 hnone =>
    obtain ⟨first, hfirst⟩ := Option.isSome_iff_exists.mp (List.isSome_min?_of_ne_nil hne)
    obtain ⟨last, hlast⟩ := Option.isSome_iff_exists.mp (List.isSome_max?_of_ne_nil hne)
    exact absurd hlast (hnone first last hfirst)

end Archive

/-! ## pruning all ranges -/

section Prune

variable {db : StorageDb} {n cutoff : Nat}

/-- A time falls in one of the ranges. -/
def InRanges (ranges : List (Nat × Nat)) (t : Nat) : Prop :=
  ∃ range ∈ ranges, range.1 ≤ t ∧ t < range.2

theorem inRanges_cons {range : Nat × Nat} {ranges : List (Nat × Nat)} {t : Nat} :
    InRanges (range :: ranges) t ↔ (range.1 ≤ t ∧ t < range.2) ∨ InRanges ranges t := by
  simp [InRanges]

theorem mem_samples_foldl {ranges : List (Nat × Nat)} {s : PollSample} :
    s ∈ (ranges.foldl deleteRange (db, n)).1.samples ↔
      s ∈ db.samples ∧ ¬ InRanges ranges s.observedAtMs := by
  induction ranges generalizing db n with
  | nil => simp [InRanges]
  | cons range ranges ih =>
      rw [List.foldl_cons, ← Prod.mk.eta (p := deleteRange (db, n) range), ih,
        mem_samples_deleteRange, inRanges_cons, not_or, and_assoc]

theorem mem_values_foldl {ranges : List (Nat × Nat)} {v : RegisterValue} :
    v ∈ (ranges.foldl deleteRange (db, n)).1.values ↔
      v ∈ db.values ∧ ∀ s ∈ db.samples, s.id = v.sampleId → ¬ InRanges ranges s.observedAtMs := by
  induction ranges generalizing db n with
  | nil => simp [InRanges]
  | cons range ranges ih =>
      rw [List.foldl_cons, ← Prod.mk.eta (p := deleteRange (db, n) range), ih,
        mem_values_deleteRange]
      obtain ⟨startMs, endMs⟩ := range
      simp only [mem_samples_deleteRange, inRanges_cons, not_or]
      constructor
      · rintro ⟨⟨hv, hfirst⟩, hrest⟩
        exact ⟨hv, fun s hs hid => ⟨hfirst s hs hid, hrest s ⟨hs, hfirst s hs hid⟩ hid⟩⟩
      · rintro ⟨hv, h⟩
        exact ⟨⟨hv, fun s hs hid => (h s hs hid).1⟩, fun s hs hid => (h s hs.1 hid).2⟩

theorem mem_performance_foldl {ranges : List (Nat × Nat)} {mark : Nat × Nat} :
    mark ∈ (ranges.foldl deleteRange (db, n)).1.performance.map PerformanceSample.mark ↔
      mark ∈ db.performance.map PerformanceSample.mark ∧ ¬ InRanges ranges mark.2 := by
  induction ranges generalizing db n with
  | nil => simp [InRanges]
  | cons range ranges ih =>
      rw [List.foldl_cons, ← Prod.mk.eta (p := deleteRange (db, n) range), ih,
        mem_performance_deleteRange, inRanges_cons, not_or, and_assoc]

theorem archives_foldl (db : StorageDb) (n : Nat) (ranges : List (Nat × Nat)) :
    (ranges.foldl deleteRange (db, n)).1.archives = db.archives ∧
      (ranges.foldl deleteRange (db, n)).1.file = db.file := by
  induction ranges generalizing db n with
  | nil => exact ⟨rfl, rfl⟩
  | cons range ranges ih => exact ih _ _

end Prune

/-! ## rows and what holds them -/

/-- A row of one of the three tables that pruning deletes from. -/
inductive RawRow where
  | sample (s : PollSample)
  | value (v : RegisterValue)
  | performance (p : PerformanceSample)

/-- A row and the time it was observed. -/
def StorageDb.HasRow (db : StorageDb) (t : Nat) : RawRow → Prop
  | .sample s => s ∈ db.samples ∧ s.observedAtMs = t
  | .value v => v ∈ db.values ∧ ∃ s ∈ db.samples, s.id = v.sampleId ∧ s.observedAtMs = t
  | .performance p => p ∈ db.performance ∧ p.observedAtMs = t

/-- A row is still there; a performance row may have lost its sample. -/
def StorageDb.Keeps (db : StorageDb) : RawRow → Prop
  | .sample s => s ∈ db.samples
  | .value v => v ∈ db.values
  | .performance p => ∃ p' ∈ db.performance, p'.id = p.id

/-- A row of a file has the content of a table row; no column of a file comes
from `poll_performance_samples`. -/
def ArchivedRow.Holds (r : ArchivedRow) : RawRow → Prop
  | .sample s => r.sample = s
  | .value v => r.value = v
  | .performance _ => False

/-- The file of a day has the content of a row. -/
def StorageDb.FileHolds (db : StorageDb) (path : Calendar.Date) (row : RawRow) : Prop :=
  ∃ rows, db.file path = some rows ∧ ∃ r ∈ rows, r.Holds row

/-- The content of a row is in the verified file recorded for its time. -/
def StorageDb.Archived (db : StorageDb) (t : Nat) (row : RawRow) : Prop :=
  ∃ a ∈ db.archives, a.verified = true ∧ a.startMs ≤ t ∧ t < a.endMs ∧ db.FileHolds a.path row

/-- Every row that is gone is archived. -/
def PruneAuthorized (before after : StorageDb) : Prop :=
  ∀ t row, before.HasRow t row → ¬ after.Keeps row → after.Archived t row

/-! ## when pruning is safe -/

/-- The range that contains a time is pruned: it is recorded already, or is
recorded now. -/
def PrunedAt (cutoff : Nat) (db : StorageDb) (t : Nat) : Prop :=
  let day := t / Calendar.dayMs
  (∃ startMs endMs, db.HasRange (Calendar.ofDay day) startMs endMs ∧ t < endMs ∧ endMs ≤ cutoff) ∨
    (Unrecorded db day ∧ Rewrites cutoff db day ∧ t < dayEnd cutoff day)

/-- In the ranges that are pruned there are no performance rows; where the file
is written, every sample has a register value; where it is not, the file has
every row already. -/
def PruneSafe (cutoff : Nat) (db : StorageDb) : Prop :=
  (∀ p ∈ db.performance, ¬ PrunedAt cutoff db p.observedAtMs) ∧
  ∀ s ∈ db.samples, PrunedAt cutoff db s.observedAtMs →
    let day := s.observedAtMs / Calendar.dayMs
    (Rewrites cutoff db day → ∃ v ∈ db.values, v.sampleId = s.id) ∧
    (¬ Rewrites cutoff db day → db.FileHolds (Calendar.ofDay day) (.sample s) ∧
      ∀ v ∈ db.values, v.sampleId = s.id → db.FileHolds (Calendar.ofDay day) (.value v))

section Authorized

variable {cutoff t : Nat} {db db₂ : StorageDb}

theorem day_of_mem {day : Nat} (hlo : dayStart day ≤ t) (hhi : t < dayStart day + Calendar.dayMs) :
    t / Calendar.dayMs = day := by
  rw [dayStart] at hlo hhi
  exact Nat.div_eq_of_lt_le hlo (by rw [Nat.succ_mul]; exact hhi)

theorem dayStart_le (t : Nat) : dayStart (t / Calendar.dayMs) ≤ t := Nat.div_mul_le_self _ _

theorem Catalogue.range_of_day (h : Catalogue db) {day startMs endMs : Nat}
    (hr : db.HasRange (Calendar.ofDay day) startMs endMs) :
    startMs = dayStart day ∧ startMs < endMs ∧ endMs ≤ startMs + Calendar.dayMs := by
  obtain ⟨a, ha, hpath, rfl, rfl⟩ := hr
  obtain ⟨day', hstart, hpath', hlt, hle⟩ := h.day a ha
  rw [hpath', hstart, archivePath_dayStart] at hpath
  exact ⟨by rw [hstart, Calendar.ofDay_injective hpath], hlt, hle⟩

/-- A day that is rewritten has a sample, so it is visited. -/
theorem Rewrites.mem_archiveDays {day : Nat} (h : Rewrites cutoff db day) :
    day ∈ archiveDays cutoff db := by
  obtain ⟨hlt, -, hrows⟩ := h
  obtain ⟨r, hr⟩ := List.exists_mem_of_ne_nil _ hrows
  obtain ⟨htel, hlo, hhi⟩ := mem_archiveRows.mp hr
  have hcut : dayEnd cutoff day ≤ cutoff := Nat.min_le_right _ _
  have hday : dayEnd cutoff day ≤ dayStart day + Calendar.dayMs := Nat.min_le_left _ _
  have hmem : _ ∈ archiveDays cutoff db :=
    MorningstarModbus.mem_archiveDays (mem_telemetry.mp htel).1 (by omega)
  rwa [day_of_mem hlo (by omega)] at hmem

/-- Exactly the times of `PrunedAt` fall in a range that is pruned. -/
theorem ArchivedUpTo.inRanges_iff (h : ArchivedUpTo cutoff db (archiveDays cutoff db) db₂) :
    InRanges (prunableRanges cutoff db₂) t ↔ PrunedAt cutoff db t := by
  constructor
  · rintro ⟨range, hrange, hlo, hhi⟩
    obtain ⟨a, ha, -, hcut, hstart, hend⟩ := mem_prunableRanges.mp hrange
    obtain ⟨day, hday, hpath, -, hle⟩ := h.catalogue.day a ha
    rw [hday, archivePath_dayStart] at hpath
    have hmem : t / Calendar.dayMs = day := by
      refine day_of_mem ?_ ?_ <;> omega
    have hold := (h.hasRange day a.startMs a.endMs).mp ⟨a, ha, hpath, rfl, rfl⟩
    rw [← hend] at hhi
    rcases hold with hold | ⟨-, hwrite, -, hnew, hfresh⟩
    · exact .inl ⟨a.startMs, a.endMs, hmem ▸ hold, hhi, hcut⟩
    · exact .inr (hmem ▸ ⟨hfresh, hwrite, hnew ▸ hhi⟩)
  · have key : ∀ startMs endMs, db₂.HasRange (Calendar.ofDay (t / Calendar.dayMs)) startMs endMs →
        t < endMs → endMs ≤ cutoff → InRanges (prunableRanges cutoff db₂) t := by
      intro startMs endMs hr hhi hcut
      obtain ⟨hstart, -, -⟩ := h.catalogue.range_of_day hr
      obtain ⟨a, ha, -, rfl, rfl⟩ := hr
      refine ⟨(a.startMs, a.endMs), mem_prunableRanges.mpr
        ⟨a, ha, h.catalogue.verified a ha, hcut, rfl, rfl⟩, ?_, hhi⟩
      rw [hstart]
      exact dayStart_le t
    rintro (⟨startMs, endMs, hr, hhi, hcut⟩ | ⟨hfresh, hwrite, hhi⟩)
    · exact key startMs endMs ((h.hasRange _ _ _).mpr (.inl hr)) hhi hcut
    · exact key _ _ ((h.hasRange _ _ _).mpr
        (.inr ⟨hwrite.mem_archiveDays, hwrite, rfl, rfl, hfresh⟩)) hhi (Nat.min_le_right _ _)

/-- What is archived at a pruned time is what the file of the day holds. -/
theorem ArchivedUpTo.archived_iff (h : ArchivedUpTo cutoff db (archiveDays cutoff db) db₂)
    (hp : PrunedAt cutoff db t) (row : RawRow) :
    db₂.Archived t row ↔ db₂.FileHolds (Calendar.ofDay (t / Calendar.dayMs)) row := by
  constructor
  · rintro ⟨a, ha, -, hlo, hhi, hfile⟩
    obtain ⟨day, hday, hpath, -, hle⟩ := h.catalogue.day a ha
    rw [hday, archivePath_dayStart] at hpath
    have hmem : t / Calendar.dayMs = day := by
      refine day_of_mem ?_ ?_ <;> omega
    rwa [hmem, ← hpath]
  · intro hfile
    obtain ⟨range, hrange, hlo, hhi⟩ := h.inRanges_iff.mpr hp
    obtain ⟨a, ha, hver, -, hstart, hend⟩ := mem_prunableRanges.mp hrange
    obtain ⟨day, hday, hpath, -, hle⟩ := h.catalogue.day a ha
    rw [hday, archivePath_dayStart] at hpath
    have hmem : t / Calendar.dayMs = day := by
      refine day_of_mem ?_ ?_ <;> omega
    refine ⟨a, ha, hver, hstart ▸ hlo, hend ▸ hhi, ?_⟩
    rwa [hpath, ← hmem]

/-- A pruned time is in the range its day is archived up to. -/
theorem PrunedAt.lt_dayEnd (hc : Catalogue db) (hp : PrunedAt cutoff db t) :
    t < dayEnd cutoff (t / Calendar.dayMs) := by
  rcases hp with ⟨startMs, endMs, hr, hhi, hcut⟩ | ⟨-, -, hhi⟩
  · obtain ⟨hstart, -, hle⟩ := hc.range_of_day hr
    rw [hstart] at hle
    exact lt_of_lt_of_le hhi (le_min hle hcut)
  · exact hhi

/-- The file of a pruned day after the archive: the rows of the tables if it was
written, else as before. -/
theorem ArchivedUpTo.fileHolds_iff (h : ArchivedUpTo cutoff db (archiveDays cutoff db) db₂)
    (row : RawRow) :
    db₂.FileHolds (Calendar.ofDay (t / Calendar.dayMs)) row ↔
      if Rewrites cutoff db (t / Calendar.dayMs) then
        ∃ r ∈ archiveRows (dayStart (t / Calendar.dayMs)) (dayEnd cutoff (t / Calendar.dayMs)) db,
          r.Holds row
      else db.FileHolds (Calendar.ofDay (t / Calendar.dayMs)) row := by
  rw [StorageDb.FileHolds, h.file]
  by_cases hwrite : Rewrites cutoff db (t / Calendar.dayMs)
  · rw [if_pos ⟨hwrite.mem_archiveDays, hwrite⟩, if_pos hwrite]
    simp only [Option.some.injEq, exists_eq_left']
  · rw [if_neg (fun hboth => hwrite hboth.2), if_neg hwrite, StorageDb.FileHolds]

/-- A row is kept unless its time is pruned. -/
theorem ArchivedUpTo.keeps_iff (h : ArchivedUpTo cutoff db (archiveDays cutoff db) db₂)
    (hw : db.WellFormed) {row : RawRow} (hrow : db.HasRow t row) :
    (pruneVerifiedArchives cutoff db₂).1.Keeps row ↔ ¬ PrunedAt cutoff db t := by
  rw [← h.inRanges_iff]
  cases row with
  | sample s =>
      obtain ⟨hs, rfl⟩ := hrow
      show s ∈ ((prunableRanges cutoff db₂).foldl deleteRange (db₂, 0)).1.samples ↔ _
      rw [mem_samples_foldl, h.samples]
      simp [hs]
  | value v =>
      obtain ⟨hv, s, hs, hid, rfl⟩ := hrow
      show v ∈ ((prunableRanges cutoff db₂).foldl deleteRange (db₂, 0)).1.values ↔ _
      rw [mem_values_foldl, h.samples, h.values]
      constructor
      · rintro ⟨-, hout⟩
        exact hout s hs hid
      · intro hout
        refine ⟨hv, fun s' hs' hid' => ?_⟩
        rwa [hw.samples.eq hs' hs (hid'.trans hid.symm)]
  | performance p =>
      obtain ⟨hp, rfl⟩ := hrow
      constructor
      · rintro ⟨p', hp', hid⟩
        obtain ⟨hmark, hout⟩ := mem_performance_foldl.mp (List.mem_map_of_mem hp')
        rw [h.performance] at hmark
        obtain ⟨q, hq, hqmark⟩ := List.mem_map.mp hmark
        simp only [PerformanceSample.mark, Prod.mk.injEq] at hqmark
        rw [← hw.performance.eq hq hp (hqmark.1.trans hid), hqmark.2]
        exact hout
      · intro hout
        have hmark : p.mark ∈ db₂.performance.map PerformanceSample.mark := by
          rw [h.performance]
          exact List.mem_map_of_mem hp
        obtain ⟨p', hp', hmark'⟩ := List.mem_map.mp (mem_performance_foldl.mpr ⟨hmark, hout⟩)
        exact ⟨p', hp', congrArg Prod.fst hmark'⟩

/-- Rows that pruning deletes are in their files exactly in safe databases. -/
theorem ArchivedUpTo.authorized_iff (h : ArchivedUpTo cutoff db (archiveDays cutoff db) db₂)
    (hw : db.WellFormed) (hc : Catalogue db) :
    PruneAuthorized db (pruneVerifiedArchives cutoff db₂).1 ↔ PruneSafe cutoff db := by
  have harchived : ∀ t row, PrunedAt cutoff db t →
      ((pruneVerifiedArchives cutoff db₂).1.Archived t row ↔
        if Rewrites cutoff db (t / Calendar.dayMs) then
          ∃ r ∈ archiveRows (dayStart (t / Calendar.dayMs)) (dayEnd cutoff (t / Calendar.dayMs)) db,
            r.Holds row
        else db.FileHolds (Calendar.ofDay (t / Calendar.dayMs)) row) := by
    intro t row hp
    obtain ⟨harch, hfile⟩ := archives_foldl db₂ 0 (prunableRanges cutoff db₂)
    rw [← h.fileHolds_iff row, ← h.archived_iff hp row]
    simp only [StorageDb.Archived, StorageDb.FileHolds, pruneVerifiedArchives, harch, hfile]
  constructor
  · intro hauth
    have hgone : ∀ t row, db.HasRow t row → PrunedAt cutoff db t → _ := fun t row hrow hp =>
      (harchived t row hp).mp (hauth t row hrow (fun hkeep => (h.keeps_iff hw hrow).mp hkeep hp))
    constructor
    · intro p hp hpruned
      have hheld := hgone _ (.performance p) ⟨hp, rfl⟩ hpruned
      -- no file row holds a performance row
      simp [StorageDb.FileHolds, ArchivedRow.Holds] at hheld
    · intro s hs hpruned
      have hsample := hgone _ (.sample s) ⟨hs, rfl⟩ hpruned
      constructor
      · intro hwrite
        rw [if_pos hwrite] at hsample
        obtain ⟨r, hr, rfl⟩ := hsample
        obtain ⟨htel, -, -⟩ := mem_archiveRows.mp hr
        exact ⟨r.value, (mem_telemetry.mp htel).2⟩
      · intro hwrite
        rw [if_neg hwrite] at hsample
        refine ⟨hsample, fun v hv hid => ?_⟩
        have hvalue := hgone _ (.value v) ⟨hv, s, hs, hid.symm, rfl⟩ hpruned
        rwa [if_neg hwrite] at hvalue
  · rintro ⟨hperf, hsamples⟩ t row hrow hgone
    have hpruned := not_not.mp (mt (h.keeps_iff hw hrow).mpr hgone)
    rw [harchived t row hpruned]
    have hwritten : ∀ s ∈ db.samples, ∀ v ∈ db.values, s.observedAtMs = t → v.sampleId = s.id →
        (⟨s, v⟩ : ArchivedRow) ∈
          archiveRows (dayStart (t / Calendar.dayMs)) (dayEnd cutoff (t / Calendar.dayMs)) db := by
      rintro s hs v hv rfl hid
      exact mem_archiveRows.mpr
        ⟨mem_telemetry.mpr ⟨hs, hv, hid⟩, dayStart_le _, hpruned.lt_dayEnd hc⟩
    cases row with
    | sample s =>
        obtain ⟨hs, rfl⟩ := hrow
        obtain ⟨hnew, hold⟩ := hsamples s hs hpruned
        split
        case isTrue hwrite =>
          obtain ⟨v, hv, hid⟩ := hnew hwrite
          exact ⟨_, hwritten s hs v hv rfl hid, rfl⟩
        case isFalse hwrite => exact (hold hwrite).1
    | value v =>
        obtain ⟨hv, s, hs, hid, rfl⟩ := hrow
        split
        case isTrue hwrite => exact ⟨_, hwritten s hs v hv rfl hid.symm, rfl⟩
        case isFalse hwrite => exact ((hsamples s hs hpruned).2 hwrite).2 v hv hid.symm
    | performance p =>
        obtain ⟨hp, rfl⟩ := hrow
        exact absurd hpruned (hperf p hp)

end Authorized

/-! ## from every reachable state -/

/-- Statements on the derived tables do not change what is safe. -/
theorem StorageDb.SameRaw.pruneSafe_iff {cutoff : Nat} {db db' : StorageDb} (h : db.SameRaw db') :
    PruneSafe cutoff db' ↔ PruneSafe cutoff db := by
  simp only [PruneSafe, PrunedAt, Rewrites, Unrecorded, StorageDb.FileHolds, StorageDb.HasRange,
    alreadyVerified, archiveRows, h.telemetry, h.samples, h.values, h.performance, h.archives,
    h.file]

theorem StorageDb.SameRaw.pruneAuthorized_iff {db db' after : StorageDb} (h : db.SameRaw db') :
    PruneAuthorized db' after ↔ PruneAuthorized db after := by
  have hrows : ∀ t row, db'.HasRow t row ↔ db.HasRow t row := by
    intro t row
    cases row <;> simp only [StorageDb.HasRow, h.samples, h.values, h.performance]
  simp only [PruneAuthorized, hrows]

/-- The archive itself deletes nothing. -/
theorem ArchivedUpTo.keeps {cutoff t : Nat} {db db' : StorageDb} {done : List Nat} {row : RawRow}
    (h : ArchivedUpTo cutoff db done db') (hrow : db.HasRow t row) : db'.Keeps row := by
  cases row with
  | sample s =>
      rw [StorageDb.Keeps, h.samples]
      exact hrow.1
  | value v =>
      rw [StorageDb.Keeps, h.values]
      exact hrow.1
  | performance p => exact ⟨p, h.performance ▸ hrow.1, rfl⟩

/-- **Pruning deletes only what is archived** exactly when it is disabled or the
database before the call is safe. -/
theorem prune_authorized_iff {env : StorageEnv} {rule : RunRule} {m : Machine}
    {config : Retention} {now : Nat} {db' : StorageDb} {details : MaintenanceDetails}
    (hrun : StorageSteps env rule Machine.start m)
    (hok : maintain env config now m.db = .ok (db', details)) :
    PruneAuthorized m.db db' ↔
      (config.pruneArchivedRaw = true → PruneSafe (cutoffMs now config.hotDays) m.db) := by
  have hs := sound_start.run hrun
  obtain ⟨-, db₁, db₂, n, hraw, harchive, rfl⟩ := maintain_cases hok
  have hc := hs.catalogue.of_archives hraw.archives
  have hup := archivedUpTo_of_ok hc harchive
  rw [← hraw.pruneAuthorized_iff]
  by_cases hp : config.pruneArchivedRaw = true
  · rw [if_pos hp, hup.authorized_iff (hraw.wellFormed hs.wellFormed) hc, hraw.pruneSafe_iff]
    simp [hp]
  · rw [if_neg hp]
    simp only [hp, Bool.false_eq_true, false_implies, iff_true]
    exact fun t row hrow hgone => absurd (hup.keeps hrow) hgone

/-- A poll is archived and deleted. -/
theorem prune_authorized_after_poll : ∃ m db' details,
    StorageSteps rawEnv anyRule Machine.start m ∧
    maintain rawEnv oneDay (hourOfDay 48) m.db = .ok (db', details) ∧ db'.samples = [] ∧
    (PruneAuthorized m.db db' ↔
      (oneDay.pruneArchivedRaw = true →
        PruneSafe (cutoffMs (hourOfDay 48) oneDay.hotDays) m.db)) := by
  have heval : (do
      let m ← Machine.call rawEnv .start
        (.poll (hourOfDay 6) (hourOfDay 6) "dev" (voltagePoll "12" 12))
      let out ← maintain rawEnv oneDay (hourOfDay 48) m.db
      return out.1.samples) = .ok [] := by
    decide +kernel
  simp only [Loop.bind_eq_ok, Loop.pure_eq_ok, Except.ok.injEq] at heval
  obtain ⟨m, hpoll, ⟨db', details⟩, hok, hsamples⟩ := heval
  have hrun : StorageSteps rawEnv anyRule Machine.start m := by
    have hcalls : [StorageCall.poll (hourOfDay 6) (hourOfDay 6) "dev" (voltagePoll "12" 12)].foldlM
        (Machine.call rawEnv) Machine.start = .ok m := by
      rw [List.foldlM_cons, hpoll]
      rfl
    exact calls_steps (fun _ _ _ => trivial) hcalls rfl ⟨Nat.zero_le _, trivial, trivial⟩
  exact ⟨m, db', details, hrun, hok, hsamples, prune_authorized_iff hrun hok⟩

/-- A day is archived; then a poll of that day comes in late. -/
def latePoll : List StorageCall :=
  [.poll (hourOfDay 6) (hourOfDay 6) "dev" (voltagePoll "12" 12),
   .maintain oneDay (hourOfDay 48),
   .poll (hourOfDay 48) (hourOfDay 7) "dev" (voltagePoll "13" 13)]

/-- The sample of the late poll. -/
def lateSample : PollSample where
  id := 2
  deviceId := "dev"
  observedAtMs := hourOfDay 7
  latencyMs := 1
  profile := "ps"

/-- The late row is deleted without being archived: its range is verified. -/
theorem not_prune_authorized_late_row : ∃ m db' details,
    latePoll.foldlM (Machine.call rawEnv) Machine.start = .ok m ∧
      StorageSteps rawEnv anyRule Machine.start m ∧
      maintain rawEnv oneDay (hourOfDay 49) m.db = .ok (db', details) ∧
      ¬ PruneAuthorized m.db db' := by
  have heval : (do
      let m ← latePoll.foldlM (Machine.call rawEnv) Machine.start
      let out ← maintain rawEnv oneDay (hourOfDay 49) m.db
      return (decide (lateSample ∈ m.db.samples), out.1.samples,
        out.1.archives.all fun a => ((out.1.file a.path).getD []).all fun r =>
          r.sample ≠ lateSample)) = .ok (true, [], true) := by
    decide +kernel
  simp only [Loop.bind_eq_ok, Loop.pure_eq_ok, Except.ok.injEq, Prod.mk.injEq,
    decide_eq_true_eq, List.all_eq_true] at heval
  obtain ⟨m, hrun, ⟨db', details⟩, hok, hmem, hgone, hfiles⟩ := heval
  have hsteps : StorageSteps rawEnv anyRule Machine.start m := by
    refine calls_steps (fun _ _ _ => trivial) hrun rfl ?_
    simp [latePoll, OnSchedule, StorageCall.now, StorageCall.Stamped, Machine.start, anyRule,
      hourOfDay]
  refine ⟨m, db', details, hrun, hsteps, hok, fun hauth => ?_⟩
  have hnot : ¬ db'.Keeps (.sample lateSample) := by
    have hempty : db'.samples = [] := hgone
    rw [StorageDb.Keeps, hempty]
    exact List.not_mem_nil
  obtain ⟨a, ha, -, -, -, rows, hrows, r, hr, hheld⟩ :=
    hauth (hourOfDay 7) (.sample lateSample) ⟨hmem, rfl⟩ hnot
  have hne := hfiles a ha r (by rw [hrows]; exact hr)
  exact hne hheld

end MorningstarModbus
