import MorningstarModbus.Persistence.MaintenanceRun

/-!
# MorningstarModbus.Persistence.Catalogue

The archive catalogue: one record for each day's file, of a range of that day.

* `Catalogue` — its shape, and what an archived range adds to it;
* `Sound` — keys, references and the catalogue, in every state of every run.
-/

namespace MorningstarModbus

open Table

/-! ## the catalogue -/

/-- The catalogue has one record for a day's file, of a range of that day. -/
structure Catalogue (db : StorageDb) : Prop where
  keyed : Keyed ArchiveRow.path db.archives
  day : ∀ a ∈ db.archives, ∃ day, a.startMs = dayStart day ∧ a.path = archivePath a.startMs ∧
    a.startMs < a.endMs ∧ a.endMs ≤ a.startMs + Calendar.dayMs
  verified : ∀ a ∈ db.archives, a.verified = true

theorem archivePath_dayStart (day : Nat) : archivePath (dayStart day) = Calendar.ofDay day := by
  rw [archivePath, dayStart, Nat.mul_div_cancel _ (by decide)]

theorem archivePath_injective {day day' : Nat}
    (h : archivePath (dayStart day) = archivePath (dayStart day')) : day = day' := by
  rw [archivePath_dayStart, archivePath_dayStart] at h
  exact Calendar.ofDay_injective h

/-- Records of one time are of one day. -/
theorem dayStart_eq_of_mem {day day' t : Nat} (h : dayStart day ≤ t)
    (h' : t < dayStart day + Calendar.dayMs) (hd : dayStart day' ≤ t)
    (hd' : t < dayStart day' + Calendar.dayMs) : day = day' := by
  simp only [dayStart, Calendar.dayMs] at *
  omega

/-- The entry of a range whose rows are in place is verified. -/
theorem archiveEntry_verified {env : StorageEnv} {now startMs endMs : Nat}
    {rows : List ArchivedRow} {db : StorageDb} (hfile : db.file (archivePath startMs) = some rows) :
    (archiveEntry env now startMs endMs rows db).verified = true := by
  simp only [archiveEntry, hfile, Option.map_some, decide_true]

@[simp] theorem archiveEntry_startMs (env : StorageEnv) (now startMs endMs : Nat)
    (rows : List ArchivedRow) (db : StorageDb) :
    (archiveEntry env now startMs endMs rows db).startMs = startMs := rfl

@[simp] theorem archiveEntry_endMs (env : StorageEnv) (now startMs endMs : Nat)
    (rows : List ArchivedRow) (db : StorageDb) :
    (archiveEntry env now startMs endMs rows db).endMs = endMs := rfl

@[simp] theorem archiveEntry_path (env : StorageEnv) (now startMs endMs : Nat)
    (rows : List ArchivedRow) (db : StorageDb) :
    (archiveEntry env now startMs endMs rows db).path = archivePath startMs := rfl

/-- Every record after an entry was written has the range of an old one, or
that of the entry. -/
theorem mem_recordArchive {db : StorageDb} {entry a : ArchiveRow}
    (ha : a ∈ (recordArchive entry db).archives) :
    (a.verified = entry.verified ∨ a ∈ db.archives) ∧ (a = entry ∨ ∃ old ∈ db.archives,
      a.startMs = old.startMs ∧ a.endMs = old.endMs ∧ a.path = old.path) := by
  simp only [recordArchive] at ha
  rcases mem_upsert ha with ⟨rfl, -⟩ | ⟨old, hold, -, rfl⟩ | ⟨ha, -⟩
  · exact ⟨.inl rfl, .inl rfl⟩
  · exact ⟨.inl rfl, .inr ⟨old, hold, rfl, rfl, rfl⟩⟩
  · exact ⟨.inr ha, .inr ⟨a, ha, rfl, rfl, rfl⟩⟩

/-- A record of a file has this range. -/
def StorageDb.HasRange (db : StorageDb) (path : Calendar.Date) (startMs endMs : Nat) : Prop :=
  ∃ a ∈ db.archives, a.path = path ∧ a.startMs = startMs ∧ a.endMs = endMs

/-- The ranges after an entry was recorded: in a day with a record the same as
before, else the range of the entry. -/
theorem hasRange_recordArchive {db : StorageDb} {entry : ArchiveRow} {path : Calendar.Date}
    {startMs endMs : Nat} : (recordArchive entry db).HasRange path startMs endMs ↔
      db.HasRange path startMs endMs ∨ (path = entry.path ∧ startMs = entry.startMs ∧
        endMs = entry.endMs ∧ ∀ a ∈ db.archives, a.path ≠ entry.path) := by
  simp only [StorageDb.HasRange, recordArchive]
  constructor
  · rintro ⟨a, ha, rfl, rfl, rfl⟩
    rcases mem_upsert ha with ⟨rfl, hfresh⟩ | ⟨old, hold, -, rfl⟩ | ⟨ha, -⟩
    · exact .inr ⟨rfl, rfl, rfl, hfresh⟩
    · exact .inl ⟨old, hold, rfl, rfl, rfl⟩
    · exact .inl ⟨a, ha, rfl, rfl, rfl⟩
  · rintro (⟨a, ha, rfl, rfl, rfl⟩ | ⟨rfl, rfl, rfl, hfresh⟩)
    · by_cases hpath : a.path = entry.path
      · refine ⟨a.merge entry, ?_, rfl, rfl, rfl⟩
        rw [upsert_of_mem ha hpath]
        exact List.mem_map.mpr ⟨a, ha, by rw [if_pos hpath]⟩
      · exact ⟨a, mem_upsert_of_ne ha hpath, rfl, rfl, rfl⟩
    · refine ⟨entry, ?_, rfl, rfl, rfl⟩
      rw [upsert_of_fresh hfresh]
      exact List.mem_append_right _ (List.mem_singleton_self _)

/-- `_archive_range` finds the record of the day with exactly this range. -/
theorem Catalogue.alreadyVerified_iff {db : StorageDb} (h : Catalogue db) {day endMs : Nat} :
    alreadyVerified (dayStart day) endMs db = true ↔
      db.HasRange (Calendar.ofDay day) (dayStart day) endMs := by
  unfold alreadyVerified
  constructor
  · intro hver
    split at hver
    case h_1 a hfind =>
      have hrange := List.find?_some hfind
      simp only [decide_eq_true_eq] at hrange
      have ha := List.mem_of_find?_eq_some hfind
      obtain ⟨day', -, hpath, -, -⟩ := h.day a ha
      refine ⟨a, ha, ?_, hrange.1, hrange.2⟩
      rw [hpath, hrange.1, archivePath_dayStart]
    case h_2 => cases hver
  · rintro ⟨a, ha, -, hstart, hend⟩
    split
    case h_1 a' hfind => exact h.verified a' (List.mem_of_find?_eq_some hfind)
    case h_2 hfind =>
      have hnone := List.find?_eq_none.mp hfind a ha
      simp [hstart, hend] at hnone

/-- Recording a range of a day keeps the catalogue. -/
theorem Catalogue.record {db : StorageDb} (h : Catalogue db) {entry : ArchiveRow}
    {cutoff day : Nat} (hstart : entry.startMs = dayStart day) (hend : entry.endMs = dayEnd cutoff day)
    (hpath : entry.path = archivePath entry.startMs) (hlt : dayStart day < dayEnd cutoff day)
    (hver : entry.verified = true) : Catalogue (recordArchive entry db) where
  keyed := by
    simp only [recordArchive]
    exact h.keyed.upsert (by intro a ha; exact ha)
  day := by
    intro a ha
    rcases (mem_recordArchive ha).2 with rfl | ⟨old, hold, hs, he, hp⟩
    · refine ⟨day, hstart, hpath, by rw [hstart, hend]; exact hlt, ?_⟩
      rw [hstart, hend]
      exact Nat.min_le_left _ _
    · rw [hs, he, hp]
      exact h.day old hold
  verified := by
    intro a ha
    rcases (mem_recordArchive ha).1 with hv | hold
    · rw [hv, hver]
    · exact h.verified a hold

theorem Catalogue.of_archives {db db' : StorageDb} (h : Catalogue db)
    (harch : db'.archives = db.archives) : Catalogue db' where
  keyed := harch ▸ h.keyed
  day := by
    rw [harch]
    exact h.day
  verified := by
    rw [harch]
    exact h.verified

/-- The pruned ranges are those of records. -/
theorem mem_prunableRanges {cutoff : Nat} {db : StorageDb} {range : Nat × Nat} :
    range ∈ prunableRanges cutoff db ↔ ∃ a ∈ db.archives, a.verified = true ∧ a.endMs ≤ cutoff ∧
      a.startMs = range.1 ∧ a.endMs = range.2 := by
  simp only [prunableRanges, List.mem_insertionSort, List.mem_map, List.mem_filter,
    decide_eq_true_eq, Prod.ext_iff, and_assoc]

/-! ## every run keeps tables and catalogue sound -/

/-- What the place of a call says about its range. -/
def MaintainPhase.Ranged (db : StorageDb) : MaintainPhase → Prop
  | .replacing cutoff _ startMs endMs _ =>
      ∃ day, startMs = dayStart day ∧ endMs = dayEnd cutoff day ∧ startMs < endMs
  | .recording cutoff _ startMs endMs rows =>
      (∃ day, startMs = dayStart day ∧ endMs = dayEnd cutoff day ∧ startMs < endMs) ∧
        db.file (archivePath startMs) = some rows
  | _ => True

theorem MaintainPhase.Ranged.of_file {db db' : StorageDb} {phase : MaintainPhase}
    (h : phase.Ranged db) (hfile : db'.file = db.file) : phase.Ranged db' := by
  cases phase with
  | recording cutoff days startMs endMs rows => exact ⟨h.1, hfile ▸ h.2⟩
  | _ => exact h

/-- Keys, references and the catalogue. -/
structure Sound (m : Machine) : Prop where
  wellFormed : m.db.WellFormed
  catalogue : Catalogue m.db
  ranged : m.phase.Ranged m.db

theorem sound_start : Sound Machine.start where
  wellFormed := by constructor <;> simp [Machine.start]
  catalogue := by constructor <;> simp [Machine.start]
  ranged := trivial

/-- **Every statement** of every run keeps tables and catalogue sound. -/
theorem Sound.step {env : StorageEnv} {rule : RunRule} {m m' : Machine} (h : Sound m)
    (hstep : StorageStep env rule m m') : Sound m' := by
  have hranged := h.ranged
  cases hstep with
  | poll now observedAtMs deviceId result hnow hstamp hok =>
      obtain ⟨hw, harch, hfile, -⟩ := savePoll_spec h.wellFormed hok
      exact ⟨hw, h.catalogue.of_archives harch, hranged.of_file hfile⟩
  | performance deviceId sampleId observedAtMs =>
      exact ⟨h.wellFormed.savePerformance _ _ _, h.catalogue.of_archives rfl, hranged.of_file rfl⟩
  | derive hraw =>
      exact ⟨hraw.wellFormed h.wellFormed, h.catalogue.of_archives hraw.archives,
        hranged.of_file hraw.file⟩
  | read hp hlt hfresh hrows hmay => exact ⟨h.wellFormed, h.catalogue, _, rfl, rfl, hlt⟩
  | replace hp =>
      rw [hp] at hranged
      exact ⟨{ h.wellFormed with },
        h.catalogue.of_archives rfl, hranged, by simp [replaceFile]⟩
  | record now hp =>
      rw [hp] at hranged
      obtain ⟨⟨day, hstart, hend, hlt⟩, hfile⟩ := hranged
      refine ⟨{ h.wellFormed with },
        ?_, trivial⟩
      exact h.catalogue.record hstart hend rfl (hstart ▸ hend ▸ hlt) (archiveEntry_verified hfile)
  | delete hp =>
      exact ⟨h.wellFormed.deleteRange 0 _, h.catalogue.of_archives rfl, trivial⟩
  | begin now hotDays hp hnow hhot => exact ⟨h.wellFormed, h.catalogue, trivial⟩
  | plan hp => exact ⟨h.wellFormed, h.catalogue, trivial⟩
  | skip hp hskip => exact ⟨h.wellFormed, h.catalogue, trivial⟩
  | prune hp => exact ⟨h.wellFormed, h.catalogue, trivial⟩
  | stop => exact ⟨h.wellFormed, h.catalogue, trivial⟩

theorem Sound.run {env : StorageEnv} {rule : RunRule} {m m' : Machine} (h : Sound m)
    (hrun : StorageSteps env rule m m') : Sound m' := by
  induction hrun with
  | refl => exact h
  | tail _ hstep ih => exact ih.step hstep

end MorningstarModbus
