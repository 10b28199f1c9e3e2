import MorningstarModbus.Lib.Tiered
import MorningstarModbus.Persistence.Catalogue

/-!
# MorningstarModbus.Persistence.ArchiveDurability

No telemetry row is lost by archiving and pruning, as long as a day's file is
only replaced while every row in it is still in the tables.

* `Machine.tiers` — the abstract two-tier store of a machine;
* `Durable` — the invariant: the tiers are safe, and the catalogue describes
  days that are over;
* `Durable.step` — every statement keeps it, by a step of the tiers;
* `archive_durable` — every row ever persisted stays available.
-/

namespace MorningstarModbus

open Table Tiered

/-! ## the tiers of a machine -/

/-- The catalogue lists a row for a day: a verified record of the day's file
covers its time. -/
def StorageDb.Listed (db : StorageDb) (path : Calendar.Date) (r : ArchivedRow) : Prop :=
  ∃ a ∈ db.archives, a.path = path ∧ a.verified = true ∧
    a.startMs ≤ r.sample.observedAtMs ∧ r.sample.observedAtMs < a.endMs

/-- A file holds a row. -/
def StorageDb.InFile (db : StorageDb) (path : Calendar.Date) (r : ArchivedRow) : Prop :=
  ∃ rows, db.file path = some rows ∧ r ∈ rows

/-- The two-tier store a machine implements. -/
def Machine.tiers (m : Machine) : Store ArchivedRow Calendar.Date where
  inserted := {r | r ∈ m.persisted}
  live := {r | r ∈ m.db.telemetry}
  file path := {r | m.db.InFile path r}
  listed path := {r | m.db.Listed path r}

/-- A register row can be read back: it is in `register_values`, or in the file
of a verified record whose range contains its time. -/
def StorageDb.Available (db : StorageDb) (r : ArchivedRow) : Prop :=
  r.value ∈ db.values ∨ ∃ a ∈ db.archives, a.verified = true ∧
    a.startMs ≤ r.sample.observedAtMs ∧ r.sample.observedAtMs < a.endMs ∧ db.InFile a.path r

theorem available_of_tiers {m : Machine} {r : ArchivedRow} (h : m.tiers.Available r) :
    m.db.Available r := by
  rcases h with hlive | ⟨path, ⟨a, ha, rfl, hver, hstart, hend⟩, hfile⟩
  · exact .inl (mem_telemetry.mp hlive).2.1
  · exact .inr ⟨a, ha, hver, hstart, hend, hfile⟩

/-! ## the invariant -/

/-- The cutoff of a running call is a day or more in the past. -/
def Past (cutoffMs clock : Nat) : Prop := cutoffMs = 0 ∨ cutoffMs + Calendar.dayMs ≤ clock

/-- The rows of a range are read: nothing persisted is missing, unless the file
has a record. -/
def RangeRead (m : Machine) (startMs endMs : Nat) (rows : List ArchivedRow) : Prop :=
  ∀ r ∈ m.persisted, startMs ≤ r.sample.observedAtMs → r.sample.observedAtMs < endMs →
    (∀ a ∈ m.db.archives, a.path ≠ archivePath startMs) → r ∈ rows

/-- What holds at each place of a call. -/
def MaintainPhase.Holds (m : Machine) : MaintainPhase → Prop
  | .idle => True
  | .tiering cutoff => Past cutoff m.clock
  | .archiving cutoff _ => Past cutoff m.clock
  | .replacing cutoff _ startMs endMs rows =>
      Past cutoff m.clock ∧ RangeRead m startMs endMs rows ∧
        ∀ r, m.db.InFile (archivePath startMs) r → m.db.Listed (archivePath startMs) r → r ∈ rows
  | .recording cutoff _ startMs endMs rows =>
      Past cutoff m.clock ∧ RangeRead m startMs endMs rows
  | .pruning ranges =>
      ∀ range ∈ ranges, ∃ a ∈ m.db.archives, a.startMs = range.1 ∧ a.endMs = range.2

/-- The invariant of the machine. -/
structure Durable (m : Machine) : Prop where
  past : ∀ a ∈ m.db.archives, a.endMs + Calendar.dayMs ≤ m.clock
  safe : m.tiers.Safe
  phase : m.phase.Holds m

/-- The rows of a file that is replaced are still in the tables, and older than
the end of the archived range. -/
def StillLive (startMs endMs : Nat) (db : StorageDb) : Prop :=
  ∀ r, db.InFile (archivePath startMs) r → r ∈ db.telemetry ∧ r.sample.observedAtMs < endMs

/-- Polls stamped on time; files replaced only while their rows are live. -/
def keepingRows : RunRule := { stamp := onTime, mayReplace := StillLive }

theorem durable_start : Durable Machine.start where
  past := by simp [Machine.start]
  safe := ⟨by simp [Machine.tiers, Machine.start], by simp [Machine.tiers, Machine.start]⟩
  phase := trivial

/-! ## what each statement does -/

section Statements

variable {env : StorageEnv} {m : Machine}

/-- The range of a call ends before anything that is stamped on time. -/
theorem Past.lt_observed {cutoff clock observedAtMs day : Nat} (h : Past cutoff clock)
    (hpos : dayStart day < dayEnd cutoff day) (hlate : clock ≤ observedAtMs + 1) :
    dayEnd cutoff day ≤ observedAtMs := by
  have hend : dayEnd cutoff day ≤ cutoff := Nat.min_le_right _ _
  rcases h with h | h
  · omega
  · simp only [Calendar.dayMs] at h
    omega

theorem past_cutoffMs {now hotDays : Nat} (h : 1 ≤ hotDays) : Past (cutoffMs now hotDays) now := by
  have hmul : Calendar.dayMs ≤ hotDays * Calendar.dayMs := Nat.le_mul_of_pos_left _ h
  simp only [Past, cutoffMs]
  omega

theorem Past.mono {cutoff clock now : Nat} (h : Past cutoff clock) (hnow : clock ≤ now) :
    Past cutoff now := h.imp id fun h => by omega

/-- A persisted row of an unrecorded day is live. -/
theorem Durable.live_of_unrecorded (h : Durable m) (hs : Sound m) {r : ArchivedRow}
    (hr : r ∈ m.persisted) {day cutoff : Nat} (hstart : dayStart day ≤ r.sample.observedAtMs)
    (hend : r.sample.observedAtMs < dayEnd cutoff day)
    (hnone : ∀ a ∈ m.db.archives, a.path ≠ archivePath (dayStart day)) : r ∈ m.db.telemetry := by
  rcases h.safe.accounted r hr with hlive | ⟨path, a, ha, -, -, hlo, hhi⟩
  · exact hlive
  · obtain ⟨day', hday', hpath, -, hlen⟩ := hs.catalogue.day a ha
    have hsame : day = day' := by
      have hmin : dayEnd cutoff day ≤ dayStart day + Calendar.dayMs := Nat.min_le_left _ _
      refine dayStart_eq_of_mem hstart (by omega) (hday' ▸ hlo) ?_
      rw [hday'] at hlen
      omega
    exact absurd (by rw [hpath, hday', hsame]) (hnone a ha)

/-- A listed row of a day is not older than the day. -/
theorem Sound.dayStart_le (hs : Sound m) {r : ArchivedRow} {day : Nat}
    (hl : m.db.Listed (archivePath (dayStart day)) r) : dayStart day ≤ r.sample.observedAtMs := by
  obtain ⟨a, ha, hpath, -, hlo, -⟩ := hl
  obtain ⟨day', hday', hpath', -, -⟩ := hs.catalogue.day a ha
  rw [hpath', hday'] at hpath
  rw [archivePath_injective hpath] at hday'
  exact hday' ▸ hlo

theorem listed_iff {db : StorageDb} (h : ∀ a ∈ db.archives, a.verified = true)
    {path : Calendar.Date} {r : ArchivedRow} : db.Listed path r ↔ ∃ startMs endMs,
      db.HasRange path startMs endMs ∧ startMs ≤ r.sample.observedAtMs ∧
        r.sample.observedAtMs < endMs := by
  constructor
  · rintro ⟨a, ha, hpath, -, hlo, hhi⟩
    exact ⟨a.startMs, a.endMs, ⟨a, ha, hpath, rfl, rfl⟩, hlo, hhi⟩
  · rintro ⟨startMs, endMs, ⟨a, ha, hpath, rfl, rfl⟩, hlo, hhi⟩
    exact ⟨a, ha, hpath, h a ha, hlo, hhi⟩

/-- What is listed after an entry was recorded. -/
theorem listed_recordArchive {db : StorageDb} {entry : ArchiveRow}
    (h : ∀ a ∈ db.archives, a.verified = true)
    (h' : ∀ a ∈ (recordArchive entry db).archives, a.verified = true)
    (path : Calendar.Date) (r : ArchivedRow) :
    (recordArchive entry db).Listed path r ↔
      db.Listed path r ∨ (path = entry.path ∧ (∀ a ∈ db.archives, a.path ≠ entry.path) ∧
        entry.startMs ≤ r.sample.observedAtMs ∧ r.sample.observedAtMs < entry.endMs) := by
  simp only [listed_iff h, listed_iff h', hasRange_recordArchive]
  constructor
  · rintro ⟨startMs, endMs, hold | ⟨hpath, rfl, rfl, hfresh⟩, hlo, hhi⟩
    · exact .inl ⟨startMs, endMs, hold, hlo, hhi⟩
    · exact .inr ⟨hpath, hfresh, hlo, hhi⟩
  · rintro (⟨startMs, endMs, hold, hlo, hhi⟩ | ⟨hpath, hfresh, hlo, hhi⟩)
    · exact ⟨startMs, endMs, .inl hold, hlo, hhi⟩
    · exact ⟨_, _, .inr ⟨hpath, rfl, rfl, hfresh⟩, hlo, hhi⟩

/-! ## polls and derived tables -/

/-- What was read stays complete while only later rows come in. -/
theorem RangeRead.mono {m' : Machine} {cutoff startMs endMs : Nat} {rows : List ArchivedRow}
    (harch : m'.db.archives = m.db.archives) (hpast : Past cutoff m.clock)
    (hnew : ∀ r ∈ m'.persisted, r ∈ m.persisted ∨ m.clock ≤ r.sample.observedAtMs + 1)
    (hrange : ∃ day, startMs = dayStart day ∧ endMs = dayEnd cutoff day ∧ startMs < endMs)
    (h : RangeRead m startMs endMs rows) : RangeRead m' startMs endMs rows := by
  intro r hr hlo hhi hnone
  rw [harch] at hnone
  rcases hnew r hr with hold | hlate
  · exact h r hold hlo hhi hnone
  · -- the range ended a day before the row
    obtain ⟨day, rfl, rfl, hlt⟩ := hrange
    have hle := hpast.lt_observed hlt hlate
    omega

/-- What holds at a place of a call still holds when time passes and rows come
in, as long as catalogue and files stay. -/
theorem MaintainPhase.Holds.mono (m' : Machine) (hclock : m.clock ≤ m'.clock)
    (harch : m'.db.archives = m.db.archives) (hfile : m'.db.file = m.db.file)
    (hnew : ∀ r ∈ m'.persisted, r ∈ m.persisted ∨ m.clock ≤ r.sample.observedAtMs + 1)
    {phase : MaintainPhase} (hranged : phase.Ranged m.db) (h : phase.Holds m) :
    phase.Holds m' := by
  cases phase with
  | idle => trivial
  | tiering cutoff => exact Past.mono h hclock
  | archiving cutoff days => exact Past.mono h hclock
  | replacing cutoff days startMs endMs rows =>
      obtain ⟨hpast, hread, hkeep⟩ := h
      refine ⟨hpast.mono hclock, hread.mono harch hpast hnew hranged, ?_⟩
      simp only [StorageDb.InFile, StorageDb.Listed, hfile, harch]
      exact hkeep
  | recording cutoff days startMs endMs rows =>
      obtain ⟨hpast, hread⟩ := h
      exact ⟨hpast.mono hclock, hread.mono harch hpast hnew hranged.1⟩
  | pruning ranges =>
      intro range hr
      rw [harch]
      exact h range hr

/-- Statements that leave the raw tables, the catalogue and the files alone. -/
theorem Durable.sameRaw (h : Durable m) (hs : Sound m) {db : StorageDb}
    (hraw : m.db.SameRaw db) : Durable { m with db } where
  past := by
    rw [hraw.archives]
    exact h.past
  safe := by
    have htiers : ({ m with db } : Machine).tiers = m.tiers := by
      simp only [Machine.tiers, StorageDb.InFile, StorageDb.Listed, hraw.telemetry, hraw.file,
        hraw.archives]
    exact htiers ▸ h.safe
  phase := h.phase.mono { m with db } (Nat.le_refl m.clock) hraw.archives hraw.file
    (fun _ hr => .inl hr) hs.ranged

/-- A poll stamped on time is never listed yet. -/
theorem Durable.poll (h : Durable m) (hs : Sound m) {now observedAtMs : Nat} {deviceId : String}
    {result : PollResult} {db : StorageDb} (hnow : m.clock ≤ now)
    (hstamp : onTime now observedAtMs)
    (hok : savePoll observedAtMs deviceId result m.db = .ok db) :
    Durable (m.polled now db (pollRows observedAtMs deviceId result m.db)) := by
  obtain ⟨-, harch, hfile, -, -, -, -, htel⟩ := savePoll_spec hs.wellFormed hok
  have htime : ∀ r ∈ pollRows observedAtMs deviceId result m.db,
      r.sample.observedAtMs = observedAtMs := by
    intro r hr
    obtain ⟨reading, -, rfl⟩ := List.mem_map.mp hr
    rfl
  have htiers : (m.polled now db (pollRows observedAtMs deviceId result m.db)).tiers =
      m.tiers.insert {r | r ∈ pollRows observedAtMs deviceId result m.db} := by
    ext1
    case inserted =>
      ext r
      simp [Machine.tiers, Machine.polled, Store.insert]
    case live =>
      ext r
      simp [Machine.tiers, Machine.polled, Store.insert, htel]
    case file => simp only [Machine.tiers, Machine.polled, Store.insert, StorageDb.InFile, hfile]
    case listed =>
      simp only [Machine.tiers, Machine.polled, Store.insert, StorageDb.Listed, harch]
  obtain ⟨hlate, -⟩ := hstamp
  constructor
  case past =>
    intro a ha
    simp only [Machine.polled, harch] at ha ⊢
    exact (h.past a ha).trans hnow
  case safe =>
    rw [htiers]
    refine h.safe.step (.insert _ ?_)
    rintro path r hr ⟨a, ha, -, -, -, hhi⟩
    have hpast := h.past a ha
    rw [htime r hr] at hhi
    simp only [Calendar.dayMs] at hpast
    omega
  case phase =>
    refine h.phase.mono _ hnow harch hfile ?_ hs.ranged
    intro r hr
    rcases List.mem_append.mp hr with hr | hr
    · exact .inl hr
    · right
      rw [htime r hr]
      omega

/-! ## the statements of a call -/

/-- A call moves on without a statement. -/
theorem Durable.move (h : Durable m) {now : Nat} (hnow : m.clock ≤ now) {phase : MaintainPhase}
    (hphase : phase.Holds { m with clock := now, phase }) :
    Durable { m with clock := now, phase } where
  past := fun a ha => (h.past a ha).trans hnow
  safe := h.safe
  phase := hphase

/-- The rows of a range are read while the rows of its file are live. -/
theorem Durable.read (h : Durable m) (hs : Sound m) {cutoff day : Nat} {days : List Nat}
    (hpast : Past cutoff m.clock)
    (hlive : StillLive (dayStart day) (dayEnd cutoff day) m.db) :
    Durable { m with
      phase := .replacing cutoff days (dayStart day) (dayEnd cutoff day)
        (archiveRows (dayStart day) (dayEnd cutoff day) m.db) } := by
  refine h.move (le_refl _) ⟨hpast, ?_, ?_⟩
  · intro r hr hlo hhi hnone
    exact mem_archiveRows.mpr ⟨h.live_of_unrecorded hs hr hlo hhi hnone, hlo, hhi⟩
  · intro r hfile hlisted
    obtain ⟨htel, hhi⟩ := hlive r hfile
    exact mem_archiveRows.mpr ⟨htel, hs.dayStart_le hlisted, hhi⟩

/-- The file is replaced by rows that have all that is listed. -/
theorem Durable.replace (h : Durable m) {cutoff startMs endMs : Nat} {days : List Nat}
    {rows : List ArchivedRow} (hp : m.phase = .replacing cutoff days startMs endMs rows) :
    Durable { m with
      db := replaceFile (archivePath startMs) rows m.db
      phase := .recording cutoff days startMs endMs rows } := by
  have hphase := h.phase
  rw [hp] at hphase
  obtain ⟨hpast, hread, hkeep⟩ := hphase
  have htiers : ({ m with
      db := replaceFile (archivePath startMs) rows m.db
      phase := .recording cutoff days startMs endMs rows } : Machine).tiers =
      m.tiers.replace (archivePath startMs) {r | r ∈ rows} := by
    ext1
    case file =>
      funext path
      by_cases hpath : path = archivePath startMs
      · subst hpath
        simp [Machine.tiers, Store.replace, StorageDb.InFile, replaceFile]
      · simp [Machine.tiers, Store.replace, StorageDb.InFile, replaceFile, hpath]
    all_goals rfl
  constructor
  case past => exact h.past
  case safe =>
    rw [htiers]
    exact h.safe.step (.replace _ _ hkeep)
  case phase => exact ⟨hpast, hread⟩

/-- The entry of the range is written. -/
theorem Durable.record (h : Durable m) (hs : Sound m) {cutoff startMs endMs : Nat} {days : List Nat}
    {rows : List ArchivedRow} (hp : m.phase = .recording cutoff days startMs endMs rows)
    (now : Nat) :
    Durable { m with
      db := recordArchive (archiveEntry env now startMs endMs rows m.db) m.db
      phase := .archiving cutoff days } := by
  have hphase := h.phase
  have hranged := hs.ranged
  rw [hp] at hphase hranged
  obtain ⟨hpast, hread⟩ := hphase
  obtain ⟨⟨day, hstart, hend, hlt⟩, hfile⟩ := hranged
  have hver : (archiveEntry env now startMs endMs rows m.db).verified = true :=
    archiveEntry_verified hfile
  have hcat := hs.catalogue.record hstart hend rfl (hstart ▸ hend ▸ hlt) hver
  have hlisted := listed_recordArchive hs.catalogue.verified hcat.verified
  have htiers : ({ m with
      db := recordArchive (archiveEntry env now startMs endMs rows m.db) m.db
      phase := .archiving cutoff days } : Machine).tiers =
      m.tiers.list (archivePath startMs)
        {r | (recordArchive (archiveEntry env now startMs endMs rows m.db) m.db).Listed
          (archivePath startMs) r} := by
    ext1
    case listed =>
      funext path
      by_cases hpath : path = archivePath startMs
      · subst hpath
        simp [Machine.tiers, Store.list]
      · ext r
        simp only [Machine.tiers, Store.list, Set.mem_ofPred_eq, Function.update_of_ne hpath,
          hlisted]
        constructor
        · rintro (hold | ⟨heq, -⟩)
          · exact hold
          · exact absurd heq hpath
        · exact .inl
    all_goals rfl
  constructor
  case past =>
    intro a ha
    rcases (mem_recordArchive ha).2 with rfl | ⟨old, hold, -, he, -⟩
    · have hle : endMs ≤ cutoff := by
        rw [hend]
        exact Nat.min_le_right _ _
      show endMs + Calendar.dayMs ≤ m.clock
      rcases hpast with hpast | hpast <;> omega
    · rw [he]
      exact h.past old hold
  case safe =>
    rw [htiers]
    refine h.safe.step (.list _ _ ?_ ?_)
    · intro r hr
      exact (hlisted _ r).mpr (.inl hr)
    · intro r hr hmem
      rcases (hlisted _ r).mp hmem with hold | ⟨-, hnone, hlo, hhi⟩
      · exact h.safe.kept _ r hr hold
      · exact ⟨rows, hfile, hread r hr hlo hhi hnone⟩
  case phase => exact hpast

/-- A recorded range is deleted from the tables. -/
theorem Durable.delete (h : Durable m) (hs : Sound m) {range : Nat × Nat} {ranges : List (Nat × Nat)}
    (hp : m.phase = .pruning (range :: ranges)) :
    Durable { m with db := (deleteRange (m.db, 0) range).1, phase := .pruning ranges } := by
  have hphase := h.phase
  rw [hp] at hphase
  obtain ⟨startMs, endMs⟩ := range
  have htiers : ({ m with db := (deleteRange (m.db, 0) (startMs, endMs)).1,
                          phase := .pruning ranges } : Machine).tiers =
      m.tiers.discard {r | startMs ≤ r.sample.observedAtMs ∧ r.sample.observedAtMs < endMs} := by
    ext1
    case live =>
      ext r
      simp only [Machine.tiers, Store.discard, Set.mem_ofPred_eq, Set.mem_sdiff,
        mem_telemetry_deleteRange hs.wellFormed]
    all_goals rfl
  constructor
  case past => exact h.past
  case safe =>
    rw [htiers]
    refine h.safe.step (.discard _ ?_)
    rintro r ⟨hlo, hhi⟩
    obtain ⟨a, ha, hlow, hhigh⟩ := hphase (startMs, endMs) List.mem_cons_self
    exact ⟨a.path, a, ha, rfl, hs.catalogue.verified a ha, by rw [hlow]; exact hlo,
      by rw [hhigh]; exact hhi⟩
  case phase => exact fun range' hr => hphase range' (List.mem_cons_of_mem _ hr)

/-- Performance rows are not archived, and the archive does not read them. -/
theorem Durable.performance (h : Durable m) (hs : Sound m) (deviceId : String)
    (sampleId : Option Nat) (observedAtMs : Nat) :
    Durable { m with db := savePerformance deviceId sampleId observedAtMs m.db } where
  past := h.past
  safe := h.safe
  phase := h.phase.mono _ (Nat.le_refl m.clock) rfl rfl (fun _ hr => .inl hr) hs.ranged

/-- **Every statement keeps the invariant.** -/
theorem Durable.step {m' : Machine} (h : Durable m) (hs : Sound m)
    (hstep : StorageStep env keepingRows m m') : Durable m' := by
  have hphase := h.phase
  cases hstep with
  | poll now observedAtMs deviceId result hnow hstamp hok => exact h.poll hs hnow hstamp hok
  | performance deviceId sampleId observedAtMs => exact h.performance hs _ _ _
  | derive hraw => exact h.sameRaw hs hraw
  | begin now hotDays hp hnow hhot => exact h.move hnow (past_cutoffMs hhot)
  | plan hp =>
      rw [hp] at hphase
      exact h.move (le_refl _) hphase
  | skip hp hskip =>
      rw [hp] at hphase
      exact h.move (le_refl _) hphase
  | read hp hlt hfresh hrows hlive =>
      rw [hp] at hphase
      exact h.read hs hphase hlive
  | replace hp => exact h.replace hp
  | record now hp => exact h.record hs hp now
  | prune hp =>
      refine h.move (le_refl _) ?_
      intro range hrange
      obtain ⟨a, ha, -, -, hlow, hhigh⟩ := mem_prunableRanges.mp hrange
      exact ⟨a, ha, hlow, hhigh⟩
  | delete hp => exact h.delete hs hp
  | stop => exact h.move (le_refl _) trivial

/-- **A whole run keeps the invariant.** -/
theorem Durable.run {m' : Machine} (h : Durable m) (hs : Sound m)
    (hrun : StorageSteps env keepingRows m m') : Durable m' := by
  induction hrun with
  | refl => exact h
  | tail hsteps hstep ih => exact ih.step (hs.run hsteps) hstep

end Statements

/-- **No register row is lost** in a run that replaces a day's file only while
every row in it is still in the tables and older than the new range's end. -/
theorem archive_durable {env : StorageEnv} {m : Machine}
    (hrun : StorageSteps env keepingRows Machine.start m) {r : ArchivedRow}
    (hr : r ∈ m.persisted) : m.db.Available r :=
  available_of_tiers ((durable_start.run sound_start hrun).safe.available hr)

/-! ## a day that is archived twice -/

instance (db : StorageDb) (path : Calendar.Date) (r : ArchivedRow) :
    Decidable (db.InFile path r) :=
  decidable_of_iff (((db.file path).getD []).contains r = true) <| by
    unfold StorageDb.InFile
    cases db.file path <;> simp

instance (db : StorageDb) (r : ArchivedRow) : Decidable (db.Available r) := by
  unfold StorageDb.Available
  infer_instance

/-- The row of a poll of 12 volts in the morning, the first ever. -/
def morningRow : ArchivedRow where
  sample := { id := 1, deviceId := "dev", observedAtMs := hourOfDay 6, latencyMs := 1,
              profile := "ps" }
  value := (voltageReading "12" 12).row 1

/-- Half a day is archived, and its rows are deleted. -/
theorem archive_durable_after_pruning : ∃ m, StorageSteps rawEnv keepingRows Machine.start m ∧
    morningRow ∈ m.persisted ∧ m.db.values = [] ∧ m.db.Available morningRow := by
  have heval : ∃ db, savePoll (hourOfDay 6) "dev" (voltagePoll "12" 12) {} = .ok db ∧
      pollRows (hourOfDay 6) "dev" (voltagePoll "12" 12) {} = [morningRow] ∧ db.archives = [] ∧
      db.file = (fun _ => none) ∧ archiveDays (hourOfDay 12) db = [3] ∧
      ∃ out, archiveDay rawEnv 0 (hourOfDay 12) (db, 0) 3 = .ok out ∧
        prunableRanges (hourOfDay 12) out.1 = [(hourOfDay 0, hourOfDay 12)] ∧
        (deleteRange (out.1, 0) (hourOfDay 0, hourOfDay 12)).1.values = [] := by
    refine ⟨_, rfl, by decide +kernel, rfl, rfl, by decide +kernel, _, rfl, by decide +kernel,
      by decide +kernel⟩
  obtain ⟨db, hpoll, hrows, -, hfile, hdays, ⟨db', n⟩, hday, hranges, hvalues⟩ := heval
  have hpolled : StorageStep rawEnv keepingRows Machine.start _ :=
    .poll (hourOfDay 6) (hourOfDay 6) "dev" _ (Nat.zero_le _) (by simp [keepingRows, onTime]) hpoll
  have hbegun := (Relation.ReflTransGen.single hpolled).tail
    (.begin (hourOfDay 36) 1 rfl (show hourOfDay 6 ≤ hourOfDay 36 by decide) (le_refl _))
  have hplanned := hbegun.tail (.plan rfl)
  have hlive : StillLive (dayStart 3) (dayEnd (hourOfDay 12) 3) db := by
    rintro r ⟨rows, hrows, -⟩
    rw [hfile] at hrows
    cases hrows
  have harchived := hplanned.trans
    (archiveDay_steps (by exact hlive) hday (by exact congrArg _ hdays))
  have hpruning := harchived.tail (.prune rfl)
  have hpruned := hpruning.tail (.delete (by exact congrArg _ hranges))
  have hmem : morningRow ∈ ([] : List ArchivedRow) ++
      pollRows (hourOfDay 6) "dev" (voltagePoll "12" 12) {} := by
    rw [hrows]
    exact List.mem_singleton_self _
  exact ⟨_, hpruned, hmem, hvalues, archive_durable hpruned hmem⟩

/-- Two polls of a day, and maintenance at noon and in the evening of the next. -/
def twiceArchived : List StorageCall :=
  [.poll (hourOfDay 6) (hourOfDay 6) "dev" (voltagePoll "12" 12),
   .poll (hourOfDay 18) (hourOfDay 18) "dev" (voltagePoll "13" 13),
   .maintain oneDay (hourOfDay 36), .maintain oneDay (hourOfDay 44)]

/-- The second maintenance replaces the file of a day after the first one
deleted its morning. -/
theorem not_archive_durable_day_archived_twice :
    ∃ m, twiceArchived.foldlM (Machine.call rawEnv) Machine.start = .ok m ∧
      StorageSteps rawEnv { stamp := onTime, mayReplace := fun _ _ _ => True } Machine.start m ∧
      morningRow ∈ m.persisted ∧ ¬ m.db.Available morningRow := by
  have heval : (do
      let m ← twiceArchived.foldlM (Machine.call rawEnv) Machine.start
      return decide (morningRow ∈ m.persisted ∧ ¬ m.db.Available morningRow)) = .ok true := by
    decide +kernel
  simp only [Loop.bind_eq_ok, Loop.pure_eq_ok, Except.ok.injEq, decide_eq_true_eq] at heval
  obtain ⟨m, hrun, hmem, hlost⟩ := heval
  refine ⟨m, hrun, calls_steps (fun _ _ _ => trivial) hrun rfl ?_, hmem, hlost⟩
  simp [twiceArchived, OnSchedule, StorageCall.now, StorageCall.Stamped, Machine.start, onTime,
    hourOfDay]

end MorningstarModbus
