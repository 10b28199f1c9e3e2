import MorningstarModbus.Persistence.MaintenanceRun
import MorningstarModbus.Persistence.Rollups
import MorningstarModbus.Persistence.StateRuns

/-!
# MorningstarModbus.Persistence.StorageRuns

Runs of polls and whole `maintain` calls over the derived tables.

* `StorageRun` — calls that return, `maintain` calls that raise, and calls that are cut off;
* `Recorded` — keys, references and what the raw tables hold of the persisted rows;
* `StorageRun.recorded` — every run keeps it.
-/

namespace MorningstarModbus

open Query Table

/-! ## the statements of a call -/

/-- A statement of a `maintain` call. -/
inductive MaintainStatement : StorageDb → StorageDb → Prop where
  | refresh (db : StorageDb) : MaintainStatement db (refreshRegisterDictionary db).1
  | rollups {db db' : StorageDb} {cutoffMs bucketSeconds n : Nat} :
      buildRollups cutoffMs bucketSeconds db = .ok (db', n) → MaintainStatement db db'
  | stateRuns {db db' : StorageDb} {cutoffMs n : Nat} :
      buildStateRuns cutoffMs db = .ok (db', n) → MaintainStatement db db'
  /-- what the archive writes -/
  | archive (db : StorageDb) (archives : List ArchiveRow)
      (file : Calendar.Date → Option (List ArchivedRow)) :
      MaintainStatement db { db with archives, file }
  | delete (db : StorageDb) (range : Nat × Nat) : MaintainStatement db (deleteRange (db, 0) range).1

/-- Any number of statements. -/
abbrev MaintainStatements : StorageDb → StorageDb → Prop := Relation.ReflTransGen MaintainStatement

/-- One tier of `maintain`: the rollups of one size, up to a cutoff. -/
structure Tier where
  cutoffMs : Nat
  bucketSeconds : Nat
  deriving DecidableEq

/-- The tiers of a call, in the order they are built in. -/
def Retention.tiers (config : Retention) (now : Nat) : List Tier := [
  { cutoffMs := cutoffMs now config.hotDays, bucketSeconds := config.warmBucketSeconds },
  { cutoffMs := cutoffMs now config.warmDays, bucketSeconds := config.coolBucketSeconds },
  { cutoffMs := cutoffMs now config.coolDays, bucketSeconds := config.coldBucketSeconds }]

/-- The rollups of one tier. -/
def buildTier (db : StorageDb) (tier : Tier) : Except StorageError StorageDb :=
  (buildRollups tier.cutoffMs tier.bucketSeconds db).map Prod.fst

section Statements

variable {env : StorageEnv} {config : Retention} {now : Nat} {db db' : StorageDb}

/-- A tier of the fold is a call of `_build_rollups`. -/
theorem buildTier_eq_ok {tier : Tier} : buildTier db tier = .ok db' ↔
    ∃ n, buildRollups tier.cutoffMs tier.bucketSeconds db = .ok (db', n) := by
  rw [buildTier]
  cases buildRollups tier.cutoffMs tier.bucketSeconds db with
  | error e => simp [Except.map]
  | ok result => simp [Except.map, Prod.ext_iff]

/-- The tables that rollups and state runs live in. -/
structure StorageDb.SameDerived (db db' : StorageDb) : Prop where
  dictionary : db'.dictionary = db.dictionary
  rollups : db'.rollups = db.rollups
  stateRuns : db'.stateRuns = db.stateRuns

theorem deleteRange_db (acc : StorageDb × Nat) (range : Nat × Nat) :
    (deleteRange acc range).1 = (deleteRange (acc.1, 0) range).1 := rfl

/-- The archive touches only its catalogue and its files. -/
theorem archiveAllBefore_cases {cutoff n : Nat}
    (h : archiveAllBefore env now cutoff db = .ok (db', n)) :
    ∃ archives file, db' = { db with archives, file } := by
  refine Loop.foldlM_invariant (P := fun acc : StorageDb × Nat =>
    ∃ archives file, acc.1 = { db with archives, file }) h ⟨db.archives, db.file, rfl⟩ ?_
  intro day _ acc acc' hacc hday
  obtain ⟨before, count⟩ := acc
  obtain ⟨after, count'⟩ := acc'
  obtain ⟨archives, file, hdb⟩ := hacc
  have hdb : before = { db with archives, file } := hdb
  obtain ⟨-, heq⟩ | ⟨-, heq⟩ := archiveDay_cases hday
  · exact ⟨archives, file, heq.trans hdb⟩
  · rw [heq, hdb]
    exact ⟨_, _, rfl⟩

/-- Pruning deletes ranges one by one, and leaves the derived tables as they are. -/
theorem pruneVerifiedArchives_statements (cutoff : Nat) (db : StorageDb) :
    MaintainStatements db (pruneVerifiedArchives cutoff db).1 ∧
      db.SameDerived (pruneVerifiedArchives cutoff db).1 := by
  refine Loop.foldl_invariant
    (fun _ (acc : StorageDb × Nat) => MaintainStatements db acc.1 ∧ db.SameDerived acc.1)
    (prunableRanges cutoff db) ⟨.refl, ⟨rfl, rfl, rfl⟩⟩ ?_
  intro _ range _ acc _ hacc
  obtain ⟨hrun, hsame⟩ := hacc
  rw [deleteRange_db]
  exact ⟨hrun.tail (.delete acc.1 range), ⟨hsame.dictionary, hsame.rollups, hsame.stateRuns⟩⟩

/-- Every tier is a statement of its own. -/
theorem buildTiers_statements {tiers : List Tier} (h : tiers.foldlM buildTier db = .ok db') :
    MaintainStatements db db' := by
  refine Loop.foldlM_invariant (P := MaintainStatements db) h .refl ?_
  intro tier _ db₁ db₂ hrun hbuild
  obtain ⟨n, hbuild⟩ := buildTier_eq_ok.mp hbuild
  exact hrun.tail (.rollups hbuild)

/-- The three tiers come first and the state runs after them. -/
theorem buildTiers_eq_ok {counts : Nat × Nat × Nat × Nat}
    (h : buildTiers config now db = .ok (db', counts)) :
    ∃ built n, (config.tiers now).foldlM buildTier db = .ok built ∧
      buildStateRuns (cutoffMs now config.hotDays) built = .ok (db', n) := by
  simp only [buildTiers, Loop.bind_eq_ok, Loop.pure_eq_ok, Except.ok.injEq, Prod.exists,
    Prod.mk.injEq] at h
  obtain ⟨warm, n₁, hwarm, cool, n₂, hcool, cold, n₃, hcold, runs, n₄, hruns, rfl, -⟩ := h
  refine ⟨cold, n₄, ?_, hruns⟩
  simp only [Retention.tiers, List.foldlM_cons, List.foldlM_nil, buildTier, hwarm, hcool, hcold,
    Except.map, Loop.ok_bind, Loop.pure_eq_ok]

/-- What a call that returns has done to the derived tables: the dictionary, the tiers, the
state runs. -/
theorem maintain_built {details : MaintenanceDetails}
    (h : maintain env config now db = .ok (db', details)) :
    (config.hotDays ≤ config.warmDays ∧ config.warmDays ≤ config.coolDays) ∧
      MaintainStatements db db' ∧ ∃ built done n,
        (config.tiers now).foldlM buildTier
          (refreshRegisterDictionary (refreshRegisterDictionary db).1).1 = .ok built ∧
        buildStateRuns (cutoffMs now config.hotDays) built = .ok (done, n) ∧
        done.SameDerived db' := by
  obtain ⟨-, hwarm, hcool, done, counts, archived, k, htiers, harchive, hdb⟩ := maintain_eq_ok h
  obtain ⟨built, n, hbuilt, hruns⟩ := buildTiers_eq_ok htiers
  obtain ⟨archives, file, harchived⟩ := archiveAllBefore_cases harchive
  have hderived : done.SameDerived archived := by
    rw [harchived]
    exact ⟨rfl, rfl, rfl⟩
  have hbefore : MaintainStatements db archived := by
    have hrefresh := (Relation.ReflTransGen.single (MaintainStatement.refresh db)).tail
      (.refresh _)
    have hdone := (hrefresh.trans (buildTiers_statements hbuilt)).tail (.stateRuns hruns)
    rw [harchived]
    exact hdone.tail (.archive done archives file)
  refine ⟨⟨hwarm, hcool⟩, ?_⟩
  by_cases hprune : config.pruneArchivedRaw = true
  · obtain ⟨hstatements, hsame⟩ := pruneVerifiedArchives_statements
      (cutoffMs now config.hotDays) archived
    rw [hdb, if_pos hprune]
    exact ⟨hbefore.trans hstatements, built, done, n, hbuilt, hruns,
      hsame.dictionary.trans hderived.dictionary, hsame.rollups.trans hderived.rollups,
      hsame.stateRuns.trans hderived.stateRuns⟩
  · rw [hdb, if_neg hprune]
    exact ⟨hbefore, built, done, n, hbuilt, hruns, hderived⟩

end Statements

/-! ## runs of calls -/

/-- The arguments that `maintain` accepts. -/
structure Retention.Valid (config : Retention) : Prop where
  hot : 1 ≤ config.hotDays
  warm : config.hotDays ≤ config.warmDays
  cool : config.warmDays ≤ config.coolDays
  warmBucket : 1 ≤ config.warmBucketSeconds
  coolBucket : 1 ≤ config.coolBucketSeconds
  coldBucket : 1 ≤ config.coldBucketSeconds

/-- A call between the machine before it and what it left; it returned, or it raised. -/
structure CallEvent where
  before : Machine
  call : StorageCall
  after : Machine
  returned : Bool := true

/-- Polls and `maintain` calls.  A `maintain` call that raises, or that is cut off from outside,
leaves what some of its statements did. -/
inductive StorageRun (env : StorageEnv) : List CallEvent → Machine → Prop where
  | start : StorageRun env [] Machine.start
  | call {events : List CallEvent} {m m' : Machine} {c : StorageCall} :
      StorageRun env events m → Machine.call env m c = .ok m' →
      StorageRun env (events ++ [{ before := m, call := c, after := m' }]) m'
  | raised {events : List CallEvent} {m : Machine} {db : StorageDb} {config : Retention}
      {now : Nat} {e : StorageError} :
      StorageRun env events m → config.Valid →
      Machine.call env m (.maintain config now) = .error e → MaintainStatements m.db db →
      StorageRun env
        (events ++ [{ before := m, call := .maintain config now, after := { m with db },
                      returned := false }])
        { m with db }
  | cutOff {events : List CallEvent} {m : Machine} {db : StorageDb} :
      StorageRun env events m → MaintainStatements m.db db →
      StorageRun env events { m with db }

/-! ## what every run keeps -/

/-- Keys and references, and what the raw tables hold of the rows ever persisted. -/
structure Recorded (m : Machine) : Prop where
  wellFormed : m.db.WellFormed
  keyed : m.db.TablesKeyed
  registered : ∀ r ∈ m.db.rollups, ∃ d ∈ m.db.dictionary, d.registerKey = r.registerKey
  raw : ∀ t ∈ m.db.telemetry, t ∈ m.persisted
  nodup : m.persisted.Nodup
  sequence : ∀ t ∈ m.persisted, t.sample.id ≤ m.db.lastSampleId

section Recorded

variable {env : StorageEnv} {m m' : Machine} {db db' : StorageDb}

/-- The dictionary only grows. -/
theorem refresh_grows {d : DictionaryRow} (hdb : db.TablesKeyed) (hd : d ∈ db.dictionary) :
    d ∈ (refreshRegisterDictionary db).1.dictionary :=
  (foldl_addEntry _ hdb.registerKeys hdb.entries).2.2.1 d hd

/-- What a call of `build_rollups` that returns has done. -/
theorem buildRollups_ok {cutoffMs bucketSeconds n : Nat}
    (h : buildRollups cutoffMs bucketSeconds db = .ok (db', n)) :
    1 ≤ bucketSeconds ∧
      db' = { (refreshRegisterDictionary db).1 with
        rollups := rebuiltRollups cutoffMs bucketSeconds (refreshRegisterDictionary db).1 } ∧
      Keyed RollupRow.key db'.rollups := by
  have hpos : 1 ≤ bucketSeconds := by
    by_contra hzero
    rw [buildRollups, if_pos (by omega)] at h
    cases h
  have hcall := @buildRollups_eq cutoffMs bucketSeconds hpos db
  rw [h] at hcall
  simp only [Except.map] at hcall
  split at hcall
  · case isTrue hkeyed =>
      have hdb := Except.ok.inj hcall
      rw [hdb]
      exact ⟨hpos, rfl, hkeyed⟩
  · cases hcall

/-- New rollups refer to the dictionary. -/
theorem rebuilt_registered {cutoffMs bucketSeconds : Nat} (hdb : db.TablesKeyed)
    (hpos : 1 ≤ bucketSeconds)
    (hold : ∀ r ∈ db.rollups, ∃ d ∈ db.dictionary, d.registerKey = r.registerKey) :
    ∀ r ∈ rebuiltRollups cutoffMs bucketSeconds db,
      ∃ d ∈ db.dictionary, d.registerKey = r.registerKey := by
  intro r hr
  rw [rebuiltRollups, List.append_assoc, List.mem_append, List.mem_append] at hr
  obtain hkept | hnumeric | htext := hr
  · exact hold r (List.mem_filter.mp hkept).1
  · obtain ⟨-, -, d, hd, hkey, -⟩ := numericRollups_sound hdb hpos hnumeric
    exact ⟨d, hd, hkey⟩
  · obtain ⟨-, -, d, hd, hkey, -⟩ := textRollups_sound hdb hpos htext
    exact ⟨d, hd, hkey⟩

/-- What is recorded is in the raw tables. -/
theorem Recorded.of_sameRaw (h : Recorded m) (hraw : m.db.SameRaw db) (hkeyed : db.TablesKeyed)
    (hregistered : ∀ r ∈ db.rollups, ∃ d ∈ db.dictionary, d.registerKey = r.registerKey) :
    Recorded { m with db } where
  wellFormed := hraw.wellFormed h.wellFormed
  keyed := hkeyed
  registered := hregistered
  raw := hraw.telemetry ▸ h.raw
  nodup := h.nodup
  sequence := hraw.lastSampleId ▸ h.sequence

/-- The dictionary may grow. -/
theorem Recorded.refresh (h : Recorded m) :
    Recorded { m with db := (refreshRegisterDictionary m.db).1 } := by
  refine h.of_sameRaw (sameRaw_refreshRegisterDictionary m.db) (refresh_known h.keyed).1 ?_
  intro r hr
  obtain ⟨d, hd, hkey⟩ := h.registered r hr
  exact ⟨d, refresh_grows h.keyed hd, hkey⟩

/-- Rollups are under registers of the dictionary. -/
theorem Recorded.rollups {cutoffMs bucketSeconds n : Nat} (h : Recorded m)
    (hok : buildRollups cutoffMs bucketSeconds m.db = .ok (db, n)) : Recorded { m with db } := by
  obtain ⟨hpos, rfl, hrollups⟩ := buildRollups_ok hok
  obtain ⟨known, hknown⟩ : ∃ known, known = (refreshRegisterDictionary m.db).1 := ⟨_, rfl⟩
  have hrefresh : Recorded { m with db := known } := hknown ▸ h.refresh
  rw [← hknown] at hrollups ⊢
  refine hrefresh.of_sameRaw ⟨rfl, rfl, rfl, rfl, rfl, rfl, rfl⟩
    { hrefresh.keyed with rollups := hrollups } ?_
  exact rebuilt_registered hrefresh.keyed hpos hrefresh.registered

/-- State runs change neither. -/
theorem Recorded.stateRuns {cutoffMs n : Nat} (h : Recorded m)
    (hok : buildStateRuns cutoffMs m.db = .ok (db, n)) : Recorded { m with db } := by
  rw [buildStateRuns_eq h.keyed, Except.ok.injEq, Prod.mk.injEq] at hok
  obtain ⟨rfl, -⟩ := hok
  have hrefresh := h.refresh
  exact hrefresh.of_sameRaw ⟨rfl, rfl, rfl, rfl, rfl, rfl, rfl⟩
    { hrefresh.keyed with stateRuns := keyed_rebuiltStateRuns hrefresh.keyed } hrefresh.registered

/-- Nor do archives. -/
theorem Recorded.archive (h : Recorded m) (archives : List ArchiveRow)
    (file : Calendar.Date → Option (List ArchivedRow)) :
    Recorded { m with db := { m.db with archives, file } } where
  wellFormed := ⟨h.wellFormed.samples, h.wellFormed.values, h.wellFormed.reference,
    h.wellFormed.sequence, h.wellFormed.performance, h.wellFormed.performanceSequence⟩
  keyed := ⟨h.keyed.samples, h.keyed.values, h.keyed.registerKeys, h.keyed.entries,
    h.keyed.rollups, h.keyed.stateRuns⟩
  registered := h.registered
  raw := h.raw
  nodup := h.nodup
  sequence := h.sequence

/-- What is deleted stays recorded as persisted. -/
theorem Recorded.delete (h : Recorded m) (range : Nat × Nat) :
    Recorded { m with db := (deleteRange (m.db, 0) range).1 } where
  wellFormed := h.wellFormed.deleteRange 0 range
  keyed := ⟨h.keyed.samples.filter _, h.keyed.values.filter _, h.keyed.registerKeys,
    h.keyed.entries, h.keyed.rollups, h.keyed.stateRuns⟩
  registered := h.registered
  raw := fun t ht => h.raw t ((mem_telemetry_deleteRange h.wellFormed).mp ht).1
  nodup := h.nodup
  sequence := h.sequence

/-- **Step lemma.**  Each statement of a maintenance keeps the record. -/
theorem Recorded.statement (h : Recorded m) (hstep : MaintainStatement m.db db) :
    Recorded { m with db } := by
  cases hstep with
  | refresh => exact h.refresh
  | rollups hok => exact h.rollups hok
  | stateRuns hok => exact h.stateRuns hok
  | archive archives file => exact h.archive archives file
  | delete range => exact h.delete range

/-- **Run lemma.**  So does a call that is cut off anywhere. -/
theorem Recorded.statements (h : Recorded m) (hrun : MaintainStatements m.db db) :
    Recorded { m with db } := by
  induction hrun with
  | refl => exact h
  | @tail mid _ _ hstep ih => exact Recorded.statement (m := { m with db := mid }) ih hstep

/-- The rows of a poll are new, and different. -/
theorem pollRows_nodup {observedAtMs : Nat} {deviceId : String} {result : PollResult}
    (hok : savePoll observedAtMs deviceId result db = .ok db') :
    (pollRows observedAtMs deviceId result db).Nodup := by
  simp only [savePoll] at hok
  split at hok
  · case isTrue hkeyed =>
      rw [Keyed, List.map_append] at hkeyed
      have hrows := List.Nodup.of_map RegisterValue.key (List.Nodup.of_append_right hkeyed)
      refine List.Nodup.of_map ArchivedRow.value ?_
      rw [pollRows, List.map_map]
      exact hrows
  · cases hok

/-- A poll adds its rows to the store and to the record. -/
theorem Recorded.poll {now observedAtMs : Nat} {deviceId : String} {result : PollResult}
    (h : Recorded m) (hok : savePoll observedAtMs deviceId result m.db = .ok db) :
    Recorded (m.polled now db (pollRows observedAtMs deviceId result m.db)) := by
  obtain ⟨hw, -, -, -, -, -, hlast, htelemetry⟩ := savePoll_spec h.wellFormed hok
  have hnew : ∀ t ∈ pollRows observedAtMs deviceId result m.db,
      t.sample.id = m.db.lastSampleId + 1 := by
    intro t ht
    obtain ⟨reading, -, rfl⟩ := List.mem_map.mp ht
    rfl
  have hderived : m.db.SameDerived db := by
    simp only [savePoll] at hok
    split at hok
    · cases hok
      exact ⟨rfl, rfl, rfl⟩
    · cases hok
  refine ⟨hw, ⟨hw.samples, hw.values, ?_, ?_, ?_, ?_⟩, ?_, ?_, ?_, ?_⟩
  · exact hderived.dictionary ▸ h.keyed.registerKeys
  · exact hderived.dictionary ▸ h.keyed.entries
  · exact hderived.rollups ▸ h.keyed.rollups
  · exact hderived.stateRuns ▸ h.keyed.stateRuns
  · show ∀ r ∈ db.rollups, ∃ d ∈ db.dictionary, d.registerKey = r.registerKey
    rw [hderived.rollups, hderived.dictionary]
    exact h.registered
  · intro t ht
    cases (htelemetry t).mp ht with
    | inl hold => exact List.mem_append_left _ (h.raw t hold)
    | inr hrow => exact List.mem_append_right _ hrow
  · refine List.nodup_append.mpr ⟨h.nodup, pollRows_nodup hok, ?_⟩
    intro t ht u hu heq
    have hle := h.sequence t ht
    rw [heq, hnew u hu] at hle
    omega
  · intro t ht
    show t.sample.id ≤ db.lastSampleId
    rw [hlast]
    cases List.mem_append.mp ht with
    | inl hold => exact (h.sequence t hold).trans (Nat.le_succ _)
    | inr hrow => exact (hnew t hrow).le

/-- At first there is nothing to record. -/
theorem Recorded.start : Recorded Machine.start where
  wellFormed := by constructor <;> simp [Machine.start]
  keyed := by constructor <;> exact keyed_nil _
  registered := by simp [Machine.start]
  raw := by simp [Machine.start, StorageDb.telemetry]
  nodup := List.nodup_nil
  sequence := by simp [Machine.start]

/-- **Every run** keeps keys, references and what is raw of the persisted rows. -/
theorem StorageRun.recorded {events : List CallEvent} (hrun : StorageRun env events m) :
    Recorded m := by
  induction hrun with
  | start => exact .start
  | @call events m m' c _ hok ih =>
      cases c with
      | poll now observedAtMs deviceId result =>
          simp only [Machine.call, Loop.bind_eq_ok, Loop.pure_eq_ok, Except.ok.injEq] at hok
          obtain ⟨db, hpoll, rfl⟩ := hok
          exact ih.poll hpoll
      | maintain config now =>
          simp only [Machine.call, Loop.bind_eq_ok, Loop.pure_eq_ok, Except.ok.injEq] at hok
          obtain ⟨⟨db, details⟩, hmaintain, rfl⟩ := hok
          have hdone := ih.statements (maintain_built hmaintain).2.1
          exact ⟨hdone.wellFormed, hdone.keyed, hdone.registered, hdone.raw, hdone.nodup,
            hdone.sequence⟩
  | raised _ _ _ hstatements ih => exact ih.statements hstatements
  | cutOff _ hstatements ih => exact ih.statements hstatements

/-- The outcome of a call. -/
def CallEvent.Outcome (env : StorageEnv) (e : CallEvent) : Prop :=
  if e.returned then Machine.call env e.before e.call = .ok e.after
  else ∃ config now error, e.call = .maintain config now ∧ config.Valid ∧
    Machine.call env e.before (.maintain config now) = .error error

/-- The machine before each call was reached, and the call ended as recorded. -/
theorem StorageRun.event {events : List CallEvent} {e : CallEvent}
    (hrun : StorageRun env events m) (he : e ∈ events) : Recorded e.before ∧ e.Outcome env := by
  induction hrun with
  | start => cases he
  | call hrun hok ih =>
      cases List.mem_append.mp he with
      | inl hold => exact ih hold
      | inr hnew =>
          rw [List.mem_singleton.mp hnew]
          exact ⟨hrun.recorded, hok⟩
  | raised hrun hvalid herror _ ih =>
      cases List.mem_append.mp he with
      | inl hold => exact ih hold
      | inr hnew =>
          rw [List.mem_singleton.mp hnew]
          exact ⟨hrun.recorded, _, _, _, rfl, hvalid, herror⟩
  | cutOff _ _ ih => exact ih he

end Recorded

end MorningstarModbus
