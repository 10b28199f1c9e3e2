import Mathlib.Logic.Function.Basic
import MorningstarModbus.Persistence.Incidents

/-!
# MorningstarModbus.Persistence.IncidentLifecycle

What one `reconcile` call does to the incident table, and what holds over any
sequence of calls for one system.

* `IncidentDb.WellFormed` — the constraints of the table;
* `reconcile_spec` — the rows, and the transitions, after a call;
* `incident_lifecycle` — the lifecycle over whole runs.
-/

namespace MorningstarModbus

open Table

/-! ## the table -/

/-- The constraints of the table, and where its uids come from. -/
structure IncidentDb.WellFormed (env : IncidentEnv) (db : IncidentDb) : Prop where
  uids : Keyed IncidentRow.incidentUid db.rows
  active : Keyed IncidentRow.fingerprint (db.rows.filter IncidentRow.isActive)
  drawn : ∀ r ∈ db.rows, ∃ i < db.drawn, r.incidentUid = env.incidentUid i

theorem wellFormed_empty (env : IncidentEnv) : ({} : IncidentDb).WellFormed env where
  uids := keyed_nil _
  active := keyed_nil _
  drawn := by simp

section Rows

variable {env : IncidentEnv} {systemUid : String} {timestamp : Nat} {db : IncidentDb}

theorem mem_activeRows {r : IncidentRow} : r ∈ activeRows systemUid db ↔
    r ∈ db.rows ∧ r.systemUid = systemUid ∧ r.isActive = true := by
  simp [activeRows]

/-- Active rows with one fingerprint are one row. -/
theorem IncidentDb.WellFormed.active_eq (hw : db.WellFormed env) {r s : IncidentRow}
    (hr : r ∈ db.rows) (hra : r.isActive = true) (hs : s ∈ db.rows) (hsa : s.isActive = true)
    (h : r.fingerprint = s.fingerprint) : r = s :=
  hw.active.eq (List.mem_filter.mpr ⟨hr, hra⟩) (List.mem_filter.mpr ⟨hs, hsa⟩) h

theorem IncidentDb.WellFormed.keyed_activeRows (hw : db.WellFormed env) :
    Keyed IncidentRow.fingerprint (activeRows systemUid db) := by
  have hsplit : activeRows systemUid db =
      (db.rows.filter IncidentRow.isActive).filter fun r => r.systemUid = systemUid := by
    simp only [activeRows, List.filter_filter, Bool.decide_and, Bool.decide_eq_true]
  rw [hsplit]
  exact hw.active.filter _

/-- The row read back after it was written. -/
theorem reportRow_of_mem {kind : TransitionKind} {r : IncidentRow}
    (hk : Keyed IncidentRow.incidentUid db.rows) (hr : r ∈ db.rows) :
    reportRow kind r.incidentUid db = [(kind, r)] := by
  simp only [reportRow, lookup_of_mem hk hr, Option.toList_some, List.map_cons, List.map_nil]

end Rows

/-! ## the loop over the findings -/

/-- A row after the findings `fs`: refreshed by the one with its fingerprint. -/
def IncidentRow.refreshedBy (systemUid : String) (timestamp : Nat) (fs : List Finding)
    (r : IncidentRow) : IncidentRow :=
  if r.systemUid = systemUid ∧ r.isActive = true then
    match fs.find? fun f => f.fingerprint = r.fingerprint with
    | some f => r.refreshed timestamp f
    | none => r
  else r

/-- The findings among `fs` without an active row. -/
def newFindings (systemUid : String) (db : IncidentDb) (fs : List Finding) : List Finding :=
  fs.filter fun f => (lookup IncidentRow.fingerprint f.fingerprint (activeRows systemUid db)).isNone

/-- The rows opened for the findings `fs`. -/
def openedRows (env : IncidentEnv) (systemUid : String) (timestamp : Nat) (db : IncidentDb)
    (fs : List Finding) : List IncidentRow :=
  (newFindings systemUid db fs).mapIdx fun i f =>
    .opened (env.incidentUid (db.drawn + i)) systemUid timestamp f

/-- The state of the loop after the findings `done`. -/
structure Applied (env : IncidentEnv) (systemUid : String) (timestamp : Nat) (db : IncidentDb)
    (done : List Finding) (acc : IncidentDb × List Transition) : Prop where
  rows : acc.1.rows = db.rows.map (IncidentRow.refreshedBy systemUid timestamp done) ++
    openedRows env systemUid timestamp db done
  drawn : acc.1.drawn = db.drawn + (newFindings systemUid db done).length
  transitions : ∀ t, t ∈ acc.2 ↔
    (t.1 = .opened ∧ t.2 ∈ openedRows env systemUid timestamp db done) ∨
      ∃ f ∈ done, ∃ p ∈ activeRows systemUid db, p.fingerprint = f.fingerprint ∧
        p.changed f = true ∧ t = (.updated, p.refreshed timestamp f)
  nodup : (acc.2.map fun t => t.2.incidentUid).Nodup
  uids : Keyed IncidentRow.incidentUid acc.1.rows

section Findings

variable {env : IncidentEnv} {systemUid : String} {timestamp : Nat} {db : IncidentDb}
  {done : List Finding} {acc : IncidentDb × List Transition} {f : Finding}

@[simp] theorem refreshed_incidentUid (r : IncidentRow) :
    (r.refreshed timestamp f).incidentUid = r.incidentUid := rfl

@[simp] theorem refreshedBy_incidentUid (fs : List Finding) (r : IncidentRow) :
    (r.refreshedBy systemUid timestamp fs).incidentUid = r.incidentUid := by
  unfold IncidentRow.refreshedBy
  split
  · split <;> rfl
  · rfl

@[simp] theorem refreshedBy_isActive (fs : List Finding) (r : IncidentRow) :
    (r.refreshedBy systemUid timestamp fs).isActive = r.isActive := by
  unfold IncidentRow.refreshedBy
  split
  · split <;> rfl
  · rfl

@[simp] theorem refreshedBy_fingerprint (fs : List Finding) (r : IncidentRow) :
    (r.refreshedBy systemUid timestamp fs).fingerprint = r.fingerprint := by
  unfold IncidentRow.refreshedBy
  split
  · split <;> rfl
  · rfl

theorem refreshedBy_nil : IncidentRow.refreshedBy systemUid timestamp [] = id := by
  funext r
  simp [IncidentRow.refreshedBy]

/-- A row without a finding stays. -/
theorem refreshedBy_of_ne {r : IncidentRow} (h : ∀ g ∈ done, g.fingerprint ≠ r.fingerprint) :
    r.refreshedBy systemUid timestamp done = r := by
  have hnone : done.find? (fun g => g.fingerprint = r.fingerprint) = none := by
    simpa [List.find?_eq_none] using h
  simp only [IncidentRow.refreshedBy, hnone, ite_self]

/-- A finding with another fingerprint does not change a row. -/
theorem refreshedBy_snoc_of_ne {r : IncidentRow}
    (h : r.systemUid = systemUid → r.isActive = true → f.fingerprint ≠ r.fingerprint) :
    r.refreshedBy systemUid timestamp (done ++ [f]) = r.refreshedBy systemUid timestamp done := by
  unfold IncidentRow.refreshedBy
  by_cases hr : r.systemUid = systemUid ∧ r.isActive = true
  · have hne := h hr.1 hr.2
    simp [hr, List.find?_append, hne]
  · rw [if_neg hr, if_neg hr]

/-- The finding of a row refreshes it. -/
theorem refreshedBy_snoc_self {r : IncidentRow} (hs : r.systemUid = systemUid)
    (ha : r.isActive = true) (hf : r.fingerprint = f.fingerprint)
    (hfresh : ∀ g ∈ done, g.fingerprint ≠ f.fingerprint) :
    r.refreshedBy systemUid timestamp (done ++ [f]) = r.refreshed timestamp f := by
  have hnone : done.find? (fun g => g.fingerprint = r.fingerprint) = none := by
    simpa [List.find?_eq_none, hf] using hfresh
  have hsome : (done ++ [f]).find? (fun g => g.fingerprint = r.fingerprint) = some f := by
    rw [List.find?_append, hnone]
    simp [hf]
  simp only [IncidentRow.refreshedBy, hs, ha, hsome, and_self, if_true]

theorem newFindings_snoc : newFindings systemUid db (done ++ [f]) = newFindings systemUid db done ++
    if (lookup IncidentRow.fingerprint f.fingerprint (activeRows systemUid db)).isNone then [f]
    else [] := by
  simp only [newFindings, List.filter_append, List.filter_cons, List.filter_nil]

theorem openedRows_snoc_new
    (h : lookup IncidentRow.fingerprint f.fingerprint (activeRows systemUid db) = none) :
    openedRows env systemUid timestamp db (done ++ [f]) =
      openedRows env systemUid timestamp db done ++
        [.opened (env.incidentUid (db.drawn + (newFindings systemUid db done).length))
          systemUid timestamp f] := by
  rw [openedRows, newFindings_snoc, h, Option.isNone_none, if_pos rfl, List.mapIdx_concat,
    openedRows]

theorem openedRows_snoc_known {p : IncidentRow}
    (h : lookup IncidentRow.fingerprint f.fingerprint (activeRows systemUid db) = some p) :
    openedRows env systemUid timestamp db (done ++ [f]) =
      openedRows env systemUid timestamp db done := by
  rw [openedRows, newFindings_snoc, h, Option.isNone_some, if_neg Bool.false_ne_true,
    List.append_nil, openedRows]

theorem mem_openedRows {fs : List Finding} {r : IncidentRow}
    (h : r ∈ openedRows env systemUid timestamp db fs) : ∃ i f, f ∈ newFindings systemUid db fs ∧
      i < (newFindings systemUid db fs).length ∧
      r = .opened (env.incidentUid (db.drawn + i)) systemUid timestamp f := by
  obtain ⟨i, hi, rfl⟩ := List.mem_mapIdx.mp h
  exact ⟨i, _, List.getElem_mem hi, hi, rfl⟩

/-- A new row has a uid no old row has. -/
theorem openedRows_ne (hw : db.WellFormed env) (hinj : Function.Injective env.incidentUid)
    {fs : List Finding} {r p : IncidentRow} (hr : r ∈ openedRows env systemUid timestamp db fs)
    (hp : p ∈ db.rows) : r.incidentUid ≠ p.incidentUid := by
  obtain ⟨i, g, -, -, rfl⟩ := mem_openedRows hr
  obtain ⟨j, hj, hju⟩ := hw.drawn p hp
  intro heq
  have := hinj (heq.trans hju)
  omega

theorem map_fingerprint_openedRows (env : IncidentEnv) (systemUid : String) (timestamp : Nat)
    (db : IncidentDb) (fs : List Finding) :
    (openedRows env systemUid timestamp db fs).map IncidentRow.fingerprint =
      (newFindings systemUid db fs).map Finding.fingerprint := by
  refine List.ext_getElem (by simp [openedRows]) fun i h₁ h₂ => ?_
  simp [openedRows, IncidentRow.opened]

theorem applied_nil (hw : db.WellFormed env) :
    Applied env systemUid timestamp db [] (db, []) where
  rows := by simp [openedRows, newFindings, refreshedBy_nil]
  drawn := by simp [newFindings]
  transitions := by simp [openedRows, newFindings]
  nodup := by simp
  uids := hw.uids

theorem insertIncident_ok {row : IncidentRow}
    (huid : ∀ r ∈ db.rows, r.incidentUid ≠ row.incidentUid)
    (hfp : ∀ r ∈ db.rows, r.isActive = true → r.fingerprint ≠ row.fingerprint) :
    insertIncident row db = .ok { db with rows := db.rows ++ [row] } := by
  unfold insertIncident
  rw [if_neg, if_neg]
  · simpa using hfp
  · simpa using huid

/-- Every uid of the table was drawn before. -/
theorem Applied.drawn_lt (h : Applied env systemUid timestamp db done acc) (hw : db.WellFormed env)
    {r : IncidentRow} (hr : r ∈ acc.1.rows) :
    ∃ i < acc.1.drawn, r.incidentUid = env.incidentUid i := by
  rw [h.rows] at hr
  rw [h.drawn]
  rcases List.mem_append.mp hr with hr | hr
  · obtain ⟨old, hold, rfl⟩ := List.mem_map.mp hr
    obtain ⟨i, hi, hu⟩ := hw.drawn old hold
    exact ⟨i, by omega, by rw [refreshedBy_incidentUid, hu]⟩
  · obtain ⟨i, g, -, hi, rfl⟩ := mem_openedRows hr
    exact ⟨db.drawn + i, by omega, rfl⟩

/-- Every transition is about a row of the table. -/
theorem Applied.reported (h : Applied env systemUid timestamp db done acc) {t : Transition}
    (ht : t ∈ acc.2) : ∃ r ∈ acc.1.rows, r.incidentUid = t.2.incidentUid := by
  rw [h.rows]
  rcases (h.transitions t).mp ht with ⟨-, hr⟩ | ⟨g, -, p, hp, -, -, rfl⟩
  · exact ⟨t.2, List.mem_append_right _ hr, rfl⟩
  · have hmem := List.mem_map_of_mem (f := IncidentRow.refreshedBy systemUid timestamp done)
      (mem_activeRows.mp hp).1
    exact ⟨_, List.mem_append_left _ hmem, refreshedBy_incidentUid _ _⟩

/-- A finding without an active row opens one. -/
theorem Applied.opens (h : Applied env systemUid timestamp db done acc) (hw : db.WellFormed env)
    (hinj : Function.Injective env.incidentUid)
    (hnone : lookup IncidentRow.fingerprint f.fingerprint (activeRows systemUid db) = none)
    (hfree : ∀ r ∈ db.rows, r.isActive = true → r.fingerprint = f.fingerprint →
      r.systemUid = systemUid)
    (hfresh : ∀ g ∈ done, g.fingerprint ≠ f.fingerprint) :
    ∃ acc', applyFinding env systemUid timestamp (activeRows systemUid db) acc f = .ok acc' ∧
      Applied env systemUid timestamp db (done ++ [f]) acc' := by
  have hactive : ∀ r ∈ db.rows, r.isActive = true → r.fingerprint ≠ f.fingerprint := by
    intro r hr ha hf
    have hsys := hfree r hr ha hf
    exact lookup_eq_none_iff.mp hnone r (mem_activeRows.mpr ⟨hr, hsys, ha⟩) hf
  have huid : ∀ r ∈ acc.1.rows, r.incidentUid ≠ env.incidentUid acc.1.drawn := by
    intro r hr heq
    obtain ⟨i, hi, hu⟩ := h.drawn_lt hw hr
    have := hinj (hu.symm.trans heq)
    omega
  have hfp : ∀ r ∈ acc.1.rows, r.isActive = true → r.fingerprint ≠ f.fingerprint := by
    intro r hr ha
    rw [h.rows] at hr
    rcases List.mem_append.mp hr with hr | hr
    · obtain ⟨old, hold, rfl⟩ := List.mem_map.mp hr
      rw [refreshedBy_isActive] at ha
      rw [refreshedBy_fingerprint]
      exact hactive old hold ha
    · obtain ⟨i, g, hg, -, rfl⟩ := mem_openedRows hr
      exact hfresh g (List.mem_filter.mp hg).1
  obtain ⟨⟨rows, drawn⟩, transitions⟩ := acc
  have hrows : rows = _ := h.rows
  have hdrawn : drawn = _ := h.drawn
  obtain ⟨row, hrow⟩ : ∃ row, row = IncidentRow.opened (env.incidentUid drawn) systemUid timestamp f :=
    ⟨_, rfl⟩
  have hrowUid : row.incidentUid = env.incidentUid drawn := by rw [hrow, IncidentRow.opened]
  have hrowFp : row.fingerprint = f.fingerprint := by rw [hrow, IncidentRow.opened]
  rw [← hrowUid] at huid
  rw [← hrowFp] at hfp
  have hinsert : insertIncident row { rows, drawn := drawn + 1 } =
      .ok { rows := rows ++ [row], drawn := drawn + 1 } := insertIncident_ok huid hfp
  have hkeyed : Keyed IncidentRow.incidentUid (rows ++ [row]) := h.uids.append huid
  have hreport : reportRow .opened (env.incidentUid drawn)
      { rows := rows ++ [row], drawn := drawn + 1 } = [(.opened, row)] := by
    rw [← hrowUid]
    exact reportRow_of_mem hkeyed (List.mem_append_right _ (List.mem_singleton_self _))
  have hopened : openedRows env systemUid timestamp db (done ++ [f]) =
      openedRows env systemUid timestamp db done ++ [row] := by
    rw [openedRows_snoc_new hnone, ← hdrawn, hrow]
  refine ⟨({ rows := rows ++ [row], drawn := drawn + 1 }, transitions ++ [(.opened, row)]), ?_, ?_⟩
  · simp only [applyFinding, hnone, ← hrow, hinsert, Loop.ok_bind, hreport]
    rfl
  · constructor
    case rows =>
      show rows ++ [row] = _
      rw [hopened, ← List.append_assoc, hrows]
      congr 2
      refine List.map_congr_left fun r hr => ?_
      exact (refreshedBy_snoc_of_ne fun _ ha => (hactive r hr ha).symm).symm
    case drawn =>
      rw [newFindings_snoc, hnone, Option.isNone_none, if_pos rfl, List.length_append]
      show drawn + 1 = _
      rw [hdrawn]
      rfl
    case transitions =>
      intro t
      have hnotF : ∀ p ∈ activeRows systemUid db, p.fingerprint ≠ f.fingerprint :=
        lookup_eq_none_iff.mp hnone
      have hold : t ∈ transitions ↔ _ := h.transitions t
      rw [List.mem_append, hold, hopened, List.mem_singleton]
      constructor
      · rintro ((⟨hk, hr⟩ | ⟨g, hg, hp⟩) | rfl)
        · exact .inl ⟨hk, List.mem_append_left _ hr⟩
        · exact .inr ⟨g, List.mem_append_left _ hg, hp⟩
        · exact .inl ⟨rfl, List.mem_append_right _ (List.mem_singleton_self _)⟩
      · rintro (⟨hk, hr⟩ | ⟨g, hg, p, hp, hpf, hrest⟩)
        · rcases List.mem_append.mp hr with hr | hr
          · exact .inl (.inl ⟨hk, hr⟩)
          · exact .inr (Prod.ext hk (List.mem_singleton.mp hr))
        · rcases List.mem_append.mp hg with hg | hg
          · exact .inl (.inr ⟨g, hg, p, hp, hpf, hrest⟩)
          · rw [List.mem_singleton.mp hg] at hpf
            exact absurd hpf (hnotF p hp)
    case nodup =>
      rw [List.map_append, List.nodup_append]
      refine ⟨h.nodup, List.nodup_singleton _, ?_⟩
      intro uid hu uid' hu' heq
      obtain ⟨t, ht, rfl⟩ := List.mem_map.mp hu
      obtain ⟨r, hr, hru⟩ := h.reported ht
      rw [List.map_singleton, List.mem_singleton] at hu'
      exact huid r hr (hru.trans (heq.trans hu'))
    case uids => exact hkeyed

/-- A finding with an active row refreshes it. -/
theorem Applied.refreshes (h : Applied env systemUid timestamp db done acc)
    (hw : db.WellFormed env) (hinj : Function.Injective env.incidentUid) {p : IncidentRow}
    (hsome : lookup IncidentRow.fingerprint f.fingerprint (activeRows systemUid db) = some p)
    (hfresh : ∀ g ∈ done, g.fingerprint ≠ f.fingerprint) :
    ∃ acc', applyFinding env systemUid timestamp (activeRows systemUid db) acc f = .ok acc' ∧
      Applied env systemUid timestamp db (done ++ [f]) acc' := by
  obtain ⟨hp, hpf⟩ := mem_of_lookup hsome
  obtain ⟨hpdb, hps, hpa⟩ := mem_activeRows.mp hp
  have hpfresh : ∀ g ∈ done, g.fingerprint ≠ p.fingerprint := hpf ▸ hfresh
  obtain ⟨⟨rows, drawn⟩, transitions⟩ := acc
  have hrows : rows = _ := h.rows
  have hopened : openedRows env systemUid timestamp db (done ++ [f]) =
      openedRows env systemUid timestamp db done := openedRows_snoc_known hsome
  obtain ⟨rows', hrows'⟩ : ∃ rows', rows' =
      update (fun r => r.incidentUid = p.incidentUid) (IncidentRow.refreshed timestamp f) rows :=
    ⟨_, rfl⟩
  -- the update reaches the row of the incident only
  have hupdate : rows' = db.rows.map (IncidentRow.refreshedBy systemUid timestamp (done ++ [f])) ++
      openedRows env systemUid timestamp db (done ++ [f]) := by
    rw [hrows', hrows, hopened, update, List.map_append, List.map_map]
    congr 1
    · refine List.map_congr_left fun r hr => ?_
      simp only [Function.comp, refreshedBy_incidentUid, decide_eq_true_eq]
      by_cases hu : r.incidentUid = p.incidentUid
      · rw [if_pos hu, hw.uids.eq hr hpdb hu, refreshedBy_of_ne hpfresh,
          refreshedBy_snoc_self hps hpa hpf hfresh]
      · rw [if_neg hu, refreshedBy_snoc_of_ne]
        intro _ ha hf
        exact hu (congrArg _ (hw.active_eq hr ha hpdb hpa (hf.symm.trans hpf.symm)))
    · refine (List.map_congr_left fun r hr => ?_).trans (List.map_id _)
      have hne := openedRows_ne hw hinj hr hpdb
      simp only [hne, decide_false, Bool.false_eq_true, if_false, id_eq]
  have hkeyed : Keyed IncidentRow.incidentUid rows' := by
    rw [hrows']
    exact h.uids.update_of_key (by intro r; rfl)
  have hmem : p.refreshed timestamp f ∈ rows' := by
    rw [hupdate, ← refreshedBy_snoc_self hps hpa hpf hfresh]
    exact List.mem_append_left _ (List.mem_map_of_mem hpdb)
  have hreport : reportRow .updated p.incidentUid { rows := rows', drawn } =
      [(.updated, p.refreshed timestamp f)] :=
    reportRow_of_mem (r := p.refreshed timestamp f) hkeyed hmem
  refine ⟨({ rows := rows', drawn },
    transitions ++ if p.changed f then [(.updated, p.refreshed timestamp f)] else []), ?_, ?_⟩
  · simp only [applyFinding, hsome, ← hrows', hreport]
  · constructor
    case rows => exact hupdate
    case drawn =>
      rw [newFindings_snoc, hsome, Option.isNone_some, if_neg Bool.false_ne_true, List.append_nil]
      exact h.drawn
    case transitions =>
      intro t
      have hold : t ∈ transitions ↔ _ := h.transitions t
      have hnew : t ∈ (if p.changed f then [(.updated, p.refreshed timestamp f)] else []) ↔
          p.changed f = true ∧ t = (.updated, p.refreshed timestamp f) := by
        split
        case isTrue hc => simp [hc]
        case isFalse hc => simp [hc]
      rw [List.mem_append, hold, hopened, hnew]
      constructor
      · rintro ((hr | ⟨g, hg, hq⟩) | ⟨hc, rfl⟩)
        · exact .inl hr
        · exact .inr ⟨g, List.mem_append_left _ hg, hq⟩
        · exact .inr ⟨f, List.mem_append_right _ (List.mem_singleton_self _), p, hp, hpf, hc, rfl⟩
      · rintro (hr | ⟨g, hg, q, hq, hqf, hc, rfl⟩)
        · exact .inl (.inl hr)
        · rcases List.mem_append.mp hg with hg | hg
          · exact .inl (.inr ⟨g, hg, q, hq, hqf, hc, rfl⟩)
          · rw [List.mem_singleton] at hg
            subst hg
            have hqp := hw.keyed_activeRows.eq hq hp (hqf.trans hpf.symm)
            subst hqp
            exact .inr ⟨hc, rfl⟩
    case nodup =>
      split
      case isFalse => rw [List.append_nil]; exact h.nodup
      case isTrue =>
        rw [List.map_append, List.nodup_append]
        refine ⟨h.nodup, List.nodup_singleton _, ?_⟩
        intro uid hu uid' hu' heq
        obtain ⟨t, ht, rfl⟩ := List.mem_map.mp hu
        rw [List.map_singleton, List.mem_singleton] at hu'
        have htp : t.2.incidentUid = p.incidentUid := heq.trans hu'
        rcases (h.transitions t).mp ht with ⟨-, hr⟩ | ⟨g, hg, q, hq, hqf, -, rfl⟩
        · exact openedRows_ne hw hinj hr hpdb htp
        · have hqp : q = p := hw.uids.eq (mem_activeRows.mp hq).1 hpdb htp
          exact hpfresh g hg (hqp ▸ hqf.symm)
    case uids => exact hkeyed

/-- **All findings** of a call, when no other system has one of their
fingerprints active. -/
theorem applied_of_findings (timestamp : Nat) {findings : List Finding} (hw : db.WellFormed env)
    (hinj : Function.Injective env.incidentUid)
    (hdistinct : (findings.map Finding.fingerprint).Nodup)
    (hfree : ∀ f ∈ findings, ∀ r ∈ db.rows, r.isActive = true → r.fingerprint = f.fingerprint →
      r.systemUid = systemUid) :
    ∃ acc, findings.foldlM (applyFinding env systemUid timestamp (activeRows systemUid db))
        (db, []) = .ok acc ∧ Applied env systemUid timestamp db findings acc := by
  refine Loop.foldlM_ok (Applied env systemUid timestamp db) findings (applied_nil hw) ?_
  intro done f rest acc hsplit hdone
  have hfresh : ∀ g ∈ done, g.fingerprint ≠ f.fingerprint := by
    intro g hg heq
    rw [hsplit, List.map_append, List.map_cons] at hdistinct
    exact List.disjoint_of_nodup_append hdistinct (List.mem_map_of_mem hg)
      (heq ▸ List.mem_cons_self)
  cases hl : lookup IncidentRow.fingerprint f.fingerprint (activeRows systemUid db) with
  | none => exact hdone.opens hw hinj hl (hfree f (by simp [hsplit])) hfresh
  | some p => exact hdone.refreshes hw hinj hl hfresh

end Findings

/-! ## the loop over the rows that were active -/

/-- A row that was active is resolved: its key was evaluated without a finding. -/
def IncidentRow.gone (findings : List Finding) (evaluated : List String) (r : IncidentRow) : Bool :=
  r.fingerprint ∉ findings.map Finding.fingerprint ∧ r.evaluationKey ∈ evaluated

/-- A row after a whole call. -/
def IncidentRow.after (systemUid : String) (timestamp : Nat) (findings : List Finding)
    (evaluated : List String) (r : IncidentRow) : IncidentRow :=
  if r.systemUid = systemUid ∧ r.isActive = true ∧ r.gone findings evaluated = true then
    r.resolve timestamp
  else r.refreshedBy systemUid timestamp findings

/-- What a call does. -/
structure Reconciled (env : IncidentEnv) (systemUid : String) (timestamp : Nat)
    (findings : List Finding) (evaluated : List String) (db db' : IncidentDb)
    (transitions : List Transition) : Prop where
  rows : db'.rows = db.rows.map (IncidentRow.after systemUid timestamp findings evaluated) ++
    openedRows env systemUid timestamp db findings
  drawn : db'.drawn = db.drawn + (newFindings systemUid db findings).length
  listed : ∀ t, t ∈ transitions ↔
    (t.1 = .opened ∧ t.2 ∈ openedRows env systemUid timestamp db findings) ∨
      (∃ f ∈ findings, ∃ p ∈ activeRows systemUid db, p.fingerprint = f.fingerprint ∧
        p.changed f = true ∧ t = (.updated, p.refreshed timestamp f)) ∨
      ∃ p ∈ activeRows systemUid db, p.gone findings evaluated = true ∧
        t = (.resolved, p.resolve timestamp)
  nodup : (transitions.map fun t => t.2.incidentUid).Nodup
  uids : Keyed IncidentRow.incidentUid db'.rows

section Resolve

variable {env : IncidentEnv} {systemUid : String} {timestamp : Nat} {db : IncidentDb}
  {findings : List Finding} {evaluated : List String} {acc acc' : IncidentDb × List Transition}

/-- A row that is resolved has no finding. -/
theorem refreshedBy_of_gone (systemUid : String) (timestamp : Nat) {r : IncidentRow}
    (h : r.gone findings evaluated = true) : r.refreshedBy systemUid timestamp findings = r := by
  refine refreshedBy_of_ne fun g hg heq => ?_
  simp only [IncidentRow.gone, decide_eq_true_eq] at h
  exact h.1 (heq ▸ List.mem_map_of_mem hg)

/-- The state of the loop after the rows `done`. -/
structure ResolvedUpTo (timestamp : Nat) (findings : List Finding) (evaluated : List String)
    (acc : IncidentDb × List Transition) (done : List IncidentRow)
    (acc' : IncidentDb × List Transition) : Prop where
  rows : acc'.1.rows = acc.1.rows.map fun r =>
    if r ∈ done ∧ r.gone findings evaluated = true then r.resolve timestamp else r
  drawn : acc'.1.drawn = acc.1.drawn
  transitions : acc'.2 = acc.2 ++
    (done.filter (IncidentRow.gone findings evaluated)).map fun p => (.resolved, p.resolve timestamp)

theorem resolvedUpTo_step (hk : Keyed IncidentRow.incidentUid acc.1.rows)
    {done : List IncidentRow} {row : IncidentRow}
    (hrow : row.gone findings evaluated = true → row ∈ acc.1.rows)
    (hactive : row.isActive = true) (hnot : row ∉ done)
    (h : ResolvedUpTo timestamp findings evaluated acc done acc') :
    ResolvedUpTo timestamp findings evaluated acc (done ++ [row])
      (resolveRow timestamp (findings.map Finding.fingerprint) evaluated acc' row) := by
  by_cases hgone : row.gone findings evaluated = true
  · have hrow := hrow hgone
    have hcond := hgone
    simp only [IncidentRow.gone, decide_eq_true_eq] at hcond
    obtain ⟨rows', hrows'⟩ : ∃ rows', rows' =
        update (fun r => r.incidentUid = row.incidentUid ∧ r.isActive)
          (IncidentRow.resolve timestamp) acc'.1.rows := ⟨_, rfl⟩
    have hupdate : rows' = acc.1.rows.map fun r =>
        if r ∈ done ++ [row] ∧ r.gone findings evaluated = true then r.resolve timestamp else r := by
      rw [hrows', h.rows, update, List.map_map]
      refine List.map_congr_left fun r hr => ?_
      by_cases hu : r.incidentUid = row.incidentUid
      · rw [hk.eq hr hrow hu]
        simp [hnot, hgone, hactive]
      · have hne : r ≠ row := fun heq => hu (heq ▸ rfl)
        have huid : (if r ∈ done ∧ r.gone findings evaluated = true then r.resolve timestamp
            else r).incidentUid ≠ row.incidentUid := by
          split <;> exact hu
        simp [huid, hne]
    have hmem : row.resolve timestamp ∈ rows' := by
      rw [hupdate]
      exact List.mem_map.mpr ⟨row, hrow, by simp [hgone]⟩
    have hkeyed : Keyed IncidentRow.incidentUid rows' := by
      rw [hupdate]
      refine hk.map_rows fun r _ s _ heq => ?_
      split at heq <;> split at heq <;> exact heq
    have hreport : reportRow .resolved row.incidentUid { acc'.1 with rows := rows' } =
        [(.resolved, row.resolve timestamp)] :=
      reportRow_of_mem (r := row.resolve timestamp) hkeyed hmem
    rw [resolveRow, if_neg hcond.1, if_neg (not_not.mpr hcond.2)]
    simp only [← hrows', hreport]
    refine ⟨hupdate, h.drawn, ?_⟩
    simp [h.transitions, hgone]
  · have hskip :
        resolveRow timestamp (findings.map Finding.fingerprint) evaluated acc' row = acc' := by
      simp only [IncidentRow.gone, decide_eq_true_eq, not_and_or, not_not] at hgone
      unfold resolveRow
      rcases hgone with hp | he
      · rw [if_pos hp]
      · rw [if_pos he, ite_self]
    rw [hskip]
    refine ⟨h.rows.trans (List.map_congr_left fun r hr => ?_), h.drawn, ?_⟩
    · by_cases hr' : r = row
      · subst hr'
        simp [hgone]
      · simp [hr']
    · simp [h.transitions, hgone]

/-- **One call**, when no other system has one of its fingerprints active. -/
theorem reconcile_spec (timestamp : Nat) (evaluated : List String) (hw : db.WellFormed env)
    (hinj : Function.Injective env.incidentUid)
    (hdistinct : (findings.map Finding.fingerprint).Nodup)
    (hfree : ∀ f ∈ findings, ∀ r ∈ db.rows, r.isActive = true → r.fingerprint = f.fingerprint →
      r.systemUid = systemUid) :
    ∃ db' transitions,
      reconcile env systemUid timestamp findings evaluated db = .ok (db', transitions) ∧
        Reconciled env systemUid timestamp findings evaluated db db' transitions := by
  obtain ⟨acc, hfold, happlied⟩ := applied_of_findings timestamp hw hinj hdistinct hfree
  have hnodup : (activeRows systemUid db).Nodup := List.Nodup.of_map _ hw.keyed_activeRows
  have hgone : ∀ p ∈ activeRows systemUid db, p.gone findings evaluated = true →
      p ∈ acc.1.rows := by
    intro p hp hg
    rw [happlied.rows, ← refreshedBy_of_gone systemUid timestamp hg]
    exact List.mem_append_left _ (List.mem_map_of_mem (mem_activeRows.mp hp).1)
  obtain ⟨⟨db', transitions⟩, hout⟩ : ∃ out, out = (activeRows systemUid db).foldl
    (resolveRow timestamp (findings.map Finding.fingerprint) evaluated) acc := ⟨_, rfl⟩
  have hresolved : ResolvedUpTo timestamp findings evaluated acc (activeRows systemUid db)
      (db', transitions) := by
    rw [hout]
    refine Loop.foldl_invariant (ResolvedUpTo timestamp findings evaluated acc) _
      ⟨by simp, rfl, by simp⟩ ?_
    intro done row rest acc' hsplit hdone
    have hmem : row ∈ activeRows systemUid db := by simp [hsplit]
    rw [hsplit] at hnodup
    refine resolvedUpTo_step happlied.uids (hgone row hmem) (mem_activeRows.mp hmem).2.2 ?_ hdone
    intro hrow
    exact List.disjoint_of_nodup_append hnodup hrow List.mem_cons_self
  refine ⟨db', transitions, ?_, ?_, hresolved.drawn.trans happlied.drawn, ?_, ?_, ?_⟩
  · simp only [reconcile, hfold, Loop.ok_bind, ← hout]
    rfl
  · rw [hresolved.rows, happlied.rows, List.map_append, List.map_map]
    congr 1
    · refine List.map_congr_left fun r hr => ?_
      simp only [Function.comp, IncidentRow.after]
      by_cases hc : r.systemUid = systemUid ∧ r.isActive = true ∧ r.gone findings evaluated = true
      · have hmem := mem_activeRows.mpr ⟨hr, hc.1, hc.2.1⟩
        rw [if_pos hc, refreshedBy_of_gone systemUid timestamp hc.2.2, if_pos ⟨hmem, hc.2.2⟩]
      · rw [if_neg hc, if_neg]
        rintro ⟨hmem, hg⟩
        -- a row that is still among the active ones was not refreshed
        obtain ⟨hold, hs, ha⟩ := mem_activeRows.mp hmem
        rw [hw.uids.eq hold hr (refreshedBy_incidentUid _ _)] at hs ha hg
        exact hc ⟨hs, ha, hg⟩
    · refine (List.map_congr_left fun r hr => ?_).trans (List.map_id _)
      rw [if_neg, id]
      intro hc
      exact openedRows_ne hw hinj hr (mem_activeRows.mp hc.1).1 rfl
  · intro t
    have htrans : transitions = _ := hresolved.transitions
    rw [htrans, List.mem_append, happlied.transitions, or_assoc]
    simp only [List.mem_map, List.mem_filter, and_assoc, eq_comm (a := t)]
  · have htrans : transitions = _ := hresolved.transitions
    rw [htrans, List.map_append, List.nodup_append]
    refine ⟨happlied.nodup, ?_, ?_⟩
    · rw [List.map_map]
      exact (hw.uids.filter _).filter _
    · intro uid hu uid' hu' heq
      obtain ⟨t, ht, rfl⟩ := List.mem_map.mp hu
      obtain ⟨t', ht', rfl⟩ := List.mem_map.mp hu'
      obtain ⟨p, hp, rfl⟩ := List.mem_map.mp ht'
      obtain ⟨hpa, hpg⟩ := List.mem_filter.mp hp
      have hpdb := (mem_activeRows.mp hpa).1
      rcases (happlied.transitions t).mp ht with ⟨-, hr⟩ | ⟨g, hg, q, hq, hqf, -, rfl⟩
      · exact openedRows_ne hw hinj hr hpdb heq
      · have hqp : q = p := hw.uids.eq (mem_activeRows.mp hq).1 hpdb heq
        simp only [IncidentRow.gone, decide_eq_true_eq] at hpg
        rw [hqp] at hqf
        exact hpg.1 (hqf ▸ List.mem_map_of_mem hg)
  · have hrows : db'.rows = _ := hresolved.rows
    rw [hrows]
    refine happlied.uids.map_rows fun r _ s _ heq => ?_
    split at heq <;> split at heq <;> exact heq

end Resolve

/-! ## rows after a call -/

section After

variable {env : IncidentEnv} {systemUid : String} {timestamp : Nat} {db db' : IncidentDb}
  {findings : List Finding} {evaluated : List String} {transitions : List Transition}
  {r : IncidentRow}

theorem after_incidentUid :
    (r.after systemUid timestamp findings evaluated).incidentUid = r.incidentUid := by
  unfold IncidentRow.after
  split
  · rfl
  · exact refreshedBy_incidentUid _ _

theorem after_fingerprint :
    (r.after systemUid timestamp findings evaluated).fingerprint = r.fingerprint := by
  unfold IncidentRow.after
  split
  · rfl
  · exact refreshedBy_fingerprint _ _

/-- A call stays away from rows of other systems and from resolved ones. -/
theorem after_of_not (h : ¬ (r.systemUid = systemUid ∧ r.isActive = true)) :
    r.after systemUid timestamp findings evaluated = r := by
  rw [IncidentRow.after, if_neg (fun hc => h ⟨hc.1, hc.2.1⟩), IncidentRow.refreshedBy, if_neg h]

/-- An active row of the system is resolved, refreshed, or left as it is. -/
theorem after_cases (timestamp : Nat) (findings : List Finding) (evaluated : List String)
    (hs : r.systemUid = systemUid) (ha : r.isActive = true) :
    (r.gone findings evaluated = true ∧
      r.after systemUid timestamp findings evaluated = r.resolve timestamp) ∨
    (∃ f ∈ findings, f.fingerprint = r.fingerprint ∧
      r.after systemUid timestamp findings evaluated = r.refreshed timestamp f) ∨
    ((∀ f ∈ findings, f.fingerprint ≠ r.fingerprint) ∧ r.evaluationKey ∉ evaluated ∧
      r.after systemUid timestamp findings evaluated = r) := by
  unfold IncidentRow.after
  by_cases hg : r.gone findings evaluated = true
  · exact .inl ⟨hg, by rw [if_pos ⟨hs, ha, hg⟩]⟩
  · rw [if_neg (fun hc => hg hc.2.2), IncidentRow.refreshedBy, if_pos ⟨hs, ha⟩]
    cases hf : findings.find? fun f => f.fingerprint = r.fingerprint with
    | some f =>
        refine .inr (.inl ⟨f, List.mem_of_find?_eq_some hf, ?_, rfl⟩)
        simpa using List.find?_some hf
    | none =>
        have hne : ∀ f ∈ findings, f.fingerprint ≠ r.fingerprint := by
          simpa [List.find?_eq_none] using hf
        refine .inr (.inr ⟨hne, fun he => hg ?_, rfl⟩)
        simp only [IncidentRow.gone, decide_eq_true_eq, List.mem_map, not_exists, not_and]
        exact ⟨hne, he⟩

/-- The finding with the fingerprint of an active row refreshes it. -/
theorem after_of_finding {f : Finding} (hs : r.systemUid = systemUid) (ha : r.isActive = true)
    (hf : f ∈ findings) (hfp : r.fingerprint = f.fingerprint)
    (hdistinct : (findings.map Finding.fingerprint).Nodup) :
    r.after systemUid timestamp findings evaluated = r.refreshed timestamp f := by
  rcases after_cases timestamp findings evaluated hs ha with
    ⟨hg, -⟩ | ⟨g, hg, hgf, heq⟩ | ⟨hne, -, -⟩
  · simp only [IncidentRow.gone, decide_eq_true_eq] at hg
    exact absurd (hfp ▸ List.mem_map_of_mem hf) hg.1
  · rw [heq, List.inj_on_of_nodup_map hdistinct hg hf (hgf.trans hfp)]
  · exact absurd hfp.symm (hne f hf)

theorem Reconciled.mem_rows (h : Reconciled env systemUid timestamp findings evaluated db db'
    transitions) : r ∈ db'.rows ↔
      (∃ old ∈ db.rows, old.after systemUid timestamp findings evaluated = r) ∨
        r ∈ openedRows env systemUid timestamp db findings := by
  rw [h.rows, List.mem_append, List.mem_map]

/-- An active row of the table afterwards. -/
theorem Reconciled.active_cases (h : Reconciled env systemUid timestamp findings evaluated db db'
    transitions) (hr : r ∈ db'.rows) (ha : r.isActive = true) :
    (∃ f ∈ newFindings systemUid db findings, r.fingerprint = f.fingerprint ∧
      r.occurrenceCount = 1 ∧ r ∈ openedRows env systemUid timestamp db findings) ∨
    ∃ old ∈ db.rows, old.isActive = true ∧ r.fingerprint = old.fingerprint ∧
      old.after systemUid timestamp findings evaluated = r := by
  rcases h.mem_rows.mp hr with ⟨old, hold, rfl⟩ | hr
  · refine .inr ⟨old, hold, ?_, after_fingerprint, rfl⟩
    by_contra hnot
    rw [after_of_not (fun hc => hnot hc.2)] at ha
    exact hnot ha
  · obtain ⟨i, f, hf, -, hrow⟩ := mem_openedRows hr
    exact .inl ⟨f, hf, by rw [hrow, IncidentRow.opened], by rw [hrow, IncidentRow.opened], hr⟩

/-- The constraints hold after a call. -/
theorem Reconciled.wellFormed (h : Reconciled env systemUid timestamp findings evaluated db db'
    transitions) (hw : db.WellFormed env)
    (hdistinct : (findings.map Finding.fingerprint).Nodup)
    (hfree : ∀ f ∈ findings, ∀ r ∈ db.rows, r.isActive = true → r.fingerprint = f.fingerprint →
      r.systemUid = systemUid) : db'.WellFormed env where
  uids := h.uids
  active := by
    have hold : Keyed IncidentRow.fingerprint ((db.rows.map
        (IncidentRow.after systemUid timestamp findings evaluated)).filter IncidentRow.isActive) := by
      have hsub : (db.rows.map (IncidentRow.after systemUid timestamp findings evaluated)).filter
          IncidentRow.isActive = ((db.rows.filter IncidentRow.isActive).filter fun r =>
            (r.after systemUid timestamp findings evaluated).isActive).map
              (IncidentRow.after systemUid timestamp findings evaluated) := by
        rw [List.filter_map, List.filter_filter]
        congr 1
        refine List.filter_congr fun r _ => ?_
        by_cases ha : r.isActive = true
        · simp [ha]
        · rw [Function.comp, after_of_not (fun hc => ha hc.2)]
          simp [ha]
      rw [hsub]
      refine (hw.active.filter _).map_rows fun r _ s _ heq => ?_
      rwa [after_fingerprint, after_fingerprint] at heq
    have hnew : Keyed IncidentRow.fingerprint (openedRows env systemUid timestamp db findings) := by
      rw [Keyed, map_fingerprint_openedRows]
      exact hdistinct.sublist (List.Sublist.map _ List.filter_sublist)
    rw [h.rows, List.filter_append, Keyed, List.map_append, List.nodup_append]
    refine ⟨hold, hnew.filter _, ?_⟩
    intro fp hfp fp' hfp' heq
    obtain ⟨r, hr, rfl⟩ := List.mem_map.mp hfp
    obtain ⟨r', hr', rfl⟩ := List.mem_map.mp hfp'
    obtain ⟨hmem, ha⟩ := List.mem_filter.mp hr
    obtain ⟨old, hold', rfl⟩ := List.mem_map.mp hmem
    obtain ⟨i, f, hf, -, rfl⟩ := mem_openedRows (List.mem_filter.mp hr').1
    obtain ⟨hfmem, hnone⟩ := List.mem_filter.mp hf
    have hactive : old.isActive = true := by
      by_contra hnot
      rw [after_of_not (fun hc => hnot hc.2)] at ha
      exact hnot ha
    rw [after_fingerprint] at heq
    have hsys := hfree f hfmem old hold' hactive heq
    exact lookup_eq_none_iff.mp (Option.isNone_iff_eq_none.mp hnone) old
      (mem_activeRows.mpr ⟨hold', hsys, hactive⟩) heq
  drawn := by
    intro r hr
    rw [h.drawn]
    rcases h.mem_rows.mp hr with ⟨old, hold, rfl⟩ | hr
    · obtain ⟨i, hi, hu⟩ := hw.drawn old hold
      exact ⟨i, by omega, after_incidentUid.trans hu⟩
    · obtain ⟨i, f, -, hi, rfl⟩ := mem_openedRows hr
      exact ⟨db.drawn + i, by omega, rfl⟩

end After

/-! ## runs of one system -/

/-- The arguments of a call. -/
structure ReconcileCall where
  timestamp : Nat
  findings : List Finding
  evaluated : List String

/-- The fingerprints of its findings. -/
def ReconcileCall.fingerprints (c : ReconcileCall) : List String :=
  c.findings.map Finding.fingerprint

/-- Calls in order, on one system. -/
def runReconcile (env : IncidentEnv) (systemUid : String) (calls : List ReconcileCall) :
    Except IncidentError IncidentDb :=
  calls.foldlM (fun db c => do
    let (db, _) ← reconcile env systemUid c.timestamp c.findings c.evaluated db
    return db) {}

/-- A call opens an incident: its uid is new. -/
def OpenedBy (env : IncidentEnv) (systemUid : String) (before : List ReconcileCall)
    (opening : ReconcileCall) (incidentUid : String) : Prop :=
  ∃ db db' transitions, runReconcile env systemUid before = .ok db ∧
    reconcile env systemUid opening.timestamp opening.findings opening.evaluated db =
      .ok (db', transitions) ∧
    (∀ r ∈ db.rows, r.incidentUid ≠ incidentUid) ∧ ∃ r ∈ db'.rows, r.incidentUid = incidentUid

/-- An active incident has been counted in every call since its opening in
which it was a finding. -/
def Counted (env : IncidentEnv) (systemUid : String) (calls : List ReconcileCall)
    (r : IncidentRow) : Prop :=
  ∃ before opening since, calls = before ++ opening :: since ∧
    OpenedBy env systemUid before opening r.incidentUid ∧
    r.occurrenceCount =
      ((opening :: since).filter fun c => r.fingerprint ∈ c.fingerprints).length

/-- What a call changes. -/
structure LifecycleStep (c : ReconcileCall) (db db' : IncidentDb)
    (transitions : List Transition) : Prop where
  uids : Keyed IncidentRow.incidentUid db'.rows
  /-- the active fingerprints -/
  active : ∀ fp, (∃ r ∈ db'.rows, r.state = .active ∧ r.fingerprint = fp) ↔
    fp ∈ c.fingerprints ∨
      ∃ r ∈ db.rows, r.state = .active ∧ r.fingerprint = fp ∧ r.evaluationKey ∉ c.evaluated
  /-- a resolved row is never changed -/
  frozen : ∀ r ∈ db.rows, r.state = .resolved → r ∈ db'.rows
  /-- rows stay, with the columns of their opening -/
  kept : ∀ r ∈ db.rows, ∃ r' ∈ db'.rows, r'.incidentUid = r.incidentUid ∧
    r'.openedAt = r.openedAt ∧ r'.evaluationKey = r.evaluationKey ∧ r'.fingerprint = r.fingerprint
  /-- a finding without an active row opens a new one -/
  recurrence : ∀ fp ∈ c.fingerprints,
    (∀ r ∈ db.rows, r.state = .active → r.fingerprint ≠ fp) →
      ∃ r ∈ db'.rows, r.state = .active ∧ r.fingerprint = fp ∧ r.openedAt = c.timestamp ∧
        ∀ old ∈ db.rows, old.incidentUid ≠ r.incidentUid
  opened : ∀ r, (.opened, r) ∈ transitions ↔
    r ∈ db'.rows ∧ ∀ old ∈ db.rows, old.incidentUid ≠ r.incidentUid
  updated : ∀ r, (.updated, r) ∈ transitions ↔ r ∈ db'.rows ∧ r.state = .active ∧
    ∃ old ∈ db.rows, old.incidentUid = r.incidentUid ∧ (old.severity ≠ r.severity ∨
      old.confidence ≠ r.confidence ∨ old.title ≠ r.title ∨ old.summary ≠ r.summary)
  resolved : ∀ r, (.resolved, r) ∈ transitions ↔ r ∈ db'.rows ∧ r.state = .resolved ∧
    ∃ old ∈ db.rows, old.incidentUid = r.incidentUid ∧ old.state = .active
  nodup : (transitions.map fun t => t.2.incidentUid).Nodup

section Run

variable {env : IncidentEnv} {systemUid : String} {db db' : IncidentDb} {c : ReconcileCall}
  {transitions : List Transition} {r : IncidentRow}

theorem isActive_iff : r.isActive = true ↔ r.state = .active := by
  simp [IncidentRow.isActive]

theorem not_active_iff : ¬ r.state = .active ↔ r.state = .resolved := by
  cases r.state <;> simp

/-- The columns of the opening are never assigned. -/
theorem after_kept (systemUid : String) (c : ReconcileCall) (r : IncidentRow) :
    (r.after systemUid c.timestamp c.findings c.evaluated).openedAt = r.openedAt ∧
      (r.after systemUid c.timestamp c.findings c.evaluated).evaluationKey = r.evaluationKey ∧
      (r.after systemUid c.timestamp c.findings c.evaluated).systemUid = r.systemUid := by
  by_cases hr : r.systemUid = systemUid ∧ r.isActive = true
  · rcases after_cases c.timestamp c.findings c.evaluated hr.1 hr.2 with
        ⟨-, heq⟩ | ⟨f, -, -, heq⟩ | ⟨-, -, heq⟩ <;>
      rw [heq] <;> exact ⟨rfl, rfl, rfl⟩
  · rw [after_of_not hr]
    exact ⟨rfl, rfl, rfl⟩

/-- An active row of the system stays active unless it is gone. -/
theorem after_isActive (hs : r.systemUid = systemUid) (ha : r.isActive = true) :
    (r.after systemUid c.timestamp c.findings c.evaluated).isActive = true ↔
      r.fingerprint ∈ c.fingerprints ∨ r.evaluationKey ∉ c.evaluated := by
  unfold IncidentRow.after
  by_cases hg : r.gone c.findings c.evaluated = true
  · rw [if_pos ⟨hs, ha, hg⟩]
    simp only [IncidentRow.gone, decide_eq_true_eq] at hg
    simp [IncidentRow.resolve, IncidentRow.isActive, ReconcileCall.fingerprints, hg.1, hg.2]
  · rw [if_neg (fun hc => hg hc.2.2), refreshedBy_isActive]
    simp only [IncidentRow.gone, decide_eq_true_eq, not_and_or, not_not] at hg
    exact iff_of_true ha hg

theorem exists_openedRow (env : IncidentEnv) (timestamp : Nat) {fs : List Finding} {f : Finding}
    (hf : f ∈ newFindings systemUid db fs) :
    ∃ r ∈ openedRows env systemUid timestamp db fs, r.fingerprint = f.fingerprint := by
  have hmem := List.mem_map_of_mem (f := Finding.fingerprint) hf
  rw [← map_fingerprint_openedRows env systemUid timestamp] at hmem
  exact List.mem_map.mp hmem

/-- A finding without an active row is new. -/
theorem mem_newFindings {f : Finding} (hf : f ∈ c.findings)
    (hnone : ∀ r ∈ db.rows, r.state = .active → r.fingerprint ≠ f.fingerprint) :
    f ∈ newFindings systemUid db c.findings := by
  refine List.mem_filter.mpr ⟨hf, ?_⟩
  rw [Option.isNone_iff_eq_none, lookup_eq_none_iff]
  intro r hr
  obtain ⟨hmem, -, ha⟩ := mem_activeRows.mp hr
  exact hnone r hmem (isActive_iff.mp ha)

/-- A row of the table afterwards that shares its uid with an old one. -/
theorem Reconciled.of_uid {timestamp : Nat} {findings : List Finding} {evaluated : List String}
    (h : Reconciled env systemUid timestamp findings evaluated db db' transitions)
    (hw : db.WellFormed env) (hinj : Function.Injective env.incidentUid)
    (hr : r ∈ db'.rows) {old : IncidentRow} (hold : old ∈ db.rows)
    (hu : old.incidentUid = r.incidentUid) :
    r = old.after systemUid timestamp findings evaluated := by
  rcases h.mem_rows.mp hr with ⟨old', hold', rfl⟩ | hr
  · rw [after_incidentUid] at hu
    rw [hw.uids.eq hold hold' hu]
  · exact absurd hu.symm (openedRows_ne hw hinj hr hold)

/-! ### the fields of a step -/

section Step

variable (h : Reconciled env systemUid c.timestamp c.findings c.evaluated db db' transitions)
  (hw : db.WellFormed env) (hinj : Function.Injective env.incidentUid)
  (hdistinct : c.fingerprints.Nodup) (hsys : ∀ r ∈ db.rows, r.systemUid = systemUid)
include h

theorem Reconciled.mem_after {old : IncidentRow} (hold : old ∈ db.rows) :
    old.after systemUid c.timestamp c.findings c.evaluated ∈ db'.rows :=
  h.mem_rows.mpr (.inl ⟨old, hold, rfl⟩)

include hw hinj

/-- A finding without an active row opens a new one. -/
theorem Reconciled.recurs {fp : String} (hfp : fp ∈ c.fingerprints)
    (hnone : ∀ r ∈ db.rows, r.state = .active → r.fingerprint ≠ fp) :
    ∃ r ∈ db'.rows, r.state = .active ∧ r.fingerprint = fp ∧ r.openedAt = c.timestamp ∧
      ∀ old ∈ db.rows, old.incidentUid ≠ r.incidentUid := by
  obtain ⟨f, hf, rfl⟩ := List.mem_map.mp hfp
  obtain ⟨r, hr, hrf⟩ := exists_openedRow env c.timestamp (mem_newFindings hf hnone)
  have hne := fun old hold => (openedRows_ne hw hinj hr (p := old) hold).symm
  obtain ⟨i, g, -, -, hrow⟩ := mem_openedRows hr
  exact ⟨r, h.mem_rows.mpr (.inr hr), by rw [hrow, IncidentRow.opened], hrf,
    by rw [hrow, IncidentRow.opened], hne⟩

theorem Reconciled.listed_opened : (.opened, r) ∈ transitions ↔
    r ∈ db'.rows ∧ ∀ old ∈ db.rows, old.incidentUid ≠ r.incidentUid := by
  rw [h.listed]
  constructor
  · rintro (⟨-, hr⟩ | ⟨f, -, p, -, -, -, ht⟩ | ⟨p, -, -, ht⟩)
    · exact ⟨h.mem_rows.mpr (.inr hr), fun old hold => (openedRows_ne hw hinj hr hold).symm⟩
    · cases ht
    · cases ht
  · rintro ⟨hr, hne⟩
    rcases h.mem_rows.mp hr with ⟨old, hold, rfl⟩ | hr
    · exact absurd after_incidentUid.symm (hne old hold)
    · exact .inl ⟨rfl, hr⟩

include hsys

/-- The active fingerprints. -/
theorem Reconciled.active_iff (fp : String) :
    (∃ r ∈ db'.rows, r.state = .active ∧ r.fingerprint = fp) ↔ fp ∈ c.fingerprints ∨
      ∃ r ∈ db.rows, r.state = .active ∧ r.fingerprint = fp ∧ r.evaluationKey ∉ c.evaluated := by
  constructor
  · rintro ⟨r, hr, hra, rfl⟩
    rcases h.active_cases hr (isActive_iff.mpr hra) with ⟨f, hf, hrf, -⟩ |
      ⟨old, hold, ha, hfp, rfl⟩
    · exact .inl (hrf ▸ List.mem_map_of_mem (List.mem_filter.mp hf).1)
    · rw [hfp]
      rcases (after_isActive (hsys old hold) ha).mp (isActive_iff.mpr hra) with hmem | he
      · exact .inl hmem
      · exact .inr ⟨old, hold, isActive_iff.mp ha, rfl, he⟩
  · intro hfp
    by_cases hnone : ∀ r ∈ db.rows, r.state = .active → r.fingerprint ≠ fp
    · rcases hfp with hfp | ⟨r, hr, hra, hrf, -⟩
      · obtain ⟨r, hr, hra, hrf, -⟩ := h.recurs hw hinj hfp hnone
        exact ⟨r, hr, hra, hrf⟩
      · exact absurd hrf (hnone r hr hra)
    · push Not at hnone
      obtain ⟨old, hold, ha, rfl⟩ := hnone
      refine ⟨_, h.mem_after hold, isActive_iff.mp ?_, after_fingerprint⟩
      refine (after_isActive (hsys old hold) (isActive_iff.mpr ha)).mpr ?_
      rcases hfp with hfp | ⟨r, hr, hra, hrf, he⟩
      · exact .inl hfp
      · rw [hw.active_eq hr (isActive_iff.mpr hra) hold (isActive_iff.mpr ha) hrf] at he
        exact .inr he

theorem Reconciled.listed_resolved : (.resolved, r) ∈ transitions ↔ r ∈ db'.rows ∧
    r.state = .resolved ∧
      ∃ old ∈ db.rows, old.incidentUid = r.incidentUid ∧ old.state = .active := by
  rw [h.listed]
  constructor
  · rintro (⟨hk, -⟩ | ⟨f, -, p, -, -, -, ht⟩ | ⟨p, hp, hg, ht⟩)
    · cases hk
    · cases ht
    · obtain rfl : r = p.resolve c.timestamp := congrArg Prod.snd ht
      obtain ⟨hpdb, hps, hpa⟩ := mem_activeRows.mp hp
      have hmem := h.mem_after hpdb
      rw [IncidentRow.after, if_pos ⟨hps, hpa, hg⟩] at hmem
      exact ⟨hmem, rfl, p, hpdb, rfl, isActive_iff.mp hpa⟩
  · rintro ⟨hr, hres, old, hold, hu, ha⟩
    have hrow := h.of_uid hw hinj hr hold hu
    have hs := hsys old hold
    have hoa := isActive_iff.mpr ha
    rcases after_cases c.timestamp c.findings c.evaluated hs hoa with
      ⟨hg, heq⟩ | ⟨f, hf, hfp, heq⟩ | ⟨-, -, heq⟩
    · rw [heq] at hrow
      subst hrow
      exact .inr (.inr ⟨old, mem_activeRows.mpr ⟨hold, hs, hoa⟩, hg, rfl⟩)
    · rw [hrow, heq] at hres
      exact absurd ha (not_active_iff.mpr hres)
    · rw [hrow, heq] at hres
      exact absurd ha (not_active_iff.mpr hres)

include hdistinct

theorem Reconciled.listed_updated : (.updated, r) ∈ transitions ↔ r ∈ db'.rows ∧
    r.state = .active ∧ ∃ old ∈ db.rows, old.incidentUid = r.incidentUid ∧
      (old.severity ≠ r.severity ∨ old.confidence ≠ r.confidence ∨ old.title ≠ r.title ∨
        old.summary ≠ r.summary) := by
  rw [h.listed]
  constructor
  · rintro (⟨hk, -⟩ | ⟨f, hf, p, hp, hpf, hc, ht⟩ | ⟨p, -, -, ht⟩)
    · cases hk
    · obtain rfl : r = p.refreshed c.timestamp f := congrArg Prod.snd ht
      obtain ⟨hpdb, hps, hpa⟩ := mem_activeRows.mp hp
      have hmem := h.mem_after hpdb
      rw [after_of_finding hps hpa hf hpf hdistinct] at hmem
      refine ⟨hmem, isActive_iff.mp hpa, p, hpdb, rfl, ?_⟩
      simpa [IncidentRow.changed, IncidentRow.refreshed] using hc
    · cases ht
  · rintro ⟨hr, ha, old, hold, hu, hdiff⟩
    have hrow := h.of_uid hw hinj hr hold hu
    have hs := hsys old hold
    by_cases hoa : old.isActive = true
    · rcases after_cases c.timestamp c.findings c.evaluated hs hoa with
        ⟨-, heq⟩ | ⟨f, hf, hfp, heq⟩ | ⟨-, -, heq⟩
      · rw [hrow, heq] at ha
        cases ha
      · rw [heq] at hrow
        subst hrow
        refine .inr (.inl ⟨f, hf, old, mem_activeRows.mpr ⟨hold, hs, hoa⟩, hfp.symm, ?_, rfl⟩)
        simpa [IncidentRow.changed, IncidentRow.refreshed] using hdiff
      · rw [hrow, heq] at hdiff
        simp at hdiff
    · rw [after_of_not (fun hc => hoa hc.2)] at hrow
      rw [hrow] at hdiff
      simp at hdiff

/-- **One call** of the lifecycle. -/
theorem Reconciled.lifecycle : LifecycleStep c db db' transitions where
  uids := h.uids
  active := h.active_iff hw hinj hsys
  frozen := by
    intro r hr hres
    have hnot : ¬ r.isActive = true := by
      rw [isActive_iff, not_active_iff]
      exact hres
    have hmem := h.mem_after hr
    rwa [after_of_not (fun hc => hnot hc.2)] at hmem
  kept := by
    intro r hr
    obtain ⟨hopen, hkey, -⟩ := after_kept systemUid c r
    exact ⟨_, h.mem_after hr, after_incidentUid, hopen, hkey, after_fingerprint⟩
  recurrence := fun _ hfp hnone => h.recurs hw hinj hfp hnone
  nodup := h.nodup
  opened := fun _ => h.listed_opened hw hinj
  updated := fun _ => h.listed_updated hw hinj hdistinct hsys
  resolved := fun _ => h.listed_resolved hw hinj hsys

end Step

/-! ## the run -/

/-- The state after the calls, with the counts of its active incidents. -/
structure LifecycleRun (env : IncidentEnv) (systemUid : String) (calls : List ReconcileCall)
    (db : IncidentDb) : Prop where
  run : runReconcile env systemUid calls = .ok db
  wellFormed : db.WellFormed env
  system : ∀ r ∈ db.rows, r.systemUid = systemUid
  counted : ∀ r ∈ db.rows, r.state = .active → Counted env systemUid calls r

theorem lifecycleRun_nil : LifecycleRun env systemUid [] {} where
  run := rfl
  wellFormed := wellFormed_empty env
  system := by simp
  counted := by simp

/-- A call adds one to the count of a finding and nothing to the others. -/
theorem Counted.snoc {calls : List ReconcileCall} {old : IncidentRow}
    (h : Counted env systemUid calls old) (hu : r.incidentUid = old.incidentUid)
    (hf : r.fingerprint = old.fingerprint)
    (hn : r.occurrenceCount =
      old.occurrenceCount + if old.fingerprint ∈ c.fingerprints then 1 else 0) :
    Counted env systemUid (calls ++ [c]) r := by
  obtain ⟨before, opening, since, rfl, hopen, hcount⟩ := h
  refine ⟨before, opening, since ++ [c], by simp, hu ▸ hopen, ?_⟩
  rw [hn, hcount, hf, ← List.cons_append, List.filter_append, List.length_append]
  congr 1
  by_cases hmem : old.fingerprint ∈ c.fingerprints <;> simp [hmem]

/-- **One more call** of the run. -/
theorem LifecycleRun.call {calls : List ReconcileCall} (h : LifecycleRun env systemUid calls db)
    (hinj : Function.Injective env.incidentUid) (hdistinct : c.fingerprints.Nodup) :
    ∃ db' transitions, reconcile env systemUid c.timestamp c.findings c.evaluated db =
        .ok (db', transitions) ∧ LifecycleStep c db db' transitions ∧
      LifecycleRun env systemUid (calls ++ [c]) db' := by
  have hfree : ∀ f ∈ c.findings, ∀ r ∈ db.rows, r.isActive = true →
      r.fingerprint = f.fingerprint → r.systemUid = systemUid := fun _ _ r hr _ _ => h.system r hr
  obtain ⟨db', transitions, hok, hrec⟩ := reconcile_spec c.timestamp c.evaluated
    h.wellFormed hinj hdistinct hfree
  refine ⟨db', transitions, hok, hrec.lifecycle h.wellFormed hinj hdistinct h.system, ?_⟩
  constructor
  case run =>
    have hrun := h.run
    rw [runReconcile] at hrun ⊢
    rw [List.foldlM_append, hrun, Loop.ok_bind, List.foldlM_cons, hok]
    rfl
  case wellFormed => exact hrec.wellFormed h.wellFormed hdistinct hfree
  case system =>
    intro r hr
    rcases hrec.mem_rows.mp hr with ⟨old, hold, rfl⟩ | hr
    · exact (after_kept systemUid c old).2.2.trans (h.system old hold)
    · obtain ⟨i, g, -, -, rfl⟩ := mem_openedRows hr
      rfl
  case counted =>
    intro r hr ha
    rcases hrec.active_cases hr (isActive_iff.mpr ha) with ⟨f, hf, hrf, hone, hnew⟩ |
      ⟨old, hold, hoa, -, rfl⟩
    · have hmem : r.fingerprint ∈ c.fingerprints :=
        hrf ▸ List.mem_map_of_mem (List.mem_filter.mp hf).1
      have hne := fun old hold => (openedRows_ne h.wellFormed hinj hnew (p := old) hold).symm
      exact ⟨calls, c, [], rfl, ⟨db, db', transitions, h.run, hok, hne, r, hr, rfl⟩,
        by simp [hone, hmem]⟩
    · have hcount := h.counted old hold (isActive_iff.mp hoa)
      rcases after_cases c.timestamp c.findings c.evaluated (h.system old hold) hoa with
        ⟨-, heq⟩ | ⟨f, hf, hfp, heq⟩ | ⟨hne, -, heq⟩
      · rw [heq] at ha
        cases ha
      · have hmem : old.fingerprint ∈ c.fingerprints := hfp ▸ List.mem_map_of_mem hf
        rw [heq]
        exact hcount.snoc rfl rfl (by simp [IncidentRow.refreshed, hmem])
      · have hmem : old.fingerprint ∉ c.fingerprints := by
          intro hmem
          obtain ⟨f, hf, hfp⟩ := List.mem_map.mp hmem
          exact hne f hf hfp
        rw [heq]
        exact hcount.snoc rfl rfl (by simp [hmem])

/-- **Every run** of calls with distinct fingerprints. -/
theorem lifecycleRun (systemUid : String) (hinj : Function.Injective env.incidentUid)
    (calls : List ReconcileCall) (hdistinct : ∀ c ∈ calls, c.fingerprints.Nodup) :
    ∃ db, LifecycleRun env systemUid calls db := by
  induction calls using List.reverseRecOn with
  | nil => exact ⟨{}, lifecycleRun_nil⟩
  | append_singleton calls c ih =>
      obtain ⟨db, hrun⟩ := ih fun c hc => hdistinct c (List.mem_append_left _ hc)
      obtain ⟨db', -, -, -, hrun'⟩ := hrun.call hinj (hdistinct c (by simp))
      exact ⟨db', hrun'⟩

end Run

/-- **The lifecycle of incidents**: every sequence of calls for one system
succeeds, every active incident is counted, and every further call does what
`LifecycleStep` says. -/
theorem incident_lifecycle (env : IncidentEnv) (hinj : Function.Injective env.incidentUid)
    (systemUid : String) (calls : List ReconcileCall)
    (hdistinct : ∀ c ∈ calls, c.fingerprints.Nodup) :
    ∃ db, runReconcile env systemUid calls = .ok db ∧
      (∀ r ∈ db.rows, r.state = .active → Counted env systemUid calls r) ∧
      ∀ c : ReconcileCall, c.fingerprints.Nodup → ∃ db' transitions,
        reconcile env systemUid c.timestamp c.findings c.evaluated db = .ok (db', transitions) ∧
          LifecycleStep c db db' transitions := by
  obtain ⟨db, hrun⟩ := lifecycleRun systemUid hinj calls hdistinct
  refine ⟨db, hrun.run, hrun.counted, fun c hc => ?_⟩
  obtain ⟨db', transitions, hok, hstep, -⟩ := hrun.call hinj hc
  exact ⟨db', transitions, hok, hstep⟩

/-! ## an incident that recurs -/

/-- Uids of growing length. -/
def plainIncidentEnv : IncidentEnv where
  incidentUid n := "inc_" ++ String.ofList (List.replicate n '0')

theorem plainIncidentEnv_injective : Function.Injective plainIncidentEnv.incidentUid := by
  intro m n h
  have hlen := congrArg String.length h
  simpa [plainIncidentEnv, String.length_append] using hlen

/-- A controller that is offline. -/
def offlineOf (uid : String) : Finding where
  detector := "controller_offline"
  evaluationKey := "controller_offline|" ++ uid
  fingerprint := "controller_offline|" ++ uid
  category := .communications
  severity := .warning
  confidence := .high
  title := "Controller is offline"
  summary := "The physical controller is not currently reporting as online."
  controllerUid := some uid

/-- Offline twice, back, and offline again. -/
def flappingCalls : List ReconcileCall :=
  [⟨1, [offlineOf "c"], ["controller_offline|c"]⟩, ⟨2, [offlineOf "c"], ["controller_offline|c"]⟩,
   ⟨3, [], ["controller_offline|c"]⟩, ⟨4, [offlineOf "c"], ["controller_offline|c"]⟩]

theorem incident_lifecycle_flapping :
    ∃ db, runReconcile plainIncidentEnv "sys" flappingCalls = .ok db ∧
      db.rows.map IncidentRow.state = [.resolved, .active] ∧
      db.rows.map IncidentRow.occurrenceCount = [2, 1] ∧
      (∀ r ∈ db.rows, r.state = .active → Counted plainIncidentEnv "sys" flappingCalls r) ∧
      ∀ c : ReconcileCall, c.fingerprints.Nodup → ∃ db' transitions,
        reconcile plainIncidentEnv "sys" c.timestamp c.findings c.evaluated db =
          .ok (db', transitions) ∧ LifecycleStep c db db' transitions := by
  have heval : (do
      let db ← runReconcile plainIncidentEnv "sys" flappingCalls
      return (db.rows.map IncidentRow.state, db.rows.map IncidentRow.occurrenceCount)) =
        .ok ([.resolved, .active], [2, 1]) := by
    decide +kernel
  obtain ⟨db, hrun, hcounted, hnext⟩ := incident_lifecycle plainIncidentEnv
    plainIncidentEnv_injective "sys" flappingCalls (by decide)
  simp only [hrun, Loop.ok_bind, Loop.pure_eq_ok, Except.ok.injEq, Prod.mk.injEq] at heval
  exact ⟨db, hrun, heval.1, heval.2, hcounted, hnext⟩

end MorningstarModbus
