import Mathlib.Algebra.Ring.Nat
import MorningstarModbus.Lib.Dict

/-!
# SingleFlight

Jobs that are started under a key unless one runs under it already, with a dictionary of those that
run.

* `Tracks` — the dictionary has the running jobs and no others, so no two run under one key;
* `Tracks.start`, `Tracks.advance`, `Tracks.clear` — it is kept.
-/

/-- Every job that was started, in order, and the dictionary of those that run. -/
structure Flights (κ τ : Type*) where
  jobs : List τ := []
  current : Dict κ Nat := Dict.empty

namespace Flights

/-! ## a job that changes -/

section Replaced

variable {τ β : Type*} {f : τ → Option β} {jobs : List τ} {i : Nat} {t t' : τ} {b : β}

/-- A job that moves on without changing what is collected changes nothing of it. -/
theorem filterMap_set_of_eq (ht : jobs[i]? = some t) (h : f t' = f t) :
    (jobs.set i t').filterMap f = jobs.filterMap f := by
  induction jobs generalizing i with
  | nil => rfl
  | cons u jobs ih =>
      cases i with
      | zero =>
          obtain rfl : u = t := Option.some.inj ht
          rw [List.set_cons_zero, List.filterMap_cons, List.filterMap_cons, h]
      | succ i => rw [List.set_cons_succ, List.filterMap_cons, List.filterMap_cons, ih ht]

theorem map_set_of_eq {g : τ → β} (ht : jobs[i]? = some t) (h : g t' = g t) :
    (jobs.set i t').map g = jobs.map g := by
  obtain ⟨hlt, rfl⟩ := List.getElem?_eq_some_iff.mp ht
  have hmap : i < (jobs.map g).length := by rwa [List.length_map]
  rw [List.map_set, h, ← List.getElem_map g (h := hmap), List.set_getElem_self]

/-- Where it begins to be collected there is one more. -/
theorem filterMap_set_perm (ht : jobs[i]? = some t) (hnone : f t = none) (hsome : f t' = some b) :
    ((jobs.set i t').filterMap f).Perm (jobs.filterMap f ++ [b]) := by
  induction jobs generalizing i with
  | nil => cases ht
  | cons u jobs ih =>
      cases i with
      | zero =>
          obtain rfl : u = t := Option.some.inj ht
          rw [List.set_cons_zero, List.filterMap_cons_some hsome, List.filterMap_cons_none hnone]
          exact (List.perm_append_singleton b _).symm
      | succ i =>
          rw [List.set_cons_succ]
          cases hu : f u with
          | none =>
              rw [List.filterMap_cons_none hu, List.filterMap_cons_none hu]
              exact ih ht
          | some c =>
              rw [List.filterMap_cons_some hu, List.filterMap_cons_some hu]
              exact (ih ht).cons c

/-- A job of lower rank lowers the sum. -/
theorem sum_map_set_lt {rank : τ → Nat} (ht : jobs[i]? = some t) (h : rank t' < rank t) :
    ((jobs.set i t').map rank).sum < (jobs.map rank).sum := by
  induction jobs generalizing i with
  | nil => cases ht
  | cons u jobs ih =>
      cases i with
      | zero =>
          obtain rfl : u = t := Option.some.inj ht
          rw [List.set_cons_zero, List.map_cons, List.map_cons, List.sum_cons, List.sum_cons]
          omega
      | succ i =>
          have hrest := ih ht
          rw [List.set_cons_succ, List.map_cons, List.map_cons, List.sum_cons, List.sum_cons]
          omega

/-- The same where every job may move. -/
theorem filterMap_mapIdx_of_eq {change : Nat → τ → τ} (h : ∀ i t, f (change i t) = f t) :
    (jobs.mapIdx change).filterMap f = jobs.filterMap f := by
  induction jobs generalizing change with
  | nil => rfl
  | cons u jobs ih =>
      rw [List.mapIdx_cons, List.filterMap_cons, List.filterMap_cons, h,
        ih fun i t => h (i + 1) t]

theorem map_mapIdx_of_eq {g : τ → β} {change : Nat → τ → τ} (h : ∀ i t, g (change i t) = g t) :
    (jobs.mapIdx change).map g = jobs.map g := by
  rw [← List.filterMap_eq_map]
  exact filterMap_mapIdx_of_eq fun i t => congrArg some (h i t)

end Replaced

/-! ## the running jobs -/

variable {κ τ : Type*} (key : τ → κ) (running : τ → Bool)

/-- The dictionary has exactly the running jobs, each under its key. -/
def Tracks (f : Flights κ τ) : Prop :=
  ∀ k i, f.current k = some i ↔ ∃ t, f.jobs[i]? = some t ∧ running t = true ∧ key t = k

variable {key running} {f : Flights κ τ} {i j : Nat} {t t' u : τ}

theorem Tracks.empty : Tracks key running {} := by
  intro k i
  simp

/-- No two jobs run under one key. -/
theorem Tracks.unique (h : f.Tracks key running) (ht : f.jobs[i]? = some t)
    (hu : f.jobs[j]? = some u) (hrun : running t = true) (hrun' : running u = true)
    (hkey : key t = key u) : i = j := by
  have hi : f.current (key t) = some i := (h _ _).mpr ⟨t, ht, hrun, rfl⟩
  have hj : f.current (key t) = some j := (h _ _).mpr ⟨u, hu, hrun', hkey.symm⟩
  exact Option.some.inj (hi.symm.trans hj)

/-- Under a key that the dictionary does not have, nothing runs. -/
theorem Tracks.current_eq_none (h : f.Tracks key running) {k : κ} :
    f.current k = none ↔ ∀ t ∈ f.jobs, running t = true → key t ≠ k := by
  constructor
  · intro hnone t ht hrun hkey
    obtain ⟨i, hi⟩ := List.mem_iff_getElem?.mp ht
    have hsome := (h k i).mpr ⟨t, hi, hrun, hkey⟩
    rw [hnone] at hsome
    cases hsome
  · intro hfree
    cases hcurrent : f.current k with
    | none => rfl
    | some i =>
        obtain ⟨t, ht, hrun, hkey⟩ := (h k i).mp hcurrent
        exact absurd hkey (hfree t (List.mem_of_getElem? ht) hrun)

/-- Nothing runs any more. -/
theorem Tracks.clear {jobs : List τ} (h : ∀ t ∈ jobs, running t = false) :
    Tracks key running { jobs, current := Dict.empty } := by
  intro k i
  refine iff_of_false (fun hnone => nomatch hnone) ?_
  rintro ⟨t, ht, hrun, -⟩
  rw [h t (List.mem_of_getElem? ht)] at hrun
  cases hrun

variable [DecidableEq κ]

def start (key : τ → κ) (t : τ) (f : Flights κ τ) : Flights κ τ where
  jobs := f.jobs ++ [t]
  current := f.current.set (key t) f.jobs.length

/-- What a job is after a turn; once it does not run it leaves the dictionary. -/
def advance (key : τ → κ) (running : τ → Bool) (i : Nat) (t : τ) (f : Flights κ τ) :
    Flights κ τ where
  jobs := f.jobs.set i t
  current := if running t = false ∧ f.current (key t) = some i then f.current.pop (key t)
    else f.current

/-- A key that is free can be taken by a running job. -/
theorem Tracks.start (h : f.Tracks key running) (hfree : f.current (key t) = none)
    (hrun : running t = true) : (f.start key t).Tracks key running := by
  intro k i
  rw [Flights.start]
  dsimp only
  by_cases hk : k = key t
  · subst hk
    rw [Dict.set_self, Option.some.injEq]
    constructor
    · rintro rfl
      exact ⟨t, by simp, hrun, rfl⟩
    · rintro ⟨u, hu, hrun', hkey⟩
      rcases Nat.lt_or_ge i f.jobs.length with hlt | hge
      · rw [List.getElem?_append_left hlt] at hu
        exact absurd hkey (h.current_eq_none.mp hfree u (List.mem_of_getElem? hu) hrun')
      · obtain ⟨hlt, -⟩ := List.getElem?_eq_some_iff.mp hu
        rw [List.length_append, List.length_singleton] at hlt
        omega
  · rw [Dict.set_of_ne _ _ hk, h k i]
    constructor
    · rintro ⟨u, hu, hrest⟩
      have hlt := (List.getElem?_eq_some_iff.mp hu).1
      exact ⟨u, by rw [List.getElem?_append_left hlt, hu], hrest⟩
    · rintro ⟨u, hu, hrun', hkey⟩
      rcases Nat.lt_or_ge i f.jobs.length with hlt | hge
      · rw [List.getElem?_append_left hlt] at hu
        exact ⟨u, hu, hrun', hkey⟩
      · have hlast : u = t := by
          rw [List.getElem?_append_right hge] at hu
          exact (List.mem_singleton.mp (List.mem_of_getElem? hu))
        exact absurd (hlast ▸ hkey).symm hk

/-- A job takes a turn; one that does not run does not start again. -/
theorem Tracks.advance (h : f.Tracks key running) (ht : f.jobs[i]? = some t)
    (hrun : running t' = true → running t = true) (hkey : key t' = key t) :
    (f.advance key running i t').Tracks key running := by
  intro k j
  rw [Flights.advance]
  dsimp only
  have hlt := (List.getElem?_eq_some_iff.mp ht).1
  have hself : (f.jobs.set i t')[i]? = some t' := List.getElem?_set_self hlt
  have hother : j ≠ i → (f.jobs.set i t')[j]? = f.jobs[j]? :=
    fun hne => List.getElem?_set_ne (Ne.symm hne)
  -- whether the dictionary has the job is whether it ran
  have hcurrent : f.current (key t') = some i ↔ running t = true := by
    rw [h, ht]
    simp [hkey]
  have hhere : (f.current k = some i) ↔ running t = true ∧ key t = k := by
    rw [h, ht]
    simp
  split
  next hend =>
    have hran := hcurrent.mp hend.2
    by_cases hk : k = key t'
    · subst hk
      rw [Dict.pop_self]
      refine iff_of_false (fun hnone => nomatch hnone) ?_
      rintro ⟨u, hu, hrun', hsame⟩
      by_cases hj : j = i
      · subst hj
        rw [hself, Option.some.injEq] at hu
        rw [← hu, hend.1] at hrun'
        cases hrun'
      · rw [hother hj] at hu
        exact hj (h.unique hu ht hrun' hran (hsame.trans hkey))
    · rw [Dict.pop_of_ne _ hk]
      by_cases hj : j = i
      · subst hj
        rw [hself, hhere]
        refine iff_of_false (fun hmem => hk (hmem.2.symm.trans hkey.symm)) ?_
        rintro ⟨u, hu, hrun', -⟩
        rw [← Option.some.inj hu, hend.1] at hrun'
        cases hrun'
      · rw [h k j, hother hj]
  next hgoes =>
    by_cases hj : j = i
    · subst hj
      rw [hself, hhere]
      have hsame : running t' = running t := by
        cases hnew : running t' with
        | true => exact (hrun hnew).symm
        | false =>
            cases hold : running t with
            | false => rfl
            | true => exact absurd ⟨hnew, hcurrent.mpr hold⟩ hgoes
      simp [hsame, hkey]
    · rw [h k j, hother hj]

end Flights
