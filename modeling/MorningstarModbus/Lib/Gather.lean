import Mathlib.Logic.Relation
import Mathlib.Data.List.Basic

/-!
# Gather

Tasks that run side by side, each holding a permit while it runs: `asyncio.gather` over
tasks that wait for one semaphore.

* `running_le` — never do more tasks run than there are permits;
* `exists_step` — until all are done some task can go on;
* `results_of_allDone` — the results stand in the order of the tasks, whatever the order in
  which they started and ended;
* `eq_of_allDone` — the same where every task has one result;
* `exists_allDone` — from wherever a schedule is, all tasks can be done.
-/

namespace Gather

inductive Task (ρ : Type*) where
  | waiting
  | running
  | done (result : ρ)
  deriving DecidableEq

variable {ρ : Type*}

namespace Task

def isRunning : Task ρ → Bool
  | running => true
  | _ => false

def isWaiting : Task ρ → Bool
  | waiting => true
  | _ => false

end Task

/-- The tasks in the order in which they were created. -/
abbrev Pool (ρ : Type*) := List (Task ρ)

/-- Before anything runs. -/
def Pool.created (n : Nat) : Pool ρ := List.replicate n .waiting

def Pool.running (pool : Pool ρ) : Nat := pool.countP Task.isRunning

/-- The steps that are ahead: two of a task that waits, and one of a task that runs. -/
def Pool.ahead (pool : Pool ρ) : Nat := 2 * pool.countP Task.isWaiting + pool.running

/-- Every task is done. -/
def Pool.AllDone (pool : Pool ρ) : Prop := ∀ task ∈ pool, ∃ r, task = .done r

section Steps

variable (permits : Nat) (ends : Nat → ρ → Prop)

/-- A step of the schedule; `ends i r` says that the `i`-th task may end with `r`. -/
inductive Step : Pool ρ → Pool ρ → Prop
  | start {pool : Pool ρ} {i : Nat} : pool[i]? = some .waiting → pool.running < permits →
      Step pool (pool.set i .running)
  | finish {pool : Pool ρ} {i : Nat} {r : ρ} : pool[i]? = some .running → ends i r →
      Step pool (pool.set i (.done r))

/-- What schedules reach. -/
def Reachable (n : Nat) : Pool ρ → Prop := Relation.ReflTransGen (Step permits ends) (.created n)

variable {permits ends} {n : Nat} {pool pool' : Pool ρ}

/-- A count after one task went on. -/
theorem countP_set_of (p : Task ρ → Bool) (new : Task ρ) {i : Nat} {task : Task ρ}
    (h : pool[i]? = some task) :
    (pool.set i new).countP p + (if p task then 1 else 0) =
      pool.countP p + if p new then 1 else 0 := by
  obtain ⟨hi, rfl⟩ := List.getElem?_eq_some_iff.mp h
  rw [List.countP_set hi]
  have hle : (if p pool[i] then 1 else 0) ≤ pool.countP p := by
    split
    · case isTrue hp => exact List.countP_pos_iff.mpr ⟨_, List.getElem_mem hi, hp⟩
    · exact Nat.zero_le _
  omega

theorem Step.running_le (h : Step permits ends pool pool') (hle : pool.running ≤ permits) :
    pool'.running ≤ permits := by
  cases h with
  | start hwaits hfree =>
      have hcount := countP_set_of Task.isRunning .running hwaits
      simp only [Task.isRunning, Bool.false_eq_true, if_false, if_true] at hcount
      unfold Pool.running at *
      omega
  | @finish i r hruns _ =>
      have hcount := countP_set_of Task.isRunning (.done r) hruns
      simp only [Task.isRunning, Bool.false_eq_true, if_false, if_true] at hcount
      unfold Pool.running at *
      omega

/-- Every step leaves one step less. -/
theorem Step.ahead_lt (h : Step permits ends pool pool') : pool'.ahead < pool.ahead := by
  cases h with
  | start hwaits _ =>
      have hwait := countP_set_of Task.isWaiting .running hwaits
      have hrun := countP_set_of Task.isRunning .running hwaits
      simp only [Task.isRunning, Task.isWaiting, Bool.false_eq_true, if_false, if_true]
        at hwait hrun
      unfold Pool.ahead Pool.running at *
      omega
  | @finish i r hruns _ =>
      have hwait := countP_set_of Task.isWaiting (.done r) hruns
      have hrun := countP_set_of Task.isRunning (.done r) hruns
      simp only [Task.isRunning, Task.isWaiting, Bool.false_eq_true, if_false, if_true]
        at hwait hrun
      unfold Pool.ahead Pool.running at *
      omega

/-- What a task that is done ended with. -/
def Honest (ends : Nat → ρ → Prop) (pool : Pool ρ) : Prop :=
  ∀ i r, pool[i]? = some (.done r) → ends i r

theorem Step.honest (h : Step permits ends pool pool') (hpool : Honest ends pool) :
    Honest ends pool' := by
  intro j r hj
  cases h with
  | @start i hwaits _ =>
      rw [List.getElem?_set] at hj
      split at hj
      · split at hj
        · cases hj
        · cases hj
      · exact hpool j r hj
  | @finish i s hruns hs =>
      rw [List.getElem?_set] at hj
      split at hj
      · case isTrue hij =>
          split at hj
          · cases hj
            exact hij ▸ hs
          · cases hj
      · exact hpool j r hj

theorem Step.length_eq (h : Step permits ends pool pool') : pool'.length = pool.length := by
  cases h <;> exact List.length_set

/-! ## runs -/

theorem Reachable.length_eq (h : Reachable permits ends n pool) : pool.length = n := by
  induction h with
  | refl => exact List.length_replicate
  | tail _ hstep ih => rw [hstep.length_eq, ih]

/-- **Never** do more tasks run than there are permits. -/
theorem running_le (h : Reachable permits ends n pool) : pool.running ≤ permits := by
  induction h with
  | refl => simp [Pool.running, Pool.created, Task.isRunning, List.countP_replicate]
  | tail _ hstep ih => exact hstep.running_le ih

theorem Reachable.honest (h : Reachable permits ends n pool) : Honest ends pool := by
  induction h with
  | refl =>
      intro i r hi
      have hr := (List.mem_replicate.mp (List.mem_of_getElem? hi)).2
      cases hr
  | tail _ hstep ih => exact hstep.honest ih

/-- **The results** stand in the order of the tasks. -/
theorem results_of_allDone (h : Reachable permits ends n pool) (hdone : pool.AllDone) :
    ∃ results : List ρ, pool = results.map .done ∧ results.length = n ∧
      ∀ i (hi : i < results.length), ends i results[i] := by
  have hmap : ∃ results : List ρ, pool = results.map .done := by
    have hlength := h.length_eq
    clear h hlength
    induction pool with
    | nil => exact ⟨[], rfl⟩
    | cons task pool ih =>
        obtain ⟨r, rfl⟩ := hdone task List.mem_cons_self
        obtain ⟨results, rfl⟩ := ih fun t ht => hdone t (List.mem_cons_of_mem _ ht)
        exact ⟨r :: results, rfl⟩
  obtain ⟨results, rfl⟩ := hmap
  refine ⟨results, rfl, by simpa using h.length_eq, fun i hi => h.honest i _ ?_⟩
  rw [List.getElem?_map, List.getElem?_eq_getElem hi, Option.map_some]

/-- **Tasks with one result each** give their results whatever the schedule. -/
theorem eq_of_allDone {results : List ρ} (hends : ∀ i r, ends i r → results[i]? = some r)
    (h : Reachable permits ends results.length pool) (hdone : pool.AllDone) :
    pool = results.map .done := by
  obtain ⟨rs, rfl, hlength, hrs⟩ := results_of_allDone h hdone
  have heq : rs = results := by
    refine List.ext_getElem hlength fun i hi hi' => ?_
    have hsome := hends i _ (hrs i hi)
    rw [List.getElem?_eq_getElem hi', Option.some.injEq] at hsome
    exact hsome.symm
  rw [heq]

/-- **Until all are done** some task can go on. -/
theorem exists_step (hpermits : 0 < permits) (hends : ∀ i < n, ∃ r, ends i r)
    (h : Reachable permits ends n pool) (hdone : ¬ pool.AllDone) :
    ∃ pool', Step permits ends pool pool' := by
  have hlength := h.length_eq
  by_cases hruns : ∃ i : Nat, pool[i]? = some Task.running
  · obtain ⟨i, hi⟩ := hruns
    obtain ⟨hlt, -⟩ := List.getElem?_eq_some_iff.mp hi
    obtain ⟨r, hr⟩ := hends i (hlength ▸ hlt)
    exact ⟨_, .finish hi hr⟩
  · -- nothing runs, so every permit is free and some task waits
    have hnone : pool.running = 0 := by
      rw [Pool.running, List.countP_eq_zero]
      intro task htask hrun
      obtain ⟨i, hi, rfl⟩ := List.mem_iff_getElem.mp htask
      refine hruns ⟨i, ?_⟩
      rw [List.getElem?_eq_getElem hi]
      cases hcase : pool[i] with
      | running => rfl
      | waiting => rw [hcase] at hrun; cases hrun
      | done r => rw [hcase] at hrun; cases hrun
    simp only [Pool.AllDone, not_forall] at hdone
    obtain ⟨task, htask, hnot⟩ := hdone
    obtain ⟨i, hi, rfl⟩ := List.mem_iff_getElem.mp htask
    have hwaits : pool[i]? = some .waiting := by
      rw [List.getElem?_eq_getElem hi]
      cases hcase : pool[i] with
      | waiting => rfl
      | running => exact absurd ⟨i, by rw [List.getElem?_eq_getElem hi, hcase]⟩ hruns
      | done r => exact absurd ⟨r, hcase⟩ hnot
    exact ⟨_, .start hwaits (by omega)⟩

/-- **From wherever a schedule is** all tasks can be done. -/
theorem exists_allDone (hpermits : 0 < permits) (hends : ∀ i < n, ∃ r, ends i r)
    (h : Reachable permits ends n pool) :
    ∃ final, Relation.ReflTransGen (Step permits ends) pool final ∧ final.AllDone := by
  induction hahead : pool.ahead using Nat.strongRecOn generalizing pool with
  | ind k ih =>
      by_cases hdone : pool.AllDone
      · exact ⟨pool, .refl, hdone⟩
      · obtain ⟨next, hstep⟩ := exists_step hpermits hends h hdone
        obtain ⟨final, hsteps, hfinal⟩ :=
          ih next.ahead (hahead ▸ hstep.ahead_lt) (h.tail hstep) rfl
        exact ⟨final, .head hstep hsteps, hfinal⟩

end Steps

end Gather
