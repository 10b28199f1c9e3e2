import Mathlib.Logic.Function.Basic
import Mathlib.Logic.Relation
import MorningstarModbus.Lib.Program

/-!
# Coroutine

Tasks that take turns on one state, as the coroutines of an event loop do: each is a run of
atomic parts, and between two of them any others may go on.

Each task has its own `view` of the state.

* `Runs` — a task that nobody interrupts does what a program does, with the rules for `do` and
  `try`;
* `Local` — a task whose parts change its own view only, and read nothing else;
* `Reached` — a task is on the way that it goes alone, whoever else has taken turns;
* `Group` — tasks of which the others are cancelled where one raises (`asyncio.TaskGroup`);
* `Group.isolated` — local tasks of a group end as alone, or are cut off on that way.
-/

namespace Coroutine

open Effects

universe u v w

/-- A task: it is done, or it has an atomic part to do and goes on by what it met. -/
inductive Task (σ ε α : Type u) where
  | done (result : Except ε α)
  | part (change : σ → σ) (next : σ → Task σ ε α)

variable {σ ε α β : Type u}

namespace Task

/-- A program that is not interrupted. -/
def atomic (m : Prog σ ε α) : Task σ ε α :=
  part (fun s => (exec m s).2) fun s => done (exec m s).1

def bind : Task σ ε α → (α → Task σ ε β) → Task σ ε β
  | done (.ok a), f => f a
  | done (.error e), _ => done (.error e)
  | part change next, f => part change fun s => bind (next s) f

/-- `try: … except …` -/
def handle : Task σ ε α → (ε → Task σ ε α) → Task σ ε α
  | done (.ok a), _ => done (.ok a)
  | done (.error e), f => f e
  | part change next, f => part change fun s => handle (next s) f

def isDone : Task σ ε α → Bool
  | done _ => true
  | part _ _ => false

/-- The task ended with an exception. -/
def raised : Task σ ε α → Bool
  | done (.error _) => true
  | _ => false

/-- The task alone. -/
def run : Task σ ε α → σ → Except ε α × σ
  | done r, s => (r, s)
  | part change next, s => run (next s) (change s)

/-- The first parts of the task alone: what is left of it, and the state. -/
def advance : Nat → Task σ ε α → σ → Task σ ε α × σ
  | 0, t, s => (t, s)
  | _ + 1, done r, s => (done r, s)
  | k + 1, part change next, s => advance k (next s) (change s)

/-- A task is done when it has a result. -/
theorem isDone_iff {t : Task σ ε α} : t.isDone = true ↔ ∃ r, t = done r := by
  cases t with
  | done r => simp [isDone]
  | part change next => simp [isDone]

/-- It has raised when its result is an error. -/
theorem raised_iff {t : Task σ ε α} : t.raised = true ↔ ∃ e, t = done (.error e) := by
  cases t with
  | done r => cases r <;> simp [raised]
  | part change next => simp [raised]

/-- What is left of a task ends as the whole of it. -/
theorem run_advance (k : Nat) (t : Task σ ε α) (s : σ) :
    run (advance k t s).1 (advance k t s).2 = run t s := by
  induction k generalizing t s with
  | zero => rfl
  | succ k ih =>
      cases t with
      | done r => rfl
      | part change next => exact ih (next s) (change s)

/-- One part more. -/
theorem advance_succ {k : Nat} {t : Task σ ε α} {s : σ} {change : σ → σ}
    {next : σ → Task σ ε α} (h : (advance k t s).1 = part change next) :
    advance (k + 1) t s = (next (advance k t s).2, change (advance k t s).2) := by
  induction k generalizing t s with
  | zero =>
      obtain rfl : t = part change next := h
      rfl
  | succ k ih =>
      cases t with
      | done r => cases h
      | part change' next' => exact ih h

/-- A sequence run alone: the rest starts where the first part ended. -/
theorem run_bind (t : Task σ ε α) (f : α → Task σ ε β) (s : σ) :
    run (t.bind f) s =
      match run t s with
      | (.ok a, s') => run (f a) s'
      | (.error e, s') => (.error e, s') := by
  induction t generalizing s with
  | done r => cases r <;> rfl
  | part change next ih => exact ih s (change s)

/-- A handler run alone: it starts in the state of the error. -/
theorem run_handle (t : Task σ ε α) (f : ε → Task σ ε α) (s : σ) :
    run (t.handle f) s =
      match run t s with
      | (.ok a, s') => (.ok a, s')
      | (.error e, s') => run (f e) s' := by
  induction t generalizing s with
  | done r => cases r <;> rfl
  | part change next ih => exact ih s (change s)

end Task

open Coroutine.Task

/-! ## tasks and programs -/

/-- Alone the task does what the program does. -/
def Runs (t : Task σ ε α) (m : Prog σ ε α) : Prop := ∀ s, run t s = exec m s

section Runs

variable {t : Task σ ε α} {m : Prog σ ε α}

theorem runs_pure (a : α) : Runs (done (.ok a)) (pure a : Prog σ ε α) := fun _ => rfl

/-- One turn runs its program. -/
theorem runs_atomic (m : Prog σ ε α) : Runs (atomic m) m := fun _ => rfl

/-- **Sequence rule.** -/
theorem runs_bind {f : α → Task σ ε β} {g : α → Prog σ ε β} (h : Runs t m)
    (hf : ∀ a, Runs (f a) (g a)) : Runs (t.bind f) (m >>= g) := by
  intro s
  rw [run_bind, exec_bind, h s]
  generalize exec m s = out
  obtain ⟨r, s'⟩ := out
  cases r with
  | ok a => exact hf a s'
  | error e => rfl

/-- **Handler rule.** -/
theorem runs_handle {f : ε → Task σ ε α} {g : ε → Prog σ ε α} (h : Runs t m)
    (hf : ∀ e, Runs (f e) (g e)) : Runs (t.handle f) (tryCatch m g) := by
  intro s
  rw [run_handle, exec_tryCatch, h s]
  generalize exec m s = out
  obtain ⟨r, s'⟩ := out
  cases r with
  | ok a => rfl
  | error e => exact hf e s'

end Runs

/-! ## local tasks -/

section Local

variable {ι : Type v} {ν : ι → Type w} (view : ∀ i, σ → ν i)

/-- A change of the view of `i` alone, by what is seen there. -/
structure LocalChange (i : ι) (change : σ → σ) : Prop where
  own : ∀ s s', view i s = view i s' → view i (change s) = view i (change s')
  frame : ∀ s, ∀ j ≠ i, view j (change s) = view j s

/-- A program that reads and changes the view of `i` alone. -/
structure LocalProg (i : ι) (m : Prog σ ε α) : Prop where
  own : Agree (view i) m m
  frame : ∀ s, ∀ j ≠ i, view j (exec m s).2 = view j s

/-- Every part of the task changes the view of `i` alone, and what comes next depends on it
alone. -/
def Local (i : ι) : Task σ ε α → Prop
  | done _ => True
  | part change next => LocalChange view i change ∧
      (∀ s s', view i s = view i s' → next s = next s') ∧ ∀ s, Local i (next s)

variable {view} {i : ι}

theorem local_atomic {m : Prog σ ε α} (h : LocalProg view i m) : Local view i (atomic m) :=
  ⟨⟨fun s s' hview => (h.own s s' hview).2, h.frame⟩,
    fun s s' hview => congrArg done (h.own s s' hview).1, fun _ => trivial⟩

/-- **Sequence rule.** -/
theorem local_bind {t : Task σ ε α} {f : α → Task σ ε β} (h : Local view i t)
    (hf : ∀ a, Local view i (f a)) : Local view i (t.bind f) := by
  induction t with
  | done r =>
      cases r with
      | ok a => exact hf a
      | error e => trivial
  | part change next ih =>
      obtain ⟨hchange, hnext, hrest⟩ := h
      exact ⟨hchange, fun s s' hview => congrArg (fun t => Task.bind t f) (hnext s s' hview),
        fun s => ih s (hrest s)⟩

/-- **Handler rule.** -/
theorem local_handle {t : Task σ ε α} {f : ε → Task σ ε α} (h : Local view i t)
    (hf : ∀ e, Local view i (f e)) : Local view i (t.handle f) := by
  induction t with
  | done r =>
      cases r with
      | ok a => trivial
      | error e => exact hf e
  | part change next ih =>
      obtain ⟨hchange, hnext, hrest⟩ := h
      exact ⟨hchange, fun s s' hview => congrArg (fun t => Task.handle t f) (hnext s s' hview),
        fun s => ih s (hrest s)⟩

/-- A program that makes a local change. -/
theorem localProg_modify {change : σ → σ} (h : LocalChange view i change) :
    LocalProg view i (modify change : Prog σ ε PUnit) :=
  ⟨agree_modify h.own, h.frame⟩

theorem localProg_pure (a : α) : LocalProg view i (pure a : Prog σ ε α) :=
  ⟨agree_pure a, fun _ _ _ => rfl⟩

theorem localProg_throw (e : ε) : LocalProg view i (throw e : Prog σ ε α) :=
  ⟨agree_throw e, fun _ _ _ => rfl⟩

/-- **Sequence rule.** -/
theorem localProg_bind {m : Prog σ ε α} {f : α → Prog σ ε β} (h : LocalProg view i m)
    (hf : ∀ a, LocalProg view i (f a)) : LocalProg view i (m >>= f) := by
  refine ⟨agree_bind h.own fun a => (hf a).own, fun s j hj => ?_⟩
  have hframe := h.frame s j hj
  rw [exec_bind]
  generalize exec m s = out at hframe ⊢
  obtain ⟨r, s'⟩ := out
  cases r with
  | ok a => exact ((hf a).frame s' j hj).trans hframe
  | error e => exact hframe

/-- **Handler rule.** -/
theorem localProg_tryCatch {m : Prog σ ε α} {f : ε → Prog σ ε α} (h : LocalProg view i m)
    (hf : ∀ e, LocalProg view i (f e)) : LocalProg view i (tryCatch m f) := by
  refine ⟨agree_tryCatch h.own fun e => (hf e).own, fun s j hj => ?_⟩
  have hframe := h.frame s j hj
  rw [exec_tryCatch]
  generalize exec m s = out at hframe ⊢
  obtain ⟨r, s'⟩ := out
  cases r with
  | ok a => exact hframe
  | error e => exact ((hf e).frame s' j hj).trans hframe

/-- What follows a reading depends on the view alone. -/
theorem localProg_get {f : σ → Prog σ ε α} (h : ∀ s, LocalProg view i (f s))
    (heq : ∀ s s', view i s = view i s' → f s = f s') : LocalProg view i (get >>= f) := by
  refine ⟨agree_get fun s s' hview => ?_, fun s => (h s).frame s⟩
  rw [← heq s s' hview]
  exact (h s).own

end Local

/-! ## schedules -/

/-- The tasks that are left, and the state they share. -/
structure Pool (ι : Type v) (σ ε α : Type u) where
  tasks : ι → Task σ ε α
  state : σ

section Schedules

variable {ι : Type v} [DecidableEq ι] {ν : ι → Type w} {view : ∀ i, σ → ν i} {i : ι}

/-- The task `i` does its next part. -/
def Pool.turn (pool : Pool ι σ ε α) (i : ι) : Pool ι σ ε α :=
  match pool.tasks i with
  | done _ => pool
  | part change next =>
      { tasks := Function.update pool.tasks i (next pool.state), state := change pool.state }

/-- The turns of a schedule. -/
def Pool.follow (pool : Pool ι σ ε α) (schedule : List ι) : Pool ι σ ε α :=
  schedule.foldl Pool.turn pool

/-- A turn is of one task. -/
theorem Pool.turn_of_ne (pool : Pool ι σ ε α) {j : ι} (h : j ≠ i) :
    (pool.turn i).tasks j = pool.tasks j := by
  unfold Pool.turn
  split
  · rfl
  · exact Function.update_of_ne h _ _

/-- Who is done stays done. -/
theorem Pool.turn_done {pool : Pool ι σ ε α} {j : ι} {r : Except ε α}
    (h : pool.tasks j = done r) : (pool.turn i).tasks j = done r := by
  by_cases hj : j = i
  · subst hj
    rw [Pool.turn, h]
    exact h
  · rw [pool.turn_of_ne hj, h]

/-- The next part of a task is done. -/
theorem Pool.turn_part {pool : Pool ι σ ε α} {change : σ → σ} {next : σ → Task σ ε α}
    (h : pool.tasks i = part change next) :
    (pool.turn i).tasks i = next pool.state ∧ (pool.turn i).state = change pool.state := by
  rw [Pool.turn, h]
  exact ⟨Function.update_self _ _ _, rfl⟩

/-- The task has done some of the parts it does alone, and sees what they and a last change
leave. -/
def Reached (view : ∀ i, σ → ν i) (start pool : Pool ι σ ε α) (i : ι) (last : σ → σ) : Prop :=
  ∃ k, pool.tasks i = (advance k (start.tasks i) start.state).1 ∧
    view i pool.state = view i (last (advance k (start.tasks i) start.state).2)

section Turn

variable {start pool : Pool ι σ ε α} {last : σ → σ} {j : ι} (hlocal : Local view i (pool.tasks i))

include hlocal

/-- A turn leaves local what is left of a task. -/
theorem Local.turn : Local view i ((pool.turn i).tasks i) := by
  cases htask : pool.tasks i with
  | done r =>
      rw [Pool.turn_done htask]
      trivial
  | part change next =>
      rw [htask] at hlocal
      rw [(Pool.turn_part htask).1]
      exact hlocal.2.2 _

/-- A turn takes its own task on. -/
theorem Reached.turn (h : Reached view start pool i id) :
    Reached view start (pool.turn i) i id := by
  obtain ⟨k, hleft, hseen⟩ := h
  cases htask : pool.tasks i with
  | done r =>
      have hsame : pool.turn i = pool := by rw [Pool.turn, htask]
      rw [hsame]
      exact ⟨k, hleft, hseen⟩
  | part change next =>
      rw [htask] at hlocal
      obtain ⟨hchange, hnext, -⟩ := hlocal
      obtain ⟨htasks, hstate⟩ := Pool.turn_part htask
      have hsucc := advance_succ (hleft.symm.trans htask)
      refine ⟨k + 1, ?_, ?_⟩
      · rw [htasks, hsucc]
        exact hnext _ _ hseen
      · rw [hstate, hsucc]
        exact hchange.own _ _ hseen

/-- It changes nothing for the others. -/
theorem Reached.turn_of_ne (hj : j ≠ i) (h : Reached view start pool j last) :
    Reached view start (pool.turn i) j last := by
  obtain ⟨k, hleft, hseen⟩ := h
  refine ⟨k, (pool.turn_of_ne hj).trans hleft, Eq.trans ?_ hseen⟩
  cases htask : pool.tasks i with
  | done r => rw [Pool.turn, htask]
  | part change next =>
      rw [htask] at hlocal
      rw [(Pool.turn_part htask).2]
      exact hlocal.1.frame _ j hj

end Turn

omit [DecidableEq ι] in
/-- **A task that is done** ended as it would have alone, and sees the same. -/
theorem Reached.of_done {start pool : Pool ι σ ε α} (h : Reached view start pool i id)
    {r : Except ε α} (hdone : pool.tasks i = done r) :
    r = (run (start.tasks i) start.state).1 ∧
      view i pool.state = view i (run (start.tasks i) start.state).2 := by
  obtain ⟨k, hleft, hseen⟩ := h
  have hrun := run_advance k (start.tasks i) start.state
  rw [← hleft, hdone] at hrun
  rw [← hrun]
  exact ⟨rfl, hseen⟩

/-- **Any task can be done**: the turns that are left of it take it there. -/
theorem exists_done (pool : Pool ι σ ε α) (i : ι) :
    ∃ n r, (pool.follow (List.replicate n i)).tasks i = done r := by
  suffices hall : ∀ t : Task σ ε α, ∀ pool : Pool ι σ ε α, pool.tasks i = t →
      ∃ n r, (pool.follow (List.replicate n i)).tasks i = done r from hall _ pool rfl
  intro t
  induction t with
  | done r => exact fun pool hpool => ⟨0, r, hpool⟩
  | part change next ih =>
      intro pool hpool
      obtain ⟨n, r, hdone⟩ := ih pool.state (pool.turn i) (by
        rw [Pool.turn, hpool]
        exact Function.update_self _ _ _)
      exact ⟨n + 1, r, hdone⟩

end Schedules

/-! ## groups -/

/-- Tasks that are awaited together, and those of them that were cancelled. -/
structure Group (ι : Type v) (σ ε α : Type u) extends Pool ι σ ε α where
  cancelled : ι → Bool

namespace Group

variable {ι : Type v} {ν : ι → Type w} {view : ∀ i, σ → ν i} {i : ι}

/-- One of the tasks raised. -/
def Raised (g : Group ι σ ε α) : Prop := ∃ i, (g.tasks i).raised = true

/-- The task goes on no more. -/
def Ended (g : Group ι σ ε α) (i : ι) : Prop := g.cancelled i = true ∨ (g.tasks i).isDone = true

variable [DecidableEq ι] (cleanup : ι → (σ → σ) → Prop)

/-- A task takes its turn, or, once one has raised, another is cut off where it waits, and its
`finally` blocks clean up.  What it waits for may still come to its end: that is a turn before it is
cut off. -/
inductive Step (g : Group ι σ ε α) : Group ι σ ε α → Prop where
  | turn (i : ι) : g.cancelled i = false → Step g { g with toPool := g.toPool.turn i }
  | cancel (i : ι) (last : σ → σ) : g.Raised → g.cancelled i = false →
      (g.tasks i).isDone = false → cleanup i last →
      Step g { g with state := last g.state, cancelled := Function.update g.cancelled i true }

/-- Any number of steps. -/
abbrev Run : Group ι σ ε α → Group ι σ ε α → Prop := Relation.ReflTransGen (Step cleanup)

variable {start g g' : Group ι σ ε α}

/-- What holds of the tasks of a group at any time. -/
structure Sound (view : ∀ i, σ → ν i) (start g : Group ι σ ε α) : Prop where
  isLocal : ∀ i, Local view i (g.tasks i)
  /-- a task that was not cancelled is on its way alone -/
  reached : ∀ i, g.cancelled i = false → Reached view start.toPool g.toPool i id
  /-- a cancelled one was, was not done, and another had raised -/
  cut : ∀ i, g.cancelled i = true → g.Raised ∧ (g.tasks i).isDone = false ∧
    ∃ last, cleanup i last ∧ Reached view start.toPool g.toPool i last

variable {cleanup}

/-- Who has raised stays so. -/
theorem Raised.turn (h : g.Raised) : Group.Raised { g with toPool := g.toPool.turn i } := by
  obtain ⟨j, hj⟩ := h
  obtain ⟨e, he⟩ := raised_iff.mp hj
  exact ⟨j, raised_iff.mpr ⟨e, Pool.turn_done he⟩⟩

/-- **Step lemma.**  A turn and a cancellation both leave the group sound. -/
theorem Sound.step (h : Sound cleanup view start g)
    (hcleanup : ∀ i last, cleanup i last → LocalChange view i last) (hstep : Step cleanup g g') :
    Sound cleanup view start g' := by
  cases hstep with
  | turn i hopen =>
      have hlocal := h.isLocal i
      refine ⟨fun j => ?_, fun j hj => ?_, fun j hj => ?_⟩
      · by_cases hne : j = i
        · exact hne ▸ hlocal.turn
        · rw [g.turn_of_ne hne]
          exact h.isLocal j
      · by_cases hne : j = i
        · subst hne
          exact (h.reached j hj).turn hlocal
        · exact (h.reached j hj).turn_of_ne hlocal hne
      · have hne : j ≠ i := by
          rintro rfl
          exact Bool.false_ne_true (hopen.symm.trans hj)
        obtain ⟨hraised, hrest, last, hlast, hreached⟩ := h.cut j hj
        refine ⟨hraised.turn, ?_, last, hlast, hreached.turn_of_ne hlocal hne⟩
        rw [g.turn_of_ne hne]
        exact hrest
  | cancel i last hraised hopen hrest hlast =>
      have hchange := hcleanup i last hlast
      have hothers : ∀ j ≠ i, ∀ before, Reached view start.toPool g.toPool j before →
          Reached view start.toPool { g.toPool with state := last g.state } j before :=
        fun j hne before ⟨k, hleft, hseen⟩ => ⟨k, hleft, (hchange.frame _ j hne).trans hseen⟩
      refine ⟨h.isLocal, fun j hj => ?_, fun j hj => ⟨hraised, ?_⟩⟩
      · have hne : j ≠ i := by
          rintro rfl
          exact Bool.false_ne_true (hj.symm.trans (Function.update_self _ _ _))
        exact hothers j hne id (h.reached j ((Function.update_of_ne hne _ _).symm.trans hj))
      · by_cases hne : j = i
        · subst hne
          obtain ⟨k, hleft, hseen⟩ := h.reached j hopen
          exact ⟨hrest, last, hlast, k, hleft, hchange.own _ _ hseen⟩
        · obtain ⟨-, hrest', before, hbefore, hreached⟩ :=
            h.cut j ((Function.update_of_ne hne _ _).symm.trans hj)
          exact ⟨hrest', before, hbefore, hothers j hne before hreached⟩

/-- **Local tasks of a group** go on as each of them would alone, and one is cancelled only where
another raised. -/
theorem isolated (hlocal : ∀ i, Local view i (start.tasks i))
    (hcleanup : ∀ i last, cleanup i last → LocalChange view i last)
    (hnew : ∀ i, start.cancelled i = false) (hrun : Run cleanup start g) :
    Sound cleanup view start g := by
  induction hrun with
  | refl =>
      exact ⟨hlocal, fun _ _ => ⟨0, rfl, rfl⟩,
        fun i hi => absurd ((hnew i).symm.trans hi) Bool.false_ne_true⟩
  | tail _ hstep ih => exact ih.step hcleanup hstep

omit [DecidableEq ι] in
/-- A task that is done was not cancelled. -/
theorem Sound.of_done (h : Sound cleanup view start g) {r : Except ε α}
    (hdone : g.tasks i = done r) : r = (run (start.tasks i) start.state).1 ∧
      view i g.state = view i (run (start.tasks i) start.state).2 := by
  refine (h.reached i (Bool.eq_false_iff.mpr fun hcut => ?_)).of_done hdone
  have hrest := (h.cut i hcut).2.1
  rw [hdone] at hrest
  cases hrest

omit [DecidableEq ι] in
/-- A task that raised would raise alone. -/
theorem Sound.raised (h : Sound cleanup view start g) (hraised : g.Raised) :
    ∃ i e, (run (start.tasks i) start.state).1 = .error e := by
  obtain ⟨i, hi⟩ := hraised
  obtain ⟨e, he⟩ := raised_iff.mp hi
  exact ⟨i, e, (h.of_done he).1.symm⟩

/-! ### ends -/

/-- Turns of tasks that were not cancelled. -/
theorem run_follow (g : Group ι σ ε α) (schedule : List ι)
    (h : ∀ i ∈ schedule, g.cancelled i = false) :
    Run cleanup g { g with toPool := g.toPool.follow schedule } := by
  induction schedule generalizing g with
  | nil => exact .refl
  | cons i schedule ih =>
      refine .head (.turn i (h i List.mem_cons_self)) ?_
      exact ih { g with toPool := g.toPool.turn i } fun j hj => h j (List.mem_cons_of_mem i hj)

/-- **Step lemma.**  Who has ended, by itself or by cancellation, stays so. -/
theorem Ended.step (h : g.Ended i) (hstep : Step cleanup g g') : g'.Ended i := by
  cases hstep with
  | turn j hopen =>
      refine h.imp id fun hdone => ?_
      obtain ⟨r, hr⟩ := isDone_iff.mp hdone
      exact isDone_iff.mpr ⟨r, Pool.turn_done hr⟩
  | cancel j last hraised hopen hrest hlast =>
      refine h.imp_left fun hcut => ?_
      by_cases hj : i = j
      · rw [hj]
        exact Function.update_self _ _ _
      · exact (Function.update_of_ne hj _ _).trans hcut

/-- **Run lemma.** -/
theorem Ended.run (h : g.Ended i) (hrun : Run cleanup g g') : g'.Ended i := by
  induction hrun with
  | refl => exact h
  | tail _ hstep ih => exact ih.step hstep

/-- Once one has raised the others can be cut off where they are. -/
theorem exists_cut (hsilent : ∀ i, cleanup i id) (hraised : g.Raised) (is : List ι) :
    ∃ g', Run cleanup g g' ∧ g'.toPool = g.toPool ∧ ∀ i ∈ is, g'.Ended i := by
  induction is with
  | nil => exact ⟨g, .refl, rfl, by simp⟩
  | cons i is ih =>
      obtain ⟨g₁, hrun, hpool, hended⟩ := ih
      by_cases hi : g₁.Ended i
      · exact ⟨g₁, hrun, hpool, List.forall_mem_cons.mpr ⟨hi, hended⟩⟩
      · obtain ⟨hopen, hrest⟩ := not_or.mp hi
        have hcut : Step cleanup g₁
            { g₁ with cancelled := Function.update g₁.cancelled i true } := by
          refine .cancel i id ?_ (Bool.eq_false_iff.mpr hopen) (Bool.eq_false_iff.mpr hrest)
            (hsilent i)
          rw [Raised, hpool]
          exact hraised
        refine ⟨_, hrun.tail hcut, hpool, List.forall_mem_cons.mpr ⟨?_, fun j hj => ?_⟩⟩
        · exact .inl (Function.update_self _ _ _)
        · exact (hended j hj).step hcut

/-- **Any tasks can end**: by the turns that are left of them, unless one has raised, when they are
cut off where they are. -/
theorem exists_ended (hsilent : ∀ i, cleanup i id) (g : Group ι σ ε α) (is : List ι) :
    ∃ g', Run cleanup g g' ∧ (∀ i ∈ is, g'.Ended i) ∧ (g.Raised → g'.toPool = g.toPool) := by
  induction is generalizing g with
  | nil => exact ⟨g, .refl, by simp, fun _ => rfl⟩
  | cons i is ih =>
      by_cases hraised : g.Raised
      · obtain ⟨g', hrun, hpool, hended⟩ := exists_cut hsilent hraised (i :: is)
        exact ⟨g', hrun, hended, fun _ => hpool⟩
      · obtain ⟨g₁, hrun₁, hi⟩ : ∃ g₁, Run cleanup g g₁ ∧ g₁.Ended i := by
          by_cases hopen : g.cancelled i = true
          · exact ⟨g, .refl, .inl hopen⟩
          · obtain ⟨n, r, hdone⟩ := exists_done g.toPool i
            refine ⟨_, g.run_follow (List.replicate n i) fun j hj => ?_,
              .inr (isDone_iff.mpr ⟨r, hdone⟩)⟩
            rw [(List.mem_replicate.mp hj).2]
            exact Bool.eq_false_iff.mpr hopen
        obtain ⟨g', hrun, hended, -⟩ := ih g₁
        exact ⟨g', hrun₁.trans hrun, List.forall_mem_cons.mpr ⟨hi.run hrun, hended⟩,
          fun h => absurd h hraised⟩

end Group

end Coroutine
