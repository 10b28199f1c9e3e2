import Mathlib.Data.List.Nodup
import Mathlib.Logic.Relation
import MorningstarModbus.Lib.Coroutine

/-!
# FairLock

A lock that is handed on in the order in which it was asked for (`asyncio.Lock`), around
sections that others may interrupt but not enter.  Tasks are not cancelled.

* `Step` — tasks ask, get the lock, do a part of their section, give the lock back;
* `linear` — whatever the schedule, the sections come one after another, and every one of them
  ends as it does when they are run so;
* `order` — nobody is overtaken;
* `exists_step` — the lock is not lost.
-/

namespace FairLock

open Coroutine Coroutine.Task

universe u v

/-- Where a task is. -/
inductive Phase (σ ε α : Type u) where
  | idle
  | waiting
  | holding (left : Task σ ε α)
  | done (result : Except ε α)

structure Machine (ι : Type v) (σ ε α : Type u) where
  phases : ι → Phase σ ε α
  state : σ
  waiters : List ι := []
  /-- who got the lock, in order -/
  served : List ι := []

variable {ι : Type v} {σ ε α : Type u}

/-- Nobody holds the lock. -/
def Machine.Free (m : Machine ι σ ε α) : Prop := ∀ i t, m.phases i ≠ .holding t

/-- Nobody asked yet. -/
def Machine.start (s : σ) : Machine ι σ ε α where
  phases _ := .idle
  state := s

variable [DecidableEq ι] (sections : ι → Task σ ε α)

inductive Step : Machine ι σ ε α → Machine ι σ ε α → Prop
  | ask {m : Machine ι σ ε α} {i : ι} : m.phases i = .idle →
      Step m { m with phases := Function.update m.phases i .waiting
                      waiters := m.waiters ++ [i] }
  | acquire {m : Machine ι σ ε α} {i : ι} {rest : List ι} : m.waiters = i :: rest → m.Free →
      Step m { m with phases := Function.update m.phases i (.holding (sections i))
                      waiters := rest
                      served := m.served ++ [i] }
  | part {m : Machine ι σ ε α} {i : ι} {change : σ → σ} {next : σ → Task σ ε α} :
      m.phases i = .holding (.part change next) →
      Step m { m with phases := Function.update m.phases i (.holding (next m.state))
                      state := change m.state }
  | release {m : Machine ι σ ε α} {i : ι} {r : Except ε α} :
      m.phases i = .holding (.done r) →
      Step m { m with phases := Function.update m.phases i (.done r) }

def Reachable (s : σ) : Machine ι σ ε α → Prop := Relation.ReflTransGen (Step sections) (.start s)

/-- The state after sections that were run one after another. -/
def after (order : List ι) (s : σ) : σ := order.foldl (fun s i => (run (sections i) s).2) s

/-- What the schedules keep, from the state `s`. -/
structure Linear (s : σ) (m : Machine ι σ ε α) : Prop where
  nodup : (m.served ++ m.waiters).Nodup
  waiting : ∀ i ∈ m.waiters, m.phases i = .waiting
  idle : ∀ i, i ∉ m.served ++ m.waiters → m.phases i = .idle
  /-- a section that was begun is done, or the last one and goes on as it would alone -/
  begun : ∀ before i rest, m.served = before ++ i :: rest →
    m.phases i = .done (run (sections i) (after sections before s)).1 ∨
      rest = [] ∧ ∃ t, m.phases i = .holding t ∧
        run t m.state = run (sections i) (after sections before s)
  free : m.Free → m.state = after sections m.served s

variable {sections} {s : σ} {m m' : Machine ι σ ε α} {i j : ι}

/-- Who holds the lock got it last. -/
theorem Linear.of_holding (h : Linear sections s m) {t : Task σ ε α}
    (hi : m.phases i = .holding t) : ∃ before, m.served = before ++ [i] ∧
      run t m.state = run (sections i) (after sections before s) := by
  have hserved : i ∈ m.served := by
    by_contra hnot
    by_cases hwaits : i ∈ m.waiters
    · rw [h.waiting i hwaits] at hi
      cases hi
    · rw [h.idle i (by simp [hnot, hwaits])] at hi
      cases hi
  obtain ⟨before, rest, hsplit⟩ := List.append_of_mem hserved
  obtain hdone | ⟨rfl, t', ht', hrun⟩ := h.begun before i rest hsplit
  · rw [hdone] at hi
    cases hi
  · obtain rfl : t' = t := by
      rw [ht', Phase.holding.injEq] at hi
      exact hi
    exact ⟨before, hsplit, hrun⟩

/-- **Never** do two hold the lock. -/
theorem Linear.exclusive (h : Linear sections s m) {t t' : Task σ ε α}
    (hi : m.phases i = .holding t) (hj : m.phases j = .holding t') : i = j := by
  obtain ⟨before, hsplit, -⟩ := h.of_holding hi
  obtain ⟨before', hsplit', -⟩ := h.of_holding hj
  exact (List.append_inj' (hsplit.symm.trans hsplit') rfl).2 |> List.singleton_inj.mp

omit [DecidableEq ι] in
theorem Linear.start (s : σ) : Linear sections s (.start s) where
  nodup := List.nodup_nil
  waiting := by simp [Machine.start]
  idle := fun _ _ => rfl
  begun := by simp [Machine.start]
  free := fun _ => rfl

theorem Linear.ask (h : Linear sections s m) (hi : m.phases i = .idle) :
    Linear sections s { m with phases := Function.update m.phases i .waiting
                               waiters := m.waiters ++ [i] } := by
  have hserved : i ∉ m.served := by
    intro hmem
    obtain ⟨before, rest, hsplit⟩ := List.append_of_mem hmem
    obtain hdone | ⟨-, t, ht, -⟩ := h.begun before i rest hsplit
    · rw [hdone] at hi
      cases hi
    · rw [ht] at hi
      cases hi
  have hwaits : i ∉ m.waiters := fun hmem => by
    rw [h.waiting i hmem] at hi
    cases hi
  refine ⟨?_, ?_, ?_, ?_, ?_⟩
  · rw [← List.append_assoc]
    exact List.nodup_append'.mpr ⟨h.nodup, List.nodup_singleton i, by simp [hserved, hwaits]⟩
  · intro j hj
    by_cases hji : j = i
    · rw [hji]
      exact Function.update_self _ _ _
    · rw [List.mem_append, List.mem_singleton, or_iff_left hji] at hj
      exact (Function.update_of_ne hji _ _).trans (h.waiting j hj)
  · intro j hj
    have hji : j ≠ i := fun heq => hj (by simp [heq])
    refine (Function.update_of_ne hji _ _).trans (h.idle j fun hmem => hj ?_)
    rw [← List.append_assoc]
    exact List.mem_append_left _ hmem
  · intro before j rest hsplit
    have hji : j ≠ i := fun heq => hserved (heq ▸ hsplit ▸ by simp)
    dsimp only
    rw [Function.update_of_ne hji]
    exact h.begun before j rest hsplit
  · intro hfree
    refine h.free fun j t hj => ?_
    have hji : j ≠ i := fun heq => by
      rw [heq, hi] at hj
      cases hj
    exact hfree j t ((Function.update_of_ne hji _ _).trans hj)

theorem Linear.acquire (h : Linear sections s m) {rest : List ι} (hwaiters : m.waiters = i :: rest)
    (hfree : m.Free) :
    Linear sections s { m with phases := Function.update m.phases i (.holding (sections i))
                               waiters := rest
                               served := m.served ++ [i] } := by
  have hnodup := h.nodup
  rw [hwaiters, List.append_cons] at hnodup
  have hserved : i ∉ m.served := fun hmem =>
    (List.nodup_append'.mp (List.nodup_append'.mp hnodup).1).2.2 hmem (List.mem_singleton_self i)
  refine ⟨hnodup, ?_, ?_, ?_, ?_⟩
  · intro j hj
    have hji : j ≠ i := fun heq =>
      (List.nodup_append'.mp hnodup).2.2 (by simp [heq]) hj
    exact (Function.update_of_ne hji _ _).trans
      (h.waiting j (hwaiters ▸ List.mem_cons_of_mem i hj))
  · intro j hj
    have hji : j ≠ i := fun heq => hj (by simp [heq])
    refine (Function.update_of_ne hji _ _).trans (h.idle j fun hmem => hj ?_)
    rwa [hwaiters, List.append_cons] at hmem
  · intro before j later hsplit
    obtain rfl | ⟨later', x, rfl⟩ := List.eq_nil_or_concat later
    · -- the task got the lock last, and nothing of its section is done
      obtain ⟨rfl, heq⟩ := List.append_inj' hsplit rfl
      obtain rfl := List.singleton_inj.mp heq
      refine .inr ⟨rfl, sections i, Function.update_self _ _ _, ?_⟩
      rw [← h.free hfree]
    · rw [List.concat_eq_append, ← List.cons_append, ← List.append_assoc] at hsplit
      obtain ⟨hbefore, -⟩ := List.append_inj' hsplit rfl
      have hji : j ≠ i := fun heq => hserved (heq ▸ hbefore ▸ by simp)
      dsimp only
      rw [Function.update_of_ne hji]
      obtain hdone | ⟨-, t, ht, -⟩ := h.begun before j later' hbefore
      · exact .inl hdone
      · exact absurd ht (hfree j t)
  · intro hfree'
    exact absurd (Function.update_self _ _ _) (hfree' i (sections i))

omit [DecidableEq ι] in
/-- A task that holds the lock is the last one that was served. -/
theorem Linear.split_of_holding (h : Linear sections s m) {t : Task σ ε α}
    (hi : m.phases i = .holding t) {before rest : List ι}
    (hsplit : m.served = before ++ i :: rest) :
    rest = [] ∧ run t m.state = run (sections i) (after sections before s) := by
  obtain hdone | ⟨hrest, t', ht', hrun⟩ := h.begun before i rest hsplit
  · rw [hdone] at hi
    cases hi
  · rw [ht', Phase.holding.injEq] at hi
    exact ⟨hrest, hi ▸ hrun⟩

/-- The section goes on, or it is done and the lock is given back. -/
theorem Linear.goOn (h : Linear sections s m) {t : Task σ ε α} (hi : m.phases i = .holding t)
    {phase : Phase σ ε α} {state : σ}
    (hphase : phase = .done (run t m.state).1 ∧ state = (run t m.state).2 ∨
      ∃ t', phase = .holding t' ∧ run t' state = run t m.state) :
    Linear sections s { m with phases := Function.update m.phases i phase, state } := by
  obtain ⟨front, hserved, hrun⟩ := h.of_holding hi
  have hmem : i ∈ m.served := by simp [hserved]
  refine ⟨h.nodup, ?_, ?_, ?_, ?_⟩
  · intro j hj
    have hji : j ≠ i := fun heq =>
      (List.nodup_append'.mp h.nodup).2.2 (heq ▸ hmem) hj
    exact (Function.update_of_ne hji _ _).trans (h.waiting j hj)
  · intro j hj
    have hji : j ≠ i := fun heq => hj (List.mem_append_left _ (heq ▸ hmem))
    exact (Function.update_of_ne hji _ _).trans (h.idle j hj)
  · intro before j rest hsplit
    by_cases hji : j = i
    · subst hji
      obtain ⟨hrest, hj⟩ := h.split_of_holding hi hsplit
      dsimp only
      rw [Function.update_self]
      obtain ⟨hdone, -⟩ | ⟨t', ht', hrun'⟩ := hphase
      · exact .inl (by rw [hdone, hj])
      · exact .inr ⟨hrest, t', ht', hrun'.trans hj⟩
    · dsimp only
      rw [Function.update_of_ne hji]
      obtain hdone | ⟨-, t', ht', -⟩ := h.begun before j rest hsplit
      · exact .inl hdone
      · exact absurd (h.exclusive ht' hi) hji
  · intro hfree
    obtain ⟨-, hstate⟩ | ⟨t', ht', -⟩ := hphase
    · rw [hserved, after, List.foldl_append]
      exact hstate.trans (congrArg Prod.snd hrun)
    · exact absurd ((Function.update_self i phase m.phases).trans ht') (hfree i t')

theorem Linear.step (h : Linear sections s m) (hstep : Step sections m m') :
    Linear sections s m' := by
  cases hstep with
  | ask hi => exact h.ask hi
  | acquire hwaiters hfree => exact h.acquire hwaiters hfree
  | part hi => exact h.goOn hi (.inr ⟨_, rfl, rfl⟩)
  | release hi => exact h.goOn hi (.inl ⟨rfl, rfl⟩)

/-- **Whatever the schedule** the sections come one after another. -/
theorem linear (h : Reachable sections s m) : Linear sections s m := by
  induction h with
  | refl => exact .start s
  | tail _ hstep ih => exact ih.step hstep

/-- **A task that is done** ended as its section does after those that were served before. -/
theorem Linear.of_done (h : Linear sections s m) {r : Except ε α} (hi : m.phases i = .done r) :
    ∃ before rest, m.served = before ++ i :: rest ∧
      r = (run (sections i) (after sections before s)).1 := by
  have hserved : i ∈ m.served := by
    by_contra hnot
    by_cases hwaits : i ∈ m.waiters
    · rw [h.waiting i hwaits] at hi
      cases hi
    · rw [h.idle i (by simp [hnot, hwaits])] at hi
      cases hi
  obtain ⟨before, rest, hsplit⟩ := List.append_of_mem hserved
  refine ⟨before, rest, hsplit, ?_⟩
  obtain hdone | ⟨-, t, ht, -⟩ := h.begun before i rest hsplit
  · rw [hdone, Phase.done.injEq] at hi
    exact hi.symm
  · rw [ht] at hi
    cases hi

/-- **Nobody is overtaken**: those that asked are served in the order in which they did. -/
theorem Step.order (h : Step sections m m') :
    m.served ++ m.waiters <+: m'.served ++ m'.waiters := by
  cases h with
  | @ask i _ =>
      rw [← List.append_assoc]
      exact List.prefix_append _ _
  | @acquire i waiters hwaiters _ =>
      have hsame : m.served ++ m.waiters = m.served ++ [i] ++ waiters := by
        rw [hwaiters, List.append_cons]
      exact hsame ▸ List.prefix_refl _
  | part _ => exact List.prefix_refl _
  | release _ => exact List.prefix_refl _

theorem order (h : Relation.ReflTransGen (Step sections) m m') :
    m.served ++ m.waiters <+: m'.served ++ m'.waiters := by
  induction h with
  | refl => exact List.prefix_refl _
  | tail _ hstep ih => exact ih.trans hstep.order

/-- **The lock is not lost**: where somebody waits, the holder or the next waiter can go on, without
anybody new. -/
theorem exists_step (hwaiters : m.waiters ≠ []) :
    ∃ m', Step sections m m' ∧ m'.waiters <:+ m.waiters := by
  by_cases hfree : m.Free
  · obtain ⟨i, rest, heq⟩ := List.exists_cons_of_ne_nil hwaiters
    exact ⟨_, .acquire heq hfree, heq ▸ List.suffix_cons i rest⟩
  · simp only [Machine.Free, not_forall, not_not] at hfree
    obtain ⟨i, t, hi⟩ := hfree
    cases t with
    | done r => exact ⟨_, .release hi, List.suffix_refl _⟩
    | part change next => exact ⟨_, .part hi, List.suffix_refl _⟩

end FairLock
