import Mathlib.Data.List.SplitBy
import Mathlib.Order.Defs.PartialOrder

/-!
# Runs

The runs of a list: its longest stretches of elements that share a label.

* `mem_runs_iff` — where the labels ascend, a run is all elements of a label;
* `runs_pairwise` — then the labels of the runs ascend;
* `flatMap_replicate_iff` — when runs may be stored as a value and a length.
-/

namespace Runs

variable {α β κ : Type*}

/-- The runs of a list by a label. -/
def runs [DecidableEq κ] (label : α → κ) (l : List α) : List (List α) :=
  l.splitBy fun a b => label a = label b

section Runs

variable [DecidableEq κ] {label : α → κ} {l m : List α}

theorem flatten_runs (label : α → κ) (l : List α) : (runs label l).flatten = l :=
  List.flatten_splitBy _ l

theorem ne_nil_of_mem_runs (h : m ∈ runs label l) : m ≠ [] := List.ne_nil_of_mem_splitBy h

/-- Adjacent elements of a run are adjacent in the list. -/
theorem isChain_of_mem_runs {Q : α → α → Prop} (h : l.IsChain Q) (hm : m ∈ runs label l) :
    m.IsChain Q := by
  have hinfix := List.infix_of_mem_flatten hm
  rw [flatten_runs] at hinfix
  exact h.infix hinfix

/-- The last element of a run and the first of the next are adjacent in the list. -/
theorem isChain_runs {Q : α → α → Prop} (h : l.IsChain Q) :
    (runs label l).IsChain fun m m' => ∃ hm hm', label (m.getLast hm) ≠ label (m'.head hm') ∧
      Q (m.getLast hm) (m'.head hm') := by
  rw [List.isChain_iff_forall_rel_of_append_cons_cons]
  intro m m' before after hruns
  have hchain := List.isChain_getLast_head_splitBy (fun a b => decide (label a = label b)) l
  rw [List.isChain_iff_forall_rel_of_append_cons_cons] at hchain h
  obtain ⟨hm, hm', hne⟩ := hchain hruns
  refine ⟨hm, hm', of_decide_eq_false hne, ?_⟩
  refine @h _ _ (before.flatten ++ m.dropLast) (m'.tail ++ after.flatten) ?_
  have hflat := flatten_runs label l
  rw [hruns, List.flatten_append, List.flatten_cons, List.flatten_cons] at hflat
  have hlast := List.dropLast_append_getLast hm
  have hhead := List.cons_head_tail hm'
  rw [← hflat, List.append_assoc, ← List.singleton_append, ← List.append_assoc m.dropLast, hlast,
    ← List.cons_append, hhead]

omit [DecidableEq κ] in
/-- The labels of a chain of equal labels. -/
theorem label_eq_of_isChain (h : m.IsChain fun a b => label a = label b) {a b : α} (ha : a ∈ m)
    (hb : b ∈ m) : label a = label b := by
  induction m generalizing a b with
  | nil => cases ha
  | cons c m ih =>
      have hhead : ∀ d ∈ m, label c = label d := by
        intro d hd
        cases m with
        | nil => cases hd
        | cons e m =>
            rw [List.isChain_cons_cons] at h
            exact h.1.trans (ih h.2 List.mem_cons_self hd)
      cases List.mem_cons.mp ha with
      | inl hac =>
          cases List.mem_cons.mp hb with
          | inl hbc => rw [hac, hbc]
          | inr hbm => rw [hac, hhead b hbm]
      | inr ham =>
          cases List.mem_cons.mp hb with
          | inl hbc => rw [hbc, hhead a ham]
          | inr hbm => exact ih h.tail ham hbm

/-- The elements of a run share their label. -/
theorem label_eq_of_mem_runs (h : m ∈ runs label l) {a b : α} (ha : a ∈ m) (hb : b ∈ m) :
    label a = label b :=
  label_eq_of_isChain ((List.isChain_of_mem_splitBy h).imp fun _ _ hxy => of_decide_eq_true hxy)
    ha hb

end Runs

/-! ## ascending labels -/

section Ascending

variable [PartialOrder κ] [DecidableEq κ] {label : α → κ} {l m : List α}

omit [DecidableEq κ] in
theorem pairwise_of_isChain {ms : List (List α)}
    (hconst : ∀ m ∈ ms, ∀ a ∈ m, ∀ b ∈ m, label a = label b)
    (hchain : ms.IsChain fun m m' => ∃ hm hm', label (m.getLast hm) < label (m'.head hm')) :
    ms.Pairwise fun m m' => ∀ a ∈ m, ∀ b ∈ m', label a < label b := by
  induction ms with
  | nil => exact List.Pairwise.nil
  | cons m ms ih =>
      have hrest := ih (fun m' hm' => hconst m' (List.mem_cons_of_mem m hm')) hchain.tail
      rw [List.pairwise_cons]
      refine ⟨?_, hrest⟩
      cases ms with
      | nil => simp
      | cons m' ms =>
          rw [List.isChain_cons_cons] at hchain
          obtain ⟨⟨hm, hm', hlt⟩, -⟩ := hchain
          have hnext : ∀ a ∈ m, label a < label (m'.head hm') := by
            intro a ha
            rwa [hconst m List.mem_cons_self a ha _ (List.getLast_mem hm)]
          intro x hx a ha b hb
          cases List.mem_cons.mp hx with
          | inl hfirst =>
              rw [hfirst] at hb
              rw [hconst m' (by simp) b hb _ (List.head_mem hm')]
              exact hnext a ha
          | inr hlater =>
              exact (hnext a ha).trans
                ((List.pairwise_cons.mp hrest).1 x hlater _ (List.head_mem hm') b hb)

/-- Where the labels ascend, those of the runs do strictly. -/
theorem runs_pairwise (hsorted : l.Pairwise fun a b => label a ≤ label b) :
    (runs label l).Pairwise fun m m' => ∀ a ∈ m, ∀ b ∈ m', label a < label b := by
  refine pairwise_of_isChain (fun m hm a ha b hb => label_eq_of_mem_runs hm ha hb) ?_
  refine (isChain_runs hsorted.isChain).imp fun m m' h => ?_
  obtain ⟨hm, hm', hne, hle⟩ := h
  exact ⟨hm, hm', lt_of_le_of_ne hle hne⟩

/-- A run is all elements of its label. -/
theorem run_eq_filter (hsorted : l.Pairwise fun a b => label a ≤ label b)
    (hm : m ∈ runs label l) {a : α} (ha : a ∈ m) :
    m = l.filter fun b => label b = label a := by
  obtain ⟨before, after, hruns⟩ := List.append_of_mem hm
  have hpair := runs_pairwise hsorted
  rw [hruns, List.pairwise_append, List.pairwise_cons] at hpair
  have hself : m.filter (fun b => label b = label a) = m := by
    rw [List.filter_eq_self]
    exact fun b hb => decide_eq_true (label_eq_of_mem_runs hm hb ha)
  have hnone : ∀ ms : List (List α), (∀ x ∈ ms, ∀ b ∈ x, label b ≠ label a) →
      ms.flatten.filter (fun b => label b = label a) = [] := by
    intro ms h
    rw [List.filter_eq_nil_iff]
    intro b hb heq
    obtain ⟨x, hx, hbx⟩ := List.mem_flatten.mp hb
    exact h x hx b hbx (of_decide_eq_true heq)
  rw [← flatten_runs label l, hruns, List.flatten_append, List.flatten_cons, List.filter_append,
    List.filter_append, hself, hnone before, hnone after, List.nil_append, List.append_nil]
  · intro x hx b hb
    exact (hpair.2.1.1 x hx a ha b hb).ne'
  · intro x hx b hb
    exact (hpair.2.2 x hx m List.mem_cons_self b hb a ha).ne

theorem mem_runs_iff (hsorted : l.Pairwise fun a b => label a ≤ label b) :
    m ∈ runs label l ↔ ∃ a ∈ l, m = l.filter fun b => label b = label a := by
  constructor
  · intro hm
    obtain ⟨a, ha⟩ := List.exists_mem_of_ne_nil m (ne_nil_of_mem_runs hm)
    refine ⟨a, ?_, run_eq_filter hsorted hm ha⟩
    rw [← flatten_runs label l]
    exact List.mem_flatten.mpr ⟨m, hm, ha⟩
  · intro h
    obtain ⟨a, ha, hm⟩ := h
    rw [← flatten_runs label l] at ha
    obtain ⟨m', hm', ham⟩ := List.mem_flatten.mp ha
    rw [hm, ← run_eq_filter hsorted hm' ham]
    exact hm'

end Ascending

/-! ## expanding -/

/-- Lists may be stored as a value and a length exactly when each repeats its value. -/
theorem flatMap_replicate_iff {f : α → β} {value : List α → β} {ms : List (List α)} :
    (ms.flatMap fun m => List.replicate m.length (value m)) = ms.flatten.map f ↔
      ∀ m ∈ ms, m.map f = List.replicate m.length (value m) := by
  induction ms with
  | nil => simp
  | cons m ms ih =>
      rw [List.flatMap_cons, List.flatten_cons, List.map_append, List.forall_mem_cons, ← ih]
      constructor
      · intro h
        obtain ⟨hfirst, hrest⟩ := List.append_inj h (by simp)
        exact ⟨hfirst.symm, hrest⟩
      · intro h
        rw [h.1, h.2]

end Runs
