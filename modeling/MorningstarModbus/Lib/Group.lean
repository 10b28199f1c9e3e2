import Mathlib.Algebra.BigOperators.Group.List.Lemmas
import Mathlib.Algebra.Ring.Nat
import MorningstarModbus.Lib.Query

/-!
# Group

`GROUP BY` over a table: the rows of each distinct key, in table order.

* `sum_length_groups` — every row is in exactly one group;
* `map_groups_perm` — the groups depend on the order of the rows only in what
  is read of them;
* `groups_filter`, `groups_of_forall` — the groups of some keys, and of one;
* `groups_first`, `groups_last` — where the keys ascend, the first and the last
  row of the table open the first group and close the last.
-/

namespace Table

open Query

variable {ρ κ : Type*} [DecidableEq κ]

/-- The groups of a table by a key. -/
def groups (key : ρ → κ) (rows : List ρ) : List (κ × List ρ) :=
  (distinct (rows.map key)).map fun k => (k, rows.filter fun r => key r = k)

variable {key : ρ → κ} {rows : List ρ}

theorem mem_groups {g : κ × List ρ} (h : g ∈ groups key rows) :
    g.2 = rows.filter (fun r => key r = g.1) ∧ g.2 ≠ [] := by
  obtain ⟨k, hk, rfl⟩ := List.mem_map.mp h
  refine ⟨rfl, ?_⟩
  obtain ⟨r, hr, rfl⟩ := List.mem_map.mp (mem_distinct.mp hk)
  exact List.ne_nil_of_mem (List.mem_filter.mpr ⟨hr, by simp⟩)

/-- A row of a group is a row of the table with the group's key. -/
theorem mem_of_mem_groups {g : κ × List ρ} (h : g ∈ groups key rows) {r : ρ} (hr : r ∈ g.2) :
    r ∈ rows ∧ key r = g.1 := by
  rw [(mem_groups h).1] at hr
  simpa using hr

/-- Groups have different keys. -/
theorem keyed_groups (key : ρ → κ) (rows : List ρ) : Keyed Prod.fst (groups key rows) := by
  have hfst : (groups key rows).map Prod.fst = distinct (rows.map key) := by
    rw [groups, List.map_map]
    exact List.map_id _
  unfold Keyed
  rw [hfst]
  exact nodup_distinct _

/-- What is read of a group, where it is looked up. -/
theorem lookup_map_groups {β : Type*} (f : List ρ → β) (key : ρ → κ) (k : κ) (rows : List ρ) :
    ((groups key rows).map fun g => (g.1, f g.2)).lookup k =
      if k ∈ rows.map key then some (f (rows.filter fun r => key r = k)) else none := by
  have hkeys : ∀ ks : List κ,
      (ks.map fun k' => (k', f (rows.filter fun r => key r = k'))).lookup k =
        if k ∈ ks then some (f (rows.filter fun r => key r = k)) else none := by
    intro ks
    induction ks with
    | nil => rfl
    | cons k' ks ih =>
        rw [List.map_cons, List.lookup_cons, ih]
        by_cases hk : k = k'
        · simp [hk]
        · simp [hk, beq_eq_false_iff_ne.mpr hk]
  rw [groups, List.map_map]
  exact (hkeys _).trans (by simp only [mem_distinct])

theorem filter_key_eq_nil {k : κ} (h : k ∉ rows.map key) :
    rows.filter (fun r => key r = k) = [] := by
  rw [List.filter_eq_nil_iff]
  intro r hr heq
  exact h (List.mem_map.mpr ⟨r, hr, of_decide_eq_true heq⟩)

/-- What is read of a group, where a missing group counts as empty. -/
theorem getD_lookup_map_groups {β : Type*} (f : List ρ → β) (key : ρ → κ) (k : κ) (rows : List ρ) :
    (((groups key rows).map fun g => (g.1, f g.2)).lookup k).getD (f []) =
      f (rows.filter fun r => key r = k) := by
  rw [lookup_map_groups]
  split
  · rfl
  · case isFalse hmem => rw [filter_key_eq_nil hmem, Option.getD_none]

/-- Every row is counted in exactly one group. -/
theorem sum_length_groups (key : ρ → κ) (rows : List ρ) :
    ((groups key rows).map fun g => g.2.length).sum = rows.length := by
  have hperm : (distinct (rows.map key)).Perm (rows.map key).dedup := by
    refine (List.perm_ext_iff_of_nodup (nodup_distinct _) (List.nodup_dedup _)).mpr ?_
    intro k
    rw [mem_distinct, List.mem_dedup]
  have hcount : ∀ k, (rows.filter fun r => key r = k).length = (rows.map key).count k := by
    intro k
    rw [List.count_eq_countP, List.countP_map, List.countP_eq_length_filter]
    congr 1
  calc ((groups key rows).map fun g => g.2.length).sum
      = ((distinct (rows.map key)).map fun k => (rows.map key).count k).sum := by
        rw [groups, List.map_map]
        simp only [Function.comp_def, hcount]
    _ = ((rows.map key).dedup.map fun k => (rows.map key).count k).sum :=
        (hperm.map _).sum_eq
    _ = (rows.map key).length := List.sum_map_count_dedup_eq_length _
    _ = rows.length := List.length_map key

/-- Rows that no two of some conditions keep are counted once. -/
theorem sum_length_filter {ι : Type*} {is : List ι} (p : ι → ρ → Bool) (hnodup : is.Nodup)
    (hp : ∀ r ∈ rows, ∀ i ∈ is, ∀ j ∈ is, p i r = true → p j r = true → i = j) :
    (is.map fun i => (rows.filter (p i)).length).sum =
      (rows.filter fun r => is.any fun i => p i r).length := by
  induction is with
  | nil => simp
  | cons i is ih =>
      obtain ⟨hi, hnodup⟩ := List.nodup_cons.mp hnodup
      have hrest := ih hnodup fun r hr j hj k hk =>
        hp r hr j (List.mem_cons_of_mem i hj) k (List.mem_cons_of_mem i hk)
      have hfirst : rows.filter (p i) =
          (rows.filter fun r => (i :: is).any fun j => p j r).filter (p i) := by
        rw [List.filter_filter]
        refine List.filter_congr fun r _ => ?_
        cases hpi : p i r <;> simp [hpi]
      have hothers : (rows.filter fun r => is.any fun j => p j r) =
          (rows.filter fun r => (i :: is).any fun j => p j r).filter fun r => !p i r := by
        rw [List.filter_filter]
        refine List.filter_congr fun r hr => ?_
        cases hpi : p i r with
        | false => simp [hpi]
        | true =>
            have hnone : (is.any fun j => p j r) = false := by
              rw [List.any_eq_false]
              intro j hj hpj
              exact hi (hp r hr i List.mem_cons_self j (List.mem_cons_of_mem i hj) hpi hpj ▸ hj)
            simp [hnone]
      rw [List.map_cons, List.sum_cons, hrest, hfirst, hothers]
      exact (List.length_eq_length_filter_add (p i)).symm

theorem distinct_perm {ks ks' : List κ} (h : ks.Perm ks') : (distinct ks).Perm (distinct ks') := by
  refine (List.perm_ext_iff_of_nodup (nodup_distinct _) (nodup_distinct _)).mpr ?_
  intro k
  rw [mem_distinct, mem_distinct, h.mem_iff]

/-- The groups of rows in another order, each read in its own way. -/
theorem map_groups_perm {β : Type*} {f f' : κ × List ρ → β} {rows' : List ρ}
    (hperm : rows.Perm rows')
    (h : ∀ k, f (k, rows.filter fun r => key r = k) = f' (k, rows'.filter fun r => key r = k)) :
    ((groups key rows).map f).Perm ((groups key rows').map f') := by
  have hmap : (groups key rows).map f =
      (distinct (rows.map key)).map fun k => f' (k, rows'.filter fun r => key r = k) := by
    rw [groups, List.map_map]
    exact List.map_congr_left fun k _ => h k
  have hmap' : (groups key rows').map f' =
      (distinct (rows'.map key)).map fun k => f' (k, rows'.filter fun r => key r = k) := by
    rw [groups, List.map_map]
    rfl
  rw [hmap, hmap']
  exact (distinct_perm (hperm.map key)).map _

/-! ## some keys -/

theorem distinct_filter (ks : List κ) (p : κ → Bool) :
    (distinct ks).filter p = distinct (ks.filter p) := by
  induction ks with
  | nil => rfl
  | cons k ks ih =>
      rw [distinct, List.filter_cons, List.filter_cons]
      have hcomm : ((distinct ks).filter fun j => j ≠ k).filter p =
          (distinct (ks.filter p)).filter fun j => j ≠ k := by
        rw [← ih, List.filter_filter, List.filter_filter]
        exact List.filter_congr fun j _ => Bool.and_comm _ _
      split
      · rw [distinct, hcomm]
      · case isFalse hk =>
          rw [hcomm, List.filter_eq_self]
          intro j hj
          have hpj : p j = true := (List.mem_filter.mp (mem_distinct.mp hj)).2
          refine decide_eq_true fun heq => hk ?_
          rw [← heq]
          exact hpj

theorem distinct_append (ks js : List κ) :
    distinct (ks ++ js) = distinct ks ++ (distinct js).filter (· ∉ ks) := by
  induction ks with
  | nil => simp [distinct]
  | cons k ks ih =>
      have hlater : ((distinct js).filter (· ∉ ks)).filter (· ≠ k) =
          (distinct js).filter (· ∉ k :: ks) := by
        rw [List.filter_filter]
        refine List.filter_congr fun j _ => ?_
        simp [not_or]
      rw [List.cons_append, distinct, ih, List.filter_append, hlater, distinct, List.cons_append]

/-- The groups of some keys are those of the rows with these keys. -/
theorem groups_filter (key : ρ → κ) (p : κ → Bool) (rows : List ρ) :
    (groups key rows).filter (fun g => p g.1) = groups key (rows.filter fun r => p (key r)) := by
  have hkeys : (rows.filter fun r => p (key r)).map key = (rows.map key).filter p := by
    rw [List.filter_map]
    rfl
  rw [groups, groups, hkeys, ← distinct_filter, List.filter_map]
  refine List.map_congr_left fun k hk => ?_
  have hpk : p k = true := (List.mem_filter.mp hk).2
  rw [List.filter_filter]
  refine congrArg (Prod.mk k) (List.filter_congr fun r _ => ?_)
  by_cases hr : key r = k
  · simp [hr, hpk]
  · simp [hr]

/-- The groups hold every row once. -/
theorem flatMap_groups_perm (key : ρ → κ) (rows : List ρ) :
    ((groups key rows).flatMap Prod.snd).Perm rows := by
  rw [groups, List.flatMap_map]
  exact flatMap_parts_perm key (nodup_distinct _) fun r hr =>
    mem_distinct.mpr (List.mem_map_of_mem hr)

theorem mem_groups_of_mem {r : ρ} (hr : r ∈ rows) :
    (key r, rows.filter fun s => key s = key r) ∈ groups key rows :=
  List.mem_map_of_mem (mem_distinct.mpr (List.mem_map_of_mem hr))

/-- Rows of one key are one group. -/
theorem groups_of_forall {k : κ} (hne : rows ≠ []) (h : ∀ r ∈ rows, key r = k) :
    groups key rows = [(k, rows)] := by
  have hself : rows.filter (fun r => key r = k) = rows :=
    List.filter_eq_self.mpr fun r hr => decide_eq_true (h r hr)
  have hkeys : distinct (rows.map key) = [k] := by
    refine List.perm_singleton.mp ((List.perm_ext_iff_of_nodup (nodup_distinct _)
      (List.nodup_singleton k)).mpr fun j => ?_)
    rw [mem_distinct, List.mem_map, List.mem_singleton]
    constructor
    · intro hj
      obtain ⟨r, hr, hrj⟩ := hj
      rw [← hrj, h r hr]
    · intro hj
      obtain ⟨r, hr⟩ := List.exists_mem_of_ne_nil rows hne
      exact ⟨r, hr, (h r hr).trans hj.symm⟩
  rw [groups, hkeys, List.map_singleton, hself]

/-! ## ascending keys -/

/-! ## counting a part of a table -/

section Part

variable {part : List ρ} {p q : ρ → Bool}

/-- Rows of a part are no more than those of the table. -/
theorem countP_le_of_subset (hpart : part.Nodup) (hsub : part ⊆ rows)
    (hpq : ∀ r ∈ part, p r = true → q r = true) : part.countP p ≤ rows.countP q := by
  rw [List.countP_eq_length_filter, List.countP_eq_length_filter]
  refine (List.subperm_of_subset (hpart.filter p) fun r hr => ?_).length_le
  rw [List.mem_filter] at hr ⊢
  exact ⟨hsub hr.1, hpq r hr.1 hr.2⟩

/-- A part has as many rows as the table exactly when it has them all. -/
theorem countP_eq_iff_of_subset (hpart : part.Nodup) (hrows : rows.Nodup) (hsub : part ⊆ rows)
    (hpq : ∀ r ∈ part, p r = true → q r = true) :
    part.countP p = rows.countP q ↔ ∀ r ∈ rows, q r = true → r ∈ part ∧ p r = true := by
  have hsub' : part.filter p ⊆ rows.filter q := by
    intro r hr
    rw [List.mem_filter] at hr ⊢
    exact ⟨hsub hr.1, hpq r hr.1 hr.2⟩
  rw [List.countP_eq_length_filter, List.countP_eq_length_filter]
  constructor
  · intro heq r hr hqr
    have hperm := (List.subperm_of_subset (hpart.filter p) hsub').perm_of_length_le heq.ge
    exact List.mem_filter.mp (hperm.mem_iff.mpr (List.mem_filter.mpr ⟨hr, hqr⟩))
  · intro hall
    have hperm : (part.filter p).Perm (rows.filter q) := by
      refine (List.perm_ext_iff_of_nodup (hpart.filter p) (hrows.filter q)).mpr fun r => ?_
      refine ⟨fun hr => hsub' hr, fun hr => ?_⟩
      rw [List.mem_filter] at hr
      exact List.mem_filter.mpr (hall r hr.1 hr.2)
    exact hperm.length_eq

end Part

section Ends

variable {σ : Type*} [Preorder σ] {start : κ → σ}
  (hsorted : rows.Pairwise fun r s => start (key r) ≤ start (key s))
include hsorted

/-- The group of the first row comes first. -/
theorem groups_first (hne : rows ≠ []) :
    ∃ g ∈ groups key rows, g.2.head? = rows.head? ∧
      ∀ g' ∈ groups key rows, start g.1 ≤ start g'.1 := by
  cases rows with
  | nil => exact absurd rfl hne
  | cons r rows =>
      refine ⟨_, mem_groups_of_mem List.mem_cons_self, by simp, ?_⟩
      intro g hg
      obtain ⟨s, hs⟩ := List.exists_mem_of_ne_nil _ (mem_groups hg).2
      obtain ⟨hmem, hkey⟩ := mem_of_mem_groups hg hs
      rw [← hkey]
      cases List.mem_cons.mp hmem with
      | inl hfirst => exact le_of_eq (by rw [hfirst])
      | inr hlater => exact (List.pairwise_cons.mp hsorted).1 s hlater

/-- The group of the last row comes last. -/
theorem groups_last (hne : rows ≠ []) :
    ∃ g ∈ groups key rows, g.2.getLast? = rows.getLast? ∧
      ∀ g' ∈ groups key rows, start g'.1 ≤ start g.1 := by
  cases rows using List.reverseRecOn with
  | nil => exact absurd rfl hne
  | append_singleton rows r =>
      refine ⟨_, mem_groups_of_mem (r := r) (by simp), by simp, ?_⟩
      intro g hg
      obtain ⟨s, hs⟩ := List.exists_mem_of_ne_nil _ (mem_groups hg).2
      obtain ⟨hmem, hkey⟩ := mem_of_mem_groups hg hs
      rw [← hkey]
      cases List.mem_append.mp hmem with
      | inl hearlier =>
          exact (List.pairwise_append.mp hsorted).2.2 s hearlier r (List.mem_singleton_self r)
      | inr hlast => exact le_of_eq (by rw [List.mem_singleton.mp hlast])

end Ends

end Table
