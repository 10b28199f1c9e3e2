import MorningstarModbus.Lib.Table

/-!
# Tally

Dictionaries that a loop fills: rows assigned under their keys (`d[key] = row`), and counters
(`counts[k] += 1`).

* `Assigned` — the rows are among those assigned, one for each key;
* `Tallied` — the counts are those of the items.

Neither reads the order of what was assigned or counted (`Assigned.keys_perm`,
`Tallied.perm`).
-/

namespace Table

variable {ρ κ : Type*}

/-! ## assignments -/

/-- `d[key] = new` -/
def assign [DecidableEq κ] (key : ρ → κ) (new : ρ) (rows : List ρ) : List ρ :=
  upsert key (fun _ new => new) new rows

/-- The rows that assignments leave. -/
structure Assigned (key : ρ → κ) (rows news : List ρ) : Prop where
  keyed : Keyed key rows
  subset : ∀ r ∈ rows, r ∈ news
  keys : ∀ new ∈ news, ∃ r ∈ rows, key r = key new

section Assigned

variable {key : ρ → κ} {rows rows' news news' : List ρ}

theorem Assigned.nil : Assigned key [] [] where
  keyed := keyed_nil key
  subset := by simp
  keys := by simp

/-- **Step lemma.**  The last assignment to a key counts, where the first one stood. -/
theorem Assigned.assign [DecidableEq κ] (h : Assigned key rows news) (new : ρ) :
    Assigned key (assign key new rows) (news ++ [new]) where
  keyed := h.keyed.upsert fun _ _ => rfl
  subset := by
    intro r hr
    rw [List.mem_append, List.mem_singleton]
    obtain ⟨rfl, -⟩ | ⟨old, -, -, rfl⟩ | ⟨hmem, -⟩ := mem_upsert hr
    · exact .inr rfl
    · exact .inr rfl
    · exact .inl (h.subset r hmem)
  keys := by
    intro other hother
    refine (exists_key_upsert fun _ _ => rfl).mpr ?_
    rw [List.mem_append, List.mem_singleton] at hother
    cases hother with
    | inl hmem => exact .inr (h.keys other hmem)
    | inr heq => exact .inl (congrArg key heq)

/-- The keys are those assigned. -/
theorem Assigned.mem_keys (h : Assigned key rows news) {k : κ} :
    k ∈ rows.map key ↔ k ∈ news.map key := by
  rw [List.mem_map, List.mem_map]
  constructor
  · intro hrow
    obtain ⟨r, hr, hk⟩ := hrow
    exact ⟨r, h.subset r hr, hk⟩
  · intro hnew
    obtain ⟨new, hmem, hk⟩ := hnew
    obtain ⟨r, hr, heq⟩ := h.keys new hmem
    exact ⟨r, hr, heq.trans hk⟩

/-- The order of the rows is no matter. -/
theorem Assigned.of_perm (h : Assigned key rows news) (hperm : rows'.Perm rows) :
    Assigned key rows' news where
  keyed := (hperm.map key).nodup_iff.mpr h.keyed
  subset := fun r hr => h.subset r (hperm.mem_iff.mp hr)
  keys := by
    intro new hnew
    obtain ⟨r, hr, hk⟩ := h.keys new hnew
    exact ⟨r, hperm.mem_iff.mpr hr, hk⟩

/-- The keys do not depend on the order of the assignments. -/
theorem Assigned.keys_perm (h : Assigned key rows news) (h' : Assigned key rows' news')
    (hperm : news'.Perm news) : (rows'.map key).Perm (rows.map key) := by
  refine (List.perm_ext_iff_of_nodup h'.keyed h.keyed).mpr fun k => ?_
  rw [h'.mem_keys, h.mem_keys]
  exact (hperm.map key).mem_iff

end Assigned

/-! ## counters -/

variable [DecidableEq κ]

/-- `counts[k] += 1` -/
def bump (k : κ) (counts : List (κ × Nat)) : List (κ × Nat) :=
  upsert Prod.fst (fun old new => (old.1, old.2 + new.2)) (k, 1) counts

/-- The counts of some items. -/
structure Tallied (counts : List (κ × Nat)) (items : List κ) : Prop where
  keyed : Keyed Prod.fst counts
  count : ∀ e ∈ counts, e.2 = items.count e.1
  mem : ∀ k, (∃ e ∈ counts, e.1 = k) ↔ k ∈ items

section Tallied

variable {counts counts' : List (κ × Nat)} {items items' : List κ}

theorem Tallied.nil : Tallied ([] : List (κ × Nat)) [] where
  keyed := keyed_nil _
  count := by simp
  mem := by simp

/-- **Step lemma.**  One more is counted. -/
theorem Tallied.bump (h : Tallied counts items) (k : κ) :
    Tallied (bump k counts) (items ++ [k]) where
  keyed := h.keyed.upsert fun _ hk => hk
  count := by
    intro e he
    rw [List.count_append, List.count_singleton]
    obtain ⟨rfl, hfresh⟩ | ⟨old, hold, hk, rfl⟩ | ⟨hmem, hne⟩ := mem_upsert he
    · have hnone : k ∉ items := by
        intro hitem
        obtain ⟨r, hr, hk⟩ := (h.mem k).mpr hitem
        exact hfresh r hr hk
      simp [List.count_eq_zero_of_not_mem hnone]
    · have hk : old.1 = k := hk
      simp [h.count old hold, hk]
    · have hne : k ≠ e.1 := Ne.symm hne
      simp [h.count e hmem, hne]
  mem := by
    intro j
    have hkeys : (∃ e ∈ Table.bump k counts, e.1 = j) ↔ j = k ∨ ∃ e ∈ counts, e.1 = j :=
      exists_key_upsert fun _ hk => hk
    rw [List.mem_append, List.mem_singleton, ← h.mem j]
    exact hkeys.trans or_comm

/-- The order of the counts is no matter. -/
theorem Tallied.of_perm (h : Tallied counts items) (hperm : counts'.Perm counts) :
    Tallied counts' items where
  keyed := (hperm.map Prod.fst).nodup_iff.mpr h.keyed
  count := fun e he => h.count e (hperm.mem_iff.mp he)
  mem := by
    intro k
    simp only [hperm.mem_iff]
    exact h.mem k

/-- The entry of an item. -/
theorem Tallied.mem_iff (h : Tallied counts items) {k : κ} {n : Nat} :
    (k, n) ∈ counts ↔ n = items.count k ∧ 0 < n := by
  constructor
  · intro hmem
    have hn := h.count _ hmem
    have hitem := (h.mem k).mp ⟨_, hmem, rfl⟩
    have hpos : 0 < items.count k := List.count_pos_iff.mpr hitem
    exact ⟨hn, hpos.trans_eq hn.symm⟩
  · intro hn
    obtain ⟨rfl, hpos⟩ := hn
    obtain ⟨e, he, rfl⟩ := (h.mem k).mpr (List.count_pos_iff.mp hpos)
    rw [← h.count e he]
    exact he

/-- The count that is looked up, zero where there is none. -/
theorem Tallied.lookup (h : Tallied counts items) (k : κ) :
    (counts.lookup k).getD 0 = items.count k := by
  by_cases hk : k ∈ items
  · have hmem := h.mem_iff.mpr ⟨rfl, List.count_pos_iff.mpr hk⟩
    rw [(mem_iff_lookup_eq h.keyed).mp hmem, Option.getD_some]
  · have hnone : counts.lookup k = none := by
      refine List.lookup_eq_none_iff.mpr fun e he => ?_
      have hne : ¬ k = e.1 := fun heq => hk ((h.mem k).mp ⟨e, he, heq.symm⟩)
      exact bne_iff_ne.mpr hne
    rw [hnone, Option.getD_none, List.count_eq_zero_of_not_mem hk]

/-- The counts do not depend on the order of the items. -/
theorem Tallied.perm (h : Tallied counts items) (h' : Tallied counts' items')
    (hperm : items'.Perm items) : counts'.Perm counts := by
  refine (List.perm_ext_iff_of_nodup h'.keyed.of_map h.keyed.of_map).mpr fun e => ?_
  obtain ⟨k, n⟩ := e
  rw [h.mem_iff, h'.mem_iff, hperm.count_eq]

end Tallied

end Table
