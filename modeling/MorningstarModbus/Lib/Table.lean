import Mathlib.Data.List.MinMax
import Mathlib.Data.List.Nodup
import Mathlib.Data.List.Perm.Basic
import Mathlib.Logic.Function.Basic

/-!
# Table

Relational tables as lists of rows in insertion order, with the statements a
program sends to one: `INSERT … ON CONFLICT (key) DO UPDATE` (`upsert`),
`UPDATE … WHERE` (`update`), the `SELECT` of one row by its key (`lookup`)
and the distinct keys of a `GROUP BY` (`distinct`).  A table of pairs under its
first column is a dictionary (`lookup_set_self`, `perm_of_lookup`).

A uniqueness constraint is `Keyed key rows`: no two rows share a key.  The
statements are total; the constraint is stated beside them, so that a model
decides itself where a statement that would break one fails.
-/

namespace Table

variable {ρ : Type*} {κ : Type*}

/-! ## keys -/

/-- The uniqueness constraint of a key column (or tuple of columns). -/
def Keyed (key : ρ → κ) (rows : List ρ) : Prop := (rows.map key).Nodup

instance [DecidableEq κ] (key : ρ → κ) (rows : List ρ) : Decidable (Keyed key rows) :=
  inferInstanceAs (Decidable (rows.map key).Nodup)

@[simp] theorem keyed_nil (key : ρ → κ) : Keyed key [] := List.nodup_nil

/-- Under a uniqueness constraint a key determines its row. -/
theorem Keyed.eq {key : ρ → κ} {rows : List ρ} (h : Keyed key rows) {r s : ρ}
    (hr : r ∈ rows) (hs : s ∈ rows) (hk : key r = key s) : r = s :=
  List.inj_on_of_nodup_map h hr hs hk

/-- A row with a new key may be appended. -/
theorem Keyed.append {key : ρ → κ} {rows : List ρ} (h : Keyed key rows) {new : ρ}
    (hnew : ∀ r ∈ rows, key r ≠ key new) : Keyed key (rows ++ [new]) := by
  unfold Keyed
  rw [List.map_append, List.nodup_append]
  refine ⟨h, by simp, ?_⟩
  intro a ha b hb
  obtain ⟨r, hr, rfl⟩ := List.mem_map.mp ha
  simp only [List.map_cons, List.map_nil, List.mem_singleton] at hb
  exact hb ▸ hnew r hr

/-- Deleting rows keeps a uniqueness constraint. -/
theorem Keyed.filter {key : ρ → κ} {rows : List ρ} (h : Keyed key rows) (p : ρ → Bool) :
    Keyed key (rows.filter p) :=
  List.Nodup.sublist (List.Sublist.map key List.filter_sublist) h

/-- Rewriting rows in place keeps a constraint when keys that agree
afterwards agreed before. -/
theorem Keyed.map_rows {key : ρ → κ} {rows : List ρ} (h : Keyed key rows) {f : ρ → ρ}
    (hf : ∀ r ∈ rows, ∀ s ∈ rows, key (f r) = key (f s) → key r = key s) :
    Keyed key (rows.map f) := by
  unfold Keyed at h ⊢
  rw [List.map_map]
  refine List.Nodup.map_on ?_ (List.Nodup.of_map key h)
  intro r hr s hs hrs
  exact Keyed.eq h hr hs (hf r hr s hs hrs)

/-- A column that determines the key is unique as well. -/
theorem Keyed.of_determines {κ' : Type*} {key : ρ → κ} {key' : ρ → κ'} {rows : List ρ}
    (h : Keyed key rows) (hdet : ∀ r ∈ rows, ∀ s ∈ rows, key' r = key' s → key r = key s) :
    Keyed key' rows := by
  have hrows : rows.Nodup := List.Nodup.of_map key h
  exact List.Nodup.map_on (fun r hr s hs hrs => h.eq hr hs (hdet r hr s hs hrs)) hrows

/-! ## update -/

/-- `UPDATE … SET … WHERE p`. -/
def update (p : ρ → Bool) (f : ρ → ρ) (rows : List ρ) : List ρ :=
  rows.map fun r => if p r then f r else r

section Update

variable {p : ρ → Bool} {f : ρ → ρ} {rows : List ρ}

/-- A row after an update is a changed row or one left alone. -/
theorem mem_update {x : ρ} :
    x ∈ update p f rows ↔ ∃ r ∈ rows, (p r = true ∧ x = f r) ∨ (p r = false ∧ x = r) := by
  simp only [update, List.mem_map]
  constructor
  · rintro ⟨r, hr, hx⟩
    refine ⟨r, hr, ?_⟩
    cases hp : p r <;> simp_all
  · rintro ⟨r, hr, ⟨hp, rfl⟩ | ⟨hp, rfl⟩⟩
    · exact ⟨r, hr, by simp [hp]⟩
    · exact ⟨x, hr, by simp [hp]⟩

/-- A column the assignment does not touch reads the same afterwards. -/
theorem map_update {β : Type*} {g : ρ → β} (hg : ∀ r, g (f r) = g r) :
    (update p f rows).map g = rows.map g := by
  rw [update, List.map_map]
  refine List.map_congr_left ?_
  intro r _
  cases hp : p r <;> simp [hp, hg]

/-- An update that leaves the keys alone keeps them unique. -/
theorem Keyed.update_of_key {key : ρ → κ} (h : Keyed key rows) (hf : ∀ r, key (f r) = key r) :
    Keyed key (update p f rows) := by
  unfold Keyed
  rw [map_update hf]
  exact h

/-- An update that only changes the keys of the rows it selects, into keys
no other row has, keeps the constraint. -/
theorem Keyed.update_rows {key : ρ → κ} (h : Keyed key rows)
    (hinj : ∀ r ∈ rows, ∀ s ∈ rows, p r = true → p s = true → key (f r) = key (f s) →
      key r = key s)
    (hfresh : ∀ r ∈ rows, ∀ s ∈ rows, p r = true → p s = false → key (f r) ≠ key s) :
    Keyed key (update p f rows) := by
  refine h.map_rows ?_
  intro r hr s hs hrs
  cases hpr : p r <;> cases hps : p s <;> simp only [hpr, hps, if_true, Bool.false_eq_true,
    if_false] at hrs
  · exact hrs
  · exact absurd hrs.symm (hfresh s hs r hr hps hpr)
  · exact absurd hrs (hfresh r hr s hs hpr hps)
  · exact hinj r hr s hs hpr hps hrs

end Update

/-! ## selecting by key -/

variable [DecidableEq κ]

/-- `SELECT … WHERE key = k`, for a unique key. -/
def lookup (key : ρ → κ) (k : κ) (rows : List ρ) : Option ρ :=
  rows.find? fun r => key r = k

/-- A row found under a key has it. -/
theorem mem_of_lookup {key : ρ → κ} {k : κ} {rows : List ρ} {r : ρ}
    (h : lookup key k rows = some r) : r ∈ rows ∧ key r = k := by
  refine ⟨List.mem_of_find?_eq_some h, ?_⟩
  simpa using List.find?_some h

/-- Nothing is found where no row has the key. -/
theorem lookup_eq_none_iff {key : ρ → κ} {k : κ} {rows : List ρ} :
    lookup key k rows = none ↔ ∀ r ∈ rows, key r ≠ k := by
  simp [lookup, List.find?_eq_none]

/-- With unique keys every row is found. -/
theorem lookup_of_mem {key : ρ → κ} {rows : List ρ} (h : Keyed key rows) {r : ρ}
    (hr : r ∈ rows) : lookup key (key r) rows = some r := by
  cases hl : lookup key (key r) rows with
  | none => exact absurd rfl (lookup_eq_none_iff.mp hl r hr)
  | some s =>
      obtain ⟨hs, hk⟩ := mem_of_lookup hl
      rw [h.eq hs hr hk]

/-- A lookup after an update is the update of the lookup. -/
theorem lookup_update {p : ρ → Bool} {f : ρ → ρ} {rows : List ρ} {key : ρ → κ} {k : κ}
    (hf : ∀ r, key (f r) = key r) :
    lookup key k (update p f rows) = (lookup key k rows).map fun r => if p r then f r else r := by
  rw [lookup, lookup, update, List.find?_map]
  congr 2
  funext r
  cases hp : p r <;> simp [hp, hf]

/-- Under the key of a row something is found. -/
theorem exists_lookup_of_mem (key : ρ → κ) {rows : List ρ} {r : ρ} (hr : r ∈ rows) :
    ∃ s, lookup key (key r) rows = some s := by
  cases hl : lookup key (key r) rows with
  | none => exact absurd rfl (lookup_eq_none_iff.mp hl r hr)
  | some s => exact ⟨s, rfl⟩

/-- A column an update does not touch is looked up as before. -/
theorem lookup_update_map {β : Type*} {g : ρ → β} {p : ρ → Bool} {f : ρ → ρ} {rows : List ρ}
    {key : ρ → κ} {k : κ} (hf : ∀ r, key (f r) = key r) (hg : ∀ r, g (f r) = g r) :
    (lookup key k (update p f rows)).map g = (lookup key k rows).map g := by
  have hrow : (g ∘ fun r => if p r then f r else r) = g := by
    funext r
    cases hp : p r <;> simp [hp, hg]
  rw [lookup_update hf, Option.map_map, hrow]

/-- Appending a row with a new key. -/
theorem lookup_append_map {β : Type*} {g : ρ → β} {rows : List ρ} {key : ρ → κ} {new : ρ}
    (hf : ∀ r ∈ rows, key r ≠ key new) :
    (fun k => (lookup key k (rows ++ [new])).map g) =
      Function.update (fun k => (lookup key k rows).map g) (key new) (some (g new)) := by
  funext k
  by_cases hk : k = key new
  · subst hk
    have hnone : lookup key (key new) rows = none := lookup_eq_none_iff.mpr hf
    rw [lookup] at hnone
    simp [lookup, List.find?_append, hnone]
  · have hne : ¬ key new = k := fun h => hk h.symm
    simp [lookup, List.find?_append, hne, hk]

/-- Deleting the rows of a key. -/
theorem lookup_delete {rows : List ρ} {key : ρ → κ} (o k : κ) :
    lookup key k (rows.filter fun r => key r ≠ o) = if k = o then none else lookup key k rows := by
  by_cases hk : k = o
  · rw [if_pos hk, lookup_eq_none_iff]
    intro r hr
    have hro : key r ≠ o := by simpa using (List.mem_filter.mp hr).2
    exact hk ▸ hro
  · rw [if_neg hk, lookup, lookup, List.find?_filter]
    congr 1
    funext r
    by_cases hr : key r = k
    · simp [hr, hk]
    · simp [hr]

/-! ## upsert -/

/-- `INSERT … ON CONFLICT (key) DO UPDATE`: a row with the new row's key
becomes `merge old new`; without one the new row is appended. -/
def upsert (key : ρ → κ) (merge : ρ → ρ → ρ) (new : ρ) (rows : List ρ) : List ρ :=
  if rows.any (fun r => key r = key new) then
    rows.map fun r => if key r = key new then merge r new else r
  else rows ++ [new]

section Upsert

variable {key : ρ → κ} {merge : ρ → ρ → ρ} {new : ρ} {rows : List ρ}

/-- Where the key is taken, an upsert merges. -/
theorem upsert_of_mem {old : ρ} (hold : old ∈ rows) (hk : key old = key new) :
    upsert key merge new rows = rows.map fun r => if key r = key new then merge r new else r := by
  have hany : rows.any (fun r => key r = key new) = true :=
    List.any_eq_true.mpr ⟨old, hold, by simpa using hk⟩
  rw [upsert, if_pos hany]

/-- Where it is free, it inserts. -/
theorem upsert_of_fresh (hf : ∀ r ∈ rows, key r ≠ key new) :
    upsert key merge new rows = rows ++ [new] := by
  have hany : ¬ rows.any (fun r => key r = key new) = true := by
    intro h
    obtain ⟨r, hr, hk⟩ := List.any_eq_true.mp h
    exact hf r hr (by simpa using hk)
  rw [upsert, if_neg hany]

/-- What an upsert leaves in the table: the new row, a merged row, or an
untouched row with another key. -/
theorem mem_upsert {x : ρ} (h : x ∈ upsert key merge new rows) :
    (x = new ∧ ∀ r ∈ rows, key r ≠ key new) ∨
      (∃ old ∈ rows, key old = key new ∧ x = merge old new) ∨
      (x ∈ rows ∧ key x ≠ key new) := by
  by_cases hc : ∃ old ∈ rows, key old = key new
  · obtain ⟨old, hold, hk⟩ := hc
    rw [upsert_of_mem hold hk] at h
    obtain ⟨r, hr, hx⟩ := List.mem_map.mp h
    by_cases hrk : key r = key new
    · rw [if_pos hrk] at hx
      exact .inr (.inl ⟨r, hr, hrk, hx.symm⟩)
    · rw [if_neg hrk] at hx
      subst hx
      exact .inr (.inr ⟨hr, hrk⟩)
  · have hf : ∀ r ∈ rows, key r ≠ key new := fun r hr hk => hc ⟨r, hr, hk⟩
    rw [upsert_of_fresh hf, List.mem_append, List.mem_singleton] at h
    rcases h with hx | rfl
    · exact .inr (.inr ⟨hx, hf x hx⟩)
    · exact .inl ⟨rfl, hf⟩

/-- After an upsert the key is present. -/
theorem exists_mem_upsert (rows : List ρ) (hm : ∀ r, key r = key new → key (merge r new) = key new) :
    ∃ x ∈ upsert key merge new rows, key x = key new ∧
      (x = new ∨ ∃ old ∈ rows, key old = key new ∧ x = merge old new) := by
  by_cases hc : ∃ old ∈ rows, key old = key new
  · obtain ⟨old, hold, hk⟩ := hc
    refine ⟨merge old new, ?_, hm old hk, .inr ⟨old, hold, hk, rfl⟩⟩
    rw [upsert_of_mem hold hk, List.mem_map]
    exact ⟨old, hold, by rw [if_pos hk]⟩
  · have hf : ∀ r ∈ rows, key r ≠ key new := fun r hr hk => hc ⟨r, hr, hk⟩
    refine ⟨new, ?_, rfl, .inl rfl⟩
    rw [upsert_of_fresh hf]
    simp

/-- Rows with another key are left alone. -/
theorem mem_upsert_of_ne {x : ρ} (hx : x ∈ rows) (hk : key x ≠ key new) :
    x ∈ upsert key merge new rows := by
  by_cases hc : ∃ old ∈ rows, key old = key new
  · obtain ⟨old, hold, hko⟩ := hc
    rw [upsert_of_mem hold hko, List.mem_map]
    exact ⟨x, hx, by rw [if_neg hk]⟩
  · rw [upsert_of_fresh fun r hr hk' => hc ⟨r, hr, hk'⟩]
    exact List.mem_append_left _ hx

/-- A projection that every merge keeps is never lost by an upsert. -/
theorem exists_mem_upsert_of_mem {β : Type*} {g : ρ → β} {x : ρ} (hx : x ∈ rows)
    (hg : ∀ old, key old = key new → g (merge old new) = g old) :
    ∃ y ∈ upsert key merge new rows, g y = g x := by
  by_cases hk : key x = key new
  · refine ⟨merge x new, ?_, hg x hk⟩
    rw [upsert_of_mem hx hk, List.mem_map]
    exact ⟨x, hx, by rw [if_pos hk]⟩
  · exact ⟨x, mem_upsert_of_ne hx hk, rfl⟩

/-- The keys after an upsert. -/
theorem exists_key_upsert (hm : ∀ r, key r = key new → key (merge r new) = key new) {k : κ} :
    (∃ x ∈ upsert key merge new rows, key x = k) ↔ k = key new ∨ ∃ x ∈ rows, key x = k := by
  constructor
  · rintro ⟨x, hx, hk⟩
    rcases mem_upsert hx with ⟨rfl, -⟩ | ⟨old, hold, hok, rfl⟩ | ⟨hx, -⟩
    · exact .inl hk.symm
    · exact .inl (hk.symm.trans (hm old hok))
    · exact .inr ⟨x, hx, hk⟩
  · rintro (rfl | ⟨x, hx, hk⟩)
    · obtain ⟨x, hx, hk, -⟩ := exists_mem_upsert rows hm
      exact ⟨x, hx, hk⟩
    · obtain ⟨y, hy, hyx⟩ := exists_mem_upsert_of_mem (g := key) hx
        fun old hold => (hm old hold).trans hold.symm
      exact ⟨y, hy, hyx.trans hk⟩

/-- An upsert keeps keys unique. -/
theorem Keyed.upsert (h : Keyed key rows)
    (hm : ∀ r, key r = key new → key (merge r new) = key new) :
    Keyed key (upsert key merge new rows) := by
  by_cases hc : ∃ old ∈ rows, key old = key new
  · obtain ⟨old, hold, hk⟩ := hc
    rw [upsert_of_mem hold hk]
    refine h.map_rows ?_
    intro r _ s _ hrs
    by_cases hr : key r = key new <;> by_cases hs : key s = key new <;>
      simp_all
  · have hf : ∀ r ∈ rows, key r ≠ key new := fun r hr hk => hc ⟨r, hr, hk⟩
    rw [upsert_of_fresh hf]
    exact h.append hf

/-- Other keys are not touched. -/
theorem lookup_upsert_of_ne {k : κ} (hk : k ≠ key new)
    (hm : ∀ r, key r = key new → key (merge r new) = key new) :
    lookup key k (upsert key merge new rows) = lookup key k rows := by
  by_cases hc : ∃ old ∈ rows, key old = key new
  · obtain ⟨old, hold, hko⟩ := hc
    rw [upsert_of_mem hold hko]
    clear hold
    induction rows with
    | nil => rfl
    | cons r rs ih =>
        simp only [lookup, List.map_cons, List.find?_cons] at ih ⊢
        by_cases hr : key r = key new
        · have hne : ¬ key new = k := fun h => hk h.symm
          rw [if_pos hr, hm r hr, hr]
          simp only [hne, decide_false]
          exact ih
        · rw [if_neg hr]
          by_cases hrk : key r = k
          · simp [hrk]
          · simp only [hrk, decide_false]
            exact ih
  · rw [upsert_of_fresh fun r hr hk' => hc ⟨r, hr, hk'⟩]
    have hne : ¬ key new = k := fun h => hk h.symm
    simp [lookup, List.find?_append, hne]

/-- An upsert seen through a column `g` that it sets to `v`. -/
theorem lookup_upsert_map {β : Type*} {g : ρ → β} {v : β}
    (hm : ∀ r, key r = key new → key (merge r new) = key new) (hnew : g new = v)
    (hmerge : ∀ r, key r = key new → g (merge r new) = v) :
    (fun k => (lookup key k (upsert key merge new rows)).map g) =
      Function.update (fun k => (lookup key k rows).map g) (key new) (some v) := by
  funext k
  by_cases hk : k = key new
  · subst hk
    obtain ⟨x, hx, hxk, -⟩ := exists_mem_upsert rows hm
    obtain ⟨s, hs⟩ := exists_lookup_of_mem key hx
    rw [hxk] at hs
    obtain ⟨hmem, hsk⟩ := mem_of_lookup hs
    have hgs : g s = v := by
      rcases mem_upsert hmem with ⟨rfl, -⟩ | ⟨old, -, hok, rfl⟩ | ⟨-, hne⟩
      · exact hnew
      · exact hmerge old hok
      · exact absurd hsk hne
    simp [hs, hgs]
  · rw [lookup_upsert_of_ne hk hm, Function.update_of_ne hk]

end Upsert

/-! ## statements that a constraint can refuse -/

/-- `INSERT OR IGNORE`, where `clash` says that a row and the new one break a
constraint together. -/
def insertOrIgnore (clash : ρ → Bool) (new : ρ) (rows : List ρ) : List ρ :=
  if rows.any clash then rows else rows ++ [new]

/-- A row that clashes with none is inserted. -/
theorem insertOrIgnore_of_free {clash : ρ → Bool} {new : ρ} {rows : List ρ}
    (h : ∀ r ∈ rows, clash r = false) : insertOrIgnore clash new rows = rows ++ [new] := by
  have hany : ¬ rows.any clash = true := by
    simpa using h
  rw [insertOrIgnore, if_neg hany]

/-- The first row of a key stays. -/
theorem lookup_insertOrIgnore (key : ρ → κ) (k : κ) (new : ρ) (rows : List ρ) :
    lookup key k (insertOrIgnore (fun r => key r = key new) new rows) =
      (lookup key k rows).or (if key new = k then some new else none) := by
  by_cases hany : rows.any (fun r => key r = key new) = true
  · rw [insertOrIgnore, if_pos hany]
    by_cases hk : key new = k
    · obtain ⟨r, hr, hrk⟩ := List.any_eq_true.mp hany
      obtain ⟨s, hs⟩ := exists_lookup_of_mem key hr
      rw [of_decide_eq_true hrk, hk] at hs
      simp [hs]
    · simp [hk]
  · rw [insertOrIgnore, if_neg hany]
    by_cases hk : key new = k
    · simp [lookup, List.find?_append, hk]
    · simp [lookup, List.find?_append, hk]

/-- Keys stay unique. -/
theorem Keyed.insertOrIgnore {key : ρ → κ} {rows : List ρ} (h : Keyed key rows) (new : ρ) :
    Keyed key (insertOrIgnore (fun r => key r = key new) new rows) := by
  by_cases hany : rows.any (fun r => key r = key new) = true
  · rwa [Table.insertOrIgnore, if_pos hany]
  · rw [Table.insertOrIgnore, if_neg hany]
    exact h.append (by simpa using hany)

/-- Rows inserted one after another. -/
theorem lookup_foldl_insertOrIgnore (key : ρ → κ) (k : κ) (new rows : List ρ) :
    lookup key k (new.foldl (fun rows n => insertOrIgnore (fun r => key r = key n) n rows) rows) =
      (lookup key k rows).or (lookup key k new) := by
  induction new generalizing rows with
  | nil => simp [lookup]
  | cons n new ih =>
      rw [List.foldl_cons, ih, lookup_insertOrIgnore, Option.or_assoc]
      congr 1
      by_cases hk : key n = k
      · simp [lookup, hk]
      · simp [lookup, hk]

/-- However many rows are inserted. -/
theorem Keyed.foldl_insertOrIgnore {key : ρ → κ} {rows : List ρ} (h : Keyed key rows)
    (new : List ρ) : Keyed key
      (new.foldl (fun rows n => Table.insertOrIgnore (fun r => key r = key n) n rows) rows) := by
  induction new generalizing rows with
  | nil => exact h
  | cons n new ih => exact ih (h.insertOrIgnore n)

/-- Under a key, a row is in its table where it is looked up. -/
theorem mem_iff_lookup {key : ρ → κ} {rows : List ρ} (h : Keyed key rows) {r : ρ} :
    r ∈ rows ↔ lookup key (key r) rows = some r :=
  ⟨lookup_of_mem h, fun hl => (mem_of_lookup hl).1⟩

section Refuse

variable {ε : Type*} {key : ρ → κ} {rows : List ρ}

/-- `INSERT` under a uniqueness constraint. -/
def insertUnique (err : ε) (key : ρ → κ) (new : ρ) (rows : List ρ) : Except ε (List ρ) :=
  if rows.any (fun r => key r = key new) then .error err else .ok (rows ++ [new])

/-- `UPDATE … SET … WHERE p` under a uniqueness constraint. -/
def updateUnique (err : ε) (key : ρ → κ) (p : ρ → Bool) (f : ρ → ρ) (rows : List ρ) :
    Except ε (List ρ) :=
  if Keyed key (update p f rows) then .ok (update p f rows) else .error err

/-- A fresh key can be inserted. -/
theorem insertUnique_ok {err : ε} {new : ρ} (h : ∀ r ∈ rows, key r ≠ key new) :
    insertUnique err key new rows = .ok (rows ++ [new]) := by
  have hany : ¬ rows.any (fun r => key r = key new) = true := by
    intro hc
    obtain ⟨r, hr, hk⟩ := List.any_eq_true.mp hc
    exact h r hr (by simpa using hk)
  rw [insertUnique, if_neg hany]

/-- An update that leaves keys unique does not raise. -/
theorem updateUnique_of_keyed (err : ε) {p : ρ → Bool} {f : ρ → ρ}
    (h : Keyed key (update p f rows)) :
    updateUnique err key p f rows = .ok (update p f rows) := by
  rw [updateUnique, if_pos h]

end Refuse

/-! ## distinct keys -/

/-- The distinct values of a column in the order of their first occurrence. -/
def distinct : List κ → List κ
  | [] => []
  | k :: ks => k :: (distinct ks).filter (· ≠ k)

theorem mem_distinct {k : κ} {ks : List κ} : k ∈ distinct ks ↔ k ∈ ks := by
  induction ks with
  | nil => rfl
  | cons j js ih =>
      simp only [distinct, List.mem_cons, List.mem_filter, decide_eq_true_eq, ih]
      by_cases h : k = j <;> simp [h]

/-- Equal items go. -/
theorem length_distinct_le (ks : List κ) : (distinct ks).length ≤ ks.length := by
  induction ks with
  | nil => exact le_refl _
  | cons j js ih =>
      rw [distinct, List.length_cons, List.length_cons]
      exact Nat.succ_le_succ ((List.length_filter_le _ _).trans ih)

theorem nodup_distinct (ks : List κ) : (distinct ks).Nodup := by
  induction ks with
  | nil => exact List.nodup_nil
  | cons j js ih =>
      rw [distinct, List.nodup_cons]
      exact ⟨by simp, ih.filter _⟩

/-! ## dictionaries -/

section Pairs

variable {κ α : Type*} [BEq κ] [LawfulBEq κ] {rows rows' : List (κ × α)} {k : κ} {v : α}

/-- An assignment is looked up behind those to other keys. -/
theorem lookup_cons_of_ne {r : κ × α} (h : k ≠ r.1) : (r :: rows).lookup k = rows.lookup k := by
  rw [List.lookup_cons, beq_eq_false_iff_ne.mpr h]

/-- What was set last is found. -/
theorem lookup_set_self [DecidableEq κ] (rows : List (κ × α)) (k : κ) (v : α) :
    (upsert Prod.fst (fun _ new => new) (k, v) rows).lookup k = some v := by
  by_cases hold : ∃ old ∈ rows, old.1 = k
  · obtain ⟨old, hmem, hold⟩ := hold
    rw [upsert_of_mem hmem hold]
    induction rows with
    | nil => cases hmem
    | cons r rows ih =>
        by_cases hr : r.1 = k
        · simp [hr]
        · have hmem : old ∈ rows := by grind
          rw [List.map_cons, if_neg hr, lookup_cons_of_ne (Ne.symm hr), ih hmem]
  · have hfresh : ∀ r ∈ rows, r.1 ≠ k := fun r hr hk => hold ⟨r, hr, hk⟩
    have hnone : rows.lookup k = none := List.lookup_eq_none_iff.mpr fun r hr => by
      simpa using (hfresh r hr).symm
    have happend : upsert Prod.fst (fun _ new => new) (k, v) rows = rows ++ [(k, v)] :=
      upsert_of_fresh hfresh
    simp [happend, List.lookup_append, hnone]

/-- Other keys keep their values. -/
theorem lookup_set_of_ne [DecidableEq κ] (rows : List (κ × α)) (v : α) {k k' : κ} (hk : k' ≠ k) :
    (upsert Prod.fst (fun _ new => new) (k, v) rows).lookup k' = rows.lookup k' := by
  have hmap : (rows.map fun r => if r.1 = k then (k, v) else r).lookup k' = rows.lookup k' := by
    induction rows with
    | nil => rfl
    | cons r rows ih =>
        rw [List.map_cons]
        by_cases hr : r.1 = k
        · rw [if_pos hr, lookup_cons_of_ne hk, lookup_cons_of_ne (hr ▸ hk), ih]
        · rw [if_neg hr, List.lookup_cons, List.lookup_cons, ih]
  have happend : (rows ++ [(k, v)]).lookup k' = rows.lookup k' := by
    rw [List.lookup_append, lookup_cons_of_ne hk, List.lookup_nil, Option.or_none]
  rw [upsert]
  split
  · exact hmap
  · exact happend

/-- With unique keys, to be a pair of the dictionary is to be looked up in it. -/
theorem mem_iff_lookup_eq (h : Keyed Prod.fst rows) : (k, v) ∈ rows ↔ rows.lookup k = some v := by
  induction rows with
  | nil => simp
  | cons r rows ih =>
      obtain ⟨k', v'⟩ := r
      simp only [Keyed, List.map_cons, List.nodup_cons] at h ih
      by_cases hk : k = k'
      · subst hk
        grind
      · simp [List.lookup_cons, beq_eq_false_iff_ne.mpr hk, hk, ih h.2]

/-- The order of the pairs is no matter to a lookup. -/
theorem lookup_eq_of_perm (h : Keyed Prod.fst rows) (hperm : rows.Perm rows') (k : κ) :
    rows.lookup k = rows'.lookup k := by
  have h' : Keyed Prod.fst rows' := (hperm.map Prod.fst).nodup_iff.mp h
  refine Option.ext fun v => ?_
  rw [← mem_iff_lookup_eq h, ← mem_iff_lookup_eq h', hperm.mem_iff]

/-- Dictionaries with the same lookups have the same pairs. -/
theorem perm_of_lookup (h : Keyed Prod.fst rows) (h' : Keyed Prod.fst rows')
    (hlookup : ∀ k, rows.lookup k = rows'.lookup k) : rows.Perm rows' := by
  refine (List.perm_ext_iff_of_nodup h.of_map h'.of_map).mpr fun r => ?_
  rw [mem_iff_lookup_eq h, mem_iff_lookup_eq h', hlookup]

end Pairs

end Table
