import Mathlib.Data.Multiset.Bind
import MorningstarModbus.Lib.Table

/-!
# Join

Joins of two tables, as loops over one and then the other.

* `flatMap_filter_comm` — a join has the same rows from either side;
* `filter_key` — the rows a unique column joins with.
-/

namespace Table

variable {ρ σ τ κ : Type*}

/-- The loops over two tables can be exchanged. -/
theorem flatMap_comm (rs : List ρ) (ss : List σ) (f : ρ → σ → List τ) :
    (rs.flatMap fun r => ss.flatMap (f r)).Perm (ss.flatMap fun s => rs.flatMap fun r => f r s) := by
  have hbind := Multiset.bind_bind (rs : Multiset ρ) (ss : Multiset σ)
    (f := fun r s => (f r s : Multiset τ))
  simp only [Multiset.coe_bind] at hbind
  exact Multiset.coe_eq_coe.mp hbind

/-- A `WHERE` inside a loop skips the rows it excludes. -/
theorem flatMap_filter_eq (p : ρ → Bool) (f : ρ → List τ) (rs : List ρ) :
    (rs.filter p).flatMap f = rs.flatMap fun r => if p r then f r else [] := by
  induction rs with
  | nil => rfl
  | cons r rs ih => by_cases hp : p r = true <;> simp [hp, ih]

/-- A join has the same rows from either side. -/
theorem flatMap_filter_comm (rs : List ρ) (ss : List σ) (on : ρ → σ → Bool) (f : ρ → σ → List τ) :
    (rs.flatMap fun r => (ss.filter (on r)).flatMap (f r)).Perm
      (ss.flatMap fun s => (rs.filter fun r => on r s).flatMap fun r => f r s) := by
  simp only [flatMap_filter_eq]
  exact flatMap_comm rs ss fun r s => if on r s then f r s else []

variable [DecidableEq κ] {key : ρ → κ} {rows : List ρ} {r : ρ}

/-- A unique column joins with one row. -/
theorem filter_key (h : Keyed key rows) (hr : r ∈ rows) :
    rows.filter (fun s => key s = key r) = [r] := by
  have hnodup : (rows.filter fun s => key s = key r).Nodup := (List.Nodup.of_map key h).filter _
  have hmem : ∀ s, s ∈ rows.filter (fun s => key s = key r) ↔ s ∈ [r] := by
    intro s
    simp only [List.mem_filter, decide_eq_true_eq, List.mem_singleton]
    constructor
    · intro hs
      exact h.eq hs.1 hr hs.2
    · intro hs
      rw [hs]
      exact ⟨hr, rfl⟩
  exact List.perm_singleton.mp
    ((List.perm_ext_iff_of_nodup hnodup (List.nodup_singleton r)).mpr hmem)

end Table
