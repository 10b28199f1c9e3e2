import Mathlib.Data.List.Forall2
import MorningstarModbus.Lib.Query

/-!
# SameBut

Two tables of pairs with the same keys in the same order, that agree but for the
values at some keys: what two runs hold that differ in a part of their input only.

* `SameBut.upsert`, `SameBut.lookup_eq` — the operations of a dictionary;
* `map_eq_of_forall₂`, `filter_forall₂`, `orderBy_forall₂` — rows that are related row by row.
-/

namespace Table

variable {κ α β γ : Type*}

/-- The same keys in the same order, and the same values but at the keys `P`. -/
def SameBut (P : κ → Prop) (rows rows' : List (κ × α)) : Prop :=
  List.Forall₂ (fun r r' => r.1 = r'.1 ∧ (r.2 = r'.2 ∨ P r.1)) rows rows'

theorem SameBut.refl (P : κ → Prop) (rows : List (κ × α)) : SameBut P rows rows :=
  List.forall₂_same.mpr fun _ _ => ⟨rfl, .inl rfl⟩

section SameBut

variable {P : κ → Prop} {rows rows' : List (κ × α)}

/-- Two entries under one key, which may differ only where the key is in `P`. -/
theorem SameBut.upsert [DecidableEq κ] (h : SameBut P rows rows') {k : κ} {v v' : α}
    (hv : v = v' ∨ P k) :
    SameBut P (Table.upsert Prod.fst (fun _ new => new) (k, v) rows)
      (Table.upsert Prod.fst (fun _ new => new) (k, v') rows') := by
  have hany : (rows.any fun r => r.1 = k) = rows'.any fun r => r.1 = k := by
    induction h with
    | nil => rfl
    | cons hr _ ih => rw [List.any_cons, List.any_cons, hr.1, ih]
  unfold Table.upsert
  rw [hany]
  split
  · refine List.forall₂_map_left_iff.mpr (List.forall₂_map_right_iff.mpr (h.imp ?_))
    intro r r' hr
    by_cases hk : r.1 = k
    · rw [if_pos hk, if_pos (hr.1 ▸ hk)]
      exact ⟨rfl, hv⟩
    · rw [if_neg hk, if_neg (hr.1 ▸ hk)]
      exact hr
  · exact List.rel_append h (List.Forall₂.cons ⟨rfl, hv⟩ List.Forall₂.nil)

/-- The same keys are there. -/
theorem SameBut.lookup_isSome [BEq κ] (h : SameBut P rows rows') (k : κ) :
    (rows.lookup k).isSome = (rows'.lookup k).isSome := by
  induction h with
  | nil => rfl
  | cons hr _ ih =>
      rw [List.lookup_cons, List.lookup_cons, hr.1]
      split
      · rfl
      · exact ih

/-- What is looked up elsewhere is the same. -/
theorem SameBut.lookup_eq [BEq κ] [LawfulBEq κ] (h : SameBut P rows rows') {k : κ} (hk : ¬ P k) :
    rows.lookup k = rows'.lookup k := by
  induction h with
  | nil => rfl
  | @cons r r' _ _ hr _ ih =>
      rw [List.lookup_cons, List.lookup_cons, hr.1]
      split
      case h_1 heq =>
        rw [beq_iff_eq] at heq
        rw [hr.2.resolve_right (hr.1 ▸ heq ▸ hk)]
      case h_2 => exact ih

end SameBut

/-! ## rows related row by row -/

section Rows

variable {R : α → β → Prop} {rows : List α} {rows' : List β}

/-- What related rows have in common is the same list. -/
theorem map_eq_of_forall₂ {f : α → γ} {g : β → γ} (h : List.Forall₂ R rows rows')
    (hf : ∀ a b, R a b → f a = g b) : rows.map f = rows'.map g := by
  induction h with
  | nil => rfl
  | cons hr _ ih => rw [List.map_cons, List.map_cons, hf _ _ hr, ih]

/-- Tests that agree on related rows leave related rows. -/
theorem filter_forall₂ {p : α → Bool} {q : β → Bool} (h : List.Forall₂ R rows rows')
    (hp : ∀ a b, R a b → p a = q b) : List.Forall₂ R (rows.filter p) (rows'.filter q) := by
  induction h with
  | nil => exact List.Forall₂.nil
  | cons hr _ ih =>
      rw [List.filter_cons, List.filter_cons, hp _ _ hr]
      split
      · exact List.Forall₂.cons hr ih
      · exact ih

/-- Orders that agree on related rows insert at one place. -/
theorem orderedInsert_forall₂ {r : α → α → Prop} {r' : β → β → Prop} [DecidableRel r]
    [DecidableRel r'] {a : α} {b : β} (h : List.Forall₂ R rows rows') (hab : R a b)
    (hr : ∀ a b a' b', R a b → R a' b' → (r a a' ↔ r' b b')) :
    List.Forall₂ R (rows.orderedInsert r a) (rows'.orderedInsert r' b) := by
  induction h with
  | nil => exact List.Forall₂.cons hab List.Forall₂.nil
  | @cons a' b' _ _ hrow hrest ih =>
      rw [List.orderedInsert_cons, List.orderedInsert_cons]
      by_cases hle : r a a'
      · rw [if_pos hle, if_pos ((hr a b a' b' hab hrow).mp hle)]
        exact List.Forall₂.cons hab (List.Forall₂.cons hrow hrest)
      · rw [if_neg hle, if_neg fun hle' => hle ((hr a b a' b' hab hrow).mpr hle')]
        exact List.Forall₂.cons hrow ih

/-- Rows with the same keys, in the order of the keys. -/
theorem orderBy_forall₂ {ι : Type*} [LinearOrder ι] {key : α → ι} {key' : β → ι}
    (d : Query.Direction) (h : List.Forall₂ R rows rows') (hkey : ∀ a b, R a b → key a = key' b) :
    List.Forall₂ R (Query.orderBy key d rows) (Query.orderBy key' d rows') := by
  induction h with
  | nil => exact List.Forall₂.nil
  | cons hrow _ ih =>
      refine orderedInsert_forall₂ ih hrow fun a b a' b' hab hab' => ?_
      rw [Query.Ordered, Query.Ordered, hkey a b hab, hkey a' b' hab']

end Rows

end Table
