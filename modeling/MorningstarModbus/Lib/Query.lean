import Mathlib.Data.List.Perm.Basic
import Mathlib.Data.List.Sort
import MorningstarModbus.Lib.Table

/-!
# Query

`SELECT … ORDER BY key … LIMIT n` and the batches of a cursor.

Rows that tie in the order come as the engine meets them: a `Plan` is any such
choice.  Under a unique key no tie is left.

* `orderBy_eq_of_perm` — under a key the result depends on the rows only;
* `orderBy_filter`, `orderBy_map` — ordering commutes with both;
* `take_orderBy_eq_iff` — when some of the rows have the same first rows;
* `take_orderBy_eq_iff_ahead` — when other rows have the same first rows;
* `take_merge` — the first rows of a table are the first rows of the merge of
  its parts, each cut to as many;
* `flatten_batches` — the batches of a cursor are its rows.
-/

namespace Query

variable {α κ ι : Type*} [LinearOrder κ]

/-! ## ordering -/

inductive Direction where
  | asc
  | desc
  deriving DecidableEq

def Direction.le (d : Direction) (a b : κ) : Prop :=
  match d with
  | asc => a ≤ b
  | desc => b ≤ a

instance (d : Direction) (a b : κ) : Decidable (d.le a b) :=
  match d with
  | .asc => inferInstanceAs (Decidable (a ≤ b))
  | .desc => inferInstanceAs (Decidable (b ≤ a))

/-- Either direction is an order. -/
theorem Direction.le_antisymm {d : Direction} {a b : κ} (hab : d.le a b) (hba : d.le b a) :
    a = b := by
  cases d
  · exact Std.le_antisymm hab hba
  · exact Std.le_antisymm hba hab

/-- `a` comes no later than `b` under `ORDER BY key`. -/
def Ordered (key : α → κ) (d : Direction) (a b : α) : Prop := d.le (key a) (key b)

instance (key : α → κ) (d : Direction) : DecidableRel (Ordered key d) := fun a b =>
  inferInstanceAs (Decidable (d.le (key a) (key b)))

instance (key : α → κ) (d : Direction) : Std.Total (Ordered key d) where
  total a b := by
    cases d
    · exact Std.le_total
    · exact Std.le_total

instance (key : α → κ) (d : Direction) : IsTrans α (Ordered key d) where
  trans a b c hab hbc := by
    cases d
    · exact Std.le_trans hab hbc
    · exact Std.le_trans hbc hab

/-- `ORDER BY key` -/
def orderBy (key : α → κ) (d : Direction) (rows : List α) : List α :=
  rows.insertionSort (Ordered key d)

section OrderBy

variable (key : α → κ) (d : Direction) (rows : List α)

/-- Ordering keeps the rows. -/
theorem orderBy_perm : (orderBy key d rows).Perm rows := List.perm_insertionSort _ rows

@[simp] theorem mem_orderBy {r : α} : r ∈ orderBy key d rows ↔ r ∈ rows :=
  (orderBy_perm key d rows).mem_iff

@[simp] theorem length_orderBy : (orderBy key d rows).length = rows.length :=
  (orderBy_perm key d rows).length_eq

/-- And puts them in order. -/
theorem pairwise_orderBy : (orderBy key d rows).Pairwise (Ordered key d) :=
  List.pairwise_insertionSort _ rows

end OrderBy

variable {key : α → κ} {d : Direction} {rows : List α}

/-- Rows in order are the result of ordering them. -/
theorem eq_orderBy (hkey : Table.Keyed key rows) {sorted : List α} (hperm : sorted.Perm rows)
    (hsorted : sorted.Pairwise (Ordered key d)) : sorted = orderBy key d rows := by
  refine List.Perm.eq_of_pairwise ?_ hsorted (pairwise_orderBy key d rows)
    (hperm.trans (orderBy_perm key d rows).symm)
  intro a b ha hb hab hba
  exact hkey.eq (hperm.mem_iff.mp ha) ((mem_orderBy key d rows).mp hb)
    (Direction.le_antisymm hab hba)

/-- Where keys are unique there is one order. -/
theorem orderBy_eq_of_perm {rows' : List α} (hkey : Table.Keyed key rows)
    (hperm : rows'.Perm rows) : orderBy key d rows' = orderBy key d rows :=
  eq_orderBy hkey ((orderBy_perm key d rows').trans hperm) (pairwise_orderBy key d rows')

/-- Values in order depend on the values only. -/
theorem orderBy_id_perm {xs ys : List κ} (h : xs.Perm ys) : orderBy id d xs = orderBy id d ys := by
  refine List.Perm.eq_of_pairwise (fun a b _ _ hab hba => Direction.le_antisymm hab hba)
    (pairwise_orderBy id d xs) (pairwise_orderBy id d ys) ?_
  exact (orderBy_perm id d xs).trans (h.trans (orderBy_perm id d ys).symm)

/-- Filtering and ordering commute. -/
theorem orderBy_filter (hkey : Table.Keyed key rows) (p : α → Bool) :
    orderBy key d (rows.filter p) = (orderBy key d rows).filter p :=
  (eq_orderBy (hkey.filter p) ((orderBy_perm key d rows).filter p)
    ((pairwise_orderBy key d rows).filter p)).symm

/-- Rows that tie stay in their order. -/
theorem orderBy_ties (k : κ) :
    (orderBy key d rows).filter (fun r => key r = k) = rows.filter fun r => key r = k := by
  have hties : (rows.filter fun r => key r = k).Pairwise (Ordered key d) := by
    refine List.pairwise_of_forall_mem_list fun a ha b hb => ?_
    have hab : key a = key b := by
      rw [of_decide_eq_true (List.mem_filter.mp ha).2, of_decide_eq_true (List.mem_filter.mp hb).2]
    unfold Ordered
    rw [hab]
    cases d
    · exact le_refl (key b)
    · exact le_refl (key b)
  have hsub := (List.sublist_insertionSort hties List.filter_sublist).filter fun r => key r = k
  rw [List.filter_filter] at hsub
  simp only [Bool.and_self] at hsub
  exact (hsub.eq_of_length ((orderBy_perm key d rows).filter _).length_eq.symm).symm

/-- The first of rows that tie. -/
theorem find?_orderBy {p : α → Bool} {k : κ} (h : ∀ r ∈ rows, p r = true → key r = k) :
    (orderBy key d rows).find? p = rows.find? p := by
  have hfilter : ∀ rs : List α, (∀ r ∈ rs, p r = true → key r = k) →
      rs.find? p = (rs.filter fun r => key r = k).find? p := by
    intro rs hrs
    rw [List.find?_filter]
    induction rs with
    | nil => rfl
    | cons r rs ih =>
        rw [List.find?_cons, List.find?_cons, ih fun s hs => hrs s (List.mem_cons_of_mem r hs)]
        by_cases hp : p r = true
        · simp [hp, hrs r List.mem_cons_self hp]
        · simp [hp]
  rw [hfilter rows h, hfilter _ fun r hr => h r ((mem_orderBy key d rows).mp hr), orderBy_ties]

/-- A column of ordered rows, where the order is of that column. -/
theorem orderBy_map {β : Type*} {key : β → κ} (f : α → β) (d : Direction) (rows : List α) :
    orderBy key d (rows.map f) = (orderBy (key ∘ f) d rows).map f :=
  (List.map_insertionSort _ _ f rows fun _ _ _ _ => Iff.rfl).symm

/-! ### first and last -/

/-- The first row is a least one. -/
theorem head?_orderBy {r : α} (h : (orderBy key .asc rows).head? = some r) :
    r ∈ rows ∧ ∀ q ∈ rows, key r ≤ key q := by
  have hsorted := pairwise_orderBy key .asc rows
  obtain ⟨rest, hrest⟩ := List.head?_eq_some_iff.mp h
  have hmem : ∀ q, q ∈ rows ↔ q ∈ r :: rest := fun q => by rw [← hrest, mem_orderBy]
  rw [hrest, List.pairwise_cons] at hsorted
  refine ⟨(hmem r).mpr List.mem_cons_self, fun q hq => ?_⟩
  cases List.mem_cons.mp ((hmem q).mp hq) with
  | inl hfirst => exact le_of_eq (congrArg key hfirst.symm)
  | inr hlater => exact hsorted.1 q hlater

/-- The last row is a greatest one. -/
theorem getLast?_orderBy {r : α} (h : (orderBy key .asc rows).getLast? = some r) :
    r ∈ rows ∧ ∀ q ∈ rows, key q ≤ key r := by
  have hsorted := pairwise_orderBy key .asc rows
  obtain ⟨before, hbefore⟩ := List.getLast?_eq_some_iff.mp h
  have hmem : ∀ q, q ∈ rows ↔ q ∈ before ++ [r] := fun q => by rw [← hbefore, mem_orderBy]
  rw [hbefore, List.pairwise_append] at hsorted
  refine ⟨(hmem r).mpr (by simp), fun q hq => ?_⟩
  cases List.mem_append.mp ((hmem q).mp hq) with
  | inl hearlier => exact hsorted.2.2 q hearlier r (List.mem_singleton_self r)
  | inr hlast => exact le_of_eq (congrArg key (List.mem_singleton.mp hlast))

theorem orderBy_eq_nil : orderBy key d rows = [] ↔ rows = [] := by
  rw [← List.length_eq_zero_iff, length_orderBy, List.length_eq_zero_iff]

/-! ### least and greatest -/

/-- Where there is something there is a least. -/
theorem exists_min? {xs : List κ} (hne : xs ≠ []) :
    ∃ low, xs.min? = some low ∧ ∀ x ∈ xs, low ≤ x := by
  cases h : xs.min? with
  | none => exact absurd (List.min?_eq_none_iff.mp h) hne
  | some low => exact ⟨low, rfl, (List.min?_eq_some_iff.mp h).2⟩

/-- And a greatest. -/
theorem exists_max? {xs : List κ} (hne : xs ≠ []) :
    ∃ high, xs.max? = some high ∧ ∀ x ∈ xs, x ≤ high := by
  cases h : xs.max? with
  | none => exact absurd (List.max?_eq_none_iff.mp h) hne
  | some high => exact ⟨high, rfl, (List.max?_eq_some_iff.mp h).2⟩

/-- The least does not depend on the order. -/
theorem min?_perm {xs ys : List κ} (h : xs.Perm ys) : xs.min? = ys.min? := by
  refine Option.ext fun a => ?_
  rw [List.min?_eq_some_iff, List.min?_eq_some_iff, h.mem_iff]
  simp only [h.mem_iff]

/-- Nor does the greatest. -/
theorem max?_perm {xs ys : List κ} (h : xs.Perm ys) : xs.max? = ys.max? := by
  refine Option.ext fun a => ?_
  rw [List.max?_eq_some_iff, List.max?_eq_some_iff, h.mem_iff]
  simp only [h.mem_iff]

/-! ### ascending rows -/

/-- Rows with different keys in ascending order. -/
theorem orderBy_lt (hkey : Table.Keyed key rows) :
    (orderBy key .asc rows).Pairwise fun a b => key a < key b := by
  have hnodup : (orderBy key .asc rows).Pairwise fun a b => key a ≠ key b :=
    List.pairwise_map.mp (((orderBy_perm key .asc rows).map key).nodup_iff.mpr hkey)
  exact ((pairwise_orderBy key .asc rows).and hnodup).imp fun h => lt_of_le_of_ne h.1 h.2

/-- The rows before one of them in ascending order. -/
theorem filter_lt {before after : List α} {r : α}
    (hsorted : (before ++ r :: after).Pairwise fun a b => key a < key b) :
    (before ++ r :: after).filter (fun q => key q < key r) = before := by
  obtain ⟨-, hafter, hbefore⟩ := List.pairwise_append.mp hsorted
  have hearlier : before.filter (fun q => key q < key r) = before := by
    rw [List.filter_eq_self]
    intro q hq
    exact decide_eq_true (hbefore q hq r List.mem_cons_self)
  have hlater : (r :: after).filter (fun q => key q < key r) = [] := by
    rw [List.filter_eq_nil_iff]
    intro q hq hlt
    rw [decide_eq_true_eq] at hlt
    cases List.mem_cons.mp hq with
    | inl hfirst => exact lt_irrefl _ (hfirst ▸ hlt)
    | inr hmem => exact lt_asymm hlt ((List.pairwise_cons.mp hafter).1 q hmem)
  rw [List.filter_append, hearlier, hlater, List.append_nil]

/-- The order in which rows that tie are met. -/
structure Plan (α : Type*) where
  rows : List α → List α
  perm : ∀ rs, (rows rs).Perm rs

/-- Rows as they stand in their table. -/
def Plan.scan (α : Type*) : Plan α where
  rows := id
  perm := fun _ => .refl _

/-- The plan that meets one row first. -/
def Plan.first [DecidableEq α] (r : α) : Plan α where
  rows rs := if r ∈ rs then r :: rs.erase r else rs
  perm rs := by
    split
    · exact (List.perm_cons_erase ‹_›).symm
    · exact .refl _

/-! ## the first rows -/

/-- `LIMIT`, where given; a negative limit is none. -/
def limitRows (limit : Option Int) (rows : List α) : List α :=
  match limit with
  | none => rows
  | some n => if n < 0 then rows else rows.take n.toNat

@[simp] theorem limitRows_none (rows : List α) : limitRows none rows = rows := rfl

/-- A limit counts rows, whatever is made of them. -/
theorem limitRows_map {β : Type*} (limit : Option Int) (f : α → β) (rows : List α) :
    limitRows limit (rows.map f) = (limitRows limit rows).map f := by
  cases limit with
  | none => rfl
  | some n =>
      simp only [limitRows]
      split
      · rfl
      · exact List.map_take.symm

/-- One row more than `most` tells whether there are more than `most`. -/
theorem length_limitRows_le (most : Int) (rows : List α) :
    ((limitRows (some (most + 1)) rows).length : Int) ≤ most ↔ (rows.length : Int) ≤ most := by
  simp only [limitRows]
  split
  · rfl
  · rw [List.length_take]
    omega

/-- A limit of one more than there may be cuts nothing off. -/
theorem limitRows_of_le {most : Int} {rows : List α} (h : (rows.length : Int) ≤ most) :
    limitRows (some (most + 1)) rows = rows := by
  simp only [limitRows]
  split
  · rfl
  · exact List.take_of_length_le (by omega)

/-- What is among the first rows is among the first of those that pass. -/
theorem mem_take_filter {xs : List α} {p : α → Bool} {n : Nat} {x : α} (hx : x ∈ xs.take n)
    (hp : p x = true) : x ∈ (xs.filter p).take n := by
  induction xs generalizing n with
  | nil => simp at hx
  | cons y ys ih =>
      cases n with
      | zero => simp at hx
      | succ n =>
          rw [List.take_succ_cons, List.mem_cons] at hx
          by_cases hy : p y = true
          · rw [List.filter_cons_of_pos hy, List.take_succ_cons, List.mem_cons]
            exact hx.imp_right ih
          · rw [List.filter_cons_of_neg hy]
            cases hx with
            | inl heq => exact absurd (heq ▸ hp) hy
            | inr hmem => exact List.take_subset_take_left _ (Nat.le_succ n) (ih hmem)

/-- If all of the first pass a test, they are the first that do. -/
theorem take_filter_of_forall {xs : List α} {p : α → Bool} {n : Nat}
    (h : ∀ x ∈ xs.take n, p x = true) : (xs.filter p).take n = xs.take n := by
  induction xs generalizing n with
  | nil => simp
  | cons y ys ih =>
      cases n with
      | zero => simp
      | succ n =>
          rw [List.take_succ_cons] at h
          have hy : p y = true := h y List.mem_cons_self
          rw [List.filter_cons_of_pos hy, List.take_succ_cons, List.take_succ_cons,
            ih fun x hx => h x (List.mem_cons_of_mem y hx)]

/-- And only then. -/
theorem take_filter_iff {xs : List α} {p : α → Bool} {n : Nat} :
    (xs.filter p).take n = xs.take n ↔ ∀ x ∈ xs.take n, p x = true := by
  constructor
  · intro h x hx
    rw [← h] at hx
    exact (List.mem_filter.mp (List.mem_of_mem_take hx)).2
  · exact take_filter_of_forall

/-- A row that need not follow one of the first rows is one of them. -/
theorem mem_take_of_not {xs : List α} {R : α → α → Prop} (hxs : xs.Pairwise R) {x y : α} {n : Nat}
    (hx : x ∈ xs.take n) (hy : y ∈ xs) (hnot : ¬ R x y) : y ∈ xs.take n := by
  rw [← List.take_append_drop n xs, List.mem_append] at hy
  rw [← List.take_append_drop n xs, List.pairwise_append] at hxs
  exact hy.resolve_right fun hdrop => hnot (hxs.2.2 x hx y hdrop)

/-- Some of the rows have the same first rows exactly when they include these. -/
theorem take_orderBy_eq_iff (hkey : Table.Keyed key rows) {some : List α} (hnodup : some.Nodup)
    (hsub : some ⊆ rows) (n : Nat) :
    (orderBy key d some).take n = (orderBy key d rows).take n ↔
      ∀ r ∈ (orderBy key d rows).take n, r ∈ some := by
  classical
  have hperm : some.Perm (rows.filter fun r => r ∈ some) := by
    rw [List.perm_ext_iff_of_nodup hnodup (hkey.of_map.filter _)]
    intro r
    simpa using @hsub r
  have horder : orderBy key d some = (orderBy key d rows).filter fun r => r ∈ some := by
    rw [orderBy_eq_of_perm (hkey.filter _) hperm, orderBy_filter hkey]
  simp [horder, take_filter_iff]

/-! ### rows ahead of a row -/

/-- The rows that come before a row. -/
def ahead (key : α → κ) (d : Direction) (rows : List α) (r : α) : List α :=
  rows.filter fun s => ¬ Ordered key d r s

/-- Who is ahead of a row is strictly so. -/
theorem mem_ahead {r s : α} : s ∈ ahead key d rows r ↔ s ∈ rows ∧ ¬ Ordered key d r s := by
  simp [ahead]

/-- What is ahead of a row is ahead of the rows behind it. -/
theorem ahead_subset {r s : α} (h : ¬ Ordered key d r s) :
    ahead key d rows s ⊆ ahead key d rows r := by
  intro t ht
  rw [mem_ahead] at ht ⊢
  exact ⟨ht.1, fun hrt => ht.2 (IsTrans.trans _ _ _ ((total_of (Ordered key d) r s).resolve_left h) hrt)⟩

/-- The first rows are ahead of the others. -/
theorem take_subset_ahead {some : List α} {x : α} {n : Nat} (hkey : Table.Keyed key some)
    (hx : x ∈ some) (hbehind : x ∉ (orderBy key d some).take n) :
    (orderBy key d some).take n ⊆ ahead key d some x := by
  intro y hy
  have hmem : y ∈ some := (mem_orderBy _ _ _).mp (List.mem_of_mem_take hy)
  have hyx : Ordered key d y x := by
    by_contra hnot
    exact hbehind (mem_take_of_not (pairwise_orderBy _ _ _) hy ((mem_orderBy _ _ _).mpr hx) hnot)
  refine mem_ahead.mpr ⟨hmem, fun hxy => ?_⟩
  obtain rfl := hkey.eq hx hmem (Direction.le_antisymm hxy hyx)
  exact hbehind hy

/-- If a row is cut off there are as many as the limit. -/
theorem length_take_of_notMem {some : List α} {x : α} {n : Nat} (hx : x ∈ some)
    (hbehind : x ∉ (orderBy key d some).take n) : ((orderBy key d some).take n).length = n := by
  rw [List.length_take, min_eq_left]
  by_contra hshort
  rw [List.take_of_length_le (le_of_not_ge hshort)] at hbehind
  exact hbehind ((mem_orderBy _ _ _).mpr hx)

/-- A row that has `n` rows ahead of it is not among the first `n`. -/
theorem length_ahead_lt {r : α} {n : Nat} (hkey : Table.Keyed key rows)
    (hr : r ∈ (orderBy key d rows).take n) : (ahead key d rows r).length < n := by
  have hsub : r :: ahead key d rows r ⊆ (orderBy key d rows).take n := by
    intro s hs
    rw [List.mem_cons, mem_ahead] at hs
    obtain rfl | hs := hs
    · exact hr
    · exact mem_take_of_not (pairwise_orderBy _ _ _) hr ((mem_orderBy _ _ _).mpr hs.1) hs.2
  have hnodup : (r :: ahead key d rows r).Nodup := by
    refine List.nodup_cons.mpr ⟨fun h => (mem_ahead.mp h).2 ?_, hkey.of_map.filter _⟩
    exact refl_of (Ordered key d) r
  exact (List.subperm_of_subset hnodup hsub).length_le.trans (List.length_take_le _ _)

section Ahead

variable {some : List α} (hkey : Table.Keyed key rows) (hkey' : Table.Keyed key some) (n : Nat)

/-- The first rows of a table with unique keys differ. -/
theorem nodup_take_orderBy (hkey : Table.Keyed key rows) : ((orderBy key d rows).take n).Nodup :=
  ((orderBy_perm key d rows).nodup_iff.mpr hkey.of_map).sublist (List.take_sublist n _)

include hkey

/-- First rows that are the same in some order are the same. -/
theorem take_orderBy_eq_of_perm
    (hperm : ((orderBy key d some).take n).Perm ((orderBy key d rows).take n)) :
    (orderBy key d some).take n = (orderBy key d rows).take n := by
  refine List.Perm.eq_of_pairwise (fun a b ha hb hab hba => ?_)
    ((pairwise_orderBy key d some).sublist (List.take_sublist n _))
    ((pairwise_orderBy key d rows).sublist (List.take_sublist n _)) hperm
  have hmem : ∀ r ∈ (orderBy key d rows).take n, r ∈ rows := fun r hr =>
    (mem_orderBy key d rows).mp (List.mem_of_mem_take hr)
  exact hkey.eq (hmem a (hperm.mem_iff.mp ha)) (hmem b hb) (Direction.le_antisymm hab hba)

include hkey'

/-- The first rows come first among other rows that include them, where the rows these have in
addition are behind `n` of the rows. -/
theorem take_orderBy_subset (hfirst : ∀ r ∈ (orderBy key d rows).take n, r ∈ some)
    (hahead : ∀ x ∈ some, x ∉ rows → n ≤ (ahead key d rows x).length) :
    (orderBy key d rows).take n ⊆ (orderBy key d some).take n := by
  intro r hr
  by_contra hbehind
  have hsub : r :: (orderBy key d some).take n ⊆ (orderBy key d rows).take n := by
    intro y hy
    cases List.mem_cons.mp hy with
    | inl heq => rwa [heq]
    | inr hy =>
        obtain ⟨hys, hyr⟩ := mem_ahead.mp (take_subset_ahead hkey' (hfirst r hr) hbehind hy)
        have hmem : y ∈ rows := by
          by_contra hnot
          have hle := (List.subperm_of_subset (hkey.of_map.filter _) (ahead_subset hyr)).length_le
          exact absurd (length_ahead_lt hkey hr) (not_lt.mpr ((hahead y hys hnot).trans hle))
        exact mem_take_of_not (pairwise_orderBy key d rows) hr
          ((mem_orderBy key d rows).mpr hmem) hyr
  have hnodup := List.nodup_cons.mpr ⟨hbehind, nodup_take_orderBy n hkey'⟩
  have hle := (List.subperm_of_subset hnodup hsub).length_le
  rw [List.length_cons, length_take_of_notMem (hfirst r hr) hbehind] at hle
  exact absurd (hle.trans (List.length_take_le _ _)) (Nat.not_succ_le_self n)

/-- Other rows have the same first `n` rows exactly when they include these and each row they
have in addition is behind `n` of the rows. -/
theorem take_orderBy_eq_iff_ahead :
    (orderBy key d some).take n = (orderBy key d rows).take n ↔
      (∀ r ∈ (orderBy key d rows).take n, r ∈ some) ∧
        ∀ x ∈ some, x ∉ rows → n ≤ (ahead key d rows x).length := by
  constructor
  · intro h
    refine ⟨fun r hr => ?_, fun x hx hnot => ?_⟩
    · rw [← h] at hr
      exact (mem_orderBy key d some).mp (List.mem_of_mem_take hr)
    · have hbehind : x ∉ (orderBy key d some).take n := fun hmem => by
        rw [h] at hmem
        exact hnot ((mem_orderBy key d rows).mp (List.mem_of_mem_take hmem))
      have hsub : (orderBy key d some).take n ⊆ ahead key d rows x := by
        intro y hy
        have hrows : y ∈ (orderBy key d rows).take n := h ▸ hy
        exact mem_ahead.mpr ⟨(mem_orderBy key d rows).mp (List.mem_of_mem_take hrows),
          (mem_ahead.mp (take_subset_ahead hkey' hx hbehind hy)).2⟩
      rw [← length_take_of_notMem hx hbehind]
      exact (List.subperm_of_subset (nodup_take_orderBy n hkey') hsub).length_le
  · intro h
    have hfirst := take_orderBy_subset hkey hkey' n h.1 h.2
    have hlength : ((orderBy key d some).take n).length ≤ ((orderBy key d rows).take n).length := by
      by_cases hmany : n ≤ rows.length
      · simp [hmany]
      · have hsub : some ⊆ rows := by
          intro x hx
          by_contra hnot
          exact hmany ((h.2 x hx hnot).trans (List.length_filter_le _ _))
        have hle := (List.subperm_of_subset hkey'.of_map hsub).length_le
        simp only [List.length_take, length_orderBy]
        omega
    exact take_orderBy_eq_of_perm hkey n
      ((List.subperm_of_subset (nodup_take_orderBy n hkey) hfirst).perm_of_length_le hlength).symm

end Ahead

/-! ## merging parts -/

variable [DecidableEq ι] (part : α → ι) {ids : List ι}

/-- The parts of a table, one after another. -/
theorem flatMap_parts_perm (hids : ids.Nodup) (hrows : ∀ r ∈ rows, part r ∈ ids) :
    (ids.flatMap fun i => rows.filter fun r => part r = i).Perm rows := by
  induction ids generalizing rows with
  | nil =>
      have hnil : rows = [] := List.eq_nil_iff_forall_not_mem.mpr fun r hr => by
        simpa using hrows r hr
      simp [hnil]
  | cons i ids ih =>
      rw [List.nodup_cons] at hids
      have hrest : ∀ j ∈ ids, (rows.filter fun r => part r = j) =
          (rows.filter fun r => !decide (part r = i)).filter fun r => part r = j := by
        intro j hj
        rw [List.filter_filter]
        refine List.filter_congr fun r _ => ?_
        by_cases hr : part r = j
        · have hne : j ≠ i := fun h => hids.1 (h ▸ hj)
          simp [hr, hne]
        · simp [hr]
      rw [List.flatMap_cons, List.flatMap_congr hrest]
      have hother : ∀ r ∈ rows.filter (fun r => !decide (part r = i)), part r ∈ ids := by
        intro r hr
        rw [List.mem_filter] at hr
        have hmem := hrows r hr.1
        simp only [List.mem_cons] at hmem
        exact hmem.resolve_left (by simpa using hr.2)
      exact ((ih hids.2 hother).append_left _).trans (List.filter_append_perm _ rows)

/-- A table in order, from its parts in order. -/
theorem orderBy_merge (hkey : Table.Keyed key rows) (hids : ids.Nodup)
    (hrows : ∀ r ∈ rows, part r ∈ ids) (d' : Direction) :
    orderBy key d (ids.flatMap fun i => orderBy key d' (rows.filter fun r => part r = i)) =
      orderBy key d rows := by
  refine orderBy_eq_of_perm hkey (List.Perm.trans ?_ (flatMap_parts_perm part hids hrows))
  exact List.Perm.flatMap_left ids fun i _ => orderBy_perm key d' _

/-- The first rows of a table, from the first rows of its parts. -/
theorem take_merge (hkey : Table.Keyed key rows) (hids : ids.Nodup)
    (hrows : ∀ r ∈ rows, part r ∈ ids) (n : Nat) :
    (orderBy key d (ids.flatMap fun i =>
      (orderBy key d (rows.filter fun r => part r = i)).take n)).take n =
        (orderBy key d rows).take n := by
  obtain ⟨sorted, hsorted⟩ : ∃ sorted, sorted = orderBy key d rows := ⟨_, rfl⟩
  obtain ⟨firsts, hfirsts⟩ : ∃ firsts, firsts = ids.flatMap fun i =>
    (orderBy key d (rows.filter fun r => part r = i)).take n := ⟨_, rfl⟩
  have hpart : ∀ i, orderBy key d (rows.filter fun r => part r = i) =
      sorted.filter fun r => part r = i := fun i => by
    rw [hsorted, orderBy_filter hkey]
  have hmem : ∀ r, r ∈ firsts ↔ ∃ i ∈ ids, r ∈ (sorted.filter fun r => part r = i).take n := by
    simp [hfirsts, hpart]
  have hsub : firsts ⊆ rows := by
    intro r hr
    obtain ⟨i, -, htake⟩ := (hmem r).mp hr
    have hsort : r ∈ sorted := List.mem_of_mem_filter (List.mem_of_mem_take htake)
    rwa [hsorted, mem_orderBy] at hsort
  have hnodup : firsts.Nodup := by
    have hrows : rows.Nodup := hkey.of_map
    rw [hfirsts, List.nodup_flatMap]
    constructor
    · intro i _
      exact ((orderBy_perm key d _).nodup_iff.mpr (hrows.filter _)).sublist
        (List.take_sublist n _)
    · refine hids.imp fun {i j} hij r hi hj => hij ?_
      have hri := (mem_orderBy key d _).mp (List.mem_of_mem_take hi)
      have hrj := (mem_orderBy key d _).mp (List.mem_of_mem_take hj)
      rw [List.mem_filter, decide_eq_true_eq] at hri hrj
      exact hri.2.symm.trans hrj.2
  rw [← hfirsts, take_orderBy_eq_iff hkey hnodup hsub, ← hsorted]
  intro r hr
  have hrow : r ∈ rows := by
    have hsort := List.mem_of_mem_take hr
    rwa [hsorted, mem_orderBy] at hsort
  rw [hmem]
  exact ⟨part r, hrows r hrow, mem_take_filter hr (by simp)⟩

/-! ## fetching in batches -/

/-- `fetchmany(size)`, and the rows it leaves: it stops when it has counted up
to `size`, so a size that is not positive fetches all. -/
def fetchmany (size : Int) (rows : List α) : List α × List α :=
  if 0 < size then rows.splitAt size.toNat else (rows, [])

/-- A batch and what is left are the rows. -/
theorem fetchmany_append (size : Int) (rows : List α) :
    (fetchmany size rows).1 ++ (fetchmany size rows).2 = rows := by
  unfold fetchmany
  split
  · rw [List.splitAt_eq]
    exact List.take_append_drop _ rows
  · exact List.append_nil rows

/-- A batch takes a row at least. -/
theorem length_fetchmany_lt (size : Int) (row : α) (rows : List α) :
    (fetchmany size (row :: rows)).2.length < (row :: rows).length := by
  unfold fetchmany
  split
  · rw [List.splitAt_eq, List.length_drop, List.length_cons]
    omega
  · simp

/-- The batches until one is empty. -/
def batches (size : Int) : List α → List (List α)
  | [] => []
  | row :: rows =>
      (fetchmany size (row :: rows)).1 :: batches size (fetchmany size (row :: rows)).2
termination_by rows => rows.length
decreasing_by exact length_fetchmany_lt size row rows

/-- All batches together are the rows, in their order. -/
theorem flatten_batches (size : Int) (rows : List α) : (batches size rows).flatten = rows := by
  induction rows using batches.induct size with
  | case1 => simp [batches]
  | case2 row rows ih => rw [batches, List.flatten_cons, ih, fetchmany_append]

end Query
