import MorningstarModbus.Lib.Dict
import MorningstarModbus.Lib.Table

/-!
# Changes

Changes of value in a log: each row is of a key and gives it a value, or none.  A
change is a row whose key had another value in the row before.

* `mem_changes_iff_consecutive` — the changes are the pairs of consecutive rows of a
  key with differing values;
* `isChange_iff` — the changes of the later rows of a log are those changes of the log that
  have the row before them among these;
* `valueChanges` — the changes of value where rows that give none are passed over;
* `isChange_valued_iff` — what these have in common with the changes.
-/

namespace Changes

variable {α κ V τ : Type*} (key : α → κ) (value : α → Option V)

section Log

variable [DecidableEq κ]

/-- The changes of a log, with the values before; `last` is the last value of each key. -/
def changesFrom [DecidableEq V] (last : κ → Option V) : List α → List (α × V)
  | [] => []
  | row :: rows =>
      let rest := changesFrom (Function.update last (key row) (value row)) rows
      match last (key row) with
      | none => rest
      | some old => if value row = some old then rest else (row, old) :: rest

def changes [DecidableEq V] (rows : List α) : List (α × V) := changesFrom key value Dict.empty rows

/-- The last value of each key after some rows. -/
def lastValues (last : κ → Option V) (rows : List α) : κ → Option V :=
  rows.foldl (fun last row => Function.update last (key row) (value row)) last

variable {key value}

theorem changesFrom_sublist [DecidableEq V] (last : κ → Option V) (rows : List α) :
    ((changesFrom key value last rows).map Prod.fst).Sublist rows := by
  induction rows generalizing last with
  | nil => exact List.Sublist.refl []
  | cons row rows ih =>
      have hrest := ih (Function.update last (key row) (value row))
      rw [changesFrom]
      split
      · exact hrest.cons row
      · split_ifs
        · exact hrest.cons row
        · exact hrest.cons_cons row

/-- Where a row stands in a list: first, or in the rest. -/
theorem exists_split_cons {P : List α → List α → Prop} {first row : α} {rows : List α} :
    (∃ before after, first :: rows = before ++ row :: after ∧ P before after) ↔
      (row = first ∧ P [] rows) ∨
        ∃ before after, rows = before ++ row :: after ∧ P (first :: before) after := by
  constructor
  · intro h
    obtain ⟨before, after, hrows, hP⟩ := h
    cases before with
    | nil =>
        rw [List.nil_append, List.cons.injEq] at hrows
        exact .inl ⟨hrows.1.symm, hrows.2 ▸ hP⟩
    | cons b before =>
        rw [List.cons_append, List.cons.injEq] at hrows
        rw [← hrows.1] at hP
        exact .inr ⟨before, after, hrows.2, hP⟩
  · intro h
    cases h with
    | inl hfirst => exact ⟨[], rows, by rw [hfirst.1, List.nil_append], hfirst.2⟩
    | inr hrest =>
        obtain ⟨before, after, hrows, hP⟩ := hrest
        exact ⟨first :: before, after, by rw [hrows, List.cons_append], hP⟩

theorem mem_changesFrom [DecidableEq V] {last : κ → Option V} {rows : List α} {row : α}
    {old : V} :
    (row, old) ∈ changesFrom key value last rows ↔
      ∃ before after, rows = before ++ row :: after ∧
        (lastValues key value last before (key row) = some old ∧ value row ≠ some old) := by
  induction rows generalizing last with
  | nil => simp [changesFrom]
  | cons first rows ih =>
      have hrest : (row, old) ∈ changesFrom key value
          (Function.update last (key first) (value first)) rows ↔
          ∃ before after, rows = before ++ row :: after ∧
            (lastValues key value last (first :: before) (key row) = some old ∧
              value row ≠ some old) := ih
      rw [exists_split_cons, ← hrest, changesFrom]
      show _ ↔ (row = first ∧ last (key row) = some old ∧ value row ≠ some old) ∨ _
      cases hv : last (key first) with
      | none =>
          have hnot : ¬ (row = first ∧ last (key row) = some old ∧ value row ≠ some old) := by
            intro h
            rw [h.1, hv] at h
            cases h.2.1
          simp [hnot]
      | some v =>
          simp only
          split_ifs with hsame
          · have hnot : ¬ (row = first ∧ last (key row) = some old ∧ value row ≠ some old) := by
              intro h
              rw [h.1, hv] at h
              exact h.2.2 (hsame.trans h.2.1)
            simp [hnot]
          · rw [List.mem_cons, Prod.mk.injEq]
            refine or_congr_left ⟨fun h => ?_, fun h => ?_⟩
            · rw [h.1, h.2]
              exact ⟨rfl, hv, hsame⟩
            · have hlast := h.2.1
              rw [h.1, hv] at hlast
              exact ⟨h.1, (Option.some.inj hlast).symm⟩

/-- The last row of a key gives its value. -/
theorem lastValues_eq_some {rows : List α} {k : κ} {v : V} :
    lastValues key value Dict.empty rows k = some v ↔
      ∃ before row after, rows = before ++ row :: after ∧ key row = k ∧ value row = some v ∧
        ∀ r ∈ after, key r ≠ k := by
  induction rows using List.reverseRecOn with
  | nil => simp [lastValues]
  | append_singleton rows last ih =>
      rw [lastValues, List.foldl_append, List.foldl_cons, List.foldl_nil, ← lastValues]
      by_cases hk : key last = k
      · rw [← hk, Function.update_self]
        constructor
        · intro h
          exact ⟨rows, last, [], rfl, rfl, h, by simp⟩
        · intro h
          obtain ⟨before, row, after, hrows, -, hval, hafter⟩ := h
          cases after using List.reverseRecOn with
          | nil => rwa [(List.append_inj' hrows rfl).2 |> List.singleton_inj.mp]
          | append_singleton after r =>
              rw [← List.cons_append, ← List.append_assoc] at hrows
              have hr : last = r := List.singleton_inj.mp (List.append_inj' hrows rfl).2
              exact absurd (hr ▸ rfl) (hafter r (by simp))
      · rw [Function.update_of_ne (Ne.symm hk), ih]
        constructor
        · intro h
          obtain ⟨before, row, after, hrows, hrow, hval, hafter⟩ := h
          refine ⟨before, row, after ++ [last], by simp [hrows], hrow, hval, ?_⟩
          intro r hr
          rw [List.mem_append, List.mem_singleton] at hr
          cases hr with
          | inl hmem => exact hafter r hmem
          | inr heq => rwa [heq]
        · intro h
          obtain ⟨before, row, after, hrows, hrow, hval, hafter⟩ := h
          cases after using List.reverseRecOn with
          | nil =>
              rw [(List.append_inj' hrows rfl).2 |> List.singleton_inj.mp] at hk
              exact absurd hrow hk
          | append_singleton after r =>
              rw [← List.cons_append, ← List.append_assoc] at hrows
              exact ⟨before, row, after, (List.append_inj' hrows rfl).1, hrow, hval,
                fun s hs => hafter s (List.mem_append_left _ hs)⟩

/-- The changes of a log are the pairs of consecutive rows of a key with differing
values, the first of which is not null. -/
theorem mem_changes_iff_consecutive [DecidableEq V] {rows : List α} {row : α} {old : V} :
    (row, old) ∈ changes key value rows ↔
      ∃ before previous between after, rows = before ++ previous :: between ++ row :: after ∧
        key previous = key row ∧ (∀ r ∈ between, key r ≠ key row) ∧
        value previous = some old ∧ value row ≠ some old := by
  rw [changes, mem_changesFrom]
  constructor
  · intro h
    obtain ⟨before, after, hrows, hlast, hne⟩ := h
    obtain ⟨earlier, previous, between, hbefore, hkey, hval, hbetween⟩ :=
      lastValues_eq_some.mp hlast
    exact ⟨earlier, previous, between, after, by rw [hrows, hbefore], hkey, hbetween, hval, hne⟩
  · intro h
    obtain ⟨earlier, previous, between, after, hrows, hkey, hbetween, hval, hne⟩ := h
    exact ⟨earlier ++ previous :: between, after, hrows,
      lastValues_eq_some.mpr ⟨earlier, previous, between, rfl, hkey, hval, hbetween⟩, hne⟩

end Log

/-! ## logs in the order of a time -/

variable [LinearOrder τ] (time : α → τ)

/-- The row of a key before another one of the key in time. -/
structure Precedes (rows : List α) (p row : α) : Prop where
  mem : p ∈ rows
  key_eq : key p = key row
  lt : time p < time row
  latest : ∀ q ∈ rows, key q = key row → time q < time row → time q ≤ time p

/-- A row that has another value than the row of its key before it. -/
structure IsChange (rows : List α) (row : α) (old : V) : Prop where
  mem : row ∈ rows
  differs : value row ≠ some old
  previous : ∃ p, Precedes key time rows p row ∧ value p = some old

variable {key value time} {rows : List α} {row : α} {old : V}

theorem isChange_congr {rows' : List α} (h : ∀ r, r ∈ rows ↔ r ∈ rows') :
    IsChange key value time rows row old ↔ IsChange key value time rows' row old := by
  have hcongr : ∀ {rows rows' : List α}, (∀ r, r ∈ rows ↔ r ∈ rows') →
      IsChange key value time rows row old → IsChange key value time rows' row old := by
    intro rows rows' h hchange
    obtain ⟨p, hp, hval⟩ := hchange.previous
    exact ⟨(h row).mp hchange.mem, hchange.differs, p, ⟨(h p).mp hp.mem, hp.key_eq, hp.lt,
      fun q hq => hp.latest q ((h q).mpr hq)⟩, hval⟩
  exact ⟨hcongr h, hcongr fun r => (h r).symm⟩

/-- In a log in the order of time, where the rows of a key differ in time, changes depend
on the rows only. -/
theorem mem_changes_iff [DecidableEq κ] [DecidableEq V]
    (hsorted : rows.Pairwise fun a b => time a ≤ time b)
    (hkeyed : Table.Keyed (fun r => (key r, time r)) rows) :
    (row, old) ∈ changes key value rows ↔ IsChange key value time rows row old := by
  have hlt : rows.Pairwise fun a b => key a = key b → time a < time b := by
    have hne : rows.Pairwise fun a b => (key a, time a) ≠ (key b, time b) :=
      List.pairwise_map.mp hkeyed
    refine (hsorted.and hne).imp fun {a b} h hkey => lt_of_le_of_ne h.1 fun htime => ?_
    exact h.2 (by rw [hkey, htime])
  rw [mem_changes_iff_consecutive]
  constructor
  · intro h
    obtain ⟨before, p, between, after, hrows, hkey, hbetween, hval, hne⟩ := h
    rw [hrows, List.pairwise_append] at hlt hsorted
    have hp : p ∈ before ++ p :: between := List.mem_append_right _ List.mem_cons_self
    refine ⟨by simp [hrows], hne, p, ⟨by simp [hrows], hkey,
      hlt.2.2 p hp row List.mem_cons_self hkey, fun q hq hqkey hqtime => ?_⟩, hval⟩
    rw [hrows, List.mem_append, List.mem_append, List.mem_cons, List.mem_cons] at hq
    obtain (hbefore | rfl | hmid) | rfl | hafter := hq
    · exact (List.pairwise_append.mp hsorted.1).2.2 q hbefore p List.mem_cons_self
    · exact le_refl _
    · exact absurd hqkey (hbetween q hmid)
    · exact absurd hqtime (lt_irrefl _)
    · exact absurd hqtime (not_lt.mpr ((List.pairwise_cons.mp hsorted.2.1).1 q hafter))
  · intro h
    obtain ⟨p, ⟨hp, hkey, htime, hlatest⟩, hval⟩ := h.previous
    obtain ⟨before, after, hrows⟩ := List.append_of_mem h.mem
    rw [hrows, List.pairwise_append] at hlt hsorted
    have hpbefore : p ∈ before := by
      rw [hrows, List.mem_append, List.mem_cons] at hp
      obtain hbefore | rfl | hafter := hp
      · exact hbefore
      · exact absurd htime (lt_irrefl _)
      · exact absurd htime (not_lt.mpr ((List.pairwise_cons.mp hsorted.2.1).1 p hafter))
    obtain ⟨earlier, between, hbefore⟩ := List.append_of_mem hpbefore
    refine ⟨earlier, p, between, after, by rw [hrows, hbefore], hkey, fun q hq hqkey => ?_, hval,
      h.differs⟩
    have hqbefore : q ∈ before := by simp [hbefore, hq]
    have hqp : time p < time q := by
      have hltb := hlt.1
      rw [hbefore, List.pairwise_append] at hltb
      exact (List.pairwise_cons.mp hltb.2.1).1 q hq (hkey.trans hqkey.symm)
    have hqrow : time q < time row := hlt.2.2 q hqbefore row List.mem_cons_self hqkey
    exact absurd (hlatest q (by simp [hrows, hqbefore]) hqkey hqrow) (not_le.mpr hqp)

section Window

variable {window : List α} {p : α} (hsub : window ⊆ rows)
  (hlater : ∀ a ∈ window, ∀ b ∈ rows, time a < time b → b ∈ window)

include hsub hlater

/-- The row before a row, among the later rows of a log, is the row before it in the log. -/
theorem precedes_window_iff :
    Precedes key time window p row ↔ Precedes key time rows p row ∧ p ∈ window := by
  constructor
  · intro h
    refine ⟨⟨hsub h.mem, h.key_eq, h.lt, fun q hq hqkey hqtime => ?_⟩, h.mem⟩
    by_contra hnot
    exact hnot (h.latest q (hlater p h.mem q hq (not_le.mp hnot)) hqkey hqtime)
  · intro h
    exact ⟨h.2, h.1.key_eq, h.1.lt, fun q hq => h.1.latest q (hsub hq)⟩

/-- The changes of the later rows of a log are the changes of the log that have the row before
them among these rows. -/
theorem isChange_iff : IsChange key value time window row old ↔
    row ∈ rows ∧ value row ≠ some old ∧
      ∃ p ∈ window, Precedes key time rows p row ∧ value p = some old := by
  constructor
  · intro h
    obtain ⟨p, hp, hval⟩ := h.previous
    rw [precedes_window_iff hsub hlater] at hp
    exact ⟨hsub h.mem, h.differs, p, hp.2, hp.1, hval⟩
  · intro h
    obtain ⟨hrow, hdiffers, p, hp, hbefore, hval⟩ := h
    exact ⟨hlater p hp row hrow hbefore.lt, hdiffers, p,
      (precedes_window_iff hsub hlater).mpr ⟨hbefore, hp⟩, hval⟩

end Window

/-! ## changes of value -/

section Valued

/-- The rows that give their key a value. -/
def valued (value : α → Option V) (rows : List α) : List α :=
  rows.filter fun r => (value r).isSome

theorem mem_valued : row ∈ valued value rows ↔ row ∈ rows ∧ (value row).isSome := List.mem_filter

/-- The values of each key that differ from the one before, from the newest to the oldest, in a
log that starts with its newest row; rows without a value are passed over. -/
def valueChanges [DecidableEq κ] [DecidableEq V] (key : α → κ) (value : α → Option V) :
    List α → List (α × V)
  | [] => []
  | row :: older =>
      match value row, older.findSome? fun r => if key r = key row then value r else none with
      | some new, some old =>
          if new = old then valueChanges key value older
          else (row, old) :: valueChanges key value older
      | _, _ => valueChanges key value older

theorem valueChanges_sublist [DecidableEq κ] [DecidableEq V] (rows : List α) :
    ((valueChanges key value rows).map Prod.fst).Sublist rows := by
  induction rows with
  | nil => exact List.Sublist.refl []
  | cons row older ih =>
      rw [valueChanges]
      split
      · split_ifs
        · exact ih.cons row
        · exact ih.cons_cons row
      · exact ih.cons row

theorem mem_valueChanges [DecidableEq κ] [DecidableEq V] :
    (row, old) ∈ valueChanges key value rows ↔
      ∃ newer older, rows = newer ++ row :: older ∧
        ((value row).isSome ∧ value row ≠ some old ∧
          older.findSome? (fun r => if key r = key row then value r else none) = some old) := by
  induction rows with
  | nil => simp [valueChanges]
  | cons first rows ih =>
      rw [exists_split_cons (P := fun _ older => (value row).isSome ∧ value row ≠ some old ∧
        older.findSome? (fun r => if key r = key row then value r else none) = some old), ← ih,
        valueChanges]
      split
      · next new last hnew hlast =>
          split_ifs with hsame
          · refine (or_iff_right fun h => ?_).symm
            obtain ⟨rfl, -, hdiffers, hold⟩ := h
            exact hdiffers (hnew.trans (congrArg some hsame |>.trans (hlast.symm.trans hold)))
          · rw [List.mem_cons, Prod.mk.injEq]
            refine or_congr_left ⟨fun h => ?_, fun h => ?_⟩
            · obtain ⟨rfl, rfl⟩ := h
              exact ⟨rfl, by simp [hnew], fun h => hsame (Option.some.inj (hnew.symm.trans h)), hlast⟩
            · obtain ⟨rfl, -, -, hold⟩ := h
              exact ⟨rfl, Option.some.inj (hold.symm.trans hlast)⟩
      · next hnone =>
          refine (or_iff_right fun h => ?_).symm
          obtain ⟨rfl, hvalue, -, hold⟩ := h
          obtain ⟨new, hnew⟩ := Option.isSome_iff_exists.mp hvalue
          exact hnone new old hnew hold

/-- A key has one row before a row. -/
theorem Precedes.eq {p p' : α} (hkeyed : Table.Keyed (fun r => (key r, time r)) rows)
    (h : Precedes key time rows p row) (h' : Precedes key time rows p' row) : p = p' := by
  have htime : time p = time p' :=
    le_antisymm (h'.latest p h.mem h.key_eq h.lt) (h.latest p' h'.mem h'.key_eq h'.lt)
  exact hkeyed.eq h.mem h'.mem (by rw [h.key_eq, h'.key_eq, htime])

/-- Of the rows with a value too. -/
theorem Precedes.valued {p : α} (h : Precedes key time rows p row) (hvalue : (value p).isSome) :
    Precedes key time (valued value rows) p row :=
  ⟨mem_valued.mpr ⟨h.mem, hvalue⟩, h.key_eq, h.lt, fun q hq => h.latest q (mem_valued.mp hq).1⟩

section Sorted

variable [DecidableEq κ] (hsorted : rows.Pairwise fun a b => time b ≤ time a)
  (hkeyed : Table.Keyed (fun r => (key r, time r)) rows)

include hsorted hkeyed

/-- The last value among the older rows is the one of the row before. -/
theorem precedes_of_findSome {newer older : List α} (hrows : rows = newer ++ row :: older)
    (hold : older.findSome? (fun r => if key r = key row then value r else none) = some old) :
    ∃ p, Precedes key time (valued value rows) p row ∧ value p = some old := by
  obtain ⟨between, p, rest, holder, hp, hbetween⟩ := List.findSome?_eq_some_iff.mp hold
  have hkey : key p = key row := by
    by_contra hne
    rw [if_neg hne] at hp
    cases hp
  rw [if_pos hkey] at hp
  have hmem : p ∈ rows := by simp [hrows, holder]
  rw [hrows, holder, List.pairwise_append, List.pairwise_cons, List.pairwise_append,
    List.pairwise_cons] at hsorted
  obtain ⟨-, ⟨hrow, -, ⟨hrest, -⟩, -⟩, hnewer⟩ := hsorted
  have hlt : time p < time row := by
    refine lt_of_le_of_ne (hrow p (by simp)) fun htime => ?_
    rw [hrows, Table.Keyed, List.map_append, List.nodup_append, List.map_cons,
      List.nodup_cons] at hkeyed
    exact hkeyed.2.1.1 (List.mem_map.mpr ⟨p, by simp [holder], by rw [hkey, htime]⟩)
  refine ⟨p, ⟨mem_valued.mpr ⟨hmem, by simp [hp]⟩, hkey, hlt, fun q hq hqkey hqtime => ?_⟩, hp⟩
  obtain ⟨hqrows, hqvalue⟩ := mem_valued.mp hq
  rw [hrows, holder, List.mem_append, List.mem_cons, List.mem_append, List.mem_cons] at hqrows
  obtain hqnewer | rfl | hqbetween | rfl | hqrest := hqrows
  · exact absurd hqtime (not_lt.mpr (hnewer q hqnewer row List.mem_cons_self))
  · exact absurd hqtime (lt_irrefl _)
  · have hnone := hbetween q hqbetween
    rw [if_pos hqkey] at hnone
    simp [hnone] at hqvalue
  · exact le_refl _
  · exact hrest q hqrest

/-- The changes of value are the changes of the rows that give one. -/
theorem mem_valueChanges_iff [DecidableEq V] : (row, old) ∈ valueChanges key value rows ↔
    IsChange key value time (valued value rows) row old := by
  rw [mem_valueChanges]
  constructor
  · intro h
    obtain ⟨newer, older, hrows, hvalue, hdiffers, hold⟩ := h
    exact ⟨mem_valued.mpr ⟨by simp [hrows], hvalue⟩, hdiffers,
      precedes_of_findSome hsorted hkeyed hrows hold⟩
  · intro h
    obtain ⟨p, hp, hval⟩ := h.previous
    obtain ⟨hrow, hvalue⟩ := mem_valued.mp h.mem
    obtain ⟨newer, older, hrows⟩ := List.append_of_mem hrow
    have hpolder : p ∈ older := by
      have hprows := (mem_valued.mp hp.mem).1
      rw [hrows, List.mem_append, List.mem_cons] at hprows
      rw [hrows, List.pairwise_append] at hsorted
      obtain hnewer | rfl | hmem := hprows
      · exact absurd hp.lt (not_lt.mpr (hsorted.2.2 p hnewer row List.mem_cons_self))
      · exact absurd hp.lt (lt_irrefl _)
      · exact hmem
    cases hold : older.findSome? fun r => if key r = key row then value r else none with
    | none =>
        have hnone := List.findSome?_eq_none_iff.mp hold p hpolder
        rw [if_pos hp.key_eq, hval] at hnone
        cases hnone
    | some v =>
        obtain ⟨p', hp', hval'⟩ := precedes_of_findSome hsorted hkeyed hrows hold
        obtain rfl := hp.eq (hkeyed.filter _) hp'
        exact ⟨newer, older, hrows, hvalue, h.differs, hold.trans (hval'.symm.trans hval)⟩

end Sorted

/-- A change to a value is a change of value whose row before, of all rows, has a value. -/
theorem isChange_valued_iff (hkeyed : Table.Keyed (fun r => (key r, time r)) rows) {p : α}
    (hp : Precedes key time rows p row) :
    IsChange key value time (valued value rows) row old ∧ (value p).isSome ↔
      (row ∈ rows ∧ value row ≠ some old ∧ value p = some old) ∧ (value row).isSome := by
  constructor
  · intro h
    obtain ⟨p', hp', hval⟩ := h.1.previous
    obtain rfl := (hp.valued h.2).eq (hkeyed.filter _) hp'
    have hrow := mem_valued.mp h.1.mem
    exact ⟨⟨hrow.1, h.1.differs, hval⟩, hrow.2⟩
  · intro h
    obtain ⟨⟨hrow, hdiffers, hval⟩, hvalue⟩ := h
    have hsome : (value p).isSome := by simp [hval]
    exact ⟨⟨mem_valued.mpr ⟨hrow, hvalue⟩, hdiffers, p, hp.valued hsome, hval⟩, hsome⟩

end Valued

end Changes
