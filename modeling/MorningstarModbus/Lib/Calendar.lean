import Mathlib.Logic.Function.Iterate
import Mathlib.Order.Monotone.Basic

/-!
# Calendar

Days of the proleptic Gregorian calendar, counted from 1970-01-01.

* `ofDay` — the date of the `n`-th day;
* `ofDay_injective` — different days have different dates.
-/

namespace Calendar

/-- Milliseconds of one UTC day. -/
def dayMs : Nat := 86400000

structure Date where
  year : Nat
  month : Nat
  day : Nat
  deriving DecidableEq, Repr

def isLeap (year : Nat) : Bool := year % 4 == 0 && (year % 100 != 0 || year % 400 == 0)

def monthLength (year month : Nat) : Nat :=
  if month = 2 then if isLeap year then 29 else 28
  else if month = 4 ∨ month = 6 ∨ month = 9 ∨ month = 11 then 30
  else 31

theorem monthLength_le (year month : Nat) : monthLength year month ≤ 31 := by
  unfold monthLength
  split_ifs <;> omega

/-- The following day. -/
def Date.next (d : Date) : Date :=
  if d.day < monthLength d.year d.month then { d with day := d.day + 1 }
  else if d.month < 12 then ⟨d.year, d.month + 1, 1⟩
  else ⟨d.year + 1, 1, 1⟩

/-- The date of the `n`-th day. -/
def ofDay (n : Nat) : Date := Date.next^[n] ⟨1970, 1, 1⟩

/-- A number that orders dates. -/
def Date.rank (d : Date) : Nat := d.year * 512 + d.month * 32 + d.day

/-- The fields are in range. -/
def Date.InRange (d : Date) : Prop := d.month ≤ 12 ∧ d.day ≤ 31

/-- The next date is one, and later. -/
theorem Date.next_inRange {d : Date} (h : d.InRange) : d.next.InRange ∧ d.rank < d.next.rank := by
  obtain ⟨hm, hd⟩ := h
  have hlen := monthLength_le d.year d.month
  unfold Date.next
  split_ifs with hday hmonth
  · exact ⟨⟨hm, by simp only; omega⟩, by simp only [Date.rank]; omega⟩
  · exact ⟨⟨by simp only; omega, by simp only; omega⟩, by simp only [Date.rank]; omega⟩
  · exact ⟨⟨by simp only; omega, by simp only; omega⟩, by simp only [Date.rank]; omega⟩

theorem ofDay_succ (n : Nat) : ofDay (n + 1) = (ofDay n).next :=
  Function.iterate_succ_apply' Date.next n _

theorem ofDay_inRange (n : Nat) : (ofDay n).InRange := by
  induction n with
  | zero => exact ⟨by decide, by decide⟩
  | succ n ih =>
      rw [ofDay_succ]
      exact (Date.next_inRange ih).1

/-- Different days have different dates. -/
theorem ofDay_injective : Function.Injective ofDay := by
  have hmono : StrictMono fun n => (ofDay n).rank := by
    refine strictMono_nat_of_lt_succ ?_
    intro n
    show (ofDay n).rank < (ofDay (n + 1)).rank
    rw [ofDay_succ]
    exact (Date.next_inRange (ofDay_inRange n)).2
  intro m n hmn
  exact hmono.injective (congrArg Date.rank hmn)

/-! ## days -/

attribute [ext] Date

/-- A date of the calendar. -/
structure Date.Valid (d : Date) : Prop where
  year : 1 ≤ d.year
  month : 1 ≤ d.month
  month_le : d.month ≤ 12
  day : 1 ≤ d.day
  day_le : d.day ≤ monthLength d.year d.month

instance (d : Date) : Decidable d.Valid :=
  decidable_of_iff (1 ≤ d.year ∧ 1 ≤ d.month ∧ d.month ≤ 12 ∧ 1 ≤ d.day ∧
      d.day ≤ monthLength d.year d.month)
    ⟨fun h => ⟨h.1, h.2.1, h.2.2.1, h.2.2.2.1, h.2.2.2.2⟩,
      fun h => ⟨h.year, h.month, h.month_le, h.day, h.day_le⟩⟩

/-- No month is empty. -/
theorem monthLength_pos (year month : Nat) : 1 ≤ monthLength year month := by
  unfold monthLength
  split_ifs <;> omega

/-- The calendar does not leave its dates forward. -/
theorem Date.Valid.next {d : Date} (h : d.Valid) : d.next.Valid := by
  obtain ⟨hyear, hmonth, hmonth', hday, hday'⟩ := h
  unfold Date.next
  split_ifs with hlast hdec
  · exact ⟨hyear, hmonth, hmonth', by simp only; omega, hlast⟩
  · exact ⟨hyear, by simp only; omega, hdec, le_refl 1, monthLength_pos _ _⟩
  · exact ⟨by simp only; omega, le_refl 1, by simp only; omega, le_refl 1, monthLength_pos _ _⟩

/-- The day before; the first day stays. -/
def Date.prev (d : Date) : Date :=
  if 1 < d.day then { d with day := d.day - 1 }
  else if 1 < d.month then ⟨d.year, d.month - 1, monthLength d.year (d.month - 1)⟩
  else if 1 < d.year then ⟨d.year - 1, 12, 31⟩
  else d

/-- Nor backward. -/
theorem Date.Valid.prev {d : Date} (h : d.Valid) : d.prev.Valid := by
  obtain ⟨hyear, hmonth, hmonth', hday, hday'⟩ := h
  unfold Date.prev
  split_ifs with hfirst hjan hone
  · exact ⟨hyear, hmonth, hmonth', by simp only; omega, by simp only; omega⟩
  · exact ⟨hyear, by simp only; omega, by simp only; omega, monthLength_pos _ _, le_refl _⟩
  · exact ⟨by simp only; omega, by simp, le_refl 12, by simp, by simp [monthLength]⟩
  · exact ⟨hyear, hmonth, hmonth', hday, hday'⟩

@[ext] structure Day where
  date : Date
  valid : date.Valid
  deriving DecidableEq

namespace Day

/-- `datetime.date.min` -/
def first : Day := ⟨⟨1, 1, 1⟩, by decide⟩

def next (d : Day) : Day := ⟨d.date.next, d.valid.next⟩

def prev (d : Day) : Day := ⟨d.date.prev, d.valid.prev⟩

end Day

/-- `_days_before_year` -/
def daysBeforeYear (year : Nat) : Nat :=
  (year - 1) * 365 + (year - 1) / 4 - (year - 1) / 100 + (year - 1) / 400

/-- `_days_before_month` -/
def daysBeforeMonth (year : Nat) : Nat → Nat
  | 0 => 0
  | 1 => 0
  | month + 2 => daysBeforeMonth year (month + 1) + monthLength year (month + 1)

/-- The months of a year follow each other without a gap. -/
theorem daysBeforeMonth_succ {year month : Nat} (h : 1 ≤ month) :
    daysBeforeMonth year (month + 1) = daysBeforeMonth year month + monthLength year month := by
  cases month with
  | zero => omega
  | succ month => rfl

/-- The Gregorian rule. -/
theorem isLeap_iff {year : Nat} :
    isLeap year = true ↔ year % 4 = 0 ∧ (year % 100 ≠ 0 ∨ year % 400 = 0) := by
  simp [isLeap]

/-- Eleven months have 306 days and those of February. -/
theorem daysBeforeMonth_dec (year : Nat) :
    daysBeforeMonth year 12 = 306 + monthLength year 2 := by
  simp only [daysBeforeMonth, monthLength]
  simp
  omega

/-- And a year is those and December's 31. -/
theorem daysBeforeYear_succ {year : Nat} (h : 1 ≤ year) :
    daysBeforeYear (year + 1) = daysBeforeYear year + 337 + monthLength year 2 := by
  obtain ⟨n, rfl⟩ : ∃ n, year = n + 1 := ⟨year - 1, by omega⟩
  have hcent : n / 100 ≤ n / 4 := by omega
  have h4 : (n + 1) % 100 = 0 → (n + 1) % 4 = 0 := by omega
  have h100 : (n + 1) % 400 = 0 → (n + 1) % 100 = 0 := by omega
  simp only [daysBeforeYear, monthLength, if_true, isLeap_iff, Nat.add_sub_cancel,
    Nat.succ_div, Nat.dvd_iff_mod_eq_zero]
  generalize n / 4 = q at *
  generalize n / 100 = r at *
  generalize n / 400 = s at *
  generalize (n + 1) % 4 = a at *
  generalize (n + 1) % 100 = b at *
  generalize (n + 1) % 400 = c at *
  split_ifs <;> omega

namespace Day

/-- `date.toordinal` -/
def toordinal (d : Day) : Nat :=
  daysBeforeYear d.date.year + daysBeforeMonth d.date.year d.date.month + d.date.day

/-- The next day has the next ordinal. -/
@[simp] theorem toordinal_next (d : Day) : d.next.toordinal = d.toordinal + 1 := by
  obtain ⟨⟨year, month, day⟩, ⟨hyear, hmonth, hmonth', hday, hday'⟩⟩ := d
  simp only at hyear hmonth hmonth' hday hday'
  simp only [toordinal, next, Date.next]
  split_ifs with hlast hdec
  · simp only; omega
  · simp only [daysBeforeMonth_succ hmonth]; omega
  · have h12 : month = 12 := by omega
    subst h12
    have hlen : monthLength year 12 = 31 := by simp [monthLength]
    have hdec' := daysBeforeMonth_dec year
    have hjan : daysBeforeMonth (year + 1) 1 = 0 := rfl
    show daysBeforeYear (year + 1) + daysBeforeMonth (year + 1) 1 + 1 = _
    rw [daysBeforeYear_succ hyear]
    omega

/-- The first day has ordinal one. -/
theorem toordinal_pos (d : Day) : 1 ≤ d.toordinal := by
  have hday := d.valid.day
  unfold toordinal
  omega

/-- Only the first day has nothing before it. -/
theorem eq_first {d : Day} (hyear : d.date.year ≤ 1) (hmonth : d.date.month ≤ 1)
    (hday : d.date.day ≤ 1) : d = first := by
  obtain ⟨hyear', hmonth', -, hday', -⟩ := d.valid
  have heq : d.date = ⟨1, 1, 1⟩ := by
    refine Date.ext ?_ ?_ ?_
    · exact Nat.le_antisymm hyear hyear'
    · exact Nat.le_antisymm hmonth hmonth'
    · exact Nat.le_antisymm hday hday'
  exact Day.ext heq

/-- Going back and forth ends where it began. -/
theorem next_prev {d : Day} (h : d ≠ first) : d.prev.next = d := by
  obtain ⟨⟨year, month, day⟩, hvalid⟩ := d
  have hpos : ¬ (year ≤ 1 ∧ month ≤ 1 ∧ day ≤ 1) := fun hle =>
    h (eq_first hle.1 hle.2.1 hle.2.2)
  obtain ⟨hyear, hmonth, hmonth', hday, hday'⟩ := hvalid
  simp only at hyear hmonth hmonth' hday hday'
  simp only [next, prev, mk.injEq, Date.prev]
  split_ifs with hfirst hjan hone
  · simp only [Date.next]
    rw [if_pos (by omega)]
    simp only [Date.mk.injEq, true_and]
    omega
  · simp only [Date.next, Nat.lt_irrefl, if_false]
    rw [if_pos (by omega)]
    simp only [Date.mk.injEq, true_and]
    omega
  · simp only [Date.next, monthLength]
    simp
    omega
  · omega

/-- The day before has the ordinal before. -/
theorem toordinal_prev {d : Day} (h : d ≠ first) : d.prev.toordinal + 1 = d.toordinal := by
  rw [← toordinal_next, next_prev h]

/-- The day so many days later. -/
def add (d : Day) (k : Nat) : Day := next^[k] d

@[simp] theorem add_zero (d : Day) : d.add 0 = d := rfl

theorem add_succ (d : Day) (k : Nat) : d.add (k + 1) = (d.add k).next :=
  Function.iterate_succ_apply' next k d

/-- Adding days adds to the ordinal. -/
@[simp] theorem toordinal_add (d : Day) (k : Nat) : (d.add k).toordinal = d.toordinal + k := by
  induction k with
  | zero => rfl
  | succ k ih => rw [add_succ, toordinal_next, ih, Nat.add_assoc]

/-- Every day comes so many days after the first. -/
theorem first_add (d : Day) : first.add (d.toordinal - 1) = d := by
  obtain ⟨n, hn⟩ : ∃ n, d.toordinal = n + 1 := ⟨d.toordinal - 1, by have := toordinal_pos d; omega⟩
  rw [hn, Nat.add_sub_cancel]
  induction n generalizing d with
  | zero =>
      refine (Decidable.byContradiction fun hne => ?_ : d = first).symm
      have hprev := toordinal_prev hne
      have hpos := toordinal_pos d.prev
      omega
  | succ n ih =>
      have hne : d ≠ first := by
        intro heq
        have hone : first.toordinal = 1 := by decide
        rw [heq, hone] at hn
        omega
      have hprev := toordinal_prev hne
      rw [add_succ, ih d.prev (by omega), next_prev hne]

/-- A day is known by its ordinal. -/
theorem toordinal_injective : Function.Injective toordinal := by
  intro d e h
  rw [← first_add d, ← first_add e, h]

@[simp] theorem toordinal_inj {d e : Day} : d.toordinal = e.toordinal ↔ d = e :=
  toordinal_injective.eq_iff

instance : LE Day := ⟨fun d e => d.toordinal ≤ e.toordinal⟩

instance : LT Day := ⟨fun d e => d.toordinal < e.toordinal⟩

theorem le_def {d e : Day} : d ≤ e ↔ d.toordinal ≤ e.toordinal := Iff.rfl

theorem lt_def {d e : Day} : d < e ↔ d.toordinal < e.toordinal := Iff.rfl

instance (d e : Day) : Decidable (d ≤ e) := inferInstanceAs (Decidable (_ ≤ _))

instance (d e : Day) : Decidable (d < e) := inferInstanceAs (Decidable (_ < _))

/-- A later day. -/
theorem exists_add {d e : Day} (h : d ≤ e) : d.add (e.toordinal - d.toordinal) = e := by
  rw [le_def] at h
  rw [← toordinal_inj, toordinal_add]
  omega

/-- `[start + timedelta(days=offset) for offset in range((end - start).days)]` -/
def range (start stop : Day) : List Day :=
  (List.range (stop.toordinal - start.toordinal)).map start.add

/-- A range has its start and not its stop. -/
theorem mem_range {start stop d : Day} : d ∈ range start stop ↔ start ≤ d ∧ d < stop := by
  simp only [range, List.mem_map, List.mem_range]
  constructor
  · rintro ⟨k, hk, rfl⟩
    rw [le_def, lt_def, toordinal_add]
    omega
  · rintro ⟨hle, hlt⟩
    refine ⟨_, ?_, exists_add hle⟩
    rw [le_def] at hle
    rw [lt_def] at hlt
    omega

/-- Its days come in order, each once. -/
theorem pairwise_range (start stop : Day) : (range start stop).Pairwise (· < ·) := by
  rw [range, List.pairwise_map]
  refine List.pairwise_lt_range.imp ?_
  intro i j hij
  rw [lt_def, toordinal_add, toordinal_add]
  omega

theorem range_self_next (d : Day) : range d d.next = [d] := by
  have hlength : d.next.toordinal - d.toordinal = 1 := by rw [toordinal_next]; omega
  rw [range, hlength]
  rfl

/-- One more day at the end. -/
theorem range_next {start stop : Day} (h : start ≤ stop) :
    range start stop.next = range start stop ++ [stop] := by
  have hadd := exists_add h
  rw [le_def] at h
  have hlength : stop.next.toordinal - start.toordinal =
      stop.toordinal - start.toordinal + 1 := by
    rw [toordinal_next]
    omega
  rw [range, hlength, List.range_succ, List.map_append, List.map_singleton, hadd, range]

end Day
end Calendar
