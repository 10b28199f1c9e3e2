import MorningstarModbus.Lib.Timestamp

/-!
# CivilDay

Dates as `datetime.date` has them: up to the year 9999, in steps of days that may
leave that range.

* `isoformat_lt` — the texts of dates compare as the dates;
* `toordinal_shift` — a step of days;
* `take_isoformat` — the text of a time begins with the text of its day.
-/

namespace Calendar

theorem Day.year_prev_le (d : Day) : d.prev.date.year ≤ d.date.year := by
  simp only [prev, Date.prev]
  split_ifs
  · exact le_refl _
  · exact le_refl _
  · exact Nat.sub_le _ _
  · exact le_refl _

/-- A `datetime.date`. -/
@[ext] structure CivilDay where
  day : Day
  year_le : day.date.year ≤ 9999

instance : DecidableEq CivilDay := fun d e =>
  decidable_of_iff (d.day = e.day) CivilDay.ext_iff.symm

namespace CivilDay

/-- `date.toordinal` -/
def toordinal (d : CivilDay) : Nat := d.day.toordinal

/-- A civil day is known by its ordinal. -/
theorem toordinal_injective : Function.Injective toordinal :=
  fun _ _ h => CivilDay.ext (Day.toordinal_injective h)

instance : LinearOrder CivilDay := LinearOrder.lift' toordinal toordinal_injective

theorem lt_def {d e : CivilDay} : d < e ↔ d.toordinal < e.toordinal := Iff.rfl

theorem le_def {d e : CivilDay} : d ≤ e ↔ d.toordinal ≤ e.toordinal := Iff.rfl

/-! ## texts -/

/-- `date.isoformat()` -/
def isoformat (d : CivilDay) : String := d.day.isoformat

/-- The texts of dates compare as the dates. -/
theorem isoformat_strictMono : StrictMono isoformat := by
  intro d e h
  rw [isoformat, isoformat, String.lt_iff_toList_lt, Day.isoformat, Day.isoformat,
    String.toList_ofList, String.toList_ofList]
  exact Day.isoChars_lt e.year_le h

/-- Days are written in their order. -/
@[simp] theorem isoformat_lt {d e : CivilDay} : d.isoformat < e.isoformat ↔ d < e :=
  isoformat_strictMono.lt_iff_lt

/-- No two are written alike. -/
@[simp] theorem isoformat_inj {d e : CivilDay} : d.isoformat = e.isoformat ↔ d = e :=
  isoformat_strictMono.injective.eq_iff

/-! ## steps -/

/-- `date + timedelta(days=k)` -/
def later (d : CivilDay) (k : Nat) : Option CivilDay :=
  if h : (d.day.add k).date.year ≤ 9999 then some ⟨d.day.add k, h⟩ else none

/-- `date - timedelta(days=k)` -/
def earlier (d : CivilDay) : Nat → Option CivilDay
  | 0 => some d
  | k + 1 =>
      if d.day = Day.first then none
      else earlier ⟨d.day.prev, le_trans d.day.year_prev_le d.year_le⟩ k

/-- `date + timedelta(days=offset)`, where it stays in range. -/
def shift (d : CivilDay) : Int → Option CivilDay
  | .ofNat k => d.later k
  | .negSucc k => d.earlier (k + 1)

/-- Where the calendar goes so far, a later day has a later ordinal. -/
theorem toordinal_later {d e : CivilDay} {k : Nat} (h : d.later k = some e) :
    e.toordinal = d.toordinal + k := by
  unfold later at h
  split at h
  · cases h
    exact Day.toordinal_add d.day k
  · cases h

/-- And an earlier one an earlier. -/
theorem toordinal_earlier {d e : CivilDay} {k : Nat} (h : d.earlier k = some e) :
    e.toordinal + k = d.toordinal := by
  induction k generalizing d with
  | zero =>
      cases h
      rfl
  | succ k ih =>
      unfold earlier at h
      split at h
      · cases h
      · case isFalse hfirst =>
          have hprev := Day.toordinal_prev hfirst
          have hrest := ih h
          simp only [toordinal] at hrest ⊢
          omega

/-- An offset is added to the ordinal. -/
theorem toordinal_shift {d e : CivilDay} {offset : Int} (h : d.shift offset = some e) :
    (e.toordinal : Int) = d.toordinal + offset := by
  cases offset with
  | ofNat k =>
      have hlater := toordinal_later h
      simp only [Int.ofNat_eq_natCast]
      omega
  | negSucc k =>
      have hearlier := toordinal_earlier h
      omega

/-- Two offsets lead to one day only if they are the same. -/
theorem shift_inj {d e : CivilDay} {offset offset' : Int} (h : d.shift offset = some e)
    (h' : d.shift offset' = some e) : offset = offset' := by
  have hoffset := toordinal_shift h
  have hoffset' := toordinal_shift h'
  omega

/-- A later date is not before the following one. -/
theorem le_of_shift_one {d e following : CivilDay} (h : d.shift 1 = some following) (hlt : d < e) :
    following ≤ e := by
  have hfollowing := toordinal_shift h
  rw [lt_def] at hlt
  rw [le_def]
  omega

/-- The first instant of a date, in UTC. -/
def midnight (d : CivilDay) : Timestamp := Timestamp.midnight d.day d.year_le

end CivilDay

/-! ## times -/

namespace Timestamp

/-- `datetime.date()` -/
def date (t : Timestamp) : CivilDay := ⟨t.day, t.year_le⟩

/-- The text of a time begins with the text of its day. -/
theorem take_isoformat (t : Timestamp) :
    String.ofList (t.isoformat.toList.take 10) = t.date.isoformat := by
  have htake : t.isoChars.take 10 = t.day.isoChars := by
    rw [isoChars, List.take_append_of_le_length (by simp), List.take_of_length_le (by simp)]
  rw [isoformat, String.toList_ofList, htake]
  rfl

/-- The times of the dates in a range. -/
theorem date_mem_range {t : Timestamp} {start stop : CivilDay} :
    start.midnight ≤ t ∧ t < stop.midnight ↔ start ≤ t.date ∧ t.date < stop := by
  have ht := t.micros_lt
  rw [dayMicros] at ht
  simp only [← not_lt, lt_iff_instant, CivilDay.lt_def, instant, CivilDay.midnight, midnight,
    dayMicros, date, CivilDay.toordinal]
  omega

end Timestamp

end Calendar
