import Mathlib.Order.Lattice
import MorningstarModbus.Lib.Calendar
import MorningstarModbus.Lib.Text

/-!
# Timestamp

Days and UTC times with microseconds, and their ISO 8601 texts as `isoformat`
writes them: the fraction is left out when it is zero.

* `Day.isoformat_lt` — the texts of days compare as the days;
* `isoformat_strictMono` — the texts of times compare as the times.
-/

namespace Calendar

open Text

/-! ## days -/

namespace Day

/-- The characters of `date.isoformat()`. -/
def isoChars (d : Day) : List Char :=
  pad 4 d.date.year ++ '-' :: (pad 2 d.date.month ++ '-' :: pad 2 d.date.day)

/-- `date.isoformat()` -/
def isoformat (d : Day) : String := String.ofList d.isoChars

/-- A date is written in ten characters. -/
@[simp] theorem length_isoChars (d : Day) : d.isoChars.length = 10 := by
  simp [isoChars]

theorem day_lt (d : Day) : d.date.day < 100 := by
  have hle := d.valid.day_le
  have hlen := monthLength_le d.date.year d.date.month
  omega

theorem month_lt (d : Day) : d.date.month < 100 := by
  have hle := d.valid.month_le
  omega

/-- The next day is written greater. -/
theorem isoChars_next {d : Day} (h : d.next.date.year ≤ 9999) : d.isoChars < d.next.isoChars := by
  have hday := d.next.day_lt
  have hmonth := d.next.month_lt
  simp only [next, Date.next] at h hday hmonth
  simp only [isoChars, next, Date.next]
  split_ifs at h hday hmonth ⊢ with hlast hdec
  · refine List.append_left_lt (List.cons_lt_cons_iff.mpr (.inr ⟨rfl, ?_⟩))
    refine List.append_left_lt (List.cons_lt_cons_iff.mpr (.inr ⟨rfl, ?_⟩))
    exact pad_lt (Nat.lt_succ_self _) hday
  · refine List.append_left_lt (List.cons_lt_cons_iff.mpr (.inr ⟨rfl, ?_⟩))
    exact append_lt_append (by simp) (pad_lt (Nat.lt_succ_self _) hmonth) _ _
  · exact append_lt_append (by simp) (pad_lt (Nat.lt_succ_self _) (Nat.lt_succ_of_le h)) _ _

/-- The year does not fall from one day to the next. -/
theorem year_le_next (d : Day) : d.date.year ≤ d.next.date.year := by
  simp only [next, Date.next]
  split_ifs
  · exact le_refl _
  · exact le_refl _
  · exact Nat.le_succ _

/-- And so is every later one. -/
theorem isoChars_add {d : Day} {k : Nat} (h : (d.add (k + 1)).date.year ≤ 9999) :
    d.isoChars < (d.add (k + 1)).isoChars := by
  induction k with
  | zero => exact isoChars_next h
  | succ k ih =>
      rw [add_succ] at h ⊢
      exact List.lt_trans (ih (le_trans (year_le_next _) h)) (isoChars_next h)

/-- Nor does it between any two. -/
theorem year_mono {d e : Day} (h : d ≤ e) : d.date.year ≤ e.date.year := by
  rw [← exists_add h]
  induction e.toordinal - d.toordinal with
  | zero => exact le_refl _
  | succ k ih => exact add_succ d k ▸ le_trans ih (year_le_next _)

/-- A day later it is at most the next year. -/
theorem year_next_le (d : Day) : d.next.date.year ≤ d.date.year + 1 := by
  simp only [next, Date.next]
  split_ifs
  · exact Nat.le_succ _
  · exact Nat.le_succ _
  · exact le_refl _

/-- The texts of days compare as the days, up to the year 9999. -/
theorem isoChars_lt {d e : Day} (he : e.date.year ≤ 9999) (h : d < e) :
    d.isoChars < e.isoChars := by
  rw [lt_def] at h
  obtain ⟨k, hk⟩ : ∃ k, e.toordinal - d.toordinal = k + 1 :=
    ⟨e.toordinal - d.toordinal - 1, by omega⟩
  have hadd := exists_add (le_def.mpr h.le)
  rw [hk] at hadd
  rw [← hadd] at he ⊢
  exact isoChars_add he

end Day

/-! ## times -/

/-- Microseconds of one day. -/
def dayMicros : Nat := 86400000000

/-- A `datetime` in UTC. -/
@[ext] structure Timestamp where
  day : Day
  /-- since midnight -/
  micros : Nat
  year_le : day.date.year ≤ 9999
  micros_lt : micros < dayMicros
  deriving DecidableEq

namespace Timestamp

/-- Microseconds since the first day. -/
def instant (t : Timestamp) : Nat := t.day.toordinal * dayMicros + t.micros

/-- A timestamp is known by its microseconds since the first day. -/
theorem instant_injective : Function.Injective instant := by
  intro t u h
  have ht := t.micros_lt
  have hu := u.micros_lt
  simp only [instant, dayMicros] at h ht hu
  have hday : t.day.toordinal = u.day.toordinal := by omega
  exact Timestamp.ext (Day.toordinal_injective hday) (by omega)

instance : LinearOrder Timestamp := LinearOrder.lift' instant instant_injective

/-- The order of timestamps is that of their instants. -/
theorem lt_iff_instant {t u : Timestamp} : t < u ↔ t.instant < u.instant := Iff.rfl

/-- It is decided by the day, and within a day by the microseconds. -/
theorem lt_iff {t u : Timestamp} : t < u ↔ t.day < u.day ∨ t.day = u.day ∧ t.micros < u.micros := by
  have ht := t.micros_lt
  have hu := u.micros_lt
  rw [lt_iff_instant, Day.lt_def, ← Day.toordinal_inj]
  simp only [instant, dayMicros] at *
  omega

/-- `HH:MM:SS` -/
def clockChars (second : Nat) : List Char :=
  pad 2 (second / 3600) ++ ':' :: (pad 2 (second / 60 % 60) ++ ':' :: pad 2 (second % 60))

/-- The fraction, if there is one, and the offset. -/
def fractionChars (micros : Nat) : List Char :=
  (if micros = 0 then [] else '.' :: pad 6 micros) ++ "+00:00".toList

def isoChars (t : Timestamp) : List Char :=
  t.day.isoChars ++ 'T' :: (clockChars (t.micros / 1000000) ++ fractionChars (t.micros % 1000000))

/-- `datetime.isoformat()` -/
def isoformat (t : Timestamp) : String := String.ofList t.isoChars

/-- A time of day is written in eight characters. -/
@[simp] theorem length_clockChars (second : Nat) : (clockChars second).length = 8 := by
  simp [clockChars]

/-- A later second of a day is written greater. -/
theorem clockChars_lt {s t : Nat} (h : s < t) (ht : t < 86400) : clockChars s < clockChars t := by
  unfold clockChars
  by_cases hhour : s / 3600 < t / 3600
  · exact append_lt_append (by simp) (pad_lt hhour (by omega)) _ _
  · have heq : s / 3600 = t / 3600 := by omega
    rw [heq]
    refine List.append_left_lt (List.cons_lt_cons_iff.mpr (.inr ⟨rfl, ?_⟩))
    by_cases hminute : s / 60 % 60 < t / 60 % 60
    · exact append_lt_append (by simp) (pad_lt hminute (by omega)) _ _
    · have heq : s / 60 % 60 = t / 60 % 60 := by omega
      rw [heq]
      refine List.append_left_lt (List.cons_lt_cons_iff.mpr (.inr ⟨rfl, ?_⟩))
      exact pad_lt (by omega) (by omega)

/-- The sign of the offset comes before the point of a fraction. -/
theorem fractionChars_lt {s t : Nat} (h : s < t) (ht : t < 1000000) :
    fractionChars s < fractionChars t := by
  unfold fractionChars
  rw [if_neg (by omega : t ≠ 0)]
  split
  · exact List.cons_lt_cons_iff.mpr (.inl (by decide))
  · refine List.cons_lt_cons_iff.mpr (.inr ⟨rfl, ?_⟩)
    exact append_lt_append (by simp) (pad_lt h ht) _ _

/-- A later timestamp is written greater, with or without its fraction. -/
theorem isoChars_lt {t u : Timestamp} (h : t < u) : t.isoChars < u.isoChars := by
  unfold isoChars
  obtain hday | ⟨hday, hmicros⟩ := lt_iff.mp h
  · exact append_lt_append (by simp) (Day.isoChars_lt u.year_le hday) _ _
  · have hu := u.micros_lt
    rw [dayMicros] at hu
    rw [hday]
    refine List.append_left_lt (List.cons_lt_cons_iff.mpr (.inr ⟨rfl, ?_⟩))
    by_cases hsecond : t.micros / 1000000 < u.micros / 1000000
    · exact append_lt_append (by simp) (clockChars_lt hsecond (by omega)) _ _
    · have heq : t.micros / 1000000 = u.micros / 1000000 := by omega
      rw [heq]
      exact List.append_left_lt (fractionChars_lt (by omega) (by omega))

/-- The texts of times compare as the times. -/
theorem isoformat_strictMono : StrictMono isoformat := by
  intro t u h
  rw [isoformat, isoformat, String.lt_iff_toList_lt, String.toList_ofList, String.toList_ofList]
  exact isoChars_lt h

@[simp] theorem isoformat_lt {t u : Timestamp} : t.isoformat < u.isoformat ↔ t < u :=
  isoformat_strictMono.lt_iff_lt

@[simp] theorem isoformat_le {t u : Timestamp} : t.isoformat ≤ u.isoformat ↔ t ≤ u :=
  isoformat_strictMono.le_iff_le

/-- The characters of the text of a time. -/
theorem mem_isoChars {t : Timestamp} {c : Char} (h : c ∈ t.isoChars) :
    c.isDigit = true ∨ c ∈ ['-', 'T', ':', '.', '+'] := by
  have hclock : ∀ second, c ∈ clockChars second → c.isDigit = true ∨ c = ':' := by
    intro second hc
    simp only [clockChars, List.mem_append, List.mem_cons] at hc
    grind [isDigit_of_mem_pad]
  have hfraction : ∀ micros, c ∈ fractionChars micros →
      c.isDigit = true ∨ c = '.' ∨ c = '+' ∨ c = ':' := by
    intro micros hc
    have hoffset : "+00:00".toList.all (fun d => d.isDigit || d == '+' || d == ':') = true := by
      decide
    rw [List.all_eq_true] at hoffset
    unfold fractionChars at hc
    split at hc
    · grind
    · simp only [List.mem_append, List.mem_cons] at hc
      grind [isDigit_of_mem_pad]
  simp only [isoChars, Day.isoChars, List.mem_append, List.mem_cons] at h
  grind [isDigit_of_mem_pad]

/-- The start of a day. -/
def midnight (day : Day) (h : day.date.year ≤ 9999) : Timestamp := ⟨day, 0, h, by decide⟩

/-- At midnight no fraction is written. -/
theorem isoformat_midnight (day : Day) (h : day.date.year ≤ 9999) :
    (midnight day h).isoformat = day.isoformat ++ "T00:00:00+00:00" := by
  have hclock : 'T' :: (clockChars (0 / 1000000) ++ fractionChars (0 % 1000000)) =
      "T00:00:00+00:00".toList := by decide
  have hchars : (midnight day h).isoChars = day.isoChars ++ "T00:00:00+00:00".toList := by
    rw [← hclock]
    rfl
  rw [isoformat, hchars, String.ofList_append, String.ofList_toList, Day.isoformat]

/-! ### buckets -/

def unixEpoch : Timestamp := midnight ⟨⟨1970, 1, 1⟩, by decide⟩ (by decide)

/-- Microseconds since 1970. -/
def unixMicros (t : Timestamp) : Int := t.instant - unixEpoch.instant

/-- Counting from 1970 orders timestamps as they are ordered. -/
theorem unixMicros_lt {t u : Timestamp} : t.unixMicros < u.unixMicros ↔ t < u := by
  rw [unixMicros, unixMicros, lt_iff_instant]
  omega

/-- The whole second of `int(t.timestamp())`, which is the one toward 1970. -/
def truncSecond (t : Timestamp) : Timestamp :=
  let fraction := t.micros % 1000000
  if h : t.day.date.year < 1970 ∧ fraction ≠ 0 then
    if hlast : t.micros + (1000000 - fraction) < dayMicros then
      { t with micros := t.micros + (1000000 - fraction), micros_lt := hlast }
    else midnight t.day.next (by have := t.day.year_next_le; omega)
  else { t with micros := t.micros - fraction, micros_lt := by have := t.micros_lt; omega }

/-- The start of the bucket of a time, for a size that divides a day. -/
def bucketStart (seconds : Nat) (t : Timestamp) : Timestamp :=
  let s := t.truncSecond
  { s with
    micros := s.micros - s.micros % (seconds * 1000000)
    micros_lt := by have := s.micros_lt; omega }

end Timestamp

end Calendar
