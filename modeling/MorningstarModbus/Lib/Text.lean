import Mathlib.Data.List.DropRight
import Mathlib.Data.List.TakeWhile
import Mathlib.Data.String.Basic

/-!
# Text

The string operations a program written in Python performs on identifiers:
stripping white space, and concatenating fields around a separator.

* `strip` — `str.strip()`, with the white-space table of `str.isspace`;
* `split_first` / `split_last` — a field without the separator on one side
  of it can be read back from the concatenation;
* `pad_lt` — zero-padded numbers compare as numbers.
-/

namespace Text

/-! ## white space -/

/-- The characters `str.isspace` accepts. -/
def isSpace (c : Char) : Bool :=
  let n := c.toNat
  (9 ≤ n && n ≤ 13) || (28 ≤ n && n ≤ 32) || n == 133 || n == 160 || n == 5760 ||
    (8192 ≤ n && n ≤ 8202) || n == 8232 || n == 8233 || n == 8239 || n == 8287 || n == 12288

/-- `str.strip()` on the characters of a string. -/
def stripChars (cs : List Char) : List Char := (cs.dropWhile isSpace).rdropWhile isSpace

/-- `str.strip()`. -/
def strip (s : String) : String := String.ofList (stripChars s.toList)

theorem stripChars_stripChars (cs : List Char) : stripChars (stripChars cs) = stripChars cs := by
  have hdrop : (stripChars cs).dropWhile isSpace = stripChars cs := by
    rw [List.dropWhile_eq_self_iff]
    intro hpos
    -- the first character of the stripped text is the first one kept on the left
    have hkept : stripChars cs <+: cs.dropWhile isSpace := List.rdropWhile_prefix isSpace _
    have hlen : 0 < (cs.dropWhile isSpace).length := Nat.lt_of_lt_of_le hpos hkept.length_le
    rw [hkept.getElem hpos]
    exact List.dropWhile_get_zero_not _ cs hlen
  rw [stripChars, hdrop, stripChars, List.rdropWhile_idempotent]

@[simp] theorem strip_strip (s : String) : strip (strip s) = strip s := by
  simp only [strip, String.toList_ofList, stripChars_stripChars]

@[simp] theorem strip_empty : strip "" = "" := rfl

theorem stripChars_ne_nil {cs : List Char} {c : Char} (hc : c ∈ cs) (h : isSpace c = false) :
    stripChars cs ≠ [] := by
  intro hnil
  rw [stripChars, List.rdropWhile_eq_nil_iff] at hnil
  have hdrop : c ∈ cs.dropWhile isSpace := by
    have hsplit := List.takeWhile_append_dropWhile (p := isSpace) (l := cs)
    rw [← hsplit, List.mem_append] at hc
    cases hc with
    | inl htake => simp [List.mem_takeWhile_imp htake] at h
    | inr hdrop => exact hdrop
  simp [hnil c hdrop] at h

/-! ## lines -/

/-- The characters `str.splitlines` splits at. -/
def isLineBreak (c : Char) : Bool :=
  let n := c.toNat
  (10 ≤ n && n ≤ 13) || (28 ≤ n && n ≤ 30) || n == 133 || n == 8232 || n == 8233

/-- `str.splitlines()`; a carriage return and a line feed are one break. -/
def splitlines : List Char → List (List Char)
  | [] => []
  | '\r' :: '\n' :: rest => [] :: splitlines rest
  | c :: rest =>
      if isLineBreak c then [] :: splitlines rest
      else match splitlines rest with
        | [] => [[c]]
        | line :: lines => (c :: line) :: lines

theorem splitlines_line {line : List Char} (h : ∀ c ∈ line, isLineBreak c = false)
    (rest : List Char) : splitlines (line ++ '\n' :: rest) = line :: splitlines rest := by
  induction line with
  | nil => rw [List.nil_append, splitlines, if_pos (by decide)]; simp
  | cons c cs ih =>
      have hc := h c List.mem_cons_self
      have hrest := ih fun d hd => h d (List.mem_cons_of_mem c hd)
      have hreturn : c ≠ '\r' := by
        rintro rfl
        revert hc
        decide
      rw [List.cons_append, splitlines, if_neg (by simp [hc]), hrest]
      intro more heq
      exact absurd heq hreturn

/-! ## separators -/

/-- Splitting at the first separator. -/
theorem split_first {c : Char} {xs xs' ys ys' : List Char} (hx : c ∉ xs) (hx' : c ∉ xs')
    (h : xs ++ c :: ys = xs' ++ c :: ys') : xs = xs' ∧ ys = ys' := by
  induction xs generalizing xs' with
  | nil =>
      cases xs' with
      | nil => exact ⟨rfl, by simpa using h⟩
      | cons a as =>
          have hca : c = a := by simpa using congrArg List.head? h
          exact absurd (hca ▸ List.mem_cons_self) hx'
  | cons a as ih =>
      cases xs' with
      | nil =>
          have hca : a = c := by simpa using congrArg List.head? h
          exact absurd (hca ▸ List.mem_cons_self) hx
      | cons b bs =>
          rw [List.cons_append, List.cons_append, List.cons.injEq] at h
          obtain ⟨h1, h2⟩ := ih (fun hc => hx (List.mem_cons_of_mem a hc))
            (fun hc => hx' (List.mem_cons_of_mem b hc)) h.2
          exact ⟨by rw [h.1, h1], h2⟩

/-- Splitting at the last separator. -/
theorem split_last {c : Char} {xs xs' ys ys' : List Char} (hy : c ∉ ys) (hy' : c ∉ ys')
    (h : xs ++ c :: ys = xs' ++ c :: ys') : xs = xs' ∧ ys = ys' := by
  have hrev : ys.reverse ++ c :: xs.reverse = ys'.reverse ++ c :: xs'.reverse := by
    simpa using congrArg List.reverse h
  obtain ⟨h1, h2⟩ := split_first (by simpa using hy) (by simpa using hy') hrev
  exact ⟨List.reverse_injective h2, List.reverse_injective h1⟩

/-- Decimal digits are digits. -/
theorem notMem_toString {c : Char} (hc : c.isDigit = false) (n : Nat) : c ∉ (toString n).toList := by
  rw [Nat.toString_eq_repr, Nat.repr, String.toList_ofList]
  intro h
  have hdigit := Nat.isDigit_of_mem_toDigits (by decide) (by decide) h
  rw [hc] at hdigit
  cases hdigit

/-- Decimal digits contain no colon. -/
theorem colon_notMem_toString (n : Nat) : ':' ∉ (toString n).toList := notMem_toString rfl n

/-- Numbers with the same digits are the same. -/
theorem toString_inj {m n : Nat} : toString m = toString n ↔ m = n := by
  constructor
  · intro h
    rw [Nat.toString_eq_repr, Nat.toString_eq_repr, Nat.repr, Nat.repr, String.ofList_inj] at h
    have hdigits := congrArg (fun cs => Nat.ofDigitChars 10 cs 0) h
    simpa [Nat.ofDigitChars_toDigits] using hdigits
  · intro h
    rw [h]

/-! ## digits -/

/-- The last `n` decimal digits of a number. -/
def pad : Nat → Nat → List Char
  | 0, _ => []
  | n + 1, x => pad n (x / 10) ++ [Nat.digitChar (x % 10)]

@[simp] theorem length_pad (n x : Nat) : (pad n x).length = n := by
  induction n generalizing x with
  | zero => rfl
  | succ n ih => simp [pad, ih]

theorem isDigit_of_mem_pad {n x : Nat} {c : Char} (h : c ∈ pad n x) : c.isDigit = true := by
  induction n generalizing x with
  | zero => cases h
  | succ n ih =>
      rw [pad, List.mem_append, List.mem_singleton] at h
      cases h with
      | inl hmore => exact ih hmore
      | inr hlast =>
          have hdigit : ∀ d < 10, (Nat.digitChar d).isDigit = true := by decide
          rw [hlast]
          exact hdigit _ (Nat.mod_lt x (by omega))

/-- Texts of equal length compare by their first difference. -/
theorem append_lt_append {xs ys : List Char} (hlen : xs.length = ys.length) (h : xs < ys)
    (as bs : List Char) : xs ++ as < ys ++ bs := by
  induction xs generalizing ys with
  | nil =>
      cases ys with
      | nil => exact absurd h (List.lt_irrefl [])
      | cons y ys => simp at hlen
  | cons x xs ih =>
      cases ys with
      | nil => simp at hlen
      | cons y ys =>
          rw [List.cons_append, List.cons_append]
          rw [List.cons_lt_cons_iff] at h ⊢
          cases h with
          | inl hlt => exact .inl hlt
          | inr heq => exact .inr ⟨heq.1, ih (by simpa using hlen) heq.2⟩

theorem digitChar_lt : ∀ b < 10, ∀ a < b, Nat.digitChar a < Nat.digitChar b := by decide

/-- Digits of equal number compare as their numbers. -/
theorem pad_lt {n x y : Nat} (hlt : x < y) (hy : y < 10 ^ n) : pad n x < pad n y := by
  induction n generalizing x y with
  | zero => simp at hy; omega
  | succ n ih =>
      simp only [pad]
      by_cases hdiv : x / 10 < y / 10
      · exact append_lt_append (by simp) (ih hdiv (by rw [pow_succ] at hy; omega)) _ _
      · have heq : x / 10 = y / 10 := by omega
        rw [heq]
        refine List.append_left_lt (List.cons_lt_cons_iff.mpr (.inl ?_))
        exact digitChar_lt _ (by omega) _ (by omega)

end Text
