import MorningstarModbus.Lib.Bytes
import MorningstarModbus.Lib.Text

/-!
# Json

`json.dumps` and `json.loads` on flat objects: members with string, integer and
null values.  The writer escapes everything outside printable ASCII, as
`ensure_ascii` does.

* `dumps_printable` — the text is one line of printable ASCII;
* `loads_dumps` — it reads back.
-/

namespace Json

open Bytes

inductive Value where
  | null
  | int (i : Int)
  | str (s : String)
  deriving DecidableEq

/-- A JSON object with its members in the order they are written. -/
abbrev Object := List (String × Value)

/-- `object.get(key)`: the last member with the key counts. -/
def Object.get (o : Object) (key : String) : Option Value := o.reverse.lookup key

/-! ## writing -/

/-- `\uXXXX` -/
def escape (n : Nat) : List Char :=
  ['\\', 'u', hexDigit (n / 4096 % 16), hexDigit (n / 256 % 16), hexDigit (n / 16 % 16),
    hexDigit (n % 16)]

/-- A character inside a string.  Beyond the basic plane it is a surrogate pair. -/
def quoteChar (c : Char) : List Char :=
  if c = '"' then ['\\', '"']
  else if c = '\\' then ['\\', '\\']
  else if c = '\n' then ['\\', 'n']
  else if c = '\r' then ['\\', 'r']
  else if c = '\t' then ['\\', 't']
  else if c = '\x0c' then ['\\', 'f']
  else if c = '\x08' then ['\\', 'b']
  else if 32 ≤ c.toNat ∧ c.toNat ≤ 126 then [c]
  else if c.toNat < 0x10000 then escape c.toNat
  else escape (0xD800 + (c.toNat - 0x10000) / 1024) ++ escape (0xDC00 + (c.toNat - 0x10000) % 1024)

def quote (cs : List Char) : List Char := '"' :: (cs.flatMap quoteChar ++ ['"'])

def dumpsInt (i : Int) : List Char :=
  if i < 0 then '-' :: Nat.toDigits 10 i.natAbs else Nat.toDigits 10 i.natAbs

def dumpsValue : Value → List Char
  | .null => ['n', 'u', 'l', 'l']
  | .int i => dumpsInt i
  | .str s => quote s.toList

def dumpsMember (m : String × Value) : List Char :=
  quote m.1.toList ++ ':' :: ' ' :: dumpsValue m.2

def dumpsMembers : Object → List Char
  | [] => []
  | [m] => dumpsMember m
  | m :: ms => dumpsMember m ++ ',' :: ' ' :: dumpsMembers ms

/-- `json.dumps(object)` -/
def dumps (o : Object) : String := String.ofList ('{' :: (dumpsMembers o ++ ['}']))

/-! ## reading -/

def isSpace (c : Char) : Bool := c == ' ' || c == '\t' || c == '\n' || c == '\r'

def skip (cs : List Char) : List Char := cs.dropWhile isSpace

def readHex (a b c d : Char) : Option Nat := do
  let w ← hexValue a
  let x ← hexValue b
  let y ← hexValue c
  let z ← hexValue d
  return w * 4096 + x * 256 + y * 16 + z

/-- The character after `\u`.  A high surrogate needs its low one, since a lone
surrogate is no character here. -/
def readEscape (a b c d : Char) (rest : List Char) : Option (Char × List Char) := do
  let high ← readHex a b c d
  if 0xD800 ≤ high ∧ high < 0xDC00 then
    match rest with
    | '\\' :: 'u' :: e :: f :: g :: h :: rest => do
        let low ← readHex e f g h
        if 0xDC00 ≤ low ∧ low < 0xE000 then
          return (Char.ofNat (0x10000 + (high - 0xD800) * 1024 + (low - 0xDC00)), rest)
        else none
    | _ => none
  else return (Char.ofNat high, rest)

/-- One character of a string, written plainly or escaped. -/
def readChar : List Char → Option (Char × List Char)
  | '\\' :: '"' :: rest => some ('"', rest)
  | '\\' :: '\\' :: rest => some ('\\', rest)
  | '\\' :: '/' :: rest => some ('/', rest)
  | '\\' :: 'n' :: rest => some ('\n', rest)
  | '\\' :: 'r' :: rest => some ('\r', rest)
  | '\\' :: 't' :: rest => some ('\t', rest)
  | '\\' :: 'f' :: rest => some ('\x0c', rest)
  | '\\' :: 'b' :: rest => some ('\x08', rest)
  | '\\' :: 'u' :: a :: b :: c :: d :: rest => readEscape a b c d rest
  | c :: rest => if c = '\\' ∨ c.toNat < 32 then none else some (c, rest)
  | [] => none

/-- The rest of a string after its opening quote, in at most `fuel` characters. -/
def readChars : Nat → List Char → Option (List Char × List Char)
  | 0, _ => none
  | fuel + 1, cs =>
      match cs with
      | '"' :: rest => some ([], rest)
      | cs => do
          let (c, rest) ← readChar cs
          let (more, rest) ← readChars fuel rest
          return (c :: more, rest)

def readString (cs : List Char) : Option (String × List Char) :=
  (readChars cs.length cs).map fun r => (String.ofList r.1, r.2)

def readNat (cs : List Char) : Option (Nat × List Char) :=
  let digits := cs.takeWhile Char.isDigit
  if digits = [] then none else some (Nat.ofDigitChars 10 digits 0, cs.dropWhile Char.isDigit)

def readInt : List Char → Option (Int × List Char)
  | '-' :: rest => (readNat rest).map fun r => (-(r.1 : Int), r.2)
  | cs => (readNat cs).map fun r => ((r.1 : Int), r.2)

def readValue : List Char → Option (Value × List Char)
  | '"' :: rest => (readString rest).map fun r => (.str r.1, r.2)
  | 'n' :: 'u' :: 'l' :: 'l' :: rest => some (.null, rest)
  | cs => (readInt cs).map fun r => (.int r.1, r.2)

/-- A key, its colon and its value. -/
def readMember (cs : List Char) : Option ((String × Value) × List Char) :=
  match skip cs with
  | '"' :: rest => do
      let (key, rest) ← readString rest
      match skip rest with
      | ':' :: rest => do
          let (value, rest) ← readValue (skip rest)
          return ((key, value), skip rest)
      | _ => none
  | _ => none

/-- The members up to the closing brace, in at most `fuel` of them. -/
def readMembers : Nat → List Char → Option (Object × List Char)
  | 0, _ => none
  | fuel + 1, cs => do
      let (m, rest) ← readMember cs
      match rest with
      | ',' :: rest => do
          let (ms, rest) ← readMembers fuel rest
          return (m :: ms, rest)
      | '}' :: rest => return ([m], rest)
      | _ => none

/-- `json.loads(text)` where the text is a flat object; `none` is an exception. -/
def loads (text : String) : Option Object :=
  match skip text.toList with
  | '{' :: rest =>
      match skip rest with
      | '}' :: rest => if skip rest = [] then some [] else none
      | rest => do
          let (o, rest) ← readMembers rest.length rest
          if skip rest = [] then return o else none
  | _ => none

/-! ## escapes -/

/-- Four digits of sixteen bits are read back. -/
theorem readHex_escape {n : Nat} (h : n < 0x10000) :
    readHex (hexDigit (n / 4096 % 16)) (hexDigit (n / 256 % 16)) (hexDigit (n / 16 % 16))
      (hexDigit (n % 16)) = some n := by
  have hvalue : ∀ k, hexValue (hexDigit (k % 16)) = some (k % 16) := fun k =>
    hexValue_hexDigit _ (Nat.mod_lt k (by decide))
  have hsum : n / 4096 % 16 * 4096 + n / 256 % 16 * 256 + n / 16 % 16 * 16 + n % 16 = n := by omega
  rw [readHex, hvalue, hvalue, hvalue, hvalue]
  show some _ = some n
  rw [hsum]

/-- A character is no surrogate. -/
theorem toNat_not_surrogate (c : Char) : c.toNat < 0xD800 ∨ 0xDFFF < c.toNat ∧ c.toNat < 0x110000 :=
  c.valid

/-- An escape that is no high surrogate is one character. -/
theorem readEscape_plain {a b c d : Char} {rest : List Char} {n : Nat}
    (h : readHex a b c d = some n) (hn : ¬(0xD800 ≤ n ∧ n < 0xDC00)) :
    readEscape a b c d rest = some (Char.ofNat n, rest) := by
  simp only [readEscape, h, Option.bind_eq_bind, Option.bind_some, if_neg hn]
  rfl

/-- Two surrogates are one. -/
theorem readEscape_pair {a b c d e f g h : Char} {rest : List Char} {high low : Nat}
    (hhigh : readHex a b c d = some high) (hlow : readHex e f g h = some low)
    (hs : 0xD800 ≤ high ∧ high < 0xDC00) (ht : 0xDC00 ≤ low ∧ low < 0xE000) :
    readEscape a b c d ('\\' :: 'u' :: e :: f :: g :: h :: rest) =
      some (Char.ofNat (0x10000 + (high - 0xD800) * 1024 + (low - 0xDC00)), rest) := by
  simp only [readEscape, hhigh, hlow, Option.bind_eq_bind, Option.bind_some, if_pos hs, if_pos ht]
  rfl

/-- One character, read back. -/
theorem readChar_quoteChar (c : Char) (rest : List Char) :
    readChar (quoteChar c ++ rest) = some (c, rest) := by
  unfold quoteChar
  split_ifs with h1 h2 h3 h4 h5 h6 h7 h8 h9
  · rw [h1]; rfl
  · rw [h2]; rfl
  · rw [h3]; rfl
  · rw [h4]; rfl
  · rw [h5]; rfl
  · rw [h6]; rfl
  · rw [h7]; rfl
  · rw [List.singleton_append, readChar]
    · rw [if_neg]
      rintro (h | h)
      · exact h2 h
      · omega
    all_goals simp [h2]
  · have hread := readHex_escape h9
    have hsurrogate := toNat_not_surrogate c
    have hplain : readEscape _ _ _ _ rest = _ := readEscape_plain hread (by omega)
    rw [Char.ofNat_toNat] at hplain
    exact hplain
  · have hsurrogate := toNat_not_surrogate c
    have hhigh := readHex_escape (n := 0xD800 + (c.toNat - 0x10000) / 1024) (by omega)
    have hlow := readHex_escape (n := 0xDC00 + (c.toNat - 0x10000) % 1024) (by omega)
    have hsum : 0x10000 + (0xD800 + (c.toNat - 0x10000) / 1024 - 0xD800) * 1024 +
        (0xDC00 + (c.toNat - 0x10000) % 1024 - 0xDC00) = c.toNat := by omega
    have hpair : readEscape _ _ _ _ (escape _ ++ rest) = _ :=
      readEscape_pair hhigh hlow (by omega) (by omega)
    rw [hsum, Char.ofNat_toNat] at hpair
    rw [List.append_assoc]
    exact hpair

/-! ## strings -/

/-- No character is written with a quotation mark in front, so the string does not end there. -/
theorem quoteChar_head (c : Char) : ∃ d ds, quoteChar c = d :: ds ∧ d ≠ '"' := by
  unfold quoteChar
  split_ifs with h1 h2 h3 h4 h5 h6 h7 h8 h9
  case pos => exact ⟨_, _, rfl, by decide⟩
  case pos => exact ⟨_, _, rfl, by decide⟩
  case pos => exact ⟨_, _, rfl, by decide⟩
  case pos => exact ⟨_, _, rfl, by decide⟩
  case pos => exact ⟨_, _, rfl, by decide⟩
  case pos => exact ⟨_, _, rfl, by decide⟩
  case pos => exact ⟨_, _, rfl, by decide⟩
  case pos => exact ⟨_, _, rfl, h1⟩
  case pos => exact ⟨_, _, rfl, by decide⟩
  case neg => exact ⟨_, _, rfl, by decide⟩

/-- What is written for a character is read as it. -/
theorem readChars_quoteChar (fuel : Nat) (c : Char) (rest : List Char) :
    readChars (fuel + 1) (quoteChar c ++ rest) =
      (readChars fuel rest).map fun r => (c :: r.1, r.2) := by
  have hread := readChar_quoteChar c rest
  obtain ⟨d, ds, hquote, hd⟩ := quoteChar_head c
  rw [hquote] at hread ⊢
  rw [readChars, hread]
  · simp only [Option.bind_eq_bind, Option.bind_some]
    cases readChars fuel rest <;> rfl
  · simpa using hd

/-- And so for all of a string, up to its closing mark. -/
theorem readChars_quoted {cs rest : List Char} {fuel : Nat} (h : cs.length < fuel) :
    readChars fuel (cs.flatMap quoteChar ++ '"' :: rest) = some (cs, rest) := by
  induction cs generalizing fuel with
  | nil =>
      obtain ⟨n, rfl⟩ : ∃ n, fuel = n + 1 := ⟨fuel - 1, by simp at h; omega⟩
      rfl
  | cons c cs ih =>
      rw [List.length_cons] at h
      obtain ⟨n, rfl⟩ : ∃ n, fuel = n + 1 := ⟨fuel - 1, by omega⟩
      rw [List.flatMap_cons, List.append_assoc, readChars_quoteChar, ih (by omega)]
      rfl

/-- Every character is written with at least one, so the text is fuel enough to read it. -/
theorem length_le_flatMap_quoteChar (cs : List Char) :
    cs.length ≤ (cs.flatMap quoteChar).length := by
  induction cs with
  | nil => simp
  | cons c cs ih =>
      obtain ⟨d, ds, hquote, -⟩ := quoteChar_head c
      rw [List.flatMap_cons, hquote, List.length_append, List.length_cons, List.length_cons]
      omega

/-- A string is read back. -/
theorem readString_quote (s : String) (rest : List Char) :
    readString (s.toList.flatMap quoteChar ++ '"' :: rest) = some (s, rest) := by
  have hlen := length_le_flatMap_quoteChar s.toList
  have hfuel : s.toList.length < (s.toList.flatMap quoteChar ++ '"' :: rest).length := by
    rw [List.length_append, List.length_cons]
    omega
  rw [readString, readChars_quoted hfuel, Option.map_some, String.ofList_toList]

/-! ## numbers -/

/-- What may follow a number. -/
def Ends (rest : List Char) : Prop := ∀ c ∈ rest.head?, c.isDigit = false

/-- The digits end where the rest does not begin with one. -/
theorem takeWhile_digits {ds rest : List Char} (h : ∀ c ∈ ds, c.isDigit = true) (hrest : Ends rest) :
    (ds ++ rest).takeWhile Char.isDigit = ds ∧ (ds ++ rest).dropWhile Char.isDigit = rest := by
  induction ds with
  | nil =>
      cases rest with
      | nil => exact ⟨rfl, rfl⟩
      | cons c cs => simp [hrest c rfl]
  | cons d ds ih =>
      have hd := h d List.mem_cons_self
      obtain ⟨h1, h2⟩ := ih fun c hc => h c (List.mem_cons_of_mem d hc)
      simp [hd, h1, h2]

/-- A natural number is read back. -/
theorem readNat_digits (n : Nat) {rest : List Char} (hrest : Ends rest) :
    readNat (Nat.toDigits 10 n ++ rest) = some (n, rest) := by
  have hdigits : ∀ c ∈ Nat.toDigits 10 n, c.isDigit = true := fun c hc =>
    Nat.isDigit_of_mem_toDigits (by decide) (by decide) hc
  obtain ⟨h1, h2⟩ := takeWhile_digits hdigits hrest
  rw [readNat, h1, h2, if_neg Nat.toDigits_ne_nil, Nat.ofDigitChars_ten_toDigits]

theorem toDigits_head (n : Nat) : ∃ d ds, Nat.toDigits 10 n = d :: ds ∧ d.isDigit = true := by
  cases h : Nat.toDigits 10 n with
  | nil => exact absurd h Nat.toDigits_ne_nil
  | cons d ds =>
      refine ⟨d, ds, rfl, ?_⟩
      exact Nat.isDigit_of_mem_toDigits (n := n) (by decide) (by decide) (h ▸ List.mem_cons_self)

/-- So is an integer, with its sign. -/
theorem readInt_dumpsInt (i : Int) {rest : List Char} (hrest : Ends rest) :
    readInt (dumpsInt i ++ rest) = some (i, rest) := by
  unfold dumpsInt
  split
  · next hneg =>
    rw [List.cons_append, readInt, readNat_digits _ hrest, Option.map_some]
    congr 2
    omega
  · next hpos =>
    obtain ⟨d, ds, hdigits, hd⟩ := toDigits_head i.natAbs
    have hread := readNat_digits i.natAbs hrest
    have hne : d ≠ '-' := by
      rintro rfl
      revert hd
      decide
    rw [hdigits] at hread ⊢
    rw [List.cons_append, readInt, ← List.cons_append, hread, Option.map_some]
    · congr 2
      omega
    · simpa using hne

/-! ## objects -/

theorem skip_cons {c : Char} (h : isSpace c = false) (cs : List Char) : skip (c :: cs) = c :: cs := by
  simp [skip, h]

/-- An integer begins neither as a string nor as `null`. -/
theorem dumpsInt_head (i : Int) :
    ∃ d ds, dumpsInt i = d :: ds ∧ d ≠ '"' ∧ d ≠ 'n' ∧ isSpace d = false := by
  unfold dumpsInt
  split
  · exact ⟨'-', _, rfl, by decide, by decide, by decide⟩
  · obtain ⟨d, ds, hdigits, hd⟩ := toDigits_head i.natAbs
    refine ⟨d, ds, hdigits, ?_, ?_, ?_⟩
    · rintro rfl
      revert hd
      decide
    · rintro rfl
      revert hd
      decide
    · by_contra hspace
      simp only [isSpace, Bool.not_eq_false, Bool.or_eq_true, beq_iff_eq] at hspace
      rcases hspace with ((rfl | rfl) | rfl) | rfl <;> revert hd <;> decide

/-- **Values** are read back, whatever ends them. -/
theorem readValue_dumpsValue (v : Value) {rest : List Char} (hrest : Ends rest) :
    readValue (skip (dumpsValue v ++ rest)) = some (v, rest) := by
  cases v with
  | null => rfl
  | str s =>
      have hread := readString_quote s rest
      rw [dumpsValue, quote, List.cons_append, skip_cons (by decide), List.append_assoc,
        List.singleton_append, readValue, hread]
      rfl
  | int i =>
      have hread := readInt_dumpsInt i hrest
      obtain ⟨d, ds, hdumps, hquote, hn, hspace⟩ := dumpsInt_head i
      rw [dumpsValue, hdumps, List.cons_append, skip_cons hspace]
      rw [hdumps, List.cons_append] at hread
      rw [readValue, hread]
      · rfl
      · simpa using hquote
      · intro more heq
        exact hn (List.cons.inj heq).1

/-- A member of an object is. -/
theorem readMember_dumpsMember (m : String × Value) {cs rest : List Char} (hrest : Ends rest)
    (h : skip cs = dumpsMember m ++ rest) : readMember cs = some (m, skip rest) := by
  have hkey := readString_quote m.1 (':' :: ' ' :: (dumpsValue m.2 ++ rest))
  have hvalue := readValue_dumpsValue m.2 hrest
  have hcolon : skip (':' :: ' ' :: (dumpsValue m.2 ++ rest)) =
      ':' :: ' ' :: (dumpsValue m.2 ++ rest) := skip_cons (by decide) _
  have hspace : skip (' ' :: (dumpsValue m.2 ++ rest)) = skip (dumpsValue m.2 ++ rest) := rfl
  have hflat : dumpsMember m ++ rest = '"' :: (m.1.toList.flatMap quoteChar ++
      '"' :: ':' :: ' ' :: (dumpsValue m.2 ++ rest)) := by
    simp [dumpsMember, quote]
  rw [readMember, h, hflat]
  simp only [hkey, hcolon, hspace, hvalue, Option.bind_eq_bind, Option.bind_some]
  rfl

/-- And all of them, in their order. -/
theorem readMembers_dumpsMembers {o : Object} {fuel : Nat} {cs rest : List Char} (ho : o ≠ [])
    (hfuel : o.length ≤ fuel) (h : skip cs = dumpsMembers o ++ '}' :: rest) :
    readMembers fuel cs = some (o, rest) := by
  induction o generalizing fuel cs with
  | nil => exact absurd rfl ho
  | cons m ms ih =>
      rw [List.length_cons] at hfuel
      obtain ⟨n, rfl⟩ : ∃ n, fuel = n + 1 := ⟨fuel - 1, by omega⟩
      cases ms with
      | nil =>
          have hends : Ends ('}' :: rest) := by simp [Ends]
          have hread := readMember_dumpsMember m hends h
          rw [readMembers, hread]
          simp only [skip_cons (c := '}') (by decide), Option.bind_eq_bind, Option.bind_some]
          rfl
      | cons k ks =>
          obtain ⟨after, hafter⟩ : ∃ after, after = ' ' :: dumpsMembers (k :: ks) ++ '}' :: rest :=
            ⟨_, rfl⟩
          have hends : Ends (',' :: after) := by simp [Ends]
          have hflat : skip cs = dumpsMember m ++ ',' :: after := by
            rw [h, dumpsMembers, hafter]
            · simp
            · simp
          have hread := readMember_dumpsMember m hends hflat
          have hmore : readMembers n after = some (k :: ks, rest) := by
            refine ih (List.cons_ne_nil k ks) (by omega) ?_
            obtain ⟨d, ds, hd, hspace⟩ : ∃ d ds, dumpsMembers (k :: ks) = d :: ds ∧
                isSpace d = false := by
              cases ks <;> exact ⟨'"', _, rfl, rfl⟩
            rw [hafter, hd]
            show skip (d :: (ds ++ '}' :: rest)) = _
            rw [skip_cons hspace]
            rfl
          rw [readMembers, hread]
          simp only [skip_cons (c := ',') (by decide), hmore, Option.bind_eq_bind, Option.bind_some]
          rfl

/-- Every member is written with a character or more. -/
theorem length_le_dumpsMembers (o : Object) : o.length ≤ (dumpsMembers o).length := by
  induction o with
  | nil => exact Nat.zero_le _
  | cons m ms ih =>
      cases ms with
      | nil => simp [dumpsMembers, dumpsMember, quote]
      | cons k ks =>
          rw [dumpsMembers, List.length_append]
          · simp only [List.length_cons] at ih ⊢
            omega
          · simp

/-- **Round trip.** -/
theorem loads_dumps (o : Object) : loads (dumps o) = some o := by
  rw [loads, dumps, String.toList_ofList, skip_cons (by decide)]
  cases o with
  | nil => rfl
  | cons m ms =>
      obtain ⟨ds, hd⟩ : ∃ ds, dumpsMembers (m :: ms) = '"' :: ds := by
        cases ms <;> exact ⟨_, rfl⟩
      have hskip : skip (dumpsMembers (m :: ms) ++ ['}']) = dumpsMembers (m :: ms) ++ ['}'] := by
        rw [hd, List.cons_append, skip_cons (by decide)]
      have hfuel : (m :: ms).length ≤ (dumpsMembers (m :: ms) ++ ['}']).length := by
        rw [List.length_append]
        exact Nat.le_add_right_of_le (length_le_dumpsMembers _)
      have hread := readMembers_dumpsMembers (List.cons_ne_nil m ms) hfuel hskip
      simp only [hskip]
      split
      · next heq =>
        rw [hd, List.cons_append] at heq
        exact absurd (List.cons.inj heq).1 (by decide)
      · simp only [hread, Option.bind_eq_bind, Option.bind_some]
        rfl

/-! ## one line -/

/-- Printable ASCII. -/
def Printable (cs : List Char) : Prop := ∀ c ∈ cs, 32 ≤ c.toNat ∧ c.toNat ≤ 126

theorem Printable.append {xs ys : List Char} (hx : Printable xs) (hy : Printable ys) :
    Printable (xs ++ ys) := by
  intro c hc
  cases List.mem_append.mp hc with
  | inl h => exact hx c h
  | inr h => exact hy c h

theorem Printable.cons {c : Char} {cs : List Char} (hc : 32 ≤ c.toNat ∧ c.toNat ≤ 126)
    (h : Printable cs) : Printable (c :: cs) := by
  intro d hd
  cases List.mem_cons.mp hd with
  | inl heq => exact heq ▸ hc
  | inr hmem => exact h d hmem

theorem printable_nil : Printable [] := fun _ hc => absurd hc List.not_mem_nil

theorem printable_hexDigit : ∀ n < 16, 32 ≤ (hexDigit n).toNat ∧ (hexDigit n).toNat ≤ 126 := by
  decide

/-- An escape is written in printable characters. -/
theorem printable_escape (n : Nat) : Printable (escape n) := by
  have hdigit : ∀ k, 32 ≤ (hexDigit (k % 16)).toNat ∧ (hexDigit (k % 16)).toNat ≤ 126 := fun k =>
    printable_hexDigit _ (Nat.mod_lt k (by decide))
  exact (((((printable_nil.cons (hdigit _)).cons (hdigit _)).cons (hdigit _)).cons
    (hdigit _)).cons (by decide)).cons (by decide)

/-- What is not printable is escaped. -/
theorem printable_quoteChar (c : Char) : Printable (quoteChar c) := by
  unfold quoteChar
  split_ifs with h1 h2 h3 h4 h5 h6 h7 h8 h9
  case pos => exact (printable_nil.cons (by decide)).cons (by decide)
  case pos => exact (printable_nil.cons (by decide)).cons (by decide)
  case pos => exact (printable_nil.cons (by decide)).cons (by decide)
  case pos => exact (printable_nil.cons (by decide)).cons (by decide)
  case pos => exact (printable_nil.cons (by decide)).cons (by decide)
  case pos => exact (printable_nil.cons (by decide)).cons (by decide)
  case pos => exact (printable_nil.cons (by decide)).cons (by decide)
  case pos => exact printable_nil.cons h8
  case pos => exact printable_escape _
  case neg => exact (printable_escape _).append (printable_escape _)

/-- A string as a whole. -/
theorem printable_quote (cs : List Char) : Printable (quote cs) := by
  intro d hd
  simp only [quote, List.mem_cons, List.mem_append, List.mem_flatMap, List.not_mem_nil,
    or_false] at hd
  rcases hd with rfl | ⟨c, -, hc⟩ | rfl
  · decide
  · exact printable_quoteChar c d hc
  · decide

/-- A value. -/
theorem printable_dumpsValue (v : Value) : Printable (dumpsValue v) := by
  cases v with
  | null =>
      exact (((printable_nil.cons (by decide)).cons (by decide)).cons (by decide)).cons
        (by decide)
  | str s => exact printable_quote s.toList
  | int i =>
      have hdigits : Printable (Nat.toDigits 10 i.natAbs) := by
        intro c hc
        have hdigit := Nat.isDigit_of_mem_toDigits (by decide) (by decide) hc
        simp only [Char.isDigit, Bool.and_eq_true, decide_eq_true_eq, ge_iff_le,
          UInt32.le_iff_toNat_le] at hdigit
        have hlow : 48 ≤ c.toNat := hdigit.1
        have hhigh : c.toNat ≤ 57 := hdigit.2
        omega
      rw [dumpsValue, dumpsInt]
      split
      · exact hdigits.cons (by decide)
      · exact hdigits

/-- The members of an object. -/
theorem printable_dumpsMembers (o : Object) : Printable (dumpsMembers o) := by
  have hmember : ∀ m, Printable (dumpsMember m) := fun m =>
    (printable_quote m.1.toList).append
      (((printable_dumpsValue m.2).cons (by decide)).cons (by decide))
  induction o with
  | nil => exact printable_nil
  | cons m ms ih =>
      cases ms with
      | nil => exact hmember m
      | cons k ks =>
          exact (hmember m).append ((ih.cons (by decide)).cons (by decide))

/-- The text of an object is one line of printable ASCII. -/
theorem dumps_printable (o : Object) : Printable (dumps o).toList := by
  rw [dumps, String.toList_ofList]
  have hbrace : Printable ['}'] := printable_nil.cons (by decide)
  exact ((printable_dumpsMembers o).append hbrace).cons (by decide)

example : loads (dumps [("error", .str "5 \"µs\" \\ 🜁\n"), ("count", .int (-12)), ("unit", .null)]) =
    some [("error", .str "5 \"µs\" \\ 🜁\n"), ("count", .int (-12)), ("unit", .null)] := by
  decide +kernel

end Json
