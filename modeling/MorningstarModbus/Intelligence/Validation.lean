import MorningstarModbus.Intelligence.Resolver

/-!
# MorningstarModbus.Intelligence.Validation

The plausibility checks of a poll (`intelligence/validation.py`), and the refresh of what is
known of a device (`refresh_intelligence` of `intelligence/resolver.py`).

* `validateValues_counts` — the loop counts the values that are not finite or outside the
  envelope of their unit;
* `blames_iff` — it names the right registers exactly when a finite value that follows one
  that is not finite is outside its envelope as well;
* `refresh_replaces` — over any polls, what is weighed of telemetry is that of the last one.
-/

namespace MorningstarModbus

open Catalog Query

/-! ## values -/

namespace Catalog.RegisterValue

/-- A float that is not finite. -/
def nonFinite (v : RegisterValue) : Bool :=
  match v.value with
  | .float (.finite _) => false
  | .float _ => true
  | _ => false

/-- The number of a value, where it is finite. -/
def finiteNumber (v : RegisterValue) : Option ℚ :=
  match v.value with
  | .float (.finite x) => some x
  | .int n => some n
  | _ => none

/-- A finite number outside the envelope of its unit. -/
def outside (v : RegisterValue) : Bool := v.finiteNumber.any ( implausible v.unit)

/-- A value that fails the checks. -/
def failed (v : RegisterValue) : Bool := v.nonFinite || v.outside

def isNumber (v : RegisterValue) : Bool := v.nonFinite || v.finiteNumber.isSome

end Catalog.RegisterValue

def nonFiniteIssue (name : String) : ValidationIssue where
  code := "non-finite"
  message := name ++ " decoded to a non-finite value"
  severity := .error

def implausibleIssue (name : String) : ValidationIssue where
  code := "implausible-value"
  message := name ++ " is outside a broad physical plausibility envelope"
  severity := .error

/-- An issue shows whose it is. -/
theorem implausibleIssue_injective : Function.Injective implausibleIssue := by
  intro name name' h
  have hmessage := congrArg (fun issue => issue.message.toList) h
  simp only [implausibleIssue, String.toList_append] at hmessage
  exact String.toList_injective (List.append_cancel_right hmessage)

/-! ## the loop -/

/-- The loop of `validate_values` over named values. -/
def validateNamed (named : List RegisterValue) : Validation := named.foldl validateValue (0, [])

section Loop

variable {acc : Validation} {v : RegisterValue} {named : List RegisterValue}

/-- Whether the last issue is of an implausible value. -/
def blamedLast (issues : List ValidationIssue) : Bool :=
  issues.getLast?.any fun issue => issue.code = "implausible-value"

/-- **One turn of the loop**: a value that is not finite fails and is blamed. -/
theorem validateValue_nonFinite (h : v.nonFinite = true) :
    validateValue acc v = (acc.1 + 1, acc.2 ++ [nonFiniteIssue v.name]) := by
  unfold RegisterValue.nonFinite at h
  unfold validateValue
  split at h <;> simp_all [nonFiniteIssue]

/-- A finite one fails if it is out of its bounds; it is blamed if any has failed so far. -/
theorem validateFinite_eq {x : ℚ} (h : v.finiteNumber = some x) :
    validateFinite acc v x =
      (acc.1 + if v.outside then 1 else 0,
        if (0 < acc.1 ∨ v.outside = true) ∧ blamedLast acc.2 = false then
          acc.2 ++ [implausibleIssue v.name]
        else acc.2) := by
  have houtside : v.outside = implausible v.unit x := by rw [RegisterValue.outside, h, Option.any_some]
  have hlast : acc.2.getLast?.all (fun issue => issue.code ≠ "implausible-value") =
      !blamedLast acc.2 := by
    rw [blamedLast]
    cases acc.2.getLast? <;> simp
  have hcount : 0 < acc.1 + (if v.outside then 1 else 0) ↔ 0 < acc.1 ∨ v.outside = true := by
    cases v.outside <;> simp
  rw [validateFinite, ← houtside]
  simp only [hlast, hcount, Bool.not_eq_true', implausibleIssue]

/-- The same of a turn of the loop. -/
theorem validateValue_finite (h : v.isNumber = true) (hfinite : v.nonFinite = false) :
    validateValue acc v =
      (acc.1 + if v.outside then 1 else 0,
        if (0 < acc.1 ∨ v.outside = true) ∧ blamedLast acc.2 = false then
          acc.2 ++ [implausibleIssue v.name]
        else acc.2) := by
  rw [RegisterValue.isNumber, hfinite, Bool.false_or, Option.isSome_iff_exists] at h
  obtain ⟨x, hx⟩ := h
  rw [← validateFinite_eq hx]
  unfold RegisterValue.finiteNumber at hx
  unfold validateValue
  split at hx <;> simp_all

/-- Texts are passed over. -/
theorem validateValue_text (h : v.isNumber = false) : validateValue acc v = acc := by
  unfold RegisterValue.isNumber RegisterValue.nonFinite RegisterValue.finiteNumber at h
  unfold validateValue
  cases hvalue : v.value with
  | null => rfl
  | int n => simp [hvalue] at h
  | float x => cases x <;> simp [hvalue] at h
  | text s => rfl

/-- A turn adds at most one issue. -/
theorem validateValue_issues (acc : Validation) (v : RegisterValue) : ∃ new,
    (validateValue acc v).2 = acc.2 ++ new ∧ new.length ≤ 1 ∧
      ∀ issue ∈ new, issue.code = "non-finite" ∨ issue.code = "implausible-value" := by
  cases hnumber : v.isNumber with
  | false => exact ⟨[], by simp [validateValue_text hnumber], by simp, by simp⟩
  | true =>
      cases hv : v.nonFinite with
      | true => exact ⟨[nonFiniteIssue v.name], by simp [validateValue_nonFinite hv], by simp,
          by simp [nonFiniteIssue]⟩
      | false =>
          rw [validateValue_finite hnumber hv]
          dsimp only
          split
          · exact ⟨[implausibleIssue v.name], rfl, by simp, by simp [implausibleIssue]⟩
          · exact ⟨[], by simp, by simp, by simp⟩

/-- Issues are added, at most one for each value. -/
theorem foldl_validateValue_issues (acc : Validation) (named : List RegisterValue) : ∃ new,
    (named.foldl validateValue acc).2 = acc.2 ++ new ∧ new.length ≤ named.length ∧
      ∀ issue ∈ new, issue.code = "non-finite" ∨ issue.code = "implausible-value" := by
  induction named generalizing acc with
  | nil => exact ⟨[], by simp, by simp, by simp⟩
  | cons v named ih =>
      obtain ⟨first, hfirst, hone, hcode⟩ := validateValue_issues acc v
      obtain ⟨rest, hrest, hlength, hcodes⟩ := ih (validateValue acc v)
      refine ⟨first ++ rest, by rw [List.foldl_cons, hrest, hfirst, List.append_assoc], ?_, ?_⟩
      · rw [List.length_append, List.length_cons]
        omega
      · exact fun issue h => (List.mem_append.mp h).elim (hcode issue) (hcodes issue)

/-- Values without a number are passed over. -/
theorem validateNamed_numbers : validateNamed named = validateNamed (named.filter (·.isNumber)) := by
  have hfold : ∀ acc, named.foldl validateValue acc =
      (named.filter (·.isNumber)).foldl validateValue acc := by
    induction named with
    | nil => exact fun _ => rfl
    | cons v named ih =>
        intro acc
        cases hv : v.isNumber with
        | true => rw [List.filter_cons_of_pos hv, List.foldl_cons, List.foldl_cons, ih]
        | false =>
            rw [List.filter_cons_of_neg (by simp [hv]), List.foldl_cons, validateValue_text hv, ih]
  exact hfold _

/-- A value that the loop names as implausible: outside its envelope, the first value that fails,
or right after a value that is not finite. -/
def Blamed (numbers : List RegisterValue) (v : RegisterValue) : Prop :=
  ∃ before after, numbers = before ++ v :: after ∧ v.nonFinite = false ∧
    (before.getLast?.any RegisterValue.nonFinite = true ∨
      v.outside = true ∧ before.countP RegisterValue.failed = 0)

/-- Who is blamed after one more value. -/
theorem blamed_concat {numbers : List RegisterValue} {w : RegisterValue} :
    Blamed (numbers ++ [v]) w ↔ Blamed numbers w ∨ w = v ∧ v.nonFinite = false ∧
      (numbers.getLast?.any RegisterValue.nonFinite = true ∨
        v.outside = true ∧ numbers.countP RegisterValue.failed = 0) := by
  constructor
  · intro h
    obtain ⟨before, after, hsplit, hrest⟩ := h
    obtain rfl | ⟨after, last, rfl⟩ := List.eq_nil_or_concat after
    · obtain ⟨rfl, hv⟩ := List.append_inj' hsplit rfl
      obtain rfl : v = w := by simpa using hv
      exact .inr ⟨rfl, hrest⟩
    · rw [List.concat_eq_append, ← List.cons_append, ← List.append_assoc] at hsplit
      obtain ⟨rfl, -⟩ := List.append_inj' hsplit rfl
      exact .inl ⟨before, after, rfl, hrest⟩
  · intro h
    obtain ⟨before, after, rfl, hrest⟩ | ⟨rfl, hrest⟩ := h
    · exact ⟨before, after ++ [v], by simp, hrest⟩
    · exact ⟨numbers, [], rfl, hrest⟩

/-- What the loop has of the numbers it has seen. -/
structure ValidationOf (numbers : List RegisterValue) (acc : Validation) : Prop where
  count : acc.1 = numbers.countP RegisterValue.failed
  nonFinite : acc.2.filter (fun issue => issue.code = "non-finite") =
    (numbers.filter RegisterValue.nonFinite).map fun v => nonFiniteIssue v.name
  blames : ∀ issue, issue ∈ acc.2 ∧ issue.code = "implausible-value" ↔
    ∃ v, Blamed numbers v ∧ issue = implausibleIssue v.name
  last : blamedLast acc.2 = true ↔ numbers.countP RegisterValue.failed ≠ 0 ∧
    numbers.getLast?.any RegisterValue.nonFinite = false

/-- A value that is not finite. -/
theorem ValidationOf.nonFinite_turn {numbers : List RegisterValue} (h : ValidationOf numbers acc)
    (hv : v.nonFinite = true) : ValidationOf (numbers ++ [v]) (validateValue acc v) := by
  rw [validateValue_nonFinite hv]
  have hfailed : v.failed = true := by rw [RegisterValue.failed, hv, Bool.true_or]
  exact {
    count := by simp [h.count, hfailed]
    nonFinite := by simp [List.filter_append, h.nonFinite, hv, nonFiniteIssue]
    blames := by
      intro issue
      have hother : issue = nonFiniteIssue v.name → issue.code ≠ "implausible-value" := by
        intro hissue
        simp [hissue, nonFiniteIssue]
      simp only [blamed_concat, hv, List.mem_append, List.mem_singleton, Bool.true_eq_false,
        false_and, and_false, or_false, ← h.blames]
      grind
    last := by simp [blamedLast, nonFiniteIssue, hv] }

/-- A finite value. -/
theorem ValidationOf.finite_turn {numbers : List RegisterValue} (h : ValidationOf numbers acc)
    (hnumber : v.isNumber = true) (hv : v.nonFinite = false) :
    ValidationOf (numbers ++ [v]) (validateValue acc v) := by
  rw [validateValue_finite hnumber hv]
  have hfailed : v.failed = v.outside := by rw [RegisterValue.failed, hv, Bool.false_or]
  have hlast : numbers.getLast?.any RegisterValue.nonFinite = true →
      numbers.countP RegisterValue.failed ≠ 0 := by
    intro hlast
    obtain ⟨u, hu, hnonFinite⟩ := (Option.any_eq_true _ _).mp hlast
    have hpos := List.countP_pos_iff.mpr
      ⟨u, List.mem_of_getLast? hu, show u.failed = true by simp [RegisterValue.failed, hnonFinite]⟩
    omega
  have hblames : ((0 < acc.1 ∨ v.outside = true) ∧ blamedLast acc.2 = false) ↔
      (numbers.getLast?.any RegisterValue.nonFinite = true ∨
        v.outside = true ∧ numbers.countP RegisterValue.failed = 0) := by
    have hcount := h.count
    have hblamed := h.last
    grind
  have hcount : acc.1 + (if v.outside then 1 else 0) =
      (numbers ++ [v]).countP RegisterValue.failed := by
    simp [h.count, hfailed]
  by_cases hblamed : (0 < acc.1 ∨ v.outside = true) ∧ blamedLast acc.2 = false
  · rw [if_pos hblamed]
    exact {
      count := hcount
      nonFinite := by simp [List.filter_append, h.nonFinite, hv, implausibleIssue]
      blames := by
        intro issue
        have hhere := h.blames issue
        have hcode : (implausibleIssue v.name).code = "implausible-value" := rfl
        simp only [blamed_concat, hv, ← hblames, hblamed, List.mem_append, List.mem_singleton]
        grind
      last := by
        have hsome : acc.1 = 0 → v.outside = true := by grind
        rw [← hcount]
        simpa [blamedLast, implausibleIssue, hv] using hsome }
  · rw [if_neg hblamed]
    exact {
      count := hcount
      nonFinite := by simp [List.filter_append, h.nonFinite, hv]
      blames := by
        intro issue
        simp only [blamed_concat, ← hblames, hblamed, and_false, or_false]
        exact h.blames issue
      last := by
        have hbefore := h.last
        have hzero := h.count
        simp only [List.countP_append, List.countP_singleton, hfailed, List.getLast?_append,
          List.getLast?_singleton, Option.some_or, Option.any_some, hv]
        grind }

/-- **The loop** over numbers, by induction from the end. -/
theorem validateNamed_spec {numbers : List RegisterValue} (h : ∀ v ∈ numbers, v.isNumber = true) :
    ValidationOf numbers (validateNamed numbers) := by
  induction numbers using List.reverseRecOn with
  | nil =>
      exact {
        count := rfl
        nonFinite := rfl
        blames := by simp [validateNamed, Blamed]
        last := by simp [validateNamed, blamedLast] }
  | append_singleton numbers v ih =>
      have hbefore := ih fun u hu => h u (List.mem_append_left _ hu)
      have hnumber := h v (List.mem_append_right _ List.mem_cons_self)
      have hturn : validateNamed (numbers ++ [v]) = validateValue (validateNamed numbers) v := by
        rw [validateNamed, List.foldl_append]
        rfl
      rw [hturn]
      cases hv : v.nonFinite with
      | true => exact hbefore.nonFinite_turn hv
      | false => exact hbefore.finite_turn hnumber hv

end Loop

/-! ## blame -/

/-- The failed evidence of a number of values. -/
def failedEvidence (count : Nat) : IntelligenceEvidence where
  code := "telemetry-plausibility"
  message := toString count ++ " decoded value(s) failed plausibility checks"
  weight := 30 / 100
  passed := false

/-- The checks name the right registers, and count them. -/
structure BlamesRight (values : List RegisterValue) : Prop where
  blames : ∀ issue ∈ (validateValues values).2, issue.code = "implausible-value" →
    ∃ v ∈ namedValues values, v.outside = true ∧ issue = implausibleIssue v.name
  nonFinite : (validateValues values).2.filter (fun issue => issue.code = "non-finite") =
    ((namedValues values).filter RegisterValue.nonFinite).map fun v => nonFiniteIssue v.name
  failed : (validateValues values).1.filter (fun e => !e.passed) =
    if (namedValues values).countP RegisterValue.failed = 0 then []
    else [failedEvidence ((namedValues values).countP RegisterValue.failed)]

/-- A finite value right after one that is not, texts left out, is outside its envelope: it, or
another one of its name. -/
def FiniteAfterNonFinite (named : List RegisterValue) : Prop :=
  ∀ u v, [u, v] <:+: named.filter RegisterValue.isNumber → u.nonFinite = true →
    v.nonFinite = false → ∃ w ∈ named, w.outside = true ∧ w.name = v.name

section Blame

variable {values named : List RegisterValue} {v : RegisterValue}

/-- Only numbers fail. -/
theorem isNumber_of_failed (h : v.failed = true) : v.isNumber = true := by
  simp only [RegisterValue.failed, RegisterValue.outside, RegisterValue.isNumber] at h ⊢
  cases hx : v.finiteNumber <;> simp_all

/-- What the checks have of the named values. -/
theorem validationOf_named (named : List RegisterValue) :
    ValidationOf (named.filter RegisterValue.isNumber) (validateNamed named) := by
  rw [validateNamed_numbers]
  exact validateNamed_spec fun v hv => (List.mem_filter.mp hv).2

/-- So it does not matter that texts are passed over. -/
theorem countP_failed_numbers :
    (named.filter RegisterValue.isNumber).countP RegisterValue.failed =
      named.countP RegisterValue.failed := by
  rw [List.countP_filter]
  exact List.countP_congr fun v _ => by
    have h := isNumber_of_failed (v := v)
    grind

/-- The count is that of the values that are not finite or outside their envelopes. -/
theorem validateValues_counts :
    (validateNamed (namedValues values)).1 = (namedValues values).countP RegisterValue.failed :=
  (validationOf_named _).count.trans countP_failed_numbers

/-- All values that are not finite are named, in their order. -/
theorem validateValues_nonFinite :
    (validateValues values).2.filter (fun issue => issue.code = "non-finite") =
      ((namedValues values).filter RegisterValue.nonFinite).map fun v => nonFiniteIssue v.name := by
  have hissues := (validationOf_named (namedValues values)).nonFinite
  rw [List.filter_filter] at hissues
  have hnumbers : (namedValues values).filter (fun v => v.nonFinite && v.isNumber) =
      (namedValues values).filter RegisterValue.nonFinite :=
    List.filter_congr fun v _ => by simp only [RegisterValue.isNumber]; grind
  rw [hnumbers] at hissues
  exact hissues

/-- One evidence counts all failures. -/
theorem validateValues_failed :
    (validateValues values).1.filter (fun e => !e.passed) =
      if (namedValues values).countP RegisterValue.failed = 0 then []
      else [failedEvidence ((namedValues values).countP RegisterValue.failed)] := by
  have hcount := @validateValues_counts values
  rw [← hcount]
  unfold validateValues validateNamed
  by_cases hzero : ((namedValues values).foldl validateValue (0, [])).1 = 0
  · by_cases hnone : namedValues values = [] <;> simp [hzero, hnone]
  · have hpos : 0 < ((namedValues values).foldl validateValue (0, [])).1 := by omega
    by_cases hnone : namedValues values = []
    · simp [hnone] at hpos
    · simp [hzero, hpos, hnone, failedEvidence]

/-- **Blame.**  The checks name the right registers exactly when each finite value that follows a
value that is not finite is outside its envelope as well. -/
theorem blames_iff (values : List RegisterValue) :
    BlamesRight values ↔ FiniteAfterNonFinite (namedValues values) := by
  have hnamed := validationOf_named (namedValues values)
  constructor
  · intro h u v hadjacent hu hv
    obtain ⟨before, after, hsplit⟩ := hadjacent
    have hblamed : Blamed ((namedValues values).filter RegisterValue.isNumber) v := by
      refine ⟨before ++ [u], after, by simp [← hsplit], hv, .inl ?_⟩
      simp [hu]
    have hissue := (hnamed.blames (implausibleIssue v.name)).mpr ⟨v, hblamed, rfl⟩
    obtain ⟨w, hw, houtside, hname⟩ := h.blames _ hissue.1 hissue.2
    exact ⟨w, hw, houtside, (implausibleIssue_injective hname).symm⟩
  · intro h
    refine ⟨fun issue hissue hcode => ?_, validateValues_nonFinite, validateValues_failed⟩
    obtain ⟨v, ⟨before, after, hsplit, hfinite, hcause⟩, rfl⟩ :=
      (hnamed.blames issue).mp ⟨hissue, hcode⟩
    cases hcause with
    | inl hlast =>
        obtain ⟨u, hu, hnonFinite⟩ := (Option.any_eq_true _ _).mp hlast
        obtain ⟨earlier, rfl⟩ := List.getLast?_eq_some_iff.mp hu
        have hadjacent : [u, v] <:+: (namedValues values).filter RegisterValue.isNumber :=
          ⟨earlier, after, by simp [hsplit]⟩
        obtain ⟨w, hw, houtside, hname⟩ := h u v hadjacent hnonFinite hfinite
        exact ⟨w, hw, houtside, by rw [hname]⟩
    | inr hfirst =>
        have hmem : v ∈ (namedValues values).filter RegisterValue.isNumber := by simp [hsplit]
        exact ⟨v, List.mem_of_mem_filter hmem, hfirst.1, rfl⟩

/-- A voltage that could not be decoded, and a good one after it. -/
def blamedValues : List RegisterValue :=
  [{ name := "array_voltage", address := 0x1B, function := .holding, raw := [0x7E00]
     value := .float .nan, unit := some "V" },
   { name := "battery_voltage", address := 0x18, function := .holding, raw := [0x4A66]
     value := .float (.finite 12), unit := some "V" }]

/-- The good one is named. -/
theorem not_blamesRight : ¬ BlamesRight blamedValues := by
  intro h
  obtain ⟨v, hv, houtside, -⟩ :=
    h.blames (implausibleIssue "battery_voltage") (by decide +kernel) rfl
  have hnone : ∀ v ∈ namedValues blamedValues, v.outside = false := by decide +kernel
  rw [hnone v hv] at houtside
  cases houtside

end Blame

/-! ## refresh -/

/-- A code that evidence of telemetry can have. -/
def EvidenceOfTelemetry (code : String) : Prop :=
  ∃ values, ∃ e ∈ (validateValues values).1, e.code = code

/-- A code that an issue of telemetry can have. -/
def IssueOfTelemetry (code : String) : Prop :=
  ∃ values, ∃ issue ∈ (validateValues values).2, issue.code = code

/-- The validation adds two pieces of evidence at most. -/
theorem length_evidence_le (values : List RegisterValue) : (validateValues values).1.length ≤ 2 := by
  unfold validateValues
  dsimp only
  split_ifs <;> simp

/-- The codes of the evidence that a refresh replaces. -/
theorem evidenceOfTelemetry_iff (code : String) :
    EvidenceOfTelemetry code ↔ code = "named-registers" ∨ code = "telemetry-plausibility" := by
  constructor
  · intro h
    obtain ⟨values, e, he, rfl⟩ := h
    unfold validateValues at he
    dsimp only at he
    grind
  · intro h
    refine ⟨[{ name := "soc", address := 0, function := .holding, raw := [0], value := .int 0 }], ?_⟩
    obtain rfl | rfl := h <;> decide +kernel

/-- And of the issues. -/
theorem issueOfTelemetry_iff (code : String) :
    IssueOfTelemetry code ↔ code = "non-finite" ∨ code = "implausible-value" := by
  constructor
  · intro h
    obtain ⟨values, issue, hissue, rfl⟩ := h
    obtain ⟨new, hnew, -, hcode⟩ := foldl_validateValue_issues (0, []) (namedValues values)
    rw [List.nil_append] at hnew
    exact hcode issue (hnew ▸ hissue)
  · intro h
    refine ⟨blamedValues, ?_⟩
    obtain rfl | rfl := h <;> decide +kernel

theorem length_issues_le (values : List RegisterValue) :
    (validateValues values).2.length ≤ (namedValues values).length := by
  obtain ⟨new, hnew, hlength, -⟩ := foldl_validateValue_issues (0, []) (namedValues values)
  rw [List.nil_append] at hnew
  exact (congrArg List.length hnew).trans_le hlength

instance (code : String) : Decidable (EvidenceOfTelemetry code) :=
  decidable_of_iff _ (evidenceOfTelemetry_iff code).symm

instance (code : String) : Decidable (IssueOfTelemetry code) :=
  decidable_of_iff _ (issueOfTelemetry_iff code).symm

/-- A limit of a verified firmware has a number in it. -/
def ResolverEnv.LimitsVersioned (env : ResolverEnv) : Prop :=
  ∀ name limit, (env.profileByName name).firmwareVerifiedMax = some limit →
    limit = "" ∨ versionTuple limit ≠ []

/-- `y` is `x` with what was weighed of telemetry replaced by what `values` weigh. -/
structure RefreshedBy (values : List RegisterValue) (x y : ResolvedIntelligence) : Prop where
  evidence : y.evidence =
    x.evidence.filter (fun e => ¬ EvidenceOfTelemetry e.code) ++ (validateValues values).1
  warnings : y.warnings =
    x.warnings.filter (fun issue => ¬ IssueOfTelemetry issue.code) ++ (validateValues values).2
  evidence_length : y.evidence.length ≤
    (x.evidence.filter fun e => ¬ EvidenceOfTelemetry e.code).length + 2
  warnings_length : y.warnings.length ≤
    (x.warnings.filter fun issue => ¬ IssueOfTelemetry issue.code).length +
      (namedValues values).length
  confidence : 0 ≤ y.confidence ∧ y.confidence ≤ 1

section Refresh

variable {env : ResolverEnv} {x y : ResolvedIntelligence} {values earlier : List RegisterValue}
  {endpoint endpoint' : Option Endpoint}

/-- A score is a share. -/
theorem score_mem (evidence : List IntelligenceEvidence) :
    0 ≤ score evidence ∧ score evidence ≤ 1 := by
  simp [score]

/-- A refresh replaces the evidence of the telemetry. -/
theorem refreshedEvidence_eq : refreshedEvidence x values =
    x.evidence.filter (fun e => ¬ EvidenceOfTelemetry e.code) ++ (validateValues values).1 := by
  simp only [refreshedEvidence, evidenceOfTelemetry_iff, not_or]

/-- And its warnings. -/
theorem refreshedWarnings_eq : refreshedWarnings x values =
    x.warnings.filter (fun issue => ¬ IssueOfTelemetry issue.code) ++ (validateValues values).2 := by
  simp only [refreshedWarnings, issueOfTelemetry_iff, not_or]

/-- What a refresh returns. -/
theorem refreshIntelligence_spec (h : refreshIntelligence env x values endpoint = .ok y) :
    RefreshedBy values x y ∧ y.profile = x.profile ∧
      ∃ confidence status capabilities evidence warnings,
        y = { x with confidence, status, capabilities, evidence, warnings } := by
  simp only [refreshIntelligence, Loop.bind_eq_ok, Loop.pure_eq_ok, Except.ok.injEq] at h
  obtain ⟨status, -, rfl⟩ := h
  refine ⟨?_, rfl, _, _, _, _, _, rfl⟩
  have hevidence := length_evidence_le values
  have hissues := length_issues_le values
  exact {
    evidence := refreshedEvidence_eq
    warnings := refreshedWarnings_eq
    evidence_length := by
      rw [refreshedEvidence_eq, List.length_append]
      omega
    warnings_length := by
      rw [refreshedWarnings_eq, List.length_append]
      omega
    confidence := score_mem _ }

/-- What was weighed of an earlier poll does not matter. -/
theorem refresh_of_refreshed (h : refreshIntelligence env x earlier endpoint' = .ok y) :
    refreshIntelligence env y values endpoint = refreshIntelligence env x values endpoint := by
  obtain ⟨hrefreshed, -, confidence, status, capabilities, evidence, warnings, rfl⟩ :=
    refreshIntelligence_spec h
  obtain ⟨y, hy⟩ : ∃ y, y = { x with confidence, status, capabilities, evidence, warnings } :=
    ⟨_, rfl⟩
  rw [← hy] at hrefreshed ⊢
  have hevidence : refreshedEvidence y values = refreshedEvidence x values := by
    have hnone : (validateValues earlier).1.filter (fun e => ¬ EvidenceOfTelemetry e.code) = [] :=
      List.filter_eq_nil_iff.mpr fun e he => by simpa using ⟨earlier, e, he, rfl⟩
    rw [refreshedEvidence_eq, refreshedEvidence_eq, hrefreshed.evidence, List.filter_append,
      List.filter_filter, hnone, List.append_nil]
    simp only [Bool.and_self]
  have hwarnings : refreshedWarnings y values = refreshedWarnings x values := by
    have hnone : (validateValues earlier).2.filter (fun i => ¬ IssueOfTelemetry i.code) = [] :=
      List.filter_eq_nil_iff.mpr fun i hi => by simpa using ⟨earlier, i, hi, rfl⟩
    rw [refreshedWarnings_eq, refreshedWarnings_eq, hrefreshed.warnings, List.filter_append,
      List.filter_filter, hnone, List.append_nil]
    simp only [Bool.and_self]
  simp only [refreshIntelligence, hevidence, hwarnings]
  simp only [hy]

/-- A refresh does not raise. -/
theorem exists_refresh (henv : env.LimitsVersioned) (x : ResolvedIntelligence)
    (values : List RegisterValue) (endpoint : Option Endpoint) :
    ∃ y, refreshIntelligence env x values endpoint = .ok y := by
  have hnewer : ∀ spec : DeviceProfileSpec, (∀ limit, spec.firmwareVerifiedMax = some limit →
      limit = "" ∨ versionTuple limit ≠ []) → ∃ newer, isNewer spec x.firmware = .ok newer := by
    intro spec hspec
    unfold isNewer
    split
    next => exact ⟨false, rfl⟩
    next limit hlimit =>
      split
      next => exact ⟨false, rfl⟩
      next hfirmware =>
        obtain ⟨hlimit, hne⟩ := Option.filter_eq_some_iff.mp hlimit
        have hversion : versionTuple limit ≠ [] :=
          (hspec limit hlimit).resolve_left (by simpa using hne)
        rw [compareVersions, if_neg (by simp [hfirmware, hversion])]
        exact ⟨_, rfl⟩
  obtain ⟨newer, hnewer⟩ := hnewer (env.profileByName x.profile) (henv x.profile)
  have hstatus : ∀ confidence warnings, ∃ status, intelligenceStatus
      (env.profileByName x.profile) confidence x.firmware warnings = .ok status := by
    intro confidence warnings
    unfold intelligenceStatus
    rw [hnewer]
    split
    · exact ⟨_, rfl⟩
    · split
      · exact ⟨_, rfl⟩
      · cases newer with
        | true => exact ⟨_, rfl⟩
        | false =>
            by_cases h85 : 85 / 100 ≤ confidence
            · exact ⟨.verified, by simp [Loop.ok_bind, h85]⟩
            · by_cases h60 : 60 / 100 ≤ confidence
              · exact ⟨.probable, by simp [Loop.ok_bind, h85, h60]⟩
              · exact ⟨.familyOnly, by simp [Loop.ok_bind, h85, h60]⟩
  obtain ⟨status, hstatus⟩ := hstatus (score (refreshedEvidence x values))
    (refreshedWarnings x values)
  simp only [refreshIntelligence, hstatus, Loop.ok_bind]
  exact ⟨_, rfl⟩

/-- The polls before the last one do not matter. -/
theorem refresh_after_polls (henv : env.LimitsVersioned)
    (polls : List (List RegisterValue × Option Endpoint)) (x : ResolvedIntelligence) :
    (polls.foldlM (fun y poll => refreshIntelligence env y poll.1 poll.2) x >>= fun y =>
      refreshIntelligence env y values endpoint) = refreshIntelligence env x values endpoint := by
  induction polls generalizing x with
  | nil => rfl
  | cons poll polls ih =>
      obtain ⟨y, hy⟩ := exists_refresh henv x poll.1 poll.2
      rw [List.foldlM_cons, hy, Loop.ok_bind, ih, refresh_of_refreshed hy]

end Refresh

/-- **Refreshing does not accumulate.**  After any polls a refresh is that of the last one alone;
what is not of telemetry is kept, and the record is no longer than that and the last poll. -/
theorem refresh_replaces (env : ResolverEnv) (henv : env.LimitsVersioned) (x : ResolvedIntelligence)
    (polls : List (List RegisterValue × Option Endpoint)) (values : List RegisterValue)
    (endpoint : Option Endpoint) :
    (polls.foldlM (fun y poll => refreshIntelligence env y poll.1 poll.2) x >>= fun y =>
        refreshIntelligence env y values endpoint) = refreshIntelligence env x values endpoint ∧
      ∃ y, refreshIntelligence env x values endpoint = .ok y ∧ RefreshedBy values x y := by
  obtain ⟨y, hy⟩ := exists_refresh henv x values endpoint
  exact ⟨refresh_after_polls henv polls x, y, hy, (refreshIntelligence_spec hy).1⟩

/-- A catalog whose one profile was verified up to a firmware. -/
def verifiedCatalog : ResolverEnv where
  casefold := id
  floatText := fixed2
  selectSpec := fun _ _ => { name := "generic", family := "generic" }
  profileByName := fun name =>
    { name, family := "prostar", capabilities := ["charge"], firmwareVerifiedMax := some "3.0" }

/-- What is known of a device of that profile. -/
def verifiedIntelligence : ResolvedIntelligence where
  profile := "prostar_mppt"
  family := "prostar"
  firmware := "2.1"
  evidence := [{ code := "vendor", message := "Morningstar vendor identity matched",
                 weight := 28 / 100 }]

/-- A poll with a value that could not be decoded, and one without. -/
theorem refresh_replaces_recovered :
    ([(blamedValues, none)].foldlM (fun y poll =>
          refreshIntelligence verifiedCatalog y poll.1 poll.2) verifiedIntelligence >>= fun y =>
        refreshIntelligence verifiedCatalog y (blamedValues.drop 1) none) =
      refreshIntelligence verifiedCatalog verifiedIntelligence (blamedValues.drop 1) none ∧
    ∃ y, refreshIntelligence verifiedCatalog verifiedIntelligence (blamedValues.drop 1) none =
      .ok y ∧ RefreshedBy (blamedValues.drop 1) verifiedIntelligence y := by
  refine refresh_replaces verifiedCatalog ?_ verifiedIntelligence [(blamedValues, none)] _ none
  intro name limit hlimit
  obtain rfl : "3.0" = limit := Option.some.inj hlimit
  exact .inr (by decide +kernel)

end MorningstarModbus
