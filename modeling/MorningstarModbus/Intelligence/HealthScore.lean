import Mathlib.Algebra.Order.BigOperators.Group.List
import Mathlib.Data.Prod.Lex
import MorningstarModbus.Intelligence.IncidentEvents
import MorningstarModbus.Lib.Query

/-!
# MorningstarModbus.Intelligence.HealthScore

The health score of a system (`health_score` of `intelligence/incidents.py`): twenty
points for each of five categories, less the penalties of its active incidents, which are
taken off one by one and never below zero.

* `foldl_penalize` — the penalties of a category come off as their sum;
* `healthScore_antitone` — the score depends on the incidents only, not on their order,
  and falls with each of them and with its severity.
-/

namespace MorningstarModbus

open Query Table

/-! ## active incidents -/

structure IncidentFilter where
  systemUid : Option String := none
  controllerUid : Option String := none
  state : Option IncidentState := none
  severity : Option Severity := none

def IncidentFilter.selects (f : IncidentFilter) (r : IncidentRow) : Bool :=
  f.systemUid.all (· = r.systemUid) && f.controllerUid.all (some · = r.controllerUid) &&
    f.state.all (· = r.state) && f.severity.all (· = r.severity)

/-- `ORDER BY CASE state WHEN 'active' THEN 0 ELSE 1 END, updated_at DESC, opened_at DESC` -/
def IncidentRow.listKey (r : IncidentRow) : Nat ×ₗ Natᵒᵈ ×ₗ Natᵒᵈ :=
  toLex (if r.isActive then 0 else 1,
    toLex (OrderDual.toDual r.updatedAt, OrderDual.toDual r.openedAt))

/-- `IncidentStore.list` -/
def IncidentStore.list (plan : Plan IncidentRow) (f : IncidentFilter) (limit : Int)
    (db : IncidentDb) : List IncidentRow :=
  limitRows (some (max 1 (min limit 5000)))
    (orderBy IncidentRow.listKey .asc (plan.rows (db.rows.filter f.selects)))

/-- What is read of an incident of the list. -/
structure ListedIncident where
  incidentUid : Option String
  category : Option String
  severity : Option String
  title : Option String
  deriving DecidableEq

def IncidentRow.listed (r : IncidentRow) : ListedIncident where
  incidentUid := some r.incidentUid
  category := some r.category.text
  severity := some r.severity.text
  title := some r.title

/-! ## the score -/

/-- `str(value or default)` -/
def textOr (value : Option String) (default : String) : String :=
  match value with
  | none => default
  | some s => if s = "" then default else s

def ListedIncident.categoryText (i : ListedIncident) : String := textOr i.category "data_integrity"

def ListedIncident.severityText (i : ListedIncident) : String := textOr i.severity "info"

/-- `weights` -/
def weights : List (String × Int) := [("info", 2), ("warning", 8), ("critical", 20)]

/-- `weights.get(severity, 2)` -/
def penaltyOf (severity : String) : Int := (weights.lookup severity).getD 2

def ListedIncident.penalty (i : ListedIncident) : Int := penaltyOf i.severityText

/-- The keys of `category_scores`. -/
def healthCategories : List String :=
  ["production", "charging", "battery", "communications", "data_integrity"]

/-- A turn of the loop; a category that is not scored is passed over. -/
def penalize (scores : List (String × Int)) (i : ListedIncident) : List (String × Int) :=
  scores.map fun c => if c.1 = i.categoryText then (c.1, max 0 (c.2 - i.penalty)) else c

/-- `category_scores` after the loop. -/
def categoryScores (incidents : List ListedIncident) : List (String × Int) :=
  incidents.foldl penalize (healthCategories.map fun category => (category, 20))

/-- What is shown of a penalty. -/
structure Penalty where
  incidentUid : Option String
  category : String
  severity : String
  penalty : Int
  title : Option String
  deriving DecidableEq

structure HealthScore where
  systemUid : String
  controllerUid : Option String
  score : Int
  status : String
  components : List (String × Int)
  activeIncidents : Nat
  penalties : List Penalty
  semantics : String := "transparent evidence-backed score; penalties link to active incidents"
  deriving DecidableEq

/-- What is returned of the active incidents. -/
def healthScoreOf (systemUid : String) (controllerUid : Option String)
    (incidents : List ListedIncident) : HealthScore :=
  let components := categoryScores incidents
  let score := (components.map Prod.snd).sum
  { systemUid
    controllerUid
    score
    status := if 85 ≤ score then "good" else if 60 ≤ score then "warning" else "critical"
    components
    activeIncidents := incidents.length
    penalties := incidents.map fun i =>
      { incidentUid := i.incidentUid
        category := i.categoryText
        severity := i.severityText
        penalty := i.penalty
        title := i.title } }

/-- `health_score`, with the scan that precedes it where there is one. -/
def healthScore (ienv : IncidentEnv) (env : Env) (policy : IncidentPolicy)
    (plan : Plan IncidentRow) (systemUid : String) (controllerUid : Option String)
    (scan : Option ScanAttempt) : SiteProgram HealthScore := do
  match scan with
  | none => pure ()
  | some attempt => siteScan ienv env policy attempt
  let s ← get
  return healthScoreOf systemUid controllerUid ((IncidentStore.list plan
    { systemUid := some systemUid, controllerUid, state := some .active } 1000
      s.incidents).map IncidentRow.listed)

/-! ## the closed form -/

/-- The penalties of a category. -/
def penalties (category : String) (incidents : List ListedIncident) : Int :=
  ((incidents.filter fun i => i.categoryText = category).map ListedIncident.penalty).sum

/-- The penalties, severity by severity. -/
theorem penaltyOf_eq (severity : String) :
    penaltyOf severity =
      if severity = "critical" then 20 else if severity = "warning" then 8 else 2 := by
  by_cases hinfo : severity = "info"
  · rw [hinfo]
    decide
  · by_cases hwarning : severity = "warning"
    · rw [hwarning]
      decide
    · by_cases hcritical : severity = "critical"
      · rw [hcritical]
        decide
      · simp [penaltyOf, weights, lookup_cons_of_ne, hinfo, hwarning, hcritical]

/-- An incident never raises a score. -/
theorem penalty_nonneg (i : ListedIncident) : 0 ≤ i.penalty := by
  rw [ListedIncident.penalty, penaltyOf_eq]
  grind

/-- Each incident counts in its own category. -/
theorem penalties_cons (category : String) (i : ListedIncident) (incidents : List ListedIncident) :
    penalties category (i :: incidents) =
      (if category = i.categoryText then i.penalty else 0) + penalties category incidents := by
  by_cases h : i.categoryText = category
  · simp [penalties, h]
  · simp [penalties, h, Ne.symm h]

/-- A sum of penalties is none. -/
theorem penalties_nonneg (category : String) (incidents : List ListedIncident) :
    0 ≤ penalties category incidents := by
  induction incidents with
  | nil => exact le_refl 0
  | cons i incidents ih =>
      have hpenalty := penalty_nonneg i
      rw [penalties_cons]
      split <;> omega

/-- The penalties of a category come off as their sum. -/
theorem foldl_penalize (incidents : List ListedIncident) (scores : List (String × Int))
    (h : ∀ c ∈ scores, 0 ≤ c.2) :
    incidents.foldl penalize scores =
      scores.map fun c => (c.1, max 0 (c.2 - penalties c.1 incidents)) := by
  induction incidents generalizing scores with
  | nil =>
      have hself : ∀ c ∈ scores, (c.1, max 0 (c.2 - penalties c.1 [])) = c := by
        intro c hc
        have hnonneg := h c hc
        simp [penalties, hnonneg]
      exact (List.map_id' scores).symm.trans (List.map_congr_left fun c hc => (hself c hc).symm)
  | cons i incidents ih =>
      have hkept : ∀ c ∈ penalize scores i, 0 ≤ c.2 := by
        intro c hc
        obtain ⟨d, hd, rfl⟩ := List.mem_map.mp hc
        have hnonneg := h d hd
        split
        · exact le_max_left _ _
        · exact hnonneg
      rw [List.foldl_cons, ih _ hkept, penalize, List.map_map]
      refine List.map_congr_left fun c hc => ?_
      -- what is taken off first is capped at zero, which the rest is taken off of
      have hnonneg := h c hc
      have hrest := penalties_nonneg c.1 incidents
      have hpenalty := penalty_nonneg i
      rw [Function.comp_apply, penalties_cons]
      split
      · simp only [Prod.mk.injEq, true_and]
        omega
      · simp

/-- The score is the sum over the categories. -/
theorem score_eq (systemUid : String) (controllerUid : Option String)
    (incidents : List ListedIncident) :
    (healthScoreOf systemUid controllerUid incidents).score =
      (healthCategories.map fun category => max 0 (20 - penalties category incidents)).sum := by
  have hstart : ∀ c ∈ healthCategories.map fun category => (category, (20 : Int)), 0 ≤ c.2 := by
    decide
  simp only [healthScoreOf, categoryScores]
  rw [foldl_penalize incidents _ hstart, List.map_map, List.map_map]
  rfl

/-! ## more and graver incidents -/

/-- Severities in order; one that is not known counts as `info`. -/
def severityRank (severity : String) : Nat :=
  if severity = "critical" then 2 else if severity = "warning" then 1 else 0

/-- The same category, no less severe. -/
def ListedIncident.RaisedTo (i i' : ListedIncident) : Prop :=
  i'.categoryText = i.categoryText ∧ severityRank i.severityText ≤ severityRank i'.severityText

/-- A higher severity costs at least as much. -/
theorem ListedIncident.RaisedTo.penalty_le {i i' : ListedIncident} (h : i.RaisedTo i') :
    i.penalty ≤ i'.penalty := by
  have hrank := h.2
  rw [penalty, penalty, penaltyOf_eq, penaltyOf_eq]
  simp only [severityRank] at hrank
  grind

/-- The order of the incidents is no matter. -/
theorem penalties_perm {incidents incidents' : List ListedIncident} (h : incidents.Perm incidents')
    (category : String) : penalties category incidents = penalties category incidents' :=
  ((h.filter _).map _).sum_eq

/-- The score falls as the penalties of every category rise. -/
theorem score_le {systemUid : String} {controllerUid : Option String}
    {incidents incidents' : List ListedIncident}
    (h : ∀ category, penalties category incidents ≤ penalties category incidents') :
    (healthScoreOf systemUid controllerUid incidents').score ≤
      (healthScoreOf systemUid controllerUid incidents).score := by
  rw [score_eq, score_eq]
  refine List.sum_le_sum fun category _ => ?_
  have hcategory := h category
  omega

/-- The score is clamped. -/
theorem score_bounds (systemUid : String) (controllerUid : Option String)
    (incidents : List ListedIncident) :
    0 ≤ (healthScoreOf systemUid controllerUid incidents).score ∧
      (healthScoreOf systemUid controllerUid incidents).score ≤ 100 := by
  have hnonneg := fun category => penalties_nonneg category incidents
  rw [score_eq]
  constructor
  · exact List.sum_nonneg fun x hx => by
      obtain ⟨category, -, rfl⟩ := List.mem_map.mp hx
      exact le_max_left _ _
  · calc (healthCategories.map fun category => max 0 (20 - penalties category incidents)).sum
        ≤ (healthCategories.map fun _ => (20 : Int)).sum := by
          refine List.sum_le_sum fun category _ => ?_
          have hcategory := hnonneg category
          omega
      _ = 100 := by decide

/-- The score does not depend on the order of the incidents, is the sum over the categories of
what their penalties leave of twenty, lies between 0 and 100, and does not rise with another
incident or with a graver one. -/
theorem healthScore_antitone (systemUid : String) (controllerUid : Option String)
    (incidents : List ListedIncident) :
    (∀ incidents', incidents'.Perm incidents →
      (healthScoreOf systemUid controllerUid incidents').score =
        (healthScoreOf systemUid controllerUid incidents).score) ∧
    (healthScoreOf systemUid controllerUid incidents).score =
      (healthCategories.map fun category => max 0 (20 - penalties category incidents)).sum ∧
    0 ≤ (healthScoreOf systemUid controllerUid incidents).score ∧
    (healthScoreOf systemUid controllerUid incidents).score ≤ 100 ∧
    (∀ before after new, incidents = before ++ after →
      (healthScoreOf systemUid controllerUid (before ++ new :: after)).score ≤
        (healthScoreOf systemUid controllerUid incidents).score) ∧
    (∀ before after i i', incidents = before ++ i :: after → i.RaisedTo i' →
      (healthScoreOf systemUid controllerUid (before ++ i' :: after)).score ≤
        (healthScoreOf systemUid controllerUid incidents).score) := by
  obtain ⟨hnonneg, hle⟩ := score_bounds systemUid controllerUid incidents
  refine ⟨?_, score_eq systemUid controllerUid incidents, hnonneg, hle, ?_, ?_⟩
  · intro incidents' hperm
    rw [score_eq, score_eq]
    simp only [penalties_perm hperm]
  · intro before after new hsplit
    refine score_le fun category => ?_
    have hpenalty := penalty_nonneg new
    rw [hsplit, penalties_perm List.perm_middle, penalties_cons]
    split <;> omega
  · intro before after i i' hsplit hraised
    refine score_le fun category => ?_
    have hpenalty := hraised.penalty_le
    rw [hsplit, penalties_perm List.perm_middle, penalties_perm List.perm_middle, penalties_cons,
      penalties_cons, hraised.1]
    split <;> omega

/-- A category with more penalties than points. -/
example : (healthScoreOf "home" none
    [⟨some "a", some "battery", some "critical", none⟩,
      ⟨some "b", some "battery", some "warning", none⟩]).components =
    [("production", 20), ("charging", 20), ("battery", 0), ("communications", 20),
      ("data_integrity", 20)] := by
  decide

end MorningstarModbus
