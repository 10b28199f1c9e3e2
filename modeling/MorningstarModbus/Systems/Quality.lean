import Mathlib.Data.Finset.Card
import MorningstarModbus.Systems.Latest

/-!
# MorningstarModbus.Systems.Quality

When a system aggregate is complete (`_aggregate_observations` of `systems/data.py`).  The
controllers that contributed are counted, and so are those that are expected to; the two
come from different sources.

* `quality_sound_iff` — the count tells whether an expected controller is missing exactly
  when fewer unexpected controllers contributed than expected ones are absent.
-/

namespace MorningstarModbus

open Table SystemDataRepository

namespace MetricObservation

/-- The controllers that contributed. -/
def contributorUids (observations : List MetricObservation) : List String :=
  distinct (observations.map controllerUid)

/-- The expected controllers that did not contribute. -/
def absent (observations : List MetricObservation) (expected : List String) : List String :=
  expected.filter fun uid => uid ∉ contributorUids observations

/-- The controllers that contributed and were not expected to. -/
def outsiders (observations : List MetricObservation) (expected : List String) : List String :=
  (contributorUids observations).filter fun uid => uid ∉ expected

variable {observations : List MetricObservation} {expected : List String}

theorem contributorUids_eq_nil_iff : contributorUids observations = [] ↔ observations = [] := by
  constructor
  · intro h
    rw [List.eq_nil_iff_forall_not_mem]
    intro o ho
    have hmem : o.controllerUid ∈ contributorUids observations :=
      mem_distinct.mpr (List.mem_map_of_mem ho)
    simp [h] at hmem
  · intro h
    rw [h]
    rfl

/-- There are no fewer contributors than expected exactly when no fewer are outsiders than
absent. -/
theorem length_contributors_iff (hexpected : expected.Nodup) :
    expected.length ≤ (contributorUids observations).length ↔
      (absent observations expected).length ≤ (outsiders observations expected).length := by
  have hcontributors : (contributorUids observations).Nodup := nodup_distinct _
  have habsent : (absent observations expected).length =
      (expected.toFinset \ (contributorUids observations).toFinset).card := by
    rw [absent, ← List.toFinset_card_of_nodup (hexpected.filter _)]
    congr 1
    ext uid
    simp
  have houtsiders : (outsiders observations expected).length =
      ((contributorUids observations).toFinset \ expected.toFinset).card := by
    rw [outsiders, ← List.toFinset_card_of_nodup (hcontributors.filter _)]
    congr 1
    ext uid
    simp
  rw [habsent, houtsiders, Finset.card_sdiff_le_card_sdiff_iff,
    List.toFinset_card_of_nodup hexpected, List.toFinset_card_of_nodup hcontributors]

/-- The quality is complete when something contributed and the counts say so. -/
theorem quality_eq_complete_iff (texts : PyTexts) (now : Nat) (spec : SystemMetricSpec) :
    (aggregateObservations texts now spec observations expected).quality = .complete ↔
      observations ≠ [] ∧ expected.length ≤ (contributorUids observations).length := by
  show (if (contributorUids observations).length = 0 then Quality.empty
    else if expected.length = 0 ∨ (contributorUids observations).length ≥ expected.length then
      Quality.complete else Quality.lacking) = .complete ↔ _
  rw [Ne, ← contributorUids_eq_nil_iff, ← List.length_eq_zero_iff]
  by_cases hnone : (contributorUids observations).length = 0
  · simp [hnone]
  · rw [if_neg hnone]
    by_cases hcount : expected.length ≤ (contributorUids observations).length
    · rw [if_pos (.inr hcount)]
      simp [hnone, hcount]
    · rw [if_neg (by omega)]
      simp [hcount]

end MetricObservation

open MetricObservation

/-- **Complete aggregates**: an aggregate of system members is complete exactly when
something and every expected controller contributed, if and only if no expected controller
is absent or fewer unexpected controllers contributed than expected ones are absent. -/
theorem quality_sound_iff (texts : PyTexts) (now : Nat) (catalog : String → List String)
    (members : List ControllerRecord) (spec : SystemMetricSpec)
    (observations : List MetricObservation) :
    ((aggregateObservations texts now spec observations
        (eligibleControllerUids catalog members spec)).quality = .complete ↔
      observations ≠ [] ∧ ∀ uid ∈ eligibleControllerUids catalog members spec,
        ∃ o ∈ observations, o.controllerUid = uid) ↔
    (absent observations (eligibleControllerUids catalog members spec) = [] ∨
      (outsiders observations (eligibleControllerUids catalog members spec)).length <
        (absent observations (eligibleControllerUids catalog members spec)).length) := by
  obtain ⟨expected, hexpected⟩ :
    ∃ expected, expected = eligibleControllerUids catalog members spec := ⟨_, rfl⟩
  have hnodup : expected.Nodup := hexpected ▸ nodup_distinct _
  have hall : (∀ uid ∈ expected, ∃ o ∈ observations, o.controllerUid = uid) ↔
      absent observations expected = [] := by
    simp only [absent, contributorUids, List.filter_eq_nil_iff, decide_eq_true_eq, not_not,
      mem_distinct, List.mem_map]
  rw [← hexpected, quality_eq_complete_iff, length_contributors_iff hnodup, hall]
  by_cases habsent : absent observations expected = []
  · simp [habsent]
  · have hsome : observations = [] → outsiders observations expected = [] := by
      intro hnone
      rw [hnone]
      rfl
    have hpos : 0 < (absent observations expected).length := List.length_pos_iff.mpr habsent
    by_cases hfew :
        (outsiders observations expected).length < (absent observations expected).length
    · simp [habsent, hfew]
    · have hobserved : observations ≠ [] := by
        intro hnone
        rw [hsome hnone, List.length_nil] at hfew
        exact hfew hpos
      simp [habsent, hfew, hobserved, not_lt.mp hfew]

/-! ## an outsider -/

/-- Two controllers, of which the profile of the first declares a power. -/
def twoMembers : List ControllerRecord :=
  [ { scope := { controllerUid := "ctrl_a", controllerId := "a", canonicalDeviceId := "a",
                 historyDeviceIds := ["a"] }
      profile := "tristar_mppt" },
    { scope := { controllerUid := "ctrl_b", controllerId := "b", canonicalDeviceId := "b",
                 historyDeviceIds := ["b"] }
      profile := "tristar_pwm" } ]

/-- Power in the last sample of the second, from before its profile changed. -/
def outsiderPower : MetricObservation where
  controllerUid := "ctrl_b"
  sourceDeviceId := none
  observedAt := "2026-01-01T12:05:00+00:00"
  registerName := "output_power"
  value := .number 250
  unit := some "W"

/-- The first does not contribute, and the aggregate is complete. -/
theorem not_quality_sound_outsider :
    ¬ ∀ (texts : PyTexts) (now : Nat) (catalog : String → List String)
      (members : List ControllerRecord) (spec : SystemMetricSpec)
      (observations : List MetricObservation),
        (aggregateObservations texts now spec observations
          (eligibleControllerUids catalog members spec)).quality = .complete ↔
            observations ≠ [] ∧ ∀ uid ∈ eligibleControllerUids catalog members spec,
              ∃ o ∈ observations, o.controllerUid = uid := by
  intro h
  have hsound := (h noonTexts 1767270901000000
    (fun profile => if profile = "tristar_mppt" then ["output_power"] else []) twoMembers
    { name := "charge_output_power_w", unit := some "W", aggregation := .numeric .sum,
      registers := ["output_power"] } [outsiderPower]).mp (by decide +kernel)
  revert hsound
  decide +kernel

end MorningstarModbus
