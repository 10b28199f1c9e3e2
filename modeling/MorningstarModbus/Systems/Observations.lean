import MorningstarModbus.Lib.Timestamp
import MorningstarModbus.Systems.Data

/-!
# MorningstarModbus.Systems.Observations

Observations of a metric with the texts of their times as they are stored, and
what `_aggregate_observations` makes of them (`systems/data.py`): a number, or
the states of a `state_set` metric.

* `aggregateObservations_items` — over the items of the bucketed history it is
  the aggregation of their numbers.
-/

namespace MorningstarModbus

open Calendar Query Table

/-! ## times and texts -/

/-- What `datetime.fromisoformat` reads: a time, in UTC where the text has a zone. -/
structure IsoDatetime where
  time : Timestamp
  aware : Bool

/-- What an aggregation takes from the Python library. -/
structure PyTexts where
  /-- `str` of a float -/
  str : ℚ → String
  /-- `none` where it raises `ValueError` -/
  fromisoformat : String → Option IsoDatetime

/-- `_parse_time`; a time without a zone is taken as UTC. -/
def PyTexts.parseTime (texts : PyTexts) (value : String) : Option Timestamp :=
  if value = "" then none else (texts.fromisoformat value).map IsoDatetime.time

/-- `_bucket_start` -/
def PyTexts.bucketStart (texts : PyTexts) (value : String) (seconds : Nat) : String :=
  match texts.parseTime value with
  | none => value
  | some t => (t.bucketStart seconds).isoformat

/-- `str(value)` -/
def PyTexts.strValue (texts : PyTexts) : CellValue → String
  | .missing => "None"
  | .number x => texts.str x
  | .text s => s

/-! ## observations -/

/-- What a controller contributes to a metric. -/
structure MetricObservation where
  controllerUid : String
  /-- named in a history only -/
  sourceDeviceId : Option String
  observedAt : String
  registerName : String
  value : CellValue
  unit : Option String
  deriving DecidableEq

/-- `value or unit`, where an empty unit counts as none. -/
def unitOr (value unit : Option String) : Option String :=
  match value with
  | none => unit
  | some u => if u = "" then unit else some u

/-- `_numeric` -/
def MetricObservation.numeric? (o : MetricObservation) : Option ℚ :=
  match o.value with
  | .number x => some x
  | _ => none

inductive MetricValue where
  | null
  | number (x : ℚ)
  | text (s : String)
  | states (values : List String)
  deriving DecidableEq

def MetricValue.ofCell : CellValue → MetricValue
  | .missing => .null
  | .number x => .number x
  | .text s => .text s

def MetricValue.ofNumber : Option ℚ → MetricValue
  | none => .null
  | some x => .number x

/-- `_number` of `systems/power.py` and `_numeric` of `forecasting/service.py` -/
def MetricValue.numeric? : MetricValue → Option ℚ
  | .number x => some x
  | _ => none

/-! ## aggregation -/

structure MetricAggregate where
  value : MetricValue
  unit : Option String
  aggregation : SystemAggregation
  quality : SystemDataRepository.Quality
  contributors : Nat
  expectedContributors : Nat
  oldestObservationAgeMs : Option ℚ
  sources : List MetricObservation
  deriving DecidableEq

namespace MetricObservation

/-- The value of an aggregate. -/
def aggregateValue (texts : PyTexts) (aggregation : SystemAggregation)
    (observations : List MetricObservation) : MetricValue :=
  match aggregation with
  | .stateSet => .states (distinct (observations.map fun o => texts.strValue o.value))
  | .numeric aggregation =>
      let numeric := observations.filterMap numeric?
      if numeric.isEmpty then .null
      else match aggregation with
        | .sum => .number numeric.sum
        | .median => .ofNumber (SystemDataRepository.median numeric)
        | .max => .ofNumber numeric.max?
        | .min => .ofNumber numeric.min?
        | .latest => match observations.maxOn? observedAt with
          | none => .null
          | some latest => .ofCell latest.value

/-- The age of a time in milliseconds; a time to come has none. -/
def ageMs (now : Nat) (t : Timestamp) : ℚ := max 0 ((now - t.unixMicros) / 1000)

/-- `max(ages) if ages else None` -/
def oldestAgeMs (texts : PyTexts) (now : Nat) (observations : List MetricObservation) : Option ℚ :=
  ((observations.filterMap fun o => texts.parseTime o.observedAt).map (ageMs now)).max?

/-- `_aggregate_observations` -/
def aggregateObservations (texts : PyTexts) (now : Nat) (spec : SystemMetricSpec)
    (observations : List MetricObservation) (expected : List String) : MetricAggregate :=
  let contributors := (distinct (observations.map controllerUid)).length
  { value := aggregateValue texts spec.aggregation observations
    unit := spec.unit
    aggregation := spec.aggregation
    quality :=
      if contributors = 0 then .empty
      else if expected.length = 0 ∨ contributors ≥ expected.length then .complete
      else .lacking
    contributors
    expectedContributors := expected.length
    oldestObservationAgeMs := oldestAgeMs texts now observations
    sources := observations }

end MetricObservation

/-! ## items of the bucketed history -/

/-- An item as it is shown, with the text of its bucket. -/
def SystemDataRepository.SourceItem.observation (isoformat : Int → String)
    (i : SystemDataRepository.SourceItem) : MetricObservation where
  controllerUid := i.controllerUid
  sourceDeviceId := some i.sourceDeviceId
  observedAt := isoformat i.observedAt
  registerName := i.registerName
  value := .number i.value
  unit := i.unit

/-- A point as an aggregate of what it shows. -/
def SystemDataRepository.MetricPoint.aggregate (isoformat : Int → String)
    (p : SystemDataRepository.MetricPoint) : MetricAggregate where
  value := .ofNumber p.value
  unit := p.unit
  aggregation := .numeric p.aggregation
  quality := p.quality
  contributors := p.contributors
  expectedContributors := p.expectedContributors
  oldestObservationAgeMs := p.oldestObservationAgeMs
  sources := p.sources.map (SourceItem.observation isoformat)

section Items

open SystemDataRepository

variable {texts : PyTexts} {isoformat : Int → String} {items : List SourceItem}

/-- The numbers of a bucket's observations are the values of its items. -/
theorem filterMap_numeric_items :
    (items.map (SourceItem.observation isoformat)).filterMap MetricObservation.numeric? =
      items.map SourceItem.value := by
  induction items with
  | nil => rfl
  | cons i items ih => simpa [SourceItem.observation, MetricObservation.numeric?] using ih

/-- The age of a bucket is that of its oldest item, never negative. -/
theorem oldestAgeMs_items (now : Nat)
    (h : ∀ i ∈ items, ∃ t, texts.parseTime (isoformat i.observedAt) = some t ∧
      t.unixMicros = i.observedAt * 1000000) :
    MetricObservation.oldestAgeMs texts now (items.map (SourceItem.observation isoformat)) =
      (items.map fun i => max (0 : ℚ) ((now - i.observedAt * 1000000) / 1000)).max? := by
  have hages : ((items.map (SourceItem.observation isoformat)).filterMap fun o =>
      texts.parseTime o.observedAt).map (MetricObservation.ageMs now) =
        items.map fun i => max (0 : ℚ) ((now - i.observedAt * 1000000) / 1000) := by
    induction items with
    | nil => rfl
    | cons i items ih =>
        obtain ⟨t, ht, hmicros⟩ := h i List.mem_cons_self
        have hrest := ih fun j hj => h j (List.mem_cons_of_mem i hj)
        rw [List.map_cons, List.map_cons, List.filterMap_cons, ← hrest]
        simp only [SourceItem.observation, ht, List.map_cons, MetricObservation.ageMs, hmicros]
        push_cast
        rfl
  rw [MetricObservation.oldestAgeMs, hages]

/-- The aggregate of numbers is the one of their observations. -/
theorem aggregateObservations_items {spec : SystemMetricSpec} {aggregation : NumericAggregation}
    (hspec : spec.aggregation = .numeric aggregation) (hlatest : aggregation ≠ .latest)
    (h : ∀ i ∈ items, ∃ t, texts.parseTime (isoformat i.observedAt) = some t ∧
      t.unixMicros = i.observedAt * 1000000)
    (now : Nat) (bucket : Int) (expected : List String) :
    MetricObservation.aggregateObservations texts now spec
        (items.map (SourceItem.observation isoformat)) expected =
      (SystemDataRepository.aggregateObservations now spec aggregation bucket items
        expected).aggregate isoformat := by
  have huids : (items.map (SourceItem.observation isoformat)).map MetricObservation.controllerUid =
      items.map SourceItem.controllerUid := by
    simp [SourceItem.observation]
  have hvalue : MetricObservation.aggregateValue texts (.numeric aggregation)
      (items.map (SourceItem.observation isoformat)) =
        .ofNumber (aggregateValue aggregation items) := by
    simp only [MetricObservation.aggregateValue, filterMap_numeric_items, aggregateValue]
    split
    · rfl
    · cases aggregation with
      | latest => exact absurd rfl hlatest
      | _ => rfl
  simp only [MetricObservation.aggregateObservations, SystemDataRepository.aggregateObservations,
    MetricPoint.aggregate, huids, hspec, hvalue, oldestAgeMs_items now h]

end Items

end MorningstarModbus
