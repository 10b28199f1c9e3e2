import MorningstarModbus.History.ControllerData

/-!
# MorningstarModbus.History.Export

JSON history is all or error, and agrees with the streamed export: both are the
whole query, of which the one refuses to return more than it may.

The two send different statements, so rows that tie in the order may come
differently: the number and the text row of a register in one bucket do.
-/

namespace MorningstarModbus

open Query

/-! ## items -/

/-- The order of a history's rows; `key` is that of the raw ones. -/
def HistoryItem.Before {R : Type} (key : R → String ×ₗ Nat ×ₗ String) (d : Direction) :
    HistoryItem R → HistoryItem R → Prop
  | raw a, raw b => Ordered key d a b
  | bucket a, bucket b => Ordered AggregateRow.key d a b
  | _, _ => False

section Items

variable {R S : Type} {view : Joined → R} {sqlite : Sqlite} {inScope : String → Bool}
  {names : List String} {range : TimeRange} {order : Direction} {bucketSeconds : Option Int}
  {db : TelemetryDb}

/-- Fewer fields of the raw rows are those of the same rows. -/
theorem historyItems_map (f : R → S) (plan : Plan AggregateRow) (limit : Option Int) :
    historyItems (fun j => f (view j)) sqlite plan inScope names range order bucketSeconds limit
      db =
    (historyItems view sqlite plan inScope names range order bucketSeconds limit db).map
      (HistoryItem.map f) := by
  cases bucketSeconds with
  | none =>
      simp only [historyItems, List.map_map]
      rfl
  | some seconds =>
      simp only [historyItems, List.map_map]
      rfl

/-- A history is in order. -/
theorem historyItems_pairwise (view : Joined → R) {key : R → String ×ₗ Nat ×ₗ String}
    (hkey : ∀ j, key (view j) = j.key) (plan : Plan AggregateRow) :
    (historyItems view sqlite plan inScope names range order bucketSeconds none db).Pairwise
      (HistoryItem.Before key order) := by
  cases bucketSeconds with
  | none =>
      refine List.pairwise_map.mpr ((pairwise_orderBy Joined.key order _).imp fun {a b} hab => ?_)
      simpa only [HistoryItem.Before, Ordered, hkey] using hab
  | some seconds =>
      exact List.pairwise_map.mpr (pairwise_orderBy AggregateRow.key order _)

/-- Two statements for one history return the same rows. -/
theorem historyItems_perm (plan plan' : Plan AggregateRow) :
    (historyItems view sqlite plan inScope names range order bucketSeconds none db).Perm
      (historyItems view sqlite plan' inScope names range order bucketSeconds none db) := by
  cases bucketSeconds with
  | none => exact .refl _
  | some seconds =>
      refine List.Perm.map _ ((orderBy_perm _ _ _).trans (List.Perm.trans ?_
        (orderBy_perm _ _ _).symm))
      exact (plan.perm _).trans (plan'.perm _).symm

/-- The batches together are the rows. -/
theorem stream_eq (label : String) (batchSize : Int) (rows : List (HistoryItem R)) :
    stream label batchSize rows = rows.map fun item => { label, item } := by
  calc stream label batchSize rows
      = (batches batchSize rows).flatten.map fun item => { label, item } := by
        rw [stream, List.flatMap_def, List.map_flatten]
    _ = rows.map fun item => { label, item } := by rw [flatten_batches]

end Items

theorem checkPoints_eq {α : Type} (maxPoints : Int) (rows : List α) :
    checkPoints maxPoints rows =
      if rows.length ≤ maxPoints then .ok rows else .error (.exceeds maxPoints) := by
  by_cases h : (rows.length : Int) ≤ maxPoints
  · rw [checkPoints, if_neg (not_lt.mpr h), if_pos h]
  · rw [checkPoints, if_pos (not_le.mp h), if_neg h]

/-! ## all or error -/

/-- Of a device as of a controller, the JSON history and the export are one list of rows
up to ties, both in the requested order; the history returns it whole if it has at most
`maxPoints` rows and raises otherwise, and no batch size changes the export. -/
theorem history_all_or_error (env : Env) (sqlite : Sqlite) (plan plan' : Plan AggregateRow)
    (names : List String) (range : TimeRange) (order : String) (bucketSeconds : Option Int)
    (maxPoints : Int) (db : TelemetryDb) :
    (∀ deviceId, ∃ rows exported : List (HistoryItem HistoryRow),
      rows.Perm exported ∧
      rows.Pairwise (HistoryItem.Before HistoryRow.key (orderSql env order)) ∧
      exported.Pairwise (HistoryItem.Before HistoryRow.key (orderSql env order)) ∧
      TelemetryStore.multiRegisterHistory env sqlite plan deviceId names range order bucketSeconds
        maxPoints db =
          (if rows.length ≤ maxPoints then .ok rows else .error (.exceeds maxPoints)) ∧
      ∀ batchSize, TelemetryStore.iterHistoryExport env sqlite plan' deviceId names range order
        bucketSeconds batchSize db = exported.map fun item =>
          { label := deviceId, item := item.map HistoryRow.exported }) ∧
    ∀ identifier registry, ∃ rows exported : ControllerScope → List (HistoryItem (Sourced HistoryRow)),
      (∀ scope, (rows scope).Perm (exported scope) ∧
        (rows scope).Pairwise (HistoryItem.Before (fun r => r.row.key) (orderSql env order)) ∧
        (exported scope).Pairwise (HistoryItem.Before (fun r => r.row.key) (orderSql env order))) ∧
      ControllerDataRepository.multiRegisterHistory env sqlite plan identifier names range order
        bucketSeconds maxPoints db registry =
          ControllerDataRepository.query env identifier (fun scope =>
            if (rows scope).length ≤ maxPoints then .ok (scope, rows scope)
            else .error (.tooLarge (.exceeds maxPoints))) registry ∧
      ∀ batchSize, ControllerDataRepository.iterHistoryExport env sqlite plan' identifier names
        range order bucketSeconds batchSize db registry =
          ControllerDataRepository.query env identifier (fun scope =>
            .ok ((exported scope).map fun item =>
              { label := scope.controllerUid,
                item := item.map (Sourced.map HistoryRow.exported) })) registry := by
  constructor
  · intro deviceId
    refine ⟨historyItems Joined.row sqlite plan (· == deviceId) names range (orderSql env order)
      bucketSeconds none db, historyItems Joined.row sqlite plan' (· == deviceId) names range
        (orderSql env order) bucketSeconds none db, historyItems_perm plan plan',
      historyItems_pairwise Joined.row (fun _ => rfl) plan,
      historyItems_pairwise Joined.row (fun _ => rfl) plan',
      ?json, ?streamed⟩
    case json =>
      rw [TelemetryStore.multiRegisterHistory, historyItems_limit, checkPoints_limit,
        checkPoints_eq]
    case streamed =>
      intro batchSize
      rw [TelemetryStore.iterHistoryExport, stream_eq, historyItems_map, List.map_map]
      rfl
  · intro identifier registry
    refine ⟨fun scope => historyItems Joined.sourced sqlite plan scope.contains names range
      (orderSql env order) bucketSeconds none db, fun scope => historyItems Joined.sourced sqlite
        plan' scope.contains names range (orderSql env order) bucketSeconds none db,
      fun scope => ⟨historyItems_perm plan plan',
        historyItems_pairwise Joined.sourced (fun _ => rfl) plan,
        historyItems_pairwise Joined.sourced (fun _ => rfl) plan'⟩, ?json, ?streamed⟩
    case json =>
      rw [ControllerDataRepository.multiRegisterHistory]
      congr 1
      funext scope
      rw [historyItems_limit, checkPoints_limit, checkPoints_eq]
      split <;> rfl
    case streamed =>
      intro batchSize
      rw [ControllerDataRepository.iterHistoryExport]
      congr 1
      funext scope
      rw [stream_eq, historyItems_map, List.map_map]
      rfl

end MorningstarModbus
