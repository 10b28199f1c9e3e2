import MorningstarModbus.History.Merge
import MorningstarModbus.History.Retained
import MorningstarModbus.Lib.Changes
import MorningstarModbus.Lib.Json
import MorningstarModbus.Systems.Contributions
import MorningstarModbus.Systems.History

/-!
# MorningstarModbus.Systems.Events

The event timeline of a system (`SystemDataRepository.events`): stored events, poll errors,
synchronisations and the changes of state registers, each read by a statement with a limit, then
merged.

* `timeline` — all of it, newest first; its transitions are the pairs of consecutive differing
  values of a register, where a row without a value is passed over;
* `mem_fetched` — what the limited statements read: of the timeline what they reach, and a
  transition to nothing at each row without a value that follows a value;
* `events_newest_iff` — the first events of the timeline are returned exactly when the limits
  reach each of them and they are newer than the transitions to nothing.
-/

namespace MorningstarModbus

open Query Table

/-! ## tables -/

/-- A row of `controller_events`; its payload is read back from `payload_json`. -/
structure StoredEvent where
  id : Nat
  controllerUid : Option String
  observedAt : String
  eventType : String
  severity : String
  source : String
  message : String
  payload : Json.Object
  sourceHost : Option String
  deriving DecidableEq

/-- A row of `poll_errors`. -/
structure PollErrorRow where
  id : Nat
  deviceId : String
  observedAt : String
  error : String
  deriving DecidableEq

/-- What a timeline is read from; where the table of synchronisations is missing there are none. -/
structure TimelineDb where
  telemetry : TelemetryDb
  events : List StoredEvent
  errors : List PollErrorRow
  syncs : List SyncRow
  events_keyed : Keyed StoredEvent.id events
  errors_keyed : Keyed PollErrorRow.id errors
  syncs_keyed : Keyed SyncRow.id syncs

/-! ## entries -/

inductive EventId where
  | stored (id : Nat)
  | pollError (id : Nat)
  | historySync (id : Nat)
  | transition (controllerUid : String) (sampleId : Nat) (registerName : String)
  deriving DecidableEq

/-- `str(item.get("id") or "")` -/
def EventId.text : EventId → String
  | .stored id => if id = 0 then "" else toString id
  | .pollError id => "poll-error:" ++ toString id
  | .historySync id => "history-sync:" ++ toString id
  | .transition controllerUid sampleId registerName =>
      "transition:" ++ controllerUid ++ ":" ++ toString sampleId ++ ":" ++ registerName

inductive EventPayload where
  | stored (payload : Json.Object)
  | pollError (sourceDeviceId : String)
  | historySync (recordsSeen recordsWritten : Nat) (oldestDay newestDay : Option String)
  | transition (registerName : String) (previous value : CellValue)
  deriving DecidableEq

structure TimelineEvent where
  id : EventId
  controllerUid : Option String
  observedAt : String
  eventType : String
  severity : String
  source : String
  message : String
  payload : EventPayload
  /-- stored events only -/
  sourceHost : Option (Option String) := none
  deriving DecidableEq

/-- The order of the timeline. -/
def TimelineEvent.key (e : TimelineEvent) : String ×ₗ String := toLex (e.observedAt, e.id.text)

/-- What the timeline takes from outside the repository. -/
structure TimelineEnv where
  env : Env
  /-- `str.upper()` -/
  upper : String → String
  texts : PyTexts
  config : SystemConfig := {}
  /-- how the statements break ties -/
  errorPlan : Plan PollErrorRow
  syncPlan : Plan SyncRow
  rowPlan : Plan Joined

namespace SystemDataRepository

/-- `_state_clear` -/
def stateClear (env : Env) : CellValue → Bool
  | .missing => true
  | .number x => x = 0
  | .text s => env.lower (Text.strip s) ∈
      ["", "0", "0.0", "[]", "\x7b\x7d", "none", "clear", "normal", "ok"]

/-- `needle in text` -/
def occursIn (needle text : String) : Bool := decide (needle.toList <:+: text.toList)

/-- The `event_type` and the `severity` of a transition. -/
def transitionType (q : TimelineEnv) (registerName : String) (value : CellValue) :
    String × String :=
  let normalizedName := q.env.lower registerName
  if occursIn "charge" normalizedName then
    let state := q.upper (q.texts.strValue value)
    if occursIn "FLOAT" state then ("FLOAT_ENTERED", "info")
    else if occursIn "ABSOR" state then ("ABSORPTION_ENTERED", "info")
    else if occursIn "EQUAL" state then ("EQUALIZATION_ENTERED", "info")
    else ("CHARGE_STATE_CHANGED", "info")
  else if occursIn "fault" normalizedName then
    if stateClear q.env value then ("FAULT_CLEARED", "info") else ("FAULT_STARTED", "critical")
  else if occursIn "alarm" normalizedName then
    if stateClear q.env value then ("ALARM_CLEARED", "info") else ("ALARM_STARTED", "warning")
  else ("STATE_CHANGED", "info")

namespace ScopeMap

/-- `device_to_controller[device_id]` -/
def uidOf (found : ScopeMap) (deviceId : String) : String :=
  (deviceToController found.scopes deviceId).getD ""

/-- `device_id IN (…)` -/
def holds (found : ScopeMap) (deviceId : String) : Bool :=
  (deviceToController found.scopes deviceId).isSome

/-- `if not device_to_controller` -/
def noDevices (found : ScopeMap) : Bool := (found.scopes.flatMap Prod.snd).isEmpty

/-- `set(device_to_controller.values())`, which is only asked for members. -/
def controllerUids (found : ScopeMap) : List String :=
  (found.scopes.flatMap Prod.snd).filterMap (deviceToController found.scopes)

/-- The state register of a controller that a row is of. -/
def register (found : ScopeMap) (j : Joined) : String × String :=
  (found.uidOf j.sample.deviceId, j.value.registerName)

end ScopeMap

def storedEvent (row : StoredEvent) : TimelineEvent where
  id := .stored row.id
  controllerUid := row.controllerUid
  observedAt := row.observedAt
  eventType := row.eventType
  severity := row.severity
  source := row.source
  message := row.message
  payload := .stored row.payload
  sourceHost := some row.sourceHost

def errorEvent (found : ScopeMap) (row : PollErrorRow) : TimelineEvent where
  id := .pollError row.id
  controllerUid := some (found.uidOf row.deviceId)
  observedAt := row.observedAt
  eventType := "COMMUNICATION_ERROR"
  severity := "warning"
  source := "modbus-poll"
  message := row.error
  payload := .pollError row.deviceId

def syncEvent (found : ScopeMap) (row : SyncRow) : TimelineEvent where
  id := .historySync row.id
  controllerUid := some (found.uidOf row.deviceId)
  observedAt := row.attemptedAt
  eventType :=
    if row.status = "ok" then "HISTORY_BACKFILL_COMPLETED" else "HISTORY_BACKFILL_FAILED"
  severity := if row.status = "ok" then "info" else "warning"
  source := row.source
  message := row.error.getD ""
  payload := .historySync row.recordsSeen row.recordsWritten row.oldestDay row.newestDay

def transitionEvent (q : TimelineEnv) (found : ScopeMap) (row : Joined) (old : CellValue) :
    TimelineEvent where
  id := .transition (found.uidOf row.sample.deviceId) row.sample.id row.value.registerName
  controllerUid := some (found.uidOf row.sample.deviceId)
  observedAt := row.sample.observedAt
  eventType := (transitionType q row.value.registerName row.cell).1
  severity := (transitionType q row.value.registerName row.cell).2
  source := "live-modbus"
  message := ""
  payload := .transition row.value.registerName old row.cell

/-! ## statements -/

/-- `ORDER BY observed_at DESC, id DESC` -/
def storedKey (row : StoredEvent) : String ×ₗ Nat := toLex (row.observedAt, row.id)

/-- The rows that `EventStore.recent` selects. -/
def storedRows (controllerUids : List String) (includeUnassigned : Bool) (range : TimeRange)
    (events : List StoredEvent) : List StoredEvent :=
  if controllerUids.isEmpty && !includeUnassigned then []
  else events.filter fun row => range.contains row.observedAt &&
    (controllerUids.isEmpty || row.controllerUid.elim includeUnassigned (· ∈ controllerUids))

/-- `EventStore.recent` -/
def recent (controllerUids : List String) (range : TimeRange) (limit : Int)
    (includeUnassigned : Bool) (events : List StoredEvent) : List StoredEvent :=
  (orderBy storedKey .desc (storedRows controllerUids includeUnassigned range events)).take
    (clampLimit 5000 limit)

/-- The rows of `poll_errors`, in the order of the statement. -/
def errorRows (q : TimelineEnv) (found : ScopeMap) (range : TimeRange) (db : TimelineDb) :
    List PollErrorRow :=
  orderBy PollErrorRow.observedAt .desc (q.errorPlan.rows (db.errors.filter fun row =>
    found.holds row.deviceId && range.contains row.observedAt))

/-- The rows of `controller_history_syncs`, in the order of the statement: in any range. -/
def syncRows (q : TimelineEnv) (found : ScopeMap) (db : TimelineDb) : List SyncRow :=
  orderBy SyncRow.attemptedAt .desc
    (q.syncPlan.rows (db.syncs.filter fun row => found.holds row.deviceId))

def stateRegisters : List String :=
  ["charge_state", "charger_state", "faults", "fault_state", "alarms", "alarm_state"]

/-- The rows of the state registers, in the order of the statement. -/
def stateRows (q : TimelineEnv) (found : ScopeMap) (range : TimeRange) (db : TimelineDb) :
    List Joined :=
  orderBy Joined.sampleTime .desc
    (q.rowPlan.rows (db.telemetry.history found.holds stateRegisters range))

/-- The value of a row; a null is no value. -/
def stateValue (j : Joined) : Option CellValue :=
  if j.cell = .missing then none else some j.cell

/-- The transitions among some rows, from the newest to the oldest. -/
def transitionsOf (found : ScopeMap) (rows : List Joined) : List (Joined × CellValue) :=
  Changes.changes found.register stateValue rows.reverse

/-- What `events` does after `_scope_map`. -/
def eventsOf (q : TimelineEnv) (found : ScopeMap) (range : TimeRange) (limit : Int)
    (db : TimelineDb) : List TimelineEvent :=
  let stored := (recent found.controllerUids range limit
    (found.systemUid = q.config.defaultSystemUid) db.events).map storedEvent
  if found.noDevices then stored.take (clampLimit 5000 limit)
  else
    let errors := (limitRows (some limit) (errorRows q found range db)).map (errorEvent found)
    let syncs := ((limitRows (some limit) (syncRows q found db)).filter fun row =>
      range.contains row.attemptedAt).map (syncEvent found)
    let transitions := (transitionsOf found (limitRows (some (max (limit * 10) 1000))
      (stateRows q found range db))).map fun c => transitionEvent q found c.1 c.2
    (orderBy TimelineEvent.key .desc (stored ++ errors ++ syncs ++ transitions)).take
      (clampLimit 5000 limit)

/-- `events` -/
def events (q : TimelineEnv) (now : Nat) (identifier : String) (range : TimeRange) (limit : Int)
    (db : TimelineDb) (systems : SystemDb) :
    Except SystemError (SystemDb × List TimelineEvent) := do
  let (systems, found) ← scopeMap q.env q.config now identifier systems
  return (systems, eventsOf q found range limit db)

/-! ## the timeline -/

/-- An entry of the timeline. -/
inductive TimelineEntry where
  | stored (row : StoredEvent)
  | error (row : PollErrorRow)
  | sync (row : SyncRow)
  | transition (row : Joined) (old : CellValue)

def TimelineEntry.event (q : TimelineEnv) (found : ScopeMap) : TimelineEntry → TimelineEvent
  | .stored row => storedEvent row
  | .error row => errorEvent found row
  | .sync row => syncEvent found row
  | .transition row old => transitionEvent q found row old

/-- The stored events of a system. -/
def storedOf (q : TimelineEnv) (found : ScopeMap) (range : TimeRange) (db : TimelineDb) :
    List StoredEvent :=
  storedRows found.controllerUids (found.systemUid = q.config.defaultSystemUid) range db.events

/-- Entries of the four kinds. -/
def entriesOf (stored : List StoredEvent) (errors : List PollErrorRow) (syncs : List SyncRow)
    (transitions : List (Joined × CellValue)) : List TimelineEntry :=
  stored.map .stored ++ errors.map .error ++ syncs.map .sync ++
    transitions.map fun c => .transition c.1 c.2

/-- The consecutive differing values of each register, from the newest to the oldest. -/
def stateChanges (q : TimelineEnv) (found : ScopeMap) (range : TimeRange) (db : TimelineDb) :
    List (Joined × CellValue) :=
  Changes.valueChanges found.register stateValue (stateRows q found range db)

/-- All of the timeline: every stored event, error, synchronisation and state change in the
range. -/
def entries (q : TimelineEnv) (found : ScopeMap) (range : TimeRange) (db : TimelineDb) :
    List TimelineEntry :=
  entriesOf (storedOf q found range db) (errorRows q found range db)
    ((syncRows q found db).filter fun row => range.contains row.attemptedAt)
    (stateChanges q found range db)

/-- The entries, newest first. -/
def newestEntries (q : TimelineEnv) (found : ScopeMap) (range : TimeRange) (db : TimelineDb) :
    List TimelineEntry :=
  orderBy (fun e => (e.event q found).key) .desc (entries q found range db)

/-- The timeline, newest first; a system without devices has stored events only. -/
def timeline (q : TimelineEnv) (found : ScopeMap) (range : TimeRange) (db : TimelineDb) :
    List TimelineEvent :=
  if found.noDevices then (orderBy storedKey .desc (storedOf q found range db)).map storedEvent
  else (newestEntries q found range db).map (TimelineEntry.event q found)

/-- The row right before a row in its state register has a value, and the limit of the statement
reaches it. -/
def AfterValue (q : TimelineEnv) (found : ScopeMap) (range : TimeRange) (limit : Int)
    (db : TimelineDb) (row : Joined) : Prop :=
  ∃ p ∈ (stateRows q found range db).take (max (limit * 10) 1000).toNat,
    Changes.Precedes found.register Joined.sampleTime (stateRows q found range db) p row ∧
      (stateValue p).isSome

/-- The limit of its statement reaches an entry: for a synchronisation with those out of the
range before it, for a state change up to the row before in its register. -/
def TimelineEntry.Reached (q : TimelineEnv) (found : ScopeMap) (range : TimeRange) (limit : Int)
    (db : TimelineDb) : TimelineEntry → Prop
  | .stored row => row ∈ (orderBy storedKey .desc (storedOf q found range db)).take limit.toNat
  | .error row => row ∈ (errorRows q found range db).take limit.toNat
  | .sync row => row ∈ (syncRows q found db).take limit.toNat
  | .transition row _ => AfterValue q found range limit db row

/-- The entries of the timeline that are newer than a transition at a row. -/
def newerEntries (q : TimelineEnv) (found : ScopeMap) (range : TimeRange) (db : TimelineDb)
    (row : Joined) : List TimelineEntry :=
  (entries q found range db).filter fun e =>
    (transitionEvent q found row .missing).key < (e.event q found).key

/-- The limits reach each of the newest entries, and as many entries are newer than each row
without a value that follows a value. -/
def WithinReach (q : TimelineEnv) (found : ScopeMap) (range : TimeRange) (limit : Int)
    (db : TimelineDb) : Prop :=
  found.noDevices = false →
    (∀ e ∈ (newestEntries q found range db).take limit.toNat, e.Reached q found range limit db) ∧
      ∀ row ∈ stateRows q found range db, stateValue row = none →
        AfterValue q found range limit db row →
          limit.toNat ≤ (newerEntries q found range db row).length

/-! ## ids -/

/-- Transitions are of state registers. -/
def EventIdOk : EventId → Prop
  | .transition _ _ registerName => registerName ∈ stateRegisters
  | _ => True

/-- What is before and after the first colon of a text; those of stored events have none. -/
def tagged : EventId → Option (List Char × List Char)
  | .stored _ => none
  | .pollError id => some ("poll-error".toList, (toString id).toList)
  | .historySync id => some ("history-sync".toList, (toString id).toList)
  | .transition controllerUid sampleId registerName =>
      some ("transition".toList,
        controllerUid.toList ++ ':' :: ((toString sampleId).toList ++ ':' :: registerName.toList))

/-- A tagged id is its tag, a colon and the rest. -/
theorem text_of_tagged {a : EventId} {tag rest : List Char} (h : tagged a = some (tag, rest)) :
    a.text.toList = tag ++ ':' :: rest ∧ ':' ∉ tag := by
  cases a with
  | stored id => cases h
  | pollError id =>
      cases h
      exact ⟨by simp [EventId.text], by decide⟩
  | historySync id =>
      cases h
      exact ⟨by simp [EventId.text], by decide⟩
  | transition controllerUid sampleId registerName =>
      cases h
      exact ⟨by simp [EventId.text], by decide⟩

/-- An id without a tag has no colon. -/
theorem colon_notMem_text {a : EventId} (h : tagged a = none) : ':' ∉ a.text.toList := by
  cases a with
  | stored id =>
      rw [EventId.text]
      split
      · simp
      · exact Text.colon_notMem_toString id
  | pollError id => cases h
  | historySync id => cases h
  | transition controllerUid sampleId registerName => cases h

/-- Tag and rest make the id. -/
theorem tagged_injective {a b : EventId} (ha : EventIdOk a) (hb : EventIdOk b)
    (hsome : tagged a ≠ none) (h : tagged a = tagged b) : a = b := by
  have hpoll : "poll-error".toList ≠ "history-sync".toList := by decide
  have hpoll' : "poll-error".toList ≠ "transition".toList := by decide
  have hsync : "history-sync".toList ≠ "transition".toList := by decide
  cases a with
  | stored id => exact absurd rfl hsome
  | pollError id =>
      cases b with
      | pollError id' =>
          simp only [tagged, Option.some.injEq, Prod.mk.injEq, true_and] at h
          rw [Text.toString_inj.mp (String.toList_injective h)]
      | stored id => cases h
      | historySync id => simp_all [tagged]
      | transition uid sampleId name => simp_all [tagged]
  | historySync id =>
      cases b with
      | historySync id' =>
          simp only [tagged, Option.some.injEq, Prod.mk.injEq, true_and] at h
          rw [Text.toString_inj.mp (String.toList_injective h)]
      | stored id => cases h
      | pollError id => simp_all [tagged]
      | transition uid sampleId name => simp_all [tagged]
  | transition uid sampleId name =>
      cases b with
      | transition uid' sampleId' name' =>
          have hcolon : ∀ name ∈ stateRegisters, ':' ∉ name.toList := by decide
          simp only [tagged, Option.some.injEq, Prod.mk.injEq, true_and] at h
          rw [← List.cons_append, ← List.append_assoc, ← List.cons_append, ← List.append_assoc] at h
          obtain ⟨hfront, hname⟩ := Text.split_last (hcolon name ha) (hcolon name' hb) h
          obtain ⟨huid, hsample⟩ := Text.split_last (Text.colon_notMem_toString sampleId)
            (Text.colon_notMem_toString sampleId') hfront
          rw [String.toList_injective huid, String.toList_injective hname,
            Text.toString_inj.mp (String.toList_injective hsample)]
      | stored id => cases h
      | pollError id => simp_all [tagged]
      | historySync id => simp_all [tagged]

/-- Ids with the same text are the same. -/
theorem text_injective {a b : EventId} (ha : EventIdOk a) (hb : EventIdOk b)
    (h : a.text = b.text) : a = b := by
  cases htag : tagged a with
  | some t =>
      obtain ⟨htext, hcolon⟩ := text_of_tagged htag
      cases htag' : tagged b with
      | none => exact absurd (h ▸ htext ▸ by simp) (colon_notMem_text htag')
      | some t' =>
          obtain ⟨htext', hcolon'⟩ := text_of_tagged htag'
          obtain ⟨hfirst, hrest⟩ := Text.split_first hcolon hcolon'
            (htext.symm.trans ((congrArg String.toList h).trans htext'))
          exact tagged_injective ha hb (by simp [htag]) (by rw [htag, htag', Prod.ext hfirst hrest])
  | none =>
      have hcolon := colon_notMem_text htag
      cases htag' : tagged b with
      | some t' => exact absurd ((text_of_tagged htag').1 ▸ by simp) (h ▸ hcolon)
      | none =>
          cases a with
          | stored id =>
              cases b with
              | stored id' =>
                  simp only [EventId.text] at h
                  split at h <;> split at h
                  all_goals grind [Text.toString_inj, Nat.toString_eq_repr, Nat.repr_ne_empty]
              | pollError id' => cases htag'
              | historySync id' => cases htag'
              | transition _ _ _ => cases htag'
          | pollError id => cases htag
          | historySync id => cases htag
          | transition _ _ _ => cases htag

/-! ## transitions -/

section Transitions

variable {q : TimelineEnv} {found : ScopeMap} {range : TimeRange} {db : TimelineDb}
  {rows : List Joined} {row : Joined} {old : CellValue}

/-- State rows are the history of the state registers, in the order of the statement. -/
theorem stateRows_perm (q : TimelineEnv) (found : ScopeMap) (range : TimeRange) (db : TimelineDb) :
    (stateRows q found range db).Perm (db.telemetry.history found.holds stateRegisters range) :=
  (orderBy_perm _ _ _).trans (q.rowPlan.perm _)

/-- A sample has one row of a register. -/
theorem stateRows_keyed (q : TimelineEnv) (found : ScopeMap) (range : TimeRange)
    (db : TimelineDb) :
    Keyed (fun j : Joined => (j.sample.id, j.value.registerName)) (stateRows q found range db) := by
  have hhistory : Keyed (fun j : Joined => (j.sample.id, j.value.registerName))
      (db.telemetry.history found.holds stateRegisters range) := by
    refine (db.telemetry.joined_value_keyed.filter _).of_determines fun a ha b hb hab => ?_
    have hida := (TelemetryDb.mem_joined (List.mem_filter.mp ha).1).2.2
    have hidb := (TelemetryDb.mem_joined (List.mem_filter.mp hb).1).2.2
    rw [Prod.mk.injEq] at hab
    rw [RegisterValue.key, RegisterValue.key, ← hida, ← hidb, hab.1, hab.2]
  exact ((stateRows_perm q found range db).map _).nodup_iff.mpr hhistory

/-- A register of a controller has one row at a time. -/
theorem stateRows_keyed_register (q : TimelineEnv) (found : ScopeMap) (range : TimeRange)
    (db : TimelineDb) : Keyed (fun j : Joined => (found.register j, j.sampleTime))
      (stateRows q found range db) := by
  refine (stateRows_keyed q found range db).of_determines fun a _ b _ hab => ?_
  simp only [ScopeMap.register, Joined.sampleTime, SampleRow.key, Prod.mk.injEq, toLex_inj] at hab
  rw [hab.1.2, hab.2.2]

theorem mem_stateRegisters (h : row ∈ stateRows q found range db) :
    row.value.registerName ∈ stateRegisters := by
  have hmem := (stateRows_perm q found range db).mem_iff.mp h
  exact (mem_history hmem).2.2.resolve_left (by simp [stateRegisters])

/-- The loop passes every row once, newest first. -/
theorem transitionsOf_sublist (found : ScopeMap) (rows : List Joined) :
    ((transitionsOf found rows).map Prod.fst).Sublist rows.reverse :=
  Changes.changesFrom_sublist Dict.empty rows.reverse

theorem mem_rows_of_transition (h : (row, old) ∈ transitionsOf found rows) : row ∈ rows :=
  List.mem_reverse.mp ((transitionsOf_sublist found rows).subset (List.mem_map_of_mem h))

/-- So no two transitions are of one row. -/
theorem transitionsOf_keyed
    (hkeyed : Keyed (fun j : Joined => (j.sample.id, j.value.registerName)) rows) :
    Keyed (fun c : Joined × CellValue => (c.1.sample.id, c.1.value.registerName))
      (transitionsOf found rows) := by
  have hsub := transitionsOf_sublist found rows
  have hreverse : Keyed (fun j : Joined => (j.sample.id, j.value.registerName)) rows.reverse := by
    rw [Keyed, List.map_reverse, List.nodup_reverse]
    exact hkeyed
  have hnodup := List.Nodup.sublist (hsub.map _) hreverse
  rwa [List.map_map] at hnodup

/-- The transitions of some first rows of the statement, as pairs of consecutive rows. -/
theorem mem_transitionsOf {n : Nat} :
    (row, old) ∈ transitionsOf found ((stateRows q found range db).take n) ↔
      Changes.IsChange found.register stateValue Joined.sampleTime
        ((stateRows q found range db).take n) row old := by
  have hsub : ((stateRows q found range db).take n).Sublist (stateRows q found range db) :=
    List.take_sublist _ _
  have hsorted : (((stateRows q found range db).take n).reverse).Pairwise fun a b =>
      a.sampleTime ≤ b.sampleTime := by
    rw [List.pairwise_reverse]
    exact (pairwise_orderBy Joined.sampleTime .desc _).sublist hsub
  have hkeyed : Keyed (fun j : Joined => (found.register j, j.sampleTime))
      ((stateRows q found range db).take n).reverse := by
    rw [Keyed, List.map_reverse, List.nodup_reverse]
    exact List.Nodup.sublist (hsub.map _) (stateRows_keyed_register q found range db)
  rw [transitionsOf, Changes.mem_changes_iff hsorted hkeyed]
  exact Changes.isChange_congr fun r => List.mem_reverse

/-- The transitions of the first rows are those with the row before in the register there. -/
theorem mem_transitionsOf_take {n : Nat} :
    (row, old) ∈ transitionsOf found ((stateRows q found range db).take n) ↔
      row ∈ stateRows q found range db ∧ stateValue row ≠ some old ∧
        ∃ p ∈ (stateRows q found range db).take n,
          Changes.Precedes found.register Joined.sampleTime (stateRows q found range db) p row ∧
            stateValue p = some old := by
  have hlater : ∀ a ∈ (stateRows q found range db).take n, ∀ b ∈ stateRows q found range db,
      a.sampleTime < b.sampleTime → b ∈ (stateRows q found range db).take n :=
    fun a ha b hb hlt => mem_take_of_not (pairwise_orderBy _ _ _) ha hb (not_le_of_gt hlt)
  rw [mem_transitionsOf, Changes.isChange_iff (List.take_sublist n _).subset hlater]

/-- A state change is one between neighbours among the rows that have a value. -/
theorem mem_stateChanges : (row, old) ∈ stateChanges q found range db ↔
    Changes.IsChange found.register stateValue Joined.sampleTime
      (Changes.valued stateValue (stateRows q found range db)) row old :=
  Changes.mem_valueChanges_iff (pairwise_orderBy Joined.sampleTime .desc _)
    (stateRows_keyed_register q found range db)

/-- It is of a state row with a value. -/
theorem mem_stateRows_of_stateChanges (h : (row, old) ∈ stateChanges q found range db) :
    row ∈ stateRows q found range db ∧ (stateValue row).isSome :=
  Changes.mem_valued.mp (mem_stateChanges.mp h).mem

/-- No two changes are of one row. -/
theorem stateChanges_keyed (q : TimelineEnv) (found : ScopeMap) (range : TimeRange)
    (db : TimelineDb) :
    Keyed (fun c : Joined × CellValue => (c.1.sample.id, c.1.value.registerName))
      (stateChanges q found range db) := by
  have hsub : ((stateChanges q found range db).map Prod.fst).Sublist (stateRows q found range db) :=
    Changes.valueChanges_sublist _
  have hnodup := List.Nodup.sublist (hsub.map _) (stateRows_keyed q found range db)
  rwa [List.map_map] at hnodup

/-- The transitions to a value that are read are the state changes that are reached. -/
theorem mem_transitionsOf_valued {limit : Int} :
    (row, old) ∈ transitionsOf found
        ((stateRows q found range db).take (max (limit * 10) 1000).toNat) ∧
        (stateValue row).isSome ↔
      (row, old) ∈ stateChanges q found range db ∧ AfterValue q found range limit db row := by
  have hkeyed := stateRows_keyed_register q found range db
  rw [mem_transitionsOf_take, mem_stateChanges, AfterValue]
  constructor
  · intro h
    obtain ⟨⟨hrow, hdiffers, p, hp, hbefore, hold⟩, hvalue⟩ := h
    obtain ⟨hchange, hsome⟩ :=
      (Changes.isChange_valued_iff hkeyed hbefore).mpr ⟨⟨hrow, hdiffers, hold⟩, hvalue⟩
    exact ⟨hchange, p, hp, hbefore, hsome⟩
  · intro h
    obtain ⟨hchange, p, hp, hbefore, hsome⟩ := h
    obtain ⟨⟨hrow, hdiffers, hold⟩, hvalue⟩ :=
      (Changes.isChange_valued_iff hkeyed hbefore).mp ⟨hchange, hsome⟩
    exact ⟨⟨hrow, hdiffers, p, hp, hbefore, hold⟩, hvalue⟩

/-- The transitions to nothing that are read. -/
theorem exists_transitionsOf_null {limit : Int} (hnull : stateValue row = none) :
    (∃ old, (row, old) ∈ transitionsOf found
        ((stateRows q found range db).take (max (limit * 10) 1000).toNat)) ↔
      row ∈ stateRows q found range db ∧ AfterValue q found range limit db row := by
  simp only [mem_transitionsOf_take, hnull]
  constructor
  · intro h
    obtain ⟨old, hrow, -, p, hp, hbefore, hold⟩ := h
    exact ⟨hrow, p, hp, hbefore, by simp [hold]⟩
  · intro h
    obtain ⟨hrow, p, hp, hbefore, hsome⟩ := h
    obtain ⟨old, hold⟩ := Option.isSome_iff_exists.mp hsome
    exact ⟨old, hrow, by simp, p, hp, hbefore, hold⟩

end Transitions

/-! ## entries in order -/

section Entries

variable {q : TimelineEnv} {found : ScopeMap} {range : TimeRange} {db : TimelineDb}
  {stored : List StoredEvent} {errors : List PollErrorRow} {syncs : List SyncRow}
  {transitions : List (Joined × CellValue)}

/-- The stored events of the timeline are those fetched. -/
theorem mem_entriesOf_stored {row : StoredEvent} :
    .stored row ∈ entriesOf stored errors syncs transitions ↔ row ∈ stored := by
  simp [entriesOf]

/-- So are its poll errors. -/
theorem mem_entriesOf_error {row : PollErrorRow} :
    .error row ∈ entriesOf stored errors syncs transitions ↔ row ∈ errors := by
  simp [entriesOf]

/-- Its synchronisations. -/
theorem mem_entriesOf_sync {row : SyncRow} :
    .sync row ∈ entriesOf stored errors syncs transitions ↔ row ∈ syncs := by
  simp [entriesOf]

/-- And its transitions. -/
theorem mem_entriesOf_transition {row : Joined} {old : CellValue} :
    .transition row old ∈ entriesOf stored errors syncs transitions ↔ (row, old) ∈ transitions := by
  simp [entriesOf]

/-- Entries of rows with ids have ids. -/
theorem entriesOf_keyed_id (q : TimelineEnv) (found : ScopeMap)
    (hstored : Keyed StoredEvent.id stored) (herrors : Keyed PollErrorRow.id errors)
    (hsyncs : Keyed SyncRow.id syncs)
    (htransitions : Keyed (fun c : Joined × CellValue => (c.1.sample.id, c.1.value.registerName))
      transitions) :
    Keyed (fun e => (e.event q found).id) (entriesOf stored errors syncs transitions) := by
  have hstored' : (stored.map fun row => EventId.stored row.id).Nodup :=
    hstored.of_determines fun a _ b _ hab => EventId.stored.inj hab
  have herrors' : (errors.map fun row => EventId.pollError row.id).Nodup :=
    herrors.of_determines fun a _ b _ hab => EventId.pollError.inj hab
  have hsyncs' : (syncs.map fun row => EventId.historySync row.id).Nodup :=
    hsyncs.of_determines fun a _ b _ hab => EventId.historySync.inj hab
  have htransitions' : (transitions.map fun c => EventId.transition
      (found.uidOf c.1.sample.deviceId) c.1.sample.id c.1.value.registerName).Nodup :=
    htransitions.of_determines fun a _ b _ hab => by
      rw [EventId.transition.injEq] at hab
      rw [hab.2.1, hab.2.2]
  have hids : (entriesOf stored errors syncs transitions).map (fun e => (e.event q found).id) =
      (stored.map fun row => EventId.stored row.id) ++
        (errors.map fun row => EventId.pollError row.id) ++
        (syncs.map fun row => EventId.historySync row.id) ++
        transitions.map fun c => EventId.transition (found.uidOf c.1.sample.deviceId) c.1.sample.id
          c.1.value.registerName := by
    simp [entriesOf, TimelineEntry.event, storedEvent, errorEvent, syncEvent, transitionEvent,
      Function.comp_def]
  rw [Keyed, hids, List.nodup_append, List.nodup_append, List.nodup_append]
  refine ⟨⟨⟨hstored', herrors', ?_⟩, hsyncs', ?_⟩, htransitions', ?_⟩
  · simp
  · grind
  · grind

/-- The order of the timeline is total on such entries. -/
theorem entriesOf_keyed (hstored : Keyed StoredEvent.id stored)
    (herrors : Keyed PollErrorRow.id errors) (hsyncs : Keyed SyncRow.id syncs)
    (htransitions : Keyed (fun c : Joined × CellValue => (c.1.sample.id, c.1.value.registerName))
      transitions)
    (hregisters : ∀ c ∈ transitions, c.1.value.registerName ∈ stateRegisters) :
    Keyed (fun e => (e.event q found).key) (entriesOf stored errors syncs transitions) := by
  have hok : ∀ e ∈ entriesOf stored errors syncs transitions, EventIdOk (e.event q found).id := by
    intro e he
    cases e with
    | stored row => trivial
    | error row => trivial
    | sync row => trivial
    | transition row old => exact hregisters _ (mem_entriesOf_transition.mp he)
  refine (entriesOf_keyed_id q found hstored herrors hsyncs htransitions).of_determines ?_
  intro a ha b hb hab
  rw [TimelineEvent.key, TimelineEvent.key, toLex_inj, Prod.mk.injEq] at hab
  exact text_injective (hok a ha) (hok b hb) hab.2

theorem storedRows_keyed (hkeyed : Keyed StoredEvent.id stored) (uids : List String)
    (includeUnassigned : Bool) (range : TimeRange) :
    Keyed StoredEvent.id (storedRows uids includeUnassigned range stored) := by
  rw [storedRows]
  split
  · exact keyed_nil _
  · exact hkeyed.filter _

theorem errorRows_keyed (q : TimelineEnv) (found : ScopeMap) (range : TimeRange)
    (db : TimelineDb) : Keyed PollErrorRow.id (errorRows q found range db) :=
  (((orderBy_perm _ _ _).trans (q.errorPlan.perm _)).map _).nodup_iff.mpr
    (db.errors_keyed.filter _)

theorem syncRows_keyed (q : TimelineEnv) (found : ScopeMap) (db : TimelineDb) :
    Keyed SyncRow.id (syncRows q found db) :=
  (((orderBy_perm _ _ _).trans (q.syncPlan.perm _)).map _).nodup_iff.mpr (db.syncs_keyed.filter _)

/-- **Keys of the timeline.**  No two entries share one, whatever tables they come from. -/
theorem entries_keyed (q : TimelineEnv) (found : ScopeMap) (range : TimeRange)
    (db : TimelineDb) :
    Keyed (fun e => (e.event q found).key) (entries q found range db) :=
  entriesOf_keyed (storedRows_keyed db.events_keyed _ _ range) (errorRows_keyed q found range db)
    ((syncRows_keyed q found db).filter _) (stateChanges_keyed q found range db)
    fun _ hc => mem_stateRegisters (mem_stateRows_of_stateChanges hc).1

/-! ## what the limits leave -/

/-- The entries that the limited statements read. -/
def fetched (q : TimelineEnv) (found : ScopeMap) (range : TimeRange) (limit : Int)
    (db : TimelineDb) : List TimelineEntry :=
  entriesOf ((orderBy storedKey .desc (storedOf q found range db)).take limit.toNat)
    ((errorRows q found range db).take limit.toNat)
    (((syncRows q found db).take limit.toNat).filter fun row => range.contains row.attemptedAt)
    (transitionsOf found ((stateRows q found range db).take (max (limit * 10) 1000).toNat))

/-- A transition to nothing. -/
def TimelineEntry.ToNothing : TimelineEntry → Prop
  | .transition row _ => stateValue row = none
  | _ => False

/-- What the statements read is what the limits reach, apart from transitions to nothing. -/
theorem mem_fetched {limit : Int} {e : TimelineEntry} :
    e ∈ fetched q found range limit db ∧ ¬ e.ToNothing ↔
      e ∈ entries q found range db ∧ e.Reached q found range limit db := by
  rw [fetched, entries]
  cases e with
  | stored row =>
      rw [mem_entriesOf_stored, mem_entriesOf_stored, TimelineEntry.Reached,
        and_iff_left (show ¬ (TimelineEntry.stored row).ToNothing from id)]
      exact (and_iff_right_of_imp fun h =>
        (mem_orderBy storedKey .desc _).mp (List.mem_of_mem_take h)).symm
  | error row =>
      rw [mem_entriesOf_error, mem_entriesOf_error, TimelineEntry.Reached,
        and_iff_left (show ¬ (TimelineEntry.error row).ToNothing from id)]
      exact (and_iff_right_of_imp List.mem_of_mem_take).symm
  | sync row =>
      rw [mem_entriesOf_sync, mem_entriesOf_sync, TimelineEntry.Reached, List.mem_filter,
        List.mem_filter, and_iff_left (show ¬ (TimelineEntry.sync row).ToNothing from id)]
      exact ⟨fun h => ⟨⟨List.mem_of_mem_take h.1, h.2⟩, h.1⟩, fun h => ⟨h.2, h.1.2⟩⟩
  | transition row old =>
      rw [mem_entriesOf_transition, mem_entriesOf_transition, TimelineEntry.Reached,
        ← mem_transitionsOf_valued, TimelineEntry.ToNothing, ← Option.ne_none_iff_isSome]

/-- The timeline has no event of a transition to nothing. -/
theorem not_toNothing {e e' : TimelineEntry} (he : e ∈ entries q found range db)
    (hsame : e'.event q found = e.event q found) : ¬ e'.ToNothing := by
  intro hnothing
  cases e' with
  | stored row => exact hnothing
  | error row => exact hnothing
  | sync row => exact hnothing
  | transition row' old' =>
      have hpayload := congrArg TimelineEvent.payload hsame
      cases e with
      | stored row => cases hpayload
      | error row => cases hpayload
      | sync row => cases hpayload
      | transition row old =>
          have hvalue := (mem_stateRows_of_stateChanges (mem_entriesOf_transition.mp he)).2
          have hcell : row'.cell = row.cell := (EventPayload.transition.inj hpayload).2.2
          rw [stateValue, ← hcell, ← stateValue, show stateValue row' = none from hnothing]
            at hvalue
          cases hvalue

/-- Nor do two of the entries that `events` fetches. -/
theorem fetched_keyed (q : TimelineEnv) (found : ScopeMap) (range : TimeRange) (limit : Int)
    (db : TimelineDb) :
    Keyed (fun e => (e.event q found).key) (fetched q found range limit db) := by
  have hstored : Keyed StoredEvent.id
      ((orderBy storedKey .desc (storedOf q found range db)).take limit.toNat) :=
    List.Nodup.sublist ((List.take_sublist _ _).map _)
      (((orderBy_perm _ _ _).map _).nodup_iff.mpr (storedRows_keyed db.events_keyed _ _ range))
  have herrors : Keyed PollErrorRow.id ((errorRows q found range db).take limit.toNat) :=
    List.Nodup.sublist ((List.take_sublist _ _).map _) (errorRows_keyed q found range db)
  have hsyncs : Keyed SyncRow.id ((syncRows q found db).take limit.toNat) :=
    List.Nodup.sublist ((List.take_sublist _ _).map _) (syncRows_keyed q found db)
  have hrows : Keyed (fun j : Joined => (j.sample.id, j.value.registerName))
      ((stateRows q found range db).take (max (limit * 10) 1000).toNat) :=
    List.Nodup.sublist ((List.take_sublist _ _).map _) (stateRows_keyed q found range db)
  exact entriesOf_keyed hstored herrors (hsyncs.filter _) (transitionsOf_keyed hrows)
    fun _ hc => mem_stateRegisters (List.mem_of_mem_take (mem_rows_of_transition hc))

/-- The events ahead of one at a row are those of the newer entries. -/
theorem length_ahead (q : TimelineEnv) (found : ScopeMap) (range : TimeRange) (db : TimelineDb)
    (row : Joined) (old : CellValue) :
    (ahead TimelineEvent.key .desc ((entries q found range db).map (TimelineEntry.event q found))
      (transitionEvent q found row old)).length = (newerEntries q found range db row).length := by
  rw [ahead, List.filter_map, List.length_map, newerEntries]
  refine congrArg List.length (List.filter_congr fun e _ => ?_)
  exact decide_eq_decide.mpr not_le

/-- Sorting entries is sorting the events they become. -/
theorem map_newestEntries (q : TimelineEnv) (found : ScopeMap) (range : TimeRange)
    (db : TimelineDb) : (newestEntries q found range db).map (TimelineEntry.event q found) =
      orderBy TimelineEvent.key .desc
        ((entries q found range db).map (TimelineEntry.event q found)) := by
  rw [orderBy_map]
  rfl

/-- The first events that are read are the first of the timeline exactly when the limits reach
these and they are newer than the transitions to nothing. -/
theorem take_fetched_eq_iff {limit : Int} :
    (orderBy TimelineEvent.key .desc
        ((fetched q found range limit db).map (TimelineEntry.event q found))).take limit.toNat =
      (orderBy TimelineEvent.key .desc
        ((entries q found range db).map (TimelineEntry.event q found))).take limit.toNat ↔
      (∀ e ∈ (newestEntries q found range db).take limit.toNat,
        e.Reached q found range limit db) ∧
        ∀ row ∈ stateRows q found range db, stateValue row = none →
          AfterValue q found range limit db row →
            limit.toNat ≤ (newerEntries q found range db row).length := by
  have hkeyed : Keyed TimelineEvent.key
      ((entries q found range db).map (TimelineEntry.event q found)) := by
    rw [Keyed, List.map_map]
    exact entries_keyed q found range db
  have hkeyed' : Keyed TimelineEvent.key
      ((fetched q found range limit db).map (TimelineEntry.event q found)) := by
    rw [Keyed, List.map_map]
    exact fetched_keyed q found range limit db
  have hmem : ∀ e ∈ (newestEntries q found range db).take limit.toNat,
      e ∈ entries q found range db := fun e he =>
    (mem_orderBy _ _ _).mp (List.mem_of_mem_take he)
  rw [take_orderBy_eq_iff_ahead hkeyed hkeyed', ← map_newestEntries, ← List.map_take]
  refine and_congr ⟨fun h e he => ?_, fun h event hevent => ?_⟩
    ⟨fun h row hrow hnull hafter => ?_, fun h event hevent hnot => ?_⟩
  · obtain ⟨e', he', hsame⟩ := List.mem_map.mp (h _ (List.mem_map_of_mem he))
    have hread := mem_fetched.mp ⟨he', not_toNothing (hmem e he) hsame⟩
    obtain rfl : e' = e := (entries_keyed q found range db).eq hread.1 (hmem e he)
      (congrArg TimelineEvent.key hsame)
    exact hread.2
  · obtain ⟨e, he, rfl⟩ := List.mem_map.mp hevent
    exact List.mem_map_of_mem (mem_fetched.mpr ⟨hmem e he, h e he⟩).1
  · obtain ⟨old, hold⟩ := (exists_transitionsOf_null hnull).mpr ⟨hrow, hafter⟩
    have hread : .transition row old ∈ fetched q found range limit db :=
      mem_entriesOf_transition.mpr hold
    rw [← length_ahead q found range db row old]
    refine h _ (List.mem_map_of_mem hread) fun hentry => ?_
    obtain ⟨e, he, hsame⟩ := List.mem_map.mp hentry
    have hevent : TimelineEntry.event q found (.transition row old) = e.event q found := hsame.symm
    exact not_toNothing he hevent hnull
  · obtain ⟨e, he, rfl⟩ := List.mem_map.mp hevent
    have hnothing : e.ToNothing := by
      by_contra hvalue
      exact hnot (List.mem_map_of_mem (mem_fetched.mp ⟨he, hvalue⟩).1)
    cases e with
    | stored row => exact hnothing.elim
    | error row => exact hnothing.elim
    | sync row => exact hnothing.elim
    | transition row old =>
        obtain ⟨hrow, hafter⟩ :=
          (exists_transitionsOf_null hnothing).mp ⟨old, mem_entriesOf_transition.mp he⟩
        exact (h row hrow hnothing hafter).trans_eq (length_ahead q found range db row old).symm

end Entries

/-! ## the first events -/

section Newest

variable {q : TimelineEnv} {found : ScopeMap} {range : TimeRange} {limit : Int}

/-- A limit that is not negative takes that many. -/
theorem limitRows_eq_take {α : Type} (h : 0 ≤ limit) (rows : List α) :
    limitRows (some limit) rows = rows.take limit.toNat := by
  simp [limitRows, not_lt.mpr h]

/-- A limit in range is not clamped. -/
theorem clampLimit_eq (h : 1 ≤ limit ∧ limit ≤ 5000) : clampLimit 5000 limit = limit.toNat := by
  rw [clampLimit, min_eq_left h.2, max_eq_right h.1]

/-- The events are the first of those that are read. -/
theorem eventsOf_eq (hlimit : 1 ≤ limit ∧ limit ≤ 5000) (hdevices : found.noDevices = false)
    (db : TimelineDb) : eventsOf q found range limit db =
      (orderBy TimelineEvent.key .desc
        ((fetched q found range limit db).map (TimelineEntry.event q found))).take limit.toNat := by
  have hmost : 0 ≤ max (limit * 10) 1000 := le_max_of_le_right (by decide)
  have hnonneg : 0 ≤ limit := by omega
  rw [eventsOf, hdevices, clampLimit_eq hlimit, limitRows_eq_take hnonneg,
    limitRows_eq_take hnonneg, limitRows_eq_take hmost, recent, clampLimit_eq hlimit]
  simp [fetched, entriesOf, storedOf, TimelineEntry.event, Function.comp_def]

/-- The events are the first of the timeline exactly when the limits reach these. -/
theorem eventsOf_eq_iff (hlimit : 1 ≤ limit ∧ limit ≤ 5000) (db : TimelineDb) :
    eventsOf q found range limit db = (timeline q found range db).take limit.toNat ↔
      WithinReach q found range limit db := by
  rw [WithinReach, timeline]
  cases hdevices : found.noDevices with
  | true =>
      have hstored : eventsOf q found range limit db =
          ((orderBy storedKey .desc (storedOf q found range db)).map storedEvent).take
            limit.toNat := by
        rw [eventsOf, hdevices, if_pos rfl, recent, clampLimit_eq hlimit, ← List.map_take,
          List.take_take, min_self, List.map_take]
        rfl
      simp [hstored]
  | false =>
      rw [eventsOf_eq hlimit hdevices, if_neg Bool.false_ne_true, map_newestEntries,
        take_fetched_eq_iff]
      exact ⟨fun h _ => h, fun h => h rfl⟩

/-- `events` returns the first entries of the timeline exactly when the limits of its statements
reach each of these. -/
theorem events_newest_iff {now : Nat} {identifier : String} {systems synced : SystemDb}
    (hscope : scopeMap q.env q.config now identifier systems = .ok (synced, found))
    (hlimit : 1 ≤ limit ∧ limit ≤ 5000) (range : TimeRange) (db : TimelineDb) :
    events q now identifier range limit db systems =
        .ok (synced, (timeline q found range db).take limit.toNat) ↔
      WithinReach q found range limit db := by
  rw [← eventsOf_eq_iff hlimit db, events, hscope]
  simp

/-- More events follow the ones of a smaller limit, where the limits reach both. -/
theorem eventsOf_prefix {more : Int} (hlimit : 1 ≤ limit) (hle : limit ≤ more)
    (hmore : more ≤ 5000) (db : TimelineDb) (h : WithinReach q found range limit db)
    (h' : WithinReach q found range more db) :
    eventsOf q found range limit db <+: eventsOf q found range more db := by
  rw [(eventsOf_eq_iff ⟨hlimit, hle.trans hmore⟩ db).mpr h,
    (eventsOf_eq_iff ⟨hlimit.trans hle, hmore⟩ db).mpr h']
  exact List.take_prefix_take_left (by omega)

end Newest

/-! ## two synchronisations -/

def plainTimeline : TimelineEnv where
  env := plainEnv
  upper := id
  texts := { str := fun _ => "0.0", fromisoformat := fun _ => none }
  errorPlan := .scan _
  syncPlan := .scan _
  rowPlan := .scan _

/-- Synchronisations of a device on the first and on the third of January. -/
def januarySyncs : List SyncRow := [
  { id := 1, deviceId := "tcp", attemptedAt := "2026-01-01T12:00:00+00:00"
    source := "liveview-http", status := "ok" },
  { id := 2, deviceId := "tcp", attemptedAt := "2026-01-03T12:00:00+00:00"
    source := "liveview-http", status := "ok" }]

theorem januarySyncs_keyed : Keyed SyncRow.id januarySyncs := by decide

theorem noStoredEvents_keyed : Keyed StoredEvent.id [] := keyed_nil _

theorem noPollErrors_keyed : Keyed PollErrorRow.id [] := keyed_nil _

def januaryTimeline : TimelineDb where
  telemetry := noSamples
  events := []
  errors := []
  syncs := januarySyncs
  events_keyed := noStoredEvents_keyed
  errors_keyed := noPollErrors_keyed
  syncs_keyed := januarySyncs_keyed

/-- The first two days of January. -/
def januaryRange : TimeRange where
  stop := some "2026-01-03T00:00:00+00:00"

/-- A sync after the range takes the place of the one in it. -/
theorem events_newest_iff_january :
    ∃ synced found, scopeMap plainEnv {} 5 "default" { registry := movedRegistry } =
        .ok (synced, found) ∧
      (events plainTimeline 5 "default" {} 1 januaryTimeline { registry := movedRegistry } =
          .ok (synced, (timeline plainTimeline found {} januaryTimeline).take (1 : Int).toNat) ↔
        WithinReach plainTimeline found {} 1 januaryTimeline) := by
  have hok : (scopeMap plainEnv {} 5 "default" { registry := movedRegistry }).toBool = true := by
    decide +kernel
  obtain ⟨r, hrun⟩ := Loop.exists_ok hok
  exact ⟨r.1, r.2, hrun, events_newest_iff (q := plainTimeline) hrun (by decide) _ _⟩

/-- The synchronisation after the range takes the limit of one: the one in the range is not
returned. -/
theorem sync_out_of_range_hides_newest :
    ∃ synced found, scopeMap plainEnv {} 5 "default" { registry := movedRegistry } =
        .ok (synced, found) ∧
      events plainTimeline 5 "default" januaryRange 1 januaryTimeline
          { registry := movedRegistry } ≠
        .ok (synced,
          (timeline plainTimeline found januaryRange januaryTimeline).take (1 : Int).toNat) := by
  have hnewest : (scopeMap plainEnv {} 5 "default" { registry := movedRegistry }).map (fun r =>
      ((eventsOf plainTimeline r.2 januaryRange 1 januaryTimeline).map TimelineEvent.id,
        ((timeline plainTimeline r.2 januaryRange januaryTimeline).take (1 : Int).toNat).map
          TimelineEvent.id)) = .ok ([], [.historySync 1]) := by decide +kernel
  cases hrun : scopeMap plainEnv {} 5 "default" { registry := movedRegistry } with
  | error e =>
      rw [hrun] at hnewest
      cases hnewest
  | ok r =>
      rw [hrun] at hnewest
      obtain ⟨hevents, htimeline⟩ := Prod.mk.inj (Except.ok.inj hnewest)
      refine ⟨r.1, r.2, rfl, fun h => ?_⟩
      rw [events, show plainTimeline.env = plainEnv from rfl,
        show plainTimeline.config = {} from rfl, hrun] at h
      have hsame := congrArg (List.map TimelineEvent.id) (Prod.mk.inj (Except.ok.inj h)).2
      rw [hevents, htimeline] at hsame
      cases hsame

end SystemDataRepository

end MorningstarModbus
