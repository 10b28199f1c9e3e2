import Mathlib.Algebra.Order.Ring.Unbundled.Rat
import MorningstarModbus.Lib.Query

/-!
# MorningstarModbus.Systems.Stream

The stream of server-sent events of a system (`system_stream` in
`api/routers/systems.py`).  It remembers the ids of the events it has sent in a
set, and keeps a thousand of them, whichever the set gives last, when there are
more than two thousand.

* `Memory` — which ids can have been forgotten;
* `stream_never_repeats_iff` — no event is sent twice, in whatever order sets
  are read, exactly when none is listed again after it can have been forgotten.
-/

namespace MorningstarModbus

open Query

/-! ## the stream -/

/-- An event as the stream reads it; an id that is missing or zero is the empty text. -/
structure StreamEvent where
  id : String
  eventType : String
  deriving DecidableEq

/-- `_sse_event_name` -/
def sseEventName (event : StreamEvent) : String :=
  if event.eventType = "INCIDENT_OPENED" then "incident_opened"
  else if event.eventType = "INCIDENT_UPDATED" then "incident_updated"
  else if event.eventType = "INCIDENT_RESOLVED" then "incident_resolved"
  else "system_event"

inductive StreamMessage (S : Type) where
  | telemetry (snapshot : S)
  | event (name : String) (event : StreamEvent)
  | heartbeat

structure StreamState (S : Type) where
  /-- `previous_snapshot`; the empty text is none -/
  previous : Option S := none
  /-- `seen_events`, in no order of its own -/
  seen : List String := []
  lastHeartbeat : ℚ
  sent : List (StreamMessage S) := []
  /-- how many times `seen_events` was cut -/
  cuts : Nat := 0

/-- What one turn of the loop reads; `recent` are the newest events, newest first. -/
structure StreamTurn (S : Type) where
  snapshot : S
  recent : List StreamEvent
  now : ℚ

variable {S : Type}

/-- `seen_events` with a new id; `order` is the order in which the set is listed. -/
def rememberId (order : Plan String) (seen : List String) (id : String) : List String :=
  let seen := seen ++ [id]
  if seen.length > 2000 then
    let listed := order.rows seen
    listed.drop (listed.length - 1000)
  else seen

/-- One event of a turn. -/
def sendEvent (orders : Nat → Plan String) (s : StreamState S) (event : StreamEvent) :
    StreamState S :=
  if event.id = "" ∨ event.id ∈ s.seen then s
  else { s with
    seen := rememberId (orders s.cuts) s.seen event.id
    sent := s.sent ++ [.event (sseEventName event) event]
    cuts := if s.seen.length ≥ 2000 then s.cuts + 1 else s.cuts }

/-- The snapshot, where it is another. -/
def sendSnapshot [DecidableEq S] (snapshot : S) (s : StreamState S) : StreamState S :=
  if s.previous ≠ some snapshot then
    { s with previous := some snapshot, sent := s.sent ++ [.telemetry snapshot] }
  else s

def sendHeartbeat (heartbeat now : ℚ) (s : StreamState S) : StreamState S :=
  if now - s.lastHeartbeat ≥ heartbeat then
    { s with lastHeartbeat := now, sent := s.sent ++ [.heartbeat] }
  else s

/-- One turn of the loop. -/
def streamTurn [DecidableEq S] (orders : Nat → Plan String) (heartbeat : ℚ) (s : StreamState S)
    (turn : StreamTurn S) : StreamState S :=
  sendHeartbeat heartbeat turn.now
    (turn.recent.reverse.foldl (sendEvent orders) (sendSnapshot turn.snapshot s))

/-- The stream after its turns. -/
def systemStream [DecidableEq S] (orders : Nat → Plan String) (heartbeat start : ℚ)
    (turns : List (StreamTurn S)) : StreamState S :=
  turns.foldl (streamTurn orders heartbeat) { lastHeartbeat := start }

/-- The id of an event message. -/
def StreamMessage.eventId? : StreamMessage S → Option String
  | .event _ sent => some sent.id
  | _ => none

/-- The ids of the events that were sent. -/
def StreamState.eventIds (s : StreamState S) : List String := s.sent.filterMap StreamMessage.eventId?

/-! ## what can be forgotten -/

/-- The ids sent up to the last cut, those sent since, and how many more the next cut
takes. -/
structure Memory where
  old : List String := []
  fresh : List String := []
  room : Nat := 2001

/-- An id is listed: `none` where it can have been forgotten. -/
def Memory.list (m : Memory) (id : String) : Option Memory :=
  if id = "" ∨ id ∈ m.fresh then some m
  else if id ∈ m.old then none
  else if m.fresh.length + 1 = m.room then
    some { old := m.old ++ m.fresh ++ [id], fresh := [], room := 1001 }
  else some { m with fresh := m.fresh ++ [id] }

/-- The ids that the turns list, in the order in which they are read. -/
def listedIds (turns : List (StreamTurn S)) : List String :=
  turns.flatMap fun turn => turn.recent.reverse.map StreamEvent.id

/-- No id is listed again after it can have been forgotten. -/
def Remembered (turns : List (StreamTurn S)) : Prop :=
  ((listedIds turns).foldlM Memory.list {}).isSome = true

/-! ## the stream and what it can have forgotten -/

/-- The set holds the ids since the last cut, and some of those before. -/
structure Memory.Matches (m : Memory) (s : StreamState S) (kept : List String) : Prop where
  seen : s.seen = kept ++ m.fresh
  kept_old : kept ⊆ m.old
  kept_nodup : kept.Nodup
  room : kept.length + m.room = 2001
  fresh_lt : m.fresh.length < m.room
  sent : s.eventIds = m.old ++ m.fresh
  nodup : (m.old ++ m.fresh).Nodup

section Runs

variable {orders : Nat → Plan String} {m m' : Memory} {s : StreamState S} {kept : List String}
  {event : StreamEvent}

/-- The ids seen are those kept at the last cut and the fresh ones. -/
theorem Memory.Matches.mem_seen (h : m.Matches s kept) {id : String} :
    id ∈ s.seen ↔ id ∈ kept ∨ id ∈ m.fresh := by
  rw [h.seen, List.mem_append]

/-- No id is remembered twice. -/
theorem Memory.Matches.seen_nodup (h : m.Matches s kept) : s.seen.Nodup := by
  rw [h.seen, List.nodup_append]
  obtain ⟨-, hfresh, hdisjoint⟩ := List.nodup_append.mp h.nodup
  exact ⟨h.kept_nodup, hfresh, fun a ha b hb => hdisjoint a (h.kept_old ha) b hb⟩

/-- An event that was seen is not sent. -/
theorem sendEvent_of_mem (h : event.id = "" ∨ event.id ∈ s.seen) :
    sendEvent orders s event = s := by
  rw [sendEvent, if_pos h]

/-- Another one is sent, and remembered. -/
theorem sendEvent_of_not_mem (h : ¬ (event.id = "" ∨ event.id ∈ s.seen)) :
    sendEvent orders s event = { s with
      seen := rememberId (orders s.cuts) s.seen event.id
      sent := s.sent ++ [.event (sseEventName event) event]
      cuts := if s.seen.length ≥ 2000 then s.cuts + 1 else s.cuts } := by
  rw [sendEvent, if_neg h]

/-- Its id is the last one sent. -/
theorem eventIds_sendEvent (h : ¬ (event.id = "" ∨ event.id ∈ s.seen)) :
    (sendEvent orders s event).eventIds = s.eventIds ++ [event.id] := by
  rw [sendEvent_of_not_mem h]
  simp [StreamState.eventIds, StreamMessage.eventId?]

/-- An id that cannot have been forgotten is sent once. -/
theorem Memory.Matches.list (orders : Nat → Plan String) (h : m.Matches s kept)
    (hlist : m.list event.id = some m') :
    ∃ kept', m'.Matches (sendEvent orders s event) kept' ∧
      (kept' = kept ∨ ∃ n seen, seen.Nodup ∧ kept' = ((orders n).rows seen).drop 1001) := by
  unfold Memory.list at hlist
  split at hlist
  case isTrue hseen =>
    cases hlist
    rw [sendEvent_of_mem (hseen.imp_right fun hmem => h.mem_seen.mpr (.inr hmem))]
    exact ⟨kept, h, .inl rfl⟩
  case isFalse hseen =>
    split at hlist
    case isTrue => cases hlist
    case isFalse hold =>
      have hnew : ¬ (event.id = "" ∨ event.id ∈ s.seen) := by
        rw [h.mem_seen]
        rintro (hempty | hkept | hfresh)
        · exact hseen (.inl hempty)
        · exact hold (h.kept_old hkept)
        · exact hseen (.inr hfresh)
      have hids : (sendEvent orders s event).eventIds = m.old ++ m.fresh ++ [event.id] := by
        rw [eventIds_sendEvent hnew, h.sent]
      have hnodup : (m.old ++ m.fresh ++ [event.id]).Nodup := by
        refine List.nodup_append.mpr ⟨h.nodup, List.nodup_singleton _, ?_⟩
        rintro id hid _ hsingle rfl
        rw [List.mem_singleton.mp hsingle, List.mem_append] at hid
        exact hid.elim hold fun hfresh => hseen (.inr hfresh)
      have hseen' : (sendEvent orders s event).seen =
          rememberId (orders s.cuts) s.seen event.id := by
        rw [sendEvent_of_not_mem hnew]
      have hlength : s.seen.length = kept.length + m.fresh.length := by
        rw [h.seen, List.length_append]
      have hroom := h.room
      split at hlist
      case isTrue hlast =>
        -- the set has 2001 ids and is cut
        cases hlist
        have hcut : rememberId (orders s.cuts) s.seen event.id =
            ((orders s.cuts).rows (s.seen ++ [event.id])).drop 1001 := by
          have hperm := ((orders s.cuts).perm (s.seen ++ [event.id])).length_eq
          rw [List.length_append, List.length_singleton] at hperm
          rw [rememberId, if_pos (by rw [List.length_append, List.length_singleton]; omega)]
          simp only
          rw [hperm, show s.seen.length + 1 - 1000 = 1001 by omega]
        have hperm := (orders s.cuts).perm (s.seen ++ [event.id])
        have hall : (s.seen ++ [event.id]).Nodup := by
          refine List.nodup_append.mpr ⟨h.seen_nodup, List.nodup_singleton _, ?_⟩
          rintro id hid _ hsingle rfl
          exact hnew (.inr (List.mem_singleton.mp hsingle ▸ hid))
        refine ⟨_, ⟨?_, ?_, ?_, ?_, Nat.succ_pos 1000, ?_, ?_⟩, .inr ⟨s.cuts, _, hall, rfl⟩⟩
        · rw [hseen', hcut, List.append_nil]
        · intro id hid
          have hmem := hperm.mem_iff.mp (List.mem_of_mem_drop hid)
          rw [List.mem_append, h.mem_seen] at hmem
          simp only [List.mem_append]
          exact hmem.imp_left (Or.imp_left fun hkept => h.kept_old hkept)
        · exact (hperm.nodup_iff.mpr hall).sublist (List.drop_sublist _ _)
        · rw [List.length_drop, hperm.length_eq, List.length_append, List.length_singleton]
          simp only
          omega
        · rw [hids, List.append_nil]
        · rw [List.append_nil]
          exact hnodup
      case isFalse hmore =>
        cases hlist
        have hkeep : rememberId (orders s.cuts) s.seen event.id = s.seen ++ [event.id] := by
          have hlt := h.fresh_lt
          rw [rememberId, if_neg (by rw [List.length_append, List.length_singleton]; omega)]
        refine ⟨kept, ⟨?_, h.kept_old, h.kept_nodup, h.room, ?_, ?_, ?_⟩, .inl rfl⟩
        · rw [hseen', hkeep, h.seen, List.append_assoc]
        · have hlt := h.fresh_lt
          rw [List.length_append, List.length_singleton]
          simp only
          omega
        · rw [hids, List.append_assoc]
        · rw [← List.append_assoc]
          exact hnodup

/-- The same over a run of events.  What is kept of an order has any property that its last
thousand ids have. -/
theorem Memory.Matches.run {P : List String → Prop} (orders : Nat → Plan String)
    (h : m.Matches s kept) (hkept : P kept)
    (hP : ∀ n seen, seen.Nodup → P (((orders n).rows seen).drop 1001)) {events : List StreamEvent}
    (hlist : (events.map StreamEvent.id).foldlM Memory.list m = some m') :
    ∃ kept', m'.Matches (events.foldl (sendEvent orders) s) kept' ∧ P kept' := by
  induction events generalizing m s kept with
  | nil =>
      cases hlist
      exact ⟨kept, h, hkept⟩
  | cons event events ih =>
      rw [List.map_cons, List.foldlM_cons, Option.bind_eq_bind, Option.bind_eq_some_iff] at hlist
      obtain ⟨m₁, hm₁, hrest⟩ := hlist
      obtain ⟨kept₁, hmatches, hsame | ⟨n, seen, hnodup, hcut⟩⟩ := h.list orders hm₁
      · exact ih hmatches (hsame ▸ hkept) hrest
      · exact ih hmatches (hcut ▸ hP n seen hnodup) hrest

theorem matches_start (lastHeartbeat : ℚ) :
    Memory.Matches {} ({ lastHeartbeat } : StreamState S) [] where
  seen := rfl
  kept_old := List.nil_subset _
  kept_nodup := List.nodup_nil
  room := rfl
  fresh_lt := Nat.succ_pos 2000
  sent := rfl
  nodup := List.nodup_nil

/-- What was sent stays sent. -/
theorem eventIds_grow (events : List StreamEvent) :
    s.eventIds <+: (events.foldl (sendEvent orders) s).eventIds := by
  induction events generalizing s with
  | nil => exact List.prefix_refl _
  | cons event events ih =>
      refine List.IsPrefix.trans ?_ ih
      by_cases h : event.id = "" ∨ event.id ∈ s.seen
      · simp only [sendEvent_of_mem h, List.prefix_refl]
      · rw [eventIds_sendEvent h]
        exact List.prefix_append _ _

/-- An order that lists an id first drops it at every cut. -/
theorem not_mem_drop_first {id : String} {seen : List String} (h : seen.Nodup) :
    id ∉ ((Plan.first id).rows seen).drop 1001 := by
  simp only [Plan.first]
  split
  · rw [List.drop_succ_cons]
    exact fun hmem => (List.Nodup.not_mem_erase h) (List.mem_of_mem_drop hmem)
  · exact fun hmem => absurd (List.mem_of_mem_drop hmem) ‹_›

/-- A refused listing, up to the id that is refused. -/
theorem exists_refused {events : List StreamEvent}
    (h : (events.map StreamEvent.id).foldlM Memory.list m = none) :
    ∃ front event back m', events = front ++ event :: back ∧
      (front.map StreamEvent.id).foldlM Memory.list m = some m' ∧ m'.list event.id = none := by
  induction events generalizing m with
  | nil => cases h
  | cons event events ih =>
      rw [List.map_cons, List.foldlM_cons, Option.bind_eq_bind] at h
      cases hm : m.list event.id with
      | none => exact ⟨[], event, events, m, rfl, rfl, hm⟩
      | some m₁ =>
          rw [hm, Option.bind_some] at h
          obtain ⟨front, refused, back, m', rfl, hfront, hrefused⟩ := ih h
          refine ⟨event :: front, refused, back, m', rfl, ?_, hrefused⟩
          rw [List.map_cons, List.foldlM_cons, Option.bind_eq_bind, hm, Option.bind_some, hfront]

/-- An id can have been forgotten only if it is not among the fresh ones but among the old. -/
theorem list_eq_none {id : String} (h : m.list id = none) : id ≠ "" ∧ id ∉ m.fresh ∧ id ∈ m.old := by
  unfold Memory.list at h
  split at h
  · cases h
  case isFalse hnew =>
    obtain ⟨hempty, hfresh⟩ := not_or.mp hnew
    split at h
    · exact ⟨hempty, hfresh, ‹_›⟩
    · split at h <;> cases h

end Runs

/-! ## turns -/

/-- Two states with the same memory and the same events sent. -/
structure StreamState.SameEvents (s s' : StreamState S) : Prop where
  seen : s.seen = s'.seen
  cuts : s.cuts = s'.cuts
  eventIds : s.eventIds = s'.eventIds

section Turns

variable {orders : Nat → Plan String} {s s' : StreamState S}

/-- What is sent of events depends on what was seen and nothing else. -/
theorem StreamState.SameEvents.sendEvents (h : s.SameEvents s') (events : List StreamEvent) :
    (events.foldl (sendEvent orders) s).SameEvents (events.foldl (sendEvent orders) s') := by
  induction events generalizing s s' with
  | nil => exact h
  | cons event events ih =>
      refine ih ?_
      by_cases hseen : event.id = "" ∨ event.id ∈ s.seen
      · rw [sendEvent_of_mem hseen, sendEvent_of_mem (h.seen ▸ hseen)]
        exact h
      · have hseen' : ¬ (event.id = "" ∨ event.id ∈ s'.seen) := h.seen ▸ hseen
        refine ⟨?_, ?_, ?_⟩
        · rw [sendEvent_of_not_mem hseen, sendEvent_of_not_mem hseen']
          simp only [h.seen, h.cuts]
        · rw [sendEvent_of_not_mem hseen, sendEvent_of_not_mem hseen']
          simp only [h.seen, h.cuts]
        · rw [eventIds_sendEvent hseen, eventIds_sendEvent hseen', h.eventIds]

/-- Snapshots are no events. -/
theorem sendSnapshot_events [DecidableEq S] (h : s.SameEvents s') (snapshot : S) :
    (sendSnapshot snapshot s).SameEvents s' := by
  unfold sendSnapshot
  split
  · refine ⟨h.seen, h.cuts, ?_⟩
    rw [← h.eventIds]
    simp [StreamState.eventIds, StreamMessage.eventId?]
  · exact h

/-- Nor are heartbeats. -/
theorem sendHeartbeat_events (h : s.SameEvents s') (heartbeat now : ℚ) :
    (sendHeartbeat heartbeat now s).SameEvents s' := by
  unfold sendHeartbeat
  split
  · refine ⟨h.seen, h.cuts, ?_⟩
    rw [← h.eventIds]
    simp [StreamState.eventIds, StreamMessage.eventId?]
  · exact h

/-- The ids listed over all turns, oldest first within each. -/
theorem listedIds_eq (turns : List (StreamTurn S)) :
    listedIds turns = (turns.flatMap fun turn => turn.recent.reverse).map StreamEvent.id := by
  simp [listedIds, List.map_flatMap]

variable [DecidableEq S]

/-- A turn sends the events it lists; snapshots and heartbeats are no events. -/
theorem streamTurn_events (heartbeat : ℚ) (h : s.SameEvents s') (turn : StreamTurn S) :
    (streamTurn orders heartbeat s turn).SameEvents
      (turn.recent.reverse.foldl (sendEvent orders) s') :=
  sendHeartbeat_events ((sendSnapshot_events h turn.snapshot).sendEvents _) heartbeat turn.now

/-- **Run lemma.**  The events of a stream are those of its turns, sent one after another. -/
theorem stream_events (orders : Nat → Plan String) (heartbeat : ℚ) (h : s.SameEvents s')
    (turns : List (StreamTurn S)) :
    (turns.foldl (streamTurn orders heartbeat) s).SameEvents
      ((turns.flatMap fun turn => turn.recent.reverse).foldl (sendEvent orders) s') := by
  induction turns generalizing s s' with
  | nil => exact h
  | cons turn turns ih =>
      rw [List.flatMap_cons, List.foldl_append]
      exact ih (streamTurn_events heartbeat h turn)

/-- Where an id is listed again after it can have been forgotten, some orders forget it. -/
theorem exists_repeat {turns : List (StreamTurn S)} (h : ¬ Remembered turns) :
    ∃ orders, ∀ heartbeat start, ¬ (systemStream orders heartbeat start turns).eventIds.Nodup := by
  unfold Remembered at h
  rw [listedIds_eq, Option.not_isSome_iff_eq_none] at h
  obtain ⟨front, event, back, m, hevents, hfront, hnone⟩ := exists_refused h
  obtain ⟨hempty, hfresh, hold⟩ := list_eq_none hnone
  refine ⟨fun _ => Plan.first event.id, fun heartbeat start honce => ?_⟩
  -- every set lists that id first, and so drops it
  obtain ⟨kept, hmatches, hlost⟩ := (matches_start (S := S) start).run (P := (event.id ∉ ·))
    (fun _ => Plan.first event.id) List.not_mem_nil
    (fun _ _ hnodup => not_mem_drop_first hnodup) hfront
  have hseen : ¬ (event.id = "" ∨ event.id ∈ (front.foldl (sendEvent fun _ => Plan.first event.id)
      ({ lastHeartbeat := start } : StreamState S)).seen) := by
    rw [hmatches.mem_seen]
    rintro (h | h | h)
    · exact hempty h
    · exact hlost h
    · exact hfresh h
  have hsame := stream_events (fun _ => Plan.first event.id) heartbeat
    (s := ({ lastHeartbeat := start } : StreamState S)) ⟨rfl, rfl, rfl⟩ turns
  rw [systemStream, hsame.eventIds, hevents, List.foldl_append, List.foldl_cons] at honce
  have htwice := honce.sublist (eventIds_grow back).sublist
  rw [eventIds_sendEvent hseen, hmatches.sent, List.append_assoc] at htwice
  exact (List.nodup_append.mp htwice).2.2 _ hold _
    (List.mem_append_right _ List.mem_cons_self) rfl

/-- Whatever the orders in which sets are read, no event is sent twice: exactly when no id
is listed again after the memory can have lost it. -/
theorem stream_never_repeats_iff (turns : List (StreamTurn S)) :
    (∀ orders heartbeat start, (systemStream orders heartbeat start turns).eventIds.Nodup) ↔
      Remembered turns := by
  constructor
  · intro hnever
    by_contra hforgotten
    obtain ⟨orders, hrepeat⟩ := exists_repeat hforgotten
    exact hrepeat 0 0 (hnever orders 0 0)
  · intro hsome orders heartbeat start
    unfold Remembered at hsome
    rw [listedIds_eq] at hsome
    obtain ⟨m, hm⟩ := Option.isSome_iff_exists.mp hsome
    obtain ⟨kept, hmatches, -⟩ := (matches_start (S := S) start).run (P := fun _ => True)
      orders trivial (fun _ _ _ => trivial) hm
    have hsame := stream_events orders heartbeat
      (s := ({ lastHeartbeat := start } : StreamState S)) ⟨rfl, rfl, rfl⟩ turns
    rw [systemStream, hsame.eventIds, hmatches.sent]
    exact hmatches.nodup

end Turns

/-! ## a hundred events a turn -/

/-- `str(id)` -/
def eventId (n : Nat) : String := String.ofList (Nat.toDigits 10 n)

theorem eventId_injective : Function.Injective eventId := by
  intro m n h
  have hdigits : Nat.toDigits 10 m = Nat.toDigits 10 n := by
    simpa only [eventId, String.toList_ofList] using congrArg String.toList h
  rw [← Nat.ofDigitChars_ten_toDigits (n := m), hdigits, Nat.ofDigitChars_ten_toDigits]

theorem eventId_ne_empty (n : Nat) : eventId n ≠ "" := by
  intro h
  have hnil := congrArg String.toList h
  rw [eventId, String.toList_ofList] at hnil
  exact Nat.toDigits_ne_nil hnil

/-- Ids that are new make room for each other. -/
theorem foldlM_list_new (m : Memory) (ns : List Nat) (hnodup : ns.Nodup)
    (hfresh : ∀ n ∈ ns, eventId n ∉ m.fresh) (hold : ∀ n ∈ ns, eventId n ∉ m.old)
    (hroom : m.fresh.length + ns.length < m.room) :
    (ns.map eventId).foldlM Memory.list m =
      some { m with fresh := m.fresh ++ ns.map eventId } := by
  induction ns generalizing m with
  | nil => simp
  | cons n ns ih =>
      obtain ⟨hn, hns⟩ := List.nodup_cons.mp hnodup
      rw [List.length_cons] at hroom
      have hlist : m.list (eventId n) = some { m with fresh := m.fresh ++ [eventId n] } := by
        unfold Memory.list
        rw [if_neg (not_or.mpr ⟨eventId_ne_empty n, hfresh n List.mem_cons_self⟩),
          if_neg (hold n List.mem_cons_self), if_neg (by omega)]
      rw [List.map_cons, List.foldlM_cons, hlist, Option.bind_eq_bind, Option.bind_some, ih _ hns]
      · simp
      · intro k hk
        simp only [List.mem_append, List.mem_singleton, not_or]
        exact ⟨hfresh k (List.mem_cons_of_mem n hk), fun h => hn (eventId_injective h ▸ hk)⟩
      · exact fun k hk => hold k (List.mem_cons_of_mem n hk)
      · rw [List.length_append, List.length_singleton]
        simp only
        omega

/-- A turn that lists the hundred events of a number. -/
def hundredEvents (k : Nat) : StreamTurn Unit where
  snapshot := ()
  recent := ((List.range' (100 * k + 1) 100).map fun n =>
    { id := eventId n, eventType := "STATE_CHANGED" }).reverse
  now := k

/-- Twenty-one hundreds of new events, and then nothing new. -/
def busyTurns : List (StreamTurn Unit) := (List.range 21 ++ [20]).map hundredEvents

/-- What these turns list. -/
theorem listedIds_busyTurns :
    listedIds busyTurns = (List.range' 1 2000 ++ 2001 :: (List.range' 2002 99 ++
      2001 :: List.range' 2002 99)).map eventId := by
  have hnumbers : (List.range 21 ++ [20]).flatMap (fun k => List.range' (100 * k + 1) 100) =
      List.range' 1 2000 ++ 2001 :: (List.range' 2002 99 ++ 2001 :: List.range' 2002 99) := by
    decide +kernel
  rw [← hnumbers]
  simp [listedIds, busyTurns, hundredEvents, List.flatMap_map, List.map_flatMap,
    Function.comp_def]

/-- The event whose arrival cuts the memory can be lost in that cut, and is still listed. -/
theorem busyTurns_repeat :
    ¬ ∀ orders heartbeat start, (systemStream orders heartbeat start busyTurns).eventIds.Nodup := by
  have hforgotten : ¬ Remembered busyTurns := by
    unfold Remembered
    have hfirst : ((List.range' 1 2000).map eventId).foldlM Memory.list {} =
        some { fresh := (List.range' 1 2000).map eventId } := by
      have hrun := foldlM_list_new {} (List.range' 1 2000) List.nodup_range'
        (fun _ _ => List.not_mem_nil) (fun _ _ => List.not_mem_nil) (by simp)
      simpa using hrun
    have hcut : Memory.list { fresh := (List.range' 1 2000).map eventId } (eventId 2001) =
        some { old := (List.range' 1 2000).map eventId ++ [eventId 2001], fresh := []
               room := 1001 } := by
      unfold Memory.list
      have hnew : ¬ (eventId 2001 = "" ∨ eventId 2001 ∈ (List.range' 1 2000).map eventId) := by
        rw [List.mem_map_of_injective eventId_injective]
        simp [eventId_ne_empty]
      rw [if_neg hnew, if_neg List.not_mem_nil, if_pos (by simp)]
      simp
    have hold : ∀ n ∈ List.range' 2002 99,
        eventId n ∉ (List.range' 1 2000).map eventId ++ [eventId 2001] := by
      intro n hn
      rw [List.mem_range'_1] at hn
      rw [List.mem_append, List.mem_map_of_injective eventId_injective, List.mem_singleton,
        eventId_injective.eq_iff, List.mem_range'_1]
      omega
    have hrest := foldlM_list_new
      { old := (List.range' 1 2000).map eventId ++ [eventId 2001], fresh := [], room := 1001 }
      (List.range' 2002 99) List.nodup_range' (fun _ _ => List.not_mem_nil) hold (by simp)
    have hlost : Memory.list
        { old := (List.range' 1 2000).map eventId ++ [eventId 2001]
          fresh := [] ++ (List.range' 2002 99).map eventId, room := 1001 } (eventId 2001) =
            none := by
      have hnew : ¬ (eventId 2001 = "" ∨
          eventId 2001 ∈ [] ++ (List.range' 2002 99).map eventId) := by
        rw [List.nil_append, List.mem_map_of_injective eventId_injective]
        simp [eventId_ne_empty]
      unfold Memory.list
      rw [if_neg hnew, if_pos (List.mem_append_right _ List.mem_cons_self)]
    rw [listedIds_busyTurns, List.map_append, List.foldlM_append, hfirst, List.map_cons,
      Option.bind_eq_bind, Option.bind_some, List.foldlM_cons, hcut, Option.bind_eq_bind,
      Option.bind_some, List.map_append, List.foldlM_append, hrest, Option.bind_eq_bind,
      Option.bind_some, List.map_cons, List.foldlM_cons, hlost]
    simp
  intro hnever
  obtain ⟨orders, hrepeat⟩ := exists_repeat hforgotten
  exact hrepeat 0 0 (hnever orders 0 0)

end MorningstarModbus
