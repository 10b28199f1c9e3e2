import MorningstarModbus.Runtime.Watcher

/-!
# MorningstarModbus.Runtime.Rebinding

The dictionaries of the watcher over any sequence of discoveries and polls.

* `Rebound` — the entries of a selected controller after a refresh;
* `Undisturbed` — no controller of the refresh takes over the entries of another;
* `HeldBy` — the invariant between refreshes: the object every controller was
  given is still under its endpoint;
* `rebinding_coherent` — in runs of undisturbed refreshes every selected
  controller is rebound, and can be polled.
-/

namespace MorningstarModbus

namespace Watcher

/-! ## rebound controllers -/

/-- The lifecycle object each controller holds after a refresh, if it held
`held` before. -/
def remember (held : Dict String Nat) (w : Watcher) : Dict String Nat := fun uid =>
  if uid ∈ w.presentControllerIds then (w.controllerKeys uid).bind w.refs else held uid

/-- The entries of the selected controller `s`.  Its lifecycle is the one it
held, and new (not among the first `created`) if it held none. -/
structure Rebound (held : Dict String Nat) (created : Nat) (s : Resolved) (w : Watcher) :
    Prop where
  device : w.devices s.key = some s.device
  deviceId : w.deviceIds s.key = some s.deviceId
  controllerId : w.controllerIds s.key = some s.controllerId
  controllerKey : w.controllerKeys s.controllerId = some s.key
  lifecycle : ∃ l, w.lifecycles s.key = some l ∧
    match held s.controllerId with
    | some ref => l.ref = ref
    | none => created ≤ l.ref

/-- A refresh in which no controller takes over the entries of another:
the endpoint a controller had is still its own; a controller without one finds
no lifecycle at its new endpoint, or one that leaves before; and no controller
has its old endpoint taken before it has left it. -/
structure Undisturbed (w : Watcher) (selected : List Resolved) : Prop where
  own : ∀ s ∈ selected, ∀ p, w.controllerKeys s.controllerId = some p →
    w.controllerIds p = some s.controllerId
  vacant : ∀ before s after, selected = before ++ s :: after →
    w.controllerKeys s.controllerId = none → w.refs s.key = none ∨
      ∃ t ∈ before, w.controllerKeys t.controllerId = some s.key
  order : ∀ before s after, selected = before ++ s :: after → ∀ t ∈ before,
    w.controllerKeys s.controllerId ≠ some t.key

/-- What the dictionaries say about `held` between refreshes. -/
structure HeldBy (held : Dict String Nat) (w : Watcher) : Prop where
  owned : ∀ uid k, w.controllerKeys uid = some k → w.controllerIds k = some uid →
    ∃ ref, w.refs k = some ref ∧ held uid = some ref
  unknown : ∀ uid, w.controllerKeys uid = none → held uid = none
  below : ∀ k ref, w.refs k = some ref → ref < w.created
  present : ∀ uid ∈ w.presentControllerIds, ∀ k, w.controllerKeys uid = some k → w.refs k ≠ none

/-! ## one refresh -/

section Refresh

variable {held : Dict String Nat} {w w' : Watcher} {now : Nat} {selected done : List Resolved}
  {resolved : List Resolved}

theorem refs_eq_some {k : String} {ref : Nat} :
    w.refs k = some ref ↔ ∃ l, w.lifecycles k = some l ∧ l.ref = ref := by
  simp [refs]

/-- Marking the missing controllers replaces no object. -/
theorem HeldBy.missing (h : HeldBy held w) (now : Nat) (missing : List String)
    (hmissing : ∀ uid ∈ missing, uid ∈ w.presentControllerIds) :
    (missing.foldl (markMissing now) w).refs = w.refs ∧
      (missing.foldl (markMissing now) w).created = w.created := by
  refine (Loop.foldl_invariant (fun _ (w' : Watcher) => w'.refs = w.refs ∧
    w'.created = w.created ∧ w'.controllerKeys = w.controllerKeys) missing ⟨rfl, rfl, rfl⟩ ?_).imp_right
      And.left
  rintro done uid rest w' hsplit ⟨hrefs, hcreated, hkeys⟩
  have huid : uid ∈ w.presentControllerIds := hmissing uid (by simp [hsplit])
  have hthere : ∀ k, w'.controllerKeys uid = some k → w'.refs k ≠ none := by
    rw [hkeys, hrefs]
    exact h.present uid huid
  obtain ⟨hrefs', hcreated'⟩ := markMissing_refs now w' hthere
  obtain ⟨-, -, -, hkeys'⟩ := markMissing_frame now w' uid
  exact ⟨hrefs'.trans hrefs, hcreated'.trans hcreated, hkeys'.trans hkeys⟩

/-- The state of the loop after the controllers `done`, from `w`. -/
structure Turned (held : Dict String Nat) (w : Watcher) (done : List Resolved) (w' : Watcher) :
    Prop where
  rebound : ∀ s ∈ done, Rebound held w.created s w' ∧ ∃ l, w'.lifecycles s.key = some l ∧
    l.value.state ≠ .rediscovering ∧ l.value.nextRetryMonotonic = .finite 0
  keys : ∀ uid, (∀ s ∈ done, s.controllerId ≠ uid) → w'.controllerKeys uid = w.controllerKeys uid
  kept : ∀ k, (∀ s ∈ done, s.key ≠ k ∧ w.vacated s ≠ some k) →
    w'.refs k = w.refs k ∧ w'.controllerIds k = w.controllerIds k
  left : ∀ k, (∀ s ∈ done, s.key ≠ k) → (∃ s ∈ done, w.vacated s = some k) →
    w'.refs k = none ∧ w'.controllerIds k = none
  created : w.created ≤ w'.created
  below : ∀ k ref, w'.refs k = some ref → ref < w'.created

theorem vacated_congr {s : Resolved}
    (h : w'.controllerKeys s.controllerId = w.controllerKeys s.controllerId) :
    w'.vacated s = w.vacated s := by
  simp only [vacated, h]

theorem vacated_eq_some {s : Resolved} {p : String} :
    w.vacated s = some p ↔ w.controllerKeys s.controllerId = some p ∧ p ≠ s.key := by
  simp [vacated, Option.filter_eq_some_iff]

/-- A controller with an endpoint takes its lifecycle from there. -/
theorem source_of_key {s : Resolved} {p : String} (h : w.controllerKeys s.controllerId = some p) :
    w.source s = p := by
  unfold source vacated
  rw [h]
  by_cases hp : p = s.key <;> simp [Option.filter, hp]

/-- The lifecycle a controller finds when its turn comes. -/
theorem Turned.lifecycle {s : Resolved} {rest : List Resolved} (h : Turned held w done w')
    (hw : HeldBy held w) (hund : Undisturbed w selected) (hsplit : selected = done ++ s :: rest)
    (huids : (selected.map Resolved.controllerId).Nodup)
    (hkeys : (selected.map Resolved.key).Nodup) :
    match held s.controllerId with
    | some ref => w'.refAt (w'.source s) = ref
    | none => w.created ≤ w'.refAt (w'.source s) := by
  have hs : s ∈ selected := by simp [hsplit]
  have huid : ∀ t ∈ done, t.controllerId ≠ s.controllerId := by
    rw [hsplit, List.map_append, List.map_cons, List.nodup_append] at huids
    exact fun t ht => huids.2.2 _ (List.mem_map_of_mem ht) _ List.mem_cons_self
  have hkey : ∀ t ∈ done, t.key ≠ s.key := by
    rw [hsplit, List.map_append, List.map_cons, List.nodup_append] at hkeys
    exact fun t ht => hkeys.2.2 _ (List.mem_map_of_mem ht) _ List.mem_cons_self
  have hck := h.keys s.controllerId huid
  cases hp : w.controllerKeys s.controllerId with
  | some p =>
      -- nobody has taken or left the endpoint of `s` in the meantime
      have hkept : ∀ t ∈ done, t.key ≠ p ∧ w.vacated t ≠ some p := by
        intro t ht
        refine ⟨fun heq => hund.order done s rest hsplit t ht (by rw [hp, heq]), fun hv => ?_⟩
        have htown := hund.own t (by simp [hsplit, ht]) p (vacated_eq_some.mp hv).1
        rw [hund.own s hs p hp, Option.some.injEq] at htown
        exact huid t ht htown.symm
      obtain ⟨ref, href, hheld⟩ := hw.owned s.controllerId p hp (hund.own s hs p hp)
      rw [hheld, source_of_key (hck.trans hp), refAt, (h.kept p hkept).1, href]
      rfl
  | none =>
      have hsource : w'.source s = s.key := by
        unfold source vacated
        rw [hck, hp]
        rfl
      have hfree : w'.refs s.key = none := by
        by_cases hv : ∃ t ∈ done, w.vacated t = some s.key
        · exact (h.left s.key hkey hv).1
        · simp only [not_exists, not_and] at hv
          rw [(h.kept s.key fun t ht => ⟨hkey t ht, hv t ht⟩).1]
          rcases hund.vacant done s rest hsplit hp with hnone | ⟨t, ht, htk⟩
          · exact hnone
          · exact absurd (vacated_eq_some.mpr ⟨htk, (hkey t ht).symm⟩) (hv t ht)
      rw [hw.unknown s.controllerId hp, hsource, refAt, hfree]
      exact h.created

/-- **One turn** of the loop. -/
theorem Turned.turn {s : Resolved} {rest : List Resolved} (h : Turned held w done w')
    (hw : HeldBy held w) (hund : Undisturbed w selected) (hsplit : selected = done ++ s :: rest)
    (huids : (selected.map Resolved.controllerId).Nodup)
    (hkeys : (selected.map Resolved.key).Nodup) (now : Nat) :
    Turned held w (done ++ [s]) (rebind now w' s) := by
  have hlifecycle := h.lifecycle hw hund hsplit huids hkeys
  have huid : ∀ t ∈ done, t.controllerId ≠ s.controllerId := by
    rw [hsplit, List.map_append, List.map_cons, List.nodup_append] at huids
    exact fun t ht => huids.2.2 _ (List.mem_map_of_mem ht) _ List.mem_cons_self
  have hkey : ∀ t ∈ done, t.key ≠ s.key := by
    rw [hsplit, List.map_append, List.map_cons, List.nodup_append] at hkeys
    exact fun t ht => hkeys.2.2 _ (List.mem_map_of_mem ht) _ List.mem_cons_self
  have hvac : w'.vacated s = w.vacated s := vacated_congr (h.keys s.controllerId huid)
  obtain ⟨hdev, hdid, hcid, hck⟩ := rebind_frame now w' s
  obtain ⟨hcreated, hrefs, l, hls, hstate, hretry⟩ := rebind_refs now w' s
  rw [hvac] at hdev hdid hcid hrefs hls
  have hself : (rebind now w' s).lifecycles s.key = some l := by rw [hls, Dict.set_self]
  have hlref : l.ref = w'.refAt (w'.source s) := by
    have := congrFun hrefs s.key
    rw [Dict.set_self, refs, hself] at this
    simpa using this
  have hbefore : w'.created ≤ (rebind now w' s).created := by
    rw [hcreated, createdAt]
    split <;> omega
  -- entries under a key that is neither taken nor left by `s`
  have hother : ∀ {α : Type} (d : Dict String α) (x : α) {k : String}, k ≠ s.key →
      w.vacated s ≠ some k → ((without d (w.vacated s)).set s.key x) k = d k := by
    intro α d x k hk hv
    rw [Dict.set_of_ne _ _ hk, without_apply, if_neg hv]
  constructor
  case rebound =>
    intro t ht
    rcases List.mem_append.mp ht with ht | ht
    · obtain ⟨hr, hready⟩ := h.rebound t ht
      have hv : w.vacated s ≠ some t.key := fun hv =>
        hund.order done s rest hsplit t ht (vacated_eq_some.mp hv).1
      constructor
      · constructor
        case device => rw [hdev, hother _ _ (hkey t ht) hv, hr.device]
        case deviceId => rw [hdid, hother _ _ (hkey t ht) hv, hr.deviceId]
        case controllerId => rw [hcid, hother _ _ (hkey t ht) hv, hr.controllerId]
        case controllerKey => rw [hck, Dict.set_of_ne _ _ (huid t ht), hr.controllerKey]
        case lifecycle =>
          rw [hls, hother _ _ (hkey t ht) hv]
          exact hr.lifecycle
      · rw [hls, hother _ _ (hkey t ht) hv]
        exact hready
    · rw [List.mem_singleton] at ht
      subst ht
      refine ⟨⟨?_, ?_, ?_, ?_, l, hself, ?_⟩, l, hself, hstate, hretry⟩
      · rw [hdev, Dict.set_self]
      · rw [hdid, Dict.set_self]
      · rw [hcid, Dict.set_self]
      · rw [hck, Dict.set_self]
      · rw [hlref]
        exact hlifecycle
  case keys =>
    intro uid hne
    have hs := hne s (by simp)
    rw [hck, Dict.set_of_ne _ _ hs.symm]
    exact h.keys uid fun t ht => hne t (List.mem_append_left _ ht)
  case kept =>
    intro k hk
    obtain ⟨hks, hv⟩ := hk s (by simp)
    rw [hrefs, hcid, hother _ _ hks.symm hv, hother _ _ hks.symm hv]
    exact h.kept k fun t ht => hk t (List.mem_append_left _ ht)
  case left =>
    intro k hk hv
    have hks := hk s (by simp)
    rw [hrefs, hcid, Dict.set_of_ne _ _ hks.symm, Dict.set_of_ne _ _ hks.symm, without_apply,
      without_apply]
    by_cases hvs : w.vacated s = some k
    · rw [if_pos hvs, if_pos hvs]
      exact ⟨rfl, rfl⟩
    · rw [if_neg hvs, if_neg hvs]
      obtain ⟨t, ht, htv⟩ := hv
      rcases List.mem_append.mp ht with ht | ht
      · exact h.left k (fun t ht => hk t (List.mem_append_left _ ht)) ⟨t, ht, htv⟩
      · rw [List.mem_singleton] at ht
        exact absurd (ht ▸ htv) hvs
  case created => exact h.created.trans hbefore
  case below =>
    intro k ref hk
    rw [hrefs] at hk
    by_cases hks : k = s.key
    · subst hks
      rw [Dict.set_self, Option.some.injEq] at hk
      rw [hcreated, ← hk, createdAt, refAt]
      cases hsrc : w'.refs (w'.source s) with
      | some r => exact h.below _ r hsrc
      | none => exact Nat.lt_succ_self _
    · rw [Dict.set_of_ne _ _ hks, without_apply] at hk
      split at hk
      · cases hk
      · exact Nat.lt_of_lt_of_le (h.below k ref hk) hbefore

/-- Once every selected controller has had its turn, each holds what is under its key. -/
theorem Turned.heldBy (h : HeldBy held w) {selected : List Resolved}
    (hturned : Turned held w selected w') :
    HeldBy (remember held { w' with
        presentControllerIds := selected.map Resolved.controllerId
        presentKeys := selected.map Resolved.key })
      { w' with
        presentControllerIds := selected.map Resolved.controllerId
        presentKeys := selected.map Resolved.key } := by
  -- a selected controller holds what is under its key, any other what it held before
  have hin : ∀ uid ∈ selected.map Resolved.controllerId, ∃ s ∈ selected,
      w'.controllerKeys uid = some s.key ∧ w'.controllerIds s.key = some uid ∧
        ∃ ref, w'.refs s.key = some ref := by
    intro uid huid
    obtain ⟨s, hs, rfl⟩ := List.mem_map.mp huid
    obtain ⟨hr, -⟩ := hturned.rebound s hs
    obtain ⟨l, hl, -⟩ := hr.lifecycle
    exact ⟨s, hs, hr.controllerKey, hr.controllerId, l.ref, refs_eq_some.mpr ⟨l, hl, rfl⟩⟩
  have hout : ∀ uid, uid ∉ selected.map Resolved.controllerId →
      w'.controllerKeys uid = w.controllerKeys uid := fun uid huid =>
    hturned.keys uid fun s hs heq => huid (heq ▸ List.mem_map_of_mem hs)
  constructor
  case owned =>
    intro uid k hk hid
    by_cases huid : uid ∈ selected.map Resolved.controllerId
    · obtain ⟨s, hs, hsk, -, ref, href⟩ := hin uid huid
      have hks : k = s.key := by
        have hk' : w'.controllerKeys uid = some k := hk
        simpa [hsk, eq_comm] using hk'
      subst hks
      refine ⟨ref, href, ?_⟩
      simp only [remember, huid, if_true, hsk, Option.bind_some]
      exact href
    · have hkept : ∀ s ∈ selected, s.key ≠ k ∧ w.vacated s ≠ some k := by
        have hfree : ∀ s ∈ selected, s.key ≠ k := by
          rintro s hs rfl
          obtain ⟨hr, -⟩ := hturned.rebound s hs
          have hid' : w'.controllerIds s.key = some uid := hid
          rw [hr.controllerId, Option.some.injEq] at hid'
          exact huid (hid' ▸ List.mem_map_of_mem hs)
        refine fun s hs => ⟨hfree s hs, fun hv => ?_⟩
        have hid' : w'.controllerIds k = some uid := hid
        rw [(hturned.left k hfree ⟨s, hs, hv⟩).2] at hid'
        cases hid'
      obtain ⟨hrefs', hids'⟩ := hturned.kept k hkept
      obtain ⟨ref, href, hheld⟩ := h.owned uid k ((hout uid huid) ▸ hk) (hids' ▸ hid)
      refine ⟨ref, hrefs'.trans href, ?_⟩
      simp only [remember, huid, if_false]
      exact hheld
  case unknown =>
    intro uid hk
    by_cases huid : uid ∈ selected.map Resolved.controllerId
    · obtain ⟨s, -, hsk, -⟩ := hin uid huid
      have hk' : w'.controllerKeys uid = none := hk
      rw [hsk] at hk'
      cases hk'
    · simp only [remember, huid, if_false]
      exact h.unknown uid ((hout uid huid) ▸ hk)
  case below => exact hturned.below
  case present =>
    intro uid huid k hk
    obtain ⟨s, -, hsk, -, ref, href⟩ := hin uid huid
    have hk' : w'.controllerKeys uid = some k := hk
    rw [hsk, Option.some.injEq] at hk'
    subst hk'
    have href' : w'.refs s.key ≠ none := by simp [href]
    exact href'

/-- **One refresh**: every selected controller is rebound, and the invariant
holds of what the controllers hold now. -/
theorem HeldBy.refresh (h : HeldBy held w) (now : Nat) (hkeys : (resolved.map Resolved.key).Nodup)
    (hund : Undisturbed w (selectControllerEndpoints w.controllerKeys resolved)) :
    (∀ s ∈ selectControllerEndpoints w.controllerKeys resolved,
      Rebound held w.created s (w.refresh now resolved) ∧
      ∃ l, (w.refresh now resolved).lifecycles s.key = some l ∧
        l.value.state ≠ .rediscovering ∧ l.value.nextRetryMonotonic = .finite 0) ∧
    HeldBy (remember held (w.refresh now resolved)) (w.refresh now resolved) := by
  obtain ⟨selected, hselected⟩ : ∃ selected, selected =
    selectControllerEndpoints w.controllerKeys resolved := ⟨_, rfl⟩
  have huids : (selected.map Resolved.controllerId).Nodup :=
    hselected ▸ selected_controllers_nodup w.controllerKeys resolved
  have hskeys : (selected.map Resolved.key).Nodup :=
    hselected ▸ selected_keys_nodup w.controllerKeys hkeys
  rw [← hselected] at hund ⊢
  obtain ⟨missing, hmissing⟩ : ∃ missing, missing = w.presentControllerIds.filter fun uid =>
    uid ∉ selected.map Resolved.controllerId := ⟨_, rfl⟩
  obtain ⟨hrefs₀, hcreated₀⟩ := h.missing now missing fun uid huid =>
    (List.mem_filter.mp (hmissing ▸ huid)).1
  obtain ⟨-, -, hids₀, hkeys₀⟩ := missing_frame now missing w
  have hstart : Turned held w [] (missing.foldl (markMissing now) w) := by
    constructor
    case rebound => simp
    case keys => exact fun uid _ => by rw [hkeys₀]
    case kept => exact fun k _ => ⟨by rw [hrefs₀], by rw [hids₀]⟩
    case left => simp
    case created => rw [hcreated₀]
    case below =>
      rw [hrefs₀, hcreated₀]
      exact h.below
  obtain ⟨w', hw'⟩ : ∃ w', w' = selected.foldl (rebind now) (missing.foldl (markMissing now) w) :=
    ⟨_, rfl⟩
  have hturned : Turned held w selected w' := by
    rw [hw']
    exact Loop.foldl_invariant (Turned held w) selected hstart fun done s rest w₁ hsplit h₁ =>
      h₁.turn h hund hsplit huids hskeys now
  have hrefresh : w.refresh now resolved = { w' with
      presentControllerIds := selected.map Resolved.controllerId
      presentKeys := selected.map Resolved.key } := by
    rw [hw', hmissing, hselected]
    rfl
  rw [hrefresh]
  refine ⟨fun s hs => ?_, hturned.heldBy h⟩
  obtain ⟨hr, hready⟩ := hturned.rebound s hs
  exact ⟨⟨hr.device, hr.deviceId, hr.controllerId, hr.controllerKey, hr.lifecycle⟩, hready⟩

/-- Polls keep the objects where they are. -/
theorem HeldBy.poll (h : HeldBy held w) {settings : WatchSettings}
    {readings : String → PollReading} (hok : w.pollAll settings readings = .ok w') :
    HeldBy held w' := by
  refine Loop.foldlM_invariant (P := HeldBy held) hok h ?_
  intro key _ w₁ w₂ h₁ hstep
  obtain ⟨hsame, hcreated, hrefs⟩ := pollKey_spec hstep
  have hkept : ∀ k ref, w₁.refs k = some ref → w₂.refs k = some ref := by
    intro k ref hk
    rw [hrefs]
    by_cases hkk : k = key
    · subst hkk
      rw [Dict.set_self, refAt, hk]
      rfl
    · rw [Dict.set_of_ne _ _ hkk, hk]
  constructor
  case owned =>
    intro uid k hk hid
    rw [hsame.controllerKeys] at hk
    rw [hsame.controllerIds] at hid
    obtain ⟨ref, href, hheld⟩ := h₁.owned uid k hk hid
    exact ⟨ref, hkept k ref href, hheld⟩
  case unknown =>
    rw [hsame.controllerKeys]
    exact h₁.unknown
  case below =>
    intro k ref hk
    rw [hrefs] at hk
    rw [hcreated, createdAt]
    by_cases hkk : k = key
    · subst hkk
      rw [Dict.set_self, Option.some.injEq, refAt] at hk
      cases hr : w₁.refs k with
      | some r =>
          rw [hr, Option.getD_some] at hk
          exact hk ▸ h₁.below k r hr
      | none =>
          rw [hr, Option.getD_none] at hk
          exact hk ▸ Nat.lt_succ_self _
    · rw [Dict.set_of_ne _ _ hkk] at hk
      have := h₁.below k ref hk
      split <;> omega
  case present =>
    intro uid huid k hk
    rw [hsame.presentControllerIds] at huid
    rw [hsame.controllerKeys] at hk
    obtain ⟨ref, href⟩ := Option.ne_none_iff_exists'.mp (h₁.present uid huid k hk)
    rw [hkept k ref href]
    exact Option.some_ne_none ref

end Refresh

/-! ## runs -/

/-- The states of the watcher, with what every controller holds, in runs of
undisturbed refreshes of distinct endpoints and of polls. -/
inductive Run : Dict String Nat → Watcher → Prop
  | new : Run Dict.empty {}
  | refresh {held w} {resolved : List Resolved} (now : Nat) : Run held w →
      (resolved.map Resolved.key).Nodup →
      Undisturbed w (selectControllerEndpoints w.controllerKeys resolved) →
      Run (remember held (w.refresh now resolved)) (w.refresh now resolved)
  | poll {held w w'} {settings : WatchSettings} {readings : String → PollReading} : Run held w →
      w.pollAll settings readings = .ok w' → Run held w'

section Runs

variable {held : Dict String Nat} {w : Watcher} {resolved : List Resolved}

theorem heldBy_new : HeldBy Dict.empty {} where
  owned := by
    intro uid k hk
    cases hk
  unknown := fun _ _ => rfl
  below := by
    intro k ref hk
    cases hk
  present := by
    intro uid huid
    cases huid

theorem Run.heldBy (h : Run held w) : HeldBy held w := by
  induction h with
  | new => exact heldBy_new
  | refresh now _ hkeys hund ih => exact (ih.refresh now hkeys hund).2
  | poll _ hok ih => exact ih.poll hok

/-- **Rebinding.**  In every run of undisturbed refreshes, a further one leaves
every selected controller rebound, and ready for the next poll. -/
theorem rebinding_coherent (hrun : Run held w) (hkeys : (resolved.map Resolved.key).Nodup)
    (hund : Undisturbed w (selectControllerEndpoints w.controllerKeys resolved)) (now : Nat) :
    ∀ s ∈ selectControllerEndpoints w.controllerKeys resolved,
      Rebound held w.created s (w.refresh now resolved) ∧
      ∀ readings : String → PollReading, 0 ≤ (readings s.key).monotonic →
        (w.refresh now resolved).polled readings s.key = some (s.controllerId, s.device) := by
  intro s hs
  obtain ⟨hr, l, hl, hstate, hretry⟩ := (hrun.heldBy.refresh now hkeys hund).1 s hs
  refine ⟨hr, fun readings hclock => ?_⟩
  have hcan : l.value.canPoll (readings s.key).monotonic = true := by
    simp [DeviceLifecycle.canPoll, PyFloat.le, hstate, hretry, hclock]
  simp only [polled, hr.device, hr.controllerId, hr.deviceId, setdefaultLifecycle, hl, hcan, if_true]

end Runs

/-! ## moving and swapping -/

def lanDevice (target : String) : DiscoveredDevice where
  endpoint := { transport := .tcp, target, unitId := 1 }
  profile := "ps"

/-- A controller that moves to another address keeps its lifecycle. -/
theorem rebinding_coherent_moved :
    ∃ held w, Run held w ∧ held "ctrl_u" = some 0 ∧
      Rebound held w.created ⟨"ctrl_u", "d", lanDevice "10.0.0.2"⟩
        (w.refresh 2 [⟨"ctrl_u", "d", lanDevice "10.0.0.2"⟩]) := by
  obtain ⟨w, hw⟩ : ∃ w, w = ({} : Watcher).refresh 1 [⟨"ctrl_u", "d", lanDevice "10.0.0.1"⟩] :=
    ⟨_, rfl⟩
  have hfirst : Undisturbed {} (selectControllerEndpoints ({} : Watcher).controllerKeys
      [⟨"ctrl_u", "d", lanDevice "10.0.0.1"⟩]) := by
    refine ⟨fun s _ p hp => ?_, fun _ s _ _ _ => .inl rfl, fun _ s _ _ t _ hp => ?_⟩
    · cases hp
    · cases hp
  have hrun : Run (remember Dict.empty w) w := by
    rw [hw]
    exact .refresh 1 .new (by decide) hfirst
  have hkey : w.controllerKeys "ctrl_u" = some "tcp:10.0.0.1:502:unit:1" := by
    rw [hw]
    decide +kernel
  have hid : w.controllerIds "tcp:10.0.0.1:502:unit:1" = some "ctrl_u" := by
    rw [hw]
    decide +kernel
  have hheld : remember Dict.empty w "ctrl_u" = some 0 := by
    rw [hw]
    decide +kernel
  have hsel : selectControllerEndpoints w.controllerKeys
      [⟨"ctrl_u", "d", lanDevice "10.0.0.2"⟩] = [⟨"ctrl_u", "d", lanDevice "10.0.0.2"⟩] := by
    rw [hw]
    decide +kernel
  have hsecond : Undisturbed w (selectControllerEndpoints w.controllerKeys
      [⟨"ctrl_u", "d", lanDevice "10.0.0.2"⟩]) := by
    rw [hsel]
    constructor
    case own =>
      intro s hs p hp
      rw [List.mem_singleton] at hs
      subst hs
      rw [hkey, Option.some.injEq] at hp
      exact hp ▸ hid
    case vacant =>
      intro before s after hsplit hnone
      have hs : s ∈ [(⟨"ctrl_u", "d", lanDevice "10.0.0.2"⟩ : Resolved)] := by
        rw [hsplit]
        simp
      rw [List.mem_singleton] at hs
      subst hs
      rw [hkey] at hnone
      cases hnone
    case order =>
      intro before s after hsplit t ht
      have hlen := congrArg List.length hsplit
      cases before with
      | nil => cases ht
      | cons b bs => simp at hlen
  refine ⟨_, w, hrun, hheld, ?_⟩
  exact (rebinding_coherent hrun (by decide) hsecond 2 _ (by rw [hsel]; exact List.mem_cons_self)).1

/-- Two controllers that swap their addresses: the first one to be rebound
loses its entries to the second one leaving. -/
theorem not_rebinding_coherent_swap :
    ¬ ∀ (first second : List Resolved), (first.map Resolved.key).Nodup →
      (second.map Resolved.key).Nodup →
        ∀ s ∈ selectControllerEndpoints (({} : Watcher).refresh 1 first).controllerKeys second,
          ((({} : Watcher).refresh 1 first).refresh 2 second).devices s.key = some s.device := by
  intro h
  have hdevice := h
    [⟨"ctrl_u", "d", lanDevice "10.0.0.1"⟩, ⟨"ctrl_v", "e", lanDevice "10.0.0.2"⟩]
    [⟨"ctrl_u", "d", lanDevice "10.0.0.2"⟩, ⟨"ctrl_v", "e", lanDevice "10.0.0.1"⟩]
    (by decide) (by decide) ⟨"ctrl_u", "d", lanDevice "10.0.0.2"⟩ (by decide +kernel)
  revert hdevice
  decide +kernel

end Watcher

end MorningstarModbus
