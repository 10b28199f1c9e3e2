import Mathlib.Logic.Function.Basic
import Mathlib.Data.Set.BooleanAlgebra
import Mathlib.Order.CompletePartialOrder

/-!
# MorningstarModbus.Controllers.IdentityGraph

What the controller registry is for, without its tables: evidence-derived
identities come, are promoted and go, while every physical controller keeps one
uid for ever.  The state is a graph of partial maps over arbitrary types of
controller ids `C`, telemetry devices `D`, uids `U` and endpoint keys `K`.

* `Coherent` — the invariant every transition keeps;
* `Syncs` — one synchronisation pass, a list of `assign` steps;
* `Extends` — what is known about uids is never forgotten;
* `Settled` — after a pass every uid points at one of its identities;
* `Exclusive` — each uid has at most one identity, and then the devices a uid
  `Holds` only grow.
-/

set_option linter.unusedSectionVars false

namespace MorningstarModbus

/-- The state of the registry as partial maps. -/
@[ext]
structure IdentityGraph (C D U K : Type*) where
  /-- the telemetry device an identity writes to -/
  canonical : C → Option D
  /-- the identity a telemetry device belongs to -/
  member : D → Option C
  /-- the uid an identity has been given -/
  uidOf : C → Option U
  /-- the telemetry device of a uid -/
  physical : U → Option D
  /-- the identity a uid was last given to -/
  current : U → Option C
  /-- the endpoints an identity was seen at -/
  connected : C → K → Prop

namespace IdentityGraph

variable {C D U K : Type*} [DecidableEq C] [DecidableEq D] [DecidableEq U]

/-! ## transitions -/

/-- A new identity on a device. -/
def identify (g : IdentityGraph C D U K) (a : C) (d : D) : IdentityGraph C D U K :=
  { g with canonical := Function.update g.canonical a (some d) }

/-- A device becomes a member of an identity. -/
def adopt (g : IdentityGraph C D U K) (d : D) (a : C) : IdentityGraph C D U K :=
  { g with member := Function.update g.member d (some a) }

/-- An identity is seen at an endpoint. -/
def connect (g : IdentityGraph C D U K) (a : C) (k : K) : IdentityGraph C D U K :=
  { g with connected := fun b j => (b = a ∧ j = k) ∨ g.connected b j }

/-- The identity `o` becomes the identity `n`: its device, its members and its
connections move, and `o` is gone. -/
def promote (g : IdentityGraph C D U K) (o n : C) : IdentityGraph C D U K :=
  { g with
    canonical := Function.update (Function.update g.canonical n (g.canonical o)) o none
    member := fun d => (g.member d).map fun a => if a = o then n else a
    connected := fun b k => (b = n ∧ g.connected o k) ∨ (b ≠ o ∧ g.connected b k) }

/-- The uid `u` is given to the identity `a`, and follows it to its device. -/
def assign (g : IdentityGraph C D U K) (a : C) (u : U) : IdentityGraph C D U K :=
  { g with
    uidOf := Function.update g.uidOf a (some u)
    physical := Function.update g.physical u (g.canonical a)
    current := Function.update g.current u (some a) }

/-- The uid a synchronisation may give to `a`: the one it has, else the one of
its device, else one nobody has. -/
def Assignable (g : IdentityGraph C D U K) (a : C) (u : U) : Prop :=
  g.uidOf a = some u ∨
    (g.uidOf a = none ∧ g.physical u = g.canonical a) ∨
    (g.uidOf a = none ∧ g.physical u = none ∧ ∀ v, g.physical v ≠ g.canonical a)

/-! ## coherence -/

/-- The invariant that ties the maps together. -/
structure Coherent (g : IdentityGraph C D U K) : Prop where
  canonical_inj : ∀ {a b d}, g.canonical a = some d → g.canonical b = some d → a = b
  member_canonical : ∀ {a d}, g.canonical a = some d → g.member d = some a
  member_identity : ∀ {a d}, g.member d = some a → ∃ d', g.canonical a = some d'
  connected_identity : ∀ {a k}, g.connected a k → ∃ d, g.canonical a = some d
  uid_physical : ∀ {a u}, g.uidOf a = some u → ∃ d, g.physical u = some d
  physical_inj : ∀ {u v d}, g.physical u = some d → g.physical v = some d → u = v
  physical_claim : ∀ {u d}, g.physical u = some d →
    ∃ a, g.canonical a = some d ∧ (g.uidOf a = none ∨ g.uidOf a = some u)

section Steps

variable {g : IdentityGraph C D U K} {a o n : C} {d : D} {u : U}

/-- A device that already belongs to an identity is adopted for nothing. -/
theorem adopt_self (h : g.member d = some a) : g.adopt d a = g := by
  have hm : Function.update g.member d (some a) = g.member := by
    rw [← h]
    exact Function.update_eq_self d g.member
  simp only [adopt, hm]

/-- A new identity on a device that belongs to nobody. -/
theorem Coherent.introduce (hg : g.Coherent) (ha : g.canonical a = none) (hd : g.member d = none) :
    ((g.identify a d).adopt d a).Coherent := by
  have hfree : ∀ b, g.canonical b ≠ some d := by
    intro b hb
    have := hg.member_canonical hb
    simp [hd] at this
  constructor
  case canonical_inj =>
    intro b c e hb hc
    simp only [identify, adopt, Function.update_apply] at hb hc
    grind [hg.canonical_inj]
  case member_canonical =>
    intro b e hb
    simp only [identify, adopt, Function.update_apply] at hb ⊢
    grind [hg.member_canonical]
  case member_identity =>
    intro b e hb
    simp only [identify, adopt, Function.update_apply] at hb ⊢
    grind [hg.member_identity]
  case connected_identity =>
    intro b k hb
    simp only [identify, adopt, Function.update_apply] at hb ⊢
    grind [hg.connected_identity]
  case uid_physical => exact hg.uid_physical
  case physical_inj => exact hg.physical_inj
  case physical_claim =>
    intro v e hv
    obtain ⟨b, hb, hu⟩ := hg.physical_claim hv
    have hba : b ≠ a := by
      rintro rfl
      simp [ha] at hb
    exact ⟨b, by simpa [identify, adopt, Function.update_apply, hba] using hb, hu⟩

/-- An existing identity is seen somewhere. -/
theorem Coherent.connect (hg : g.Coherent) (ha : g.canonical a = some d) (k : K) :
    (g.connect a k).Coherent where
  canonical_inj := hg.canonical_inj
  member_canonical := hg.member_canonical
  member_identity := hg.member_identity
  connected_identity := by
    rintro b j (⟨rfl, rfl⟩ | hb)
    · exact ⟨d, ha⟩
    · exact hg.connected_identity hb
  uid_physical := hg.uid_physical
  physical_inj := hg.physical_inj
  physical_claim := hg.physical_claim

theorem promote_canonical_new (hon : o ≠ n) : (g.promote o n).canonical n = g.canonical o := by
  simp [promote, hon.symm]

theorem promote_canonical_of_ne {b : C} (ho : b ≠ o) (hn : b ≠ n) :
    (g.promote o n).canonical b = g.canonical b := by
  simp [promote, ho, hn]

/-- Promotion to an identity that does not exist and never had a uid. -/
theorem Coherent.promote (hg : g.Coherent) (ho : g.canonical o = some d)
    (hn : g.canonical n = none) (hnu : g.uidOf n = none) : (g.promote o n).Coherent := by
  have hon : o ≠ n := by
    rintro rfl
    simp [hn] at ho
  have hcases : ∀ {b e}, (g.promote o n).canonical b = some e →
      (b = n ∧ g.canonical o = some e) ∨ (b ≠ o ∧ b ≠ n ∧ g.canonical b = some e) := by
    intro b e hb
    simp only [IdentityGraph.promote, Function.update_apply] at hb
    grind
  constructor
  case canonical_inj =>
    intro b c e hb hc
    have := @hg.canonical_inj
    grind
  case member_canonical =>
    intro b e hb
    rcases hcases hb with ⟨rfl, h⟩ | ⟨hbo, hbn, h⟩
    · simp [IdentityGraph.promote, hg.member_canonical h]
    · simp [IdentityGraph.promote, hg.member_canonical h, hbo]
  case member_identity =>
    intro b e hb
    simp only [IdentityGraph.promote, Option.map_eq_some_iff] at hb
    obtain ⟨c, hc, hcb⟩ := hb
    by_cases hco : c = o
    · rw [if_pos hco] at hcb
      exact ⟨d, by rw [← hcb, promote_canonical_new hon, ho]⟩
    · rw [if_neg hco] at hcb
      obtain ⟨e', he'⟩ := hg.member_identity hc
      have hcn : c ≠ n := by
        rintro rfl
        simp [hn] at he'
      exact ⟨e', by rw [← hcb, promote_canonical_of_ne hco hcn, he']⟩
  case connected_identity =>
    rintro b k (⟨rfl, -⟩ | ⟨hbo, hb⟩)
    · exact ⟨d, by rw [promote_canonical_new hon, ho]⟩
    · obtain ⟨e, he⟩ := hg.connected_identity hb
      have hbn : b ≠ n := by
        rintro rfl
        simp [hn] at he
      exact ⟨e, by rw [promote_canonical_of_ne hbo hbn, he]⟩
  case uid_physical => exact hg.uid_physical
  case physical_inj => exact hg.physical_inj
  case physical_claim =>
    intro v e hv
    obtain ⟨b, hb, hu⟩ := hg.physical_claim hv
    by_cases hbo : b = o
    · exact ⟨n, by rw [promote_canonical_new hon, ← hbo, hb], .inl hnu⟩
    · have hbn : b ≠ n := by
        rintro rfl
        simp [hn] at hb
      exact ⟨b, by rw [promote_canonical_of_ne hbo hbn, hb], hu⟩

/-- A uid that may be given to `a` is on no other identity's device. -/
theorem Coherent.eq_of_assignable (hg : g.Coherent) (ha : g.canonical a = some d)
    (hu : g.Assignable a u) {v : U} (hv : g.physical v = some d) : v = u := by
  obtain ⟨b, hb, hbv⟩ := hg.physical_claim hv
  have hba : b = a := hg.canonical_inj hb ha
  subst hba
  rcases hu with hu | ⟨hu, hp⟩ | ⟨hu, -, hfree⟩
  · simpa [hu, eq_comm] using hbv
  · exact hg.physical_inj hv (hp.trans ha)
  · exact absurd (hv.trans ha.symm) (hfree v)

theorem Coherent.assign (hg : g.Coherent) (ha : g.canonical a = some d)
    (hu : g.Assignable a u) : (g.assign a u).Coherent where
  canonical_inj := hg.canonical_inj
  member_canonical := hg.member_canonical
  member_identity := hg.member_identity
  connected_identity := hg.connected_identity
  uid_physical := by
    intro b v hb
    simp only [IdentityGraph.assign, Function.update_apply] at hb ⊢
    have := @hg.uid_physical
    grind
  physical_inj := by
    intro v w e hv hw
    simp only [IdentityGraph.assign, Function.update_apply] at hv hw
    have hinj := @hg.physical_inj
    have huniq : ∀ {x}, g.physical x = some d → x = u := hg.eq_of_assignable ha hu
    grind
  physical_claim := by
    intro v e hv
    simp only [IdentityGraph.assign, Function.update_apply] at hv ⊢
    by_cases hvu : v = u
    · rw [if_pos hvu] at hv
      exact ⟨a, hv, by simp [hvu]⟩
    · rw [if_neg hvu] at hv
      obtain ⟨b, hb, hbv⟩ := hg.physical_claim hv
      have hba : b ≠ a := by
        rintro rfl
        have hed : e = d := by simpa [ha, eq_comm] using hb
        exact hvu (hg.eq_of_assignable ha hu (hed ▸ hv))
      exact ⟨b, hb, by simpa [hba] using hbv⟩

end Steps

/-! ## what is never forgotten -/

/-- Every uid an identity was given stays with it, and every uid stays. -/
structure Extends (g g' : IdentityGraph C D U K) : Prop where
  uidOf : ∀ {a u}, g.uidOf a = some u → g'.uidOf a = some u
  physical : ∀ {u d}, g.physical u = some d → ∃ d', g'.physical u = some d'

instance : Std.Refl (Extends (C := C) (D := D) (U := U) (K := K)) where
  refl _ := ⟨id, fun h => ⟨_, h⟩⟩

instance : IsTrans (IdentityGraph C D U K) Extends where
  trans _ _ _ h h' := ⟨fun ha => h'.uidOf (h.uidOf ha), fun hu => by
    obtain ⟨_, hd⟩ := h.physical hu
    exact h'.physical hd⟩

section Steps

variable {g : IdentityGraph C D U K} {a : C} {d : D} {u : U}

/-- A synchronisation never takes a uid back. -/
theorem extends_assign (ha : g.canonical a = some d) (hu : g.Assignable a u) :
    g.Extends (g.assign a u) where
  uidOf := by
    intro b v hb
    simp only [assign, Function.update_apply]
    rcases hu with hu | ⟨hu, -⟩ | ⟨hu, -⟩ <;> grind
  physical := by
    intro v e hv
    simp only [assign, Function.update_apply]
    grind

end Steps

/-! ## synchronisation -/

/-- A synchronisation pass over a list of identities. -/
inductive Syncs : List C → IdentityGraph C D U K → IdentityGraph C D U K → Prop where
  | nil (g) : Syncs [] g g
  | cons {g g' a as d} (u) : g.canonical a = some d → g.Assignable a u →
      Syncs as (g.assign a u) g' → Syncs (a :: as) g g'

/-- The uid `u` points at an identity of `done`, on that identity's device. -/
def Settled (g : IdentityGraph C D U K) (done : List C) (u : U) : Prop :=
  ∃ a ∈ done, ∃ d, g.current u = some a ∧ g.uidOf a = some u ∧ g.canonical a = some d ∧
    g.physical u = some d

namespace Syncs

variable {g g' : IdentityGraph C D U K} {as bs : List C}

theorem snoc {a : C} {d : D} (u : U) (h : Syncs as g g') (ha : g'.canonical a = some d)
    (hu : g'.Assignable a u) : Syncs (as ++ [a]) g (g'.assign a u) := by
  induction h with
  | nil g => exact .cons u ha hu (.nil _)
  | cons v hb hv _ ih => exact .cons v hb hv (ih ha hu)

/-- A pass touches uids only. -/
theorem frame (h : Syncs as g g') :
    g'.canonical = g.canonical ∧ g'.member = g.member ∧ g'.connected = g.connected := by
  induction h with
  | nil g => exact ⟨rfl, rfl, rfl⟩
  | cons _ _ _ _ ih => exact ih

theorem coherent (h : Syncs as g g') (hg : g.Coherent) : g'.Coherent := by
  induction h with
  | nil g => exact hg
  | cons u ha hu _ ih => exact ih (hg.assign ha hu)

theorem extend (h : Syncs as g g') : g.Extends g' := by
  induction h with
  | nil g => exact refl_of _ g
  | cons u ha hu _ ih => exact trans_of Extends (extends_assign ha hu) ih

/-- Every identity of the pass ends with a uid. -/
theorem uidOf_isSome (h : Syncs as g g') : ∀ a ∈ as, ∃ u, g'.uidOf a = some u := by
  induction h with
  | nil g => simp
  | cons u ha hu hs ih =>
      intro b hb
      rcases List.mem_cons.mp hb with rfl | hb
      · exact ⟨u, hs.extend.uidOf (by simp [assign])⟩
      · exact ih b hb

/-- An identity outside the pass keeps what it had. -/
theorem uidOf_of_notMem (h : Syncs as g g') {b : C} (hb : b ∉ as) : g'.uidOf b = g.uidOf b := by
  induction h with
  | nil g => rfl
  | cons u ha hu _ ih =>
      rw [List.mem_cons, not_or] at hb
      rw [ih hb.2]
      simp [assign, hb.1]

end Syncs

/-- One step keeps the uids that were settled before it, and settles its own. -/
theorem Settled.assign {g : IdentityGraph C D U K} {done : List C} {a : C} {d : D} {u v : U}
    (ha : g.canonical a = some d) (hu : g.Assignable a u) (hv : v = u ∨ g.Settled done v) :
    (g.assign a u).Settled (done ++ [a]) v := by
  by_cases hvu : v = u
  · exact ⟨a, by simp, d, by simp [IdentityGraph.assign, hvu],
      by simp [IdentityGraph.assign, hvu], ha, by simp [IdentityGraph.assign, hvu, ha]⟩
  · obtain ⟨b, hb, e, hcur, hub, hcb, hpb⟩ := hv.resolve_left hvu
    have hub' : (g.assign a u).uidOf b = some v := (extends_assign ha hu).uidOf hub
    exact ⟨b, List.mem_append_left _ hb, e, by simpa [IdentityGraph.assign, hvu] using hcur, hub',
      hcb, by simpa [IdentityGraph.assign, hvu] using hpb⟩

/-- After a pass over `as` the uid of every identity of `as` is settled. -/
theorem Syncs.settled {g g' : IdentityGraph C D U K} {as : List C} (h : Syncs as g g') :
    ∀ a ∈ as, ∀ u, g'.uidOf a = some u → g'.Settled as u := by
  suffices hgen : ∀ done, (∀ a ∈ done, ∀ u, g.uidOf a = some u → g.Settled done u) →
      ∀ a ∈ done ++ as, ∀ u, g'.uidOf a = some u → g'.Settled (done ++ as) u from
    hgen [] (by simp)
  induction h with
  | nil g =>
      intro done hdone
      simpa using hdone
  | cons v hb hv _ ih =>
      rename_i g g' b as d _
      intro done hdone
      have hstep : ∀ a ∈ done ++ [b], ∀ u, (g.assign b v).uidOf a = some u →
          (g.assign b v).Settled (done ++ [b]) u := by
        intro a ha u hu
        refine Settled.assign hb hv ?_
        by_cases hab : a = b
        · subst hab
          left
          simpa [IdentityGraph.assign, eq_comm] using hu
        · right
          have hmem : a ∈ done := by simpa [hab] using ha
          exact hdone a hmem u (by simpa [IdentityGraph.assign, hab] using hu)
      simpa using ih (done ++ [b]) hstep

/-- The state after a pass over all identities: each has a uid, and each uid
points at one of its identities. -/
structure Synced (g : IdentityGraph C D U K) : Prop where
  uidOf : ∀ {a d}, g.canonical a = some d → ∃ u, g.uidOf a = some u
  current : ∀ {u d}, g.physical u = some d →
    ∃ a, g.current u = some a ∧ g.uidOf a = some u ∧ g.canonical a = some d

theorem Syncs.synced {g g' : IdentityGraph C D U K} {as : List C} (h : Syncs as g g')
    (hg : g.Coherent) (has : ∀ {a d}, g.canonical a = some d → a ∈ as) : g'.Synced := by
  have hcan : g'.canonical = g.canonical := h.frame.1
  constructor
  case uidOf =>
    intro a d ha
    exact h.uidOf_isSome a (has (hcan ▸ ha))
  case current =>
    intro u d hu
    obtain ⟨a, ha, hau⟩ := (h.coherent hg).physical_claim hu
    have hmem : a ∈ as := has (hcan ▸ ha)
    obtain ⟨v, hv⟩ := h.uidOf_isSome a hmem
    have hav : g'.uidOf a = some u := by
      rcases hau with hn | hn
      · simp [hn] at hv
      · exact hn
    obtain ⟨b, _, e, hcur, hub, hcb, hpb⟩ := h.settled a hmem u hav
    have hed : e = d := by simpa [hu, eq_comm] using hpb
    exact ⟨b, hcur, hub, hed ▸ hcb⟩

theorem Syncs.append_inv {g g' : IdentityGraph C D U K} {as bs : List C}
    (h : Syncs (as ++ bs) g g') : ∃ g₁, Syncs as g g₁ ∧ Syncs bs g₁ g' := by
  induction as generalizing g with
  | nil => exact ⟨g, .nil g, h⟩
  | cons a as ih =>
      cases h with
      | cons u ha hu h =>
          obtain ⟨g₁, h₁, h₂⟩ := ih h
          exact ⟨g₁, .cons u ha hu h₁, h₂⟩

/-- A uid after a pass is where it was, or on the device of an identity of the
pass. -/
theorem Syncs.physical_cases {g g' : IdentityGraph C D U K} {as : List C} (h : Syncs as g g')
    (u : U) : g'.physical u = g.physical u ∨
      ∃ c ∈ as, ∃ d, g.canonical c = some d ∧ g'.physical u = some d := by
  induction h with
  | nil g => exact .inl rfl
  | cons v hb hv _ ih =>
      rename_i g g' b as d _
      rcases ih with hsame | ⟨c, hc, e, hce, hpe⟩
      · by_cases huv : u = v
        · right
          exact ⟨b, List.mem_cons_self, d, hb, by rw [hsame, huv]; simp [assign, hb]⟩
        · left
          rw [hsame]
          simp [assign, huv]
      · right
        exact ⟨c, List.mem_cons_of_mem b hc, e, hce, hpe⟩

/-- If an identity `k` without a uid takes the uid of another one, then this
uid was on the device of `k`, and the other one was not processed before `k`:
otherwise the uid would point at another device by then. -/
theorem Syncs.taken {g g' : IdentityGraph C D U K} {as bs : List C} {k b : C} {u : U}
    (h : Syncs (as ++ k :: bs) g g') (hg : g.Coherent) (hk : k ∉ as) (hkn : g.uidOf k = none)
    (hb : g.uidOf b = some u) (hku : g'.uidOf k = some u) :
    b ∉ as ∧ g.physical u = g.canonical k := by
  obtain ⟨g₁, h₁, h₂⟩ := h.append_inv
  have hcoh₁ := h₁.coherent hg
  have hcan₁ : g₁.canonical = g.canonical := h₁.frame.1
  have hkn₁ : g₁.uidOf k = none := by rw [h₁.uidOf_of_notMem hk, hkn]
  have hb₁ : g₁.uidOf b = some u := h₁.extend.uidOf hb
  cases h₂ with
  | @cons _ _ _ _ d v hcan hv hrest =>
      have hkv : g'.uidOf k = some v := hrest.extend.uidOf (by simp [assign])
      have huv : u = v := by simpa [hku] using hkv
      subst huv
      have hpk : g₁.physical u = some d := by
        rcases hv with hv | ⟨-, hv⟩ | ⟨-, hv, -⟩
        · simp [hkn₁] at hv
        · rw [hv, hcan]
        · obtain ⟨e, he⟩ := hcoh₁.uid_physical hb₁
          simp [hv] at he
      have hck : g.canonical k = some d := by rw [← hcan₁, hcan]
      constructor
      · intro hmem
        obtain ⟨c, hc, e, -, -, hce, hpe⟩ := h₁.settled b hmem u hb₁
        have hed : e = d := by simpa [hpk, eq_comm] using hpe
        have hcek : c = k := hcoh₁.canonical_inj hce (hed ▸ hcan)
        exact hk (hcek ▸ hc)
      · rcases h₁.physical_cases u with hsame | ⟨c, hc, e, hce, hpe⟩
        · rw [← hsame, hpk, hck]
        · have hed : e = d := by simpa [hpk, eq_comm] using hpe
          have hcek : c = k := hg.canonical_inj hce (hed ▸ hck)
          exact absurd (hcek ▸ hc) hk

/-- A pass over identities that all have a uid gives none away. -/
theorem Syncs.stable {g g' : IdentityGraph C D U K} {as : List C} (h : Syncs as g g')
    (hg : g.Coherent) (has : ∀ a ∈ as, ∃ u, g.uidOf a = some u) :
    g'.uidOf = g.uidOf ∧ ∀ u, g'.physical u = none ↔ g.physical u = none := by
  induction h with
  | nil g => exact ⟨rfl, fun u => Iff.rfl⟩
  | cons v hb hv _ ih =>
      rename_i g g' b as d _
      obtain ⟨w, hw⟩ := has b List.mem_cons_self
      have hwv : g.uidOf b = some v := by
        rcases hv with hv | ⟨hv, -⟩ | ⟨hv, -⟩
        · exact hv
        · simp [hw] at hv
        · simp [hw] at hv
      have huid : (g.assign b v).uidOf = g.uidOf := by
        simp only [assign]
        rw [← hwv]
        exact Function.update_eq_self b g.uidOf
      obtain ⟨e, he⟩ := hg.uid_physical hwv
      obtain ⟨h1, h2⟩ := ih (hg.assign hb hv) fun a ha => by
        rw [huid]
        exact has a (List.mem_cons_of_mem b ha)
      refine ⟨h1.trans huid, fun u => (h2 u).trans ?_⟩
      by_cases huv : u = v
      · simp [assign, huv, hb, he]
      · simp [assign, huv]

/-! ## history scopes -/

/-- The devices whose telemetry belongs to a uid: the members of the identity
it points at, and its own device. -/
def History (g : IdentityGraph C D U K) (u : U) : Set D :=
  {x | (∃ a, g.current u = some a ∧ g.member x = some a) ∨ g.physical u = some x}

/-- In a synchronised state the own device of a uid is a member as well. -/
theorem mem_history {g : IdentityGraph C D U K} (hg : g.Coherent) (hs : g.Synced) {u : U} {d : D}
    (hu : g.physical u = some d) {x : D} :
    x ∈ g.History u ↔ ∃ a, g.current u = some a ∧ g.uidOf a = some u ∧ g.member x = some a := by
  obtain ⟨a, hcur, hau, had⟩ := hs.current hu
  constructor
  · rintro (⟨b, hb, hx⟩ | hx)
    · have hab : b = a := by simpa [hcur, eq_comm] using hb
      exact ⟨a, hcur, hau, hab ▸ hx⟩
    · have hxd : d = x := by simpa [hu] using hx
      exact ⟨a, hcur, hau, hxd ▸ hg.member_canonical had⟩
  · rintro ⟨b, hb, -, hx⟩
    exact .inl ⟨b, hb, hx⟩

/-- **Scopes are disjoint.** -/
theorem disjoint_history {g : IdentityGraph C D U K} (hg : g.Coherent) (hs : g.Synced) {u v : U}
    {d e : D} (hu : g.physical u = some d) (hv : g.physical v = some e) (huv : u ≠ v) :
    Disjoint (g.History u) (g.History v) := by
  rw [Set.disjoint_left]
  intro x hxu hxv
  obtain ⟨a, -, hau, hxa⟩ := (mem_history hg hs hu).mp hxu
  obtain ⟨b, -, hbv, hxb⟩ := (mem_history hg hs hv).mp hxv
  have hab : a = b := by simpa [hxa] using hxb
  subst hab
  exact huv (by simpa [hau] using hbv)

/-! ## one identity per uid -/

/-- The uid `u` is, or will be at the next pass, the uid of the identity `a`. -/
def Claims (g : IdentityGraph C D U K) (a : C) (u : U) : Prop :=
  (∃ d, g.canonical a = some d) ∧
    (g.uidOf a = some u ∨ (g.uidOf a = none ∧ g.physical u = g.canonical a))

/-- No two identities claim one uid. -/
def Exclusive (g : IdentityGraph C D U K) : Prop :=
  ∀ a b u, g.Claims a u → g.Claims b u → a = b

/-- The device `x` belongs to the uid `u`. -/
def Holds (g : IdentityGraph C D U K) (x : D) (u : U) : Prop :=
  ∃ a, g.member x = some a ∧ g.Claims a u

/-- The endpoint `k` is one of the uid `u`. -/
def Reaches (g : IdentityGraph C D U K) (u : U) (k : K) : Prop :=
  ∃ a, g.Claims a u ∧ g.connected a k

/-- Every claim lives on in an identity with the devices and the endpoints of
the old one. -/
def Carries (g g' : IdentityGraph C D U K) : Prop :=
  ∀ a u, g.Claims a u → ∃ b, g'.Claims b u ∧ (∀ x, g.member x = some a → g'.member x = some b) ∧
    ∀ k, g.connected a k → g'.connected b k

instance : Std.Refl (Carries (C := C) (D := D) (U := U) (K := K)) where
  refl _ a _ ha := ⟨a, ha, fun _ => id, fun _ => id⟩

instance : IsTrans (IdentityGraph C D U K) Carries where
  trans _ _ _ h h' a u ha := by
    obtain ⟨b, hb, hmem, hconn⟩ := h a u ha
    obtain ⟨c, hc, hmem', hconn'⟩ := h' b u hb
    exact ⟨c, hc, fun x hx => hmem' x (hmem x hx), fun k hk => hconn' k (hconn k hk)⟩

/-- A device that belongs to a uid goes on doing so. -/
def HoldsExtends (g g' : IdentityGraph C D U K) : Prop := ∀ x u, g.Holds x u → g'.Holds x u

theorem Carries.holdsExtends {g g' : IdentityGraph C D U K} (h : g.Carries g') :
    g.HoldsExtends g' := by
  rintro x u ⟨a, hx, ha⟩
  obtain ⟨b, hb, hmem, -⟩ := h a u ha
  exact ⟨b, hmem x hx, hb⟩

theorem Carries.reaches {g g' : IdentityGraph C D U K} (h : g.Carries g') {u : U} {k : K}
    (hk : g.Reaches u k) : g'.Reaches u k := by
  obtain ⟨a, ha, hconn⟩ := hk
  obtain ⟨b, hb, -, hconn'⟩ := h a u ha
  exact ⟨b, hb, hconn' k hconn⟩

/-- In a synchronised state the history of a uid is what it holds. -/
theorem mem_history_iff_holds {g : IdentityGraph C D U K} (hg : g.Coherent) (hs : g.Synced)
    (he : g.Exclusive) {u : U} {d : D} (hu : g.physical u = some d) {x : D} :
    x ∈ g.History u ↔ g.Holds x u := by
  rw [mem_history hg hs hu]
  constructor
  · rintro ⟨a, -, hau, hx⟩
    exact ⟨a, hx, hg.member_identity hx, .inl hau⟩
  · rintro ⟨b, hx, hb⟩
    obtain ⟨a, hcur, hau, had⟩ := hs.current hu
    have hab : a = b := he a b u ⟨⟨d, had⟩, .inl hau⟩ hb
    exact ⟨a, hcur, hau, hab ▸ hx⟩

section Steps

variable {g : IdentityGraph C D U K} {a o n : C} {d : D} {u : U}

/-- An introduction adds an identity without claims and changes no other. -/
theorem claims_introduce (hg : g.Coherent) (ha : g.canonical a = none) (hd : g.member d = none)
    (hau : g.uidOf a = none) {b : C} {v : U} :
    ((g.identify a d).adopt d a).Claims b v ↔ g.Claims b v := by
  by_cases hba : b = a
  · subst hba
    have hfree : g.physical v ≠ some d := by
      intro hv
      obtain ⟨c, hc, -⟩ := hg.physical_claim hv
      have := hg.member_canonical hc
      simp [hd] at this
    simp [Claims, identify, adopt, ha, hau, hfree]
  · simp [Claims, identify, adopt, hba]

theorem Exclusive.introduce (he : g.Exclusive) (hg : g.Coherent) (ha : g.canonical a = none)
    (hd : g.member d = none) (hau : g.uidOf a = none) :
    ((g.identify a d).adopt d a).Exclusive := by
  intro b c v hb hc
  rw [claims_introduce hg ha hd hau] at hb hc
  exact he b c v hb hc

theorem carries_introduce (hg : g.Coherent) (ha : g.canonical a = none)
    (hd : g.member d = none) (hau : g.uidOf a = none) :
    g.Carries ((g.identify a d).adopt d a) := by
  intro b v hb
  refine ⟨b, (claims_introduce hg ha hd hau).mpr hb, fun x hx => ?_, fun _ => id⟩
  have hxd : x ≠ d := by
    rintro rfl
    simp [hd] at hx
  simpa [identify, adopt, hxd] using hx

theorem carries_connect (k : K) : g.Carries (g.connect a k) :=
  fun b _ hb => ⟨b, hb, fun _ => id, fun _ => .inr⟩

/-- In a synchronised state the one identity of a uid sits on its device. -/
theorem Exclusive.physical_eq (he : g.Exclusive) (hg : g.Coherent) (hs : g.Synced)
    (ha : g.canonical a = some d) (hau : g.uidOf a = some u) : g.physical u = some d := by
  obtain ⟨e, hpe⟩ := hg.uid_physical hau
  obtain ⟨b, -, hbu, hbe⟩ := hs.current hpe
  have hab : a = b := he a b u ⟨⟨d, ha⟩, .inl hau⟩ ⟨⟨e, hbe⟩, .inl hbu⟩
  rw [hpe, ← hbe, ← hab, ha]

/-- What the promoted identity may claim is what the old one claimed, and all
other claims stay. -/
theorem claims_promote (he : g.Exclusive) (hg : g.Coherent) (hs : g.Synced)
    (ho : g.canonical o = some d) (hn : g.canonical n = none) (hnu : g.uidOf n = none) {b : C}
    {v : U} :
    (g.promote o n).Claims b v ↔ (b = n ∧ g.Claims o v) ∨ (b ≠ o ∧ b ≠ n ∧ g.Claims b v) := by
  have hon : o ≠ n := by
    rintro rfl
    simp [hn] at ho
  obtain ⟨w, how⟩ := hs.uidOf ho
  have hpw : g.physical w = some d := he.physical_eq hg hs ho how
  by_cases hbn : b = n
  · subst hbn
    have hcan : (g.promote o b).canonical b = some d := by rw [promote_canonical_new hon, ho]
    have huid : (g.promote o b).uidOf b = none := hnu
    have hphys : (g.promote o b).physical v = g.physical v := rfl
    have hiff : g.physical v = some d ↔ w = v := by
      constructor
      · intro hv
        exact hg.physical_inj hpw hv
      · rintro rfl
        exact hpw
    simp only [Claims, hcan, huid, hphys, ho, how]
    simp [hiff]
  · by_cases hbo : b = o
    · subst hbo
      simp [Claims, promote, hbn]
    · simp [Claims, promote, hbo, hbn]

theorem Exclusive.promote (he : g.Exclusive) (hg : g.Coherent) (hs : g.Synced)
    (ho : g.canonical o = some d) (hn : g.canonical n = none) (hnu : g.uidOf n = none) :
    (g.promote o n).Exclusive := by
  intro b c v hb hc
  rw [claims_promote he hg hs ho hn hnu] at hb hc
  rcases hb with ⟨rfl, hb⟩ | ⟨hbo, -, hb⟩ <;> rcases hc with ⟨rfl, hc⟩ | ⟨hco, -, hc⟩
  · rfl
  · exact absurd (he c o v hc hb) hco
  · exact absurd (he b o v hb hc) hbo
  · exact he b c v hb hc

theorem carries_promote (he : g.Exclusive) (hg : g.Coherent) (hs : g.Synced)
    (ho : g.canonical o = some d) (hn : g.canonical n = none) (hnu : g.uidOf n = none) :
    g.Carries (g.promote o n) := by
  intro b v hb
  by_cases hbo : b = o
  · subst hbo
    refine ⟨n, (claims_promote he hg hs ho hn hnu).mpr (.inl ⟨rfl, hb⟩), fun x hx => ?_,
      fun k hk => .inl ⟨rfl, hk⟩⟩
    simp [IdentityGraph.promote, hx]
  · have hbn : b ≠ n := by
      rintro rfl
      obtain ⟨e, he'⟩ := hb.1
      simp [hn] at he'
    refine ⟨b, (claims_promote he hg hs ho hn hnu).mpr (.inr ⟨hbo, hbn, hb⟩), fun x hx => ?_,
      fun k hk => .inr ⟨hbo, hk⟩⟩
    simp [IdentityGraph.promote, hx, hbo]

/-- Only what was claimed, or a new uid, is claimed after a step. -/
theorem claims_assign (hg : g.Coherent) (ha : g.canonical a = some d) (hu : g.Assignable a u)
    {b : C} {v : U} (hb : (g.assign a u).Claims b v) : (b = a ∧ v = u) ∨ (b ≠ a ∧ g.Claims b v) := by
  obtain ⟨⟨e, hbe⟩, hb⟩ := hb
  have hbe' : g.canonical b = some e := hbe
  by_cases hba : b = a
  · subst hba
    left
    simpa [assign, eq_comm] using hb
  · right
    refine ⟨hba, ⟨e, hbe'⟩, ?_⟩
    have huid : (g.assign a u).uidOf b = g.uidOf b := by simp [assign, hba]
    rw [huid] at hb
    rcases hb with hb | ⟨hbn, hp⟩
    · exact .inl hb
    · right
      refine ⟨hbn, ?_⟩
      by_cases hvu : v = u
      · have had : g.canonical a = g.canonical b := by simpa [assign, hvu] using hp
        exact absurd (hg.canonical_inj hbe' (had ▸ hbe')) hba
      · simpa [assign, hvu] using hp

theorem Exclusive.assign (he : g.Exclusive) (hg : g.Coherent) (ha : g.canonical a = some d)
    (hu : g.Assignable a u) : (g.assign a u).Exclusive := by
  -- whoever claims the assigned uid already is the identity it is assigned to
  have hself : ∀ b, g.Claims b u → b = a := by
    intro b hb
    rcases hu with hau | ⟨hau, hp⟩ | ⟨hau, hp, hfree⟩
    · exact he b a u hb ⟨⟨d, ha⟩, .inl hau⟩
    · exact he b a u hb ⟨⟨d, ha⟩, .inr ⟨hau, hp⟩⟩
    · obtain ⟨⟨e, hbe⟩, hb⟩ := hb
      rcases hb with hb | ⟨-, hb⟩
      · obtain ⟨e', he'⟩ := hg.uid_physical hb
        simp [hp] at he'
      · simp [hp, hbe] at hb
  intro b c v hb hc
  rcases claims_assign hg ha hu hb with ⟨rfl, rfl⟩ | ⟨hba, hb'⟩ <;>
    rcases claims_assign hg ha hu hc with ⟨rfl, hv⟩ | ⟨hca, hc'⟩
  · rfl
  · exact (hself c hc').symm
  · exact hself b (hv ▸ hb')
  · exact he b c v hb' hc'

theorem carries_assign (he : g.Exclusive) (hg : g.Coherent) (ha : g.canonical a = some d)
    (hu : g.Assignable a u) : g.Carries (g.assign a u) := by
  rintro b v ⟨⟨e, hbe⟩, hb⟩
  refine ⟨b, ⟨⟨e, hbe⟩, ?_⟩, fun _ => id, fun _ => id⟩
  by_cases hba : b = a
  · subst hba
    left
    rcases hb with hb | ⟨hbn, hp⟩
    · exact (extends_assign ha hu).uidOf hb
    · have hvu : v = u := hg.eq_of_assignable ha hu (hp.trans ha)
      simp [IdentityGraph.assign, hvu]
  · have huid : (g.assign a u).uidOf b = g.uidOf b := by simp [IdentityGraph.assign, hba]
    rw [huid]
    rcases hb with hb | ⟨hbn, hp⟩
    · exact .inl hb
    · have hvu : v ≠ u := by
        rintro rfl
        rcases hu with hau | ⟨_, hpa⟩ | ⟨_, hpn, _⟩
        · have hbe' : g.canonical b = some e := hbe
          exact hba (he b a v ⟨⟨e, hbe'⟩, .inr ⟨hbn, hp⟩⟩ ⟨⟨d, ha⟩, .inl hau⟩)
        · exact hba (hg.canonical_inj hbe ((hp.symm.trans hpa) ▸ hbe))
        · simp [hpn, hbe] at hp
      exact .inr ⟨hbn, by simpa [IdentityGraph.assign, hvu] using hp⟩

end Steps

theorem Syncs.exclusive {g g' : IdentityGraph C D U K} {as : List C} (h : Syncs as g g')
    (hg : g.Coherent) (he : g.Exclusive) : g'.Exclusive ∧ g.Carries g' := by
  induction h with
  | nil g => exact ⟨he, refl_of Carries g⟩
  | cons u ha hu _ ih =>
      obtain ⟨he', hh⟩ := ih (hg.assign ha hu) (he.assign hg ha hu)
      exact ⟨he', trans_of Carries (carries_assign he hg ha hu) hh⟩

end IdentityGraph

end MorningstarModbus
