import Mathlib.Data.List.Forall2

/-!
# Program

Programs that change a state and may raise: a raise keeps what was changed
before it, and a handler goes on from there.

Two runs are compared through a `view` of the state, the part that matters.

* `Agree` — two programs do the same to the view, and end alike;
* `Relates` — two programs over two states, with related results;
* `Silent` — a program that ends without a raise and leaves the view alone;
* `Keeps` — a program that keeps an invariant, however it ends;
* `agree_bind`, `keeps_bind`, … — the rules for `do` and `try`.
-/

namespace Effects

universe u v

/-- A program over the states `σ` that may raise an `ε`. -/
abbrev Prog (σ ε α : Type u) := ExceptT ε (StateM σ) α

variable {σ τ ε α β : Type u} {ν : Type v}

/-- How a run ends, and in what state. -/
def exec (m : Prog σ ε α) (s : σ) : Except ε α × σ := m.run.run s

@[simp] theorem exec_pure (a : α) (s : σ) : exec (pure a : Prog σ ε α) s = (.ok a, s) := rfl

@[simp] theorem exec_throw (e : ε) (s : σ) :
    exec (throw e : Prog σ ε α) s = (.error e, s) := rfl

/-- The second program runs where the first ends, and only if it returns. -/
theorem exec_bind (m : Prog σ ε α) (f : α → Prog σ ε β) (s : σ) :
    exec (m >>= f) s =
      match exec m s with
      | (.ok a, t) => exec (f a) t
      | (.error e, t) => (.error e, t) := by
  have hrun : exec (m >>= f) s = (match exec m s with
      | (r, t) => (ExceptT.bindCont f r : StateM σ (Except ε β)) t) := rfl
  rw [hrun]
  obtain ⟨r, t⟩ := exec m s
  cases r <;> rfl

/-- A run that ends well has come through both parts. -/
theorem exec_bind_eq_ok {m : Prog σ ε α} {f : α → Prog σ ε β} {s u : σ} {b : β} :
    exec (m >>= f) s = (.ok b, u) ↔ ∃ a t, exec m s = (.ok a, t) ∧ exec (f a) t = (.ok b, u) := by
  rw [exec_bind]
  obtain ⟨r, t⟩ := exec m s
  cases r <;> simp

/-- A handler starts from the state in which the error was raised; nothing is rolled back. -/
theorem exec_tryCatch (m : Prog σ ε α) (f : ε → Prog σ ε α) (s : σ) :
    exec (tryCatch m f) s =
      match exec m s with
      | (.ok a, t) => (.ok a, t)
      | (.error e, t) => exec (f e) t := by
  have hrun : exec (tryCatch m f) s = (match exec m s with
      | (r, t) => (match r with
        | .ok a => pure (.ok a)
        | .error e => (f e).run : StateM σ (Except ε α)) t) := rfl
  rw [hrun]
  obtain ⟨r, t⟩ := exec m s
  cases r <;> rfl

@[simp] theorem exec_get (s : σ) : exec (get : Prog σ ε σ) s = (.ok s, s) := rfl

@[simp] theorem exec_modify (f : σ → σ) (s : σ) :
    exec (modify f : Prog σ ε PUnit) s = (.ok ⟨⟩, f s) := rfl

/-- A result that is known already. -/
def ofResult : Except ε α → Prog σ ε α
  | .ok a => pure a
  | .error e => throw e

@[simp] theorem exec_ofResult (result : Except ε α) (s : σ) :
    exec (ofResult result : Prog σ ε α) s = (result, s) := by
  cases result <;> rfl

/-! ## two runs -/

/-- From states of one view both end alike, in states of one view. -/
def Agree (view : σ → ν) (m m' : Prog σ ε α) : Prop :=
  ∀ s s', view s = view s' →
    (exec m s).1 = (exec m' s').1 ∧ view (exec m s).2 = view (exec m' s').2

/-- It ends without a raise, and leaves the view alone. -/
def Silent (view : σ → ν) (m : Prog σ ε PUnit) : Prop :=
  ∀ s, (exec m s).1 = .ok ⟨⟩ ∧ view (exec m s).2 = view s

section Rules

variable {view : σ → ν} {m m' : Prog σ ε α}

/-- Two programs that show nothing agree. -/
theorem Silent.agree {m m' : Prog σ ε PUnit} (h : Silent view m) (h' : Silent view m') :
    Agree view m m' := by
  intro s s' hview
  obtain ⟨hok, hs⟩ := h s
  obtain ⟨hok', hs'⟩ := h' s'
  exact ⟨hok.trans hok'.symm, hs.trans (hview.trans hs'.symm)⟩

theorem Silent.pure : Silent view (Pure.pure ⟨⟩ : Prog σ ε PUnit) := fun _ => ⟨rfl, rfl⟩

/-- What leaves the view alone and is handled is silent. -/
theorem Silent.handled {m : Prog σ ε PUnit} (h : ∀ s, view (exec m s).2 = view s) :
    Silent view (tryCatch m fun _ => Pure.pure ⟨⟩) := by
  intro s
  have hs := h s
  rw [exec_tryCatch]
  generalize exec m s = out at hs ⊢
  obtain ⟨r, t⟩ := out
  cases r with
  | ok a => exact ⟨rfl, hs⟩
  | error e => exact ⟨rfl, hs⟩

/-- One after the other they show nothing either. -/
theorem Silent.bind {m m' : Prog σ ε PUnit} (h : Silent view m) (h' : Silent view m') :
    Silent view (m >>= fun _ => m') := by
  intro s
  obtain ⟨hok, hs⟩ := h s
  rw [exec_bind]
  generalize exec m s = out at hok hs ⊢
  obtain ⟨r, t⟩ := out
  obtain rfl : r = .ok ⟨⟩ := hok
  obtain ⟨hok', hs'⟩ := h' t
  exact ⟨hok', hs'.trans hs⟩

/-- After a part that ends without a raise, whatever its result. -/
theorem Silent.after {m : Prog σ ε α} {f : α → Prog σ ε PUnit}
    (h : ∀ s, (∃ a, (exec m s).1 = .ok a) ∧ view (exec m s).2 = view s)
    (hf : ∀ a, Silent view (f a)) : Silent view (m >>= f) := by
  intro s
  obtain ⟨⟨a, ha⟩, hs⟩ := h s
  rw [exec_bind]
  generalize exec m s = out at ha hs ⊢
  obtain ⟨r, t⟩ := out
  obtain rfl : r = .ok a := ha
  obtain ⟨hok, ht⟩ := hf a t
  exact ⟨hok, ht.trans hs⟩

theorem agree_pure (a : α) : Agree view (pure a : Prog σ ε α) (pure a) :=
  fun _ _ hview => ⟨rfl, hview⟩

theorem agree_throw (e : ε) : Agree view (throw e : Prog σ ε α) (throw e) :=
  fun _ _ hview => ⟨rfl, hview⟩

/-- A change that is one of the view. -/
theorem agree_modify {f : σ → σ} (h : ∀ s s', view s = view s' → view (f s) = view (f s')) :
    Agree view (modify f : Prog σ ε PUnit) (modify f) :=
  fun s s' hview => ⟨rfl, h s s' hview⟩

/-- What follows a reading may depend on the view alone. -/
theorem agree_get {f f' : σ → Prog σ ε β}
    (h : ∀ s s', view s = view s' → Agree view (f s) (f' s')) :
    Agree view (get >>= f) (get >>= f') :=
  fun s s' hview => h s s' hview s s' hview

/-- **Sequence rule.**  The rest may use what the first part returned, on both sides the same. -/
theorem agree_bind {f f' : α → Prog σ ε β} (h : Agree view m m')
    (hf : ∀ a, Agree view (f a) (f' a)) : Agree view (m >>= f) (m' >>= f') := by
  intro s s' hview
  obtain ⟨hres, hst⟩ := h s s' hview
  rw [exec_bind, exec_bind]
  generalize exec m s = out at hres hst ⊢
  generalize exec m' s' = out' at hres hst ⊢
  obtain ⟨r, t⟩ := out
  obtain ⟨r', t'⟩ := out'
  obtain rfl : r = r' := hres
  cases r with
  | ok a => exact hf a t t' hst
  | error e => exact ⟨rfl, hst⟩

/-- **Handler rule.**  Handlers have to agree for every error. -/
theorem agree_tryCatch {f f' : ε → Prog σ ε α} (h : Agree view m m')
    (hf : ∀ e, Agree view (f e) (f' e)) : Agree view (tryCatch m f) (tryCatch m' f') := by
  intro s s' hview
  obtain ⟨hres, hst⟩ := h s s' hview
  rw [exec_tryCatch, exec_tryCatch]
  generalize exec m s = out at hres hst ⊢
  generalize exec m' s' = out' at hres hst ⊢
  obtain ⟨r, t⟩ := out
  obtain ⟨r', t'⟩ := out'
  obtain rfl : r = r' := hres
  cases r with
  | ok a => exact ⟨rfl, hst⟩
  | error e => exact hf e t t' hst

end Rules

/-! ## runs of two programs -/

/-- Both ended well with related results, or with the same exception. -/
def Alike (R : α → β → Prop) : Except ε α → Except ε β → Prop
  | .ok a, .ok b => R a b
  | .error e, .error e' => e = e'
  | _, _ => False

/-- From related states both end alike, in related states. -/
def Relates (V : σ → τ → Prop) (R : α → β → Prop) (m : Prog σ ε α) (m' : Prog τ ε β) : Prop :=
  ∀ s t, V s t → Alike R (exec m s).1 (exec m' t).1 ∧ V (exec m s).2 (exec m' t).2

section Relates

variable {V : σ → τ → Prop} {R : α → β → Prop} {R' : α → α → Prop}

/-- Two results alike are related values or one and the same error. -/
theorem Alike.cases {r : Except ε α} {r' : Except ε β} (h : Alike R r r') :
    (∃ a b, r = .ok a ∧ r' = .ok b ∧ R a b) ∨ ∃ e, r = .error e ∧ r' = .error e := by
  cases r with
  | ok a =>
      cases r' with
      | ok b => exact .inl ⟨a, b, rfl, rfl, h⟩
      | error e => exact h.elim
  | error e =>
      cases r' with
      | ok b => exact h.elim
      | error e' => exact .inr ⟨e, rfl, by rw [show e = e' from h]⟩

/-- Results stay alike through functions that keep them so. -/
theorem Alike.bind {α' β' : Type u} {R' : α' → β' → Prop} {r : Except ε α'} {r' : Except ε β'}
    {f : α' → Except ε α} {g : β' → Except ε β} (h : Alike R' r r')
    (hf : ∀ a b, R' a b → Alike R (f a) (g b)) : Alike R (r >>= f) (r' >>= g) := by
  obtain ⟨a, b, rfl, rfl, hab⟩ | ⟨e, rfl, rfl⟩ := h.cases
  · exact hf a b hab
  · exact rfl

/-- A result is like itself where values are. -/
theorem alike_refl (h : ∀ a, R' a a) (r : Except ε α) : Alike R' r r := by
  cases r with
  | ok a => exact h a
  | error e => exact rfl

/-- Any two values are alike where nothing is asked of them. -/
theorem alike_of_ok {r : Except ε α} {r' : Except ε β} (h : ∃ a, r = .ok a) (h' : ∃ b, r' = .ok b) :
    Alike (fun _ _ => True) r r' := by
  obtain ⟨a, rfl⟩ := h
  obtain ⟨b, rfl⟩ := h'
  trivial

/-- Item by item, lists of results are alike. -/
theorem alike_mapM {γ : Type u} {f : γ → Except ε α} {g : γ → Except ε β} (items : List γ)
    (h : ∀ i ∈ items, Alike R (f i) (g i)) :
    Alike (List.Forall₂ R) (items.mapM f) (items.mapM g) := by
  induction items with
  | nil => exact List.Forall₂.nil
  | cons i items ih =>
      rw [List.mapM_cons, List.mapM_cons]
      refine (h i List.mem_cons_self).bind fun a b hab => ?_
      refine (ih fun j hj => h j (List.mem_cons_of_mem i hj)).bind fun as bs hrest => ?_
      exact List.Forall₂.cons hab hrest

theorem relates_pure {a : α} {b : β} (h : R a b) :
    Relates V R (pure a : Prog σ ε α) (pure b : Prog τ ε β) := fun _ _ hV => ⟨h, hV⟩

theorem relates_throw (e : ε) : Relates V R (throw e : Prog σ ε α) (throw e : Prog τ ε β) :=
  fun _ _ hV => ⟨rfl, hV⟩

/-- Results that are alike, in states that are related. -/
theorem relates_ofResult {r : Except ε α} {r' : Except ε β} (h : Alike R r r') :
    Relates V R (ofResult r : Prog σ ε α) (ofResult r' : Prog τ ε β) := by
  intro s t hV
  rw [exec_ofResult, exec_ofResult]
  exact ⟨h, hV⟩

/-- A change on both sides that keeps the states related. -/
theorem relates_modify {f : σ → σ} {g : τ → τ} (h : ∀ s t, V s t → V (f s) (g t)) :
    Relates V (fun _ _ => True) (modify f : Prog σ ε PUnit) (modify g : Prog τ ε PUnit) :=
  fun s t hV => ⟨trivial, h s t hV⟩

/-- What is read may differ; the rest has to be related for every two related states. -/
theorem relates_get {f : σ → Prog σ ε α} {g : τ → Prog τ ε β}
    (h : ∀ s t, V s t → Relates V R (f s) (g t)) : Relates V R (get >>= f) (get >>= g) :=
  fun s t hV => h s t hV s t hV

/-- **Sequence rule.** -/
theorem relates_bind {α' β' : Type u} {R' : α' → β' → Prop} {m : Prog σ ε α'} {m' : Prog τ ε β'}
    {f : α' → Prog σ ε α} {g : β' → Prog τ ε β} (h : Relates V R' m m')
    (hf : ∀ a b, R' a b → Relates V R (f a) (g b)) : Relates V R (m >>= f) (m' >>= g) := by
  intro s t hV
  obtain ⟨hres, hst⟩ := h s t hV
  rw [exec_bind, exec_bind]
  generalize exec m s = out at hres hst ⊢
  generalize exec m' t = out' at hres hst ⊢
  obtain ⟨r, s'⟩ := out
  obtain ⟨r', t'⟩ := out'
  obtain ⟨a, b, rfl, rfl, hab⟩ | ⟨e, rfl, rfl⟩ := hres.cases
  · exact hf a b hab s' t' hst
  · exact ⟨rfl, hst⟩

/-- **Handler rule.**  The error is the same on both sides, so one error is enough. -/
theorem relates_tryCatch {m : Prog σ ε α} {m' : Prog τ ε β} {f : ε → Prog σ ε α}
    {g : ε → Prog τ ε β} (h : Relates V R m m') (hf : ∀ e, Relates V R (f e) (g e)) :
    Relates V R (tryCatch m f) (tryCatch m' g) := by
  intro s t hV
  obtain ⟨hres, hst⟩ := h s t hV
  rw [exec_tryCatch, exec_tryCatch]
  generalize exec m s = out at hres hst ⊢
  generalize exec m' t = out' at hres hst ⊢
  obtain ⟨r, s'⟩ := out
  obtain ⟨r', t'⟩ := out'
  obtain ⟨a, b, rfl, rfl, hab⟩ | ⟨e, rfl, rfl⟩ := hres.cases
  · exact ⟨hab, hst⟩
  · exact hf e s' t' hst

/-- A loop whose turns are related. -/
theorem relates_forM {γ : Type u} {f : γ → Prog σ ε PUnit} {g : γ → Prog τ ε PUnit} (items : List γ)
    (h : ∀ i ∈ items, Relates V (fun _ _ => True) (f i) (g i)) :
    Relates V (fun _ _ => True) (items.forM f) (items.forM g) := by
  induction items with
  | nil => exact relates_pure trivial
  | cons i items ih =>
      refine relates_bind (h i List.mem_cons_self) fun _ _ _ => ih fun j hj => ?_
      exact h j (List.mem_cons_of_mem i hj)

/-- A loop that carries a value, related at every turn. -/
theorem relates_foldlM {γ : Type u} {f : α → γ → Prog σ ε α} {g : β → γ → Prog τ ε β}
    (items : List γ) (h : ∀ a b, R a b → ∀ i ∈ items, Relates V R (f a i) (g b i)) {a : α} {b : β}
    (hab : R a b) : Relates V R (items.foldlM f a) (items.foldlM g b) := by
  induction items generalizing a b with
  | nil => exact relates_pure hab
  | cons i items ih =>
      rw [List.foldlM_cons, List.foldlM_cons]
      refine relates_bind (h a b hab i List.mem_cons_self) fun a b hab => ih ?_ hab
      exact fun a b hab j hj => h a b hab j (List.mem_cons_of_mem i hj)

end Relates

/-! ## one run -/

/-- The invariant holds after it when it held before, raised or not. -/
def Keeps (I : σ → Prop) (m : Prog σ ε α) : Prop := ∀ s, I s → I (exec m s).2

section Invariant

variable {I : σ → Prop} {m : Prog σ ε α}

theorem keeps_pure (a : α) : Keeps I (pure a : Prog σ ε α) := fun _ h => h

theorem keeps_throw (e : ε) : Keeps I (throw e : Prog σ ε α) := fun _ h => h

/-- A change that keeps the invariant. -/
theorem keeps_modify {f : σ → σ} (h : ∀ s, I s → I (f s)) :
    Keeps I (modify f : Prog σ ε PUnit) := h

/-- What is read satisfies the invariant. -/
theorem keeps_get {f : σ → Prog σ ε β} (h : ∀ s, I s → I (exec (f s) s).2) :
    Keeps I (get >>= f) := h

/-- **Sequence rule.** -/
theorem keeps_bind {f : α → Prog σ ε β} (h : Keeps I m) (hf : ∀ a, Keeps I (f a)) :
    Keeps I (m >>= f) := by
  intro s hs
  have ht := h s hs
  rw [exec_bind]
  generalize exec m s = out at ht ⊢
  obtain ⟨r, t⟩ := out
  cases r with
  | ok a => exact hf a t ht
  | error e => exact ht

/-- **Handler rule.**  The invariant has to hold where an error is raised as well. -/
theorem keeps_tryCatch {f : ε → Prog σ ε α} (h : Keeps I m) (hf : ∀ e, Keeps I (f e)) :
    Keeps I (tryCatch m f) := by
  intro s hs
  have ht := h s hs
  rw [exec_tryCatch]
  generalize exec m s = out at ht ⊢
  obtain ⟨r, t⟩ := out
  cases r with
  | ok a => exact ht
  | error e => exact hf e t ht

/-- An invariant of the view. -/
theorem Silent.keeps {view : σ → ν} {J : ν → Prop} {m : Prog σ ε PUnit} (h : Silent view m) :
    Keeps (fun s => J (view s)) m := by
  intro s hs
  rw [(h s).2]
  exact hs

end Invariant

end Effects
