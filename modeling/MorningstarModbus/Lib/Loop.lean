import Mathlib.Data.List.Basic
import Mathlib.Order.Defs.Unbundled

/-!
# Loop

Invariant rules for loops and runs.  A `for` loop whose body may raise, and
a run of a system whose steps may fail, are both `List.foldlM` in `Except`;
a loop that cannot raise is `List.foldl`.

* `foldlM_ok` — an invariant indexed by the part already processed: if every
  step succeeds and keeps it, the whole loop succeeds;
* `foldlM_prefix` — the same for a loop that is known to succeed;
* `foldl_invariant` — the same for a loop that cannot raise.
-/

namespace Loop

universe u v w

variable {σ : Type u} {α : Type v} {ε : Type w}

/-! ## raising computations -/

theorem bind_eq_ok {β : Type u} {x : Except ε σ} {f : σ → Except ε β} {b : β} :
    x >>= f = .ok b ↔ ∃ a, x = .ok a ∧ f a = .ok b := by
  cases x with
  | error e => simp [bind, Except.bind]
  | ok a => simp [bind, Except.bind]

@[simp] theorem ok_bind {β : Type u} (a : σ) (f : σ → Except ε β) :
    (Except.ok a : Except ε σ) >>= f = f a := rfl

@[simp] theorem error_bind {β : Type u} (e : ε) (f : σ → Except ε β) :
    ((Except.error e : Except ε σ) >>= f) = .error e := rfl

@[simp] theorem pure_eq_ok (a : σ) : (pure a : Except ε σ) = .ok a := rfl

theorem mapError_eq_ok {ε' : Type*} {x : Except ε σ} {f : ε → ε'} {a : σ} :
    x.mapError f = .ok a ↔ x = .ok a := by
  cases x with
  | error e => simp [Except.mapError]
  | ok b => simp [Except.mapError]

theorem exists_ok {x : Except ε σ} (h : x.toBool = true) : ∃ a, x = .ok a := by
  cases x with
  | error e => cases h
  | ok a => exact ⟨a, rfl⟩

theorem bind_congr {β : Type u} {x : Except ε σ} {f g : σ → Except ε β}
    (h : ∀ a, x = .ok a → f a = g a) : x >>= f = x >>= g := by
  cases x with
  | error e => rfl
  | ok a => exact h a rfl

/-- What a loop collects came of its items. -/
theorem mem_mapM {β : Type w} {γ : Type u} {f : β → Except ε γ} {items : List β} {out : List γ}
    (h : items.mapM f = .ok out) {b : γ} (hb : b ∈ out) : ∃ a ∈ items, f a = .ok b := by
  induction items generalizing out with
  | nil =>
      cases h
      cases hb
  | cons a items ih =>
      simp only [List.mapM_cons, bind_eq_ok, pure_eq_ok, Except.ok.injEq] at h
      obtain ⟨first, hfirst, rest, hrest, rfl⟩ := h
      obtain rfl | hb := List.mem_cons.mp hb
      · exact ⟨a, List.mem_cons_self, hfirst⟩
      · obtain ⟨a', ha', heq⟩ := ih hrest hb
        exact ⟨a', List.mem_cons_of_mem a ha', heq⟩

/-- Every item gave something that is collected. -/
theorem exists_of_mapM {β : Type w} {γ : Type u} {f : β → Except ε γ} {items : List β}
    {out : List γ} (h : items.mapM f = .ok out) {a : β} (ha : a ∈ items) :
    ∃ b ∈ out, f a = .ok b := by
  induction items generalizing out with
  | nil => cases ha
  | cons first items ih =>
      simp only [List.mapM_cons, bind_eq_ok, pure_eq_ok, Except.ok.injEq] at h
      obtain ⟨b, hfirst, rest, hrest, rfl⟩ := h
      obtain rfl | ha := List.mem_cons.mp ha
      · exact ⟨b, List.mem_cons_self, hfirst⟩
      · obtain ⟨b', hb', heq⟩ := ih hrest ha
        exact ⟨b', List.mem_cons_of_mem b hb', heq⟩

/-- What is read of the results can be read of the items. -/
theorem map_mapM {β : Type w} {γ : Type u} {δ : Type*} {f : β → Except ε γ} {g : γ → δ}
    {g' : β → δ} (hf : ∀ a b, f a = .ok b → g b = g' a) {items : List β} {out : List γ}
    (h : items.mapM f = .ok out) : out.map g = items.map g' := by
  induction items generalizing out with
  | nil =>
      cases h
      rfl
  | cons a items ih =>
      simp only [List.mapM_cons, bind_eq_ok, pure_eq_ok, Except.ok.injEq] at h
      obtain ⟨first, hfirst, rest, hrest, rfl⟩ := h
      rw [List.map_cons, List.map_cons, hf a first hfirst, ih hrest]

/-! ## loops that may raise -/

/-- The invariant rule, indexed by the processed prefix. -/
theorem foldlM_ok {step : σ → α → Except ε σ} (P : List α → σ → Prop) {s : σ} (as : List α)
    (h0 : P [] s)
    (hstep : ∀ done a rest s, as = done ++ a :: rest → P done s →
      ∃ s', step s a = .ok s' ∧ P (done ++ [a]) s') :
    ∃ s', as.foldlM step s = .ok s' ∧ P as s' := by
  suffices h : ∀ rest done s, as = done ++ rest → P done s →
      ∃ s', rest.foldlM step s = .ok s' ∧ P as s' from h as [] s rfl h0
  intro rest
  induction rest with
  | nil =>
      intro done s has hP
      rw [List.append_nil] at has
      exact ⟨s, rfl, has ▸ hP⟩
  | cons a rest ih =>
      intro done s has hP
      obtain ⟨s₁, hs₁, hP₁⟩ := hstep done a rest s has hP
      obtain ⟨s', hs', hP'⟩ := ih (done ++ [a]) s₁ (by simp [has]) hP₁
      exact ⟨s', by rw [List.foldlM_cons, hs₁, ok_bind, hs'], hP'⟩

/-- What every successful step adds to the processed prefix, a successful loop
adds up to the whole. -/
theorem foldlM_prefix {step : σ → α → Except ε σ} (P : List α → σ → Prop) {s s' : σ}
    {as : List α} (h : as.foldlM step s = .ok s') (h0 : P [] s)
    (hstep : ∀ done a rest s s', as = done ++ a :: rest → P done s → step s a = .ok s' →
      P (done ++ [a]) s') : P as s' := by
  suffices hrest : ∀ rest done s, as = done ++ rest → P done s → rest.foldlM step s = .ok s' →
      P as s' from hrest as [] s rfl h0 h
  intro rest
  induction rest with
  | nil =>
      intro done s has hP hok
      cases hok
      rw [List.append_nil] at has
      exact has ▸ hP
  | cons a rest ih =>
      intro done s has hP hok
      rw [List.foldlM_cons, bind_eq_ok] at hok
      obtain ⟨s₁, hs₁, hok⟩ := hok
      exact ih (done ++ [a]) s₁ (by simp [has]) (hstep done a rest s s₁ has hP hs₁) hok

/-- What every successful step keeps, a successful loop keeps. -/
theorem foldlM_invariant {step : σ → α → Except ε σ} {P : σ → Prop} {s s' : σ} {as : List α}
    (h : as.foldlM step s = .ok s') (h0 : P s)
    (hstep : ∀ a ∈ as, ∀ s s', P s → step s a = .ok s' → P s') : P s' := by
  induction as generalizing s with
  | nil =>
      cases h
      exact h0
  | cons a as ih =>
      rw [List.foldlM_cons, bind_eq_ok] at h
      obtain ⟨s₁, hs₁, h⟩ := h
      exact ih h (hstep a List.mem_cons_self s s₁ h0 hs₁)
        fun b hb => hstep b (List.mem_cons_of_mem a hb)

/-! ## loops that cannot raise -/

/-- The invariant rule for a pure loop, indexed by the processed prefix. -/
theorem foldl_invariant {step : σ → α → σ} (P : List α → σ → Prop) {s : σ} (as : List α)
    (h0 : P [] s)
    (hstep : ∀ done a rest s, as = done ++ a :: rest → P done s → P (done ++ [a]) (step s a)) :
    P as (as.foldl step s) := by
  suffices h : ∀ rest done s, as = done ++ rest → P done s → P as (rest.foldl step s) from
    h as [] s rfl h0
  intro rest
  induction rest with
  | nil =>
      intro done s has hP
      rw [List.append_nil] at has
      exact has ▸ hP
  | cons a rest ih =>
      intro done s has hP
      exact ih (done ++ [a]) (step s a) (by simp [has]) (hstep done a rest s has hP)

end Loop
