import Mathlib.Logic.Function.Basic

/-!
# Dict

Dictionaries as partial maps.  `set` is `d[k] = v`, `pop` is `d.pop(k, None)`.
-/

/-- A dictionary, where the order of its keys does not matter. -/
abbrev Dict (κ : Type*) (α : Type*) := κ → Option α

namespace Dict

variable {κ α : Type*}

def empty : Dict κ α := fun _ => none

@[simp] theorem empty_apply (k : κ) : (empty : Dict κ α) k = none := rfl

section

variable [DecidableEq κ] (d : Dict κ α) (k : κ) (v : α)

def set : Dict κ α := Function.update d k (some v)

def pop : Dict κ α := Function.update d k none

/-- What is set is read. -/
@[simp] theorem set_self : d.set k v k = some v := by
  simp [set]

/-- What is popped is gone. -/
@[simp] theorem pop_self : d.pop k k = none := by
  simp [pop]

/-- The last write to a key counts. -/
@[simp] theorem set_set (u : α) : (d.set k u).set k v = d.set k v := by
  simp [set]

variable {d k v}

/-- Writing what is there changes nothing. -/
theorem set_eq_self (h : d k = some v) : d.set k v = d := by
  rw [set, ← h, Function.update_eq_self]

/-- Nor does popping what is not there. -/
theorem pop_eq_self (h : d k = none) : d.pop k = d := by
  rw [pop, ← h, Function.update_eq_self]

variable (d v) {j : κ}

/-- Other keys keep their values. -/
@[simp] theorem set_of_ne (h : j ≠ k) : d.set k v j = d j := by
  simp [set, h]

/-- And are not popped. -/
@[simp] theorem pop_of_ne (h : j ≠ k) : d.pop k j = d j := by
  simp [pop, h]

end

end Dict
