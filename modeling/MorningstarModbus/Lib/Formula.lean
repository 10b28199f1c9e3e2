import Mathlib.Data.Nat.Cast.Defs

/-!
# Formula

Formulas over named quantities, some of which may be unknown: operations one after
another, from left to right.

* `eval_eq_none_iff` — the result is unknown exactly when an input is;
* `eval_isSome` — it is known when the inputs are.
-/

namespace Formulas

inductive Operator where
  | sub
  | mul
  | div
  deriving DecidableEq

def Operator.text : Operator → String
  | .sub => "-"
  | .mul => "*"
  | .div => "/"

def Operator.apply {α : Type*} [Sub α] [Mul α] [Div α] (x y : α) : Operator → α
  | .sub => x - y
  | .mul => x * y
  | .div => x / y

inductive Operand where
  | input (name : String)
  | constant (n : ℕ)
  deriving DecidableEq

def Operand.text : Operand → String
  | .input name => name
  | .constant n => toString n

def Operand.input? : Operand → Option String
  | .input name => some name
  | .constant _ => none

def Operand.value {α : Type*} [NatCast α] (quantity : String → Option α) : Operand → Option α
  | .input name => quantity name
  | .constant n => some n

structure Formula where
  first : String
  rest : List (Operator × Operand)
  deriving DecidableEq

namespace Formula

/-- How a formula is written. -/
def text (f : Formula) : String :=
  f.rest.foldl (fun acc t => acc ++ " " ++ t.1.text ++ " " ++ t.2.text) f.first

def inputs (f : Formula) : List String := f.first :: f.rest.filterMap fun t => t.2.input?

variable {α : Type*} [Sub α] [Mul α] [Div α] [NatCast α]

/-- The operations after some value. -/
def evalRest (quantity : String → Option α) : α → List (Operator × Operand) → Option α
  | x, [] => some x
  | x, t :: rest => (t.2.value quantity).bind fun y => evalRest quantity (t.1.apply x y) rest

def eval (quantity : String → Option α) (f : Formula) : Option α :=
  (quantity f.first).bind fun x => evalRest quantity x f.rest

variable {quantity : String → Option α}

/-- The rest of a formula has no value if and only if one of its inputs has none. -/
theorem evalRest_eq_none_iff (x : α) (rest : List (Operator × Operand)) :
    evalRest quantity x rest = none ↔
      ∃ name ∈ rest.filterMap (fun t => t.2.input?), quantity name = none := by
  induction rest generalizing x with
  | nil => simp [evalRest]
  | cons t rest ih =>
      obtain ⟨operator, operand⟩ := t
      cases operand with
      | constant n => simp [evalRest, Operand.value, Operand.input?, ih]
      | input name =>
          cases h : quantity name with
          | none => simp [evalRest, Operand.value, Operand.input?, h]
          | some y => simp [evalRest, Operand.value, Operand.input?, h, ih]

/-- The result is unknown exactly when an input is. -/
theorem eval_eq_none_iff (f : Formula) :
    f.eval quantity = none ↔ ∃ name ∈ f.inputs, quantity name = none := by
  cases h : quantity f.first with
  | none => simp [eval, inputs, h]
  | some x => simp [eval, inputs, h, evalRest_eq_none_iff]

/-- With all inputs there, the formula has a value. -/
theorem eval_isSome (f : Formula) (h : ∀ name ∈ f.inputs, quantity name ≠ none) :
    (f.eval quantity).isSome := by
  rw [Option.isSome_iff_ne_none, ne_eq, eval_eq_none_iff]
  intro hunknown
  obtain ⟨name, hname, hnone⟩ := hunknown
  exact h name hname hnone

end Formula

end Formulas
