import Mathlib.Data.List.Basic

/-! Checks that raise: functions that return a value or the text of an exception. -/

universe u v

namespace OptimizrActions

/-- `if not p: raise ...(message)`. -/
def require (p : Prop) [Decidable p] (message : String) : Except String Unit :=
  if p then .ok () else .error message

@[simp] theorem require_eq_ok {p : Prop} [Decidable p] {message : String} {u : Unit} :
    require p message = .ok u ↔ p := by
  unfold require
  split <;> simp [*]

theorem require_pos {p : Prop} [Decidable p] {message : String} (h : p) :
    require p message = .ok () := if_pos h

theorem error_ne_ok {ε : Type u} {α : Type v} {e : ε} {a : α} :
    (Except.error e : Except ε α) ≠ .ok a := by
  intro h
  cases h

theorem ok_bind {ε : Type u} {α β : Type v} {a : α} {f : α → Except ε β} :
    ((Except.ok a : Except ε α) >>= f) = f a := rfl

@[simp] theorem bind_eq_ok {ε : Type u} {α β : Type v} {x : Except ε α} {f : α → Except ε β}
    {b : β} : (x >>= f) = .ok b ↔ ∃ a, x = .ok a ∧ f a = .ok b := by
  cases x with
  | error e => simp [bind, Except.bind]
  | ok a => simp [bind, Except.bind]

@[simp] theorem pure_eq_ok {ε : Type u} {α : Type v} {a b : α} :
    (pure a : Except ε α) = .ok b ↔ a = b := by
  simp [pure, Except.pure]

@[simp] theorem map_eq_ok {ε : Type u} {α β : Type v} {x : Except ε α} {f : α → β} {b : β} :
    x.map f = .ok b ↔ ∃ a, x = .ok a ∧ f a = b := by
  cases x <;> simp [Except.map]

theorem exists_of_isOk {ε : Type u} {α : Type v} {x : Except ε α} (h : x.isOk = true) :
    ∃ a, x = .ok a := by
  cases x with
  | error e => cases h
  | ok a => exact ⟨a, rfl⟩

end OptimizrActions
