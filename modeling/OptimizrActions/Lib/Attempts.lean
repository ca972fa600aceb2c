import Mathlib.Data.List.Basic

/-! Repeating an attempt while its outcome asks for another and the budget lasts. -/

universe u

namespace OptimizrActions.Attempts

variable {α : Type u} (again : α → Prop) [DecidablePred again] (outcomes : Nat → α)

/-- How many attempts are made, the first of them with this number. -/
def made : Nat → Nat → Nat
  | 0, _ => 0
  | budget + 1, first => if again (outcomes first) then made budget (first + 1) + 1 else 1

@[simp] theorem made_zero (first : Nat) : made again outcomes 0 first = 0 := rfl

theorem made_le (budget first : Nat) : made again outcomes budget first ≤ budget := by
  induction budget generalizing first with
  | zero => exact Nat.le_refl 0
  | succ budget ih =>
    rw [made]
    split
    · exact Nat.succ_le_succ (ih (first + 1))
    · exact Nat.le_add_left 1 budget

theorem made_pos (budget first : Nat) : 0 < made again outcomes budget first ↔ 0 < budget := by
  cases budget with
  | zero => rfl
  | succ budget =>
    rw [made]
    split <;> simp

/-- Another attempt follows exactly when the last one asks for it and the budget allows it. -/
theorem succ_lt_made {budget first k : Nat} (h : k < made again outcomes budget first) :
    k + 1 < made again outcomes budget first ↔
      again (outcomes (first + k)) ∧ k + 1 < budget := by
  induction budget generalizing first k with
  | zero => cases h
  | succ budget ih =>
    rw [made] at h ⊢
    by_cases asks : again (outcomes first)
    · rw [if_pos asks] at h ⊢
      cases k with
      | zero => simp [asks, made_pos]
      | succ k =>
        rw [Nat.add_lt_add_iff_right, ih (Nat.lt_of_add_lt_add_right h), Nat.add_lt_add_iff_right,
          Nat.add_right_comm, Nat.add_assoc first k 1]
    · rw [if_neg asks] at h ⊢
      cases Nat.lt_one_iff.mp h
      simp [asks]

end OptimizrActions.Attempts
