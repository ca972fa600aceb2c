import Mathlib.Algebra.BigOperators.Group.List.Basic
import OptimizrActions.Lib.Check

/-! Loops that add something up. -/

universe u v w

namespace OptimizrActions

section

variable {α : Type u} {σ : Type v} {M : Type w} [AddMonoid M] {m : σ → M} {weight : α → M}

/-- A measure that each turn of a loop raises by the weight of its item. -/
theorem foldlM_sum {f : σ → α → Except String σ}
    (step : ∀ s item s', f s item = .ok s' → m s' = m s + weight item) {items : List α} {s s' : σ}
    (h : items.foldlM f s = .ok s') : m s' = m s + (items.map weight).sum := by
  induction items generalizing s with
  | nil =>
    rw [List.foldlM_nil, pure_eq_ok] at h
    rw [← h, List.map_nil, List.sum_nil, add_zero]
  | cons item rest ih =>
    rw [List.foldlM_cons, bind_eq_ok] at h
    obtain ⟨middle, first, later⟩ := h
    rw [ih later, step s item middle first, List.map_cons, List.sum_cons, add_assoc]

/-- What each turn of a loop keeps, the loop keeps. -/
theorem foldlM_keeps {f : σ → α → Except String σ} {inv : σ → Prop}
    (step : ∀ s item s', inv s → f s item = .ok s' → inv s') {items : List α} {s s' : σ}
    (start : inv s) (h : items.foldlM f s = .ok s') : inv s' := by
  induction items generalizing s with
  | nil =>
    rw [List.foldlM_nil, pure_eq_ok] at h
    exact h ▸ start
  | cons item rest ih =>
    rw [List.foldlM_cons, bind_eq_ok] at h
    obtain ⟨middle, first, later⟩ := h
    exact ih (step s item middle start first) later

theorem foldl_sum {f : σ → α → σ} (step : ∀ s item, m (f s item) = m s + weight item)
    {items : List α} {s : σ} : m (items.foldl f s) = m s + (items.map weight).sum := by
  induction items generalizing s with
  | nil => rw [List.foldl_nil, List.map_nil, List.sum_nil, add_zero]
  | cons item rest ih => rw [List.foldl_cons, ih, step, List.map_cons, List.sum_cons, add_assoc]

end

end OptimizrActions
