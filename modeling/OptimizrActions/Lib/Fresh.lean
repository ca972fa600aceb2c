import Mathlib.Data.Finset.Card
import Mathlib.Data.Finset.Image
import Mathlib.Data.Finset.Range

/-! The first of infinitely many names that is not taken. -/

namespace OptimizrActions

variable {α : Type} [DecidableEq α] {name : Nat → α}

/-- The search ends, since the names differ and only finitely many are taken. -/
def firstFree (injective : Function.Injective name) (taken : List α) (start : Nat) : Nat :=
  if name start ∈ taken then firstFree injective taken (start + 1) else start
termination_by (taken.toFinset \ (Finset.range start).image name).card
decreasing_by
  rename_i mem
  refine Finset.card_lt_card (Finset.ssubset_iff_subset_ne.mpr ⟨fun x inside => ?_, fun same => ?_⟩)
  · simp only [Finset.mem_sdiff, Finset.mem_image, Finset.mem_range, not_exists, not_and] at inside ⊢
    exact ⟨inside.1, fun k below => inside.2 k (by omega)⟩
  · have here : name start ∈ taken.toFinset \ (Finset.range start).image name := by
      simp only [Finset.mem_sdiff, Finset.mem_image, Finset.mem_range, not_exists, not_and]
      exact ⟨List.mem_toFinset.mpr mem, fun k below eq => (injective eq ▸ below).false⟩
    rw [← same] at here
    exact (Finset.mem_sdiff.mp here).2
      (Finset.mem_image_of_mem name (Finset.self_mem_range_succ start))

variable {injective : Function.Injective name} {taken : List α} {start : Nat}

theorem firstFree_of_mem (mem : name start ∈ taken) :
    firstFree injective taken start = firstFree injective taken (start + 1) := by
  rw [firstFree, if_pos mem]

theorem firstFree_of_not_mem (free : name start ∉ taken) :
    firstFree injective taken start = start := by
  rw [firstFree, if_neg free]

theorem firstFree_free : name (firstFree injective taken start) ∉ taken := by
  fun_induction firstFree injective taken start with
  | case1 start mem ih => exact ih
  | case2 start free => exact free

theorem firstFree_le {k : Nat} (from_ : start ≤ k) (free : name k ∉ taken) :
    firstFree injective taken start ≤ k := by
  fun_induction firstFree injective taken start with
  | case1 start mem ih =>
    refine ih (Nat.lt_of_le_of_ne from_ fun same => ?_)
    exact free (same ▸ mem)
  | case2 start _ => exact from_

theorem le_firstFree : start ≤ firstFree injective taken start := by
  fun_induction firstFree injective taken start with
  | case1 start mem ih => exact Nat.le_of_succ_le ih
  | case2 start _ => exact Nat.le_refl start

end OptimizrActions
