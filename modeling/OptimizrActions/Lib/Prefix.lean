import Mathlib.Data.List.Infix

/-! The longest prefix of a list that has a property. -/

universe u

namespace OptimizrActions

section

variable {α : Type u} {ok : List α → Prop} {keep : α → Bool} {items kept : List α} {last : α}

/-- No prefix with the property is longer. -/
def Bounds (ok : List α → Prop) (items kept : List α) : Prop :=
  ∀ front, front <+: items → ok front → front.length ≤ kept.length

structure LongestPrefix (ok : List α → Prop) (items kept : List α) : Prop where
  isPrefix : kept <+: items
  holds : ok kept
  bounds : Bounds ok items kept

theorem LongestPrefix.unique {other : List α} (h : LongestPrefix ok items kept)
    (h' : LongestPrefix ok items other) : kept = other := by
  have lengths := (h'.bounds kept h.isPrefix h.holds).antisymm (h.bounds other h'.isPrefix h'.holds)
  exact (List.prefix_of_prefix_length_le h.isPrefix h'.isPrefix lengths.le).eq_of_length lengths

/-- A prefix without the property may lose its last item. -/
theorem Bounds.pop (h : Bounds ok items (kept ++ [last])) (isPrefix : kept ++ [last] <+: items)
    (fails : ¬ok (kept ++ [last])) : Bounds ok items kept := by
  intro front inside holds
  have le := h front inside holds
  have ne : front.length ≠ (kept ++ [last]).length := by
    intro same
    have eq := (List.prefix_of_prefix_length_le inside isPrefix same.le).eq_of_length same
    exact fails (eq ▸ holds)
  rw [List.length_append, List.length_singleton] at le ne
  omega

/-- Where the property passes to the items before, it selects a prefix. -/
theorem filter_append_filter_not (h : items.Pairwise fun a b => keep b = true → keep a = true) :
    items.filter keep ++ items.filter (fun a => !keep a) = items := by
  induction h with
  | nil => rfl
  | @cons a rest head tail ih =>
    cases at_ : keep a with
    | true => rw [List.filter_cons_of_pos at_, List.filter_cons_of_neg (by simp [at_]),
        List.cons_append, ih]
    | false =>
      have none (b : α) (mem : b ∈ rest) : ¬keep b = true := fun there =>
        absurd (head b mem there) (by simp [at_])
      rw [List.filter_cons_of_neg (by simp [at_]), List.filter_cons_of_pos (by simp [at_]),
        List.filter_eq_nil_iff.mpr none, List.nil_append,
        List.filter_eq_self.mpr fun b mem => by simpa using none b mem]

theorem length_le_length_filter {front : List α} (inside : front.Sublist items)
    (each : ∀ a ∈ front, keep a = true) : front.length ≤ (items.filter keep).length := by
  rw [← List.filter_eq_self.mpr each]
  exact (inside.filter keep).length_le

end

end OptimizrActions
