import Mathlib.Data.List.Basic

/-! The spans between positions that are marked on a line of a given length. -/

namespace OptimizrActions

structure Span (α : Type) where
  name : α
  start : Nat
  stop : Nat
  deriving DecidableEq

variable {α : Type}

/-- Each span goes to the next mark, and the last one to the end. -/
def spans (last : Nat) : List (Nat × α) → List (Span α)
  | [] => []
  | [(start, name)] => [⟨name, start, last⟩]
  | (start, name) :: (next, other) :: rest => ⟨name, start, next⟩ :: spans last ((next, other) :: rest)

variable {last : Nat} {marks : List (Nat × α)} {span : Span α}

theorem mark_of_mem_spans (mem : span ∈ spans last marks) : (span.start, span.name) ∈ marks := by
  fun_induction spans last marks with
  | case1 => cases mem
  | case2 start name =>
    cases List.mem_singleton.mp mem
    exact List.mem_cons_self
  | case3 start name next other rest ih =>
    obtain rfl | later := List.mem_cons.mp mem
    · exact List.mem_cons_self
    · exact List.mem_cons_of_mem _ (ih later)

theorem exists_span_of_mark {mark : Nat × α} (mem : mark ∈ marks) :
    ∃ span ∈ spans last marks, span.start = mark.1 := by
  fun_induction spans last marks with
  | case1 => cases mem
  | case2 start name =>
    cases List.mem_singleton.mp mem
    exact ⟨_, List.mem_cons_self, rfl⟩
  | case3 start name next other rest ih =>
    obtain rfl | later := List.mem_cons.mp mem
    · exact ⟨_, List.mem_cons_self, rfl⟩
    · obtain ⟨span, inside, same⟩ := ih later
      exact ⟨span, List.mem_cons_of_mem _ inside, same⟩

theorem exists_span_to_last (some : marks ≠ []) : ∃ span ∈ spans last marks, span.stop = last := by
  fun_induction spans last marks with
  | case1 => exact absurd rfl some
  | case2 start name => exact ⟨_, List.mem_cons_self, rfl⟩
  | case3 start name next other rest ih =>
    obtain ⟨span, inside, same⟩ := ih (List.cons_ne_nil _ _)
    exact ⟨span, List.mem_cons_of_mem _ inside, same⟩

theorem stop_le_last (below : ∀ mark ∈ marks, mark.1 ≤ last) (mem : span ∈ spans last marks) :
    span.stop ≤ last := by
  fun_induction spans last marks with
  | case1 => cases mem
  | case2 start name =>
    cases List.mem_singleton.mp mem
    exact Nat.le_refl _
  | case3 start name next other rest ih =>
    rw [List.forall_mem_cons] at below
    obtain rfl | later := List.mem_cons.mp mem
    · exact below.2 _ List.mem_cons_self
    · exact ih below.2 later

/-- No mark is inside a span. -/
theorem not_mark_inside (sorted : marks.Pairwise fun a b => a.1 < b.1)
    (mem : span ∈ spans last marks) {mark : Nat × α} (marked : mark ∈ marks)
    (after : span.start < mark.1) : span.stop ≤ mark.1 := by
  fun_induction spans last marks with
  | case1 => cases mem
  | case2 start name =>
    cases List.mem_singleton.mp mem
    cases List.mem_singleton.mp marked
    exact absurd after (Nat.lt_irrefl _)
  | case3 start name next other rest ih =>
    have tail := List.pairwise_cons.mp sorted
    obtain rfl | later := List.mem_cons.mp mem
    · obtain rfl | behind := List.mem_cons.mp marked
      · exact absurd after (Nat.lt_irrefl _)
      · obtain rfl | further := List.mem_cons.mp behind
        · exact Nat.le_refl _
        · exact Nat.le_of_lt ((List.pairwise_cons.mp tail.2).1 _ further)
    · obtain rfl | behind := List.mem_cons.mp marked
      · have from_ := tail.1 _ (mark_of_mem_spans later)
        exact absurd after (Nat.lt_asymm from_)
      · exact ih tail.2 later behind

theorem le_of_head? (sorted : marks.Pairwise fun a b => a.1 < b.1) {first mark : Nat × α}
    (at_ : marks.head? = some first) (mem : mark ∈ marks) : first.1 ≤ mark.1 := by
  cases marks with
  | nil => cases mem
  | cons head rest =>
    cases at_
    obtain rfl | later := List.mem_cons.mp mem
    · exact Nat.le_refl _
    · exact Nat.le_of_lt ((List.pairwise_cons.mp sorted).1 _ later)

/-- From the first mark on the spans leave nothing out. -/
theorem exists_span_of_le {mark : Nat × α} (first : marks.head? = some mark) {i : Nat}
    (from_ : mark.1 ≤ i) (before : i < last) :
    ∃ span ∈ spans last marks, span.start ≤ i ∧ i < span.stop := by
  fun_induction spans last marks generalizing mark with
  | case1 => cases first
  | case2 start name =>
    cases first
    exact ⟨_, List.mem_cons_self, from_, before⟩
  | case3 start name next other rest ih =>
    cases first
    by_cases beyond : next ≤ i
    · obtain ⟨span, inside, covers⟩ := ih rfl beyond
      exact ⟨span, List.mem_cons_of_mem _ inside, covers⟩
    · exact ⟨_, List.mem_cons_self, from_, Nat.lt_of_not_le beyond⟩

end OptimizrActions
