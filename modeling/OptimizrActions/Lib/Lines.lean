import OptimizrActions.Lib.Marker
import OptimizrActions.Lib.Segments

/-! Texts that are split at one kind of line end and searched after another. -/

namespace OptimizrActions.Lines

open Text (isLineBreak splitLinesFrom occursIn)

/-- Splitting at more characters splits every part again. -/
theorem splitOnP_flatMap {p q : Char → Bool} (h : ∀ c, p c = true → q c = true)
    (text : List Char) : text.splitOnP q = (text.splitOnP p).flatMap (List.splitOnP q) := by
  induction text with
  | nil => rfl
  | cons c text ih =>
    obtain ⟨head, tail, split⟩ := List.exists_cons_of_ne_nil (List.splitOnP_ne_nil p text)
    rw [split, List.flatMap_cons] at ih
    rw [List.splitOnP_cons_eq_if_modifyHead c text, List.splitOnP_cons_eq_if_modifyHead c text, split]
    by_cases coarse : p c = true
    · rw [if_pos coarse, if_pos (h c coarse), ih]
      rfl
    · rw [if_neg coarse, List.modifyHead_cons, List.flatMap_cons,
        List.splitOnP_cons_eq_if_modifyHead, ih]
      split_ifs
      · rfl
      · obtain ⟨first, rest, inner⟩ := List.exists_cons_of_ne_nil (List.splitOnP_ne_nil q head)
        rw [inner]
        rfl

/-- A part is somewhere in the text, and the first one is its beginning. -/
theorem splitOnP_parts (p : Char → Bool) (text : List Char) :
    (∀ head, (text.splitOnP p).head? = some head → head <+: text) ∧
      ∀ part ∈ text.splitOnP p, part <:+: text := by
  induction text with
  | nil => simp [List.splitOnP_nil]
  | cons c text ih =>
    obtain ⟨first, rest, split⟩ := List.exists_cons_of_ne_nil (List.splitOnP_ne_nil p text)
    rw [split] at ih
    rw [List.splitOnP_cons_eq_if_modifyHead, split]
    have up {part : List Char} (inside : part <:+: text) : part <:+: c :: text :=
      inside.trans (List.suffix_cons _ _).isInfix
    split_ifs
    · refine ⟨fun head eq => ?_, fun part mem => ?_⟩
      · cases eq
        exact List.nil_prefix
      · rcases List.mem_cons.mp mem with rfl | mem
        · exact List.nil_infix
        · exact up (ih.2 part mem)
    · have begin_ : c :: first <+: c :: text := List.cons_prefix_cons.mpr ⟨rfl, ih.1 first rfl⟩
      refine ⟨fun head eq => ?_, fun part mem => ?_⟩
      · cases eq
        exact begin_
      · rcases List.mem_cons.mp mem with rfl | mem
        · exact begin_.isInfix
        · exact up (ih.2 part (List.mem_cons_of_mem _ mem))

/-- `splitlines` has the same parts, but for empty ones. -/
theorem mem_splitLinesFrom {line text part : List Char} (nonempty : part ≠ [])
    (clean : ∀ c ∈ line, isLineBreak c = false) :
    part ∈ splitLinesFrom line text ↔ part ∈ (line.reverse ++ text).splitOnP isLineBreak := by
  have clean' {line : List Char} (clean : ∀ c ∈ line, isLineBreak c = false) :
      ∀ c ∈ line.reverse, isLineBreak c = false := fun c mem => clean c (List.mem_reverse.mp mem)
  have none : ∀ c ∈ ([] : List Char), isLineBreak c = false := fun c mem => absurd mem List.not_mem_nil
  fun_induction splitLinesFrom line text with
  | case1 => simpa [List.splitOnP_nil] using nonempty
  | case2 line ne =>
    rw [List.append_nil, List.splitOnP_eq_singleton (clean' clean)]
  | case3 line text ih =>
    have tail : part ∈ splitLinesFrom [] text ↔ part ∈ text.splitOnP isLineBreak := ih none
    rw [List.mem_cons, tail, List.splitOnP_append_cons_of_forall_mem (clean' clean) '\r' (by decide),
      List.splitOnP_cons_eq_if_modifyHead, if_pos (by decide)]
    simp [nonempty]
  | case4 line c text ne break_ ih =>
    have tail : part ∈ splitLinesFrom [] text ↔ part ∈ text.splitOnP isLineBreak := ih none
    rw [List.mem_cons, tail, List.splitOnP_append_cons_of_forall_mem (clean' clean) c break_, List.mem_cons]
  | case5 line c text ne break_ ih =>
    have tail : part ∈ splitLinesFrom (c :: line) text ↔
        part ∈ ((c :: line).reverse ++ text).splitOnP isLineBreak :=
      ih (by simpa [break_] using clean)
    rw [tail, List.reverse_cons, List.append_assoc]
    rfl

theorem occursIn_intercalate {word : List Char} (inLine : '\n' ∉ word) (nonempty : word ≠ [])
    (items : List (List Char)) : occursIn word (['\n'].intercalate items) = true ↔
      ∃ item ∈ items, occursIn word item = true := by
  have empty : ¬word <:+: [] := fun inside => nonempty (List.infix_nil.mp inside)
  simp only [Text.occursIn_iff]
  induction items with
  | nil => simpa using empty
  | cons item rest ih =>
    by_cases last : rest = []
    · subst last
      have alone : ['\n'].intercalate [item] = item := List.append_nil item
      simp [alone]
    · rw [KeyValue.intercalate_cons last, List.exists_mem_cons_iff]
      constructor
      · exact fun there => (Marker.infix_of_not_mem inLine there).imp_right ih.mp
      · rintro (inside | later)
        · exact inside.trans (List.prefix_append _ _).isInfix
        · exact (ih.mpr later).trans ((List.suffix_cons _ _).trans (List.suffix_append _ _)).isInfix

end OptimizrActions.Lines
