import OptimizrActions.Lib.KeyValue
import OptimizrActions.Lib.Text

/-! The segments of a text at a separator, and the texts that end with whole segments of others. -/

namespace OptimizrActions.KeyValue

section

variable {sep : Char}

theorem splitOn_ne_nil (cs : List Char) : splitOn sep cs ≠ [] := by
  cases cs with
  | nil => exact List.cons_ne_nil _ _
  | cons c cs =>
    unfold splitOn
    split_ifs
    · exact List.cons_ne_nil _ _
    · split
      · exact List.cons_ne_nil _ _
      · exact List.cons_ne_nil _ _

theorem splitOn_sep (cs : List Char) : splitOn sep (sep :: cs) = [] :: splitOn sep cs := if_pos rfl

theorem splitOn_cons_of_ne {c : Char} (ne : c ≠ sep) (cs : List Char) :
    ∃ segment rest, splitOn sep cs = segment :: rest ∧
      splitOn sep (c :: cs) = (c :: segment) :: rest := by
  obtain ⟨segment, rest, at_⟩ := List.exists_cons_of_ne_nil (@splitOn_ne_nil sep cs)
  refine ⟨segment, rest, at_, ?_⟩
  rw [splitOn, if_neg ne, at_]

/-- The first segment is empty when nothing comes before a separator. -/
theorem head_splitOn_eq_nil {cs : List Char} :
    (splitOn sep cs).head? = some [] ↔ cs = [] ∨ cs.head? = some sep := by
  cases cs with
  | nil => simp [splitOn]
  | cons c cs =>
    by_cases same : c = sep
    · subst same
      simp [splitOn_sep]
    · obtain ⟨segment, rest, -, here⟩ := splitOn_cons_of_ne same cs
      simp [here, same]

/-- A later segment is empty at the end of the text and between two separators. -/
theorem nil_mem_tail_splitOn {cs : List Char} :
    [] ∈ (splitOn sep cs).tail ↔ cs.getLast? = some sep ∨ Text.occursIn [sep, sep] cs = true := by
  induction cs with
  | nil => simp [splitOn, Text.occursIn]
  | cons c cs ih =>
    obtain ⟨segment, rest, at_⟩ := List.exists_cons_of_ne_nil (@splitOn_ne_nil sep cs)
    by_cases same : c = sep
    · subst same
      have first := @head_splitOn_eq_nil c cs
      rw [at_] at first ih
      rw [splitOn_sep, List.tail_cons, at_, List.mem_cons]
      cases cs with
      | nil =>
        cases at_
        simp
      | cons d ds =>
        have second : segment = [] ↔ d = c := by simpa using first
        rw [eq_comm, second, List.getLast?_cons_cons, Text.occursIn, Bool.or_eq_true]
        have doubled : List.isPrefixOf [c, c] (c :: d :: ds) = true ↔ d = c := by
          simp only [List.isPrefixOf, beq_self_eq_true, Bool.true_and, Bool.and_true, beq_iff_eq]
          exact eq_comm
        rw [List.tail_cons] at ih
        rw [doubled, ih]
        exact or_left_comm
    · obtain ⟨segment', rest', at', here⟩ := splitOn_cons_of_ne same cs
      cases at_.symm.trans at'
      rw [at_, List.tail_cons] at ih
      have single : List.isPrefixOf [sep, sep] (c :: cs) = false := by
        simp [List.isPrefixOf, Ne.symm same]
      rw [here, List.tail_cons, ih, Text.occursIn, single, Bool.false_or]
      cases cs with
      | nil => simp [same]
      | cons d ds => rw [List.getLast?_cons_cons]

theorem splitOn_mid (xs ys : List Char) :
    splitOn sep (xs ++ sep :: ys) = splitOn sep xs ++ splitOn sep ys := by
  induction xs with
  | nil => exact splitOn_sep ys
  | cons x xs ih =>
    rw [List.cons_append]
    by_cases same : x = sep
    · subst same
      rw [splitOn_sep, splitOn_sep, ih, List.cons_append]
    · obtain ⟨segment, rest, at_, here⟩ := splitOn_cons_of_ne same xs
      rw [splitOn, if_neg same, ih, at_, here]
      rfl

theorem intercalate_cons {part : List Char} {rest : List (List Char)} (some : rest ≠ []) :
    [sep].intercalate (part :: rest) = part ++ sep :: [sep].intercalate rest := by
  cases rest with
  | nil => exact absurd rfl some
  | cons next rest => rfl

theorem intercalate_append {front back : List (List Char)} (some : front ≠ []) (more : back ≠ []) :
    [sep].intercalate (front ++ back) =
      [sep].intercalate front ++ sep :: [sep].intercalate back := by
  induction front with
  | nil => exact absurd rfl some
  | cons part rest ih =>
    cases rest with
    | nil =>
      rw [List.singleton_append, intercalate_cons more, List.intercalate_singleton]
    | cons next rest =>
      rw [List.cons_append, intercalate_cons (by simp), ih (List.cons_ne_nil _ _),
        intercalate_cons (List.cons_ne_nil _ _), List.append_assoc, List.cons_append]

theorem intercalate_splitOn (cs : List Char) : [sep].intercalate (splitOn sep cs) = cs := by
  induction cs with
  | nil => rfl
  | cons c cs ih =>
    by_cases same : c = sep
    · subst same
      rw [splitOn_sep, intercalate_cons (splitOn_ne_nil cs), ih, List.nil_append]
    · obtain ⟨segment, rest, at_, here⟩ := splitOn_cons_of_ne same cs
      rw [at_] at ih
      rw [here, ← ih]
      cases rest with
      | nil => rfl
      | cons next rest => rfl

theorem not_mem_of_mem_splitOn {text part : List Char} (mem : part ∈ splitOn sep text) :
    sep ∉ part := by
  induction text generalizing part with
  | nil =>
    cases List.mem_singleton.mp mem
    exact List.not_mem_nil
  | cons c text ih =>
    rw [splitOn] at mem
    split at mem
    · rcases List.mem_cons.mp mem with rfl | mem
      · exact List.not_mem_nil
      · exact ih mem
    · rename_i ne
      split at mem
      · cases List.mem_singleton.mp mem
        exact fun mem => ne (List.mem_singleton.mp mem).symm
      · rename_i first rest same
        rw [same] at ih
        rcases List.mem_cons.mp mem with rfl | mem
        · rw [List.mem_cons, not_or]
          exact ⟨fun eq => ne eq.symm, ih List.mem_cons_self⟩
        · exact ih (List.mem_cons_of_mem _ mem)

theorem splitOn_injective : Function.Injective (splitOn sep) :=
  Function.LeftInverse.injective intercalate_splitOn

/-- A text ends with the segments of another one where it is the other one, or ends with it right
after a separator. -/
theorem splitOn_suffix {xs ys : List Char} :
    splitOn sep xs <:+ splitOn sep ys ↔ xs = ys ∨ sep :: xs <:+ ys := by
  constructor
  · rintro ⟨front, joined⟩
    by_cases none : front = []
    · subst none
      exact .inl (splitOn_injective joined)
    · refine .inr ⟨[sep].intercalate front, ?_⟩
      rw [← @intercalate_splitOn sep ys, ← joined,
        intercalate_append none (splitOn_ne_nil xs), intercalate_splitOn]
  · rintro (rfl | ⟨front, rfl⟩)
    · exact List.suffix_refl _
    · rw [splitOn_mid]
      exact List.suffix_append _ _

end

end OptimizrActions.KeyValue

namespace OptimizrActions.Text

theorem occursIn_iff {part text : List Char} : occursIn part text = true ↔ part <:+: text := by
  induction text with
  | nil => simp [occursIn]
  | cons c cs ih => rw [occursIn, Bool.or_eq_true, ih, List.isPrefixOf_iff_prefix, List.infix_cons_iff]

end OptimizrActions.Text
