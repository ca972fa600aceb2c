import Mathlib.Data.List.Infix
import Mathlib.Data.List.Chain

/-! Sections of a text that stand between a start and a stop marker. -/

universe u

namespace OptimizrActions.Marker

variable {α : Type u}

/-- A marker that begins with the opening character and has it nowhere else. -/
def Tag (opening : α) (marker : List α) : Prop :=
  ∃ tail, marker = opening :: tail ∧ opening ∉ tail

section Tag

variable {opening : α} {marker other before after before' after' : List α}

theorem Tag.ne_nil (h : Tag opening marker) : marker ≠ [] := by
  obtain ⟨tail, rfl, -⟩ := h
  exact List.cons_ne_nil _ _

theorem Tag.not_append (h : Tag opening marker) (h' : Tag opening other) {gap : List α}
    (nonempty : gap ≠ []) (eq : marker ++ after = gap ++ (other ++ after')) : marker <+: gap := by
  obtain ⟨tail, rfl, fresh⟩ := h
  obtain ⟨tail', rfl, -⟩ := h'
  rcases List.append_eq_append_iff.mp eq with ⟨z, rfl, -⟩ | ⟨z, same, rest⟩
  · exact List.prefix_append _ _
  · cases gap with
    | nil => exact absurd rfl nonempty
    | cons c gap =>
      rw [List.cons_append, List.cons.injEq] at same
      cases z with
      | nil =>
        rw [same.1, same.2, List.append_nil]
      | cons d z =>
        rw [List.cons_append, List.cons_append, List.cons.injEq] at rest
        rw [same.2, ← rest.1] at fresh
        exact absurd (List.mem_append_right _ List.mem_cons_self) fresh

/-- Two markers in one text stand at the same place, or one is wholly before the other. -/
theorem Tag.split (h : Tag opening marker) (h' : Tag opening other)
    (eq : before ++ (marker ++ after) = before' ++ (other ++ after')) :
    before = before' ∨ before ++ marker <+: before' ∨ before' ++ other <+: before := by
  rcases List.append_eq_append_iff.mp eq with ⟨gap, rfl, rest⟩ | ⟨gap, rfl, rest⟩
  · by_cases empty : gap = []
    · exact .inl (by rw [empty, List.append_nil])
    · exact .inr (.inl ((List.prefix_append_right_inj _).mpr (h.not_append h' empty rest)))
  · by_cases empty : gap = []
    · exact .inl (by rw [empty, List.append_nil])
    · exact .inr (.inr ((List.prefix_append_right_inj _).mpr (h'.not_append h empty rest)))

theorem infix_of_prefix_append (h : before ++ marker <+: before') : marker <:+: before' := by
  obtain ⟨back, eq⟩ := h
  exact ⟨before, back, eq⟩

/-- What does not hold a character lies on one side of it. -/
theorem infix_of_not_mem {c : α} (outside : c ∉ marker) (h : marker <:+: before ++ c :: after) :
    marker <:+: before ∨ marker <:+: after := by
  obtain ⟨front, back, eq⟩ := h
  rw [List.append_assoc] at eq
  rcases List.append_eq_append_iff.mp eq with ⟨gap, rfl, rest⟩ | ⟨gap, rfl, rest⟩
  · rcases List.append_eq_append_iff.mp rest with ⟨more, rfl, -⟩ | ⟨more, rfl, rest'⟩
    · exact .inl ⟨front, more, by simp⟩
    · cases more with
      | nil => exact .inl ⟨front, [], by simp⟩
      | cons d more =>
        obtain ⟨rfl, -⟩ := List.cons.inj rest'
        exact absurd (List.mem_append_right _ List.mem_cons_self) outside
  · cases gap with
    | nil =>
      cases marker with
      | nil => exact .inl (List.nil_infix)
      | cons d tail =>
        obtain ⟨rfl, -⟩ := List.cons.inj rest
        exact absurd List.mem_cons_self outside
    | cons d gap =>
      obtain ⟨-, rfl⟩ := List.cons.inj rest
      exact .inr ⟨gap, back, by simp⟩

end Tag

section Partition

variable [DecidableEq α]

/-- The text before the first occurrence of the marker, and the text after it. -/
def partition (marker : List α) : List α → Option (List α × List α)
  | [] => if marker = [] then some ([], []) else none
  | c :: rest =>
    if marker <+: c :: rest then some ([], (c :: rest).drop marker.length)
    else (partition marker rest).map fun split => (c :: split.1, split.2)

variable {opening : α} {marker text before after : List α}

theorem eq_of_partition (h : partition marker text = some (before, after)) :
    text = before ++ (marker ++ after) ∧
      ∀ front, front ++ marker <+: text → before.length ≤ front.length := by
  induction text generalizing before with
  | nil =>
    rw [partition] at h
    split_ifs at h with empty
    cases h
    exact ⟨by rw [empty]; rfl, fun front _ => Nat.zero_le _⟩
  | cons c rest ih =>
    rw [partition] at h
    split_ifs at h with here
    · cases h
      exact ⟨List.prefix_append_drop here, fun front _ => Nat.zero_le _⟩
    · obtain ⟨⟨before, after⟩, there, eq⟩ := Option.map_eq_some_iff.mp h
      cases eq
      obtain ⟨eq, first⟩ := ih there
      refine ⟨by rw [eq, List.cons_append], fun front at_ => ?_⟩
      cases front with
      | nil => exact absurd at_ here
      | cons d front =>
        exact Nat.succ_le_succ (first front (List.cons_prefix_cons.mp at_).2)

theorem partition_eq_none : partition marker text = none ↔ ¬marker <:+: text := by
  induction text with
  | nil =>
    rw [partition, List.infix_nil]
    split_ifs with empty <;> simp [empty]
  | cons c rest ih =>
    rw [partition, List.infix_cons_iff]
    split_ifs with here
    · simp [here]
    · simp [here, ih]

/-- A marker that is not in the text before it is the first one. -/
theorem partition_append (h : Tag opening marker) (fresh : ¬marker <:+: before) :
    partition marker (before ++ (marker ++ after)) = some (before, after) := by
  cases found : partition marker (before ++ (marker ++ after)) with
  | none =>
    have inside := List.infix_append before marker after
    rw [List.append_assoc] at inside
    exact absurd inside (partition_eq_none.mp found)
  | some split =>
    obtain ⟨eq, first⟩ := eq_of_partition found
    have le := first before (by rw [← List.append_assoc]; exact List.prefix_append _ _)
    rcases h.split h eq with same | inside | inside
    · rw [same] at eq
      have rest := List.append_cancel_left (List.append_cancel_left eq)
      rw [same, rest]
    · have := inside.length_le
      rw [List.length_append] at this
      have := List.length_pos_iff.mpr h.ne_nil
      omega
    · exact absurd (infix_of_prefix_append inside) fresh

theorem not_infix_of_partition (h : Tag opening marker)
    (found : partition marker text = some (before, after)) : ¬marker <:+: before := by
  rintro ⟨front, back, eq⟩
  obtain ⟨whole, first⟩ := eq_of_partition found
  have le := first front (by rw [whole, ← eq]; simp [List.append_assoc])
  have := congrArg List.length eq
  simp only [List.length_append] at this
  have := List.length_pos_iff.mpr h.ne_nil
  omega

end Partition

/-- A start and a stop marker that cannot overlap. -/
structure Markers (α : Type u) where
  opening : α
  start : List α
  stop : List α
  start_tag : Tag opening start
  stop_tag : Tag opening stop
  start_ne : ¬start <+: stop
  stop_ne : ¬stop <+: start

section Sections

variable (markers : Markers α)

/-- A section with the given text between its markers. -/
def Markers.wrap (inner : List α) : List α := markers.start ++ (inner ++ markers.stop)

variable {markers} {inner before after text : List α}

theorem Markers.start_append_ne (markers : Markers α) (after after' : List α) :
    markers.start ++ after ≠ markers.stop ++ after' := by
  intro eq
  rcases List.append_eq_append_iff.mp eq with ⟨z, stop, -⟩ | ⟨z, start, -⟩
  · exact markers.start_ne ⟨z, stop.symm⟩
  · exact markers.stop_ne ⟨z, start.symm⟩

/-- A section that ends with the first stop marker lies on one side of every other one. -/
theorem Markers.wrap_infix_stop (fresh : ¬markers.stop <:+: inner)
    (h : markers.wrap inner <:+: before ++ (markers.stop ++ after)) :
    markers.wrap inner <:+: before ++ markers.stop ∨ markers.wrap inner <:+: after := by
  obtain ⟨front, back, eq⟩ := h
  rw [Markers.wrap, List.append_assoc, List.append_assoc, List.append_assoc] at eq
  rcases markers.start_tag.split markers.stop_tag eq with rfl | ⟨gap, rfl⟩ | ⟨gap, rfl⟩
  · exact absurd (List.append_cancel_left eq) (markers.start_append_ne _ _)
  · rw [List.append_assoc, List.append_assoc] at eq
    have rest := List.append_cancel_left (List.append_cancel_left eq)
    refine .inl ?_
    rcases markers.stop_tag.split markers.stop_tag rest with rfl | ⟨more, rfl⟩ | inside
    · exact ⟨front, [], by simp [Markers.wrap]⟩
    · exact ⟨front, more ++ markers.stop, by simp [Markers.wrap]⟩
    · exact absurd (infix_of_prefix_append inside) fresh
  · rw [List.append_assoc, List.append_assoc] at eq
    have rest := List.append_cancel_left (List.append_cancel_left eq)
    exact .inr ⟨gap, back, by rw [← rest, Markers.wrap]; simp⟩

/-- A section is not begun before the first start marker. -/
theorem Markers.wrap_infix_start (fresh : ¬markers.start <:+: before)
    (h : markers.wrap inner <:+: before ++ (markers.start ++ after)) :
    markers.wrap inner <:+: markers.start ++ after := by
  obtain ⟨front, back, eq⟩ := h
  rw [Markers.wrap, List.append_assoc, List.append_assoc, List.append_assoc] at eq
  rcases markers.start_tag.split markers.start_tag eq with rfl | inside | ⟨gap, rfl⟩
  · exact ⟨[], back, by rw [← List.append_cancel_left eq, Markers.wrap]; simp⟩
  · exact absurd (infix_of_prefix_append inside) fresh
  · rw [List.append_assoc, List.append_assoc] at eq
    have rest := List.append_cancel_left (List.append_cancel_left eq)
    exact ⟨markers.start ++ gap, back, by rw [← rest, Markers.wrap]; simp⟩

/-- The text with something in the place of each section. -/
def join (put : List α → List α) (parts : List (List α × List α) × List α) : List α :=
  parts.1.flatMap (fun part => part.1 ++ put part.2) ++ parts.2

theorem join_cons (put : List α → List α) (before inner : List α)
    (parts : List (List α × List α) × List α) :
    join put ((before, inner) :: parts.1, parts.2) = before ++ (put inner ++ join put parts) := by
  simp [join]

variable [DecidableEq α]

/-- The leftmost shortest section: the text before it, what it holds, and the text after it. -/
def Markers.next (markers : Markers α) (text : List α) : Option (List α × List α × List α) := do
  let (before, rest) ← partition markers.start text
  let (inner, after) ← partition markers.stop rest
  some (before, inner, after)

theorem Markers.next_eq_some (h : markers.next text = some (before, inner, after)) :
    text = before ++ (markers.wrap inner ++ after) ∧ ¬markers.start <:+: before := by
  rw [Markers.next] at h
  obtain ⟨⟨before', rest⟩, found, h⟩ := Option.bind_eq_some_iff.mp h
  obtain ⟨⟨inner', after'⟩, found', h⟩ := Option.bind_eq_some_iff.mp h
  cases h
  refine ⟨?_, not_infix_of_partition markers.start_tag found⟩
  rw [(eq_of_partition found).1, (eq_of_partition found').1, Markers.wrap]
  simp

theorem Markers.next_append (freshBefore : ¬markers.start <:+: before)
    (freshInner : ¬markers.stop <:+: inner) :
    markers.next (before ++ (markers.wrap inner ++ after)) = some (before, inner, after) := by
  have eq : before ++ (markers.wrap inner ++ after) =
      before ++ (markers.start ++ (inner ++ (markers.stop ++ after))) := by simp [Markers.wrap]
  rw [eq, Markers.next, partition_append markers.start_tag freshBefore]
  simp only [Option.bind_eq_bind, Option.bind_some, partition_append markers.stop_tag freshInner]

theorem Markers.next_eq_none_iff {rest : List α}
    (first : partition markers.start text = some (before, rest)) :
    markers.next text = none ↔ ¬markers.stop <:+: rest := by
  rw [Markers.next, first]
  simp only [Option.bind_eq_bind, Option.bind_some]
  rw [← partition_eq_none]
  cases second : partition markers.stop rest with
  | none => exact iff_of_true rfl rfl
  | some split => exact iff_of_false (Option.some_ne_none _) (Option.some_ne_none _)

/-- Wherever a section stands, one is found. -/
theorem Markers.next_ne_none (h : markers.wrap inner <:+: text) : markers.next text ≠ none := by
  obtain ⟨front, back, rfl⟩ := h
  cases first : partition markers.start (front ++ markers.wrap inner ++ back) with
  | none =>
    refine absurd ?_ (partition_eq_none.mp first)
    exact ⟨front, inner ++ markers.stop ++ back, by simp [Markers.wrap]⟩
  | some split =>
    obtain ⟨before, rest⟩ := split
    have eq := (eq_of_partition first).1
    have stop : markers.stop <:+: rest := by
      have le := (eq_of_partition first).2 front
        ⟨inner ++ markers.stop ++ back, by simp [Markers.wrap]⟩
      have eq' : (before ++ markers.start) ++ rest =
          (front ++ markers.start) ++ (inner ++ markers.stop ++ back) := by
        rw [List.append_assoc, ← eq, Markers.wrap]
        simp
      obtain ⟨gap, whole⟩ := List.prefix_of_prefix_length_le ⟨rest, eq'⟩ (List.prefix_append _ _)
        (by simpa using le)
      rw [← whole, List.append_assoc (before ++ markers.start) gap] at eq'
      rw [List.append_cancel_left eq']
      exact ⟨gap ++ inner, back, by simp⟩
    exact fun none => (Markers.next_eq_none_iff first).mp none stop

theorem Markers.length_after (h : markers.next text = some (before, inner, after)) :
    after.length < text.length := by
  have start := List.length_pos_iff.mpr markers.start_tag.ne_nil
  rw [(Markers.next_eq_some h).1, Markers.wrap]
  simp only [List.length_append]
  omega

/-- The sections of a text, each with the text before it, and the text after the last. -/
def Markers.split (markers : Markers α) (text : List α) : List (List α × List α) × List α :=
  match _found : markers.next text with
  | none => ([], text)
  | some (before, inner, after) =>
    let rest := markers.split after
    ((before, inner) :: rest.1, rest.2)
termination_by text.length
decreasing_by exact Markers.length_after _found

/-- What a split consists of. -/
structure IsSplit (markers : Markers α) (parts : List (List α × List α) × List α) : Prop where
  before : ∀ part ∈ parts.1, ¬markers.start <:+: part.1
  rest : markers.next parts.2 = none

theorem Markers.split_none (none : markers.next text = none) : markers.split text = ([], text) := by
  rw [Markers.split]
  split
  · rfl
  · next found => rw [none] at found; cases found

theorem Markers.split_some (found : markers.next text = some (before, inner, after)) :
    markers.split text =
      ((before, inner) :: (markers.split after).1, (markers.split after).2) := by
  rw [Markers.split]
  split
  · next none => rw [found] at none; cases none
  · next found' => rw [found] at found'; cases found'; rfl

theorem Markers.isSplit (markers : Markers α) (text : List α) :
    IsSplit markers (markers.split text) := by
  fun_induction markers.split text with
  | case1 text none => exact ⟨fun _ mem => absurd mem List.not_mem_nil, none⟩
  | case2 text before inner after found rest ih =>
    refine ⟨fun part mem => ?_, ih.rest⟩
    rcases List.mem_cons.mp mem with rfl | mem
    · exact (Markers.next_eq_some found).2
    · exact ih.before part mem

theorem Markers.join_split (markers : Markers α) (text : List α) :
    join markers.wrap (markers.split text) = text := by
  fun_induction markers.split text with
  | case1 text none => rfl
  | case2 text before inner after found rest ih =>
    rw [join_cons, ih]
    exact (Markers.next_eq_some found).1.symm

/-- Sections that are put in the place of others are found where they were put. -/
theorem Markers.split_join {parts : List (List α × List α) × List α} (h : IsSplit markers parts)
    (fresh : ¬markers.stop <:+: inner) : markers.split (join (fun _ => markers.wrap inner) parts) =
      (parts.1.map fun part => (part.1, inner), parts.2) := by
  obtain ⟨found, rest⟩ := parts
  induction found with
  | nil => exact Markers.split_none h.rest
  | cons part found ih =>
    have tail : IsSplit markers (found, rest) :=
      ⟨fun part mem => h.before part (List.mem_cons_of_mem _ mem), h.rest⟩
    rw [show join _ (part :: found, rest) = _ from join_cons _ part.1 part.2 (found, rest),
      Markers.split_some (Markers.next_append (h.before part List.mem_cons_self) fresh), ih tail]
    rfl

/-- Where the text that is put is a shorter section, the longer one is nowhere. -/
theorem Markers.not_infix_join {parts : List (List α × List α) × List α} {put : List α → List α}
    (h : IsSplit markers parts) (fresh : ¬markers.stop <:+: inner)
    (shape : ∀ part ∈ parts.1,
      ∃ other, put part.2 = markers.wrap other ∧ other.length < inner.length) :
    ¬markers.wrap inner <:+: join put parts := by
  obtain ⟨found, rest⟩ := parts
  induction found with
  | nil => exact fun inside => Markers.next_ne_none inside h.rest
  | cons part found ih =>
    have tail : IsSplit markers (found, rest) :=
      ⟨fun part mem => h.before part (List.mem_cons_of_mem _ mem), h.rest⟩
    obtain ⟨other, eq, shorter⟩ := shape part List.mem_cons_self
    rw [show join _ (part :: found, rest) = _ from join_cons _ part.1 part.2 (found, rest), eq,
      show part.1 ++ (markers.wrap other ++ join put (found, rest)) =
        (part.1 ++ (markers.start ++ other)) ++ (markers.stop ++ join put (found, rest)) by
        simp [Markers.wrap]]
    intro inside
    rcases Markers.wrap_infix_stop fresh inside with here | later
    · rw [List.append_assoc] at here
      have within := Markers.wrap_infix_start (h.before part List.mem_cons_self)
        (by simpa [List.append_assoc] using here)
      have := within.length_le
      simp only [Markers.wrap, List.length_append] at this
      omega
    · exact ih tail (fun part mem => shape part (List.mem_cons_of_mem _ mem)) later

/-- Where each section grows, so does the text. -/
theorem Markers.length_join_lt {put : List α → List α}
    (grows : ∀ inner, (markers.wrap inner).length < (put inner).length)
    (some_ : markers.next text ≠ none) : text.length < (join put (markers.split text)).length := by
  have le (text : List α) : text.length ≤ (join put (markers.split text)).length := by
    fun_induction markers.split text with
    | case1 text none => exact le_refl _
    | case2 text before inner after found rest ih =>
      have ih : after.length ≤ (join put rest).length := ih
      rw [join_cons, (Markers.next_eq_some found).1]
      have := grows inner
      simp only [List.length_append]
      omega
  cases found : markers.next text with
  | none => exact absurd found some_
  | some parts =>
    obtain ⟨before, inner, after⟩ := parts
    have := grows inner
    have := le after
    rw [Markers.split_some found, join_cons]
    rw [(Markers.next_eq_some found).1]
    simp only [List.length_append]
    omega

end Sections

end OptimizrActions.Marker
