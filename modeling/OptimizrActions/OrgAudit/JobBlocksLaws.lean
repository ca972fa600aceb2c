import Mathlib.Data.List.TakeWhile
import OptimizrActions.OrgAudit.JobBlocks

/-! When the blocks of the jobs have no line that is not of their job. -/

namespace OptimizrActions.OrgAudit

section Specification

variable (lines : List Line) (index : Nat)

/-- Not blank, and no comment. -/
def isContent (line : Line) : Bool :=
  Text.stripChars line ≠ [] && (line.dropWhile Text.isSpace).head? ≠ some '#'

def indentation (line : Line) : Nat := (line.takeWhile (· = ' ')).length

/-- The lines below `jobs:`, up to the next top-level line. -/
def jobsSection : List Line := (lines.drop (index + 1)).takeWhile fun line => !isTopLevel line

def sectionEnd : Nat := index + 1 + (jobsSection lines index).length

/-- The first content line below `jobs:` gives the indentation of the jobs. -/
def jobIndentation : Option Nat := ((jobsSection lines index).find? isContent).map indentation

/-- A line of the section that has the indentation of the jobs starts one. -/
def IsJobLine (i : Nat) : Prop :=
  index < i ∧ i < sectionEnd lines index ∧ ∃ line, lines[i]? = some line ∧
    isContent line = true ∧ some (indentation line) = jobIndentation lines index

/-- The span starts with a job, and has no line of another one or from below the section. -/
structure OneJob (span : Span Line) : Prop where
  starts : IsJobLine lines index span.start
  only : ∀ i, span.start < i → i < span.stop →
    i < sectionEnd lines index ∧ ¬IsJobLine lines index i

/-- A line of the section of the form that the scan looks for. -/
def IsKeyLine (i : Nat) : Prop :=
  index < i ∧ i < sectionEnd lines index ∧ ∃ line, lines[i]? = some line ∧ (jobName? line).isSome

/-- Where the scan finds a job at all, the jobs are indented by two, nothing follows their section,
and every later job has a line of that form. -/
def Plain : Prop :=
  ∀ k, IsKeyLine lines index k → jobIndentation lines index = some 2 ∧
    sectionEnd lines index = lines.length ∧
    ∀ i, k ≤ i → IsJobLine lines index i → IsKeyLine lines index i

end Specification

section Lines

variable {line name : Line}

theorem jobName?_eq_some (found : jobName? line = some name) :
    ∃ c rest, line = ' ' :: ' ' :: c :: rest ∧ isJobChar c = true := by
  unfold jobName? at found
  split at found
  · rename_i rest
    split at found
    · dsimp only at found
      split_ifs at found with well
      cases rest with
      | nil => exact absurd rfl well.1
      | cons c rest =>
        refine ⟨c, rest, rfl, ?_⟩
        by_contra other
        exact well.1 (List.takeWhile_cons_of_neg other)
    · cases found
  · cases found

theorem isJobChar_spec {c : Char} (h : isJobChar c = true) :
    c ≠ ' ' ∧ c ≠ '#' ∧ Text.isSpace c = false := by
  have range : (65 ≤ c.toNat ∧ c.toNat ≤ 90) ∨ (97 ≤ c.toNat ∧ c.toNat ≤ 122) ∨
      (48 ≤ c.toNat ∧ c.toNat ≤ 57) ∨ c.toNat = 95 ∨ c.toNat = 45 := by
    simp only [isJobChar, Bool.or_eq_true, Bool.and_eq_true, decide_eq_true_eq, or_assoc] at h
    exact h.imp_right (Or.imp_right (Or.imp_right
      (Or.imp (congrArg Char.toNat) (congrArg Char.toNat))))
  refine ⟨?_, ?_, ?_⟩
  · rintro rfl
    revert range
    decide
  · rintro rfl
    revert range
    decide
  · by_contra space
    rw [Bool.not_eq_false] at space
    simp only [Text.isSpace, Bool.or_eq_true, Bool.and_eq_true, decide_eq_true_eq, List.mem_cons,
      List.not_mem_nil, or_false] at space
    omega

theorem indentation_of_jobName? (found : jobName? line = some name) : indentation line = 2 := by
  obtain ⟨c, rest, rfl, plain⟩ := jobName?_eq_some found
  simp [indentation, (isJobChar_spec plain).1]

theorem isContent_of_jobName? (found : jobName? line = some name) : isContent line = true := by
  obtain ⟨c, rest, rfl, plain⟩ := jobName?_eq_some found
  obtain ⟨-, comment, space⟩ := isJobChar_spec plain
  have blank : Text.isSpace ' ' = true := by decide
  have front : (' ' :: ' ' :: c :: rest).dropWhile Text.isSpace = c :: rest := by
    simp [blank, space]
  have some_ : Text.stripChars (' ' :: ' ' :: c :: rest) ≠ [] := by
    rw [Text.stripChars, front]
    intro empty
    have all := List.dropWhile_eq_nil_iff.mp (List.reverse_eq_nil_iff.mp empty) c (by simp)
    rw [space] at all
    cases all
  simp [isContent, some_, front, comment]

end Lines

section Starts

variable {lines : List Line}

theorem mem_jobStarts {base i : Nat} {name : Line} :
    (i, name) ∈ jobStarts base lines ↔ base ≤ i ∧
      i < base + (lines.takeWhile fun line => !isTopLevel line).length ∧
      ∃ line, lines[i - base]? = some line ∧ jobName? line = some name := by
  induction lines generalizing base with
  | nil => simp [jobStarts]
  | cons line rest ih =>
    rw [jobStarts]
    by_cases top : isTopLevel line = true
    · rw [if_pos top, List.takeWhile_cons_of_neg (by simp [top])]
      simp
      omega
    · have later : (i, name) ∈ jobStarts (base + 1) rest ↔ base < i ∧
          i < base + (rest.takeWhile fun line => !isTopLevel line).length + 1 ∧
          ∃ other, (line :: rest)[i - base]? = some other ∧ jobName? other = some name := by
        rw [ih, Nat.succ_le_iff, Nat.add_right_comm]
        refine and_congr_right fun after => ?_
        have index : i - base = i - (base + 1) + 1 := by omega
        rw [index, List.getElem?_cons_succ]
      rw [if_neg top, List.takeWhile_cons_of_pos (by simp [top]), List.length_cons]
      by_cases here : i = base
      · subst here
        have tail : (i, name) ∉ jobStarts (i + 1) rest := fun mem => (later.mp mem).1.false
        cases found : jobName? line with
        | none => simp [tail, found]
        | some first => simp [tail, found, eq_comm]
      · refine Iff.trans ?_ (later.trans ?_)
        · cases jobName? line with
          | none => exact Iff.rfl
          | some first => simp [here]
        · rw [← Nat.add_assoc]
          exact and_congr_left' (Nat.lt_iff_le_and_ne.trans (and_iff_left (Ne.symm here)))

theorem le_of_mem_jobStarts {base : Nat} {entry : Nat × Line} (mem : entry ∈ jobStarts base lines) :
    base ≤ entry.1 := (mem_jobStarts.mp mem).1

theorem jobStarts_sorted (base : Nat) : (jobStarts base lines).Pairwise fun a b => a.1 < b.1 := by
  induction lines generalizing base with
  | nil => exact .nil
  | cons line rest ih =>
    unfold jobStarts
    split_ifs
    · exact .nil
    · split
      · exact .cons (fun entry mem => le_of_mem_jobStarts mem) (ih (base + 1))
      · exact ih (base + 1)

end Starts

section Blocks

variable {lines : List Line} {index : Nat}

/-- The marks that the spans are cut at are the key lines. -/
theorem isKeyLine_iff {i : Nat} :
    IsKeyLine lines index i ↔
      ∃ name, (i, name) ∈ jobStarts (index + 1) (lines.drop (index + 1)) := by
  simp only [mem_jobStarts, IsKeyLine, sectionEnd, jobsSection, Nat.succ_le_iff, exists_and_left,
    List.getElem?_drop]
  refine and_congr_right fun after => and_congr_right fun _ => ?_
  have back : index + 1 + (i - (index + 1)) = i := Nat.add_sub_cancel' after
  simp only [back, Option.isSome_iff_exists]
  exact ⟨fun ⟨line, at_, name, found⟩ => ⟨name, line, at_, found⟩,
    fun ⟨name, line, at_, found⟩ => ⟨line, at_, name, found⟩⟩

theorem sectionEnd_le (inside : index < lines.length) : sectionEnd lines index ≤ lines.length := by
  have part := (List.takeWhile_prefix (fun line => !isTopLevel line)
    (l := lines.drop (index + 1))).length_le
  rw [List.length_drop] at part
  unfold sectionEnd jobsSection
  omega

/-- A key line starts a job if and only if the jobs are indented by two. -/
theorem IsKeyLine.isJobLine_iff {i : Nat} (key : IsKeyLine lines index i) :
    IsJobLine lines index i ↔ jobIndentation lines index = some 2 := by
  obtain ⟨after, before, line, at_, found⟩ := key
  obtain ⟨name, found⟩ := Option.isSome_iff_exists.mp found
  have two := indentation_of_jobName? found
  constructor
  · rintro ⟨-, -, other, same, -, indented⟩
    cases at_.symm.trans same
    rw [← indented, two]
  · intro indented
    exact ⟨after, before, line, at_, isContent_of_jobName? found, by rw [two, indented]⟩

theorem oneJob_of_plain (inside : index < lines.length) (plain : Plain lines index)
    {span : Span Line}
    (mem : span ∈ spans lines.length (jobStarts (index + 1) (lines.drop (index + 1)))) :
    OneJob lines index span := by
  have mark := mark_of_mem_spans mem
  have key : IsKeyLine lines index span.start := isKeyLine_iff.mpr ⟨_, mark⟩
  obtain ⟨two, whole, later⟩ := plain span.start key
  have below : ∀ entry ∈ jobStarts (index + 1) (lines.drop (index + 1)), entry.1 ≤ lines.length :=
    fun entry listed =>
      ((isKeyLine_iff.mpr ⟨_, listed⟩).2.1.trans_le (sectionEnd_le inside)).le
  refine ⟨key.isJobLine_iff.mpr two, fun i after before => ⟨?_, fun job => ?_⟩⟩
  · rw [whole]
    exact before.trans_le (stop_le_last below mem)
  · obtain ⟨name, listed⟩ := isKeyLine_iff.mp (later i after.le job)
    exact before.not_ge (not_mark_inside (jobStarts_sorted _) mem listed after)

theorem plain_of_oneJob (inside : index < lines.length)
    (clean : ∀ span ∈ spans lines.length (jobStarts (index + 1) (lines.drop (index + 1))),
      OneJob lines index span) : Plain lines index := by
  intro k key
  obtain ⟨name, listed⟩ := isKeyLine_iff.mp key
  have marked : jobStarts (index + 1) (lines.drop (index + 1)) ≠ [] := List.ne_nil_of_mem listed
  refine ⟨?_, ?_, fun i from_ job => ?_⟩
  · obtain ⟨span, mem, same⟩ := exists_span_of_mark listed
    have starts := (clean span mem).starts
    rw [same] at starts
    exact key.isJobLine_iff.mp starts
  · obtain ⟨span, mem, last⟩ := exists_span_to_last marked
    refine Nat.le_antisymm (sectionEnd_le inside) (Nat.le_of_not_lt fun more => ?_)
    have inner := (clean span mem).only (sectionEnd lines index) (clean span mem).starts.2.1
      (last ▸ more)
    exact inner.1.false
  · obtain ⟨first, at_⟩ := Option.isSome_iff_exists.mp (List.isSome_head?.mpr marked)
    have early := (le_of_head? (jobStarts_sorted _) at_ listed).trans from_
    obtain ⟨span, mem, start, stop⟩ :=
      exists_span_of_le at_ early (job.2.1.trans_le (sectionEnd_le inside))
    obtain same | after := Nat.eq_or_lt_of_le start
    · exact isKeyLine_iff.mpr ⟨_, same ▸ mark_of_mem_spans mem⟩
    · exact absurd job ((clean span mem).only i after stop).2

/-- No block has a line of another job, or of a later section, if and only if the text is plain. -/
theorem jobBlocks_oneJob_iff (content : String) :
    (∀ index, jobsIndex content = some index → ∀ span ∈ jobSpans content,
      OneJob (linesOf content) index span) ↔
    ∀ index, jobsIndex content = some index → Plain (linesOf content) index := by
  refine forall_congr' fun index => forall_congr' fun found => ?_
  have inside : index < (linesOf content).length := (List.findIdx?_eq_some_iff_findIdx_eq.mp found).1
  simp only [jobSpans, found]
  exact ⟨plain_of_oneJob inside, fun plain span mem => oneJob_of_plain inside plain mem⟩

def trailingSection : String := "jobs:\n  build:\n    runs-on: x\nenv:\n  A: b\n"

theorem not_oneJob_trailing : ¬∀ index, jobsIndex trailingSection = some index →
    ∀ span ∈ jobSpans trailingSection, OneJob (linesOf trailingSection) index span := by
  intro clean
  have build := clean 0 (by decide) ⟨"build".toList, 1, 5⟩ (by decide)
  have below := (build.only 3 (by decide) (by decide)).1
  revert below
  decide

end Blocks

end OptimizrActions.OrgAudit
