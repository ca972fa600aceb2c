import Mathlib.Data.List.TakeWhile
import OptimizrActions.CapabilityCatalog.WorkflowCall
import OptimizrActions.Lib.Lines

/-! The search for the `workflow_call:` line, over the text and over its lines. -/

namespace OptimizrActions.CapabilityCatalog

open KeyValue (splitOn splitOn_append splitOn_of_not_mem intercalate_cons intercalate_splitOn
  not_mem_of_mem_splitOn)

section Pattern

variable {text rest line : List Char}

theorem endsLine_iff : endsLine text = true ↔ (∀ c ∈ text, Text.isSpace c = true) ∨
    ∃ before after, text = before ++ '\n' :: after ∧ ∀ c ∈ before, Text.isSpace c = true := by
  simp only [endsLine, Bool.or_eq_true, decide_eq_true_eq, List.dropWhile_eq_nil_iff]
  refine or_congr Iff.rfl ⟨fun mem => ?_, ?_⟩
  · obtain ⟨before, after, split⟩ := List.append_of_mem mem
    refine ⟨before, after ++ text.dropWhile Text.isSpace, ?_, fun c inside => ?_⟩
    · rw [← List.cons_append, ← List.append_assoc, ← split, List.takeWhile_append_dropWhile]
    · exact List.mem_takeWhile_imp (split ▸ List.mem_append_left _ inside)
  · rintro ⟨before, after, rfl, spaces⟩
    rw [List.takeWhile_append_of_pos spaces, List.takeWhile_cons_of_pos (by decide)]
    exact List.mem_append_right _ List.mem_cons_self

theorem endsLine_append (ends : endsLine text = true) : endsLine (text ++ '\n' :: rest) = true := by
  rw [endsLine_iff] at ends ⊢
  rcases ends with spaces | ⟨before, after, rfl, spaces⟩
  · exact .inr ⟨text, rest, rfl, spaces⟩
  · exact .inr ⟨before, after ++ '\n' :: rest, by rw [List.append_assoc]; rfl, spaces⟩

theorem colonEnds_append (ends : colonEnds text = true) : colonEnds (text ++ '\n' :: rest) = true := by
  unfold colonEnds at ends ⊢
  split at ends
  · rename_i after found
    have shown : (text.dropWhile Text.isSpace).isEmpty = false := by rw [found]; rfl
    rw [List.dropWhile_append, shown, if_neg Bool.false_ne_true, found]
    exact endsLine_append ends
  · cases ends

/-- The text after the indentation and the key. -/
theorem matchesCall_iff : matchesCall text = true ↔
    ∃ indent after, text = indent ++ (callKey ++ after) ∧ 2 ≤ indent.length ∧
      (∀ c ∈ indent, Text.isSpace c = true) ∧ colonEnds after = true := by
  rw [matchesCall, Bool.and_eq_true, decide_eq_true_iff]
  constructor
  · rintro ⟨indented, key⟩
    split at key
    · rename_i after stripped
      obtain ⟨word, split, same⟩ := List.dropPrefix?_eq_some_iff.mp stripped
      cases eq_of_beq same
      refine ⟨text.takeWhile Text.isSpace, after, ?_, indented, fun c => List.mem_takeWhile_imp, key⟩
      rw [← split, List.takeWhile_append_dropWhile]
    · cases key
  · rintro ⟨indent, after, rfl, long, spaces, ends⟩
    have word : callKey ++ after = 'w' :: ("orkflow_call".toList ++ after) := rfl
    have taken : (indent ++ (callKey ++ after)).takeWhile Text.isSpace = indent := by
      rw [List.takeWhile_append_of_pos spaces, word, List.takeWhile_cons_of_neg (by decide),
        List.append_nil]
    have dropped : (indent ++ (callKey ++ after)).dropWhile Text.isSpace = callKey ++ after := by
      rw [List.dropWhile_append_of_pos spaces, word, List.dropWhile_cons_of_neg (by decide)]
    have stripped : (callKey ++ after).dropPrefix? callKey = some after :=
      List.dropPrefix?_eq_some_iff.mpr ⟨callKey, rfl, beq_self_eq_true _⟩
    rw [taken, dropped, stripped]
    exact ⟨long, ends⟩

/-- A match in a line of its own is a match in the text. -/
theorem matchesCall_append (found : matchesCall text = true) :
    matchesCall (text ++ '\n' :: rest) = true := by
  obtain ⟨indent, after, rfl, long, spaces, ends⟩ := matchesCall_iff.mp found
  refine matchesCall_iff.mpr ⟨indent, after ++ '\n' :: rest, ?_, long, spaces, colonEnds_append ends⟩
  rw [List.append_assoc, List.append_assoc]

@[simp] theorem matchesCall_nil : matchesCall [] = false := rfl

end Pattern

section Search

theorem searchCall_add (offset : Nat) (start : Bool) (text : List Char) :
    searchCall offset start text = (searchCall 0 start text).map (offset + ·) := by
  induction text generalizing offset start with
  | nil => rfl
  | cons c rest ih =>
    rw [searchCall, searchCall]
    split
    · rfl
    · rw [ih (offset + 1), ih (0 + 1), Option.map_map]
      congr 1
      funext n
      exact Nat.add_assoc offset 1 n

/-- Inside a line there is no match. -/
theorem searchCall_line {line : List Char} (plain : '\n' ∉ line) (offset : Nat)
    (rest : List Char) : searchCall offset false (line ++ '\n' :: rest) =
      searchCall (offset + line.length + 1) true rest := by
  induction line generalizing offset with
  | nil => simp [searchCall]
  | cons c line ih =>
    rw [List.mem_cons, not_or] at plain
    rw [List.cons_append, searchCall, Bool.false_and, if_neg Bool.false_ne_true,
      decide_eq_false (Ne.symm plain.1), ih plain.2, List.length_cons]
    congr 1
    omega

theorem searchCall_lastLine {line : List Char} (plain : '\n' ∉ line) (offset : Nat) :
    searchCall offset false line = none := by
  induction line generalizing offset with
  | nil => rfl
  | cons c line ih =>
    rw [List.mem_cons, not_or] at plain
    rw [searchCall, Bool.false_and, if_neg Bool.false_ne_true, decide_eq_false (Ne.symm plain.1),
      ih plain.2]

/-- Where no match starts at this line, the search goes on at the next one. -/
theorem searchCall_start {line rest : List Char} (plain : '\n' ∉ line)
    (no : matchesCall (line ++ '\n' :: rest) = false) :
    searchCall 0 true (line ++ '\n' :: rest) = (searchCall 0 true rest).map (line.length + 1 + ·) := by
  rw [← searchCall_add]
  cases line with
  | nil =>
    rw [List.nil_append] at no ⊢
    rw [searchCall, no]
    rfl
  | cons c line =>
    rw [List.cons_append] at no ⊢
    rw [List.mem_cons, not_or] at plain
    rw [searchCall, no, Bool.and_false, if_neg Bool.false_ne_true,
      decide_eq_false (Ne.symm plain.1), searchCall_line plain.2, List.length_cons]
    congr 1
    omega

theorem lineIndex_next {line rest : List Char} (plain : '\n' ∉ line) (n : Nat) :
    lineIndex (line ++ '\n' :: rest) (line.length + 1 + n) = lineIndex rest n + 1 := by
  rw [lineIndex, Nat.add_assoc, List.take_length_add_append, Nat.add_comm 1 n, List.take_succ_cons,
    List.count_append, List.count_eq_zero_of_not_mem plain, List.count_cons_self, Nat.zero_add]
  rfl

/-- The first line from which on the joined lines match. -/
def firstMatch : List Line → Option Nat
  | [] => none
  | line :: rest =>
    if matchesCall (['\n'].intercalate (line :: rest)) then some 0
    else (firstMatch rest).map (· + 1)

/-- The line that the search finds. -/
theorem lineIndex_searchCall {parts : List Line} (plain : ∀ part ∈ parts, '\n' ∉ part) :
    (searchCall 0 true (['\n'].intercalate parts)).map (lineIndex (['\n'].intercalate parts)) =
      firstMatch parts := by
  have here {text : List Char} (found : matchesCall text = true) :
      searchCall 0 true text = some 0 := by
    cases text with
    | nil => cases found
    | cons c rest => rw [searchCall, found]; rfl
  induction parts with
  | nil => rfl
  | cons line rest ih =>
    rw [List.forall_mem_cons] at plain
    rw [firstMatch]
    split
    · rename_i found
      rw [here found]
      rfl
    · rename_i no
      rw [Bool.not_eq_true] at no
      cases rest with
      | nil =>
        rw [List.intercalate_singleton] at no ⊢
        cases line with
        | nil => rfl
        | cons c line =>
          have last := plain.1
          rw [List.mem_cons, not_or] at last
          rw [searchCall, no, Bool.and_false, if_neg Bool.false_ne_true,
            decide_eq_false (Ne.symm last.1), searchCall_lastLine last.2]
          rfl
      | cons next rest =>
        rw [intercalate_cons (List.cons_ne_nil _ _)] at no ⊢
        rw [searchCall_start plain.1 no, Option.map_map, ← ih plain.2, Option.map_map]
        congr 1
        funext n
        exact lineIndex_next plain.1 n

end Search

section Lines

/-- The text has no line ends but `\n`, and wherever the pattern matches, a whole line of its form has
come by then. -/
structure Regular (content : List Char) : Prop where
  breaks : ∀ c ∈ content, Text.isLineBreak c = true → c = '\n'
  call : ∀ i < (splitOn '\n' content).length,
    matchesCall (['\n'].intercalate ((splitOn '\n' content).drop i)) = true →
      ∃ line ∈ (splitOn '\n' content).take (i + 1), matchesCall line = true

theorem firstMatch_eq {parts : List Line}
    (call : ∀ i < parts.length, matchesCall (['\n'].intercalate (parts.drop i)) = true →
      ∃ line ∈ parts.take (i + 1), matchesCall line = true) :
    firstMatch parts = parts.findIdx? matchesCall := by
  induction parts with
  | nil => rfl
  | cons line rest ih =>
    rw [firstMatch, List.findIdx?_cons]
    split
    · rename_i found
      obtain ⟨first, mem, matches_⟩ := call 0 (Nat.zero_lt_succ _) found
      cases List.mem_singleton.mp mem
      rw [if_pos matches_]
    · rename_i no
      have alone : matchesCall line = false := by
        cases found : matchesCall line with
        | false => rfl
        | true =>
          cases rest with
          | nil => exact absurd (List.intercalate_singleton ▸ found) no
          | cons next rest =>
            rw [intercalate_cons (List.cons_ne_nil _ _)] at no
            exact absurd (matchesCall_append found) no
      rw [alone, if_neg Bool.false_ne_true, ih]
      intro i inside found
      obtain ⟨later, mem, matches_⟩ := call (i + 1) (Nat.succ_lt_succ inside) found
      rw [List.take_succ_cons] at mem
      refine ⟨later, (List.mem_cons.mp mem).resolve_left ?_, matches_⟩
      rintro rfl
      rw [matches_] at alone
      cases alone

/-- The lines as they are split for the search are those of `splitlines`, but for an empty last one. -/
theorem splitOn_eq_splitLinesFrom {line text : List Char}
    (start : '\n' ∉ line) (breaks : ∀ c ∈ text, Text.isLineBreak c = true → c = '\n') :
    ∃ last, (∀ part ∈ last, part = []) ∧
      splitOn '\n' (line.reverse ++ text) = Text.splitLinesFrom line text ++ last := by
  fun_induction Text.splitLinesFrom line text with
  | case1 => exact ⟨[[]], by simp, rfl⟩
  | case2 line ne =>
    refine ⟨[], by simp, ?_⟩
    rw [List.append_nil, splitOn_of_not_mem fun mem => start (List.mem_reverse.mp mem)]
    rfl
  | case3 line text ih => exact absurd (breaks '\r' List.mem_cons_self (by decide)) (by decide)
  | case4 line c text ne break_ ih =>
    cases breaks c List.mem_cons_self break_
    obtain ⟨last, empty, split⟩ := ih List.not_mem_nil fun c mem => breaks c (List.mem_cons_of_mem _ mem)
    refine ⟨last, empty, ?_⟩
    rw [splitOn_append fun mem => start (List.mem_reverse.mp mem), List.cons_append, ← split]
    rfl
  | case5 line c text ne break_ ih =>
    have plain : '\n' ∉ c :: line := by
      rw [List.mem_cons, not_or]
      refine ⟨?_, start⟩
      rintro rfl
      exact break_ (by decide)
    obtain ⟨last, empty, split⟩ := ih plain fun c mem => breaks c (List.mem_cons_of_mem _ mem)
    refine ⟨last, empty, ?_⟩
    rw [← split, List.reverse_cons, List.append_assoc]
    rfl

/-- The search finds the first line of the form `workflow_call:`. -/
theorem Regular.searchCall {content : List Char} (regular : Regular content) :
    (searchCall 0 true content).map (lineIndex content) = (linesOf content).findIdx? matchesCall := by
  obtain ⟨last, empty, split⟩ := splitOn_eq_splitLinesFrom List.not_mem_nil regular.breaks
  rw [List.reverse_nil, List.nil_append] at split
  have found := @lineIndex_searchCall (splitOn '\n' content) fun part mem => not_mem_of_mem_splitOn mem
  rw [intercalate_splitOn, firstMatch_eq regular.call, split, List.findIdx?_append] at found
  have blank : last.findIdx? matchesCall = none := by
    refine List.findIdx?_eq_none_iff.mpr fun part mem => ?_
    rw [empty part mem]
    rfl
  rw [found, blank, Option.map_none, Option.or_none]
  rfl

end Lines

end OptimizrActions.CapabilityCatalog
