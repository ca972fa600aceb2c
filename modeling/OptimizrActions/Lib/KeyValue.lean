import Mathlib.Data.List.Basic

/-! Files of `key=value` lines: what is written line by line is read back. -/

namespace OptimizrActions.KeyValue

/-- Split at the first separator; the separator itself is dropped. -/
def cut (sep : Char) (cs : List Char) : List Char × List Char :=
  (cs.takeWhile (· ≠ sep), (cs.dropWhile (· ≠ sep)).tail)

def splitOn (sep : Char) : List Char → List (List Char)
  | [] => [[]]
  | c :: cs =>
    if c = sep then [] :: splitOn sep cs
    else match splitOn sep cs with
      | [] => [[c]]
      | line :: lines => (c :: line) :: lines

theorem cut_append {sep : Char} {xs : List Char} (h : sep ∉ xs) (ys : List Char) :
    cut sep (xs ++ sep :: ys) = (xs, ys) := by
  induction xs with
  | nil => simp [cut]
  | cons x xs ih =>
    have ne : x ≠ sep := fun eq => h (eq ▸ List.mem_cons_self)
    have rest := ih fun mem => h (List.mem_cons_of_mem _ mem)
    simp only [cut, Prod.mk.injEq] at rest
    simp only [cut, List.cons_append, ne_eq, ne, not_false_eq_true, decide_true,
      List.takeWhile_cons_of_pos, List.dropWhile_cons_of_pos, Prod.mk.injEq, List.cons.injEq,
      true_and]
    exact rest

theorem cut_of_not_mem {sep : Char} {xs : List Char} (h : sep ∉ xs) : cut sep xs = (xs, []) := by
  induction xs with
  | nil => rfl
  | cons x xs ih =>
    have ne : x ≠ sep := fun eq => h (eq ▸ List.mem_cons_self)
    have rest := ih fun mem => h (List.mem_cons_of_mem _ mem)
    simp only [cut, Prod.mk.injEq] at rest
    simp only [cut, ne_eq, ne, not_false_eq_true, decide_true, List.takeWhile_cons_of_pos,
      List.dropWhile_cons_of_pos, Prod.mk.injEq, List.cons.injEq, true_and]
    exact rest

/-- The part before the separator, and the separator with what follows where there is one. -/
theorem cut_cases (sep : Char) (cs : List Char) :
    sep ∉ (cut sep cs).1 ∧ (cut sep cs = (cs, []) ∨ cs = (cut sep cs).1 ++ sep :: (cut sep cs).2) := by
  by_cases mem : sep ∈ cs
  · obtain ⟨before, after, split, clean⟩ := List.eq_append_cons_of_mem mem
    rw [split, cut_append clean]
    exact ⟨clean, .inr rfl⟩
  · rw [cut_of_not_mem mem]
    exact ⟨mem, .inl rfl⟩

theorem splitOn_append {sep : Char} {xs : List Char} (h : sep ∉ xs) (ys : List Char) :
    splitOn sep (xs ++ sep :: ys) = xs :: splitOn sep ys := by
  induction xs with
  | nil => simp [splitOn]
  | cons x xs ih =>
    have ne : x ≠ sep := fun eq => h (eq ▸ List.mem_cons_self)
    rw [List.cons_append, splitOn, if_neg ne, ih fun mem => h (List.mem_cons_of_mem _ mem)]

theorem splitOn_of_not_mem {sep : Char} {xs : List Char} (h : sep ∉ xs) : splitOn sep xs = [xs] := by
  induction xs with
  | nil => rfl
  | cons x xs ih =>
    have ne : x ≠ sep := fun eq => h (eq ▸ List.mem_cons_self)
    rw [splitOn, if_neg ne, ih fun mem => h (List.mem_cons_of_mem _ mem)]

/-- Parts without the separator are found again in the text that joins them. -/
theorem splitOn_intercalate {sep : Char} {parts : List (List Char)} (nonempty : parts ≠ [])
    (h : ∀ part ∈ parts, sep ∉ part) : splitOn sep ([sep].intercalate parts) = parts := by
  induction parts with
  | nil => exact absurd rfl nonempty
  | cons part rest ih =>
    cases rest with
    | nil =>
      have alone : [sep].intercalate [part] = part := List.append_nil part
      rw [alone, splitOn_of_not_mem (h part List.mem_cons_self)]
    | cons next rest =>
      have joined : [sep].intercalate (part :: next :: rest) =
          part ++ sep :: [sep].intercalate (next :: rest) := rfl
      rw [joined, splitOn_append (h part List.mem_cons_self),
        ih (List.cons_ne_nil _ _) fun p mem => h p (List.mem_cons_of_mem _ mem)]

def writeLine (pair : String × String) : List Char :=
  pair.1.toList ++ '=' :: (pair.2.toList ++ ['\n'])

def write (pairs : List (String × String)) : List Char := pairs.flatMap writeLine

/-- A line without `=` is not a pair. -/
def readLine (line : List Char) : Option (String × String) :=
  if '=' ∈ line then
    some (String.ofList (cut '=' line).1, String.ofList (cut '=' line).2)
  else none

def read (text : List Char) : List (String × String) := (splitOn '\n' text).filterMap readLine

/-- Neither a line feed nor a carriage return. -/
def OneLine (s : String) : Prop := '\n' ∉ s.toList ∧ '\r' ∉ s.toList

instance (s : String) : Decidable (OneLine s) := inferInstanceAs (Decidable (_ ∧ _))

/-- A key that ends at the first `=` of its line. -/
def IsKey (s : String) : Prop := '=' ∉ s.toList ∧ OneLine s

instance (s : String) : Decidable (IsKey s) := inferInstanceAs (Decidable (_ ∧ _))

theorem readLine_pair {key value : String} (h : '=' ∉ key.toList) :
    readLine (key.toList ++ '=' :: value.toList) = some (key, value) := by
  simp [readLine, cut_append h]

theorem read_write (pairs : List (String × String))
    (h : ∀ pair ∈ pairs, IsKey pair.1 ∧ OneLine pair.2) : read (write pairs) = pairs := by
  induction pairs with
  | nil => rfl
  | cons pair pairs ih =>
    obtain ⟨key, value⟩ := h pair List.mem_cons_self
    have line : '\n' ∉ pair.1.toList ++ '=' :: pair.2.toList := by
      simp only [List.mem_append, List.mem_cons, not_or]
      exact ⟨key.2.1, by decide, value.1⟩
    have text : write (pair :: pairs) =
        (pair.1.toList ++ '=' :: pair.2.toList) ++ '\n' :: write pairs := by
      simp [write, writeLine]
    have rest := ih fun p mem => h p (List.mem_cons_of_mem _ mem)
    rw [read] at rest ⊢
    rw [text, splitOn_append line, List.filterMap_cons, readLine_pair key.1, rest]

end OptimizrActions.KeyValue
