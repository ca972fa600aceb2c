import Mathlib.Data.List.Basic

/-! `str.replace` of single characters, one replacement after the other. -/

namespace OptimizrActions.Text

/-- `text.replace(old, new)` where `old` is one character. -/
def replaceChar (old : Char) (new : List Char) (text : List Char) : List Char :=
  text.flatMap fun c => if c = old then new else [c]

/-- A chain of replacements, from the left one on. -/
def replaceAll (replacements : List (Char × List Char)) (text : List Char) : List Char :=
  replacements.foldl (fun text replacement => replaceChar replacement.1 replacement.2 text) text

theorem replaceAll_nil_text (replacements : List (Char × List Char)) :
    replaceAll replacements [] = [] := by
  induction replacements with
  | nil => rfl
  | cons replacement rest ih => exact ih

theorem replaceAll_append (replacements : List (Char × List Char)) (front back : List Char) :
    replaceAll replacements (front ++ back) =
      replaceAll replacements front ++ replaceAll replacements back := by
  induction replacements generalizing front back with
  | nil => rfl
  | cons replacement rest ih =>
    rw [replaceAll, List.foldl_cons, replaceChar, List.flatMap_append]
    exact ih _ _

/-- A chain replaces each character by itself. -/
theorem replaceAll_cons (replacements : List (Char × List Char)) (c : Char) (text : List Char) :
    replaceAll replacements (c :: text) =
      replaceAll replacements [c] ++ replaceAll replacements text :=
  replaceAll_append replacements [c] text

/-- A character that none of the replacements names stays. -/
theorem replaceAll_singleton_of_not_mem {replacements : List (Char × List Char)} {c : Char}
    (h : c ∉ replacements.map Prod.fst) : replaceAll replacements [c] = [c] := by
  induction replacements with
  | nil => rfl
  | cons replacement rest ih =>
    rw [List.map_cons, List.mem_cons, not_or] at h
    rw [replaceAll, List.foldl_cons, replaceChar, List.flatMap_singleton, if_neg h.1]
    exact ih h.2

end OptimizrActions.Text
