import Mathlib.Data.List.Basic
import Mathlib.Tactic.NormNum

/-! Text as Python sees it: a string of code points, with the `str` and `int`
operations that depend on Unicode tables. -/

namespace OptimizrActions.Text

/-- `str.isspace` on one character. -/
def isSpace (c : Char) : Bool :=
  (0x09 ≤ c.toNat && c.toNat ≤ 0x0d) || (0x1c ≤ c.toNat && c.toNat ≤ 0x20) ||
    c.toNat ∈ [0x85, 0xa0, 0x1680, 0x2028, 0x2029, 0x202f, 0x205f, 0x3000] ||
    (0x2000 ≤ c.toNat && c.toNat ≤ 0x200a)

def stripChars (cs : List Char) : List Char :=
  ((cs.dropWhile isSpace).reverse.dropWhile isSpace).reverse

/-- `str.strip()`. -/
def strip (s : String) : String := String.ofList (stripChars s.toList)

/-- `str.lower` on one character.  Outside ASCII only the two characters whose
lower case contains an ASCII letter are listed: the others never meet ASCII text. -/
def lowerChar (c : Char) : List Char :=
  if 'A' ≤ c ∧ c ≤ 'Z' then [Char.ofNat (c.toNat + 32)]
  else if c.toNat = 0x212a then ['k']
  else if c.toNat = 0x130 then ['i', Char.ofNat 0x307]
  else [c]

/-- `str.upper` on one character, with the same reading of the Unicode tables. -/
def upperChar (c : Char) : List Char :=
  if 'a' ≤ c ∧ c ≤ 'z' then [Char.ofNat (c.toNat - 32)]
  else match c.toNat with
    | 0xdf => ['S', 'S']
    | 0x131 => ['I']
    | 0x149 => [Char.ofNat 0x2bc, 'N']
    | 0x17f => ['S']
    | 0x1f0 => ['J', Char.ofNat 0x30c]
    | 0x1e96 => ['H', Char.ofNat 0x331]
    | 0x1e97 => ['T', Char.ofNat 0x308]
    | 0x1e98 => ['W', Char.ofNat 0x30a]
    | 0x1e99 => ['Y', Char.ofNat 0x30a]
    | 0x1e9a => ['A', Char.ofNat 0x2be]
    | 0xfb00 => ['F', 'F']
    | 0xfb01 => ['F', 'I']
    | 0xfb02 => ['F', 'L']
    | 0xfb03 => ['F', 'F', 'I']
    | 0xfb04 => ['F', 'F', 'L']
    | 0xfb05 => ['S', 'T']
    | 0xfb06 => ['S', 'T']
    | _ => [c]

/-- `str.casefold` on one character, with the same reading of the Unicode tables. -/
def foldChar (c : Char) : List Char :=
  match c.toNat with
  | 0xdf => ['s', 's']
  | 0x149 => [Char.ofNat 0x2bc, 'n']
  | 0x17f => ['s']
  | 0x1f0 => ['j', Char.ofNat 0x30c]
  | 0x1e96 => ['h', Char.ofNat 0x331]
  | 0x1e97 => ['t', Char.ofNat 0x308]
  | 0x1e98 => ['w', Char.ofNat 0x30a]
  | 0x1e99 => ['y', Char.ofNat 0x30a]
  | 0x1e9a => ['a', Char.ofNat 0x2be]
  | 0x1e9e => ['s', 's']
  | 0xfb00 => ['f', 'f']
  | 0xfb01 => ['f', 'i']
  | 0xfb02 => ['f', 'l']
  | 0xfb03 => ['f', 'f', 'i']
  | 0xfb04 => ['f', 'f', 'l']
  | 0xfb05 => ['s', 't']
  | 0xfb06 => ['s', 't']
  | _ => lowerChar c

def casefold (s : String) : String := String.ofList (s.toList.flatMap foldChar)

def lower (s : String) : String := String.ofList (s.toList.flatMap lowerChar)

def upper (s : String) : String := String.ofList (s.toList.flatMap upperChar)

/-- The line boundaries of `str.splitlines`; a carriage return and the line
feed after it count as one. -/
def isLineBreak (c : Char) : Bool :=
  (0x0a ≤ c.toNat && c.toNat ≤ 0x0d) || (0x1c ≤ c.toNat && c.toNat ≤ 0x1e) ||
    c.toNat ∈ [0x85, 0x2028, 0x2029]

def splitLinesFrom (line : List Char) : List Char → List (List Char)
  | [] => if line = [] then [] else [line.reverse]
  | '\r' :: '\n' :: cs => line.reverse :: splitLinesFrom [] cs
  | c :: cs =>
    if isLineBreak c then line.reverse :: splitLinesFrom [] cs
    else splitLinesFrom (c :: line) cs

/-- `str.splitlines()`. -/
def splitLines (s : String) : List String :=
  (splitLinesFrom [] s.toList).map String.ofList

/-- The zeros of the decimal digit blocks (Unicode category `Nd`). -/
def decimalZeros : List Nat :=
  [0x30, 0x660, 0x6f0, 0x7c0, 0x966, 0x9e6, 0xa66, 0xae6, 0xb66, 0xbe6, 0xc66, 0xce6, 0xd66,
    0xde6, 0xe50, 0xed0, 0xf20, 0x1040, 0x1090, 0x17e0, 0x1810, 0x1946, 0x19d0, 0x1a80, 0x1a90,
    0x1b50, 0x1bb0, 0x1c40, 0x1c50, 0xa620, 0xa8d0, 0xa900, 0xa9d0, 0xa9f0, 0xaa50, 0xabf0,
    0xff10, 0x104a0, 0x10d30, 0x11066, 0x110f0, 0x11136, 0x111d0, 0x112f0, 0x11450, 0x114d0,
    0x11650, 0x116c0, 0x11730, 0x118e0, 0x11950, 0x11c50, 0x11d50, 0x11da0, 0x16a60, 0x16ac0,
    0x16b50, 0x1d7ce, 0x1d7d8, 0x1d7e2, 0x1d7ec, 0x1d7f6, 0x1e140, 0x1e2f0, 0x1e950, 0x1fbf0]

def decimal? (c : Char) : Option Nat :=
  (decimalZeros.find? fun z => z ≤ c.toNat && c.toNat < z + 10).map (c.toNat - ·)

/-- White space that `int` ignores around a number: C `isspace` in ASCII,
`str.isspace` above it. -/
def isIntSpace (c : Char) : Bool :=
  (0x09 ≤ c.toNat && c.toNat ≤ 0x0d) || c.toNat = 0x20 || (0x80 ≤ c.toNat && isSpace c)

/-- Digits with single underscores between them; the second component counts
the digits, which `int` bounds. -/
def digits? (value count : Nat) : List Char → Option (Nat × Nat)
  | [] => none
  | [c] => (decimal? c).map fun d => (value * 10 + d, count + 1)
  | c :: '_' :: cs => do digits? (value * 10 + (← decimal? c)) (count + 1) cs
  | c :: cs => do digits? (value * 10 + (← decimal? c)) (count + 1) cs

def maxStrDigits : Nat := 4300

def natText? (cs : List Char) : Option Nat := do
  let (value, count) ← digits? 0 0 cs
  if count ≤ maxStrDigits then some value else none

/-- `int(text)` in base ten; `none` is `ValueError`. -/
def int? (s : String) : Option Int :=
  let body := ((s.toList.dropWhile isIntSpace).reverse.dropWhile isIntSpace).reverse
  match body with
  | '-' :: cs => (natText? cs).map fun n : Nat => -(n : Int)
  | '+' :: cs => (natText? cs).map Int.ofNat
  | cs => (natText? cs).map Int.ofNat

def isLowerHex (c : Char) : Bool := ('0' ≤ c && c ≤ '9') || ('a' ≤ c && c ≤ 'f')

def isHex (c : Char) : Bool := isLowerHex c || ('A' ≤ c && c ≤ 'F')

/-- The lower-case form of a hexadecimal digit. -/
def lowerHex (c : Char) : Char := if 'A' ≤ c ∧ c ≤ 'F' then Char.ofNat (c.toNat + 32) else c

/-- One character of the first class and at most `most` of the other. -/
def isBounded (first rest : Char → Bool) (most : Nat) (s : String) : Bool :=
  match s.toList with
  | [] => false
  | c :: cs => first c && decide (cs.length ≤ most) && cs.all rest

/-- `part in text` -/
def occursIn (part : List Char) : List Char → Bool
  | [] => part.isEmpty
  | c :: cs => part.isPrefixOf (c :: cs) || occursIn part cs

theorem mem_dropWhile {p : Char → Bool} {c : Char} {text : List Char} (mem : c ∈ text)
    (stays : p c = false) : c ∈ text.dropWhile p := by
  induction text with
  | nil => cases mem
  | cons d rest ih =>
    cases dropped : p d with
    | false =>
      rw [List.dropWhile_cons_of_neg (by simp [dropped])]
      exact mem
    | true =>
      rw [List.dropWhile_cons_of_pos dropped]
      refine ih ((List.mem_cons.mp mem).resolve_left ?_)
      rintro rfl
      rw [stays] at dropped
      cases dropped

theorem mem_stripChars {c : Char} {text : List Char} (mem : c ∈ text)
    (shown : isSpace c = false) : c ∈ stripChars text :=
  List.mem_reverse.mpr (mem_dropWhile (List.mem_reverse.mpr (mem_dropWhile mem shown)) shown)

theorem stripChars_of_clean {cs : List Char} (clean : ∀ c ∈ cs, isSpace c = false) :
    stripChars cs = cs := by
  have keep (cs : List Char) (clean : ∀ c ∈ cs, isSpace c = false) : cs.dropWhile isSpace = cs := by
    cases cs with
    | nil => rfl
    | cons c cs => rw [List.dropWhile_cons_of_neg (by simp [clean c])]
  rw [stripChars, keep _ clean, keep _ fun c mem => clean c (List.mem_reverse.mp mem),
    List.reverse_reverse]

theorem upperChar_of_isSpace {c : Char} (h : isSpace c = true) : upperChar c = [c] := by
  have outside : ¬('a' ≤ c ∧ c ≤ 'z') := by
    rintro ⟨low, high⟩
    have low : 97 ≤ c.toNat := low
    have high : c.toNat ≤ 122 := high
    simp only [isSpace, Bool.or_eq_true, Bool.and_eq_true, decide_eq_true_eq, List.mem_cons,
      List.not_mem_nil, or_false] at h
    omega
  rw [upperChar, if_neg outside]
  split <;> simp_all [isSpace]

theorem lowerChar_of_isSpace {c : Char} (h : isSpace c = true) : lowerChar c = [c] := by
  have outside : ¬('A' ≤ c ∧ c ≤ 'Z') := by
    rintro ⟨low, high⟩
    have low : 65 ≤ c.toNat := low
    have high : c.toNat ≤ 90 := high
    simp only [isSpace, Bool.or_eq_true, Bool.and_eq_true, decide_eq_true_eq, List.mem_cons,
      List.not_mem_nil, or_false] at h
    omega
  rw [lowerChar, if_neg outside]
  split_ifs <;> simp_all [isSpace]

/-- Text whose lower case has no white space has none to strip. -/
theorem strip_of_lower {s : String} (h : (lower s).toList.all (fun c => !isSpace c) = true) :
    strip s = s := by
  have clean (c : Char) (mem : c ∈ s.toList) : isSpace c = false := by
    by_contra space
    rw [Bool.not_eq_false] at space
    simp only [lower, String.toList_ofList, List.all_flatMap, List.all_eq_true] at h
    have kept := h c mem c
    simp [lowerChar_of_isSpace space, space] at kept
  rw [strip, stripChars_of_clean clean, String.ofList_toList]

/-- Text whose upper case has no white space has none to strip. -/
theorem strip_of_upper {s : String} (h : (upper s).toList.all (fun c => !isSpace c) = true) :
    strip s = s := by
  have clean (c : Char) (mem : c ∈ s.toList) : isSpace c = false := by
    by_contra space
    rw [Bool.not_eq_false] at space
    simp only [upper, String.toList_ofList, List.all_flatMap, List.all_eq_true] at h
    have kept := h c mem c
    simp [upperChar_of_isSpace space, space] at kept
  rw [strip, stripChars_of_clean clean, String.ofList_toList]

theorem toNat_of_isHex {c : Char} (h : isHex c = true) :
    (48 ≤ c.toNat ∧ c.toNat ≤ 57 ∨ 97 ≤ c.toNat ∧ c.toNat ≤ 102) ∨
      65 ≤ c.toNat ∧ c.toNat ≤ 70 := by
  simp only [isHex, isLowerHex, Bool.or_eq_true, Bool.and_eq_true, decide_eq_true_eq] at h
  exact h

theorem isSpace_of_isHex {c : Char} (h : isHex c = true) : isSpace c = false := by
  have range := toNat_of_isHex h
  by_contra space
  rw [Bool.not_eq_false] at space
  simp only [isSpace, Bool.or_eq_true, Bool.and_eq_true, decide_eq_true_eq, List.mem_cons,
    List.not_mem_nil, or_false] at space
  omega

example : strip " \tab c\n" = "ab c" := by decide
example : splitLines "a\r\nb\n\nc" = ["a", "b", "", "c"] := by decide
example : int? " -1_0 " = some (-10) := by decide

end OptimizrActions.Text
