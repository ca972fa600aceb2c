import OptimizrActions.Lib.Text

/-! Regular expressions and `re.search`. -/

namespace OptimizrActions

inductive Pattern where
  | empty
  | char (accepts : Char → Bool)
  /-- `^` -/
  | start
  /-- `$`: the end, or before a last line feed -/
  | finish
  /-- `\b` for this notion of word character -/
  | boundary (isWord : Char → Bool)
  | seq (first rest : Pattern)
  | alt (left right : Pattern)
  | star (body : Pattern)

namespace Pattern

/-- A place in a text: the character before it and what follows. -/
structure Place where
  before : Option Char
  rest : List Char

def Place.atBoundary (isWord : Char → Bool) (place : Place) : Bool :=
  place.before.any isWord != place.rest.head?.any isWord

/-- The places after at most this many rounds. -/
def rounds (step : Place → List Place) : Nat → Place → List Place
  | 0, place => [place]
  | n + 1, place => place :: (step place).flatMap (rounds step n)

/-- The places where a match that begins here can end. -/
def ends : Pattern → Place → List Place
  | empty, place => [place]
  | char accepts, ⟨_, c :: rest⟩ => if accepts c then [⟨some c, rest⟩] else []
  | char _, ⟨_, []⟩ => []
  | start, place => if place.before = none then [place] else []
  | finish, place => if place.rest = [] ∨ place.rest = ['\n'] then [place] else []
  | boundary isWord, place => if place.atBoundary isWord then [place] else []
  | seq first rest, place => (first.ends place).flatMap rest.ends
  | alt left right, place => left.ends place ++ right.ends place
  | star body, place => rounds body.ends place.rest.length place

def places (before : Option Char) : List Char → List Place
  | [] => [⟨before, []⟩]
  | c :: cs => ⟨before, c :: cs⟩ :: places (some c) cs

/-- `pattern.search(text) is not None` -/
def search (pattern : Pattern) (text : String) : Bool :=
  (places none text.toList).any fun place => !(pattern.ends place).isEmpty

/-- The characters that `re.IGNORECASE` does not tell from this one. -/
def caseVariants (c : Char) : List Char :=
  if c.isAlpha then [c.toLower, c.toUpper]
  else match c.toNat with
    | 0x17f => ['s', 'S']
    | 0x212a => ['k', 'K']
    | 0x130 => ['i', 'I']
    | 0x131 => ['i', 'I']
    | _ => []

/-- A character class under `re.IGNORECASE`. -/
def ignoringCase (accepts : Char → Bool) : Pattern :=
  char fun c => accepts c || (caseVariants c).any accepts

def oneOf (chars : String) : Pattern := ignoringCase (· ∈ chars.toList)

def noneOf (accepts : Char → Bool) : Pattern := char (!accepts ·)

def word (text : String) : Pattern :=
  text.toList.foldr (fun c rest => seq (ignoringCase (· = c)) rest) empty

def anyOf : List Pattern → Pattern
  | [] => char fun _ => false
  | pattern :: rest => alt pattern (anyOf rest)

def inOrder : List Pattern → Pattern
  | [] => empty
  | pattern :: rest => seq pattern (inOrder rest)

def plus (pattern : Pattern) : Pattern := seq pattern (star pattern)

def optional (pattern : Pattern) : Pattern := alt pattern empty

def spaces : Pattern := star (char Text.isSpace)

example : (inOrder [word "token", spaces, oneOf ":="]).search "my ToKen = 1" = true := by decide

/-- What is left of the text after a match that begins with it, whatever comes after the text;
`none` when that can matter. -/
def ahead : Pattern → List Char → Option (List (List Char))
  | empty, cs => some [cs]
  | char _, [] => none
  | char accepts, c :: cs => some (if accepts c then [cs] else [])
  | seq first rest, cs => match first.ahead cs with
    | some [] => some []
    | some [left] => rest.ahead left
    | _ => none
  | alt left right, cs => match left.ahead cs, right.ahead cs with
    | some xs, some ys => some (xs ++ ys)
    | _, _ => none
  | _, _ => none

theorem ends_of_ahead {pattern : Pattern} {cs rest : List Char} {lefts : List (List Char)}
    {before : Option Char} (h : pattern.ahead cs = some lefts) :
    (pattern.ends ⟨before, cs ++ rest⟩).map Place.rest = lefts.map (· ++ rest) := by
  induction pattern generalizing cs lefts before with
  | empty =>
    cases h
    rfl
  | char accepts =>
    cases cs with
    | nil => cases h
    | cons c cs =>
      cases h
      rw [List.cons_append, ends]
      split <;> rfl
  | seq first rest' ihFirst ihRest =>
    rw [ahead] at h
    split at h
    next none =>
      cases h
      rw [ends, List.map_eq_nil_iff.mp (ihFirst none)]
      rfl
    next left one =>
      obtain ⟨place, single, at_⟩ := List.map_eq_singleton_iff.mp (ihFirst one)
      cases place with
      | mk before' text =>
        cases at_
        rw [ends, single, List.flatMap_singleton]
        exact ihRest h
    next => cases h
  | alt left right ihLeft ihRight =>
    rw [ahead] at h
    split at h
    next one two =>
      cases h
      rw [ends, List.map_append, List.map_append, ihLeft one, ihRight two]
    next => cases h
  | _ => cases h

/-- No match begins in the text, whatever comes after it. -/
def quiet (pattern : Pattern) : List Char → Bool
  | [] => true
  | c :: cs => pattern.ahead (c :: cs) = some [] && pattern.quiet cs

theorem any_places_append {pattern : Pattern} {before : Option Char} {first rest : List Char}
    (silent : pattern.quiet first = true) :
    ((places before (first ++ rest)).any fun place => !(pattern.ends place).isEmpty) =
      (places (first.getLast?.or before) rest).any fun place => !(pattern.ends place).isEmpty := by
  induction first generalizing before with
  | nil => rfl
  | cons c cs ih =>
    rw [quiet, Bool.and_eq_true, decide_eq_true_eq] at silent
    have last : (c :: cs).getLast?.or before = cs.getLast?.or (some c) := by
      rw [List.getLast?_cons]
      cases cs.getLast? <;> rfl
    have here : pattern.ends ⟨before, c :: (cs ++ rest)⟩ = [] :=
      List.map_eq_nil_iff.mp (ends_of_ahead silent.1)
    rw [last, ← ih silent.2, List.cons_append, places, List.any_cons, here]
    rfl

/-- A pattern that does not look behind finds in both texts what it finds in the second. -/
theorem search_append {pattern : Pattern} {first rest : String}
    (ahead : ∀ before, pattern.ends ⟨before, rest.toList⟩ = pattern.ends ⟨none, rest.toList⟩)
    (silent : pattern.quiet first.toList = true) :
    pattern.search (first ++ rest) = pattern.search rest := by
  rw [search, search, String.toList_append, any_places_append silent]
  cases cs : rest.toList with
  | nil =>
    rw [cs] at ahead
    simp only [places, List.any_cons, ahead]
  | cons c cs =>
    simp_all only [places, List.any_cons]

end Pattern

end OptimizrActions
