import Mathlib.Data.List.Chain
import Mathlib.Data.List.Infix
import Mathlib.Data.List.TakeWhile
import Mathlib.Tactic.NormNum

/-! Replacement templates of `re.sub` for a pattern without groups. -/

namespace OptimizrActions.Template

/-- What a template puts down: a text of its own, or the text that was matched. -/
inductive Piece
  | text (chars : List Char)
  | whole
  deriving DecidableEq

inductive Error
  | endOfPattern
  | groupName
  | invalidGroupReference
  | octalRange
  | badEscape
  deriving DecidableEq

def isOctal (c : Char) : Bool := '0' ≤ c && c ≤ '7'

def octalValue (digits : List Char) : Nat :=
  digits.foldl (fun value digit => value * 8 + (digit.toNat - 48)) 0

/-- The escapes for one character. -/
def escapes : List (Char × Char) :=
  [('a', Char.ofNat 7), ('b', Char.ofNat 8), ('f', Char.ofNat 12), ('n', '\n'), ('r', '\r'),
    ('t', '\t'), ('v', Char.ofNat 11), ('\\', '\\')]

/-- A reference `\g<name>`, behind the `g`.  Without groups only the number zero has a meaning:
every other name is an error of one kind or another. -/
def groupReference (text : List Char) : Except Error (Piece × List Char) :=
  match text with
  | '<' :: name =>
    match name.dropWhile Char.isDigit with
    | '>' :: after =>
      if name.takeWhile Char.isDigit = [] then .error .groupName
      else if (name.takeWhile Char.isDigit).all (· = '0') then .ok (.whole, after)
      else .error .invalidGroupReference
    | _ => .error .groupName
  | _ => .error .groupName

/-- Three octal digits, the first of them not zero; every other number names a group. -/
def octalEscape (c : Char) (text : List Char) : Except Error (Piece × List Char) :=
  match text with
  | d :: e :: after =>
    if isOctal c && isOctal d && isOctal e then
      if octalValue [c, d, e] ≤ 0o377 then .ok (.text [Char.ofNat (octalValue [c, d, e])], after)
      else .error .octalRange
    else .error .invalidGroupReference
  | _ => .error .invalidGroupReference

/-- What a backslash and the character after it stand for. -/
def escape (c : Char) (text : List Char) : Except Error (Piece × List Char) :=
  if c = 'g' then groupReference text
  else if c = '0' then
    let digits := (text.take 2).takeWhile isOctal
    .ok (.text [Char.ofNat (octalValue digits)], text.drop digits.length)
  else if c.isDigit then octalEscape c text
  else
    match escapes.lookup c with
    | some d => .ok (.text [d], text)
    | none => if c.isAlpha then .error .badEscape else .ok (.text ['\\', c], text)

def nextPiece (c : Char) (text : List Char) : Except Error (Piece × List Char) :=
  if c = '\\' then
    match text with
    | [] => .error .endOfPattern
    | d :: rest => escape d rest
  else .ok (.text [c], text)

/-- A backslash before this character is an escape. -/
def isSpecial (c : Char) : Bool := c.isAlpha || c.isDigit || c = '\\'

/-- The text that a piece is read from. -/
inductive Token : Piece → List Char → Prop
  | plain {c : Char} (plain : c ≠ '\\') : Token (.text [c]) [c]
  | kept {c : Char} (quiet : isSpecial c = false) : Token (.text ['\\', c]) ['\\', c]
  | escape {c d : Char} {tail : List Char} (special : isSpecial c = true)
      (inLine : '\n' ∉ tail) : Token (.text [d]) ('\\' :: c :: tail)
  | whole {tail : List Char} (inLine : '\n' ∉ tail) : Token .whole ('\\' :: 'g' :: tail)

theorem isOctal_ne_lineFeed {c : Char} (h : isOctal c = true) : c ≠ '\n' := by
  rintro rfl
  exact absurd h (by decide)

theorem token_of_groupReference {text after : List Char} {piece : Piece}
    (h : groupReference text = .ok (piece, after)) :
    ∃ tail, text = tail ++ after ∧ Token piece ('\\' :: 'g' :: tail) := by
  unfold groupReference at h
  split at h
  · next name =>
    split at h
    · next after' rest =>
      split_ifs at h
      cases h
      refine ⟨'<' :: name.takeWhile Char.isDigit ++ ['>'], ?_, .whole ?_⟩
      · have whole := List.takeWhile_append_dropWhile (p := Char.isDigit) (l := name)
        rw [rest] at whole
        simp [whole]
      · simp only [List.mem_append, List.mem_cons, List.not_mem_nil, or_false, not_or]
        refine ⟨⟨by decide, fun mem => ?_⟩, by decide⟩
        exact absurd (List.mem_takeWhile_imp mem) (by decide)
    · cases h
  · cases h

theorem token_of_octalEscape {c : Char} {text after : List Char} {piece : Piece}
    (digit : c.isDigit = true) (h : octalEscape c text = .ok (piece, after)) :
    ∃ tail, text = tail ++ after ∧ Token piece ('\\' :: c :: tail) := by
  unfold octalEscape at h
  split at h
  · next d e after' =>
    split_ifs at h with octal range
    cases h
    simp only [Bool.and_eq_true] at octal
    refine ⟨[d, e], rfl, .escape (by simp [isSpecial, digit]) ?_⟩
    simp only [List.mem_cons, List.not_mem_nil, or_false, not_or]
    exact ⟨(isOctal_ne_lineFeed octal.1.2).symm, (isOctal_ne_lineFeed octal.2).symm⟩
  · cases h

theorem isSpecial_of_lookup {c d : Char} (h : escapes.lookup c = some d) : isSpecial c = true := by
  obtain ⟨front, back, eq, -⟩ := List.lookup_eq_some_iff.mp h
  have all : ∀ pair ∈ escapes, isSpecial pair.1 = true := by decide
  exact all (c, d) (by rw [eq]; exact List.mem_append_right _ List.mem_cons_self)

theorem token_of_escape {c : Char} {text after : List Char} {piece : Piece}
    (h : escape c text = .ok (piece, after)) :
    ∃ tail, text = tail ++ after ∧ Token piece ('\\' :: c :: tail) := by
  unfold escape at h
  by_cases group : c = 'g'
  · rw [if_pos group] at h
    rw [group]
    exact token_of_groupReference h
  rw [if_neg group] at h
  by_cases zero : c = '0'
  · rw [if_pos zero] at h
    cases h
    refine ⟨(text.take 2).takeWhile isOctal, ?_, .escape (by rw [zero]; decide) fun mem => ?_⟩
    · have inside := (List.takeWhile_prefix isOctal (l := text.take 2)).trans (List.take_prefix 2 text)
      exact List.prefix_append_drop inside
    · exact isOctal_ne_lineFeed (List.mem_takeWhile_imp mem) rfl
  rw [if_neg zero] at h
  by_cases digit : c.isDigit = true
  · rw [if_pos digit] at h
    exact token_of_octalEscape digit h
  rw [if_neg digit] at h
  cases lookup : escapes.lookup c with
  | some d =>
    rw [lookup] at h
    cases h
    exact ⟨[], rfl, .escape (isSpecial_of_lookup lookup) List.not_mem_nil⟩
  | none =>
    rw [lookup] at h
    simp only at h
    split_ifs at h with alpha
    cases h
    have ne : c ≠ '\\' := by
      rintro rfl
      exact absurd lookup (by decide)
    exact ⟨[], rfl, .kept (by simp [isSpecial, alpha, digit, ne])⟩

theorem token_of_nextPiece {c : Char} {text after : List Char} {piece : Piece}
    (h : nextPiece c text = .ok (piece, after)) :
    ∃ token, c :: text = token ++ after ∧ Token piece token := by
  unfold nextPiece at h
  split_ifs at h with backslash
  · cases text with
    | nil => cases h
    | cons d rest =>
      obtain ⟨tail, eq, token⟩ := token_of_escape h
      exact ⟨'\\' :: d :: tail, by rw [backslash, eq]; rfl, token⟩
  · cases h
    exact ⟨[c], rfl, .plain backslash⟩

theorem Token.length_pos {piece : Piece} {token : List Char} (h : Token piece token) :
    0 < token.length := by
  cases h <;> exact Nat.succ_pos _

theorem length_of_nextPiece {c : Char} {text after : List Char} {piece : Piece}
    (h : nextPiece c text = .ok (piece, after)) : after.length < (c :: text).length := by
  obtain ⟨token, eq, isToken⟩ := token_of_nextPiece h
  have := isToken.length_pos
  rw [eq, List.length_append]
  omega

/-- `parse_template` -/
def parse : List Char → Except Error (List Piece)
  | [] => .ok []
  | c :: text =>
    match _found : nextPiece c text with
    | .error e => .error e
    | .ok (piece, after) => (parse after).map (piece :: ·)
termination_by text => text.length
decreasing_by exact length_of_nextPiece _found

def Piece.fill (matched : List Char) : Piece → List Char
  | .text chars => chars
  | .whole => matched

/-- The replacement for a match. -/
def expand (pieces : List Piece) (matched : List Char) : List Char :=
  pieces.flatMap (Piece.fill matched)

section Laws

/-- The pieces of a template, token by token. -/
inductive Parsed : List Char → List Piece → Prop
  | nil : Parsed [] []
  | cons {piece : Piece} {token text : List Char} {pieces : List Piece} (isToken : Token piece token)
      (rest : Parsed text pieces) : Parsed (token ++ text) (piece :: pieces)

theorem parse_cons {c : Char} {text after : List Char} {piece : Piece}
    (h : nextPiece c text = .ok (piece, after)) :
    parse (c :: text) = (parse after).map (piece :: ·) := by
  rw [parse]
  split
  · next found => rw [h] at found; cases found
  · next found => rw [h] at found; cases found; rfl

theorem parsed_of_parse {text : List Char} {pieces : List Piece} (h : parse text = .ok pieces) :
    Parsed text pieces := by
  fun_induction parse text generalizing pieces with
  | case1 => cases h; exact .nil
  | case2 => cases h
  | case3 c text piece after found ih =>
    cases rest : parse after with
    | error e => rw [rest] at h; cases h
    | ok pieces' =>
      rw [rest] at h
      cases h
      obtain ⟨token, eq, isToken⟩ := token_of_nextPiece found
      rw [eq]
      exact .cons isToken (ih rest)

variable {text front back : List Char} {pieces : List Piece}

theorem Parsed.cons_inv {c : Char} (h : Parsed (c :: text) pieces) (plain : c ≠ '\\') :
    ∃ rest, pieces = .text [c] :: rest ∧ Parsed text rest := by
  generalize whole : c :: text = all at h
  cases h with
  | nil => cases whole
  | cons isToken rest =>
    cases isToken with
    | plain ne =>
      rw [List.singleton_append, List.cons.injEq] at whole
      obtain ⟨rfl, rfl⟩ := whole
      exact ⟨_, rfl, rest⟩
    | kept quiet => exact absurd (List.cons.inj whole).1 plain
    | escape special inLine => exact absurd (List.cons.inj whole).1 plain
    | whole inLine => exact absurd (List.cons.inj whole).1 plain

/-- Text without backslashes stands for itself. -/
theorem Parsed.append_inv (h : Parsed (front ++ text) pieces) (plain : '\\' ∉ front) :
    ∃ rest, Parsed text rest ∧ (.whole ∈ pieces ↔ .whole ∈ rest) ∧
      ∀ matched, expand pieces matched = front ++ expand rest matched := by
  induction front generalizing pieces with
  | nil => exact ⟨pieces, h, Iff.rfl, fun _ => rfl⟩
  | cons c front ih =>
    rw [List.mem_cons, not_or] at plain
    obtain ⟨more, rfl, parsed⟩ := h.cons_inv (Ne.symm plain.1)
    obtain ⟨rest, parsed', mem, eq⟩ := ih parsed plain.2
    refine ⟨rest, parsed', by simp [mem], fun matched => ?_⟩
    rw [List.cons_append, ← eq]
    rfl

theorem Parsed.expand_plain (h : Parsed text pieces) (plain : '\\' ∉ text) (matched : List Char) :
    expand pieces matched = text := by
  rw [← List.append_nil text] at h
  obtain ⟨rest, parsed, -, eq⟩ := h.append_inv plain
  rw [eq]
  generalize empty : ([] : List Char) = all at parsed
  cases parsed with
  | nil => exact List.append_nil _
  | cons isToken rest => cases isToken <;> cases empty

theorem isSpecial_ne_lineFeed {c : Char} (h : isSpecial c = true) : c ≠ '\n' := by
  rintro rfl
  exact absurd h (by decide)

theorem Token.eq_of_lineFeed {piece : Piece} {token tail : List Char} (h : Token piece token)
    (eq : token = front ++ '\n' :: tail) (matched : List Char) :
    tail = [] ∧ ['\n'] <:+ piece.fill matched := by
  cases h with
  | plain ne =>
    obtain ⟨rfl, rest⟩ | ⟨gap, rfl, rest⟩ := List.cons_eq_append_iff.mp eq
    · cases rest; exact ⟨rfl, List.suffix_refl _⟩
    · simp at rest
  | kept quiet =>
    obtain ⟨rfl, rest⟩ | ⟨gap, rfl, rest⟩ := List.cons_eq_append_iff.mp eq
    · cases rest
    · obtain ⟨rfl, rest⟩ | ⟨gap, rfl, rest⟩ := List.cons_eq_append_iff.mp rest
      · cases rest; exact ⟨rfl, List.suffix_append ['\\'] _⟩
      · simp at rest
  | @escape c d after special inLine =>
    have mem : '\n' ∈ '\\' :: c :: after := by rw [eq]; simp
    simp only [List.mem_cons, inLine, or_false] at mem
    rcases mem with mem | rfl
    · exact absurd mem (by decide)
    · exact absurd rfl (isSpecial_ne_lineFeed special)
  | @whole after inLine =>
    have mem : '\n' ∈ '\\' :: 'g' :: after := by rw [eq]; simp
    simp [inLine] at mem

/-- No escape reaches over the end of a line. -/
theorem Parsed.suffix (h : Parsed (front ++ '\n' :: back) pieces) (plain : '\\' ∉ back)
    (matched : List Char) : '\n' :: back <:+ expand pieces matched := by
  generalize whole : front ++ '\n' :: back = all at h
  induction h generalizing front with
  | nil => simp at whole
  | @cons piece token text pieces isToken rest ih =>
    have step : expand (piece :: pieces) matched = piece.fill matched ++ expand pieces matched := rfl
    rcases List.append_eq_append_iff.mp whole with ⟨gap, eq, eq'⟩ | ⟨gap, rfl, eq'⟩
    · cases gap with
      | nil =>
        rw [step]
        exact (@ih [] eq').trans (List.suffix_append _ _)
      | cons c gap =>
        obtain ⟨rfl, rfl⟩ := List.cons.inj eq'
        obtain ⟨rfl, ends⟩ := isToken.eq_of_lineFeed eq matched
        rw [step, rest.expand_plain (fun mem => plain mem)]
        obtain ⟨before, eq⟩ := ends
        exact ⟨before, by rw [← eq]; simp⟩
    · rw [step]
      exact (ih eq'.symm).trans (List.suffix_append _ _)

/-- No backslash stands before a character that makes an escape of it. -/
def Quiet (text : List Char) : Prop :=
  text.IsChain fun c d => c = '\\' → isSpecial d = false

theorem Quiet.tail {c : Char} (h : Quiet (c :: text)) : Quiet text := List.IsChain.tail h

/-- A template that keeps its length says what it puts down. -/
theorem Parsed.shrinks (h : Parsed text pieces) (texts : .whole ∉ pieces) :
    (∀ matched, (expand pieces matched).length < text.length) ∨
      Quiet text ∧ ∀ matched, expand pieces matched = text := by
  induction h with
  | nil => exact .inr ⟨.nil, fun _ => rfl⟩
  | @cons piece token text pieces isToken rest ih =>
    rw [List.mem_cons, not_or] at texts
    have step (matched : List Char) :
        expand (piece :: pieces) matched = piece.fill matched ++ expand pieces matched := rfl
    have tail := ih texts.2
    have le (matched : List Char) : (expand pieces matched).length ≤ text.length := by
      rcases tail with shorter | ⟨-, same⟩
      · exact (shorter matched).le
      · rw [same]
    cases isToken with
    | @plain c ne =>
      refine tail.imp (fun shorter matched => ?_) fun ⟨quiet, same⟩ => ⟨?_, fun matched => ?_⟩
      · simpa [step, Piece.fill] using shorter matched
      · exact List.isChain_cons.mpr ⟨fun _ _ backslash => absurd backslash ne, quiet⟩
      · rw [step, same]; rfl
    | @kept c notSpecial =>
      have ne : c ≠ '\\' := by
        rintro rfl
        exact absurd notSpecial (by decide)
      refine tail.imp (fun shorter matched => ?_) fun ⟨quiet, same⟩ => ⟨?_, fun matched => ?_⟩
      · simpa [step, Piece.fill] using shorter matched
      · refine List.isChain_cons_cons.mpr ⟨fun _ => notSpecial, ?_⟩
        exact List.isChain_cons.mpr ⟨fun _ _ backslash => absurd backslash ne, quiet⟩
      · rw [step, same]; rfl
    | escape special inLine =>
      refine .inl fun matched => ?_
      have := le matched
      simp only [step, Piece.fill, List.length_append, List.length_cons, List.length_nil]
      omega
    | whole inLine => exact absurd rfl texts.1

theorem escape_of_not_special {c : Char} (h : isSpecial c = false) :
    escape c text = .ok (.text ['\\', c], text) := by
  have lookup : escapes.lookup c = none := by
    cases found : escapes.lookup c with
    | none => rfl
    | some d => exact absurd (isSpecial_of_lookup found) (by simp [h])
  have ne (d : Char) (special : isSpecial d = true) : c ≠ d := by
    rintro rfl
    exact absurd special (by simp [h])
  simp only [isSpecial, Bool.or_eq_false_iff] at h
  rw [escape, if_neg (ne 'g' rfl), if_neg (ne '0' rfl), if_neg (by simp [h]), lookup]
  exact if_neg (by simp [h])

/-- A template without escapes puts itself down. -/
theorem parse_of_quiet (quiet : Quiet text) (ends : text.getLast? ≠ some '\\') :
    ∃ pieces, parse text = .ok pieces ∧ ∀ matched, expand pieces matched = text := by
  have step {c : Char} {rest after : List Char} {piece : Piece}
      (eq : ∀ matched, c :: rest = piece.fill matched ++ after)
      (found : nextPiece c rest = .ok (piece, after))
      (ih : ∃ pieces, parse after = .ok pieces ∧ ∀ matched, expand pieces matched = after) :
      ∃ pieces, parse (c :: rest) = .ok pieces ∧
        ∀ matched, expand pieces matched = c :: rest := by
    obtain ⟨pieces, parsed, same⟩ := ih
    refine ⟨piece :: pieces, by rw [parse_cons found, parsed]; rfl, fun matched => ?_⟩
    rw [eq matched, ← same matched]
    rfl
  induction n : text.length using Nat.strong_induction_on generalizing text with
  | _ n ih =>
    subst n
    match text with
    | [] => exact ⟨[], parse.eq_1, fun _ => rfl⟩
    | c :: rest =>
      by_cases backslash : c = '\\'
      · subst backslash
        match rest with
        | [] => exact absurd rfl ends
        | d :: rest =>
          have notSpecial := (List.isChain_cons_cons.mp quiet).1 rfl
          have found : nextPiece '\\' (d :: rest) = .ok (.text ['\\', d], rest) :=
            escape_of_not_special notSpecial
          refine step (fun _ => rfl) found (ih rest.length ?_ quiet.tail.tail ?_ rfl)
          · simp only [List.length_cons]; omega
          · cases rest with
            | nil => simp
            | cons e rest => simpa using ends
      · have found : nextPiece c rest = .ok (.text [c], rest) := by
          unfold nextPiece
          exact if_neg backslash
        refine step (fun _ => rfl) found (ih rest.length (by simp) quiet.tail ?_ rfl)
        cases rest with
        | nil => simp
        | cons e rest => simpa using ends

theorem length_le_expand (whole : .whole ∈ pieces) (matched : List Char) :
    matched.length ≤ (expand pieces matched).length := by
  obtain ⟨front, back, rfl⟩ := List.append_of_mem whole
  simp only [expand, List.flatMap_append, List.flatMap_cons, Piece.fill, List.length_append]
  omega

end Laws

end OptimizrActions.Template
