import OptimizrActions.Lib.Url
import Mathlib.Data.List.TakeWhile

/-! Authorities: `urlsplit` removes tabs and line ends that `http.client` sees, and this
makes no difference to the host and port that are connected to. -/

namespace OptimizrActions.Url

/-- What `urlsplit` does not remove. -/
def kept (cs : Chars) : Chars := cs.filter (!isRemoved ·)

/-! ### Ports -/

theorem mem_dropWhile {p : Char → Bool} {c : Char} {cs : Chars} (mem : c ∈ cs) (stays : p c = false) :
    c ∈ cs.dropWhile p := by
  rw [← List.takeWhile_append_dropWhile (p := p) (l := cs)] at mem
  cases List.mem_append.mp mem with
  | inl before => exact absurd (List.mem_takeWhile_imp before) (by rw [stays]; exact Bool.false_ne_true)
  | inr after => exact after

/-- What `int` reads without the space around it. -/
def intBody (cs : Chars) : Chars :=
  ((cs.dropWhile Text.isIntSpace).reverse.dropWhile Text.isIntSpace).reverse

theorem int?_eq (cs : Chars) : Text.int? (String.ofList cs) = match intBody cs with
    | '-' :: cs => (Text.natText? cs).map fun n : Nat => -(n : Int)
    | '+' :: cs => (Text.natText? cs).map Int.ofNat
    | cs => (Text.natText? cs).map Int.ofNat := by
  rw [Text.int?, String.toList_ofList]
  rfl

def isIntChar (c : Char) : Bool := c = '-' || c = '+' || c = '_' || (Text.decimal? c).isSome

theorem digits?_chars {value count : Nat} {cs : Chars} {r : Nat × Nat}
    (h : Text.digits? value count cs = some r) : ∀ c ∈ cs, isIntChar c = true := by
  have digit : ∀ {c d}, Text.decimal? c = some d → isIntChar c = true := by
    intro c d eq
    simp [isIntChar, eq]
  fun_induction Text.digits? value count cs with
  | case1 => cases h
  | case2 value count c =>
    obtain ⟨d, eq, -⟩ := Option.map_eq_some_iff.mp h
    intro c' mem
    exact List.mem_singleton.mp mem ▸ digit eq
  | case3 value count c cs ih =>
    obtain ⟨d, eq, rest⟩ := Option.bind_eq_some_iff.mp h
    simp only [List.forall_mem_cons]
    exact ⟨digit eq, rfl, ih d rest⟩
  | case4 value count c cs _ _ ih =>
    obtain ⟨d, eq, rest⟩ := Option.bind_eq_some_iff.mp h
    simp only [List.forall_mem_cons]
    exact ⟨digit eq, ih d rest⟩

theorem natText?_chars {cs : Chars} {n : Nat} (h : Text.natText? cs = some n) :
    ∀ c ∈ cs, isIntChar c = true := by
  obtain ⟨r, digits, -⟩ := Option.bind_eq_some_iff.mp h
  exact digits?_chars digits

theorem intBody_chars {cs : Chars} {n : Int} (h : Text.int? (String.ofList cs) = some n) :
    ∀ c ∈ intBody cs, isIntChar c = true := by
  rw [int?_eq] at h
  split at h
  next eq =>
    obtain ⟨_, digits, -⟩ := Option.map_eq_some_iff.mp h
    rw [eq, List.forall_mem_cons]
    exact ⟨rfl, natText?_chars digits⟩
  next eq =>
    obtain ⟨_, digits, -⟩ := Option.map_eq_some_iff.mp h
    rw [eq, List.forall_mem_cons]
    exact ⟨rfl, natText?_chars digits⟩
  next =>
    obtain ⟨_, digits, -⟩ := Option.map_eq_some_iff.mp h
    exact natText?_chars digits

theorem removed_cases {c : Char} (h : isRemoved c = true) :
    Text.isIntSpace c = true ∧ isControl c = true ∧ isIntChar c = false := by
  simp only [isRemoved, Bool.or_eq_true, decide_eq_true_eq] at h
  rcases h with (rfl | rfl) | rfl <;> decide

theorem dropWhile_kept (cs : Chars) :
    (kept cs).dropWhile Text.isIntSpace = kept (cs.dropWhile Text.isIntSpace) := by
  induction cs with
  | nil => rfl
  | cons c cs ih =>
    cases removed : isRemoved c with
    | true =>
      rw [List.dropWhile_cons_of_pos (removed_cases removed).1, ← ih]
      simp [kept, removed]
    | false =>
      have stays : ∀ cs, kept (c :: cs) = c :: kept cs := fun cs => by simp [kept, removed]
      cases space : Text.isIntSpace c with
      | true => rw [stays, List.dropWhile_cons_of_pos space, List.dropWhile_cons_of_pos space, ih]
      | false =>
        have stop : ¬Text.isIntSpace c = true := by rw [space]; exact Bool.false_ne_true
        rw [stays, List.dropWhile_cons_of_neg stop, List.dropWhile_cons_of_neg stop, stays]

theorem intBody_kept (cs : Chars) : intBody (kept cs) = kept (intBody cs) := by
  have reverse : ∀ cs, (kept cs).reverse = kept cs.reverse := fun cs => List.filter_reverse.symm
  simp only [intBody, dropWhile_kept, reverse]

/-- The removed characters are space to `int`, or make it raise. -/
theorem int?_kept {cs : Chars} {n : Int} (h : Text.int? (String.ofList cs) = some n) :
    Text.int? (String.ofList (kept cs)) = some n := by
  have clean : kept (intBody cs) = intBody cs := by
    apply List.filter_eq_self.mpr
    intro c mem
    cases removed : isRemoved c with
    | false => rfl
    | true =>
      have digit := intBody_chars h c mem
      rw [(removed_cases removed).2.2] at digit
      cases digit
  rw [int?_eq, intBody_kept, clean, ← int?_eq]
  exact h

theorem percent_not_mem {cs : Chars} {n : Int} (h : Text.int? (String.ofList cs) = some n) :
    '%' ∉ cs := by
  intro mem
  have inner : '%' ∈ intBody cs := by
    apply List.mem_reverse.mpr
    apply mem_dropWhile _ (by decide)
    exact List.mem_reverse.mpr (mem_dropWhile mem (by decide))
  exact absurd (intBody_chars h '%' inner) (by decide)

/-! ### Authorities -/

theorem connectTo_port {after : Chars} (port : ∀ c ∈ after, isHostEnd c = false) (host : Chars) :
    connectTo (host ++ ':' :: after) = if after = [] then some (unbracket host, none)
      else (Text.int? (String.ofList after)).map fun n => (unbracket host, some n) := by
  have all : ∀ c ∈ after.reverse, (!isHostEnd c) = true := by
    intro c mem
    rw [port c (List.mem_reverse.mp mem)]
    rfl
  have stop : ∀ cs, (':' :: cs).takeWhile (!isHostEnd ·) = [] ∧
      (':' :: cs).dropWhile (!isHostEnd ·) = ':' :: cs := fun _ => ⟨rfl, rfl⟩
  have reverse : (host ++ ':' :: after).reverse = after.reverse ++ ':' :: host.reverse := by simp
  rw [connectTo, reverse, List.takeWhile_append_of_pos all, List.dropWhile_append_of_pos all,
    (stop _).1, (stop _).2]
  simp

theorem connectTo_cases {authority host : Chars} {port : Option Int}
    (h : connectTo authority = some (host, port)) :
    host = unbracket authority ∨ ∃ front after, authority = front ++ ':' :: after ∧
      (∀ c ∈ after, isHostEnd c = false) ∧ host = unbracket front := by
  have parts := List.takeWhile_append_dropWhile (p := (!isHostEnd ·)) (l := authority.reverse)
  have ends : ∀ c ∈ (authority.reverse.takeWhile (!isHostEnd ·)).reverse, isHostEnd c = false := by
    intro c mem
    simpa using List.mem_takeWhile_imp (List.mem_reverse.mp mem)
  rw [connectTo] at h
  split at h
  next front eq =>
    refine .inr ⟨front.reverse, _, ?_, ends, ?_⟩
    · rw [eq] at parts
      have whole := congrArg List.reverse parts
      rw [List.reverse_reverse, List.reverse_append, List.reverse_cons, List.append_assoc] at whole
      exact whole.symm
    · split at h
      · cases h
        rfl
      · obtain ⟨n, -, eq⟩ := Option.map_eq_some_iff.mp h
        cases eq
        rfl
  · cases h
    exact .inl rfl

theorem mem_unbracket {c : Char} {host : Chars} (mem : c ∈ host) (h : isRemoved c = true) :
    c ∈ unbracket host := by
  have bracket : c ≠ '[' ∧ c ≠ ']' := by
    simp only [isRemoved, Bool.or_eq_true, decide_eq_true_eq] at h
    rcases h with (rfl | rfl) | rfl <;> decide
  unfold unbracket
  split
  next brackets =>
    cases host with
    | nil => cases mem
    | cons first rest =>
      have later : c ∈ rest := by
        cases List.mem_cons.mp mem with
        | inl same => exact absurd (same.trans (Option.some.inj brackets.1)) bracket.1
        | inr later => exact later
      rw [List.drop_one, List.tail_cons]
      have nonempty : rest ≠ [] := List.ne_nil_of_mem later
      rw [← List.dropLast_append_getLast nonempty] at later
      cases List.mem_append.mp later with
      | inl inner => exact inner
      | inr last =>
        have end_ := brackets.2
        rw [List.getLast?_cons, List.getLast?_eq_some_getLast nonempty, Option.getD_some] at end_
        exact absurd ((List.mem_singleton.mp last).trans (Option.some.inj end_)) bracket.2
  · exact mem

theorem kept_of_clean {host : Chars} (clean : (unbracket host).any isControl = false) :
    kept host = host := by
  apply List.filter_eq_self.mpr
  intro c mem
  cases removed : isRemoved c with
  | false => rfl
  | true =>
    have control := List.any_eq_false.mp clean c (mem_unbracket mem removed)
    exact absurd (removed_cases removed).2.1 control

/-- Of an authority whose host can be connected to, what `urlsplit` removes does not matter. -/
theorem connectTo_kept {authority host : Chars} {port : Option Int}
    (h : connectTo authority = some (host, port)) (clean : host.any isControl = false) :
    connectTo (kept authority) = some (host, port) := by
  cases connectTo_cases h with
  | inl whole =>
    rw [whole] at clean
    rw [kept_of_clean clean]
    exact h
  | inr split =>
    obtain ⟨front, after, eq, ends, host_⟩ := split
    rw [host_] at clean
    have same : kept authority = front ++ ':' :: kept after := by
      rw [eq, kept, List.filter_append, ← kept, kept_of_clean clean]
      rfl
    rw [eq, connectTo_port ends] at h
    have ends' : ∀ c ∈ kept after, isHostEnd c = false :=
      fun c mem => ends c (List.mem_of_mem_filter mem)
    rw [same, connectTo_port ends']
    by_cases empty : after = []
    · rw [if_pos empty] at h
      rw [empty]
      exact h
    · rw [if_neg empty] at h
      obtain ⟨n, number, eq⟩ := Option.map_eq_some_iff.mp h
      have number := int?_kept number
      rw [if_neg, number]
      · exact congrArg some eq
      · intro none_
        rw [none_] at number
        cases number

/-- A host that is connected to has no removed character, and its port no percent sign. -/
def Decodes (cs : Chars) : Prop :=
  ∀ before after, cs = before ++ '%' :: after →
    ∀ c ∈ after.takeWhile (· ≠ ':'), isRemoved c = false

theorem decodes_of_connectTo {authority host : Chars} {port : Option Int}
    (h : connectTo authority = some (host, port)) (clean : host.any isControl = false) :
    Decodes authority := by
  have noRemoved : ∀ {front c}, kept front = front → c ∈ front → isRemoved c = false := by
    intro front c same mem
    simpa using List.filter_eq_self.mp same c mem
  intro before after eq c mem
  cases connectTo_cases h with
  | inl whole =>
    rw [whole] at clean
    apply noRemoved (kept_of_clean clean)
    rw [eq]
    exact List.mem_append_right _ (List.mem_cons_of_mem _ (List.takeWhile_subset _ mem))
  | inr split =>
    obtain ⟨front, number, parts, ends, host_⟩ := split
    rw [host_] at clean
    have noPercent : '%' ∉ number := by
      rw [parts, connectTo_port ends] at h
      split at h
      next empty => rw [empty]; nofun
      · obtain ⟨n, digits, -⟩ := Option.map_eq_some_iff.mp h
        exact percent_not_mem digits
    rw [parts] at eq
    cases List.append_eq_append_iff.mp eq.symm with
    | inl inFront =>
      obtain ⟨middle, rfl, rest⟩ := inFront
      cases middle with
      | nil => cases rest
      | cons first middle =>
        simp only [List.cons_append, List.cons.injEq] at rest
        obtain ⟨rfl, rfl⟩ := rest
        apply noRemoved (kept_of_clean clean)
        apply List.mem_append_right _ (List.mem_cons_of_mem _ _)
        rw [List.takeWhile_append] at mem
        split at mem
        · simpa using mem
        · exact List.takeWhile_subset _ mem
    | inr inPort =>
      obtain ⟨middle, -, rest⟩ := inPort
      cases middle with
      | nil => cases rest
      | cons first middle =>
        obtain ⟨-, rfl⟩ := List.cons.inj rest
        exact absurd (List.mem_append_right _ List.mem_cons_self) noPercent

theorem Decodes.tail {c : Char} {cs : Chars} (h : Decodes (c :: cs)) : Decodes cs :=
  fun before after eq => h (c :: before) after (congrArg (c :: ·) eq)

theorem kept_removed {c : Char} (h : isRemoved c = true) (cs : Chars) : kept (c :: cs) = kept cs := by
  simp [kept, h]

theorem kept_cons {c : Char} (h : isRemoved c = false) (cs : Chars) :
    kept (c :: cs) = c :: kept cs := by
  simp [kept, h]

theorem kept_congr {xs ys : Chars} (h : kept xs = kept ys) (c : Char) :
    kept (c :: xs) = kept (c :: ys) := by
  cases removed : isRemoved c with
  | true => rw [kept_removed removed, kept_removed removed, h]
  | false => rw [kept_cons removed, kept_cons removed, h]

theorem hex_not_removed {c : Char} {n : Nat} (h : hexValue? c = some n) : isRemoved c = false := by
  cases removed : isRemoved c with
  | false => rfl
  | true =>
    simp only [isRemoved, Bool.or_eq_true, decide_eq_true_eq] at removed
    rcases removed with (rfl | rfl) | rfl <;> cases h

theorem unquote_plain {c : Char} (h : c ≠ '%') (cs : Chars) : unquote (c :: cs) = c :: unquote cs :=
  unquote.eq_2 c cs fun _ _ _ percent _ => h percent

theorem unquote_eq {cs : Chars} (h : '%' ∉ cs) : unquote cs = cs := by
  induction cs with
  | nil => rfl
  | cons c cs ih =>
    rw [unquote_plain fun eq => h (eq ▸ List.mem_cons_self), ih fun mem => h (List.mem_cons_of_mem _ mem)]

/-- A percent sign that no hexadecimal digit follows stands for itself. -/
theorem unquote_percent {a : Char} (h : hexValue? a = none) (cs : Chars) :
    unquote ('%' :: a :: cs) = '%' :: unquote (a :: cs) := by
  cases cs with
  | nil => rfl
  | cons b cs => rw [unquote, h]

theorem removed_not_percent {c : Char} (h : isRemoved c = true) : c ≠ '%' ∧ c ≠ ':' := by
  simp only [isRemoved, Bool.or_eq_true, decide_eq_true_eq] at h
  rcases h with (rfl | rfl) | rfl <;> decide

theorem hex_not_percent {c : Char} {n : Nat} (h : hexValue? c = some n) : c ≠ '%' ∧ c ≠ ':' := by
  constructor <;> rintro rfl <;> cases h

/-- Decoding commutes with removing, up to removed characters that were encoded. -/
theorem unquote_kept {cs : Chars} (h : Decodes (unquote cs)) :
    kept (unquote (kept cs)) = kept (unquote cs) := by
  fun_induction unquote cs with
  | case1 a b rest x y first second ih =>
    rw [kept_cons (by decide), kept_cons (hex_not_removed second), kept_cons (hex_not_removed first),
      unquote, second, first]
    exact kept_congr (ih h.tail) _
  | case2 a b rest noHex ih =>
    have next := h [] _ rfl
    have single : unquote ('%' :: kept (a :: b :: rest)) = '%' :: unquote (kept (a :: b :: rest)) := by
      cases first : isRemoved a with
      | true =>
        obtain ⟨plain, colon⟩ := removed_not_percent first
        rw [unquote_plain plain, List.takeWhile_cons_of_pos (by simpa using colon)] at next
        exact absurd (next a List.mem_cons_self) (by rw [first]; nofun)
      | false =>
        rw [kept_cons first]
        cases digit : hexValue? a with
        | none => exact unquote_percent digit _
        | some x =>
          obtain ⟨plain, colon⟩ := hex_not_percent digit
          cases second : isRemoved b with
          | true =>
            obtain ⟨plain', colon'⟩ := removed_not_percent second
            rw [unquote_plain plain, unquote_plain plain',
              List.takeWhile_cons_of_pos (by simpa using colon),
              List.takeWhile_cons_of_pos (by simpa using colon')] at next
            have removed := next b (List.mem_cons_of_mem _ List.mem_cons_self)
            exact absurd removed (by rw [second]; nofun)
          | false =>
            rw [kept_cons second, unquote]
            split
            next digit second => exact (noHex _ _ digit second).elim
            · rfl
    rw [kept_cons (by decide), single]
    exact kept_congr (ih h.tail) '%'
  | case3 c rest other ih =>
    cases removed : isRemoved c with
    | true =>
      rw [kept_removed removed, kept_removed removed]
      exact ih h.tail
    | false =>
      rw [kept_cons removed, unquote.eq_2]
      · exact kept_congr (ih h.tail) c
      · intro a b more percent eq
        have long : (kept rest).length ≤ rest.length := List.length_filter_le _ _
        match rest, other, eq, long with
        | [], _, eq, _ => cases eq
        | [_], _, eq, long =>
          rw [eq] at long
          simp at long
        | a :: b :: more, other, _, _ => exact other a b more percent rfl
  | case4 => rfl

/-- An authority and what `urlsplit` keeps of it lead to the same host and port. -/
theorem connectTo_unquote_kept {authority : Chars} {own other : Chars × Option Int}
    (h : connectTo (unquote authority) = some own) (clean : own.1.any isControl = false)
    (h' : connectTo (unquote (kept authority)) = some other)
    (clean' : other.1.any isControl = false) : other = own := by
  have first := connectTo_kept h clean
  have second := connectTo_kept h' clean'
  rw [unquote_kept (decodes_of_connectTo h clean), first] at second
  exact (Option.some.inj second).symm

end OptimizrActions.Url
