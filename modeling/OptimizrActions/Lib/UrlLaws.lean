import OptimizrActions.Lib.Authority

/-! Web URLs lead where their scheme and authority say, and `urllib.parse` reads the
same scheme and, up to the characters it removes, the same authority in them. -/

namespace OptimizrActions.Url

def webScheme (secure : Bool) : Chars := if secure then "https".toList else "http".toList

/-- An `https` or `http` URL. -/
def web (secure : Bool) (body : Chars) : Chars := webScheme secure ++ ':' :: '/' :: '/' :: body

theorem dropEnd_append {p : Char → Bool} {x : Char} (stop : p x = false) (xs ys : Chars) :
    ((xs ++ x :: ys).reverse.dropWhile p).reverse =
      xs ++ x :: (ys.reverse.dropWhile p).reverse := by
  rw [List.reverse_append, List.reverse_cons, List.append_assoc, List.dropWhile_append]
  have stays : ([x] ++ xs.reverse).dropWhile p = x :: xs.reverse :=
    List.dropWhile_cons_of_neg (by simp [stop])
  rw [stays]
  split
  next empty =>
    rw [List.isEmpty_iff.mp empty]
    simp
  · simp

theorem splitTag_append (xs : Chars) {ys : Chars} (h : '#' ∈ ys) :
    splitTag (xs ++ ys) = xs ++ splitTag ys := by
  have nonempty : (ys.reverse.dropWhile (· ≠ '#')) ≠ [] := by
    intro empty
    have all := List.dropWhile_eq_nil_iff.mp empty '#' (List.mem_reverse.mpr h)
    exact absurd all (by decide)
  rw [splitTag, splitTag, if_pos h, if_pos (List.mem_append_right xs h), List.reverse_append,
    List.dropWhile_append, if_neg (by simpa using nonempty), List.drop_append_of_le_length,
    List.reverse_append, List.reverse_reverse]
  exact List.length_pos_iff.mpr nonempty

/-- The `#` and what follows it never reach into the authority. -/
theorem splitTag_authority {authority : Chars} {e : Char}
    (open_ : ∀ c ∈ authority, isNetlocEnd c = false) (end_ : isNetlocEnd e = true) (rest : Chars) :
    (splitTag (authority ++ e :: rest)).takeWhile (!isNetlocEnd ·) = authority := by
  have whole : ∀ more, (authority ++ e :: more).takeWhile (!isNetlocEnd ·) = authority := by
    intro more
    rw [List.takeWhile_append_of_pos fun c mem => by rw [open_ c mem]; rfl,
      List.takeWhile_cons_of_neg (by rw [end_]; exact Bool.false_ne_true), List.append_nil]
  by_cases later : '#' ∈ rest
  · have split := splitTag_append (authority ++ [e]) later
    rw [List.append_assoc] at split
    rw [List.singleton_append] at split
    rw [split, List.append_assoc]
    exact whole _
  · by_cases here : e = '#'
    · subst here
      have none_ : (authority ++ '#' :: rest).reverse.dropWhile (· ≠ '#') =
          '#' :: authority.reverse := by
        rw [List.reverse_append, List.reverse_cons, List.append_assoc,
          List.dropWhile_append_of_pos, List.singleton_append, List.dropWhile_cons_of_neg (by decide)]
        intro c mem
        have ne : c ≠ '#' := fun eq => later (eq ▸ List.mem_reverse.mp mem)
        simpa using ne
      rw [splitTag, if_pos (List.mem_append_right _ List.mem_cons_self), none_, List.drop_one,
        List.tail_cons, List.reverse_reverse, List.takeWhile_eq_self_iff]
      intro c mem
      rw [open_ c mem]
      rfl
    · rw [splitTag, if_neg, whole]
      intro mem
      cases List.mem_append.mp mem with
      | inl before => exact absurd (open_ '#' before) (by decide)
      | inr after =>
        cases List.mem_cons.mp after with
        | inl same => exact here same.symm
        | inr mem => exact later mem

theorem unwrap_web (secure : Bool) (body : Chars) :
    unwrap (web secure body) = web secure (body.reverse.dropWhile Text.isSpace).reverse := by
  have strip : stripSpace (web secure body) =
      web secure (body.reverse.dropWhile Text.isSpace).reverse := by
    have start : (web secure body).dropWhile Text.isSpace = web secure body := by
      cases secure <;> rfl
    rw [stripSpace, Text.stripChars, start]
    have kept := dropEnd_append (p := Text.isSpace) (x := '/') (by decide)
      (webScheme secure ++ [':', '/']) body
    simp only [web] at kept ⊢
    simpa using kept
  simp only [unwrap, strip]
  cases secure <;> rfl

theorem splitTag_web (secure : Bool) (body : Chars) :
    splitTag (web secure body) = web secure (splitTag body) := by
  by_cases mem : '#' ∈ body
  · have split := splitTag_append (web secure []) mem
    simpa [web] using split
  · have outside : '#' ∉ web secure body := by
      cases secure <;> simp [web, webScheme, mem]
    rw [splitTag, splitTag, if_neg mem, if_neg outside]

theorem splitType_web (secure : Bool) (body : Chars) :
    splitType (web secure body) = some (webScheme secure, '/' :: '/' :: body) := by
  cases secure <;> rfl

/-- A web URL that is opened leads to the host in its authority. -/
theorem destination_web {secure : Bool} {authority rest : Chars} {e : Char} {d : Destination}
    (open_ : ∀ c ∈ authority, isNetlocEnd c = false) (end_ : isNetlocEnd e = true)
    (h : destination (web secure (authority ++ e :: rest)) = some d) :
    d.https = secure ∧ connectTo (unquote authority) = some (d.host, d.port) ∧
      d.host.any isControl = false := by
  have noSpace : Text.isSpace e = false := by
    simp only [isNetlocEnd, Bool.or_eq_true, decide_eq_true_eq] at end_
    rcases end_ with (rfl | rfl) | rfl <;> decide
  rw [destination, unwrap_web, dropEnd_append noSpace, splitTag_web, splitType_web] at h
  simp only [splitTag_authority open_ end_] at h
  split at h
  · cases h
  · split at h
    · cases h
    · split at h
      · cases h
      next host port connects =>
        split at h
        · cases h
        next clean =>
          cases h
          refine ⟨?_, connects, Bool.eq_false_of_not_eq_true clean⟩
          cases secure <;> rfl

/-- A relative URL is not opened. -/
theorem destination_slash (url : Chars) : destination ('/' :: url) = none := by
  have kept := dropEnd_append (p := Text.isSpace) (x := '/') (by decide) [] url
  have strip : stripSpace ('/' :: url) = '/' :: (url.reverse.dropWhile Text.isSpace).reverse := by
    rw [stripSpace, Text.stripChars, List.dropWhile_cons_of_neg (by decide)]
    exact kept
  have whole : unwrap ('/' :: url) = '/' :: (url.reverse.dropWhile Text.isSpace).reverse := by
    simp only [unwrap, strip]
    rfl
  have noType : ∀ rest, splitType ('/' :: rest) = none := fun _ => rfl
  rw [destination, whole]
  generalize (url.reverse.dropWhile Text.isSpace).reverse = rest
  by_cases mem : '#' ∈ rest
  · have split := splitTag_append ['/'] mem
    rw [List.singleton_append, List.singleton_append] at split
    rw [split, noType]
  · rw [splitTag, if_neg (by simp [mem]), noType]

/-! ### Splitting and joining -/

theorem removed_not_end {c : Char} (h : isRemoved c = true) : isNetlocEnd c = false := by
  simp only [isRemoved, Bool.or_eq_true, decide_eq_true_eq] at h
  rcases h with (rfl | rfl) | rfl <;> decide

theorem takeWhile_kept (cs : Chars) :
    (kept cs).takeWhile (!isNetlocEnd ·) = kept (cs.takeWhile (!isNetlocEnd ·)) := by
  have same : (fun c => !!isRemoved c || !isNetlocEnd c) = fun c => !isNetlocEnd c := by
    funext c
    cases removed : isRemoved c with
    | false => rfl
    | true => rw [removed_not_end removed]; rfl
  rw [kept, List.takeWhile_filter, same]
  rfl

theorem urlsplit_scheme (url default : Chars) :
    (urlsplit url default).scheme =
      ((splitScheme (kept (url.dropWhile isC0OrSpace))).map (·.1)).getD default := by
  rw [urlsplit, ← kept]
  cases splitScheme (kept (url.dropWhile isC0OrSpace)) <;> rfl

/-- The characters of a network location. -/
def IsNetloc (cs : Chars) : Prop := ∀ c ∈ cs, isNetlocEnd c = false ∧ isRemoved c = false

theorem isNetloc_takeWhile (cs : Chars) : IsNetloc ((kept cs).takeWhile (!isNetlocEnd ·)) := by
  intro c mem
  have stays := List.mem_takeWhile_imp mem
  have clean := (List.mem_filter.mp (List.takeWhile_subset _ mem)).2
  exact ⟨by simpa using stays, by simpa using clean⟩

theorem IsNetloc.kept_eq {cs : Chars} (h : IsNetloc cs) : kept cs = cs :=
  List.filter_eq_self.mpr fun c mem => by rw [(h c mem).2]; rfl

theorem splitScheme_subset {cs scheme rest : Chars} (h : splitScheme cs = some (scheme, rest)) :
    rest ⊆ cs := by
  unfold splitScheme at h
  split at h
  next after =>
    split at h
    · cases h
      intro c mem
      exact List.dropWhile_subset _ (after ▸ List.mem_cons_of_mem _ mem)
    · cases h
  · cases h

theorem urlsplit_netloc (url default : Chars) : IsNetloc (urlsplit url default).netloc := by
  have clean : ∀ c ∈ ((splitScheme (kept (url.dropWhile isC0OrSpace))).getD
      (default, kept (url.dropWhile isC0OrSpace))).2, isRemoved c = false := by
    intro c mem
    have inside : c ∈ kept (url.dropWhile isC0OrSpace) := by
      cases split : splitScheme (kept (url.dropWhile isC0OrSpace)) with
      | none => rwa [split] at mem
      | some parts =>
        rw [split] at mem
        exact splitScheme_subset split mem
    simpa using (List.mem_filter.mp inside).2
  rw [urlsplit, ← kept]
  generalize (splitScheme (kept (url.dropWhile isC0OrSpace))).getD
    (default, kept (url.dropWhile isC0OrSpace)) = parts at clean
  obtain ⟨scheme, rest⟩ := parts
  dsimp only at clean ⊢
  split
  next authority =>
    intro c mem
    have stays := List.mem_takeWhile_imp mem
    refine ⟨by simpa using stays, clean c ?_⟩
    exact List.mem_cons_of_mem _ (List.mem_cons_of_mem _ (List.takeWhile_subset _ mem))
  · exact List.forall_mem_nil _

theorem urlsplit_web (secure : Bool) (body default : Chars) :
    (urlsplit (web secure body) default).scheme = webScheme secure ∧
      (urlsplit (web secure body) default).netloc = kept (body.takeWhile (!isNetlocEnd ·)) := by
  have start : (web secure body).dropWhile isC0OrSpace = web secure body := by
    cases secure <;> rfl
  have clean : (web secure body).filter (!isRemoved ·) = web secure (kept body) := by
    cases secure <;> rfl
  have scheme : splitScheme (web secure (kept body)) =
      some (webScheme secure, '/' :: '/' :: kept body) := by
    cases secure <;> rfl
  simp only [urlsplit, start, clean, scheme, Option.getD_some, takeWhile_kept, and_self]

/-- What may follow an authority. -/
def IsTail (rest : Chars) : Prop := rest = [] ∨ ∃ e more, rest = e :: more ∧ isNetlocEnd e = true

theorem takeWhile_tail {authority rest : Chars} (open_ : ∀ c ∈ authority, isNetlocEnd c = false)
    (tail : IsTail rest) : (authority ++ rest).takeWhile (!isNetlocEnd ·) = authority := by
  rw [List.takeWhile_append_of_pos fun c mem => by rw [open_ c mem]; rfl]
  cases tail with
  | inl empty => rw [empty, List.takeWhile_nil, List.append_nil]
  | inr ends =>
    obtain ⟨e, more, rfl, end_⟩ := ends
    rw [List.takeWhile_cons_of_neg (by rw [end_]; exact Bool.false_ne_true), List.append_nil]

theorem urlunsplit_web {secure : Bool} {u : SplitUrl} (scheme : u.scheme = webScheme secure) :
    ∃ rest, urlunsplit u = web secure (u.netloc ++ rest) ∧ IsTail rest := by
  have append : ∀ front back : Chars, IsTail front → IsTail back → IsTail (front ++ back) := by
    intro front back first second
    cases first with
    | inl empty => rwa [empty]
    | inr ends =>
      obtain ⟨e, more, rfl, end_⟩ := ends
      exact .inr ⟨e, more ++ back, rfl, end_⟩
  have path : IsTail (if u.path ≠ [] ∧ u.path.head? ≠ some '/' then '/' :: u.path else u.path) := by
    split
    · exact .inr ⟨'/', u.path, rfl, rfl⟩
    next slash =>
      cases path : u.path with
      | nil => exact .inl rfl
      | cons c cs =>
        rw [path] at slash
        have first : c = '/' := by simpa using slash
        exact .inr ⟨c, cs, rfl, by rw [first]; rfl⟩
  have query : IsTail (if u.query = [] then [] else '?' :: u.query) := by
    split
    · exact .inl rfl
    · exact .inr ⟨'?', u.query, rfl, rfl⟩
  have fragment : IsTail (if u.fragment = [] then [] else '#' :: u.fragment) := by
    split
    · exact .inl rfl
    · exact .inr ⟨'#', u.fragment, rfl, rfl⟩
  refine ⟨_, ?_, append _ _ path (append _ _ query fragment)⟩
  simp only [urlunsplit, web, scheme, List.append_assoc, List.cons_append]

/-- Joining to a web URL keeps its scheme, unless the other URL is absolute with another. -/
theorem urljoin_web {secure : Bool} {body url : Chars} (nonempty : url ≠ [])
    (scheme : (urlsplit (urljoin (web secure body) url) []).scheme = webScheme secure) :
    ∃ netloc rest, urljoin (web secure body) url = web secure (netloc ++ rest) ∧
      IsNetloc netloc ∧ IsTail rest := by
  have split : ∀ u : SplitUrl, u.scheme = webScheme secure → IsNetloc u.netloc →
      ∃ netloc rest, urlunsplit u = web secure (netloc ++ rest) ∧
        IsNetloc netloc ∧ IsTail rest := by
    intro u scheme netloc
    obtain ⟨rest, eq, tail⟩ := urlunsplit_web scheme
    exact ⟨u.netloc, rest, eq, netloc, tail⟩
  have base := (urlsplit_web secure body []).1
  have baseNetloc := urlsplit_netloc (web secure body) []
  simp only [urljoin, if_neg nonempty] at scheme ⊢
  generalize urlsplit (web secure body) [] = b at *
  have netloc := urlsplit_netloc url b.scheme
  have default := urlsplit_scheme url b.scheme
  have own := urlsplit_scheme url []
  generalize urlsplit url b.scheme = u at *
  by_cases other : u.scheme ≠ b.scheme
  · rw [if_pos other] at scheme
    rw [scheme] at own
    cases explicit : splitScheme (kept (url.dropWhile isC0OrSpace)) with
    | none => exact absurd (by rw [default, explicit]; rfl) other
    | some parts =>
      rw [explicit] at own default
      exact absurd (default.trans (own.symm.trans base.symm)) other
  · rw [if_neg other]
    have same : u.scheme = webScheme secure := (not_not.mp other).trans base
    split
    · exact split { u with path := _ } same netloc
    · split
      · exact split { u with netloc := b.netloc, path := _, query := _ } same baseNetloc
      · exact split { u with netloc := b.netloc, path := _ } same baseNetloc
end OptimizrActions.Url
