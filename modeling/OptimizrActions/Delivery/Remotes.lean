import OptimizrActions.Delivery.Checkout
import OptimizrActions.Lib.UrlLaws

/-! The remotes that a checkout accepts, as the texts that they are. -/

namespace OptimizrActions.Delivery

open Url KeyValue

/-- Nothing in the text separates words, ends a line or controls a terminal. -/
def IsPlain (remote : Chars) : Prop := ∀ c ∈ remote, Text.isSpace c = false ∧ 32 ≤ c.toNat

def remoteScheme (secure : Bool) : Chars := if secure then "https".toList else "ssh".toList

/-- An empty query and an empty fragment, written or not. -/
def emptyTails : List Chars := [[], ['?'], ['#'], ['?', '#']]

/-- The path of an address, from its first slash. -/
structure IsRemotePath (path : Chars) : Prop where
  rooted : path.head? = some '/'
  plain : '?' ∉ path ∧ '#' ∉ path
  slashes : '\\' ∉ path
  inside : Text.occursIn "..".toList path = false

/-- The place of a remote: a host, and a user at most where the transport needs one. -/
structure IsRemoteHost (secure : Bool) (authority : Chars) : Prop where
  closed : ∀ c ∈ authority, isNetlocEnd c = false
  named : hostname authority ≠ []
  password : hasPassword authority = false
  user : secure = true → '@' ∉ authority

/-- `git@host:path` -/
inductive IsScpRemote : Chars → Prop
  | scp {host path : Chars} : host ≠ [] → (∀ c ∈ host, isHostChar c = true) → path ≠ [] →
    (∀ c ∈ path, isNameChar c = true ∨ c = '/') →
    IsScpRemote ("git@".toList ++ (host ++ ':' :: path))

/-- Exactly these texts are remotes. -/
inductive IsRemote (refused : Chars → Bool) : Chars → Prop
  | web {secure : Bool} {authority path tail : Chars} : IsRemoteHost secure authority →
    IsRemotePath path → tail ∈ emptyTails →
    refused (remoteScheme secure ++ ':' :: '/' :: '/' :: (authority ++ (path ++ tail))) = false →
    IsRemote refused (remoteScheme secure ++ ':' :: '/' :: '/' :: (authority ++ (path ++ tail)))
  | scp {remote : Chars} : IsScpRemote remote → Text.occursIn "..".toList remote = false →
    IsRemote refused remote

/-- The query and the fragment are empty exactly when at most their marks are written. -/
theorem cut_tails {rest path : Chars} :
    (cut '?' (cut '#' rest).1 = (path, []) ∧ (cut '#' rest).2 = []) ↔
      ('?' ∉ path ∧ '#' ∉ path) ∧ ∃ tail ∈ emptyTails, rest = path ++ tail := by
  constructor
  · rintro ⟨query, fragment⟩
    obtain ⟨noFragment, whole⟩ := cut_cases '#' rest
    obtain ⟨noQuery, front⟩ := cut_cases '?' (cut '#' rest).1
    rw [fragment] at whole
    rw [query] at noQuery front
    have shorter : (cut '#' rest).1 = path ∨ (cut '#' rest).1 = path ++ ['?'] :=
      front.imp (fun same => (congrArg Prod.fst same).symm) id
    have written : rest = (cut '#' rest).1 ∨ rest = (cut '#' rest).1 ++ ['#'] :=
      whole.imp (fun same => (congrArg Prod.fst same).symm) id
    rcases shorter with eq | eq <;> rw [eq] at noFragment written
    · refine ⟨⟨noQuery, noFragment⟩, ?_⟩
      rcases written with rest | rest
      · exact ⟨[], by simp [emptyTails], by rw [rest, List.append_nil]⟩
      · exact ⟨['#'], by simp [emptyTails], rest⟩
    · refine ⟨⟨noQuery, fun mem => noFragment (List.mem_append_left _ mem)⟩, ?_⟩
      rcases written with rest | rest
      · exact ⟨['?'], by simp [emptyTails], rest⟩
      · exact ⟨['?', '#'], by simp [emptyTails], by rw [rest, List.append_assoc, List.singleton_append]⟩
  · rintro ⟨⟨noQuery, noFragment⟩, tail, mem, rfl⟩
    have marked : '#' ∉ path ++ ['?'] := by simp [noFragment]
    simp only [emptyTails, List.mem_cons, List.not_mem_nil, or_false] at mem
    rcases mem with rfl | rfl | rfl | rfl
    · rw [List.append_nil, cut_of_not_mem noFragment, cut_of_not_mem noQuery]
      exact ⟨rfl, rfl⟩
    · rw [cut_of_not_mem marked, cut_append noQuery]
      exact ⟨rfl, rfl⟩
    · rw [cut_append noFragment, cut_of_not_mem noQuery]
      exact ⟨rfl, rfl⟩
    · rw [List.append_cons, cut_append marked, cut_append noQuery]
      exact ⟨rfl, rfl⟩

theorem IsPlain.not_removed {remote : Chars} (plain : IsPlain remote) :
    ∀ c ∈ remote, isRemoved c = false := by
  intro c mem
  cases removed : isRemoved c with
  | false => rfl
  | true =>
    have space := (plain c mem).1
    simp only [isRemoved, Bool.or_eq_true, decide_eq_true_eq] at removed
    rcases removed with (rfl | rfl) | rfl <;> cases space

/-- The parts of a plain address. -/
theorem urlsplit_remote (secure : Bool) {body : Chars}
    (plain : IsPlain (remoteScheme secure ++ ':' :: '/' :: '/' :: body)) :
    urlsplit (remoteScheme secure ++ ':' :: '/' :: '/' :: body) [] =
      ⟨remoteScheme secure, body.takeWhile (!isNetlocEnd ·),
        (cut '?' (cut '#' (body.dropWhile (!isNetlocEnd ·))).1).1,
        (cut '?' (cut '#' (body.dropWhile (!isNetlocEnd ·))).1).2,
        (cut '#' (body.dropWhile (!isNetlocEnd ·))).2⟩ := by
  have start : (remoteScheme secure ++ ':' :: '/' :: '/' :: body).dropWhile isC0OrSpace =
      remoteScheme secure ++ ':' :: '/' :: '/' :: body := by
    cases secure <;> rfl
  have clean : (remoteScheme secure ++ ':' :: '/' :: '/' :: body).filter (!isRemoved ·) =
      remoteScheme secure ++ ':' :: '/' :: '/' :: body :=
    List.filter_eq_self.mpr fun c mem => by rw [plain.not_removed c mem]; rfl
  have scheme : splitScheme (remoteScheme secure ++ ':' :: '/' :: '/' :: body) =
      some (remoteScheme secure, '/' :: '/' :: body) := by
    cases secure <;> rfl
  simp only [urlsplit, start, clean, scheme, Option.getD_some]

theorem isValidUrl_iff {secure : Bool} {netloc path query fragment : Chars} :
    isValidUrl ⟨remoteScheme secure, netloc, path, query, fragment⟩ = true ↔
      hostname netloc ≠ [] ∧ hasPassword netloc = false ∧ (secure = true → '@' ∉ netloc) ∧
        path ≠ [] ∧ '\\' ∉ path ∧ Text.occursIn "..".toList path = false ∧ query = [] ∧
        fragment = [] := by
  have user : (userinfo? netloc).isSome = true ↔ '@' ∈ netloc := by
    unfold userinfo?
    split <;> simp [*]
  have insecure : ("ssh".toList = "https".toList) = False := by decide
  cases secure with
  | true =>
    simp only [isValidUrl, remoteScheme, if_true, decide_true, Bool.true_or, Bool.true_and,
      Bool.and_eq_true, decide_eq_true_eq, Bool.not_eq_true', List.contains_eq_mem,
      ← Bool.not_eq_true, user, true_imp_iff]
    tauto
  | false =>
    simp only [isValidUrl, remoteScheme, insecure, Bool.false_eq_true, if_false, decide_false,
      decide_true, Bool.or_true, Bool.true_and, Bool.false_and, Bool.not_false, Bool.and_true,
      Bool.and_eq_true, decide_eq_true_eq, Bool.not_eq_true', List.contains_eq_mem,
      decide_eq_false_iff_not, false_imp_iff, true_and]
    tauto

/-- What follows the authority of an address with a path and nothing after it. -/
theorem remotePath_iff {rest path : Chars} (start : ∀ c, rest.head? = some c → isNetlocEnd c = true) :
    (path ≠ [] ∧ cut '?' (cut '#' rest).1 = (path, []) ∧ (cut '#' rest).2 = []) ↔
      path.head? = some '/' ∧ ('?' ∉ path ∧ '#' ∉ path) ∧ ∃ tail ∈ emptyTails, rest = path ++ tail := by
  rw [cut_tails]
  constructor
  · rintro ⟨nonempty, ⟨noQuery, noFragment⟩, tail, mem, rfl⟩
    cases path with
    | nil => exact absurd rfl nonempty
    | cons c path =>
      have ends := start c rfl
      simp only [isNetlocEnd, Bool.or_eq_true, decide_eq_true_eq] at ends
      rcases ends with (rfl | rfl) | rfl
      · exact ⟨rfl, ⟨noQuery, noFragment⟩, tail, mem, rfl⟩
      · exact absurd List.mem_cons_self noQuery
      · exact absurd List.mem_cons_self noFragment
  · rintro ⟨rooted, plain, written⟩
    refine ⟨?_, plain, written⟩
    rintro rfl
    cases rooted

/-- The addresses that pass are those of a host with a path, without credentials. -/
theorem isValidUrl_remote_iff {secure : Bool} {body : Chars}
    (plain : IsPlain (remoteScheme secure ++ ':' :: '/' :: '/' :: body)) :
    isValidUrl (urlsplit (remoteScheme secure ++ ':' :: '/' :: '/' :: body) []) = true ↔
      ∃ authority path tail, IsRemoteHost secure authority ∧ IsRemotePath path ∧ tail ∈ emptyTails ∧
        body = authority ++ (path ++ tail) := by
  rw [urlsplit_remote secure plain, isValidUrl_iff]
  constructor
  · rintro ⟨named, password, user, nonempty, slashes, inside, query, fragment⟩
    have start (c : Char) (first : (body.dropWhile (!isNetlocEnd ·)).head? = some c) :
        isNetlocEnd c = true := by
      have stop := List.head?_dropWhile_not (!isNetlocEnd ·) body
      rw [first] at stop
      simpa using stop
    obtain ⟨rooted, plain, tail, mem, rest⟩ :=
      (remotePath_iff start).mp ⟨nonempty, Prod.ext rfl query, fragment⟩
    refine ⟨_, _, tail, ⟨fun c mem => ?_, named, password, user⟩, ⟨rooted, plain, slashes, inside⟩, mem, ?_⟩
    · simpa using List.mem_takeWhile_imp mem
    · rw [← rest, List.takeWhile_append_dropWhile]
  · rintro ⟨authority, path, tail, host, isPath, mem, rfl⟩
    have stays : ∀ c ∈ authority, (!isNetlocEnd c) = true := fun c mem => by rw [host.closed c mem]; rfl
    have stop : ∀ c, (path ++ tail).head? = some c → isNetlocEnd c = true := by
      rw [List.head?_append, isPath.rooted]
      rintro c first
      cases first
      rfl
    have front : (authority ++ (path ++ tail)).takeWhile (!isNetlocEnd ·) = authority ∧
        (authority ++ (path ++ tail)).dropWhile (!isNetlocEnd ·) = path ++ tail := by
      rw [List.takeWhile_append_of_pos stays, List.dropWhile_append_of_pos stays]
      cases rest : path ++ tail with
      | nil => exact ⟨List.append_nil _, rfl⟩
      | cons c more =>
        have ends := stop c (by rw [rest]; rfl)
        rw [List.takeWhile_cons_of_neg (by simp [ends]), List.dropWhile_cons_of_neg (by simp [ends])]
        exact ⟨List.append_nil _, rfl⟩
    obtain ⟨nonempty, query, fragment⟩ :=
      (remotePath_iff stop).mpr ⟨isPath.rooted, isPath.plain, tail, mem, rfl⟩
    rw [front.1, front.2, query, fragment]
    exact ⟨host.named, host.password, host.user, nonempty, isPath.slashes, isPath.inside, rfl, rfl⟩

theorem isScpRemote_iff {remote : Chars} : isScpRemote remote = true ↔ IsScpRemote remote := by
  constructor
  · intro h
    simp only [isScpRemote, Bool.and_eq_true, decide_eq_true_eq, List.all_eq_true,
      Bool.or_eq_true, List.isPrefixOf_iff_prefix] at h
    obtain ⟨⟨⟨⟨⟨body, rfl⟩, named⟩, host⟩, nonempty⟩, path⟩ := h
    rw [show ("git@".toList ++ body).drop 4 = body from rfl] at named host nonempty path
    rcases (cut_cases ':' body).2 with whole | split
    · rw [whole] at nonempty
      exact absurd rfl nonempty
    · rw [split]
      exact .scp named host nonempty path
  · rintro ⟨named, host, nonempty, path⟩
    rename_i name rest
    have clean : ':' ∉ name := fun mem => absurd (host ':' mem) (by decide)
    simp only [isScpRemote, Bool.and_eq_true, decide_eq_true_eq, List.all_eq_true,
      Bool.or_eq_true, List.isPrefixOf_iff_prefix]
    rw [show ("git@".toList ++ (name ++ ':' :: rest)).drop 4 = name ++ ':' :: rest from rfl,
      cut_append clean]
    exact ⟨⟨⟨⟨⟨_, rfl⟩, named⟩, host⟩, nonempty⟩, path⟩

theorem startsWeb_iff {cs : Chars} :
    ("https://".toList.isPrefixOf cs || "ssh://".toList.isPrefixOf cs) = true ↔
      ∃ secure body, cs = remoteScheme secure ++ ':' :: '/' :: '/' :: body := by
  simp only [Bool.or_eq_true, List.isPrefixOf_iff_prefix]
  constructor
  · rintro (⟨body, rfl⟩ | ⟨body, rfl⟩)
    · exact ⟨true, body, rfl⟩
    · exact ⟨false, body, rfl⟩
  · rintro ⟨secure, body, rfl⟩
    cases secure with
    | true => exact .inl ⟨body, rfl⟩
    | false => exact .inr ⟨body, rfl⟩

/-- The prefixes that are refused on their own do not begin any of the accepted forms. -/
theorem not_refusedStart {refused : Chars → Bool} {cs : Chars} (h : IsRemote refused cs) :
    (["-", "ext::", "file:", "file://"].any fun start => start.toList.isPrefixOf cs) = false := by
  cases h with
  | @web secure => cases secure <;> rfl
  | scp written => cases written; rfl

theorem not_isRemote_nil {refused : Chars → Bool} : ¬IsRemote refused [] := by
  intro h
  generalize eq : [] = cs at h
  cases h with
  | @web secure => cases secure <;> cases eq
  | scp written =>
    cases written
    cases eq

/-- An exact description of the remotes that are accepted: an address with a host, a path and nothing
after it, or `git@host:path`. -/
theorem isRemote_iff {refused : Chars → Bool} {remote : String} :
    isRemote refused remote = true ↔ IsPlain remote.toList ∧ IsRemote refused remote.toList := by
  have plain_iff : (remote.toList.any fun c => Text.isSpace c || decide (c.toNat < 32)) = false ↔
      IsPlain remote.toList := by
    simp [IsPlain, List.any_eq_false]
  simp only [isRemote, Bool.and_eq_true, decide_eq_true_eq, Bool.not_eq_true', plain_iff]
  constructor
  · rintro ⟨⟨-, plain⟩, form⟩
    refine ⟨plain, ?_⟩
    split at form
    next web =>
      obtain ⟨secure, body, eq⟩ := startsWeb_iff.mp web
      rw [eq] at plain form ⊢
      rw [Bool.and_eq_true, Bool.not_eq_true', isValidUrl_remote_iff plain] at form
      obtain ⟨admitted, authority, path, tail, host, isPath, mem, rfl⟩ := form
      exact .web host isPath mem admitted
    next =>
      rw [Bool.and_eq_true, Bool.not_eq_true', isScpRemote_iff] at form
      exact .scp form.1 form.2
  · rintro ⟨plain, form⟩
    have nonempty : remote ≠ "" := by
      rintro rfl
      exact not_isRemote_nil form
    have stripped : remote = Text.strip remote := by
      rw [Text.strip, Text.stripChars_of_clean fun c mem => (plain c mem).1, String.ofList_toList]
    refine ⟨⟨⟨⟨nonempty, stripped⟩, not_refusedStart form⟩, plain⟩, ?_⟩
    generalize remote.toList = cs at form plain
    cases form with
    | @web secure authority path tail host isPath mem admitted =>
      rw [if_pos (startsWeb_iff.mpr ⟨secure, _, rfl⟩), admitted,
        (isValidUrl_remote_iff plain).mpr ⟨authority, path, tail, host, isPath, mem, rfl⟩]
      rfl
    | scp written inside =>
      have other : ¬("https://".toList.isPrefixOf cs || "ssh://".toList.isPrefixOf cs) = true := by
        cases written
        exact Bool.false_ne_true
      rw [if_neg other, isScpRemote_iff.mpr written, inside]
      rfl

end OptimizrActions.Delivery
