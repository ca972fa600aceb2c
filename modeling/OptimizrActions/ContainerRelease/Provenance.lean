import OptimizrActions.Lib.Check
import OptimizrActions.Lib.Json
import OptimizrActions.Lib.Url

/-! The source binding of a provenance document: which repository and commit its sources
name, and the check against the expected ones. -/

namespace OptimizrActions.ContainerRelease.Provenance

open Url

/-- `[0-9a-fA-F]{40,64}` -/
def isFullRevision (cs : Chars) : Bool :=
  40 ≤ cs.length && cs.length ≤ 64 && cs.all Text.isHex

def stripSlashes (cs : Chars) : Chars := (cs.reverse.dropWhile (· = '/')).reverse

/-- `(?:@|#)([0-9a-fA-F]{40,64})$`: what stands before the match, and the revision. -/
def trailingRevision (path : Chars) : Option (Chars × Chars) :=
  let revision := (path.reverse.takeWhile Text.isHex).reverse
  match path.reverse.dropWhile Text.isHex with
  | mark :: before =>
    if (mark = '@' || mark = '#') && isFullRevision revision then some (before.reverse, revision)
    else none
  | [] => none

def withoutGitSuffix (path : Chars) : Chars :=
  if ".git".toList.isSuffixOf (lower path) then path.take (path.length - 4) else path

def withoutGitPrefix (uri : Chars) : Chars :=
  if "git+".toList.isPrefixOf uri then uri.drop 4 else uri

section

/- The message with which `urlsplit` refuses an address (brackets, normalization). -/
variable (refusal : Chars → Option String)

/-- The address that a value holds, split, when it is text with a scheme. -/
def splitUri (value : Json) : Except String (Option SplitUrl) :=
  match value with
  | .str text =>
    let uri := withoutGitPrefix (Text.stripChars text.toList)
    if Text.stripChars text.toList = [] ∨ Text.occursIn "://".toList uri = false then .ok none
    else match refusal uri with
      | some message => .error message
      | none => .ok (some (urlsplit uri []))
  | _ => .ok none

/-- The repository and the revision of a source; both empty for anything but an `https` address. -/
def normalizedRepositoryUri (value : Json) : Except String (Chars × Chars) := do
  match ← splitUri refusal value with
  | none => pure ([], [])
  | some parsed =>
    if lower parsed.scheme ≠ "https".toList then pure ([], [])
    else
      let path := stripSlashes parsed.path
      let (path, revision) := match trailingRevision path with
        | some (before, revision) => (before, lower revision)
        | none => (path, [])
      let revision :=
        if revision = [] ∧ parsed.fragment ≠ [] ∧ isFullRevision parsed.fragment = true then
          lower parsed.fragment
        else revision
      let path := withoutGitSuffix path
      pure (stripSlashes ("https://".toList ++ lower parsed.netloc ++ lower path), revision)

def digestValue? : String × Json → Option Chars
  | (_, .str text) => if isFullRevision text.toList then some (lower text.toList) else none
  | _ => none

def sourceDigestValues : Json → List Chars
  | .obj fields => fields.filterMap digestValue?
  | _ => []

/-- `value if isinstance(value, dict) else …` -/
def object? : Json → Option Mapping
  | .obj fields => some fields
  | _ => none

def objects : Json → List Mapping
  | .arr items => items.filterMap object?
  | _ => []

/-- The statement inside the document, or the document itself. -/
def statement (provenance : Mapping) : Mapping :=
  (object? (provenance.get "predicate")).getD provenance

def configSources (provenance : Mapping) : List Mapping :=
  (do
    let definition ← object? ((statement provenance).get "buildDefinition")
    let external ← object? (definition.get "externalParameters")
    object? (external.get "configSource")).toList

def candidates (provenance : Mapping) : List Mapping :=
  (match object? ((statement provenance).get "buildDefinition") with
    | some definition => objects (definition.get "resolvedDependencies")
    | none => []) ++ objects ((statement provenance).get "materials")

/-- The inner function `matches`. -/
def matchesSource (expectedRepo expectedSha : Chars) (candidate : Mapping) : Except String Bool := do
  let (repository, uriRevision) ← normalizedRepositoryUri refusal (candidate.get "uri")
  if repository ≠ expectedRepo then pure false
  else if uriRevision ≠ [] ∧ uriRevision ≠ expectedSha then pure false
  else pure (decide (expectedSha ∈ sourceDigestValues (candidate.get "digest") ∨
    uriRevision = expectedSha))

/-- `any(matches(source) for source in sources)` -/
def anyMatches (expectedRepo expectedSha : Chars) : List Mapping → Except String Bool
  | [] => .ok false
  | source :: rest => do
    if ← matchesSource refusal expectedRepo expectedSha source then pure true
    else anyMatches expectedRepo expectedSha rest

/-- The sources that name the expected repository. -/
def matchingSources (expectedRepo : Chars) : List Mapping → Except String (List Mapping)
  | [] => .ok []
  | source :: rest => do
    let (repository, _) ← normalizedRepositoryUri refusal (source.get "uri")
    let later ← matchingSources expectedRepo rest
    pure (if repository = expectedRepo then source :: later else later)

def noMatch : String := "provenance source does not match the expected repository and commit"

def verifyProvenanceSource (provenance : Mapping) (expectedRepository expectedSha : String) :
    Except String Unit := do
  require (isFullRevision expectedSha.toList = true)
    "expected source SHA must be a full hexadecimal commit"
  let (expectedRepo, _) ← normalizedRepositoryUri refusal (.str expectedRepository)
  require (expectedRepo ≠ []) "expected source repository is invalid"
  let expectedSha := lower expectedSha.toList
  let matching ← matchingSources refusal expectedRepo (configSources provenance)
  if matching ≠ [] then
    require ((← anyMatches refusal expectedRepo expectedSha matching) = true) noMatch
  else
    require ((← anyMatches refusal expectedRepo expectedSha (candidates provenance)) = true) noMatch

/-! ### What the revisions of an address are -/

def pathRevision? (parsed : SplitUrl) : Option Chars :=
  (trailingRevision (stripSlashes parsed.path)).map fun found => lower found.2

def fragmentRevision? (parsed : SplitUrl) : Option Chars :=
  if isFullRevision parsed.fragment then some (lower parsed.fragment) else none

/-- The value is an `https` address with these parts. -/
def Reads (value : Json) (parsed : SplitUrl) : Prop :=
  splitUri refusal value = .ok (some parsed) ∧ lower parsed.scheme = "https".toList

/-- The revision at the end of the path of an address. -/
def PathRevision (value : Json) (revision : Chars) : Prop :=
  ∃ parsed, Reads refusal value parsed ∧ pathRevision? parsed = some revision

/-- The revision that the fragment of an address is. -/
def FragmentRevision (value : Json) (revision : Chars) : Prop :=
  ∃ parsed, Reads refusal value parsed ∧ fragmentRevision? parsed = some revision

def Names (source : Mapping) (repo : Chars) : Prop :=
  ∃ revision, normalizedRepositoryUri refusal (source.get "uri") = .ok (repo, revision)

/-- The source names the repository, is bound to the commit, and names no other. -/
structure Binds (source : Mapping) (repo sha : Chars) : Prop where
  names : Names refusal source repo
  bound : sha ∈ sourceDigestValues (source.get "digest") ∨
    PathRevision refusal (source.get "uri") sha ∨ FragmentRevision refusal (source.get "uri") sha
  path : ∀ revision, PathRevision refusal (source.get "uri") revision → revision = sha
  fragment : ∀ revision, FragmentRevision refusal (source.get "uri") revision → revision = sha

/-- The promise of an accepted document. -/
structure Bound (provenance : Mapping) (repo sha : Chars) : Prop where
  source : ∃ source ∈ configSources provenance ++ candidates provenance,
    Binds refusal source repo sha
  config : ∀ source ∈ configSources provenance, Names refusal source repo →
    Binds refusal source repo sha

/-- An address whose path ends in the commit and whose fragment is another one. -/
structure Doubled (source : Mapping) (repo sha : Chars) : Prop where
  names : Names refusal source repo
  path : PathRevision refusal (source.get "uri") sha
  fragment : ∃ other ≠ sha, FragmentRevision refusal (source.get "uri") other

section

variable {refusal} {value : Json} {source : Mapping} {repo sha : Chars}

theorem lower_ne_nil {cs : Chars} (h : isFullRevision cs = true) : lower cs ≠ [] := by
  cases cs with
  | nil => cases h
  | cons c cs =>
    have head : Text.lowerChar c ≠ [] := by
      unfold Text.lowerChar
      split_ifs <;> nofun
    rw [lower, List.flatMap_cons]
    exact fun empty => head (List.append_eq_nil_iff.mp empty).1

theorem isFullRevision_of_trailing {path before revision : Chars}
    (h : trailingRevision path = some (before, revision)) : isFullRevision revision = true := by
  unfold trailingRevision at h
  split at h
  · simp only at h
    split at h
    next full =>
      cases h
      exact (Bool.and_eq_true_iff.mp full).2
    next => cases h
  · cases h

/-- The revision that the check reads: the one of the path, or else the one of the fragment. -/
theorem exists_reads {revision : Chars} (nonempty : repo ≠ [])
    (h : normalizedRepositoryUri refusal value = .ok (repo, revision)) :
    ∃ parsed, Reads refusal value parsed ∧
      revision = ((pathRevision? parsed).or (fragmentRevision? parsed)).getD [] := by
  simp only [normalizedRepositoryUri, bind_eq_ok] at h
  obtain ⟨split, read, h⟩ := h
  cases split with
  | none =>
    cases h
    exact absurd rfl nonempty
  | some parsed =>
    simp only at h
    split at h
    next =>
      cases h
      exact absurd rfl nonempty
    next https =>
      refine ⟨parsed, ⟨read, not_not.mp https⟩, ?_⟩
      have revision_eq : _ = revision := congrArg Prod.snd (pure_eq_ok.mp h)
      rw [← revision_eq, pathRevision?, fragmentRevision?]
      cases found : trailingRevision (stripSlashes parsed.path) with
      | some pair =>
        have full := lower_ne_nil (isFullRevision_of_trailing found)
        simp [full]
      | none =>
        by_cases full : isFullRevision parsed.fragment = true
        · have filled : parsed.fragment ≠ [] := by
            rintro empty
            rw [empty] at full
            cases full
          simp [full, filled]
        · simp [full]

theorem Reads.unique {parsed parsed' : SplitUrl} (h : Reads refusal value parsed)
    (h' : Reads refusal value parsed') : parsed = parsed' := by
  cases h.1.symm.trans h'.1
  rfl

theorem Reads.pathRevision_iff {parsed : SplitUrl} {revision : Chars}
    (h : Reads refusal value parsed) :
    PathRevision refusal value revision ↔ pathRevision? parsed = some revision :=
  ⟨fun ⟨_, h', eq⟩ => h.unique h' ▸ eq, fun eq => ⟨parsed, h, eq⟩⟩

theorem Reads.fragmentRevision_iff {parsed : SplitUrl} {revision : Chars}
    (h : Reads refusal value parsed) :
    FragmentRevision refusal value revision ↔ fragmentRevision? parsed = some revision :=
  ⟨fun ⟨_, h', eq⟩ => h.unique h' ▸ eq, fun eq => ⟨parsed, h, eq⟩⟩

/-- A source that matches is bound to the commit, or doubled. -/
theorem matchesSource_iff (nonempty : repo ≠ []) (commit : sha ≠ []) :
    matchesSource refusal repo sha source = .ok true ↔
      Binds refusal source repo sha ∨ Doubled refusal source repo sha := by
  by_cases names : Names refusal source repo
  · obtain ⟨revision, named⟩ := id names
    obtain ⟨parsed, reads, eq⟩ := exists_reads nonempty named
    have binds : Binds refusal source repo sha ↔
        (sha ∈ sourceDigestValues (source.get "digest") ∨ pathRevision? parsed = some sha ∨
          fragmentRevision? parsed = some sha) ∧
        (∀ r, pathRevision? parsed = some r → r = sha) ∧
        ∀ r, fragmentRevision? parsed = some r → r = sha := by
      simp only [← reads.pathRevision_iff, ← reads.fragmentRevision_iff]
      exact ⟨fun h => ⟨h.bound, h.path, h.fragment⟩, fun h => ⟨names, h.1, h.2.1, h.2.2⟩⟩
    have doubled : Doubled refusal source repo sha ↔
        pathRevision? parsed = some sha ∧ ∃ other ≠ sha, fragmentRevision? parsed = some other := by
      simp only [← reads.pathRevision_iff, ← reads.fragmentRevision_iff]
      exact ⟨fun h => ⟨h.path, h.fragment⟩, fun h => ⟨names, h.1, h.2⟩⟩
    have filled {r : Chars} (h : pathRevision? parsed = some r ∨ fragmentRevision? parsed = some r) :
        r ≠ [] := by
      rcases h with path | fragment
      · obtain ⟨⟨before, found⟩, at_, rfl⟩ := Option.map_eq_some_iff.mp path
        exact lower_ne_nil (isFullRevision_of_trailing at_)
      · unfold fragmentRevision? at fragment
        split at fragment
        next full =>
          cases fragment
          exact lower_ne_nil full
        next => cases fragment
    rw [binds, doubled, matchesSource, named, ok_bind]
    subst eq
    cases path : pathRevision? parsed with
    | some a =>
      have : a ≠ [] := filled (.inl path)
      cases fragment : fragmentRevision? parsed with
      | some b => by_cases h : a = sha <;> by_cases h' : b = sha <;> simp_all
      | none => by_cases h : a = sha <;> simp_all
    | none =>
      cases fragment : fragmentRevision? parsed with
      | some b =>
        have : b ≠ [] := filled (.inr fragment)
        by_cases h : b = sha <;> simp_all
      | none => simp_all [commit.symm]
  · have away : matchesSource refusal repo sha source ≠ .ok true := by
      intro h
      simp only [matchesSource, bind_eq_ok] at h
      obtain ⟨⟨other, revision⟩, named, h⟩ := h
      by_cases same : other = repo
      · exact names ⟨revision, same ▸ named⟩
      · simp [same] at h
    exact ⟨fun h => absurd h away, fun h => absurd (h.elim (·.names) (·.names)) names⟩

/-- The search stops at the first source that matches, or at one that cannot be read. -/
theorem anyMatches_iff {sources : List Mapping} :
    anyMatches refusal repo sha sources = .ok true ↔
      ∃ before source after, sources = before ++ source :: after ∧
        (∀ earlier ∈ before, ∃ other, Names refusal earlier other) ∧
        matchesSource refusal repo sha source = .ok true := by
  induction sources with
  | nil => simp [anyMatches]
  | cons first rest ih =>
    rw [anyMatches, bind_eq_ok]
    constructor
    · rintro ⟨hit, one, h⟩
      cases hit with
      | true => exact ⟨[], first, rest, rfl, nofun, one⟩
      | false =>
        obtain ⟨before, source, after, rfl, readable, hit⟩ := ih.mp h
        refine ⟨first :: before, source, after, rfl, List.forall_mem_cons.mpr ⟨?_, readable⟩, hit⟩
        simp only [matchesSource, bind_eq_ok] at one
        obtain ⟨⟨other, revision⟩, named, -⟩ := one
        exact ⟨other, revision, named⟩
    · rintro ⟨before, source, after, eq, readable, hit⟩
      cases before with
      | nil =>
        cases eq
        exact ⟨true, hit, rfl⟩
      | cons earlier before =>
        cases eq
        obtain ⟨⟨other, revision, named⟩, readable⟩ := List.forall_mem_cons.mp readable
        have more := ih.mpr ⟨before, source, after, rfl, readable, hit⟩
        have answered : ∃ b, matchesSource refusal repo sha first = .ok b := by
          rw [matchesSource, named, ok_bind]
          simp only
          split_ifs <;> exact ⟨_, rfl⟩
        obtain ⟨b, answer⟩ := answered
        refine ⟨b, answer, ?_⟩
        cases b with
        | true => rfl
        | false => exact more

theorem Names.unique {repo' : Chars} (h : Names refusal source repo)
    (h' : Names refusal source repo') : repo = repo' := by
  obtain ⟨_, h⟩ := h
  obtain ⟨_, h'⟩ := h'
  cases h.symm.trans h'
  rfl

end

/-! ### What acceptance promises -/

/-- The check goes on with this expected repository. -/
structure Expected (expectedRepository expectedSha : String) (repo : Chars) : Prop where
  sha : isFullRevision expectedSha.toList = true
  nonempty : repo ≠ []
  read : ∃ revision, normalizedRepositoryUri refusal (.str expectedRepository) = .ok (repo, revision)

theorem Expected.unique {refusal} {expectedRepository expectedSha : String} {repo repo' : Chars}
    (h : Expected refusal expectedRepository expectedSha repo)
    (h' : Expected refusal expectedRepository expectedSha repo') : repo = repo' := by
  obtain ⟨_, read⟩ := h.read
  obtain ⟨_, read'⟩ := h'.read
  cases read.symm.trans read'
  rfl

/-- A config source of the repository decides; without one the candidates do. -/
def Accepts (provenance : Mapping) (repo sha : Chars) : Prop :=
  (∃ source ∈ configSources provenance, Binds refusal source repo sha ∨
    Doubled refusal source repo sha) ∨
  (∀ source ∈ configSources provenance, ∃ other ≠ repo, Names refusal source other) ∧
    anyMatches refusal repo sha (candidates provenance) = .ok true

theorem configSources_cases (provenance : Mapping) :
    configSources provenance = [] ∨ ∃ source, configSources provenance = [source] := by
  unfold configSources
  cases (do
    let definition ← object? ((statement provenance).get "buildDefinition")
    let external ← object? (definition.get "externalParameters")
    object? (external.get "configSource") : Option Mapping) with
  | none => exact .inl rfl
  | some source => exact .inr ⟨source, rfl⟩

theorem verifyProvenanceSource_eq_ok {refusal} {provenance : Mapping}
    {expectedRepository expectedSha : String} :
    verifyProvenanceSource refusal provenance expectedRepository expectedSha = .ok () ↔
      ∃ repo, Expected refusal expectedRepository expectedSha repo ∧
        Accepts refusal provenance repo (lower expectedSha.toList) := by
  have inverted : verifyProvenanceSource refusal provenance expectedRepository expectedSha = .ok () ↔
      ∃ repo, Expected refusal expectedRepository expectedSha repo ∧
        ∃ matching, matchingSources refusal repo (configSources provenance) = .ok matching ∧
          anyMatches refusal repo (lower expectedSha.toList)
            (if matching ≠ [] then matching else candidates provenance) = .ok true := by
    simp only [verifyProvenanceSource, bind_eq_ok, require_eq_ok, exists_const]
    constructor
    · rintro ⟨full, ⟨repo, revision⟩, read, nonempty, matching, named, h⟩
      refine ⟨repo, ⟨full, nonempty, revision, read⟩, matching, named, ?_⟩
      split at h
      next some =>
        simp only [bind_eq_ok, require_eq_ok] at h
        obtain ⟨b, any, rfl⟩ := h
        rw [if_pos some, any]
      next none =>
        simp only [bind_eq_ok, require_eq_ok] at h
        obtain ⟨b, any, rfl⟩ := h
        rw [if_neg none, any]
    · rintro ⟨repo, ⟨full, nonempty, revision, read⟩, matching, named, any⟩
      refine ⟨full, ⟨repo, revision⟩, read, nonempty, matching, named, ?_⟩
      split
      next some =>
        rw [if_pos some] at any
        rw [any]
        rfl
      next none =>
        rw [if_neg none] at any
        rw [any]
        rfl
  rw [inverted]
  refine exists_congr fun repo => and_congr_right fun expected => ?_
  have commit := lower_ne_nil expected.sha
  unfold Accepts
  rcases configSources_cases provenance with empty | ⟨source, single⟩
  · simp [empty, matchingSources]
  · rw [single]
    simp only [matchingSources, bind_eq_ok, List.mem_singleton, exists_eq_left, forall_eq,
      ← matchesSource_iff expected.nonempty commit]
    constructor
    · rintro ⟨_, ⟨⟨named, revision⟩, read, _, ⟨⟩, ⟨⟩⟩, any⟩
      by_cases same : named = repo
      · obtain ⟨before, found, after, eq, -, hit⟩ := anyMatches_iff.mp (by simpa [same] using any)
        cases before with
        | nil =>
          cases eq
          exact .inl hit
        | cons _ before => cases before <;> cases eq
      · exact .inr ⟨⟨named, same, revision, read⟩, by simpa [same] using any⟩
    · rintro (hit | ⟨⟨named, other, revision, read⟩, any⟩)
      · obtain ⟨revision, read⟩ := ((matchesSource_iff expected.nonempty commit).mp hit).elim
          (·.names) (·.names)
        refine ⟨_, ⟨(repo, revision), read, [], rfl, rfl⟩, ?_⟩
        simp only [if_true, ne_eq, List.cons_ne_self, not_false_eq_true]
        exact anyMatches_iff.mpr ⟨[], source, [], rfl, List.forall_mem_nil _, hit⟩
      · exact ⟨_, ⟨(named, revision), read, [], rfl, rfl⟩, by simpa [other] using any⟩

/-- No source that decides has a second revision in its address, or a candidate without one
decides the same. -/
structure Undoubled (provenance : Mapping) (repo sha : Chars) : Prop where
  config : ∀ source ∈ configSources provenance, ¬Doubled refusal source repo sha
  candidate : (∀ source ∈ configSources provenance, ∃ other ≠ repo, Names refusal source other) →
    ∀ before source after, candidates provenance = before ++ source :: after →
      (∀ earlier ∈ before, ∃ other, Names refusal earlier other) →
      Doubled refusal source repo sha → ∃ source' ∈ candidates provenance,
        Binds refusal source' repo sha

theorem Doubled.not_binds {refusal} {source : Mapping} {repo sha : Chars}
    (h : Doubled refusal source repo sha) : ¬Binds refusal source repo sha := by
  obtain ⟨other, ne, fragment⟩ := h.fragment
  exact fun binds => ne (binds.fragment other fragment)

/-- An accepted document is bound to the repository and the commit exactly when it is not
accepted for a source that names a second revision. -/
theorem verifyProvenanceSource_bound_iff (provenance : Mapping)
    (expectedRepository expectedSha : String) :
    (verifyProvenanceSource refusal provenance expectedRepository expectedSha = .ok () →
      ∃ repo, Expected refusal expectedRepository expectedSha repo ∧
        Bound refusal provenance repo (lower expectedSha.toList)) ↔
    ∀ repo, Expected refusal expectedRepository expectedSha repo →
      Undoubled refusal provenance repo (lower expectedSha.toList) := by
  rw [verifyProvenanceSource_eq_ok]
  constructor
  · intro promise repo expected
    have commit := lower_ne_nil expected.sha
    have bound (accepts : Accepts refusal provenance repo (lower expectedSha.toList)) :
        Bound refusal provenance repo (lower expectedSha.toList) := by
      obtain ⟨repo', expected', bound⟩ := promise ⟨repo, expected, accepts⟩
      cases expected.unique expected'
      exact bound
    constructor
    · intro source mem doubled
      have binds := (bound (.inl ⟨source, mem, .inr doubled⟩)).config source mem doubled.names
      exact doubled.not_binds binds
    · intro others before source after eq readable doubled
      have hit := (matchesSource_iff expected.nonempty commit).mpr (.inr doubled)
      have accepts : Accepts refusal provenance repo (lower expectedSha.toList) :=
        .inr ⟨others, anyMatches_iff.mpr ⟨before, source, after, eq, readable, hit⟩⟩
      obtain ⟨source', mem, binds⟩ := (bound accepts).source
      rcases List.mem_append.mp mem with config | candidate
      · obtain ⟨other, ne, named⟩ := others source' config
        exact absurd (named.unique binds.names) ne
      · exact ⟨source', candidate, binds⟩
  · rintro undoubled ⟨repo, expected, accepts⟩
    have commit := lower_ne_nil expected.sha
    have single := undoubled repo expected
    refine ⟨repo, expected, ?_⟩
    rcases accepts with ⟨source, mem, hit⟩ | ⟨others, any⟩
    · have binds := hit.resolve_right (single.config source mem)
      refine ⟨⟨source, List.mem_append_left _ mem, binds⟩, fun source' mem' _ => ?_⟩
      rcases configSources_cases provenance with empty | ⟨only, eq⟩
      · rw [empty] at mem
        cases mem
      · rw [eq] at mem mem'
        cases List.mem_singleton.mp mem
        cases List.mem_singleton.mp mem'
        exact binds
    · obtain ⟨before, source, after, eq, readable, hit⟩ := anyMatches_iff.mp any
      have found : ∃ source' ∈ candidates provenance,
          Binds refusal source' repo (lower expectedSha.toList) := by
        rcases (matchesSource_iff expected.nonempty commit).mp hit with binds | doubled
        · exact ⟨source, eq ▸ List.mem_append_right _ List.mem_cons_self, binds⟩
        · exact single.candidate others before source after eq readable doubled
      obtain ⟨source', mem, binds⟩ := found
      refine ⟨⟨source', List.mem_append_right _ mem, binds⟩, fun config mem' names => ?_⟩
      obtain ⟨other, ne, named⟩ := others config mem'
      exact absurd (named.unique names) ne

end

def sampleSha : String := "aaaaaaaaaaaaaaaaaaaaaaaaaaaaaaaaaaaaaaaa"

def otherSha : String := "bbbbbbbbbbbbbbbbbbbbbbbbbbbbbbbbbbbbbbbb"

def doubledSource : Mapping :=
  [("uri", .str ("git+https://github.com/acme/shop.git@" ++ sampleSha ++ "#" ++ otherSha))]

def doubledProvenance : Mapping := [("materials", .arr [.obj doubledSource])]

/-- The only material names another commit in its fragment, and is accepted. -/
theorem verifyProvenanceSource_doubled :
    verifyProvenanceSource (fun _ => none) doubledProvenance "https://github.com/acme/shop"
      sampleSha = .ok () ∧
    ¬∃ repo, Expected (fun _ => none) "https://github.com/acme/shop" sampleSha repo ∧
      Bound (fun _ => none) doubledProvenance repo (lower sampleSha.toList) := by
  refine ⟨by decide +kernel, ?_⟩
  rintro ⟨repo, -, bound⟩
  obtain ⟨source, mem, binds⟩ := bound.source
  have only : configSources doubledProvenance ++ candidates doubledProvenance = [doubledSource] := by
    rfl
  rw [only] at mem
  cases List.mem_singleton.mp mem
  have fragment : FragmentRevision (fun _ => none) (doubledSource.get "uri") otherSha.toList :=
    ⟨urlsplit ("https://github.com/acme/shop.git@" ++ sampleSha ++ "#" ++ otherSha).toList [],
      by constructor <;> decide +kernel, by decide +kernel⟩
  exact absurd (binds.fragment _ fragment) (by decide +kernel)

end OptimizrActions.ContainerRelease.Provenance
