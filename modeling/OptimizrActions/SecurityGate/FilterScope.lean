import Mathlib.Data.List.TakeWhile
import OptimizrActions.Lib.Segments
import OptimizrActions.SecurityGate.FilterLaws

/-! The scope of an exception: the paths that the enforced report tells apart. -/

namespace OptimizrActions.SecurityGate

open KeyValue

/-- A path as text, with slashes; what is no text names no path. -/
def pathText : Json → List Char
  | .str value => slashes value.toList
  | _ => []

/-- `value.lstrip("./")` -/
def stripped (path : List Char) : List Char := path.dropWhile isDotSlash

theorem normalizePath_eq (value : Json) : normalizePath value = stripped (pathText value) := by
  cases value <;> rfl

/-- The components of a path, without the `/` and `./` it begins with. -/
def components (path : List Char) : List (List Char) :=
  (splitOn '/' path).dropWhile fun part => part = [] ∨ part = ['.']

/-- The text of a path, without the `/` and `./` it begins with. -/
def relativeText : List Char → List Char
  | '/' :: rest => relativeText rest
  | '.' :: '/' :: rest => relativeText rest
  | ['.'] => []
  | path => path

/-- The dots and slashes of components that `lstrip` takes away. -/
def lostText (path : List Char) : List Char := (relativeText path).takeWhile isDotSlash

section Path

variable {path : List Char}

theorem stripped_relativeText : stripped (relativeText path) = stripped path := by
  fun_induction relativeText path with
  | case1 rest ih => rw [ih, stripped, stripped, List.dropWhile_cons_of_pos rfl]
  | case2 rest ih =>
    rw [ih, stripped, stripped, List.dropWhile_cons_of_pos rfl, List.dropWhile_cons_of_pos rfl]
  | case3 => rfl
  | case4 => rfl

theorem lostText_append : lostText path ++ stripped path = relativeText path := by
  rw [← stripped_relativeText]
  exact List.takeWhile_append_dropWhile

theorem components_eq (some : stripped path ≠ []) :
    components path = splitOn '/' (relativeText path) := by
  fun_induction relativeText path with
  | case1 rest ih =>
    rw [stripped, List.dropWhile_cons_of_pos rfl] at some
    rw [components, splitOn_sep, List.dropWhile_cons_of_pos (by simp)]
    exact ih some
  | case2 rest ih =>
    rw [stripped, List.dropWhile_cons_of_pos rfl, List.dropWhile_cons_of_pos rfl] at some
    have split : splitOn '/' ('.' :: '/' :: rest) = ['.'] :: splitOn '/' rest :=
      @splitOn_append '/' ['.'] (by decide) rest
    rw [components, split, List.dropWhile_cons_of_pos (by simp)]
    exact ih some
  | case3 => exact absurd rfl some
  | case4 path slash dot single =>
    cases path with
    | nil => exact absurd rfl some
    | cons c rest =>
      have ne : c ≠ '/' := fun same => slash rest (by rw [same])
      obtain ⟨segment, segments, at_, here⟩ := splitOn_cons_of_ne ne rest
      rw [components, here, List.dropWhile_cons_of_neg]
      intro trivial
      have alone : c :: segment = ['.'] := (of_decide_eq_true trivial).resolve_left nofun
      obtain ⟨rfl, rfl⟩ := List.cons.inj alone
      cases rest with
      | nil => exact single rfl
      | cons next rest =>
        by_cases same : next = '/'
        · exact dot rest (by rw [same])
        · obtain ⟨segment, segments', -, there⟩ := splitOn_cons_of_ne same rest
          cases at_.symm.trans there

theorem isDotSlash_of_mem_lostText {c : Char} (mem : c ∈ lostText path) : isDotSlash c = true :=
  List.mem_takeWhile_imp mem

theorem head_stripped {c : Char} {rest : List Char} (h : stripped path = c :: rest) :
    isDotSlash c = false := by
  have here := List.head?_dropWhile_not isDotSlash path
  rw [← stripped, h] at here
  simpa using here

end Path

/-- The candidate and the path have lost the same dots of components; where the stripped path ends
the candidate, what the path has lost stands there before it. -/
structure KeepsDots (candidate path : List Char) : Prop where
  whole : stripped candidate = stripped path → lostText candidate = lostText path
  part : '/' :: stripped path <:+ stripped candidate →
    '/' :: (lostText path ++ stripped path) <:+ stripped candidate

/-- A match of the stripped texts is a match of the paths, component by component. -/
structure PathSound (candidate path : List Char) : Prop where
  whole : stripped candidate = stripped path → components candidate = components path
  part : endsWithPath (stripped candidate) (stripped path) = true →
    components path <:+ components candidate

theorem endsWithPath_iff {candidate path : List Char} : endsWithPath candidate path = true ↔
    candidate = path ∨ '/' :: path <:+ candidate := by
  simp [endsWithPath]

section Pair

variable {candidate path : List Char}

/-- Dots and slashes cannot reach over the first letter of the stripped candidate. -/
theorem suffix_stripped (front : '/' :: stripped path <:+ stripped candidate)
    (whole : '/' :: (lostText path ++ stripped path) <:+ lostText candidate ++ stripped candidate) :
    '/' :: (lostText path ++ stripped path) <:+ stripped candidate := by
  refine (List.suffix_or_suffix_of_suffix whole (List.suffix_append _ _)).resolve_right ?_
  rintro ⟨more, covers⟩
  obtain ⟨before, split⟩ := front
  have dots : more ++ before ++ ['/'] = '/' :: lostText path := by
    refine @List.append_cancel_right _ _ (stripped path) _ ?_
    rw [List.append_assoc, List.append_assoc, List.singleton_append, split, covers, List.cons_append]
  cases before with
  | nil => exact absurd (head_stripped split.symm) nofun
  | cons c rest =>
    have mem : c ∈ '/' :: lostText path := by
      rw [← dots]
      simp
    have letter : isDotSlash c = false := head_stripped split.symm
    rcases List.mem_cons.mp mem with rfl | lost
    · exact absurd letter nofun
    · exact absurd (letter.symm.trans (isDotSlash_of_mem_lostText lost)) nofun

theorem pathSound_iff (candidateSome : stripped candidate ≠ []) (pathSome : stripped path ≠ []) :
    PathSound candidate path ↔ KeepsDots candidate path := by
  have same : components candidate = components path ↔
      lostText candidate ++ stripped candidate = lostText path ++ stripped path := by
    rw [components_eq candidateSome, components_eq pathSome, splitOn_injective.eq_iff,
      lostText_append, lostText_append]
  have ends : components path <:+ components candidate ↔
      lostText path ++ stripped path = lostText candidate ++ stripped candidate ∨
        '/' :: (lostText path ++ stripped path) <:+ lostText candidate ++ stripped candidate := by
    rw [components_eq candidateSome, components_eq pathSome, splitOn_suffix, lostText_append,
      lostText_append]
  constructor
  · rintro ⟨whole, part⟩
    refine ⟨fun equal => ?_, fun suffix => ?_⟩
    · have texts := same.mp (whole equal)
      rw [equal] at texts
      exact List.append_cancel_right texts
    · rcases ends.mp (part (endsWithPath_iff.mpr (.inr suffix))) with equal | longer
      · have stripped_eq : stripped path = stripped candidate := by
          rw [lostText_append, lostText_append] at equal
          rw [← stripped_relativeText, equal, stripped_relativeText]
        have length := suffix.length_le
        rw [stripped_eq, List.length_cons] at length
        omega
      · exact suffix_stripped suffix longer
  · rintro ⟨whole, part⟩
    refine ⟨fun equal => same.mpr ?_, fun matched => ends.mpr ?_⟩
    · rw [whole equal, equal]
    · rcases endsWithPath_iff.mp matched with equal | suffix
      · exact .inl (by rw [whole equal, equal])
      · exact .inr ((part suffix).trans (List.suffix_append _ _))

end Pair

/-- The members of a scope, as the loop over it finds them. -/
def itemsOf (scope : Json) : List Json :=
  match scopeItems scope with
  | .ok items => items
  | .error _ => []

/-- The candidate is the path, or ends with it at the boundary of a component. -/
def InPath (candidate path : Json) : Prop :=
  components (pathText path) ≠ [] ∧ components (pathText path) <:+ components (pathText candidate)

/-- The exception names the finding, one of its paths and one of its packages. -/
structure CoveredBy (exception finding : Mapping) (candidates : List Json) : Prop where
  id : exception.get "id" = .str (findingId finding)
  paths : (exception.get "paths").truthy = true →
    ∃ candidate ∈ candidates, ∃ path ∈ itemsOf (exception.get "paths"), InPath candidate path
  purls : (exception.get "purls").truthy = true →
    ∃ purl ∈ findingPurls finding, .str purl ∈ itemsOf (exception.get "purls")

/-- A finding of the report, with the target of its result. -/
inductive FindingOf (report : Mapping) : Json → Mapping → Prop
  | mk {result finding : Mapping} {field : String} {found : List Json}
      (result_mem : .obj result ∈ resultList report) (field_mem : field ∈ findingFields)
      (at_ : result.get field = .arr found) (mem : .obj finding ∈ found) :
      FindingOf report (result.getD "Target" (.str "")) finding

/-- A finding of the report that the enforced report does not have. -/
inductive RemovedOf (report filtered : Mapping) : Json → Mapping → Prop
  | mk {index : Nat} {result result' finding : Mapping} {field : String} {found kept : List Json}
      (before : (resultList report)[index]? = some (.obj result))
      (after : (resultList filtered)[index]? = some (.obj result'))
      (field_mem : field ∈ findingFields) (found_at : result.get field = .arr found)
      (kept_at : result'.get field = .arr kept) (mem : .obj finding ∈ found)
      (gone : .obj finding ∉ kept) :
      RemovedOf report filtered (result.getD "Target" (.str "")) finding

/-- Every pair of a candidate and a path that an exception of the finding's id compares. -/
def ForPaths (P : List Char → List Char → Prop) (report : Mapping) (entries : List Mapping) :
    Prop :=
  ∀ target finding, FindingOf report target finding → ∀ exception ∈ entries,
    exception.get "id" = .str (findingId finding) →
    ∀ candidate ∈ pathCandidates target finding, ∀ path ∈ itemsOf (exception.get "paths"),
      normalizePath candidate ≠ [] → normalizePath path ≠ [] →
        P (pathText candidate) (pathText path)

/-- Only findings that an exception covers are removed, and paths stay apart. -/
structure InScope (report filtered : Mapping) (entries : List Mapping) : Prop where
  removed : ∀ target finding, RemovedOf report filtered target finding →
    ∃ exception ∈ entries, CoveredBy exception finding (pathCandidates target finding)
  paths : ForPaths PathSound report entries

section Match

variable {entries : List Mapping} {exception finding : Mapping} {candidates : List Json}

theorem pathMatches_iff {expected : List Json} : pathMatches candidates expected = true ↔
    ∃ candidate ∈ candidates, normalizePath candidate ≠ [] ∧ ∃ path ∈ expected,
      normalizePath path ≠ [] ∧ endsWithPath (normalizePath candidate) (normalizePath path) := by
  simp [pathMatches]

theorem itemsOf_eq {scope : Json} {items : List Json} (h : scopeItems scope = .ok items) :
    itemsOf scope = items := by
  rw [itemsOf, h]

/-- What an exception that removes a finding has of it. -/
theorem matches_cases (h : findingMatchesException finding exception candidates = .ok true) :
    exception.get "id" = .str (findingId finding) ∧
      ((exception.get "paths").truthy = true →
        pathMatches candidates (itemsOf (exception.get "paths")) = true) ∧
      ((exception.get "purls").truthy = true →
        ∃ purl ∈ findingPurls finding, .str purl ∈ itemsOf (exception.get "purls")) := by
  unfold findingMatchesException at h
  split_ifs at h with id
  · obtain ⟨paths, pathsOk, rest⟩ := bind_eq_ok.mp h
    cases paths with
    | false => exact absurd rest nofun
    | true =>
      obtain ⟨pathItems, pathItemsOk, pathsHold⟩ := bind_eq_ok.mp pathsOk
      obtain ⟨purlItems, purlItemsOk, purlsHold⟩ := bind_eq_ok.mp rest
      obtain ⟨_, -, purlsHold⟩ := bind_eq_ok.mp purlsHold
      rw [pure_eq_ok] at pathsHold purlsHold
      rw [itemsOf_eq pathItemsOk, itemsOf_eq purlItemsOk]
      refine ⟨id, fun some => ?_, fun some => ?_⟩
      · simpa [some] using pathsHold
      · simpa [some] using purlsHold
  · exact absurd h nofun

theorem exists_of_matchesAny (h : matchesAny finding candidates entries = .ok true) :
    ∃ exception ∈ entries, findingMatchesException finding exception candidates = .ok true := by
  induction entries with
  | nil => exact absurd h nofun
  | cons exception rest ih =>
    obtain ⟨matched, ok, more⟩ := bind_eq_ok.mp h
    cases matched with
    | true => exact ⟨exception, List.mem_cons_self, ok⟩
    | false =>
      obtain ⟨other, mem, ok'⟩ := ih more
      exact ⟨other, List.mem_cons_of_mem _ mem, ok'⟩

theorem components_ne_nil {path : List Char} (some : stripped path ≠ []) : components path ≠ [] := by
  rw [components_eq some]
  exact splitOn_ne_nil _

/-- An exception that removes a finding covers it, where the paths it compares stay apart. -/
theorem coveredBy_of_matches (h : findingMatchesException finding exception candidates = .ok true)
    (sound : ∀ candidate ∈ candidates, ∀ path ∈ itemsOf (exception.get "paths"),
      normalizePath candidate ≠ [] → normalizePath path ≠ [] →
        PathSound (pathText candidate) (pathText path)) :
    CoveredBy exception finding candidates := by
  obtain ⟨id, paths, purls⟩ := matches_cases h
  refine ⟨id, fun some => ?_, purls⟩
  obtain ⟨candidate, mem, candidateSome, path, path_mem, pathSome, ends⟩ :=
    pathMatches_iff.mp (paths some)
  refine ⟨candidate, mem, path, path_mem, ?_, ?_⟩
  · rw [normalizePath_eq] at pathSome
    exact components_ne_nil pathSome
  · rw [normalizePath_eq, normalizePath_eq] at ends
    exact (sound candidate mem path path_mem candidateSome pathSome).part ends

end Match

section Run

variable {entries : List Mapping} {report policy filtered : Mapping} {removed : Removed}

/-- The list of a kind of findings in the enforced report. -/
theorem filterResult_list {before after : Mapping} {field : String} {found kept : List Json}
    (h : filterResult entries (.obj before) = .ok (.obj after, removed))
    (mem : field ∈ findingFields) (found_at : before.get field = .arr found)
    (kept_at : after.get field = .arr kept) :
    keptOf entries (before.getD "Target" (.str "")) found = .ok kept := by
  have turn {payload payload' : Mapping} {count : Nat}
      (ok : filterField entries (before.getD "Target" (.str "")) field payload = .ok (payload', count))
      (other : field ≠ "MisconfSummary") (at_ : payload.get field = .arr found)
      (at_' : payload'.get field = .arr kept) :
      keptOf entries (before.getD "Target" (.str "")) found = .ok kept := by
    rcases filterField_eq_ok.mp ok with ⟨_, _, found_at, kept_ok, rfl, -⟩ | ⟨none, -, -⟩
    · cases at_.symm.trans found_at
      cases at_'.symm.trans (get_withKept_self found_at other)
      exact kept_ok
    · exact absurd at_ (none found)
  obtain ⟨first, second, one, two, three⟩ := filterResult_obj.mp h
  simp only [findingFields, List.mem_cons, List.not_mem_nil, or_false] at mem
  rcases mem with rfl | rfl | rfl
  · rw [filterField_get three (by decide) (by decide),
      filterField_get two (by decide) (by decide)] at kept_at
    exact turn one (by decide) found_at kept_at
  · rw [filterField_get three (by decide) (by decide)] at kept_at
    rw [← filterField_get one (by decide) (by decide)] at found_at
    exact turn two (by decide) found_at kept_at
  · rw [← filterField_get one (by decide) (by decide),
      ← filterField_get two (by decide) (by decide)] at found_at
    exact turn three (by decide) found_at kept_at

theorem filterResults_get {found kept : List Json} {index : Nat} {result result' : Json}
    (h : filterResults entries found = .ok (kept, removed)) (before : found[index]? = some result)
    (after : kept[index]? = some result') :
    ∃ one, filterResult entries result = .ok (result', one) := by
  induction found generalizing kept removed index with
  | nil => exact absurd before nofun
  | cons head rest ih =>
    obtain ⟨head', one, rest', more, first, others, rfl, -⟩ := filterResults_cons.mp h
    cases index with
    | zero =>
      cases Option.some.inj before
      cases Option.some.inj after
      exact ⟨one, first⟩
    | succ index => exact ih others before after

/-- An exception has matched every finding that is gone. -/
theorem matches_of_removed (policyOk : policyEntries policy = .ok entries)
    (h : filterPayload report policy = .ok (filtered, removed)) {target : Json} {finding : Mapping}
    (gone : RemovedOf report filtered target finding) :
    matchesAny finding (pathCandidates target finding) entries = .ok true := by
  obtain ⟨before, after, field_mem, found_at, kept_at, mem, gone⟩ := gone
  have results : ∃ found kept removed, resultList report = found ∧ resultList filtered = kept ∧
      filterResults entries found = .ok (kept, removed) := by
    rcases (filterPayload_eq_ok policyOk).mp h with ⟨found, kept, at_, ok, rfl⟩ | ⟨absent, rfl, rfl⟩
    · have present : "Results" ∈ report.map Prod.fst := get_ne_null_mem (by rw [at_]; nofun)
      exact ⟨found, kept, removed, resultList_of_get at_,
        resultList_of_get (get_replaceField_self present), ok⟩
    · have null : filtered.get "Results" = .null := not_not.mp (mt get_ne_null_mem absent)
      have none : resultList filtered = [] := by rw [resultList, null]
      exact ⟨[], [], ⟨0, 0, 0⟩, none, none, rfl⟩
  obtain ⟨_, _, _, rfl, rfl, ok⟩ := results
  obtain ⟨one, turn⟩ := filterResults_get ok before after
  obtain ⟨each, rfl⟩ := keptOf_eq_ok.mp (filterResult_list turn field_mem found_at kept_at)
  obtain ⟨keep, decided⟩ := each _ mem
  have removes : keep = false := by
    by_contra stays
    refine gone (List.mem_filter.mpr ⟨mem, ?_⟩)
    rw [staysIn_of_ok decided]
    exact Bool.of_not_eq_false stays
  rw [removes] at decided
  obtain ⟨matched, matchedOk, negated⟩ := bind_eq_ok.mp decided
  have is_true : matched = true := by simpa using negated
  rwa [is_true] at matchedOk

/-- Findings are removed within the scope of the exceptions exactly where no dots are lost on one
side only. -/
theorem inScope_iff (policyOk : policyEntries policy = .ok entries)
    (h : filterPayload report policy = .ok (filtered, removed)) :
    InScope report filtered entries ↔ ForPaths KeepsDots report entries := by
  have pairs : ForPaths PathSound report entries ↔ ForPaths KeepsDots report entries := by
    refine forall₂_congr fun target finding => forall_congr' fun _ => forall₂_congr fun _ _ =>
      forall_congr' fun _ => forall₂_congr fun candidate _ => forall₂_congr fun path _ =>
        forall₂_congr fun candidateSome pathSome => ?_
    rw [normalizePath_eq] at candidateSome pathSome
    exact pathSound_iff candidateSome pathSome
  refine ⟨fun scope => pairs.mp scope.paths, fun kept =>
    ⟨fun target finding gone => ?_, pairs.mpr kept⟩⟩
  obtain ⟨exception, mem, matched⟩ := exists_of_matchesAny (matches_of_removed policyOk h gone)
  have named := (matches_cases matched).1
  have of_report : FindingOf report target finding := by
    obtain ⟨before, -, field_mem, found_at, -, found, -⟩ := gone
    exact .mk (List.mem_of_getElem? before) field_mem found_at found
  exact ⟨exception, mem, coveredBy_of_matches matched
    (pairs.mpr kept target finding of_report exception mem named)⟩

end Run

/-- A secret that an exception covers, in the file that it names. -/
theorem inScope_sample :
    let report : Mapping := [("Results", .arr [.obj [("Target", .str "./app/.env"),
      ("Secrets", .arr [.obj [("RuleID", .str "token")]])]])]
    let filtered : Mapping := [("Results", .arr [.obj [("Target", .str "./app/.env"),
      ("Secrets", .arr [])]])]
    let entries : List Mapping := [[("id", .str "token"), ("paths", .arr [.str "app/.env"])]]
    InScope report filtered entries ↔ ForPaths KeepsDots report entries :=
  @inScope_iff [[("id", .str "token"), ("paths", .arr [.str "app/.env"])]] _
    [("vulnerabilities", .arr [.obj [("id", .str "token"), ("paths", .arr [.str "app/.env"])]])] _
    ⟨0, 0, 1⟩ rfl rfl

/-- An exception for `.env` removes the secrets of `env`. -/
theorem filterPayload_widens :
    let report : Mapping := [("Results", .arr [.obj [("Target", .str "env"),
      ("Secrets", .arr [.obj [("RuleID", .str "token")]])]])]
    let policy : Mapping := [("vulnerabilities", .arr [.obj [("id", .str "token"),
      ("paths", .arr [.str ".env"])]])]
    let filtered : Mapping := [("Results", .arr [.obj [("Target", .str "env"),
      ("Secrets", .arr [])]])]
    let entries : List Mapping := [[("id", .str "token"), ("paths", .arr [.str ".env"])]]
    policyEntries policy = .ok entries ∧ filterPayload report policy = .ok (filtered, ⟨0, 0, 1⟩) ∧
      ¬ InScope report filtered entries := by
  intro report policy filtered entries
  refine ⟨rfl, rfl, fun scope => ?_⟩
  have gone : RemovedOf report filtered (.str "env") [("RuleID", .str "token")] :=
    @RemovedOf.mk report filtered 0
      [("Target", .str "env"), ("Secrets", .arr [.obj [("RuleID", .str "token")]])]
      [("Target", .str "env"), ("Secrets", .arr [])] [("RuleID", .str "token")] "Secrets"
      [.obj [("RuleID", .str "token")]] [] rfl rfl (by decide) rfl rfl List.mem_cons_self
      List.not_mem_nil
  obtain ⟨exception, mem, covered⟩ := scope.removed _ _ gone
  cases List.mem_singleton.mp mem
  obtain ⟨candidate, candidate_mem, path, path_mem, -, suffix⟩ := covered.paths rfl
  cases List.mem_singleton.mp path_mem
  simp only [pathCandidates, List.mem_cons, List.not_mem_nil, or_false] at candidate_mem
  rcases candidate_mem with rfl | rfl | rfl
  · exact absurd suffix (by decide)
  · exact absurd suffix (by decide)
  · exact absurd suffix (by decide)

end OptimizrActions.SecurityGate
