import OptimizrActions.Exceptions.Coverage
import Mathlib

/-! The exceptions of one quarantined image: the validator of the candidate's policy,
and what the renderer can make of a policy that it accepted. -/

namespace OptimizrActions.ContainerRelease.CandidateExceptions

open Exceptions

def isLowerAlnum (c : Char) : Bool := c.isLower || c.isDigit

def isSeparator (c : Char) : Bool := c = '.' || c = '_' || c = '-'

/-- What follows `ghcr.io` before the digest, from inside a name: `[a-z0-9]+` parts joined by
single separators or slashes, the last of them not empty. -/
def isPath (afterPart : Bool) : List Char → Bool
  | [] => afterPart
  | c :: cs =>
    if isLowerAlnum c then isPath true cs
    else afterPart && (isSeparator c || c = '/') && isPath false cs

/-- `_IMAGE_REF`: `ghcr.io/`, a path, `@` and a digest. -/
def isImageRef (s : String) : Bool :=
  "ghcr.io/".toList.isPrefixOf s.toList &&
    isPath false ((s.toList.drop 8).takeWhile (· ≠ '@')) &&
    Text.sha256Text Text.isLowerHex (String.ofList ((s.toList.dropWhile (· ≠ '@')).drop 1))

def requiredFields : List String := ["id", "owner", "statement", "compensating_control", "expires"]

def allowedFields : List String :=
  requiredFields ++ ["scan_types", "targets", "purls", "paths", "lineage_digests"]

/-- `value == [text]` -/
def isOnly (text : String) : Json → Bool
  | .arr [.str s] => s = text
  | _ => false

def exactId? : Json → Option String
  | .str s => if Text.strip s = "" ∨ s ≠ Text.strip s ∨ '*' ∈ s.toList then none else some s
  | _ => none

def exactPurl? : Json → Option String
  | .str s => if Text.strip s = "" ∨ '*' ∈ s.toList then none else some s
  | _ => none

def identifier (item : Mapping) (label : String) : Except String String :=
  match exactId? (item.get "id") with
  | some id => .ok id
  | none => .error (label ++ ".id must be an exact advisory identifier")

def purls (item : Mapping) (label : String) : Except String (List String) :=
  match item.get "purls" with
  | .arr (first :: rest) =>
    match (first :: rest).mapM exactPurl? with
    | some purls => .ok purls
    | none => .error (label ++ " must contain at least one exact PURL")
  | _ => .error (label ++ " must contain at least one exact PURL")

/-- One entry against the identifiers before it, in upper case; its own is returned. -/
def validateEntry (candidateImage : String) (index : Nat) (seenIds : List String) :
    Json → Except String String
  | .obj entry => do
    let label := entryLabel index
    require (entry.map Prod.fst ⊆ allowedFields) (label ++ " contains unsupported fields")
    require (requiredFields ⊆ entry.map Prod.fst)
      (label ++ " is missing required exception metadata")
    let id ← identifier entry label
    require (Text.upper id ∉ seenIds) ("duplicate exception identifier: " ++ id)
    require (isOnly "image" (Mapping.getD entry "scan_types" (.arr [.str "image"])) = true)
      (label ++ " must be image-only")
    require (isOnly candidateImage (Mapping.get entry "targets") = true)
      (label ++ " must target the exact candidate digest")
    require ((Mapping.get entry "lineage_digests").truthy = false)
      (label ++ " must target the exact candidate digest directly")
    let purls ← purls entry label
    require purls.Nodup (label ++ " contains duplicate PURLs")
    pure (Text.upper id)
  | _ => .error (entryLabel index ++ " must be an object")

def isVersionOne : Json → Bool
  | .bool _ => false
  | version => version.eqOne

/-- The number of exceptions of a policy all of whose entries bind this image alone. -/
def validatePolicy (payload : Json) (candidateImage : String) : Except String Nat := do
  require (isImageRef candidateImage = true) "candidate image must be a full GHCR digest reference"
  match payload with
  | .obj payload => do
    require (isVersionOne (Mapping.get payload "version") = true) "exception policy version must be 1"
    match Mapping.get payload "vulnerabilities" with
    | .arr entries => do
      require (entries ≠ [] ∧ entries.length ≤ 25)
        "candidate policy must contain between 1 and 25 exceptions"
      let _ ← gather (validateEntry candidateImage) 0 [] entries
      pure entries.length
    | _ => .error "candidate policy must contain between 1 and 25 exceptions"
  | _ => .error "exception policy version must be 1"

/-! ### What an accepted entry binds -/

/-- The scope that the renderer reads from an accepted entry. -/
structure Bound (candidateImage : String) (entry : Mapping) : Prop where
  scanTypes : entry.getD "scan_types" (.arr [.str "image"]) = .arr [.str "image"]
  targets : entry.get "targets" = .arr [.str candidateImage]
  lineage : (entry.get "lineage_digests").truthy = false
  id : ∃ id, entry.get "id" = .str id ∧ Text.strip id = id

theorem isOnly_iff {text : String} {value : Json} : isOnly text value = true ↔ value = .arr [.str text] := by
  unfold isOnly
  split
  · simp
  · rename_i other
    constructor
    · nofun
    · rintro rfl
      exact absurd rfl (other text)

theorem identifier_eq_ok {item : Mapping} {label id : String} (h : identifier item label = .ok id) :
    item.get "id" = .str id ∧ Text.strip id = id := by
  unfold identifier exactId? at h
  cases at_ : item.get "id" with
  | str s =>
    rw [at_] at h
    by_cases bad : Text.strip s = "" ∨ s ≠ Text.strip s ∨ '*' ∈ s.toList
    · simp [if_pos bad] at h
    · simp only [if_neg bad, Except.ok.injEq] at h
      subst h
      push Not at bad
      exact ⟨rfl, bad.2.1.symm⟩
  | _ => simp [at_] at h

theorem validateEntry_bound {candidateImage : String} {index : Nat} {seenIds : List String}
    {item : Json} {key : String} (h : validateEntry candidateImage index seenIds item = .ok key) :
    ∃ entry, item = .obj entry ∧ Bound candidateImage entry := by
  cases item with
  | obj entry =>
    simp only [validateEntry, bind_eq_ok, require_eq_ok, exists_const, pure_eq_ok, isOnly_iff] at h
    obtain ⟨-, -, id, read, -, types, targets, lineage, -⟩ := h
    exact ⟨entry, rfl, types, targets, lineage, id, identifier_eq_ok read⟩
  | _ => cases h

theorem gather_bound {candidateImage : String} {index : Nat} {seen out : List String}
    {items : List Json} (h : gather (validateEntry candidateImage) index seen items = .ok out) :
    ∀ item ∈ items, ∃ entry, item = .obj entry ∧ Bound candidateImage entry := by
  induction items generalizing index seen with
  | nil => nofun
  | cons item rest ih =>
    rw [gather] at h
    split at h
    next key one =>
      exact List.forall_mem_cons.mpr ⟨validateEntry_bound one, ih h⟩
    next => cases h

/-- An accepted policy names its image in every entry. -/
theorem validatePolicy_bound {payload : Json} {candidateImage : String} {count : Nat}
    (h : validatePolicy payload candidateImage = .ok count) :
    isImageRef candidateImage = true ∧ ∃ fields entries, payload = .obj fields ∧
      Mapping.get fields "vulnerabilities" = .arr entries ∧ entries.length = count ∧
      ∀ item ∈ entries, ∃ entry, item = .obj entry ∧ Bound candidateImage entry := by
  simp only [validatePolicy, bind_eq_ok, require_eq_ok, exists_const] at h
  obtain ⟨image, h⟩ := h
  cases payload with
  | obj fields =>
    simp only [bind_eq_ok, require_eq_ok, exists_const] at h
    obtain ⟨-, h⟩ := h
    split at h
    next entries at_ =>
      simp only [bind_eq_ok, require_eq_ok, exists_const, pure_eq_ok] at h
      obtain ⟨-, out, gathered, rfl⟩ := h
      exact ⟨image, fields, entries, rfl, at_, rfl, gather_bound gathered⟩
    next => cases h
  | _ => cases h

/-! ### The reference of a candidate -/

theorem mem_of_isPath {afterPart : Bool} {cs : List Char} (h : isPath afterPart cs = true) :
    ∀ c ∈ cs, isLowerAlnum c = true ∨ isSeparator c = true ∨ c = '/' := by
  induction cs generalizing afterPart with
  | nil => nofun
  | cons c cs ih =>
    rw [isPath] at h
    split at h
    next part => exact List.forall_mem_cons.mpr ⟨.inl part, ih h⟩
    next =>
      simp only [Bool.and_eq_true, Bool.or_eq_true, decide_eq_true_eq] at h
      exact List.forall_mem_cons.mpr ⟨.inr h.1.2, ih h.2⟩

theorem isSpace_of_mem_path {c : Char}
    (h : isLowerAlnum c = true ∨ isSeparator c = true ∨ c = '/') : Text.isSpace c = false := by
  rcases h with part | separator | rfl
  · have range : 97 ≤ c.toNat ∧ c.toNat ≤ 122 ∨ 48 ≤ c.toNat ∧ c.toNat ≤ 57 := by
      simpa [isLowerAlnum, Char.isLower, Char.isDigit, UInt32.le_iff_toNat_le] using part
    by_contra space
    rw [Bool.not_eq_false] at space
    simp only [Text.isSpace, Bool.or_eq_true, Bool.and_eq_true, decide_eq_true_eq, List.mem_cons,
      List.not_mem_nil, or_false] at space
    omega
  · simp only [isSeparator, Bool.or_eq_true, decide_eq_true_eq] at separator
    rcases separator with (rfl | rfl) | rfl <;> rfl
  · rfl

theorem isSpace_of_sha256Text {s : String} (h : Text.sha256Text Text.isLowerHex s = true) :
    ∀ c ∈ s.toList, Text.isSpace c = false := by
  rw [Text.sha256Text, Bool.and_eq_true, List.isPrefixOf_iff_prefix] at h
  obtain ⟨⟨digits, eq⟩, hex⟩ := h
  have clean : ∀ c ∈ "sha256:".toList, Text.isSpace c = false :=
    List.all_iff_forall_prop.mp (by decide)
  rw [← eq] at hex ⊢
  rw [Text.hexText, Bool.and_eq_true, show ("sha256:".toList ++ digits).drop 7 = digits from rfl,
    List.all_eq_true] at hex
  rintro c mem
  rcases List.mem_append.mp mem with first | last
  · exact clean c first
  · exact Text.isSpace_of_isHex (by simp [Text.isHex, hex.2 c last])

theorem isSpace_of_isImageRef {s : String} (h : isImageRef s = true) :
    ∀ c ∈ s.toList, Text.isSpace c = false := by
  simp only [isImageRef, Bool.and_eq_true, List.isPrefixOf_iff_prefix] at h
  obtain ⟨⟨⟨rest, eq⟩, path⟩, digest⟩ := h
  have clean : ∀ c ∈ "ghcr.io/".toList, Text.isSpace c = false ∧ c ≠ '@' :=
    List.all_iff_forall_prop.mp (by decide)
  rw [← eq, show ("ghcr.io/".toList ++ rest).drop 8 = rest from rfl] at path
  have skipped : s.toList.dropWhile (· ≠ '@') = rest.dropWhile (· ≠ '@') := by
    rw [← eq, List.dropWhile_append_of_pos fun c mem => by simpa using (clean c mem).2]
  rw [skipped] at digest
  intro c mem
  rw [← eq, ← List.takeWhile_append_dropWhile (p := (· ≠ '@')) (l := rest)] at mem
  rcases List.mem_append.mp mem with host | mem
  · exact (clean c host).1
  rcases List.mem_append.mp mem with inPath | mem
  · exact isSpace_of_mem_path (mem_of_isPath path c inPath)
  · cases tail : rest.dropWhile (· ≠ '@') with
    | nil =>
      rw [tail] at mem
      cases mem
    | cons at_ digits =>
      rw [tail] at mem digest
      have first : at_ = '@' := by
        have stop := List.head?_dropWhile_not (· ≠ '@') rest
        rw [tail] at stop
        simpa using stop
      rcases List.mem_cons.mp mem with rfl | inside
      · rw [first]
        rfl
      · exact isSpace_of_sha256Text digest c (by simpa using inside)

/-- The renderer compares a candidate's reference as it stands. -/
theorem strip_of_isImageRef {s : String} (h : isImageRef s = true) :
    Text.strip s = s ∧ s ≠ "" ∧ s ≠ "*" := by
  refine ⟨?_, ?_, ?_⟩
  · rw [Text.strip, Text.stripChars_of_clean (isSpace_of_isImageRef h), String.ofList_toList]
  · rintro rfl
    cases h
  · rintro rfl
    cases h

/-! ### What the renderer makes of an accepted policy -/

theorem getD_of_get_arr {entry : Mapping} {field : String} {items : List Json} {default : Json}
    (h : entry.get field = .arr items) : entry.getD field default = .arr items := by
  unfold Mapping.get at h
  unfold Mapping.getD
  cases at_ : entry.lookup field with
  | none => simp [at_] at h
  | some value => simpa [at_] using h

theorem stringList_of_bound {candidateImage : String} {entry : Mapping} {index : Nat}
    {targets : List String} (bound : Bound candidateImage entry)
    (image : isImageRef candidateImage = true)
    (h : stringList entry "targets" index = .ok targets) : targets = [candidateImage] := by
  obtain ⟨strip, nonempty, -⟩ := strip_of_isImageRef image
  simpa [stringList, textArray, getD_of_get_arr bound.targets, strippedText?, strip, nonempty,
    eq_comm] using h

theorem digestList_of_falsy {entry : Mapping} {field : String} {index : Nat}
    {digests : List String} (falsy : (entry.get field).truthy = false)
    (h : digestList entry field index = .ok digests) : digests = [] := by
  simp only [digestList, bind_eq_ok, require_eq_ok, exists_const, pure_eq_ok] at h
  obtain ⟨values, read, -, rfl⟩ := h
  have none : values = [] := by
    unfold stringList textArray at read
    unfold Mapping.get at falsy
    unfold Mapping.getD at read
    cases at_ : entry.lookup field with
    | none => simpa [at_, eq_comm] using read
    | some value =>
      rw [at_, Option.getD_some] at falsy read
      cases value with
      | arr items =>
        cases items with
        | nil => simpa [eq_comm] using read
        | cons item rest => cases falsy
      | _ => cases read
  rw [none]
  rfl

theorem scanTypes_of_bound {candidateImage : String} {entry : Mapping} {index : Nat}
    (bound : Bound candidateImage entry) : scanTypes entry index = .ok [.image] := by
  rw [scanTypes, textArray]
  simp only [List.map_cons, List.map_nil, bound.scanTypes]
  rfl

/-- The rendered form of an entry, in full. -/
def Renders (item : Json) (rendered : Rendered) : Prop :=
  ∃ (entry : Mapping) (index : Nat), item = .obj entry ∧ entry.get "id" = .str rendered.id ∧
    stringList entry "purls" index = .ok rendered.purls ∧
    stringList entry "paths" index = .ok rendered.paths

section

variable {fromisoformat : String → Option Date} {today : Date} {target candidateImage : String}
  {lineage : List String}

theorem renderEntry_fs {entry : Mapping} {index : Nat} {out : Option (Rendered × List String)}
    (bound : Bound candidateImage entry)
    (h : renderEntry fromisoformat today target .fs lineage index (.obj entry) = .ok out) :
    out = none := by
  simp only [renderEntry, bind_eq_ok, scanTypes_of_bound bound] at h
  obtain ⟨_, -, _, -, _, -, _, -, _, -, _, -, _, -, types, eq, h⟩ := h
  cases eq
  rw [if_pos (by decide), pure_eq_ok] at h
  exact h.symm

theorem renderEntry_image {entry : Mapping} {index : Nat} {out : Option (Rendered × List String)}
    (bound : Bound candidateImage entry) (image : isImageRef candidateImage = true)
    (h : renderEntry fromisoformat today target .image lineage index (.obj entry) = .ok out) :
    (target ≠ candidateImage → out = none) ∧
      (target = candidateImage → ∃ rendered, out.map Prod.fst = some rendered ∧
        Renders (.obj entry) rendered) := by
  simp only [renderEntry, bind_eq_ok, scanTypes_of_bound bound] at h
  obtain ⟨id, readId, _, -, _, -, _, -, _, -, _, -, _, -, types, eq, h⟩ := h
  cases eq
  simp only [List.mem_singleton, not_true_eq_false, if_false, bind_eq_ok, require_eq_ok,
    exists_const] at h
  obtain ⟨targets, readTargets, digests, readLineage, paths, readPaths, purls, readPurls, -, -, -,
    h⟩ := h
  cases stringList_of_bound bound image readTargets
  cases digestList_of_falsy bound.lineage readLineage
  obtain ⟨-, -, star⟩ := strip_of_isImageRef image
  obtain ⟨id', atId, clean⟩ := bound.id
  have same : id = id' := by
    rw [requireText, atId, strippedText?] at readId
    split at readId
    next text found =>
      split at found
      · cases found
      · cases found
        cases readId
        exact clean
    next => cases readId
  constructor
  · intro other
    rw [if_pos ⟨trivial, by simpa using other, by simpa using star.symm, rfl⟩, pure_eq_ok] at h
    exact h.symm
  · rintro rfl
    simp only [List.mem_singleton, not_true_eq_false, false_and, and_false, if_false,
      pure_eq_ok] at h
    subst h
    exact ⟨_, rfl, entry, index, rfl, atId.trans (by rw [same]), readPurls, readPaths⟩

theorem renderEntries_fs {index : Nat} {items : List Json} {out : List (Rendered × List String)}
    (bound : ∀ item ∈ items, ∃ entry, item = .obj entry ∧ Bound candidateImage entry)
    (h : renderEntries fromisoformat today target .fs lineage index items = .ok out) : out = [] := by
  induction items generalizing index out with
  | nil =>
    cases h
    rfl
  | cons item rest ih =>
    simp only [renderEntries, bind_eq_ok, pure_eq_ok] at h
    obtain ⟨first, one, later, more, rfl⟩ := h
    obtain ⟨⟨entry, rfl, binds⟩, others⟩ := List.forall_mem_cons.mp bound
    rw [renderEntry_fs binds one, ih others more]
    rfl

theorem renderEntries_image {index : Nat} {items : List Json} {out : List (Rendered × List String)}
    (image : isImageRef candidateImage = true)
    (bound : ∀ item ∈ items, ∃ entry, item = .obj entry ∧ Bound candidateImage entry)
    (h : renderEntries fromisoformat today target .image lineage index items = .ok out) :
    (target ≠ candidateImage → out = []) ∧
      (target = candidateImage → List.Forall₂ Renders items (out.map Prod.fst)) := by
  induction items generalizing index out with
  | nil =>
    cases h
    exact ⟨fun _ => rfl, fun _ => .nil⟩
  | cons item rest ih =>
    simp only [renderEntries, bind_eq_ok, pure_eq_ok] at h
    obtain ⟨first, one, later, more, rfl⟩ := h
    obtain ⟨⟨entry, rfl, binds⟩, others⟩ := List.forall_mem_cons.mp bound
    obtain ⟨away, home⟩ := renderEntry_image binds image one
    obtain ⟨awayRest, homeRest⟩ := ih others more
    constructor
    · intro other
      rw [away other, awayRest other]
      rfl
    · intro same
      obtain ⟨rendered, eq, renders⟩ := home same
      cases first with
      | none => cases eq
      | some pair =>
        cases eq
        exact .cons renders (homeRest same)

end

/-- Where the renderer returns, it has read the entries of the policy. -/
theorem renderExceptionPolicy_entries (scanType : ScanType)
    {fromisoformat : String → Option Date} {host : Host} {source : Document} {target : String}
    {today : Date} {lineage : List String} {fields : Mapping} {entries : List Json} {r : Rendering}
    (read : host.loads source.bytes = some (.obj fields))
    (at_ : fields.get "vulnerabilities" = .arr entries)
    (h : renderExceptionPolicy fromisoformat host source target scanType.text today lineage = .ok r) :
    ∃ out, renderEntries fromisoformat today target scanType (lowerSet lineage) 0 entries = .ok out ∧
      r.vulnerabilities = out.map Prod.fst ∧ r.activeExceptions = out.length := by
  have kind : scanType? scanType.text = some scanType := by cases scanType <;> rfl
  simp only [renderExceptionPolicy, kind, bind_eq_ok, require_eq_ok, exists_const, pure_eq_ok] at h
  obtain ⟨entries', load, -, out, rendered, rfl⟩ := h
  simp only [loadExceptionEntries, read, bind_eq_ok, require_eq_ok, exists_const, at_] at load
  obtain ⟨-, -, load⟩ := load
  cases load
  exact ⟨out, rendered, rfl, rfl⟩

/-- The exceptions of a candidate reach no other image and no filesystem scan; for the candidate
itself they are rendered all or none. -/
theorem renderExceptionPolicy_isolated {fromisoformat : String → Option Date} {host : Host}
    {source : Document} {payload : Json} {candidateImage : String} {count : Nat}
    (read : host.loads source.bytes = some payload)
    (accepted : validatePolicy payload candidateImage = .ok count) :
    (∀ target today lineage r, target ≠ candidateImage →
      renderExceptionPolicy fromisoformat host source target "image" today lineage = .ok r →
      r.vulnerabilities = []) ∧
    (∀ today lineage r,
      renderExceptionPolicy fromisoformat host source candidateImage "image" today lineage = .ok r →
      ∃ (fields : Mapping) (entries : List Json), payload = .obj fields ∧ fields.get "vulnerabilities" = .arr entries ∧
        entries.length = count ∧ r.activeExceptions = count ∧
        List.Forall₂ Renders entries r.vulnerabilities) ∧
    ∀ target today lineage r,
      renderExceptionPolicy fromisoformat host source target "fs" today lineage = .ok r →
      r.vulnerabilities = [] := by
  obtain ⟨image, fields, entries, rfl, at_, length, bound⟩ := validatePolicy_bound accepted
  refine ⟨fun target today lineage r other run => ?_, fun today lineage r run => ?_,
    fun target today lineage r run => ?_⟩
  · obtain ⟨out, rendered, eq, -⟩ :=
      renderExceptionPolicy_entries .image read at_ run
    rw [eq, (renderEntries_image image bound rendered).1 other]
    rfl
  · obtain ⟨out, rendered, eq, active⟩ :=
      renderExceptionPolicy_entries .image read at_ run
    have all := (renderEntries_image image bound rendered).2 rfl
    refine ⟨fields, entries, rfl, at_, length, ?_, eq ▸ all⟩
    rw [active, ← length, all.length_eq, List.length_map]
  · obtain ⟨out, rendered, eq, -⟩ := renderExceptionPolicy_entries .fs read at_ run
    rw [eq, renderEntries_fs bound rendered]
    rfl

def sampleCandidate : String := "ghcr.io/acme/shop@" ++ sampleImage

def candidatePolicy : Json :=
  .obj [("version", .int 1), ("vulnerabilities", .arr [.obj
    [("id", .str "CVE-1"), ("owner", .str "o"), ("statement", .str "s"),
      ("compensating_control", .str "c"), ("expires", .str "2026-01-02"),
      ("targets", .arr [.str sampleCandidate]), ("purls", .arr [.str "pkg:a"])]])]

def candidateHost : Host := ⟨fun _ _ => 0, fun _ => some candidatePolicy, fun _ => [], fun _ => ""⟩

/-- The sample policy is rendered for its candidate, and for no other image. -/
theorem renderExceptionPolicy_isolated_sample :
    (∃ r, renderExceptionPolicy sampleDates candidateHost sampleDocument sampleCandidate "image"
      sampleDay [sampleImage] = .ok r ∧ r.activeExceptions = 1) ∧
    ∃ r, renderExceptionPolicy sampleDates candidateHost sampleDocument sampleImage "image"
      sampleDay [sampleImage] = .ok r ∧ r.vulnerabilities = [] := by
  have accepted : validatePolicy candidatePolicy sampleCandidate = .ok 1 := by decide +kernel
  have runs (target : String) (h : target ∈ [sampleCandidate, sampleImage]) :
      (renderExceptionPolicy sampleDates candidateHost sampleDocument target "image" sampleDay
        [sampleImage]).isOk = true := by
    rcases List.mem_pair.mp h with rfl | rfl <;> decide +kernel
  obtain ⟨home, ran⟩ := exists_of_isOk (runs sampleCandidate (by simp))
  obtain ⟨away, ran'⟩ := exists_of_isOk (runs sampleImage (by simp))
  have isolated := @renderExceptionPolicy_isolated sampleDates candidateHost sampleDocument
    candidatePolicy sampleCandidate 1 rfl accepted
  obtain ⟨_, _, -, -, -, active, -⟩ := isolated.2.1 _ _ _ ran
  exact ⟨⟨home, ran, active⟩, away, ran', isolated.1 _ _ _ _ (by decide +kernel) ran'⟩

end OptimizrActions.ContainerRelease.CandidateExceptions
