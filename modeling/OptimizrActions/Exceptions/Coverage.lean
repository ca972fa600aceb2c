import OptimizrActions.Exceptions.Policy
import Mathlib.Tactic.IntervalCases

/-! A policy that passes review renders for every scan, and renders what is in scope. -/

namespace OptimizrActions.Exceptions

/-! ### The entries in scope, read off the document -/

def itemText (item : Mapping) (field : String) : String :=
  (strippedText? (item.get field)).getD ""

def itemTexts (item : Mapping) (field : String) (default : List String) : List String :=
  match item.getD field (.arr (default.map .str)) with
  | .arr items => items.filterMap strippedText?
  | _ => []

def renderingOf (item : Mapping) : Rendered where
  id := itemText item "id"
  expiredAt := itemText item "expires" ++ "T23:59:59Z"
  statement := itemText item "statement" ++ "; owner=" ++ itemText item "owner" ++ "; control=" ++
    itemText item "compensating_control"
  paths := itemTexts item "paths" []
  purls := itemTexts item "purls" []

/-- The exception applies to this kind of scan and, for an image, lists it or one
of the lineage digests. -/
def InScope (kind : ScanType) (target : String) (lineage : List String) (item : Mapping) : Prop :=
  kind.text ∈ itemTexts item "scan_types" ["image"] ∧
    (kind = .image → target ∈ itemTexts item "targets" [] ∨
      ∃ digest ∈ itemTexts item "lineage_digests" [], Text.lower digest ∈ lineage.map Text.lower)

instance (kind : ScanType) (target : String) (lineage : List String) (item : Mapping) :
    Decidable (InScope kind target lineage item) := inferInstanceAs (Decidable (_ ∧ _))

/-- What a scan is to see of the policy, in document order. -/
def inScopeEntries (kind : ScanType) (target : String) (lineage : List String) (entries : List Json) :
    List Rendered :=
  entries.filterMap fun entry =>
    match entry with
    | .obj item => if InScope kind target lineage item then some (renderingOf item) else none
    | _ => none

/-! ### Lower case keeps a digest -/

theorem fullmatch_lower {classes : List (Char → Bool)} {cs : List Char}
    (closed : ∀ accepts ∈ classes, ∀ c, accepts c = true →
      ∃ d, Text.lowerChar c = [d] ∧ accepts d = true)
    (h : fullmatch classes cs = true) : fullmatch classes (cs.flatMap Text.lowerChar) = true := by
  induction classes generalizing cs with
  | nil =>
    cases cs with
    | nil => rfl
    | cons => cases h
  | cons accepts classes ih =>
    cases cs with
    | nil => cases h
    | cons c cs =>
      rw [fullmatch, Bool.and_eq_true] at h
      obtain ⟨d, lower, kept⟩ := closed accepts List.mem_cons_self c h.1
      rw [List.flatMap_cons, lower, List.singleton_append, fullmatch, kept, Bool.true_and]
      exact ih (fun other mem => closed other (List.mem_cons_of_mem _ mem)) h.2

theorem lowerChar_of_matches {pattern c : Char} (fixed : Text.lowerChar pattern = [pattern])
    (h : matchesIgnoringCase pattern c = true) :
    ∃ d, Text.lowerChar c = [d] ∧ matchesIgnoringCase pattern d = true := by
  simp only [matchesIgnoringCase, Bool.or_eq_true, Bool.and_eq_true, decide_eq_true_eq] at h
  rcases h with same | ⟨rfl, long⟩
  · exact ⟨pattern, same, by simp [matchesIgnoringCase, fixed]⟩
  · have c_eq : c = Char.ofNat 0x17f := Char.toNat_inj.mp long
    subst c_eq
    exact ⟨_, rfl, rfl⟩

theorem lowerChar_of_isHex {c : Char} (h : Text.isHex c = true) :
    ∃ d, Text.lowerChar c = [d] ∧ Text.isHex d = true := by
  have range := Text.toNat_of_isHex h
  by_cases upper : 'A' ≤ c ∧ c ≤ 'Z'
  · have low : 65 ≤ c.toNat := upper.1
    have high : c.toNat ≤ 90 := upper.2
    have high : c.toNat ≤ 70 := by omega
    refine ⟨Char.ofNat (c.toNat + 32), by rw [Text.lowerChar, if_pos upper], ?_⟩
    generalize c.toNat = n at low high
    interval_cases n <;> rfl
  · refine ⟨c, ?_, h⟩
    rw [Text.lowerChar, if_neg upper, if_neg (by omega), if_neg (by omega)]

theorem isImageDigest_lower {s : String} (h : isImageDigest s = true) :
    isImageDigest (Text.lower s) = true := by
  rw [isImageDigest, Text.lower, String.toList_ofList]
  refine fullmatch_lower ?_ h
  intro accepts mem c
  rcases List.mem_append.mp mem with letter | digit
  · obtain ⟨pattern, inWord, rfl⟩ := List.mem_map.mp letter
    have fixed : "sha256:".toList.all (fun p => Text.lowerChar p == [p]) = true := by decide
    exact lowerChar_of_matches (eq_of_beq (List.all_eq_true.mp fixed pattern inWord))
  · rw [List.eq_of_mem_replicate digit]
    exact lowerChar_of_isHex

@[simp] theorem mem_lowerSet {values : List String} {text : String} :
    text ∈ lowerSet values ↔ ∃ value ∈ values, Text.lower value = text := by
  simp [lowerSet]

/-! ### What the readers read -/

theorem requireText_eq_ok {item : Mapping} {field text : String} {index : Nat} :
    requireText item field index = .ok text ↔ strippedText? (item.get field) = some text := by
  unfold requireText
  cases strippedText? (item.get field) <;> simp

theorem itemText_of_ok {item : Mapping} {field text : String} {index : Nat}
    (h : requireText item field index = .ok text) : itemText item field = text := by
  rw [itemText, requireText_eq_ok.mp h, Option.getD_some]

theorem filterMap_of_mapM {α β : Type} {f : α → Option β} {items : List α} {values : List β}
    (h : items.mapM f = some values) : items.filterMap f = values := by
  induction items generalizing values with
  | nil => simpa using h
  | cons item items ih =>
    simp only [List.mapM_cons, Option.bind_eq_bind, Option.bind_eq_some_iff, Option.pure_def,
      Option.some.injEq] at h
    obtain ⟨value, one, later, rest, rfl⟩ := h
    rw [List.filterMap_cons_some one, ih rest]

theorem textArray_eq_ok {item : Mapping} {field : String} {default texts : List String}
    {index : Nat} :
    textArray item field default index = .ok texts ↔
      ∃ items, item.getD field (.arr (default.map .str)) = .arr items ∧
        items.mapM strippedText? = some texts := by
  unfold textArray
  cases item.getD field (.arr (default.map .str)) with
  | arr items => cases read : items.mapM strippedText? <;> simp [read]
  | _ => simp

theorem itemTexts_of_ok {item : Mapping} {field : String} {default texts : List String}
    {index : Nat} (h : textArray item field default index = .ok texts) :
    itemTexts item field default = texts := by
  obtain ⟨items, at_, read⟩ := textArray_eq_ok.mp h
  simp only [itemTexts, at_]
  exact filterMap_of_mapM read

theorem digestList_eq_ok {item : Mapping} {field : String} {digests : List String} {index : Nat}
    (h : digestList item field index = .ok digests) :
    digests = lowerSet (itemTexts item field []) := by
  simp only [digestList, bind_eq_ok, require_eq_ok, exists_const, pure_eq_ok] at h
  obtain ⟨values, read, -, rfl⟩ := h
  rw [itemTexts_of_ok read]

theorem scanType?_eq_some {text : String} {kind : ScanType} :
    scanType? text = some kind ↔ kind.text = text := by
  constructor
  · intro h
    simpa using List.find?_some h
  · rintro rfl
    cases kind <;> rfl

theorem scanTypes_iff {item : Mapping} {types : List ScanType} {index : Nat} :
    scanTypes item index = .ok types ↔
      ∃ texts, (∃ items, item.getD "scan_types" (.arr [.str "image"]) = .arr items ∧
        items.mapM strippedText? = some texts) ∧ texts.mapM scanType? = some types ∧ types ≠ [] := by
  simp only [scanTypes, bind_eq_ok, textArray_eq_ok, List.map_cons, List.map_nil]
  refine exists_congr fun texts => and_congr_right fun _ => ?_
  cases texts.mapM scanType? with
  | none => simp
  | some kinds =>
    cases kinds with
    | nil => simp
    | cons kind kinds =>
      constructor
      · intro h
        cases h
        exact ⟨rfl, List.cons_ne_nil _ _⟩
      · rintro ⟨eq, -⟩
        cases eq
        rfl

theorem scanTypes_eq_ok {item : Mapping} {types : List ScanType} {index : Nat}
    (h : scanTypes item index = .ok types) :
    itemTexts item "scan_types" ["image"] = types.map (·.text) := by
  obtain ⟨texts, ⟨items, at_, read⟩, parsed, -⟩ := scanTypes_iff.mp h
  have found : itemTexts item "scan_types" ["image"] = texts := by
    simp only [itemTexts, List.map_cons, List.map_nil, at_]
    exact filterMap_of_mapM read
  rw [found]
  clear h read at_ found
  induction texts generalizing types with
  | nil =>
    cases parsed
    rfl
  | cons text texts ih =>
    simp only [List.mapM_cons, Option.bind_eq_bind, Option.bind_eq_some_iff, Option.pure_def,
      Option.some.injEq] at parsed
    obtain ⟨kind, one, later, rest, rfl⟩ := parsed
    rw [ih rest, List.map_cons, scanType?_eq_some.mp one]

theorem text_mem_map {types : List ScanType} {kind : ScanType} :
    kind.text ∈ types.map (·.text) ↔ kind ∈ types := by
  refine ⟨fun h => ?_, List.mem_map_of_mem⟩
  obtain ⟨other, mem, same⟩ := List.mem_map.mp h
  have eq : other = kind := by
    cases other <;> cases kind <;> first | rfl | exact absurd same (by decide)
  exact eq ▸ mem

/-! ### One entry -/

section

variable {fromisoformat : String → Option Date}

theorem checkScope_eq_ok {types : List ScanType}
    {active targets lineage paths purls : List String} {index : Nat} {u : Unit} :
    checkScope types active targets lineage paths purls index = .ok u ↔
      if .image ∈ types then
        (targets ≠ [] ∨ lineage ≠ []) ∧ (∀ target ∈ targets, isLowerImageDigest target = true) ∧
          targets ⊆ active ∧ (paths ≠ [] ∨ purls ≠ []) ∧ (lineage ≠ [] → purls ≠ [])
      else targets = [] ∧ lineage = [] := by
  unfold checkScope
  split <;> simp only [checkImageScope, bind_eq_ok, require_eq_ok, exists_const, List.all_eq_true]

theorem checkScope_image {types : List ScanType} {active targets lineage paths purls : List String}
    {index : Nat} (h : checkScope types active targets lineage paths purls index = .ok ())
    (image : .image ∈ types) :
    (targets ≠ [] ∨ lineage ≠ []) ∧ (∀ target ∈ targets, isLowerImageDigest target = true) ∧
      targets ⊆ active ∧ (lineage ≠ [] → purls ≠ []) := by
  rw [checkScope_eq_ok, if_pos image] at h
  exact ⟨h.1, h.2.1, h.2.2.1, h.2.2.2.2⟩

theorem checkScope_fs {types : List ScanType} {active targets lineage paths purls : List String}
    {index : Nat} (h : checkScope types active targets lineage paths purls index = .ok ())
    (fs : .image ∉ types) : targets = [] ∧ lineage = [] := by
  rwa [checkScope_eq_ok, if_neg fs] at h

theorem expiry_eq_ok {text : String} {index : Nat} {expires : Date} :
    expiry fromisoformat text index = .ok expires ↔ fromisoformat text = some expires := by
  unfold expiry
  cases fromisoformat text <;> simp

/-- The place of an entry only shows in messages. -/
theorem validateEntry_index {active : List String} {today : Date} (index other : Nat) {entry : Json}
    {identity : Identity} :
    validateEntry fromisoformat active today index entry = .ok identity ↔
      validateEntry fromisoformat active today other entry = .ok identity := by
  cases entry with
  | obj item =>
    simp only [validateEntry, bind_eq_ok, require_eq_ok, exists_const, requireText_eq_ok,
      expiry_eq_ok, notExpired, scanTypes_iff, digestList, stringList, textArray_eq_ok, checkScope_eq_ok,
      pure_eq_ok]
  | _ => simp [validateEntry]

theorem validateFresh_reads (active : List String) (today : Date) :
    ReadsFresh (validateFresh fromisoformat active today)
      (fun item identity => validateEntry fromisoformat active today 0 item = .ok identity) id := by
  intro index seen item identity
  simp only [validateFresh, bind_eq_ok, require_eq_ok, exists_const, pure_eq_ok, List.map_id, id]
  constructor
  · rintro ⟨_, valid, fresh, rfl⟩
    exact ⟨(validateEntry_index index 0).mp valid, fresh⟩
  · rintro ⟨valid, fresh⟩
    exact ⟨identity, (validateEntry_index 0 index).mp valid, fresh, rfl⟩

/-- The order of the entries does not matter to the validator. -/
theorem validatePolicy_perm {entries entries' : List Json} {activeImageIds : TextFile}
    {imageRefs : List String} {today : Date} {count : Nat} (perm : entries.Perm entries')
    (h : validatePolicy fromisoformat (.ok entries) activeImageIds imageRefs today = .ok count) :
    validatePolicy fromisoformat (.ok entries') activeImageIds imageRefs today = .ok count := by
  simp only [validatePolicy, bind_eq_ok, Except.ok.injEq, exists_eq_left', pure_eq_ok] at h ⊢
  obtain ⟨active, load, u, refs, identities, all, rfl⟩ := h
  have reads := @validateFresh_reads fromisoformat active today
  obtain ⟨identities', all', -⟩ := reads.gather_perm reads perm all
  exact ⟨active, load, u, refs, identities', all', perm.length_eq.symm⟩

theorem filter_lowerSet_eq_nil {values lineage : List String} :
    (lowerSet values).filter (· ∈ lowerSet lineage) = [] ↔
      ¬∃ digest ∈ values, Text.lower digest ∈ lineage.map Text.lower := by
  simp only [List.filter_eq_nil_iff, decide_eq_true_eq, mem_lowerSet, List.mem_map]
  constructor
  · rintro none ⟨digest, mem, other, listed, same⟩
    exact none _ ⟨digest, mem, rfl⟩ ⟨other, listed, same⟩
  · rintro none _ ⟨digest, mem, rfl⟩ ⟨other, listed, same⟩
    exact none ⟨digest, mem, other, listed, same⟩

/-- An entry that passes review renders in every scan: to its rendering in scope,
to nothing out of it. -/
theorem renderEntry_of_valid {active : List String} {today : Date} {index : Nat} {entry : Json}
    {identity : Identity}
    (valid : validateEntry fromisoformat active today index entry = .ok identity)
    (kind : ScanType) (target : String) (lineage : List String) :
    ∃ item matching, entry = .obj item ∧
      renderEntry fromisoformat today target kind (lowerSet lineage) index entry =
        .ok (if InScope kind target lineage item then some (renderingOf item, matching) else none) := by
  cases entry with
  | obj item =>
    simp only [validateEntry, bind_eq_ok, require_eq_ok, exists_const, pure_eq_ok,
      notExpired] at valid
    obtain ⟨id, hid, owner, howner, statement, hstatement, control, hcontrol, text, htext, expires,
      hexpires, iso, current, types, htypes, -, targets, htargets, digests, hdigests, paths, hpaths,
      purls, hpurls, _, scope, fsPaths, -⟩ := valid
    have typed : kind.text ∈ itemTexts item "scan_types" ["image"] ↔ kind ∈ types := by
      rw [scanTypes_eq_ok htypes, text_mem_map]
    refine ⟨item, digests.filter (· ∈ lowerSet lineage), rfl, ?_⟩
    simp only [renderEntry, notExpired, bind_eq_ok, require_eq_ok, exists_const]
    refine ⟨id, hid, owner, howner, statement, hstatement, control, hcontrol, text, htext, expires,
      hexpires, current, types, htypes, ?_⟩
    by_cases ofKind : kind ∈ types
    · rw [if_neg (not_not.mpr ofKind)]
      simp only [bind_eq_ok, require_eq_ok, exists_const]
      refine ⟨targets, htargets, digests, hdigests, paths, hpaths, purls, hpurls, ?_, ?_, ?_, ?_⟩
      · rintro ⟨rfl, noTargets, noDigests⟩
        rcases (checkScope_image scope ofKind).1 with some | some
        · exact some noTargets
        · exact some noDigests
      · rintro ⟨rfl, noPaths⟩
        exact fsPaths ofKind noPaths
      · intro some
        by_cases image : .image ∈ types
        · exact (checkScope_image scope image).2.2.2 some
        · exact absurd (checkScope_fs scope image).2 some
      · have digests_eq := digestList_eq_ok hdigests
        have noStar (image : kind = .image) : "*" ∉ targets := fun star => by
          subst image
          exact absurd ((checkScope_image scope ofKind).2.1 _ star) (by decide)
        have out : (kind = .image ∧ target ∉ targets ∧ "*" ∉ targets ∧
            digests.filter (· ∈ lowerSet lineage) = []) ↔ ¬InScope kind target lineage item := by
          rw [digests_eq, filter_lowerSet_eq_nil]
          simp only [InScope, typed, ofKind, true_and, itemTexts_of_ok htargets, Classical.not_imp,
            not_or]
          constructor
          · rintro ⟨image, unlisted, -, unmatched⟩
            exact ⟨image, unlisted, unmatched⟩
          · rintro ⟨image, unlisted, unmatched⟩
            exact ⟨image, unlisted, noStar image, unmatched⟩
        by_cases inScope : InScope kind target lineage item
        · rw [if_neg (fun h => out.mp h inScope), if_pos inScope, pure_eq_ok, renderingOf,
            itemText_of_ok hid, itemText_of_ok howner, itemText_of_ok hstatement,
            itemText_of_ok hcontrol, itemText_of_ok htext, itemTexts_of_ok hpaths,
            itemTexts_of_ok hpurls, iso]
        · rw [if_pos (out.mpr inScope), if_neg inScope]
          rfl
    · rw [if_pos ofKind, if_neg fun h => ofKind (typed.mp h.1)]
      rfl
  | _ => cases valid

theorem renderEntries_of_valid {active : List String} {today : Date} {index : Nat}
    {seen identities : List Identity} {entries : List Json}
    (valid : gather (validateFresh fromisoformat active today) index seen entries = .ok identities)
    (kind : ScanType) (target : String) (lineage : List String) :
    ∃ rendered, renderEntries fromisoformat today target kind (lowerSet lineage) index entries =
        .ok rendered ∧
      rendered.map (·.1) = inScopeEntries kind target lineage entries := by
  induction entries generalizing index seen with
  | nil => exact ⟨[], rfl, rfl⟩
  | cons entry entries ih =>
    rw [gather] at valid
    cases one : validateFresh fromisoformat active today index seen entry with
    | error message => simp [one] at valid
    | ok identity =>
    rw [one] at valid
    simp only [validateFresh, bind_eq_ok, require_eq_ok, exists_const, pure_eq_ok] at one
    obtain ⟨identity, first, -, rfl⟩ := one
    obtain ⟨item, matching, rfl, one⟩ := renderEntry_of_valid first kind target lineage
    obtain ⟨later, run, eq⟩ := ih valid
    simp only [renderEntries, one, run, bind_eq_ok, pure_eq_ok, Except.ok.injEq, exists_eq_left']
    by_cases inScope : InScope kind target lineage item
    · simp [inScopeEntries, inScope, eq]
    · simp [inScopeEntries, inScope, eq]

/-! ### The whole policy -/

/-- A policy that passes review does not fail any scan on the same date, and the
scan sees the entries in its scope, in document order. -/
theorem render_of_validated {host : Host} {source : Document} {activeImageIds : TextFile}
    {imageRefs : List String} {today : Date} {count : Nat}
    (valid : validateCompleteExceptionPolicy fromisoformat host source activeImageIds imageRefs
      today = .ok count) :
    ∃ entries, loadExceptionEntries host source = .ok entries ∧
      ∀ (kind : ScanType) (target : String) (lineage : List String),
        (∀ digest ∈ lineage, isImageDigest digest = true) →
        ∃ r, renderExceptionPolicy fromisoformat host source target kind.text today lineage =
            .ok r ∧
          r.vulnerabilities = inScopeEntries kind target lineage entries := by
  simp only [validateCompleteExceptionPolicy, validatePolicy, bind_eq_ok] at valid
  obtain ⟨active, -, _, -, entries, load, identities, all, -⟩ := valid
  refine ⟨entries, load, fun kind target lineage digests => ?_⟩
  obtain ⟨rendered, run, eq⟩ := renderEntries_of_valid all kind target lineage
  have full : (lowerSet lineage).all isImageDigest = true := by
    refine List.all_eq_true.mpr fun digest mem => ?_
    obtain ⟨value, listed, rfl⟩ := mem_lowerSet.mp mem
    exact isImageDigest_lower (digests value listed)
  have kind_eq : scanType? kind.text = some kind := scanType?_eq_some.mpr rfl
  simp only [renderExceptionPolicy, kind_eq, load, run, bind_eq_ok, Except.ok.injEq, require_eq_ok,
    exists_const, exists_eq_left', pure_eq_ok, full, true_and]
  exact eq

end

/-! ### A sample policy -/

theorem sampleDay_valid : Calendar.validFields 2026 1 2 0 0 0 0 = true := by decide

def sampleDay : Date := ⟨2026, 1, 2, sampleDay_valid⟩

def sampleImage : String :=
  "sha256:aaaaaaaaaaaaaaaaaaaaaaaaaaaaaaaaaaaaaaaaaaaaaaaaaaaaaaaaaaaaaaaa"

/-- Dates in the one form that the sample uses. -/
def sampleDates (text : String) : Option Date :=
  if text = "2026-01-02" then some sampleDay else none

def sampleException : Json :=
  .obj [("id", .str "CVE-1"), ("owner", .str "o"), ("statement", .str "s"),
    ("compensating_control", .str "c"), ("expires", .str "2026-01-02"),
    ("targets", .arr [.str sampleImage]), ("purls", .arr [.str "pkg:a"])]

def samplePolicyHost : Host :=
  ⟨fun _ _ => 0, fun _ => some (.obj [("version", .int 1), ("vulnerabilities",
    .arr [sampleException])]), fun _ => [], fun _ => ""⟩

def sampleDocument : Document := ⟨"policy.json", true, []⟩

def sampleActive : TextFile := ⟨"active.txt", true, sampleImage⟩

theorem render_of_validated_sample :
    ∃ r, renderExceptionPolicy sampleDates samplePolicyHost sampleDocument sampleImage "image"
        sampleDay [] = .ok r ∧
      r.vulnerabilities = [⟨"CVE-1", "2026-01-02T23:59:59Z", "s; owner=o; control=c", [], ["pkg:a"]⟩] := by
  have valid : validateCompleteExceptionPolicy sampleDates samplePolicyHost sampleDocument
      sampleActive [sampleImage] sampleDay = .ok 1 := by decide +kernel
  obtain ⟨entries, load, renders⟩ := render_of_validated valid
  obtain ⟨r, run, eq⟩ := renders .image sampleImage [] nofun
  refine ⟨r, run, eq.trans ?_⟩
  cases load
  decide +kernel

end OptimizrActions.Exceptions
