import Mathlib.Algebra.Order.BigOperators.Group.List
import OptimizrActions.SecurityGate.Baseline
import OptimizrActions.SecurityGate.FilterLaws

/-! What a reviewed baseline takes out of a report, and what remains. -/

namespace OptimizrActions.SecurityGate

open Exceptions (Date strippedText?)

/-- The fingerprint that a baseline entry writes. -/
structure EntryFingerprint (entry : Mapping) (f : Fingerprint) : Prop where
  target : strippedText? (entry.get "target") = some f.target
  id : strippedText? (entry.get "id") = some f.id
  package : strippedText? (entry.get "package") = some f.package
  installedVersion : strippedText? (entry.get "installed_version") = some f.installedVersion
  fixedVersion : strippedText? (entry.get "fixed_version") = some f.fixedVersion

/-- An item of the baseline approves the fingerprint for the scope, in any letter case. -/
inductive Approves (scope : String) : Json → Fingerprint → Prop
  | entry {entry : Mapping} {text : String} {f : Fingerprint}
      (scope_at : entry.get "scope" = .str text)
      (same : Text.lower (Text.strip text) = Text.lower scope)
      (fingerprint : EntryFingerprint entry f) : Approves scope (.obj entry) f

def ApprovedBy (scope : String) (items : List Json) (f : Fingerprint) : Prop :=
  ∃ item ∈ items, Approves scope item f

section Review

variable {scope : String} {index : Nat} {approved approved' : List Fingerprint} {entry : Mapping}

theorem fingerprintText_eq_ok {name text : String} :
    fingerprintText entry index name = .ok text ↔ strippedText? (entry.get name) = some text := by
  unfold fingerprintText
  cases strippedText? (entry.get name) <;> simp

theorem baselineFingerprint_eq_ok {f : Fingerprint} :
    baselineFingerprint entry index = .ok f ↔ EntryFingerprint entry f := by
  simp only [baselineFingerprint, bind_eq_ok, fingerprintText_eq_ok, pure_eq_ok]
  constructor
  · rintro ⟨_, target, _, id, _, package, _, installedVersion, _, fixedVersion, rfl⟩
    exact ⟨target, id, package, installedVersion, fixedVersion⟩
  · rintro ⟨target, id, package, installedVersion, fixedVersion⟩
    exact ⟨_, target, _, id, _, package, _, installedVersion, _, fixedVersion, rfl⟩

theorem itemScope_eq_ok {other : String} : itemScope entry index = .ok other ↔
    ∃ text, entry.get "scope" = .str text ∧ isImageId (Text.strip text) = true ∧
      other = Text.strip text := by
  unfold itemScope
  split
  next text at_ =>
    simp only [bind_eq_ok, require_eq_ok, pure_eq_ok, at_, Json.str.injEq]
    constructor
    · rintro ⟨_, image, rfl⟩
      exact ⟨text, rfl, image, rfl⟩
    · rintro ⟨_, rfl, image, rfl⟩
      exact ⟨(), image, rfl⟩
  next not =>
    refine ⟨fun eq => absurd eq error_ne_ok, ?_⟩
    rintro ⟨text, at_, -⟩
    exact absurd at_ (not text)

/-- One item adds the fingerprint that it approves. -/
theorem approve_mem {item : Json} (h : approve scope index approved item = .ok approved')
    (f : Fingerprint) : f ∈ approved' ↔ f ∈ approved ∨ Approves scope item f := by
  cases item with
  | obj entry =>
    obtain ⟨other, scopeOk, rest⟩ := bind_eq_ok.mp h
    obtain ⟨text, at_, -, rfl⟩ := itemScope_eq_ok.mp scopeOk
    split_ifs at rest with differ
    · cases rest
      refine ⟨.inl, fun either => either.resolve_right ?_⟩
      rintro ⟨at', same, -⟩
      cases at_.symm.trans at'
      exact differ same
    · simp only [bind_eq_ok, require_eq_ok, pure_eq_ok] at rest
      obtain ⟨new, read, _, -, rfl⟩ := rest
      have written := baselineFingerprint_eq_ok.mp read
      rw [List.mem_append, List.mem_singleton]
      refine or_congr_right ⟨?_, ?_⟩
      · rintro rfl
        exact .entry at_ (not_not.mp differ) written
      · rintro ⟨-, -, written'⟩
        exact Fingerprint.ext (Option.some.inj (written'.target.symm.trans written.target))
          (Option.some.inj (written'.id.symm.trans written.id))
          (Option.some.inj (written'.package.symm.trans written.package))
          (Option.some.inj (written'.installedVersion.symm.trans written.installedVersion))
          (Option.some.inj (written'.fixedVersion.symm.trans written.fixedVersion))
  | _ => exact absurd h error_ne_ok

theorem approveAll_mem {items : List Json}
    (h : approveAll scope index approved items = .ok approved') (f : Fingerprint) :
    f ∈ approved' ↔ f ∈ approved ∨ ApprovedBy scope items f := by
  induction items generalizing index approved with
  | nil =>
    cases h
    simp [ApprovedBy]
  | cons item rest ih =>
    obtain ⟨more, first, later⟩ := bind_eq_ok.mp h
    rw [ih later, approve_mem first, or_assoc, ApprovedBy, ApprovedBy, List.exists_mem_cons_iff]

end Review

/-- The items of a list; none of anything else. -/
def itemsIn : Json → List Json
  | .arr items => items
  | _ => []

theorem lengthOf_eq (value : Json) : lengthOf value = (itemsIn value).length := by
  cases value <;> rfl

/-- The second list is the first one without exactly the items of a kind. -/
inductive Without {α : Type} (gone : α → Prop) : List α → List α → Prop
  | nil : Without gone [] []
  | kept {item : α} {before after : List α} (h : ¬gone item) (rest : Without gone before after) :
      Without gone (item :: before) (item :: after)
  | removed {item : α} {before after : List α} (h : gone item) (rest : Without gone before after) :
      Without gone (item :: before) after

/-- A vulnerability of a target whose fingerprint is approved. -/
def IsApproved (host : Host) (approved : Fingerprint → Prop) (target : String) : Json → Prop
  | .obj finding => approved (fingerprintOf host target finding)
  | _ => False

/-- The target that the fingerprints of a result have. -/
def targetOf (host : Host) (result : Mapping) : String := host.normalText (result.get "Target")

/-- A result of the report, before and after. -/
structure ResultEnforced (host : Host) (approved : Fingerprint → Prop) (before after : Mapping) :
    Prop where
  vulnerabilities : ∃ retained, after.get "Vulnerabilities" = .arr retained ∧
    Without (IsApproved host approved (targetOf host before))
      (itemsIn (before.get "Vulnerabilities")) retained
  others : ∀ key, key ≠ "Vulnerabilities" → after.get key = before.get key

/-- A vulnerability of a result has the fingerprint. -/
inductive HasFingerprint (host : Host) (f : Fingerprint) : Json → Prop
  | mk {result finding : Mapping} (mem : .obj finding ∈ itemsIn (result.get "Vulnerabilities"))
      (same : fingerprintOf host (targetOf host result) finding = f) :
      HasFingerprint host f (.obj result)

inductive Enforces (host : Host) (approved : Fingerprint → Prop) : Json → Json → Prop
  | obj {before after : Mapping} (h : ResultEnforced host approved before after) :
      Enforces host approved (.obj before) (.obj after)

section Turn

variable {host : Host} {approved : List Fingerprint} {target : String}

theorem findingFingerprint_eq_ok {finding : Mapping} {f : Fingerprint}
    (h : findingFingerprint host target finding = .ok f) : f = fingerprintOf host target finding := by
  obtain ⟨_, -, same⟩ := bind_eq_ok.mp h
  exact (pure_eq_ok.mp same).symm

/-- The loop over the vulnerabilities of a result. -/
theorem retain_eq_ok {found retained : List Json} {matched : List Fingerprint}
    (h : retain host approved target found = .ok (retained, matched)) :
    Without (IsApproved host (· ∈ approved) target) found retained ∧
      ∀ f ∈ matched, ∃ finding, .obj finding ∈ found ∧ fingerprintOf host target finding = f := by
  induction found generalizing retained matched with
  | nil =>
    obtain ⟨rfl, rfl⟩ := Prod.mk.inj (Except.ok.inj h)
    exact ⟨.nil, List.forall_mem_nil _⟩
  | cons head rest ih =>
    cases head with
    | obj finding =>
      simp only [retain, bind_eq_ok, pure_eq_ok, Prod.exists] at h
      obtain ⟨f, read, retained', matched', later, same⟩ := h
      obtain ⟨without, from_⟩ := ih later
      cases findingFingerprint_eq_ok read
      split_ifs at same with member
      · obtain ⟨rfl, rfl⟩ := Prod.mk.inj same
        refine ⟨.removed member without, List.forall_mem_cons.mpr ⟨?_, fun g mem => ?_⟩⟩
        · exact ⟨finding, List.mem_cons_self, rfl⟩
        · obtain ⟨other, inside, same⟩ := from_ g mem
          exact ⟨other, List.mem_cons_of_mem _ inside, same⟩
      · obtain ⟨rfl, rfl⟩ := Prod.mk.inj same
        refine ⟨.kept member without, fun g mem => ?_⟩
        obtain ⟨other, inside, same⟩ := from_ g mem
        exact ⟨other, List.mem_cons_of_mem _ inside, same⟩
    | _ => exact absurd h error_ne_ok

theorem itemsIn_of_falsy {value : Json} (h : ¬value.truthy = true) : itemsIn value = [] := by
  cases value with
  | arr items =>
    cases items with
    | nil => rfl
    | cons item rest => exact absurd rfl h
  | _ => rfl

theorem listOrEmpty_eq_ok {result : Mapping} {field message : String} {items : List Json}
    (h : listOrEmpty result field message = .ok items) : items = itemsIn (result.get field) := by
  unfold listOrEmpty at h
  split_ifs at h with some
  · split at h
    next found at_ =>
      rw [at_]
      exact (Except.ok.inj h).symm
    next => exact absurd h nofun
  · rw [itemsIn_of_falsy some]
    exact (Except.ok.inj h).symm

/-- The findings that a result has. -/
def findingCount (result : Mapping) : Nat :=
  lengthOf (result.get "Vulnerabilities") + lengthOf (result.get "Misconfigurations") +
    lengthOf (result.get "Secrets")

/-- One turn of the loop over the results. -/
theorem baselineResult_eq_ok {result : Json} {after : Mapping} {matched : List Fingerprint}
    {count : Nat} (h : baselineResult host approved result = .ok (after, matched, count)) :
    Enforces host (· ∈ approved) result (.obj after) ∧ (∀ f ∈ matched, HasFingerprint host f result) ∧
      count = findingCount after := by
  cases result with
  | obj before =>
    simp only [baselineResult, bind_eq_ok, pure_eq_ok, Prod.exists, Prod.mk.injEq] at h
    obtain ⟨found, foundOk, retained, _, turn, misconfigurations, misconfigurationsOk, secrets,
      secretsOk, rfl, rfl, rfl⟩ := h
    cases listOrEmpty_eq_ok foundOk
    obtain ⟨without, from_⟩ := retain_eq_ok turn
    have frame (key : String) (ne : key ≠ "Vulnerabilities") :
        (Mapping.set before "Vulnerabilities" (.arr retained)).get key = Mapping.get before key :=
      Mapping.get_set_of_ne ne
    refine ⟨.obj ⟨⟨retained, Mapping.get_set_self _ _ _, without⟩, frame⟩, fun f mem => ?_, ?_⟩
    · obtain ⟨finding, inside, same⟩ := from_ f mem
      exact .mk inside same
    · rw [findingCount, Mapping.get_set_self, frame _ (by decide), frame _ (by decide),
        lengthOf_eq (Mapping.get before "Misconfigurations"), lengthOf_eq (Mapping.get before "Secrets"),
        listOrEmpty_eq_ok misconfigurationsOk, listOrEmpty_eq_ok secretsOk]
      rfl
  | _ => exact absurd h error_ne_ok

/-- The findings that the results have. -/
def totalCount (results : List Json) : Nat :=
  countOf results "Vulnerabilities" + countOf results "Misconfigurations" + countOf results "Secrets"

theorem totalCount_cons (result : Mapping) (rest : List Json) :
    totalCount (.obj result :: rest) = findingCount result + totalCount rest := by
  simp only [totalCount, countOf, findingCount, List.map_cons, List.sum_cons]
  omega

theorem baselineResults_eq_ok {found filtered : List Json} {matched : List Fingerprint}
    {remaining : Nat}
    (h : baselineResults host approved found = .ok (filtered, matched, remaining)) :
    List.Forall₂ (Enforces host (· ∈ approved)) found filtered ∧
      (∀ f ∈ matched, ∃ result ∈ found, HasFingerprint host f result) ∧
      remaining = totalCount filtered := by
  induction found generalizing filtered matched remaining with
  | nil =>
    obtain ⟨rfl, rfl, rfl⟩ := by simpa [baselineResults] using h
    exact ⟨.nil, nofun, rfl⟩
  | cons head rest ih =>
    simp only [baselineResults, bind_eq_ok, pure_eq_ok, Prod.exists, Prod.mk.injEq] at h
    obtain ⟨after, matched', count, one, rest', more, remaining', later, rfl, rfl, rfl⟩ := h
    obtain ⟨first, has, counted⟩ := baselineResult_eq_ok one
    obtain ⟨others, hasMore, countedMore⟩ := ih later
    refine ⟨.cons first others, fun f mem => ?_, ?_⟩
    · rcases List.mem_append.mp mem with here | there
      · exact ⟨head, List.mem_cons_self, has f here⟩
      · obtain ⟨result, inside, at_⟩ := hasMore f there
        exact ⟨result, List.mem_cons_of_mem _ inside, at_⟩
    · rw [totalCount_cons, counted, countedMore]

end Turn

/-- The enforcement report: the complete one without exactly the approved vulnerabilities. -/
structure Enforced (host : Host) (approved : Fingerprint → Prop) (report filtered : Mapping)
    (remaining : Nat) : Prop where
  frame : ∀ key, key ≠ "Results" → filtered.get key = report.get key
  results : List.Forall₂ (Enforces host approved) (resultList report) (resultList filtered)
  present : ∀ f, approved f → ∃ result ∈ resultList report, HasFingerprint host f result
  remaining : remaining = totalCount (resultList filtered)

theorem countOf_eq_zero {results : List Json} {field : String} : countOf results field = 0 ↔
    ∀ result, .obj result ∈ results → itemsIn (Mapping.get result field) = [] := by
  rw [countOf, List.sum_eq_zero_iff]
  constructor
  · intro zero result mem
    have none : lengthOf (Mapping.get result field) = 0 :=
      zero _ (List.mem_map.mpr ⟨.obj result, mem, rfl⟩)
    rwa [lengthOf_eq, List.length_eq_zero_iff] at none
  · intro empty count mem
    obtain ⟨result, inside, rfl⟩ := List.mem_map.mp mem
    cases result with
    | obj fields => exact (lengthOf_eq _).trans (List.length_eq_zero_iff.mpr (empty fields inside))
    | _ => rfl

/-- No result has findings left. -/
def NothingLeft (report : Mapping) : Prop :=
  ∀ result, .obj result ∈ resultList report → ∀ field ∈ findingFields,
    itemsIn (Mapping.get result field) = []

theorem totalCount_eq_zero {report : Mapping} :
    totalCount (resultList report) = 0 ↔ NothingLeft report := by
  simp only [totalCount, Nat.add_eq_zero_iff, countOf_eq_zero, NothingLeft, findingFields,
    List.forall_mem_cons, List.not_mem_nil, false_imp_iff, implies_true, and_true]
  constructor
  · rintro ⟨⟨vulnerabilities, misconfigurations⟩, secrets⟩ result mem
    exact ⟨vulnerabilities result mem, misconfigurations result mem, secrets result mem⟩
  · intro h
    exact ⟨⟨fun result mem => (h result mem).1, fun result mem => (h result mem).2.1⟩,
      fun result mem => (h result mem).2.2⟩

section Run

variable {host : Host} {fromisoformat : String → Option Date} {scope : String} {reference : Date}
  {report base filtered : Mapping} {summary : BaselineSummary}

theorem rawResults_eq_ok {results : List Json} (h : rawResults report = .ok results) :
    results = resultList report := by
  by_cases present : "Results" ∈ report.map Prod.fst
  · unfold rawResults at h
    rw [getD_of_mem present] at h
    unfold resultList
    cases at_ : report.get "Results" with
    | null | arr found =>
      rw [at_] at h
      exact (Except.ok.inj h).symm
    | _ =>
      rw [at_] at h
      exact absurd h nofun
  · unfold rawResults at h
    rw [getD_of_not_mem present] at h
    have null : report.get "Results" = .null := not_not.mp (mt get_ne_null_mem present)
    rw [resultList, null]
    exact (Except.ok.inj h).symm

theorem readBaseline_approved {review : Review}
    (h : readBaseline fromisoformat reference scope base = .ok review) (f : Fingerprint) :
    f ∈ review.approved ↔ ApprovedBy scope (itemsIn (base.get "findings")) f := by
  simp only [readBaseline, bind_eq_ok, pure_eq_ok] at h
  obtain ⟨_, -, _, -, _, -, _, -, _, -, _, -, _, -, _, -, _, -, _, -, items, itemsOk, approved,
    approvedOk, rfl⟩ := h
  have found : items = itemsIn (base.get "findings") := by
    unfold baselineFindings at itemsOk
    split at itemsOk
    next item rest at_ =>
      rw [at_]
      exact (Except.ok.inj itemsOk).symm
    next => exact absurd itemsOk error_ne_ok
  rw [approveAll_mem approvedOk, found]
  simp

/-- What the enforcement report is, given the review. -/
theorem enforce_eq_ok {review : Review} (h : enforce host scope report review = .ok (filtered, summary)) :
    Enforced host (· ∈ review.approved) report filtered summary.remaining := by
  simp only [enforce, bind_eq_ok, require_eq_ok, pure_eq_ok, Prod.exists, Prod.mk.injEq] at h
  obtain ⟨found, foundOk, results, matched, remaining, resultsOk, _, fresh, rfl, rfl⟩ := h
  cases rawResults_eq_ok foundOk
  obtain ⟨each, has, counted⟩ := baselineResults_eq_ok resultsOk
  have after : resultList (replaceField report "Results" (.arr results)) = results := by
    by_cases present : "Results" ∈ report.map Prod.fst
    · exact resultList_of_get (get_replaceField_self present)
    · have null : report.get "Results" = .null := not_not.mp (mt get_ne_null_mem present)
      have none : resultList report = [] := by rw [resultList, null]
      rw [none] at each
      cases each
      rw [replaceField_of_absent present, none]
  refine ⟨fun key ne => get_replaceField_of_ne ne, ?_, fun f member => ?_, ?_⟩
  · rwa [after]
  · have seen : f ∈ matched := by
      by_contra absent
      have stale := List.filter_eq_nil_iff.mp fresh f member
      exact stale (decide_eq_true absent)
    exact has f seen
  · rw [after, counted]

theorem loadJson_eq_ok {file : InputFile} {label : String} {payload : Mapping}
    (h : loadJson host file label = .ok payload) : host.loads file.bytes = some (.obj payload) := by
  obtain ⟨_, -, rest⟩ := bind_eq_ok.mp h
  split at rest
  next => exact absurd rest nofun
  next fields at_ =>
    rw [at_, ← Except.ok.inj rest]
  next => exact absurd rest nofun

/-- On success exactly the vulnerabilities that the baseline approves for the scope are gone; the
status is zero where nothing remains. -/
theorem applyBaseline_enforces {reportFile baselineFile : InputFile}
    (h : applyBaseline host fromisoformat reportFile baselineFile scope reference =
      .ok (filtered, summary)) :
    ∃ report base, host.loads reportFile.bytes = some (.obj report) ∧
      host.loads baselineFile.bytes = some (.obj base) ∧
      Enforced host (ApprovedBy scope (itemsIn (Mapping.get base "findings"))) report filtered
        summary.remaining ∧
      (exitStatus (applyBaseline host fromisoformat reportFile baselineFile scope reference) = 0 ↔
        NothingLeft filtered) := by
  have run := h
  simp only [applyBaseline, bind_eq_ok] at run
  obtain ⟨_, -, report, reportOk, base, baseOk, review, reviewOk, enforced⟩ := run
  have approved : (· ∈ review.approved) = ApprovedBy scope (itemsIn (Mapping.get base "findings")) := by
    funext f
    exact propext (readBaseline_approved reviewOk f)
  have result := enforce_eq_ok enforced
  rw [approved] at result
  refine ⟨report, base, loadJson_eq_ok reportOk, loadJson_eq_ok baseOk, result, ?_⟩
  rw [h, exitStatus, ← totalCount_eq_zero, ← result.remaining]
  split_ifs with none
  · simp [none]
  · simp [none]

end Run

section Sample

def reviewScope : String :=
  "sha256:aaaaaaaaaaaaaaaaaaaaaaaaaaaaaaaaaaaaaaaaaaaaaaaaaaaaaaaaaaaaaaaa"

def reviewFinding (id : String) : Json :=
  .obj [("VulnerabilityID", .str id), ("PkgName", .str "zlib"), ("InstalledVersion", .str "1.2 "),
    ("FixedVersion", .str "1.3")]

def reviewItem : Json :=
  .obj [("scope", .str reviewScope), ("target", .str "app (alpine)"), ("id", .str "CVE-1"),
    ("package", .str "zlib"), ("installed_version", .str "1.2"), ("fixed_version", .str "1.3")]

def baselineReport (findings : List Json) : Mapping :=
  [("Results", .arr [.obj [("Vulnerabilities", .arr findings), ("Target", .str "app (alpine)")]])]

def reviewBaseline : Mapping :=
  [("version", .int 1), ("owner", .str "platform"), ("reviewed_at", .str "2026-01-01"),
    ("expires", .str "2026-02-01"), ("statement", .str "accepted"),
    ("compensating_control", .str "proxy"), ("findings", .arr [reviewItem])]

def reviewHost : Host where
  sha256 := fun _ _ => 0
  loads := fun bytes => if bytes = [0] then some (.obj (baselineReport [reviewFinding "CVE-1",
    reviewFinding "CVE-2"])) else some (.obj reviewBaseline)
  dumps := fun _ => []
  str := fun _ => ""

def reviewDate (month : Nat) (h : month = 1 ∨ month = 2) : Date :=
  ⟨2026, month, 1, by rcases h with rfl | rfl <;> rfl⟩

def reviewIsoformat (text : String) : Option Date :=
  if text = "2026-01-01" then some (reviewDate 1 (.inl rfl)) else some (reviewDate 2 (.inr rfl))

/-- One of two vulnerabilities is approved. -/
theorem applyBaseline_enforces_sample :
    ∃ report base, reviewHost.loads [0] = some (.obj report) ∧
      reviewHost.loads [1] = some (.obj base) ∧
      Enforced reviewHost (ApprovedBy reviewScope (itemsIn (Mapping.get base "findings"))) report
        (baselineReport [reviewFinding "CVE-2"]) 1 ∧
      (exitStatus (applyBaseline reviewHost reviewIsoformat ⟨true, false, [0]⟩ ⟨true, false, [1]⟩
        reviewScope (reviewDate 1 (.inl rfl))) = 0 ↔
        NothingLeft (baselineReport [reviewFinding "CVE-2"])) := by
  have run : applyBaseline reviewHost reviewIsoformat ⟨true, false, [0]⟩ ⟨true, false, [1]⟩
      reviewScope (reviewDate 1 (.inl rfl)) = .ok (baselineReport [reviewFinding "CVE-2"],
        ⟨"validated", reviewScope, "platform", "2026-01-01", "2026-02-01", "accepted", "proxy",
          1, 1, 1⟩) := by
    rfl
  exact applyBaseline_enforces run

end Sample

end OptimizrActions.SecurityGate
