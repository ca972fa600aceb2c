import OptimizrActions.Evidence.Suite

/-! What a passed suite stands for. -/

namespace OptimizrActions.Evidence

/-- A record that passes for the job, of the expected identity. -/
structure Passing (name : String) (record expected : Mapping) : Prop where
  version : (record.get "schema_version").eqOne = true
  repository : ∃ s, record.get "repository" = .str s ∧ IsRequiredText s ∧ isRepository s = true
  runId : ∃ text, validateRunNumber (record.get "run_id") "run_id" = .ok text
  runAttempt : ∃ text, validateRunNumber (record.get "run_attempt") "run_attempt" = .ok text
  sourceSha : ∃ s, record.get "source_sha" = .str s ∧ IsRequiredText s ∧ isSha s = true
  expected : ∀ key ∈ identityKeys, key ∈ expected.map Prod.fst →
    (record.get key).eq (expected.get key) = true
  producer : ∃ producer, record.get "producer" = .obj producer ∧
    ∃ file, validateProducer producer = .ok file ∧ childWorkflowFiles.lookup name = some file
  conclusion : record.get "conclusion" = .str "success"
  result : record.get "result" = .str "passed"
  artifactName : some (record.get "artifact_name") = (childArtifactNames.lookup name).map Json.str
  paths : validatePaths record = .ok ⟨⟩
  sha256 : ∃ s, record.get "evidence_sha256" = .str s ∧ isSha256 s = true
  artifactId : ∃ text, validateRunNumber (record.get "artifact_id") "artifact_id" = .ok text
  artifactDigest : ∃ s, record.get "artifact_digest" = .str s ∧ isArtifactSha256 s = true
  present : record.get "evidence_present" = .bool true
  fileCount : ∃ n : Int, 0 < n ∧ record.get "evidence_file_count" = .int n
  totalBytes : ∃ n : Int, 0 < n ∧ record.get "evidence_total_bytes" = .int n
  index : ∃ s, record.get "evidence_index_sha256" = .str s ∧ isSha256 s = true

/-- What a passed suite stands for. -/
structure SuitePassed (required : List String) (jobs evidence expected : Mapping) : Prop where
  succeeded : ∀ name ∈ required, jobs.get name = .str "success"
  completed : ∀ job ∈ jobs, job.2 = .str "success" ∨ job.2 = .str "skipped"
  records : ∀ name ∈ childEvidenceNames, jobs.get name ≠ .str "skipped" →
    ∃ record, evidence.get name = .obj record ∧ Passing name record expected
  skipped : ∀ name ∈ childEvidenceNames, jobs.get name = .str "skipped" → name ∉ required →
    evidence.get name = .null

theorem issueIf_eq_nil {p : Prop} [Decidable p] {issue : String} : issueIf p issue = [] ↔ ¬p := by
  unfold issueIf
  split <;> simp [*]

theorem issueOf_eq_nil {α : Type} {issue : String} {x : Except String α} :
    issueOf issue x = [] ↔ ∃ a, x = .ok a := by
  cases x <;> simp [issueOf]

theorem isText_iff {p : String → Bool} {v : Json} :
    isText p v = true ↔ ∃ s, v = .str s ∧ p s = true := by
  cases v <;> simp [isText]

theorem isOneOf_iff {values : List String} {v : Json} :
    isOneOf values v = true ↔ ∃ s, v = .str s ∧ s ∈ values := by
  cases v <;> simp [isOneOf]

theorem isCount_iff {v : Json} : isCount v = true ↔ ∃ n : Int, v = .int n ∧ 0 ≤ n := by
  cases v <;> simp [isCount]

theorem isBool_iff {v : Json} : isBool v = true ↔ ∃ b, v = .bool b := by
  cases v <;> simp [isBool]

theorem eq_zero_iff {n : Int} : (Json.int n).eq (.int 0) = true ↔ n = 0 := by
  simp only [Json.eq, Json.eqScalar, Json.eqScalar.number?, decide_eq_true_eq]
  exact Int.cast_inj

theorem identityIssues_eq_nil {record expected : Mapping} {key : String} :
    identityIssues record expected key = [] ↔
      (∃ text, validateIdentityField key (record.get key) = .ok text) ∧
      (key ∈ expected.map Prod.fst → (record.get key).eq (expected.get key) = true) := by
  unfold identityIssues
  cases validateIdentityField key (record.get key) with
  | error e => simp
  | ok text => simp [issueIf_eq_nil]

theorem producerIssues_eq_nil {name : String} {v : Json} :
    producerIssues name v = [] ↔ ∃ producer, v = .obj producer ∧
      ∃ file, validateProducer producer = .ok file ∧
        childWorkflowFiles.lookup name = some file := by
  cases v with
  | obj producer =>
    simp only [producerIssues, Json.obj.injEq, exists_eq_left']
    cases validateProducer producer with
    | error e => simp
    | ok file => simp [issueIf_eq_nil]
  | _ => simp [producerIssues]

theorem countIssues_eq_nil {present count : Json} (bool : isBool present = true) :
    countIssues present count = [] ↔
      isCount count = true ∧ present = .bool (isPositive count) := by
  unfold countIssues
  split
  next off => simp [off]
  next on => simp [issueIf_eq_nil, bool, on]

theorem contentIssues_eq_nil {record : Mapping} (passed : record.get "result" = .str "passed") :
    contentIssues record = [] ↔ record.get "evidence_present" = .bool true ∧
      (∃ n : Int, 0 < n ∧ record.get "evidence_file_count" = .int n) ∧
      (∃ n : Int, 0 < n ∧ record.get "evidence_total_bytes" = .int n) ∧
      ∃ s, record.get "evidence_index_sha256" = .str s ∧ isSha256 s = true := by
  simp only [contentIssues, List.append_eq_nil_iff, issueIf_eq_nil, Bool.not_eq_false, passed,
    true_and, not_or]
  constructor
  · rintro ⟨⟨⟨⟨present, count⟩, total⟩, index⟩, someFiles, someBytes⟩
    obtain ⟨isCount, same⟩ := (countIssues_eq_nil present).mp count
    obtain ⟨files, atCount, nonneg⟩ := isCount_iff.mp isCount
    obtain ⟨bytes, atTotal, nonneg'⟩ := isCount_iff.mp total
    rw [atCount, eq_zero_iff] at someFiles
    rw [atTotal, eq_zero_iff] at someBytes
    have pos : 0 < files := by omega
    rw [atCount, isPositive, decide_eq_true pos] at same
    exact ⟨same, ⟨files, pos, atCount⟩, ⟨bytes, by omega, atTotal⟩, isText_iff.mp index⟩
  · rintro ⟨present, ⟨files, pos, atCount⟩, ⟨bytes, pos', atTotal⟩, index⟩
    have isBool : isBool (.bool true) = true := rfl
    simp only [atCount, atTotal, present, eq_zero_iff, countIssues_eq_nil isBool, isCount,
      isPositive, pos, decide_true, decide_eq_true_eq]
    exact ⟨⟨⟨⟨isBool, pos.le, trivial⟩, pos'.le⟩, isText_iff.mpr index⟩, by omega, by omega⟩

/-- A record without issues, for a job that succeeded. -/
theorem passing_of_issues {name : String} {record expected : Mapping}
    (h : recordIssues name record "success" expected = []) : Passing name record expected := by
  simp only [recordIssues, List.append_eq_nil_iff, issueIf_eq_nil, issueOf_eq_nil,
    Bool.not_eq_false, outcomeIssues, not_not, true_and, producerIssues_eq_nil,
    List.flatMap_eq_nil_iff, identityIssues_eq_nil] at h
  obtain ⟨⟨⟨⟨⟨⟨⟨⟨⟨version, identity⟩, producer⟩, ⟨⟨⟨-, mismatch⟩, passed⟩, -⟩⟩, artifactName⟩,
    ⟨_, paths⟩⟩, sha256⟩, artifactId⟩, digest⟩, content⟩ := h
  obtain ⟨present, count, total, index⟩ := (contentIssues_eq_nil passed).mp content
  have conclusion : record.get "conclusion" = .str "success" :=
    not_not.mp fun other => mismatch ⟨passed, other⟩
  obtain ⟨_, repository⟩ := (identity "repository" (by decide)).1
  obtain ⟨runId, atRunId⟩ := (identity "run_id" (by decide)).1
  obtain ⟨runAttempt, atRunAttempt⟩ := (identity "run_attempt" (by decide)).1
  obtain ⟨_, sourceSha⟩ := (identity "source_sha" (by decide)).1
  exact {
    version, producer, conclusion, artifactName, paths
    result := passed
    repository := ⟨_, validateRepository_eq_ok.mp repository⟩
    runId := ⟨runId, atRunId⟩
    runAttempt := ⟨runAttempt, atRunAttempt⟩
    sourceSha := ⟨_, validateSha_eq_ok.mp sourceSha⟩
    expected := fun key mem => (identity key mem).2
    sha256 := isText_iff.mp sha256
    artifactId
    artifactDigest := isText_iff.mp digest
    present
    fileCount := count
    totalBytes := total
    index }

theorem childEvidenceIssues_eq_nil {name : String} {v : Json} {expected : Mapping}
    (h : childEvidenceIssues name v "success" expected = .ok []) :
    ∃ record, v = .obj record ∧ Passing name record expected := by
  cases v with
  | obj record =>
    simp only [childEvidenceIssues, bind_eq_ok, pure_eq_ok] at h
    obtain ⟨_, -, none⟩ := h
    exact ⟨record, rfl, passing_of_issues none⟩
  | _ => simp [childEvidenceIssues] at h

theorem jobResult_eq {jobs : Mapping} {name result : String} (h : jobs.get name = .str result) :
    jobResult jobs name = result := by
  rw [jobResult, h]

theorem blockingJobs_eq_nil {required : List String} {jobs : Mapping} :
    blockingJobs required jobs = [] ↔
      (∀ job ∈ jobs, isOneOf ["failure", "cancelled"] job.2 = false) ∧
      ∀ name ∈ required, jobs.get name = .str "success" := by
  simp [blockingJobs, List.append_eq_nil_iff, List.filter_eq_nil_iff]

theorem completed_of {v : Json} (known : isOneOf jobResults v = true)
    (notBlocking : isOneOf ["failure", "cancelled"] v = false) :
    v = .str "success" ∨ v = .str "skipped" := by
  obtain ⟨s, rfl, mem⟩ := isOneOf_iff.mp known
  simp only [jobResults, List.mem_cons, List.not_mem_nil, or_false] at mem
  rcases mem with rfl | rfl | rfl | rfl
  · exact .inl rfl
  · exact absurd notBlocking (by decide)
  · exact absurd notBlocking (by decide)
  · exact .inr rfl

theorem childEvidenceNames_subset : childEvidenceNames ⊆ jobNames := by decide

section Suite

variable {profile imageRefs : String} {jobs evidence expected : Mapping} {summary : Summary}

/-- A suite passes only with successful jobs and passing evidence of every child. -/
theorem summarizeSecuritySuite_passed
    (h : summarizeSecuritySuite profile imageRefs jobs (some (.obj evidence)) expected =
      .ok summary) (passed : summary.result = "passed") :
    SuitePassed (requiredJobs profile imageRefs) jobs evidence expected := by
  simp only [summarizeSecuritySuite, validateJobs, bind_eq_ok, require_eq_ok, pure_eq_ok] at h
  obtain ⟨_, ⟨_, -, _, ⟨-, complete⟩, known⟩, children, each, rfl⟩ := h
  -- no job blocks, and no child has issues
  have clean : blockingJobs (requiredJobs profile imageRefs) jobs = [] ∧
      ∀ child ∈ children, child.2.2 = [] := by
    simp only [withChildren, jobSummary] at passed
    split_ifs at passed with errors blocking
    · exact absurd passed (by decide)
    · exact absurd passed (by decide)
    · refine ⟨not_not.mp blocking, fun child mem => ?_⟩
      have clean := List.filter_eq_nil_iff.mp (not_not.mp errors)
        (child.1, child.2.2) (List.mem_map.mpr ⟨child, mem, rfl⟩)
      simpa using clean
  obtain ⟨unblocked, succeeded⟩ := blockingJobs_eq_nil.mp clean.1
  have completed : ∀ job ∈ jobs, job.2 = .str "success" ∨ job.2 = .str "skipped" :=
    fun job mem => completed_of (known job mem) (unblocked job mem)
  have read {name : String} (mem : name ∈ childEvidenceNames) : ∃ record,
      childSummary (requiredJobs profile imageRefs) jobs evidence expected name =
        .ok (record, []) := by
    obtain ⟨child, inside, at_⟩ := mem_of_forall₂ (mapM_eq_ok_iff.mp each).flip mem
    obtain ⟨⟨record, issues⟩, ok, at_⟩ := bind_eq_ok.mp at_
    cases pure_eq_ok.mp at_
    have none : issues = [] := clean.2 _ inside
    exact ⟨record, none ▸ ok⟩
  refine ⟨succeeded, completed, fun name mem running => ?_, fun name mem skipped optional => ?_⟩
  · obtain ⟨record, ok⟩ := read mem
    have isJob : name ∈ jobs.map Prod.fst := complete (childEvidenceNames_subset mem)
    obtain ⟨job, inJobs, at_⟩ := Mapping.exists_of_mem_keys isJob
    have success : jobs.get name = .str "success" :=
      at_ ▸ (completed job inJobs).resolve_right (at_ ▸ running)
    simp only [childSummary, running, false_and, if_false, bind_eq_ok, pure_eq_ok,
      jobResult_eq success, Prod.mk.injEq] at ok
    obtain ⟨_, issues, -, rfl⟩ := ok
    exact childEvidenceIssues_eq_nil issues
  · obtain ⟨record, ok⟩ := read mem
    rw [childSummary, if_pos ⟨skipped, optional⟩, Except.ok.injEq, Prod.mk.injEq,
      issueIf_eq_nil, not_not] at ok
    exact ok.2

/-- A document that passes was written by its workflow: it was found in the outputs. -/
theorem childDocument_passing {loads : String → Option Json} {output : Json} {record : Mapping}
    {name : String} (document : childDocument loads output = .obj record)
    (passing : Passing name record expected) : ∃ fields text written, output = .obj fields ∧
      Mapping.get fields "record_json" = .str text ∧ loads text = some (.obj written) := by
  cases output with
  | obj fields =>
    cases document
    have version := passing.version
    rw [childDocument.attached, Mapping.get_set_of_ne (by decide),
      Mapping.get_set_of_ne (by decide), Mapping.get_set_of_ne (by decide),
      childDocument.recordJson] at version
    split at version
    next text at_ =>
      split at version
      next written loaded => exact ⟨fields, text, written, rfl, at_, loaded⟩
      next => exact absurd version (by decide)
    next => exact absurd version (by decide)
  | _ => cases document

end Suite

section Sample

def suiteSha : String := "0123456789abcdef0123456789abcdef01234567"

def suiteSha256 : String := "dc51b8c96c2d745df3bd5590d990230a482fd247123599548e0632fdbf97fc22"

def suiteRecord (file artifact : String) : Mapping :=
  [("schema_version", .int 1), ("repository", .str "acme/shop"), ("run_id", .str "7"),
    ("run_attempt", .str "1"),
    ("producer", .obj [("repository", .str "acme/ci"), ("ref", .str "main"),
      ("sha", .str suiteSha), ("file", .str file)]),
    ("source_sha", .str suiteSha), ("conclusion", .str "success"), ("result", .str "passed"),
    ("artifact_name", .str artifact), ("evidence_path", .str "."),
    ("evidence_manifest_path", .str "evidence-manifest.json"), ("evidence_present", .bool true),
    ("evidence_file_count", .int 1), ("evidence_total_bytes", .int 3),
    ("evidence_index_sha256", .str suiteSha256), ("evidence_sha256", .str suiteSha256),
    ("artifact_id", .str "12"), ("artifact_digest", .str suiteSha256)]

def suiteJobs : Mapping :=
  [("profile", .str "success"), ("static_lint", .str "success"),
    ("filesystem_security", .str "success"), ("dependency_policy", .str "skipped"),
    ("sast", .str "skipped"), ("supply_chain", .str "skipped")]

def suiteEvidence : Mapping :=
  [("static_lint", .obj (suiteRecord ".github/workflows/_static-lint.yml"
      "security-suite-static-lint")),
    ("filesystem_security", .obj (suiteRecord ".github/workflows/_security-gate.yml"
      "security-suite-filesystem"))]

def suiteIdentity : Mapping :=
  [("repository", .str "acme/shop"), ("run_id", .str "7"), ("run_attempt", .str "1"),
    ("source_sha", .str suiteSha)]

def suiteSummary : Summary :=
  withChildren (jobSummary "compose" " " suiteJobs)
    [("dependency_policy", .null, []),
      ("filesystem_security", childSummary.childRecord suiteJobs "filesystem_security"
        (suiteEvidence.get "filesystem_security"), []),
      ("sast", .null, []),
      ("static_lint", childSummary.childRecord suiteJobs "static_lint"
        (suiteEvidence.get "static_lint"), []),
      ("supply_chain", .null, [])]

/-- A suite of two gates that passed. -/
theorem summarizeSecuritySuite_passed_sample :
    SuitePassed (requiredJobs "compose" " ") suiteJobs suiteEvidence suiteIdentity := by
  have summarized : summarizeSecuritySuite "compose" " " suiteJobs (some (.obj suiteEvidence))
      suiteIdentity = .ok suiteSummary := by decide +kernel
  exact summarizeSecuritySuite_passed summarized (by decide +kernel)

end Sample

end OptimizrActions.Evidence
