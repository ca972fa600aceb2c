import OptimizrActions.Evidence.Identity

/-! The summary of the security suite over its jobs and their evidence. -/

namespace OptimizrActions.Evidence

/-- `JOB_RESULTS` -/
def jobResults : List String := ["success", "failure", "cancelled", "skipped"]

def jobNames : List String :=
  ["profile", "static_lint", "filesystem_security", "dependency_policy", "sast", "supply_chain"]

/-- `sorted(CHILD_EVIDENCE_NAMES)` -/
def childEvidenceNames : List String :=
  ["dependency_policy", "filesystem_security", "sast", "static_lint", "supply_chain"]

def childWorkflowFiles : List (String × String) :=
  [("static_lint", ".github/workflows/_static-lint.yml"),
    ("filesystem_security", ".github/workflows/_security-gate.yml"),
    ("dependency_policy", ".github/workflows/_dependency-policy.yml"),
    ("sast", ".github/workflows/_sast-gate.yml"),
    ("supply_chain", ".github/workflows/_supply-chain-evidence.yml")]

def childArtifactNames : List (String × String) :=
  [("static_lint", "security-suite-static-lint"),
    ("filesystem_security", "security-suite-filesystem"),
    ("dependency_policy", "security-suite-dependencies"), ("sast", "security-suite-sast"),
    ("supply_chain", "security-suite-supply-chain")]

def childRecordFields : List String :=
  ["schema_version", "repository", "run_id", "run_attempt", "producer", "source_sha", "conclusion",
    "result", "artifact_name", "evidence_path", "evidence_manifest_path", "evidence_present",
    "evidence_file_count", "evidence_total_bytes", "evidence_index_sha256", "evidence_sha256",
    "artifact_id", "artifact_digest"]

def identityKeys : List String := ["repository", "run_id", "run_attempt", "source_sha"]

def issueIf (p : Prop) [Decidable p] (issue : String) : List String := if p then [issue] else []

/-- The issue of a check that raises `EvidenceError`. -/
def issueOf {α : Type} (issue : String) : Except String α → List String
  | .error _ => [issue]
  | .ok _ => []

def validateIdentityField (key : String) (value : Json) : Except String String :=
  if key = "repository" then validateRepository value key
  else if key = "run_id" ∨ key = "run_attempt" then validateRunNumber value key
  else validateSha value key

def identityIssues (record expected : Mapping) (key : String) : List String :=
  match validateIdentityField key (record.get key) with
  | .error _ => [s!"malformed_{key}"]
  | .ok _ => issueIf (key ∈ expected.map Prod.fst ∧ (record.get key).eq (expected.get key) = false)
    s!"{key}_mismatch"

def validateProducer (producer : Mapping) : Except String String := do
  let _ ← validateRepository (producer.get "repository") "producer.repository"
  let _ ← requiredText (producer.get "ref") "producer.ref"
  let _ ← validateSha (producer.get "sha") "producer.sha"
  validateRelativePath (producer.get "file") "producer.file"

def producerIssues (name : String) : Json → List String
  | .obj producer =>
    match validateProducer producer with
    | .error _ => ["malformed_producer"]
    | .ok file => issueIf (childWorkflowFiles.lookup name ≠ some file) "producer_file_mismatch"
  | _ => ["malformed_producer"]

def isOneOf (values : List String) : Json → Bool
  | .str s => s ∈ values
  | _ => false

def isText (p : String → Bool) : Json → Bool
  | .str s => p s
  | _ => false

def isBool : Json → Bool
  | .bool _ => true
  | _ => false

def isCount : Json → Bool
  | .int n => 0 ≤ n
  | _ => false

def isPositive : Json → Bool
  | .int n => 0 < n
  | _ => false

def outcomeIssues (conclusion result : Json) (jobResult : String) : List String :=
  issueIf (isOneOf bundleConclusions conclusion = false) "malformed_conclusion" ++
  issueIf (isOneOf results result = false) "malformed_result" ++
  issueIf (result = .str "passed" ∧ conclusion ≠ .str "success") "result_conclusion_mismatch" ++
  issueIf (jobResult = "success" ∧ result ≠ .str "passed")
    "successful_job_without_passing_evidence" ++
  issueIf (jobResult ∈ ["failure", "cancelled"] ∧ conclusion ≠ .str jobResult)
    "job_conclusion_mismatch"

def validatePaths (record : Mapping) : Except String Unit := do
  let _ ← validateRelativePath (record.get "evidence_path") "evidence_path"
  let _ ← validateRelativePath (record.get "evidence_manifest_path") "evidence_manifest_path"

def countIssues (present count : Json) : List String :=
  if isCount count = false then ["malformed_evidence_file_count"]
  else issueIf (isBool present = true ∧ present ≠ .bool (isPositive count))
    "evidence_file_count_mismatch"

def contentIssues (record : Mapping) : List String :=
  issueIf (isBool (record.get "evidence_present") = false) "malformed_evidence_present" ++
  countIssues (record.get "evidence_present") (record.get "evidence_file_count") ++
  issueIf (isCount (record.get "evidence_total_bytes") = false)
    "malformed_evidence_total_bytes" ++
  issueIf (isText isSha256 (record.get "evidence_index_sha256") = false)
    "malformed_evidence_index_sha256" ++
  issueIf (record.get "result" = .str "passed" ∧
    ((record.get "evidence_file_count").eq (.int 0) = true ∨
      (record.get "evidence_total_bytes").eq (.int 0) = true)) "passing_evidence_has_no_content"

/-- The issues of a record that is an object. -/
def recordIssues (name : String) (record : Mapping) (jobResult : String) (expected : Mapping) :
    List String :=
  issueIf ((record.get "schema_version").eqOne = false) "schema_version_mismatch" ++
  identityKeys.flatMap (identityIssues record expected) ++
  producerIssues name (record.get "producer") ++
  outcomeIssues (record.get "conclusion") (record.get "result") jobResult ++
  issueIf (some (record.get "artifact_name") ≠ (childArtifactNames.lookup name).map Json.str)
    "artifact_name_mismatch" ++
  issueOf "malformed_evidence_path" (validatePaths record) ++
  issueIf (isText isSha256 (record.get "evidence_sha256") = false) "malformed_evidence_sha256" ++
  issueOf "malformed_artifact_id" (validateRunNumber (record.get "artifact_id") "artifact_id") ++
  issueIf (isText isArtifactSha256 (record.get "artifact_digest") = false)
    "malformed_artifact_digest" ++
  contentIssues record

/-- Text of decimal digits for which `int` raises another exception than `EvidenceError`. -/
def isOverlong : Json → Bool
  | .str s => s ≠ "" && s.toList.all (fun c => (Text.decimal? c).isSome) &&
    (Text.natText? s.toList).isNone
  | .int n => (Text.natText? (toString n.natAbs).toList).isNone
  | _ => false

def childEvidenceIssues (name : String) (record : Json) (jobResult : String) (expected : Mapping) :
    Except String (List String) :=
  match record with
  | .null => .ok ["missing_record"]
  | .obj record => do
    require (∀ key ∈ ["run_id", "run_attempt", "artifact_id"],
        isOverlong (Mapping.get record key) = false)
      "Exceeds the limit (4300 digits) for integer string conversion"
    return recordIssues name record jobResult expected
  | _ => .ok ["malformed_record"]

structure Summary where
  profile : String
  jobs : Mapping
  requiredJobs : List String
  expectedSkipped : List String
  unexpectedlySkipped : List String
  result : String
  childEvidence : List (String × Json)
  childEvidenceErrors : List (String × List String)
  deriving DecidableEq

/-- The names in `required`, sorted. -/
def requiredJobs (profile imageRefs : String) : List String :=
  (["profile", "static_lint", "filesystem_security"] ++
    (if profile ∈ ["python", "node", "monorepo"] then ["dependency_policy", "sast"] else []) ++
    (if profile ∈ ["compose", "infra", "monorepo"] ∧ Text.strip imageRefs ≠ "" then
      ["supply_chain"] else [])).insertionSort (· ≤ ·)

def jobResult (jobs : Mapping) (name : String) : String :=
  match jobs.get name with
  | .str result => result
  | _ => ""

/-- `child_records[name]` and the issues of one job's evidence. -/
def childSummary (required : List String) (jobs evidence expected : Mapping) (name : String) :
    Except String (Json × List String) :=
  if jobs.get name = .str "skipped" ∧ name ∉ required then
    .ok (.null, issueIf (evidence.get name ≠ .null) "skipped_job_has_evidence")
  else do
    let issues ← childEvidenceIssues name (evidence.get name) (jobResult jobs name) expected
    return (childRecord (evidence.get name), issues)
where
  childRecord : Json → Json
    | .obj record => .obj (childRecordFields.map (fun key => (key, Mapping.get record key)) ++
      [("job_result", jobs.get name)])
    | _ => .null

def blockingJobs (required : List String) (jobs : Mapping) : List String :=
  (jobs.filter fun job => isOneOf ["failure", "cancelled"] job.2).map Prod.fst ++
    required.filter fun name => jobs.get name ≠ .str "success"

/-- The summary before the evidence of the children is read. -/
def jobSummary (profile imageRefs : String) (jobs : Mapping) : Summary where
  profile := profile
  jobs := jobs
  requiredJobs := requiredJobs profile imageRefs
  expectedSkipped := ((jobs.filter fun job => job.2 = .str "skipped" ∧
    job.1 ∉ requiredJobs profile imageRefs).map Prod.fst).insertionSort (· ≤ ·)
  unexpectedlySkipped := (requiredJobs profile imageRefs).filter fun name =>
    jobs.get name = .str "skipped"
  result := if blockingJobs (requiredJobs profile imageRefs) jobs ≠ [] then "failed" else "passed"
  childEvidence := []
  childEvidenceErrors := []

def withChildren (summary : Summary) (children : List (String × Json × List String)) : Summary :=
  let errors := (children.map fun child => (child.1, child.2.2)).filter (·.2 ≠ [])
  { summary with
    childEvidence := children.map fun child => (child.1, child.2.1)
    childEvidenceErrors := errors
    result := if errors ≠ [] then "failed" else summary.result }

def validateJobs (profile : String) (jobs : Mapping) : Except String Unit := do
  require (profile ∈ ["python", "node", "compose", "infra", "monorepo"]) "profile is not allowed"
  require (jobs.map Prod.fst ⊆ jobNames ∧ jobNames ⊆ jobs.map Prod.fst)
    "suite job results must contain exactly the known jobs"
  require (∀ job ∈ jobs, isOneOf jobResults job.2 = true) "suite job result is not allowed"

def summarizeSecuritySuite (profile imageRefs : String) (jobs : Mapping)
    (childEvidence : Option Json) (expectedIdentity : Mapping) : Except String Summary := do
  validateJobs profile jobs
  match childEvidence with
  | none => return jobSummary profile imageRefs jobs
  | some (.obj evidence) => do
    let children ← childEvidenceNames.mapM fun name => do
      let child ← childSummary (requiredJobs profile imageRefs) jobs evidence expectedIdentity name
      return (name, child)
    return withChildren (jobSummary profile imageRefs jobs) children
  | some _ => .error "child evidence results must be an object"

/-- One child's document, from the outputs of its workflow. -/
def childDocument (loads : String → Option Json) : Json → Json
  | .obj output => .obj (attached output (recordJson output))
  | other => other
where
  attached (output record : Mapping) : Mapping :=
    ((record.set "evidence_sha256" (output.get "evidence_sha256")).set "artifact_id"
      (output.get "artifact_id")).set "artifact_digest" (output.get "artifact_digest")
  recordJson (output : Mapping) : Mapping :=
    match output.get "record_json" with
    | .str text => match loads text with
      | some (.obj record) => record
      | _ => []
    | _ => []

/-- The evidence that the command passes on. -/
def childDocuments (loads : String → Option Json) (childEvidenceJson : String) : Mapping :=
  let outputs : Mapping := match loads childEvidenceJson with
    | some (.obj outputs) => outputs
    | _ => []
  childEvidenceNames.map fun name => (name, childDocument loads (outputs.get name))

end OptimizrActions.Evidence
