import OptimizrActions.Lib.Check
import OptimizrActions.Lib.Dict
import OptimizrActions.Lib.JsonText
import OptimizrActions.Lib.Text

/-! The counts of a Trivy report, and of several reports together. -/

namespace OptimizrActions.SecurityGate

structure Counts where
  severities : List (String × Nat)
  fixable : Nat
  unfixed : Nat
  misconfigurations : Nat
  secrets : Nat
  deriving DecidableEq

def noCounts : Counts := ⟨[], 0, 0, 0, 0⟩

/-- `result.get(field, []) or []`, an array. -/
def findingsOf (result : Mapping) (field : String) : Except String (List Json) :=
  let value := result.getD field (.arr [])
  if value.truthy then
    match value with
    | .arr findings => .ok findings
    | _ => .error s!"Trivy {field} must be an array"
  else .ok []

/-- A non-empty fixed version. -/
def hasFix (finding : Mapping) : Bool :=
  match finding.get "FixedVersion" with
  | .str version => Text.strip version ≠ ""
  | _ => false

section

-- `str` of a value that is not text
variable (str : Json → String)

/-- `str(finding.get("Severity") or "UNKNOWN").upper()` -/
def severityOf (finding : Mapping) : String :=
  match finding.get "Severity" with
  | .str severity => if severity = "" then "UNKNOWN" else Text.upper severity
  | severity => if severity.truthy then Text.upper (str severity) else "UNKNOWN"

/-- `severities[severity] += 1` -/
def tally (severities : List (String × Nat)) (severity : String) : List (String × Nat) :=
  Dict.put severities (severity, (severities.lookup severity).getD 0 + 1)

def countFinding (counts : Counts) : Json → Except String Counts
  | .obj finding =>
    let counts := { counts with severities := tally counts.severities (severityOf str finding) }
    if hasFix finding then .ok { counts with fixable := counts.fixable + 1 }
    else .ok { counts with unfixed := counts.unfixed + 1 }
  | _ => .error "Trivy vulnerability entries must be objects"

def countResult (counts : Counts) : Json → Except String Counts
  | .obj result => do
    let vulnerabilities ← findingsOf result "Vulnerabilities"
    let counts ← vulnerabilities.foldlM (countFinding str) counts
    let configs ← findingsOf result "Misconfigurations"
    let secretFindings ← findingsOf result "Secrets"
    return { counts with
      misconfigurations := counts.misconfigurations + configs.length
      secrets := counts.secrets + secretFindings.length }
  | _ => .error "Trivy Results entries must be objects"

def resultsOf (report : Mapping) : Except String (List Json) :=
  match report.getD "Results" (.arr []) with
  | .null => .ok []
  | .arr results => .ok results
  | _ => .error "Trivy Results must be an array"

/-- `_counts` -/
def countReport (report : Mapping) : Except String Counts := do
  let results ← resultsOf report
  results.foldlM (countResult str) noCounts

/-- The regular files of a directory that are no symlinks, by their names. -/
abbrev ReportFiles := String → Option (List UInt8)

variable (codec : JsonCodec) (files : ReportFiles)

def loadReport (name : String) : Except String Mapping :=
  match files name with
  | none => .error "Trivy report must be a regular non-symlink file"
  | some content =>
    match codec.loads content with
    | none => .error "Trivy report is not valid UTF-8 JSON"
    | some (.obj report) => .ok report
    | some _ => .error "Trivy report must be a JSON object"

/-- `-enforced.json` -/
def enforcedSuffix : List Char := "-enforced.json".toList

/-- `_complete_report_for_enforcement` -/
def completeReportFor (name : String) : Option String :=
  if enforcedSuffix <:+ name.toList then
    let candidate := String.ofList
      (name.toList.take (name.toList.length - enforcedSuffix.length) ++ ".json".toList)
    if (files candidate).isSome then some candidate else none
  else none

structure TrivySummary where
  total : Nat
  fixable : Nat
  unfixed : Nat
  bySeverity : List (String × Nat)
  misconfigurations : Nat
  secrets : Nat
  deriving DecidableEq

def TrivySummary.policy : Mapping :=
  [("fixable_vulnerabilities", .str "blocking"), ("unfixed_vulnerabilities", .str "signal-only"),
    ("misconfigurations", .str "blocking"), ("secrets", .str "blocking")]

def TrivySummary.vulnerabilities (summary : TrivySummary) : Mapping :=
  [("total", .int summary.total), ("fixable", .int summary.fixable),
    ("unfixed", .int summary.unfixed),
    ("by_severity", .obj (summary.bySeverity.map fun entry => (entry.1, .int entry.2)))]

def TrivySummary.toMapping (summary : TrivySummary) : Mapping :=
  [("schema_version", .int 1), ("vulnerabilities", .obj summary.vulnerabilities),
    ("misconfigurations", .int summary.misconfigurations), ("secrets", .int summary.secrets),
    ("policy", .obj TrivySummary.policy)]

/-- The number of findings without a fix, from the complete report where there is one. -/
def effectiveUnfixed (name : String) (enforced : Counts) : Except String Nat :=
  match completeReportFor files name with
  | none => .ok enforced.unfixed
  | some complete => do
    let report ← loadReport codec files complete
    let counts ← countReport str report
    return counts.unfixed

def summarizeTrivyReport (name : String) : Except String TrivySummary := do
  let report ← loadReport codec files name
  let counts ← countReport str report
  let unfixed ← effectiveUnfixed str codec files name counts
  return ⟨counts.fixable + unfixed, counts.fixable, unfixed,
    counts.severities.insertionSort (·.1 ≤ ·.1), counts.misconfigurations, counts.secrets⟩

end

/-- The classes of a deployment, from the best to the worst. -/
inductive Classification where
  | clean
  | unfixedWarning
  | actionableVulnerability
  | misconfigurationDetected
  | secretDetected
  | scannerError
  deriving DecidableEq, Repr

structure Totals where
  fixable : Nat
  unfixed : Nat
  misconfigurations : Nat
  secrets : Nat
  deriving DecidableEq

structure Aggregate where
  classification : Classification
  totals : Totals
  deriving DecidableEq

/-- `_non_negative_int` -/
def nonNegativeInt (value : Json) (field : String) : Except String Nat :=
  match value with
  | .int (.ofNat n) => .ok n
  | _ => .error s!"{field} must be a non-negative integer"

section

variable (codec : JsonCodec)

/-- `_load_summary`, from the content of a regular file. -/
def loadSummary : Option (List UInt8) → Except String Mapping
  | none => .error "summary must be a regular non-symlink file"
  | some content =>
    match codec.loads content with
    | none => .error "summary must be valid UTF-8 JSON"
    | some (.obj payload) => do
      require ((Mapping.get payload "schema_version").eqOne = true)
        "unsupported summary schema version"
      return payload
    | some _ => .error "summary must be a JSON object"

def vulnerabilitiesOf : Json → Except String Mapping
  | .obj vulnerabilities => .ok vulnerabilities
  | _ => .error "vulnerabilities must be an object"

/-- One turn of the loop over the summaries. -/
def addSummary (totals : Totals) (file : Option (List UInt8)) : Except String Totals := do
  let payload ← loadSummary codec file
  let vulnerabilities ← vulnerabilitiesOf (payload.get "vulnerabilities")
  let fixable ← nonNegativeInt (vulnerabilities.get "fixable") "vulnerabilities.fixable"
  let unfixed ← nonNegativeInt (vulnerabilities.get "unfixed") "vulnerabilities.unfixed"
  let misconfigurations ← nonNegativeInt (payload.get "misconfigurations") "misconfigurations"
  let secrets ← nonNegativeInt (payload.get "secrets") "secrets"
  return ⟨totals.fixable + fixable, totals.unfixed + unfixed,
    totals.misconfigurations + misconfigurations, totals.secrets + secrets⟩

def classify (gateError : Bool) (totals : Totals) : Classification :=
  if gateError then .scannerError
  else if totals.secrets ≠ 0 then .secretDetected
  else if totals.misconfigurations ≠ 0 then .misconfigurationDetected
  else if totals.fixable ≠ 0 then .actionableVulnerability
  else if totals.unfixed ≠ 0 then .unfixedWarning
  else .clean

def aggregateSummaries (summaries : List (Option (List UInt8))) (gateError : Bool) :
    Except String Aggregate := do
  require (summaries ≠ []) "at least one summary is required"
  let totals ← summaries.foldlM (addSummary codec) ⟨0, 0, 0, 0⟩
  return ⟨classify gateError totals, totals⟩

end

end OptimizrActions.SecurityGate
