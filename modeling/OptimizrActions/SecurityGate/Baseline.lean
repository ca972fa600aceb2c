import OptimizrActions.Exceptions.Policy
import OptimizrActions.SecurityGate.Filter

/-! The reviewed baseline: approved vulnerabilities of one image are taken out of its report. -/

namespace OptimizrActions.SecurityGate

open Exceptions (Date strippedText?)

/-- `_IMAGE_ID.fullmatch(text)` -/
def isImageId (text : String) : Bool := Text.sha256Text Text.isHex text

structure InputFile where
  isFile : Bool
  isSymlink : Bool
  bytes : List UInt8

/-- `_load_json` -/
def loadJson (host : Host) (file : InputFile) (label : String) : Except String Mapping := do
  require (file.isFile ∧ ¬file.isSymlink) (label ++ " must be a regular non-symlink file")
  match host.loads file.bytes with
  | none => .error (label ++ " must be valid UTF-8 JSON")
  | some (.obj payload) => .ok payload
  | some _ => .error (label ++ " must be a JSON object")

/-- `_required_text` -/
def requiredText (payload : Mapping) (field : String) : Except String String :=
  match strippedText? (payload.get field) with
  | some text => .ok text
  | none => .error ("baseline field " ++ field ++ " is required")

/-- The five fields that name a vulnerability in a baseline. -/
@[ext] structure Fingerprint where
  target : String
  id : String
  package : String
  installedVersion : String
  fixedVersion : String
  deriving DecidableEq

/-- `any(not value for value in fields)`, negated. -/
def Fingerprint.Complete (f : Fingerprint) : Prop :=
  f.target ≠ "" ∧ f.id ≠ "" ∧ f.package ≠ "" ∧ f.installedVersion ≠ "" ∧ f.fixedVersion ≠ ""

instance (f : Fingerprint) : Decidable f.Complete := inferInstanceAs (Decidable (_ ∧ _))

def fingerprintOf (host : Host) (target : String) (finding : Mapping) : Fingerprint where
  target := Text.strip target
  id := host.normalText (finding.get "VulnerabilityID")
  package := host.normalText (finding.get "PkgName")
  installedVersion := host.normalText (finding.get "InstalledVersion")
  fixedVersion := host.normalText (finding.get "FixedVersion")

/-- `_finding_fingerprint` -/
def findingFingerprint (host : Host) (target : String) (finding : Mapping) :
    Except String Fingerprint := do
  require (fingerprintOf host target finding).Complete
    "Trivy vulnerability is missing baseline fingerprint fields"
  return fingerprintOf host target finding

def findingLabel (index : Nat) : String := "baseline findings[" ++ toString index ++ "]"

def fingerprintText (entry : Mapping) (index : Nat) (name : String) : Except String String :=
  match strippedText? (entry.get name) with
  | some text => .ok text
  | none => .error (findingLabel index ++ "." ++ name ++ " is required")

/-- `_baseline_fingerprint` -/
def baselineFingerprint (entry : Mapping) (index : Nat) : Except String Fingerprint := do
  let target ← fingerprintText entry index "target"
  let id ← fingerprintText entry index "id"
  let package ← fingerprintText entry index "package"
  let installedVersion ← fingerprintText entry index "installed_version"
  let fixedVersion ← fingerprintText entry index "fixed_version"
  return { target, id, package, installedVersion, fixedVersion }

/-- The scope of an approved finding. -/
def itemScope (item : Mapping) (index : Nat) : Except String String :=
  match item.get "scope" with
  | .str scope => do
    require (isImageId (Text.strip scope)) (findingLabel index ++ ".scope must be a sha256 image ID")
    return Text.strip scope
  | _ => .error (findingLabel index ++ ".scope must be a sha256 image ID")

/-- One turn of the loop over the baseline findings; those of other scopes are passed over. -/
def approve (scope : String) (index : Nat) (approved : List Fingerprint) :
    Json → Except String (List Fingerprint)
  | .obj item => do
    let other ← itemScope item index
    if Text.lower other ≠ Text.lower scope then return approved
    else do
      let fingerprint ← baselineFingerprint item index
      require (fingerprint ∉ approved)
        ("duplicate baseline fingerprint at findings[" ++ toString index ++ "]")
      return approved ++ [fingerprint]
  | _ => .error (findingLabel index ++ " must be an object")

def approveAll (scope : String) : Nat → List Fingerprint → List Json →
    Except String (List Fingerprint)
  | _, approved, [] => .ok approved
  | index, approved, item :: rest => do
    let approved ← approve scope index approved item
    approveAll scope (index + 1) approved rest

/-- What a reviewed baseline says about one scope. -/
structure Review where
  owner : String
  reviewedAt : String
  expires : String
  statement : String
  compensatingControl : String
  approved : List Fingerprint

def baselineDate (fromisoformat : String → Option Date) (text : String) : Except String Date :=
  match fromisoformat text with
  | some date => .ok date
  | none => .error "baseline dates must use YYYY-MM-DD"

def baselineFindings (baseline : Mapping) : Except String (List Json) :=
  match baseline.get "findings" with
  | .arr (item :: rest) => .ok (item :: rest)
  | _ => .error "baseline findings must be a non-empty array"

def readBaseline (fromisoformat : String → Option Date) (reference : Date) (scope : String)
    (baseline : Mapping) : Except String Review := do
  require (baseline.get "version").eqOne "baseline version must be 1"
  let owner ← requiredText baseline "owner"
  let reviewedAtText ← requiredText baseline "reviewed_at"
  let expiresText ← requiredText baseline "expires"
  let statement ← requiredText baseline "statement"
  let control ← requiredText baseline "compensating_control"
  let reviewedAt ← baselineDate fromisoformat reviewedAtText
  let expires ← baselineDate fromisoformat expiresText
  require (¬reference < reviewedAt) "baseline reviewed_at must not be in the future"
  require (¬expires < reference) ("baseline expired on " ++ expiresText)
  let findings ← baselineFindings baseline
  let approved ← approveAll scope 0 [] findings
  return ⟨owner, reviewedAtText, expiresText, statement, control, approved⟩

/-- `result.get(field, []) or []` -/
def listOrEmpty (result : Mapping) (field message : String) : Except String (List Json) :=
  if (result.get field).truthy then
    match result.get field with
    | .arr items => .ok items
    | _ => .error message
  else .ok []

/-- The vulnerabilities that stay, and the fingerprints of those that go. -/
def retain (host : Host) (approved : List Fingerprint) (target : String) :
    List Json → Except String (List Json × List Fingerprint)
  | [] => .ok ([], [])
  | .obj finding :: rest => do
    let fingerprint ← findingFingerprint host target finding
    let (retained, matched) ← retain host approved target rest
    return if fingerprint ∈ approved then (retained, fingerprint :: matched)
      else (.obj finding :: retained, matched)
  | _ :: _ => .error "Trivy vulnerability entries must be objects"

/-- One turn of the loop over the results: the result, what was matched and what remains. -/
def baselineResult (host : Host) (approved : List Fingerprint) :
    Json → Except String (Mapping × List Fingerprint × Nat)
  | .obj result => do
    let target := host.normalText (Mapping.get result "Target")
    let vulnerabilities ← listOrEmpty result "Vulnerabilities"
      "Trivy Vulnerabilities must be an array"
    let (retained, matched) ← retain host approved target vulnerabilities
    let misconfigurations ← listOrEmpty result "Misconfigurations"
      "Trivy Misconfigurations must be an array"
    let secrets ← listOrEmpty result "Secrets" "Trivy Secrets must be an array"
    return (Mapping.set result "Vulnerabilities" (.arr retained), matched,
      retained.length + misconfigurations.length + secrets.length)
  | _ => .error "Trivy Results entries must be objects"

def baselineResults (host : Host) (approved : List Fingerprint) :
    List Json → Except String (List Json × List Fingerprint × Nat)
  | [] => .ok ([], [], 0)
  | result :: rest => do
    let (result, matched, count) ← baselineResult host approved result
    let (results, more, remaining) ← baselineResults host approved rest
    return (.obj result :: results, matched ++ more, count + remaining)

/-- `filtered.get("Results", [])`, where `None` stands for no results. -/
def rawResults (report : Mapping) : Except String (List Json) :=
  match report.getD "Results" (.arr []) with
  | .null => .ok []
  | .arr results => .ok results
  | _ => .error "Trivy Results must be an array"

structure BaselineSummary where
  status : String
  scope : String
  owner : String
  reviewedAt : String
  expires : String
  statement : String
  compensatingControl : String
  approved : Nat
  matched : Nat
  remaining : Nat

/-- The enforcement report and the summary of a report and a review. -/
def enforce (host : Host) (scope : String) (report : Mapping) (review : Review) :
    Except String (Mapping × BaselineSummary) := do
  let results ← rawResults report
  let (results, matched, remaining) ← baselineResults host review.approved results
  let stale := review.approved.filter (· ∉ matched)
  require (stale = []) ("baseline contains " ++ toString stale.length ++
    " fingerprint(s) absent from the current report for " ++ scope)
  return (replaceField report "Results" (.arr results),
    { status := if review.approved = [] then "not-applicable" else "validated"
      scope := Text.lower scope
      owner := review.owner
      reviewedAt := review.reviewedAt
      expires := review.expires
      statement := review.statement
      compensatingControl := review.compensatingControl
      approved := review.approved.length
      matched := matched.dedup.length
      remaining })

/-- `apply_baseline`: what is written to the two output files. -/
def applyBaseline (host : Host) (fromisoformat : String → Option Date) (report baseline : InputFile)
    (scope : String) (reference : Date) : Except String (Mapping × BaselineSummary) := do
  require (isImageId scope) "baseline scope must be an immutable sha256 image ID"
  let report ← loadJson host report "Trivy report"
  let baseline ← loadJson host baseline "baseline"
  let review ← readBaseline fromisoformat reference scope baseline
  enforce host scope report review

/-- The exit status of `main`. -/
def exitStatus : Except String (Mapping × BaselineSummary) → Nat
  | .ok (_, summary) => if summary.remaining = 0 then 0 else 1
  | .error _ => 2

end OptimizrActions.SecurityGate
