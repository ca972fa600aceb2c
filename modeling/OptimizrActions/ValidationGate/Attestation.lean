import Mathlib.Data.List.Dedup
import Mathlib.Data.List.Sort
import OptimizrActions.Evidence.Fields
import OptimizrActions.Lib.JsonText

/-! The attestation of a validation, and the authorization of a delivery from it. -/

namespace OptimizrActions.ValidationGate

open Evidence (pathParts posix)

/-- The regular expression `SHA`. -/
def isSha (s : String) : Bool := Text.hexText Text.isLowerHex 40 s.toList

/-- The regular expression `DIGEST`. -/
def isDigest (s : String) : Bool := Text.sha256Text Text.isLowerHex s

def paths : List String := ["hosted", "self-hosted", "ephemeral-pr", "reviewed-emergency"]

def results : List String := ["success", "failure", "cancelled", "skipped"]

/-- What ends a script: a `ValueError` with the status 2, or another exception with the status 1. -/
inductive Raised where
  | value (message : String)
  | other (message : String)
  deriving DecidableEq

abbrev Loads := String → Except String Json

def check (p : Prop) [Decidable p] (message : String) : Except Raised Unit :=
  if p then .ok () else .error (.value message)

/-- `parse_json(text, list, label)` -/
def parseList (loads : Loads) (text label : String) : Except Raised (List Json) :=
  match loads text with
  | .error _ => .error (.value s!"{label} must be valid JSON")
  | .ok (.arr items) => .ok items
  | .ok _ => .error (.value s!"{label} has an invalid type")

/-- `parse_json(text, dict, label)` -/
def parseDict (loads : Loads) (text label : String) : Except Raised Mapping :=
  match loads text with
  | .error _ => .error (.value s!"{label} must be valid JSON")
  | .ok (.obj fields) => .ok fields
  | .ok _ => .error (.value s!"{label} has an invalid type")

def nonemptyText? : Json → Option String
  | .str text => if text = "" then none else some text
  | _ => none

/-- The checks on the required names. -/
def requiredNames (required : List Json) : Except Raised (List String) :=
  match required.mapM nonemptyText? with
  | some names => do
    check (names ≠ []) "required checks must be a non-empty string array"
    check names.Nodup "required checks must be unique"
    return names
  | none => .error (.value "required checks must be a non-empty string array")

/-- `any(value not in RESULTS for value in results.values())`; what cannot be hashed raises. -/
def checkResultValues : List Json → Except Raised Unit
  | [] => .ok ()
  | .str text :: rest => do
    check (text ∈ results) "result value is not allowed"
    checkResultValues rest
  | .arr _ :: _ | .obj _ :: _ => .error (.other "unhashable type")
  | _ :: _ => .error (.value "result value is not allowed")

def sorted (names : List String) : List String := names.insertionSort (· ≤ ·)

structure AttestArgs where
  repository : String
  candidateSha : String
  contextSha : String
  validationPath : String
  requiredChecksJson : String
  resultsJson : String
  workflowRepository : String
  workflowRef : String
  workflowSha : String
  runId : String
  evidence : String

structure Attested where
  /-- The payload that the digest is of. -/
  payload : Mapping
  blocking : List String
  digest : String
  deriving DecidableEq

def Attested.result (attested : Attested) : String :=
  if attested.blocking = [] then "passed" else "failed"

def attestationPayload (args : AttestArgs) (names : List String) (results : Mapping)
    (blocking : List String) : Mapping :=
  [("schema_version", .int 1), ("repository", .str args.repository),
    ("validated_sha", .str args.candidateSha), ("validation_path", .str args.validationPath),
    ("required_checks", .arr ((sorted names).map .str)),
    ("check_results", .obj ((sorted names).map fun name => (name, results.get name))),
    ("blocking_checks", .arr (blocking.map .str)),
    ("result", .str (if blocking = [] then "passed" else "failed")),
    ("actions_workflow_repository", .str args.workflowRepository),
    ("actions_workflow_ref", .str args.workflowRef),
    ("actions_workflow_sha", .str args.workflowSha), ("run_id", .str args.runId)]

def attest (host : Host) (loads : Loads) (args : AttestArgs) : Except Raised Attested := do
  check (isSha args.candidateSha = true) "candidate SHA must be a lowercase 40-character Git SHA"
  check (isSha args.contextSha = true)
    "caller context SHA must be a lowercase 40-character Git SHA"
  check (isSha args.workflowSha = true) "workflow SHA must be a lowercase 40-character Git SHA"
  check (args.candidateSha = args.contextSha) "candidate SHA must equal caller context SHA"
  check (args.validationPath ∈ paths) "validation path is not allowed"
  let required ← parseList loads args.requiredChecksJson "required checks"
  let found ← parseDict loads args.resultsJson "results"
  let names ← requiredNames required
  check (∀ key, key ∈ found.map Prod.fst ++ names → key ∈ found.map Prod.fst ∧ key ∈ names)
    "results must contain exactly the required checks"
  checkResultValues (found.map Prod.snd)
  let blocking := sorted (names.filter fun name => found.get name ≠ .str "success")
  let payload := attestationPayload args names found blocking
  return ⟨payload, blocking, "sha256:" ++ host.sha256Hex (host.dumps (.obj payload))⟩

/-- `Path(path).as_posix()` -/
def asPosix (path : String) : String :=
  (if path.toList.head? = some '/' then "/" else "") ++ posix (pathParts path)

/-- What is written for the steps after it. -/
def attestOutputs (args : AttestArgs) (attested : Attested) : List (String × String) :=
  [("result", attested.result), ("validated_sha", args.candidateSha),
    ("validation_path", args.validationPath), ("evidence_digest", attested.digest),
    ("actions_workflow_sha", args.workflowSha), ("evidence_path", asPosix args.evidence)]

/-- The exit status of `attestation.py`. -/
def attestStatus : Except Raised Attested → Int
  | .ok attested => if attested.blocking = [] then 0 else 1
  | .error (.value _) => 2
  | .error (.other _) => 1

/-- The file of the step's outputs: nothing is written before all checks are made. -/
def attestFile (args : AttestArgs) : Except Raised Attested → List Char
  | .ok attested => KeyValue.write (attestOutputs args attested)
  | .error _ => []

/-- An output of a step is the last value of its file, or the empty text. -/
def stepOutput (file : List Char) (name : String) : String :=
  ((KeyValue.read file).reverse.lookup name).getD ""

/-- `AuthorizationError` or `ValueError`. -/
inductive Denied where
  | unauthorized (message : String)
  | invalid (message : String)
  deriving DecidableEq

structure AuthorizeArgs where
  gateJobResult : String
  gateResult : String
  validatedSha : String
  candidateSha : String
  evidenceDigest : String
  actionsWorkflowSha : String
  validationPath : String
  candidateRef : String
  requiredRef : String
  allowedPathsJson : String

structure Authorization where
  validatedSha : String
  evidenceDigest : String
  actionsWorkflowSha : String
  validationPath : String
  deriving DecidableEq

def valid (p : Prop) [Decidable p] (message : String) : Except Denied Unit :=
  if p then .ok () else .error (.invalid message)

def eligible (p : Prop) [Decidable p] (message : String) : Except Denied Unit :=
  if p then .ok () else .error (.unauthorized message)

def parseAllowedPaths (loads : Loads) (text : String) : Except Denied (List String) :=
  match loads text with
  | .error _ => .error (.invalid "allowed paths must be valid JSON")
  | .ok (.arr items) => match items.mapM nonemptyText? with
    | some allowed => do
      valid (allowed ≠ []) "allowed paths must be a non-empty string array"
      valid allowed.Nodup "allowed paths must be unique"
      return allowed
    | none => .error (.invalid "allowed paths must be a non-empty string array")
  | .ok _ => .error (.invalid "allowed paths must be a non-empty string array")

def requireSha (value label : String) : Except Denied Unit :=
  valid (isSha value = true) s!"{label} must be a lowercase 40-character Git SHA"

def authorize (loads : Loads) (args : AuthorizeArgs) : Except Denied Authorization := do
  valid (args.gateJobResult ∈ results) "gate job result is not allowed"
  valid (args.gateResult ∈ ["passed", "failed"]) "gate result is not allowed"
  requireSha args.validatedSha "validated SHA"
  requireSha args.candidateSha "candidate SHA"
  requireSha args.actionsWorkflowSha "Actions workflow SHA"
  valid (isDigest args.evidenceDigest = true)
    "evidence digest must use sha256:<64 lowercase hex>"
  valid (args.candidateRef ≠ "" ∧ args.requiredRef ≠ "")
    "candidate ref and required ref must be non-empty"
  let allowed ← parseAllowedPaths loads args.allowedPathsJson
  eligible (args.gateJobResult = "success") "gate job must succeed"
  eligible (args.gateResult = "passed") "gate result must be passed"
  eligible (args.validatedSha = args.candidateSha) "validated SHA must equal candidate SHA"
  eligible (args.validationPath ∈ allowed) "validation path is not allowed"
  eligible (args.candidateRef = args.requiredRef) "candidate ref must equal required ref"
  return ⟨args.validatedSha, args.evidenceDigest, args.actionsWorkflowSha, args.validationPath⟩

end OptimizrActions.ValidationGate
