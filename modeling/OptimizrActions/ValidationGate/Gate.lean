import OptimizrActions.RepositoryValidation.Run
import OptimizrActions.ValidationGate.Attestation

/-! The workflow of the validation gate, and a delivery that is authorized by a run of it. -/

namespace OptimizrActions.ValidationGate

open RepositoryValidation

/-- The result of a job. -/
inductive Conclusion where
  | success
  | failure
  | cancelled
  | skipped
  deriving DecidableEq, Repr

def Conclusion.text : Conclusion → String
  | .success => "success"
  | .failure => "failure"
  | .cancelled => "cancelled"
  | .skipped => "skipped"

/-- A job that ends otherwise than by its own steps: it is cancelled, its runner is lost, or a step
fails that is an action of others. -/
inductive Disturbance where
  | failure
  | cancelled
  deriving DecidableEq

/-- A job runs under its condition; it succeeds where nothing disturbs it and its steps do. -/
def conclude (condition : Bool) (disturbed : Option Disturbance) (succeeds : Bool) : Conclusion :=
  if condition = false then .skipped
  else match disturbed with
    | some .failure => .failure
    | some .cancelled => .cancelled
    | none => if succeeds = true then .success else .failure

/-- What a call of a workflow results in. -/
def callResult (jobs : List Conclusion) : Conclusion :=
  if .failure ∈ jobs then .failure
  else if .cancelled ∈ jobs then .cancelled
  else if .success ∈ jobs then .success
  else .skipped

/-- `==` in an expression of a workflow, which ignores case. -/
def sameText (a b : String) : Bool := Text.upper a = Text.upper b

structure GateInputs where
  runnerJson : String
  validationPath : String
  candidateSha : String
  scriptPath : String
  argsJson : String
  requiredPathsJson : String
  registryAuth : Bool
  timeoutSeconds : Int
  retryAttempts : Int
  retryBackoffSeconds : Int

/-- The contexts `github` and `job`. -/
structure Context where
  sha : String
  eventName : String
  ref : String
  repository : String
  runId : String
  workspace : String
  workflowRepository : String
  workflowRef : String
  workflowSha : String

/-- What happens outside of the scripts during one run. -/
structure Surroundings where
  preflight : Option Disturbance
  emergency : Option Disturbance
  repository : Option Disturbance
  attest : Option Disturbance
  /-- How the security suite ends where it runs. -/
  security : Conclusion
  /-- The machine of the validation job, at its step `checkout-integrity` and at its contract. -/
  integrityMachine : Machine
  contractMachine : Machine
  environ : Env
  pythonVersion : String

section

variable (loads : Loads)

/-- `label in labels`, where it does not raise. -/
def hasLabel (label : String) : Json → Bool
  | .arr items => items.any fun item => item = .str label
  | .str text => Text.occursIn label.toList text.toList
  | .obj fields => (fields.map Prod.fst).contains label
  | _ => false

def isMain (context : Context) : Bool := context.ref = "refs/heads/main"

/-- The script of the job `preflight`. -/
def preflightPasses (inputs : GateInputs) (context : Context) : Bool :=
  decide (inputs.candidateSha = context.sha) &&
    match loads inputs.runnerJson with
    | .error _ => false
    | .ok labels =>
      if inputs.validationPath = "hosted" then decide (labels = .arr [.str "ubuntu-latest"])
      else if inputs.validationPath = "self-hosted" then
        hasLabel "self-hosted" labels && hasLabel "Linux" labels &&
          (decide (context.eventName ∈ ["push", "workflow_dispatch"]) && isMain context)
      else if inputs.validationPath = "ephemeral-pr" then
        hasLabel "self-hosted" labels && hasLabel "Linux" labels && hasLabel "ephemeral" labels &&
          decide (context.eventName = "pull_request")
      else false

/-- The script of the job `emergency-preflight`. -/
def emergencyPasses (inputs : GateInputs) (context : Context) : Bool :=
  decide (inputs.candidateSha = context.sha) &&
    match loads inputs.runnerJson with
    | .error _ => false
    | .ok labels => hasLabel "self-hosted" labels && hasLabel "Linux" labels &&
        (decide (context.eventName = "workflow_dispatch") && isMain context)

/-- The inputs that the job `repository-validation` passes on. -/
def requireTrustedRef (inputs : GateInputs) : Bool :=
  sameText inputs.validationPath "self-hosted" || sameText inputs.validationPath "reviewed-emergency"

def allowEphemeralPr (inputs : GateInputs) : Bool := sameText inputs.validationPath "ephemeral-pr"

/-- The step "Reject unsafe persistent-runner override". -/
def overridePasses (inputs : GateInputs) (context : Context) : Bool :=
  match loads inputs.runnerJson with
  | .ok (.arr items) => match items.mapM nonemptyText? with
    | some labels =>
      if labels = [] then false
      else if "self-hosted" ∉ labels then !allowEphemeralPr inputs
      else if "Linux" ∉ labels then false
      else if requireTrustedRef inputs = true then !allowEphemeralPr inputs
      else allowEphemeralPr inputs && decide (context.eventName = "pull_request") &&
        decide ("ephemeral" ∈ labels)
    | none => false
  | _ => false

/-- The step "Validate registry authentication trust boundary". -/
def registryPasses (inputs : GateInputs) (context : Context) : Bool :=
  match loads inputs.runnerJson with
  | .error _ => false
  | .ok labels => hasLabel "self-hosted" labels && hasLabel "Linux" labels &&
      requireTrustedRef inputs && !allowEphemeralPr inputs &&
      (decide (context.eventName ∈ ["push", "workflow_dispatch"]) && isMain context)

/-- `inputs.candidate_sha || github.sha` -/
def headSha (inputs : GateInputs) (context : Context) : String :=
  if inputs.candidateSha = "" then context.sha else inputs.candidateSha

def contractInputs (inputs : GateInputs) (context : Context) : ActionInputs where
  workspace := context.workspace
  scriptPath := inputs.scriptPath
  argsJson := inputs.argsJson
  evidencePath := "artifacts/repository-validation/evidence.json"
  repository := context.repository
  headSha := headSha inputs context
  baseSha := ""
  imageRefsJson := "[]"
  timeoutSeconds := inputs.timeoutSeconds
  retryAttempts := inputs.retryAttempts
  retryBackoffSeconds := inputs.retryBackoffSeconds
  requireTrustedRef := if requireTrustedRef inputs = true then "true" else "false"
  trustedRef := "refs/heads/main"

/-- The step "Verify checkout integrity", with what it asked. -/
def integrityStep (around : Surroundings) (inputs : GateInputs) (context : Context) :
    Except Int WorkspaceResult × List (Exchange Query Answer) :=
  checkoutIntegrity around.integrityMachine around.environ loads context.workspace
    (headSha inputs context) inputs.requiredPathsJson "true" []

variable (host : Host)

/-- The step "Run repository contract", with what it asked. -/
def contractStep (around : Surroundings) (inputs : GateInputs) (context : Context) :
    Except Int Unit × List (Exchange Query Answer) :=
  repositoryValidation around.contractMachine around.environ loads host around.pythonVersion
    (contractInputs inputs context) []

/-- The steps of the validation job that are scripts of this repository. -/
def validationSucceeds (around : Surroundings) (inputs : GateInputs) (context : Context) : Bool :=
  overridePasses loads inputs context && (integrityStep loads around inputs context).1.isOk &&
    (!inputs.registryAuth || registryPasses loads inputs context) &&
    (contractStep loads host around inputs context).1.isOk

def requiredChecksText : String := "[\"repository_validation\",\"security_suite\"]"

def resultsText (repository security : Conclusion) : String :=
  "\x7b\"repository_validation\":\"" ++ repository.text ++ "\",\"security_suite\":\"" ++
    security.text ++ "\"\x7d"

def attestArgs (inputs : GateInputs) (context : Context) (repository security : Conclusion) :
    AttestArgs where
  repository := context.repository
  candidateSha := inputs.candidateSha
  contextSha := context.sha
  validationPath := inputs.validationPath
  requiredChecksJson := requiredChecksText
  resultsJson := resultsText repository security
  workflowRepository := context.workflowRepository
  workflowRef := context.workflowRef
  workflowSha := context.workflowSha
  runId := context.runId
  evidence := "artifacts/validation-gate/attestation.json"

/-- One run of the workflow. -/
structure GateRun where
  preflight : Conclusion
  emergency : Conclusion
  repository : Conclusion
  security : Conclusion
  attest : Conclusion
  /-- The file of outputs of the attestation step. -/
  file : List Char

def GateRun.result (run : GateRun) : Conclusion :=
  callResult [run.preflight, run.emergency, run.repository, run.security, run.attest]

def isEmergency (inputs : GateInputs) : Bool := sameText inputs.validationPath "reviewed-emergency"

def runPreflight (around : Surroundings) (inputs : GateInputs) (context : Context) : Conclusion :=
  conclude (!isEmergency inputs) around.preflight (preflightPasses loads inputs context)

def runEmergency (around : Surroundings) (inputs : GateInputs) (context : Context) : Conclusion :=
  conclude (isEmergency inputs) around.emergency (emergencyPasses loads inputs context)

/-- The condition of the jobs that validate. -/
def mayValidate (around : Surroundings) (inputs : GateInputs) (context : Context) : Bool :=
  decide (runPreflight loads around inputs context = .success) ||
    decide (runEmergency loads around inputs context = .success)

def runRepository (around : Surroundings) (inputs : GateInputs) (context : Context) : Conclusion :=
  conclude (mayValidate loads around inputs context) around.repository
    (validationSucceeds loads host around inputs context)

def runSecurity (around : Surroundings) (inputs : GateInputs) (context : Context) : Conclusion :=
  if mayValidate loads around inputs context = true then around.security else .skipped

def gateArgs (around : Surroundings) (inputs : GateInputs) (context : Context) : AttestArgs :=
  attestArgs inputs context (runRepository loads host around inputs context)
    (runSecurity loads around inputs context)

/-- The job `attest`, which always runs. -/
def runAttest (around : Surroundings) (inputs : GateInputs) (context : Context) : Conclusion :=
  conclude true around.attest
    (decide (attestStatus (attest host loads (gateArgs loads host around inputs context)) = 0))

def runGate (around : Surroundings) (inputs : GateInputs) (context : Context) : GateRun where
  preflight := runPreflight loads around inputs context
  emergency := runEmergency loads around inputs context
  repository := runRepository loads host around inputs context
  security := runSecurity loads around inputs context
  attest := runAttest loads host around inputs context
  file := attestFile (gateArgs loads host around inputs context)
    (attest host loads (gateArgs loads host around inputs context))

end

/-- What a delivery asks for. -/
structure DeliveryRequest where
  candidateSha : String
  candidateRef : String
  requiredRef : String := "refs/heads/main"
  allowedPathsJson : String := "[\"hosted\",\"self-hosted\",\"reviewed-emergency\"]"

/-- The inputs of the authorization, as the jobs after the gate pass them. -/
def authorizeArgs (run : GateRun) (request : DeliveryRequest) : AuthorizeArgs where
  gateJobResult := run.result.text
  gateResult := stepOutput run.file "result"
  validatedSha := stepOutput run.file "validated_sha"
  candidateSha := request.candidateSha
  evidenceDigest := stepOutput run.file "evidence_digest"
  actionsWorkflowSha := stepOutput run.file "actions_workflow_sha"
  validationPath := stepOutput run.file "validation_path"
  candidateRef := request.candidateRef
  requiredRef := request.requiredRef
  allowedPathsJson := request.allowedPathsJson

end OptimizrActions.ValidationGate
