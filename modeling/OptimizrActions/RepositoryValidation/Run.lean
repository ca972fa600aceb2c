import OptimizrActions.RepositoryValidation.Workspace

/-! The validation script of a repository: who may run it, how often, and the evidence of it. -/

namespace OptimizrActions.RepositoryValidation

open Talk Prog
open Evidence (pathParts)

def retryableExitCode : Int := 75

def maxRetryAttempts : Nat := 3

def maxRetryBackoffSeconds : Int := 60

def maxTimeoutSeconds : Int := 7200

/-- One run of the script, as the evidence records it. -/
structure Attempt where
  attempt : Nat
  exitCode : Int
  timedOut : Bool
  deriving DecidableEq

/-- `_failure_kind` -/
def failureKind (exitCode : Int) (timedOut : Bool) : String :=
  if exitCode = 0 then "none"
  else if timedOut = true then "timeout"
  else if exitCode = retryableExitCode then "retryable_dependency"
  else "command_failed"

def Attempt.record (attempt : Attempt) : Json := .obj
  [("attempt", .int attempt.attempt), ("exit_code", .int attempt.exitCode),
    ("timed_out", .bool attempt.timedOut),
    ("failure_kind", .str (failureKind attempt.exitCode attempt.timedOut))]

/-- The arguments of `run_validation`. -/
structure RunSpec where
  workspace : String
  scriptPath : String
  args : List String
  evidencePath : String
  repository : String
  headSha : String
  baseSha : String
  timeoutSeconds : Int
  imageRefs : List String
  retryAttempts : Int
  retryBackoffSeconds : Int

section

variable (machine : Machine)

def checkBranchRef (trustedRef : String) : Bool :=
  "refs/heads/".toList.isPrefixOf trustedRef.toList

/-- `"origin/" + trusted_ref.removeprefix("refs/heads/")` -/
def remoteRef (trustedRef : String) : String :=
  "origin/" ++ String.ofList (trustedRef.toList.drop "refs/heads/".length)

def fetchArguments (trustedRef : String) : List String :=
  ["git", "fetch", "--no-tags", "origin", trustedRef]

def ancestorArguments (candidateSha trustedRef : String) : List String :=
  ["git", "merge-base", "--is-ancestor", candidateSha, remoteRef trustedRef]

/-- `subprocess.run` without a time limit. -/
def runProcess (cwd : Option String) (argv : List String) (env : Option Env) : Runner Completed := do
  match ← ask machine (.run cwd argv env) with
  | .process completed => pure completed
  | _ => throw .osError

/-- The environment of the fetch: the inherited one without a token. -/
def fetchEnv (environ : Env) (githubToken : String) : Except Raised (Option Env) :=
  if githubToken = "" then .ok none else (ephemeralGitAuthEnv environ githubToken).map some

def verifyTrustedCandidate (environ : Env) (workspace candidateSha trustedRef githubToken : String) :
    Runner Unit := do
  ensure (isSha candidateSha = true)
    (.validation "candidate_sha must be a lowercase 40-character commit SHA")
  ensure (checkBranchRef trustedRef = true) (.validation "trusted_ref must be a full branch ref")
  let env ← ofExcept (fetchEnv environ githubToken)
  let fetched ← runProcess machine (some workspace) (fetchArguments trustedRef) env
  ensure (fetched.returncode = 0) .calledProcess
  let result ← runProcess machine (some workspace) (ancestorArguments candidateSha trustedRef) none
  ensure (result.returncode = 0)
    (.validation s!"candidate {candidateSha} is not reachable from {trustedRef}")

def resolveScript (workspaceText scriptPath : String) : Runner String := do
  let workspace ← match ← ask machine (.resolve workspaceText) with
    | .path workspace => pure workspace
    | _ => throw .osError
  ensure (scriptPath ≠ "" ∧ isAbsolute scriptPath = false ∧ ".." ∉ pathParts scriptPath)
    (.validation "script_path must be a non-empty relative path inside the workspace")
  let linked ← containsSymlink machine workspace (pathParts scriptPath)
  ensure (linked = false) (.validation "script_path must not contain symbolic links")
  match ← ask machine (.resolve (rootText (workspace ++ pathParts scriptPath))) with
  | .path candidate =>
    ensure (workspace <+: candidate) (.validation "script_path resolves outside the workspace")
    let file ← askFlag machine (.isFile candidate)
    ensure (file = true) (.validation "script_path must resolve to a regular file")
    let executable ← askFlag machine (.isExecutable candidate)
    ensure (executable = true) (.validation "script_path must be executable")
    pure (rootText candidate)
  | _ => throw .osError

/-- One run of the script: its status, and whether it ran out of time. -/
def runScript (workspace script : String) (args : List String) : Runner (Int × Bool) := do
  match ← ask machine (.run (some workspace) (script :: args) none) with
  | .process completed => pure (completed.returncode, false)
  | .timedOut => pure (124, true)
  | _ => throw .osError

/-- The loop of `run_validation`, with the runs that are left and the number of the next one. -/
def attemptLoop (workspace script : String) (args : List String) (backoff : Nat) :
    Nat → Nat → Runner (List Attempt)
  | 0, _ => pure []
  | left + 1, number => do
    let (exitCode, timedOut) ← runScript machine workspace script args
    if exitCode ≠ retryableExitCode ∨ left = 0 then pure [⟨number, exitCode, timedOut⟩]
    else do
      let _ ← ask machine (.sleep (backoff * number))
      let rest ← attemptLoop workspace script args backoff left (number + 1)
      pure (⟨number, exitCode, timedOut⟩ :: rest)

/-- `_version` -/
def version (argv : List String) : Runner (Option String) := do
  match ← ask machine (.run none argv none) with
  | .process completed =>
    let text := Text.strip (if completed.stdout = "" then completed.stderr else completed.stdout)
    pure ((Text.splitLines text).head?.map fun line => String.ofList (line.toList.take 300))
  | .timedOut | .notFound => pure none
  | _ => throw .osError

def collectVersions (pythonVersion : String) : Runner Mapping := do
  let git ← version machine ["git", "--version"]
  let docker ← version machine ["docker", "--version"]
  let compose ← version machine ["docker", "compose", "version"]
  let shown (name : String) : Option String → Mapping
    | some text => if text = "" then [] else [(name, .str text)]
    | none => []
  pure ([("python", .str pythonVersion), ("git", .str (match git with
      | some text => if text = "" then "unavailable" else text
      | none => "unavailable"))] ++ shown "docker" docker ++ shown "docker_compose" compose)

def inspectArguments (imageRef : String) : List String :=
  ["docker", "image", "inspect", "--format", "\x7b\x7b.Id\x7d\x7d", imageRef]

def identityCommands (imageRef : String) : List (List String) :=
  [inspectArguments imageRef, "sudo" :: "-n" :: inspectArguments imageRef]

/-- The first of the commands that tells the identity of an image. -/
def imageIdentity : List (List String) → Runner (Option String)
  | [] => pure none
  | command :: rest => do
    match ← ask machine (.run none command none) with
    | .process completed =>
      let candidate := Text.strip completed.stdout
      if completed.returncode = 0 ∧ Text.sha256Text Text.isLowerHex candidate = true then
        pure (some candidate)
      else imageIdentity rest
    | .timedOut | .notFound => imageIdentity rest
    | _ => throw .osError

variable (host : Host)

def collectImageIdentities : List String → Runner (List Json)
  | [] => pure []
  | imageRef :: rest => do
    match ← imageIdentity machine (identityCommands imageRef) with
    | none => throw (.validation
        "image_refs_json contains an image without an immutable local identity")
    | some identity => do
      let others ← collectImageIdentities rest
      pure (.obj [("alias_sha256", .str (host.sha256Hex imageRef.toUTF8.toList)),
        ("identity", .str identity)] :: others)

/-- The `result` of the evidence. -/
def resultRecord (spec : RunSpec) (attempts : List Attempt) (last : Attempt) : Json := .obj
  [("exit_code", .int last.exitCode), ("timed_out", .bool last.timedOut),
    ("status", .str (if last.exitCode = 0 then "passed" else "failed")),
    ("failure_kind", .str (failureKind last.exitCode last.timedOut)),
    ("attempt_count", .int attempts.length), ("attempts", .arr (attempts.map Attempt.record)),
    ("retry_attempts", .int spec.retryAttempts), ("retryable_exit_code", .int retryableExitCode),
    ("retry_exhausted", .bool (decide (last.exitCode = retryableExitCode)))]

def evidencePayload (spec : RunSpec) (attempts : List Attempt) (last : Attempt) (images : List Json)
    (tools : Mapping) : Json := .obj
  [("schema_version", .int 1), ("repository", .str spec.repository), ("head_sha", .str spec.headSha),
    ("base_sha", if spec.baseSha = "" then .null else .str spec.baseSha),
    ("command", .obj [("executable", .str spec.scriptPath), ("argument_count", .int spec.args.length),
      ("argument_sha256",
        .arr (spec.args.map fun item => .str (host.sha256Hex item.toUTF8.toList))),
      ("shell", .bool false)]),
    ("images", .arr images), ("tools", .obj tools), ("result", resultRecord spec attempts last)]

def checkRunSpec (spec : RunSpec) : Except Raised Unit :=
  if isSha spec.headSha = false then
    .error (.validation "head_sha must be a lowercase 40-character commit SHA")
  else if spec.baseSha ≠ "" ∧ isSha spec.baseSha = false then
    .error (.validation "base_sha must be empty or a lowercase 40-character commit SHA")
  else if spec.timeoutSeconds < 1 ∨ maxTimeoutSeconds < spec.timeoutSeconds then
    .error (.validation s!"timeout_seconds must be between 1 and {maxTimeoutSeconds}")
  else if spec.retryAttempts < 1 ∨ maxRetryAttempts < spec.retryAttempts then
    .error (.validation s!"retry_attempts must be between 1 and {maxRetryAttempts}")
  else if spec.retryBackoffSeconds < 0 ∨ maxRetryBackoffSeconds < spec.retryBackoffSeconds then
    .error (.validation s!"retry_backoff_seconds must be between 0 and {maxRetryBackoffSeconds}")
  else .ok ()

def runValidation (pythonVersion : String) (spec : RunSpec) : Runner Int := do
  ofExcept (checkRunSpec spec)
  let script ← resolveScript machine spec.workspace spec.scriptPath
  let attempts ← attemptLoop machine spec.workspace script spec.args
    spec.retryBackoffSeconds.toNat spec.retryAttempts.toNat 1
  -- there is a last one, since one run at least is allowed
  let last := attempts.getLast?.getD ⟨0, 1, false⟩
  let images ← collectImageIdentities machine host spec.imageRefs
  let tools ← collectVersions machine pythonVersion
  match ← ask machine (.write spec.evidencePath
    (evidencePayload host spec attempts last images tools)) with
  | .done => pure last.exitCode
  | _ => throw .osError

end

/-- The inputs of the action `repository-validation`, with the context of its run. -/
structure ActionInputs where
  workspace : String
  scriptPath : String
  argsJson : String
  evidencePath : String
  repository : String
  headSha : String
  baseSha : String
  imageRefsJson : String
  timeoutSeconds : Int
  retryAttempts : Int
  retryBackoffSeconds : Int
  requireTrustedRef : String
  trustedRef : String

def ActionInputs.runSpec (inputs : ActionInputs) (args imageRefs : List String) : RunSpec :=
  ⟨inputs.workspace, inputs.scriptPath, args, inputs.evidencePath, inputs.repository, inputs.headSha,
    inputs.baseSha, inputs.timeoutSeconds, imageRefs, inputs.retryAttempts, inputs.retryBackoffSeconds⟩

section

variable (machine : Machine) (environ : Env) (loads : String → Except String Json) (host : Host)
  (pythonVersion : String)

/-- `runner.py check-trust` -/
def checkTrustMain (inputs : ActionInputs) : Talk Query Answer Int Unit :=
  exiting (verifyTrustedCandidate machine environ inputs.workspace inputs.headSha inputs.trustedRef
    (githubToken environ))

/-- The first step, which is left out without the requirement. -/
def checkTrust (inputs : ActionInputs) : Talk Query Answer Int Unit :=
  if inputs.requireTrustedRef = "true" then checkTrustMain machine environ inputs else pure ()

/-- `runner.py run`: any other status than zero ends the step. -/
def runMain (inputs : ActionInputs) : Talk Query Answer Int Unit := do
  let status ← exiting do
    let args ← ofExcept (parseArgsJson loads inputs.argsJson)
    let imageRefs ← ofExcept (parseArgsJson loads inputs.imageRefsJson)
    runValidation machine host pythonVersion (inputs.runSpec args imageRefs)
  ensure (status = 0) status

/-- The steps of the action `repository-validation`. -/
def repositoryValidation (inputs : ActionInputs) : Talk Query Answer Int Unit := do
  let _ ← checkTrust machine environ inputs
  runMain machine loads host pythonVersion inputs

end

end OptimizrActions.RepositoryValidation
