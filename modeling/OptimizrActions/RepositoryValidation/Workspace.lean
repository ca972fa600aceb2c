import OptimizrActions.Evidence.Fields
import OptimizrActions.Lib.Talk

/-! The checkout that a validation runs in: its verification, and the repair of missing files. -/

namespace OptimizrActions.RepositoryValidation

open Talk Prog
open Evidence (pathParts posix)

/-- The environment of a process. -/
abbrev Env := List (String × String)

inductive Query where
  /-- `Path(path).resolve(strict=True)` -/
  | resolve (path : String)
  /-- `resolve(strict=False)` of an absolute path. -/
  | resolveMissing (path : List String)
  | isDir (path : List String)
  | isSymlink (path : List String)
  | exists_ (path : List String)
  | isFile (path : List String)
  | isExecutable (path : List String)
  /-- A program in a directory, in the inherited environment or in one of its own. -/
  | run (cwd : Option String) (argv : List String) (env : Option Env)
  | sleep (seconds : Nat)
  | write (path : String) (payload : Json)

structure Completed where
  returncode : Int
  stdout : String
  stderr : String
  deriving DecidableEq

/-- What the machine answers; an answer of another kind than the question is an `OSError`. -/
inductive Answer where
  | path (resolved : List String)
  | flag (holds : Bool)
  | process (completed : Completed)
  | done
  | timedOut
  | notFound
  | osError
  deriving DecidableEq

/-- The exceptions that `main` catches. -/
inductive Raised where
  | validation (message : String)
  | osError
  | calledProcess
  deriving DecidableEq

abbrev Machine := Peer Query Answer

abbrev Runner := Talk Query Answer Raised

def isSha (s : String) : Bool := Text.hexText Text.isLowerHex 40 s.toList

def maxRequiredPaths : Nat := 256

/-- `Path(path).is_absolute()` -/
def isAbsolute (path : String) : Bool := path.toList.head? = some '/'

/-- `str` of an absolute path. -/
def rootText (parts : List String) : String := "/" ++ String.intercalate "/" parts

/-- `str(Path(path))` -/
def pathText (path : String) : String :=
  if isAbsolute path then rootText (pathParts path) else posix (pathParts path)

/-- `parse_args_json`, with the text of the decoder's exception. -/
def parseArgsJson (loads : String → Except String Json) (value : String) :
    Except Raised (List String) :=
  match loads (if value = "" then "[]" else value) with
  | .error message => .error (.validation ("args_json must be valid JSON: " ++ message))
  | .ok (.arr items) =>
    if items.length ≤ 64 then
      items.mapM fun item => match item with
        | .str text =>
          if text.length ≤ 4096 ∧ '\x00' ∉ text.toList then .ok text
          else .error (.validation "every argument must be a bounded string without NUL bytes")
        | _ => .error (.validation "every argument must be a bounded string without NUL bytes")
    else .error (.validation "args_json must be an array with at most 64 entries")
  | .ok _ => .error (.validation "args_json must be an array with at most 64 entries")

section

variable (machine : Machine)

def askFlag (query : Query) : Runner Bool := do
  match ← ask machine query with
  | .flag holds => pure holds
  | _ => throw .osError

/-- `_git_output` -/
def gitOutput (workspace : List String) (arguments : List String) (env : Option Env) :
    Runner String := do
  match ← ask machine (.run (some (rootText workspace)) ("git" :: arguments) env) with
  | .process completed =>
    let detail := Text.strip (if completed.stderr = "" then completed.stdout else completed.stderr)
    ensure (completed.returncode = 0) (.validation
      ("checkout integrity git " ++ String.intercalate " " arguments ++ " failed" ++
        if detail = "" then "" else ": " ++ String.ofList (detail.toList.take 300)))
    pure (Text.strip completed.stdout)
  | .timedOut | .notFound =>
    throw (.validation ("checkout integrity could not execute git " ++ arguments.headD ""))
  | _ => throw .osError

/-- `_contains_symlink`, from the path reached so far. -/
def containsSymlink (current : List String) : List String → Runner Bool
  | [] => pure false
  | part :: rest => do
    if ← askFlag machine (.isSymlink (current ++ [part])) then pure true
    else containsSymlink (current ++ [part]) rest

/-- The path is unsafe: it could lead out of the workspace, or it goes through a symlink. -/
def isUnsafePath (workspace : List String) (path : String) : Runner Bool :=
  if path = "" ∨ isAbsolute path = true ∨ ".." ∈ pathParts path then pure true
  else containsSymlink machine workspace (pathParts path)

variable (environ : Env)

def runnerName : String := (environ.lookup "RUNNER_NAME").getD "unknown"

/-- `_workspace_failure` -/
def workspaceFailure (workspace reason : String) : Raised :=
  .validation s!"checkout integrity failed (runner={runnerName environ}, workspace={workspace}): {reason}"

/-- `_validate_workspace_inputs` -/
def validateWorkspaceInputs (expectedSha : String) (requiredPaths : List String) :
    Except Raised Unit := do
  if isSha expectedSha = false then
    .error (.validation "expected_sha must be a lowercase 40-character commit SHA")
  else if requiredPaths.length > maxRequiredPaths then
    .error (.validation s!"required_paths must contain at most {maxRequiredPaths} entries")
  else if requiredPaths.any fun path => decide (path.length > 4096) then
    .error (.validation "required_paths entries must be bounded strings")
  else .ok ()

/-- `_workspace_context`: the workspace, where its HEAD is the expected commit. -/
def workspaceContext (workspace expectedSha : String) : Runner (List String) := do
  let resolved ← match ← ask machine (.resolve workspace) with
    | .path resolved => pure resolved
    | _ => throw (workspaceFailure environ (pathText workspace) "workspace does not exist")
  let failure := workspaceFailure environ (rootText resolved)
  let directory ← askFlag machine (.isDir resolved)
  ensure (directory = true) (failure "workspace is not a directory")
  let actualSha ← gitOutput machine resolved ["rev-parse", "HEAD"] none
  ensure (actualSha = expectedSha) (failure ("HEAD " ++
    (if actualSha = "" then "<empty>" else actualSha) ++ " does not match expected SHA " ++ expectedSha))
  let gitRootText ← gitOutput machine resolved ["rev-parse", "--show-toplevel"] none
  let gitRoot ← match ← ask machine (.resolve gitRootText) with
    | .path gitRoot => pure gitRoot
    | _ => throw (failure "git root is not materialized")
  ensure (gitRoot = resolved)
    (failure s!"git root is {rootText gitRoot}, not the requested workspace")
  let status ← gitOutput machine resolved ["status", "--porcelain", "--untracked-files=all"] none
  ensure (status = "") (failure "checkout is not clean")
  pure resolved

/-- One round of `_required_paths`: whether the path is missing. -/
def requiredPath (workspace : List String) (allowMissing : Bool) (path : String) : Runner Bool := do
  let failure := workspaceFailure environ (rootText workspace)
  let isUnsafe ← isUnsafePath machine workspace path
  ensure (isUnsafe = false) (failure ("required checkout path is unsafe: " ++
    if path = "" then "<empty>" else path))
  match ← ask machine (.resolveMissing (workspace ++ pathParts path)) with
  | .path candidate =>
    ensure (workspace <+: candidate) (failure s!"required checkout path escapes workspace: {path}")
    let present ← askFlag machine (.exists_ candidate)
    ensure (present = true ∨ allowMissing = true)
      (failure s!"required checkout path is missing: {path}")
    pure (!present)
  | _ => throw .osError

/-- `_required_paths`: the missing ones. -/
def requiredPathsMissing (workspace : List String) (allowMissing : Bool) :
    List String → Runner (List String)
  | [] => pure []
  | path :: rest => do
    let missing ← requiredPath machine environ workspace allowMissing path
    let others ← requiredPathsMissing workspace allowMissing rest
    pure (if missing = true then path :: others else others)

/-- What a verification reports, and the paths that a repair before it has brought back. -/
structure WorkspaceResult where
  expectedSha : String
  actualSha : String
  workspace : String
  runner : String
  requiredPaths : List String
  repairedPaths : Option (List String) := none

def verifyWorkspace (workspace expectedSha : String) (requiredPaths : List String) :
    Runner WorkspaceResult := do
  ofExcept (validateWorkspaceInputs expectedSha requiredPaths)
  let resolved ← workspaceContext machine environ workspace expectedSha
  let _ ← requiredPathsMissing machine environ resolved false requiredPaths
  pure ⟨expectedSha, expectedSha, rootText resolved, runnerName environ, requiredPaths, none⟩

/-- `env[key] = value` -/
def setVariable (env : Env) (key value : String) : Env :=
  (key, value) :: env.filter fun entry => entry.1 ≠ key

def isToken (token : String) : Bool :=
  Text.strip token ≠ "" && decide (token.length ≤ 4096) &&
    token.toList.all fun c => !Text.isSpace c && decide (32 ≤ c.toNat)

/-- `_ephemeral_git_auth_env` -/
def ephemeralGitAuthEnv (githubToken : String) : Except Raised Env :=
  if isToken githubToken = false then
    .error (.validation
      "github_token must be a non-empty bounded value without whitespace or control characters")
  else
    let env := environ.filter fun entry =>
      entry.1 ≠ "VALIDATION_GITHUB_TOKEN" && entry.1 ≠ "GITHUB_TOKEN"
    match Text.int? ((env.lookup "GIT_CONFIG_COUNT").getD "0") with
    | none => .error (.validation "GIT_CONFIG_COUNT must be an integer")
    | some configIndex =>
      if configIndex < 0 ∨ 64 < configIndex then
        .error (.validation "GIT_CONFIG_COUNT is outside the supported range")
      else
        let credential :=
          String.ofList (b64encode ("x-access-token:" ++ githubToken).toUTF8.toList)
        let env := setVariable env "GIT_CONFIG_COUNT" (toString (configIndex + 1))
        let env := setVariable env ("GIT_CONFIG_KEY_" ++ toString configIndex)
          "http.https://github.com/.extraheader"
        .ok (setVariable env ("GIT_CONFIG_VALUE_" ++ toString configIndex)
          ("AUTHORIZATION: basic " ++ credential))

def sparseArguments : List String := ["sparse-checkout", "disable"]

def checkoutArguments (expectedSha : String) : List String :=
  ["checkout", "--force", expectedSha, "--", "."]

def repairWorkspace (workspace expectedSha : String) (requiredPaths : List String)
    (githubToken : String) : Runner WorkspaceResult := do
  ofExcept (validateWorkspaceInputs expectedSha requiredPaths)
  let resolved ← workspaceContext machine environ workspace expectedSha
  let missing ← requiredPathsMissing machine environ resolved true requiredPaths
  let failure := workspaceFailure environ (rootText resolved)
  ensure (missing ≠ []) (failure "repair requires at least one missing required checkout path")
  ensure (githubToken ≠ "")
    (failure "repair requires a GitHub token before fetching missing objects")
  let gitEnv ← ofExcept (ephemeralGitAuthEnv environ githubToken)
  let _ ← gitOutput machine resolved sparseArguments (some gitEnv)
  let _ ← gitOutput machine resolved (checkoutArguments expectedSha) (some gitEnv)
  let result ← verifyWorkspace machine environ (rootText resolved) expectedSha requiredPaths
  pure { result with repairedPaths := some missing }

/-- The exit status of `main` for what it catches. -/
def exiting {α : Type} (body : Runner α) : Talk Query Answer Int α := fun log =>
  match body log with
  | (.ok a, log) => (.ok a, log)
  | (.error _, log) => (.error 2, log)

def githubToken : String := (environ.lookup "VALIDATION_GITHUB_TOKEN").getD ""

variable (loads : String → Except String Json)

/-- `runner.py check-workspace` -/
def checkWorkspaceMain (workspace expectedSha requiredPathsJson : String) :
    Talk Query Answer Int WorkspaceResult :=
  exiting do
    let requiredPaths ← ofExcept (parseArgsJson loads requiredPathsJson)
    verifyWorkspace machine environ workspace expectedSha requiredPaths

/-- `runner.py repair-workspace` -/
def repairWorkspaceMain (workspace expectedSha requiredPathsJson : String) :
    Talk Query Answer Int WorkspaceResult :=
  exiting do
    let requiredPaths ← ofExcept (parseArgsJson loads requiredPathsJson)
    repairWorkspace machine environ workspace expectedSha requiredPaths (githubToken environ)

/-- The step of the action `checkout-integrity`. -/
def checkoutIntegrity (workspace expectedSha requiredPathsJson repairMissingPaths : String) :
    Talk Query Answer Int WorkspaceResult := do
  ensure (repairMissingPaths = "true" ∨ repairMissingPaths = "false") 2
  tryCatch (checkWorkspaceMain machine environ loads workspace expectedSha requiredPathsJson)
    fun status =>
      if repairMissingPaths = "true" then
        repairWorkspaceMain machine environ loads workspace expectedSha requiredPathsJson
      else throw status

end

end OptimizrActions.RepositoryValidation
