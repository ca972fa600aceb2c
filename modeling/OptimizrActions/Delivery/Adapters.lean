import OptimizrActions.Delivery.Checkout
import OptimizrActions.Delivery.Manifest

/-! The adapters through which a delivery starts: a protected CI job, and a confirmed manual run. -/

namespace OptimizrActions.Delivery

open Prog

section LoadRequest

inductive ReadFailure where
  | osError
  | undecodable
  deriving DecidableEq

/-- The file system that an adapter reads its request from. -/
structure RequestHost extends FileSystem where
  isFile : List String → Option Bool
  /-- `read_text(encoding="utf-8")` -/
  readText : List String → Except ReadFailure String
  /-- `json.loads`; `none` is a `JSONDecodeError`. -/
  loads : String → Option Json

inductive RequestFailure where
  /-- `RequestError` -/
  | request (message : String)
  | osError
  /-- `UnicodeDecodeError` -/
  | undecodable
  deriving DecidableEq

variable (host : RequestHost)

/-- What `load_request` makes of its two paths. -/
def requestPath (path allowedRoot : RawPath) : Except RequestFailure (List String) :=
  match host.resolve (host.absolute allowedRoot), host.anySymlink (host.absolute path) with
  | none, _ | some _, none => .error (.request "request path could not be resolved")
  | some _, some true => .error (.request "request path must not contain symlink components")
  | some root, some false =>
    match host.resolve (host.absolute path) with
    | none => .error (.request "request path could not be resolved")
    | some requestPath =>
      match host.isDir root with
      | none => .error .osError
      | some isDir =>
        if isDir = false ∨ root = requestPath ∨ ¬root <+: requestPath then
          .error (.request "request path must remain below the allowed root")
        else
          match host.isFile requestPath, host.isSymlink requestPath with
          | none, _ | some true, none => .error .osError
          | some true, some false => .ok requestPath
          | _, _ => .error (.request "request path must be a regular file")

def loadRequest (path allowedRoot : RawPath) : Except RequestFailure DeployRequest := do
  let path ← requestPath host path allowedRoot
  match host.readText path with
  | .error .undecodable => .error .undecodable
  | .error .osError => .error (.request "request file must contain valid UTF-8 JSON")
  | .ok text =>
    match host.loads text with
    | none => .error (.request "request file must contain valid UTF-8 JSON")
    | some (.obj payload) => (parseRequest payload).mapError .request
    | some _ => .error (.request "request must be a JSON object")

end LoadRequest

/-- Host paths and synchronization options that all adapters share. -/
structure DeliveryPathSpec where
  checkoutRoot : RawPath
  deployRoot : RawPath
  snapshotRoot : RawPath
  lockRoot : RawPath
  snapshotEnabled : Bool := true
  deployignore : Option RawPath := none
  excludeComposeFile : Option String := none
  snapshotName : Option String := none
  lockTimeoutSeconds : Option Rat := some 0

/-- `path / name` for a name that is not absolute -/
def RawPath.join (path : RawPath) (name : String) : RawPath := ⟨path.absolute, path.parts ++ [name]⟩

/-- `build_executor_spec` for a remote that is not empty -/
def buildExecutorSpec (request : DeployRequest) (remote : String) (paths : DeliveryPathSpec) :
    ExecutorSpec :=
  let checkoutDestination :=
    paths.checkoutRoot.join (request.service ++ "-" ++ request.candidateSha)
  { checkout := ⟨request, remote, checkoutDestination, paths.checkoutRoot⟩
    sync :=
      { source := checkoutDestination
        destination := paths.deployRoot.join request.service
        snapshotRoot := paths.snapshotRoot
        sourceRoot := paths.checkoutRoot
        destinationRoot := paths.deployRoot
        snapshotEnabled := paths.snapshotEnabled
        deployignore := paths.deployignore
        excludeComposeFile := paths.excludeComposeFile
        snapshotName := paths.snapshotName }
    lockRoot := paths.lockRoot
    lockTimeoutSeconds := paths.lockTimeoutSeconds }

inductive AdapterFailure where
  /-- `CiAdapterError` or `ManualAdapterError` -/
  | adapter (message : String)
  | undecodable
  /-- What comes out of `execute_delivery`. -/
  | delivery (e : Raised)
  deriving DecidableEq

/-- A check of an adapter. -/
def demand (p : Prop) [Decidable p] (message : String) : Except AdapterFailure Unit :=
  if p then .ok () else .error (.adapter message)

@[simp] theorem demand_eq_ok {p : Prop} [Decidable p] {message : String} {u : Unit} :
    demand p message = .ok u ↔ p := by
  unfold demand
  split <;> simp [*]

/-- What an adapter says of a repository without a remote. -/
structure AllowlistTexts where
  required : String
  missing : String
  invalid : String

/-- `_resolve_remote` -/
def resolveRemote (texts : AllowlistTexts) (request : DeployRequest) :
    Json → Except AdapterFailure String
  | .obj allowlist =>
    match allowlist.lookup request.repository with
    | none => .error (.adapter texts.missing)
    | some (.str remote) => do
      demand (remote ≠ "") texts.invalid
      return remote
    | some _ => .error (.adapter texts.invalid)
  | _ => .error (.adapter texts.required)

/-- `load_request` in an adapter -/
def loadAdapterRequest (host : RequestHost) (rejected : String) (path root : RawPath) :
    Except AdapterFailure DeployRequest :=
  match loadRequest host path root with
  | .ok request => .ok request
  | .error .undecodable => .error .undecodable
  | .error _ => .error (.adapter rejected)

section Ci

def ciProviders : List String := ["github-actions", "gitlab-ci"]

structure CiAdapterSpec where
  provider : String
  requestPath : RawPath
  requestRoot : RawPath
  remoteAllowlist : Json
  paths : DeliveryPathSpec
  runnerName : Json
  protectedRef : Json
  protectedRunner : Json

structure CiDeliveryPlan where
  provider : String
  runnerName : String
  request : DeployRequest
  executor : ExecutorSpec

/-- `_runner_name` -/
def runnerName : Json → Except AdapterFailure String
  | .str value => do
    demand (value ≠ "" ∧ value = Text.strip value)
      "runner_name must be a non-empty trimmed string"
    demand ('\n' ∉ value.toList ∧ '\r' ∉ value.toList) "runner_name must be single-line"
    demand (value.length ≤ 256) "runner_name exceeds 256 characters"
    demand (manifestSecret.search value = false)
      "runner_name contains prohibited secret-like data"
    return value
  | _ => .error (.adapter "runner_name must be a non-empty trimmed string")

def ciAllowlistTexts : AllowlistTexts where
  required := "repository remote allowlist is required"
  missing := "repository is not in the CI remote allowlist"
  invalid := "CI remote allowlist entry is invalid"

variable (host : RequestHost) (config : CiAdapterSpec)

def buildCiPlan : Except AdapterFailure CiDeliveryPlan := do
  demand (config.provider ∈ ciProviders) "provider must be GitHub Actions or GitLab CI"
  demand (config.protectedRef = .bool true) "protected ref is required"
  demand (config.protectedRunner = .bool true) "protected runner is required"
  let name ← runnerName config.runnerName
  let request ← loadAdapterRequest host "CI delivery request rejected" config.requestPath
    config.requestRoot
  demand (request.adapter = config.provider)
    "request adapter does not match the CI provider"
  let remote ← resolveRemote ciAllowlistTexts request config.remoteAllowlist
  return ⟨config.provider, name, request, buildExecutorSpec request remote config.paths⟩

/-- The plan of a protected job of the provider that its request names. -/
theorem buildCiPlan_eq_ok {plan : CiDeliveryPlan} : buildCiPlan host config = .ok plan ↔
    config.provider ∈ ciProviders ∧ config.protectedRef = .bool true ∧
      config.protectedRunner = .bool true ∧
      runnerName config.runnerName = .ok plan.runnerName ∧
      loadAdapterRequest host "CI delivery request rejected" config.requestPath
        config.requestRoot = .ok plan.request ∧
      plan.request.adapter = config.provider ∧ plan.provider = config.provider ∧
      ∃ remote, resolveRemote ciAllowlistTexts plan.request config.remoteAllowlist = .ok remote ∧
        plan.executor = buildExecutorSpec plan.request remote config.paths := by
  simp only [buildCiPlan, bind_eq_ok, pure_eq_ok, demand_eq_ok]
  constructor
  · rintro ⟨_, known, _, ref, _, runner, name, named, request, loaded, _, same, remote, found, rfl⟩
    exact ⟨known, ref, runner, named, loaded, same, rfl, remote, found, rfl⟩
  · obtain ⟨provider, name, request, executor⟩ := plan
    rintro ⟨known, ref, runner, named, loaded, same, rfl, remote, found, executes⟩
    exact ⟨⟨⟩, known, ⟨⟩, ref, ⟨⟩, runner, name, named, request, loaded, ⟨⟩, same, remote, found,
      congrArg (CiDeliveryPlan.mk config.provider name request) executes.symm⟩

end Ci

section Manual

structure ManualAdapterSpec where
  requestPath : RawPath
  requestRoot : RawPath
  confirmation : String
  remoteAllowlist : Json
  paths : DeliveryPathSpec

structure ManualDeliveryPlan where
  request : DeployRequest
  executor : ExecutorSpec

def confirmationFor (request : DeployRequest) : String :=
  "DEPLOY " ++ request.service ++ " " ++ request.candidateSha

def manualAllowlistTexts : AllowlistTexts where
  required := "remote allowlist is required"
  missing := "repository is not in the manual remote allowlist"
  invalid := "manual remote allowlist entry is invalid"

variable (host : RequestHost) (config : ManualAdapterSpec)

def buildManualPlan : Except AdapterFailure ManualDeliveryPlan := do
  let request ← loadAdapterRequest host "manual request rejected" config.requestPath
    config.requestRoot
  demand (request.adapter = "manual") "manual adapter requires a manual request"
  demand (config.confirmation = confirmationFor request)
    "confirmation must match the exact service and SHA"
  let remote ← resolveRemote manualAllowlistTexts request config.remoteAllowlist
  return ⟨request, buildExecutorSpec request remote config.paths⟩

/-- The plan of a manual run that confirms the service and the commit of its request. -/
theorem buildManualPlan_eq_ok {plan : ManualDeliveryPlan} :
    buildManualPlan host config = .ok plan ↔
      loadAdapterRequest host "manual request rejected" config.requestPath
          config.requestRoot = .ok plan.request ∧
        plan.request.adapter = "manual" ∧ config.confirmation = confirmationFor plan.request ∧
        ∃ remote,
          resolveRemote manualAllowlistTexts plan.request config.remoteAllowlist = .ok remote ∧
          plan.executor = buildExecutorSpec plan.request remote config.paths := by
  simp only [buildManualPlan, bind_eq_ok, pure_eq_ok, demand_eq_ok]
  constructor
  · rintro ⟨request, loaded, _, manual, _, confirmed, remote, found, rfl⟩
    exact ⟨loaded, manual, confirmed, remote, found, rfl⟩
  · obtain ⟨request, executor⟩ := plan
    rintro ⟨loaded, manual, confirmed, remote, found, executes⟩
    exact ⟨request, loaded, ⟨⟩, manual, ⟨⟩, confirmed, remote, found,
      congrArg (ManualDeliveryPlan.mk request) executes.symm⟩

end Manual

section Execute

variable (unicodeWord : Char → Bool) (fs : FileSystem) (runners : Runners) (lock : LockHost)

/-- `execute_delivery` on the plan of an adapter, with what an observer of the run sees. -/
def executePlan (plan : Except AdapterFailure ExecutorSpec) :
    Except AdapterFailure ExecutorResult × List Event :=
  match plan with
  | .error e => (.error e, [])
  | .ok spec =>
    let run := executeDelivery unicodeWord fs spec runners lock []
    (run.1.mapError .delivery, run.2)

/-- Nothing is observed of a run that has no plan. -/
theorem ok_of_mem_executePlan {plan : Except AdapterFailure ExecutorSpec} {event : Event}
    (seen : event ∈ (executePlan unicodeWord fs runners lock plan).2) :
    ∃ spec, plan = .ok spec ∧
      event ∈ (executeDelivery unicodeWord fs spec runners lock []).2 := by
  cases plan with
  | error e => cases seen
  | ok spec => exact ⟨spec, rfl, seen⟩

def executeCiDelivery (host : RequestHost) (config : CiAdapterSpec) :
    Except AdapterFailure ExecutorResult × List Event :=
  executePlan unicodeWord fs runners lock ((buildCiPlan host config).map (·.executor))

def executeManualDelivery (host : RequestHost) (config : ManualAdapterSpec) :
    Except AdapterFailure ExecutorResult × List Event :=
  executePlan unicodeWord fs runners lock ((buildManualPlan host config).map (·.executor))

variable {unicodeWord fs runners lock}

/-- Only a protected job reaches the host, with a remote that the allowlist has for its request. -/
theorem plan_of_mem_executeCiDelivery {host : RequestHost} {config : CiAdapterSpec} {event : Event}
    (seen : event ∈ (executeCiDelivery unicodeWord fs runners lock host config).2) :
    ∃ plan, buildCiPlan host config = .ok plan ∧ config.protectedRef = .bool true ∧
      config.protectedRunner = .bool true ∧ plan.request.adapter = config.provider ∧
      event ∈ (executeDelivery unicodeWord fs plan.executor runners lock []).2 := by
  obtain ⟨spec, planned, run⟩ := ok_of_mem_executePlan unicodeWord fs runners lock seen
  obtain ⟨plan, built, rfl⟩ := map_eq_ok.mp planned
  obtain ⟨_, ref, runner, _, _, same, _⟩ := (buildCiPlan_eq_ok host config).mp built
  exact ⟨plan, built, ref, runner, same, run⟩

/-- Only a run that was confirmed for its service and commit reaches the host. -/
theorem confirmed_of_mem_executeManualDelivery {host : RequestHost} {config : ManualAdapterSpec}
    {event : Event}
    (seen : event ∈ (executeManualDelivery unicodeWord fs runners lock host config).2) :
    ∃ plan, buildManualPlan host config = .ok plan ∧
      config.confirmation = confirmationFor plan.request ∧
      event ∈ (executeDelivery unicodeWord fs plan.executor runners lock []).2 := by
  obtain ⟨spec, planned, run⟩ := ok_of_mem_executePlan unicodeWord fs runners lock seen
  obtain ⟨plan, built, rfl⟩ := map_eq_ok.mp planned
  obtain ⟨_, _, confirmed, _⟩ := (buildManualPlan_eq_ok host config).mp built
  exact ⟨plan, built, confirmed, run⟩

end Execute

end OptimizrActions.Delivery
