import OptimizrActions.DeployManifest.Write

/-! Remediation state that is added to a manifest that exists. -/

namespace OptimizrActions.DeployManifest

open Delivery (Bytes)

def securityClassifications : List String :=
  ["clean", "actionable_vulnerability", "unfixed_warning", "misconfiguration_detected",
    "secret_detected", "scanner_error", "not-run"]

/-- `normalize_security_classification` -/
def normalizeSecurityClassification (raw : String) : Except String String :=
  if raw ∈ securityClassifications then .ok raw
  else if raw = "gate_error" then .ok "scanner_error"
  else .error "security classification is not allowed"

def rebuildResults : List String := ["passed", "failed", "skipped", "no_change"]

def remediationWindowStates : List String :=
  ["not_applicable", "blocked", "pending_review", "active", "due_soon", "overdue", "resolved",
    "reintroduced"]

/-- A path by its parent and its last part. -/
structure FilePath where
  parent : List String
  name : String
  deriving DecidableEq

structure Decoration where
  manifest : FilePath
  lastSuccessful : FilePath
  status : String
  initialResult : String
  rebuildAttempted : Json
  rebuildResult : String
  finalResult : String
  remediationWindowState : String := "not_applicable"

/-- The checks of `decorate_manifest` on its arguments, and the fields that it sets. -/
def decorationFields (d : Decoration) : Except String Mapping := do
  require (d.status ∈ ["success", "failure"]) "status must be success or failure"
  let initialResult ← normalizeSecurityClassification d.initialResult
  let finalResult ← normalizeSecurityClassification d.finalResult
  require (d.rebuildResult ∈ rebuildResults) "security rebuild result is not allowed"
  match d.rebuildAttempted with
  | .bool attempted => do
    require (attempted = true ∨ d.rebuildResult = "skipped") "an unattempted rebuild must be skipped"
    require (¬(attempted = true ∧ d.rebuildResult = "skipped"))
      "an attempted rebuild cannot be skipped"
    require (d.remediationWindowState ∈ remediationWindowStates)
      "remediation window state is not allowed"
    return [("security_initial_result", .str initialResult),
      ("security_rebuild_attempted", .bool attempted),
      ("security_rebuild_result", .str d.rebuildResult),
      ("security_final_result", .str finalResult),
      ("security_remediation_window_state", .str d.remediationWindowState)]
  | _ => .error "security rebuild attempted must be boolean"

/-- `payload.update(fields)` -/
def update (payload fields : Mapping) : Mapping :=
  fields.foldl (fun payload entry => payload.set entry.1 entry.2) payload

/-- `_load_manifest`, in the directory at this path. -/
def loadManifest (codec : JsonCodec) (at_ : List String) (manifest : FilePath) (dir : ManifestDir) :
    Except String Mapping := do
  match if manifest.parent = at_ then dir.get manifest.name else none with
  | some (.file content) => do
    require (manifest.parent.getLast? = some ".deploy-manifests")
      "manifest must remain in .deploy-manifests"
    match codec.loads content with
    | none => .error "manifest must be valid UTF-8 JSON"
    | some (.obj payload) => do
      require (Mapping.get payload "schema_version" = .str "1.0") "manifest schema_version must be 1.0"
      return payload
    | some _ => .error "manifest schema_version must be 1.0"
  | _ => .error "manifest must be a regular non-symlink file"

/-- The writes that fail before their rename. -/
structure Faults where
  manifest : Bool
  lastSuccessful : Bool

/-- The second write of a decoration. -/
def decorateLast (codec : JsonCodec) (faults : Faults) (d : Decoration) (payload : Mapping)
    (dir : ManifestDir) : Except String Unit × ManifestDir :=
  if d.lastSuccessful.parent ≠ d.manifest.parent ∨ d.lastSuccessful.name ≠ lastSuccessfulName then
    (.error "last-successful path is inconsistent", dir)
  else
    match dir.get lastSuccessfulName, codec.dumps (.obj payload) with
    | some (.symlink _), _ => (.error "last-successful must not be a symlink", dir)
    | _, none => (.error "payload could not be encoded", dir)
    | some .directory, _ => (.error "Is a directory", dir)
    | _, some content =>
      if faults.lastSuccessful then (.error "last-successful could not be written", dir)
      else (.ok (), dir.write lastSuccessfulName (.file content))

/-- `decorate_manifest` on the directory at this path. -/
def decorateManifest (codec : JsonCodec) (at_ : List String) (faults : Faults) (d : Decoration)
    (dir : ManifestDir) : Except String Unit × ManifestDir :=
  match decorationFields d, loadManifest codec at_ d.manifest dir with
  | .error message, _ => (.error message, dir)
  | _, .error message => (.error message, dir)
  | .ok fields, .ok payload =>
    match codec.dumps (.obj (update payload fields)) with
    | none => (.error "payload could not be encoded", dir)
    | some content =>
      if faults.manifest then (.error "manifest could not be written", dir)
      else
        let dir := dir.write d.manifest.name (.file content)
        if d.status = "success" then decorateLast codec faults d (update payload fields) dir
        else (.ok (), dir)

end OptimizrActions.DeployManifest
