import OptimizrActions.Delivery.Manifest

/-! The rollback plan built from an approved manifest. -/

namespace OptimizrActions.Delivery

structure RollbackSpec where
  manifestPath : RawPath
  manifestRoot : RawPath
  snapshotRoot : RawPath
  service : String
  confirmation : String
  operator : String
  reason : String

structure RollbackPlan where
  repository : String
  service : String
  candidateSha : String
  trustedRef : String
  composeFile : String
  containerName : String
  adapter : String
  manifestPath : List String
  snapshotPath : List String
  operator : String
  reason : String
  deriving DecidableEq, Repr

def singleLine (name value : String) : Except String String := do
  require (value ≠ "" ∧ value = Text.strip value) s!"{name} must be a non-empty trimmed string"
  require ('\n' ∉ value.toList ∧ '\r' ∉ value.toList) s!"{name} must be single-line"
  require (value.length ≤ 256) s!"{name} exceeds 256 characters"
  require (manifestSecret.search value = false) s!"{name} contains prohibited secret-like data"
  return value

section

variable (tree : FileTree Bytes)

def existingRoot (path : RawPath) (label : String) : Except String (List String) := do
  require (path.absolute = true) s!"{label} must be absolute"
  require (tree.throughSymlink path.parts = false)
    "rollback path must not contain symlink components"
  match tree.resolve path.parts with
  | none => .error s!"{label} could not be resolved"
  | some resolved => do
    require (tree.isDir resolved = true) s!"{label} must be an existing directory"
    return resolved

/-- `root != resolved and root in resolved.parents`, and a regular file there. -/
def regularFileBelow (root : List String) (label : String) (resolved : List String) :
    Except String (List String) := do
  require (root ≠ resolved ∧ root <+: resolved) s!"{label} must remain below its declared root"
  require (tree.isFile resolved = true ∧ tree.isSymlink resolved = false)
    s!"{label} must be a regular file"
  return resolved

def fileBelow (path : RawPath) (root : List String) (label : String) :
    Except String (List String) := do
  require (path.absolute = true) s!"{label} must be absolute"
  require (tree.throughSymlink path.parts = false)
    "rollback path must not contain symlink components"
  match tree.resolve path.parts with
  | none => .error s!"{label} could not be resolved"
  | some resolved => regularFileBelow tree root label resolved

def IsApproved (payload : Mapping) : Prop :=
  (payload.get "schema_version").eqOne = true ∧ payload.get "status" = .str "success" ∧
    payload.get "ready" = .bool true ∧ payload.get "failure_reason" = .null

instance (payload : Mapping) : Decidable (IsApproved payload) :=
  inferInstanceAs (Decidable (_ ∧ _))

def loadManifest (codec : JsonCodec) (path : List String) : Except String Mapping :=
  match (tree.read path).bind codec.loads with
  | none => .error "rollback manifest must contain valid UTF-8 JSON"
  | some (.obj payload) => do
    require (IsApproved payload) "rollback manifest is not an approved successful delivery"
    return payload
  | some _ => .error "rollback manifest must be a JSON object"

def requestFields : List String :=
  ["repository", "service", "candidate_sha", "trusted_ref", "compose_file", "container_name",
    "adapter"]

def requestFromManifest (payload : Mapping) : Except String DeployRequest :=
  (parseRequest (requestFields.map fun field => (field, payload.get field))).mapError fun _ =>
    "rollback manifest request is invalid"

def syncFlags : List String := ["changed", "snapshot_created", "synced"]

def snapshotName (payload : Mapping) : Except String String :=
  match payload.get "sync" with
  | .obj sync => do
    require (∀ field ∈ syncFlags, isBool (Mapping.get sync field) = true)
      "rollback synchronization evidence is invalid"
    require (∀ field ∈ syncFlags, Mapping.get sync field = .bool true)
      "rollback manifest has no approved snapshot"
    match Mapping.get sync "snapshot_name" with
    | .str name => do
      require (isSnapshotName name = true) "rollback snapshot name is unsafe"
      return name
    | _ => .error "rollback snapshot name is unsafe"
  | _ => .error "rollback manifest has no synchronization evidence"

def snapshotFromManifest (payload : Mapping) (snapshotRoot : List String) :
    Except String (List String) := do
  let name ← snapshotName payload
  let path := snapshotRoot ++ [name]
  require (tree.throughSymlink path = false) "rollback path must not contain symlink components"
  match tree.resolve path with
  | none => .error "rollback snapshot could not be resolved"
  | some resolved => regularFileBelow tree snapshotRoot "rollback snapshot" resolved

def confirmationText (service sha : String) : String := s!"ROLLBACK {service} {sha}"

def buildRollbackPlan (codec : JsonCodec) (spec : RollbackSpec) : Except String RollbackPlan := do
  require (isIdentifier spec.service = true) "service must be a bounded identifier"
  let operator ← singleLine "operator" spec.operator
  let reason ← singleLine "reason" spec.reason
  let manifestRoot ← existingRoot tree spec.manifestRoot "manifest root"
  let snapshotRoot ← existingRoot tree spec.snapshotRoot "snapshot root"
  let manifestPath ← fileBelow tree spec.manifestPath manifestRoot "manifest path"
  let payload ← loadManifest tree codec manifestPath
  let request ← requestFromManifest payload
  require (request.service = spec.service) "rollback service does not match the approved manifest"
  require (spec.confirmation = confirmationText request.service request.candidateSha)
    "confirmation must match the exact service and SHA"
  let snapshotPath ← snapshotFromManifest tree payload snapshotRoot
  return {
    repository := request.repository
    service := request.service
    candidateSha := request.candidateSha
    trustedRef := request.trustedRef
    composeFile := request.composeFile
    containerName := request.containerName
    adapter := request.adapter
    manifestPath := manifestPath
    snapshotPath := snapshotPath
    operator := operator
    reason := reason }

end

end OptimizrActions.Delivery
