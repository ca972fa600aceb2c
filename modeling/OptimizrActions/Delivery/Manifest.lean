import OptimizrActions.Delivery.Executor
import OptimizrActions.Lib.Calendar
import OptimizrActions.Lib.FileTree
import OptimizrActions.Lib.Host

/-! The manifest written for one delivery result. -/

namespace OptimizrActions.Delivery

abbrev Bytes := List UInt8

/-- `now`: a date-time by its UTC reading, which need not exist at the ends of the
calendar, one without a time zone, or another value. -/
inductive Moment where
  | aware (utc : Option Calendar.DateTime)
  | naive
  | other

structure ManifestSpec where
  result : ExecutorResult
  path : RawPath
  environment : Json
  workflow : Json
  runId : Json
  actor : Json
  runnerName : Json
  /-- `none` is not a sequence. -/
  images : Option (List Json) := some []
  rollbackOf : Json := .null
  now : Option Moment := none

def manifestSecret : Pattern := .anyOf [secretWord, privateKeyHeader]

def manifestScalar (name : String) (value : Json) : Except String String :=
  scalarText manifestSecret name value false

def manifestPath (tree : FileTree Bytes) (path : RawPath) : Except String (List String) := do
  require (path.absolute = true) "manifest path must be absolute"
  require (path.parts ≠ []) "manifest path must not be a filesystem root"
  require (tree.throughSymlink path.parts = false) "manifest path must not contain symlink components"
  require (tree.exists_ path.parts.dropLast = true ∧ tree.isDir path.parts.dropLast = true)
    "manifest parent must be an existing directory"
  require (tree.exists_ path.parts = false) "manifest path already exists"
  return path.parts

/-- The request's dictionary as JSON. -/
def requestMapping (request : DeployRequest) : Mapping :=
  (canonicalizeRequest request).map fun entry => (entry.1, .str entry.2)

/-- `GateEvidence(**dict(entry))`; the text is that of a `TypeError`. -/
def gateOf (entry : Mapping) : Except String GateEvidence := do
  let keys := entry.map Prod.fst
  require (keys ⊆ ["name", "status", "target", "reason"]) "unexpected keyword argument"
  require (["name", "status", "target"] ⊆ keys) "missing required positional arguments"
  return ⟨entry.get "name", entry.get "status", entry.get "target",
    entry.getD "reason" (.str "")⟩

def manifestSyncTexts : SyncTexts where
  flags := "delivery synchronization flags are invalid"
  counts := "delivery synchronization count is invalid"
  snapshot := "delivery synchronization snapshot is invalid"
  snapshotType := "expected string or bytes-like object"
  state := "delivery synchronization state is inconsistent"

section

variable (unicodeWord : Char → Bool)

def checkEntry (entry : Mapping) : Except String Unit :=
  match gateOf entry with
  | .error _ => .error "delivery evidence is invalid"
  | .ok gate =>
    match evaluateGateEvidence unicodeWord [.evidence gate] [gate.name] with
    | .error _ => .error "delivery evidence is invalid"
    | .ok checked =>
      match checked.evidence with
      | [] => .error "delivery evidence is not canonical"
      | first :: _ =>
        require ((Json.obj first).eq (.obj entry) = true) "delivery evidence is not canonical"

def validateSync : Option SyncResult → Except String Unit
  | none => .ok ()
  | some sync => checkSync manifestSyncTexts sync

def validateFailureReason (ready : Bool) : Option String → Except String Unit
  | none => .ok ()
  | some reason => do
    let _ ← manifestScalar "failure_reason" (.str reason)
    require (ready = false) "ready delivery cannot contain a failure reason"

/-- `_validate_result`, without the lists it copies. -/
def validateResult (result : ExecutorResult) : Except String DeployRequest := do
  let request ← (parseRequest result.request).mapError fun _ => "delivery result request is invalid"
  require ((Json.obj (requestMapping request)).eq (.obj result.request) = true)
    "delivery result request is not canonical"
  require (result.headSha = request.candidateSha ∧ isSha result.headSha)
    "delivery result SHA does not match the request"
  require (result.trustedRef = request.trustedRef)
    "delivery result trusted ref does not match the request"
  require (result.ready = (result.preflight.passed && result.postflight.any (·.passed)))
    "delivery result ready state is inconsistent"
  let expected := result.preflight.evidence ++ (result.postflight.map (·.evidence)).getD []
  require ((Json.arr (result.evidence.map .obj)).eq (.arr (expected.map .obj)) = true)
    "delivery result evidence is inconsistent"
  result.evidence.forM (checkEntry unicodeWord)
  require (¬(result.postflight.isNone ∧ result.sync.isSome))
    "failed preflight cannot contain synchronization"
  validateSync result.sync
  validateFailureReason result.ready result.failureReason
  return request

end

def validateImage : Json → Except String Json
  | .obj image => do
    require (image.map Prod.fst ⊆ ["image", "digest"] ∧ ["image", "digest"] ⊆ image.map Prod.fst)
      "each image requires exactly image and digest"
    let name ← manifestScalar "image" (Mapping.get image "image")
    let digest ← manifestScalar "digest" (Mapping.get image "digest")
    require (digest = "unknown" ∨ Text.sha256Text Text.isLowerHex digest = true)
      "image digest must be unknown or an immutable SHA-256"
    return .obj [("image", .str name), ("digest", .str digest)]
  | _ => .error "each image requires exactly image and digest"

def validateImages : Option (List Json) → Except String (List Json)
  | none => .error "images must be a sequence"
  | some images => images.mapM validateImage

/-- `_timestamp`, with the current time for a missing one. -/
def manifestTimestamp (clock : Calendar.DateTime) : Option Moment → Except String String
  | none => .ok (Calendar.format clock.truncate)
  | some (.aware (some utc)) => .ok (Calendar.format utc.truncate)
  | some (.aware none) => .error "date value out of range"
  | some .naive => .error "now must be timezone-aware"
  | some .other => .error "now must be a datetime"

def optionalScalar (name : String) : Json → Except String Json
  | .null => .ok .null
  | value => (manifestScalar name value).map .str

def syncMapping (sync : SyncResult) : Mapping :=
  [("changed", sync.changed), ("changed_entries", sync.changedEntries),
    ("snapshot_created", sync.snapshotCreated), ("snapshot_name", sync.snapshotName),
    ("synced", sync.synced)]

/-- The dictionary that is written for a checked result. -/
def manifestPayload (clock : Calendar.DateTime) (spec : ManifestSpec) (request : DeployRequest) :
    Except String Mapping := do
  let result := spec.result
  let generatedAt ← manifestTimestamp clock spec.now
  let environment ← manifestScalar "environment" spec.environment
  let workflow ← manifestScalar "workflow" spec.workflow
  let runId ← manifestScalar "run_id" spec.runId
  let actor ← manifestScalar "actor" spec.actor
  let runnerName ← manifestScalar "runner_name" spec.runnerName
  let images ← validateImages spec.images
  let rollbackOf ← optionalScalar "rollback_of" spec.rollbackOf
  let failureReason ← optionalScalar "failure_reason" ((result.failureReason.map .str).getD .null)
  return [("schema_version", .int 1), ("generated_at", .str generatedAt),
    ("status", .str (if result.ready then "success" else "failure")), ("ready", .bool result.ready),
    ("repository", .str request.repository), ("service", .str request.service),
    ("candidate_sha", .str request.candidateSha), ("trusted_ref", .str request.trustedRef),
    ("adapter", .str request.adapter), ("compose_file", .str request.composeFile),
    ("container_name", .str request.containerName), ("environment", .str environment),
    ("workflow", .str workflow), ("run_id", .str runId), ("actor", .str actor),
    ("runner_name", .str runnerName), ("images", .arr images),
    ("gates", .arr (result.evidence.map .obj)), ("rollback_of", rollbackOf),
    ("failure_reason", failureReason),
    ("sync", (result.sync.map fun sync => .obj (syncMapping sync)).getD .null)]

/-- The tree after the write. -/
def writeDeliveryManifest (codec : JsonCodec) (unicodeWord : Char → Bool)
    (clock : Calendar.DateTime) (tree : FileTree Bytes) (spec : ManifestSpec) :
    Except String (FileTree Bytes) := do
  let path ← manifestPath tree spec.path
  let request ← validateResult unicodeWord spec.result
  let payload ← manifestPayload clock spec request
  match codec.dumps (.obj payload) with
  | none => .error "manifest could not be encoded"
  | some content =>
    match tree.replace path content with
    | none => .error "manifest could not be replaced"
    | some after => .ok after

end OptimizrActions.Delivery
