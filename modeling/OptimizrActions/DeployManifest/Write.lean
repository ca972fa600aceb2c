import Mathlib.Data.List.Sort
import OptimizrActions.Delivery.Manifest
import OptimizrActions.Lib.Directory

/-! The manifest of one deployment: one immutable file, the pointer to the last successful one, and
retention. -/

namespace OptimizrActions.DeployManifest

open Delivery (Bytes Moment)

/-- What lies under a name in the manifest directory. -/
inductive Node where
  | file (content : Bytes)
  | directory
  | symlink (leadsSomewhere : Bool)
  deriving DecidableEq

def Node.exists_ : Node → Bool
  | .symlink leadsSomewhere => leadsSomewhere
  | _ => true

abbrev ManifestDir := Directory Node

/-- What the checks see of a deployment path and of its manifest directory. -/
structure DeployPath where
  isAbsolute : Bool
  isRoot : Bool
  isDir : Bool
  throughSymlink : Bool
  manifestDirIsSymlink : Bool

structure ManifestConfig where
  deployPath : DeployPath
  status : String
  repository : Json
  deployedSha : Json
  deployedRef : Json
  environment : Json
  workflow : Json
  runId : Json
  actor : Json
  runnerName : Json
  services : List Json
  images : List Json
  healthchecks : List Json
  migrationResult : String := "not-reported"
  optionalBuildResult : String := "not-reported"
  rollbackOf : Json := .null
  retention : Json := .int 50
  now : Option Moment := none

def literal (text : String) : Pattern :=
  text.toList.foldr (fun c rest => .seq (.char (· = c)) rest) .empty

/-- `_SECRET_VALUE_PATTERNS` -/
def secretValue (unicodeWord : Char → Bool) : Pattern :=
  let isWord := fun c : Char => c.isAlphanum || c = '_' || (0x80 ≤ c.toNat && unicodeWord c)
  .anyOf [Delivery.secretWord,
    .inOrder [.boundary isWord, .word "bearer", .plus (.char Text.isSpace),
      .plus (.ignoringCase fun c => c.isAlphanum || c ∈ "._~+/-".toList), .star (.oneOf "=")],
    .inOrder [literal "-----BEGIN ", .star (.char fun c => c.isUpper || c.isDigit || c = ' '),
      literal "PRIVATE KEY-----"],
    .inOrder [.anyOf [.word "x-amz-signature", .word "x-goog-signature", .word "signature",
      .word "signed_url", .word "sig"], .word "=", .plus (.noneOf fun c => c = '&' || Text.isSpace c)],
    .inOrder [.alt .start (.oneOf "/\\"), .word ".env", .alt .finish (.oneOf "./\\")]]

def maxScalarLength : Nat := 512

def validateDeployPath (path : DeployPath) : Except String Unit := do
  require (path.isAbsolute = true) "deploy_path must be absolute"
  require (path.isRoot = false) "deploy_path must not be a filesystem root"
  require (path.isDir = true) "deploy_path must be an existing directory"
  require (path.throughSymlink = false) "deploy_path must not contain symlink components"

def validateService : Json → Except String Json
  | .str service => do
    require (Text.isBounded Char.isAlphanum Delivery.isNameChar 127 service)
      "service names must use letters, digits, dot, underscore or hyphen"
    return .str service
  | _ => .error "service names must use letters, digits, dot, underscore or hyphen"

def hasKeys (entry : Mapping) (keys : List String) : Prop :=
  entry.map Prod.fst ⊆ keys ∧ keys ⊆ entry.map Prod.fst

instance (entry : Mapping) (keys : List String) : Decidable (hasKeys entry keys) :=
  inferInstanceAs (Decidable (_ ∧ _))

section

variable (unicodeWord : Char → Bool)

def validateScalar (name : String) : Json → Except String String
  | .str value => do
    require (value ≠ "") s!"{name} must not be empty"
    require ('\n' ∉ value.toList ∧ '\r' ∉ value.toList) s!"{name} must be a single-line value"
    require (value.length ≤ maxScalarLength) s!"{name} exceeds {maxScalarLength} characters"
    require ((secretValue unicodeWord).search value = false)
      s!"{name} contains prohibited secret-like data"
    return value
  | _ => .error s!"{name} must be a string"

def validateImage : Json → Except String Json
  | .obj image => do
    require (hasKeys image ["image", "digest"]) "each image requires exactly image and digest keys"
    let name ← validateScalar unicodeWord "image" (Mapping.get image "image")
    let digest ← validateScalar unicodeWord "digest" (Mapping.get image "digest")
    require (digest = "unknown" ∨ Text.sha256Text Text.isLowerHex digest = true)
      "digest must be unknown or a lowercase sha256 digest"
    return .obj [("image", .str name), ("digest", .str digest)]
  | _ => .error "each image requires exactly image and digest keys"

def validateHealthcheck : Json → Except String Json
  | .obj healthcheck => do
    require (hasKeys healthcheck ["name", "status", "target"])
      "each healthcheck requires exactly name, status and target keys"
    let name ← validateScalar unicodeWord "healthcheck.name" (Mapping.get healthcheck "name")
    let status ← validateScalar unicodeWord "healthcheck.status" (Mapping.get healthcheck "status")
    let target ← validateScalar unicodeWord "healthcheck.target" (Mapping.get healthcheck "target")
    require (status ∈ ["passed", "failed", "skipped"])
      "healthcheck status must be passed, failed or skipped"
    return .obj [("name", .str name), ("status", .str status), ("target", .str target)]
  | _ => .error "each healthcheck requires exactly name, status and target keys"

def optionalScalar (name : String) : Json → Except String Json
  | .null => .ok .null
  | value => (validateScalar unicodeWord name value).map .str

end

def validateRetention : Json → Except String Nat
  | .int n => do
    require (1 ≤ n ∧ n ≤ 500) "retention must be between 1 and 500"
    return n.toNat
  | _ => .error "retention must be an integer"

/-- `now`, in UTC and without its microseconds. -/
def manifestNow (clock : Calendar.DateTime) : Option Moment → Except String Calendar.DateTime
  | none => .ok clock.truncate
  | some (.aware (some utc)) => .ok utc.truncate
  | some (.aware none) => .error "date value out of range"
  | some _ => .error "now must be timezone-aware"

/-- `strftime("%Y%m%dT%H%M%SZ")` -/
def compactTimestamp (t : Calendar.DateTime) : List Char :=
  let two := fun n => [Calendar.digit (n / 10), Calendar.digit (n % 10)]
  two (t.year / 100) ++ two (t.year % 100) ++ two t.month ++ two t.day ++ 'T' ::
    (two t.hour ++ two t.minute ++ two t.second ++ ['Z'])

/-- `_safe_filename_segment` -/
def safeFilenameSegment (value : List Char) (fallback : String) : List Char :=
  if value = [] then fallback.toList else value.map fun c => if Delivery.isNameChar c then c else '-'

def manifestName (now : Calendar.DateTime) (sha runId : String) : String :=
  let sha := safeFilenameSegment (sha.toList.take 12) "unknown"
  let run := safeFilenameSegment runId.toList "unknown"
  String.ofList (compactTimestamp now ++ '-' :: (sha ++ '-' :: (run ++ ".json".toList)))

def lastSuccessfulName : String := "last-successful.json"

/-- What is written for a checked configuration. -/
structure Prepared where
  name : String
  payload : Mapping
  content : Bytes
  success : Bool
  retention : Nat

/-- The checks of `write_manifest`; the dictionary, the file name and the retention. -/
def manifestPayload (unicodeWord : Char → Bool) (clock : Calendar.DateTime)
    (config : ManifestConfig) : Except String (Mapping × String × Nat) := do
  validateDeployPath config.deployPath
  require (config.status ∈ ["success", "failure"]) "status must be success or failure"
  let retention ← validateRetention config.retention
  let repository ← validateScalar unicodeWord "repository" config.repository
  let deployedSha ← validateScalar unicodeWord "deployed_sha" config.deployedSha
  let deployedRef ← validateScalar unicodeWord "deployed_ref" config.deployedRef
  let environment ← validateScalar unicodeWord "environment" config.environment
  let workflow ← validateScalar unicodeWord "workflow" config.workflow
  let runId ← validateScalar unicodeWord "run_id" config.runId
  let actor ← validateScalar unicodeWord "actor" config.actor
  let runnerName ← validateScalar unicodeWord "runner_name" config.runnerName
  let rollbackOf ← optionalScalar unicodeWord "rollback_of" config.rollbackOf
  require (config.migrationResult ∈ ["passed", "failed", "skipped", "not-reported"])
    "migration_result is not an allowed value"
  require (config.optionalBuildResult ∈ ["passed", "failed", "skipped", "not-reported"])
    "optional_build_result is not an allowed value"
  let services ← config.services.mapM validateService
  let images ← config.images.mapM (validateImage unicodeWord)
  let healthchecks ← config.healthchecks.mapM (validateHealthcheck unicodeWord)
  let now ← manifestNow clock config.now
  return ([("schema_version", .str "1.0"), ("status", .str config.status),
    ("deployed_at", .str (Calendar.format now)), ("repository", .str repository),
    ("deployed_sha", .str deployedSha), ("deployed_ref", .str deployedRef),
    ("workflow", .str workflow), ("run_id", .str runId), ("environment", .str environment),
    ("actor", .str actor), ("runner_name", .str runnerName), ("services", .arr services),
    ("images", .arr images), ("healthchecks", .arr healthchecks),
    ("migration_result", .str config.migrationResult),
    ("optional_build_result", .str config.optionalBuildResult), ("rollback_of", rollbackOf)],
    manifestName now deployedSha runId, retention)

def prepareManifest (codec : JsonCodec) (unicodeWord : Char → Bool) (clock : Calendar.DateTime)
    (config : ManifestConfig) : Except String Prepared := do
  let (payload, name, retention) ← manifestPayload unicodeWord clock config
  match codec.dumps (.obj payload) with
  | none => .error "manifest could not be encoded"
  | some content => do
    require (config.deployPath.manifestDirIsSymlink = false)
      "manifest directory must not be a symlink"
    return ⟨name, payload, content, config.status = "success", retention⟩

def isJsonName (name : String) : Bool := ".json".toList.isSuffixOf name.toList

/-- The manifests of the directory, in the order in which they were written. -/
def manifestNames (dir : ManifestDir) : List String :=
  dir.names.filter fun name => isJsonName name && name ≠ lastSuccessfulName

/-- `immutable[config.retention:]`, by name from the last one on. -/
def expiredNames (retention : Nat) (names : List String) : List String :=
  (names.insertionSort (· ≥ ·)).drop retention

/-- `expired.unlink()` for one after the other; the directory stays as it is where one raises. -/
def unlinkAll : List String → ManifestDir → Except String Unit × ManifestDir
  | [], dir => (.ok (), dir)
  | name :: rest, dir =>
    if dir.get name = some .directory then (.error "Is a directory", dir)
    else unlinkAll rest (dir.remove name)

/-- The directory after the manifest and the pointer were written. -/
def placeManifest (prepared : Prepared) (dir : ManifestDir) : Except String Unit × ManifestDir :=
  let dir := dir.write prepared.name (.file prepared.content)
  if prepared.success then
    if dir.get lastSuccessfulName = some .directory then (.error "Is a directory", dir)
    else (.ok (), dir.write lastSuccessfulName (.file prepared.content))
  else (.ok (), dir)

/-- The writes of `write_manifest`; the name of the manifest, and the directory after the call. -/
def commitManifest (prepared : Prepared) (dir : ManifestDir) : Except String String × ManifestDir :=
  if (dir.get prepared.name).any Node.exists_ then
    (.error "immutable manifest path already exists", dir)
  else
    match placeManifest prepared dir with
    | (.error message, dir) => (.error message, dir)
    | (.ok (), dir) =>
      match unlinkAll (expiredNames prepared.retention (manifestNames dir)) dir with
      | (.error message, dir) => (.error message, dir)
      | (.ok (), dir) => (.ok prepared.name, dir)

/-- `write_manifest` -/
def writeManifest (codec : JsonCodec) (unicodeWord : Char → Bool) (clock : Calendar.DateTime)
    (config : ManifestConfig) (dir : ManifestDir) : Except String String × ManifestDir :=
  match prepareManifest codec unicodeWord clock config with
  | .error message => (.error message, dir)
  | .ok prepared => commitManifest prepared dir

end OptimizrActions.DeployManifest
