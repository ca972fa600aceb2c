import OptimizrActions.Exceptions.Coverage
import OptimizrActions.Lib.KeyValue

/-! The complete image set of a release, its candidate fragments and its exception
policies, reviewed as one. -/

namespace OptimizrActions.ContainerRelease

open Exceptions

def isLowerAlnum (c : Char) : Bool := ('a' ≤ c && c ≤ 'z') || ('0' ≤ c && c ≤ '9')

def isCandidateSha (s : String) : Bool :=
  40 ≤ s.toList.length && s.toList.length ≤ 64 && s.toList.all Text.isLowerHex

def isDigest (s : String) : Bool := Text.sha256Text Text.isLowerHex s

def isService (s : String) : Bool :=
  match s.toList with
  | [] => false
  | c :: cs => isLowerAlnum c && cs.length ≤ 62 &&
      cs.all fun c => isLowerAlnum c || c = '.' || c = '_' || c = '-'

/-- Letters and digits at both ends, dots and dashes between. -/
def isHostName (cs : List Char) : Bool :=
  (cs.head?.any isLowerAlnum) && (cs.getLast?.any isLowerAlnum) &&
    cs.all fun c => isLowerAlnum c || c = '.' || c = '-'

def isRegistry (s : String) : Bool :=
  isHostName (s.toList.takeWhile (· ≠ ':')) &&
    match s.toList.dropWhile (· ≠ ':') with
    | [] => true
    | _ :: port => 1 ≤ port.length && port.length ≤ 5 && port.all fun c => '0' ≤ c && c ≤ '9'

/-- Runs of letters and digits joined by single dots, underscores or dashes. -/
def isImagePathSegment (cs : List Char) : Bool :=
  (cs.splitOnP fun c => c = '.' || c = '_' || c = '-').all fun run =>
    run ≠ [] && run.all isLowerAlnum

def isImageNamespace (s : String) : Bool := (KeyValue.splitOn '/' s.toList).all isImagePathSegment

def isPolicyPath (s : String) : Bool :=
  s.toList.length ≤ 1024 && (KeyValue.splitOn '/' s.toList).all fun part =>
    part ≠ [] && part ≠ ['.'] && part ≠ ['.', '.'] &&
      part.all fun c => c.isAlphanum || c = '_' || c = '.' || c = '-'

def maxJsonBytes : Nat := 1024 * 1024

structure Request where
  candidateSha : String
  registry : String
  imageNamespace : String
  validatePolicies : Bool
  setComplete : Bool
  requirePromotionAuthorized : Bool
  requireAttestations : Bool

/-- One `candidate-fragment.json` below the artifact directory. -/
structure FragmentFile where
  traversesSymlink : Bool
  regular : Bool
  inside : Bool
  bytes : List UInt8

structure FragmentsDir where
  safe : Bool
  /-- in the order of their paths -/
  files : List FragmentFile

structure PolicyFile where
  traversesSymlink : Bool
  inside : Bool
  bytes : List UInt8

structure PolicyRoot where
  safe : Bool
  file : String → PolicyFile

def serviceName (value : Json) (field : String) : Except String String :=
  match value with
  | .str name => do
    require (isService name) (field ++ " must be a bounded lowercase service name")
    pure name
  | _ => .error (field ++ " must be a bounded lowercase service name")

def policyRelativePath (value : Json) (field : String) : Except String String :=
  match value with
  | .null => .ok ""
  | .str path =>
    if path = "" then .ok ""
    else do
      require (isPolicyPath path) (field ++ " is not a safe repository-relative policy path")
      pure path
  | _ => .error (field ++ " is not a safe repository-relative policy path")

/-- `text.rsplit("@", 1)`, when there is an at sign. -/
def rsplitAt (text : String) : Option (String × String) :=
  if '@' ∈ text.toList then
    let (digest, name) := KeyValue.cut '@' text.toList.reverse
    some (String.ofList name.reverse, String.ofList digest.reverse)
  else none

def expectedName (request : Request) (service : String) : String :=
  request.registry ++ "/" ++ request.imageNamespace ++ "/" ++ service

/-- The reference and its digest. -/
def fullImageRef (value : Json) (request : Request) (service field : String) :
    Except String (String × String) :=
  match value with
  | .str text =>
    match rsplitAt text with
    | some (name, digest) => do
      require (name = expectedName request service ∧ isDigest digest)
        (field ++ " must match the configured registry, namespace, service, and sha256 digest")
      pure (text, digest)
    | none => .error (field ++ " must be a full immutable image reference")
  | _ => .error (field ++ " must be a full immutable image reference")

def candidateFragmentFiles (root : FragmentsDir) : Except String (List FragmentFile) := do
  require root.safe "candidate fragments directory is missing or unsafe"
  require (root.files.all fun file => !file.traversesSymlink)
    "candidate fragment directories must not traverse symlinks"
  root.files.forM fun file => do
    require file.regular "candidate fragment must be a regular non-symlink file"
    require file.inside "candidate fragment escapes its artifact directory"
  pure root.files

def readJsonFile (host : Host) (file : FragmentFile) (label : String) : Except String Json := do
  require file.regular (label ++ " must be a regular non-symlink file")
  require (file.bytes.length ≤ maxJsonBytes) (label ++ " exceeds the 1 MiB contract limit")
  match host.loads file.bytes with
  | some payload => .ok payload
  | none => .error (label ++ " must be valid UTF-8 JSON")

/-- `value is not True` raises. -/
def requireTrue (value : Json) (message : String) : Except String Unit :=
  match value with
  | .bool true => .ok ()
  | _ => .error message

/-- The same check, when the caller asks for it. -/
def requireTrueWhen (asked : Bool) (value : Json) (message : String) : Except String Unit :=
  if asked then requireTrue value message else .ok ()

/-- `value != text` raises. -/
def requireEqual (value : Json) (text message : String) : Except String Unit :=
  match value with
  | .str other => require (other = text) message
  | _ => .error message

abbrev Definition := String × Mapping

def readService (index : Nat) (seen : List Definition) : Json → Except String Definition
  | .obj service => do
    let name ← serviceName (Mapping.get service "name") ("services[" ++ toString index ++ "].name")
    require (name ∉ seen.map Prod.fst) ("duplicate candidate service: " ++ name)
    pure (name, service)
  | _ => .error ("services[" ++ toString index ++ "] must be an object")

def readUnchanged (expected : List String) (index : Nat) (seen : List Definition) :
    Json → Except String Definition
  | .obj image => do
    let name ← serviceName (Mapping.get image "service")
      ("unchanged_images[" ++ toString index ++ "].service")
    require (name ∉ expected ∧ name ∉ seen.map Prod.fst) ("duplicate final image service: " ++ name)
    pure (name, image)
  | _ => .error ("unchanged_images[" ++ toString index ++ "] must be an object")

structure Fragment where
  service : String
  image : String
  digest : String
  securityEvidence : Mapping

/-- The checks on a fragment's security evidence. -/
def checkEvidence (request : Request) (digest : String) (evidence : Mapping) :
    Except String Unit := do
  requireEqual (evidence.get "source_sha") request.candidateSha
    "per-image security evidence does not match the candidate source commit"
  requireEqual (evidence.get "image_digest") digest
    "per-image security evidence does not match the immutable image digest"
  requireTrue (evidence.get "security_gate_accepted")
    "candidate fragment contains an image rejected by the security gate"
  requireTrueWhen request.requirePromotionAuthorized (evidence.get "promotion_authorized")
    "candidate fragment lacks per-image promotion authorization"

def readFragment (host : Host) (request : Request) (expected : List String) (_index : Nat)
    (seen : List Fragment) (file : FragmentFile) : Except String Fragment := do
  let payload ← readJsonFile host file "candidate fragment"
  match payload with
  | .obj payload => do
    let service ← serviceName (Mapping.get payload "service") "candidate fragment service"
    require (service ∈ expected ∧ service ∉ seen.map (·.service))
      "candidate fragments must contain exactly the requested candidate services"
    requireEqual (Mapping.get payload "candidate_sha") request.candidateSha
      "candidate fragment does not match the requested candidate source commit"
    let (image, digest) ← fullImageRef (Mapping.get payload "image") request service
      "candidate fragment image"
    requireEqual (Mapping.get payload "digest") digest
      "candidate fragment image reference does not match its digest"
    requireTrueWhen request.requireAttestations (Mapping.get payload "attestation_verified")
      "candidate fragment is missing verified quarantine attestations"
    match Mapping.get payload "security_evidence" with
    | .obj evidence => do
      checkEvidence request digest evidence
      pure { service, image, digest, securityEvidence := evidence }
    | _ => .error "candidate fragment is missing per-image security evidence"
  | _ => .error "candidate fragment must be a JSON object"

/-- A service of the final set and its image. -/
abbrev Image := String × String

def unchangedImage (request : Request) (definition : Definition) : Except String Image := do
  let (image, _) ← fullImageRef (definition.2.get "image") request definition.1
    ("unchanged_images." ++ definition.1 ++ ".image")
  pure (definition.1, image)

def imageDigest (image : Image) : String := ((rsplitAt image.2).map Prod.snd).getD ""

def sortByService {α : Type} (records : List (String × α)) : List (String × α) :=
  records.insertionSort fun a b => a.1 ≤ b.1

section

variable (host : Host)

/-- `"sha256:" + hashlib.sha256(value).hexdigest()` -/
def digestText (bytes : List UInt8) : String := "sha256:" ++ host.sha256Hex bytes

structure PolicyRecord where
  path : String
  vulnerabilities : List Json
  bytes : List UInt8

def PolicyRecord.document (record : PolicyRecord) : Document := ⟨record.path, true, record.bytes⟩

def supportedPolicy? (payload : Mapping) : Option (List Json) :=
  match payload.get "version", payload.get "vulnerabilities" with
  | .bool _, _ => none
  | version, .arr vulnerabilities =>
    if version.eqOne ∧ ∀ field ∈ payload, field.1 ∈ ["version", "vulnerabilities"] then
      some vulnerabilities
    else none
  | _, _ => none

def policyFile (root : PolicyRoot) (path : String) : Except String PolicyRecord := do
  let file := root.file path
  require (!file.traversesSymlink) "exception policy paths must not traverse symlinks"
  require file.inside "configured exception policy is missing or outside the candidate source"
  require (file.bytes.length ≤ maxJsonBytes) "exception policy exceeds the 1 MiB contract limit"
  match host.loads file.bytes with
  | none => .error "exception policy must be valid UTF-8 JSON"
  | some (.obj payload) =>
    match supportedPolicy? payload with
    | some vulnerabilities => .ok ⟨path, vulnerabilities, file.bytes⟩
    | none => .error "exception policy must use the supported version 1 schema"
  | some _ => .error "exception policy must use the supported version 1 schema"

/-- The hash record of a service and the policy it names, if any. -/
def servicePolicy (root : PolicyRoot) (definition : Definition) :
    Except String (Image × Option PolicyRecord) := do
  let path ← policyRelativePath (definition.2.getD "security_exceptions_file" (.str ""))
    (definition.1 ++ ".security_exceptions_file")
  if path = "" then pure ((definition.1, "none"), none)
  else do
    let record ← policyFile host root path
    pure ((definition.1, digestText host record.bytes), some record)

/-- Each path once, in the order of its first service. -/
def distinctPolicies (records : List PolicyRecord) : List PolicyRecord :=
  records.foldl (fun seen record =>
    if record.path ∈ seen.map (·.path) then seen else seen ++ [record]) []

variable (fromisoformat : String → Option Date)

/-- The combined policy is written and read back; JSON text keeps its entries. -/
def validatePolicyFiles (policies : List PolicyRecord) (active : List String) (today : Date) :
    Except String Nat := do
  let activeIds := String.join (active.map (· ++ "\n"))
  let count ← validatePolicy fromisoformat (.ok (policies.flatMap (·.vulnerabilities)))
    ⟨"active-image-ids.txt", true, activeIds⟩ active today
  policies.forM fun policy => do
    let _ ← renderExceptionPolicy fromisoformat host policy.document (active.headD "") "image"
      today []
  pure count

/-- The hash records and the number of exceptions. -/
def reviewPolicies (root : PolicyRoot) (definitions : List Definition) (active : List String)
    (today : Date) : Except String (List Image × Nat) := do
  require root.safe "candidate policy root is missing or unsafe"
  let policies ← definitions.mapM (servicePolicy host root)
  let count ← validatePolicyFiles host fromisoformat
    (distinctPolicies (policies.filterMap Prod.snd)) active today
  pure (policies.map Prod.fst, count)

structure Aggregate where
  status : String
  policyValidationEnabled : Bool
  setComplete : Bool
  candidateSha : String
  images : List Image
  activeImageCount : Nat
  activeImageIdsSha256 : String
  imageSetSha256 : String
  policySetSha256 : String
  exceptionCount : Option Nat
  deriving DecidableEq, Repr

def imageJson (image : Image) : Json := .obj [("service", .str image.1), ("image", .str image.2)]

def hashJson (record : Image) : Json :=
  .obj [("service", .str record.1), ("policy_sha256", .str record.2)]

/-- The returned aggregate of a final image set and its policy review. -/
def aggregate (request : Request) (images hashes : List Image) (exceptionCount : Option Nat) :
    Aggregate where
  status := if request.validatePolicies then "validated" else "not_requested"
  policyValidationEnabled := request.validatePolicies
  setComplete := request.setComplete
  candidateSha := request.candidateSha
  images := images
  activeImageCount := images.length
  activeImageIdsSha256 := digestText host (host.dumps
    (.arr (((images.map imageDigest).insertionSort (· ≤ ·)).map .str)))
  imageSetSha256 := digestText host (host.dumps
    (.obj [("candidate_sha", .str request.candidateSha), ("images", .arr (images.map imageJson))]))
  policySetSha256 := digestText host (host.dumps (.arr ((sortByService hashes).map hashJson)))
  exceptionCount := exceptionCount

/-- What the caller declares, before any file is read. -/
def checkRequest (request : Request) (unchanged : List Json) : Except String Unit := do
  require (request.validatePolicies → request.setComplete)
    "strict exception validation requires the caller to declare the final set complete"
  require (request.validatePolicies ∨ ¬(request.setComplete ∨ unchanged ≠ []))
    "final-set declarations require strict exception validation to be enabled"

/-- The policy review, when it is asked for, and the aggregate. -/
def conclude (definitions : List Definition) (root : PolicyRoot) (request : Request) (today : Date)
    (images : List Image) : Except String Aggregate :=
  if request.validatePolicies then do
    let (hashes, count) ← reviewPolicies host fromisoformat root definitions
      (images.map imageDigest) today
    pure (aggregate host request images hashes count)
  else .ok (aggregate host request images [] none)

/-- The part of the validator after both arrays have been read. -/
def validateSets (services unchanged : List Definition) (fragments : FragmentsDir)
    (root : PolicyRoot) (request : Request) (today : Date) : Except String Aggregate := do
  let expected := services.map Prod.fst
  let files ← candidateFragmentFiles fragments
  let found ← gather (readFragment host request expected) 0 [] files
  require (found.map (·.service) ⊆ expected ∧ expected ⊆ found.map (·.service))
    "candidate fragments must contain exactly the requested candidate services"
  let kept ← unchanged.mapM (unchangedImage request)
  let images := sortByService (found.map (fun f => (f.service, f.image)) ++ kept)
  require (images.map imageDigest).Nodup "final image set contains a duplicate active image ID"
  conclude host fromisoformat (services ++ unchanged) root request today images

def validateAggregateExceptionSet (services : Json) (fragments : FragmentsDir) (unchanged : Json)
    (root : PolicyRoot) (request : Request) (today : Date) : Except String Aggregate := do
  require (isCandidateSha request.candidateSha) "candidate_sha must be a full lowercase commit SHA"
  require (isRegistry request.registry) "registry must be a safe lowercase registry hostname"
  require (isImageNamespace request.imageNamespace)
    "image_namespace must be a safe repository namespace"
  match services, unchanged with
  | .arr (service :: rest), .arr unchanged => do
    checkRequest request unchanged
    let services ← gather readService 0 [] (service :: rest)
    let unchanged ← gather (readUnchanged (services.map Prod.fst)) 0 [] unchanged
    validateSets host fromisoformat services unchanged fragments root request today
  | .arr (_ :: _), _ => .error "unchanged_images must be a JSON array"
  | _, _ => .error "services must declare the complete non-empty candidate matrix"

end

end OptimizrActions.ContainerRelease
