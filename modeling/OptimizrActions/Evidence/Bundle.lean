import OptimizrActions.Evidence.Identity
import OptimizrActions.Lib.FileTree
import Mathlib.Data.List.Lex

/-! The evidence bundle: an index of a directory's files, and its verification. -/

namespace OptimizrActions.Evidence

/-- Everything below a directory, by its names; `rglob("*")` lists it in this order. -/
structure Listing where
  nodes : List (List String × Node Bytes)
  distinct : (nodes.map Prod.fst).Nodup
  named : ∀ path ∈ nodes.map Prod.fst, path ≠ [] ∧ ∀ name ∈ path, IsName name

/-- What the path of an evidence directory leads to. -/
inductive EvidenceRoot where
  | directory (listing : Listing)
  | symlink
  | missing

def emptyListing : Listing := ⟨[], List.nodup_nil, nofun⟩

def manifestPath : List String := ["evidence-manifest.json"]

def Listing.withManifest (listing : Listing) (content : Bytes)
    (fresh : manifestPath ∉ listing.nodes.map Prod.fst) : Listing where
  nodes := listing.nodes ++ [(manifestPath, .file content)]
  distinct := by
    rw [List.map_append, List.nodup_append]
    refine ⟨listing.distinct, List.nodup_singleton _, fun path mem _ last => ?_⟩
    cases List.mem_singleton.mp last
    rintro rfl
    exact fresh mem
  named := by
    intro path mem
    rw [List.map_append, List.mem_append] at mem
    rcases mem with old | new
    · exact listing.named path old
    · cases List.mem_singleton.mp new
      change manifestPath ≠ [] ∧ ∀ name ∈ manifestPath, IsName name
      decide

def nodeFile : List String × Node Bytes → Option (List String × Bytes)
  | (path, .file content) => some (path, content)
  | _ => none

def Listing.files (listing : Listing) : List (List String × Bytes) :=
  listing.nodes.filterMap nodeFile

def isLink : List String × Node Bytes → Bool
  | (_, .symlink ..) => true
  | _ => false

structure BundleArgs where
  repository : String
  runId : String
  runAttempt : String
  producerRepository : String
  producerRef : String
  producerSha : String
  producerFile : String
  sourceSha : String
  expectedSourceSha : String
  conclusion : String
  artifactName : String

structure IndexEntry where
  path : String
  sha256 : String
  size : Nat
  deriving DecidableEq, Repr

def IndexEntry.toJson (entry : IndexEntry) : Json :=
  .obj [("path", .str entry.path), ("sha256", .str entry.sha256), ("size_bytes", .int entry.size)]

/-- The record of one bundle. -/
structure Record where
  id : Identity
  conclusion : String
  files : List IndexEntry
  indexSha256 : String

def Record.totalBytes (record : Record) : Nat := (record.files.map IndexEntry.size).sum

def Record.result (record : Record) : String :=
  if record.conclusion = "success" ∧ 0 < record.totalBytes then "passed" else "failed"

def Record.toMapping (record : Record) : Mapping :=
  [("schema_version", .int 1), ("repository", .str record.id.repository),
    ("run_id", .str record.id.runId), ("run_attempt", .str record.id.runAttempt),
    ("producer", .obj record.id.producer), ("source_sha", .str record.id.sourceSha),
    ("conclusion", .str record.conclusion), ("result", .str record.result),
    ("artifact_name", .str record.id.artifactName), ("evidence_path", .str "."),
    ("evidence_present", .bool (record.files ≠ [])),
    ("evidence_file_count", .int record.files.length),
    ("evidence_total_bytes", .int record.totalBytes),
    ("evidence_manifest_path", .str "evidence-manifest.json"),
    ("evidence_files", .arr (record.files.map IndexEntry.toJson)),
    ("evidence_index_sha256", .str record.indexSha256),
    ("details", .obj [("evidence_file_count", .int record.files.length)])]

/-- The directory with the sidecar in it, and what is returned. -/
structure Bundle where
  listing : Listing
  manifest : Bytes
  record : Record
  evidenceSha256 : String

section

variable (digest : Bytes → Fin 32 → UInt8) (codec : JsonCodec)

def indexEntry (path : List String) (content : Bytes) : IndexEntry :=
  ⟨posix path, sha256Hex digest content, content.length⟩

/-- The loop over the sorted paths. -/
def indexFiles : List (List String × Node Bytes) → Except String (List IndexEntry)
  | [] => .ok []
  | (_, .symlink ..) :: _ => .error "evidence bundle must not contain symlinks"
  | (path, .file content) :: rest => do
    let _ ← validateRelativePath (.str (posix path)) "evidence file path"
    let entries ← indexFiles rest
    return indexEntry digest path content :: entries
  | (_, .directory) :: rest => indexFiles rest
  | (_, .special) :: rest => indexFiles rest

def rootListing : EvidenceRoot → Except String Listing
  | .directory listing => .ok listing
  | .symlink => .error "evidence directory must not be a symlink"
  | .missing => .ok emptyListing

def validateIdentity (args : BundleArgs) (sourceSha : String) : Except String Identity := do
  let repository ← validateRepository (.str args.repository) "repository"
  let runId ← validateRunNumber (.str args.runId) "run_id"
  let runAttempt ← validateRunNumber (.str args.runAttempt) "run_attempt"
  let producerRepository ← validateRepository (.str args.producerRepository) "producer_repository"
  let producerRef ← requiredText (.str args.producerRef) "producer_ref"
  let producerSha ← validateSha (.str args.producerSha) "producer_sha"
  let producerFile ← validateRelativePath (.str args.producerFile) "producer_file"
  let artifactName ← requiredText (.str args.artifactName) "artifact_name"
  return ⟨repository, runId, runAttempt, producerRepository, producerRef, producerSha, producerFile,
    sourceSha, artifactName⟩

def sortedNodes (listing : Listing) : List (List String × Node Bytes) :=
  listing.nodes.insertionSort (·.1 ≤ ·.1)

def createEvidenceBundle (args : BundleArgs) (root : EvidenceRoot) : Except String Bundle := do
  let sourceSha ← validateSha (.str args.sourceSha) "source_sha"
  let expectedSourceSha ← validateSha (.str args.expectedSourceSha) "expected_source_sha"
  require (sourceSha = expectedSourceSha) "checked-out source SHA does not match caller github.sha"
  require (args.conclusion ∈ bundleConclusions)
    "bundle conclusion must be success, failure, or cancelled"
  let listing ← rootListing root
  if fresh : manifestPath ∉ listing.nodes.map Prod.fst then
    let files ← indexFiles digest (sortedNodes listing)
    let id ← validateIdentity args sourceSha
    let index ← serializeJson codec (.arr (files.map IndexEntry.toJson))
    let record : Record := ⟨id, args.conclusion, files, sha256Hex digest index⟩
    let manifest ← serializeJson codec (.obj record.toMapping)
    return ⟨listing.withManifest manifest fresh, manifest, record, sha256Hex digest manifest⟩
  else
    .error "evidence-manifest.json path is reserved for the generated index"

def requiredKeys : List String :=
  ["repository", "run_id", "run_attempt", "producer", "source_sha", "conclusion", "result",
    "artifact_name", "evidence_path", "evidence_present", "evidence_manifest_path",
    "evidence_file_count", "evidence_total_bytes", "evidence_files", "evidence_index_sha256"]

def loadBundle : Bytes → Except String Mapping :=
  loadManifest codec "evidence bundle manifest" requiredKeys

def readIndexed (_index : Nat) (seen : List IndexEntry) (item : Json) : Except String IndexEntry := do
  let item ← asObject "evidence file entry must be an object" item
  let path ← validateRelativePath (item.get "path") "evidence file path"
  let sha256 ← asSha256 "evidence file SHA-256 is malformed" (item.get "sha256")
  let size ← asCount "evidence file size is malformed" (item.get "size_bytes")
  require (path ∉ seen.map IndexEntry.path) "evidence file path is duplicated"
  return ⟨path, sha256, size⟩

/-- The files that a verification walks over, apart from the manifest. -/
def actualFiles (manifest : String) : EvidenceRoot → Except String (List (String × Bytes))
  | .symlink => .error "evidence directory must not be a symlink"
  | .missing => .ok []
  | .directory listing => do
    require (∀ node ∈ listing.nodes, isLink node = false)
      "evidence bundle must not contain symlinks"
    return (listing.files.map fun file => (posix file.1, file.2)).filter (·.1 ≠ manifest)

def checkFile (actual : List (String × Bytes)) (entry : IndexEntry) : Except String Unit :=
  match actual.lookup entry.path with
  | none => .error s!"missing evidence file: {entry.path}"
  | some content => do
    require (content.length = entry.size) s!"evidence file size does not match: {entry.path}"
    require (sha256Hex digest content = entry.sha256)
      s!"evidence file SHA-256 does not match: {entry.path}"

def verifyEvidenceBundle (manifest : Bytes) (root : EvidenceRoot) (expected : Mapping) :
    Except String Mapping := do
  let payload ← loadBundle codec manifest
  let producer ← verifyIdentity payload
  let conclusion ← asOneOf bundleConclusions "evidence bundle conclusion is malformed"
    (payload.get "conclusion")
  let result ← asOneOf results "evidence bundle result is malformed" (payload.get "result")
  let _ ← requiredText (payload.get "artifact_name") "artifact_name"
  let _ ← validateRelativePath (payload.get "evidence_path") "evidence_path"
  let manifestPath ← validateRelativePath (payload.get "evidence_manifest_path")
    "evidence_manifest_path"
  let present ← asBool "evidence_present must be boolean" (payload.get "evidence_present")
  let files ← asArray "evidence_files must be an array" (payload.get "evidence_files")
  require (payload.get "evidence_file_count" = .int files.length)
    "evidence_file_count does not match indexed files"
  let total ← asCount "evidence_total_bytes is malformed" (payload.get "evidence_total_bytes")
  let indexed ← gather readIndexed 0 [] files
  require (present = decide (indexed ≠ [])) "evidence_present does not match indexed files"
  require (total = (indexed.map IndexEntry.size).sum)
    "evidence_total_bytes does not match indexed files"
  require (result = "passed" → conclusion = "success" ∧ indexed ≠ [] ∧ total ≠ 0)
    "passed evidence requires successful indexed files"
  let index ← serializeJson codec (.arr files)
  require (payload.get "evidence_index_sha256" = .str (sha256Hex digest index))
    "evidence index SHA-256 does not match the manifest"
  let actual ← actualFiles manifestPath root
  require (indexed.map IndexEntry.path ⊆ actual.map Prod.fst ∧
    actual.map Prod.fst ⊆ indexed.map IndexEntry.path)
    "evidence bundle has missing or unindexed files"
  indexed.forM (checkFile digest actual)
  expected.forM (checkExpected (locations payload producer))
  return payload

end

end OptimizrActions.Evidence
