import OptimizrActions.Lib.Check
import OptimizrActions.Lib.Json
import OptimizrActions.Lib.KeyValue
import OptimizrActions.Lib.Pattern
import Mathlib.Data.List.Sort
import Mathlib.Data.String.Basic

/-! The request that all delivery adapters submit. -/

namespace OptimizrActions.Delivery

def adapters : List String := ["github-actions", "gitlab-ci", "ansible", "manual"]

def requestKeys : List String :=
  ["adapter", "candidate_sha", "compose_file", "container_name", "reason", "repository", "service",
    "trusted_ref"]

/-- `[A-Za-z0-9._-]` -/
def isNameChar (c : Char) : Bool := c.isAlphanum || c = '.' || c = '_' || c = '-'

def isIdentifier (s : String) : Bool := Text.isBounded Char.isAlphanum isNameChar 63 s

def isSha (s : String) : Bool := s.toList.length = 40 && s.toList.all Text.isLowerHex

def secretAssignment : Pattern :=
  .inOrder [
    .anyOf [.word "password", .word "secret", .word "token",
      .inOrder [.word "api", .optional (.oneOf "_-"), .word "key"],
      .inOrder [.word "private", .optional (.oneOf "_-"), .word "key"], .word "authorization"],
    .spaces, .oneOf ":="]

structure DeployRequest where
  repository : String
  service : String
  candidateSha : String
  trustedRef : String
  composeFile : String
  containerName : String
  adapter : String
  reason : Option String := none
  deriving DecidableEq, Repr

def trimmedText (key : String) : Json → Except String String
  | .str s => do
    require (s ≠ "" ∧ s = Text.strip s) s!"{key} must be a non-empty trimmed string"
    return s
  | _ => .error s!"{key} must be a non-empty trimmed string"

/-- `_text` -/
def requestText (payload : Mapping) (key : String) (maximum : Nat) : Except String String := do
  let value ← trimmedText key (payload.get key)
  require (value.length ≤ maximum ∧ value.toList.all fun c => !Text.isSpace c)
    s!"{key} must be bounded and must not contain whitespace"
  return value

def identifier (value field : String) : Except String String := do
  require (isIdentifier value) s!"{field} must be a bounded identifier"
  return value

def isTrustedRef (value : String) : Bool :=
  let cs := value.toList
  ("refs/heads/".toList.isPrefixOf cs || "refs/tags/".toList.isPrefixOf cs) &&
    decide (2 ≤ cs.count '/') && !Text.occursIn "..".toList cs && !Text.occursIn "//".toList cs &&
    !cs.contains '\\' && !cs.any Text.isSpace

def trustedRef (value : String) : Except String String := do
  require (isTrustedRef value) "trusted_ref must be a trusted heads or tags ref"
  return value

def isComposeFile (value : String) : Bool :=
  let cs := value.toList
  let lowered := (Text.lower value).toList
  !("/".toList.isPrefixOf cs || "\\".toList.isPrefixOf cs) && !cs.contains '\\' &&
    (KeyValue.splitOn '/' cs).all (fun part => part ≠ [] && part ≠ ['.'] && part ≠ ['.', '.']) &&
    (".yml".toList.isSuffixOf lowered || ".yaml".toList.isSuffixOf lowered)

def composeFile (value : String) : Except String String := do
  require (isComposeFile value) "compose_file must be a relative POSIX YAML path"
  return value

def repositoryName (value : String) : Except String String := do
  let (owner, name) := KeyValue.cut '/' value.toList
  require ('/' ∈ value.toList ∧ '/' ∉ name) "repository must be an owner/name identifier"
  let _ ← identifier (String.ofList owner) "repository owner"
  let _ ← identifier (String.ofList name) "repository name"
  return value

def reason? : Json → Except String (Option String)
  | .null => .ok none
  | .str reason => do
    require (reason ≠ "" ∧ reason.length ≤ 256) "reason must be a bounded string"
    require (reason = Text.strip reason ∧ '\r' ∉ reason.toList ∧ '\n' ∉ reason.toList)
      "reason must not contain leading, trailing, or newline characters"
    require (secretAssignment.search reason = false)
      "reason must not contain secret-like assignments"
    return some reason
  | _ => .error "reason must be a bounded string"

def unknownKeys (payload : Mapping) : List String :=
  ((payload.map Prod.fst).filter (· ∉ requestKeys)).dedup.insertionSort (· ≤ ·)

def parseRequest (payload : Mapping) : Except String DeployRequest := do
  require (unknownKeys payload = [])
    ("request contains unknown fields: " ++ ", ".intercalate (unknownKeys payload))
  let repository ← requestText payload "repository" 129
  let repository ← repositoryName repository
  let service ← requestText payload "service" 256
  let service ← identifier service "service"
  let candidateSha ← requestText payload "candidate_sha" 256
  require (isSha candidateSha) "candidate_sha must be a lowercase 40-character commit SHA"
  let ref ← requestText payload "trusted_ref" 256
  let ref ← trustedRef ref
  let file ← requestText payload "compose_file" 256
  let file ← composeFile file
  let containerName ← requestText payload "container_name" 256
  let containerName ← identifier containerName "container_name"
  let adapter ← requestText payload "adapter" 256
  require (adapter ∈ adapters) "adapter must identify a protected delivery adapter"
  let reason ← reason? (payload.get "reason")
  return {
    repository := repository
    service := service
    candidateSha := candidateSha
    trustedRef := ref
    composeFile := file
    containerName := containerName
    adapter := adapter
    reason := reason }

/-- The dictionary in the order of its construction. -/
def canonicalizeRequest (request : DeployRequest) : List (String × String) :=
  [("adapter", request.adapter), ("candidate_sha", request.candidateSha),
    ("compose_file", request.composeFile), ("container_name", request.containerName),
    ("repository", request.repository), ("service", request.service),
    ("trusted_ref", request.trustedRef)] ++
    (request.reason.map fun reason => ("reason", reason)).toList

structure IsRequestText (maximum : Nat) (s : String) : Prop where
  nonempty : s ≠ ""
  trimmed : s = Text.strip s
  short : s.length ≤ maximum
  unspaced : (s.toList.all fun c => !Text.isSpace c) = true

theorem requestText_eq_ok {payload : Mapping} {key s : String} {maximum : Nat} :
    requestText payload key maximum = .ok s ↔
      payload.get key = .str s ∧ IsRequestText maximum s := by
  unfold requestText
  cases payload.get key with
  | str value =>
    simp only [trimmedText, bind_eq_ok, require_eq_ok, pure_eq_ok, Json.str.injEq]
    constructor
    · rintro ⟨_, ⟨_, ⟨nonempty, trimmed⟩, rfl⟩, _, ⟨short, unspaced⟩, rfl⟩
      exact ⟨rfl, nonempty, trimmed, short, unspaced⟩
    · rintro ⟨rfl, ok⟩
      exact ⟨value, ⟨⟨⟩, ⟨ok.nonempty, ok.trimmed⟩, rfl⟩, ⟨⟩, ⟨ok.short, ok.unspaced⟩, rfl⟩
  | _ => simp [trimmedText]

theorem identifier_eq_ok {value field s : String} :
    identifier value field = .ok s ↔ isIdentifier value = true ∧ value = s := by
  simp only [identifier, bind_eq_ok, require_eq_ok, pure_eq_ok, exists_const]

theorem trustedRef_eq_ok {value s : String} :
    trustedRef value = .ok s ↔ isTrustedRef value = true ∧ value = s := by
  simp only [trustedRef, bind_eq_ok, require_eq_ok, pure_eq_ok, exists_const]

theorem composeFile_eq_ok {value s : String} :
    composeFile value = .ok s ↔ isComposeFile value = true ∧ value = s := by
  simp only [composeFile, bind_eq_ok, require_eq_ok, pure_eq_ok, exists_const]

/-- `owner/name` -/
def IsRepository (value : String) : Prop :=
  ∃ owner name, KeyValue.cut '/' value.toList = (owner, name) ∧
    ('/' ∈ value.toList ∧ '/' ∉ name) ∧ isIdentifier (String.ofList owner) = true ∧
    isIdentifier (String.ofList name) = true

theorem repositoryName_eq_ok {value s : String} :
    repositoryName value = .ok s ↔ IsRepository value ∧ value = s := by
  unfold repositoryName IsRepository
  cases KeyValue.cut '/' value.toList with
  | mk owner name =>
    simp only [bind_eq_ok, require_eq_ok, identifier_eq_ok, pure_eq_ok, Prod.mk.injEq]
    constructor
    · rintro ⟨_, slash, _, ⟨first, _⟩, _, ⟨second, _⟩, rfl⟩
      exact ⟨⟨owner, name, ⟨rfl, rfl⟩, slash, first, second⟩, rfl⟩
    · rintro ⟨⟨_, _, ⟨rfl, rfl⟩, slash, first, second⟩, rfl⟩
      exact ⟨⟨⟩, slash, _, ⟨first, rfl⟩, _, ⟨second, rfl⟩, rfl⟩

/-- What the request's own fields satisfy, its reason apart. -/
structure DeployRequest.Valid (r : DeployRequest) : Prop where
  repository : IsRequestText 129 r.repository ∧ IsRepository r.repository
  service : IsRequestText 256 r.service ∧ isIdentifier r.service = true
  candidateSha : IsRequestText 256 r.candidateSha ∧ isSha r.candidateSha = true
  trustedRef : IsRequestText 256 r.trustedRef ∧ isTrustedRef r.trustedRef = true
  composeFile : IsRequestText 256 r.composeFile ∧ isComposeFile r.composeFile = true
  containerName : IsRequestText 256 r.containerName ∧ isIdentifier r.containerName = true
  adapter : IsRequestText 256 r.adapter ∧ r.adapter ∈ adapters

/-- The payload holds the request's fields, its reason apart. -/
structure DeployRequest.HeldBy (r : DeployRequest) (payload : Mapping) : Prop where
  repository : payload.get "repository" = .str r.repository
  service : payload.get "service" = .str r.service
  candidateSha : payload.get "candidate_sha" = .str r.candidateSha
  trustedRef : payload.get "trusted_ref" = .str r.trustedRef
  composeFile : payload.get "compose_file" = .str r.composeFile
  containerName : payload.get "container_name" = .str r.containerName
  adapter : payload.get "adapter" = .str r.adapter

theorem parseRequest_eq_ok {payload : Mapping} {r : DeployRequest} :
    parseRequest payload = .ok r ↔ unknownKeys payload = [] ∧ r.Valid ∧ r.HeldBy payload ∧
      reason? (payload.get "reason") = .ok r.reason := by
  unfold parseRequest
  simp only [bind_eq_ok, require_eq_ok, pure_eq_ok, requestText_eq_ok, repositoryName_eq_ok,
    identifier_eq_ok, trustedRef_eq_ok, composeFile_eq_ok]
  constructor
  · rintro ⟨_, known, _, ⟨repository, repositoryText⟩, _, ⟨isRepository, rfl⟩,
      _, ⟨service, serviceText⟩, _, ⟨isService, rfl⟩, _, ⟨sha, shaText⟩, _, isSha,
      _, ⟨ref, refText⟩, _, ⟨isRef, rfl⟩, _, ⟨file, fileText⟩, _, ⟨isFile, rfl⟩,
      _, ⟨container, containerText⟩, _, ⟨isContainer, rfl⟩, _, ⟨adapter, adapterText⟩, _, isAdapter,
      _, reason, rfl⟩
    exact ⟨known, ⟨⟨repositoryText, isRepository⟩, ⟨serviceText, isService⟩, ⟨shaText, isSha⟩,
      ⟨refText, isRef⟩, ⟨fileText, isFile⟩, ⟨containerText, isContainer⟩, ⟨adapterText, isAdapter⟩⟩,
      ⟨repository, service, sha, ref, file, container, adapter⟩, reason⟩
  · rintro ⟨known, valid, held, reason⟩
    exact ⟨⟨⟩, known, _, ⟨held.repository, valid.repository.1⟩, _, ⟨valid.repository.2, rfl⟩,
      _, ⟨held.service, valid.service.1⟩, _, ⟨valid.service.2, rfl⟩,
      _, ⟨held.candidateSha, valid.candidateSha.1⟩, ⟨⟩, valid.candidateSha.2,
      _, ⟨held.trustedRef, valid.trustedRef.1⟩, _, ⟨valid.trustedRef.2, rfl⟩,
      _, ⟨held.composeFile, valid.composeFile.1⟩, _, ⟨valid.composeFile.2, rfl⟩,
      _, ⟨held.containerName, valid.containerName.1⟩, _, ⟨valid.containerName.2, rfl⟩,
      _, ⟨held.adapter, valid.adapter.1⟩, ⟨⟩, valid.adapter.2, _, reason, rfl⟩

end OptimizrActions.Delivery
