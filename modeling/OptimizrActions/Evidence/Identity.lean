import OptimizrActions.Evidence.Fields
import OptimizrActions.Lib.Dict
import OptimizrActions.Lib.Gather
import OptimizrActions.Lib.JsonText

/-! The identity of an evidence record, and what a verification expects of it. -/

namespace OptimizrActions.Evidence

abbrev Bytes := List UInt8

/-- The validated identity. -/
structure Identity where
  repository : String
  runId : String
  runAttempt : String
  producerRepository : String
  producerRef : String
  producerSha : String
  producerFile : String
  sourceSha : String
  artifactName : String
  deriving DecidableEq, Repr

def Identity.producer (id : Identity) : Mapping :=
  [("repository", .str id.producerRepository), ("ref", .str id.producerRef),
    ("sha", .str id.producerSha), ("file", .str id.producerFile)]

def asObject (message : String) : Json → Except String Mapping
  | .obj fields => .ok fields
  | _ => .error message

def asArray (message : String) : Json → Except String (List Json)
  | .arr items => .ok items
  | _ => .error message

def asBool (message : String) : Json → Except String Bool
  | .bool b => .ok b
  | _ => .error message

/-- A value of the enumeration. -/
def asOneOf (values : List String) (message : String) : Json → Except String String
  | .str s => do
    require (s ∈ values) message
    return s
  | _ => .error message

def asCount (message : String) : Json → Except String Nat
  | .int (.ofNat n) => .ok n
  | _ => .error message

def asSha256 (message : String) : Json → Except String String
  | .str s => do
    require (isSha256 s = true) message
    return s
  | _ => .error message

section

variable (digest : Bytes → Fin 32 → UInt8) (codec : JsonCodec)

def sha256Hex (data : Bytes) : String := hexdigest (digest data)

/-- `serialize_json` -/
def serializeJson (value : Json) : Except String Bytes :=
  match codec.dumps value with
  | some content => .ok content
  | none => .error "value is not JSON serializable"

/-- The decoding of a manifest and the check of its keys. -/
def loadManifest (label : String) (required : List String) (manifest : Bytes) :
    Except String Mapping :=
  match codec.loads manifest with
  | none => .error s!"{label} must be valid JSON"
  | some (.obj payload) => do
    require ((Mapping.get payload "schema_version").eqOne = true)
      s!"{label} has an unsupported schema"
    require (∀ key ∈ required, key ∈ payload.map Prod.fst)
      s!"{label} is missing required fields"
    return payload
  | some _ => .error s!"{label} has an unsupported schema"

end

/-- The checks of the identity fields, up to the source SHA; the producer is returned. -/
def verifyIdentity (payload : Mapping) : Except String Mapping := do
  let _ ← validateRepository (payload.get "repository") "repository"
  let _ ← validateRunNumber (payload.get "run_id") "run_id"
  let _ ← validateRunNumber (payload.get "run_attempt") "run_attempt"
  let producer ← asObject "producer must be an object" (payload.get "producer")
  let _ ← validateRepository (producer.get "repository") "producer.repository"
  let _ ← requiredText (producer.get "ref") "producer.ref"
  let _ ← validateSha (producer.get "sha") "producer.sha"
  let _ ← validateRelativePath (producer.get "file") "producer.file"
  let _ ← validateSha (payload.get "source_sha") "source_sha"
  return producer

def locations (payload producer : Mapping) : Mapping :=
  [("repository", payload.get "repository"), ("run_id", payload.get "run_id"),
    ("run_attempt", payload.get "run_attempt"), ("source_sha", payload.get "source_sha"),
    ("producer_repository", producer.get "repository"), ("producer_ref", producer.get "ref"),
    ("producer_sha", producer.get "sha"), ("producer_file", producer.get "file"),
    ("artifact_name", payload.get "artifact_name")]

def checkExpected (locations : Mapping) (entry : String × Json) : Except String Unit := do
  require (entry.1 ∈ locations.map Prod.fst) s!"unsupported expected identity field: {entry.1}"
  require (entry.2.eq (locations.get entry.1) = true)
    s!"evidence {entry.1} does not match expected identity"

theorem asOneOf_eq_ok {values : List String} {message s : String} {value : Json} :
    asOneOf values message value = .ok s ↔ value = .str s ∧ s ∈ values := by
  cases value with
  | str text =>
    simp only [asOneOf, bind_eq_ok, require_eq_ok, pure_eq_ok, exists_const, Json.str.injEq]
    constructor
    · rintro ⟨mem, same⟩
      exact ⟨same, same ▸ mem⟩
    · rintro ⟨same, mem⟩
      exact ⟨same ▸ mem, same⟩
  | _ => simp [asOneOf]

section

variable {codec : JsonCodec}

theorem serializeJson_eq_ok {value : Json} {content : Bytes} :
    serializeJson codec value = .ok content ↔ codec.dumps value = some content := by
  unfold serializeJson
  cases codec.dumps value <;> simp

theorem loadManifest_eq_ok {label : String} {required : List String} {manifest : Bytes}
    {payload : Mapping} (parsed : codec.loads manifest = some (.obj payload))
    (version : payload.get "schema_version" = .int 1)
    (keys : ∀ key ∈ required, key ∈ payload.map Prod.fst) :
    loadManifest codec label required manifest = .ok payload := by
  simp only [loadManifest, parsed, bind_eq_ok, require_eq_ok, pure_eq_ok, exists_const]
  exact ⟨by rw [version]; rfl, keys, trivial⟩

end

/-- The fields of a record's identity as its checks leave them. -/
structure Identity.Valid (id : Identity) : Prop where
  repository : IsRequiredText id.repository ∧ isRepository id.repository = true
  runId : IsRequiredText id.runId ∧ isRunNumber id.runId = true
  runAttempt : IsRequiredText id.runAttempt ∧ isRunNumber id.runAttempt = true
  producerRepository :
    IsRequiredText id.producerRepository ∧ isRepository id.producerRepository = true
  producerRef : IsRequiredText id.producerRef
  producerSha : IsRequiredText id.producerSha ∧ isSha id.producerSha = true
  sourceSha : IsRequiredText id.sourceSha ∧ isSha id.sourceSha = true
  artifactName : IsRequiredText id.artifactName

/-- A loaded manifest has the entries of this identity. -/
structure LoadsIdentity (loaded producer : Mapping) (id : Identity) : Prop where
  repository : loaded.get "repository" = .str id.repository
  runId : loaded.get "run_id" = .str id.runId
  runAttempt : loaded.get "run_attempt" = .str id.runAttempt
  producerObject : loaded.get "producer" = .obj producer
  producerRepository : producer.get "repository" = .str id.producerRepository
  producerRef : producer.get "ref" = .str id.producerRef
  producerSha : producer.get "sha" = .str id.producerSha
  producerFile : producer.get "file" = .str id.producerFile
  sourceSha : loaded.get "source_sha" = .str id.sourceSha
  artifactName : loaded.get "artifact_name" = .str id.artifactName

/-- Of a valid identity only the recorded path can still be refused. -/
theorem LoadsIdentity.verify_eq_ok {loaded producer found : Mapping} {id : Identity}
    (loads : LoadsIdentity loaded producer id) (valid : id.Valid) :
    verifyIdentity loaded = .ok found ↔ (IsRequiredText id.producerFile ∧
      isSafePath id.producerFile = true) ∧ producer = found := by
  have repository : validateRepository (loaded.get "repository") "repository" = .ok _ :=
    validateRepository_eq_ok.mpr ⟨loads.repository, valid.repository⟩
  have runId : validateRunNumber (loaded.get "run_id") "run_id" = .ok _ :=
    loads.runId ▸ validateRunNumber_eq_ok.mpr ⟨rfl, valid.runId⟩
  have runAttempt : validateRunNumber (loaded.get "run_attempt") "run_attempt" = .ok _ :=
    loads.runAttempt ▸ validateRunNumber_eq_ok.mpr ⟨rfl, valid.runAttempt⟩
  have producerObject : asObject "producer must be an object" (loaded.get "producer") =
      .ok producer := loads.producerObject ▸ rfl
  have producerRepository :
      validateRepository (producer.get "repository") "producer.repository" = .ok _ :=
    validateRepository_eq_ok.mpr ⟨loads.producerRepository, valid.producerRepository⟩
  have ref : requiredText (producer.get "ref") "producer.ref" = .ok _ :=
    requiredText_eq_ok.mpr ⟨loads.producerRef, valid.producerRef⟩
  have producerSha : validateSha (producer.get "sha") "producer.sha" = .ok _ :=
    validateSha_eq_ok.mpr ⟨loads.producerSha, valid.producerSha⟩
  have sourceSha : validateSha (loaded.get "source_sha") "source_sha" = .ok _ :=
    validateSha_eq_ok.mpr ⟨loads.sourceSha, valid.sourceSha⟩
  simp only [verifyIdentity, ok_bind, repository, runId, runAttempt, producerObject,
    producerRepository, ref, producerSha, sourceSha]
  simp only [bind_eq_ok, pure_eq_ok, validateRelativePath_eq_ok, loads.producerFile,
    Json.str.injEq]
  constructor
  · rintro ⟨_, ⟨_, rfl, text, safe, -⟩, rfl⟩
    exact ⟨⟨text, safe⟩, rfl⟩
  · rintro ⟨⟨text, safe⟩, rfl⟩
    exact ⟨_, ⟨_, rfl, text, safe, rfl⟩, rfl⟩

/-- The identity fields that a verification can be asked to expect. -/
def Identity.locations (id : Identity) : List (String × String) :=
  [("repository", id.repository), ("run_id", id.runId), ("run_attempt", id.runAttempt),
    ("source_sha", id.sourceSha), ("producer_repository", id.producerRepository),
    ("producer_ref", id.producerRef), ("producer_sha", id.producerSha),
    ("producer_file", id.producerFile), ("artifact_name", id.artifactName)]

theorem Identity.locations_nodup (id : Identity) : (id.locations.map Prod.fst).Nodup := by
  change ["repository", "run_id", "run_attempt", "source_sha", "producer_repository",
    "producer_ref", "producer_sha", "producer_file", "artifact_name"].Nodup
  decide

/-- Every expected value is that of one of the fields. -/
def Meets (fields : List (String × String)) (expected : Mapping) : Prop :=
  ∀ entry ∈ expected, ∃ value, (entry.1, value) ∈ fields ∧ entry.2 = .str value

theorem eq_str_iff {v : Json} {s : String} : v.eq (.str s) = true ↔ v = .str s := by
  cases v <;> simp [Json.eq, Json.eqScalar, Json.eqScalar.number?]

def textFields (fields : List (String × String)) : Mapping :=
  fields.map fun field => (field.1, .str field.2)

theorem checkExpected_eq_ok {fields : List (String × String)} (nodup : (fields.map Prod.fst).Nodup)
    {entry : String × Json} : checkExpected (textFields fields) entry = .ok ⟨⟩ ↔
      ∃ value, (entry.1, value) ∈ fields ∧ entry.2 = .str value := by
  have keys : (textFields fields).map Prod.fst = fields.map Prod.fst := by
    rw [textFields, List.map_map]
    rfl
  have get {key value : String} (mem : (key, value) ∈ fields) :
      Mapping.get (textFields fields) key = .str value := by
    have inside : (key, Json.str value) ∈ textFields fields := List.mem_map.mpr ⟨_, mem, rfl⟩
    rw [Mapping.get, (Dict.lookup_eq_some_iff_mem (keys ▸ nodup)).mpr inside]
    rfl
  simp only [checkExpected, bind_eq_ok, require_eq_ok, keys, exists_const]
  constructor
  · rintro ⟨known, same⟩
    obtain ⟨⟨_, value⟩, mem, rfl⟩ := List.mem_map.mp known
    rw [get mem] at same
    exact ⟨value, mem, eq_str_iff.mp same⟩
  · rintro ⟨value, mem, same⟩
    refine ⟨List.mem_map.mpr ⟨_, mem, rfl⟩, ?_⟩
    rw [get mem]
    exact eq_str_iff.mpr same

theorem expected_eq_ok {fields : List (String × String)} (nodup : (fields.map Prod.fst).Nodup)
    {expected : Mapping} :
    expected.forM (checkExpected (textFields fields)) = .ok ⟨⟩ ↔ Meets fields expected := by
  rw [forM_eq_ok_iff]
  exact forall₂_congr fun _ _ => checkExpected_eq_ok nodup

theorem LoadsIdentity.locations_eq {loaded producer : Mapping} {id : Identity}
    (loads : LoadsIdentity loaded producer id) :
    locations loaded producer = textFields id.locations := by
  simp only [textFields, locations, loads.repository, loads.runId, loads.runAttempt,
    loads.sourceSha, loads.producerRepository, loads.producerRef, loads.producerSha,
    loads.producerFile, loads.artifactName, Identity.locations, List.map_cons, List.map_nil]

end OptimizrActions.Evidence
