import OptimizrActions.Evidence.Faithful

/-! The record of one raw evidence file: its creation and its verification. -/

namespace OptimizrActions.Evidence

structure RecordArgs where
  repository : Json
  runId : Json
  runAttempt : Json
  producerRepository : Json
  producerRef : Json
  producerSha : Json
  producerFile : Json
  sourceSha : Json
  conclusion : Json
  result : Json
  artifactName : Json
  evidencePath : Json
  evidence : Option Bytes
  details : Mapping

structure ProducerRecord where
  id : Identity
  conclusion : String
  result : String
  evidencePath : String
  sha256 : Option String
  details : Mapping

def ProducerRecord.toMapping (record : ProducerRecord) : Mapping :=
  [("schema_version", .int 1), ("repository", .str record.id.repository),
    ("run_id", .str record.id.runId), ("run_attempt", .str record.id.runAttempt),
    ("producer", .obj record.id.producer), ("source_sha", .str record.id.sourceSha),
    ("conclusion", .str record.conclusion), ("result", .str record.result),
    ("artifact_name", .str record.id.artifactName), ("evidence_path", .str record.evidencePath),
    ("evidence_present", .bool record.sha256.isSome),
    ("evidence_sha256", record.sha256.elim .null .str), ("details", .obj record.details)]

section

variable (digest : Bytes → Fin 32 → UInt8) (codec : JsonCodec)

def createEvidenceRecord (args : RecordArgs) : Except String ProducerRecord := do
  let repository ← validateRepository args.repository "repository"
  let runId ← validateRunNumber args.runId "run_id"
  let runAttempt ← validateRunNumber args.runAttempt "run_attempt"
  let producerRepository ← validateRepository args.producerRepository "producer_repository"
  let producerRef ← requiredText args.producerRef "producer_ref"
  let producerSha ← validateSha args.producerSha "producer_sha"
  let producerFile ← validateRelativePath args.producerFile "producer_file"
  let sourceSha ← validateSha args.sourceSha "source_sha"
  let conclusion ← asOneOf conclusions
    "conclusion must be success, failure, cancelled, or skipped" args.conclusion
  let result ← asOneOf results "result must be passed or failed" args.result
  let artifactName ← requiredText args.artifactName "artifact_name"
  let evidencePath ← validateRelativePath args.evidencePath "evidence_path"
  require (result = "passed" → conclusion = "success" ∧ args.evidence ≠ none ∧
    args.evidence ≠ some [])
    "passed evidence requires a successful conclusion and non-empty evidence contents"
  return ⟨⟨repository, runId, runAttempt, producerRepository, producerRef, producerSha, producerFile,
    sourceSha, artifactName⟩, conclusion, result, evidencePath,
    args.evidence.map (sha256Hex digest), args.details⟩

def requiredRecordKeys : List String :=
  ["repository", "run_id", "run_attempt", "producer", "source_sha", "conclusion", "result",
    "artifact_name", "evidence_path", "evidence_present", "evidence_sha256"]

def loadRecord : Bytes → Except String Mapping :=
  loadManifest codec "evidence manifest" requiredRecordKeys

def checkContents (present : Bool) (declared : Json) : Option Bytes → Except String Unit
  | some content =>
    if present then do
      let sha256 ← asSha256 "evidence SHA-256 is malformed" declared
      require (sha256Hex digest content = sha256)
        "evidence SHA-256 does not match downloaded contents"
    else missing
  | none => missing
where
  missing : Except String Unit := do
    require (declared = .null) "missing evidence must not declare a SHA-256"
    .error "evidence contents are missing"

def recordLocations (payload producer : Mapping) : Mapping :=
  locations payload producer ++ [("evidence_path", payload.get "evidence_path"),
    ("conclusion", payload.get "conclusion"), ("result", payload.get "result")]

def verifyEvidenceRecord (manifest : Bytes) (evidence : Option Bytes) (expected : Mapping) :
    Except String Mapping := do
  let payload ← loadRecord codec manifest
  let producer ← verifyIdentity payload
  let conclusion ← asOneOf conclusions "evidence conclusion or result is malformed"
    (payload.get "conclusion")
  let result ← asOneOf results "evidence conclusion or result is malformed" (payload.get "result")
  let _ ← requiredText (payload.get "artifact_name") "artifact_name"
  let _ ← validateRelativePath (payload.get "evidence_path") "evidence_path"
  let present ← asBool "evidence_present must be boolean" (payload.get "evidence_present")
  require (result = "passed" → conclusion = "success" ∧ evidence ≠ some [])
    "passed evidence requires a successful conclusion and non-empty contents"
  checkContents digest present (payload.get "evidence_sha256") evidence
  expected.forM (checkExpected (recordLocations payload producer))
  return payload

end

/-- The expected identity with the values given at creation. -/
def RecordArgs.given (args : RecordArgs) : Mapping :=
  [("repository", args.repository), ("run_id", args.runId), ("run_attempt", args.runAttempt),
    ("source_sha", args.sourceSha), ("producer_repository", args.producerRepository),
    ("producer_ref", args.producerRef), ("producer_sha", args.producerSha),
    ("producer_file", args.producerFile), ("artifact_name", args.artifactName),
    ("evidence_path", args.evidencePath), ("conclusion", args.conclusion),
    ("result", args.result)]

section

variable (digest : Bytes → Fin 32 → UInt8) (codec : JsonCodec) (args : RecordArgs)
  (content manifest : Bytes)

/-- The record passes with its bytes and the identity it was created with, and not with other
bytes or another identity. -/
structure RecordFaithful : Prop where
  accepts : ∀ expected ⊆ args.given, ∃ payload,
    verifyEvidenceRecord digest codec manifest (some content) expected = .ok payload
  bytes : ∀ evidence expected payload,
    (∀ other, evidence = some other → digest other = digest content → other = content) →
    verifyEvidenceRecord digest codec manifest evidence expected = .ok payload →
    evidence = some content
  identity : ∀ evidence expected payload,
    verifyEvidenceRecord digest codec manifest evidence expected = .ok payload →
    expected ⊆ args.given

end

/-- The values are given in the form in which they are recorded. -/
structure RecordArgs.InRecordedForm (args : RecordArgs) : Prop where
  runId : ∃ text, args.runId = .str text
  runAttempt : ∃ text, args.runAttempt = .str text
  producerFile : ∃ path, args.producerFile = .str path ∧ Normalised path
  evidencePath : ∃ path, args.evidencePath = .str path ∧ Normalised path

section Recorded

variable {digest : Bytes → Fin 32 → UInt8} {codec : JsonCodec} {args : RecordArgs}
  {record : ProducerRecord} {content manifest : Bytes}

/-- A given path and the form in which it is recorded. -/
def RecordsPath (given : Json) (recorded : String) : Prop :=
  ∃ path, given = .str path ∧ IsRequiredText path ∧ isSafePath path = true ∧
    recorded = posix (pathParts path)

/-- What holds of a record that was created. -/
structure Recorded (digest : Bytes → Fin 32 → UInt8) (args : RecordArgs)
    (record : ProducerRecord) : Prop where
  repository : args.repository = .str record.id.repository
  runId : args.runId = .str record.id.runId ∨ ∃ n, args.runId = .int n
  runAttempt : args.runAttempt = .str record.id.runAttempt ∨ ∃ n, args.runAttempt = .int n
  producerRepository : args.producerRepository = .str record.id.producerRepository
  producerRef : args.producerRef = .str record.id.producerRef
  producerSha : args.producerSha = .str record.id.producerSha
  producerFile : RecordsPath args.producerFile record.id.producerFile
  sourceSha : args.sourceSha = .str record.id.sourceSha
  artifactName : args.artifactName = .str record.id.artifactName
  evidencePath : RecordsPath args.evidencePath record.evidencePath
  conclusion : args.conclusion = .str record.conclusion ∧ record.conclusion ∈ conclusions
  result : args.result = .str record.result ∧ record.result ∈ results
  valid : record.id.Valid
  passed : record.result = "passed" → record.conclusion = "success" ∧ args.evidence ≠ none ∧
    args.evidence ≠ some []
  sha256 : record.sha256 = args.evidence.map (sha256Hex digest)

theorem recorded_of_ok (h : createEvidenceRecord digest args = .ok record) :
    Recorded digest args record := by
  simp only [createEvidenceRecord, bind_eq_ok, require_eq_ok, pure_eq_ok, validateRepository_eq_ok,
    requiredText_eq_ok, validateSha_eq_ok, validateRelativePath_eq_ok, asOneOf_eq_ok] at h
  obtain ⟨_, ⟨repository, repository'⟩, _, runId, _, runAttempt, _, ⟨producer, producer'⟩,
    _, ⟨ref, ref'⟩, _, ⟨producerSha, producerSha'⟩, _, producerFile, _, ⟨sourceSha, sourceSha'⟩,
    _, conclusion, _, result, _, ⟨artifactName, artifactName'⟩, _, evidencePath, _, passed,
    rfl⟩ := h
  obtain ⟨runId, runId'⟩ := validateRunNumber_ok runId
  obtain ⟨runAttempt, runAttempt'⟩ := validateRunNumber_ok runAttempt
  exact ⟨repository, runId, runAttempt, producer, ref, producerSha, producerFile, sourceSha,
    artifactName, evidencePath, conclusion, result,
    ⟨repository', runId', runAttempt', producer', ref', producerSha', sourceSha', artifactName'⟩,
    passed, rfl⟩

def ProducerRecord.locations (record : ProducerRecord) : List (String × String) :=
  record.id.locations ++ [("evidence_path", record.evidencePath),
    ("conclusion", record.conclusion), ("result", record.result)]

theorem ProducerRecord.locations_nodup (record : ProducerRecord) :
    (record.locations.map Prod.fst).Nodup := by
  change ["repository", "run_id", "run_attempt", "source_sha", "producer_repository",
    "producer_ref", "producer_sha", "producer_file", "artifact_name", "evidence_path",
    "conclusion", "result"].Nodup
  decide

theorem meets_iff_subset {fields : List (String × String)} {expected : Mapping} :
    Meets fields expected ↔ expected ⊆ textFields fields := by
  refine forall₂_congr fun entry _ => ?_
  simp only [textFields, List.mem_map]
  constructor
  · rintro ⟨value, mem, same⟩
    exact ⟨_, mem, Prod.ext rfl same.symm⟩
  · rintro ⟨field, mem, rfl⟩
    exact ⟨_, mem, rfl⟩

/-- A verification of a created record comes down to the recorded paths, the bytes and the
expected identity. -/
theorem verifyEvidenceRecord_created (sorts : codec.Sorts) (h : Recorded digest args record)
    (dumped : codec.dumps (.obj record.toMapping) = some manifest)
    (present : args.evidence = some content) {evidence : Option Bytes} {expected : Mapping} :
    (∃ payload, verifyEvidenceRecord digest codec manifest evidence expected = .ok payload) ↔
      (IsRequiredText record.id.producerFile ∧ isSafePath record.id.producerFile = true) ∧
        (IsRequiredText record.evidencePath ∧ isSafePath record.evidencePath = true) ∧
        (∃ other, evidence = some other ∧ (record.result = "passed" → other ≠ []) ∧
          sha256Hex digest other = sha256Hex digest content) ∧
        expected ⊆ textFields record.locations := by
  have keys : (record.toMapping.map Prod.fst).Nodup := by
    change ["schema_version", "repository", "run_id", "run_attempt", "producer", "source_sha",
      "conclusion", "result", "artifact_name", "evidence_path", "evidence_present",
      "evidence_sha256", "details"].Nodup
    decide
  have producerKeys : (record.id.producer.map Prod.fst).Nodup := by
    change ["repository", "ref", "sha", "file"].Nodup
    decide
  obtain ⟨loaded, sorted, same, get⟩ := Json.sortKeys_obj keys
  obtain ⟨producer, sortedProducer, -, getProducer⟩ := Json.sortKeys_obj producerKeys
  have required : ∀ key ∈ requiredRecordKeys, key ∈ record.toMapping.map Prod.fst := by
    change ∀ key ∈ requiredRecordKeys, key ∈ ["schema_version", "repository", "run_id",
      "run_attempt", "producer", "source_sha", "conclusion", "result", "artifact_name",
      "evidence_path", "evidence_present", "evidence_sha256", "details"]
    decide
  have load : loadRecord codec manifest = .ok loaded :=
    loadManifest_eq_ok (sorted ▸ sorts _ _ dumped) (get _)
      fun key mem => (same key).mpr (required key mem)
  have loads : LoadsIdentity loaded producer record.id := {
    repository := get _, runId := get _, runAttempt := get _
    producerObject := (get _).trans sortedProducer
    producerRepository := getProducer _, producerRef := getProducer _
    producerSha := getProducer _, producerFile := getProducer _
    sourceSha := get _, artifactName := get _ }
  have getConclusion : loaded.get "conclusion" = .str record.conclusion := get _
  have getResult : loaded.get "result" = .str record.result := get _
  have getPath : loaded.get "evidence_path" = .str record.evidencePath := get _
  have sha : record.sha256 = some (sha256Hex digest content) := by
    rw [h.sha256, present, Option.map_some]
  have getSha : loaded.get "evidence_sha256" = .str (sha256Hex digest content) := by
    rw [get]
    change (record.sha256.elim Json.null Json.str).sortKeys = _
    rw [sha]
    rfl
  have conclusion : asOneOf conclusions "evidence conclusion or result is malformed"
      (loaded.get "conclusion") = .ok record.conclusion :=
    asOneOf_eq_ok.mpr ⟨getConclusion, h.conclusion.2⟩
  have result : asOneOf results "evidence conclusion or result is malformed"
      (loaded.get "result") = .ok record.result := asOneOf_eq_ok.mpr ⟨getResult, h.result.2⟩
  have artifactName : requiredText (loaded.get "artifact_name") "artifact_name" = .ok _ :=
    requiredText_eq_ok.mpr ⟨loads.artifactName, h.valid.artifactName⟩
  have isPresent : asBool "evidence_present must be boolean" (loaded.get "evidence_present") =
      .ok true := by
    rw [get]
    change asBool _ (Json.bool record.sha256.isSome).sortKeys = _
    rw [sha]
    rfl
  have declared : asSha256 "evidence SHA-256 is malformed" (.str (sha256Hex digest content)) =
      .ok (sha256Hex digest content) := by
    simp only [asSha256, bind_eq_ok, require_eq_ok, pure_eq_ok, exists_const, and_true]
    exact Text.hexText_hexdigest _
  have places : recordLocations loaded producer = textFields record.locations := by
    rw [recordLocations, loads.locations_eq, getPath, getConclusion, getResult,
      ProducerRecord.locations, textFields, textFields, List.map_append]
    rfl
  unfold verifyEvidenceRecord
  simp only [load, ok_bind, conclusion, result, artifactName, isPresent, getSha]
  simp only [bind_eq_ok, require_eq_ok, pure_eq_ok, loads.verify_eq_ok h.valid,
    validateRelativePath_eq_ok, getPath, Json.str.injEq]
  constructor
  · rintro ⟨_, _, ⟨path, rfl⟩, _, ⟨_, rfl, text, safe, -⟩, _, passed, _, contents, _, meets, rfl⟩
    rw [places, expected_eq_ok record.locations_nodup, meets_iff_subset] at meets
    refine ⟨path, ⟨text, safe⟩, ?_, meets⟩
    cases evidence with
    | none => simp [checkContents, checkContents.missing] at contents
    | some other =>
      simp only [checkContents, if_true, declared, ok_bind, require_eq_ok] at contents
      exact ⟨other, rfl, fun pass => by simpa using (passed pass).2, contents⟩
  · rintro ⟨path, ⟨text, safe⟩, ⟨other, rfl, nonempty, equal⟩, meets⟩
    rw [← meets_iff_subset, ← expected_eq_ok record.locations_nodup, ← places] at meets
    refine ⟨loaded, _, ⟨path, rfl⟩, _, ⟨_, rfl, text, safe, rfl⟩, ⟨⟩, fun pass => ?_, ⟨⟩, ?_, ⟨⟩,
      meets, rfl⟩
    · exact ⟨(h.passed pass).1, by simpa using nonempty pass⟩
    · simp only [checkContents, if_true, declared, ok_bind, require_eq_ok]
      exact equal

theorem RecordArgs.InRecordedForm.given_eq (form : args.InRecordedForm)
    (h : Recorded digest args record) : args.given = textFields record.locations := by
  have text {value : Json} {recorded : String}
      (known : value = .str recorded ∨ ∃ n, value = .int n) (isText : ∃ s, value = .str s) :
      value = .str recorded := by
    obtain ⟨s, rfl⟩ := isText
    rcases known with known | ⟨n, other⟩
    · exact known
    · cases other
  have path {value : Json} {recorded : String} (known : RecordsPath value recorded)
      (normal : ∃ path, value = .str path ∧ Normalised path) : value = .str recorded := by
    obtain ⟨path, rfl, same⟩ := normal
    obtain ⟨_, eq, -, -, rfl⟩ := known
    cases eq
    exact congrArg Json.str same.symm
  simp only [RecordArgs.given, h.repository, text h.runId form.runId,
    text h.runAttempt form.runAttempt, h.sourceSha, h.producerRepository, h.producerRef,
    h.producerSha, path h.producerFile form.producerFile, h.artifactName,
    path h.evidencePath form.evidencePath, h.conclusion.1, h.result.1]
  rfl

/-- A value that is accepted as expected is the recorded one. -/
theorem recorded_of_subset {key value : String} {given : Json}
    (field : (key, value) ∈ record.locations)
    (h : [(key, given)] ⊆ textFields record.locations) : given = .str value := by
  obtain ⟨found, mem, same⟩ := meets_iff_subset.mpr h _ List.mem_cons_self
  cases List.inj_on_of_nodup_map record.locations_nodup mem field rfl
  exact same

/-- A record is verified as it was created exactly if the values were given in the form in which
they are recorded. -/
theorem recordFaithful_iff (sorts : codec.Sorts)
    (created : createEvidenceRecord digest args = .ok record)
    (dumped : codec.dumps (.obj record.toMapping) = some manifest)
    (present : args.evidence = some content) :
    RecordFaithful digest codec args content manifest ↔ args.InRecordedForm := by
  have h := recorded_of_ok created
  constructor
  · intro faithful
    have accepted (key : String) {value : String} {given : Json} (mem : (key, given) ∈ args.given)
        (field : (key, value) ∈ record.locations) : given = .str value := by
      have passes := faithful.accepts [(key, given)] (by simpa using mem)
      exact recorded_of_subset field
        ((verifyEvidenceRecord_created sorts h dumped present).mp passes).2.2.2
    have path {value : Json} {recorded : String} (known : RecordsPath value recorded)
        (same : value = .str recorded) : ∃ path, value = .str path ∧ Normalised path := by
      obtain ⟨path, rfl, -, -, rfl⟩ := known
      exact ⟨path, rfl, (Json.str.inj same).symm⟩
    refine ⟨⟨record.id.runId, accepted "run_id" ?_ ?_⟩,
      ⟨record.id.runAttempt, accepted "run_attempt" ?_ ?_⟩,
      path h.producerFile (accepted "producer_file" ?_ ?_),
      path h.evidencePath (accepted "evidence_path" ?_ ?_)⟩ <;>
    simp [RecordArgs.given, ProducerRecord.locations, Identity.locations]
  · intro form
    have given := form.given_eq h
    have paths : (IsRequiredText record.id.producerFile ∧
        isSafePath record.id.producerFile = true) ∧
        (IsRequiredText record.evidencePath ∧ isSafePath record.evidencePath = true) := by
      obtain ⟨⟨_, file, fileText, fileSafe, sameFile⟩, ⟨_, evidence, text, safe, same⟩⟩ :=
        And.intro h.producerFile h.evidencePath
      obtain ⟨_, file', normalFile⟩ := form.producerFile
      obtain ⟨_, evidence', normal⟩ := form.evidencePath
      cases file.symm.trans file'
      cases evidence.symm.trans evidence'
      rw [sameFile, same, normalFile, normal]
      exact ⟨⟨fileText, fileSafe⟩, text, safe⟩
    refine ⟨fun expected meets => ?_, fun evidence expected payload free ok => ?_,
      fun evidence expected payload ok => ?_⟩
    · refine (verifyEvidenceRecord_created sorts h dumped present).mpr
        ⟨paths.1, paths.2, ⟨content, rfl, fun passed empty => ?_, rfl⟩, given ▸ meets⟩
      exact (h.passed passed).2.2 (present.trans (congrArg some empty))
    · obtain ⟨-, -, ⟨other, rfl, -, same⟩, -⟩ :=
        (verifyEvidenceRecord_created sorts h dumped present).mp ⟨payload, ok⟩
      rw [free other rfl (Text.hexdigest_injective same)]
    · rw [given]
      exact ((verifyEvidenceRecord_created sorts h dumped present).mp ⟨payload, ok⟩).2.2.2

end Recorded

section Sample

def sampleRecordArgs (producerFile : String) : RecordArgs where
  repository := .str "acme/shop"
  runId := .str "7"
  runAttempt := .str "1"
  producerRepository := .str "acme/ci"
  producerRef := .str "main"
  producerSha := .str sampleSha
  producerFile := .str producerFile
  sourceSha := .str sampleSha
  conclusion := .str "success"
  result := .str "passed"
  artifactName := .str "lint"
  evidencePath := .str "report.txt"
  evidence := some sampleReport
  details := []

def sampleProducerRecord : ProducerRecord where
  id := (sampleArgs "ci.yml").given
  conclusion := "success"
  result := "passed"
  evidencePath := "report.txt"
  sha256 := some "dc51b8c96c2d745df3bd5590d990230a482fd247123599548e0632fdbf97fc22"
  details := []

def sampleProducerManifest : Bytes := bytes <|
  "\x7b\n  \"artifact_name\": \"lint\",\n  \"conclusion\": \"success\",\n" ++
  "  \"details\": \x7b\x7d,\n  \"evidence_path\": \"report.txt\",\n" ++
  "  \"evidence_present\": true,\n  \"evidence_sha256\": " ++
  "\"dc51b8c96c2d745df3bd5590d990230a482fd247123599548e0632fdbf97fc22\",\n" ++
  "  \"producer\": \x7b\n    \"file\": \"ci.yml\",\n    \"ref\": \"main\",\n" ++
  "    \"repository\": \"acme/ci\",\n    \"sha\": \"" ++ sampleSha ++ "\"\n  \x7d,\n" ++
  "  \"repository\": \"acme/shop\",\n  \"result\": \"passed\",\n" ++
  "  \"run_attempt\": \"1\",\n  \"run_id\": \"7\",\n  \"schema_version\": 1,\n" ++
  "  \"source_sha\": \"" ++ sampleSha ++ "\"\n\x7d\n"

/-- The codec on the one record. -/
def sampleProducerCodec : JsonCodec where
  dumps v := if v = .obj sampleProducerRecord.toMapping then some sampleProducerManifest else none
  loads content := if content = sampleProducerManifest then
    some (Json.obj sampleProducerRecord.toMapping).sortKeys else none

theorem sampleProducerCodec_sorts : sampleProducerCodec.Sorts := by
  intro v content dumped
  simp only [sampleProducerCodec, Option.ite_none_right_eq_some] at dumped ⊢
  rw [← Option.some.inj dumped.2, dumped.1]
  exact ⟨rfl, rfl⟩

theorem sampleProducerCodec_dumps :
    sampleProducerCodec.dumps (.obj sampleProducerRecord.toMapping) =
      some sampleProducerManifest := by
  simp only [sampleProducerCodec, if_true]

theorem sampleRecord_created {producerFile : String}
    (path : validateRelativePath (.str producerFile) "producer_file" = .ok "ci.yml") :
    createEvidenceRecord sampleDigest (sampleRecordArgs producerFile) =
      .ok sampleProducerRecord := by
  have sha256 : sha256Hex sampleDigest sampleReport =
      "dc51b8c96c2d745df3bd5590d990230a482fd247123599548e0632fdbf97fc22" := by decide +kernel
  have repository : validateRepository (.str "acme/shop") "repository" = .ok "acme/shop" := by
    decide +kernel
  have runId : validateRunNumber (.str "7") "run_id" = .ok "7" := by decide +kernel
  have runAttempt : validateRunNumber (.str "1") "run_attempt" = .ok "1" := by decide +kernel
  have producer : validateRepository (.str "acme/ci") "producer_repository" = .ok "acme/ci" := by
    decide +kernel
  have ref : requiredText (.str "main") "producer_ref" = .ok "main" := by decide +kernel
  have sha (label : String) : validateSha (.str sampleSha) label = .ok sampleSha := by
    have text : IsRequiredText sampleSha := ⟨by decide +kernel, by decide +kernel, by decide +kernel⟩
    exact validateSha_eq_ok.mpr ⟨rfl, text, by decide +kernel⟩
  have artifact : requiredText (.str "lint") "artifact_name" = .ok "lint" := by decide +kernel
  have evidencePath : validateRelativePath (.str "report.txt") "evidence_path" =
      .ok "report.txt" := by decide +kernel
  have nonempty : "passed" = "passed" → "success" = "success" ∧ some sampleReport ≠ none ∧
      some sampleReport ≠ some [] := fun _ => ⟨rfl, nofun, by decide⟩
  simp only [createEvidenceRecord, sampleRecordArgs, repository, runId, runAttempt, producer, ref,
    sha, path, artifact, evidencePath, ok_bind, bind_eq_ok, pure_eq_ok, asOneOf_eq_ok, Option.map_some, sha256]
  exact ⟨_, ⟨rfl, by decide⟩, _, ⟨rfl, by decide⟩, ⟨⟩, require_pos nonempty, rfl⟩

theorem recordFaithful_sample : RecordFaithful sampleDigest sampleProducerCodec
    (sampleRecordArgs "ci.yml") sampleReport sampleProducerManifest :=
  (recordFaithful_iff sampleProducerCodec_sorts (sampleRecord_created (by decide +kernel))
    sampleProducerCodec_dumps rfl).mpr
      ⟨⟨_, rfl⟩, ⟨_, rfl⟩, ⟨_, rfl, by decide +kernel⟩, ⟨_, rfl, by decide +kernel⟩⟩

/-- The record of a producer's file is refused under the very file it was created for. -/
theorem verifyEvidenceRecord_refuses_given :
    createEvidenceRecord sampleDigest (sampleRecordArgs "./ci.yml") = .ok sampleProducerRecord ∧
    [("producer_file", .str "./ci.yml")] ⊆ (sampleRecordArgs "./ci.yml").given ∧
    ¬∃ payload, verifyEvidenceRecord sampleDigest sampleProducerCodec sampleProducerManifest
      (some sampleReport) [("producer_file", .str "./ci.yml")] = .ok payload := by
  have created := sampleRecord_created (show validateRelativePath (.str "./ci.yml") "producer_file" =
    .ok "ci.yml" by decide +kernel)
  refine ⟨created, by simp [sampleRecordArgs, RecordArgs.given], fun accepted => ?_⟩
  have meets := ((verifyEvidenceRecord_created sampleProducerCodec_sorts (recorded_of_ok created)
    sampleProducerCodec_dumps rfl).mp accepted).2.2.2
  have same := recorded_of_subset (show ("producer_file", "ci.yml") ∈
    sampleProducerRecord.locations by decide +kernel) meets
  exact absurd same (by decide)

end Sample

end OptimizrActions.Evidence
