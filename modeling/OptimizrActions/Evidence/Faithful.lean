import OptimizrActions.Evidence.BundleLaws

/-! When the verification of a created bundle is faithful to its creation. -/

namespace OptimizrActions.Evidence

/-- The identity in the spelling in which it was given. -/
def BundleArgs.given (args : BundleArgs) : Identity :=
  { args.identity with producerFile := args.producerFile }

/-- A path in the spelling in which it is recorded. -/
def Normalised (path : String) : Prop := posix (pathParts path) = path

instance (path : String) : Decidable (Normalised path) := inferInstanceAs (Decidable (_ = _))

section

variable (digest : Bytes → Fin 32 → UInt8) (codec : JsonCodec) (args : BundleArgs)
  (root : EvidenceRoot) (bundle : Bundle)

/-- The created evidence passes with the identity it was created with, and nothing that differs
from it does. -/
structure BundleFaithful : Prop where
  accepts : ∀ expected, Meets args.given.locations expected →
    ∃ payload, verifyEvidenceBundle digest codec bundle.manifest (.directory bundle.listing)
      expected = .ok payload
  sameFiles : ∀ root' expected payload, CollisionFree digest root root' →
    verifyEvidenceBundle digest codec bundle.manifest root' expected = .ok payload →
    SameFiles root root'
  identity : ∀ root' expected payload,
    verifyEvidenceBundle digest codec bundle.manifest root' expected = .ok payload →
    Meets args.given.locations expected

end

section Created

variable {digest : Bytes → Fin 32 → UInt8} {codec : JsonCodec} {args : BundleArgs}
  {root : EvidenceRoot} {bundle : Bundle}

theorem Created.files_eq (h : Created digest codec args root bundle) :
    bundle.listing.files = root.files ++ [(manifestPath, bundle.manifest)] := by
  obtain ⟨old, at_, nodes⟩ := h.listing
  have files : old.files = root.files := by
    cases root with
    | directory found =>
      cases at_
      rfl
    | symlink => cases at_
    | missing =>
      cases at_
      rfl
  rw [Listing.files, nodes, List.filterMap_append]
  exact congrArg (· ++ [(manifestPath, bundle.manifest)]) files

theorem Created.noLinks (h : Created digest codec args root bundle) :
    (EvidenceRoot.directory bundle.listing).NoLinks := by
  obtain ⟨old, at_, nodes⟩ := h.listing
  have links := h.indexed.links
  intro node mem
  rw [nodes, List.mem_append, List.mem_singleton] at mem
  rcases mem with old | rfl
  · cases root with
    | directory found =>
      cases at_
      exact links node old
    | symlink => cases at_
    | missing =>
      cases at_
      cases old
  · rfl

theorem Created.sameFiles (h : Created digest codec args root bundle) :
    SameFiles root (.directory bundle.listing) := by
  intro path content other
  have here : (path, content) ∉ [(manifestPath, bundle.manifest)] := by
    simp [other]
  change _ ↔ (path, content) ∈ bundle.listing.files
  rw [h.files_eq, List.mem_append]
  exact ⟨.inl, fun mem => mem.resolve_right here⟩

theorem Created.recorded (h : Created digest codec args root bundle) :
    bundle.record.id = args.identity := (validateIdentity_eq_ok h.sourceSha h.identity).1

/-- The verification of a created bundle over the directory it was created in. -/
theorem Created.accepts_iff (sorts : codec.Sorts) (h : Created digest codec args root bundle)
    {expected : Mapping} :
    (∃ payload, verifyEvidenceBundle digest codec bundle.manifest (.directory bundle.listing)
      expected = .ok payload) ↔
      (IsRequiredText args.identity.producerFile ∧
        isSafePath args.identity.producerFile = true) ∧
        Meets args.identity.locations expected := by
  have found := Matches.of_sameFiles h.indexed h.sameFiles
  rw [verifyEvidenceBundle_created sorts h, h.recorded]
  exact ⟨fun ⟨path, _, _, meets⟩ => ⟨path, meets⟩,
    fun ⟨path, meets⟩ => ⟨path, h.noLinks, found, meets⟩⟩

theorem Normalised.identity (h : Normalised args.producerFile) : args.identity = args.given :=
  congrArg (fun file => { args.given with producerFile := file }) h

theorem Meets.producerFile {id : Identity} {path : String}
    (h : Meets id.locations [("producer_file", .str path)]) : id.producerFile = path := by
  obtain ⟨value, mem, same⟩ := h _ List.mem_cons_self
  have unique := List.inj_on_of_nodup_map id.locations_nodup mem
    (show ("producer_file", id.producerFile) ∈ id.locations by simp [Identity.locations]) rfl
  cases same
  exact (Prod.mk.inj unique).2.symm

/-- A bundle is verified as it was created exactly if the producer's file was given in the
spelling in which it is recorded. -/
theorem bundleFaithful_iff (sorts : codec.Sorts)
    (created : createEvidenceBundle digest codec args root = .ok bundle) :
    BundleFaithful digest codec args root bundle ↔ Normalised args.producerFile := by
  have h := created_of_ok created
  constructor
  · intro faithful
    have meets : Meets args.given.locations [("producer_file", .str args.producerFile)] := by
      intro entry mem
      cases List.mem_singleton.mp mem
      exact ⟨args.producerFile, by simp [Identity.locations, BundleArgs.given], rfl⟩
    exact ((h.accepts_iff sorts).mp (faithful.accepts _ meets)).2.producerFile
  · intro normal
    have path := (validateIdentity_eq_ok h.sourceSha h.identity).2.2
    have recorded : IsRequiredText args.identity.producerFile ∧
        isSafePath args.identity.producerFile = true := by
      rw [normal.identity]
      exact path
    refine ⟨fun expected meets => (h.accepts_iff sorts).mpr ⟨recorded, ?_⟩,
      fun root' expected payload free ok => ?_, fun root' expected payload ok => ?_⟩
    · rw [normal.identity]
      exact meets
    · have same := (verifyEvidenceBundle_created sorts h).mp ⟨payload, ok⟩
      exact same.2.2.1.sameFiles h.indexed free
    · have same := (verifyEvidenceBundle_created sorts h).mp ⟨payload, ok⟩
      rw [h.recorded, normal.identity] at same
      exact same.2.2.2

end Created

section Sample

def bytes (text : String) : Bytes := text.toList.map fun c => UInt8.ofNat c.toNat

def digestOf (n : Nat) (i : Fin 32) : UInt8 := UInt8.ofNat (n / 256 ^ (31 - i.val))

def sampleSha : String := "0123456789abcdef0123456789abcdef01234567"

def sampleReport : Bytes := bytes "ok\n"

def sampleEntry : IndexEntry where
  path := "report.txt"
  sha256 := "dc51b8c96c2d745df3bd5590d990230a482fd247123599548e0632fdbf97fc22"
  size := 3

def sampleIndex : Bytes := bytes <|
  "[\n  \x7b\n    \"path\": \"report.txt\",\n" ++
  "    \"sha256\": \"dc51b8c96c2d745df3bd5590d990230a482fd247123599548e0632fdbf97fc22\",\n" ++
  "    \"size_bytes\": 3\n  \x7d\n]\n"

def sampleListing : Listing where
  nodes := [(["report.txt"], .file sampleReport)]
  distinct := by decide
  named := by decide

def sampleArgs (producerFile : String) : BundleArgs where
  repository := "acme/shop"
  runId := "7"
  runAttempt := "1"
  producerRepository := "acme/ci"
  producerRef := "main"
  producerSha := sampleSha
  producerFile := producerFile
  sourceSha := sampleSha
  expectedSourceSha := sampleSha
  conclusion := "success"
  artifactName := "lint"

def sampleRecord (producerFile : String) : Record where
  id := (sampleArgs producerFile).given
  conclusion := "success"
  files := [sampleEntry]
  indexSha256 := "bb03384c089dbd53509d41d37299e3a0b209d6ff647694652b9d64d0b19a85f0"

def sampleManifest (producerFile : String) : Bytes :=
  0x7b :: bytes ("\n  \"artifact_name\": \"lint\",\n  \"conclusion\": \"success\",\n" ++
    "  \"details\": \x7b\n    \"evidence_file_count\": 1\n  \x7d,\n" ++
    "  \"evidence_file_count\": 1,\n  \"evidence_files\": [\n    \x7b\n" ++
    "      \"path\": \"report.txt\",\n      \"sha256\": " ++
    "\"dc51b8c96c2d745df3bd5590d990230a482fd247123599548e0632fdbf97fc22\",\n" ++
    "      \"size_bytes\": 3\n    \x7d\n  ],\n  \"evidence_index_sha256\": " ++
    "\"bb03384c089dbd53509d41d37299e3a0b209d6ff647694652b9d64d0b19a85f0\",\n" ++
    "  \"evidence_manifest_path\": \"evidence-manifest.json\",\n  \"evidence_path\": \".\",\n" ++
    "  \"evidence_present\": true,\n  \"evidence_total_bytes\": 3,\n  \"producer\": \x7b\n" ++
    "    \"file\": \"") ++ bytes producerFile ++
  bytes ("\",\n    \"ref\": \"main\",\n    \"repository\": \"acme/ci\",\n    \"sha\": \"" ++ sampleSha ++
    "\"\n  \x7d,\n  \"repository\": \"acme/shop\",\n  \"result\": \"passed\",\n" ++
    "  \"run_attempt\": \"1\",\n  \"run_id\": \"7\",\n  \"schema_version\": 1,\n" ++
    "  \"source_sha\": \"" ++ sampleSha ++ "\"\n\x7d\n")

/-- SHA-256 of the sample's contents. -/
def sampleDigest (content : Bytes) : Fin 32 → UInt8 := digestOf <|
  if content = sampleReport then
    0xdc51b8c96c2d745df3bd5590d990230a482fd247123599548e0632fdbf97fc22
  else if content = sampleIndex then
    0xbb03384c089dbd53509d41d37299e3a0b209d6ff647694652b9d64d0b19a85f0
  else if content = sampleManifest "ci.yml" then
    0x8cb7e266e05611771b32ac3a413e0ef46c739363d4ad29f0263949eadd8bf56a
  else
    0x97f7786f182b4213b1a5044a2e349f3ff07d035a621240db64078d8e4b1dc77c

/-- The codec on the sample's index and on its manifest. -/
def sampleCodec (producerFile : String) : JsonCodec where
  dumps v :=
    if v = .obj (sampleRecord producerFile).toMapping then some (sampleManifest producerFile)
    else if v = .arr [sampleEntry.toJson] then some sampleIndex else none
  loads content :=
    if content = sampleIndex then some (.arr [sampleEntry.toJson])
    else if content = sampleManifest producerFile then
      some (Json.obj (sampleRecord producerFile).toMapping).sortKeys
    else none

theorem sampleCodec_sorts (producerFile : String) : (sampleCodec producerFile).Sorts := by
  have other : sampleManifest producerFile ≠ sampleIndex := by
    intro same
    have heads : some (0x7b : UInt8) = sampleIndex.head? := congrArg List.head? same
    exact absurd heads (by decide +kernel)
  have fixed : (Json.arr [sampleEntry.toJson]).sortKeys = .arr [sampleEntry.toJson] := by
    rw [Json.sortKeys, Json.sortItems, IndexEntry.sortKeys_toJson, Json.sortItems]
  intro v content dumped
  simp only [sampleCodec] at dumped ⊢
  split_ifs at dumped with isRecord isIndex
  · rw [← Option.some.inj dumped, if_neg other, isRecord]
    exact if_pos rfl
  · rw [← Option.some.inj dumped, isIndex, fixed]
    exact if_pos rfl

def sampleBundle (producerFile : String) : Bundle where
  listing := sampleListing.withManifest (sampleManifest producerFile) (by decide)
  manifest := sampleManifest producerFile
  record := sampleRecord producerFile
  evidenceSha256 := sha256Hex sampleDigest (sampleManifest producerFile)

theorem sample_created {given recorded : String}
    (path : validateRelativePath (.str given) "producer_file" = .ok recorded) :
    createEvidenceBundle sampleDigest (sampleCodec recorded) (sampleArgs given)
      (.directory sampleListing) = .ok (sampleBundle recorded) := by
  have sha : validateSha (.str (sampleArgs given).sourceSha) "source_sha" = .ok sampleSha := by
    change validateSha (.str sampleSha) _ = _
    decide +kernel
  have expected : validateSha (.str (sampleArgs given).expectedSourceSha) "expected_source_sha" =
      .ok sampleSha := by
    change validateSha (.str sampleSha) _ = _
    decide +kernel
  have files : indexFiles sampleDigest (sortedNodes sampleListing) = .ok [sampleEntry] := by
    decide +kernel
  have repository : validateRepository (.str "acme/shop") "repository" = .ok "acme/shop" := by
    decide +kernel
  have runId : validateRunNumber (.str "7") "run_id" = .ok "7" := by decide +kernel
  have runAttempt : validateRunNumber (.str "1") "run_attempt" = .ok "1" := by decide +kernel
  have producer : validateRepository (.str "acme/ci") "producer_repository" = .ok "acme/ci" := by
    decide +kernel
  have ref : requiredText (.str "main") "producer_ref" = .ok "main" := by decide +kernel
  have producerSha : validateSha (.str sampleSha) "producer_sha" = .ok sampleSha := by
    decide +kernel
  have artifact : requiredText (.str "lint") "artifact_name" = .ok "lint" := by decide +kernel
  have id : validateIdentity (sampleArgs given) sampleSha = .ok (sampleArgs recorded).given := by
    simp only [validateIdentity, sampleArgs, repository, runId, runAttempt, producer, ref,
      producerSha, path, artifact, ok_bind, pure_eq_ok]
    rfl
  have index : serializeJson (sampleCodec recorded) (.arr ([sampleEntry].map IndexEntry.toJson)) =
      .ok sampleIndex := by
    rw [serializeJson_eq_ok]
    simp [sampleCodec]
  have indexSha : sha256Hex sampleDigest sampleIndex = (sampleRecord recorded).indexSha256 := by
    change sha256Hex sampleDigest sampleIndex =
      "bb03384c089dbd53509d41d37299e3a0b209d6ff647694652b9d64d0b19a85f0"
    decide +kernel
  have manifest : serializeJson (sampleCodec recorded) (.obj (sampleRecord recorded).toMapping) =
      .ok (sampleManifest recorded) := by
    rw [serializeJson_eq_ok]
    exact if_pos rfl
  have conclusion : (sampleArgs given).conclusion ∈ bundleConclusions := by
    change "success" ∈ bundleConclusions
    decide
  have fresh : manifestPath ∉ sampleListing.nodes.map Prod.fst := by decide
  have record : (⟨(sampleArgs recorded).given, (sampleArgs given).conclusion, [sampleEntry],
      sha256Hex sampleDigest sampleIndex⟩ : Record) = sampleRecord recorded :=
    congrArg (Record.mk _ _ _) indexSha
  unfold createEvidenceBundle
  simp only [sha, expected, ok_bind, rootListing]
  rw [require_pos trivial, ok_bind, require_pos conclusion, ok_bind, dif_pos fresh]
  simp only [files, id, index, record, manifest, ok_bind]
  rfl

/-- The evidence of a directory with one file is verified as it was created. -/
theorem bundleFaithful_sample : BundleFaithful sampleDigest (sampleCodec "ci.yml")
    (sampleArgs "ci.yml") (.directory sampleListing) (sampleBundle "ci.yml") :=
  (bundleFaithful_iff (sampleCodec_sorts _) (sample_created (by decide +kernel))).mpr
    (by decide +kernel)

/-- A producer's file that is accepted at creation, and whose evidence is then refused. -/
theorem verifyEvidenceBundle_refuses_created :
    createEvidenceBundle sampleDigest (sampleCodec "~ci.yml") (sampleArgs "./~ci.yml")
      (.directory sampleListing) = .ok (sampleBundle "~ci.yml") ∧
    ¬∃ payload, verifyEvidenceBundle sampleDigest (sampleCodec "~ci.yml")
      (sampleBundle "~ci.yml").manifest (.directory (sampleBundle "~ci.yml").listing) [] =
        .ok payload := by
  have created := sample_created (show validateRelativePath (.str "./~ci.yml") "producer_file" =
    .ok "~ci.yml" by decide +kernel)
  refine ⟨created, fun accepted => ?_⟩
  have path := ((created_of_ok created).accepts_iff (sampleCodec_sorts _)).mp accepted
  exact absurd path.1.2 (by decide +kernel)

end Sample

end OptimizrActions.Evidence
