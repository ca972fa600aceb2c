import OptimizrActions.Evidence.Bundle

/-! What the verification of a created bundle accepts. -/

namespace OptimizrActions.Evidence

def EvidenceRoot.files : EvidenceRoot → List (List String × Bytes)
  | .directory listing => listing.files
  | _ => []

def EvidenceRoot.NoLinks : EvidenceRoot → Prop
  | .directory listing => ∀ node ∈ listing.nodes, isLink node = false
  | .symlink => False
  | .missing => True

/-- The same files with the same contents, the generated index apart. -/
def SameFiles (root root' : EvidenceRoot) : Prop :=
  ∀ path content, path ≠ manifestPath →
    ((path, content) ∈ root.files ↔ (path, content) ∈ root'.files)

/-- No two of the contents have one digest. -/
def CollisionFree (digest : Bytes → Fin 32 → UInt8) (root root' : EvidenceRoot) : Prop :=
  ∀ file ∈ root.files, ∀ file' ∈ root'.files, digest file.2 = digest file'.2 → file.2 = file'.2

section Files

theorem mem_files {listing : Listing} {path : List String} {content : Bytes} :
    (path, content) ∈ listing.files ↔ (path, .file content) ∈ listing.nodes := by
  simp only [Listing.files, List.mem_filterMap]
  constructor
  · rintro ⟨⟨p, n⟩, mem, eq⟩
    cases n <;> simp [nodeFile] at eq
    obtain ⟨rfl, rfl⟩ := eq
    exact mem
  · exact fun mem => ⟨_, mem, rfl⟩

theorem Listing.files_keys_sublist (listing : Listing) :
    (listing.files.map Prod.fst).Sublist (listing.nodes.map Prod.fst) := by
  have loop (nodes : List (List String × Node Bytes)) :
      ((nodes.filterMap nodeFile).map Prod.fst).Sublist (nodes.map Prod.fst) := by
    induction nodes with
    | nil => exact List.Sublist.slnil
    | cons node rest ih =>
      obtain ⟨p, n⟩ := node
      cases n with
      | file content => exact ih.cons_cons p
      | _ => exact ih.cons p
  exact loop listing.nodes

theorem EvidenceRoot.files_named {root : EvidenceRoot} {file : List String × Bytes}
    (mem : file ∈ root.files) : file.1 ≠ [] ∧ ∀ name ∈ file.1, IsName name := by
  cases root with
  | directory listing =>
    exact listing.named _ (listing.files_keys_sublist.subset (List.mem_map_of_mem mem))
  | symlink => cases mem
  | missing => cases mem

theorem EvidenceRoot.files_nodup (root : EvidenceRoot) : (root.files.map Prod.fst).Nodup := by
  cases root with
  | directory listing => exact listing.distinct.sublist listing.files_keys_sublist
  | symlink => exact List.nodup_nil
  | missing => exact List.nodup_nil

theorem posix_manifestPath : posix manifestPath = "evidence-manifest.json" := by decide

theorem posix_files_injective {root root' : EvidenceRoot} {file file' : List String × Bytes}
    (mem : file ∈ root.files) (mem' : file' ∈ root'.files) (same : posix file.1 = posix file'.1) :
    file.1 = file'.1 := by
  obtain ⟨nonempty, names⟩ := EvidenceRoot.files_named mem
  obtain ⟨nonempty', names'⟩ := EvidenceRoot.files_named mem'
  exact posix_injective nonempty names nonempty' names' same

/-- The files that the verification walks over. -/
def walked (root : EvidenceRoot) : List (String × Bytes) :=
  (root.files.map fun file => (posix file.1, file.2)).filter (·.1 ≠ "evidence-manifest.json")

theorem actualFiles_eq_ok {root : EvidenceRoot} {actual : List (String × Bytes)} :
    actualFiles "evidence-manifest.json" root = .ok actual ↔
      root.NoLinks ∧ walked root = actual := by
  cases root with
  | directory listing =>
    simp only [actualFiles, bind_eq_ok, require_eq_ok, pure_eq_ok, exists_const]
    rfl
  | symlink => simp [actualFiles, EvidenceRoot.NoLinks]
  | missing => simp [actualFiles, EvidenceRoot.NoLinks, walked, EvidenceRoot.files]

theorem mem_walked {root : EvidenceRoot} {path : String} {content : Bytes} :
    (path, content) ∈ walked root ↔
      ∃ parts, (parts, content) ∈ root.files ∧ parts ≠ manifestPath ∧ posix parts = path := by
  simp only [walked, List.mem_filter, List.mem_map, Prod.mk.injEq, decide_eq_true_eq]
  constructor
  · rintro ⟨⟨file, mem, rfl, rfl⟩, other⟩
    refine ⟨file.1, mem, ?_, rfl⟩
    rintro same
    rw [same, posix_manifestPath] at other
    exact other rfl
  · rintro ⟨parts, mem, other, rfl⟩
    refine ⟨⟨_, mem, rfl, rfl⟩, fun same => other ?_⟩
    obtain ⟨nonempty, names⟩ := EvidenceRoot.files_named mem
    rw [← posix_manifestPath] at same
    exact posix_injective nonempty names (by decide) (by decide) same

theorem walked_nodup (root : EvidenceRoot) : ((walked root).map Prod.fst).Nodup := by
  have nodup : ((root.files.map fun file => (posix file.1, file.2)).map Prod.fst).Nodup := by
    rw [List.map_map]
    refine List.Nodup.map_on ?_ (List.Nodup.of_map _ root.files_nodup)
    intro file mem file' mem' same
    exact List.inj_on_of_nodup_map root.files_nodup mem mem'
      (posix_files_injective mem mem' same)
  exact nodup.sublist (List.filter_sublist.map Prod.fst)

end Files

section Created

variable {digest : Bytes → Fin 32 → UInt8} {codec : JsonCodec} {args : BundleArgs}
  {root root' : EvidenceRoot} {bundle : Bundle}

def indexOf (digest : Bytes → Fin 32 → UInt8) (files : List (List String × Bytes)) :
    List IndexEntry := files.map fun file => indexEntry digest file.1 file.2

theorem indexFiles_eq_ok {nodes : List (List String × Node Bytes)} {entries : List IndexEntry} :
    indexFiles digest nodes = .ok entries ↔ (∀ node ∈ nodes, isLink node = false) ∧
      (∀ file ∈ nodes.filterMap nodeFile, IsRequiredText (posix file.1) ∧
        isSafePath (posix file.1) = true) ∧
      entries = indexOf digest (nodes.filterMap nodeFile) := by
  induction nodes generalizing entries with
  | nil =>
    rw [indexFiles, Except.ok.injEq]
    exact ⟨fun eq => ⟨List.forall_mem_nil _, List.forall_mem_nil _, eq.symm⟩, fun h => h.2.2.symm⟩
  | cons node rest ih =>
    have skipped {path : List String} {n : Node Bytes} (plain : isLink (path, n) = false)
        (none : nodeFile (path, n) = none) (skips : indexFiles digest ((path, n) :: rest) =
          indexFiles digest rest) : indexFiles digest ((path, n) :: rest) = .ok entries ↔
        (∀ node ∈ (path, n) :: rest, isLink node = false) ∧
          (∀ file ∈ ((path, n) :: rest).filterMap nodeFile, IsRequiredText (posix file.1) ∧
            isSafePath (posix file.1) = true) ∧
          entries = indexOf digest (((path, n) :: rest).filterMap nodeFile) := by
      rw [skips, ih, List.filterMap_cons_none none, List.forall_mem_cons]
      exact ⟨fun h => ⟨⟨plain, h.1⟩, h.2⟩, fun h => ⟨h.1.2, h.2⟩⟩
    obtain ⟨path, n⟩ := node
    cases n with
    | file content =>
      have files : ((path, Node.file content) :: rest).filterMap nodeFile =
          (path, content) :: rest.filterMap nodeFile := rfl
      have more : indexOf digest ((path, content) :: rest.filterMap nodeFile) =
          indexEntry digest path content :: indexOf digest (rest.filterMap nodeFile) := rfl
      rw [files, more, List.forall_mem_cons, List.forall_mem_cons]
      simp only [indexFiles, bind_eq_ok, pure_eq_ok, validateRelativePath_eq_ok, Json.str.injEq, ih]
      constructor
      · rintro ⟨_, ⟨_, rfl, text, safe, -⟩, _, ⟨links, others, rfl⟩, rfl⟩
        exact ⟨⟨rfl, links⟩, ⟨⟨text, safe⟩, others⟩, rfl⟩
      · rintro ⟨⟨-, links⟩, ⟨⟨text, safe⟩, others⟩, rfl⟩
        exact ⟨_, ⟨_, rfl, text, safe, rfl⟩, _, ⟨links, others, rfl⟩, rfl⟩
    | symlink =>
      refine ⟨fun eq => absurd eq error_ne_ok, fun h => ?_⟩
      exact absurd (h.1 _ List.mem_cons_self) Bool.true_eq_false.mp
    | directory => exact skipped rfl rfl rfl
    | special => exact skipped rfl rfl rfl

/-- The files that were indexed when a bundle was created. -/
structure Indexed (digest : Bytes → Fin 32 → UInt8) (root : EvidenceRoot)
    (entries : List IndexEntry) : Prop where
  links : root.NoLinks
  fresh : manifestPath ∉ root.files.map Prod.fst
  entries : entries.Perm (indexOf digest root.files)
  safe : ∀ file ∈ root.files, IsRequiredText (posix file.1) ∧ isSafePath (posix file.1) = true

theorem Indexed.of_listing {listing : Listing} {entries : List IndexEntry}
    (at_ : rootListing root = .ok listing) (fresh : manifestPath ∉ listing.nodes.map Prod.fst)
    (h : indexFiles digest (sortedNodes listing) = .ok entries) : Indexed digest root entries := by
  obtain ⟨links, safe, rfl⟩ := indexFiles_eq_ok.mp h
  have perm : (sortedNodes listing).Perm listing.nodes := List.perm_insertionSort _ _
  have files : ((sortedNodes listing).filterMap nodeFile).Perm listing.files := perm.filterMap _
  cases root with
  | directory found =>
    cases at_
    exact ⟨fun node mem => links node (perm.mem_iff.mpr mem),
      fun mem => fresh (listing.files_keys_sublist.subset mem), files.map _,
      fun file mem => safe file (files.mem_iff.mpr mem)⟩
  | symlink => cases at_
  | missing =>
    cases at_
    exact ⟨trivial, nofun, .refl _, nofun⟩

theorem Indexed.mem_iff {entries : List IndexEntry} (h : Indexed digest root entries)
    {entry : IndexEntry} :
    entry ∈ entries ↔ ∃ file ∈ root.files, indexEntry digest file.1 file.2 = entry := by
  rw [h.entries.mem_iff, indexOf, List.mem_map]

theorem Indexed.paths_nodup {entries : List IndexEntry} (h : Indexed digest root entries) :
    (entries.map IndexEntry.path).Nodup := by
  rw [(h.entries.map _).nodup_iff, indexOf, List.map_map]
  refine List.Nodup.map_on ?_ (List.Nodup.of_map _ root.files_nodup)
  intro file mem file' mem' same
  exact List.inj_on_of_nodup_map root.files_nodup mem mem' (posix_files_injective mem mem' same)

theorem checkFile_eq_ok {actual : List (String × Bytes)} {entry : IndexEntry} :
    checkFile digest actual entry = .ok ⟨⟩ ↔ ∃ content, actual.lookup entry.path = some content ∧
      content.length = entry.size ∧ sha256Hex digest content = entry.sha256 := by
  unfold checkFile
  cases actual.lookup entry.path with
  | none => simp
  | some content => simp only [bind_eq_ok, require_eq_ok, exists_const, Option.some.injEq,
      exists_eq_left']

/-- The verifier's comparison of a directory with the index. -/
def Matches (digest : Bytes → Fin 32 → UInt8) (entries : List IndexEntry) (root : EvidenceRoot) :
    Prop :=
  (entries.map IndexEntry.path ⊆ (walked root).map Prod.fst ∧
    (walked root).map Prod.fst ⊆ entries.map IndexEntry.path) ∧
    entries.forM (checkFile digest (walked root)) = .ok ⟨⟩

theorem Matches.of_sameFiles {entries : List IndexEntry} (h : Indexed digest root entries)
    (same : SameFiles root root') : Matches digest entries root' := by
  have other {path : List String} {content : Bytes} (mem : (path, content) ∈ root.files) :
      path ≠ manifestPath := fun eq => h.fresh (eq ▸ List.mem_map_of_mem mem)
  have there {file : List String × Bytes} (mem : file ∈ root.files) :
      (posix file.1, file.2) ∈ walked root' :=
    mem_walked.mpr ⟨file.1, (same _ _ (other mem)).mp mem, other mem, rfl⟩
  refine ⟨⟨fun path mem => ?_, fun path mem => ?_⟩, forM_eq_ok_iff.mpr fun entry mem => ?_⟩
  · obtain ⟨entry, inside, rfl⟩ := List.mem_map.mp mem
    obtain ⟨file, inFiles, rfl⟩ := h.mem_iff.mp inside
    exact List.mem_map_of_mem (there inFiles)
  · obtain ⟨⟨_, content⟩, inside, rfl⟩ := List.mem_map.mp mem
    obtain ⟨parts, inFiles, notManifest, rfl⟩ := mem_walked.mp inside
    have back := (same _ _ notManifest).mpr inFiles
    exact List.mem_map.mpr ⟨_, h.mem_iff.mpr ⟨_, back, rfl⟩, rfl⟩
  · obtain ⟨file, inFiles, rfl⟩ := h.mem_iff.mp mem
    have found := (Dict.lookup_eq_some_iff_mem (walked_nodup root')).mpr (there inFiles)
    exact checkFile_eq_ok.mpr ⟨file.2, found, rfl, rfl⟩

theorem Matches.sameFiles {entries : List IndexEntry} (h : Indexed digest root entries)
    (free : CollisionFree digest root root') (same : Matches digest entries root') :
    SameFiles root root' := by
  obtain ⟨⟨-, indexed⟩, checked⟩ := same
  have checked := forM_eq_ok_iff.mp checked
  -- a file of the first directory is found at its place in the second one
  have there {file : List String × Bytes} (mem : file ∈ root.files) :
      ∃ parts, (parts, file.2) ∈ root'.files ∧ parts = file.1 := by
    obtain ⟨content, found, -, digests⟩ :=
      checkFile_eq_ok.mp (checked _ (h.mem_iff.mpr ⟨file, mem, rfl⟩))
    obtain ⟨parts, inFiles, -, at_⟩ :=
      mem_walked.mp ((Dict.lookup_eq_some_iff_mem (walked_nodup root')).mp found)
    have equal : file.2 = content := free file mem _ inFiles (Text.hexdigest_injective digests).symm
    exact ⟨parts, equal ▸ inFiles, posix_files_injective inFiles mem at_⟩
  intro path content notManifest
  constructor
  · intro mem
    obtain ⟨_, inFiles, rfl⟩ := there mem
    exact inFiles
  · intro mem
    have inWalk : (posix path, content) ∈ walked root' :=
      mem_walked.mpr ⟨path, mem, notManifest, rfl⟩
    obtain ⟨entry, inEntries, at_⟩ := List.mem_map.mp (indexed (List.mem_map_of_mem inWalk))
    obtain ⟨file, inFiles, rfl⟩ := h.mem_iff.mp inEntries
    obtain ⟨_, inFiles', rfl⟩ := there inFiles
    have place : file.1 = path := posix_files_injective inFiles mem at_
    have one := List.inj_on_of_nodup_map root'.files_nodup inFiles' mem place
    cases one
    exact inFiles

/-- What holds of a bundle that was created. -/
structure Created (digest : Bytes → Fin 32 → UInt8) (codec : JsonCodec) (args : BundleArgs)
    (root : EvidenceRoot) (bundle : Bundle) : Prop where
  indexed : Indexed digest root bundle.record.files
  identity : validateIdentity args args.sourceSha = .ok bundle.record.id
  sourceSha : IsRequiredText args.sourceSha ∧ isSha args.sourceSha = true
  conclusion : bundle.record.conclusion ∈ bundleConclusions
  index : ∃ content, codec.dumps (.arr (bundle.record.files.map IndexEntry.toJson)) = some content ∧
    bundle.record.indexSha256 = sha256Hex digest content
  manifest : codec.dumps (.obj bundle.record.toMapping) = some bundle.manifest
  listing : ∃ old : Listing, rootListing root = .ok old ∧
    bundle.listing.nodes = old.nodes ++ [(manifestPath, .file bundle.manifest)]

theorem created_of_ok (h : createEvidenceBundle digest codec args root = .ok bundle) :
    Created digest codec args root bundle := by
  unfold createEvidenceBundle at h
  simp only [bind_eq_ok, require_eq_ok, validateSha_eq_ok, Json.str.injEq] at h
  obtain ⟨_, ⟨rfl, text, isSha⟩, _, -, _, -, _, conclusion, listing, at_, h⟩ := h
  split_ifs at h with fresh
  simp only [bind_eq_ok, pure_eq_ok, serializeJson_eq_ok] at h
  obtain ⟨files, indexed, id, identity, index, dumped, manifest, written, rfl⟩ := h
  exact ⟨.of_listing at_ fresh indexed, identity, ⟨text, isSha⟩, conclusion, ⟨index, dumped, rfl⟩,
    written, listing, at_, rfl⟩

/-- The identity given at creation, the producer's file in the form in which it is recorded. -/
def BundleArgs.identity (args : BundleArgs) : Identity where
  repository := args.repository
  runId := args.runId
  runAttempt := args.runAttempt
  producerRepository := args.producerRepository
  producerRef := args.producerRef
  producerSha := args.producerSha
  producerFile := posix (pathParts args.producerFile)
  sourceSha := args.sourceSha
  artifactName := args.artifactName

theorem validateIdentity_eq_ok {id : Identity}
    (sha : IsRequiredText args.sourceSha ∧ isSha args.sourceSha = true)
    (h : validateIdentity args args.sourceSha = .ok id) : id = args.identity ∧ id.Valid ∧
      IsRequiredText args.producerFile ∧ isSafePath args.producerFile = true := by
  simp only [validateIdentity, bind_eq_ok, pure_eq_ok, validateRepository_eq_ok,
    validateRunNumber_eq_ok, requiredText_eq_ok, validateSha_eq_ok, validateRelativePath_eq_ok,
    Json.str.injEq] at h
  obtain ⟨_, ⟨rfl, repository⟩, _, ⟨rfl, runId⟩, _, ⟨rfl, runAttempt⟩, _, ⟨rfl, producer⟩,
    _, ⟨rfl, ref⟩, _, ⟨rfl, producerSha⟩, _, ⟨_, rfl, text, safe, rfl⟩, _, ⟨rfl, artifact⟩, rfl⟩ := h
  exact ⟨rfl, ⟨repository, runId, runAttempt, producer, ref, producerSha, sha, artifact⟩, text, safe⟩

/-- The entries of a loaded manifest. -/
structure Loads (loaded producer : Mapping) (record : Record) : Prop
    extends LoadsIdentity loaded producer record.id where
  keys : ∀ key ∈ requiredKeys, key ∈ loaded.map Prod.fst
  version : loaded.get "schema_version" = .int 1
  conclusion : loaded.get "conclusion" = .str record.conclusion
  result : loaded.get "result" = .str record.result
  evidencePath : loaded.get "evidence_path" = .str "."
  manifestPath : loaded.get "evidence_manifest_path" = .str "evidence-manifest.json"
  present : loaded.get "evidence_present" = .bool (record.files ≠ [])
  files : loaded.get "evidence_files" = .arr (record.files.map IndexEntry.toJson)
  count : loaded.get "evidence_file_count" = .int record.files.length
  total : loaded.get "evidence_total_bytes" = .int record.totalBytes
  index : loaded.get "evidence_index_sha256" = .str record.indexSha256

theorem IndexEntry.sortKeys_toJson (entry : IndexEntry) : entry.toJson.sortKeys = entry.toJson := by
  have ordered : ("path" ≤ "sha256" ∧ "path" ≤ "size_bytes") ∧ "sha256" ≤ "size_bytes" := by decide
  simp [IndexEntry.toJson, Json.sortKeys, Json.sortFields, ordered]

def recordKeys : List String :=
  ["schema_version", "repository", "run_id", "run_attempt", "producer", "source_sha", "conclusion",
    "result", "artifact_name", "evidence_path", "evidence_present", "evidence_file_count",
    "evidence_total_bytes", "evidence_manifest_path", "evidence_files", "evidence_index_sha256",
    "details"]

theorem loads_of_created (sorts : codec.Sorts) (h : Created digest codec args root bundle) :
    ∃ loaded producer : Mapping, codec.loads bundle.manifest = some (.obj loaded) ∧
      Loads loaded producer bundle.record := by
  have keys : (bundle.record.toMapping.map Prod.fst).Nodup := by
    change recordKeys.Nodup
    decide
  have required : ∀ key ∈ requiredKeys, key ∈ recordKeys := by decide
  have producerKeys : (bundle.record.id.producer.map Prod.fst).Nodup := by
    change ["repository", "ref", "sha", "file"].Nodup
    decide
  obtain ⟨loaded, sorted, same, get⟩ := Json.sortKeys_obj keys
  obtain ⟨producer, sortedProducer, -, getProducer⟩ := Json.sortKeys_obj producerKeys
  have files : loaded.get "evidence_files" =
      .arr (bundle.record.files.map IndexEntry.toJson) := by
    have fixed : Json.sortKeys ∘ IndexEntry.toJson = IndexEntry.toJson :=
      funext IndexEntry.sortKeys_toJson
    rw [get]
    change Json.sortKeys (.arr (bundle.record.files.map IndexEntry.toJson)) = _
    rw [Json.sortKeys, Json.sortItems_eq_map, List.map_map, fixed]
  refine ⟨loaded, producer, sorted ▸ sorts _ _ h.manifest, ?_⟩
  refine {
    keys := fun key mem => (same key).mpr (required key mem)
    version := get _, repository := get _, runId := get _, runAttempt := get _
    producerObject := (get _).trans sortedProducer
    producerRepository := getProducer _, producerRef := getProducer _
    producerSha := getProducer _, producerFile := getProducer _
    sourceSha := get _, conclusion := get _, result := get _, artifactName := get _
    evidencePath := get _, manifestPath := get _, present := get _, files := files
    count := get _, total := get _, index := get _ }

/-- An entry of the index, as a verification reads it. -/
def ReadsEntry (item : Json) (entry : IndexEntry) : Prop :=
  ∃ fields, item = .obj fields ∧
    validateRelativePath (Mapping.get fields "path") "evidence file path" = .ok entry.path ∧
    asSha256 "evidence file SHA-256 is malformed" (Mapping.get fields "sha256") = .ok entry.sha256 ∧
    asCount "evidence file size is malformed" (Mapping.get fields "size_bytes") = .ok entry.size

theorem readIndexed_reads : ReadsFresh readIndexed ReadsEntry IndexEntry.path := by
  intro index seen item entry
  cases item with
  | obj fields =>
    simp only [readIndexed, asObject, ok_bind, bind_eq_ok, require_eq_ok, pure_eq_ok, ReadsEntry,
      Json.obj.injEq, exists_eq_left']
    constructor
    · rintro ⟨_, path, _, sha, _, size, _, fresh, rfl⟩
      exact ⟨⟨path, sha, size⟩, fresh⟩
    · rintro ⟨⟨path, sha, size⟩, fresh⟩
      exact ⟨_, path, _, sha, _, size, ⟨⟩, fresh, rfl⟩
  | _ => simp [readIndexed, asObject, ReadsEntry, Bind.bind, Except.bind]

theorem Indexed.gather_eq {entries : List IndexEntry} (h : Indexed digest root entries) :
    gather readIndexed 0 [] (entries.map IndexEntry.toJson) = .ok entries := by
  refine readIndexed_reads.gather_nil_eq_ok.mpr ⟨?_, h.paths_nodup⟩
  refine List.forall₂_map_left_iff.mpr (List.forall₂_same.mpr fun entry mem => ?_)
  obtain ⟨file, inFiles, rfl⟩ := h.mem_iff.mp mem
  obtain ⟨text, safe⟩ := h.safe file inFiles
  obtain ⟨nonempty, names⟩ := EvidenceRoot.files_named inFiles
  have fixed : posix file.1 = posix (pathParts (posix file.1)) := by
    rw [pathParts_posix nonempty names]
  have path : validateRelativePath (.str (posix file.1)) "evidence file path" =
      .ok (posix file.1) :=
    validateRelativePath_eq_ok.mpr ⟨_, rfl, text, safe, fixed⟩
  have sha : asSha256 "evidence file SHA-256 is malformed" (.str (sha256Hex digest file.2)) =
      .ok (sha256Hex digest file.2) := by
    simp only [asSha256, bind_eq_ok, require_eq_ok, pure_eq_ok, exists_const, and_true]
    exact Text.hexText_hexdigest _
  exact ⟨_, rfl, path, sha, rfl⟩

theorem Record.result_mem (record : Record) : record.result ∈ results := by
  unfold Record.result
  split <;> decide

theorem Record.passed {record : Record} (h : record.result = "passed") :
    record.conclusion = "success" ∧ record.files ≠ [] ∧ record.totalBytes ≠ 0 := by
  unfold Record.result at h
  split_ifs at h with ok
  · refine ⟨ok.1, ?_, Nat.pos_iff_ne_zero.mp ok.2⟩
    intro empty
    rw [Record.totalBytes, empty] at ok
    exact absurd ok.2 (Nat.lt_irrefl 0)
  · exact absurd h (by decide)

/-- A verification of a created bundle comes down to the recorded producer file, the files and
the expected identity. -/
theorem verifyEvidenceBundle_created (sorts : codec.Sorts)
    (h : Created digest codec args root bundle) {expected : Mapping} :
    (∃ payload, verifyEvidenceBundle digest codec bundle.manifest root' expected = .ok payload) ↔
      (IsRequiredText bundle.record.id.producerFile ∧
        isSafePath bundle.record.id.producerFile = true) ∧
        root'.NoLinks ∧ Matches digest bundle.record.files root' ∧
        Meets bundle.record.id.locations expected := by
  obtain ⟨loaded, producer, parsed, loads⟩ := loads_of_created sorts h
  obtain ⟨-, valid, -⟩ := validateIdentity_eq_ok h.sourceSha h.identity
  have load : loadBundle codec bundle.manifest = .ok loaded :=
    loadManifest_eq_ok parsed loads.version loads.keys
  have conclusion : asOneOf bundleConclusions "evidence bundle conclusion is malformed"
      (loaded.get "conclusion") = .ok bundle.record.conclusion :=
    asOneOf_eq_ok.mpr ⟨loads.conclusion, h.conclusion⟩
  have result : asOneOf results "evidence bundle result is malformed" (loaded.get "result") =
      .ok bundle.record.result :=
    asOneOf_eq_ok.mpr ⟨loads.result, Record.result_mem _⟩
  have artifactName : requiredText (loaded.get "artifact_name") "artifact_name" = .ok _ :=
    requiredText_eq_ok.mpr ⟨loads.artifactName, valid.artifactName⟩
  have evidencePath : validateRelativePath (loaded.get "evidence_path") "evidence_path" = .ok "." :=
    loads.evidencePath ▸ (by decide)
  have manifestPath : validateRelativePath (loaded.get "evidence_manifest_path")
      "evidence_manifest_path" = .ok "evidence-manifest.json" := loads.manifestPath ▸ (by decide)
  have present : asBool "evidence_present must be boolean" (loaded.get "evidence_present") =
      .ok (decide (bundle.record.files ≠ [])) := loads.present ▸ rfl
  have files : asArray "evidence_files must be an array" (loaded.get "evidence_files") =
      .ok (bundle.record.files.map IndexEntry.toJson) := loads.files ▸ rfl
  have total : asCount "evidence_total_bytes is malformed" (loaded.get "evidence_total_bytes") =
      .ok bundle.record.totalBytes := loads.total ▸ rfl
  have sum : bundle.record.totalBytes = (bundle.record.files.map IndexEntry.size).sum := rfl
  have count : loaded.get "evidence_file_count" =
      .int (bundle.record.files.map IndexEntry.toJson).length := by
    rw [loads.count, List.length_map]
  obtain ⟨content, dumped, digested⟩ := h.index
  have index : serializeJson codec (.arr (bundle.record.files.map IndexEntry.toJson)) =
      .ok content := serializeJson_eq_ok.mpr dumped
  have indexed : loaded.get "evidence_index_sha256" = .str (sha256Hex digest content) := by
    rw [loads.index, digested]
  have passed : bundle.record.result = "passed" → bundle.record.conclusion = "success" ∧
      bundle.record.files ≠ [] ∧ bundle.record.totalBytes ≠ 0 := Record.passed
  unfold verifyEvidenceBundle
  simp only [load, ok_bind, conclusion, result, artifactName, evidencePath, manifestPath, present,
    files, require_pos count, total, h.indexed.gather_eq, require_pos sum, index,
    require_pos indexed, require_pos passed]
  simp only [bind_eq_ok, require_eq_ok, pure_eq_ok, loads.verify_eq_ok valid, actualFiles_eq_ok]
  constructor
  · rintro ⟨_, _, ⟨path, rfl⟩, _, -, _, ⟨links, rfl⟩, _, paths, _, contents, _, meets, rfl⟩
    rw [loads.locations_eq, expected_eq_ok (Identity.locations_nodup _)] at meets
    exact ⟨path, links, ⟨paths, contents⟩, meets⟩
  · rintro ⟨path, links, ⟨paths, contents⟩, meets⟩
    rw [← expected_eq_ok (Identity.locations_nodup _), ← loads.locations_eq] at meets
    exact ⟨loaded, _, ⟨path, rfl⟩, ⟨⟩, trivial, _, ⟨links, rfl⟩, ⟨⟩, paths, ⟨⟩, contents, ⟨⟩, meets,
      rfl⟩

end Created

end OptimizrActions.Evidence
