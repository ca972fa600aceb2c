import OptimizrActions.Delivery.Rollback

/-! What a rollback plan reads is what the manifest of the delivery recorded. -/

namespace OptimizrActions.Delivery

section Writer

variable {unicodeWord : Char → Bool} {codec : JsonCodec} {clock : Calendar.DateTime}
  {tree after : FileTree Bytes} {spec : ManifestSpec} {result : ExecutorResult}
  {request : DeployRequest} {payload : Mapping}

theorem mapError_eq_ok {ε ε' α : Type} {f : ε → ε'} {x : Except ε α} {a : α} :
    x.mapError f = .ok a ↔ x = .ok a := by
  cases x <;> simp [Except.mapError]

/-- A synchronization that has been checked. -/
structure SyncResult.Checked (sync : SyncResult) : Prop where
  changed : ∃ b, sync.changed = .bool b
  snapshotCreated : ∃ b, sync.snapshotCreated = .bool b
  synced : ∃ b, sync.synced = .bool b
  name : sync.snapshotName = .null ∨
    ∃ name, sync.snapshotName = .str name ∧ isSnapshotName name = true

theorem isBool_iff {v : Json} : isBool v = true ↔ ∃ b, v = .bool b := by
  cases v <;> simp [isBool]

theorem checkSync_eq_ok {texts : SyncTexts} {sync : SyncResult}
    (h : checkSync texts sync = .ok ⟨⟩) : sync.Checked := by
  simp only [checkSync, bind_eq_ok, require_eq_ok] at h
  obtain ⟨_, ⟨changed, created, synced⟩, _, -, _, name, -⟩ := h
  refine ⟨isBool_iff.mp changed, isBool_iff.mp created, isBool_iff.mp synced, ?_⟩
  unfold checkSnapshotName at name
  split at name
  next at_ => exact .inl at_
  next text at_ => exact .inr ⟨text, at_, require_eq_ok.mp name⟩
  next => cases name

/-- What the writer has checked of a result. -/
structure Recorded (result : ExecutorResult) (request : DeployRequest) : Prop where
  parsed : parseRequest result.request = .ok request
  sha : result.headSha = request.candidateSha
  trustedRef : result.trustedRef = request.trustedRef
  unfailed : result.ready = true → result.failureReason = none
  sync : ∀ sync, result.sync = some sync → sync.Checked

theorem validateResult_eq_ok (h : validateResult unicodeWord result = .ok request) :
    Recorded result request := by
  unfold validateResult at h
  simp only [bind_eq_ok, require_eq_ok, pure_eq_ok, mapError_eq_ok] at h
  obtain ⟨_, parsed, _, -, _, ⟨sha, -⟩, _, ref, _, -, _, -, _, -, _, -, _, sync, _, reason, rfl⟩ := h
  refine ⟨parsed, sha, ref, fun ready => ?_, fun one at_ => ?_⟩
  · cases at_ : result.failureReason with
    | none => rfl
    | some text =>
      simp only [at_, validateFailureReason, bind_eq_ok, require_eq_ok, ready] at reason
      obtain ⟨_, _, unready⟩ := reason
      cases unready
  · rw [at_] at sync
    exact checkSync_eq_ok sync

/-- The entries of a manifest that a rollback reads. -/
structure Records (payload : Mapping) (result : ExecutorResult) (request : DeployRequest) :
    Prop where
  version : payload.get "schema_version" = .int 1
  status : payload.get "status" = .str (if result.ready then "success" else "failure")
  ready : payload.get "ready" = .bool result.ready
  failureReason : result.failureReason = none → payload.get "failure_reason" = .null
  request : request.HeldBy payload
  sync : payload.get "sync" =
    (result.sync.map fun sync => .obj (syncMapping sync)).getD .null

theorem manifestPayload_eq_ok (h : manifestPayload clock spec request = .ok payload) :
    Records payload spec.result request := by
  unfold manifestPayload at h
  simp only [bind_eq_ok, pure_eq_ok] at h
  obtain ⟨_, -, _, -, _, -, _, -, _, -, _, -, _, -, _, -, _, failure, rfl⟩ := h
  refine ⟨rfl, rfl, rfl, ?_, ⟨rfl, rfl, rfl, rfl, rfl, rfl, rfl⟩, rfl⟩
  intro none
  rw [none] at failure
  cases failure
  rfl

theorem writeDeliveryManifest_eq_ok
    (h : writeDeliveryManifest codec unicodeWord clock tree spec = .ok after) :
    ∃ request payload content, validateResult unicodeWord spec.result = .ok request ∧
      manifestPayload clock spec request = .ok payload ∧
      codec.dumps (.obj payload) = some content ∧ spec.path.absolute = true ∧
      ∃ dir name, FileTree.Placed tree after spec.path.parts dir name content := by
  unfold writeDeliveryManifest manifestPath at h
  simp only [bind_eq_ok, require_eq_ok, pure_eq_ok] at h
  obtain ⟨_, ⟨_, absolute, _, -, _, plain, _, -, _, absent, rfl⟩, request, valid, payload, made, h⟩ := h
  cases encoded : codec.dumps (.obj payload) with
  | none => simp [encoded] at h
  | some content =>
    cases placed : tree.replace spec.path.parts content with
    | none => simp [encoded, placed] at h
    | some written =>
      simp only [encoded, placed, Except.ok.injEq] at h
      subst h
      exact ⟨request, payload, content, valid, made, encoded, absolute,
        FileTree.placed_of_replace plain absent placed⟩

end Writer

section Reader

variable {result : ExecutorResult} {request : DeployRequest} {payload loaded : Mapping}

/-- The entries agree with what was written. -/
def LoadedFrom (payload loaded : Mapping) : Prop :=
  ∀ key, Json.Same (payload.get key) (loaded.get key)

theorem LoadedFrom.get {key : String} {v : Json} (same : LoadedFrom payload loaded)
    (at_ : payload.get key = v) (scalar : v.IsScalar) : loaded.get key = v := by
  subst at_
  exact (same key).eq_of_isScalar scalar

theorem isApproved_iff (records : Records payload result request)
    (unfailed : result.ready = true → result.failureReason = none)
    (same : LoadedFrom payload loaded) : IsApproved loaded ↔ result.ready = true := by
  have version := same.get records.version trivial
  have status := same.get records.status trivial
  have ready := same.get records.ready trivial
  unfold IsApproved
  rw [version, status, ready]
  constructor
  · rintro ⟨-, -, ready, -⟩
    exact Json.bool.inj ready
  · intro isReady
    rw [isReady]
    exact ⟨rfl, rfl, rfl, same.get (records.failureReason (unfailed isReady)) trivial⟩

theorem requestFromManifest_eq (parsed : parseRequest result.request = .ok request)
    (records : Records payload result request) (same : LoadedFrom payload loaded) :
    requestFromManifest loaded = .ok { request with reason := none } := by
  obtain ⟨-, valid, -, -⟩ := parseRequest_eq_ok.mp parsed
  refine mapError_eq_ok.mpr (parseRequest_eq_ok.mpr ⟨?_, ⟨valid.repository, valid.service,
    valid.candidateSha, valid.trustedRef, valid.composeFile, valid.containerName, valid.adapter⟩,
    ?_, rfl⟩)
  · rw [unknownKeys, List.map_map]
    rfl
  · exact ⟨same.get records.request.repository trivial, same.get records.request.service trivial,
      same.get records.request.candidateSha trivial, same.get records.request.trustedRef trivial,
      same.get records.request.composeFile trivial, same.get records.request.containerName trivial,
      same.get records.request.adapter trivial⟩

/-- The delivery was synchronized, with this snapshot taken before. -/
structure SyncedWith (result : ExecutorResult) (name : String) : Prop where
  sync : ∃ sync, result.sync = some sync ∧ sync.changed = .bool true ∧
    sync.snapshotCreated = .bool true ∧ sync.synced = .bool true ∧ sync.snapshotName = .str name

theorem SyncedWith.isSnapshotName {name : String} (synced : SyncedWith result name)
    (recorded : Recorded result request) : isSnapshotName name = true := by
  obtain ⟨sync, one, -, -, -, named⟩ := synced
  rcases (recorded.sync sync one).name with missing | ⟨text, at_, safe⟩
  · cases missing.symm.trans named
  · cases at_.symm.trans named
    exact safe

theorem snapshotName_eq_ok {name : String} (recorded : Recorded result request)
    (records : Records payload result request) (same : LoadedFrom payload loaded) :
    snapshotName loaded = .ok name ↔ SyncedWith result name ∧ isSnapshotName name = true := by
  have at_ := same "sync"
  rw [records.sync] at at_
  unfold snapshotName
  cases one : result.sync with
  | none =>
    rw [one] at at_
    rw [at_.eq_of_isScalar trivial]
    refine ⟨nofun, ?_⟩
    rintro ⟨⟨_, some, -⟩, -⟩
    cases one.symm.trans some
  | some sync =>
    rw [one] at at_
    obtain ⟨g, obj, each⟩ := at_.obj_left
    have checked := recorded.sync sync one
    obtain ⟨changed, atChanged⟩ := checked.changed
    obtain ⟨created, atCreated⟩ := checked.snapshotCreated
    obtain ⟨synced, atSynced⟩ := checked.synced
    have getChanged : Mapping.get g "changed" = .bool changed := LoadedFrom.get each atChanged trivial
    have getCreated : Mapping.get g "snapshot_created" = .bool created :=
      LoadedFrom.get each atCreated trivial
    have getSynced : Mapping.get g "synced" = .bool synced := LoadedFrom.get each atSynced trivial
    have flags : (∀ field ∈ syncFlags, Mapping.get g field = .bool true) ↔
        changed = true ∧ created = true ∧ synced = true := by
      simp [syncFlags, getChanged, getCreated, getSynced]
    have areFlags : ∀ field ∈ syncFlags, isBool (Mapping.get g field) = true := by
      simp [syncFlags, getChanged, getCreated, getSynced, isBool]
    have whole : SyncedWith result name ↔
        (changed = true ∧ created = true ∧ synced = true) ∧ sync.snapshotName = .str name := by
      constructor
      · rintro ⟨_, some, isChanged, isCreated, isSynced, named⟩
        cases one.symm.trans some
        rw [atChanged] at isChanged
        rw [atCreated] at isCreated
        rw [atSynced] at isSynced
        exact ⟨⟨Json.bool.inj isChanged, Json.bool.inj isCreated, Json.bool.inj isSynced⟩, named⟩
      · rintro ⟨⟨rfl, rfl, rfl⟩, named⟩
        exact ⟨sync, one, atChanged, atCreated, atSynced, named⟩
    rw [obj, whole]
    simp only [bind_eq_ok, require_eq_ok, flags]
    rcases checked.name with missing | ⟨text, atName, safe⟩
    · have getName : Mapping.get g "snapshot_name" = .null := LoadedFrom.get each missing trivial
      simp [getName, missing]
    · have getName : Mapping.get g "snapshot_name" = .str text := LoadedFrom.get each atName trivial
      simp only [getName, atName, bind_eq_ok, require_eq_ok, pure_eq_ok, Json.str.injEq]
      constructor
      · rintro ⟨_, -, _, all, _, -, rfl⟩
        exact ⟨⟨all, rfl⟩, safe⟩
      · rintro ⟨⟨all, rfl⟩, -⟩
        exact ⟨⟨⟩, areFlags, ⟨⟩, all, ⟨⟩, safe, rfl⟩

end Reader

section Tree

variable {tree : FileTree Bytes}

theorem regularFileBelow_eq_ok {root resolved path : List String} {label : String}
    (canonical : tree.Canonical resolved) :
    regularFileBelow tree root label resolved = .ok path ↔
      ((root ≠ resolved ∧ root <+: resolved) ∧
        ∃ content, tree.node resolved = some (.file content)) ∧ resolved = path := by
  simp only [regularFileBelow, bind_eq_ok, require_eq_ok, pure_eq_ok, exists_const,
    canonical.isFile_iff, FileTree.isSymlink_of_done canonical, and_true, and_assoc]

theorem below_append_singleton {root dir : List String} {name : String} (h : root <+: dir) :
    root ≠ dir ++ [name] ∧ root <+: dir ++ [name] := by
  refine ⟨?_, h.trans (List.prefix_append _ _)⟩
  rintro rfl
  have := h.length_le
  simp at this

theorem ne_up_of_isSnapshotName {name : String} (h : isSnapshotName name = true) : name ≠ ".." := by
  rintro rfl
  revert h
  decide

theorem snapshotFromManifest_eq_ok {payload : Mapping} {root path : List String}
    (canonical : tree.Canonical root)
    (safe : ∀ name, snapshotName payload = .ok name → isSnapshotName name = true) :
    snapshotFromManifest tree payload root = .ok path ↔
      ∃ name, snapshotName payload = .ok name ∧ path = root ++ [name] ∧
        ∃ content, tree.node (root ++ [name]) = some (.file content) := by
  simp only [snapshotFromManifest, bind_eq_ok, require_eq_ok]
  refine exists_congr fun name => and_congr_right fun named => ?_
  have up := ne_up_of_isSnapshotName (safe name named)
  constructor
  · rintro ⟨_, plain, found⟩
    cases at_ : tree.resolve (root ++ [name]) with
    | none => simp [at_] at found
    | some resolved =>
      have led := FileTree.done_of_resolve at_ plain
      obtain ⟨part, first, last⟩ := FileTree.done_of_append led
      cases canonical.symm.trans first
      have same : resolved = root ++ [name] := by
        simp only [FileTree.descend, if_neg up] at last
        split at last
        · cases last
        · cases last
        · exact (FileTree.Descent.done.inj last).symm
      simp only [at_] at found
      obtain ⟨⟨-, file⟩, rfl⟩ :=
        (regularFileBelow_eq_ok (FileTree.canonical_of_resolve at_)).mp found
      exact ⟨same, same ▸ file⟩
  · rintro ⟨rfl, content, file⟩
    have inside : tree.Canonical (root ++ [name]) :=
      FileTree.canonical_append_singleton.mpr ⟨canonical, up, _, file, by rintro _ _ ⟨⟩⟩
    refine ⟨⟨⟩, FileTree.throughSymlink_of_done inside, ?_⟩
    simp only [inside.resolve]
    exact (regularFileBelow_eq_ok inside).mpr
      ⟨⟨below_append_singleton (List.prefix_refl root), content, file⟩, rfl⟩

theorem canonical_of_existingRoot {path : RawPath} {label : String} {root : List String}
    (h : existingRoot tree path label = .ok root) : tree.Canonical root := by
  simp only [existingRoot, bind_eq_ok, require_eq_ok] at h
  obtain ⟨_, _, _, _, found⟩ := h
  cases at_ : tree.resolve path.parts with
  | none => simp [at_] at found
  | some resolved =>
    simp only [at_, bind_eq_ok, require_eq_ok, pure_eq_ok] at found
    obtain ⟨_, _, rfl⟩ := found
    exact FileTree.canonical_of_resolve at_

/-- A file that has been placed below a root is found below it. -/
theorem fileBelow_of_placed {before after : FileTree Bytes} {path : RawPath}
    {root dir : List String} {name : String} {content : Bytes}
    (placed : FileTree.Placed before after path.parts dir name content)
    (absolute : path.absolute = true) (below : root <+: dir) (label : String) :
    fileBelow after path root label = .ok (dir ++ [name]) ∧
      after.read (dir ++ [name]) = some content := by
  have canonical := FileTree.canonical_nil.descend placed.led
  refine ⟨?_, canonical.read placed.file⟩
  simp only [fileBelow, bind_eq_ok, require_eq_ok]
  refine ⟨⟨⟩, absolute, ⟨⟩, FileTree.throughSymlink_of_done placed.led, ?_⟩
  simp only [FileTree.resolve, FileTree.follow_of_done placed.led]
  exact (regularFileBelow_eq_ok canonical).mpr
    ⟨⟨below_append_singleton below, content, placed.file⟩, rfl⟩

end Tree

/-- A human authorized this rollback of this delivery, and both roots are directories, the
manifest's place being inside its own. -/
structure Authorized (after : FileTree Bytes) (manifest : ManifestSpec) (spec : RollbackSpec)
    (snapshots : List String) : Prop where
  path : spec.manifestPath = manifest.path
  manifestRoot : ∃ root dir, existingRoot after spec.manifestRoot "manifest root" = .ok root ∧
    after.resolve manifest.path.parts.dropLast = some dir ∧ root <+: dir
  snapshotRoot : existingRoot after spec.snapshotRoot "snapshot root" = .ok snapshots
  operator : singleLine "operator" spec.operator = .ok spec.operator
  reason : singleLine "reason" spec.reason = .ok spec.reason
  service : manifest.result.request.get "service" = .str spec.service
  confirmation : spec.confirmation = confirmationText spec.service manifest.result.headSha

/-- The delivery was ready, and its snapshot is a regular file below the root. -/
structure Restorable (after : FileTree Bytes) (result : ExecutorResult)
    (snapshots : List String) : Prop where
  ready : result.ready = true
  snapshot : ∃ name content, SyncedWith result name ∧
    after.node (snapshots ++ [name]) = some (.file content)

/-- The plan is for what the delivery recorded. -/
structure RollbackPlan.Carries (plan : RollbackPlan) (result : ExecutorResult)
    (snapshots : List String) : Prop where
  repository : result.request.get "repository" = .str plan.repository
  service : result.request.get "service" = .str plan.service
  candidateSha : result.headSha = plan.candidateSha
  trustedRef : result.trustedRef = plan.trustedRef
  composeFile : result.request.get "compose_file" = .str plan.composeFile
  containerName : result.request.get "container_name" = .str plan.containerName
  adapter : result.request.get "adapter" = .str plan.adapter
  snapshotPath : ∃ name, SyncedWith result name ∧ plan.snapshotPath = snapshots ++ [name]

section

variable {codec : JsonCodec} {unicodeWord : Char → Bool} {clock : Calendar.DateTime}
  {before after : FileTree Bytes} {manifest : ManifestSpec} {spec : RollbackSpec}
  {snapshots : List String}

/-- What a rollback of a written manifest comes down to. -/
theorem buildRollbackPlan_eq_ok (keeps : ∀ payload, codec.Keeps (.obj payload))
    (written : writeDeliveryManifest codec unicodeWord clock before manifest = .ok after)
    (authorized : Authorized after manifest spec snapshots) :
    ∃ request manifestPath, Recorded manifest.result request ∧
      ∀ plan, buildRollbackPlan after codec spec = .ok plan ↔ manifest.result.ready = true ∧
        ∃ name, SyncedWith manifest.result name ∧
          (∃ content, after.node (snapshots ++ [name]) = some (.file content)) ∧
          plan = ⟨request.repository, request.service, request.candidateSha, request.trustedRef,
            request.composeFile, request.containerName, request.adapter, manifestPath,
            snapshots ++ [name], spec.operator, spec.reason⟩ := by
  obtain ⟨request, payload, content, valid, made, encoded, absolute, dir, name, placed⟩ :=
    writeDeliveryManifest_eq_ok written
  obtain ⟨_, parsedText, sameText⟩ := keeps payload content encoded
  obtain ⟨loaded, rfl, same⟩ := sameText.obj_left
  have same : LoadedFrom payload loaded := same
  have recorded := validateResult_eq_ok valid
  have records := manifestPayload_eq_ok made
  obtain ⟨-, fields, held, -⟩ := parseRequest_eq_ok.mp recorded.parsed
  obtain ⟨root, dir', root_ok, parent, below⟩ := authorized.manifestRoot
  rw [FileTree.resolve, FileTree.follow_of_done placed.parent] at parent
  cases parent
  obtain ⟨located, contents⟩ := fileBelow_of_placed placed absolute below "manifest path"
  have service : request.service = spec.service :=
    Json.str.inj (held.service.symm.trans authorized.service)
  have isService : isIdentifier spec.service = true := service ▸ fields.service.2
  have confirmed : spec.confirmation = confirmationText request.service request.candidateSha := by
    rw [authorized.confirmation, service, recorded.sha]
  have safe : ∀ name, snapshotName loaded = .ok name → isSnapshotName name = true :=
    fun name ok => ((snapshotName_eq_ok recorded records same).mp ok).2
  have approved := isApproved_iff records recorded.unfailed same
  have load : ∀ m, loadManifest after codec (dir ++ [name]) = .ok m ↔
      manifest.result.ready = true ∧ loaded = m := by
    intro m
    simp only [loadManifest, contents, Option.bind_some, parsedText, bind_eq_ok, require_eq_ok,
      pure_eq_ok, exists_const, approved]
  refine ⟨request, dir ++ [name], recorded, fun plan => ?_⟩
  simp only [buildRollbackPlan, require_pos isService, ok_bind, authorized.operator,
    authorized.reason, root_ok, authorized.snapshotRoot, authorized.path, located]
  simp only [bind_eq_ok, load, require_eq_ok, pure_eq_ok]
  constructor
  · rintro ⟨_, ⟨ready, rfl⟩, _, read, _, -, _, -, path, snapshot, rfl⟩
    rw [requestFromManifest_eq recorded.parsed records same] at read
    cases read
    obtain ⟨name, named, rfl, file⟩ := (snapshotFromManifest_eq_ok
      (canonical_of_existingRoot authorized.snapshotRoot) safe).mp snapshot
    exact ⟨ready, name, ((snapshotName_eq_ok recorded records same).mp named).1, file, rfl⟩
  · rintro ⟨ready, name, synced, file, rfl⟩
    have named : snapshotName loaded = .ok name :=
      (snapshotName_eq_ok recorded records same).mpr ⟨synced, synced.isSnapshotName recorded⟩
    exact ⟨loaded, ⟨ready, rfl⟩, _, requestFromManifest_eq recorded.parsed records same, ⟨⟩,
      service, ⟨⟩, confirmed, _, (snapshotFromManifest_eq_ok
        (canonical_of_existingRoot authorized.snapshotRoot) safe).mpr ⟨name, named, rfl, file⟩, rfl⟩

/-- A manifest that was written is accepted exactly when its delivery can be restored, and
the plan is for that delivery. -/
theorem buildRollbackPlan_of_written (keeps : ∀ payload, codec.Keeps (.obj payload))
    (written : writeDeliveryManifest codec unicodeWord clock before manifest = .ok after)
    (authorized : Authorized after manifest spec snapshots) :
    ((∃ plan, buildRollbackPlan after codec spec = .ok plan) ↔
        Restorable after manifest.result snapshots) ∧
      ∀ plan, buildRollbackPlan after codec spec = .ok plan →
        plan.Carries manifest.result snapshots := by
  constructor
  · constructor
    · rintro ⟨plan, built⟩
      obtain ⟨_, _, -, accepted⟩ := buildRollbackPlan_eq_ok keeps written authorized
      obtain ⟨ready, name, synced, ⟨content, file⟩, -⟩ := (accepted _).mp built
      exact ⟨ready, name, content, synced, file⟩
    · rintro ⟨ready, name, content, synced, file⟩
      obtain ⟨_, _, -, accepted⟩ := buildRollbackPlan_eq_ok keeps written authorized
      exact ⟨_, (accepted _).mpr ⟨ready, name, synced, ⟨content, file⟩, rfl⟩⟩
  · intro plan built
    obtain ⟨request, _, recorded, accepted⟩ := buildRollbackPlan_eq_ok keeps written authorized
    obtain ⟨-, name, synced, -, rfl⟩ := (accepted _).mp built
    obtain ⟨-, -, held, -⟩ := parseRequest_eq_ok.mp recorded.parsed
    exact ⟨held.repository, held.service, recorded.sha, recorded.trustedRef, held.composeFile,
      held.containerName, held.adapter, name, synced, rfl⟩

end

def sampleSha : String := "0123456789012345678901234567890123456789"

def sampleRequest : DeployRequest where
  repository := "acme/shop"
  service := "web"
  candidateSha := sampleSha
  trustedRef := "refs/heads/main"
  composeFile := "compose.yml"
  containerName := "web"
  adapter := "manual"

def sampleGate (name : String) : Mapping :=
  [("name", .str name), ("status", .str "passed"), ("target", .str "web")]

def sampleManifest : ManifestSpec where
  result := executorResult sampleRequest ⟨["checkout"], sampleSha, "refs/heads/main"⟩
    (some ⟨.bool true, .int 3, .bool true, .str "s1.tar.gz", .bool true⟩)
    ⟨true, none, [sampleGate "security"]⟩ (some ⟨true, none, [sampleGate "health"]⟩)
  path := ⟨true, ["deliveries", "7.json"]⟩
  environment := .str "prod"
  workflow := .str "deploy"
  runId := .str "7"
  actor := .str "ci"
  runnerName := .str "r1"

def samplePayload : Mapping :=
  [("schema_version", .int 1), ("generated_at", .str "2026-03-01T12:00:00Z"),
    ("status", .str "success"), ("ready", .bool true), ("repository", .str "acme/shop"),
    ("service", .str "web"), ("candidate_sha", .str sampleSha),
    ("trusted_ref", .str "refs/heads/main"), ("adapter", .str "manual"),
    ("compose_file", .str "compose.yml"), ("container_name", .str "web"),
    ("environment", .str "prod"), ("workflow", .str "deploy"), ("run_id", .str "7"),
    ("actor", .str "ci"), ("runner_name", .str "r1"), ("images", .arr []),
    ("gates", .arr [.obj (sampleGate "security"), .obj (sampleGate "health")]),
    ("rollback_of", .null), ("failure_reason", .null),
    ("sync", .obj [("changed", .bool true), ("changed_entries", .int 3),
      ("snapshot_created", .bool true), ("snapshot_name", .str "s1.tar.gz"),
      ("synced", .bool true)])]

def sampleText : String :=
  "\x7b\n  \"actor\": \"ci\",\n  \"adapter\": \"manual\",\n  \"candidate_sha\": \"" ++ sampleSha ++
  "\",\n  \"compose_file\": \"compose.yml\",\n  \"container_name\": \"web\",\n" ++
  "  \"environment\": \"prod\",\n  \"failure_reason\": null,\n  \"gates\": [\n    \x7b\n" ++
  "      \"name\": \"security\",\n      \"status\": \"passed\",\n      \"target\": \"web\"\n" ++
  "    \x7d,\n    \x7b\n      \"name\": \"health\",\n      \"status\": \"passed\",\n" ++
  "      \"target\": \"web\"\n    \x7d\n  ],\n  \"generated_at\": \"2026-03-01T12:00:00Z\",\n" ++
  "  \"images\": [],\n  \"ready\": true,\n  \"repository\": \"acme/shop\",\n" ++
  "  \"rollback_of\": null,\n  \"run_id\": \"7\",\n  \"runner_name\": \"r1\",\n" ++
  "  \"schema_version\": 1,\n  \"service\": \"web\",\n  \"status\": \"success\",\n" ++
  "  \"sync\": \x7b\n    \"changed\": true,\n    \"changed_entries\": 3,\n" ++
  "    \"snapshot_created\": true,\n    \"snapshot_name\": \"s1.tar.gz\",\n" ++
  "    \"synced\": true\n  \x7d,\n  \"trusted_ref\": \"refs/heads/main\",\n" ++
  "  \"workflow\": \"deploy\"\n\x7d\n"

def sampleContent : Bytes := sampleText.toUTF8.toList

/-- The codec on the one manifest. -/
def sampleCodec : JsonCodec where
  dumps v := if v = .obj samplePayload then some sampleContent else none
  loads content := if content = sampleContent then
    some (.obj (samplePayload.insertionSort (·.1 ≤ ·.1))) else none

theorem sampleCodec_keeps (payload : Mapping) : sampleCodec.Keeps (.obj payload) := by
  intro content encoded
  simp only [sampleCodec, Json.obj.injEq, Option.ite_none_right_eq_some, Option.some.injEq]
    at encoded
  obtain ⟨rfl, rfl⟩ := encoded
  exact ⟨_, if_pos rfl, Json.Same.of_perm (List.perm_insertionSort _ _).symm (by decide)⟩

def sampleTree : FileTree Bytes where
  node path :=
    if path ∈ [[], ["deliveries"], ["snapshots"]] then some .directory
    else if path = ["snapshots", "s1.tar.gz"] then some (.file []) else none
  root := rfl
  parent := by
    intro dir name n at_
    split_ifs at at_ with isDirectory isFile
    · match dir with
      | [] => rfl
      | _ :: rest => simp at isDirectory
    · obtain ⟨rfl, -⟩ := List.append_inj' (show dir ++ [name] = ["snapshots"] ++ _ from isFile) rfl
      rfl

def sampleAfter : FileTree Bytes :=
  sampleTree.put ["deliveries"] "7.json" sampleContent rfl nofun

def sampleRollback : RollbackSpec where
  manifestPath := ⟨true, ["deliveries", "7.json"]⟩
  manifestRoot := ⟨true, ["deliveries"]⟩
  snapshotRoot := ⟨true, ["snapshots"]⟩
  service := "web"
  confirmation := "ROLLBACK web " ++ sampleSha
  operator := "alice"
  reason := "bad release"

def sampleClock : Calendar.DateTime := ⟨2026, 3, 1, 12, 0, 0, 0, by decide⟩

theorem sample_written :
    writeDeliveryManifest sampleCodec (fun _ => false) sampleClock sampleTree sampleManifest =
      .ok sampleAfter := by
  have path : manifestPath sampleTree sampleManifest.path = .ok ["deliveries", "7.json"] := by
    decide +kernel
  have valid : validateResult (fun _ => false) sampleManifest.result = .ok sampleRequest := by
    decide +kernel
  have payload : manifestPayload sampleClock sampleManifest sampleRequest = .ok samplePayload := by
    decide +kernel
  have encoded : sampleCodec.dumps (.obj samplePayload) = some sampleContent := by
    simp only [sampleCodec, if_true]
  have replaced : sampleTree.replace ["deliveries", "7.json"] sampleContent = some sampleAfter :=
    rfl
  simp only [writeDeliveryManifest, path, valid, payload, ok_bind, encoded, replaced]

theorem sample_authorized :
    Authorized sampleAfter sampleManifest sampleRollback ["snapshots"] where
  path := rfl
  manifestRoot := ⟨["deliveries"], ["deliveries"], by decide +kernel, rfl, List.prefix_refl _⟩
  snapshotRoot := by decide +kernel
  operator := by decide +kernel
  reason := by decide +kernel
  service := rfl
  confirmation := rfl

/-- The delivery that was recorded can be rolled back. -/
theorem buildRollbackPlan_of_written_sample :
    (∃ plan, buildRollbackPlan sampleAfter sampleCodec sampleRollback = .ok plan) ∧
      Restorable sampleAfter sampleManifest.result ["snapshots"] := by
  have restorable : Restorable sampleAfter sampleManifest.result ["snapshots"] :=
    ⟨rfl, "s1.tar.gz", [], ⟨_, rfl, rfl, rfl, rfl, rfl⟩, rfl⟩
  exact ⟨(buildRollbackPlan_of_written sampleCodec_keeps sample_written
    sample_authorized).1.mpr restorable, restorable⟩

end OptimizrActions.Delivery
