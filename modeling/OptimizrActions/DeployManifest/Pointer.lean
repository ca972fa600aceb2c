import OptimizrActions.DeployManifest.Remediation
import OptimizrActions.DeployManifest.WriteLaws

/-! The pointer to the last successful deployment, over every sequence of calls. -/

namespace OptimizrActions.DeployManifest

open Delivery (Bytes)

/-- The manifest directory of a service, and which of its manifests is the successful one that was
written last, for as long as retention keeps it. -/
structure Service where
  dir : ManifestDir
  latest : Option String

inductive Call where
  | write (clock : Calendar.DateTime) (config : ManifestConfig)
  | decorate (decoration : Decoration)

/-- The service after the writes of a prepared manifest. -/
def Service.write (prepared : Prepared) (s : Service) : Service :=
  if (s.dir.get prepared.name).any Node.exists_ then s
  else
    let dir := (commitManifest prepared s.dir).2
    let latest := if prepared.success then some prepared.name else s.latest
    ⟨dir, latest.filter (· ∈ dir.names)⟩

section

variable (codec : JsonCodec) (unicodeWord : Char → Bool) (at_ : List String)

/-- The service after a call, whether it returns or raises. -/
def step (s : Service) : Call → Service
  | .write clock config =>
    match prepareManifest codec unicodeWord clock config with
    | .ok prepared => s.write prepared
    | .error _ => s
  | .decorate d => ⟨(decorateManifest codec at_ ⟨false, false⟩ d s.dir).2, s.latest⟩

/-- The content is a payload of a successful deployment. -/
def Successful (content : Bytes) : Prop :=
  ∃ payload, codec.loads content = some (.obj payload) ∧
    Mapping.get payload "status" = .str "success"

/-- What `last-successful.json` holds, where it is there. -/
def PointerHolds (s : Service) : Prop :=
  ∀ node, s.dir.get lastSuccessfulName = some node → ∃ content, node = .file content ∧
    Successful codec content ∧ ∀ name, s.latest = some name → s.dir.get name = some (.file content)

/-- The checks of the call pass and the manifest is read. -/
def Accepted (s : Service) (d : Decoration) : Prop :=
  ∃ fields payload, decorationFields d = .ok fields ∧
    loadManifest codec at_ d.manifest s.dir = .ok payload

/-- A decoration says `success` of the last successful manifest, with the pointer of its
directory, and of no other; none decorates the pointer itself. -/
def Agrees (s : Service) : Call → Prop
  | .write _ _ => True
  | .decorate d => Accepted codec at_ s d →
    d.manifest.name ≠ lastSuccessfulName ∧ (d.status = "success" ↔ s.latest = some d.manifest.name) ∧
      (d.status = "success" → d.lastSuccessful = ⟨d.manifest.parent, lastSuccessfulName⟩)

/-- The write or the decoration of a failed deployment. -/
def Failed (s : Service) : Call → Prop
  | .write _ config => config.status ≠ "success"
  | .decorate d => d.status ≠ "success" ∨
    ∀ content, s.dir.get d.manifest.name = some (.file content) → ¬Successful codec content

/-- The services after the calls of a sequence, each of which agrees with the one before it. -/
inductive Reaches (start : Service) : Service → Prop
  | start : Reaches start start
  | step {s : Service} {call : Call} (before : Reaches start s) (agrees : Agrees codec at_ s call) :
      Reaches start (step codec unicodeWord at_ s call)

/-- The invariant of these sequences. -/
structure Inv (s : Service) : Prop where
  latest : ∀ name, s.latest = some name → name ≠ lastSuccessfulName ∧
    ∃ content, s.dir.get name = some (.file content) ∧ Successful codec content
  pointer : PointerHolds codec s

end

section Write

variable {codec : JsonCodec} {s : Service} {prepared : Prepared}

theorem Inv.not_directory (inv : Inv codec s) : s.dir.get lastSuccessfulName ≠ some .directory := by
  intro held
  obtain ⟨content, file, -⟩ := inv.pointer _ held
  exact absurd file nofun

theorem Service.write_of_exists (old : (s.dir.get prepared.name).any Node.exists_ = true) :
    s.write prepared = s := if_pos old

/-- What is left of the directory after a write. -/
theorem Service.write_dir (inv : Inv codec s) (ne : prepared.name ≠ lastSuccessfulName)
    (new : ¬(s.dir.get prepared.name).any Node.exists_ = true) :
    (s.write prepared).dir = (unlinkAll (expiredBy prepared s.dir) (placed prepared s.dir)).2 := by
  rw [Service.write, if_neg new]
  exact commitManifest_dir ne new inv.not_directory

theorem Service.get_write_last (inv : Inv codec s) (ne : prepared.name ≠ lastSuccessfulName)
    (new : ¬(s.dir.get prepared.name).any Node.exists_ = true) :
    (s.write prepared).dir.get lastSuccessfulName =
      (placed prepared s.dir).get lastSuccessfulName := by
  rw [Service.write_dir inv ne new]
  exact get_unlinkAll_of_not_mem last_not_mem_expiredBy

/-- The last successful manifest after a write: it was kept. -/
theorem Service.write_latest (inv : Inv codec s) (ne : prepared.name ≠ lastSuccessfulName)
    (new : ¬(s.dir.get prepared.name).any Node.exists_ = true) {name : String}
    (h : (s.write prepared).latest = some name) :
    (if prepared.success then some prepared.name else s.latest) = some name ∧
      (s.write prepared).dir.get name = (placed prepared s.dir).get name := by
  have kept : name ∈ (s.write prepared).dir.names ∧
      (if prepared.success then some prepared.name else s.latest) = some name := by
    rw [Service.write, if_neg new] at h ⊢
    obtain ⟨at_, mem⟩ := Option.filter_eq_some_iff.mp h
    exact ⟨of_decide_eq_true mem, at_⟩
  obtain ⟨node, left⟩ := Directory.mem_names.mp kept.1
  refine ⟨kept.2, left.trans ?_⟩
  rw [Service.write_dir inv ne new] at left
  exact (get_unlinkAll left).symm

/-- The manifest that was the last successful one is another file. -/
theorem Inv.latest_ne (inv : Inv codec s) {name : String} (h : s.latest = some name)
    (new : ¬(s.dir.get prepared.name).any Node.exists_ = true) : name ≠ prepared.name := by
  rintro rfl
  obtain ⟨-, content, held, -⟩ := inv.latest _ h
  exact new (by rw [held]; rfl)

theorem Inv.write (inv : Inv codec s) (ne : prepared.name ≠ lastSuccessfulName)
    (good : prepared.success = true → Successful codec prepared.content) :
    Inv codec (s.write prepared) := by
  by_cases new : (s.dir.get prepared.name).any Node.exists_ = true
  · rwa [Service.write_of_exists new]
  by_cases success : prepared.success = true
  · have pointer := Service.get_write_last inv ne new
    rw [get_placed_last_of_success success] at pointer
    have manifest {name : String} (h : (s.write prepared).latest = some name) :
        name = prepared.name ∧ (s.write prepared).dir.get name = some (.file prepared.content) := by
      obtain ⟨at_, kept⟩ := Service.write_latest inv ne new h
      rw [if_pos success] at at_
      cases at_
      exact ⟨rfl, kept.trans (get_placed_name ne)⟩
    refine ⟨fun name h => ?_, fun node held => ?_⟩
    · obtain ⟨rfl, held⟩ := manifest h
      exact ⟨ne, prepared.content, held, good success⟩
    · cases pointer.symm.trans held
      exact ⟨prepared.content, rfl, good success, fun name h => (manifest h).2⟩
  · have pointer := Service.get_write_last inv ne new
    rw [get_placed_last_of_failure ne success] at pointer
    have manifest {name : String} (h : (s.write prepared).latest = some name) :
        s.latest = some name ∧ (s.write prepared).dir.get name = s.dir.get name := by
      obtain ⟨at_, kept⟩ := Service.write_latest inv ne new h
      rw [if_neg success] at at_
      exact ⟨at_, kept.trans (get_placed_of_ne (inv.latest_ne at_ new) (inv.latest name at_).1)⟩
    refine ⟨fun name h => ?_, fun node held => ?_⟩
    · obtain ⟨before, same⟩ := manifest h
      rw [same]
      exact inv.latest name before
    · rw [pointer] at held
      obtain ⟨content, file, successful, agrees⟩ := inv.pointer node held
      refine ⟨content, file, successful, fun name h => ?_⟩
      obtain ⟨before, same⟩ := manifest h
      rw [same]
      exact agrees name before

theorem Service.write_pointer_of_failure (inv : Inv codec s)
    (ne : prepared.name ≠ lastSuccessfulName) (failure : ¬prepared.success = true) :
    (s.write prepared).dir.get lastSuccessfulName = s.dir.get lastSuccessfulName := by
  by_cases new : (s.dir.get prepared.name).any Node.exists_ = true
  · rw [Service.write_of_exists new]
  · rw [Service.get_write_last inv ne new, get_placed_last_of_failure ne failure]

end Write

section Decorate

variable {codec : JsonCodec} {at_ : List String} {s : Service} {d : Decoration}

theorem get_update_of_not_mem {fields : Mapping} {key : String}
    (absent : key ∉ fields.map Prod.fst) (payload : Mapping) :
    (update payload fields).get key = payload.get key := by
  induction fields generalizing payload with
  | nil => rfl
  | cons entry rest ih =>
    rw [List.map_cons, List.mem_cons, not_or] at absent
    exact (ih absent.2 _).trans (Mapping.get_set_of_ne absent.1)

theorem nodup_update {fields payload : Mapping} (h : (payload.map Prod.fst).Nodup) :
    ((update payload fields).map Prod.fst).Nodup := by
  induction fields generalizing payload with
  | nil => exact h
  | cons entry rest ih =>
    refine ih (List.nodup_cons.mpr ⟨fun mem => ?_, h.sublist (List.filter_sublist.map _)⟩)
    obtain ⟨old, inside, same⟩ := List.mem_map.mp mem
    exact of_decide_eq_true (List.mem_filter.mp inside).2 same

theorem status_not_mem_fields {fields : Mapping} (h : decorationFields d = .ok fields) :
    "status" ∉ fields.map Prod.fst := by
  simp only [decorationFields, bind_eq_ok] at h
  obtain ⟨_, -, _, -, _, -, _, -, rest⟩ := h
  split at rest
  next =>
    simp only [bind_eq_ok, pure_eq_ok] at rest
    obtain ⟨_, -, _, -, _, -, rfl⟩ := rest
    simp
  next => exact absurd rest error_ne_ok

/-- The manifest that is decorated is a file of the directory. -/
theorem loadManifest_eq_ok {dir : ManifestDir} {path : FilePath} {payload : Mapping}
    (h : loadManifest codec at_ path dir = .ok payload) :
    ∃ content, dir.get path.name = some (.file content) ∧
      codec.loads content = some (.obj payload) := by
  unfold loadManifest at h
  split at h
  next content held =>
    split_ifs at held
    obtain ⟨_, -, rest⟩ := bind_eq_ok.mp h
    split at rest
    next => exact absurd rest error_ne_ok
    next fields loaded =>
      simp only [bind_eq_ok, pure_eq_ok] at rest
      obtain ⟨_, -, rfl⟩ := rest
      exact ⟨content, held, loaded⟩
    next => exact absurd rest error_ne_ok
  next => exact absurd h error_ne_ok

theorem decorateManifest_of_not_accepted {faults : Faults} (h : ¬Accepted codec at_ s d) :
    (decorateManifest codec at_ faults d s.dir).2 = s.dir := by
  unfold decorateManifest
  split
  next => rfl
  next => rfl
  next fields payload fieldsOk payloadOk => exact absurd ⟨fields, payload, fieldsOk, payloadOk⟩ h

theorem successful_of_dumps (keeps : ∀ v, codec.Keeps v) {payload : Mapping} {content : Bytes}
    (dumped : codec.dumps (.obj payload) = some content)
    (status : payload.get "status" = .str "success") : Successful codec content := by
  obtain ⟨w, loaded, same⟩ := keeps _ _ dumped
  obtain ⟨read, rfl, each⟩ := same.obj_left
  refine ⟨read, loaded, ?_⟩
  have there := each "status"
  rw [status] at there
  exact there.eq_of_isScalar trivial

/-- What an accepted decoration that agrees with the service writes. -/
inductive Decorated (codec : JsonCodec) (s : Service) (d : Decoration) : ManifestDir → Prop
  | unchanged : Decorated codec s d s.dir
  | latest {payload : Mapping} {content : Bytes} (latest : s.latest = some d.manifest.name)
      (success : d.status = "success") (status : payload.get "status" = .str "success")
      (dumped : codec.dumps (.obj payload) = some content) :
      Decorated codec s d ((s.dir.write d.manifest.name (.file content)).write lastSuccessfulName
        (.file content))
  | other {content : Bytes} (latest : s.latest ≠ some d.manifest.name)
      (ne : d.manifest.name ≠ lastSuccessfulName) :
      Decorated codec s d (s.dir.write d.manifest.name (.file content))

theorem decorateManifest_decorated (inv : Inv codec s) (agrees : Agrees codec at_ s (.decorate d)) :
    Decorated codec s d (decorateManifest codec at_ ⟨false, false⟩ d s.dir).2 := by
  by_cases accepted : Accepted codec at_ s d
  · obtain ⟨ne, iff, path⟩ := agrees accepted
    obtain ⟨fields, payload, fieldsOk, payloadOk⟩ := accepted
    rw [decorateManifest, fieldsOk, payloadOk]
    dsimp only
    cases dumped : codec.dumps (.obj (update payload fields)) with
    | none => exact .unchanged
    | some content =>
      dsimp only
      rw [if_neg Bool.false_ne_true]
      by_cases success : d.status = "success"
      · have latest := iff.mp success
        obtain ⟨old, held, loaded⟩ := loadManifest_eq_ok payloadOk
        obtain ⟨-, _, held', payload', loaded', status⟩ := inv.latest _ latest
        cases held.symm.trans held'
        cases loaded.symm.trans loaded'
        have updated : (update payload fields).get "status" = .str "success" :=
          (get_update_of_not_mem (status_not_mem_fields fieldsOk) payload).trans status
        have pointer : (s.dir.write d.manifest.name (.file content)).get lastSuccessfulName =
            s.dir.get lastSuccessfulName := Directory.get_write_of_ne (Ne.symm ne)
        have last : decorateLast codec ⟨false, false⟩ d (update payload fields)
            (s.dir.write d.manifest.name (.file content)) = (.ok (),
              (s.dir.write d.manifest.name (.file content)).write lastSuccessfulName
                (.file content)) := by
          have names : ¬(d.lastSuccessful.parent ≠ d.manifest.parent ∨
              d.lastSuccessful.name ≠ lastSuccessfulName) := by
            rw [path success]
            simp
          rw [decorateLast, if_neg names, pointer, dumped]
          cases node : s.dir.get lastSuccessfulName with
          | none => rfl
          | some node' =>
            obtain ⟨content', rfl, -⟩ := inv.pointer _ node
            rfl
        rw [if_pos success, last]
        exact .latest latest success updated dumped
      · simp only [success, if_false]
        exact .other (fun latest => success (iff.mpr latest)) ne
  · rw [decorateManifest_of_not_accepted accepted]
    exact .unchanged

theorem Inv.decorate (keeps : ∀ v, codec.Keeps v) (inv : Inv codec s) {dir : ManifestDir}
    (h : Decorated codec s d dir) : Inv codec ⟨dir, s.latest⟩ := by
  cases h with
  | unchanged => exact inv
  | @latest payload content latest success status dumped =>
    have good := successful_of_dumps keeps dumped status
    have ne := (inv.latest _ latest).1
    have held : ((s.dir.write d.manifest.name (.file content)).write lastSuccessfulName
        (.file content)).get d.manifest.name = some (.file content) := by
      rw [Directory.get_write_of_ne ne, Directory.get_write_self]
    refine ⟨fun name at_ => ?_, fun node pointer => ?_⟩
    · cases latest.symm.trans at_
      exact ⟨ne, content, held, good⟩
    · cases Directory.get_write_self.symm.trans pointer
      refine ⟨content, rfl, good, fun name at_ => ?_⟩
      cases latest.symm.trans at_
      exact held
  | @other content latest ne =>
    have apart {name : String} (at_ : s.latest = some name) :
        (s.dir.write d.manifest.name (.file content)).get name = s.dir.get name :=
      Directory.get_write_of_ne fun same => latest (same ▸ at_)
    refine ⟨fun name at_ => ?_, fun node pointer => ?_⟩
    · rw [apart at_]
      exact inv.latest name at_
    · rw [Directory.get_write_of_ne (Ne.symm ne)] at pointer
      obtain ⟨content', file, good, same⟩ := inv.pointer node pointer
      refine ⟨content', file, good, fun name at_ => ?_⟩
      rw [apart at_]
      exact same name at_

end Decorate

section Run

variable {codec : JsonCodec} {unicodeWord : Char → Bool} {at_ : List String} {s start : Service}

theorem PreparedFrom.good (keeps : ∀ v, codec.Keeps v) {config : ManifestConfig}
    {prepared : Prepared} (h : PreparedFrom codec config prepared)
    (success : prepared.success = true) : Successful codec prepared.content := by
  have status := h.status
  rw [of_decide_eq_true (h.success.symm.trans success)] at status
  exact successful_of_dumps keeps h.content status

/-- One call keeps the invariant. -/
theorem Inv.step (keeps : ∀ v, codec.Keeps v) (inv : Inv codec s) {call : Call}
    (agrees : Agrees codec at_ s call) : Inv codec (step codec unicodeWord at_ s call) := by
  cases call with
  | write clock config =>
    simp only [DeployManifest.step]
    split
    next prepared ok =>
      have from_ := prepareManifest_eq_ok ok
      exact inv.write from_.name_ne (from_.good keeps)
    next => exact inv
  | decorate d => exact inv.decorate keeps (decorateManifest_decorated inv agrees)

theorem Inv.of_reaches (keeps : ∀ v, codec.Keeps v) (inv : Inv codec start)
    (h : Reaches codec unicodeWord at_ start s) : Inv codec s := by
  induction h with
  | start => exact inv
  | step _ agrees ih => exact ih.step keeps agrees

/-- The write or the decoration of a failed deployment leaves the pointer as it is. -/
theorem Inv.pointer_of_failed (inv : Inv codec s) {call : Call} (agrees : Agrees codec at_ s call)
    (failed : Failed codec s call) :
    (DeployManifest.step codec unicodeWord at_ s call).dir.get lastSuccessfulName =
      s.dir.get lastSuccessfulName := by
  cases call with
  | write clock config =>
    simp only [DeployManifest.step]
    split
    next prepared ok =>
      have from_ := prepareManifest_eq_ok ok
      refine Service.write_pointer_of_failure inv from_.name_ne fun success => failed ?_
      exact of_decide_eq_true (from_.success.symm.trans success)
    next => rfl
  | decorate d =>
    have decorated := decorateManifest_decorated inv agrees
    simp only [DeployManifest.step]
    generalize (decorateManifest codec at_ ⟨false, false⟩ d s.dir).2 = dir at decorated
    cases decorated with
    | unchanged => rfl
    | latest latest success status dumped =>
      obtain ⟨-, content, held, good⟩ := inv.latest _ latest
      exact absurd good (failed.resolve_left (not_not.mpr success) content held)
    | other latest ne => exact Directory.get_write_of_ne (Ne.symm ne)

/-- Where every decoration agrees with the deployment that it decorates, the pointer holds the
last successful manifest in every state that is reached. -/
theorem pointerHolds_of_reaches (keeps : ∀ v, codec.Keeps v) (unset : start.latest = none)
    (fresh : start.dir.get lastSuccessfulName = none)
    (h : Reaches codec unicodeWord at_ start s) :
    PointerHolds codec s ∧ ∀ call, Agrees codec at_ s call → Failed codec s call →
      (step codec unicodeWord at_ s call).dir.get lastSuccessfulName =
        s.dir.get lastSuccessfulName := by
  have inv : Inv codec start := by
    refine ⟨fun name at_ => ?_, fun node held => ?_⟩
    · exact absurd (unset.symm.trans at_) nofun
    · exact absurd (fresh.symm.trans held) nofun
  have reached := inv.of_reaches keeps h
  exact ⟨reached.pointer, fun _ => reached.pointer_of_failed⟩

end Run

section Sample

def samplePayload (status : String) : Mapping :=
  [("schema_version", .str "1.0"), ("status", .str status),
    ("deployed_at", .str "2026-03-01T12:00:00Z"), ("repository", .str "acme/shop"),
    ("deployed_sha", .str "0123456789abcdef"), ("deployed_ref", .str "main"),
    ("workflow", .str "deploy"), ("run_id", .str "7"), ("environment", .str "prod"),
    ("actor", .str "ci"), ("runner_name", .str "runner"), ("services", .arr [.str "web"]),
    ("images", .arr []), ("healthchecks", .arr []), ("migration_result", .str "passed"),
    ("optional_build_result", .str "skipped"), ("rollback_of", .null)]

/-- The text before and after the place of the remediation fields. -/
def textBefore : String :=
  "\x7b\n  \"actor\": \"ci\",\n  \"deployed_at\": \"2026-03-01T12:00:00Z\",\n" ++
    "  \"deployed_ref\": \"main\",\n  \"deployed_sha\": \"0123456789abcdef\",\n" ++
    "  \"environment\": \"prod\",\n  \"healthchecks\": [],\n  \"images\": [],\n" ++
    "  \"migration_result\": \"passed\",\n  \"optional_build_result\": \"skipped\",\n" ++
    "  \"repository\": \"acme/shop\",\n  \"rollback_of\": null,\n  \"run_id\": \"7\",\n" ++
    "  \"runner_name\": \"runner\",\n  \"schema_version\": \"1.0\",\n"

def textAfter (status : String) : String :=
  "  \"services\": [\n    \"web\"\n  ],\n  \"status\": \"" ++ status ++
  "\",\n  \"workflow\": \"deploy\"\n\x7d\n"

def sampleContent (status : String) : Bytes := asciiBytes (textBefore ++ textAfter status)

def sampleFields : Mapping :=
  [("security_initial_result", .str "clean"), ("security_rebuild_attempted", .bool false),
    ("security_rebuild_result", .str "skipped"), ("security_final_result", .str "clean"),
    ("security_remediation_window_state", .str "not_applicable")]

def decoratedPayload (status : String) : Mapping :=
  update ((samplePayload status).insertionSort (·.1 ≤ ·.1)) sampleFields

def textAdded : String :=
  " \"security_final_result\": \"clean\",\n  \"security_initial_result\": \"clean\",\n" ++
    "  \"security_rebuild_attempted\": false,\n  \"security_rebuild_result\": \"skipped\",\n" ++
    "  \"security_remediation_window_state\": \"not_applicable\",\n"

/-- The text of the same manifest, decorated. -/
def decoratedContent (status : String) : Bytes :=
  asciiBytes (textBefore ++ (" " ++ textAdded) ++ textAfter status)

/-- The codec on the two texts. -/
def sampleCodec (status : String) : JsonCodec where
  dumps v :=
    if v = .obj (samplePayload status) then some (sampleContent status)
    else if v = .obj (decoratedPayload status) then some (decoratedContent status)
    else none
  loads content :=
    if content = sampleContent status then
      some (.obj ((samplePayload status).insertionSort (·.1 ≤ ·.1)))
    else if content = decoratedContent status then
      some (.obj ((decoratedPayload status).insertionSort (·.1 ≤ ·.1)))
    else none

def sampleConfig (status : String) : ManifestConfig where
  deployPath := ⟨true, false, true, false, false⟩
  status := status
  repository := .str "acme/shop"
  deployedSha := .str "0123456789abcdef"
  deployedRef := .str "main"
  environment := .str "prod"
  workflow := .str "deploy"
  runId := .str "7"
  actor := .str "ci"
  runnerName := .str "runner"
  services := [.str "web"]
  images := []
  healthchecks := []
  migrationResult := "passed"
  optionalBuildResult := "skipped"
  retention := .int 1

theorem sampleClock_valid : Calendar.validFields 2026 3 1 12 0 0 0 = true := by decide

def sampleClock : Calendar.DateTime := ⟨2026, 3, 1, 12, 0, 0, 0, sampleClock_valid⟩

def sampleName : String := "20260301T120000Z-0123456789ab-7.json"

def serviceDir : List String := ["srv", "shop", ".deploy-manifests"]

def successDecoration : Decoration where
  manifest := ⟨serviceDir, sampleName⟩
  lastSuccessful := ⟨serviceDir, lastSuccessfulName⟩
  status := "success"
  initialResult := "clean"
  rebuildAttempted := .bool false
  rebuildResult := "skipped"
  finalResult := "clean"

def emptyService : Service := ⟨⟨[], List.nodup_nil⟩, none⟩

/-- The services after the write and after the decoration. -/
def writtenService (status : String) : Service :=
  step (sampleCodec status) (fun _ => false) serviceDir emptyService
    (.write sampleClock (sampleConfig status))

def decoratedService (status : String) : Service :=
  step (sampleCodec status) (fun _ => false) serviceDir (writtenService status)
    (.decorate successDecoration)

theorem decoratedContent_ne (status : String) : decoratedContent status ≠ sampleContent status := by
  intro same
  have lengths := congrArg List.length same
  simp only [decoratedContent, sampleContent, asciiBytes, List.length_map, String.length_toList,
    String.length_append] at lengths
  have one : " ".length = 1 := rfl
  omega

attribute [irreducible] sampleContent decoratedContent

theorem loads_sample (status : String) : (sampleCodec status).loads (sampleContent status) =
    some (.obj ((samplePayload status).insertionSort (·.1 ≤ ·.1))) := by
  simp only [sampleCodec, if_true]

theorem loads_decorated (status : String) : (sampleCodec status).loads (decoratedContent status) =
    some (.obj ((decoratedPayload status).insertionSort (·.1 ≤ ·.1))) := by
  simp only [sampleCodec, decoratedContent_ne, if_false, if_true]

theorem dumps_sample (status : String) : (sampleCodec status).dumps (.obj (samplePayload status)) =
    some (sampleContent status) := by
  simp only [sampleCodec, if_true]

theorem dumps_decorated (status : String) :
    (sampleCodec status).dumps (.obj (decoratedPayload status)) = some (decoratedContent status) := by
  have ne : decoratedPayload status ≠ samplePayload status := by
    intro same
    have field := congrArg (fun payload => Mapping.get payload "security_initial_result") same
    have left : (decoratedPayload status).get "security_initial_result" = .str "clean" := rfl
    have right : (samplePayload status).get "security_initial_result" = .null := rfl
    exact absurd (left.symm.trans (field.trans right)) nofun
  simp only [sampleCodec, Json.obj.injEq, ne, if_false, if_true]

theorem sample_nodup (status : String) : ((samplePayload status).map Prod.fst).Nodup :=
  (by decide : ((samplePayload "").map Prod.fst).Nodup)

theorem get_sorted {payload : Mapping} (nodup : (payload.map Prod.fst).Nodup) (key : String) :
    Mapping.get (payload.insertionSort (·.1 ≤ ·.1)) key = payload.get key := by
  have perm := (List.perm_insertionSort (·.1 ≤ ·.1) payload).symm
  rw [Mapping.get, Mapping.get, ← Json.lookup_eq_of_perm perm nodup]

theorem decorated_nodup (status : String) : ((decoratedPayload status).map Prod.fst).Nodup :=
  nodup_update (((List.perm_insertionSort _ _).map Prod.fst).nodup_iff.mpr (sample_nodup status))

theorem sampleCodec_keeps (status : String) (v : Json) : (sampleCodec status).Keeps v := by
  intro content encoded
  by_cases plain : v = .obj (samplePayload status)
  · subst plain
    rw [dumps_sample, Option.some.injEq] at encoded
    subst encoded
    exact ⟨_, loads_sample status,
      .of_perm (List.perm_insertionSort _ _).symm (sample_nodup status)⟩
  · by_cases decorated : v = .obj (decoratedPayload status)
    · subst decorated
      rw [dumps_decorated, Option.some.injEq] at encoded
      subst encoded
      exact ⟨_, loads_decorated status,
        .of_perm (List.perm_insertionSort _ _).symm (decorated_nodup status)⟩
    · simp only [sampleCodec, plain, decorated, if_false] at encoded
      exact absurd encoded nofun

theorem sample_payload {status : String} (h : status ∈ ["success", "failure"]) :
    manifestPayload (fun _ => false) sampleClock (sampleConfig status) =
      .ok (samplePayload status, sampleName, 1) := by
  simp only [List.mem_cons, List.not_mem_nil, or_false] at h
  rcases h with rfl | rfl
  · decide +kernel
  · decide +kernel

def samplePrepared (status : String) : Prepared :=
  ⟨sampleName, samplePayload status, sampleContent status, status = "success", 1⟩

theorem sample_prepared {status : String} (h : status ∈ ["success", "failure"]) :
    prepareManifest (sampleCodec status) (fun _ => false) sampleClock (sampleConfig status) =
      .ok (samplePrepared status) := by
  rw [prepareManifest, sample_payload h]
  dsimp only [ok_bind]
  rw [dumps_sample]
  rfl

/-- The service after the write. -/
theorem written_eq {status : String} (h : status ∈ ["success", "failure"]) :
    writtenService status = emptyService.write (samplePrepared status) := by
  rw [writtenService, step, sample_prepared h]

theorem emptyService_inv (codec : JsonCodec) : Inv codec emptyService :=
  ⟨fun _ at_ => absurd at_ nofun, fun _ held => absurd held nofun⟩

theorem written_dir {status : String} (h : status ∈ ["success", "failure"]) :
    (writtenService status).dir = placed (samplePrepared status) emptyService.dir := by
  have name : sampleName ≠ lastSuccessfulName := by decide
  have new : ¬(emptyService.dir.get sampleName).any Node.exists_ = true := by decide
  rw [written_eq h]
  refine (Service.write_dir (emptyService_inv (sampleCodec status)) name new).trans ?_
  have kept : expiredBy (samplePrepared status) emptyService.dir = [] := by
    simp only [List.mem_cons, List.not_mem_nil, or_false] at h
    rcases h with rfl | rfl
    · rfl
    · rfl
  rw [kept]
  rfl

theorem written_get {status : String} (h : status ∈ ["success", "failure"]) :
    (writtenService status).dir.get sampleName = some (.file (sampleContent status)) := by
  have name : sampleName ≠ lastSuccessfulName := by decide
  have held : (placed (samplePrepared status) emptyService.dir).get sampleName =
      some (.file (samplePrepared status).content) := get_placed_name name
  rwa [written_dir h]

theorem sample_loaded {status : String} (h : status ∈ ["success", "failure"]) :
    loadManifest (sampleCodec status) serviceDir successDecoration.manifest
      (writtenService status).dir =
        .ok ((samplePayload status).insertionSort (·.1 ≤ ·.1)) := by
  have here : (if successDecoration.manifest.parent = serviceDir then
      (writtenService status).dir.get successDecoration.manifest.name else none) =
        some (.file (sampleContent status)) := (if_pos rfl).trans (written_get h)
  rw [loadManifest, here]
  dsimp only
  rw [require_pos (by decide), ok_bind, loads_sample]
  have version : Mapping.get ((samplePayload status).insertionSort (·.1 ≤ ·.1)) "schema_version" =
      .str "1.0" := get_sorted (sample_nodup status) "schema_version"
  dsimp only
  rw [require_pos version]
  rfl

theorem decoration_fields : decorationFields successDecoration = .ok sampleFields := rfl

/-- The service after the decoration that says `success`. -/
theorem decorated_dir {status : String} (h : status ∈ ["success", "failure"]) :
    (decoratedService status).dir =
      ((writtenService status).dir.write sampleName (.file (decoratedContent status))).write
        lastSuccessfulName (.file (decoratedContent status)) := by
  have dumped := dumps_decorated status
  have name : sampleName ≠ lastSuccessfulName := by decide
  have pointer : ((writtenService status).dir.write sampleName
      (.file (decoratedContent status))).get lastSuccessfulName =
        (placed (samplePrepared status) emptyService.dir).get lastSuccessfulName := by
    rw [Directory.get_write_of_ne (Ne.symm name), written_dir h]
  have last : decorateLast (sampleCodec status) ⟨false, false⟩ successDecoration
      (decoratedPayload status) ((writtenService status).dir.write sampleName
        (.file (decoratedContent status))) = (.ok (),
          ((writtenService status).dir.write sampleName (.file (decoratedContent status))).write
            lastSuccessfulName (.file (decoratedContent status))) := by
    rw [decorateLast, if_neg (by decide), pointer, dumped]
    by_cases success : (samplePrepared status).success = true
    · rw [get_placed_last_of_success success]
      rfl
    · rw [get_placed_last_of_failure name success]
      rfl
  have dir : (decoratedService status).dir = (decorateManifest (sampleCodec status) serviceDir
      ⟨false, false⟩ successDecoration (writtenService status).dir).2 := rfl
  rw [dir, decorateManifest, decoration_fields, sample_loaded h]
  dsimp only
  rw [← decoratedPayload, dumped]
  have succeeds : successDecoration.status = "success" := rfl
  dsimp only
  rw [if_neg Bool.false_ne_true, if_pos succeeds]
  exact congrArg Prod.snd last

/-- A failed deployment that is decorated with `success` becomes the last successful one. -/
theorem decorateManifest_promotes_failure : ¬PointerHolds (sampleCodec "failure")
    (step (sampleCodec "failure") (fun _ => false) serviceDir
      (step (sampleCodec "failure") (fun _ => false) serviceDir emptyService
        (.write sampleClock (sampleConfig "failure"))) (.decorate successDecoration)) := by
  intro holds
  have held : (decoratedService "failure").dir.get lastSuccessfulName =
      some (.file (decoratedContent "failure")) := by
    rw [decorated_dir (by decide)]
    exact Directory.get_write_self
  obtain ⟨content, file, ⟨payload, loaded, status⟩, -⟩ := holds _ held
  rw [← Node.file.inj file, loads_decorated] at loaded
  have failed : Mapping.get ((decoratedPayload "failure").insertionSort (·.1 ≤ ·.1)) "status" =
      .str "failure" :=
    (get_sorted (decorated_nodup "failure") "status").trans
      ((get_update_of_not_mem (by decide) _).trans (get_sorted (sample_nodup "failure") "status"))
  rw [← Json.obj.inj (Option.some.inj loaded), failed] at status
  exact absurd (Json.str.inj status) (by decide)

/-- A successful deployment and its decoration. -/
theorem pointerHolds_of_reaches_sample :
    PointerHolds (sampleCodec "success") (decoratedService "success") := by
  have written : Reaches (sampleCodec "success") (fun _ => false) serviceDir emptyService
      (writtenService "success") := .step .start trivial
  have latest : (writtenService "success").latest = some sampleName := by
    have new : ¬(emptyService.dir.get (samplePrepared "success").name).any Node.exists_ = true :=
      by decide
    have mem := Directory.mem_names.mpr ⟨_, @written_get "success" (by decide)⟩
    rw [written_eq (by decide), Service.write, if_neg new] at mem ⊢
    dsimp only at mem ⊢
    refine Option.filter_eq_some_iff.mpr ⟨?_, ?_⟩
    · rfl
    · exact decide_eq_true mem
  have agrees : Agrees (sampleCodec "success") serviceDir (writtenService "success")
      (.decorate successDecoration) := fun _ =>
    ⟨by decide, ⟨fun _ => latest, fun _ => rfl⟩, fun _ => rfl⟩
  exact (pointerHolds_of_reaches (sampleCodec_keeps "success") rfl rfl (written.step agrees)).1

end Sample

end OptimizrActions.DeployManifest
