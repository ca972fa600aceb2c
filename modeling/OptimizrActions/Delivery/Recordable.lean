import OptimizrActions.Delivery.Protocol
import OptimizrActions.Delivery.Reasons
import OptimizrActions.Delivery.RoundTrip

/-! What a delivery returns can be written down. -/

namespace OptimizrActions.Delivery

open Prog

def ExecutorSpec.gatesOf (spec : ExecutorSpec) : Phase → List Json
  | .preflight => spec.preflightGates
  | .postflight => spec.postflightGates

/-- The components reported nothing that has no place in a manifest. -/
structure Reportable (spec : ExecutorSpec) (runners : Runners) (log : List Event) : Prop where
  gates : ∀ phase, ∀ items ∈ phaseItems phase log, ReasonFits (spec.gatesOf phase) items
  counts : ∀ call ∈ syncCalls log, ∀ sync, runners.sync call = .ok (.result sync) →
    sync.changedEntries.printable = true

/-- The manifest's own data keep its rules. -/
structure ManifestSpec.Described (clock : Calendar.DateTime) (spec : ManifestSpec) : Prop where
  now : ∃ text, manifestTimestamp clock spec.now = .ok text
  environment : ∃ text, manifestScalar "environment" spec.environment = .ok text
  workflow : ∃ text, manifestScalar "workflow" spec.workflow = .ok text
  runId : ∃ text, manifestScalar "run_id" spec.runId = .ok text
  actor : ∃ text, manifestScalar "actor" spec.actor = .ok text
  runnerName : ∃ text, manifestScalar "runner_name" spec.runnerName = .ok text
  images : ∃ images, validateImages spec.images = .ok images
  rollbackOf : ∃ value, optionalScalar "rollback_of" spec.rollbackOf = .ok value

/-- Nothing is there, in a directory that is reached without symlinks. -/
structure IsFresh (tree : FileTree Bytes) (path : RawPath) : Prop where
  absolute : path.absolute = true
  below : path.parts ≠ []
  plain : tree.throughSymlink path.parts = false
  parent : tree.isDir path.parts.dropLast = true
  absent : tree.exists_ path.parts = false

section Request

variable {request : DeployRequest} {payload : Mapping}

theorem requestMapping_isTexts (request : DeployRequest) : Json.IsTexts (requestMapping request) := by
  unfold requestMapping canonicalizeRequest
  cases request.reason with
  | none => exact ⟨by simp, by simp⟩
  | some reason => exact ⟨by simp, by simp⟩

theorem reason?_str {value : Json} {text : String} (h : reason? value = .ok (some text)) :
    reason? (.str text) = .ok (some text) := by
  cases value with
  | str s =>
    have same := h
    simp only [reason?, bind_eq_ok, pure_eq_ok, Option.some.injEq] at same
    obtain ⟨_, _, _, _, _, _, rfl⟩ := same
    exact h
  | _ => cases h

/-- A request that was accepted is accepted again in its canonical form. -/
theorem parseRequest_requestMapping (parsed : parseRequest payload = .ok request) :
    parseRequest (requestMapping request) = .ok request := by
  obtain ⟨-, valid, -, reason⟩ := parseRequest_eq_ok.mp parsed
  obtain ⟨repository, service, sha, ref, file, container, adapter, given⟩ := request
  cases given with
  | none =>
    exact parseRequest_eq_ok.mpr ⟨rfl, valid, ⟨rfl, rfl, rfl, rfl, rfl, rfl, rfl⟩, rfl⟩
  | some text =>
    exact parseRequest_eq_ok.mpr
      ⟨rfl, valid, ⟨rfl, rfl, rfl, rfl, rfl, rfl, rfl⟩, reason?_str reason⟩

end Request

section Result

variable {unicodeWord : Char → Bool} {spec : ExecutorSpec} {runners : Runners} {log : List Event}
  {result : ExecutorResult} {request : DeployRequest}

/-- Both sides check the same of a synchronization. -/
theorem checkSync_congr {texts texts' : SyncTexts} {sync : SyncResult}
    (h : checkSync texts sync = .ok ⟨⟩) : checkSync texts' sync = .ok ⟨⟩ := by
  simp only [checkSync, bind_eq_ok, require_eq_ok] at h ⊢
  obtain ⟨_, flags, _, count, _, name, state⟩ := h
  refine ⟨⟨⟩, flags, ⟨⟩, count, ⟨⟩, ?_, state⟩
  cases at_ : sync.snapshotName with
  | null => rfl
  | str text =>
    rw [at_] at name
    exact require_eq_ok.mpr (require_eq_ok.mp name)
  | _ =>
    rw [at_] at name
    cases name

/-- What every result of the executor is, for the request it was made for. -/
structure Canonical (unicodeWord : Char → Bool) (result : ExecutorResult) (request : DeployRequest) :
    Prop where
  own : result.request = requestMapping request
  sha : result.headSha = request.candidateSha ∧ isSha result.headSha = true
  trustedRef : result.trustedRef = request.trustedRef
  ready : result.ready = (result.preflight.passed && result.postflight.any (·.passed))
  evidence : result.evidence =
    result.preflight.evidence ++ (result.postflight.map (·.evidence)).getD []
  entries : ∀ entry ∈ result.evidence,
    ∃ e : SafeEvidence, e.Valid unicodeWord ∧ entry = e.toMapping
  staged : ¬(result.postflight.isNone ∧ result.sync.isSome)
  sync : ∀ sync, result.sync = some sync → checkSync manifestSyncTexts sync = .ok ⟨⟩
  unfailed : result.ready = true → result.failureReason = none

theorem Produced.canonical (h : Produced unicodeWord spec runners log result) :
    Canonical unicodeWord result spec.checkout.request := by
  cases h with
  | refused verified pre post none evaluated failed =>
    have sound := evaluateGateEvidence_sound evaluated
    refine ⟨rfl, ⟨verified.sha.1, (congrArg isSha verified.sha.1).trans verified.sha.2⟩, verified.trustedRef, ?_, rfl, ?_,
      by simp [executorResult], nofun, ?_⟩
    · simp [executorResult]
    · simpa [executorResult] using sound.evidence
    · simp [executorResult]
  | synchronized verified pre post one evaluated passed synced checked evaluated' =>
    have sound := evaluateGateEvidence_sound evaluated
    have sound' := evaluateGateEvidence_sound evaluated'
    refine ⟨rfl, ⟨verified.sha.1, (congrArg isSha verified.sha.1).trans verified.sha.2⟩, verified.trustedRef, ?_, rfl, ?_,
      by simp [executorResult], ?_, ?_⟩
    · simp [executorResult]
    · intro entry mem
      rcases List.mem_append.mp mem with first | later
      · exact sound.evidence entry first
      · exact sound'.evidence entry later
    · intro sync at_
      cases at_
      exact checkSync_congr checked
    · intro ready
      simp only [executorResult, Option.any_some, Bool.and_eq_true] at ready
      rw [executorResult]
      exact (if_pos ready.2).trans (sound.unfailed.mp ready.1)

/-- The reason has room exactly when the reports let it. -/
theorem Produced.isReason_iff (h : Produced unicodeWord spec runners log result) :
    (∀ reason, result.failureReason = some reason → IsReason reason) ↔
      ∀ phase, ∀ items ∈ phaseItems phase log, ReasonFits (spec.gatesOf phase) items := by
  have fits {items : List GateItem} {required : List Json} {evaluation : GateEvaluation}
      (evaluated : evaluateGateEvidence unicodeWord items required = .ok evaluation)
      (passed : evaluation.passed = true) : ReasonFits required items := by
    have sound := evaluateGateEvidence_sound evaluated
    refine sound.reason.mp fun reason at_ => ?_
    rw [sound.unfailed.mp passed] at at_
    cases at_
  have phases {p : Phase → Prop} : (∀ phase, p phase) ↔ p .preflight ∧ p .postflight := by
    refine ⟨fun h => ⟨h .preflight, h .postflight⟩, fun h phase => ?_⟩
    cases phase
    · exact h.1
    · exact h.2
  rw [phases]
  cases h with
  | refused verified pre post none evaluated failed =>
    rw [pre, post, List.forall_mem_singleton]
    refine (evaluateGateEvidence_sound evaluated).reason.trans ?_
    exact ⟨fun fit => ⟨fit, by simp⟩, fun h => h.1⟩
  | @synchronized _ _ _ preflight postflight _ _ verified pre post one evaluated passed synced checked
      evaluated' =>
    have sound := evaluateGateEvidence_sound evaluated
    have sound' := evaluateGateEvidence_sound evaluated'
    have reason : (executorResult spec.checkout.request ‹_› (some ‹_›) preflight
        (some postflight)).failureReason = postflight.failureReason := by
      change (if postflight.passed = true then preflight.failureReason
        else postflight.failureReason) = _
      split
      next ok => rw [sound.unfailed.mp passed, sound'.unfailed.mp ok]
      · rfl
    rw [pre, post, List.forall_mem_singleton, List.forall_mem_singleton, reason]
    refine sound'.reason.trans ?_
    exact ⟨fun fit => ⟨fits evaluated passed, fit⟩, fun h => h.2⟩

/-- A result of the executor is taken unless its reason is refused. -/
theorem validateResult_iff (canonical : Canonical unicodeWord result request)
    (parsed : parseRequest (requestMapping request) = .ok request) :
    (∃ request, validateResult unicodeWord result = .ok request) ↔
      ∀ reason, result.failureReason = some reason → IsReason reason := by
  have evidence : (Json.arr (result.evidence.map .obj)).eq (.arr ((result.preflight.evidence ++
      (result.postflight.map (·.evidence)).getD []).map .obj)) = true := by
    rw [← canonical.evidence, Json.eq]
    refine Json.eqItems_self ?_
    rw [List.forall_mem_map]
    intro entry mem
    obtain ⟨e, -, rfl⟩ := canonical.entries entry mem
    exact e.isTexts.eq_self
  have entries : result.evidence.forM (checkEntry unicodeWord) = .ok ⟨⟩ := by
    refine forM_eq_ok_iff.mpr fun entry mem => ?_
    obtain ⟨e, valid, rfl⟩ := canonical.entries entry mem
    exact checkEntry_toMapping valid
  have sync : validateSync result.sync = .ok ⟨⟩ := by
    cases at_ : result.sync with
    | none => rfl
    | some sync => exact canonical.sync sync at_
  have own : (Json.obj (requestMapping request)).eq (.obj (requestMapping request)) = true :=
    (requestMapping_isTexts request).eq_self
  have reason : validateFailureReason result.ready result.failureReason = .ok ⟨⟩ ↔
      ∀ reason, result.failureReason = some reason → IsReason reason := by
    cases at_ : result.failureReason with
    | none => exact ⟨fun _ _ at_ => absurd at_ (Option.some_ne_none _).symm, fun _ => rfl⟩
    | some reason =>
      have unready : result.ready = false := by
        cases ready : result.ready with
        | false => rfl
        | true => cases (canonical.unfailed ready).symm.trans at_
      simp only [validateFailureReason, bind_eq_ok, require_eq_ok, manifestScalar_eq_ok, unready,
        Option.some.injEq, forall_eq', IsReason]
      refine ⟨?_, fun ok => ⟨reason, ⟨rfl, ok⟩, trivial⟩⟩
      rintro ⟨_, ⟨same, ok⟩, -⟩
      cases same
      exact ok
  simp only [validateResult, canonical.own, parsed, Except.mapError, ok_bind, require_pos own]
  simp only [bind_eq_ok, require_eq_ok, pure_eq_ok]
  constructor
  · rintro ⟨_, _, -, _, -, _, -, _, -, _, -, _, -, _, -, _, ok, -⟩
    exact reason.mp ok
  · intro ok
    exact ⟨request, ⟨⟩, canonical.sha, ⟨⟩, canonical.trustedRef, ⟨⟩, canonical.ready, ⟨⟩, evidence, ⟨⟩,
      entries, ⟨⟩, canonical.staged, ⟨⟩, sync, ⟨⟩, reason.mpr ok, rfl⟩

end Result

section Write

variable {codec : JsonCodec} {unicodeWord : Char → Bool} {clock : Calendar.DateTime}
  {tree : FileTree Bytes} {spec : ManifestSpec} {request : DeployRequest} {payload : Mapping}

theorem exists_manifestPayload (described : spec.Described clock)
    (reason : ∀ reason, spec.result.failureReason = some reason → IsReason reason) :
    ∃ payload, manifestPayload clock spec request = .ok payload := by
  obtain ⟨⟨_, now⟩, ⟨_, environment⟩, ⟨_, workflow⟩, ⟨_, runId⟩, ⟨_, actor⟩, ⟨_, runnerName⟩,
    ⟨_, images⟩, _, rollbackOf⟩ := described
  have failure : ∃ value, optionalScalar "failure_reason"
      ((spec.result.failureReason.map .str).getD .null) = .ok value := by
    cases at_ : spec.result.failureReason with
    | none => exact ⟨_, rfl⟩
    | some text =>
      have taken : manifestScalar "failure_reason" (.str text) = .ok text :=
        manifestScalar_eq_ok.mpr ⟨rfl, reason text at_⟩
      exact ⟨.str text, map_eq_ok.mpr ⟨text, taken, rfl⟩⟩
  obtain ⟨_, failure⟩ := failure
  simp only [manifestPayload, now, environment, workflow, runId, actor, runnerName, images,
    rollbackOf, failure, ok_bind]
  exact ⟨_, rfl⟩

theorem validateImage_printable {image v : Json} (h : validateImage image = .ok v) :
    v.printable = true := by
  cases image with
  | obj fields =>
    simp only [validateImage, bind_eq_ok, pure_eq_ok] at h
    obtain ⟨_, _, _, _, _, _, _, _, rfl⟩ := h
    rfl
  | _ => cases h

theorem optionalScalar_printable {name : String} {value v : Json}
    (h : optionalScalar name value = .ok v) : v.printable = true := by
  cases value with
  | null =>
    cases h
    rfl
  | _ =>
    simp only [optionalScalar, map_eq_ok] at h
    obtain ⟨_, _, rfl⟩ := h
    rfl

/-- Of a payload only the count of the synchronization can be too large a number. -/
theorem manifestPayload_printable (h : manifestPayload clock spec request = .ok payload)
    (canonical : Canonical unicodeWord spec.result request) :
    (Json.obj payload).printable = true ↔
      ∀ sync, spec.result.sync = some sync → sync.changedEntries.printable = true := by
  unfold manifestPayload at h
  simp only [bind_eq_ok, pure_eq_ok] at h
  obtain ⟨_, -, _, -, _, -, _, -, _, -, _, -, images, imaged, _, rollback, _, failure, rfl⟩ := h
  have images : (Json.arr images).printable = true := by
    rw [Json.printable, Json.printableItems_eq_all, List.all_eq_true]
    intro v mem
    cases given : spec.images with
    | none =>
      rw [given] at imaged
      cases imaged
    | some list =>
      rw [given] at imaged
      obtain ⟨_, -, read⟩ := mem_of_forall₂ (mapM_eq_ok_iff.mp imaged) mem
      exact validateImage_printable read
  have gates : (Json.arr (spec.result.evidence.map .obj)).printable = true := by
    rw [Json.printable, Json.printableItems_eq_all, List.all_map, List.all_eq_true]
    intro entry mem
    obtain ⟨e, -, rfl⟩ := canonical.entries entry mem
    exact e.isTexts.printable
  have version : (Json.int 1).printable = true := Json.printable_of_digit (by decide)
  simp only [Json.printable_obj, List.all_cons, List.all_nil, version, images, gates,
    optionalScalar_printable rollback, optionalScalar_printable failure]
  cases at_ : spec.result.sync with
  | none => exact ⟨fun _ _ at_ => absurd at_ (Option.some_ne_none _).symm, fun _ => rfl⟩
  | some sync =>
    have checked := checkSync_eq_ok (canonical.sync sync at_)
    obtain ⟨_, changed⟩ := checked.changed
    obtain ⟨_, created⟩ := checked.snapshotCreated
    obtain ⟨_, synced⟩ := checked.synced
    have name : sync.snapshotName.printable = true := by
      rcases checked.name with missing | ⟨_, named, -⟩
      · rw [missing]
        rfl
      · rw [named]
        rfl
    simp [Json.printable_obj, syncMapping, changed, created, synced, name, Json.printable]

theorem manifestPath_of_isFresh (fresh : IsFresh tree spec.path) :
    manifestPath tree spec.path = .ok spec.path.parts := by
  obtain ⟨dir, at_, -⟩ := FileTree.exists_of_isDir fresh.parent
  have parent : tree.exists_ spec.path.parts.dropLast = true := by
    rw [FileTree.exists_, at_]
    rfl
  simp only [manifestPath, bind_eq_ok, require_eq_ok, pure_eq_ok]
  exact ⟨⟨⟩, fresh.absolute, ⟨⟩, fresh.below, ⟨⟩, fresh.plain, ⟨⟩, ⟨parent, fresh.parent⟩, ⟨⟩,
    fresh.absent, trivial⟩

theorem writeDeliveryManifest_iff (encodes : codec.Encodes) (described : spec.Described clock)
    (fresh : IsFresh tree spec.path) (canonical : Canonical unicodeWord spec.result request)
    (parsed : parseRequest (requestMapping request) = .ok request) :
    (∃ after, writeDeliveryManifest codec unicodeWord clock tree spec = .ok after) ↔
      (∀ reason, spec.result.failureReason = some reason → IsReason reason) ∧
        ∀ sync, spec.result.sync = some sync → sync.changedEntries.printable = true := by
  have own {request' : DeployRequest}
      (valid : validateResult unicodeWord spec.result = .ok request') : request' = request := by
    have again := (validateResult_eq_ok valid).parsed
    rw [canonical.own, parsed] at again
    exact (Except.ok.inj again).symm
  constructor
  · rintro ⟨after, written⟩
    obtain ⟨request', payload, content, valid, made, encoded, -⟩ := writeDeliveryManifest_eq_ok written
    cases own valid
    exact ⟨(validateResult_iff canonical parsed).mp ⟨_, valid⟩,
      (manifestPayload_printable made canonical).mp ((encodes _).mp ⟨content, encoded⟩)⟩
  · rintro ⟨reason, count⟩
    obtain ⟨request', valid⟩ := (validateResult_iff canonical parsed).mpr reason
    cases own valid
    obtain ⟨payload, made⟩ := @exists_manifestPayload _ _ request described reason
    obtain ⟨content, encoded⟩ :=
      (encodes _).mpr ((manifestPayload_printable made canonical).mpr count)
    obtain ⟨after, placed⟩ :=
      @FileTree.exists_replace _ _ _ content fresh.below fresh.plain fresh.parent fresh.absent
    exact ⟨after, by simp only [writeDeliveryManifest, manifestPath_of_isFresh fresh, valid, made,
      ok_bind, encoded, placed]⟩

end Write

section

variable {unicodeWord : Char → Bool} {spec : ExecutorSpec} {runners : Runners} {log : List Event}
  {result : ExecutorResult}

theorem Produced.counts_iff (h : Produced unicodeWord spec runners log result) :
    (∀ sync, result.sync = some sync → sync.changedEntries.printable = true) ↔
      ∀ call ∈ syncCalls log, ∀ sync, runners.sync call = .ok (.result sync) →
        sync.changedEntries.printable = true := by
  cases h with
  | refused _ _ _ none =>
    rw [none]
    exact ⟨fun _ => nofun, fun _ => nofun⟩
  | synchronized _ _ _ one _ _ synced =>
    rw [one, List.forall_mem_singleton, synced]
    simp [executorResult]

/-- A delivery can be recorded exactly when its components report what has a place in a
manifest. -/
theorem executeDelivery_recordable_iff {codec : JsonCodec} (encodes : codec.Encodes)
    {fs : FileSystem} {lock : LockHost} {clock : Calendar.DateTime} {tree : FileTree Bytes}
    {manifest : ManifestSpec} {payload : Mapping}
    (parsed : parseRequest payload = .ok spec.checkout.request)
    (returned : (executeDelivery unicodeWord fs spec runners lock []).1 = .ok manifest.result)
    (described : manifest.Described clock) (fresh : IsFresh tree manifest.path) :
    (∃ after, writeDeliveryManifest codec unicodeWord clock tree manifest = .ok after) ↔
      Reportable spec runners (executeDelivery unicodeWord fs spec runners lock []).2 := by
  have produced := produced_of_executeDelivery returned
  rw [writeDeliveryManifest_iff encodes described fresh produced.canonical
    (parseRequest_requestMapping parsed), produced.isReason_iff, produced.counts_iff]
  exact ⟨fun h => ⟨h.1, h.2⟩, fun h => ⟨h.gates, h.counts⟩⟩

end

deriving instance DecidableEq for SyncResult, GateEvaluation, ExecutorResult

/-- A host on which nothing is in the way. -/
def sampleHost : FileSystem where
  cwd := []
  isSymlink _ := some false
  isDir _ := some true
  resolve path := some path
  resolveMissing path := some path

def sampleLock : LockHost := ⟨false, .ok ⟨⟩, .acquired, [], .ok ⟨⟩, .ok ⟨⟩⟩

def sampleSpec : ExecutorSpec where
  checkout := ⟨sampleRequest, "https://example.test/shop.git", ⟨true, ["checkout"]⟩, ⟨true, []⟩⟩
  sync := ⟨⟨true, ["checkout"]⟩, ⟨true, ["srv"]⟩, ⟨true, ["snapshots"]⟩, ⟨true, []⟩, ⟨true, []⟩,
    true, none, none, none⟩
  lockRoot := ⟨true, ["locks"]⟩
  preflightGates := [.str "security"]
  postflightGates := [.str "health"]

def sampleEvidence (name status reason : String) : GateItem :=
  .evidence ⟨.str name, .str status, .str "web", .str reason⟩

/-- Components that report these gates before and after the synchronization. -/
def sampleRunners (preflight postflight : List GateItem) : Runners where
  checkout _ := .ok (.result (some ⟨true, ["checkout"]⟩) (.str sampleSha) (.str "refs/heads/main"))
  runGates := some fun _ phase => match phase with
    | .preflight => .ok preflight
    | .postflight => .ok postflight
  sync _ := .ok (.result ⟨.bool true, .int 3, .bool true, .str "s1.tar.gz", .bool true⟩)

/-- The codec on the one manifest, with some text for every other value that has one. -/
def totalCodec : JsonCodec where
  dumps v := if v = .obj samplePayload then some sampleContent
    else if v.printable then some [] else none
  loads := sampleCodec.loads

theorem totalCodec_encodes : totalCodec.Encodes := by
  intro v
  have sample : (Json.obj samplePayload).printable = true := by
    have version : (Json.int 1).printable = true := Json.printable_of_digit (by decide)
    have count : (Json.int 3).printable = true := Json.printable_of_digit (by decide)
    simp only [samplePayload, Json.printable_obj, List.all_cons, List.all_nil, version, count]
    rfl
  simp only [totalCodec]
  split_ifs with own printable
  · rw [own]
    exact ⟨fun _ => sample, fun _ => ⟨_, rfl⟩⟩
  · exact ⟨fun _ => printable, fun _ => ⟨_, rfl⟩⟩
  · exact ⟨nofun, fun h => absurd h printable⟩

theorem sample_described : sampleManifest.Described sampleClock :=
  ⟨⟨_, rfl⟩, ⟨"prod", by decide +kernel⟩, ⟨"deploy", by decide +kernel⟩, ⟨"7", by decide +kernel⟩,
    ⟨"ci", by decide +kernel⟩, ⟨"r1", by decide +kernel⟩, ⟨[], rfl⟩, ⟨_, rfl⟩⟩

theorem sample_isFresh : IsFresh sampleTree sampleManifest.path :=
  ⟨rfl, nofun, by decide +kernel, by decide +kernel, by decide +kernel⟩

/-- The delivery that passes is recorded. -/
theorem executeDelivery_recordable_sample :
    (∃ after, writeDeliveryManifest totalCodec (fun _ => false) sampleClock sampleTree
      sampleManifest = .ok after) ∧
      Reportable sampleSpec (sampleRunners [sampleEvidence "security" "passed" ""]
        [sampleEvidence "health" "passed" ""])
        (executeDelivery (fun _ => false) sampleHost sampleSpec (sampleRunners
          [sampleEvidence "security" "passed" ""] [sampleEvidence "health" "passed" ""])
          sampleLock []).2 := by
  have parsed : parseRequest (requestMapping sampleRequest) = .ok sampleRequest := by decide +kernel
  have returned : (executeDelivery (fun _ => false) sampleHost sampleSpec (sampleRunners
      [sampleEvidence "security" "passed" ""] [sampleEvidence "health" "passed" ""])
      sampleLock []).1 = .ok sampleManifest.result := by
    decide +kernel
  have produced := produced_of_executeDelivery returned
  have count : (Json.int 3).printable = true := Json.printable_of_digit (by decide)
  have reportable : Reportable sampleSpec _ _ :=
    ⟨produced.isReason_iff.mp nofun, produced.counts_iff.mp fun sync at_ => by
      cases at_
      exact count⟩
  exact ⟨(executeDelivery_recordable_iff totalCodec_encodes parsed returned sample_described
    sample_isFresh).mpr reportable, reportable⟩

/-- A reason of this length. -/
def fill (n : Nat) : String := String.ofList (List.replicate n 'x')

theorem secretLike_fill (n : Nat) : (secretLike fun _ => false).search (fill n) = false := by
  have ends : ∀ cs, ∀ before ∈ [none, some 'x'],
      (secretLike fun _ => false).ends ⟨before, 'x' :: cs⟩ = [] := by
    intro cs before mem
    rcases List.mem_pair.mp mem with rfl | rfl <;> rfl
  have last : ∀ before ∈ [none, some 'x'], (secretLike fun _ => false).ends ⟨before, []⟩ = [] := by
    decide +kernel
  have all : ∀ before ∈ [none, some 'x'], ((Pattern.places before (List.replicate n 'x')).any
      fun place => !((secretLike fun _ => false).ends place).isEmpty) = false := by
    induction n with
    | zero =>
      intro before mem
      simp [Pattern.places, last before mem]
    | succ n ih =>
      intro before mem
      rw [List.replicate_succ, Pattern.places, List.any_cons, ends _ before mem]
      exact ih _ (by simp)
  rw [Pattern.search, fill, String.toList_ofList]
  exact all none (by simp)

theorem fill_length (n : Nat) : (fill n).length = n := by
  rw [fill, String.length_ofList, List.length_replicate]

theorem fill_isLine {n : Nat} (short : n ≤ 512) : IsLine (secretLike fun _ => false) (fill n) := by
  refine ⟨?_, (fill_length n).le.trans short, secretLike_fill n⟩
  rw [fill, String.toList_ofList]
  simp [List.mem_replicate]

attribute [irreducible] fill

def longEvidence : SafeEvidence := ⟨"security", .failed, "web", fill 512⟩

def longEvaluation : GateEvaluation :=
  ⟨false, some ("security" ++ ": " ++ fill 512), [longEvidence.toMapping]⟩

def longManifest : ManifestSpec :=
  { sampleManifest with
    result := executorResult sampleRequest ⟨["checkout"], sampleSha, "refs/heads/main"⟩ none
      longEvaluation none }

theorem longEvaluation_eq :
    evaluateGateEvidence (fun _ => false) [sampleEvidence "security" "failed" (fill 512)]
      [.str "security"] = .ok longEvaluation := by
  have asked : validateRequiredGates [.str "security"] = .ok ["security"] := by decide +kernel
  have web : IsLine (secretLike fun _ => false) "web" := ⟨by decide, by decide, by decide +kernel⟩
  have valid : longEvidence.Valid fun _ => false :=
    ⟨by decide +kernel, ⟨by decide, web⟩, fill_isLine (Nat.le_refl 512)⟩
  have read : gather (readGate fun _ => false) 0 [] [sampleEvidence "security" "failed" (fill 512)] =
      .ok [longEvidence] :=
    readGate_reads.gather_nil_eq_ok.mpr
      ⟨.cons ⟨_, rfl, sanitizedEvidence_iff.mpr ⟨valid, rfl⟩⟩ .nil, List.nodup_singleton _⟩
  have long : fill 512 ≠ "" := by
    intro empty
    have length := congrArg String.length empty
    rw [fill_length] at length
    cases length
  simp only [evaluateGateEvidence, asked, read, ok_bind]
  simp [decideGates, longEvidence, longEvaluation, long]
  rfl

theorem runGates_of_evaluated {unicodeWord : Char → Bool} {items : List GateItem}
    {runner : DeliveryContext → Phase → Except Raised (List GateItem)} {context : DeliveryContext}
    {phase : Phase} {required : List Json} {evaluation : GateEvaluation}
    (returned : runner context phase = .ok items)
    (evaluated : evaluateGateEvidence unicodeWord items required = .ok evaluation) :
    runGates unicodeWord runner context phase required =
      emit (.gates phase items) >>= fun _ => pure evaluation := by
  simp only [runGates, returned, evaluated]

theorem tryCatch_of_ok {α : Type} {body : Run α} {handler : Raised → Run α} {log log' : List Event}
    {a : α} (h : body log = (.ok a, log')) : Prog.tryCatch body handler log = (.ok a, log') := by
  simp only [Prog.tryCatch, h]

/-- A lock that nobody holds changes nothing of what its body returns. -/
theorem serviceLock_of_free {α : Type} {fs : FileSystem} {path : RawPath} {root : List String}
    {service : String} {timeout : Option Rat} {body : Run α} {a : α} {log : List Event}
    (at_ : lockRoot fs path = .ok root) (named : isLockService service = true)
    (timed : isLockTimeout timeout = true)
    (plain : fs.isSymlink (root ++ [service ++ ".lock"]) = some false)
    (returned : body [.acquired] = (.ok a, log)) :
    serviceLock fs sampleLock path service timeout body [] =
      (.ok a, log ++ [.released] ++ [.closed]) := by
  simp [serviceLock, at_, named, timed, plain, Prog.ensure, Prog.ofExcept, sampleLock, bind, pure,
    Prog.finallyDo, acquire, emit, Prog.modify, unlock, close, returned]

deriving instance DecidableEq for CheckoutResult

def longRunner (_ : DeliveryContext) : Phase → Except Raised (List GateItem)
  | .preflight => .ok [sampleEvidence "security" "failed" (fill 512)]
  | .postflight => .ok []

def longRunners : Runners := { sampleRunners [] [] with runGates := some longRunner }

/-- The events while the lock is held. -/
def longLog : List Event :=
  [.acquired, .checkedOut (.result (some ⟨true, ["checkout"]⟩) (.str sampleSha)
    (.str "refs/heads/main")), .gates .preflight [sampleEvidence "security" "failed" (fill 512)]]

theorem long_locked :
    lockedDelivery (fun _ => false) sampleHost sampleSpec longRunners longRunner [.acquired] =
      (.ok longManifest.result, longLog) := by
  have checked : validateCheckoutResult sampleHost sampleSpec (.result (some ⟨true, ["checkout"]⟩)
      (.str sampleSha) (.str "refs/heads/main")) =
        .ok ⟨["checkout"], sampleSha, "refs/heads/main"⟩ := by
    decide +kernel
  have step : checkoutStep sampleHost sampleSpec longRunners [.acquired] =
      (.ok ⟨["checkout"], sampleSha, "refs/heads/main"⟩, longLog.take 2) := by
    simp only [checkoutStep, longRunners, sampleRunners, checked, bind, emit, Prog.modify,
      Prog.ofExcept, Except.mapError, pure]
    rfl
  have required : sampleSpec.preflightGates = [.str "security"] := rfl
  have refused : longEvaluation.passed = false := rfl
  rw [lockedDelivery, Prog.bind_of_ok step, required, runGates_of_evaluated rfl longEvaluation_eq]
  simp only [bind, emit, Prog.modify, pure, refused]
  rfl

theorem long_run :
    executeDelivery (fun _ => false) sampleHost sampleSpec longRunners sampleLock [] =
      (.ok longManifest.result, longLog ++ [.released] ++ [.closed]) := by
  have valid : validateSpec (fun _ => false) sampleSpec = .ok ⟨⟩ := by decide +kernel
  have runner : longRunners.runGates = some longRunner := rfl
  have root : lockRoot sampleHost sampleSpec.lockRoot = .ok ["locks"] := rfl
  have named : isLockService sampleSpec.checkout.request.service = true := by decide
  have timed : isLockTimeout sampleSpec.lockTimeoutSeconds = true := by decide +kernel
  have locked := serviceLock_of_free root named timed rfl long_locked
  have checked : (Prog.ofExcept (.ok ⟨⟩) : Run Unit) [] = (.ok ⟨⟩, []) := rfl
  rw [executeDelivery, valid, Prog.bind_of_ok checked, runner]
  exact tryCatch_of_ok locked

/-- A gate that fails with a reason of the largest length ends in a result that is refused. -/
theorem executeDelivery_unrecordable :
    parseRequest (requestMapping sampleRequest) = .ok sampleSpec.checkout.request ∧
      (executeDelivery (fun _ => false) sampleHost sampleSpec longRunners sampleLock []).1 =
        .ok longManifest.result ∧
      longManifest.Described sampleClock ∧ IsFresh sampleTree longManifest.path ∧
      ∀ after, writeDeliveryManifest totalCodec (fun _ => false) sampleClock sampleTree longManifest ≠
        .ok after := by
  have parsed : parseRequest (requestMapping sampleRequest) = .ok sampleSpec.checkout.request := by
    decide +kernel
  have returned : (executeDelivery (fun _ => false) sampleHost sampleSpec longRunners sampleLock
      []).1 = .ok longManifest.result := by
    rw [long_run]
  have described : longManifest.Described sampleClock :=
    ⟨sample_described.now, sample_described.environment, sample_described.workflow,
      sample_described.runId, sample_described.actor, sample_described.runnerName,
      sample_described.images, sample_described.rollbackOf⟩
  refine ⟨parsed, returned, described, sample_isFresh, fun after written => ?_⟩
  have canonical : Canonical (fun _ => false) longManifest.result sampleRequest :=
    (produced_of_executeDelivery returned).canonical
  have taken := ((writeDeliveryManifest_iff totalCodec_encodes described sample_isFresh canonical
    parsed).mp ⟨after, written⟩).1
  have reason : longManifest.result.failureReason = some ("security" ++ ": " ++ fill 512) := rfl
  have short := (taken _ reason).2.short
  rw [String.length_append, fill_length] at short
  exact absurd short (by decide)

end OptimizrActions.Delivery
