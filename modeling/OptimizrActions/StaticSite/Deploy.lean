import OptimizrActions.Lib.Prog
import OptimizrActions.Lib.Text

/-! The deployment of a static site through candidate and rollback volumes, with every step that can
fail. -/

namespace OptimizrActions.StaticSite

open Prog

/-- What `deploy_static_site` catches: `DeployError` and `OSError`. -/
inductive Failure
  | deploy (message : String)
  | os

inductive Volume
  | candidate
  | stable
  | backup
  deriving DecidableEq

/-- The steps that can fail, in the order of the source; an output is verified under its position in
`required_outputs`. -/
inductive Step
  | clearStage
  | clearSourceBackup
  | copySource
  | dropStage
  | removeVolumes
  | createVolume (volume : Volume)
  | build
  | runBuilder
  | images
  | verifyCandidate (position : Nat)
  | backupVolume
  | clearStable
  | promoteVolume
  | verifyStable (position : Nat)
  | moveSource
  | promoteSource
  | removeSourceBackup
  | cleanup
  | evidence
  | rollbackClear
  | rollbackCopy
  | restoreSource
  | removeStage
  | rollbackCleanup
  | failureEvidence
  deriving DecidableEq

/-- What a failing step leaves behind, where it was at work. -/
structure Damage (Content Tree : Type) where
  message : String
  /-- The evidence path is a link. -/
  isLink : Bool
  content : Content
  tree : Tree
  candidateGone : Bool
  backupGone : Bool

/-- The steps that fail. -/
abbrev Faults (Content Tree : Type) := Step → Option (Damage Content Tree)

/-- What a volume can hold. -/
structure Volumes (Content : Type) where
  empty : Content
  /-- `cp -a /source/. /destination/` -/
  copy : Content → Content → Content
  contains : Content → String → Bool
  copy_empty : ∀ source, copy source empty = source

/-- The volumes and the directories. A volume that does not exist is mounted as an empty one, so that
its content is empty. -/
structure Site (Content Tree : Type) where
  candidate : Content
  stable : Content
  backup : Content
  deployRoot : Option Tree
  stage : Option Tree
  sourceBackup : Option Tree

structure Payload where
  serviceName : String
  deployedSha : String
  builderImageId : Option String
  result : String
  failurePhase : Option String

/-- The site and the variables of `deploy_static_site`; `failed` lists the steps that have failed, and
`removals` what the stable volume held each time that the backup volume was removed. -/
structure Deployment (Content Tree : Type) extends Site Content Tree where
  imageId : String
  stableChanged : Bool
  sourceMoved : Bool
  phase : String
  failed : List Step
  removals : List Content
  evidence : Option Payload

structure Input (Content Tree : Type) where
  serviceName : String
  requiredOutputs : List String
  deployedSha : String
  /-- The checks of the paths and of the Docker mode. -/
  checked : Except String Unit
  source : Tree
  isDirectory : Tree → Bool
  hasCompose : Tree → Bool
  /-- What the builder makes of the volume that it is run with. -/
  builder : Content → Content
  imagesOutput : String

def isImageId (text : String) : Bool :=
  match text.toList with
  | 's' :: 'h' :: 'a' :: '2' :: '5' :: '6' :: ':' :: rest =>
    3 ≤ rest.length && rest.length ≤ 200 &&
      rest.all fun c => ('0' ≤ c && c ≤ '9') || ('A' ≤ c && c ≤ 'Z') || ('a' ≤ c && c ≤ 'z') ||
        c ∈ ['_', '.', ':', '-']
  | _ => false

/-- `stdout.strip().splitlines()[0] if stdout.strip() else ""` -/
def firstLine (stdout : String) : String :=
  (Text.splitLines (Text.strip stdout)).head?.getD ""

section

variable {Content Tree : Type}

abbrev Run (Content Tree : Type) := Prog (Deployment Content Tree) Failure

variable (volumes : Volumes Content) (input : Input Content Tree) (faults : Faults Content Tree)

/-- A step takes effect, or does some damage and raises. -/
def attempt (step : Step) (error : Damage Content Tree → Failure)
    (effect : Deployment Content Tree → Deployment Content Tree)
    (damage : Damage Content Tree → Deployment Content Tree → Deployment Content Tree) :
    Run Content Tree Unit := fun s =>
  match faults step with
  | none => (.ok (), effect s)
  | some d => (.error (error d), damage d { s with failed := s.failed ++ [step] })

/-- A step of which a failure is ignored. -/
def attemptQuietly (step : Step) (effect : Deployment Content Tree → Deployment Content Tree)
    (damage : Damage Content Tree → Deployment Content Tree → Deployment Content Tree) :
    Run Content Tree Unit := fun s =>
  match faults step with
  | none => (.ok (), effect s)
  | some d => (.ok (), damage d { s with failed := s.failed ++ [step] })

/-- `_run` -/
def docker (step : Step) (effect : Deployment Content Tree → Deployment Content Tree)
    (damage : Damage Content Tree → Deployment Content Tree → Deployment Content Tree) :
    Run Content Tree Unit := attempt faults step (fun d => .deploy d.message) effect damage

/-- An operation on files. -/
def files (step : Step) (effect : Deployment Content Tree → Deployment Content Tree)
    (damage : Damage Content Tree → Deployment Content Tree → Deployment Content Tree) :
    Run Content Tree Unit := attempt faults step (fun _ => .os) effect damage

def setPhase (phase : String) : Run Content Tree Unit := modify fun s => { s with phase := phase }

/-- `_verify_outputs` -/
def verifyOutputs (step : Nat → Step) (held : Deployment Content Tree → Content) :
    Run Content Tree Unit :=
  forEach input.requiredOutputs.zipIdx fun (relative, position) => do
    docker faults (step position) id fun _ => id
    ensure (volumes.contains (held (← get)) relative = true)
      (.deploy "Docker command failed with exit code 1")

/-- `_clear_volume`, of the stable volume -/
def clearStable (step : Step) : Run Content Tree Unit :=
  docker faults step (fun s => { s with stable := volumes.empty })
    fun d s => { s with stable := d.content }

/-- `_copy_volume`, to the stable volume -/
def copyToStable (step : Step) (held : Deployment Content Tree → Content) : Run Content Tree Unit :=
  docker faults step (fun s => { s with stable := volumes.copy (held s) s.stable })
    fun d s => { s with stable := d.content }

/-- `volume rm -f` of the candidate and the backup, with `required=False` -/
def removeVolumes (step : Step) : Run Content Tree Unit :=
  attemptQuietly faults step
    (fun s => { s with
      candidate := volumes.empty, backup := volumes.empty, removals := s.removals ++ [s.stable] })
    fun d s => { s with
      candidate := if d.candidateGone then volumes.empty else s.candidate
      backup := if d.backupGone then volumes.empty else s.backup
      removals := s.removals ++ if d.backupGone then [s.stable] else [] }

/-- A staging directory of an earlier deployment is removed. -/
def clearPath (step : Step) (at_ : Deployment Content Tree → Option Tree)
    (put : Option Tree → Deployment Content Tree → Deployment Content Tree) :
    Run Content Tree Unit := do
  match at_ (← get) with
  | none => pure ()
  | some tree =>
    ensure (input.isDirectory tree = true) (.deploy "staging paths must be directories")
    files faults step (put none) fun d => put (some d.tree)

def requireCompose : Run Content Tree Unit :=
  if input.hasCompose input.source = true then pure ()
  else do
    attemptQuietly faults .dropStage (fun s => { s with stage := none })
      fun d s => { s with stage := some d.tree }
    throw (.deploy "compose_file must be a regular staged file")

/-- The part before the `try` statement. -/
def stageSource : Run Content Tree Unit := do
  ensure (input.deployedSha.length = 40 ∧ input.deployedSha.toList.all Text.isLowerHex = true)
    (.deploy "deployed_sha must be a lowercase 40-character SHA")
  ofExcept (input.checked.mapError .deploy)
  clearPath input faults .clearStage (·.stage) fun tree s => { s with stage := tree }
  clearPath input faults .clearSourceBackup (·.sourceBackup) fun tree s =>
    { s with sourceBackup := tree }
  files faults .copySource (fun s => { s with stage := some input.source })
    fun d s => { s with stage := some d.tree }
  requireCompose input faults

def prepareVolumes : Run Content Tree Unit := do
  setPhase "prepare-volumes"
  removeVolumes volumes faults .removeVolumes
  forEach [.candidate, .stable, .backup] fun volume =>
    docker faults (.createVolume volume) id fun _ => id

def buildCandidate : Run Content Tree Unit := do
  setPhase "build"
  docker faults .build id fun _ => id
  docker faults .runBuilder (fun s => { s with candidate := input.builder s.candidate })
    fun d s => { s with candidate := d.content }
  docker faults .images (fun s => { s with imageId := firstLine input.imagesOutput }) fun _ => id
  ensure (isImageId (← get).imageId = true)
    (.deploy "builder image identity is missing or invalid")
  verifyOutputs volumes input faults .verifyCandidate (·.candidate)

def backupStable : Run Content Tree Unit := do
  setPhase "backup-volume"
  docker faults .backupVolume (fun s => { s with backup := volumes.copy s.stable s.backup })
    fun d s => { s with backup := d.content }

def promoteVolume : Run Content Tree Unit := do
  setPhase "promote-volume"
  modify fun s => { s with stableChanged := true }
  clearStable volumes faults .clearStable
  copyToStable volumes faults .promoteVolume (·.candidate)
  verifyOutputs volumes input faults .verifyStable (·.stable)

def moveSource : Run Content Tree Unit := do
  if (← get).deployRoot.isSome = true then
    files faults .moveSource
      (fun s => { s with deployRoot := none, sourceBackup := s.deployRoot }) fun _ => id
    modify fun s => { s with sourceMoved := true }

def removeOldSource : Run Content Tree Unit := do
  if (← get).sourceBackup.isSome = true then
    files faults .removeSourceBackup (fun s => { s with sourceBackup := none })
      fun d s => { s with sourceBackup := some d.tree }

def promoteSource : Run Content Tree Unit := do
  setPhase "promote-source"
  moveSource faults
  files faults .promoteSource (fun s => { s with stage := none, deployRoot := s.stage })
    fun _ => id
  removeOldSource faults
  modify fun s => { s with sourceMoved := false }

/-- `_write_json` -/
def writeJson (step : Step) (payload : Payload) : Run Content Tree Unit :=
  attempt faults step
    (fun d => if d.isLink then .deploy "evidence path must not be a symlink" else .os)
    (fun s => { s with evidence := some payload }) fun _ => id

def passedPayload (imageId : String) : Payload :=
  ⟨input.serviceName, input.deployedSha, some imageId, "passed", none⟩

def failedPayload (s : Deployment Content Tree) : Payload :=
  ⟨input.serviceName, input.deployedSha, if s.imageId = "" then none else some s.imageId, "failed",
    some s.phase⟩

/-- The body of the `try` statement. -/
def deployBody : Run Content Tree Payload := do
  prepareVolumes volumes faults
  buildCandidate volumes input faults
  backupStable volumes faults
  promoteVolume volumes input faults
  promoteSource faults
  setPhase "cleanup"
  removeVolumes volumes faults .cleanup
  let payload := passedPayload input (← get).imageId
  writeJson faults .evidence payload
  return payload

def rollbackVolume : Run Content Tree Unit := do
  let s ← get
  if s.stableChanged = true ∧ s.imageId ≠ "" then
    tryCatch
      (do
        clearStable volumes faults .rollbackClear
        copyToStable volumes faults .rollbackCopy (·.backup))
      fun
        | .deploy _ => modify fun s => { s with phase := s.phase ++ "-rollback-failed" }
        | .os => throw .os

def restoreSource : Run Content Tree Unit := do
  let s ← get
  if s.sourceMoved = true ∧ s.sourceBackup.isSome = true ∧ s.deployRoot = none then
    files faults .restoreSource
      (fun s => { s with deployRoot := s.sourceBackup, sourceBackup := none }) fun _ => id

/-- The `except` clause. -/
def deployFailed : Run Content Tree Payload := do
  rollbackVolume volumes faults
  restoreSource faults
  attemptQuietly faults .removeStage (fun s => { s with stage := none })
    fun d s => { s with stage := s.stage.map fun _ => d.tree }
  removeVolumes volumes faults .rollbackCleanup
  writeJson faults .failureEvidence (failedPayload input (← get))
  throw (.deploy s!"static-site deployment failed during {(← get).phase}")

def deployStaticSite : Run Content Tree Payload := do
  stageSource input faults
  tryCatch (deployBody volumes input faults) fun _ => deployFailed volumes input faults

/-- A deployment of a site starts with its variables unset. -/
def begin_ (site : Site Content Tree) : Deployment Content Tree :=
  { site with
    imageId := "", stableChanged := false, sourceMoved := false, phase := "initialize",
    failed := [], removals := [], evidence := none }

end

end OptimizrActions.StaticSite
