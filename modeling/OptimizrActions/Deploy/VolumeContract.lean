import OptimizrActions.Lib.Host
import OptimizrActions.Lib.Talk

/-! The volumes that a deployment needs, and the write probes in its containers. -/

namespace OptimizrActions.Deploy

open Talk Prog

structure VolumeProbe where
  container : String
  volume : String
  mountPath : String
  uid : Int
  deriving DecidableEq

/-- The validated contract. -/
structure VolumeManifest where
  ensureNetworks : List String
  ensureVolumes : List String
  createMissingVolumes : Bool
  createMissingVolumesAllowlist : List String
  volumeWriteProbes : List VolumeProbe
  rolloutServices : Option (List String)

/-- A command of Docker, or one of Compose with the files of the deployment. -/
inductive Command where
  | docker (args : List String)
  | compose (args : List String)
  deriving DecidableEq

inductive Answer where
  | completed (returncode : Int) (stdout : String)
  | raised (message : String)

abbrev Daemon := Peer Command Answer

abbrev Docker := Talk Command Answer String

def isNameChar (c : Char) : Bool := c.isAlphanum || c = '_' || c = '.' || c = '-'

/-- `_NAME_RE` -/
def isName (name : String) : Bool :=
  match name.toList with
  | [] => false
  | c :: cs => c.isAlphanum && cs.all isNameChar

/-- `_CONTAINER_ID_RE` -/
def isContainerId (id : String) : Bool := Text.hexText Text.isHex 64 id.toList

/-- `_IMAGE_ID_RE` -/
def isImageId (id : String) : Bool := Text.sha256Text Text.isHex id

def mayCreateMissingVolume (manifest : VolumeManifest) (volume : String) : Bool :=
  manifest.createMissingVolumes || volume ∈ manifest.createMissingVolumesAllowlist

section

variable (daemon : Daemon)

def call (command : Command) : Docker (Int × String) := do
  match ← ask daemon command with
  | .completed returncode stdout => pure (returncode, stdout)
  | .raised message => throw message

/-- `_require_success` of a call: its output. -/
def callSuccess (command : Command) (description : String) : Docker String := do
  let (returncode, stdout) ← call daemon command
  ensure (returncode = 0) s!"{description} failed"
  pure stdout

end

def inspectVolumeCommand (volume : String) : Command := .docker ["volume", "inspect", volume]

def listVolumesCommand (volume : String) : Command :=
  .docker ["volume", "ls", "--format", "\x7b\x7b.Name\x7d\x7d", "--filter", "name=" ++ volume]

def createVolumeCommand (volume : String) : Command := .docker ["volume", "create", volume]

section

/- `json.loads`; `none` where it raises. -/
variable (loads : String → Option Json) (daemon : Daemon)

/-- `_inspect_volume_name` -/
def inspectVolumeName (stdout : String) (expected : String) : Except String Bool :=
  match loads stdout with
  | some (.arr [.obj volume]) =>
    .ok (match Mapping.get volume "Name" with
      | .str name => name = expected
      | _ => false)
  | _ => .error "Docker returned an invalid volume inspection"

/-- Whether a required volume is missing. -/
def inspectVolume (volume : String) : Docker Bool := do
  let (returncode, stdout) ← call daemon (inspectVolumeCommand volume)
  if returncode = 0 then do
    let same ← ofExcept (inspectVolumeName loads stdout volume)
    ensure (same = true) "Docker inspection did not match the requested volume"
    pure false
  else do
    let listed ← callSuccess daemon (listVolumesCommand volume) "Docker volume inventory"
    ensure (volume ∉ Text.splitLines listed) "Docker listed a volume that it could not inspect"
    pure true

/-- The first loop of `ensure_volumes`, with what is missing so far. -/
def inspectVolumes : List String → List String → Docker (List String)
  | [], missing => pure missing
  | volume :: rest, missing => do
    let absent ← inspectVolume loads daemon volume
    inspectVolumes rest (if absent then missing ++ [volume] else missing)

def createVolume (volume : String) : Docker Unit := do
  let created ← callSuccess daemon (createVolumeCommand volume) "Docker volume creation"
  ensure (Text.strip created = volume)
    "Docker did not confirm creation of the exact requested volume"
  let inspected ← callSuccess daemon (inspectVolumeCommand volume) "Docker volume verification"
  let same ← ofExcept (inspectVolumeName loads inspected volume)
  ensure (same = true) "Docker created a volume with an unexpected name"

/-- `ensure_volumes` -/
def ensureVolumes (manifest : VolumeManifest) : Docker Unit := do
  let missing ← inspectVolumes loads daemon manifest.ensureVolumes []
  let unauthorized := missing.filter fun volume => !mayCreateMissingVolume manifest volume
  ensure (unauthorized = []) ("required volume(s) are missing and not authorized for creation: " ++
    ", ".intercalate unauthorized)
  forEach missing (createVolume loads daemon)

def ensureNetwork (network : String) : Docker Unit := do
  let (returncode, _) ← call daemon (.docker ["network", "inspect", network])
  if returncode = 0 then pure ()
  else do
    let _ ← callSuccess daemon (.docker ["network", "create", network]) "Docker network creation"
    pure ()

/-- `ensure_resources` -/
def ensureResources (manifest : VolumeManifest) : Docker Unit := do
  forEach manifest.ensureNetworks (ensureNetwork daemon)
  ensureVolumes loads daemon manifest

end

end OptimizrActions.Deploy
