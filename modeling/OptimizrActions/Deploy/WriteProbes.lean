import OptimizrActions.Deploy.VolumeContract
import OptimizrActions.Lib.Check
import OptimizrActions.Lib.JsonText

/-! The write probes of a deployment, each in the container that was verified for it. -/

namespace OptimizrActions.Deploy

open Talk Prog

def writeProbeScript : String :=
  "set -eu\numask 077\ntarget=\"$1\"\n" ++
    "probe_file=\"$(mktemp \"$target/.optimizr-write-probe.XXXXXX\")\"\n" ++
    "cleanup() \x7b\n  rm -f -- \"$probe_file\"\n\x7d\ntrap cleanup EXIT\n" ++
    "printf 'optimizr-volume-write-probe\\n' > \"$probe_file\"\n" ++
    "test -s \"$probe_file\"\nrm -f -- \"$probe_file\"\ntrap - EXIT\n"

def listContainersCommand : Command := .compose ["ps", "--all", "--quiet", "--no-trunc"]

def inspectContainerCommand (container : String) : Command :=
  .docker ["inspect", "--type", "container", container]

def composeConfigCommand : Command := .compose ["config", "--format", "json"]

def inspectImageCommand (image : String) : Command :=
  .docker ["image", "inspect", "--format", "\x7b\x7b.Id\x7d\x7d", image]

/-- The probe itself, in the container with this identifier. -/
def execCommand (probe : VolumeProbe) (id : String) : Command :=
  .docker ["exec", "--user", toString probe.uid, id, "sh", "-eu", "-c", writeProbeScript, "sh",
    probe.mountPath]

/-- A reference that can be given to Docker as an argument. -/
def isImageReference (image : String) : Bool :=
  image ≠ "" && image.length ≤ 512 && !("-".toList.isPrefixOf image.toList) &&
    image.toList.all fun c => 0x21 ≤ c.toNat && c.toNat ≤ 0x7e

def isOneOff : Json → Bool
  | .str text => Text.lower text = "true"
  | _ => false

/-- What the inspected container says of itself. -/
structure ProbeTarget where
  id : String
  image : String
  service : String

section

/- `json.loads`; `none` where it raises. -/
variable (loads : String → Option Json)

/-- `_parse_inspected_container` -/
def parseInspectedContainer (raw : String) : Except String Mapping :=
  match loads raw with
  | some (.arr [.obj container]) => .ok container
  | some _ => .error "Docker did not return exactly one inspected container"
  | none => .error "Docker returned invalid container inspection data"

def containerId (composeIds : List String) (container : Mapping) : Except String String :=
  match container.get "Id" with
  | .str id => do
    require (isContainerId id = true ∧ id ∈ composeIds)
      "probe container is not part of the current Compose deployment"
    return id
  | _ => .error "probe container is not part of the current Compose deployment"

def checkRunning (container : Mapping) : Except String Unit :=
  match container.get "State" with
  | .obj state => require (Mapping.get state "Running" = .bool true) "probe container is not running"
  | _ => .error "probe container is not running"

def configImage (config : Mapping) : Except String String :=
  match config.get "Image" with
  | .str image => do
    require (isImageReference image = true) "probe container has no configured image"
    return image
  | _ => .error "probe container has no configured image"

def serviceLabel (services : Option (List String)) (config : Mapping) : Except String String :=
  match config.get "Labels" with
  | .obj labels =>
    match Mapping.get labels "com.docker.compose.service" with
    | .str service => do
      require (isName service = true) "probe container has an invalid Compose service label"
      require (∀ expected ∈ services, service ∈ expected)
        "probe container service was not requested in this rollout"
      require (isOneOff (Mapping.get labels "com.docker.compose.oneoff") = false)
        "probe target must be a deployed Compose service, not a one-off container"
      return service
    | _ => .error "probe container has an invalid Compose service label"
  | _ => .error "probe container has no Compose service label"

/-- The checks between the inspection and the configuration of Compose. -/
def checkContainer (probe : VolumeProbe) (composeIds : List String)
    (services : Option (List String)) (container : Mapping) : Except String ProbeTarget := do
  let id ← containerId composeIds container
  require (container.get "Name" = .str ("/" ++ probe.container))
    "Docker inspected a different container than requested"
  checkRunning container
  match container.get "Config" with
  | .obj config => do
    let image ← configImage config
    let service ← serviceLabel services config
    return ⟨id, image, service⟩
  | _ => .error "probe container has no inspectable image configuration"

/-- The service is declared, with this image or with none. -/
def checkDeclared (target : ProbeTarget) (stdout : String) : Except String Unit :=
  match loads stdout with
  | none => .error "Compose returned invalid configuration data"
  | some (.obj config) =>
    match Mapping.get config "services" with
    | .obj services =>
      match Mapping.get services target.service with
      | .obj service =>
        require (Mapping.get service "image" = .null ∨
            Mapping.get service "image" = .str target.image)
          "probe container image does not match the current Compose configuration"
      | _ => .error "probe container is not declared by the current Compose configuration"
    | _ => .error "probe container is not declared by the current Compose configuration"
  | some _ => .error "probe container is not declared by the current Compose configuration"

def imageId (container : Mapping) : Except String String :=
  match container.get "Image" with
  | .str id => do
    require (isImageId id = true) "probe container has no immutable image identifier"
    return id
  | _ => .error "probe container has no immutable image identifier"

/-- A mount of the probed volume at the probed path. -/
def isProbedMount (probe : VolumeProbe) : Json → Bool
  | .obj mount => Mapping.get mount "Type" = .str "volume" &&
      Mapping.get mount "Name" = .str probe.volume &&
      Mapping.get mount "Destination" = .str probe.mountPath
  | _ => false

def checkMounts (probe : VolumeProbe) (container : Mapping) : Except String Unit :=
  match container.get "Mounts" with
  | .arr mounts =>
    match mounts.filter (isProbedMount probe) with
    | [.obj mount] => require (Mapping.get mount "RW" = .bool true)
        "probe does not match one writable named-volume mount"
    | _ => .error "probe does not match one writable named-volume mount"
  | _ => .error "probe container has no inspectable mounts"

variable (daemon : Daemon)

/-- `_verify_probe_target` -/
def verifyProbeTarget (services : Option (List String)) (probe : VolumeProbe) : Docker String := do
  let ids ← callSuccess daemon listContainersCommand "Compose container inventory"
  let inspected ← callSuccess daemon (inspectContainerCommand probe.container)
    "Docker container inspection"
  let container ← ofExcept (parseInspectedContainer loads inspected)
  let target ← ofExcept (checkContainer probe (Text.splitLines ids) services container)
  let config ← callSuccess daemon composeConfigCommand "Compose configuration inspection"
  ofExcept (checkDeclared loads target config)
  let image ← ofExcept (imageId container)
  let resolved ← callSuccess daemon (inspectImageCommand target.image)
    "Docker deployed image inspection"
  ensure (Text.strip resolved = image)
    "probe container image reference no longer resolves to its deployed image"
  ofExcept (checkMounts probe container)
  pure target.id

def runWriteProbe (services : Option (List String)) (probe : VolumeProbe) : Docker Unit := do
  let id ← verifyProbeTarget loads daemon services probe
  let _ ← callSuccess daemon (execCommand probe id) "Docker volume write probe"
  pure ()

/-- `run_write_probes` -/
def runWriteProbes (manifest : VolumeManifest) : Docker Unit :=
  forEach manifest.volumeWriteProbes (runWriteProbe loads daemon manifest.rolloutServices)

end

end OptimizrActions.Deploy
