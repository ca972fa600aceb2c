import Mathlib.Logic.Function.Basic
import OptimizrActions.EnvWriter.Render
import OptimizrActions.Lib.Prog

/-! The environment file is written next to its place, moved there, and recorded as evidence. -/

namespace OptimizrActions.EnvWriter

open Prog

/-- A path by its parent and its last part. -/
structure FilePath where
  parent : List String
  name : String
  deriving DecidableEq

inductive Node where
  | file (content : List Char)
  | directory
  | symlink (leadsSomewhere : Bool)
  deriving DecidableEq

def Node.isSymlink : Node → Bool
  | .symlink _ => true
  | _ => false

abbrev Files := FilePath → Option Node

abbrev Write := Prog Files String

def allowedModes : List Nat := [0o400, 0o440, 0o600, 0o640, 0o660]

/-- What the checks see of the destination and of the allowed root; `parent` is the resolved
parent, where it exists. -/
structure Destination where
  rootIsDir : Bool
  rootIsSymlink : Bool
  parent : Option (List String)
  name : String
  inside : Bool
  throughSymlink : Bool

/-- The random part of a temporary name. -/
structure Suffix where
  chars : List Char
  length : chars.length = 8
  plain : '.' ∉ chars

/-- The steps that fail, and the mode that the destination has in the end. -/
structure Faults where
  create : Bool := false
  /-- The write fails after this part. -/
  write : Option (List Char) := none
  chmod : Bool := false
  replace : Bool := false
  /-- No mode where `stat` fails. -/
  actualMode : Option Nat
  cleanup : Bool := false
  mkdir : Bool := false
  evidenceWrite : Option (List Char) := none
  evidenceReplace : Bool := false

structure WriteRequest where
  schema : Json
  environment : String → Option String
  destination : Destination
  mode : Nat
  evidence : FilePath

def isRegularOrAbsent : Option Node → Bool
  | some .directory => false
  | some (.symlink leadsSomewhere) => !leadsSomewhere
  | _ => true

/-- `_resolve_destination` -/
def resolveDestination (d : Destination) (files : Files) : Except String FilePath := do
  require (d.rootIsDir = true ∧ d.rootIsSymlink = false)
    "allowed_root must be an existing non-symlink directory"
  match d.parent with
  | none => .error "No such file or directory"
  | some parent => do
    require (d.inside = true) "destination parent must remain inside allowed_root"
    require (d.throughSymlink = false) "path must not contain symbolic links"
    require (isRegularOrAbsent (files ⟨parent, d.name⟩) = true)
      "destination must be a regular file or absent"
    return ⟨parent, d.name⟩

/-- The name that `mkstemp` gives with this random part. -/
def temporaryPath (destination : FilePath) (suffix : Suffix) : FilePath :=
  ⟨destination.parent, "." ++ destination.name ++ "." ++ String.ofList suffix.chars⟩

def evidenceTemporary (evidence : FilePath) : FilePath := { evidence with name := evidence.name ++ ".tmp" }

def put (path : FilePath) (content : List Char) : Write Unit :=
  modify fun files => Function.update files path (some (.file content))

/-- `os.replace` of a file that has this content. -/
def move (source target : FilePath) (content : List Char) : Write Unit :=
  modify fun files =>
    Function.update (Function.update files source none) target (some (.file content))

section

variable (faults : Faults)

/-- `mkstemp` takes no name that exists. -/
def createTemporary (temporary : FilePath) : Write Unit := do
  let files ← get
  ensure (faults.create = false ∧ files temporary = none) "temporary file could not be created"
  put temporary []

/-- The `try` block. -/
def replaceDestination (mode : Nat) (rendered : List Char) (temporary destination : FilePath) :
    Write Unit := do
  match faults.write with
  | some part => do
    put temporary part
    throw "temporary file could not be written"
  | none => do
    put temporary rendered
    ensure (faults.chmod = false) "mode could not be set"
    ensure (faults.replace = false) "destination could not be replaced"
    move temporary destination rendered
    match faults.actualMode with
    | none => throw "destination could not be inspected"
    | some actual => ensure (actual = mode) "destination mode verification failed"

/-- The `finally` block. -/
def removeTemporary (temporary : FilePath) : Write Unit := do
  let files ← get
  if files temporary = none then pure ()
  else do
    ensure (faults.cleanup = false) "temporary file could not be removed"
    modify fun files => Function.update files temporary none

/-- `_write_json_atomic` -/
def writeJsonAtomic (path : FilePath) (text : List Char) : Write Unit := do
  ensure (faults.mkdir = false) "directory could not be created"
  let files ← get
  ensure ((files path).any Node.isSymlink = false) "evidence path must not be a symbolic link"
  ensure ((files (evidenceTemporary path)).any Node.isSymlink = false)
    "temporary evidence path must not be a symbolic link"
  ensure (files (evidenceTemporary path) ≠ some .directory) "Is a directory"
  match faults.evidenceWrite with
  | some part => do
    put (evidenceTemporary path) part
    throw "evidence could not be written"
  | none => do
    put (evidenceTemporary path) text
    ensure (files path ≠ some .directory ∧ faults.evidenceReplace = false)
      "evidence could not be replaced"
    move (evidenceTemporary path) path text

variable (sha256 : String → String) (dumps : Json → List Char) (suffix : Suffix)

def evidencePayload (request : WriteRequest) (entries : List Json) : Json :=
  let octal := (Nat.toDigits 8 request.mode).leftpad 4 '0'
  .obj [("schema_version", .int 1), ("result", .str "passed"),
    ("destination_name", .str request.destination.name), ("mode", .str (String.ofList octal)),
    ("entry_count", .int entries.length), ("entries", .arr entries)]

/-- `write_env_file` -/
def writeEnvFile (request : WriteRequest) : Write Json := do
  ensure (request.mode ∈ allowedModes) "mode must be one of 0400, 0440, 0600, 0640, or 0660"
  let files ← get
  let destination ← ofExcept (resolveDestination request.destination files)
  let (rendered, entries) ← ofExcept (renderEnv sha256 request.schema request.environment)
  let temporary := temporaryPath destination suffix
  createTemporary faults temporary
  finallyDo (replaceDestination faults request.mode rendered temporary destination)
    (removeTemporary faults temporary)
  let payload := evidencePayload request entries
  writeJsonAtomic faults request.evidence (dumps payload)
  pure payload

end

end OptimizrActions.EnvWriter
