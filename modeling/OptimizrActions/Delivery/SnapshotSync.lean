import OptimizrActions.Delivery.Executor
import OptimizrActions.Lib.KeyValue
import OptimizrActions.Lib.Text

/-! The snapshot of a deployment directory and the synchronization that it is made for. -/

namespace OptimizrActions.Delivery

section Rsync

/-- `str.rstrip("/")` -/
def rstripSlash (path : String) : String :=
  String.ofList (path.toList.reverse.dropWhile (· = '/')).reverse

/-- `_rsync_command` -/
def rsyncCommand (source destination : String) (deployignore composeExclude : Option String)
    (dryRun : Bool) : List String :=
  ["rsync", "-a", "--delete", "--exclude=.git", "--exclude=.github", "--exclude=.env",
    "--exclude=.env.*", "--exclude=.secrets", "--exclude=.secrets/", "--exclude=*.pem",
    "--exclude=*.key", "--exclude=*.p12", "--exclude=*.pfx", "--exclude=*.tar.gz",
    "--exclude=/backup/"] ++
  (composeExclude.map fun name => s!"--exclude={name}").toList ++
  (deployignore.map fun path => s!"--exclude-from={path}").toList ++
  (if dryRun then ["--dry-run", "--itemize-changes", "--out-format=%i"] else []) ++
  [s!"{rstripSlash source}/", s!"{rstripSlash destination}/"]

/-- A text that stands for itself in a pattern. -/
def IsLiteral (text : List Char) : Prop := ∀ c ∈ text, c ∉ ['*', '?', '[', '\\']

instance (text : List Char) : Decidable (IsLiteral text) := List.decidableBAll _ text

/-- The wildcards of rsync, as far as the patterns of the command need them. -/
structure Wildmatch where
  accepts : List Char → List Char → Bool
  literal : ∀ {pattern text : List Char}, IsLiteral pattern →
    (accepts pattern text = true ↔ text = pattern)
  ending : ∀ {back text : List Char}, IsLiteral back → '/' ∉ text →
    (accepts ('*' :: back) text = true ↔ back <:+ text)
  beginning : ∀ {front text : List Char}, IsLiteral front → '/' ∉ text →
    (accepts (front ++ ['*']) text = true ↔ front <+: text)

/-- The names on the way from the root of a transfer to a file. -/
abbrev Names := List (List Char)

def joined (path : Names) : List Char := ['/'].intercalate path

/-- A pattern that ends in a slash is for directories only, one that begins with a slash for paths
from the root, one with a slash or `**` inside for the end of a path, and any other for a last
name. -/
def matchesPattern (wild : Wildmatch) (pattern : List Char) (path : Names) (isDirectory : Bool) :
    Bool :=
  let onlyDirectories := pattern.getLast? = some '/'
  let body := if onlyDirectories then pattern.dropLast else pattern
  if onlyDirectories ∧ isDirectory = false then false
  else if body.head? = some '/' then wild.accepts body.tail (joined path)
  else if '/' ∈ body ∨ Text.occursIn ['*', '*'] body = true then
    path.tails.any fun tail => wild.accepts body (joined tail)
  else wild.accepts body (path.getLast?.getD [])

def excludePatterns (command : List String) : List (List Char) :=
  command.filterMap fun argument =>
    if "--exclude=".toList.isPrefixOf argument.toList then some (argument.toList.drop 10) else none

end Rsync

section Snapshot

def privateSuffixes : List (List Char) :=
  [".pem".toList, ".key".toList, ".p12".toList, ".pfx".toList]

/-- What `tarfile` takes a file for; a hard link is a further name of a file that it has met, and of
a socket it makes no member. -/
inductive TarType
  | file
  | directory
  | symlink
  | hardlink
  | device
  | socket
  deriving DecidableEq

structure TarInfo where
  name : List Char
  type : TarType

/-- The parts of `PurePosixPath(name.replace("\\", "/"))` that are names. -/
def components (name : List Char) : Names :=
  (KeyValue.splitOn '/' (name.map fun c => if c = '\\' then '/' else c)).filter
    fun component => component ≠ [] ∧ component ≠ ['.']

def isPrivate (component : List Char) : Bool :=
  component = ".secrets".toList || component = ".env".toList ||
    ".env.".toList.isPrefixOf component ||
    privateSuffixes.any (·.isSuffixOf (component.flatMap Text.lowerChar)) ||
    ".tar.gz".toList.isSuffixOf (component.flatMap Text.lowerChar)

def snapshotFilter (member : TarInfo) : Option TarInfo :=
  if member.name = ['.'] then some member
  else if (components member.name).any isPrivate then none
  else if member.type = .symlink ∨ member.type = .hardlink then none
  else some member

/-- The name of a member below `arcname="."`. -/
def memberName (path : Names) : List Char := joined (['.'] :: path)

/-- The files of a directory: what the archive takes each of them for, by its path from the root. -/
structure Destination where
  type : Names → Option TarType
  root : type [] = some .directory
  parent : ∀ path name, type (path ++ [name]) ≠ none → type path = some .directory
  names : ∀ path, type path ≠ none → ∀ name ∈ path, '/' ∉ name

/-- Whether `_create_snapshot` makes a member of a path that it comes to. -/
def isKept (destination : Destination) (path : Names) : Bool :=
  match destination.type path with
  | none => false
  | some .socket => false
  | some type => (snapshotFilter ⟨memberName path, type⟩).isSome

end Snapshot

section Sync

/-- What `_validate_spec` makes of a specification, and whether a snapshot is asked for. -/
structure ValidatedSync where
  source : String
  destination : String
  snapshotEnabled : Bool
  deployignore : Option String
  composeExclude : Option String
  snapshotName : String

structure CompletedProcess where
  returncode : Int
  stdout : String

inductive SyncEvent
  | rsync (command : List String)
  | snapshot (name : String)

def ValidatedSync.command (spec : ValidatedSync) (dryRun : Bool) : List String :=
  rsyncCommand spec.source spec.destination spec.deployignore spec.composeExclude dryRun

/-- `_run_rsync`; `none` is a command that does not start. -/
def runRsync (run : List String → Option CompletedProcess) (command : List String) :
    Except String CompletedProcess :=
  match run command with
  | none => .error "rsync command could not be started"
  | some completed =>
    if completed.returncode ≠ 0 then .error "rsync command failed" else .ok completed

/-- `sync_deployment` after the checks of its paths, with what it does; `create` is the end of
`_create_snapshot`. -/
def syncDeployment (run : List String → Option CompletedProcess)
    (create : String → Except String Unit) (spec : ValidatedSync) :
    Except String SyncResult × List SyncEvent :=
  let dry := SyncEvent.rsync (spec.command true)
  match runRsync run (spec.command true) with
  | .error error => (.error error, [dry])
  | .ok completed =>
    if (Text.strip completed.stdout).toList = [] then
      (.ok ⟨.bool false, .int 0, .bool false, .null, .bool false⟩, [dry])
    else
      let entries := (Text.splitLines completed.stdout).length
      let snapshot := if spec.snapshotEnabled then create spec.snapshotName else .ok ()
      let events := dry ::
        if spec.snapshotEnabled then [.snapshot spec.snapshotName] else []
      match snapshot with
      | .error error => (.error error, events)
      | .ok () =>
        let events := events ++ [.rsync (spec.command false)]
        match runRsync run (spec.command false) with
        | .error error => (.error error, events)
        | .ok _ =>
          (.ok ⟨.bool true, .int entries, .bool spec.snapshotEnabled,
            if spec.snapshotEnabled then .str spec.snapshotName else .null, .bool true⟩, events)

end Sync

end OptimizrActions.Delivery
