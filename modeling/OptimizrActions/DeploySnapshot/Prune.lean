import Mathlib.Data.List.Sort
import Mathlib.Data.Prod.Lex
import Mathlib.Data.String.Basic
import OptimizrActions.Delivery.Manifest
import OptimizrActions.Lib.Directory

/-! The snapshots of a deployment, and which of them a pruning removes. -/

namespace OptimizrActions.DeploySnapshot

open Delivery (Moment)

/-- What lies under a name in the snapshot root.  The time of a file is missing where the
calendar has no date for it. -/
inductive Node where
  | file (size : Nat) (mtime : Option Calendar.DateTime)
  | symlink
  | other
  deriving DecidableEq

abbrev SnapshotRoot := Directory Node

/-- What the checks see of the root's path. -/
structure RootPath where
  isAbsolute : Bool
  isRoot : Bool
  exists_ : Bool
  isDir : Bool
  isSymlink : Bool
  throughSymlink : Bool
  deriving DecidableEq

structure PruneConfig where
  root : RootPath
  maxCount : Json
  maxAgeDays : Json
  maxTotalBytes : Json
  now : Option Moment := none

structure SnapshotEntry where
  name : String
  size : Nat
  mtime : Calendar.DateTime
  deriving DecidableEq

/-- The result names each snapshot by its name in the root. -/
structure PruneResult where
  root : RootPath
  kept : List String
  deleted : List String
  keptBytes : Nat
  deletedBytes : Nat
  totalBytesBefore : Nat
  totalBytesAfter : Nat
  overBudgetBytes : Nat
  deriving DecidableEq

def validateRoot (root : RootPath) : Except String Unit := do
  require (root.isAbsolute = true) "root must be absolute"
  require (root.isRoot = false) "root must not be a filesystem root"
  require (root.exists_ = true ∧ root.isDir = true) "root must be an existing directory"
  require (root.isSymlink = false) "root must not be a symlink"
  require (root.throughSymlink = false) "root must not contain symlink components"

def validatePositiveInt (name : String) : Json → Except String Nat
  | .int n => do
    require (1 ≤ n) s!"{name} must be at least 1"
    return n.toNat
  | _ => .error s!"{name} must be an integer"

/-- `now`, in UTC. -/
def pruneNow (clock : Calendar.DateTime) : Option Moment → Except String Calendar.DateTime
  | none => .ok clock
  | some (.aware (some utc)) => .ok utc
  | some (.aware none) => .error "date value out of range"
  | some _ => .error "now must be timezone-aware"

def isSnapshotName (name : String) : Bool := ".tar.gz".toList.isSuffixOf name.toList

/-- One child of the root, where it is a snapshot. -/
def loadSnapshot : String × Node → Except String (Option SnapshotEntry)
  | (_, .symlink) => .error "snapshot root must not contain symlinks"
  | (_, .other) => .ok none
  | (name, .file size mtime) =>
    if isSnapshotName name then
      match mtime with
      | none => .error "timestamp out of range"
      | some mtime => .ok (some ⟨name, size, mtime⟩)
    else .ok none

def loadSnapshots (dir : SnapshotRoot) : Except String (List SnapshotEntry) :=
  (dir.entries.mapM loadSnapshot).map fun children => children.filterMap id

/-- The key of the order: the time, then the name. -/
def SnapshotEntry.key (entry : SnapshotEntry) : Nat ×ₗ String :=
  toLex (entry.mtime.instant, entry.name)

def newestFirst (entries : List SnapshotEntry) : List SnapshotEntry :=
  entries.insertionSort fun a b => b.key ≤ a.key

def oldestFirst (entries : List SnapshotEntry) : List SnapshotEntry :=
  entries.insertionSort fun a b => a.key ≤ b.key

def dayMicroseconds : Nat := 24 * 60 * 60 * 1000000

def totalSize (entries : List SnapshotEntry) : Nat := (entries.map SnapshotEntry.size).sum

/-- `while len(survivors) > max_count`, with the survivors from the last one on. -/
def trimCount (maxCount : Nat) : List SnapshotEntry → List SnapshotEntry →
    List SnapshotEntry × List SnapshotEntry
  | [], deletions => ([], deletions)
  | last :: survivors, deletions =>
    if maxCount < survivors.length + 1 then trimCount maxCount survivors (deletions ++ [last])
    else (last :: survivors, deletions)

/-- `while len(survivors) > 1 and kept_bytes > max_total_bytes`, likewise. -/
def trimBytes (maxTotalBytes : Nat) : List SnapshotEntry → List SnapshotEntry → Nat →
    List SnapshotEntry × List SnapshotEntry × Nat
  | [], deletions, keptBytes => ([], deletions, keptBytes)
  | last :: survivors, deletions, keptBytes =>
    if 1 < survivors.length + 1 ∧ maxTotalBytes < keptBytes then
      trimBytes maxTotalBytes survivors (deletions ++ [last]) (keptBytes - last.size)
    else (last :: survivors, deletions, keptBytes)

structure Limits where
  maxCount : Nat
  maxAgeDays : Nat
  maxTotalBytes : Nat

/-- The survivors, the deletions and the size of the survivors. -/
def selectSnapshots (limits : Limits) (cutoff : Nat) (newest : SnapshotEntry)
    (others : List SnapshotEntry) : List SnapshotEntry × List SnapshotEntry × Nat :=
  let survivors := newest :: others.filter fun entry => !(entry.mtime.instant < cutoff : Bool)
  let deletions := others.filter fun entry => entry.mtime.instant < cutoff
  let (survivors, deletions) := trimCount limits.maxCount survivors.reverse deletions
  let (survivors, deletions, keptBytes) :=
    trimBytes limits.maxTotalBytes survivors deletions (totalSize survivors)
  (survivors.reverse, deletions, keptBytes)

/-- `entry.path.unlink()` for one after the other, with the size of what was removed.  The names
that cannot be removed are `denied`. -/
def unlinkAll (denied : String → Bool) : List SnapshotEntry → Nat → SnapshotRoot →
    Except String Nat × SnapshotRoot
  | [], deletedBytes, dir => (.ok deletedBytes, dir)
  | entry :: rest, deletedBytes, dir =>
    if denied entry.name then (.error "Permission denied", dir)
    else unlinkAll denied rest (deletedBytes + entry.size) (dir.remove entry.name)

/-- The checks before the snapshots are read. -/
def pruneLimits (clock : Calendar.DateTime) (config : PruneConfig) :
    Except String (Limits × Calendar.DateTime) := do
  validateRoot config.root
  let maxCount ← validatePositiveInt "max_count" config.maxCount
  let maxAgeDays ← validatePositiveInt "max_age_days" config.maxAgeDays
  let maxTotalBytes ← validatePositiveInt "max_total_bytes" config.maxTotalBytes
  let now ← pruneNow clock config.now
  return (⟨maxCount, maxAgeDays, maxTotalBytes⟩, now)

/-- What is done with the snapshots from the newest one on. -/
def pruneOrdered (root : RootPath) (denied : String → Bool) (limits : Limits)
    (now : Calendar.DateTime) (dir : SnapshotRoot) :
    List SnapshotEntry → Except String PruneResult × SnapshotRoot
  | [] => (.ok ⟨root, [], [], 0, 0, 0, 0, 0⟩, dir)
  | newest :: others =>
    -- a difference of dates before the first one raises
    if now.instant < (limits.maxAgeDays + 1) * dayMicroseconds then
      (.error "date value out of range", dir)
    else
      let cutoff := now.instant - limits.maxAgeDays * dayMicroseconds
      let (survivors, deletions, keptBytes) := selectSnapshots limits cutoff newest others
      let deletions := oldestFirst deletions
      match unlinkAll denied deletions 0 dir with
      | (.error message, dir) => (.error message, dir)
      | (.ok deletedBytes, dir) =>
        (.ok ⟨root, survivors.map (·.name), deletions.map (·.name), keptBytes, deletedBytes,
          keptBytes + deletedBytes, keptBytes, keptBytes - limits.maxTotalBytes⟩, dir)

/-- `prune_snapshots` on the root, and the root after the call. -/
def pruneSnapshots (clock : Calendar.DateTime) (denied : String → Bool) (config : PruneConfig)
    (dir : SnapshotRoot) : Except String PruneResult × SnapshotRoot :=
  match pruneLimits clock config with
  | .error message => (.error message, dir)
  | .ok (limits, now) =>
    match loadSnapshots dir with
    | .error message => (.error message, dir)
    | .ok entries => pruneOrdered config.root denied limits now dir (newestFirst entries)

end OptimizrActions.DeploySnapshot
