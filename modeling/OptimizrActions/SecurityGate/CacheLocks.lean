import OptimizrActions.Lib.Flock
import OptimizrActions.SecurityGate.Freshness

/-! The Trivy caches of one runner user, and the locks under which jobs prepare and read them. -/

namespace OptimizrActions.SecurityGate

inductive CacheScope
  | repository
  | shared
  deriving DecidableEq

/-- The lock files: one of each repository's cache, two of each version of the shared cache. -/
inductive CacheLock (Repository Version : Type)
  | gate (repository : Repository)
  | setup (version : Version)
  | database (version : Version)
  deriving DecidableEq

/-- The arguments of `trivy_cache_setup`, the version normalized. -/
structure CacheJob (Repository Version : Type) where
  repository : Repository
  version : Version
  scope : CacheScope
  maxAge : Limit

/-- The databases under the cache home, `none` where the directory is missing. -/
structure Caches (Repository Version : Type) where
  shared : Version → Option Database
  repository : Repository → Version → Option Database

/-- How far a job has come. -/
inductive Place (Version : Type)
  | start
  | gated
  /-- everything that repository mode does under its one lock -/
  | work
  | prepare
  /-- the versions that `_prune_old_versions` has still to look at -/
  | prune (todo : List Version)
  | pruneSetup (version : Version) (todo : List Version)
  | pruneBoth (version : Version) (todo : List Version)
  | pruneUnlock (version : Version) (todo : List Version)
  | inspect
  | awaitExclusive
  | reinspect
  | refresh
  | confirm
  | convert
  | awaitShared
  | validate
  | unlockSetup (validated : Database)
  | scan (validated : Database)
  | finished

/-- The places at which `database-fresh` is run. -/
def Place.Checks {Version : Type} : Place Version → Prop
  | .inspect | .reinspect | .confirm | .validate => True
  | _ => False

/-- An empty directory holds neither file. -/
def emptyDatabase : Database := ⟨false, false, false, false, none⟩

variable {Repository Version : Type} [DecidableEq Repository] [DecidableEq Version]

namespace Caches

/-- Whatever happens to one version of the shared database. -/
def setShared (caches : Caches Repository Version) (version : Version)
    (content : Option Database) : Caches Repository Version :=
  { caches with shared := Function.update caches.shared version content }

def setRepository (caches : Caches Repository Version) (repository : Repository)
    (content : Version → Option Database) : Caches Repository Version :=
  { caches with repository := Function.update caches.repository repository content }

/-- `_prepare_shared_database`, which makes a missing directory. -/
def prepareShared (caches : Caches Repository Version) (version : Version) :
    Caches Repository Version :=
  caches.setShared version (some ((caches.shared version).getD emptyDatabase))

end Caches

/-- `cache.py database-fresh` for the shared database of the job. -/
def sharedFresh (fromisoformat : String → Option Stamp) (job : CacheJob Repository Version)
    (caches : Caches Repository Version) (now : Stamp) : Except CacheError Bool :=
  databaseIsFresh fromisoformat ((caches.shared job.version).getD emptyDatabase) job.maxAge now

/-- A step of `trivy_cache_setup`, or of the scans behind it. What the file system and Trivy do is
left open: the versions that `iterdir` lists, which of them are old, what a download or a removal
leaves while it runs, and the time of each check. -/
inductive CacheStep (fromisoformat : String → Option Stamp) (job : CacheJob Repository Version) :
    Place Version → Caches Repository Version → Flock.Op (CacheLock Repository Version) →
    Place Version → Caches Repository Version → Prop
  -- `flock -x 8`, held until the job ends
  | gate {caches} : CacheStep fromisoformat job .start caches
    (.lock (.gate job.repository) .exclusive) .gated caches
  | repository {caches} : job.scope = .repository →
    CacheStep fromisoformat job .gated caches .keep .work caches
  | write {caches content} : CacheStep fromisoformat job .work caches .keep .work
    (caches.setRepository job.repository content)
  | done {caches} : CacheStep fromisoformat job .work caches .close .finished caches
  -- `flock -x 10`
  | setup {caches} : job.scope = .shared → CacheStep fromisoformat job .gated caches
    (.lock (.setup job.version) .exclusive) .prepare caches
  | prepare {caches todo} : CacheStep fromisoformat job .prepare caches .keep (.prune todo)
    (caches.prepareShared job.version)
  -- `_prune_old_versions` with `coordinate_with_version_locks`
  | skip {caches version todo} : CacheStep fromisoformat job (.prune (version :: todo)) caches .keep
    (.prune todo) caches
  | trySetup {caches version todo} : version ≠ job.version →
    CacheStep fromisoformat job (.prune (version :: todo)) caches
      (.lock (.setup version) .exclusive) (.pruneSetup version todo) caches
  | setupBusy {caches version todo} : version ≠ job.version →
    CacheStep fromisoformat job (.prune (version :: todo)) caches
      (.refused (.setup version) .exclusive) (.prune todo) caches
  | tryDatabase {caches version todo} : CacheStep fromisoformat job (.pruneSetup version todo)
    caches (.lock (.database version) .exclusive) (.pruneBoth version todo) caches
  | databaseBusy {caches version todo} : CacheStep fromisoformat job (.pruneSetup version todo)
    caches (.refused (.database version) .exclusive) (.pruneUnlock version todo) caches
  -- `shutil.rmtree`, file by file
  | remove {caches version todo content} : CacheStep fromisoformat job (.pruneBoth version todo)
    caches .keep (.pruneBoth version todo) (caches.setShared version content)
  | unlockDatabase {caches version todo} : CacheStep fromisoformat job (.pruneBoth version todo)
    caches (.unlock (.database version)) (.pruneUnlock version todo) caches
  | unlockPruned {caches version todo} : CacheStep fromisoformat job (.pruneUnlock version todo)
    caches (.unlock (.setup version)) (.prune todo) caches
  | pruned {caches} : CacheStep fromisoformat job (.prune []) caches .keep .inspect caches
  | fresh {caches now} : sharedFresh fromisoformat job caches now = .ok true →
    CacheStep fromisoformat job .inspect caches .keep .awaitShared caches
  | stale {caches now} : sharedFresh fromisoformat job caches now = .ok false →
    CacheStep fromisoformat job .inspect caches .keep .awaitExclusive caches
  -- `flock -x 9`
  | writer {caches} : CacheStep fromisoformat job .awaitExclusive caches
    (.lock (.database job.version) .exclusive) .reinspect caches
  | freshened {caches now} : sharedFresh fromisoformat job caches now = .ok true →
    CacheStep fromisoformat job .reinspect caches .keep .confirm caches
  | stillStale {caches now} : sharedFresh fromisoformat job caches now = .ok false →
    CacheStep fromisoformat job .reinspect caches .keep .refresh caches
  -- `invalidate-shared-db` and `--download-db-only`
  | download {caches content} : CacheStep fromisoformat job .refresh caches .keep .refresh
    (caches.setShared job.version content)
  | downloaded {caches} : CacheStep fromisoformat job .refresh caches .keep .confirm caches
  | confirmed {caches now} : sharedFresh fromisoformat job caches now = .ok true →
    CacheStep fromisoformat job .confirm caches .keep .convert caches
  -- `flock -s 9` on the exclusive lock, at once or in two steps
  | convert {caches} : CacheStep fromisoformat job .convert caches
    (.lock (.database job.version) .shared) .validate caches
  | letGo {caches} : CacheStep fromisoformat job .convert caches (.unlock (.database job.version))
    .awaitShared caches
  | reader {caches} : CacheStep fromisoformat job .awaitShared caches
    (.lock (.database job.version) .shared) .validate caches
  | valid {caches now} : sharedFresh fromisoformat job caches now = .ok true →
    CacheStep fromisoformat job .validate caches .keep
      (.unlockSetup ((caches.shared job.version).getD emptyDatabase)) caches
  -- `flock -u 10`
  | unlockSetup {caches validated} : CacheStep fromisoformat job (.unlockSetup validated) caches
    (.unlock (.setup job.version)) (.scan validated) caches
  | scanned {caches validated} : CacheStep fromisoformat job (.scan validated) caches .close
    .finished caches
  -- a check that fails, or a check behind the refresh that does not pass, ends the script
  | broken {place caches now error} : place.Checks → sharedFresh fromisoformat job caches now =
    .error error → CacheStep fromisoformat job place caches .close .finished caches
  | rejected {place caches now} : place = .confirm ∨ place = .validate →
    sharedFresh fromisoformat job caches now = .ok false →
    CacheStep fromisoformat job place caches .close .finished caches

/-- The jobs of the runner: each follows the script, or it is stopped at any point, by a command
that fails or from outside. -/
def cacheProtocol {Job : Type} (fromisoformat : String → Option Stamp)
    (job : Job → CacheJob Repository Version) :
    Flock.Protocol Job (CacheLock Repository Version) (Place Version)
      (Caches Repository Version) where
  start _ := .start
  initial _ := True
  step i place caches op place' caches' :=
    CacheStep fromisoformat (job i) place caches op place' caches' ∨
      op = .close ∧ place' = .finished ∧ caches' = caches

end OptimizrActions.SecurityGate
