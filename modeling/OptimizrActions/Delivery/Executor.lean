import OptimizrActions.Delivery.Gates
import OptimizrActions.Delivery.Paths
import OptimizrActions.Lib.Prog

/-! The protected delivery flow: lock, exact checkout, gates, synchronization, gates. -/

namespace OptimizrActions.Delivery

/-- The exceptions that the flow tells apart; `interrupt` is one that `except Exception`
does not catch. -/
inductive Raised where
  | executor (message : String)
  | lock (message : String)
  | gateEvidence
  | other
  | interrupt
  deriving DecidableEq, Repr

structure CheckoutSpec where
  request : DeployRequest
  remote : String
  destination : RawPath
  allowedRoot : RawPath

/-- What a checkout runner can return; a path that `Path()` refuses is `none`. -/
inductive CheckoutValue where
  | result (path : Option RawPath) (headSha trustedRef : Json)
  | other

/-- A checkout whose identity has been verified. -/
structure CheckoutResult where
  path : List String
  headSha : String
  trustedRef : String

structure SyncSpec where
  source : RawPath
  destination : RawPath
  snapshotRoot : RawPath
  sourceRoot : RawPath
  destinationRoot : RawPath
  snapshotEnabled : Bool := true
  deployignore : Option RawPath := none
  excludeComposeFile : Option String := none
  snapshotName : Option String := none

/-- The dataclass checks none of its fields. -/
structure SyncResult where
  changed : Json
  changedEntries : Json
  snapshotCreated : Json
  snapshotName : Json
  synced : Json

/-- What a synchronization runner can return. -/
inductive SyncValue where
  | result (sync : SyncResult)
  | other

structure ExecutorSpec where
  checkout : CheckoutSpec
  sync : SyncSpec
  lockRoot : RawPath
  preflightGates : List Json := ["filesystem", "compose", "security"].map .str
  postflightGates : List Json := ["rollout", "health"].map .str
  /-- `none` is what is not a finite number. -/
  lockTimeoutSeconds : Option Rat := some 0

inductive Phase where
  | preflight
  | postflight
  deriving DecidableEq, Repr

structure DeliveryContext where
  request : DeployRequest
  checkout : CheckoutResult
  sync : Option SyncResult
  destination : RawPath

/-- The injected components, by what they return or raise. -/
structure Runners where
  checkout : CheckoutSpec → Except Raised CheckoutValue
  /-- `none` is not callable. -/
  runGates : Option (DeliveryContext → Phase → Except Raised (List GateItem))
  sync : SyncSpec → Except Raised SyncValue

structure ExecutorResult where
  ready : Bool
  request : Mapping
  headSha : String
  trustedRef : String
  sync : Option SyncResult
  preflight : GateEvaluation
  postflight : Option GateEvaluation
  evidence : List Mapping
  failureReason : Option String

/-- What an observer of the run sees, in order. -/
inductive Event where
  | acquired
  | checkedOut (value : CheckoutValue)
  | gates (phase : Phase) (items : List GateItem)
  /-- The synchronization runner is called. -/
  | sync (spec : SyncSpec)
  | released
  /-- The descriptor is closed, which releases what is still locked. -/
  | closed

/-- One try for the lock. -/
inductive Attempt where
  | acquired
  | refused
  | failed (e : Raised)

/-- How the operating system answers during one run. -/
structure LockHost where
  openFails : Bool
  chmod : Except Raised Unit
  /-- The tries that fit before the deadline; there is always one. -/
  first : Attempt
  later : List Attempt
  unlock : Except Raised Unit
  close : Except Raised Unit

abbrev Run (α : Type) := Prog (List Event) Raised α

open Prog (ensure finallyDo ofExcept throw tryCatch)

def emit (event : Event) : Run Unit := Prog.modify (· ++ [event])

section

variable (fs : FileSystem)

def lockRoot (path : RawPath) : Except Raised (List String) :=
  match fs.anySymlink (fs.absolute path) with
  | none => .error .other
  | some true => .error (.lock "lock root must not contain symlink components")
  | some false =>
    match fs.resolve (fs.absolute path) with
    | none => .error (.lock "lock root could not be resolved")
    | some root =>
      match fs.isDir root with
      | none => .error .other
      | some isDir =>
        if isDir ∧ root ≠ [] then .ok root
        else .error (.lock "lock root must be an existing non-root directory")

def isLockService (service : String) : Bool :=
  Text.isBounded Char.isAlphanum isNameChar 127 service

def isLockTimeout : Option Rat → Bool
  | none => false
  | some seconds => 0 ≤ seconds && seconds ≤ 3600

def acquire : List Attempt → Run Unit
  | [] => throw (.lock "timed out waiting for service lock")
  | .acquired :: _ => emit .acquired
  | .refused :: rest => acquire rest
  | .failed e :: _ => throw e

/-- `_unlock`; where it fails the lock stays until the descriptor is closed. -/
def unlock (lock : LockHost) : Run Unit := do
  ofExcept lock.unlock
  emit .released

def close (lock : LockHost) : Run Unit := do
  emit .closed
  ofExcept lock.close

/-- `with service_lock(...): body` -/
def serviceLock {α : Type} (lock : LockHost) (root : RawPath) (service : String)
    (timeout : Option Rat) (body : Run α) : Run α := do
  let root ← ofExcept (lockRoot fs root)
  ensure (isLockService service) (.lock "service must be a bounded identifier")
  ensure (isLockTimeout timeout) (.lock "lock timeout must be between 0 and 3600 seconds")
  let linked ← ofExcept (match fs.isSymlink (root ++ [service ++ ".lock"]) with
    | some linked => .ok linked
    | none => .error .other)
  ensure (linked = false) (.lock "service lock path must not be a symlink")
  ensure (lock.openFails = false) (.lock "service lock could not be opened")
  finallyDo
    (do
      ofExcept lock.chmod
      acquire (lock.first :: lock.later)
      finallyDo body (unlock lock))
    (close lock)

def checkoutPath (destination : RawPath) (path : Option RawPath) : Except String (List String) :=
  match fs.resolveMissing (fs.absolute destination), path with
  | some expected, some actual =>
    if actual.absolute then
      match fs.anySymlink actual.parts with
      | none => .error "checkout result path could not be verified"
      | some true => .error "checkout result path must not contain symlinks"
      | some false =>
        match fs.resolve actual.parts with
        | none => .error "checkout result path could not be verified"
        | some actual =>
          if actual = expected then
            match fs.isDir actual with
            -- raised outside the inner `try`
            | none => .error "exact-SHA checkout failed"
            | some true => .ok actual
            | some false => .error "checkout result path is not the requested destination"
          else .error "checkout result path is not the requested destination"
    else .error "checkout result path must be absolute"
  | _, _ => .error "checkout result path could not be verified"

def validateCheckoutResult (spec : ExecutorSpec) : CheckoutValue → Except String CheckoutResult
  | .other => .error "checkout did not return a verified result"
  | .result path headSha trustedRef => do
    let request := spec.checkout.request
    match headSha with
    | .str sha =>
      require (sha = request.candidateSha ∧ isSha sha)
        "checkout result does not match candidate SHA"
    | _ => .error "checkout result does not match candidate SHA"
    match trustedRef with
    | .str ref =>
      require (ref = request.trustedRef) "checkout result does not match trusted ref"
    | _ => .error "checkout result does not match trusted ref"
    let path ← checkoutPath fs spec.checkout.destination path
    return ⟨path, request.candidateSha, request.trustedRef⟩

end

/-- `[A-Za-z0-9][A-Za-z0-9_.-]*\.tar\.gz` -/
def isSnapshotName (name : String) : Bool :=
  match name.toList with
  | [] => false
  | c :: cs => c.isAlphanum && ".tar.gz".toList.isSuffixOf cs && cs.all isNameChar

/-- The texts of the exceptions that the check of a synchronization raises. -/
structure SyncTexts where
  flags : String
  counts : String
  snapshot : String
  /-- of a snapshot name that is not text -/
  snapshotType : String
  state : String

def isBool : Json → Bool
  | .bool _ => true
  | _ => false

def isCount : Json → Bool
  | .int n => 0 ≤ n
  | _ => false

def checkSnapshotName (texts : SyncTexts) : Json → Except String Unit
  | .null => .ok ()
  | .str name => require (isSnapshotName name = true) texts.snapshot
  | _ => .error texts.snapshotType

def checkSync (texts : SyncTexts) (sync : SyncResult) : Except String Unit := do
  require (isBool sync.changed = true ∧ isBool sync.snapshotCreated = true ∧
    isBool sync.synced = true) texts.flags
  require (isCount sync.changedEntries = true) texts.counts
  checkSnapshotName texts sync.snapshotName
  require (sync.synced.truthy = true → sync.changed.truthy = true) texts.state

def executorSyncTexts : SyncTexts where
  flags := "synchronization result contains invalid flags"
  counts := "synchronization result contains invalid counts"
  snapshot := "synchronization result contains an unsafe snapshot"
  snapshotType := "synchronization result contains an unsafe snapshot"
  state := "synchronization result is inconsistent"

def validateSyncResult : SyncValue → Except String SyncResult
  | .other => .error "synchronization did not return a verified result"
  | .result sync => do
    checkSync executorSyncTexts sync
    return sync

section

variable (unicodeWord : Char → Bool)

def validateSpec (spec : ExecutorSpec) : Except Raised Unit :=
  match evaluateGateEvidence unicodeWord [] spec.preflightGates,
      evaluateGateEvidence unicodeWord [] spec.postflightGates with
  | .ok _, .ok _ =>
    if spec.preflightGates.any fun gate => spec.postflightGates.any gate.eqScalar then
      .error (.executor "executor gate phases must use distinct gates")
    else .ok ()
  | _, _ => .error (.executor "executor gate profile is invalid")

def runGates (runner : DeliveryContext → Phase → Except Raised (List GateItem))
    (context : DeliveryContext) (phase : Phase) (requiredGates : List Json) :
    Run GateEvaluation := do
  match runner context phase with
  | .error .interrupt => throw .interrupt
  | .error .gateEvidence => throw (.executor "gate evidence could not be evaluated")
  | .error _ => throw (.executor "gate runner failed")
  | .ok items =>
    emit (.gates phase items)
    match evaluateGateEvidence unicodeWord items requiredGates with
    | .ok evaluation => pure evaluation
    | .error message =>
      if isTypeError message then throw (.executor "gate runner failed")
      else throw (.executor "gate evidence could not be evaluated")

/-- `_result` -/
def executorResult (request : DeployRequest) (checkout : CheckoutResult) (sync : Option SyncResult)
    (preflight : GateEvaluation) (postflight : Option GateEvaluation) : ExecutorResult where
  ready := preflight.passed && postflight.any (·.passed)
  request := (canonicalizeRequest request).map fun entry => (entry.1, .str entry.2)
  headSha := checkout.headSha
  trustedRef := checkout.trustedRef
  sync := sync
  preflight := preflight
  postflight := postflight
  evidence := preflight.evidence ++ (postflight.map (·.evidence)).getD []
  failureReason := match postflight with
    | some evaluation => if evaluation.passed then preflight.failureReason
        else evaluation.failureReason
    | none => preflight.failureReason

variable (fs : FileSystem) (spec : ExecutorSpec) (runners : Runners)

def checkoutStep : Run CheckoutResult :=
  match runners.checkout spec.checkout with
  | .error (.executor message) => throw (.executor message)
  | .error .interrupt => throw .interrupt
  | .error _ => throw (.executor "exact-SHA checkout failed")
  | .ok value => do
    emit (.checkedOut value)
    ofExcept ((validateCheckoutResult fs spec value).mapError .executor)

def syncStep (source : List String) : Run SyncResult := do
  let effective := { spec.sync with source := ⟨true, source⟩ }
  emit (.sync effective)
  match runners.sync effective with
  | .error .interrupt => throw .interrupt
  | .error _ => throw (.executor "deployment synchronization failed")
  | .ok value => ofExcept ((validateSyncResult value).mapError .executor)

/-- The body of the `with` statement. -/
def lockedDelivery (runner : DeliveryContext → Phase → Except Raised (List GateItem)) :
    Run ExecutorResult := do
  let request := spec.checkout.request
  let checkout ← checkoutStep fs spec runners
  let context : DeliveryContext := ⟨request, checkout, none, spec.sync.destination⟩
  let preflight ← runGates unicodeWord runner context .preflight spec.preflightGates
  if preflight.passed = false then
    return executorResult request checkout none preflight none
  else
    let sync ← syncStep spec runners checkout.path
    let postflight ← runGates unicodeWord runner { context with sync := some sync } .postflight
      spec.postflightGates
    return executorResult request checkout (some sync) preflight (some postflight)

def executeDelivery (lock : LockHost) : Run ExecutorResult := do
  ofExcept (validateSpec unicodeWord spec)
  match runners.runGates with
  | none => throw (.executor "a provider gate runner is required")
  | some runner =>
    tryCatch
      (serviceLock fs lock spec.lockRoot spec.checkout.request.service spec.lockTimeoutSeconds
        (lockedDelivery unicodeWord fs spec runners runner))
      fun
        | .lock _ => throw (.executor "delivery lock could not be acquired")
        | e => throw e

end

end OptimizrActions.Delivery
