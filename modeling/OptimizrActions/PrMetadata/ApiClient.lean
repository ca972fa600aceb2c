import Mathlib.Algebra.Order.Ring.Rat
import OptimizrActions.Lib.Json
import OptimizrActions.Lib.Prog

/-! The metadata client: reads from the API, repeated within a time budget that all of them share. -/

namespace OptimizrActions.PrMetadata

open Prog

inductive Errno
  | econnreset
  | econnaborted
  | econnrefused
  | ehostunreach
  | enetunreach
  | ehostdown
  | other
  deriving DecidableEq

/-- What `URLError` or `OSError` stands for, in the classes that `_classify_transport_error` asks
for, in its order. -/
inductive Reason
  | sslError
  | timeoutError
  | gaierror (again : Bool)
  | connectionResetError
  | connectionAbortedError
  | connectionRefusedError
  | osError (errno : Errno)
  | other
  deriving DecidableEq

/-- What one attempt comes to; `raised` is an exception that the loop does not catch. -/
inductive Response
  | json (value : Json)
  | httpError (code : Int)
  | transport (reason : Reason)
  | raised

structure MetadataRequestError where
  category : String
  attempts : Nat
  statusCode : Option Int
  budgetExhausted : Bool
  deriving DecidableEq

def MetadataRequestError.message (e : MetadataRequestError) : String :=
  "metadata GET failed: " ++ "; ".intercalate
    ([s!"category={e.category}", s!"attempts={e.attempts}"] ++
      (e.statusCode.map fun code => s!"http_status={code}").toList ++
      if e.budgetExhausted then ["retry_budget_exhausted=true"] else [])

inductive Failure
  | request (error : MetadataRequestError)
  | other

def classifyTransportError : Reason → String × Bool
  | .sslError => ("tls_error", false)
  | .timeoutError => ("timeout", true)
  | .gaierror again => if again then ("temporary_dns", true) else ("dns_resolution", false)
  | .connectionResetError => ("connection_reset", true)
  | .connectionAbortedError => ("connection_aborted", true)
  | .connectionRefusedError => ("connection_refused", true)
  | .osError .econnreset => ("connection_reset", true)
  | .osError .econnaborted => ("connection_aborted", true)
  | .osError .econnrefused => ("connection_refused", true)
  | .osError .ehostunreach => ("network_unreachable", true)
  | .osError .enetunreach => ("network_unreachable", true)
  | .osError .ehostdown => ("network_unreachable", true)
  | .osError .other => ("transport_error", false)
  | .other => ("transport_error", false)

/-- The network and the clock: how the requests end, and the time that passes before a look at the
clock beside the sleeps. -/
structure World where
  respond : Nat → Response
  passes : Nat → Rat
  nonneg : ∀ n, 0 ≤ passes n

/-- One attempt, at the time of the last look at the clock. -/
structure Attempt where
  now : Rat
  timeout : Rat
  response : Response

/-- The client in its world; `attempts` are those of the request that is served. -/
structure Client where
  retryBudgetSeconds : Rat
  retryStartedAt : Option Rat
  now : Rat
  looks : Nat
  sent : Nat
  slept : Rat
  attempts : List Attempt

/-- `__init__` -/
def createClient (retryBudgetSeconds now : Rat) : Except String Client :=
  if retryBudgetSeconds < 0 then .error "retry budget cannot be negative"
  else .ok ⟨retryBudgetSeconds, none, now, 0, 0, 0, []⟩

def requestTimeoutSeconds : Rat := 30

def maxAttempts : Nat := 3

def retryDelaysSeconds : List Rat := [2, 4]

abbrev Run := Prog Client Failure

section

variable (world : World)

def clock : Run Rat := fun s =>
  (.ok (s.now + world.passes s.looks),
    { s with now := s.now + world.passes s.looks, looks := s.looks + 1 })

def sleep (seconds : Rat) : Run Unit :=
  modify fun s => { s with now := s.now + seconds, slept := s.slept + seconds }

def urlopen (timeout : Rat) : Run Response := fun s =>
  (.ok (world.respond s.sent),
    { s with sent := s.sent + 1, attempts := s.attempts ++ [⟨s.now, timeout, world.respond s.sent⟩] })

/-- What is left of the budget when the retries have begun. -/
def remainingAt (budget startedAt now : Rat) : Rat := max 0 (budget - max 0 (now - startedAt))

/-- `retry_budget_remaining` -/
def retryBudgetRemaining : Run Rat := do
  match (← get).retryStartedAt with
  | none => return (← get).retryBudgetSeconds
  | some startedAt =>
    let now ← clock world
    return remainingAt (← get).retryBudgetSeconds startedAt now

def exhausted (category : String) (attempts : Nat) : Failure :=
  .request ⟨category, attempts, none, true⟩

/-- The first attempt has the whole timeout, a retry what is left of the budget at most. -/
def attemptTimeout (attempts : Nat) (lastCategory : String) : Run Rat :=
  if attempts = 0 then return requestTimeoutSeconds
  else do
    let remaining ← retryBudgetRemaining world
    ensure (0 < remaining) (exhausted lastCategory attempts)
    return min requestTimeoutSeconds remaining

/-- The retries begin with the first failure of all. -/
def startRetries : Run Unit := do
  match (← get).retryStartedAt with
  | some _ => return ()
  | none =>
    let now ← clock world
    modify fun s => { s with retryStartedAt := some now }

/-- What comes between a failure and the next attempt. -/
def waitForRetry (category : String) (attempts : Nat) : Run Unit := do
  startRetries world
  let delay := retryDelaysSeconds.getD (attempts - 1) 0
  let remaining ← retryBudgetRemaining world
  ensure (delay < remaining) (exhausted category attempts)
  sleep delay
  let remaining ← retryBudgetRemaining world
  ensure (0 < remaining) (exhausted category attempts)

/-- The loop of `request_json`, which the bound on the attempts ends. -/
def requestLoop (attempts : Nat) (lastCategory : String) : Run Json := do
  let timeout ← attemptTimeout world attempts lastCategory
  match ← urlopen world timeout with
  | .json value => return value
  | .httpError code => throw (.request ⟨"http_status", attempts + 1, some code, false⟩)
  | .raised => throw .other
  | .transport reason =>
    let (category, retryable) := classifyTransportError reason
    if more : retryable = true ∧ attempts + 1 < maxAttempts then
      waitForRetry world category (attempts + 1)
      requestLoop (attempts + 1) category
    else throw (.request ⟨category, attempts + 1, none, false⟩)
termination_by maxAttempts - attempts

def requestJson : Run Json := requestLoop world 0 "transport_error"

/-- Every request is served in turn, whether the one before it failed or not. -/
def serve : Nat → Client → List (List Attempt) × Client
  | 0, s => ([], s)
  | requests + 1, s =>
    let after := (requestJson world { s with attempts := [] }).2
    let rest := serve requests after
    (after.attempts :: rest.1, rest.2)

end

end OptimizrActions.PrMetadata
