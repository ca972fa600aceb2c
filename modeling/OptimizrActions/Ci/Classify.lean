import OptimizrActions.Lib.JsonText
import OptimizrActions.Lib.Tally
import OptimizrActions.Lib.Text

/-! The classification of a failed Actions run from its jobs and annotations. -/

namespace OptimizrActions.Ci

def billingMarkers : List String :=
  ["recent account payments have failed", "spending limit needs to be increased",
    "billing & plans"]

structure Summary where
  runId : Json
  runConclusion : Json
  jobCount : Nat
  prestartJobs : Nat
  startedJobs : Nat
  unknownJobs : Nat
  billingAnnotations : Nat

inductive Classification where
  | inconclusive
  | hostedBillingBlocked
  | runnerUnavailable
  | codeOrGateFailure
  | passed
  deriving DecidableEq, Repr

structure Result where
  classification : Classification
  isCodeFailure : Bool
  promotionAllowed : Bool
  reason : String
  evidence : Option Summary

def inconclusive (reason : String) (evidence : Option Summary) : Result :=
  ⟨.inconclusive, false, false, reason, evidence⟩

/-- `_collection` -/
def collection (value : Json) (key : String) : Option (List Json) :=
  match value with
  | .arr items => some items
  | .obj fields =>
    match Mapping.get fields key with
    | .arr items => some items
    | _ => none
  | _ => none

def messagesOf : Json → List String
  | .obj annotation => ["message", "title", "raw_details"].filterMap fun key =>
    match Mapping.get annotation key with
    | .str value => some (Text.casefold value)
    | _ => none
  | _ => []

/-- `_messages` -/
def messages (annotations : List Json) : List String := annotations.flatMap messagesOf

def isBillingMessage (message : String) : Bool :=
  billingMarkers.any fun marker => Text.occursIn marker.toList message.toList

/-- `_summary` -/
def summaryOf (run : Mapping) (jobs annotations : List Json) : Summary where
  runId := run.get "id"
  runConclusion := run.get "conclusion"
  jobCount := jobs.length
  prestartJobs := 0
  startedJobs := 0
  unknownJobs := 0
  billingAnnotations := (messages annotations).countP isBillingMessage

inductive Lifecycle where
  | unknown
  | prestart
  | started
  deriving DecidableEq, Repr

/-- `_job_lifecycle` -/
def jobLifecycle : Json → Lifecycle
  | .obj job =>
    match Mapping.get job "runner_id", Mapping.get job "steps" with
    | .int runnerId, .arr steps =>
      if runnerId = 0 ∨ steps = [] then .prestart
      else if runnerId < 0 then .unknown
      else .started
    | _, _ => .unknown
  | _ => .unknown

/-- One turn of the loop over the jobs. -/
def countJob (summary : Summary) (job : Json) : Summary :=
  match jobLifecycle job with
  | .unknown => { summary with unknownJobs := summary.unknownJobs + 1 }
  | .prestart => { summary with prestartJobs := summary.prestartJobs + 1 }
  | .started => { summary with startedJobs := summary.startedJobs + 1 }

def failures : List String := ["failure", "cancelled", "timed_out", "action_required"]

section

-- `str` of a value that is not text
variable (str : Json → String)

/-- `str(value or default).casefold()` -/
def folded (default : String) : Json → String
  | .str value => if value = "" then Text.casefold default else Text.casefold value
  | value => if value.truthy then Text.casefold (str value) else Text.casefold default

def stepFailed : Json → Bool
  | .obj step => folded str "" (Mapping.get step "conclusion") ∈ failures
  | _ => false

/-- `_job_failed` -/
def jobFailed : Json → Bool
  | .obj job => folded str "" (Mapping.get job "conclusion") ∈ failures ||
    match Mapping.get job "steps" with
    | .arr steps => steps.any (stepFailed str)
    | _ => false
  | _ => false

/-- A job that reports success and is completed. -/
def jobSucceeded : Json → Bool
  | .obj job => folded str "" (Mapping.get job "conclusion") = "success" &&
    folded str "completed" (Mapping.get job "status") = "completed"
  | _ => false

/-- The decision after the lifecycles of all jobs have been counted. -/
def outcome (summary : Summary) (run : Mapping) (jobs : List Json) : Result :=
  let billing : Bool := 0 < summary.billingAnnotations
  let allPrestart : Bool := summary.prestartJobs = summary.jobCount
  let anyStarted : Bool := 0 < summary.startedJobs
  if summary.unknownJobs ≠ 0 then inconclusive "job evidence is incomplete" (some summary)
  else if billing && allPrestart then
    ⟨.hostedBillingBlocked, false, false,
      "official billing annotation with no runner-started job steps", some summary⟩
  else if billing && anyStarted then
    inconclusive "billing annotation conflicts with a started job" (some summary)
  else if allPrestart then
    ⟨.runnerUnavailable, false, false,
      "jobs ended before runner acquisition and no billing marker was present", some summary⟩
  else if summary.prestartJobs ≠ 0 ∧ anyStarted then
    inconclusive "job evidence mixes started and pre-start jobs" (some summary)
  else if anyStarted && jobs.any (jobFailed str) then
    ⟨.codeOrGateFailure, true, false,
      "at least one started job or step failed after runner acquisition", some summary⟩
  else if anyStarted && folded str "" (run.get "conclusion") = "success" &&
      jobs.all (jobSucceeded str) then
    ⟨.passed, false, true, "all observed jobs started and completed successfully", some summary⟩
  else
    inconclusive "run conclusion and job lifecycle do not establish a cause" (some summary)

def classifyPayload (payload : Mapping) : Result :=
  match payload.get "run", collection (payload.get "jobs") "jobs",
    collection (payload.getD "annotations" (.arr [])) "annotations" with
  | .obj run, some (job :: jobs), some annotations =>
    outcome str ((job :: jobs).foldl countJob (summaryOf run (job :: jobs) annotations)) run
      (job :: jobs)
  | .obj _, some (_ :: _), none => inconclusive "annotation evidence is not a list" none
  | .obj _, _, _ => inconclusive "job evidence is missing" none
  | _, _, _ => inconclusive "run evidence is missing" none

def classifyEvidence : Json → Result
  | .obj payload => classifyPayload str payload
  | _ => inconclusive "evidence root must be a JSON object" none

end

end OptimizrActions.Ci
