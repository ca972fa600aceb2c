import Mathlib.Data.String.Basic
import OptimizrActions.Remediation.Policy

/-! The remediation-window evaluator: one decision over all blocking findings. -/

namespace OptimizrActions.Remediation

open Calendar

inductive FindingState where
  | active | dueSoon | overdue | unmatched | reintroduced | rejected
  deriving DecidableEq, Repr

structure Finding where
  observationDigest : String
  advisoryId : String
  packagePurl : String
  imageIdentity : String
  state : FindingState
  failureReason : String
  policyEntryId : String
  policyEntryStatus : String
  firstSeenAt : String
  originalDeadlineAt : String
  deadlineAt : String
  revisionCount : Nat
  deriving DecidableEq, Repr

inductive Decision where
  | notApplicable | blocked | allowedWindow
  deriving DecidableEq, Repr

inductive WindowState where
  | notApplicable | blocked | active | dueSoon | overdue | reintroduced
  deriving DecidableEq, Repr

def Decision.text : Decision → String
  | .notApplicable => "not_applicable"
  | .blocked => "blocked"
  | .allowedWindow => "allowed_window"

def WindowState.text : WindowState → String
  | .notApplicable => "not_applicable"
  | .blocked => "blocked"
  | .active => "active"
  | .dueSoon => "due_soon"
  | .overdue => "overdue"
  | .reintroduced => "reintroduced"

def evaluatorVersion : String := "3"

def dueSoon : Int := DateTime.hours 72

structure Evaluation where
  sourceSha : String := ""
  imageDigest : String := ""
  classification : String := ""
  remediationWindowAllowed : Bool := false
  remediationState : WindowState := .notApplicable
  decision : Decision := .notApplicable
  blockingTotal : Nat := 0
  windowCovered : Nat := 0
  uncoveredBlockingFindings : Nat := 0
  rejectedCount : Nat := 0
  overdueCount : Nat := 0
  unmatchedCount : Nat := 0
  reintroducedCount : Nat := 0
  dueSoonCount : Nat := 0
  matchingEntryCount : Nat := 0
  nearestDeadline : String := ""
  policyDigest : String := ""
  evaluatorVersion : String := evaluatorVersion
  failureReason : String := ""
  findings : List Finding := []
  deriving DecidableEq, Repr

def emptyResult : Evaluation := {}

section

variable (host : Host)

def observationDigest (observation : Json) : String := host.sha256Hex (host.dumps observation)

def findingResult (o : Observation) (state : FindingState) (failureReason : String)
    (entry : Option Entry) : Finding where
  observationDigest := observationDigest host o.toJson
  advisoryId := o.advisoryId
  packagePurl := o.packagePurl
  imageIdentity := o.imageIdentity
  state := state
  failureReason := failureReason
  policyEntryId := (entry.map (·.id)).getD ""
  policyEntryStatus := (entry.map (·.status.text)).getD ""
  firstSeenAt := (entry.map (·.firstSeenAt)).getD ""
  originalDeadlineAt := (entry.map (·.originalDeadlineAt)).getD ""
  deadlineAt := (entry.map (·.deadlineAt)).getD ""
  revisionCount := (entry.map (·.revisionCount)).getD 0

/-- The dictionary from fingerprint keys to entries: the last entry of a key stays. -/
def entryFor (entries : List Entry) (key : Fingerprint) : Option Entry :=
  entries.reverse.find? (·.fingerprint = key)

/-- The tests that look at the observation alone, in order. -/
def blockReason (o : Observation) : Option String :=
  if o.classification ≠ allowedClassification then some "classification_block"
  else if o.knownExploited then some "known_exploited"
  else if o.fixedImageVerified then some "fixed_image_available"
  else if o.severity = .critical ∧ o.exposureCriticality ∈ blockedCriticalExposures then
    some "critical_exposure_block"
  else none

/-- The tests of an observation's time against its entry. -/
def evaluateEntry (o : Observation) (entry : Entry) (evaluation : DateTime) :
    Except String Finding :=
  if entry.status ≠ .active then
    .ok (findingResult host o .reintroduced "finding_reintroduced" entry)
  else do
    let firstSeen ← parseUtc entry.firstSeenAt "policy.first_seen_at"
    let deadline ← parseUtc entry.deadlineAt "policy.deadline_at"
    if deadline.sub firstSeen > DateTime.days (maxWindowDays o.severity) then
      pure (findingResult host o .rejected "window_limit_exceeded" entry)
    else if deadline < evaluation then
      pure (findingResult host o .overdue "window_overdue" entry)
    else if evaluation < firstSeen then
      pure (findingResult host o .rejected "future_first_seen" entry)
    else if deadline.sub evaluation ≤ dueSoon then
      pure (findingResult host o .dueSoon "" entry)
    else
      pure (findingResult host o .active "" entry)

def evaluateOne (entries : List Entry) (evaluation : DateTime) (o : Observation) :
    Except String Finding :=
  match blockReason o with
  | some reason => .ok (findingResult host o .rejected reason none)
  | none =>
    match entryFor entries o.toFingerprint with
    | none => .ok (findingResult host o .unmatched "policy_entry_not_found" none)
    | some entry => evaluateEntry host o entry evaluation

/-- The finding recorded for an observation that does not canonicalize. -/
def normalizationFinding (raw : Mapping) (failureReason : String) : Finding where
  observationDigest := observationDigest host (.obj raw)
  advisoryId := host.normalText (raw.get "advisory_id")
  packagePurl := host.normalText (raw.get "package_purl")
  imageIdentity := host.normalText (raw.get "image_identity")
  state := .rejected
  failureReason := failureReason
  policyEntryId := ""
  policyEntryStatus := ""
  firstSeenAt := ""
  originalDeadlineAt := ""
  deadlineAt := ""
  revisionCount := 0

/-- What the normalization loop has gathered; the keys of `normalized` are the set `seen`. -/
structure Collected where
  normalized : List Observation
  rejected : List Finding

def dedupeKey (o : Observation) : Fingerprint × String := (o.toFingerprint, o.imageIdentity)

def collectOne (index : Nat) (s : Collected) (raw : Mapping) : Collected :=
  match canonicalObservation host index raw with
  | .error reason => { s with rejected := s.rejected ++ [normalizationFinding host raw reason] }
  | .ok o =>
    if dedupeKey o ∈ s.normalized.map dedupeKey then s
    else { s with normalized := s.normalized ++ [o] }

def collect : Nat → Collected → List Mapping → Collected
  | _, s, [] => s
  | index, s, raw :: rest => collect (index + 1) (collectOne host index s raw) rest

end

def isCovered (f : Finding) : Bool := f.state = .active || f.state = .dueSoon

def sortKey (f : Finding) : List String :=
  [f.imageIdentity, f.advisoryId, f.packagePurl, f.observationDigest]

def countState (state : FindingState) (findings : List Finding) : Nat :=
  findings.countP (·.state = state)

def nearestDeadline (findings : List Finding) : String :=
  match (findings.map (·.deadlineAt)).filter (· ≠ "") with
  | [] => ""
  | first :: rest => rest.foldl (fun least text => if text < least then text else least) first

/-- The counters, from the sorted findings. -/
def counted (result : Evaluation) (findings : List Finding) : Evaluation :=
  { result with
    findings := findings
    windowCovered := findings.countP isCovered
    rejectedCount := countState .rejected findings
    overdueCount := countState .overdue findings
    unmatchedCount := countState .unmatched findings
    reintroducedCount := countState .reintroduced findings
    dueSoonCount := countState .dueSoon findings
    matchingEntryCount := findings.countP (fun f : Finding => f.policyEntryId ≠ "")
    uncoveredBlockingFindings := result.blockingTotal - findings.countP isCovered
    nearestDeadline := nearestDeadline findings
    classification := allowedClassification }

/-- The fields that the last branches of the evaluator set. -/
structure Verdict where
  allowed : Bool
  decision : Decision
  state : WindowState
  failureReason : String

def verdict (result : Evaluation) : Verdict :=
  if result.uncoveredBlockingFindings = 0 then
    ⟨true, .allowedWindow, if result.dueSoonCount ≠ 0 then .dueSoon else .active,
      result.failureReason⟩
  else if result.reintroducedCount ≠ 0 then
    ⟨result.remediationWindowAllowed, .blocked, .reintroduced, "finding_reintroduced"⟩
  else if result.overdueCount ≠ 0 then
    ⟨result.remediationWindowAllowed, .blocked, .overdue, "window_overdue"⟩
  else if result.rejectedCount ≠ 0 then
    ⟨result.remediationWindowAllowed, .blocked, .blocked, "window_rejected"⟩
  else
    ⟨result.remediationWindowAllowed, .blocked, .blocked, "uncovered_blocking_findings"⟩

def summarize (result : Evaluation) (findings : List Finding) : Evaluation :=
  let result := counted result findings
  let v := verdict result
  { result with
    remediationWindowAllowed := v.allowed
    decision := v.decision
    remediationState := v.state
    failureReason := v.failureReason }

def normalizedIdentity (text message : String) (accepts : String → Bool) : Except String String :=
  if text = "" then .ok ""
  else do
    require (accepts (Text.lower text)) message
    pure (Text.lower text)

def evaluateRemediationWindows (host : Host) (now : DateTime) (policyFile : Option File)
    (observations : List Mapping) (enabled : Bool) (evaluationTime : Option String)
    (sourceSha imageDigest : String) : Except String Evaluation :=
  if !enabled then .ok emptyResult
  else match policyFile with
    | none => .error "policy path is required when remediation windows are enabled"
    | some file => do
      let sourceSha ← normalizedIdentity sourceSha "source_sha must be a 40-character git SHA"
        fun s => Text.hexText Text.isHex 40 s.toList
      let imageDigest ← normalizedIdentity imageDigest
        "image_digest must be a full immutable sha256 digest" (Text.sha256Text Text.isHex)
      let evaluation ← optionalTime now evaluationTime "evaluation_time"
      let policy ← loadPolicy host now file (some (format evaluation))
      let gathered := collect host 0 ⟨[], []⟩ observations
      let result := { emptyResult with
        sourceSha, imageDigest, policyDigest := policy.policyDigest
        blockingTotal := gathered.normalized.length + gathered.rejected.length }
      if result.blockingTotal = 0 then pure result
      else do
        let findings ← gathered.normalized.mapM (evaluateOne host policy.entries evaluation)
        pure (summarize result
          ((findings ++ gathered.rejected).insertionSort fun a b => sortKey a ≤ sortKey b))

/-! ### A sample run -/

def sampleDigest : String :=
  "sha256:aaaaaaaaaaaaaaaaaaaaaaaaaaaaaaaaaaaaaaaaaaaaaaaaaaaaaaaaaaaaaaaa"

def sampleFingerprint : Mapping :=
  [("service", .str "api"), ("advisory_id", .str "CVE-2026-0001"), ("package_purl", .str "pkg:a"),
    ("installed_version", .str "1"), ("fixed_version", .str "2"),
    ("image_lineage_digests", .arr [.str sampleDigest])]

def sampleEntry : Mapping :=
  [("id", .str "w1"), ("fingerprint", .obj sampleFingerprint), ("reason", .str "r"),
    ("first_seen_at", .str "2026-01-01T00:00:00Z"), ("deadline_at", .str "2026-01-06T00:00:00Z"),
    ("owner", .str "o"), ("reviewer", .str "v"), ("statement", .str "s"),
    ("compensating_control", .str "c"), ("reviewed_at", .str "2026-01-01T00:00:00Z"),
    ("reviewed_by", .str "v"), ("status", .str "active")]

def samplePolicy : Json :=
  .obj [("version", .int 1), ("policy_owner", .str "security"), ("entries", .arr [.obj sampleEntry])]

/-- A host whose only readable document is the sample policy. -/
def sampleHost : Host := ⟨fun _ _ => 0, fun _ => some samplePolicy, fun _ => [], fun _ => ""⟩

def sampleFile : File := ⟨true, []⟩

def sampleObservation (knownExploited : Bool) : Mapping :=
  [("service_scope", .str "api"), ("exposure_criticality", .str "internal"),
    ("classification", .str "actionable_vulnerability"), ("severity", .str "HIGH"),
    ("known_exploited", .bool knownExploited), ("fixed_image_verified", .bool false),
    ("source_sha", .str "bbbbbbbbbbbbbbbbbbbbbbbbbbbbbbbbbbbbbbbb"),
    ("image_identity", .str sampleDigest)] ++ sampleFingerprint

def sampleTime : String := "2026-01-02T00:00:00Z"

theorem sampleNow_valid : validFields 2026 1 2 0 0 0 0 = true := by decide

def sampleNow : DateTime := ⟨2026, 1, 2, 0, 0, 0, 0, sampleNow_valid⟩

def sampleRun (observations : List Mapping) : Except String Evaluation :=
  evaluateRemediationWindows sampleHost sampleNow (some sampleFile) observations true
    (some sampleTime) "" ""

/-- The sample entry after one extension. -/
def sampleExtension : Mapping :=
  [("action", .str "extended"), ("first_seen_at", .str "2026-01-01T00:00:00Z"),
    ("previous_deadline_at", .str "2026-01-06T00:00:00Z"),
    ("deadline_at", .str "2026-01-07T00:00:00Z"), ("reviewed_at", .str "2026-01-01T12:00:00Z"),
    ("reviewed_by", .str "v"), ("reason", .str "r")]

def sampleExtended : Mapping := ("history", .arr [.obj sampleExtension]) :: sampleEntry

def sampleFirstSeen : DateTime := ⟨2026, 1, 1, 0, 0, 0, 0, by decide⟩
def sampleDeadline : DateTime := ⟨2026, 1, 6, 0, 0, 0, 0, by decide⟩

end OptimizrActions.Remediation
