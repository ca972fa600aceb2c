import OptimizrActions.Lib.Host
import Mathlib.Data.Finset.Image

/-! The result of one bounded image-remediation retry, from the outcomes of its steps. -/

namespace OptimizrActions.Retry

inductive Classification where
  | clean | actionableVulnerability | unfixedWarning | misconfigurationDetected | secretDetected
  | scannerError | notRun
  deriving DecidableEq, Repr

def Classification.text : Classification → String
  | .clean => "clean"
  | .actionableVulnerability => "actionable_vulnerability"
  | .unfixedWarning => "unfixed_warning"
  | .misconfigurationDetected => "misconfiguration_detected"
  | .secretDetected => "secret_detected"
  | .scannerError => "scanner_error"
  | .notRun => "not-run"

def securityClassifications : List Classification :=
  [.clean, .actionableVulnerability, .unfixedWarning, .misconfigurationDetected, .secretDetected,
    .scannerError, .notRun]

/-- A canonical classification, or a legacy alias of one. -/
def normalizeSecurityClassification (raw : String) : Except String Classification :=
  match securityClassifications.find? (·.text = raw) with
  | some c => .ok c
  | none =>
    if raw = "gate_error" then .ok .scannerError
    else .error "security classification is not allowed"

def classification (raw : String) : Classification :=
  match normalizeSecurityClassification raw with
  | .ok .notRun => .scannerError
  | .ok c => c
  | .error _ => .scannerError

structure Counts where
  fixableVulnerability : Int := 0
  unfixedVulnerability : Int := 0
  misconfiguration : Int := 0
  secret : Int := 0
  deriving DecidableEq, Repr

inductive RebuildResult where
  | passed | failed | skipped | noChange
  deriving DecidableEq, Repr

structure RetryResult where
  initialResult : Classification
  rebuildAttempted : Bool
  rebuildResult : RebuildResult
  finalResult : Classification
  passed : Bool
  compatibilityAllowed : Bool
  counts : Counts
  deriving DecidableEq, Repr

def compatibilityAllowed (finalResult : Classification) (rebuildResult : RebuildResult)
    (counts : Counts) : Bool :=
  finalResult = .unfixedWarning &&
    rebuildResult ∈ [.skipped, .noChange] &&
    counts.fixableVulnerability = 0 && counts.unfixedVulnerability > 0 &&
    counts.misconfiguration = 0 && counts.secret = 0

def isImageId (ref : String) : Bool := Text.sha256Text Text.isHex ref

/-- The set of references on the lines of a text; `none` when one is malformed. -/
def refs (raw : String) : Option (Finset String) :=
  let refs := ((Text.splitLines raw).map Text.strip).filter (· ≠ "")
  if refs.any fun ref => !isImageId ref then none else some refs.toFinset

structure RetryInput where
  initialOutcome : String
  initialClassification : String
  rebuildOutcome : String
  finalOutcome : String
  finalClassification : String
  retryEnabled : Bool
  initialRefs : String
  remediatedRefs : String
  initialCounts : Counts := {}
  finalCounts : Counts := {}

def isPassing (c : Classification) : Bool := c ∈ [.clean, .unfixedWarning]

/-- The branches once a rebuild was attempted. -/
def evaluateRebuild (input : RetryInput) (before after : Finset String) : RetryResult :=
  let initial := classification input.initialClassification
  if input.rebuildOutcome = "skipped" then
    ⟨initial, false, .skipped, initial, false, false, input.initialCounts⟩
  else if input.rebuildOutcome ≠ "success" then
    ⟨initial, true, .failed, .scannerError, false, false, input.initialCounts⟩
  else if before = ∅ ∨ after = ∅ then
    ⟨initial, true, .failed, .scannerError, false, false, input.initialCounts⟩
  else if before = after then
    ⟨initial, true, .noChange, initial, false,
      compatibilityAllowed initial .noChange input.initialCounts, input.initialCounts⟩
  else
    let final := classification input.finalClassification
    if input.finalOutcome = "success" ∧ isPassing final then
      ⟨initial, true, .passed, final, true,
        compatibilityAllowed final .passed input.finalCounts, input.finalCounts⟩
    else
      ⟨initial, true, .failed, final, false,
        compatibilityAllowed final .failed input.finalCounts, input.finalCounts⟩

def evaluateRetry (input : RetryInput) : RetryResult :=
  let initial := classification input.initialClassification
  match refs input.initialRefs, refs input.remediatedRefs with
  | some before, some after =>
    if input.initialOutcome = "success" ∧ isPassing initial ∧ before ≠ ∅ then
      ⟨initial, false, .skipped, initial, true,
        compatibilityAllowed initial .skipped input.initialCounts, input.initialCounts⟩
    else if input.initialOutcome = "success" ∧
        (initial ≠ .actionableVulnerability ∨ !input.retryEnabled) then
      ⟨initial, false, .skipped,
        if initial = .actionableVulnerability then initial else .scannerError, false, false,
        input.initialCounts⟩
    else if initial ≠ .actionableVulnerability ∨ !input.retryEnabled then
      ⟨initial, false, .skipped, initial, false,
        compatibilityAllowed initial .skipped input.initialCounts, input.initialCounts⟩
    else evaluateRebuild input before after
  | _, _ =>
    let attempted := initial = .actionableVulnerability && input.retryEnabled
    let rebuildResult := if attempted then .failed else .skipped
    ⟨initial, attempted, rebuildResult, .scannerError, false,
      compatibilityAllowed .scannerError rebuildResult input.initialCounts, input.initialCounts⟩

/-! ### The environment -/

abbrev Environ := String → Option String

inductive Scan where
  | initial | final
  deriving DecidableEq, Repr

inductive CountKey where
  | fixableVulnerability | unfixedVulnerability | misconfiguration | secret
  deriving DecidableEq, Repr

/-- The variable of one count, such as `INITIAL_SECRET_COUNT`. -/
def countName (scan : Scan) (key : CountKey) : String :=
  (match scan with
    | .initial => "INITIAL_"
    | .final => "FINAL_") ++
  match key with
    | .fixableVulnerability => "FIXABLE_VULNERABILITY_COUNT"
    | .unfixedVulnerability => "UNFIXED_VULNERABILITY_COUNT"
    | .misconfiguration => "MISCONFIGURATION_COUNT"
    | .secret => "SECRET_COUNT"

def envBool (environ : Environ) (name : String) : Bool := (environ name).getD "" = "true"

def envCount (environ : Environ) (name : String) : Int :=
  match Text.int? ((environ name).getD "0") with
  | none => 0
  | some value => if value ≥ 0 then value else 0

def envCounts (environ : Environ) (scan : Scan) : Counts where
  fixableVulnerability := envCount environ (countName scan .fixableVulnerability)
  unfixedVulnerability := envCount environ (countName scan .unfixedVulnerability)
  misconfiguration := envCount environ (countName scan .misconfiguration)
  secret := envCount environ (countName scan .secret)

def retryInput (environ : Environ) : RetryInput where
  initialOutcome := (environ "INITIAL_OUTCOME").getD ""
  initialClassification := (environ "INITIAL_CLASSIFICATION").getD ""
  rebuildOutcome := (environ "REBUILD_OUTCOME").getD ""
  finalOutcome := (environ "FINAL_OUTCOME").getD ""
  finalClassification := (environ "FINAL_CLASSIFICATION").getD ""
  retryEnabled := envBool environ "RETRY_ENABLED"
  initialRefs := (environ "INITIAL_REFS").getD ""
  remediatedRefs := (environ "REMEDIATED_REFS").getD ""
  initialCounts := envCounts environ .initial
  finalCounts := envCounts environ .final

/-- The result that `main` prints. -/
def main (environ : Environ) : RetryResult := evaluateRetry (retryInput environ)

end OptimizrActions.Retry
