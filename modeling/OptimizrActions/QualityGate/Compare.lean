import OptimizrActions.QualityGate.Metrics
import Mathlib.Algebra.Order.Ring.Rat
import Mathlib.Order.Basic
import Mathlib.Order.Defs.LinearOrder

/-! Comparison of the metrics of a pull request with a baseline. -/

namespace OptimizrActions.QualityGate

inductive Severity
  | green
  | yellow
  | unknown
  | red
  deriving DecidableEq

/-- The index in the order of `_max_severity`. -/
def Severity.rank : Severity → Nat
  | .green => 0
  | .yellow => 1
  | .unknown => 2
  | .red => 3

theorem Severity.rank_injective : Function.Injective Severity.rank := by
  intro a b h
  cases a <;> cases b <;> first | rfl | cases h

instance : LinearOrder Severity := LinearOrder.lift' Severity.rank Severity.rank_injective

theorem Severity.le_def {a b : Severity} : a ≤ b ↔ a.rank ≤ b.rank := Iff.rfl

structure Threshold where
  yellow : Rat
  red : Rat
  smallerIsWorse : Bool

structure Thresholds where
  coverageBackend : Threshold := ⟨-1 / 4, -1, true⟩
  coverageBackendBranches : Threshold := ⟨-1, -3, true⟩
  coverageFrontend : Threshold := ⟨-1, -3, true⟩
  bundleUniqueChunks : Threshold := ⟨5, 10, false⟩
  duplicationBackend : Threshold := ⟨1, 3, false⟩
  duplicationFrontend : Threshold := ⟨2, 4, false⟩
  duplicationFrontendCeilingYellowPct : Rat := 5
  duplicationFrontendCeilingRedPct : Rat := 6

def defaultThresholds : Thresholds := {}

structure Verdict where
  metric : String
  scope : Scope
  prValue : Rat
  mainValue : Rat
  delta : Rat
  deltaPct : Rat
  severity : Severity
  deriving DecidableEq

structure Report where
  verdicts : List Verdict
  overall : Severity
  deriving DecidableEq

inductive CompareError
  | securityToolMismatch
  | metricTypeMismatch
  deriving DecidableEq

def severityForDelta (delta : Rat) (threshold : Threshold) : Severity :=
  if threshold.smallerIsWorse then
    if delta ≤ threshold.red then .red else if delta ≤ threshold.yellow then .yellow else .green
  else if delta ≥ threshold.red then .red
  else if delta ≥ threshold.yellow then .yellow
  else .green

def deltaPct (current baseline : Rat) : Rat :=
  if baseline = 0 then 0 else (current - baseline) / baseline * 100

def maxSeverity : List Severity → Severity
  | [] => .unknown
  | value :: values => values.foldl max value

def scalar : Metric → Rat
  | .coverage metric => metric.linePct
  | .duplication metric => metric.dupPct
  | .security metric => metric.total
  | .bundle metric => metric.uniqueChunks

def coverageVerdict (current baseline : CoverageMetric) (thresholds : Thresholds) : Verdict where
  metric := s!"coverage.lines:{current.tool.name}"
  scope := current.scope
  prValue := current.linePct
  mainValue := baseline.linePct
  delta := current.linePct - baseline.linePct
  deltaPct := deltaPct current.linePct baseline.linePct
  severity := severityForDelta (current.linePct - baseline.linePct)
    (if current.scope = .backend then thresholds.coverageBackend else thresholds.coverageFrontend)

def branchVerdict (current baseline : CoverageMetric) (thresholds : Thresholds) : Option Verdict :=
  if current.scope ≠ .backend ∨ current.branchTotal ≤ 0 ∨ baseline.branchTotal ≤ 0 then none
  else some
    { metric := s!"coverage.branches:{current.tool.name}"
      scope := current.scope
      prValue := current.branchPct
      mainValue := baseline.branchPct
      delta := current.branchPct - baseline.branchPct
      deltaPct := deltaPct current.branchPct baseline.branchPct
      severity := severityForDelta (current.branchPct - baseline.branchPct)
        thresholds.coverageBackendBranches }

def bundleVerdict (current baseline : BundleMetric) (thresholds : Thresholds) : Verdict where
  metric := "bundle.unique_chunks:next"
  scope := current.scope
  prValue := current.uniqueChunks
  mainValue := baseline.uniqueChunks
  delta := current.uniqueChunks - baseline.uniqueChunks
  deltaPct := deltaPct current.uniqueChunks baseline.uniqueChunks
  severity := severityForDelta (deltaPct current.uniqueChunks baseline.uniqueChunks)
    thresholds.bundleUniqueChunks

def duplicationSeverity (current baseline : DuplicationMetric) (thresholds : Thresholds) :
    Severity :=
  let severity := severityForDelta (current.dupPct - baseline.dupPct)
    (if current.scope = .backend then thresholds.duplicationBackend
      else thresholds.duplicationFrontend)
  if current.scope = .backend then severity
  else if current.dupPct ≥ thresholds.duplicationFrontendCeilingRedPct then .red
  else if current.dupPct ≥ thresholds.duplicationFrontendCeilingYellowPct then
    maxSeverity [severity, .yellow]
  else severity

def duplicationVerdict (current baseline : DuplicationMetric) (thresholds : Thresholds) :
    Verdict where
  metric := "duplication.lines:jscpd"
  scope := current.scope
  prValue := current.dupPct
  mainValue := baseline.dupPct
  delta := current.dupPct - baseline.dupPct
  deltaPct := deltaPct current.dupPct baseline.dupPct
  severity := duplicationSeverity current baseline thresholds

def securitySeverity (current baseline : SecurityMetric) : Severity :=
  if current.critical > baseline.critical ∨ current.high > baseline.high then .red
  else if current.medium > baseline.medium then .yellow
  else .green

def securityVerdict (current baseline : SecurityMetric) : Except CompareError Verdict :=
  if current.tool ≠ baseline.tool then .error .securityToolMismatch
  else .ok
    { metric := s!"security.findings:{current.tool.name}"
      scope := current.scope
      prValue := current.total
      mainValue := baseline.total
      delta := current.total - baseline.total
      deltaPct := deltaPct current.total baseline.total
      severity := securitySeverity current baseline }

def unknownVerdict (current : Metric) : Verdict where
  metric := s!"{current.kind.name}:{current.scope.name}"
  scope := current.scope
  prValue := scalar current
  mainValue := 0
  delta := 0
  deltaPct := 0
  severity := .unknown

/-- The verdicts on a metric of which the baseline has one of the same key. -/
def metricVerdicts (thresholds : Thresholds) (current previous : Metric) :
    Except CompareError (List Verdict) :=
  match current, previous with
  | .coverage current, .coverage previous =>
    .ok (coverageVerdict current previous thresholds ::
      (branchVerdict current previous thresholds).toList)
  | .bundle current, .bundle previous => .ok [bundleVerdict current previous thresholds]
  | .duplication current, .duplication previous =>
    .ok [duplicationVerdict current previous thresholds]
  | .security current, .security previous => (securityVerdict current previous).map ([·])
  | _, _ => .error .metricTypeMismatch

/-- `{_key(metric): metric for metric in baseline_metrics}.get(key)` -/
def baselineMetric (baseline : List Metric) (key : Key) : Option Metric :=
  baseline.reverse.find? fun metric => metric.key = key

def verdictsOf (baseline : List Metric) (thresholds : Thresholds) (current : Metric) :
    Except CompareError (List Verdict) :=
  match baselineMetric baseline current.key with
  | none => .ok [unknownVerdict current]
  | some previous => metricVerdicts thresholds current previous

def compare (prMetrics baseline : List Metric) (thresholds : Thresholds) :
    Except CompareError Report := do
  let verdicts ← prMetrics.mapM (verdictsOf baseline thresholds)
  .ok ⟨verdicts.flatten, maxSeverity (verdicts.flatten.map Verdict.severity)⟩

end OptimizrActions.QualityGate
