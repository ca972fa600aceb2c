import Mathlib.Data.Rat.Defs

/-! Normalized metrics of the quality gate. -/

namespace OptimizrActions.QualityGate

inductive Scope
  | backend
  | frontendStorefront
  | frontendAdmin
  deriving DecidableEq

def Scope.name : Scope → String
  | .backend => "backend"
  | .frontendStorefront => "frontend-storefront"
  | .frontendAdmin => "frontend-admin"

inductive Tool
  | pytest
  | vitest
  | bandit
  | pipAudit
  | pnpmAudit
  | jscpd
  | next
  deriving DecidableEq

def Tool.name : Tool → String
  | .pytest => "pytest"
  | .vitest => "vitest"
  | .bandit => "bandit"
  | .pipAudit => "pip-audit"
  | .pnpmAudit => "pnpm-audit"
  | .jscpd => "jscpd"
  | .next => "next"

inductive Kind
  | coverage
  | security
  | duplication
  | bundle
  deriving DecidableEq

def Kind.name : Kind → String
  | .coverage => "coverage"
  | .security => "security"
  | .duplication => "duplication"
  | .bundle => "bundle"

/-! The numbers are exact: a baseline document may hold a fraction in any of these fields. -/

structure CoverageMetric where
  tool : Tool
  scope : Scope
  linePct : Rat
  lineCovered : Rat
  lineTotal : Rat
  branchPct : Rat
  branchCovered : Rat
  branchTotal : Rat
  deriving DecidableEq

structure SecurityMetric where
  tool : Tool
  scope : Scope
  critical : Rat
  high : Rat
  medium : Rat
  low : Rat
  deriving DecidableEq

def SecurityMetric.total (metric : SecurityMetric) : Rat :=
  metric.critical + metric.high + metric.medium + metric.low

structure DuplicationMetric where
  tool : Tool
  scope : Scope
  dupPct : Rat
  dupLines : Rat
  totalLines : Rat
  clones : Rat
  deriving DecidableEq

structure BundleMetric where
  tool : Tool
  scope : Scope
  uniqueChunks : Rat
  routes : Rat
  pagesChunksSum : Rat
  deriving DecidableEq

inductive Metric
  | coverage (metric : CoverageMetric)
  | bundle (metric : BundleMetric)
  | duplication (metric : DuplicationMetric)
  | security (metric : SecurityMetric)
  deriving DecidableEq

def Metric.kind : Metric → Kind
  | .coverage _ => .coverage
  | .bundle _ => .bundle
  | .duplication _ => .duplication
  | .security _ => .security

def Metric.scope : Metric → Scope
  | .coverage metric => metric.scope
  | .bundle metric => metric.scope
  | .duplication metric => metric.scope
  | .security metric => metric.scope

def Metric.tool : Metric → Tool
  | .coverage metric => metric.tool
  | .bundle metric => metric.tool
  | .duplication metric => metric.tool
  | .security metric => metric.tool

structure Key where
  kind : Kind
  scope : Scope
  tool : Tool
  deriving DecidableEq

def Metric.key (metric : Metric) : Key := ⟨metric.kind, metric.scope, metric.tool⟩

end OptimizrActions.QualityGate
