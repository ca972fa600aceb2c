import OptimizrActions.Lib.Json
import OptimizrActions.Lib.Text
import OptimizrActions.QualityGate.Metrics

/-! Reports of the quality tools as normalized metrics. -/

namespace OptimizrActions.QualityGate

inductive PyError
  | valueError
  | typeError
  | attributeError
  | overflowError
  deriving DecidableEq

/-- `int(value)` -/
def toInt : Json → Except PyError Int
  | .bool b => .ok (if b then 1 else 0)
  | .int n => .ok n
  | .float q => .ok (q.num.tdiv q.den)
  | .nonfinite text => .error (if text = "NaN" then .valueError else .overflowError)
  | .str s =>
    match Text.int? s with
    | some n => .ok n
    | none => .error .valueError
  | _ => .error .typeError

/-- A value of which a method of mappings is called. -/
def mapping : Json → Except PyError Mapping
  | .obj fields => .ok fields
  | _ => .error .attributeError

/-- `payload.get(field)` where the payload may be no mapping. -/
def getMapping (payload : Json) (field : String) : Json :=
  match payload with
  | .obj fields => Mapping.get fields field
  | _ => .null

/-- A block without which a report has no metric. -/
def block : Json → Except PyError Mapping
  | .obj fields => .ok fields
  | _ => .error .valueError

def count (totals : Mapping) (field : String) : Except PyError Rat :=
  (toInt (totals.getD field (.int 0))).map Int.cast

/-- The findings of one dependency: `dependency.get("vulns", []) or []`. -/
def findings : Json → Except PyError Nat
  | .arr items => .ok (items.countP fun | .obj _ => true | _ => false)
  | .bool b => if b then .error .typeError else .ok 0
  | .int n => if n = 0 then .ok 0 else .error .typeError
  | .float q => if q = 0 then .ok 0 else .error .typeError
  | .nonfinite _ => .error .typeError
  | _ => .ok 0

def dependencyFindings : Json → Except PyError Nat
  | .obj dependency => findings (Mapping.getD dependency "vulns" (.arr []))
  | _ => .ok 0

def parseBandit (data : Json) (scope : Scope) : Except PyError Metric := do
  let data ← mapping data
  let totals ← block (getMapping (data.get "metrics") "_totals")
  let high ← count totals "SEVERITY.HIGH"
  let medium ← count totals "SEVERITY.MEDIUM"
  let low ← count totals "SEVERITY.LOW"
  .ok (.security ⟨.bandit, scope, 0, high, medium, low⟩)

def parsePipAudit (data : Json) (scope : Scope) : Except PyError Metric := do
  let data ← mapping data
  match data.get "dependencies" with
  | .arr dependencies =>
    let high ← dependencies.mapM dependencyFindings
    .ok (.security ⟨.pipAudit, scope, 0, high.sum, 0, 0⟩)
  | _ => .error .valueError

def parsePnpmAudit (data : Json) (scope : Scope) : Except PyError Metric := do
  let data ← mapping data
  let vulnerabilities ← block (getMapping (data.get "metadata") "vulnerabilities")
  let critical ← count vulnerabilities "critical"
  let high ← count vulnerabilities "high"
  let medium ← count vulnerabilities "moderate"
  let low ← count vulnerabilities "low"
  .ok (.security ⟨.pnpmAudit, scope, critical, high, medium, low⟩)

section Float

/-! `float(value)` is a parameter: what a text or a large number is rounded to decides nothing. -/

variable (toFloat : Json → Except PyError Rat)

def percentage (totals : Mapping) (field : String) : Except PyError Rat :=
  toFloat (totals.getD field (.float 0))

def parseJscpd (data : Json) (scope : Scope) : Except PyError Metric := do
  let data ← mapping data
  let total ← block (getMapping (data.get "statistics") "total")
  let dupPct ← percentage toFloat total "percentage"
  let dupLines ← count total "duplicatedLines"
  let totalLines ← count total "lines"
  let clones ← count total "clones"
  .ok (.duplication ⟨.jscpd, scope, dupPct, dupLines, totalLines, clones⟩)

def parsePytestCov (data : Json) (scope : Scope) : Except PyError Metric := do
  let data ← mapping data
  let totals ← block (data.get "totals")
  let linePct ← percentage toFloat totals "percent_covered"
  let lineCovered ← count totals "covered_lines"
  let lineTotal ← count totals "num_statements"
  let branchPct ← percentage toFloat totals "percent_branches_covered"
  let branchCovered ← count totals "covered_branches"
  let branchTotal ← count totals "num_branches"
  .ok (.coverage
    ⟨.pytest, scope, linePct, lineCovered, lineTotal, branchPct, branchCovered, branchTotal⟩)

/-- The applications with a frontend of their own. -/
inductive App
  | storefront
  | admin
  deriving DecidableEq

def App.scope : App → Scope
  | .storefront => .frontendStorefront
  | .admin => .frontendAdmin

def parseVitestCov (data : Json) (app : App) : Except PyError Metric := do
  let data ← mapping data
  let total ← block (data.get "total")
  let lines ← mapping (total.getD "lines" (.obj []))
  let linePct ← percentage toFloat lines "pct"
  let lineCovered ← count lines "covered"
  let lineTotal ← count lines "total"
  let branches ← mapping (total.getD "branches" (.obj []))
  let branchPct ← percentage toFloat branches "pct"
  let branchCovered ← count branches "covered"
  let branchTotal ← count branches "total"
  .ok (.coverage
    ⟨.vitest, app.scope, linePct, lineCovered, lineTotal, branchPct, branchCovered, branchTotal⟩)

end Float

end OptimizrActions.QualityGate
