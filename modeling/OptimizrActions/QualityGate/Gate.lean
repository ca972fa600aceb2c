import OptimizrActions.QualityGate.Collect
import OptimizrActions.QualityGate.Compare

/-! The quality gate on a pull request: its artifacts against the baseline. -/

namespace OptimizrActions.QualityGate

inductive GateError
  | collect (error : PyError)
  | compare (error : CompareError)

section Gate

variable (toFloat : Json → Except PyError Rat)

/-- The report of `main` for a pull request. -/
def gateReport (artifactsDir : Root) (tree : List Artifact) (baseline : List Metric) :
    Except GateError Report :=
  match collectMetrics toFloat artifactsDir tree with
  | .error e => .error (.collect e)
  | .ok metrics =>
    match compare metrics baseline defaultThresholds with
    | .error e => .error (.compare e)
    | .ok report => .ok report

end Gate

def verdictExit : Severity → Nat
  | .green => 0
  | .yellow => 1
  | .red => 2
  | .unknown => 3

end OptimizrActions.QualityGate
