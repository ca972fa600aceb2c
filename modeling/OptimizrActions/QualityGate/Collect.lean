import Mathlib.Data.String.Basic
import OptimizrActions.Lib.Dict
import OptimizrActions.Lib.Segments
import OptimizrActions.QualityGate.Parse

/-! The metrics of the artifacts under a directory. -/

namespace OptimizrActions.QualityGate

open Text (occursIn)

/-- What is found under the root: its path from there, whether it is a regular file and no link,
and what `json.loads` reads from it. -/
structure Artifact where
  path : List String
  regular : Bool
  content : Option Json

def Artifact.name (artifact : Artifact) : List Char := (artifact.path.getLast?.getD "").toList

/-- A directory as a path of parts, behind the slashes of an absolute one. -/
structure Root where
  anchor : List Char
  parts : List String
  slashes : ∀ c ∈ anchor, c = '/'

/-- `path.as_posix()` -/
def asPosix (root : Root) (path : List String) : List Char :=
  root.anchor ++ ['/'].intercalate ((root.parts ++ path).map String.toList)

/-- `_json_files`, sorted; the root is the same for all of them. -/
def jsonFiles (tree : List Artifact) : List Artifact :=
  (tree.filter fun artifact => artifact.regular && ".json".toList.isSuffixOf artifact.name).insertionSort
    (·.path ≤ ·.path)

/-- `_scope` -/
def scopeOf (posix : List Char) : Scope :=
  let lowered := posix.flatMap Text.lowerChar
  if occursIn "admin".toList lowered then .frontendAdmin
  else if occursIn "storefront".toList lowered || occursIn "frontend".toList lowered then
    .frontendStorefront
  else .backend

/-- `_try`, where a text that is no JSON is a `ValueError` too. -/
def attempt (parser : Json → Except PyError Metric) (content : Option Json) :
    Except PyError (Option Metric) :=
  match content with
  | none => .ok none
  | some data =>
    match parser data with
    | .ok metric => .ok (some metric)
    | .error .valueError => .ok none
    | .error .typeError => .ok none
    | .error e => .error e

section Float

variable (toFloat : Json → Except PyError Rat)

def collectOne (scope : Scope) (artifact : Artifact) : Except PyError (Option Metric) :=
  let name := artifact.name.flatMap Text.lowerChar
  if occursIn "bandit".toList name then attempt (parseBandit · scope) artifact.content
  else if occursIn "pip-audit".toList name || occursIn "pip_audit".toList name then
    attempt (parsePipAudit · scope) artifact.content
  else if occursIn "pnpm-audit".toList name || occursIn "pnpm_audit".toList name then
    attempt (parsePnpmAudit · scope) artifact.content
  else if occursIn "jscpd".toList name || occursIn "duplication".toList name then
    attempt (parseJscpd toFloat · scope) artifact.content
  else if occursIn "coverage-summary".toList name || occursIn "vitest".toList name then
    attempt (parseVitestCov toFloat · (if scope = .frontendAdmin then .admin else .storefront))
      artifact.content
  else if occursIn "coverage".toList name || occursIn "pytest".toList name then
    attempt (parsePytestCov toFloat · .backend) artifact.content
  else .ok none

def Key.names (key : Key) : List String := [key.kind.name, key.scope.name, key.tool.name]

/-- The last metric of each key, in the order of the keys. -/
def deduplicate (metrics : List Metric) : List Metric :=
  ((Dict.ofList (metrics.map fun metric => (metric.key, metric))).insertionSort
    (·.1.names ≤ ·.1.names)).map Prod.snd

def collectMetrics (root : Root) (tree : List Artifact) : Except PyError (List Metric) := do
  let metrics ← (jsonFiles tree).mapM fun artifact =>
    collectOne toFloat (scopeOf (asPosix root artifact.path)) artifact
  .ok (deduplicate (metrics.filterMap id))

end Float

end OptimizrActions.QualityGate
