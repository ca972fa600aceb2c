import OptimizrActions.Exceptions.Policy
import OptimizrActions.Lib.Check

/-! The dependency policy: which findings of a report block, and which an exception suppresses. -/

namespace OptimizrActions.DependencyPolicy

open Exceptions (Date)

inductive Kind
  | vulnerability
  | license
  deriving DecidableEq, Repr

structure PolicyException where
  kind : Kind
  id : String
  package : String
  owner : String
  statement : String
  expires : String
  deriving DecidableEq, Repr

structure Policy where
  blockSeverities : List String
  deniedLicenses : List String
  exceptions : List PolicyException

structure Finding where
  kind : Kind
  id : String
  package : String
  severity : String
  target : String
  deriving DecidableEq, Repr

structure Evaluation where
  blocking : List Finding
  suppressed : List Finding
  passed : Bool

section Load

def knownSeverities : List String := ["UNKNOWN", "LOW", "MEDIUM", "HIGH", "CRITICAL"]

/-- A value that `in` cannot look for in a set. -/
def unhashable : Json → Bool
  | .arr _ => true
  | .obj _ => true
  | _ => false

/-- The first value that is not in the set ends the check. -/
def severityTexts : List Json → Except String (List String)
  | [] => .ok []
  | .str s :: rest => do
    require (s ∈ knownSeverities) "block_severities must be a non-empty list of known severities"
    return s :: (← severityTexts rest)
  | item :: _ =>
    if unhashable item then .error "TypeError: unhashable type"
    else .error "block_severities must be a non-empty list of known severities"

def loadSeverities : Json → Except String (List String)
  | .arr items => do
    require (items ≠ []) "block_severities must be a non-empty list of known severities"
    severityTexts items
  | _ => .error "block_severities must be a non-empty list of known severities"

def licenseTexts : List Json → Option (List String)
  | [] => some []
  | .str s :: rest => if s = "" then none else (licenseTexts rest).map (s :: ·)
  | _ :: _ => none

def loadLicenses : Json → Except String (List String)
  | .arr items =>
    match licenseTexts items with
    | some texts => .ok texts
    | none => .error "denied_licenses must be a list of non-empty SPDX identifiers"
  | _ => .error "denied_licenses must be a list of non-empty SPDX identifiers"

def requiredFields : List String := ["kind", "id", "package", "owner", "statement", "expires"]

/-- `set(entry) < required` -/
def isProperSubset (entry : Mapping) : Bool :=
  entry.all (fun field => field.1 ∈ requiredFields) &&
    requiredFields.any fun name => name ∉ entry.map Prod.fst

def exceptionKind : Json → Except String Kind
  | .str s =>
    if s = "vulnerability" then .ok .vulnerability
    else if s = "license" then .ok .license
    else .error "exceptions require kind, id, package, owner, statement, and expires"
  | value =>
    if unhashable value then .error "TypeError: unhashable type"
    else .error "exceptions require kind, id, package, owner, statement, and expires"

def exceptionField (entry : Mapping) (field : String) : Except String String :=
  match entry.get field with
  | .str s => do
    require (Text.strip s ≠ "") "exception fields must be non-empty strings"
    return s
  | _ => .error "exception fields must be non-empty strings"

/- `date.fromisoformat`; `none` where it raises. -/
variable (fromisoformat : String → Option Date) (today : Date)

def loadException : Json → Except String PolicyException
  | .obj entry => do
    require (isProperSubset entry = false)
      "exceptions require kind, id, package, owner, statement, and expires"
    let kind ← exceptionKind (Mapping.get entry "kind")
    let id ← exceptionField entry "id"
    let package ← exceptionField entry "package"
    let owner ← exceptionField entry "owner"
    let statement ← exceptionField entry "statement"
    let expires ← exceptionField entry "expires"
    match fromisoformat expires with
    | none => .error "ValueError: invalid isoformat string"
    | some expiry =>
      require (¬expiry < today) s!"expired dependency exception: {id} ({expires})"
      return ⟨kind, id, package, owner, statement, expires⟩
  | _ => .error "every exception must be an object"

/-- `load_policy`, of the object that the file holds -/
def loadPolicy (policy : Mapping) : Except String Policy := do
  require ((policy.get "version").eqOne = true) "policy version must be 1"
  let severities ← loadSeverities
    (policy.getD "block_severities" (.arr [.str "HIGH", .str "CRITICAL"]))
  let licenses ← loadLicenses (policy.getD "denied_licenses" (.arr []))
  match policy.getD "exceptions" (.arr []) with
  | .arr entries =>
    let exceptions ← entries.mapM (loadException fromisoformat today)
    return ⟨severities.eraseDups, licenses.eraseDups, exceptions⟩
  | _ => .error "exceptions must be a list"

end Load

section Evaluate

/- `str(value)` of a value that is not text. -/
variable (str : Json → String) (policy : Policy)

def text : Json → String
  | .str s => s
  | value => str value

/-- The values that a loop over `value or []` sees: of an object the keys, of a text the characters. -/
def iterate (value : Json) : Except String (List Json) :=
  if value.truthy = false then .ok []
  else match value with
    | .arr items => .ok items
    | .obj fields => .ok (fields.map fun field => .str field.1)
    | .str s => .ok (s.toList.map fun c => .str (String.singleton c))
    | _ => .error "TypeError: object is not iterable"

/-- `_excepted` -/
def excepted (kind : Kind) (identifier package : String) : Bool :=
  policy.exceptions.any fun entry =>
    entry.kind = kind && entry.id = identifier && (entry.package = package || entry.package = "*")

/-- `left or right` -/
def orElse (left right : Json) : Json := if left.truthy then left else right

def vulnerabilityFinding (target : String) : Json → Option Finding
  | .obj vulnerability =>
    let identifier := text str (Mapping.getD vulnerability "VulnerabilityID" (.str ""))
    let package := text str (Mapping.getD vulnerability "PkgName" (.str ""))
    let severity := text str (Mapping.getD vulnerability "Severity" (.str "UNKNOWN"))
    if severity ∉ policy.blockSeverities then none
    else some ⟨.vulnerability, identifier, package, severity, target⟩
  | _ => none

def licenseFinding (target : String) : Json → Option Finding
  | .obj item =>
    let identifier := text str
      (orElse (orElse (Mapping.get item "Name") (Mapping.get item "License")) (.str ""))
    let package := text str
      (orElse (orElse (Mapping.get item "PkgName") (Mapping.get item "Package")) (.str ""))
    if identifier ∉ policy.deniedLicenses then none
    else some ⟨.license, identifier, package, "POLICY", target⟩
  | _ => none

/-- The findings that block and those that are suppressed, so far. -/
abbrev Placed := List Finding × List Finding

def place (placed : Placed) (finding : Finding) : Placed :=
  if excepted policy finding.kind finding.id finding.package then
    (placed.1, placed.2 ++ [finding])
  else (placed.1 ++ [finding], placed.2)

def placeAll (read : Json → Option Finding) (placed : Placed) (items : List Json) : Placed :=
  items.foldl
    (fun placed item => match read item with
      | none => placed
      | some finding => place policy placed finding)
    placed

def evaluateResult (placed : Placed) : Json → Except String Placed
  | .obj result => do
    let target := text str (Mapping.getD result "Target" (.str "unknown"))
    let vulnerabilities ← iterate (Mapping.get result "Vulnerabilities")
    let placed := placeAll policy (vulnerabilityFinding str policy target) placed vulnerabilities
    let licenses ← iterate (Mapping.get result "Licenses")
    return placeAll policy (licenseFinding str policy target) placed licenses
  | _ => .ok placed

def evaluateReport (report : Mapping) : Except String Evaluation := do
  let results ← iterate (report.get "Results")
  let (blocking, suppressed) ← results.foldlM (evaluateResult str policy) ([], [])
  return ⟨blocking, suppressed, blocking.isEmpty⟩

end Evaluate

end OptimizrActions.DependencyPolicy
