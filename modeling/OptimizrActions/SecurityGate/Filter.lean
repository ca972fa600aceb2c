import OptimizrActions.Lib.Check
import OptimizrActions.Lib.JsonText
import OptimizrActions.Lib.Text

/-! The enforced report: findings that an exception covers are taken out. -/

namespace OptimizrActions.SecurityGate

def isDotSlash (c : Char) : Bool := c = '.' || c = '/'

def slashes (cs : List Char) : List Char := cs.map fun c => if c = '\\' then '/' else c

/-- `_normalize_path`; `lstrip("./")` takes away every leading dot and slash. -/
def normalizePath : Json → List Char
  | .str value => (slashes value.toList).dropWhile isDotSlash
  | _ => []

/-- The items of a `for` loop over a value. -/
def iterate : Json → Except String (List Json)
  | .arr items => .ok items
  | .str s => .ok (s.toList.map fun c => .str (String.ofList [c]))
  | .obj fields => .ok (fields.map fun entry => .str entry.1)
  | _ => .error "object is not iterable"

/-- `candidate == path or candidate.endswith(f"/{path}")` -/
def endsWithPath (candidate path : List Char) : Bool :=
  candidate = path || ('/' :: path).isSuffixOf candidate

/-- `_path_matches` -/
def pathMatches (candidates expected : List Json) : Bool :=
  (candidates.map normalizePath).any fun candidate => candidate ≠ [] &&
    (expected.map normalizePath).any fun path => path ≠ [] && endsWithPath candidate path

/-- `_finding_id` -/
def findingId (finding : Mapping) : String :=
  (["ID", "VulnerabilityID", "RuleID"].findSome? fun field =>
    match finding.get field with
    | .str value => if Text.strip value ≠ "" then some (Text.strip value) else none
    | _ => none).getD ""

def textsOf (values : List Json) : List String :=
  values.filterMap fun value => match value with
    | .str s => some s
    | _ => none

/-- `_finding_purls` -/
def findingPurls (finding : Mapping) : List String :=
  match finding.get "PkgIdentifier" with
  | .obj identifier => textsOf [Mapping.get identifier "PURL", Mapping.get identifier "Purl"]
  | identifier => textsOf [finding.get "PURL", identifier]

/-- Only a value that can be hashed is compared with the members of a set. -/
def hashable : Json → Bool
  | .arr _ => false
  | .obj _ => false
  | _ => true

/-- `value or []`, iterated; nothing where the value is false. -/
def scopeItems (value : Json) : Except String (List Json) :=
  if value.truthy then iterate value else .ok []

/-- `not paths or _path_matches(path_candidates, paths)` -/
def pathsMatch (exception : Mapping) (candidates : List Json) : Except String Bool := do
  let paths ← scopeItems (exception.get "paths")
  return !(exception.get "paths").truthy || pathMatches candidates paths

/-- `not purls or bool(set(_finding_purls(finding)).intersection(purls))` -/
def purlsMatch (exception finding : Mapping) : Except String Bool := do
  let purls ← scopeItems (exception.get "purls")
  require (∀ purl ∈ purls, hashable purl = true) "unhashable type"
  return !(exception.get "purls").truthy ||
    (findingPurls finding).any fun purl => purls.contains (.str purl)

/-- `_finding_matches_exception` -/
def findingMatchesException (finding exception : Mapping) (candidates : List Json) :
    Except String Bool :=
  if exception.get "id" = .str (findingId finding) then do
    let paths ← pathsMatch exception candidates
    if paths then purlsMatch exception finding else return false
  else .ok false

/-- `any(… for exception in entries)` -/
def matchesAny (finding : Mapping) (candidates : List Json) : List Mapping → Except String Bool
  | [] => .ok false
  | exception :: rest => do
    let matched ← findingMatchesException finding exception candidates
    if matched then return true else matchesAny finding candidates rest

def pathCandidates (target : Json) (finding : Mapping) : List Json :=
  [target, finding.get "Target", finding.get "PkgPath"]

/-- Whether a finding of a result stays. -/
def keeps (entries : List Mapping) (target : Json) : Json → Except String Bool
  | .obj finding => do
    let matched ← matchesAny finding (pathCandidates target finding) entries
    return !matched
  | _ => .ok true

/-- `kept`, in the order of the findings. -/
def keptOf (entries : List Mapping) (target : Json) : List Json → Except String (List Json)
  | [] => .ok []
  | finding :: rest => do
    let keep ← keeps entries target finding
    let kept ← keptOf entries target rest
    return if keep then finding :: kept else kept

/-- The numbers of findings that were removed. -/
@[ext] structure Removed where
  vulnerabilities : Nat
  misconfigurations : Nat
  secrets : Nat
  deriving DecidableEq

/-- `result[field] = value` where the key keeps its place. -/
def replaceField (payload : Mapping) (field : String) (value : Json) : Mapping :=
  payload.map fun entry => if entry.1 = field then (field, value) else entry

/-- `summary["Failures"] = len(kept)` -/
def setFailures (count : Nat) : Json → Json
  | .obj summary =>
    if "Failures" ∈ summary.map Prod.fst then .obj (replaceField summary "Failures" (.int count))
    else .obj (summary ++ [("Failures", .int count)])
  | value => value

/-- `result[field] = kept`, and the summary of the misconfigurations. -/
def withKept (field : String) (kept : List Json) (result : Mapping) : Mapping :=
  let result := replaceField result field (.arr kept)
  if field = "Misconfigurations" then
    replaceField result "MisconfSummary" (setFailures kept.length (result.get "MisconfSummary"))
  else result

/-- One turn of the loop over the kinds of findings; the number of the removed ones. -/
def filterField (entries : List Mapping) (target : Json) (field : String) (result : Mapping) :
    Except String (Mapping × Nat) :=
  match result.get field with
  | .arr findings => do
    let kept ← keptOf entries target findings
    return (withKept field kept result, findings.length - kept.length)
  | _ => .ok (result, 0)

def filterResult (entries : List Mapping) : Json → Except String (Json × Removed)
  | .obj result => do
    let target := Mapping.getD result "Target" (.str "")
    let (result, vulnerabilities) ← filterField entries target "Vulnerabilities" result
    let (result, misconfigurations) ← filterField entries target "Misconfigurations" result
    let (result, secrets) ← filterField entries target "Secrets" result
    return (.obj result, ⟨vulnerabilities, misconfigurations, secrets⟩)
  | result => .ok (result, ⟨0, 0, 0⟩)

def filterResults (entries : List Mapping) : List Json → Except String (List Json × Removed)
  | [] => .ok ([], ⟨0, 0, 0⟩)
  | result :: rest => do
    let (result, one) ← filterResult entries result
    let (results, more) ← filterResults entries rest
    return (result :: results, ⟨one.vulnerabilities + more.vulnerabilities,
      one.misconfigurations + more.misconfigurations, one.secrets + more.secrets⟩)

def objectEntry : Json → Except String Mapping
  | .obj entry => .ok entry
  | _ => .error "exception policy vulnerabilities must be an array of objects"

/-- `policy_payload.get("vulnerabilities", [])` -/
def policyEntries (policy : Mapping) : Except String (List Mapping) :=
  match policy.getD "vulnerabilities" (.arr []) with
  | .arr entries => entries.mapM objectEntry
  | _ => .error "exception policy vulnerabilities must be an array of objects"

/-- The filtered report and the counts. -/
def filterPayload (report policy : Mapping) : Except String (Mapping × Removed) := do
  let entries ← policyEntries policy
  match report.getD "Results" (.arr []) with
  | .arr results => do
    let (results, removed) ← filterResults entries results
    return (replaceField report "Results" (.arr results), removed)
  | _ => .error "Trivy Results must be an array"

def loadObject (codec : JsonCodec) (content : List UInt8) : Except String Mapping :=
  match codec.loads content with
  | none => .error "Trivy report or exception policy is invalid"
  | some (.obj payload) => .ok payload
  | some _ => .error "Trivy report and exception policy must be objects"

/-- The content of the output file, and the counts. -/
def filterReport (codec : JsonCodec) (report policy : List UInt8) :
    Except String (List UInt8 × Removed) := do
  let report ← loadObject codec report
  let policy ← loadObject codec policy
  let (filtered, removed) ← filterPayload report policy
  match codec.dumps (.obj filtered) with
  | some content => return (content, removed)
  | none => .error "Object is not JSON serializable"

end OptimizrActions.SecurityGate
