import OptimizrActions.Lib.Dict
import OptimizrActions.Remediation.Window
import Mathlib.Data.List.Lex
import Mathlib.Data.String.Basic

/-! The observations collected from a scanner report, and the report's counts. -/

namespace OptimizrActions.Remediation

/-- The keyword arguments that do not come from the report. -/
structure Scope where
  serviceScope : String
  exposureCriticality : String
  sourceSha : String
  imageIdentity : String
  imageLineageDigests : List String
  fixedImageVerified : Bool
  knownExploitedIds : List String

/-- What is read from one fixable finding. -/
structure Fixable where
  advisoryId : String
  packagePurl : String
  installedVersion : String
  fixedVersion : String
  severity : String
  deriving DecidableEq, Repr

def Scope.exploited (scope : Scope) : List String :=
  (scope.knownExploitedIds.map Text.strip).filter (· ≠ "")

def rawObservation (scope : Scope) (lineage : List String) (f : Fixable) : Mapping :=
  [("service_scope", .str scope.serviceScope),
    ("exposure_criticality", .str scope.exposureCriticality),
    ("classification", .str allowedClassification), ("severity", .str f.severity),
    ("known_exploited", .bool (f.advisoryId ∈ scope.exploited)),
    ("advisory_id", .str f.advisoryId), ("package_purl", .str f.packagePurl),
    ("installed_version", .str f.installedVersion), ("fixed_version", .str f.fixedVersion),
    ("image_lineage_digests", .arr (lineage.map .str)), ("source_sha", .str scope.sourceSha),
    ("image_identity", .str scope.imageIdentity),
    ("fixed_image_verified", .bool scope.fixedImageVerified)]

/-- The key of an observation, its lineage last; four texts stand before it in every key. -/
def observationKey (lineage : List String) (f : Fixable) : List String :=
  [f.advisoryId, f.packagePurl, f.installedVersion, f.fixedVersion] ++ lineage

/-- The objects among the vulnerabilities of one result. -/
def listedFindings : Json → List Mapping
  | .obj result =>
    match Mapping.get result "Vulnerabilities" with
    | .arr vulnerabilities => vulnerabilities.filterMap fun finding =>
        match finding with
        | .obj fields => some fields
        | _ => none
    | _ => []
  | _ => []

section

variable (host : Host)

def purl (finding : Mapping) : String :=
  let identified := match finding.get "PkgIdentifier" with
    | .obj identifier => host.normalText (Mapping.get identifier "PURL")
    | _ => ""
  if identified = "" then host.normalText (finding.get "PURL") else identified

def fixable? (finding : Mapping) : Option Fixable :=
  let fixedVersion := host.normalText (finding.get "FixedVersion")
  if fixedVersion = "" then none
  else some
    { advisoryId := host.normalText (finding.get "VulnerabilityID")
      packagePurl := purl host finding
      installedVersion := host.normalText (finding.get "InstalledVersion")
      fixedVersion := fixedVersion
      severity := Text.upper (host.normalText (finding.get "Severity")) }

/-- The fixable findings of the results, in order. -/
def fixables (results : List Json) : List Fixable :=
  (results.flatMap listedFindings).filterMap (fixable? host)

/-- The collector on a loaded report. -/
def collectReport (scope : Scope) (report : Mapping) : Except String (List Mapping) :=
  match report.get "Results" with
  | .arr results => do
    let lineage ← normalizeDigestList host (.arr (scope.imageLineageDigests.map .str))
      "image_lineage_digests"
    pure (Dict.sortedValues (Dict.ofList ((fixables host results).map fun f =>
      (observationKey lineage f, rawObservation scope lineage f))))
  | _ => .error "Trivy report Results must be an array"

def observationsFromTrivyReport (file : File) (scope : Scope) : Except String (List Mapping) := do
  let report ← loadJson host file "Trivy report"
  collectReport host scope report

/-! ### The counts of a report -/

structure Counts where
  severities : List (String × Nat) := []
  fixable : Nat := 0
  unfixed : Nat := 0
  misconfigurations : Nat := 0
  secrets : Nat := 0
  deriving DecidableEq, Repr

/-- `value or []`, when that is an array. -/
def optionalArray (value : Json) (message : String) : Except String (List Json) :=
  if value.truthy then
    match value with
    | .arr items => .ok items
    | _ => .error message
  else .ok []

/-- `str(finding.get("Severity") or "UNKNOWN").upper()` -/
def countedSeverity (finding : Mapping) : String :=
  match finding.get "Severity" with
  | .str s => Text.upper (if s = "" then "UNKNOWN" else s)
  | value => Text.upper (if value.truthy then host.str value else "UNKNOWN")

def countsAsFixable (finding : Mapping) : Bool :=
  match finding.get "FixedVersion" with
  | .str s => Text.strip s ≠ ""
  | _ => false

def Counts.addSeverity (c : Counts) (severity : String) : Counts :=
  let seen := (c.severities.lookup severity).getD 0
  { c with severities := Dict.put c.severities (severity, seen + 1) }

def countFinding (c : Counts) : Json → Except String Counts
  | .obj finding =>
    let c := c.addSeverity (countedSeverity host finding)
    if countsAsFixable finding then .ok { c with fixable := c.fixable + 1 }
    else .ok { c with unfixed := c.unfixed + 1 }
  | _ => .error "Trivy vulnerability entries must be objects"

def countResult (c : Counts) : Json → Except String Counts
  | .obj result => do
    let vulnerabilities ← optionalArray (Mapping.get result "Vulnerabilities")
      "Trivy Vulnerabilities must be an array"
    let c ← vulnerabilities.foldlM (countFinding host) c
    let configs ← optionalArray (Mapping.get result "Misconfigurations")
      "Trivy Misconfigurations must be an array"
    let secrets ← optionalArray (Mapping.get result "Secrets") "Trivy Secrets must be an array"
    pure { c with
      misconfigurations := c.misconfigurations + configs.length
      secrets := c.secrets + secrets.length }
  | _ => .error "Trivy Results entries must be objects"

def counts (report : Mapping) : Except String Counts :=
  match report.get "Results" with
  | .null => .ok {}
  | .arr results => results.foldlM (countResult host) {}
  | _ => .error "Trivy Results must be an array"

end

/-! ### A sample report -/

def sampleTrivyFinding (severity : String) : Json :=
  .obj [("VulnerabilityID", .str "CVE-1"), ("PkgIdentifier", .obj [("PURL", .str "pkg:a")]),
    ("InstalledVersion", .str "1"), ("FixedVersion", .str "2"), ("Severity", .str severity)]

/-- One result for each severity, all about the same package and advisory. -/
def sampleReport (severities : List String) : Mapping :=
  [("Results", .arr (severities.map fun severity =>
    .obj [("Vulnerabilities", .arr [sampleTrivyFinding severity])]))]

def reportHost (report : Mapping) : Host :=
  ⟨fun _ _ => 0, fun _ => some (.obj report), fun _ => [], fun _ => ""⟩

def sampleScope : Scope where
  serviceScope := "api"
  exposureCriticality := "internal"
  sourceSha := "bbbbbbbbbbbbbbbbbbbbbbbbbbbbbbbbbbbbbbbb"
  imageIdentity := "sha256:aaaaaaaaaaaaaaaaaaaaaaaaaaaaaaaaaaaaaaaaaaaaaaaaaaaaaaaaaaaaaaaa"
  imageLineageDigests := ["sha256:aaaaaaaaaaaaaaaaaaaaaaaaaaaaaaaaaaaaaaaaaaaaaaaaaaaaaaaaaaaaaaaa"]
  fixedImageVerified := false
  knownExploitedIds := []

end OptimizrActions.Remediation
