import OptimizrActions.Lib.Host
import OptimizrActions.Remediation.Lifecycle
import Mathlib.Data.List.Sort

/-! Remediation policies and observations: what the loader accepts and how
identities are brought to one form. -/

namespace OptimizrActions.Remediation

open Calendar

inductive Severity where
  | high | critical
  deriving DecidableEq, Repr

inductive Exposure where
  | internal | internetFacing | privilegedBoundary
  deriving DecidableEq, Repr

def Severity.text : Severity → String
  | .high => "HIGH"
  | .critical => "CRITICAL"

def Exposure.text : Exposure → String
  | .internal => "internal"
  | .internetFacing => "internet-facing"
  | .privilegedBoundary => "privileged-boundary"

def allowedSeverities : List Severity := [.high, .critical]
def allowedClassification : String := "actionable_vulnerability"
def blockedCriticalExposures : List Exposure := [.internetFacing, .privilegedBoundary]
def allowedExposures : List Exposure := .internal :: blockedCriticalExposures

def maxWindowDays : Severity → Nat
  | .critical => 7
  | .high => 30

def isScopeChar (c : Char) : Bool :=
  c.isAlphanum || c = '.' || c = '_' || c = ':' || c = '/' || c = '-'

/-- A letter or digit and up to 127 more characters of the scope alphabet. -/
def isServiceScope (s : String) : Bool :=
  match s.toList with
  | [] => false
  | c :: cs => c.isAlphanum && cs.length ≤ 127 && cs.all isScopeChar

def requiredBool (payload : Mapping) (field label : String) : Except String Bool :=
  match payload.get field with
  | .bool b => .ok b
  | _ => .error (label ++ " field " ++ field ++ " must be boolean")

section

variable (host : Host)

def digestItems (label : String) : Nat → List Json → Except String (List String)
  | _, [] => .ok []
  | index, item :: rest => do
    let digest := Text.lower (host.normalText item)
    require (Text.sha256Text Text.isHex digest)
      (label ++ "[" ++ toString index ++ "] must be an immutable sha256 digest")
    let digests ← digestItems label (index + 1) rest
    pure (digest :: digests)

def normalizeDigestList (raw : Json) (label : String) : Except String (List String) :=
  match raw with
  | .arr (item :: rest) => do
    let values ← digestItems host label 0 (item :: rest)
    require values.Nodup (label ++ " must not contain duplicate digests")
    pure (values.insertionSort (· ≤ ·))
  | _ => .error (label ++ " must be a non-empty array")

/-- A finding's identity; its fields in order are also the fingerprint key. -/
structure Fingerprint where
  service : String
  advisoryId : String
  packagePurl : String
  installedVersion : String
  fixedVersion : String
  imageLineageDigests : List String
  deriving DecidableEq, Repr

def canonicalFingerprint (raw : Mapping) (label : String) : Except String Fingerprint := do
  let service ← requiredText raw "service" label
  let advisoryId ← requiredText raw "advisory_id" label
  let packagePurl ← requiredText raw "package_purl" label
  let installedVersion ← requiredText raw "installed_version" label
  let fixedVersion ← requiredText raw "fixed_version" label
  let imageLineageDigests ← normalizeDigestList host (raw.get "image_lineage_digests")
    (label ++ ".image_lineage_digests")
  pure { service, advisoryId, packagePurl, installedVersion, fixedVersion, imageLineageDigests }

/-- A file as the loader sees it: a regular non-symlink file, and its content. -/
structure File where
  regular : Bool
  bytes : List UInt8

def loadJson (file : File) (label : String) : Except String Mapping := do
  require file.regular (label ++ " must be a regular non-symlink file")
  match host.loads file.bytes with
  | none => .error (label ++ " must be valid UTF-8 JSON")
  | some (.obj payload) => .ok payload
  | some _ => .error (label ++ " must be a JSON object")

/-- A time given as text, or the clock reading `now` when the text is missing or empty. -/
def optionalTime (now : DateTime) (text : Option String) (label : String) :
    Except String DateTime :=
  match text with
  | some text => if text = "" then .ok now else parseUtc text label
  | none => .ok now

structure Entry where
  id : String
  fingerprint : Fingerprint
  reason : String
  firstSeenAt : String
  originalDeadlineAt : String
  deadlineAt : String
  owner : String
  reviewer : String
  statement : String
  compensatingControl : String
  reviewedAt : String
  reviewedBy : String
  status : Status
  history : List HistoryRecord
  revisionCount : Nat
  deriving DecidableEq, Repr

structure Policy where
  policyOwner : String
  entries : List Entry
  policyDigest : String

def entryFingerprint (raw : Mapping) (label : String) : Except String Fingerprint :=
  match raw.get "fingerprint" with
  | .obj fields => canonicalFingerprint host fields (label ++ ".fingerprint")
  | _ => .error (label ++ ".fingerprint must be an object")

/-- One raw entry, given the entries accepted before it. -/
def readEntry (reference : DateTime) (index : Nat) (accepted : List Entry) (raw : Json) :
    Except String Entry :=
  match raw with
  | .obj raw => do
    let label := "entries[" ++ toString index ++ "]"
    let id ← requiredText raw "id" label
    require (id ∉ accepted.map (·.id)) ("duplicate policy entry id " ++ id)
    let fingerprint ← entryFingerprint host raw label
    require (fingerprint ∉ accepted.map (·.fingerprint))
      ("duplicate policy fingerprint at " ++ label)
    let firstSeen ← requiredTime raw "first_seen_at" label
    let deadline ← requiredTime raw "deadline_at" label
    let reviewedAt ← requiredTime raw "reviewed_at" label
    require (firstSeen ≤ reference) "policy first_seen_at must not be in the future"
    require (reviewedAt ≤ reference) "policy reviewed_at must not be in the future"
    require (firstSeen < deadline) "policy deadline_at must be after first_seen_at"
    let lifecycle ← normalizeLifecycle raw firstSeen deadline reference
    let reason ← requiredText raw "reason" label
    let owner ← requiredText raw "owner" label
    let reviewer ← requiredText raw "reviewer" label
    let statement ← requiredText raw "statement" label
    let compensatingControl ← requiredText raw "compensating_control" label
    let reviewedBy ← requiredText raw "reviewed_by" label
    pure
      { id, fingerprint, reason, owner, reviewer, statement, compensatingControl, reviewedBy
        firstSeenAt := format firstSeen
        originalDeadlineAt := lifecycle.originalDeadlineAt
        deadlineAt := lifecycle.effectiveDeadlineAt
        reviewedAt := format reviewedAt
        status := lifecycle.status
        history := lifecycle.history
        revisionCount := lifecycle.revisionCount }
  | _ => .error ("policy entries[" ++ toString index ++ "] must be an object")

def readEntries (reference : DateTime) :
    Nat → List Entry → List Json → Except String (List Entry)
  | _, accepted, [] => .ok accepted
  | index, accepted, raw :: rest => do
    let entry ← readEntry host reference index accepted raw
    readEntries reference (index + 1) (accepted ++ [entry]) rest

def loadPolicy (now : DateTime) (file : File) (referenceTime : Option String) :
    Except String Policy := do
  let payload ← loadJson host file "policy"
  require ((payload.get "version").eqOne) "policy version must be 1"
  let policyOwner ← requiredText payload "policy_owner" "policy"
  match payload.get "entries" with
  | .arr (raw :: rest) => do
    let reference ← optionalTime now referenceTime "reference_time"
    let entries ← readEntries host reference 0 [] (raw :: rest)
    pure { policyOwner, entries, policyDigest := host.sha256Hex file.bytes }
  | _ => .error "policy entries must be a non-empty array"

end

/-- The service identity and the reviewed exposure class. -/
def validateRemediationContext (serviceScope exposureCriticality : Json) :
    Except String (String × Exposure) :=
  match serviceScope, exposureCriticality with
  | .str serviceScope, exposureCriticality => do
    let scope := Text.strip serviceScope
    require (isServiceScope scope) "service_scope must be a bounded safe identifier"
    match exposureCriticality with
    | .str exposureCriticality =>
      match allowedExposures.find? (·.text = Text.lower (Text.strip exposureCriticality)) with
      | some exposure => .ok (scope, exposure)
      | none => .error "exposure_criticality is not a supported risk class"
    | _ => .error "exposure_criticality must be text"
  | _, _ => .error "service_scope must be text"

structure Observation extends Fingerprint where
  classification : String
  severity : Severity
  exposureCriticality : Exposure
  knownExploited : Bool
  fixedImageVerified : Bool
  sourceSha : String
  imageIdentity : String
  deriving DecidableEq, Repr

def allowedSeverity (text label : String) : Except String Severity :=
  match allowedSeverities.find? (·.text = text) with
  | some severity => .ok severity
  | none => .error (label ++ ".severity must be HIGH or CRITICAL")

def canonicalObservation (host : Host) (index : Nat) (raw : Mapping) :
    Except String Observation := do
  let label := "observations[" ++ toString index ++ "]"
  let scopeText ← requiredText raw "service_scope" label
  let exposureText ← requiredText raw "exposure_criticality" label
  let (serviceScope, exposureCriticality) ←
    validateRemediationContext (.str scopeText) (.str exposureText)
  let advisoryId ← requiredText raw "advisory_id" label
  let packagePurl ← requiredText raw "package_purl" label
  let installedVersion ← requiredText raw "installed_version" label
  let fixedVersion ← requiredText raw "fixed_version" label
  let fingerprint ← canonicalFingerprint host
    [("service", .str serviceScope), ("advisory_id", .str advisoryId),
      ("package_purl", .str packagePurl), ("installed_version", .str installedVersion),
      ("fixed_version", .str fixedVersion),
      ("image_lineage_digests", raw.get "image_lineage_digests")] label
  let classification ← requiredText raw "classification" label
  let severityText ← requiredText raw "severity" label
  let sourceText ← requiredText raw "source_sha" label
  let identityText ← requiredText raw "image_identity" label
  let sourceSha := Text.lower sourceText
  let imageIdentity := Text.lower identityText
  require (Text.hexText Text.isHex 40 sourceSha.toList)
    (label ++ ".source_sha must be a 40-character git SHA")
  require (Text.sha256Text Text.isHex imageIdentity)
    (label ++ ".image_identity must be an immutable sha256 digest")
  let severity ← allowedSeverity (Text.upper severityText) label
  let knownExploited ← requiredBool raw "known_exploited" label
  let fixedImageVerified ← requiredBool raw "fixed_image_verified" label
  pure { fingerprint with
    classification, severity, exposureCriticality, knownExploited, fixedImageVerified, sourceSha,
    imageIdentity }

/-- The canonical observation as a dictionary. -/
def Observation.toJson (o : Observation) : Json :=
  .obj
    [("service", .str o.service), ("advisory_id", .str o.advisoryId),
      ("package_purl", .str o.packagePurl), ("installed_version", .str o.installedVersion),
      ("fixed_version", .str o.fixedVersion),
      ("image_lineage_digests", .arr (o.imageLineageDigests.map .str)),
      ("service_scope", .str o.service), ("classification", .str o.classification),
      ("severity", .str o.severity.text), ("exposure_criticality", .str o.exposureCriticality.text),
      ("known_exploited", .bool o.knownExploited),
      ("fixed_image_verified", .bool o.fixedImageVerified), ("source_sha", .str o.sourceSha),
      ("image_identity", .str o.imageIdentity)]

/-! ### What a loaded policy guarantees -/

theorem requiredText_ne_empty {payload : Mapping} {field label text : String}
    (h : requiredText payload field label = .ok text) : text ≠ "" := by
  unfold requiredText at h
  split at h
  · split at h
    · cases h
    · cases h
      assumption
  · cases h

theorem parseUtc_eq_ok {text label : String} {t : DateTime} :
    parseUtc text label = .ok t ↔ parse? text = some t := by
  unfold parseUtc
  cases parse? text <;> simp

theorem requiredTime_format {payload : Mapping} {field label : String} {t : DateTime}
    (h : requiredTime payload field label = .ok t) : parse? (format t) = some t := by
  simp only [requiredTime, bind_eq_ok, parseUtc_eq_ok] at h
  obtain ⟨_, -, h⟩ := h
  exact parse?_format_parse? h

/-- A loaded entry read against the raw one: its times and its lifecycle. -/
structure LoadedFrom (raw : Mapping) (label : String) (reference firstSeen deadline : DateTime)
    (lifecycle : Lifecycle) (entry : Entry) : Prop where
  firstSeen_read : requiredTime raw "first_seen_at" label = .ok firstSeen
  deadline_read : requiredTime raw "deadline_at" label = .ok deadline
  lifecycle_read : normalizeLifecycle raw firstSeen deadline reference = .ok lifecycle
  firstSeen_le : firstSeen ≤ reference
  id_ne_empty : entry.id ≠ ""
  firstSeenAt : entry.firstSeenAt = format firstSeen
  deadlineAt : entry.deadlineAt = lifecycle.effectiveDeadlineAt
  status : entry.status = lifecycle.status

theorem LoadedFrom.parse_firstSeenAt {raw : Mapping} {label : String}
    {reference firstSeen deadline : DateTime} {lifecycle : Lifecycle} {entry : Entry}
    (h : LoadedFrom raw label reference firstSeen deadline lifecycle entry) :
    parse? entry.firstSeenAt = some firstSeen := by
  rw [h.firstSeenAt]
  exact requiredTime_format h.firstSeen_read

section

variable {host : Host} {reference : DateTime}

theorem readEntry_loaded {index : Nat} {accepted : List Entry} {raw : Json} {entry : Entry}
    (h : readEntry host reference index accepted raw = .ok entry) :
    entry.fingerprint ∉ accepted.map (·.fingerprint) ∧
      ∃ fields label firstSeen deadline lifecycle, raw = .obj fields ∧
        LoadedFrom fields label reference firstSeen deadline lifecycle entry := by
  cases raw with
  | obj fields =>
    simp only [readEntry, bind_eq_ok, require_eq_ok, exists_const, pure_eq_ok] at h
    obtain ⟨id, hid, -, fingerprint, -, fresh, firstSeen, hfirst, deadline, hdeadline, _, -, seen, -,
      -, lifecycle, hlife, _, -, _, -, _, -, _, -, _, -, _, -, rfl⟩ := h
    exact ⟨fresh, fields, _, firstSeen, deadline, lifecycle, rfl, hfirst, hdeadline, hlife, seen,
      requiredText_ne_empty hid, rfl, rfl, rfl⟩
  | _ => cases h

theorem readEntries_loaded {index : Nat} {accepted entries : List Entry} {raws : List Json}
    (h : readEntries host reference index accepted raws = .ok entries) {entry : Entry}
    (mem : entry ∈ entries) :
    entry ∈ accepted ∨ ∃ fields label firstSeen deadline lifecycle, .obj fields ∈ raws ∧
      LoadedFrom fields label reference firstSeen deadline lifecycle entry := by
  induction raws generalizing index accepted with
  | nil =>
    cases h
    exact .inl mem
  | cons raw raws ih =>
    simp only [readEntries, bind_eq_ok] at h
    obtain ⟨next, read, h⟩ := h
    rcases ih h with old | ⟨fields, label, firstSeen, deadline, lifecycle, later, loaded⟩
    · rcases List.mem_append.mp old with old | new
      · exact .inl old
      · obtain ⟨-, fields, label, firstSeen, deadline, lifecycle, rfl, loaded⟩ :=
          readEntry_loaded read
        cases List.mem_singleton.mp new
        exact .inr ⟨fields, label, firstSeen, deadline, lifecycle, List.mem_cons_self, loaded⟩
    · exact .inr ⟨fields, label, firstSeen, deadline, lifecycle, List.mem_cons_of_mem _ later,
        loaded⟩

theorem readEntries_fingerprint_nodup {index : Nat} {accepted entries : List Entry}
    {raws : List Json} (h : readEntries host reference index accepted raws = .ok entries)
    (nodup : (accepted.map (·.fingerprint)).Nodup) : (entries.map (·.fingerprint)).Nodup := by
  induction raws generalizing index accepted with
  | nil =>
    cases h
    exact nodup
  | cons raw raws ih =>
    simp only [readEntries, bind_eq_ok] at h
    obtain ⟨next, read, h⟩ := h
    refine ih h ?_
    rw [List.map_append, List.map_singleton, ← List.concat_eq_append]
    exact nodup.concat (readEntry_loaded read).1

theorem loadPolicy_eq_ok {now : DateTime} {file : File} {referenceTime : Option String}
    {policy : Policy} (h : loadPolicy host now file referenceTime = .ok policy) :
    ∃ payload raws reference, loadJson host file "policy" = .ok payload ∧
      payload.get "entries" = .arr raws ∧
      optionalTime now referenceTime "reference_time" = .ok reference ∧
      readEntries host reference 0 [] raws = .ok policy.entries ∧
      policy.policyDigest = host.sha256Hex file.bytes := by
  simp only [loadPolicy, bind_eq_ok, require_eq_ok, exists_const] at h
  obtain ⟨payload, load, -, _, -, h⟩ := h
  split at h
  · simp only [bind_eq_ok, pure_eq_ok] at h
    obtain ⟨reference, time, entries, read, rfl⟩ := h
    exact ⟨payload, _, reference, load, ‹_›, time, read, rfl⟩
  · cases h

theorem requiredBool_eq_ok {payload : Mapping} {field label : String} {b : Bool} :
    requiredBool payload field label = .ok b ↔ payload.get field = .bool b := by
  unfold requiredBool
  cases payload.get field <;> simp

theorem canonicalObservation_knownExploited {index : Nat} {raw : Mapping} {o : Observation}
    (h : canonicalObservation host index raw = .ok o) :
    raw.get "known_exploited" = .bool o.knownExploited := by
  simp only [canonicalObservation, bind_eq_ok, require_eq_ok, exists_const, requiredBool_eq_ok,
    pure_eq_ok] at h
  obtain ⟨_, -, _, -, _, -, _, -, _, -, _, -, _, -, _, -, _, -, _, -, _, -, _, -, -, -, _, -, b, at_,
    _, -, rfl⟩ := h
  exact at_

end

end OptimizrActions.Remediation
