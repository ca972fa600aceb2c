import OptimizrActions.Delivery.Request
import OptimizrActions.Lib.Gather
import OptimizrActions.Lib.JsonText

/-! Gate evidence: what a provider's runner reports, sanitized and decided on. -/

namespace OptimizrActions.Delivery

def defaultRequiredGates : List String := ["filesystem", "compose", "security", "rollout", "health"]

def knownGates : List String := defaultRequiredGates ++ ["migration", "rollback", "smoke"]

inductive GateStatus where
  | passed
  | failed
  | skipped
  deriving DecidableEq, Repr

def GateStatus.text : GateStatus → String
  | passed => "passed"
  | failed => "failed"
  | skipped => "skipped"

/-- The dataclass checks none of its fields. -/
structure GateEvidence where
  name : Json
  status : Json
  target : Json
  reason : Json := .str ""

/-- What a runner's sequence can hold. -/
inductive GateItem where
  | evidence (gate : GateEvidence)
  | other

/-- Evidence that has been sanitized. -/
structure SafeEvidence where
  name : String
  status : GateStatus
  target : String
  reason : String
  deriving DecidableEq

def SafeEvidence.toMapping (e : SafeEvidence) : Mapping :=
  [("name", .str e.name), ("status", .str e.status.text), ("target", .str e.target)] ++
    if e.reason = "" then [] else [("reason", .str e.reason)]

structure GateEvaluation where
  passed : Bool
  failureReason : Option String
  evidence : List Mapping

def privateKeyHeader : Pattern :=
  .inOrder [.word "-----BEGIN ", .star (.ignoringCase fun c => c.isUpper || c.isDigit || c = ' '),
    .word "PRIVATE KEY-----"]

def secretWord : Pattern :=
  .inOrder [
    .anyOf [.word "password", .word "passwd", .word "secret", .word "token", .word "authorization",
      .word "cookie", .inOrder [.word "private", .optional (.oneOf "_ .-"), .word "key"]],
    .spaces, .oneOf ":="]

/-- The word characters outside ASCII are those of the Unicode tables. -/
def secretLike (unicodeWord : Char → Bool) : Pattern :=
  let isWord := fun c : Char => c.isAlphanum || c = '_' || (0x80 ≤ c.toNat && unicodeWord c)
  let isHostPart := fun c => c = '/' || Text.isSpace c || c = '@'
  .anyOf [secretWord, privateKeyHeader,
    .inOrder [.boundary isWord, .word "bearer", .plus (.char Text.isSpace),
      .plus (.ignoringCase fun c => c.isAlphanum || c ∈ "._~+/-".toList), .star (.oneOf "=")],
    .inOrder [.alt .start (.oneOf "/\\"), .word ".env", .alt .finish (.oneOf "./\\")],
    .inOrder [.word "http", .optional (.word "s"), .word "://", .plus (.noneOf isHostPart),
      .word ":", .plus (.noneOf isHostPart), .word "@"],
    .inOrder [.oneOf "?&", .anyOf [.word "token", .word "sig", .word "signature", .word "key",
      .word "secret", .word "password"], .word "=",
      .plus (.noneOf fun c => c = '&' || Text.isSpace c)]]

/-- The text of the `TypeError` that hashing the value raises.  It and the texts of
`GateEvidenceError` differ in their first word. -/
def unhashable? : Json → Option String
  | .arr _ => some "unhashable type: 'list'"
  | .obj _ => some "unhashable type: 'dict'"
  | _ => none

def isTypeError (message : String) : Bool := "unhashable".toList.isPrefixOf message.toList

def validateGateName : Json → Except String String
  | .str name => do
    require (Text.isBounded Char.isLower (fun c => c.isLower || c.isDigit || c = '_' || c = '-') 63
      name) "gate names must be bounded lowercase identifiers"
    require (name ∈ knownGates) "gate name is not a supported delivery gate"
    return name
  | _ => .error "gate names must be bounded lowercase identifiers"

def validateRequiredGates (required : List Json) : Except String (List String) := do
  require (required ≠ []) "at least one required gate must be declared"
  match required.findSome? unhashable? with
  | some message => .error message
  | none =>
    require (required.Pairwise fun a b => a.eqScalar b = false) "required gates must be unique"
    required.mapM validateGateName

def gateStatus (status : Json) : Except String GateStatus :=
  match unhashable? status with
  | some message => .error message
  | none => match status with
    | .str "passed" => .ok .passed
    | .str "failed" => .ok .failed
    | .str "skipped" => .ok .skipped
    | _ => .error "gate status must be passed, failed or skipped"

/-- One line of bounded text without secrets. -/
def scalarText (secret : Pattern) (name : String) (value : Json) (allowEmpty : Bool) :
    Except String String :=
  match value with
  | .str s => do
    require (allowEmpty ∨ s ≠ "") s!"{name} must not be empty"
    require ('\n' ∉ s.toList ∧ '\r' ∉ s.toList) s!"{name} must be single-line"
    require (s.length ≤ 512) s!"{name} exceeds 512 characters"
    require (secret.search s = false) s!"{name} contains prohibited secret-like data"
    return s
  | _ => .error s!"{name} must be a string"

section

variable (unicodeWord : Char → Bool)

def safeScalar : String → Json → Bool → Except String String := scalarText (secretLike unicodeWord)

def sanitizedEvidence (gate : GateEvidence) : Except String SafeEvidence := do
  let name ← validateGateName gate.name
  let status ← gateStatus gate.status
  let target ← safeScalar unicodeWord "gate target" gate.target false
  let reason ← safeScalar unicodeWord "gate reason" gate.reason true
  return ⟨name, status, target, reason⟩

def readGate (_index : Nat) (seen : List SafeEvidence) : GateItem → Except String SafeEvidence
  | .other => .error "gate evidence must use GateEvidence values"
  | .evidence gate => do
    let evidence ← sanitizedEvidence unicodeWord gate
    require (evidence.name ∉ seen.map SafeEvidence.name) "gate evidence names must be unique"
    return evidence

/-- The evidence named first, in an order that begins with the required gates. -/
def orderedEvidence (required : List String) (byName : List SafeEvidence) : List SafeEvidence :=
  required.filterMap (fun name => byName.find? (·.name = name)) ++
    byName.filter (·.name ∉ required)

def decideGates (required : List String) (byName : List SafeEvidence) : GateEvaluation :=
  let refused (reason : String) : GateEvaluation :=
    ⟨false, some reason, byName.map SafeEvidence.toMapping⟩
  match required.find? (fun name => name ∉ byName.map SafeEvidence.name) with
  | some missing => refused s!"missing required gate: {missing}"
  | none =>
    match required.find? (fun name => byName.any fun e => e.name = name && e.status = .skipped) with
    | some skipped => refused s!"required gate skipped: {skipped}"
    | none =>
      match byName.find? (·.status = .failed) with
      | some failed =>
        refused (s!"{failed.name}: " ++
          if failed.reason = "" then "gate failed" else failed.reason)
      | none => ⟨true, none, (orderedEvidence required byName).map SafeEvidence.toMapping⟩

def evaluateGateEvidence (gates : List GateItem) (requiredGates : List Json) :
    Except String GateEvaluation := do
  let required ← validateRequiredGates requiredGates
  let byName ← gather (readGate unicodeWord) 0 [] gates
  return decideGates required byName

end

def GateItem.Reports (item : GateItem) (name : Json) (status : GateStatus) : Prop :=
  ∃ gate, item = .evidence gate ∧ gate.name = name ∧ gate.status = .str status.text

/-- Every required gate passed and no gate failed. -/
def PhasePassed (required : List Json) (items : List GateItem) : Prop :=
  (∀ name ∈ required, ∃ item ∈ items, item.Reports name .passed) ∧
    ∀ item ∈ items, ∀ name, ¬item.Reports name .failed

variable {unicodeWord : Char → Bool}

theorem validateGateName_eq_ok {value : Json} {name : String}
    (h : validateGateName value = .ok name) : value = .str name := by
  cases value with
  | str s =>
    simp only [validateGateName, bind_eq_ok, pure_eq_ok] at h
    obtain ⟨_, _, _, _, rfl⟩ := h
    rfl
  | _ => cases h

theorem validateRequiredGates_eq_ok {required : List Json} {names : List String}
    (h : validateRequiredGates required = .ok names) : required = names.map .str := by
  simp only [validateRequiredGates, bind_eq_ok] at h
  obtain ⟨_, _, h⟩ := h
  cases found : required.findSome? unhashable? with
  | some message =>
    rw [found] at h
    cases h
  | none =>
    rw [found] at h
    simp only [bind_eq_ok] at h
    obtain ⟨_, _, read⟩ := h
    have texts : List.Forall₂ (fun value name => value = .str name) required names :=
      (mapM_eq_ok_iff.mp read).imp fun _ _ one => validateGateName_eq_ok one
    exact List.forall₂_eq_eq_eq ▸ List.forall₂_map_right_iff.mpr texts

theorem gateStatus_eq_ok {value : Json} {status : GateStatus} (h : gateStatus value = .ok status) :
    value = .str status.text := by
  unfold gateStatus at h
  split at h
  · cases h
  · split at h <;> cases h <;> rfl

theorem sanitizedEvidence_eq_ok {gate : GateEvidence} {e : SafeEvidence}
    (h : sanitizedEvidence unicodeWord gate = .ok e) :
    gate.name = .str e.name ∧ gate.status = .str e.status.text := by
  simp only [sanitizedEvidence, bind_eq_ok, pure_eq_ok] at h
  obtain ⟨_, name, _, status, _, _, _, _, rfl⟩ := h
  exact ⟨validateGateName_eq_ok name, gateStatus_eq_ok status⟩

def ReadAs (unicodeWord : Char → Bool) (item : GateItem) (e : SafeEvidence) : Prop :=
  ∃ gate, item = .evidence gate ∧ sanitizedEvidence unicodeWord gate = .ok e

theorem readGate_reads :
    ReadsFresh (readGate unicodeWord) (ReadAs unicodeWord) SafeEvidence.name := by
  intro index seen item e
  cases item with
  | other => simp [readGate, ReadAs]
  | evidence gate =>
    simp only [readGate, bind_eq_ok, require_eq_ok, pure_eq_ok, ReadAs, GateItem.evidence.injEq,
      exists_eq_left']
    constructor
    · rintro ⟨_, read, _, fresh, rfl⟩
      exact ⟨read, fresh⟩
    · rintro ⟨read, fresh⟩
      exact ⟨e, read, ⟨⟩, fresh, rfl⟩

theorem ReadAs.reports_iff {item : GateItem} {e : SafeEvidence} {name : String}
    {status : GateStatus} (read : ReadAs unicodeWord item e) :
    item.Reports (.str name) status ↔ e.name = name ∧ e.status = status := by
  obtain ⟨gate, rfl, ok⟩ := read
  obtain ⟨atName, atStatus⟩ := sanitizedEvidence_eq_ok ok
  simp only [GateItem.Reports, GateItem.evidence.injEq, exists_eq_left', atName, atStatus,
    Json.str.injEq]
  refine and_congr_right' ⟨fun same => ?_, fun same => same ▸ rfl⟩
  revert same
  cases e.status <;> cases status <;> decide

theorem ReadAs.failed_iff {item : GateItem} {e : SafeEvidence} (read : ReadAs unicodeWord item e) :
    (∃ name, item.Reports name .failed) ↔ e.status = .failed := by
  constructor
  · rintro ⟨name, gate, rfl, named, status⟩
    obtain ⟨_, same, ok⟩ := id read
    cases same
    exact (read.reports_iff.mp ⟨gate, rfl, (sanitizedEvidence_eq_ok ok).1, status⟩).2
  · exact fun status => ⟨_, read.reports_iff.mpr ⟨rfl, status⟩⟩

theorem decideGates_passed_iff {required : List String} {byName : List SafeEvidence} :
    (decideGates required byName).passed = true ↔
      (∀ name ∈ required, (∃ e ∈ byName, e.name = name) ∧
        ∀ e ∈ byName, e.name = name → e.status ≠ .skipped) ∧
      ∀ e ∈ byName, e.status ≠ .failed := by
  unfold decideGates
  split
  next missing found =>
    obtain ⟨absent, mem⟩ := And.intro (List.find?_some found) (List.mem_of_find?_eq_some found)
    simp only [decide_eq_true_eq, List.mem_map, not_exists, not_and] at absent
    simp only [Bool.false_eq_true, false_iff]
    rintro ⟨all, -⟩
    obtain ⟨e, inside, named⟩ := (all missing mem).1
    exact absent e inside named
  next present =>
    split
    next skipped found =>
      obtain ⟨bad, mem⟩ := And.intro (List.find?_some found) (List.mem_of_find?_eq_some found)
      simp only [List.any_eq_true, Bool.and_eq_true, decide_eq_true_eq] at bad
      obtain ⟨e, inside, named, status⟩ := bad
      simp only [Bool.false_eq_true, false_iff]
      rintro ⟨all, -⟩
      exact (all skipped mem).2 e inside named status
    next unskipped =>
      split
      next failed found =>
        have status := List.find?_some found
        simp only [decide_eq_true_eq] at status
        simp only [Bool.false_eq_true, false_iff]
        exact fun h => h.2 failed (List.mem_of_find?_eq_some found) status
      next unfailed =>
        simp only [List.find?_eq_none, List.mem_map, decide_eq_true_eq, not_exists, not_and,
          not_forall, not_not, List.any_eq_true, Bool.and_eq_true] at present unskipped unfailed
        simp only [true_iff]
        refine ⟨fun name mem => ⟨?_, unskipped name mem⟩, unfailed⟩
        obtain ⟨e, inside, named⟩ := present name mem
        exact ⟨e, inside, named⟩

theorem evaluateGateEvidence_passed_iff {gates : List GateItem} {required : List Json}
    {evaluation : GateEvaluation}
    (h : evaluateGateEvidence unicodeWord gates required = .ok evaluation) :
    evaluation.passed = true ↔ PhasePassed required gates := by
  simp only [evaluateGateEvidence, bind_eq_ok, pure_eq_ok] at h
  obtain ⟨names, asked, byName, read, rfl⟩ := h
  cases validateRequiredGates_eq_ok asked
  obtain ⟨read, nodup⟩ := readGate_reads.gather_nil_eq_ok.mp read
  have reported (name : String) (status : GateStatus) :
      (∃ item ∈ gates, item.Reports (.str name) status) ↔
        ∃ e ∈ byName, e.name = name ∧ e.status = status :=
    exists_mem_iff_of_forall₂ read fun _ _ one => one.reports_iff
  have failures : (∃ item ∈ gates, ∃ name, item.Reports name .failed) ↔
      ∃ e ∈ byName, e.status = .failed :=
    exists_mem_iff_of_forall₂ read fun _ _ one => one.failed_iff
  have noFailure : (∀ item ∈ gates, ∀ name, ¬item.Reports name .failed) ↔
      ∀ e ∈ byName, e.status ≠ .failed := by
    have := not_congr failures
    push Not at this
    exact this
  rw [decideGates_passed_iff, PhasePassed, noFailure, List.forall_mem_map]
  refine and_congr_left fun unfailed => forall₂_congr fun name _ => ?_
  rw [reported]
  constructor
  · rintro ⟨⟨e, mem, named⟩, unskipped⟩
    refine ⟨e, mem, named, ?_⟩
    cases status : e.status with
    | passed => rfl
    | failed => exact absurd status (unfailed e mem)
    | skipped => exact absurd status (unskipped e mem named)
  · rintro ⟨e, mem, named, status⟩
    refine ⟨⟨e, mem, named⟩, fun f other same => ?_⟩
    cases List.inj_on_of_nodup_map nodup mem other (named.trans same.symm)
    rw [status]
    decide


end OptimizrActions.Delivery
