import Mathlib.Data.List.TakeWhile
import OptimizrActions.Publisher.Contract

/-! The security evidence that the publisher records, and what it shows by itself. -/

namespace OptimizrActions.Publisher

def decisions : List String := ["not_applicable", "blocked", "allowed_window"]

def safeValue (allowed : List String) (fallback : String) : Value → String
  | .text s => if s ∈ allowed then s else fallback
  | _ => fallback

def safeText (accepts : String → Bool) : Value → String
  | .text s => if accepts s then s else ""
  | _ => ""

structure WindowRecord where
  enabled : Bool
  allowed : Bool
  decision : String
  classification : String
  matchingPolicyEntries : Option Nat
  blockingTotal : Option Nat
  covered : Option Nat
  uncovered : Option Nat
  rejected : Option Nat
  overdue : Option Nat
  unmatched : Option Nat
  reintroduced : Option Nat
  policyDigest : String
  evaluatorVersion : String
  deriving DecidableEq, Repr

structure SecurityRecord where
  imageDigest : String
  scannedImageRef : String
  sourceSha : String
  outcome : String
  result : String
  classification : String
  push : Bool
  remediationWindow : WindowRecord
  securityGateAccepted : Bool
  promotionAuthorized : Bool
  deriving DecidableEq, Repr

def safeImageRef (scannedImageRef : String) : String :=
  if scannedImageRef.length ≤ 2048 ∧ isPlain scannedImageRef then scannedImageRef else ""

/-- The fields of the decision: the outputs with the sanitized values in their place. -/
def decisionFields (outputs : Fields) (imageDigest scannedImageRef sourceSha : String) : Fields :=
  ("window_enabled", .flag (boolean (outputs.get "window_enabled") = some true)) ::
    ("image_digest", .text (safeText isImageDigest (.text imageDigest))) ::
    ("scanned_image_ref", .text (safeImageRef scannedImageRef)) ::
    ("source_sha", .text (safeText isGitSha (.text sourceSha))) ::
    ("policy_digest", .text (safeText isHexDigest (outputs.get "policy_digest"))) ::
    ("evaluator_version", .text (safeText isEvaluatorVersion (outputs.get "evaluator_version"))) ::
    outputs

def windowRecord (outputs : Fields) : WindowRecord :=
  let enabled : Bool := boolean (outputs.get "window_enabled") = some true
  { enabled := enabled
    allowed := outputs.get "window_allowed" = .text "true"
    decision := safeValue decisions (if enabled then "blocked" else "not_applicable")
      (outputs.get "window_decision")
    classification := safeValue classifications "" (outputs.get "window_classification")
    matchingPolicyEntries := count (outputs.get "window_count")
    blockingTotal := count (outputs.get "blocking_total")
    covered := count (outputs.get "covered")
    uncovered := count (outputs.get "uncovered")
    rejected := count (outputs.get "rejected")
    overdue := count (outputs.get "overdue")
    unmatched := count (outputs.get "unmatched")
    reintroduced := count (outputs.get "reintroduced")
    policyDigest := safeText isHexDigest (outputs.get "policy_digest")
    evaluatorVersion := safeText isEvaluatorVersion (outputs.get "evaluator_version") }

def buildSecurityEvidence (outputs : Fields) (imageDigest scannedImageRef sourceSha : String) :
    SecurityRecord :=
  let accepted := securityGateAcceptable (decisionFields outputs imageDigest scannedImageRef sourceSha)
  { imageDigest := safeText isImageDigest (.text imageDigest)
    scannedImageRef := safeImageRef scannedImageRef
    sourceSha := safeText isGitSha (.text sourceSha)
    outcome := safeValue outcomes "unknown" (outputs.get "outcome")
    result := safeValue ["passed", "failed"] "unknown" (outputs.get "result")
    classification := safeValue classifications "scanner_error" (outputs.get "classification")
    push := boolean (outputs.get "push") = some true
    remediationWindow := windowRecord outputs
    securityGateAccepted := accepted
    promotionAuthorized := boolean (outputs.get "push") = some true && accepted }

/-- The reference ends in `@` and the recorded digest. -/
def EndsInDigest (imageRef digest : String) : Prop :=
  ∃ start, imageRef.toList = start ++ '@' :: digest.toList

/-- The window covers every blocking finding. -/
structure WindowRecord.Covers (window : WindowRecord) : Prop where
  enabled : window.enabled = true
  allowed : window.allowed = true
  decision : window.decision = "allowed_window"
  blocking : ∃ n, 0 < n ∧ window.blockingTotal = some n ∧ window.covered = some n
  matching : ∃ n, 0 < n ∧ window.matchingPolicyEntries = some n
  uncovered : window.uncovered = some 0
  rejected : window.rejected = some 0
  overdue : window.overdue = some 0
  unmatched : window.unmatched = some 0
  reintroduced : window.reintroduced = some 0
  policyDigest : window.policyDigest ≠ ""
  evaluatorVersion : window.evaluatorVersion ≠ ""

/-- The recorded fields alone justify a promotion. -/
structure SecurityRecord.Justifies (record : SecurityRecord) : Prop where
  push : record.push = true
  digest : isImageDigest record.imageDigest = true
  sourceSha : isGitSha record.sourceSha = true
  bound : EndsInDigest record.scannedImageRef record.imageDigest
  gate : (record.outcome = "success" ∧ record.result = "passed" ∧
      record.classification ∈ passingClassifications) ∨
    (record.outcome = "failure" ∧ record.result = "failed" ∧
      record.classification = "actionable_vulnerability" ∧ record.remediationWindow.Covers)

/-- A value that passed a test against the listed ones is recorded as it is. -/
theorem safeValue_of_mem {allowed : List String} {s : String} (fallback : String) (mem : s ∈ allowed) :
    safeValue allowed fallback (.text s) = s := if_pos mem

theorem endsInDigest_of_isBound {digest imageRef : String}
    (h : isBound (.text digest) imageRef = true) : EndsInDigest imageRef digest := by
  simp only [isBound, Bool.and_eq_true, decide_eq_true_eq, Value.text.injEq, afterLastAt] at h
  obtain ⟨mem, rfl⟩ := h
  have halves := @List.takeWhile_append_dropWhile _ (· ≠ '@') imageRef.toList.reverse
  have stop := List.head?_dropWhile_not (· ≠ '@') imageRef.toList.reverse
  cases at_ : imageRef.toList.reverse.dropWhile (· ≠ '@') with
  | nil =>
    rw [at_, List.append_nil] at halves
    have all := List.mem_takeWhile_imp (halves.symm ▸ List.mem_reverse.mpr mem)
    simp at all
  | cons c rest =>
    rw [at_] at stop halves
    have same : c = '@' := by simpa using stop
    subst same
    refine ⟨rest.reverse, ?_⟩
    rw [String.toList_ofList]
    simpa using (congrArg List.reverse halves).symm

section

variable {outputs : Fields} {imageDigest scannedImageRef sourceSha : String}

theorem get_decisionFields (key : String) (other : key ∉ ["window_enabled", "image_digest",
    "scanned_image_ref", "source_sha", "policy_digest", "evaluator_version"]) :
    (decisionFields outputs imageDigest scannedImageRef sourceSha).get key = outputs.get key := by
  simp only [List.mem_cons, List.not_mem_nil, or_false, not_or] at other
  obtain ⟨enabled, digest, ref, sha, policy, version⟩ := other
  simp [decisionFields, Fields.get, Ne.symm enabled, Ne.symm digest, Ne.symm ref, Ne.symm sha,
    Ne.symm policy, Ne.symm version]

/-- What acceptance shows of a pushed image. -/
structure Accepted (fields : Fields) : Prop where
  outcome : ∃ s ∈ outcomes, fields.get "outcome" = .text s
  classification : ∃ s ∈ classifications, fields.get "classification" = .text s
  identity : boolean (fields.get "push") = some true → immutableIdentity fields = true
  gate : (fields.get "outcome" = .text "success" ∧ fields.get "result" = .text "passed" ∧
      fields.get "classification" ∈ passingClassifications.map .text) ∨
    (fields.get "outcome" = .text "failure" ∧ fields.get "result" = .text "failed" ∧
      boolean (fields.get "window_enabled") = some true ∧
      fields.get "classification" = .text "actionable_vulnerability" ∧
      fields.get "window_allowed" = .text "true" ∧
      fields.get "window_decision" = .text "allowed_window" ∧ countsCover fields = true ∧
      isText isHexDigest (fields.get "policy_digest") = true ∧
      isText isEvaluatorVersion (fields.get "evaluator_version") = true)

theorem ite_false_eq_true {p : Prop} [Decidable p] {b : Bool} :
    (if p then false else b) = true ↔ ¬p ∧ b = true := by
  split <;> simp_all

theorem accepted_of_acceptable {fields : Fields} (h : securityGateAcceptable fields = true) :
    Accepted fields := by
  unfold securityGateAcceptable at h
  obtain ⟨known, h⟩ := ite_false_eq_true.mp h
  obtain ⟨identity, h⟩ := ite_false_eq_true.mp h
  rw [not_or, not_not, not_not, List.mem_map, List.mem_map] at known
  obtain ⟨⟨outcome, outcomeMem, outcomeAt⟩, classification, classMem, classAt⟩ := known
  refine ⟨⟨outcome, outcomeMem, outcomeAt.symm⟩, ⟨classification, classMem, classAt.symm⟩, ?_, ?_⟩
  · intro push
    rw [not_and, Bool.not_eq_false] at identity
    exact identity push
  · by_cases success : fields.get "outcome" = .text "success"
    · rw [if_pos success, decide_eq_true_eq] at h
      exact .inl ⟨success, h⟩
    · rw [if_neg success] at h
      obtain ⟨failed, h⟩ := ite_false_eq_true.mp h
      obtain ⟨enabled, h⟩ := ite_false_eq_true.mp h
      obtain ⟨classified, h⟩ := ite_false_eq_true.mp h
      obtain ⟨allowed, h⟩ := ite_false_eq_true.mp h
      obtain ⟨decided, h⟩ := ite_false_eq_true.mp h
      obtain ⟨-, h⟩ := ite_false_eq_true.mp h
      obtain ⟨-, h⟩ := ite_false_eq_true.mp h
      obtain ⟨counts, h⟩ := ite_false_eq_true.mp h
      obtain ⟨-, h⟩ := ite_false_eq_true.mp h
      obtain ⟨-, h⟩ := ite_false_eq_true.mp h
      obtain ⟨-, h⟩ := ite_false_eq_true.mp h
      obtain ⟨policy, version⟩ := ite_false_eq_true.mp h
      rw [not_or, not_not, not_not] at failed
      exact .inr ⟨failed.1, failed.2, not_not.mp enabled, not_not.mp classified, not_not.mp allowed,
        not_not.mp decided, Bool.not_eq_false _ ▸ counts, Bool.not_eq_false _ ▸ policy, version⟩

/-- What the counter cross-check shows. -/
theorem countsCover_eq_true {fields : Fields} (h : countsCover fields = true) :
    (∃ n, 0 < n ∧ count (fields.get "blocking_total") = some n ∧
        count (fields.get "covered") = some n) ∧
      (∃ n, 0 < n ∧ count (fields.get "window_count") = some n) ∧
      count (fields.get "uncovered") = some 0 ∧ count (fields.get "rejected") = some 0 ∧
      count (fields.get "overdue") = some 0 ∧ count (fields.get "unmatched") = some 0 ∧
      count (fields.get "reintroduced") = some 0 := by
  simp only [countsCover, Bool.not_eq_true', Bool.or_eq_false_iff, decide_eq_false_iff_not,
    not_not] at h
  obtain ⟨⟨⟨⟨⟨⟨⟨⟨⟨blocking, positive⟩, matching⟩, some_⟩, covered⟩, uncovered⟩, rejected⟩, overdue⟩,
    unmatched⟩, reintroduced⟩ := h
  obtain ⟨n, atBlocking⟩ := Option.ne_none_iff_exists'.mp blocking
  obtain ⟨m, atMatching⟩ := Option.ne_none_iff_exists'.mp matching
  refine ⟨⟨n, ?_, atBlocking, covered.trans atBlocking⟩, ⟨m, ?_, atMatching⟩, uncovered, rejected,
    overdue, unmatched, reintroduced⟩
  · exact Nat.pos_of_ne_zero fun zero => positive (zero ▸ atBlocking)
  · exact Nat.pos_of_ne_zero fun zero => some_ (zero ▸ atMatching)

theorem eq_of_isText {accepts : String → Bool} (empty : accepts "" = false) {value : Value}
    (h : isText accepts (.text (safeText accepts value)) = true) : safeText accepts value ≠ "" := by
  rintro none
  rw [none] at h
  cases h.symm.trans empty

theorem windowRecord_covers
    (gate : countsCover (decisionFields outputs imageDigest scannedImageRef sourceSha) = true)
    (enabled : boolean ((decisionFields outputs imageDigest scannedImageRef sourceSha).get
      "window_enabled") = some true)
    (allowed : outputs.get "window_allowed" = .text "true")
    (decided : outputs.get "window_decision" = .text "allowed_window")
    (policy : isText isHexDigest (.text (safeText isHexDigest (outputs.get "policy_digest"))) = true)
    (version : isText isEvaluatorVersion
      (.text (safeText isEvaluatorVersion (outputs.get "evaluator_version"))) = true) :
    (windowRecord outputs).Covers := by
  have counts := countsCover_eq_true gate
  rw [get_decisionFields "blocking_total" (by decide), get_decisionFields "covered" (by decide),
    get_decisionFields "window_count" (by decide), get_decisionFields "uncovered" (by decide),
    get_decisionFields "rejected" (by decide), get_decisionFields "overdue" (by decide),
    get_decisionFields "unmatched" (by decide),
    get_decisionFields "reintroduced" (by decide)] at counts
  obtain ⟨⟨n, positive, blocking, covered⟩, ⟨m, some_, matching⟩, uncovered, rejected, overdue,
    unmatched, reintroduced⟩ := counts
  refine ⟨?_, decide_eq_true allowed, ?_, ⟨n, positive, blocking, covered⟩, ⟨m, some_, matching⟩,
    uncovered, rejected, overdue, unmatched, reintroduced, eq_of_isText rfl policy,
    eq_of_isText rfl version⟩
  · exact Option.some.inj enabled
  · simp only [windowRecord, decided]
    exact safeValue_of_mem _ (show "allowed_window" ∈ decisions by decide)

/-- A record that authorizes a promotion justifies it by itself. -/
theorem buildSecurityEvidence_justifies (outputs : Fields)
    (imageDigest scannedImageRef sourceSha : String)
    (authorized : (buildSecurityEvidence outputs imageDigest scannedImageRef
      sourceSha).promotionAuthorized = true) :
    (buildSecurityEvidence outputs imageDigest scannedImageRef sourceSha).Justifies := by
  simp only [buildSecurityEvidence, Bool.and_eq_true, decide_eq_true_eq] at authorized
  obtain ⟨push, acceptable⟩ := authorized
  have accepted := accepted_of_acceptable acceptable
  have identity := accepted.identity (by rw [get_decisionFields "push" (by decide), push])
  simp only [immutableIdentity, Bool.and_eq_true] at identity
  obtain ⟨⟨digest, bound⟩, sha⟩ := identity
  refine ⟨decide_eq_true push, digest, sha, endsInDigest_of_isBound bound, ?_⟩
  obtain ⟨c, classMem, classAt⟩ := accepted.classification
  have gate := accepted.gate
  rw [get_decisionFields "outcome" (by decide), get_decisionFields "result" (by decide),
    get_decisionFields "classification" (by decide),
    get_decisionFields "window_allowed" (by decide),
    get_decisionFields "window_decision" (by decide)] at gate
  rw [get_decisionFields "classification" (by decide)] at classAt
  rcases gate with ⟨outcome, result, passing⟩ | ⟨outcome, result, enabled, classified, allowed, decided,
    counts, policy, version⟩
  · refine .inl ⟨?_, ?_, ?_⟩
    · rw [buildSecurityEvidence, outcome]
      exact safeValue_of_mem "unknown" (show "success" ∈ outcomes by decide)
    · rw [buildSecurityEvidence, result]
      exact safeValue_of_mem "unknown" (show "passed" ∈ ["passed", "failed"] by decide)
    · rw [buildSecurityEvidence, classAt]
      rw [classAt, List.mem_map] at passing
      obtain ⟨s, mem, same⟩ := passing
      cases same
      exact (safeValue_of_mem "scanner_error" classMem).symm ▸ mem
  · refine .inr ⟨?_, ?_, ?_, windowRecord_covers counts enabled allowed decided policy version⟩
    · rw [buildSecurityEvidence, outcome]
      exact safeValue_of_mem "unknown" (show "failure" ∈ outcomes by decide)
    · rw [buildSecurityEvidence, result]
      exact safeValue_of_mem "unknown" (show "failed" ∈ ["passed", "failed"] by decide)
    · rw [buildSecurityEvidence, classified]
      exact safeValue_of_mem "scanner_error" (show "actionable_vulnerability" ∈ classifications by decide)

end

/-- The outputs of a clean gate of a pushed image. -/
def cleanOutputs : Fields :=
  [("outcome", .text "success"), ("result", .text "passed"), ("classification", .text "clean"),
    ("push", .text "true")]

def sampleHex : String := "0123456789abcdef0123456789abcdef0123456789abcdef0123456789abcdef"

theorem buildSecurityEvidence_justifies_sample :
    (buildSecurityEvidence cleanOutputs ("sha256:" ++ sampleHex) ("ghcr.io/acme/shop@sha256:" ++
      sampleHex) "0123456789012345678901234567890123456789").Justifies :=
  buildSecurityEvidence_justifies _ _ _ _ (by decide +kernel)

end OptimizrActions.Publisher
