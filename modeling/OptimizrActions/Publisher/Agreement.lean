import OptimizrActions.Publisher.Contract
import OptimizrActions.Remediation.Consistency

/-! The publisher accepts what the evaluator allows: the decision survives the way
through step outputs and environment variables. -/

namespace OptimizrActions.Publisher

open KeyValue Remediation

/-- A push run whose gate failed on vulnerabilities, for one immutable image. -/
structure FailedPush where
  imageDigest : String
  scannedImageRef : String
  sourceSha : String
  digest : isImageDigest imageDigest = true
  bound : isBound (.text imageDigest) scannedImageRef = true
  plain : isPlain scannedImageRef = true
  source : isGitSha sourceSha = true

/-- The last value written under a key. -/
def lastValue (pairs : List (String × String)) (key : String) : Option String :=
  (pairs.reverse.find? (·.1 = key)).map (·.2)

/-- The environment variables that take an output of the gate step, and its name. -/
def windowOutputs : List (String × String) :=
  [("SECURITY_WINDOW_ALLOWED", "remediation_window_allowed"),
    ("SECURITY_WINDOW_DECISION", "remediation_window_decision"),
    ("SECURITY_WINDOW_CLASSIFICATION", "remediation_window_classification"),
    ("SECURITY_WINDOW_COUNT", "remediation_window_count"),
    ("SECURITY_WINDOW_BLOCKING_TOTAL", "remediation_window_blocking_total"),
    ("SECURITY_WINDOW_COVERED", "remediation_window_covered"),
    ("SECURITY_WINDOW_UNCOVERED", "remediation_window_uncovered"),
    ("SECURITY_WINDOW_REJECTED", "remediation_window_rejected_count"),
    ("SECURITY_WINDOW_OVERDUE", "remediation_window_overdue_count"),
    ("SECURITY_WINDOW_UNMATCHED", "remediation_window_unmatched_count"),
    ("SECURITY_WINDOW_REINTRODUCED", "remediation_window_reintroduced_count"),
    ("SECURITY_WINDOW_POLICY_DIGEST", "policy_digest"),
    ("SECURITY_WINDOW_EVALUATOR_VERSION", "evaluator_version"),
    ("SECURITY_WINDOW_FAILURE_REASON", "remediation_window_failure_reason")]

/-- The variables that the workflow sets from the gate's own outcome. -/
def gateVariables : List (String × String) :=
  [("SECURITY_OUTCOME", "failure"), ("SECURITY_RESULT", "failed"),
    ("SECURITY_CLASSIFICATION", "actionable_vulnerability"), ("SECURITY_PUSH", "true"),
    ("SECURITY_WINDOW_ENABLED", "true"), ("SECURITY_FAILURE_REASON", "")]

/-- The environment of the decision step; an output that was never written is empty. -/
def decisionEnvironment (outputs : List (String × String)) (name : String) : Option String :=
  match lastValue gateVariables name with
  | some value => some value
  | none => (lastValue windowOutputs name).map fun output => (lastValue outputs output).getD ""

/-- The fields of the decision: the outputs read back and the image they are about. -/
def FailedPush.fields (push : FailedPush) (content : List Char) : Fields :=
  ("image_digest", .text push.imageDigest) ::
    ("scanned_image_ref", .text push.scannedImageRef) ::
    ("source_sha", .text push.sourceSha) ::
    outputsFromEnvironment (decisionEnvironment (read content))

theorem lastValue_append {pairs more : List (String × String)} {key : String}
    (h : (lastValue more key).isSome) : lastValue (pairs ++ more) key = lastValue more key := by
  simp only [lastValue, Option.isSome_map] at h
  simp only [lastValue, List.reverse_append, List.find?_append]
  obtain ⟨pair, found⟩ := Option.isSome_iff_exists.mp h
  rw [found]
  rfl

/-- The explicit fields of a decision on the outputs of `result`. -/
def FailedPush.explicit (push : FailedPush) (result : Evaluation) : Fields :=
  [("image_digest", .text push.imageDigest), ("scanned_image_ref", .text push.scannedImageRef),
    ("source_sha", .text push.sourceSha), ("outcome", .text "failure"), ("result", .text "failed"),
    ("classification", .text "actionable_vulnerability"), ("window_enabled", .text "true"),
    ("push", .text "true"),
    ("window_allowed", .text (if result.remediationWindowAllowed then "true" else "false")),
    ("window_decision", .text result.decision.text),
    ("window_classification", .text result.classification),
    ("window_count", .text (toString result.matchingEntryCount)),
    ("blocking_total", .text (toString result.blockingTotal)),
    ("covered", .text (toString result.windowCovered)),
    ("uncovered", .text (toString result.uncoveredBlockingFindings)),
    ("rejected", .text (toString result.rejectedCount)),
    ("overdue", .text (toString result.overdueCount)),
    ("unmatched", .text (toString result.unmatchedCount)),
    ("reintroduced", .text (toString result.reintroducedCount)),
    ("policy_digest", .text result.policyDigest),
    ("evaluator_version", .text result.evaluatorVersion), ("failure_reason", .text ""),
    ("window_failure_reason", .text result.failureReason)]

theorem lastValue_mem {pairs : List (String × String)} {key value : String}
    (h : lastValue pairs key = some value) : value ∈ pairs.map (·.2) := by
  obtain ⟨pair, found, rfl⟩ := Option.map_eq_some_iff.mp h
  exact List.mem_map_of_mem (List.mem_reverse.mp (List.mem_of_find?_eq_some found))

theorem decisionEnvironment_congr {outputs outputs' : List (String × String)}
    (h : ∀ key ∈ windowOutputs.map (·.2), lastValue outputs key = lastValue outputs' key) :
    decisionEnvironment outputs = decisionEnvironment outputs' := by
  funext name
  unfold decisionEnvironment
  cases lastValue gateVariables name with
  | some value => rfl
  | none =>
    cases found : lastValue windowOutputs name with
    | none => rfl
    | some output => simp only [Option.map_some, h output (lastValue_mem found)]

theorem fields_eq (push : FailedPush) (result : Evaluation) {content : List Char}
    {earlier : List (String × String)} (h : read content = earlier ++ githubOutput result) :
    push.fields content = push.explicit result := by
  have written : ∀ key ∈ windowOutputs.map (·.2),
      lastValue (read content) key = lastValue (githubOutput result) key := by
    intro key mem
    rw [h]
    apply lastValue_append
    revert key
    simp [windowOutputs, lastValue, githubOutput]
  rw [FailedPush.fields, decisionEnvironment_congr written]
  simp [FailedPush.explicit, outputsFromEnvironment, environmentNames, decisionEnvironment,
    lastValue, gateVariables, windowOutputs, githubOutput]

theorem countsCover_explicit (push : FailedPush) {result : Evaluation} (h : Consistent result)
    (bound : result.blockingTotal < 10 ^ 10) :
    countsCover (push.explicit result) = true ↔ result.decision = .allowedWindow := by
  have read : ∀ n ≤ result.blockingTotal, count (.text n.repr) = some n := fun n le =>
    count_repr (le.trans_lt bound)
  have partition := h.partition
  have uncovered := h.uncovered
  have le := h.matching_le
  have matching := h.matching
  rw [h.decision_iff] at matching ⊢
  simp [countsCover, FailedPush.explicit, Fields.get, read result.blockingTotal le_rfl,
    read result.matchingEntryCount le, read result.windowCovered (by omega),
    read result.uncoveredBlockingFindings (by omega), read result.rejectedCount (by omega),
    read result.overdueCount (by omega), read result.unmatchedCount (by omega),
    read result.reintroducedCount (by omega)]
  omega

theorem explicit_acceptable (push : FailedPush) {result : Evaluation} (h : Consistent result)
    (bound : result.blockingTotal < 10 ^ 10) :
    securityGateAcceptable (push.explicit result) = true ↔ result.decision = .allowedWindow := by
  have identity : immutableIdentity (push.explicit result) = true := by
    simp [immutableIdentity, FailedPush.explicit, Fields.get, isText, push.digest, push.bound,
      push.source]
  have outcome : (push.explicit result).get "outcome" = .text "failure" := by
    simp [FailedPush.explicit, Fields.get]
  constructor
  · intro accepted
    rw [← countsCover_explicit push h bound]
    by_contra counts
    simp [securityGateAcceptable, counts, outcome] at accepted
  · intro allowed
    have counts := (countsCover_explicit push h bound).mpr allowed
    have version : isEvaluatorVersion result.evaluatorVersion = true := by
      rw [h.version]
      decide
    have hex : isHexDigest result.policyDigest = true := h.policy allowed
    simp [securityGateAcceptable, counts, identity]
    simp [FailedPush.explicit, Fields.get, h.allowed_iff.mpr allowed, allowed, Decision.text,
      h.classified allowed, h.noFailure allowed, allowedClassification, outcomes, classifications,
      isText, Value.truthy, version, hex, push.digest, push.bound, push.plain, push.source, boolean]

/-- Every evaluation is written without an error; the publisher accepts what is read
back exactly when the evaluator allowed the window; and the counters are a
partition of the findings. -/
theorem publisher_agrees (host : Host) (now : Calendar.DateTime) (policyFile : Option File)
    (observations : List Mapping) (enabled : Bool) (evaluationTime : Option String)
    (sourceSha imageDigest : String) (result : Evaluation)
    (run : evaluateRemediationWindows host now policyFile observations enabled evaluationTime
      sourceSha imageDigest = .ok result) :
    (∀ (push : FailedPush) (earlier : List (String × String)),
      (∀ pair ∈ earlier, IsKey pair.1 ∧ OneLine pair.2) → result.blockingTotal < 10 ^ 10 →
      ∃ content, writeGithubOutput false (write earlier) result = (content, .ok ()) ∧
        (securityGateAcceptable (push.fields content) = true ↔
          result.decision = .allowedWindow)) ∧
    result.blockingTotal = result.findings.length ∧
    result.blockingTotal = result.windowCovered + result.rejectedCount + result.overdueCount +
      result.unmatchedCount + result.reintroducedCount := by
  have h := evaluation_consistent run
  refine ⟨?_, h.total, h.partition⟩
  intro push earlier lines bound
  have content : read (write earlier ++ write (githubOutput result)) =
      earlier ++ githubOutput result := by
    rw [write, write, ← List.flatMap_append]
    apply read_write
    intro pair mem
    cases List.mem_append.mp mem with
    | inl old => exact lines pair old
    | inr new => exact ⟨githubOutput_isKey result pair new, h.githubOutput_oneLine pair new⟩
  refine ⟨_, writeFields_eq _ h.githubOutput_oneLine, ?_⟩
  rw [fields_eq push result content]
  exact explicit_acceptable push h bound

def samplePush : FailedPush where
  imageDigest := sampleDigest
  scannedImageRef := "ghcr.io/a/b@" ++ sampleDigest
  sourceSha := "bbbbbbbbbbbbbbbbbbbbbbbbbbbbbbbbbbbbbbbb"
  digest := by decide +kernel
  bound := by decide +kernel
  plain := by decide +kernel
  source := by decide +kernel

theorem publisher_agrees_sample :
    ∃ (result : Evaluation) (content : List Char), result.decision = .allowedWindow ∧
      writeGithubOutput false [] result = (content, .ok ()) ∧
      securityGateAcceptable (samplePush.fields content) = true ∧ result.blockingTotal = 1 := by
  have run : (sampleRun [sampleObservation false]).map (fun r => (r.decision, r.blockingTotal)) =
      .ok (.allowedWindow, 1) := by decide +kernel
  obtain ⟨result, run, eq⟩ := map_eq_ok.mp run
  obtain ⟨allowed, total⟩ := Prod.mk.injEq .. ▸ eq
  obtain ⟨published, -⟩ := publisher_agrees _ _ _ _ _ _ _ _ _ run
  obtain ⟨content, written, accepts⟩ := published samplePush [] nofun (by omega)
  exact ⟨result, content, allowed, written, accepts.mpr allowed, total⟩

end OptimizrActions.Publisher
