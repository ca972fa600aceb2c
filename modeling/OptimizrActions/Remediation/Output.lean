import Mathlib
import OptimizrActions.Lib.KeyValue
import OptimizrActions.Remediation.WindowLaws

/-! The evaluation as step outputs, and why every value of it is one line. -/

namespace OptimizrActions.Remediation

open Calendar KeyValue

/-- The fields in the order they are written. -/
def githubOutput (result : Evaluation) : List (String × String) :=
  [("remediation_window_allowed", if result.remediationWindowAllowed then "true" else "false"),
    ("remediation_state", result.remediationState.text),
    ("remediation_window_decision", result.decision.text),
    ("remediation_window_classification", result.classification),
    ("remediation_window_count", toString result.matchingEntryCount),
    ("remediation_window_blocking_total", toString result.blockingTotal),
    ("remediation_window_covered", toString result.windowCovered),
    ("remediation_window_uncovered", toString result.uncoveredBlockingFindings),
    ("remediation_window_rejected_count", toString result.rejectedCount),
    ("remediation_window_overdue_count", toString result.overdueCount),
    ("remediation_window_unmatched_count", toString result.unmatchedCount),
    ("remediation_window_reintroduced_count", toString result.reintroducedCount),
    ("remediation_window_due_soon_count", toString result.dueSoonCount),
    ("nearest_deadline", result.nearestDeadline),
    ("policy_digest", result.policyDigest),
    ("evaluator_version", result.evaluatorVersion),
    ("remediation_window_failure_reason", result.failureReason),
    ("remediation_window_source_sha", result.sourceSha),
    ("remediation_window_image_digest", result.imageDigest)]

/-- The loop over the fields; what was written before an error stays in the file. -/
def writeFields (content : List Char) : List (String × String) → List Char × Except String Unit
  | [] => (content, .ok ())
  | (key, text) :: rest =>
    if OneLine text then writeFields (content ++ writeLine (key, text)) rest
    else (content, .error ("github output field " ++ key ++ " contains a newline"))

def writeGithubOutput (symlink : Bool) (content : List Char) (result : Evaluation) :
    List Char × Except String Unit :=
  if symlink then (content, .error "github output must not be a symlink")
  else writeFields content (githubOutput result)

theorem writeFields_eq {fields : List (String × String)} (content : List Char)
    (h : ∀ field ∈ fields, OneLine field.2) :
    writeFields content fields = (content ++ write fields, .ok ()) := by
  induction fields generalizing content with
  | nil => simp [writeFields, write]
  | cons field rest ih =>
    rw [writeFields, if_pos (h field List.mem_cons_self),
      ih _ fun other mem => h other (List.mem_cons_of_mem _ mem)]
    simp [write]

/-! ### One-line texts -/

theorem oneLine_of_all {s : String} {p : Char → Bool} (h : s.toList.all p = true)
    (feed : p '\n' = false) (carriage : p '\r' = false) : OneLine s := by
  rw [List.all_eq_true] at h
  constructor
  · intro mem
    exact absurd (h _ mem) (by simp [feed])
  · intro mem
    exact absurd (h _ mem) (by simp [carriage])

theorem oneLine_repr (n : Nat) : OneLine n.repr := by
  apply oneLine_of_all (p := Char.isDigit) _ (by decide) (by decide)
  rw [Nat.toList_repr, List.all_eq_true]
  intro c mem
  exact Nat.isDigit_of_mem_toDigits (by decide) (by decide) mem

theorem oneLine_hexText {isDigit : Char → Bool} {length : Nat} {s : String}
    (h : Text.hexText isDigit length s.toList = true) (feed : isDigit '\n' = false)
    (carriage : isDigit '\r' = false) : OneLine s := by
  rw [Text.hexText, Bool.and_eq_true] at h
  exact oneLine_of_all h.2 feed carriage

theorem oneLine_sha256Text {s : String} (h : Text.sha256Text Text.isHex s = true) : OneLine s := by
  rw [Text.sha256Text, Bool.and_eq_true, List.isPrefixOf_iff_prefix] at h
  obtain ⟨⟨rest, eq⟩, hex⟩ := h
  have tail : s.toList.drop 7 = rest := by simp [← eq]
  rw [tail, Text.hexText, Bool.and_eq_true, List.all_eq_true] at hex
  apply oneLine_of_all (p := fun c => "sha256:".toList.contains c || Text.isHex c) _ (by decide)
    (by decide)
  rw [← eq, List.all_append, Bool.and_eq_true]
  constructor
  · decide
  · rw [List.all_eq_true]
    intro c mem
    simp [hex.2 c mem]

theorem digit_ne {c : Char} (n : Nat) (positive : 0 < c.toNat) (low : c.toNat < 48) :
    c ≠ digit n := by
  intro eq
  have value := congrArg Char.toNat eq
  rw [digit, Char.ofNat] at value
  split at value
  next =>
    have : c.toNat = 48 + n := value
    omega
  next =>
    have : c.toNat = 0 := value
    omega

theorem oneLine_format (t : DateTime) : OneLine (format t) := by
  have feed : ∀ n, '\n' ≠ digit n := fun n => digit_ne n (by decide) (by decide)
  have carriage : ∀ n, '\r' ≠ digit n := fun n => digit_ne n (by decide) (by decide)
  simp [OneLine, format, feed, carriage]

end OptimizrActions.Remediation
