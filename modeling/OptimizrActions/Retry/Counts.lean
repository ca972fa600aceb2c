import OptimizrActions.Retry.Laws

/-! Counts in the environment: when the decision fails closed on them. -/

namespace OptimizrActions.Retry

/-- May the candidate proceed, by itself or through the compatibility branch? -/
def promotable (result : RetryResult) : Bool := result.passed || result.compatibilityAllowed

/-- The scan whose counts the result rests on. -/
def decidingScan (result : RetryResult) : Scan :=
  if result.rebuildResult = .skipped then .initial else .final

/-- A clean scan has found nothing, an unfixed warning nothing that blocks. -/
def Contradicts (c : Classification) (key : CountKey) (value : Int) : Prop :=
  value ≠ 0 ∧ (c = .clean ∨ c = .unfixedWarning ∧ key ≠ .unfixedVulnerability)

/-- The count of a variable that is set. -/
def IsSet (environ : Environ) (scan : Scan) (key : CountKey) (raw : String) : Prop :=
  environ (countName scan key) = some raw

/-- What the evaluator promises about the counts of an environment. -/
structure FailsClosed (environ : Environ) : Prop where
  zero : promotable (main environ) = true →
    ∀ key ∈ [CountKey.fixableVulnerability, .misconfiguration, .secret], ∀ raw,
      IsSet environ (decidingScan (main environ)) key raw → Text.int? raw = some 0
  malformed : ∀ scan key raw, IsSet environ scan key raw →
    (Text.int? raw = none ∨ ∃ n < 0, Text.int? raw = some n) →
    envCount environ (countName scan key) ≠ 0
  contradiction : promotable (main environ) = true →
    ∀ key raw value, IsSet environ (decidingScan (main environ)) key raw →
      Text.int? raw = some value → ¬Contradicts (main environ).finalResult key value

/-- The counts of one scan agree with its classification. -/
def Agrees (environ : Environ) (scan : Scan) (c : Classification) : Prop :=
  ∀ key raw value, IsSet environ scan key raw → Text.int? raw = some value →
    ¬Contradicts c key value

/-- Every count is a natural number, and a scan that passes by its classification
has counts that agree with it. -/
structure SoundCounts (environ : Environ) : Prop where
  wellFormed : ∀ scan key raw, IsSet environ scan key raw → ∃ n : Nat, Text.int? raw = some (n : Int)
  initial : PassesInitially (retryInput environ) →
    Agrees environ .initial (classification (retryInput environ).initialClassification)
  final : RetrySucceeds (retryInput environ) ∧ RefsChanged (retryInput environ) →
    Agrees environ .final (classification (retryInput environ).finalClassification)

theorem envCount_of_isSet {environ : Environ} {scan : Scan} {key : CountKey} {raw : String}
    {n : Nat} (set_ : IsSet environ scan key raw) (h : Text.int? raw = some (n : Int)) :
    envCount environ (countName scan key) = n := by
  have value : (environ (countName scan key)).getD "0" = raw := by rw [set_, Option.getD_some]
  simp [envCount, value, h]

theorem compatibilityAllowed_iff {c : Classification} {r : RebuildResult} {counts : Counts} :
    compatibilityAllowed c r counts = true ↔ c = .unfixedWarning ∧ (r = .skipped ∨ r = .noChange) ∧
      counts.fixableVulnerability = 0 ∧ 0 < counts.unfixedVulnerability ∧
      counts.misconfiguration = 0 ∧ counts.secret = 0 := by
  simp [compatibilityAllowed, and_assoc]

theorem evaluateRebuild_not_compatible {input : RetryInput} {before after : Finset String}
    (actionable : classification input.initialClassification = .actionableVulnerability) :
    (evaluateRebuild input before after).compatibilityAllowed = false := by
  unfold evaluateRebuild
  dsimp only
  split_ifs <;> simp [compatibilityAllowed, actionable]

/-- Compatibility is granted to an initial unfixed warning only, on its own counts. -/
theorem compatible {input : RetryInput} (h : (evaluateRetry input).compatibilityAllowed = true) :
    (evaluateRetry input).rebuildResult = .skipped ∧
      input.initialCounts.fixableVulnerability = 0 ∧ input.initialCounts.misconfiguration = 0 ∧
      input.initialCounts.secret = 0 ∧ (evaluateRetry input).finalResult = .unfixedWarning := by
  unfold evaluateRetry at h ⊢
  split at h
  next before after _ _ =>
    dsimp only at h ⊢
    split_ifs at h ⊢ with initially success other
    · obtain ⟨warning, -, fixable, -, misconfiguration, secret⟩ := compatibilityAllowed_iff.mp h
      exact ⟨rfl, fixable, misconfiguration, secret, warning⟩
    · obtain ⟨warning, -, fixable, -, misconfiguration, secret⟩ := compatibilityAllowed_iff.mp h
      exact ⟨rfl, fixable, misconfiguration, secret, warning⟩
    · simp only [not_or, not_not] at other
      rw [evaluateRebuild_not_compatible other.1] at h
      cases h
  next =>
    rw [compatibilityAllowed_iff] at h
    cases h.1

theorem envCount_eq_zero {environ : Environ} {scan : Scan} {key : CountKey} {raw : String}
    {n : Nat} (set_ : IsSet environ scan key raw) (h : Text.int? raw = some (n : Int))
    (zero : envCount environ (countName scan key) = 0) : Text.int? raw = some 0 := by
  rw [envCount_of_isSet set_ h] at zero
  rw [h, zero]

/-- A well-formed count of a scan that agrees with a passing classification is zero
unless it counts unfixed vulnerabilities. -/
theorem Agrees.eq_zero {environ : Environ} {scan : Scan} {c : Classification} {key : CountKey}
    {raw : String} {n : Nat} (h : Agrees environ scan c) (passing : isPassing c = true)
    (blocking : key ≠ .unfixedVulnerability) (set_ : IsSet environ scan key raw)
    (value : Text.int? raw = some (n : Int)) : Text.int? raw = some 0 := by
  by_contra nonzero
  apply h key raw n set_ value
  constructor
  · intro zero
    rw [zero] at value
    exact nonzero value
  · simp only [isPassing, List.mem_cons, List.not_mem_nil, or_false, decide_eq_true_eq] at passing
    exact passing.imp id fun warning => ⟨warning, blocking⟩

/-- The deciding scan of a promotable result agrees with the result's classification,
or the result rests on the compatibility branch. -/
theorem promotable_cases {environ : Environ} (h : promotable (main environ) = true) :
    (PassesInitially (retryInput environ) ∧ decidingScan (main environ) = .initial ∧
        (main environ).finalResult = classification (retryInput environ).initialClassification) ∨
      ((RetrySucceeds (retryInput environ) ∧ RefsChanged (retryInput environ)) ∧
        decidingScan (main environ) = .final ∧
        (main environ).finalResult = classification (retryInput environ).finalClassification) ∨
      (main environ).compatibilityAllowed = true := by
  rw [promotable, Bool.or_eq_true] at h
  cases h with
  | inl passed =>
    cases passed_iff.mp passed with
    | inl initially =>
      refine .inl ⟨initially, ?_, ?_⟩ <;>
        simp [decidingScan, main, evaluateRetry_initially initially]
    | inr retry =>
      refine .inr (.inl ⟨retry, ?_, ?_⟩) <;>
        simp [decidingScan, main, evaluateRetry_retry retry.1 retry.2]
  | inr compatible => exact .inr (.inr compatible)

theorem SoundCounts.blocking_zero {environ : Environ} (h : SoundCounts environ)
    (ok : promotable (main environ) = true) {key : CountKey} {raw : String}
    (blocking : key ≠ .unfixedVulnerability)
    (set_ : IsSet environ (decidingScan (main environ)) key raw) : Text.int? raw = some 0 := by
  obtain ⟨n, value⟩ := h.wellFormed _ _ _ set_
  obtain initially | retry | allowed := promotable_cases ok
  · obtain ⟨initially, scan, -⟩ := initially
    rw [scan] at set_
    exact (h.initial initially).eq_zero initially.passing blocking set_ value
  · obtain ⟨retry, scan, -⟩ := retry
    rw [scan] at set_
    exact (h.final retry).eq_zero retry.1.passing blocking set_ value
  · obtain ⟨skipped, fixable, misconfiguration, secret, -⟩ := compatible allowed
    have scan : decidingScan (main environ) = .initial := by simp [decidingScan, main, skipped]
    rw [scan] at set_
    apply envCount_eq_zero set_ value
    cases key with
    | fixableVulnerability => exact fixable
    | unfixedVulnerability => exact absurd rfl blocking
    | misconfiguration => exact misconfiguration
    | secret => exact secret

/-- A clean initial scan that reports fixable vulnerabilities, and one whose count of
secrets is not a number. -/
def contradictoryEnviron : Environ
  | "INITIAL_OUTCOME" => some "success"
  | "INITIAL_CLASSIFICATION" => some "clean"
  | "INITIAL_REFS" => some lowerDigest
  | "INITIAL_FIXABLE_VULNERABILITY_COUNT" => some "7"
  | "INITIAL_SECRET_COUNT" => some "many"
  | _ => none

end OptimizrActions.Retry
