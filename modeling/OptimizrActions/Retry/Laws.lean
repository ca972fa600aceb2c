import OptimizrActions.Retry.Result

/-! What a passed retry has established, and when its counts are evidence. -/

namespace OptimizrActions.Retry

/-! ### The paths to a passed result -/

/-- The initial scan is enough. -/
structure PassesInitially (input : RetryInput) : Prop where
  scanned : input.initialOutcome = "success"
  passing : isPassing (classification input.initialClassification) = true
  images : ∃ before after, refs input.initialRefs = some before ∧
    refs input.remediatedRefs = some after ∧ before ≠ ∅

/-- Every test of an attempted retry but those on its images. -/
structure RetrySucceeds (input : RetryInput) : Prop where
  actionable : classification input.initialClassification = .actionableVulnerability
  enabled : input.retryEnabled = true
  rebuilt : input.rebuildOutcome = "success"
  scanned : input.finalOutcome = "success"
  passing : isPassing (classification input.finalClassification) = true

/-- The two texts name two different non-empty sets of references. -/
def RefsChanged (input : RetryInput) : Prop :=
  ∃ before after, refs input.initialRefs = some before ∧ refs input.remediatedRefs = some after ∧
    before ≠ ∅ ∧ after ≠ ∅ ∧ before ≠ after

theorem evaluateRetry_initially {input : RetryInput} (h : PassesInitially input) :
    evaluateRetry input =
      ⟨classification input.initialClassification, false, .skipped,
        classification input.initialClassification, true,
        compatibilityAllowed (classification input.initialClassification) .skipped
          input.initialCounts, input.initialCounts⟩ := by
  obtain ⟨before, after, first, second, some_⟩ := h.images
  simp [evaluateRetry, first, second, h.scanned, h.passing, some_]

theorem evaluateRetry_retry {input : RetryInput} (h : RetrySucceeds input)
    (changed : RefsChanged input) :
    evaluateRetry input =
      ⟨.actionableVulnerability, true, .passed, classification input.finalClassification, true,
        false, input.finalCounts⟩ := by
  obtain ⟨before, after, first, second, someBefore, someAfter, ne⟩ := changed
  have blocked : isPassing .actionableVulnerability = false := rfl
  simp [evaluateRetry, evaluateRebuild, first, second, h.actionable, h.enabled, h.rebuilt,
    h.scanned, h.passing, someBefore, someAfter, ne, compatibilityAllowed, blocked]

theorem evaluateRebuild_passed {input : RetryInput} {before after : Finset String}
    (h : (evaluateRebuild input before after).passed = true) :
    before ≠ ∅ ∧ after ≠ ∅ ∧ before ≠ after ∧ input.rebuildOutcome = "success" ∧
      input.finalOutcome = "success" ∧
      isPassing (classification input.finalClassification) = true := by
  unfold evaluateRebuild at h
  dsimp only at h
  split_ifs at h with skipped rebuilt empty same final
  simp only [not_or] at empty
  exact ⟨empty.1, empty.2, same, not_not.mp rebuilt, final.1, final.2⟩

theorem passed_iff {input : RetryInput} :
    (evaluateRetry input).passed = true ↔
      PassesInitially input ∨ (RetrySucceeds input ∧ RefsChanged input) := by
  constructor
  · intro h
    unfold evaluateRetry at h
    split at h
    next before after first second =>
      dsimp only at h
      split_ifs at h with initially success other
      · exact .inl ⟨initially.1, initially.2.1, before, after, first, second, initially.2.2⟩
      · simp only [not_or, not_not, Bool.not_eq_true', Bool.not_eq_false] at other
        obtain ⟨someBefore, someAfter, ne, rebuilt, scanned, passing⟩ := evaluateRebuild_passed h
        exact .inr ⟨⟨other.1, other.2, rebuilt, scanned, passing⟩, before, after, first, second,
          someBefore, someAfter, ne⟩
    next => cases h
  · intro h
    cases h with
    | inl initially => rw [evaluateRetry_initially initially]
    | inr retry => rw [evaluateRetry_retry retry.1 retry.2]

theorem attempted_iff {input : RetryInput} (passed : (evaluateRetry input).passed = true) :
    (evaluateRetry input).rebuildAttempted = true ↔ RetrySucceeds input ∧ RefsChanged input := by
  constructor
  · intro attempted
    cases passed_iff.mp passed with
    | inl initially =>
      rw [evaluateRetry_initially initially] at attempted
      cases attempted
    | inr retry => exact retry
  · intro retry
    rw [evaluateRetry_retry retry.1 retry.2]

/-! ### Changed images -/

/-- The digest that a reference names: its hexadecimal part without regard to case. -/
def digestOf (ref : String) : List Char := (ref.toList.drop 7).map Text.lowerHex

/-- The two texts name non-empty sets of immutable images that differ as sets of digests. -/
def ImagesChanged (input : RetryInput) : Prop :=
  ∃ before after, refs input.initialRefs = some before ∧ refs input.remediatedRefs = some after ∧
    before ≠ ∅ ∧ after ≠ ∅ ∧ (∀ ref ∈ before ∪ after, isImageId ref = true) ∧
    before.image digestOf ≠ after.image digestOf

/-- The two texts name the same digests, some of them in another letter case. -/
def OnlyRecased (input : RetryInput) : Prop :=
  ∃ before after, refs input.initialRefs = some before ∧ refs input.remediatedRefs = some after ∧
    before ≠ after ∧ before.image digestOf = after.image digestOf

theorem refs_isImageId {raw : String} {images : Finset String} (h : refs raw = some images) :
    ∀ ref ∈ images, isImageId ref = true := by
  simp only [refs] at h
  split_ifs at h with malformed
  simp only [Option.some.injEq] at h
  subst h
  intro ref mem
  by_contra invalid
  exact malformed (List.any_eq_true.mpr ⟨ref, List.mem_toFinset.mp mem, by simpa using invalid⟩)

theorem RefsChanged.imagesChanged_iff {input : RetryInput} (h : RefsChanged input) :
    ImagesChanged input ↔ ¬OnlyRecased input := by
  obtain ⟨before, after, first, second, someBefore, someAfter, ne⟩ := h
  constructor
  · intro changed recased
    obtain ⟨b, a, hb, ha, -, -, -, differ⟩ := changed
    obtain ⟨b', a', hb', ha', -, same⟩ := recased
    cases hb.symm.trans hb'
    cases ha.symm.trans ha'
    exact differ same
  · intro distinct
    refine ⟨before, after, first, second, someBefore, someAfter, ?_, ?_⟩
    · intro ref mem
      cases Finset.mem_union.mp mem with
      | inl old => exact refs_isImageId first ref old
      | inr new => exact refs_isImageId second ref new
    · intro same
      exact distinct ⟨before, after, first, second, ne, same⟩

theorem OnlyRecased.refsChanged {input : RetryInput} (h : OnlyRecased input) :
    RefsChanged input := by
  obtain ⟨before, after, first, second, ne, same⟩ := h
  refine ⟨before, after, first, second, ?_, ?_, ne⟩
  · rintro rfl
    rw [Finset.image_empty, eq_comm, Finset.image_eq_empty] at same
    exact ne same.symm
  · rintro rfl
    rw [Finset.image_empty, Finset.image_eq_empty] at same
    exact ne same

/-- A passed retry has established its promise on every input but one kind. -/
theorem retry_promise_iff (input : RetryInput) :
    ((evaluateRetry input).passed = true → (evaluateRetry input).rebuildAttempted = true →
      RetrySucceeds input ∧ ImagesChanged input) ↔
      ¬(RetrySucceeds input ∧ OnlyRecased input) := by
  constructor
  · intro promise bad
    have changed := bad.2.refsChanged
    have passed := passed_iff.mpr (.inr ⟨bad.1, changed⟩)
    have established := promise passed ((attempted_iff passed).mpr ⟨bad.1, changed⟩)
    exact changed.imagesChanged_iff.mp established.2 bad.2
  · intro fine passed attempted
    have retry := (attempted_iff passed).mp attempted
    refine ⟨retry.1, retry.2.imagesChanged_iff.mpr ?_⟩
    intro recased
    exact fine ⟨retry.1, recased⟩

def lowerDigest : String :=
  "sha256:aaaaaaaaaaaaaaaaaaaaaaaaaaaaaaaaaaaaaaaaaaaaaaaaaaaaaaaaaaaaaaaa"

def upperDigest : String :=
  "sha256:AAAAAAAAAAAAAAAAAAAAAAAAAAAAAAAAAAAAAAAAAAAAAAAAAAAAAAAAAAAAAAAA"

/-- A retry whose rebuild returned the same digest in capitals. -/
def recasedRetry : RetryInput where
  initialOutcome := "failure"
  initialClassification := "actionable_vulnerability"
  rebuildOutcome := "success"
  finalOutcome := "success"
  finalClassification := "clean"
  retryEnabled := true
  initialRefs := lowerDigest
  remediatedRefs := upperDigest

theorem recased_passes :
    ¬∀ input : RetryInput, (evaluateRetry input).passed = true →
      (evaluateRetry input).rebuildAttempted = true → RetrySucceeds input ∧ ImagesChanged input := by
  intro claim
  have first : refs lowerDigest = some {lowerDigest} := by decide +kernel
  have second : refs upperDigest = some {upperDigest} := by decide +kernel
  have succeeds : RetrySucceeds recasedRetry := by
    constructor <;> rfl
  have same : Finset.image digestOf {lowerDigest} = Finset.image digestOf {upperDigest} := by
    decide +kernel
  have ne : ({lowerDigest} : Finset String) ≠ {upperDigest} := by decide +kernel
  have recased : OnlyRecased recasedRetry := ⟨_, _, first, second, ne, same⟩
  have retry := And.intro succeeds recased.refsChanged
  have passed := passed_iff.mpr (.inr retry)
  have established := claim recasedRetry passed ((attempted_iff passed).mpr retry)
  exact recased.refsChanged.imagesChanged_iff.mp established.2 recased

end OptimizrActions.Retry
