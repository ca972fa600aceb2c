import OptimizrActions.QualityGate.Compare
import Mathlib.Tactic.Linarith
import Mathlib.Tactic.Positivity
import Mathlib.Tactic.GCongr
import Mathlib.Algebra.Order.Field.Rat
import Mathlib.Algebra.Order.Field.Basic

/-! Where a worse metric, or a better baseline, never gives a milder verdict. -/

namespace OptimizrActions.QualityGate

section Specification

/-- The second metric is at least as bad as the first. -/
inductive Worse : Metric → Metric → Prop
  | coverage {metric worse : CoverageMetric} (tool : worse.tool = metric.tool)
      (scope : worse.scope = metric.scope) (lines : worse.linePct ≤ metric.linePct)
      (branches : worse.branchPct ≤ metric.branchPct)
      (measured : 0 < worse.branchTotal ↔ 0 < metric.branchTotal) :
      Worse (.coverage metric) (.coverage worse)
  | bundle {metric worse : BundleMetric} (tool : worse.tool = metric.tool)
      (scope : worse.scope = metric.scope) (chunks : metric.uniqueChunks ≤ worse.uniqueChunks) :
      Worse (.bundle metric) (.bundle worse)
  | duplication {metric worse : DuplicationMetric} (tool : worse.tool = metric.tool)
      (scope : worse.scope = metric.scope) (lines : metric.dupPct ≤ worse.dupPct) :
      Worse (.duplication metric) (.duplication worse)
  | security {metric worse : SecurityMetric} (tool : worse.tool = metric.tool)
      (scope : worse.scope = metric.scope) (critical : metric.critical ≤ worse.critical)
      (high : metric.high ≤ worse.high) (medium : metric.medium ≤ worse.medium)
      (low : metric.low ≤ worse.low) : Worse (.security metric) (.security worse)

/-- Each verdict of the second comparison is at least as severe as that of the first. -/
def NotMilder : Except CompareError (List Verdict) → Except CompareError (List Verdict) → Prop
  | .ok before, .ok after =>
    List.Forall₂ (fun verdict verdict' => verdict.severity ≤ verdict'.severity) before after
  | _, _ => False

def judge (current baseline : Metric) : Except CompareError (List Verdict) :=
  metricVerdicts defaultThresholds current baseline

/-- A worse metric against the baseline, and any metric against a better one. -/
structure Monotone (better baseline : Metric) : Prop where
  current : ∀ current worse, current.key = baseline.key → Worse current worse →
    NotMilder (judge current baseline) (judge worse baseline)
  baseline : ∀ current, current.key = baseline.key →
    NotMilder (judge current baseline) (judge current better)

/-- The number of chunks does not fall to zero. -/
def Divides : Metric → Metric → Prop
  | .bundle better, .bundle baseline => 0 ≤ baseline.uniqueChunks ∧
      (better.uniqueChunks = baseline.uniqueChunks ∨ baseline.uniqueChunks = 0 ∨
        0 < better.uniqueChunks)
  | _, _ => True

end Specification

section Severity

theorem Severity.green_le (severity : Severity) : .green ≤ severity := by
  cases severity <;> decide

theorem Severity.le_red (severity : Severity) : severity ≤ .red := by
  cases severity <;> decide

/-- The second delta is at least as bad as the first. -/
def Threshold.Falls (threshold : Threshold) (delta delta' : Rat) : Prop :=
  if threshold.smallerIsWorse then delta' ≤ delta else delta ≤ delta'

theorem severityForDelta_mono {threshold : Threshold} {delta delta' : Rat}
    (h : threshold.Falls delta delta') :
    severityForDelta delta threshold ≤ severityForDelta delta' threshold := by
  rw [severityForDelta, severityForDelta]
  rw [Threshold.Falls] at h
  by_cases smaller : threshold.smallerIsWorse = true
  · rw [if_pos smaller] at h ⊢
    rw [if_pos smaller]
    by_cases red : delta' ≤ threshold.red
    · rw [if_pos red]
      exact Severity.le_red _
    rw [if_neg red, if_neg (by linarith)]
    by_cases yellow : delta' ≤ threshold.yellow
    · rw [if_pos yellow]
      split_ifs <;> decide
    · rw [if_neg yellow, if_neg (by linarith)]
  · rw [if_neg smaller] at h ⊢
    rw [if_neg smaller]
    by_cases red : delta' ≥ threshold.red
    · rw [if_pos red]
      exact Severity.le_red _
    rw [if_neg red, if_neg (by linarith)]
    by_cases yellow : delta' ≥ threshold.yellow
    · rw [if_pos yellow]
      split_ifs <;> decide
    · rw [if_neg yellow, if_neg (by linarith)]

theorem severityForDelta_green {threshold : Threshold} {delta : Rat}
    (larger : threshold.smallerIsWorse = false) (yellow : delta < threshold.yellow)
    (red : delta < threshold.red) : severityForDelta delta threshold = .green := by
  rw [severityForDelta, if_neg (by simp [larger]), if_neg red.not_ge, if_neg yellow.not_ge]

/-- A ceiling on the value keeps the order of the severities under it. -/
theorem ceiling_mono {low high value value' : Rat} {severity severity' : Severity}
    (le : severity ≤ severity') (up : value ≤ value') :
    (if value ≥ high then Severity.red
      else if value ≥ low then maxSeverity [severity, .yellow] else severity) ≤
    (if value' ≥ high then Severity.red
      else if value' ≥ low then maxSeverity [severity', .yellow] else severity') := by
  by_cases red : value' ≥ high
  · rw [if_pos red]
    exact Severity.le_red _
  rw [if_neg red, if_neg (show ¬value ≥ high by linarith)]
  by_cases yellow : value' ≥ low
  · rw [if_pos yellow]
    have raised : severity ≤ maxSeverity [severity', .yellow] := le.trans (le_max_left _ _)
    split_ifs
    · exact max_le_max le (le_refl _)
    · exact raised
  · rw [if_neg yellow, if_neg (show ¬value ≥ low by linarith)]
    exact le

theorem duplicationSeverity_mono {current worse better baseline : DuplicationMetric}
    (scope : worse.scope = current.scope) (up : current.dupPct ≤ worse.dupPct)
    (down : better.dupPct ≤ baseline.dupPct) :
    duplicationSeverity current baseline defaultThresholds ≤
      duplicationSeverity worse better defaultThresholds := by
  have le {threshold : Threshold} (larger : threshold.smallerIsWorse = false) :
      severityForDelta (current.dupPct - baseline.dupPct) threshold ≤
        severityForDelta (worse.dupPct - better.dupPct) threshold := by
    apply severityForDelta_mono
    rw [Threshold.Falls, larger]
    exact sub_le_sub up down
  rw [duplicationSeverity, duplicationSeverity, scope]
  by_cases backend : current.scope = .backend
  · simp only [if_pos backend]
    exact le rfl
  · simp only [if_neg backend]
    exact ceiling_mono (le rfl) up

theorem securitySeverity_mono {current worse better baseline : SecurityMetric}
    (critical : current.critical ≤ worse.critical) (high : current.high ≤ worse.high)
    (medium : current.medium ≤ worse.medium) (critical' : better.critical ≤ baseline.critical)
    (high' : better.high ≤ baseline.high) (medium' : better.medium ≤ baseline.medium) :
    securitySeverity current baseline ≤ securitySeverity worse better := by
  rw [securitySeverity, securitySeverity]
  by_cases red : worse.critical > better.critical ∨ worse.high > better.high
  · rw [if_pos red]
    exact Severity.le_red _
  rw [not_or] at red
  rw [if_neg (not_or.mpr red), if_neg (not_or.mpr ⟨by linarith [red.1], by linarith [red.2]⟩)]
  by_cases yellow : worse.medium > better.medium
  · rw [if_pos yellow]
    split_ifs <;> decide
  · rw [if_neg yellow, if_neg (by linarith)]

end Severity

section Bundle

variable {chunks chunks' base base' : Rat}

theorem deltaPct_mono_left (nonneg : 0 ≤ base) (h : chunks ≤ chunks') :
    deltaPct chunks base ≤ deltaPct chunks' base := by
  rw [deltaPct, deltaPct]
  split_ifs with zero
  · exact le_refl _
  · gcongr

/-- Against a smaller baseline that is not zero, growth is a larger part of it. -/
theorem deltaPct_mono_right (pos : 0 < base') (h : base' ≤ base) (grown : base ≤ chunks) :
    deltaPct chunks base ≤ deltaPct chunks base' := by
  rw [deltaPct, deltaPct, if_neg (by linarith), if_neg (by linarith)]
  have : 0 ≤ chunks - base := by linarith
  gcongr
  linarith

theorem deltaPct_nonpos (nonneg : 0 ≤ base) (h : chunks ≤ base) : deltaPct chunks base ≤ 0 := by
  rw [deltaPct]
  split_ifs with zero
  · exact le_refl _
  · have : (chunks - base) / base ≤ 0 := div_nonpos_of_nonpos_of_nonneg (by linarith) nonneg
    linarith

def bundleSeverity (chunks base : Rat) : Severity :=
  severityForDelta (deltaPct chunks base) defaultThresholds.bundleUniqueChunks

theorem bundleSeverity_of_nonpos (h : deltaPct chunks base ≤ 0) :
    bundleSeverity chunks base = .green := by
  refine severityForDelta_green rfl (h.trans_lt ?_) (h.trans_lt ?_)
  · exact show (0 : Rat) < 5 by norm_num
  · exact show (0 : Rat) < 10 by norm_num

theorem bundleSeverity_mono_left (nonneg : 0 ≤ base) (h : chunks ≤ chunks') :
    bundleSeverity chunks base ≤ bundleSeverity chunks' base :=
  severityForDelta_mono (deltaPct_mono_left nonneg h)

theorem bundleSeverity_mono_right (nonneg : 0 ≤ base) (h : base' ≤ base)
    (divides : base' = base ∨ base = 0 ∨ 0 < base') :
    bundleSeverity chunks base ≤ bundleSeverity chunks base' := by
  rcases divides with rfl | rfl | pos
  · exact le_refl _
  · rw [bundleSeverity_of_nonpos (by rw [deltaPct, if_pos rfl])]
    exact Severity.green_le _
  · by_cases grown : base ≤ chunks
    · exact severityForDelta_mono (deltaPct_mono_right pos h grown)
    · rw [bundleSeverity_of_nonpos (deltaPct_nonpos nonneg (by linarith))]
      exact Severity.green_le _

/-- Twice as many chunks is red, also where both numbers are negative. -/
theorem bundleSeverity_double (nonzero : base ≠ 0) : bundleSeverity (base + base) base = .red := by
  have pct : deltaPct (base + base) base = 100 := by
    rw [deltaPct, if_neg nonzero, add_sub_cancel_right, div_self nonzero]
    norm_num
  rw [bundleSeverity, pct]
  decide

theorem nonneg_of_mono_left
    (h : ∀ chunks chunks', chunks ≤ chunks' →
      bundleSeverity chunks base ≤ bundleSeverity chunks' base) : 0 ≤ base := by
  by_contra negative
  have le := h (base + base) base (by linarith)
  rw [bundleSeverity_double (by linarith), bundleSeverity_of_nonpos] at le
  · exact absurd le (by decide)
  · rw [deltaPct, sub_self, zero_div, zero_mul, ite_self]

theorem divides_of_mono_right (nonneg : 0 ≤ base) (below : base' ≤ base)
    (h : ∀ chunks, bundleSeverity chunks base ≤ bundleSeverity chunks base') :
    base' = base ∨ base = 0 ∨ 0 < base' := by
  by_contra falls
  rw [not_or, not_or] at falls
  obtain ⟨ne, nonzero, notPos⟩ := falls
  have le := h (base + base)
  rw [bundleSeverity_double nonzero, bundleSeverity_of_nonpos] at le
  · exact absurd le (by decide)
  · rw [deltaPct]
    split_ifs with zero
    · exact le_refl _
    · have : (base + base - base') / base' ≤ 0 :=
        div_nonpos_of_nonneg_of_nonpos (by linarith) (by linarith)
      linarith

end Bundle

section Verdicts

variable {current worse better baseline : Metric}

theorem Worse.refl (metric : Metric) : Worse metric metric := by
  cases metric with
  | coverage => exact .coverage rfl rfl (le_refl _) (le_refl _) Iff.rfl
  | bundle => exact .bundle rfl rfl (le_refl _)
  | duplication => exact .duplication rfl rfl (le_refl _)
  | security => exact .security rfl rfl (le_refl _) (le_refl _) (le_refl _) (le_refl _)

theorem branchVerdict_mono {current worse better baseline : CoverageMetric}
    (scope : worse.scope = current.scope) (branches : worse.branchPct ≤ current.branchPct)
    (measured : 0 < worse.branchTotal ↔ 0 < current.branchTotal)
    (branches' : baseline.branchPct ≤ better.branchPct)
    (measured' : 0 < baseline.branchTotal ↔ 0 < better.branchTotal) :
    List.Forall₂ (fun verdict verdict' => verdict.severity ≤ verdict'.severity)
      (branchVerdict current baseline defaultThresholds).toList
      (branchVerdict worse better defaultThresholds).toList := by
  have same : (current.scope ≠ .backend ∨ current.branchTotal ≤ 0 ∨ baseline.branchTotal ≤ 0) ↔
      (worse.scope ≠ .backend ∨ worse.branchTotal ≤ 0 ∨ better.branchTotal ≤ 0) := by
    rw [scope, ← not_lt, ← not_lt, ← not_lt, ← not_lt, measured, measured']
  rw [branchVerdict, branchVerdict]
  by_cases none : current.scope ≠ .backend ∨ current.branchTotal ≤ 0 ∨ baseline.branchTotal ≤ 0
  · rw [if_pos none, if_pos (same.mp none)]
    exact .nil
  · rw [if_neg none, if_neg (mt same.mpr none)]
    have le : severityForDelta (current.branchPct - baseline.branchPct)
        defaultThresholds.coverageBackendBranches ≤
        severityForDelta (worse.branchPct - better.branchPct)
          defaultThresholds.coverageBackendBranches := by
      apply severityForDelta_mono
      exact sub_le_sub branches branches'
    exact .cons le .nil

theorem coverageVerdict_mono {current worse better baseline : CoverageMetric}
    (scope : worse.scope = current.scope) (lines : worse.linePct ≤ current.linePct)
    (lines' : baseline.linePct ≤ better.linePct) :
    (coverageVerdict current baseline defaultThresholds).severity ≤
      (coverageVerdict worse better defaultThresholds).severity := by
  simp only [coverageVerdict, scope]
  apply severityForDelta_mono
  split_ifs
  · exact sub_le_sub lines lines'
  · exact sub_le_sub lines lines'

/-- All but the verdict on bundles follow both values. -/
theorem judge_mono (key : current.key = baseline.key) (up : Worse current worse)
    (down : Worse better baseline)
    (bundles : ∀ metric metric' base base', current = .bundle metric → worse = .bundle metric' →
      baseline = .bundle base → better = .bundle base' →
      bundleSeverity metric.uniqueChunks base.uniqueChunks ≤
        bundleSeverity metric'.uniqueChunks base'.uniqueChunks) :
    NotMilder (judge current baseline) (judge worse better) := by
  have kind := congrArg Key.kind key
  cases up with
  | @coverage metric metric' tool scope lines branches measured =>
    cases down with
    | @coverage base' base tool' scope' lines' branches' measured' =>
      exact .cons (coverageVerdict_mono scope lines lines')
        (branchVerdict_mono scope branches measured branches' measured')
    | _ => cases kind
  | @bundle metric metric' tool scope chunks =>
    cases down with
    | @bundle base' base tool' scope' chunks' =>
      exact .cons (bundles _ _ _ _ rfl rfl rfl rfl) .nil
    | _ => cases kind
  | @duplication metric metric' tool scope lines =>
    cases down with
    | @duplication base' base tool' scope' lines' =>
      exact .cons (duplicationSeverity_mono scope lines lines') .nil
    | _ => cases kind
  | @security metric metric' tool scope critical high medium low =>
    cases down with
    | @security base' base tool' scope' critical' high' medium' low' =>
      have same : metric.tool = base.tool := congrArg Key.tool key
      have before : ¬metric.tool ≠ base.tool := not_not.mpr same
      have after : ¬metric'.tool ≠ base'.tool := by rw [tool, same, tool']; exact not_not.mpr rfl
      rw [judge, metricVerdicts, securityVerdict, if_neg before]
      rw [judge, metricVerdicts, securityVerdict, if_neg after]
      exact .cons (securitySeverity_mono critical high medium critical' high' medium') .nil
    | _ => cases kind

/-- The verdict follows both values, except where a baseline of chunks falls to zero. -/
theorem monotone_iff (h : Worse better baseline) :
    Monotone better baseline ↔ Divides better baseline := by
  constructor
  · intro monotone
    cases h with
    | @bundle base' base tool scope chunks =>
      let at_ (chunks : Rat) : BundleMetric := { base with uniqueChunks := chunks }
      have key (chunks : Rat) : (Metric.bundle (at_ chunks)).key = (Metric.bundle base).key := rfl
      have nonneg : 0 ≤ base.uniqueChunks := by
        refine nonneg_of_mono_left fun chunks chunks' le => ?_
        have step := monotone.current (.bundle (at_ chunks)) (.bundle (at_ chunks')) (key chunks)
          (.bundle rfl rfl le)
        exact (List.forall₂_cons.mp step).1
      refine ⟨nonneg, divides_of_mono_right nonneg chunks fun chunks => ?_⟩
      have step := monotone.baseline (.bundle (at_ chunks)) (key chunks)
      exact (List.forall₂_cons.mp step).1
    | coverage => trivial
    | duplication => trivial
    | security => trivial
  · intro divides
    constructor
    · intro current worse key up
      refine judge_mono key up (Worse.refl baseline) ?_
      intro metric metric' base base' eq eq' same same'
      subst eq eq' same'
      cases same
      cases up with
      | bundle tool scope chunks =>
        cases h with
        | bundle => exact bundleSeverity_mono_left divides.1 chunks
    · intro current key
      refine judge_mono key (Worse.refl current) h ?_
      intro metric metric' base base' eq eq' same same'
      subst eq same same'
      cases eq'
      cases h with
      | bundle tool scope chunks => exact bundleSeverity_mono_right divides.1 chunks divides.2

/-- Ten chunks in the baseline, and eight in a better one. -/
theorem monotone_chunks :
    Worse (.bundle ⟨.next, .frontendAdmin, 8, 1, 8⟩) (.bundle ⟨.next, .frontendAdmin, 10, 1, 10⟩) ∧
      (Monotone (.bundle ⟨.next, .frontendAdmin, 8, 1, 8⟩)
          (.bundle ⟨.next, .frontendAdmin, 10, 1, 10⟩) ↔
        Divides (.bundle ⟨.next, .frontendAdmin, 8, 1, 8⟩)
          (.bundle ⟨.next, .frontendAdmin, 10, 1, 10⟩)) :=
  have worse : Worse (.bundle ⟨.next, .frontendAdmin, 8, 1, 8⟩)
      (.bundle ⟨.next, .frontendAdmin, 10, 1, 10⟩) := .bundle rfl rfl (by decide)
  ⟨worse, monotone_iff worse⟩

/-- Two chunks are red against one, and green against none. -/
theorem not_monotone_zero :
    Worse (.bundle ⟨.next, .frontendAdmin, 0, 1, 0⟩) (.bundle ⟨.next, .frontendAdmin, 1, 1, 1⟩) ∧
      ¬Monotone (.bundle ⟨.next, .frontendAdmin, 0, 1, 0⟩)
        (.bundle ⟨.next, .frontendAdmin, 1, 1, 1⟩) := by
  refine ⟨.bundle rfl rfl (by decide), fun monotone => ?_⟩
  have step := monotone.baseline (.bundle ⟨.next, .frontendAdmin, 2, 1, 2⟩) rfl
  exact absurd (List.forall₂_cons.mp step).1 (by decide +kernel)

end Verdicts

end OptimizrActions.QualityGate
