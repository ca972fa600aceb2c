import OptimizrActions.Lib.Gather
import OptimizrActions.QualityGate.Gate
import OptimizrActions.QualityGate.Relocation

/-! What a green report says about the keys of the baseline. -/

namespace OptimizrActions.QualityGate

section Specification

variable (toFloat : Json → Except PyError Rat) (artifactsDir : Root) (tree : List Artifact)

/-- The metric is what one of the artifacts was parsed to. -/
def Parsed (metric : Metric) : Prop :=
  ∃ artifact ∈ jsonFiles tree,
    collectOne toFloat (scopeOf (asPosix artifactsDir artifact.path)) artifact = .ok (some metric)

/-- The verdicts on the metric, which the baseline knows. -/
def Verdicts (baseline : List Metric) (metric : Metric) (verdicts : List Verdict) : Prop :=
  ∃ previous, baselineMetric baseline metric.key = some previous ∧
    metricVerdicts defaultThresholds metric previous = .ok verdicts

/-- The report has the verdicts on a parsed metric of this key. -/
def Judged (baseline : List Metric) (report : Report) (key : Key) : Prop :=
  ∃ metric verdicts, Parsed toFloat artifactsDir tree metric ∧ metric.key = key ∧
    Verdicts baseline metric verdicts ∧ verdicts ≠ [] ∧ ∀ verdict ∈ verdicts, verdict ∈ report.verdicts

/-- A green report judges every key of the baseline. -/
def Sound (baseline : List Metric) : Prop :=
  ∀ report, gateReport toFloat artifactsDir tree baseline = .ok report → report.overall = .green →
    ∀ metric ∈ baseline, Judged toFloat artifactsDir tree baseline report metric.key

/-- The order of the metrics does not change the overall verdict. -/
def OrderFree (baseline : List Metric) : Prop :=
  ∀ metrics metrics' : List Metric, metrics.Perm metrics' →
    (compare metrics baseline defaultThresholds).map Report.overall =
      (compare metrics' baseline defaultThresholds).map Report.overall

/-- Some metrics are found, all of them known to the baseline and green, but no artifact is parsed
to a metric of one of its keys. -/
def Disappears (baseline : List Metric) : Prop :=
  ∃ metrics, collectMetrics toFloat artifactsDir tree = .ok metrics ∧ metrics ≠ [] ∧
    (∀ metric ∈ metrics, ∃ verdicts, Verdicts baseline metric verdicts ∧
      ∀ verdict ∈ verdicts, verdict.severity = .green) ∧
    ∃ metric ∈ baseline, ∀ other, Parsed toFloat artifactsDir tree other → other.key ≠ metric.key

end Specification

section Severity

theorem foldl_max_le_iff {value bound : Severity} {values : List Severity} :
    values.foldl max value ≤ bound ↔ value ≤ bound ∧ ∀ other ∈ values, other ≤ bound := by
  induction values generalizing value with
  | nil => simp
  | cons other values ih =>
    rw [List.foldl_cons, ih, max_le_iff, List.forall_mem_cons, and_assoc]

theorem maxSeverity_le_iff {values : List Severity} {bound : Severity} (nonempty : values ≠ []) :
    maxSeverity values ≤ bound ↔ ∀ value ∈ values, value ≤ bound := by
  cases values with
  | nil => exact absurd rfl nonempty
  | cons value values => rw [maxSeverity, foldl_max_le_iff, List.forall_mem_cons]

theorem maxSeverity_perm {values values' : List Severity} (perm : values.Perm values') :
    maxSeverity values = maxSeverity values' := by
  by_cases empty : values = []
  · subst empty
    rw [List.nil_perm.mp perm]
  · have nonempty : values' ≠ [] := fun none => empty (by rw [none] at perm; exact perm.eq_nil)
    refine eq_of_forall_ge_iff fun bound => ?_
    rw [maxSeverity_le_iff empty, maxSeverity_le_iff nonempty]
    exact ⟨fun all value mem => all value (perm.mem_iff.mpr mem),
      fun all value mem => all value (perm.mem_iff.mp mem)⟩

theorem maxSeverity_eq_green_iff {values : List Severity} :
    maxSeverity values = .green ↔ values ≠ [] ∧ ∀ value ∈ values, value = .green := by
  by_cases empty : values = []
  · subst empty
    exact iff_of_false (by decide) fun both => both.1 rfl
  · have bottom (severity : Severity) : severity ≤ .green ↔ severity = .green := by
      cases severity <;> decide
    rw [← bottom, maxSeverity_le_iff empty]
    simp only [bottom, ne_eq, empty, not_false_eq_true, true_and]

end Severity

section Collect

variable {toFloat : Json → Except PyError Rat} {artifactsDir : Root} {tree : List Artifact}
  {metrics : List Metric} {metric : Metric}

theorem mem_of_mem_deduplicate (h : metric ∈ deduplicate metrics) : metric ∈ metrics := by
  obtain ⟨entry, mem, rfl⟩ := List.mem_map.mp h
  have old := Dict.mem_of_mem_ofList ((List.mem_insertionSort _).mp mem)
  obtain ⟨source, there, eq⟩ := List.mem_map.mp old
  rw [← eq]
  exact there

theorem key_mem_deduplicate (h : metric ∈ metrics) :
    ∃ other ∈ deduplicate metrics, other.key = metric.key := by
  obtain ⟨other, mem⟩ := Dict.key_mem_ofList
    (List.mem_map.mpr ⟨metric, h, rfl⟩ :
      (metric.key, metric) ∈ metrics.map fun metric => (metric.key, metric))
  refine ⟨other, List.mem_map.mpr ⟨_, (List.mem_insertionSort _).mpr mem, rfl⟩, ?_⟩
  obtain ⟨same, -, eq⟩ := List.mem_map.mp (Dict.mem_of_mem_ofList mem)
  rw [← (Prod.mk.inj eq).2]
  exact (Prod.mk.inj eq).1

/-- The metrics are those of the artifacts, one for each key. -/
theorem collectMetrics_eq_ok (h : collectMetrics toFloat artifactsDir tree = .ok metrics) :
    (∀ metric ∈ metrics, Parsed toFloat artifactsDir tree metric) ∧
      ∀ metric, Parsed toFloat artifactsDir tree metric → ∃ other ∈ metrics, other.key = metric.key := by
  obtain ⟨found, read, eq⟩ := bind_eq_ok.mp h
  cases eq
  have each := mapM_eq_ok_iff.mp read
  constructor
  · intro metric mem
    obtain ⟨value, there, rfl⟩ := List.mem_filterMap.mp (mem_of_mem_deduplicate mem)
    exact mem_of_forall₂ each there
  · rintro metric ⟨artifact, mem, parsed⟩
    have there := (exists_mem_iff_of_forall₂ each
      (p := fun artifact => collectOne toFloat (scopeOf (asPosix artifactsDir artifact.path)) artifact =
        .ok (some metric)) (q := fun value => value = some metric)
      fun artifact value one => by rw [one, Except.ok.injEq]).mp ⟨artifact, mem, parsed⟩
    obtain ⟨value, there, rfl⟩ := there
    exact key_mem_deduplicate (List.mem_filterMap.mpr ⟨_, there, rfl⟩)

end Collect

section Compare

variable {metrics baseline : List Metric} {thresholds : Thresholds}

theorem key_of_baselineMetric {key : Key} {previous : Metric}
    (h : baselineMetric baseline key = some previous) : previous.key = key := by
  simpa using List.find?_some h

theorem metricVerdicts_ok {current previous : Metric} (key : previous.key = current.key) :
    ∃ verdicts, metricVerdicts thresholds current previous = .ok verdicts ∧ verdicts ≠ [] := by
  have kind := congrArg Key.kind key
  cases current with
  | coverage current =>
    cases previous with
    | coverage previous => exact ⟨_, rfl, List.cons_ne_nil _ _⟩
    | _ => cases kind
  | bundle current =>
    cases previous with
    | bundle previous => exact ⟨_, rfl, List.cons_ne_nil _ _⟩
    | _ => cases kind
  | duplication current =>
    cases previous with
    | duplication previous => exact ⟨_, rfl, List.cons_ne_nil _ _⟩
    | _ => cases kind
  | security current =>
    cases previous with
    | security previous =>
      have tool : ¬current.tool ≠ previous.tool := not_not.mpr (congrArg Key.tool key).symm
      cases verdict : securityVerdict current previous with
      | ok verdict' => exact ⟨[verdict'], by rw [metricVerdicts, verdict]; rfl, List.cons_ne_nil _ _⟩
      | error e =>
        rw [securityVerdict, if_neg tool] at verdict
        cases verdict
    | _ => cases kind

theorem verdictsOf_ok (current : Metric) :
    ∃ verdicts, verdictsOf baseline thresholds current = .ok verdicts := by
  rw [verdictsOf]
  cases known : baselineMetric baseline current.key with
  | none => exact ⟨_, rfl⟩
  | some previous =>
    obtain ⟨verdicts, eq, -⟩ := @metricVerdicts_ok thresholds _ _ (key_of_baselineMetric known)
    exact ⟨verdicts, eq⟩

/-- A comparison never fails. -/
theorem compare_eq_ok (metrics baseline : List Metric) (thresholds : Thresholds) :
    ∃ verdicts, metrics.mapM (verdictsOf baseline thresholds) = .ok verdicts ∧
      compare metrics baseline thresholds =
        .ok ⟨verdicts.flatten, maxSeverity (verdicts.flatten.map Verdict.severity)⟩ := by
  obtain ⟨verdicts, eq⟩ := exists_mapM fun current (_ : current ∈ metrics) =>
    @verdictsOf_ok baseline thresholds current
  refine ⟨verdicts, eq, ?_⟩
  rw [compare, eq]
  rfl

theorem orderFree (baseline : List Metric) : OrderFree baseline := by
  intro metrics metrics' perm
  obtain ⟨verdicts, read, eq⟩ := compare_eq_ok metrics baseline defaultThresholds
  obtain ⟨verdicts', read', eq'⟩ := compare_eq_ok metrics' baseline defaultThresholds
  obtain ⟨other, again, permuted⟩ := mapM_perm perm read
  cases again.symm.trans read'
  rw [eq, eq']
  exact congrArg Except.ok (maxSeverity_perm (permuted.flatten.map Verdict.severity))

theorem verdictsOf_iff {current : Metric} {verdicts : List Verdict} :
    verdictsOf baseline defaultThresholds current = .ok verdicts ↔
      baselineMetric baseline current.key = none ∧ verdicts = [unknownVerdict current] ∨
        Verdicts baseline current verdicts := by
  rw [verdictsOf, Verdicts]
  cases known : baselineMetric baseline current.key with
  | none => simp [eq_comm]
  | some previous => simp

theorem Verdicts.ne_nil {metric : Metric} {verdicts : List Verdict}
    (h : Verdicts baseline metric verdicts) : verdicts ≠ [] := by
  obtain ⟨previous, known, eq⟩ := h
  obtain ⟨some_, eq', nonempty⟩ := @metricVerdicts_ok defaultThresholds _ _ (key_of_baselineMetric known)
  cases eq.symm.trans eq'
  exact nonempty

/-- An overall green means some verdict, and on each metric green ones only. -/
theorem compare_green {report : Report} (h : compare metrics baseline defaultThresholds = .ok report)
    (green : report.overall = .green) : metrics ≠ [] ∧ ∀ metric ∈ metrics, ∃ verdicts,
      Verdicts baseline metric verdicts ∧
        ∀ verdict ∈ verdicts, verdict ∈ report.verdicts ∧ verdict.severity = .green := by
  obtain ⟨verdicts, read, eq⟩ := compare_eq_ok metrics baseline defaultThresholds
  cases eq.symm.trans h
  obtain ⟨nonempty, all⟩ := maxSeverity_eq_green_iff.mp green
  refine ⟨fun none => nonempty (by subst none; cases read; rfl), fun metric mem => ?_⟩
  obtain ⟨some_, there, one⟩ := mem_of_forall₂ (List.Forall₂.flip (mapM_eq_ok_iff.mp read)) mem
  have greens (verdict : Verdict) (mem : verdict ∈ some_) :
      verdict ∈ verdicts.flatten ∧ verdict.severity = .green := by
    have inside := List.mem_flatten.mpr ⟨some_, there, mem⟩
    exact ⟨inside, all _ (List.mem_map.mpr ⟨verdict, inside, rfl⟩)⟩
  rcases verdictsOf_iff.mp one with ⟨-, rfl⟩ | known
  · have green : Severity.unknown = .green := (greens _ List.mem_cons_self).2
    cases green
  · exact ⟨some_, known, greens⟩

theorem overall_of_green {report : Report}
    (h : compare metrics baseline defaultThresholds = .ok report) (nonempty : metrics ≠ [])
    (all : ∀ metric ∈ metrics, ∃ verdicts, Verdicts baseline metric verdicts ∧
      ∀ verdict ∈ verdicts, verdict.severity = .green) : report.overall = .green := by
  obtain ⟨verdicts, read, eq⟩ := compare_eq_ok metrics baseline defaultThresholds
  cases eq.symm.trans h
  have each := mapM_eq_ok_iff.mp read
  have known {metric : Metric} {some_ : List Verdict} (mem : metric ∈ metrics)
      (one : verdictsOf baseline defaultThresholds metric = .ok some_) :
      some_ ≠ [] ∧ ∀ verdict ∈ some_, verdict.severity = .green := by
    obtain ⟨others, judged, green⟩ := all metric mem
    cases (verdictsOf_iff.mpr (.inr judged)).symm.trans one
    exact ⟨judged.ne_nil, green⟩
  refine maxSeverity_eq_green_iff.mpr ⟨?_, ?_⟩
  · obtain ⟨metric, mem⟩ := List.exists_mem_of_ne_nil _ nonempty
    obtain ⟨some_, there, one⟩ := mem_of_forall₂ (List.Forall₂.flip each) mem
    obtain ⟨verdict, inside⟩ := List.exists_mem_of_ne_nil _ (known mem one).1
    have flat := List.mem_flatten.mpr ⟨some_, there, inside⟩
    exact List.ne_nil_of_mem (List.mem_map.mpr ⟨verdict, flat, rfl⟩)
  · intro severity mem
    obtain ⟨verdict, flat, rfl⟩ := List.mem_map.mp mem
    obtain ⟨some_, there, inside⟩ := List.mem_flatten.mp flat
    obtain ⟨metric, judged, one⟩ := mem_of_forall₂ each there
    exact (known judged one).2 verdict inside

end Compare

section Sound

variable {toFloat : Json → Except PyError Rat} {artifactsDir : Root} {tree : List Artifact}
  {baseline : List Metric}

theorem gateReport_eq_ok {report : Report} :
    gateReport toFloat artifactsDir tree baseline = .ok report ↔
      ∃ metrics, collectMetrics toFloat artifactsDir tree = .ok metrics ∧
        compare metrics baseline defaultThresholds = .ok report := by
  unfold gateReport
  cases collectMetrics toFloat artifactsDir tree with
  | error e => simp
  | ok metrics => cases compared : compare metrics baseline defaultThresholds <;> simp [compared]

/-- The gate is sound except where a metric of the baseline disappears behind green ones; the
order of the metrics never matters. -/
theorem sound_iff :
    Sound toFloat artifactsDir tree baseline ∧ OrderFree baseline ↔
      ¬Disappears toFloat artifactsDir tree baseline := by
  constructor
  · rintro ⟨sound, -⟩ ⟨metrics, collected, nonempty, green, lost, mem, missing⟩
    obtain ⟨verdicts, -, compared⟩ := compare_eq_ok metrics baseline defaultThresholds
    have report := gateReport_eq_ok.mpr ⟨metrics, collected, compared⟩
    have overall := overall_of_green compared nonempty green
    obtain ⟨metric, -, parsed, key, -⟩ := sound _ report overall lost mem
    exact missing metric parsed key
  · intro present
    refine ⟨fun report ok green lost mem => ?_, orderFree baseline⟩
    obtain ⟨metrics, collected, compared⟩ := gateReport_eq_ok.mp ok
    obtain ⟨nonempty, all⟩ := compare_green compared green
    obtain ⟨parsed, keys⟩ := collectMetrics_eq_ok collected
    by_contra unjudged
    refine present ⟨metrics, collected, nonempty, fun metric mem => ?_, lost, mem, ?_⟩
    · obtain ⟨verdicts, known, greens⟩ := all metric mem
      exact ⟨verdicts, known, fun verdict mem => (greens verdict mem).2⟩
    · intro other otherParsed same
      obtain ⟨found, there, key⟩ := keys other otherParsed
      obtain ⟨verdicts, known, greens⟩ := all found there
      exact unjudged ⟨found, verdicts, parsed found there, key.trans same, known, known.ne_nil,
        fun verdict mem => (greens verdict mem).1⟩

/-- A report of pytest, and one of Bandit that is no JSON. -/
def brokenBandit : List Artifact :=
  [{ path := ["coverage.json"], regular := true,
     content := some (.obj [("totals", .obj [("percent_covered", .int 90)])]) },
    { banditReport with content := none }]

def brokenBaseline : List Metric :=
  [.coverage ⟨.pytest, .backend, 90, 0, 0, 0, 0, 0⟩, .security ⟨.bandit, .backend, 0, 0, 0, 0⟩]

/-- The report is green, and says nothing about Bandit. -/
theorem not_sound_brokenBandit :
    ¬(Sound exactFloat (rootAt "artifacts") brokenBandit brokenBaseline ∧
      OrderFree brokenBaseline) := by
  rintro ⟨sound, -⟩
  have green : (match gateReport exactFloat (rootAt "artifacts") brokenBandit brokenBaseline with
      | .ok report => report.overall
      | .error _ => .red) = .green := by decide +kernel
  cases ok : gateReport exactFloat (rootAt "artifacts") brokenBandit brokenBaseline with
  | error e => rw [ok] at green; cases green
  | ok report =>
    rw [ok] at green
    obtain ⟨metric, -, ⟨artifact, mem, parsed⟩, key, -⟩ := sound report ok green
      (.security ⟨.bandit, .backend, 0, 0, 0, 0⟩) (by simp [brokenBaseline])
    have listed := (List.mem_filter.mp ((List.mem_insertionSort _).mp mem)).1
    simp only [brokenBandit, List.mem_cons, List.not_mem_nil, or_false] at listed
    rcases listed with rfl | rfl
    · have coverage : metric = .coverage ⟨.pytest, .backend, 90, 0, 0, 0, 0, 0⟩ :=
        Option.some.inj (Except.ok.inj (parsed.symm.trans rfl))
      rw [coverage] at key
      cases congrArg Key.kind key
    · cases parsed

end Sound

end OptimizrActions.QualityGate
