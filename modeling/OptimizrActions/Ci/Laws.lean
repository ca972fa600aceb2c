import OptimizrActions.Ci.Classify

/-! When a run is excused as infrastructure, and when it is promoted. -/

namespace OptimizrActions.Ci

/-- The runner id and the steps that a job reports. -/
def Reports (job : Json) (runnerId : Int) (steps : List Json) : Prop :=
  ∃ fields : Mapping, job = .obj fields ∧ fields.get "runner_id" = .int runnerId ∧
    fields.get "steps" = .arr steps

/-- No runner and no step: the job was never started. -/
def NeverStarted (job : Json) : Prop := Reports job 0 []

/-- A runner without a step, or a step without a runner. -/
def HalfStarted (job : Json) : Prop :=
  ∃ runnerId steps, Reports job runnerId steps ∧
    (runnerId = 0 ∧ steps ≠ [] ∨ runnerId ≠ 0 ∧ steps = [])

def Started (job : Json) : Prop := ∃ runnerId steps, Reports job runnerId steps ∧ 0 < runnerId ∧ steps ≠ []

theorem Reports.unique {job : Json} {runnerId runnerId' : Int} {steps steps' : List Json}
    (h : Reports job runnerId steps) (h' : Reports job runnerId' steps') :
    runnerId = runnerId' ∧ steps = steps' := by
  obtain ⟨fields, rfl, runner, list⟩ := h
  obtain ⟨_, same, runner', list'⟩ := h'
  cases same
  exact ⟨Json.int.inj (runner.symm.trans runner'), Json.arr.inj (list.symm.trans list')⟩

theorem HalfStarted.not_neverStarted {job : Json} (h : HalfStarted job) : ¬NeverStarted job := by
  obtain ⟨runnerId, steps, reports, half⟩ := h
  intro never
  obtain ⟨rfl, rfl⟩ := reports.unique never
  rcases half with ⟨-, some⟩ | ⟨some, -⟩
  · exact some rfl
  · exact some rfl

theorem jobLifecycle_of_reports {job : Json} {runnerId : Int} {steps : List Json}
    (h : Reports job runnerId steps) : jobLifecycle job =
      if runnerId = 0 ∨ steps = [] then .prestart
      else if runnerId < 0 then .unknown else .started := by
  obtain ⟨fields, rfl, runner, list⟩ := h
  simp only [jobLifecycle, runner, list]

theorem reports_of_lifecycle {job : Json} (h : jobLifecycle job ≠ .unknown) :
    ∃ runnerId steps, Reports job runnerId steps := by
  cases job with
  | obj fields =>
    simp only [jobLifecycle] at h
    split at h
    next runnerId steps runner list => exact ⟨runnerId, steps, fields, rfl, runner, list⟩
    next => exact absurd rfl h
  | _ => exact absurd rfl h

/-- A job counts as not started where either the runner or the steps are missing. -/
theorem jobLifecycle_prestart {job : Json} :
    jobLifecycle job = .prestart ↔ NeverStarted job ∨ HalfStarted job := by
  constructor
  · intro h
    have known : jobLifecycle job ≠ .unknown := by simp [h]
    obtain ⟨runnerId, steps, reports⟩ := reports_of_lifecycle known
    rw [jobLifecycle_of_reports reports] at h
    split_ifs at h with none
    by_cases noRunner : runnerId = 0
    · by_cases noStep : steps = []
      · subst noRunner noStep
        exact .inl reports
      · exact .inr ⟨_, _, reports, .inl ⟨noRunner, noStep⟩⟩
    · exact .inr ⟨_, _, reports, .inr ⟨noRunner, none.resolve_left noRunner⟩⟩
  · rintro (never | ⟨runnerId, steps, reports, half⟩)
    · rw [jobLifecycle_of_reports never, if_pos (.inl rfl)]
    · rw [jobLifecycle_of_reports reports, if_pos (half.imp And.left And.right)]

theorem jobLifecycle_started {job : Json} : jobLifecycle job = .started ↔ Started job := by
  constructor
  · intro h
    have known : jobLifecycle job ≠ .unknown := by simp [h]
    obtain ⟨runnerId, steps, reports⟩ := reports_of_lifecycle known
    rw [jobLifecycle_of_reports reports] at h
    split_ifs at h with none negative
    rw [not_or] at none
    exact ⟨runnerId, steps, reports, by omega, none.2⟩
  · rintro ⟨runnerId, steps, reports, positive, some⟩
    rw [jobLifecycle_of_reports reports, if_neg (by simp [some]; omega), if_neg (by omega)]

section Counting

def lifecycleCount (kind : Lifecycle) (jobs : List Json) : Nat :=
  jobs.countP (jobLifecycle · = kind)

/-- The counts after the loop over the jobs. -/
theorem foldl_countJob (summary : Summary) (jobs : List Json) :
    (jobs.foldl countJob summary) = { summary with
      prestartJobs := summary.prestartJobs + lifecycleCount .prestart jobs
      startedJobs := summary.startedJobs + lifecycleCount .started jobs
      unknownJobs := summary.unknownJobs + lifecycleCount .unknown jobs } := by
  induction jobs generalizing summary with
  | nil => rfl
  | cons job rest ih =>
    rw [List.foldl_cons, ih, countJob]
    cases kind : jobLifecycle job <;>
    simp [lifecycleCount, kind] <;> omega

theorem lifecycleCount_eq_length {kind : Lifecycle} {jobs : List Json} :
    lifecycleCount kind jobs = jobs.length ↔ ∀ job ∈ jobs, jobLifecycle job = kind := by
  simp [lifecycleCount, List.countP_eq_length]

theorem lifecycleCount_eq_zero {kind : Lifecycle} {jobs : List Json} :
    lifecycleCount kind jobs = 0 ↔ ∀ job ∈ jobs, jobLifecycle job ≠ kind := by
  simp [lifecycleCount, List.countP_eq_zero]

end Counting

/-- The parts of the evidence. -/
structure HasEvidence (payload : Json) (run : Mapping) (jobs annotations : List Json) : Prop where
  parts : ∃ fields : Mapping, payload = .obj fields ∧ fields.get "run" = .obj run ∧
    collection (fields.get "jobs") "jobs" = some jobs ∧
    collection (fields.getD "annotations" (.arr [])) "annotations" = some annotations
  nonempty : jobs ≠ []

def jobsOf : Json → List Json
  | .obj payload => (collection (Mapping.get payload "jobs") "jobs").getD []
  | _ => []

section Outcome

variable {str : Json → String} {payload : Json} {run : Mapping} {jobs annotations : List Json}

def countedSummary (run : Mapping) (jobs annotations : List Json) : Summary :=
  jobs.foldl countJob (summaryOf run jobs annotations)

theorem HasEvidence.classify (h : HasEvidence payload run jobs annotations) :
    classifyEvidence str payload =
      outcome str (countedSummary run jobs annotations) run jobs := by
  obtain ⟨⟨fields, rfl, atRun, atJobs, atAnnotations⟩, some⟩ := h
  cases jobs with
  | nil => exact absurd rfl some
  | cons job jobs =>
    simp only [classifyEvidence, classifyPayload, atRun, atJobs, atAnnotations]
    rfl

theorem HasEvidence.jobsOf (h : HasEvidence payload run jobs annotations) :
    jobsOf payload = jobs := by
  obtain ⟨⟨fields, rfl, -, atJobs, -⟩, -⟩ := h
  rw [Ci.jobsOf, atJobs, Option.getD_some]

theorem classify_of_not_hasEvidence
    (none : ¬∃ run jobs annotations, HasEvidence payload run jobs annotations) :
    (classifyEvidence str payload).classification = .inconclusive ∧
      (classifyEvidence str payload).promotionAllowed = false := by
  cases payload with
  | obj fields =>
    simp only [classifyEvidence, classifyPayload]
    split
    next run job jobs annotations atRun atJobs atAnnotations =>
      exact absurd ⟨run, _, annotations, ⟨fields, rfl, atRun, atJobs, atAnnotations⟩, nofun⟩ none
    next => exact ⟨rfl, rfl⟩
    next => exact ⟨rfl, rfl⟩
    next => exact ⟨rfl, rfl⟩
  | _ => exact ⟨rfl, rfl⟩

def Billed (annotations : List Json) : Prop :=
  ∃ message ∈ messages annotations, isBillingMessage message = true

theorem billed_iff : 0 < (countedSummary run jobs annotations).billingAnnotations ↔
    Billed annotations := by
  rw [countedSummary, foldl_countJob]
  exact List.countP_pos_iff

theorem allPrestart_iff : (countedSummary run jobs annotations).prestartJobs =
    (countedSummary run jobs annotations).jobCount ↔
      ∀ job ∈ jobs, NeverStarted job ∨ HalfStarted job := by
  rw [countedSummary, foldl_countJob]
  change 0 + lifecycleCount .prestart jobs = jobs.length ↔ _
  rw [Nat.zero_add, lifecycleCount_eq_length]
  exact forall₂_congr fun _ _ => jobLifecycle_prestart

theorem unknownJobs_eq_zero : (countedSummary run jobs annotations).unknownJobs = 0 ↔
    ∀ job ∈ jobs, jobLifecycle job ≠ .unknown := by
  rw [countedSummary, foldl_countJob]
  change 0 + lifecycleCount .unknown jobs = 0 ↔ _
  rw [Nat.zero_add, lifecycleCount_eq_zero]

theorem prestartJobs_eq_zero : (countedSummary run jobs annotations).prestartJobs = 0 ↔
    ∀ job ∈ jobs, jobLifecycle job ≠ .prestart := by
  rw [countedSummary, foldl_countJob]
  change 0 + lifecycleCount .prestart jobs = 0 ↔ _
  rw [Nat.zero_add, lifecycleCount_eq_zero]

/-- A run is called blocked by billing where no job has both a runner and a step. -/
theorem outcome_hostedBillingBlocked :
    (outcome str (countedSummary run jobs annotations) run jobs).classification =
      .hostedBillingBlocked ↔
        Billed annotations ∧ ∀ job ∈ jobs, NeverStarted job ∨ HalfStarted job := by
  rw [← billed_iff, ← allPrestart_iff]
  constructor
  · intro h
    simp only [outcome, inconclusive] at h
    split_ifs at h with _ blocked
    simpa only [Bool.and_eq_true, decide_eq_true_eq] using blocked
  · rintro ⟨billed, prestart⟩
    have known : (countedSummary run jobs annotations).unknownJobs = 0 :=
      unknownJobs_eq_zero.mpr fun job mem => by
        rw [jobLifecycle_prestart.mpr (allPrestart_iff.mp prestart job mem)]
        nofun
    simp only [outcome]
    rw [if_neg (not_not.mpr known), if_pos (by simp [billed, prestart])]

/-- Only a run of started and successful jobs is promoted. -/
theorem outcome_promotionAllowed
    (h : (outcome str (countedSummary run jobs annotations) run jobs).promotionAllowed = true) :
    ∀ job ∈ jobs, Started job ∧ jobSucceeded str job = true ∧ jobFailed str job = false := by
  simp only [outcome, inconclusive] at h
  split_ifs at h with unknown _ _ _ mixed failed passed
  simp only [Bool.and_eq_true, decide_eq_true_eq, List.all_eq_true, List.any_eq_true, not_and,
    not_exists, Bool.not_eq_true] at mixed failed passed
  obtain ⟨⟨started, -⟩, succeeded⟩ := passed
  intro job mem
  have known := unknownJobs_eq_zero.mp (not_not.mp unknown) job mem
  have notPrestart : jobLifecycle job ≠ .prestart :=
    prestartJobs_eq_zero.mp (not_not.mp fun some => mixed some started) job mem
  refine ⟨jobLifecycle_started.mp ?_, succeeded job mem, failed started job mem⟩
  cases kind : jobLifecycle job with
  | unknown => exact absurd kind known
  | prestart => exact absurd kind notPrestart
  | started => rfl

/-- What an excuse and a promotion stand for. -/
structure SoundOutcome (str : Json → String) (payload : Json) : Prop where
  billing : (classifyEvidence str payload).classification = .hostedBillingBlocked →
    ∀ job ∈ jobsOf payload, NeverStarted job
  promotion : (classifyEvidence str payload).promotionAllowed = true →
    ∀ job ∈ jobsOf payload, Started job ∧ jobSucceeded str job = true ∧ jobFailed str job = false
  touched : ∀ job ∈ jobsOf payload, ∀ runnerId steps, Reports job runnerId steps →
    runnerId ≠ 0 ∨ steps ≠ [] →
    (classifyEvidence str payload).classification ≠ .hostedBillingBlocked

/-- A billing annotation on a run in which no job has both a runner and a step, and some job has
one of the two. -/
def HidesStart (payload : Json) : Prop :=
  ∃ run jobs annotations, HasEvidence payload run jobs annotations ∧ Billed annotations ∧
    (∀ job ∈ jobs, NeverStarted job ∨ HalfStarted job) ∧ ∃ job ∈ jobs, HalfStarted job

/-- The classification is sound exactly where no job is half started behind a billing
annotation. -/
theorem soundOutcome_iff (str : Json → String) (payload : Json) :
    SoundOutcome str payload ↔ ¬HidesStart payload := by
  constructor
  · rintro sound ⟨run, jobs, annotations, evidence, billed, all, job, mem, half⟩
    have blocked : (classifyEvidence str payload).classification = .hostedBillingBlocked := by
      rw [evidence.classify]
      exact outcome_hostedBillingBlocked.mpr ⟨billed, all⟩
    exact half.not_neverStarted (sound.billing blocked job (evidence.jobsOf ▸ mem))
  · intro shown
    have billing : (classifyEvidence str payload).classification = .hostedBillingBlocked →
        ∀ job ∈ jobsOf payload, NeverStarted job := by
      intro blocked job mem
      by_cases some : ∃ run jobs annotations, HasEvidence payload run jobs annotations
      · obtain ⟨run, jobs, annotations, evidence⟩ := some
        rw [evidence.classify] at blocked
        rw [evidence.jobsOf] at mem
        obtain ⟨billed, all⟩ := outcome_hostedBillingBlocked.mp blocked
        exact (all job mem).resolve_right fun half =>
          shown ⟨run, jobs, annotations, evidence, billed, all, job, mem, half⟩
      · rw [(classify_of_not_hasEvidence some).1] at blocked
        cases blocked
    refine ⟨billing, fun promoted job mem => ?_, fun job mem runnerId steps reports touched blocked => ?_⟩
    · by_cases some : ∃ run jobs annotations, HasEvidence payload run jobs annotations
      · obtain ⟨run, jobs, annotations, evidence⟩ := some
        rw [evidence.classify] at promoted
        exact outcome_promotionAllowed promoted job (evidence.jobsOf ▸ mem)
      · rw [(classify_of_not_hasEvidence some).2] at promoted
        cases promoted
    · obtain ⟨rfl, rfl⟩ := reports.unique (billing blocked job mem)
      simp at touched

end Outcome

def assignedJob : Json :=
  .obj [("runner_id", .int 321), ("steps", .arr []), ("conclusion", .str "failure")]

def assignedRun : Json :=
  .obj [("run", .obj [("conclusion", .str "failure")]), ("jobs", .arr [assignedJob]),
    ("annotations", .arr [.obj [("message", .str "recent account payments have failed")]])]

/-- A run whose job was given a runner is excused as blocked by billing. -/
theorem classifyEvidence_hides_start :
    (classifyEvidence (fun _ => "") assignedRun).classification = .hostedBillingBlocked ∧
      assignedJob ∈ jobsOf assignedRun ∧ ¬NeverStarted assignedJob := by
  have half : HalfStarted assignedJob := ⟨321, [], ⟨_, rfl, rfl, rfl⟩, .inr ⟨by decide, rfl⟩⟩
  exact ⟨by decide +kernel, List.mem_singleton_self _, half.not_neverStarted⟩

end OptimizrActions.Ci
