import OptimizrActions.Remediation.Output
import OptimizrActions.RepositoryValidation.RunLaws
import OptimizrActions.ValidationGate.Gate

/-! A delivery is authorized exactly when every job of the gate has done its part for its commit. -/

namespace OptimizrActions.ValidationGate

open RepositoryValidation KeyValue

section Specification

/-- `json.loads` of the two texts that the workflow itself writes. -/
structure ReadsResults (loads : Loads) : Prop where
  checks : loads requiredChecksText =
    .ok (.arr [.str "repository_validation", .str "security_suite"])
  results : ∀ repository security, loads (resultsText repository security) =
    .ok (.obj [("repository_validation", .str repository.text), ("security_suite", .str security.text)])

variable (loads : Loads) (host : Host) (around : Surroundings) (inputs : GateInputs)
  (context : Context)

/-- The preflight of the path has passed. -/
def Admitted : Prop :=
  if inputs.validationPath = "reviewed-emergency" then
    around.emergency = none ∧ emergencyPasses loads inputs context = true
  else around.preflight = none ∧ preflightPasses loads inputs context = true

/-- Every job has done its part. -/
structure Established : Prop where
  sha : isSha inputs.candidateSha = true
  workflowSha : isSha context.workflowSha = true
  exact : inputs.candidateSha = context.sha
  path : inputs.validationPath ∈ paths
  admitted : Admitted loads around inputs context
  validated : around.repository = none ∧ validationSucceeds loads host around inputs context = true
  secure : around.security = .success
  attested : around.attest = none

/-- What the logs of the validation job tell of a commit. -/
structure Validated (sha : String) : Prop where
  /-- The last that was asked of the checkout has shown it clean and complete at the commit. -/
  checkout : ∃ paths r, EndsConfirmed sha paths r (integrityStep loads around inputs context).2
  passed : ∃ run, (scriptRuns (contractStep loads host around inputs context).2).getLast? = some run ∧
    ended run.answer = some (0, false)
  bounded : (scriptRuns (contractStep loads host around inputs context).2).length ≤ maxRetryAttempts
  /-- On a persistent runner the script runs for a commit of the protected branch only. -/
  trusted : inputs.validationPath ∈ ["self-hosted", "reviewed-emergency"] →
    context.ref = "refs/heads/main" ∧ ∀ before x after,
      (contractStep loads host around inputs context).2 = before ++ x :: after →
      x.query.isScript = true → Trusted context.workspace sha "refs/heads/main" before
  hosted : inputs.validationPath = "hosted" →
    loads inputs.runnerJson = .ok (.arr [.str "ubuntu-latest"])
  ephemeral : inputs.validationPath = "ephemeral-pr" → context.eventName = "pull_request"

/-- What the delivery itself brings. -/
structure Eligible (request : DeliveryRequest) : Prop where
  candidate : request.candidateSha = context.sha
  ref : request.candidateRef = request.requiredRef ∧ request.requiredRef ≠ ""
  allowed : ∃ allowed, parseAllowedPaths loads request.allowedPathsJson = .ok allowed ∧
    inputs.validationPath ∈ allowed

end Specification

section Jobs

variable {condition succeeds : Bool} {disturbed : Option Disturbance} {jobs : List Conclusion}

theorem conclude_eq_success : conclude condition disturbed succeeds = .success ↔
    condition = true ∧ disturbed = none ∧ succeeds = true := by
  cases condition with
  | false => simp [conclude]
  | true =>
    cases disturbed with
    | none => cases succeeds <;> simp [conclude]
    | some how => cases how <;> simp [conclude]

theorem conclude_eq_skipped : conclude condition disturbed succeeds = .skipped ↔
    condition = false := by
  cases condition with
  | false => simp [conclude]
  | true =>
    cases disturbed with
    | none => cases succeeds <;> simp [conclude]
    | some how => cases how <;> simp [conclude]

theorem callResult_eq_success : callResult jobs = .success ↔
    (∀ job ∈ jobs, job = .success ∨ job = .skipped) ∧ .success ∈ jobs := by
  constructor
  · intro passed
    unfold callResult at passed
    split at passed
    · cases passed
    next notFailed =>
      split at passed
      · cases passed
      next notCancelled =>
        split at passed
        next some_ =>
          refine ⟨fun job mem => ?_, some_⟩
          cases job with
          | success => exact .inl rfl
          | skipped => exact .inr rfl
          | failure => exact absurd mem notFailed
          | cancelled => exact absurd mem notCancelled
        · cases passed
  · rintro ⟨calm, some_⟩
    have absent (job : Conclusion) (bad : ¬(job = .success ∨ job = .skipped)) : job ∉ jobs :=
      fun mem => bad (calm job mem)
    rw [callResult, if_neg (absent .failure (by decide)), if_neg (absent .cancelled (by decide)),
      if_pos some_]

theorem text_eq_success {conclusion : Conclusion} : conclusion.text = "success" ↔
    conclusion = .success := by
  cases conclusion <;> decide

theorem text_mem_results (conclusion : Conclusion) : conclusion.text ∈ results := by
  cases conclusion <;> decide

end Jobs

section Attest

variable {loads : Loads} {host : Host} {inputs : GateInputs} {context : Context}
  {repository security : Conclusion}

theorem check_eq_ok {p : Prop} [Decidable p] {message : String} {u : Unit} :
    check p message = .ok u ↔ p := by
  unfold check
  split
  next h => exact ⟨fun _ => h, fun _ => rfl⟩
  next h => exact ⟨fun absurd => (error_ne_ok absurd).elim, fun holds => (h holds).elim⟩

/-- The checks that did not succeed. -/
def blockingChecks (repository security : Conclusion) : List String :=
  sorted (["repository_validation", "security_suite"].filter fun name =>
    Mapping.get [("repository_validation", .str repository.text), ("security_suite", .str security.text)]
      name ≠ .str "success")

theorem blockingChecks_eq_nil : blockingChecks repository security = [] ↔
    repository = .success ∧ security = .success := by
  cases repository <;> cases security <;> decide

def gatePayload (inputs : GateInputs) (context : Context) (repository security : Conclusion) : Mapping :=
  attestationPayload (attestArgs inputs context repository security)
    ["repository_validation", "security_suite"]
    [("repository_validation", .str repository.text), ("security_suite", .str security.text)]
    (blockingChecks repository security)

theorem requiredNames_gate :
    requiredNames [.str "repository_validation", .str "security_suite"] =
      .ok ["repository_validation", "security_suite"] := rfl

theorem checkResultValues_gate :
    checkResultValues [.str repository.text, .str security.text] = .ok () := by
  cases repository <;> cases security <;> rfl

/-- The attestation of the gate is made for the commit of its run, on an allowed path. -/
theorem attest_eq_ok (reads : ReadsResults loads) {attested : Attested} :
    attest host loads (attestArgs inputs context repository security) = .ok attested ↔
      isSha inputs.candidateSha = true ∧ isSha context.workflowSha = true ∧
      inputs.candidateSha = context.sha ∧ inputs.validationPath ∈ paths ∧
      attested = ⟨gatePayload inputs context repository security, blockingChecks repository security,
        "sha256:" ++ host.sha256Hex (host.dumps (.obj (gatePayload inputs context repository security)))⟩ := by
  have required : parseList loads requiredChecksText "required checks" =
      .ok [.str "repository_validation", .str "security_suite"] := by
    rw [parseList, reads.checks]
  have found : parseDict loads (resultsText repository security) "results" =
      .ok [("repository_validation", .str repository.text), ("security_suite", .str security.text)] := by
    rw [parseDict, reads.results]
  simp only [attest, attestArgs, required, found, ok_bind, requiredNames_gate, bind_eq_ok, pure_eq_ok]
  constructor
  · rintro ⟨_, sha, _, -, _, workflow, _, exact_, _, path, _, -, _, -, rfl⟩
    exact ⟨check_eq_ok.mp sha, check_eq_ok.mp workflow, check_eq_ok.mp exact_, check_eq_ok.mp path, rfl⟩
  · rintro ⟨sha, workflow, exact_, path, rfl⟩
    refine ⟨⟨⟩, check_eq_ok.mpr sha, ⟨⟩, check_eq_ok.mpr (exact_ ▸ sha), ⟨⟩, check_eq_ok.mpr workflow,
      ⟨⟩, check_eq_ok.mpr exact_, ⟨⟩, check_eq_ok.mpr path, ⟨⟩, check_eq_ok.mpr ?_, ⟨⟩, ?_, rfl⟩
    · simp
    · exact checkResultValues_gate

/-- The outputs of a step are read back as they were written. -/
theorem stepOutput_write {pairs : List (String × String)} {name : String}
    (lines : ∀ pair ∈ pairs, IsKey pair.1 ∧ OneLine pair.2) :
    stepOutput (write pairs) name = (pairs.reverse.lookup name).getD "" := by
  rw [stepOutput, read_write pairs lines]

theorem oneLine_of_isSha {s : String} (h : isSha s = true) : OneLine s :=
  Remediation.oneLine_hexText h (by decide) (by decide)

theorem oneLine_append {s s' : String} (h : OneLine s) (h' : OneLine s') : OneLine (s ++ s') := by
  rw [OneLine, String.toList_append, List.mem_append, List.mem_append, not_or, not_or]
  exact ⟨⟨h.1, h'.1⟩, h.2, h'.2⟩

theorem oneLine_of_mem_paths {path : String} (mem : path ∈ paths) : OneLine path := by
  revert path
  decide

/-- Every output of the attestation is a line of its own. -/
theorem attestOutputs_lines {args : AttestArgs} {attested : Attested}
    (candidate : OneLine args.candidateSha) (path : OneLine args.validationPath)
    (digest : OneLine attested.digest) (workflow : OneLine args.workflowSha)
    (evidence : OneLine (asPosix args.evidence)) :
    ∀ pair ∈ attestOutputs args attested, IsKey pair.1 ∧ OneLine pair.2 := by
  have result : OneLine attested.result := by
    rw [Attested.result]
    split
    · decide
    · decide
  have keys : ∀ pair ∈ attestOutputs args attested, IsKey pair.1 := by
    simp only [attestOutputs, List.forall_mem_cons]
    exact ⟨by decide, by decide, by decide, by decide, by decide, by decide, List.forall_mem_nil _⟩
  refine fun pair mem => ⟨keys pair mem, ?_⟩
  simp only [attestOutputs, List.mem_cons, List.not_mem_nil, or_false] at mem
  obtain rfl | rfl | rfl | rfl | rfl | rfl := mem
  · exact result
  · exact candidate
  · exact path
  · exact digest
  · exact workflow
  · exact evidence

/-- What the jobs after the gate read. -/
theorem stepOutput_attestFile {args : AttestArgs} {attested : Attested}
    (lines : ∀ pair ∈ attestOutputs args attested, IsKey pair.1 ∧ OneLine pair.2) :
    stepOutput (attestFile args (.ok attested)) "result" = attested.result ∧
    stepOutput (attestFile args (.ok attested)) "validated_sha" = args.candidateSha ∧
    stepOutput (attestFile args (.ok attested)) "evidence_digest" = attested.digest ∧
    stepOutput (attestFile args (.ok attested)) "actions_workflow_sha" = args.workflowSha ∧
    stepOutput (attestFile args (.ok attested)) "validation_path" = args.validationPath := by
  simp only [attestFile, stepOutput_write lines]
  simp [attestOutputs, List.lookup_cons]

theorem valid_eq_ok {p : Prop} [Decidable p] {message : String} {u : Unit} :
    valid p message = .ok u ↔ p := by
  unfold valid
  split
  next h => exact ⟨fun _ => h, fun _ => rfl⟩
  next h => exact ⟨fun absurd => (error_ne_ok absurd).elim, fun holds => (h holds).elim⟩

theorem eligible_eq_ok {p : Prop} [Decidable p] {message : String} {u : Unit} :
    eligible p message = .ok u ↔ p := by
  unfold eligible
  split
  next h => exact ⟨fun _ => h, fun _ => rfl⟩
  next h => exact ⟨fun absurd => (error_ne_ok absurd).elim, fun holds => (h holds).elim⟩

/-- An authorization needs a passed gate for the same commit, on a path and a ref that it takes. -/
theorem authorize_eq_ok {args : AuthorizeArgs} {a : Authorization} :
    authorize loads args = .ok a ↔
      (args.gateJobResult = "success" ∧ args.gateResult = "passed") ∧
      (isSha args.validatedSha = true ∧ isSha args.actionsWorkflowSha = true ∧
        isDigest args.evidenceDigest = true) ∧
      args.validatedSha = args.candidateSha ∧
      (args.candidateRef = args.requiredRef ∧ args.requiredRef ≠ "") ∧
      (∃ allowed, parseAllowedPaths loads args.allowedPathsJson = .ok allowed ∧
        args.validationPath ∈ allowed) ∧
      a = ⟨args.validatedSha, args.evidenceDigest, args.actionsWorkflowSha, args.validationPath⟩ := by
  simp only [authorize, requireSha, bind_eq_ok, pure_eq_ok]
  constructor
  · rintro ⟨_, -, _, -, _, sha, _, -, _, workflow, _, digest, _, refs, allowed, parsed, _, job, _, result,
      _, same, _, path, _, ref, rfl⟩
    exact ⟨⟨eligible_eq_ok.mp job, eligible_eq_ok.mp result⟩,
      ⟨valid_eq_ok.mp sha, valid_eq_ok.mp workflow, valid_eq_ok.mp digest⟩, eligible_eq_ok.mp same,
      ⟨eligible_eq_ok.mp ref, (valid_eq_ok.mp refs).2⟩, ⟨allowed, parsed, eligible_eq_ok.mp path⟩, rfl⟩
  · rintro ⟨⟨job, result⟩, ⟨sha, workflow, digest⟩, same, ⟨ref, nonempty⟩, ⟨allowed, parsed, path⟩, rfl⟩
    refine ⟨⟨⟩, valid_eq_ok.mpr ?_, ⟨⟩, valid_eq_ok.mpr ?_, ⟨⟩, valid_eq_ok.mpr sha, ⟨⟩,
      valid_eq_ok.mpr (same ▸ sha), ⟨⟩, valid_eq_ok.mpr workflow, ⟨⟩, valid_eq_ok.mpr digest, ⟨⟩,
      valid_eq_ok.mpr ⟨ref ▸ nonempty, nonempty⟩, allowed, parsed, ⟨⟩, eligible_eq_ok.mpr job, ⟨⟩,
      eligible_eq_ok.mpr result, ⟨⟩, eligible_eq_ok.mpr same, ⟨⟩, eligible_eq_ok.mpr path, ⟨⟩,
      eligible_eq_ok.mpr ref, rfl⟩
    · rw [job]
      decide
    · rw [result]
      decide

end Attest

section Gate

variable {loads : Loads} {host : Host} {around : Surroundings} {inputs : GateInputs}
  {context : Context} {request : DeliveryRequest}

theorem isEmergency_iff (path : inputs.validationPath ∈ paths) :
    isEmergency inputs = true ↔ inputs.validationPath = "reviewed-emergency" := by
  have cases_ : ∀ path ∈ paths, sameText path "reviewed-emergency" = true ↔
      path = "reviewed-emergency" := by decide +kernel
  exact cases_ _ path

/-- The jobs that validate run exactly after the preflight of the path. -/
theorem mayValidate_iff (path : inputs.validationPath ∈ paths) :
    mayValidate loads around inputs context = true ↔ Admitted loads around inputs context := by
  rw [mayValidate, Bool.or_eq_true, decide_eq_true_eq, decide_eq_true_eq, runPreflight, runEmergency,
    conclude_eq_success, conclude_eq_success, Admitted, Bool.not_eq_true', ← Bool.not_eq_true,
    isEmergency_iff path]
  split
  next emergency => simp [emergency]
  next other => simp [other]

theorem runRepository_eq_success (path : inputs.validationPath ∈ paths) :
    runRepository loads host around inputs context = .success ↔
      Admitted loads around inputs context ∧ around.repository = none ∧
        validationSucceeds loads host around inputs context = true := by
  rw [runRepository, conclude_eq_success, mayValidate_iff path]

/-- The attestation of a run in which both validations have succeeded. -/
def passedAttestation (host : Host) (inputs : GateInputs) (context : Context) : Attested where
  payload := gatePayload inputs context .success .success
  blocking := []
  digest := "sha256:" ++ host.sha256Hex (host.dumps (.obj (gatePayload inputs context .success .success)))

theorem attestStatus_eq_zero {attested : Except Raised Attested} (zero : attestStatus attested = 0) :
    ∃ passed, attested = .ok passed ∧ passed.blocking = [] := by
  cases attested with
  | ok passed =>
    refine ⟨passed, rfl, ?_⟩
    by_contra some_
    rw [attestStatus, if_neg some_] at zero
    cases zero
  | error e => cases e <;> cases zero

/-- The attestation job succeeds exactly after both validations have. -/
theorem runAttest_eq_success (reads : ReadsResults loads) :
    runAttest loads host around inputs context = .success ↔
      around.attest = none ∧ isSha inputs.candidateSha = true ∧ isSha context.workflowSha = true ∧
      inputs.candidateSha = context.sha ∧ inputs.validationPath ∈ paths ∧
      runRepository loads host around inputs context = .success ∧
      runSecurity loads around inputs context = .success := by
  rw [runAttest, conclude_eq_success, decide_eq_true_eq]
  constructor
  · rintro ⟨-, calm, zero⟩
    obtain ⟨passed, attested, none_⟩ := attestStatus_eq_zero zero
    rw [gateArgs, attest_eq_ok reads] at attested
    obtain ⟨sha, workflow, exact_, path, same⟩ := attested
    simp only [same] at none_
    exact ⟨calm, sha, workflow, exact_, path, blockingChecks_eq_nil.mp none_⟩
  · rintro ⟨calm, sha, workflow, exact_, path, both⟩
    refine ⟨rfl, calm, ?_⟩
    rw [gateArgs, (attest_eq_ok reads).mpr ⟨sha, workflow, exact_, path, rfl⟩, attestStatus,
      if_pos (blockingChecks_eq_nil.mpr both)]

/-- What succeeds has been admitted by the preflight of its path only. -/
theorem preflights_of_admitted (path : inputs.validationPath ∈ paths)
    (admitted : Admitted loads around inputs context) :
    (runPreflight loads around inputs context = .success ∨
        runPreflight loads around inputs context = .skipped) ∧
      (runEmergency loads around inputs context = .success ∨
        runEmergency loads around inputs context = .skipped) := by
  have emergency := isEmergency_iff path
  rw [runPreflight, runEmergency, conclude_eq_success, conclude_eq_success, conclude_eq_skipped,
    conclude_eq_skipped]
  rw [Admitted] at admitted
  split at admitted
  next is =>
    rw [emergency.mpr is]
    exact ⟨.inr rfl, .inl ⟨rfl, admitted⟩⟩
  next other =>
    rw [Bool.eq_false_iff.mpr (mt emergency.mp other)]
    exact ⟨.inl ⟨rfl, admitted⟩, .inr rfl⟩

theorem runSecurity_eq_success (path : inputs.validationPath ∈ paths) :
    runSecurity loads around inputs context = .success ↔
      Admitted loads around inputs context ∧ around.security = .success := by
  rw [runSecurity, ← mayValidate_iff path]
  cases mayValidate loads around inputs context with
  | false => simp
  | true => simp

/-- The run as a whole succeeds exactly when its attestation does. -/
theorem result_eq_success (reads : ReadsResults loads) :
    (runGate loads host around inputs context).result = .success ↔
      runAttest loads host around inputs context = .success := by
  simp only [GateRun.result, runGate, callResult_eq_success, List.forall_mem_cons]
  constructor
  · rintro ⟨⟨-, -, -, -, attested, -⟩, -⟩
    have always : runAttest loads host around inputs context ≠ .skipped := by
      rw [runAttest, Ne, conclude_eq_skipped]
      exact Bool.noConfusion
    exact attested.resolve_right always
  · intro attested
    obtain ⟨-, -, -, -, path, repository, security⟩ := (runAttest_eq_success reads).mp attested
    obtain ⟨preflight, emergency⟩ := preflights_of_admitted path ((runSecurity_eq_success path).mp security).1
    exact ⟨⟨preflight, emergency, .inl repository, .inl security, .inl attested, List.forall_mem_nil _⟩,
      List.mem_cons_of_mem _ (List.mem_cons_of_mem _ (List.mem_cons.mpr (.inl repository.symm)))⟩

theorem established_iff (reads : ReadsResults loads) :
    runAttest loads host around inputs context = .success ↔
      Established loads host around inputs context := by
  rw [runAttest_eq_success reads]
  constructor
  · rintro ⟨attested, sha, workflow, exact_, path, repository, security⟩
    obtain ⟨admitted, validated⟩ := (runRepository_eq_success path).mp repository
    exact ⟨sha, workflow, exact_, path, admitted, validated, ((runSecurity_eq_success path).mp security).2,
      attested⟩
  · rintro ⟨sha, workflow, exact_, path, admitted, validated, secure, attested⟩
    exact ⟨attested, sha, workflow, exact_, path, (runRepository_eq_success path).mpr ⟨admitted, validated⟩,
      (runSecurity_eq_success path).mpr ⟨admitted, secure⟩⟩

/-- The outputs of a run that has established all. -/
theorem outputs_of_established (reads : ReadsResults loads)
    (established : Established loads host around inputs context) :
    (authorizeArgs (runGate loads host around inputs context) request) =
      ⟨"success", "passed", context.sha, request.candidateSha,
        (passedAttestation host inputs context).digest, context.workflowSha, inputs.validationPath,
        request.candidateRef, request.requiredRef, request.allowedPathsJson⟩ := by
  have attested := (established_iff reads).mpr established
  obtain ⟨-, -, -, -, -, repository, security⟩ := (runAttest_eq_success reads).mp attested
  have ok : attest host loads (gateArgs loads host around inputs context) =
      .ok (passedAttestation host inputs context) := by
    rw [gateArgs, repository, security]
    rw [passedAttestation, ← blockingChecks_eq_nil.mpr ⟨rfl, rfl⟩]
    exact (attest_eq_ok reads).mpr ⟨established.sha, established.workflowSha, established.exact,
      established.path, rfl⟩
  have lines : ∀ pair ∈ attestOutputs (gateArgs loads host around inputs context)
      (passedAttestation host inputs context), IsKey pair.1 ∧ OneLine pair.2 :=
    attestOutputs_lines (oneLine_of_isSha established.sha) (oneLine_of_mem_paths established.path)
      (oneLine_append (by decide)
        (Remediation.oneLine_hexText (Text.hexText_hexdigest _) (by decide) (by decide)))
      (oneLine_of_isSha established.workflowSha)
      (show OneLine (asPosix "artifacts/validation-gate/attestation.json") by decide +kernel)
  obtain ⟨result, validated, digest, workflow, path⟩ := stepOutput_attestFile lines
  rw [← ok] at result validated digest workflow path
  have file : (runGate loads host around inputs context).file =
      attestFile (gateArgs loads host around inputs context)
        (attest host loads (gateArgs loads host around inputs context)) := rfl
  have passed : (passedAttestation host inputs context).result = "passed" := rfl
  rw [passed] at result
  rw [← file] at result validated digest workflow path
  rw [authorizeArgs, AuthorizeArgs.mk.injEq]
  exact ⟨congrArg Conclusion.text ((result_eq_success reads).mpr attested), result,
    validated.trans established.exact, rfl, digest, workflow, path, rfl, rfl, rfl⟩

theorem isDigest_sha256 {s : String} (hex : Text.hexText Text.isLowerHex 64 s.toList = true) :
    isDigest ("sha256:" ++ s) = true := by
  rw [isDigest, Text.sha256Text, Bool.and_eq_true, List.isPrefixOf_iff_prefix, String.toList_append]
  have rest : ("sha256:".toList ++ s.toList).drop 7 = s.toList := List.drop_left' rfl
  exact ⟨List.prefix_append _ _, rest.symm ▸ hex⟩

/-- A delivery is authorized exactly when every job of the gate has done its part for the commit
of the delivery, on a path and a ref that the delivery takes. -/
theorem authorize_gate_iff (reads : ReadsResults loads) {a : Authorization} :
    authorize loads (authorizeArgs (runGate loads host around inputs context) request) = .ok a ↔
      Established loads host around inputs context ∧ Eligible loads inputs context request ∧
      a = ⟨context.sha, (passedAttestation host inputs context).digest, context.workflowSha,
        inputs.validationPath⟩ := by
  rw [authorize_eq_ok]
  constructor
  · rintro ⟨⟨job, -⟩, -, same, ref, allowed, rfl⟩
    have established := (established_iff reads).mp
      ((result_eq_success reads).mp (text_eq_success.mp job))
    rw [outputs_of_established reads established] at same ref allowed ⊢
    exact ⟨established, ⟨same.symm, ref, allowed⟩, rfl⟩
  · rintro ⟨established, eligible, rfl⟩
    simp only [outputs_of_established reads established]
    refine ⟨⟨trivial, trivial⟩, ⟨?_, established.workflowSha, ?_⟩, eligible.candidate.symm,
      eligible.ref, eligible.allowed, trivial⟩
    · exact established.exact ▸ established.sha
    · exact isDigest_sha256 (Text.hexText_hexdigest _)

theorem headSha_of_isSha (sha : isSha inputs.candidateSha = true) :
    headSha inputs context = inputs.candidateSha := by
  have nonempty : inputs.candidateSha ≠ "" := by
    intro empty
    rw [empty] at sha
    exact absurd sha (by decide)
  rw [headSha, if_neg nonempty]

theorem requireTrustedRef_of_path (path : inputs.validationPath ∈ ["self-hosted", "reviewed-emergency"]) :
    requireTrustedRef inputs = true := by
  have each : ∀ path ∈ ["self-hosted", "reviewed-emergency"],
      (sameText path "self-hosted" || sameText path "reviewed-emergency") = true := by decide +kernel
  exact each _ path

theorem emergencyPasses_isMain (passes : emergencyPasses loads inputs context = true) :
    context.ref = "refs/heads/main" := by
  rw [emergencyPasses, Bool.and_eq_true] at passes
  obtain ⟨-, passes⟩ := passes
  split at passes
  · cases passes
  · simp only [Bool.and_eq_true, isMain, decide_eq_true_eq] at passes
    exact passes.2.2

/-- What the preflight of a path has seen. -/
theorem preflightPasses_seen (passes : preflightPasses loads inputs context = true) :
    (inputs.validationPath = "self-hosted" → context.ref = "refs/heads/main") ∧
    (inputs.validationPath = "hosted" → loads inputs.runnerJson = .ok (.arr [.str "ubuntu-latest"])) ∧
    (inputs.validationPath = "ephemeral-pr" → context.eventName = "pull_request") := by
  rw [preflightPasses, Bool.and_eq_true] at passes
  obtain ⟨-, passes⟩ := passes
  split at passes
  · cases passes
  next labels read =>
    refine ⟨fun path => ?_, fun path => ?_, fun path => ?_⟩
    · rw [path, if_neg (by decide), if_pos rfl] at passes
      simp only [Bool.and_eq_true, isMain, decide_eq_true_eq] at passes
      exact passes.2.2
    · rw [path, if_pos rfl, decide_eq_true_eq] at passes
      rw [read, passes]
    · rw [path, if_neg (by decide), if_neg (by decide), if_pos rfl] at passes
      simp only [Bool.and_eq_true, decide_eq_true_eq] at passes
      exact passes.2

theorem Admitted.seen (admitted : Admitted loads around inputs context) :
    (inputs.validationPath ∈ ["self-hosted", "reviewed-emergency"] → context.ref = "refs/heads/main") ∧
    (inputs.validationPath = "hosted" → loads inputs.runnerJson = .ok (.arr [.str "ubuntu-latest"])) ∧
    (inputs.validationPath = "ephemeral-pr" → context.eventName = "pull_request") := by
  rw [Admitted] at admitted
  split at admitted
  next emergency =>
    rw [emergency]
    exact ⟨fun _ => emergencyPasses_isMain admitted.2, fun same => absurd same (by decide),
      fun same => absurd same (by decide)⟩
  next other =>
    obtain ⟨onMain, rest⟩ := preflightPasses_seen admitted.2
    refine ⟨fun path => onMain ?_, rest⟩
    rcases List.mem_cons.mp path with selfHosted | emergency
    · exact selfHosted
    · exact absurd (List.mem_singleton.mp emergency) other

end Gate

section Sample

def sampleSha : String := "0123456789012345678901234567890123456789"

def conclusions : List Conclusion := [.success, .failure, .cancelled, .skipped]

/-- A decoder of the texts that the sample has. -/
def sampleLoads : Loads := fun text =>
  if text = requiredChecksText then
    .ok (.arr [.str "repository_validation", .str "security_suite"])
  else match (conclusions.product conclusions).find? fun pair => text = resultsText pair.1 pair.2 with
    | some pair => .ok (.obj
        [("repository_validation", .str pair.1.text), ("security_suite", .str pair.2.text)])
    | none =>
      if text = "[]" then .ok (.arr [])
      else if text = "[\"ubuntu-latest\"]" then .ok (.arr [.str "ubuntu-latest"])
      else if text = "[\"hosted\",\"self-hosted\",\"reviewed-emergency\"]" then
        .ok (.arr [.str "hosted", .str "self-hosted", .str "reviewed-emergency"])
      else .error "Expecting value"

theorem sampleLoads_reads : ReadsResults sampleLoads where
  checks := rfl
  results repository security := by
    cases repository <;> cases security <;> decide +kernel

/-- A clean checkout of the commit, with a script that passes. -/
def sampleMachine : Machine := fun _ query => match query with
  | .resolve text => .path (if text = "/work/ci.sh" then ["work", "ci.sh"] else ["work"])
  | .resolveMissing path => .path path
  | .isSymlink _ => .flag false
  | .isDir _ | .exists_ _ | .isFile _ | .isExecutable _ => .flag true
  | .run _ argv _ => .process ⟨0,
      if argv = "git" :: headArguments then sampleSha
      else if argv = "git" :: rootArguments then "/work" else "", ""⟩
  | .sleep _ | .write _ _ => .done

def sampleInputs : GateInputs where
  runnerJson := "[\"ubuntu-latest\"]"
  validationPath := "hosted"
  candidateSha := sampleSha
  scriptPath := "ci.sh"
  argsJson := "[]"
  requiredPathsJson := "[]"
  registryAuth := false
  timeoutSeconds := 900
  retryAttempts := 1
  retryBackoffSeconds := 5

def sampleContext : Context where
  sha := sampleSha
  eventName := "push"
  ref := "refs/heads/main"
  repository := "optimizr-tech/sample"
  runId := "1"
  workspace := "/work"
  workflowRepository := "optimizr-tech/optimizr-actions"
  workflowRef := "refs/heads/v1"
  workflowSha := sampleSha

def sampleSurroundings : Surroundings :=
  ⟨none, none, none, none, .success, sampleMachine, sampleMachine, [], "3.14.0"⟩

def sampleHost : Host := ⟨fun _ _ => 0, fun _ => none, fun _ => [], fun _ => ""⟩

def sampleRequest : DeliveryRequest := ⟨sampleSha, "refs/heads/main", "refs/heads/main",
  "[\"hosted\",\"self-hosted\",\"reviewed-emergency\"]"⟩

theorem sample_established :
    Established sampleLoads sampleHost sampleSurroundings sampleInputs sampleContext where
  sha := by decide
  workflowSha := by decide
  exact := rfl
  path := by decide
  admitted := ⟨rfl, by decide +kernel⟩
  validated := ⟨rfl, by decide +kernel⟩
  secure := rfl
  attested := rfl

theorem authorize_gate_iff_sample : ∃ a, authorize sampleLoads (authorizeArgs
    (runGate sampleLoads sampleHost sampleSurroundings sampleInputs sampleContext) sampleRequest) =
      .ok a :=
  ⟨_, (authorize_gate_iff sampleLoads_reads).mpr ⟨sample_established, ⟨rfl, ⟨rfl, by decide⟩,
    ["hosted", "self-hosted", "reviewed-emergency"], by decide +kernel, by decide⟩, rfl⟩⟩

end Sample

end OptimizrActions.ValidationGate
