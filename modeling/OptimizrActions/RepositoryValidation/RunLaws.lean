import OptimizrActions.RepositoryValidation.Run
import OptimizrActions.RepositoryValidation.WorkspaceLaws

/-! The script of a repository runs only for a trusted candidate, again only after the reserved
status, and its evidence tells of exactly the runs that were made. -/

namespace OptimizrActions.RepositoryValidation

open Talk Prog
open Evidence (pathParts)

section Specification

/-- A program is named by its place, as only the script is. -/
def Query.isScript : Query → Bool
  | .run _ (program :: _) none => isAbsolute program
  | _ => false

def scriptRuns (log : Log) : Log := log.filter fun x => x.query.isScript

/-- How a run of the script ended, where it was a run at all. -/
def ended : Answer → Option (Int × Bool)
  | .process completed => some (completed.returncode, false)
  | .timedOut => some (124, true)
  | _ => none

def Attempt.outcome (attempt : Attempt) : Option (Int × Bool) :=
  some (attempt.exitCode, attempt.timedOut)

def pauses (log : Log) : List Nat :=
  log.filterMap fun x => match x.query with
    | .sleep seconds => some seconds
    | _ => none

/-- The evidence that is written. -/
def Query.payload? : Query → Option Json
  | .write _ payload => some payload
  | _ => none

def scriptQuery (workspace script : String) (args : List String) : Query :=
  .run (some workspace) (script :: args) none

/-- Neither a run of the script, nor a pause, nor evidence. -/
def Query.IsQuiet : Query → Prop
  | .sleep _ | .write _ _ => False
  | query => query.isScript = false

def Quiet (x : Exchange Query Answer) : Prop := x.query.IsQuiet

/-- The branch was fetched, and then the candidate was an ancestor of it. -/
def Trusted (workspace candidateSha trustedRef : String) (log : Log) : Prop :=
  ∃ before env fetched between ancestor after,
    log = before ++ ⟨.run (some workspace) (fetchArguments trustedRef) env, .process fetched⟩ ::
      between ++ ⟨.run (some workspace) (ancestorArguments candidateSha trustedRef) none,
        .process ancestor⟩ :: after ∧ fetched.returncode = 0 ∧ ancestor.returncode = 0

/-- The runs of a script with a budget, from a number on. -/
structure Tried (backoff left number : Nat) (log : Log) : Prop where
  few : (scriptRuns log).length ≤ left
  again : ∀ x ∈ (scriptRuns log).dropLast, ended x.answer = some (retryableExitCode, false)
  paused : pauses log = (List.range' number ((scriptRuns log).length - 1)).map (backoff * ·)

/-- The attempts are the runs of the script, and the last one is final. -/
structure Recorded (left : Nat) (attempts : List Attempt) (log : Log) : Prop where
  same : attempts.map Attempt.outcome = (scriptRuns log).map fun x => ended x.answer
  final : ∀ last ∈ attempts.getLast?, last.exitCode = retryableExitCode → attempts.length = left
  some_ : 0 < left → attempts ≠ []

def evidenceEntry (host : Host) (spec : RunSpec) (attempts : List Attempt) (last : Attempt)
    (images : List Json) (tools : Mapping) (answer : Answer) : Exchange Query Answer :=
  ⟨.write spec.evidencePath (evidencePayload host spec attempts last images tools), answer⟩

/-- How a validation ends: without evidence, or with that of its runs, written last. -/
def Concluded (host : Host) (spec : RunSpec) (left : Nat) (result : Except Raised Int) (log : Log) :
    Prop :=
  ((∀ x ∈ log, x.query.payload? = none) ∧ ∃ e, result = .error e) ∨
    ∃ before answer attempts last images tools,
      log = before ++ [evidenceEntry host spec attempts last images tools answer] ∧
      (∀ x ∈ before, x.query.payload? = none) ∧ Recorded left attempts before ∧
      last ∈ attempts.getLast? ∧
      (answer = .done ∧ result = .ok last.exitCode ∨ ∃ e, result = .error e)

/-- The action `repository-validation`, whatever it ends with. -/
structure Disciplined (host : Host) (inputs : ActionInputs) (result : Except Int Unit) (log : Log) :
    Prop where
  bounded : (scriptRuns log).length ≤ maxRetryAttempts
  /-- Only the reserved status asks for another run, after a pause that grows. -/
  tried : Tried inputs.retryBackoffSeconds.toNat inputs.retryAttempts.toNat 1 log
  trusted : inputs.requireTrustedRef = "true" → ∀ before x after, log = before ++ x :: after →
    x.query.isScript = true → Trusted inputs.workspace inputs.headSha inputs.trustedRef before
  /-- The evidence is written at the end, and tells of the runs before. -/
  told : ∀ before x after payload, log = before ++ x :: after → x.query.payload? = some payload →
    after = [] ∧ ∃ args imageRefs attempts last images tools,
      payload = evidencePayload host (inputs.runSpec args imageRefs) attempts last images tools ∧
      Recorded inputs.retryAttempts.toNat attempts before ∧ last ∈ attempts.getLast?
  passed : result = .ok () → (∃ x ∈ log, x.query.payload? ≠ none ∧ x.answer = .done) ∧
    ∃ run, (scriptRuns log).getLast? = some run ∧ ended run.answer = some (0, false)

end Specification

section Loop

variable {machine : Machine} {workspace script : String} {args : List String} {backoff : Nat}

theorem scriptRuns_append (log more : Log) :
    scriptRuns (log ++ more) = scriptRuns log ++ scriptRuns more := List.filter_append _ _

theorem pauses_append (log more : Log) : pauses (log ++ more) = pauses log ++ pauses more :=
  List.filterMap_append

theorem Quiet.not_script {x : Exchange Query Answer} (quiet : Quiet x) : x.query.isScript ≠ true := by
  cases at_ : x.query with
  | run cwd argv env =>
    rw [Quiet, at_] at quiet
    rw [show Query.isScript _ = false from quiet]
    exact Bool.false_ne_true
  | _ => exact Bool.false_ne_true

theorem scriptRuns_of_quiet {log : Log} (quiet : ∀ x ∈ log, Quiet x) : scriptRuns log = [] :=
  List.filter_eq_nil_iff.mpr fun x mem => (quiet x mem).not_script

theorem pauses_of_quiet {log : Log} (quiet : ∀ x ∈ log, Quiet x) : pauses log = [] := by
  rw [pauses, List.filterMap_eq_nil_iff]
  intro x mem
  have h := quiet x mem
  cases at_ : x.query with
  | sleep seconds =>
    rw [Quiet, at_] at h
    exact h.elim
  | _ => rfl

theorem emits_runScript : Emits (runScript machine workspace script args) fun result log =>
    ∃ answer, log = [⟨scriptQuery workspace script args, answer⟩] ∧
      ended answer = match result with
        | .ok outcome => some outcome
        | .error _ => none := by
  refine Emits.ask_bind fun answer => ?_
  cases answer with
  | process completed => exact Emits.pure ⟨_, rfl, rfl⟩
  | timedOut => exact Emits.pure ⟨_, rfl, rfl⟩
  | _ => exact Emits.throw ⟨_, rfl, rfl⟩

/-- A run that takes too long has another status than the reserved one. -/
theorem timedOut_of_ended {answer : Answer} {timedOut : Bool}
    (how : ended answer = some (retryableExitCode, timedOut)) : timedOut = false := by
  cases answer with
  | process completed => exact (Prod.mk.inj (Option.some.inj how)).2.symm
  | timedOut => exact absurd (Prod.mk.inj (Option.some.inj how)).1 (by decide)
  | _ => cases how

section Tried

variable {left number : Nat} {x : Exchange Query Answer} {log : Log} {seconds : Nat} {answer : Answer}

theorem scriptRuns_cons (isScript : x.query.isScript = true) :
    scriptRuns (x :: log) = x :: scriptRuns log := List.filter_cons_of_pos isScript

theorem scriptRuns_ne_nil {query : Query} (isScript : query.isScript = true) (answer : Answer)
    (log : Log) : scriptRuns (⟨query, answer⟩ :: log) ≠ [] := by
  rw [scriptRuns_cons isScript]
  exact List.cons_ne_nil _ _

theorem scriptRuns_sleep : scriptRuns (⟨.sleep seconds, answer⟩ :: log) = scriptRuns log :=
  List.filter_cons_of_neg Bool.false_ne_true

theorem pauses_sleep : pauses (⟨.sleep seconds, answer⟩ :: log) = seconds :: pauses log :=
  List.filterMap_cons_some rfl

theorem pauses_cons (isScript : x.query.isScript = true) : pauses (x :: log) = pauses log := by
  refine List.filterMap_cons_none ?_
  cases at_ : x.query with
  | sleep seconds =>
    rw [at_] at isScript
    cases isScript
  | _ => rfl

theorem tried_single (isScript : x.query.isScript = true) : Tried backoff (left + 1) number [x] := by
  have runs : scriptRuns [x] = [x] := scriptRuns_cons isScript
  refine ⟨?_, ?_, ?_⟩
  · rw [runs]
    exact Nat.le_add_left 1 left
  · rw [runs]
    exact List.forall_mem_nil _
  · rw [runs]
    exact pauses_cons isScript

theorem Tried.cons (h : Tried backoff left (number + 1) log) (isScript : x.query.isScript = true)
    (nonempty : scriptRuns log ≠ []) (asks : ended x.answer = some (retryableExitCode, false)) :
    Tried backoff (left + 1) number (x :: ⟨.sleep (backoff * number), answer⟩ :: log) := by
  have runs : scriptRuns (x :: ⟨.sleep (backoff * number), answer⟩ :: log) = x :: scriptRuns log := by
    rw [scriptRuns_cons isScript, scriptRuns_sleep]
  refine ⟨?_, ?_, ?_⟩
  · rw [runs]
    exact Nat.succ_le_succ h.few
  · rw [runs, List.dropLast_cons_of_ne_nil nonempty, List.forall_mem_cons]
    exact ⟨asks, h.again⟩
  · rw [pauses_cons isScript, pauses_sleep, runs, h.paused, List.length_cons, Nat.add_sub_cancel]
    cases eq : scriptRuns log with
    | nil => exact absurd eq nonempty
    | cons y rest => rfl

theorem recorded_single {exitCode : Int} {timedOut : Bool} (isScript : x.query.isScript = true)
    (how : ended x.answer = some (exitCode, timedOut)) (final : exitCode ≠ retryableExitCode ∨ left = 0) :
    Recorded (left + 1) [⟨number, exitCode, timedOut⟩] [x] where
  same := by
    rw [scriptRuns_cons isScript]
    simp [scriptRuns, Attempt.outcome, how]
  final := by
    intro last mem again
    obtain rfl : _ = last := by simpa using mem
    rw [final.resolve_left fun differ => differ again]
    rfl
  some_ _ := List.cons_ne_nil _ _

theorem Recorded.cons {attempts : List Attempt} {exitCode : Int} {timedOut : Bool}
    (h : Recorded left attempts log) (isScript : x.query.isScript = true) (more : 0 < left)
    (how : ended x.answer = some (exitCode, timedOut)) :
    Recorded (left + 1) (⟨number, exitCode, timedOut⟩ :: attempts)
      (x :: ⟨.sleep seconds, answer⟩ :: log) where
  same := by
    rw [scriptRuns_cons isScript, scriptRuns_sleep, List.map_cons, List.map_cons, h.same, how]
    rfl
  final := by
    intro last mem again
    rw [List.getLast?_cons_of_ne_nil (h.some_ more)] at mem
    rw [List.length_cons, h.final last mem again]
  some_ _ := List.cons_ne_nil _ _

end Tried

/-- Each run is final, or the next one follows a pause. -/
theorem emits_attemptLoop {left number : Nat} (absolute : isAbsolute script = true) :
    Emits (attemptLoop machine workspace script args backoff left number) fun result log =>
      Tried backoff left number log ∧ (0 < left → scriptRuns log ≠ []) ∧ (∀ x ∈ log, x.query.payload? = none) ∧
        ∀ attempts, result = .ok attempts → Recorded left attempts log := by
  induction left generalizing number with
  | zero =>
    refine Emits.pure ⟨⟨Nat.le_refl 0, List.forall_mem_nil _, rfl⟩,
      fun zero => absurd zero (Nat.lt_irrefl 0), List.forall_mem_nil _, ?_⟩
    rintro attempts returned
    cases returned
    exact ⟨rfl, fun last mem => absurd mem (Option.not_mem_none last),
      fun zero => absurd zero (Nat.lt_irrefl 0)⟩
  | succ left ih =>
    have isScript : (scriptQuery workspace script args).isScript = true := absolute
    refine Emits.andThen emits_runScript ?_ ?_
    · rintro ⟨exitCode, timedOut⟩ log ⟨answer, rfl, how⟩
      simp only at how
      change Emits (if _ then _ else _) _
      split
      next final =>
        refine Emits.pure ⟨tried_single isScript, fun _ => ?_, ?_, fun attempts returned => ?_⟩
        · exact scriptRuns_ne_nil isScript answer _
        · exact List.forall_mem_singleton.mpr rfl
        · cases returned
          exact recorded_single isScript how final
      next again =>
        rw [not_or, not_not] at again
        obtain ⟨rfl, more⟩ := again
        have asks : ended answer = some (retryableExitCode, false) := by
          rw [how, timedOut_of_ended how]
        refine Emits.ask_bind fun pause => Emits.andThen ih ?_ ?_
        · rintro attempts rest ⟨tried, run, unwritten, recorded⟩
          refine Emits.pure ?_
          rw [List.append_nil]
          refine ⟨tried.cons isScript (run (Nat.pos_of_ne_zero more)) asks, fun _ => ?_, ?_,
            fun all returned => ?_⟩
          · exact scriptRuns_ne_nil isScript answer _
          · exact List.forall_mem_cons.mpr ⟨rfl, List.forall_mem_cons.mpr ⟨rfl, unwritten⟩⟩
          · cases returned
            exact (recorded attempts rfl).cons isScript (Nat.pos_of_ne_zero more) how
        · rintro e rest ⟨tried, run, unwritten, -⟩
          refine ⟨tried.cons isScript (run (Nat.pos_of_ne_zero more)) asks, fun _ => ?_, ?_,
            fun all returned => ?_⟩
          · exact scriptRuns_ne_nil isScript answer _
          · exact List.forall_mem_cons.mpr ⟨rfl, List.forall_mem_cons.mpr ⟨rfl, unwritten⟩⟩
          · cases returned
    · rintro e log ⟨answer, rfl, how⟩
      refine ⟨tried_single isScript, fun _ => ?_, List.forall_mem_singleton.mpr rfl, ?_⟩
      · exact scriptRuns_ne_nil isScript answer _
      · intro attempts returned
        cases returned

end Loop

section Phases

variable {machine : Machine} {environ : Env} {host : Host} {workspace : String}

theorem quiet_run {cwd : Option String} {program : String} {rest : List String} {env : Option Env}
    (named : isAbsolute program = false) (answer : Answer) :
    Quiet ⟨.run cwd (program :: rest) env, answer⟩ := by
  cases env with
  | none => exact named
  | some env => exact rfl

theorem isAbsolute_rootText (parts : List String) : isAbsolute (rootText parts) = true := by
  rw [isAbsolute, rootText, String.toList_append]
  rfl

theorem within_runProcess_bind {β : Type} {cwd : Option String} {program : String}
    {rest : List String} {env : Option Env} {next : Completed → Runner β} {whole : β → Log → Prop}
    (named : isAbsolute program = false)
    (goes : ∀ completed, Within Quiet (next completed) fun b log =>
      whole b (⟨.run cwd (program :: rest) env, .process completed⟩ :: log)) :
    Within Quiet (runProcess machine cwd (program :: rest) env >>= next) whole := by
  have asked : Within Quiet (runProcess machine cwd (program :: rest) env) fun completed log =>
      log = [⟨.run cwd (program :: rest) env, .process completed⟩] := by
    refine Within.ask_bind (quiet_run named) fun answer => ?_
    cases answer with
    | process completed => exact Within.pure rfl
    | _ => exact Within.throw
  refine Within.bind asked fun completed log eq => ?_
  subst eq
  exact goes completed

theorem within_verifyTrustedCandidate {candidateSha trustedRef token : String} :
    Within Quiet (verifyTrustedCandidate machine environ workspace candidateSha trustedRef token)
      fun _ log => Trusted workspace candidateSha trustedRef log := by
  refine Within.ensure_bind fun _ => Within.ensure_bind fun _ => Within.ofExcept_bind fun env _ => ?_
  refine within_runProcess_bind (by decide) fun fetched => Within.ensure_bind fun zero => ?_
  refine within_runProcess_bind (by decide) fun ancestor => ?_
  unfold ensure
  split
  next zero' => exact Within.pure ⟨[], env, fetched, [], ancestor, [], rfl, zero, zero'⟩
  · exact Within.throw

theorem within_resolveScript {scriptPath : String} :
    Within Quiet (resolveScript machine workspace scriptPath)
      fun script _ => isAbsolute script = true := by
  refine Within.ask_bind (fun _ => rfl) fun answer => ?_
  cases answer with
  | path root =>
    refine Within.ensure_bind fun _ => Within.bind (within_containsSymlink fun _ _ => rfl)
      fun linked _ _ => Within.ensure_bind fun _ => Within.ask_bind (fun _ => rfl) fun answer => ?_
    cases answer with
    | path candidate =>
      refine Within.ensure_bind fun _ => within_askFlag_bind (fun _ => rfl) fun file => ?_
      refine Within.ensure_bind fun _ => within_askFlag_bind (fun _ => rfl) fun executable => ?_
      exact Within.ensure_bind fun _ => Within.pure (isAbsolute_rootText candidate)
    | _ => exact Within.throw
  | _ => exact Within.throw

theorem within_imageIdentity {commands : List (List String)}
    (named : ∀ command ∈ commands, ∃ program rest, command = program :: rest ∧
      isAbsolute program = false) :
    Within Quiet (imageIdentity machine commands) fun _ _ => True := by
  induction commands with
  | nil => exact Within.pure trivial
  | cons command commands ih =>
    rw [List.forall_mem_cons] at named
    obtain ⟨⟨program, rest, rfl, plain⟩, named⟩ := named
    refine Within.ask_bind (quiet_run plain) fun answer => ?_
    cases answer with
    | process completed =>
      simp only
      split
      · exact Within.pure trivial
      · exact ih named
    | timedOut => exact ih named
    | notFound => exact ih named
    | _ => exact Within.throw

theorem within_collectImageIdentities {imageRefs : List String} :
    Within Quiet (collectImageIdentities machine host imageRefs) fun _ _ => True := by
  induction imageRefs with
  | nil => exact Within.pure trivial
  | cons imageRef imageRefs ih =>
    have named : ∀ command ∈ identityCommands imageRef, ∃ program rest, command = program :: rest ∧
        isAbsolute program = false := by
      simp only [identityCommands, List.forall_mem_cons]
      exact ⟨⟨_, _, rfl, by decide⟩, ⟨_, _, rfl, by decide⟩, List.forall_mem_nil _⟩
    refine Within.bind (within_imageIdentity named) fun identity _ _ => ?_
    cases identity with
    | none => exact Within.throw
    | some identity => exact Within.bind ih fun _ _ _ => Within.pure trivial

theorem within_version {program : String} {rest : List String} (named : isAbsolute program = false) :
    Within Quiet (version machine (program :: rest)) fun _ _ => True := by
  refine Within.ask_bind (quiet_run named) fun answer => ?_
  cases answer with
  | process completed => exact Within.pure trivial
  | timedOut => exact Within.pure trivial
  | notFound => exact Within.pure trivial
  | _ => exact Within.throw

theorem within_collectVersions {pythonVersion : String} :
    Within Quiet (collectVersions machine pythonVersion) fun _ _ => True :=
  Within.bind (within_version (by decide)) fun _ _ _ =>
    Within.bind (within_version (by decide)) fun _ _ _ =>
      Within.bind (within_version (by decide)) fun _ _ _ => Within.pure trivial

end Phases

section Whole

variable {machine : Machine} {host : Host} {backoff left number : Nat} {log first more : Log}

theorem payload_of_quiet (quiet : ∀ x ∈ log, Quiet x) : ∀ x ∈ log, x.query.payload? = none := by
  intro x mem
  have h := quiet x mem
  cases at_ : x.query with
  | write path payload =>
    rw [Quiet, at_] at h
    exact h.elim
  | _ => rfl

/-- What is quiet leaves the runs and the pauses as they are. -/
theorem Tried.between (h : Tried backoff left number log) (before : ∀ x ∈ first, Quiet x)
    (after : scriptRuns more = [] ∧ pauses more = []) : Tried backoff left number (first ++ log ++ more) := by
  have runs : scriptRuns (first ++ log ++ more) = scriptRuns log := by
    rw [scriptRuns_append, scriptRuns_append, scriptRuns_of_quiet before, after.1, List.nil_append,
      List.append_nil]
  have stops : pauses (first ++ log ++ more) = pauses log := by
    rw [pauses_append, pauses_append, pauses_of_quiet before, after.2, List.nil_append,
      List.append_nil]
  refine ⟨?_, ?_, ?_⟩
  · rw [runs]
    exact h.few
  · rw [runs]
    exact h.again
  · rw [runs, stops]
    exact h.paused

theorem tried_nil : Tried backoff left number [] :=
  ⟨Nat.zero_le left, List.forall_mem_nil _, rfl⟩

theorem tried_of_quiet (quiet : ∀ x ∈ log, Quiet x) : Tried backoff left number log := by
  have h : Tried backoff left number (log ++ [] ++ []) := tried_nil.between quiet ⟨rfl, rfl⟩
  rwa [List.append_nil, List.append_nil] at h

theorem Recorded.between {attempts : List Attempt} (h : Recorded left attempts log)
    (before : ∀ x ∈ first, Quiet x) (after : ∀ x ∈ more, Quiet x) :
    Recorded left attempts (first ++ log ++ more) where
  same := by
    rw [scriptRuns_append, scriptRuns_append, scriptRuns_of_quiet before, scriptRuns_of_quiet after,
      List.nil_append, List.append_nil]
    exact h.same
  final := h.final
  some_ := h.some_

theorem retryAttempts_of_checked {spec : RunSpec} {u : Unit} (checked : checkRunSpec spec = .ok u) :
    0 < spec.retryAttempts.toNat ∧ spec.retryAttempts.toNat ≤ maxRetryAttempts := by
  unfold checkRunSpec at checked
  repeat' split at checked
  all_goals cases checked
  rename_i _ _ _ bounds _
  simp only [maxRetryAttempts] at bounds ⊢
  omega

/-- The runs are bounded, and the evidence tells of them. -/
theorem emits_runValidation {pythonVersion : String} {spec : RunSpec} :
    Emits (runValidation machine host pythonVersion spec) fun result log =>
      (scriptRuns log).length ≤ maxRetryAttempts ∧
      Tried spec.retryBackoffSeconds.toNat spec.retryAttempts.toNat 1 log ∧
      Concluded host spec spec.retryAttempts.toNat result log := by
  have stopped {log : Log} (quiet : ∀ x ∈ log, Quiet x) (e : Raised) :
      (scriptRuns log).length ≤ maxRetryAttempts ∧
        Tried spec.retryBackoffSeconds.toNat spec.retryAttempts.toNat 1 log ∧
        Concluded host spec spec.retryAttempts.toNat (.error e) log := by
    refine ⟨?_, tried_of_quiet quiet, .inl ⟨payload_of_quiet quiet, e, rfl⟩⟩
    rw [scriptRuns_of_quiet quiet]
    exact Nat.zero_le _
  refine Emits.ofExcept_bind (fun _ checked => ?_) fun e _ => stopped (List.forall_mem_nil _) e
  obtain ⟨some_, few⟩ := retryAttempts_of_checked checked
  refine Within.emits_bind within_resolveScript (fun script first calm absolute => ?_)
    fun e log calm => stopped calm e
  refine Emits.andThen (emits_attemptLoop absolute) ?_ ?_
  · rintro attempts tries ⟨tried, -, unwritten, recorded⟩
    have ended_ {more : Log} (quiet : ∀ x ∈ more, Quiet x) :
        (scriptRuns (first ++ tries ++ more)).length ≤ maxRetryAttempts ∧
          Tried spec.retryBackoffSeconds.toNat spec.retryAttempts.toNat 1 (first ++ tries ++ more) ∧
          ∀ x ∈ first ++ tries ++ more, x.query.payload? = none := by
      have tried' := tried.between calm ⟨scriptRuns_of_quiet quiet, pauses_of_quiet quiet⟩
      refine ⟨tried'.few.trans few, tried', ?_⟩
      exact List.forall_mem_append.mpr
        ⟨List.forall_mem_append.mpr ⟨payload_of_quiet calm, unwritten⟩, payload_of_quiet quiet⟩
    refine Within.emits_bind within_collectImageIdentities (fun images more calm' _ => ?_) ?_
    · refine Within.emits_bind within_collectVersions (fun tools others calm'' _ => ?_) ?_
      · obtain ⟨bound, tried', unwritten'⟩ := ended_ (List.forall_mem_append.mpr ⟨calm', calm''⟩)
        have recorded' := (recorded attempts rfl).between calm (List.forall_mem_append.mpr ⟨calm', calm''⟩)
        obtain ⟨last, isLast⟩ : ∃ last, attempts.getLast? = some last :=
          ⟨_, List.getLast?_eq_some_getLast (recorded'.some_ some_)⟩
        rw [isLast, Option.getD_some]
        refine Emits.ask_bind fun answer => ?_
        have once : Tried spec.retryBackoffSeconds.toNat spec.retryAttempts.toNat 1
            ([] ++ (first ++ tries ++ (more ++ others)) ++
              [evidenceEntry host spec attempts last images tools answer]) :=
          tried'.between (List.forall_mem_nil _) ⟨rfl, rfl⟩
        have closed (result : Except Raised Int)
            (how : answer = .done ∧ result = .ok last.exitCode ∨ ∃ e, result = .error e) :
            Concluded host spec spec.retryAttempts.toNat result
              ([] ++ (first ++ tries ++ (more ++ others)) ++
                [evidenceEntry host spec attempts last images tools answer]) :=
          .inr ⟨_, answer, attempts, last, images, tools, rfl, unwritten', recorded', isLast, how⟩
        simp only [List.append_assoc, List.nil_append] at once closed
        cases answer with
        | done => exact Emits.pure ⟨once.few.trans few, once, closed _ (.inl ⟨rfl, rfl⟩)⟩
        | _ => exact Emits.throw ⟨once.few.trans few, once, closed _ (.inr ⟨_, rfl⟩)⟩
      · intro e others calm''
        obtain ⟨bound, tried', unwritten'⟩ := ended_ (List.forall_mem_append.mpr ⟨calm', calm''⟩)
        rw [← List.append_assoc]
        exact ⟨bound, tried', .inl ⟨unwritten', e, rfl⟩⟩
    · intro e more calm'
      obtain ⟨bound, tried', unwritten'⟩ := ended_ calm'
      rw [← List.append_assoc]
      exact ⟨bound, tried', .inl ⟨unwritten', e, rfl⟩⟩
  · rintro e tries ⟨tried, -, unwritten, -⟩
    have tried' : Tried _ _ 1 (first ++ tries ++ []) := tried.between calm ⟨rfl, rfl⟩
    rw [List.append_nil] at tried'
    exact ⟨tried'.few.trans few, tried', .inl ⟨List.forall_mem_append.mpr
      ⟨payload_of_quiet calm, unwritten⟩, e, rfl⟩⟩

end Whole

section Action

variable {machine : Machine} {environ : Env} {loads : String → Except String Json} {host : Host}
  {pythonVersion : String} {inputs : ActionInputs}

theorem Trusted.append {workspace candidateSha trustedRef : String} {log : Log}
    (h : Trusted workspace candidateSha trustedRef log) (more : Log) :
    Trusted workspace candidateSha trustedRef (log ++ more) := by
  obtain ⟨before, env, fetched, between, ancestor, after, rfl, zero, zero'⟩ := h
  exact ⟨before, env, fetched, between, ancestor, after ++ more, by simp, zero, zero'⟩

theorem emits_checkTrust : Emits (checkTrust machine environ inputs) fun result log =>
    (∀ x ∈ log, Quiet x) ∧ (result = .ok () → inputs.requireTrustedRef = "true" →
      Trusted inputs.workspace inputs.headSha inputs.trustedRef log) := by
  unfold checkTrust
  split
  · refine emits_exiting (Emits.conseq within_verifyTrustedCandidate ?_)
    rintro result log ⟨quiet, trusted⟩
    refine ⟨quiet, fun returned _ => ?_⟩
    cases result with
    | ok u => exact trusted u rfl
    | error e => cases returned
  next other => exact Emits.pure ⟨List.forall_mem_nil _, fun _ required => absurd required other⟩

/-- What the last recorded run was. -/
theorem Recorded.last {left : Nat} {attempts : List Attempt} {log : Log} {last : Attempt}
    (h : Recorded left attempts log) (isLast : last ∈ attempts.getLast?) :
    ∃ run, (scriptRuns log).getLast? = some run ∧ ended run.answer = last.outcome := by
  have same := congrArg List.getLast? h.same
  rw [List.getLast?_map, List.getLast?_map, show attempts.getLast? = some last from isLast,
    Option.map_some, eq_comm, Option.map_eq_some_iff] at same
  exact same

theorem ended_zero {answer : Answer} {timedOut : Bool} (how : ended answer = some (0, timedOut)) :
    ended answer = some (0, false) := by
  cases answer with
  | process completed =>
    rw [how, show timedOut = false from (Prod.mk.inj (Option.some.inj how)).2.symm]
  | timedOut => exact absurd (Prod.mk.inj (Option.some.inj how)).1 (by decide)
  | _ => cases how

/-- Evidence after what was not evidence. -/
theorem Concluded.told {spec : RunSpec} {left : Nat} {result : Except Raised Int} {log first : Log}
    (h : Concluded host spec left result log) (quiet : ∀ x ∈ first, Quiet x)
    {before after : Log} {x : Exchange Query Answer} {payload : Json}
    (eq : first ++ log = before ++ x :: after) (written : x.query.payload? = some payload) :
    after = [] ∧ ∃ attempts last images tools,
      payload = evidencePayload host spec attempts last images tools ∧
      Recorded left attempts before ∧ last ∈ attempts.getLast? := by
  have unwritten {log : Log} (none_ : ∀ x ∈ log, x.query.payload? = none) (mem : x ∈ log) : False := by
    rw [none_ x mem] at written
    cases written
  rcases h with ⟨none_, -⟩ | ⟨body, answer, attempts, last, images, tools, rfl, none_, recorded, isLast, -⟩
  · refine (unwritten (List.forall_mem_append.mpr ⟨payload_of_quiet quiet, none_⟩) ?_).elim
    rw [eq]
    exact List.mem_append_right _ List.mem_cons_self
  · have none' := List.forall_mem_append.mpr ⟨payload_of_quiet quiet, none_⟩
    rw [← List.append_assoc] at eq
    obtain rfl | ⟨after, y, rfl⟩ := List.eq_nil_or_concat after
    · obtain ⟨rfl, one⟩ := List.append_inj' eq rfl
      cases List.head_eq_of_cons_eq one
      cases written
      have recorded' : Recorded left attempts (first ++ body ++ []) :=
        recorded.between quiet (List.forall_mem_nil _)
      rw [List.append_nil] at recorded'
      exact ⟨rfl, attempts, last, images, tools, rfl, recorded', isLast⟩
    · rw [List.concat_eq_append, ← List.cons_append, ← List.append_assoc] at eq
      refine (unwritten none' ?_).elim
      rw [(List.append_inj' eq rfl).1]
      exact List.mem_append_right _ List.mem_cons_self

theorem emits_runMain : Emits (runMain machine loads host pythonVersion inputs) fun result log =>
    (log = [] ∧ ∃ status, result = .error status) ∨
      ∃ args imageRefs outcome, (scriptRuns log).length ≤ maxRetryAttempts ∧
        Tried inputs.retryBackoffSeconds.toNat inputs.retryAttempts.toNat 1 log ∧
        Concluded host (inputs.runSpec args imageRefs) inputs.retryAttempts.toNat outcome log ∧
        (result = .ok () → outcome = .ok 0) := by
  have exited : Emits (exiting do
      let args ← ofExcept (parseArgsJson loads inputs.argsJson)
      let imageRefs ← ofExcept (parseArgsJson loads inputs.imageRefsJson)
      runValidation machine host pythonVersion (inputs.runSpec args imageRefs)) fun result log =>
      (log = [] ∧ ∃ status, result = .error status) ∨
        ∃ args imageRefs outcome, (scriptRuns log).length ≤ maxRetryAttempts ∧
          Tried inputs.retryBackoffSeconds.toNat inputs.retryAttempts.toNat 1 log ∧
          Concluded host (inputs.runSpec args imageRefs) inputs.retryAttempts.toNat outcome log ∧
          ∀ status, result = .ok status → outcome = .ok status := by
    refine emits_exiting (Emits.ofExcept_bind (fun args _ => ?_) fun e _ => .inl ⟨rfl, 2, rfl⟩)
    refine Emits.ofExcept_bind (fun imageRefs _ => ?_) fun e _ => .inl ⟨rfl, 2, rfl⟩
    refine Emits.conseq emits_runValidation fun outcome log holds => ?_
    refine .inr ⟨args, imageRefs, outcome, holds.1, holds.2.1, holds.2.2, fun status returned => ?_⟩
    cases outcome with
    | ok code =>
      cases returned
      rfl
    | error e => cases returned
  refine Emits.andThen exited (fun status log holds => ?_) ?_
  · rcases holds with ⟨-, _, returned⟩ | ⟨args, imageRefs, outcome, bounded, tried, concluded, same⟩
    · cases returned
    · refine Emits.ensure (fun zero => .inr ⟨args, imageRefs, outcome, ?_⟩)
        fun _ => .inr ⟨args, imageRefs, outcome, ?_⟩
      · rw [List.append_nil]
        exact ⟨bounded, tried, concluded, fun _ => zero ▸ same status rfl⟩
      · rw [List.append_nil]
        refine ⟨bounded, tried, concluded, fun returned => ?_⟩
        cases returned
  · rintro e log (⟨rfl, -⟩ | ⟨args, imageRefs, outcome, bounded, tried, concluded, -⟩)
    · exact .inl ⟨rfl, e, rfl⟩
    · refine .inr ⟨args, imageRefs, outcome, bounded, tried, concluded, fun returned => ?_⟩
      cases returned

theorem disciplined_error {status : Int} {log : Log} (quiet : ∀ x ∈ log, Quiet x) :
    Disciplined host inputs (.error status) log where
  bounded := by
    rw [scriptRuns_of_quiet quiet]
    exact Nat.zero_le _
  tried := tried_of_quiet quiet
  trusted _ before x after eq isScript :=
    absurd isScript (quiet x (eq ▸ List.mem_append_right _ List.mem_cons_self)).not_script
  told before x after payload eq written := by
    rw [payload_of_quiet quiet x (eq ▸ List.mem_append_right _ List.mem_cons_self)] at written
    cases written
  passed returned := by cases returned

theorem emits_repositoryValidation :
    Emits (repositoryValidation machine environ loads host pythonVersion inputs)
      (Disciplined host inputs) := by
  refine Emits.andThen emits_checkTrust (fun u first checked => ?_) fun e log checked =>
    disciplined_error checked.1
  obtain ⟨quiet, trusted⟩ := checked
  refine Emits.conseq emits_runMain ?_
  rintro result log (⟨rfl, status, rfl⟩ |
    ⟨args, imageRefs, outcome, bounded, tried, concluded, zero⟩)
  · rw [List.append_nil]
    exact disciplined_error quiet
  · have tried' : Tried _ _ 1 (first ++ log ++ []) := tried.between quiet ⟨rfl, rfl⟩
    rw [List.append_nil] at tried'
    have runs : scriptRuns (first ++ log) = scriptRuns log := by
      rw [scriptRuns_append, scriptRuns_of_quiet quiet, List.nil_append]
    refine ⟨runs ▸ bounded, tried', fun required before x after eq isScript => ?_,
      fun before x after payload eq written => ?_, fun returned => ?_⟩
    · have absent : x ∉ first := fun mem => (quiet x mem).not_script isScript
      obtain ⟨between, rfl, -⟩ := exists_of_not_mem absent eq
      exact (trusted rfl required).append between
    · obtain ⟨last_, attempts, last, images, tools, told⟩ := concluded.told quiet eq written
      exact ⟨last_, args, imageRefs, attempts, last, images, tools, told⟩
    · rcases concluded with ⟨-, e, isError⟩ |
        ⟨body, answer, attempts, last, images, tools, rfl, -, recorded, isLast, how⟩
      · rw [zero returned] at isError
        cases isError
      · rw [zero returned] at how
        rcases how with ⟨rfl, isZero⟩ | ⟨e, isError⟩
        · obtain ⟨run, isRun, how⟩ := recorded.last isLast
          rw [Attempt.outcome, ← Except.ok.inj isZero] at how
          refine ⟨⟨_, List.mem_append_right _ (List.mem_append_right _ List.mem_cons_self),
            Option.some_ne_none _, rfl⟩, run, ?_, ended_zero how⟩
          rw [runs, scriptRuns_append, show scriptRuns [_] = [] from rfl, List.append_nil]
          exact isRun
        · cases isError

end Action

end OptimizrActions.RepositoryValidation
