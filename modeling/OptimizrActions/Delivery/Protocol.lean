import OptimizrActions.Delivery.Executor

/-! Every run of the delivery flow, whatever its components do. -/

namespace OptimizrActions.Delivery

open Prog

def isSync : Event → Bool
  | .sync _ => true
  | _ => false

/-- The service lock after these events. -/
def held : List Event → Bool :=
  List.foldl (fun now event => match event with
    | .acquired => true
    | .released => false
    | .closed => false
    | _ => now) false

/-- What the gate runner returned for a phase, call by call. -/
def phaseItems (phase : Phase) (log : List Event) : List (List GateItem) :=
  log.filterMap fun event => match event with
    | .gates p items => if p = phase then some items else none
    | _ => none

/-- The phase was run once, and its gates passed. -/
def Passed (phase : Phase) (required : List Json) (log : List Event) : Prop :=
  ∃ items, phaseItems phase log = [items] ∧ PhasePassed required items

/-- The calls of the synchronization runner. -/
def syncCalls (log : List Event) : List SyncSpec :=
  log.filterMap fun event => match event with
    | .sync call => some call
    | _ => none

/-- The value is a checkout of this commit. -/
def IsCheckoutOf (sha : String) (value : CheckoutValue) : Prop :=
  isSha sha = true ∧ ∃ path ref, value = .result path (.str sha) ref

structure MaySync (spec : ExecutorSpec) (before : List Event) : Prop where
  locked : held before = true
  verified : ∃ value, .checkedOut value ∈ before ∧
    IsCheckoutOf spec.checkout.request.candidateSha value
  preflight : Passed .preflight spec.preflightGates before

structure Orderly (spec : ExecutorSpec) (log : List Event) : Prop where
  once : log.countP isSync ≤ 1
  justified : ∀ before call after, log = before ++ .sync call :: after → MaySync spec before

variable {spec : ExecutorSpec} {log : List Event}

theorem held_append_closed : held (log ++ [.closed]) = false := by
  rw [held, List.foldl_append]
  rfl

theorem orderly_nil : Orderly spec [] := by
  refine ⟨Nat.zero_le _, fun before call after h => ?_⟩
  exact absurd h.symm (List.append_ne_nil_of_right_ne_nil before nofun)

/-- The last event of a log is the one found there, or it comes after it. -/
theorem last_or_earlier {last event : Event} {before after : List Event}
    (h : log ++ [last] = before ++ event :: after) :
    log = before ∧ last = event ∨ ∃ rest, log = before ++ event :: rest := by
  rcases List.eq_nil_or_concat after with rfl | ⟨rest, x, rfl⟩
  · obtain ⟨same, one⟩ := List.append_inj' h rfl
    exact .inl ⟨same, List.head_eq_of_cons_eq one⟩
  · have h : log ++ [last] = (before ++ event :: rest) ++ [x] := by simpa using h
    exact .inr ⟨rest, (List.append_inj' h rfl).1⟩

theorem Orderly.append_other (h : Orderly spec log) {event : Event} (other : isSync event = false) :
    Orderly spec (log ++ [event]) := by
  constructor
  · rw [List.countP_append, List.countP_singleton, if_neg (by simp [other])]
    exact h.once
  · intro before call after eq
    rcases last_or_earlier eq with ⟨-, rfl⟩ | ⟨rest, eq⟩
    · cases other
    · exact h.justified before call rest eq

theorem Orderly.append_sync (h : Orderly spec log) (none : log.countP isSync = 0)
    (may : MaySync spec log) (call : SyncSpec) : Orderly spec (log ++ [.sync call]) := by
  constructor
  · rw [List.countP_append, none]
    exact Nat.le_refl 1
  · intro before call after eq
    rcases last_or_earlier eq with ⟨rfl, -⟩ | ⟨rest, eq⟩
    · exact may
    · exact h.justified before call rest eq

/-- What the end of a run says of the log, apart from the lock. -/
def Ended (spec : ExecutorSpec) (result : ExecutorResult) (log : List Event) : Prop :=
  result.ready = true ↔ Passed .preflight spec.preflightGates log ∧
    Passed .postflight spec.postflightGates log

/-- Kept by a release and by a close of the lock. -/
def IsLockEnd (event : Event) : Prop := event = .released ∨ event = .closed

theorem Orderly.append_end (h : Orderly spec log) {event : Event} (last : IsLockEnd event) :
    Orderly spec (log ++ [event]) := by
  rcases last with rfl | rfl
  · exact h.append_other rfl
  · exact h.append_other rfl

theorem phaseItems_append_end {event : Event} (last : IsLockEnd event) (phase : Phase) :
    phaseItems phase (log ++ [event]) = phaseItems phase log := by
  rcases last with rfl | rfl <;> simp [phaseItems, List.filterMap_append]

theorem syncCalls_append_end {event : Event} (last : IsLockEnd event) :
    syncCalls (log ++ [event]) = syncCalls log := by
  rcases last with rfl | rfl <;> simp [syncCalls, List.filterMap_append]

/-- The checkout of a request. -/
structure Verified (request : DeployRequest) (checkout : CheckoutResult) : Prop where
  sha : checkout.headSha = request.candidateSha ∧ isSha request.candidateSha = true
  trustedRef : checkout.trustedRef = request.trustedRef

/-- How a run comes to its result, from what its components returned. -/
inductive Produced (unicodeWord : Char → Bool) (spec : ExecutorSpec) (runners : Runners)
    (log : List Event) : ExecutorResult → Prop
  | refused {checkout : CheckoutResult} {items : List GateItem} {preflight : GateEvaluation} :
    Verified spec.checkout.request checkout → phaseItems .preflight log = [items] →
    phaseItems .postflight log = [] → syncCalls log = [] →
    evaluateGateEvidence unicodeWord items spec.preflightGates = .ok preflight →
    preflight.passed = false →
    Produced unicodeWord spec runners log
      (executorResult spec.checkout.request checkout none preflight none)
  | synchronized {checkout : CheckoutResult} {items items' : List GateItem}
    {preflight postflight : GateEvaluation} {call : SyncSpec} {sync : SyncResult} :
    Verified spec.checkout.request checkout → phaseItems .preflight log = [items] →
    phaseItems .postflight log = [items'] → syncCalls log = [call] →
    evaluateGateEvidence unicodeWord items spec.preflightGates = .ok preflight →
    preflight.passed = true → runners.sync call = .ok (.result sync) →
    checkSync executorSyncTexts sync = .ok ⟨⟩ →
    evaluateGateEvidence unicodeWord items' spec.postflightGates = .ok postflight →
    Produced unicodeWord spec runners log
      (executorResult spec.checkout.request checkout (some sync) preflight (some postflight))

theorem Produced.append_end {unicodeWord : Char → Bool} {runners : Runners}
    {result : ExecutorResult} (h : Produced unicodeWord spec runners log result) {event : Event}
    (last : IsLockEnd event) : Produced unicodeWord spec runners (log ++ [event]) result := by
  cases h with
  | refused verified pre post none evaluated failed =>
    exact .refused verified ((phaseItems_append_end last _).trans pre)
      ((phaseItems_append_end last _).trans post) ((syncCalls_append_end last).trans none)
      evaluated failed
  | synchronized verified pre post one evaluated passed synced checked evaluated' =>
    exact .synchronized verified ((phaseItems_append_end last _).trans pre)
      ((phaseItems_append_end last _).trans post) ((syncCalls_append_end last).trans one)
      evaluated passed synced checked evaluated'

theorem Produced.ended {unicodeWord : Char → Bool} {runners : Runners} {result : ExecutorResult}
    (h : Produced unicodeWord spec runners log result) : Ended spec result log := by
  have passed {phase : Phase} {items : List GateItem} {required : List Json}
      {evaluation : GateEvaluation} (one : phaseItems phase log = [items])
      (evaluated : evaluateGateEvidence unicodeWord items required = .ok evaluation) :
      Passed phase required log ↔ evaluation.passed = true := by
    rw [evaluateGateEvidence_passed_iff evaluated, Passed, one]
    simp
  cases h with
  | refused verified pre post none evaluated failed =>
    rw [Ended, passed pre evaluated, failed]
    simp [executorResult, failed]
  | synchronized verified pre post one evaluated ok synced checked evaluated' =>
    rw [Ended, passed pre evaluated, passed post evaluated', executorResult, Bool.and_eq_true]
    rfl

section

variable {α : Type} {fs : FileSystem} {lock : LockHost}

theorem acquire_triple (attempts : List Attempt) :
    Triple (· = []) (acquire attempts) (fun _ log => log = [.acquired]) fun _ log => log = [] := by
  induction attempts with
  | nil => exact Triple.throw fun _ h => h
  | cons attempt rest ih =>
    cases attempt with
    | acquired => exact Triple.modify fun _ h => congrArg (· ++ [Event.acquired]) h
    | refused => exact ih
    | failed e => exact Triple.throw fun _ h => h

/-- What holds of a locked body's log, and survives the end of the lock, holds of the log of
the whole statement, at whose end the lock is free. -/
theorem serviceLock_triple {root : RawPath} {service : String} {timeout : Option Rat}
    {body : Run α} {post : α → List Event → Prop} {always : List Event → Prop}
    (start : always []) (kept : ∀ log event, IsLockEnd event → always log → always (log ++ [event]))
    (postKept : ∀ a log event, IsLockEnd event → post a log → post a (log ++ [event]))
    (inner : Triple (· = [.acquired]) body (fun a log => always log ∧ post a log)
      fun _ => always) :
    Triple (· = []) (serviceLock fs lock root service timeout body)
      (fun a log => (always log ∧ post a log) ∧ held log = false)
      fun _ log => always log ∧ held log = false := by
  have outside : ∀ log : List Event, log = [] → always log ∧ held log = false := by
    rintro _ rfl
    exact ⟨start, rfl⟩
  have unlocked : Triple (· = [.acquired]) (finallyDo body (unlock lock))
      (fun a log => always log ∧ post a log) fun _ => always := by
    have release {p : List Event → Prop} (kept : ∀ log, p log → p (log ++ [.released])) :
        Preserves p (unlock lock) :=
      Preserves.ofExcept.bind (fun _ _ h => h) fun _ => Triple.modify kept
    refine Triple.finallyDo inner (fun a => ?_) fun _ => ?_
    · refine (release fun log h => ?_).of_raised fun _ _ h => h.1
      exact ⟨kept _ _ (.inl rfl) h.1, postKept _ _ _ (.inl rfl) h.2⟩
    · exact release fun log h => kept _ _ (.inl rfl) h
  have closed {p : List Event → Prop} (kept : ∀ log, p log → p (log ++ [.closed])) :
      Triple p (close lock) (fun _ log => p log ∧ held log = false)
        fun _ log => p log ∧ held log = false :=
    Triple.bind (Triple.modify fun log h => ⟨kept log h, held_append_closed⟩) fun _ =>
      Preserves.ofExcept
  have opened : Triple (· = [])
      (do
        ofExcept lock.chmod
        acquire (lock.first :: lock.later)
        finallyDo body (unlock lock))
      (fun a log => always log ∧ post a log) fun _ => always := by
    refine Preserves.ofExcept.bind (fun _ _ h => h ▸ start) fun _ => ?_
    exact ((acquire_triple _).of_raised fun _ _ h => h ▸ start).bind fun _ => unlocked
  unfold serviceLock
  refine Preserves.ofExcept.bind (fun _ => outside) fun _ => ?_
  refine Preserves.ensure.bind (fun _ => outside) fun _ => ?_
  refine Preserves.ensure.bind (fun _ => outside) fun _ => ?_
  refine Preserves.ofExcept.bind (fun _ => outside) fun _ => ?_
  refine Preserves.ensure.bind (fun _ => outside) fun _ => ?_
  refine Preserves.ensure.bind (fun _ => outside) fun _ => ?_
  refine opened.finallyDo (fun a => ?_) fun _ => ?_
  · refine (closed fun log h => ?_).of_raised fun _ _ h => ⟨h.1.1, h.2⟩
    exact ⟨kept _ _ (.inr rfl) h.1, postKept _ _ _ (.inr rfl) h.2⟩
  · exact closed fun log h => kept _ _ (.inr rfl) h

end

section

variable {unicodeWord : Char → Bool} {fs : FileSystem} {runners : Runners} {lock : LockHost}
  {runner : DeliveryContext → Phase → Except Raised (List GateItem)}

theorem validateCheckoutResult_eq_ok {value : CheckoutValue} {checkout : CheckoutResult}
    (h : validateCheckoutResult fs spec value = .ok checkout) :
    IsCheckoutOf spec.checkout.request.candidateSha value := by
  cases value with
  | other => cases h
  | result path headSha trustedRef =>
    cases headSha with
    | str sha =>
      simp only [validateCheckoutResult, bind_eq_ok, require_eq_ok] at h
      obtain ⟨_, ⟨rfl, isSha⟩, -⟩ := h
      exact ⟨isSha, path, trustedRef, rfl⟩
    | _ => cases h

theorem validateCheckoutResult_verified {value : CheckoutValue} {checkout : CheckoutResult}
    (h : validateCheckoutResult fs spec value = .ok checkout) :
    Verified spec.checkout.request checkout := by
  obtain ⟨sha, path, ref, rfl⟩ := validateCheckoutResult_eq_ok h
  cases ref with
  | str ref =>
    simp only [validateCheckoutResult, bind_eq_ok, require_eq_ok, pure_eq_ok] at h
    obtain ⟨_, -, _, -, _, -, rfl⟩ := h
    exact ⟨⟨rfl, sha⟩, rfl⟩
  | _ =>
    simp only [validateCheckoutResult, bind_eq_ok] at h
    obtain ⟨_, -, _, wrong, -⟩ := h
    cases wrong

theorem checkoutStep_triple :
    Triple (· = [.acquired]) (checkoutStep fs spec runners)
      (fun checkout log => ∃ value, log = [.acquired, .checkedOut value] ∧
        validateCheckoutResult fs spec value = .ok checkout)
      fun _ log => log = [.acquired] ∨ ∃ value, log = [.acquired, .checkedOut value] := by
  unfold checkoutStep
  split
  · exact Triple.throw fun _ => .inl
  · exact Triple.throw fun _ => .inl
  · exact Triple.throw fun _ => .inl
  next value _ =>
    have emitted : Triple (· = [.acquired]) (emit (.checkedOut value))
        (fun _ log => log = [.acquired, .checkedOut value])
        fun _ log => log = [.acquired] ∨ ∃ value, log = [.acquired, .checkedOut value] :=
      Triple.modify fun _ h => congrArg (· ++ [Event.checkedOut value]) h
    refine emitted.bind fun _ => Triple.ofExcept ?_ fun _ _ _ h => .inr ⟨value, h⟩
    intro checkout ok log at_
    cases valid : validateCheckoutResult fs spec value with
    | ok c =>
      rw [valid] at ok
      cases ok
      exact ⟨value, at_, valid⟩
    | error e =>
      rw [valid] at ok
      cases ok

theorem runGates_triple {context : DeliveryContext} {phase : Phase} {required : List Json}
    {before : List Event} :
    Triple (· = before) (runGates unicodeWord runner context phase required)
      (fun evaluation log => ∃ items, log = before ++ [.gates phase items] ∧
        evaluateGateEvidence unicodeWord items required = .ok evaluation)
      fun _ log => log = before ∨ ∃ items, log = before ++ [.gates phase items] := by
  unfold runGates
  split
  · exact Triple.throw fun _ => .inl
  · exact Triple.throw fun _ => .inl
  · exact Triple.throw fun _ => .inl
  next items _ =>
    have emitted : Triple (· = before) (emit (.gates phase items))
        (fun _ log => log = before ++ [.gates phase items])
        fun _ log => log = before ∨ ∃ items, log = before ++ [.gates phase items] :=
      Triple.modify fun _ h => congrArg (· ++ [Event.gates phase items]) h
    refine emitted.bind fun _ => ?_
    split
    next evaluation ok =>
      exact Triple.pure fun _ h => ⟨items, h, ok⟩
    next =>
      split
      · exact Triple.throw fun _ h => .inr ⟨items, h⟩
      · exact Triple.throw fun _ h => .inr ⟨items, h⟩

theorem syncStep_triple {source : List String} {before : List Event} :
    Triple (· = before) (syncStep spec runners source)
      (fun sync log => ∃ call, log = before ++ [.sync call] ∧
        runners.sync call = .ok (.result sync) ∧ checkSync executorSyncTexts sync = .ok ⟨⟩)
      fun _ log => ∃ call, log = before ++ [.sync call] := by
  have emitted (call : SyncSpec) : Triple (· = before) (emit (.sync call))
      (fun _ log => log = before ++ [.sync call]) fun _ log => ∃ call, log = before ++ [.sync call] :=
    Triple.modify fun _ h => congrArg (· ++ [Event.sync call]) h
  refine (emitted _).bind fun _ => ?_
  split
  · exact Triple.throw fun _ h => ⟨_, h⟩
  · exact Triple.throw fun _ h => ⟨_, h⟩
  next value returned =>
    refine Triple.ofExcept (fun sync ok _ h => ⟨_, h, ?_⟩) fun _ _ _ h => ⟨_, h⟩
    cases value with
    | other => cases ok
    | result given =>
      cases checked : checkSync executorSyncTexts given with
      | error message =>
        rw [validateSyncResult, checked] at ok
        cases ok
      | ok =>
        rw [validateSyncResult, checked] at ok
        cases ok
        exact ⟨returned, checked⟩

theorem lockedDelivery_triple :
    Triple (· = [.acquired]) (lockedDelivery unicodeWord fs spec runners runner)
      (fun result log => Orderly spec log ∧ Produced unicodeWord spec runners log result)
      fun _ => Orderly spec := by
  have started : Orderly spec [.acquired] := orderly_nil.append_other rfl
  have checked (value : CheckoutValue) : Orderly spec [.acquired, .checkedOut value] :=
    started.append_other rfl
  refine (checkoutStep_triple.of_raised ?_).bind fun checkout => ?_
  · rintro _ _ (rfl | ⟨value, rfl⟩)
    · exact started
    · exact checked value
  refine Triple.witness fun value => ?_
  -- the log stays in the precondition, what is known of the checkout does not
  refine (Triple.fact fun verified => ?_).of_pre fun _ h => And.symm h
  have gated (items : List GateItem) :
      Orderly spec ([.acquired, .checkedOut value] ++ [.gates .preflight items]) :=
    (checked value).append_other rfl
  refine (runGates_triple.of_raised ?_).bind fun preflight => ?_
  · rintro _ _ (rfl | ⟨items, rfl⟩)
    · exact checked value
    · exact gated items
  refine Triple.witness fun items => ?_
  refine (Triple.fact fun evaluated => ?_).of_pre fun _ h => And.symm h
  have genuine := validateCheckoutResult_verified verified
  split
  next refused =>
    refine Triple.pure ?_
    rintro _ rfl
    exact ⟨gated items, .refused genuine rfl rfl rfl evaluated refused⟩
  next accepted =>
    have accepted : preflight.passed = true := Bool.not_eq_false _ ▸ accepted
    have passed := (evaluateGateEvidence_passed_iff evaluated).mp accepted
    have may : MaySync spec ([.acquired, .checkedOut value] ++ [.gates .preflight items]) :=
      ⟨rfl, ⟨value, by simp, validateCheckoutResult_eq_ok verified⟩, items, rfl, passed⟩
    have synced (call : SyncSpec) : Orderly spec
        ([.acquired, .checkedOut value] ++ [.gates .preflight items] ++ [.sync call]) :=
      (gated items).append_sync rfl may call
    refine (syncStep_triple.of_raised ?_).bind fun sync => ?_
    · rintro _ _ ⟨call, rfl⟩
      exact synced call
    refine Triple.witness fun call => ?_
    refine (Triple.fact fun returned => ?_).of_pre fun _ h => And.symm h
    refine (runGates_triple.of_raised ?_).bind fun postflight => ?_
    · rintro _ _ (rfl | ⟨items', rfl⟩)
      · exact synced call
      · exact (synced call).append_other rfl
    refine Triple.pure ?_
    rintro _ ⟨items', rfl, evaluated'⟩
    exact ⟨(synced call).append_other rfl, .synchronized genuine rfl rfl rfl evaluated accepted
      returned.1 returned.2 evaluated'⟩

theorem executeDelivery_triple :
    Triple (· = []) (executeDelivery unicodeWord fs spec runners lock)
      (fun result log => (Orderly spec log ∧ Produced unicodeWord spec runners log result) ∧
        held log = false)
      fun _ log => Orderly spec log ∧ held log = false := by
  have outside : ∀ log : List Event, log = [] → Orderly spec log ∧ held log = false := by
    rintro _ rfl
    exact ⟨orderly_nil, rfl⟩
  refine Preserves.ofExcept.bind (fun _ => outside) fun _ => ?_
  split
  · exact Triple.throw outside
  next runner _ =>
    refine (serviceLock_triple orderly_nil (fun _ _ last h => h.append_end last)
      (fun _ _ _ last h => h.append_end last) lockedDelivery_triple).tryCatch fun e => ?_
    cases e <;> exact Triple.throw fun _ h => h

/-- Whatever the components do, synchronization happens at most once and only when it may,
the lock is free at the end, and a result is ready exactly when both phases passed. -/
theorem executeDelivery_protocol (unicodeWord : Char → Bool) (fs : FileSystem) (spec : ExecutorSpec)
    (runners : Runners) (lock : LockHost) :
    let run := executeDelivery unicodeWord fs spec runners lock []
    Orderly spec run.2 ∧ held run.2 = false ∧
      ∀ result, run.1 = .ok result → (result.ready = true ↔
        Passed .preflight spec.preflightGates run.2 ∧
          Passed .postflight spec.postflightGates run.2) := by
  intro run
  have outcome := (@executeDelivery_triple spec unicodeWord fs runners lock).run [] rfl
  change Outcome _ _ run at outcome
  cases eq : run with
  | mk result log =>
    rw [eq] at outcome
    cases result with
    | ok result =>
      refine ⟨outcome.1.1, outcome.2, fun _ same => ?_⟩
      cases same
      exact outcome.1.2.ended
    | error e => exact ⟨outcome.1, outcome.2, nofun⟩

theorem produced_of_executeDelivery {result : ExecutorResult}
    (returned : (executeDelivery unicodeWord fs spec runners lock []).1 = .ok result) :
    Produced unicodeWord spec runners (executeDelivery unicodeWord fs spec runners lock []).2
      result := by
  have outcome := (@executeDelivery_triple spec unicodeWord fs runners lock).run [] rfl
  cases eq : executeDelivery unicodeWord fs spec runners lock [] with
  | mk end_ log =>
    rw [eq] at outcome returned
    cases returned
    exact outcome.1.2

end

end OptimizrActions.Delivery
