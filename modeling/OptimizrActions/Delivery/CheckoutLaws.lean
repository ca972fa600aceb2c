import OptimizrActions.Delivery.Remotes

/-! A checkout is all or nothing: it returns the commit that every command has confirmed, or it
removes the directory that it made. -/

namespace OptimizrActions.Delivery

open Talk Prog

abbrev CheckoutLog := List (Exchange CheckoutQuery CheckoutAnswer)

section Specification

/-- The remote and the place of a checkout are acceptable. -/
structure Admitted (host : CheckoutHost) (refused : Url.Chars → Bool) (spec : CheckoutSpec)
    (destination : List String) : Prop where
  remote : IsPlain spec.remote.toList ∧ IsRemote refused spec.remote.toList
  below : ∃ root, host.resolve (host.absolute spec.allowedRoot) = some root ∧
    host.isDir root = some true ∧ root <+: destination ∧ root ≠ destination
  unlinked : host.anySymlink (host.absolute spec.destination) = some false
  resolved : host.resolveMissing (host.absolute spec.destination) = some destination
  absent : host.present destination = some false
  parent : host.isDir destination.dropLast = some true

def headArguments : List String := ["rev-parse", "HEAD"]

/-- The commands of a checkout, in order. -/
def checkoutScript (spec : CheckoutSpec) : List (List String) :=
  [["init", "--quiet"], ["remote", "add", "origin", spec.remote], fetchArguments spec.request,
    commitArguments spec.request, ancestorArguments spec.request, detachArguments spec.request,
    headArguments]

/-- Git has run with these arguments, and nothing went wrong. -/
def Succeeded (destination arguments : List String)
    (x : Exchange CheckoutQuery CheckoutAnswer) : Prop :=
  ∃ stdout, x = ⟨.git destination arguments, .completed 0 stdout⟩

/-- Git has run the commands one after another. -/
def Played (destination : List String) (commands : List (List String)) (log : CheckoutLog) : Prop :=
  List.Forall₂ (Succeeded destination) commands log

/-- Git has run some of the commands, each after the success of the one before it. -/
def Stopped (destination : List String) (commands : List (List String)) (log : CheckoutLog) : Prop :=
  ∃ done rest played last, commands = done ++ rest ∧ log = played ++ last ∧
    Played destination done played ∧
    (last = [] ∨ ∃ arguments more answer, rest = arguments :: more ∧
      last = [⟨.git destination arguments, answer⟩])

/-- The last command has named the commit. -/
def Named (sha : String) (log : CheckoutLog) : Prop :=
  ∃ before destination stdout, log = before ++ [⟨.git destination headArguments, .completed 0 stdout⟩] ∧
    Text.strip (stdout.getD "") = sha

/-- The directory is removed, unless it is no directory any more. -/
inductive Cleaned (destination : List String) : CheckoutLog → Prop
  | removed {answer : CheckoutAnswer} : Cleaned destination
    [⟨.isDir destination, .flag true⟩, ⟨.isSymlink destination, .flag false⟩, ⟨.remove destination, answer⟩]
  | linked : Cleaned destination
    [⟨.isDir destination, .flag true⟩, ⟨.isSymlink destination, .flag true⟩]
  | gone : Cleaned destination [⟨.isDir destination, .flag false⟩]

/-- A look at the directory that did not come to an end. -/
def Looked (destination : List String) (log : CheckoutLog) : Prop :=
  ∀ x ∈ log, x.query = .isDir destination ∨ x.query = .isSymlink destination

/-- What a checkout returns and asks for. -/
inductive CheckoutRun (host : CheckoutHost) (refused : Url.Chars → Bool) (spec : CheckoutSpec) :
    Except CheckoutFailure CheckoutResult → CheckoutLog → Prop
  /-- Nothing is touched. -/
  | rejected {e : CheckoutFailure} : (∀ destination, ¬Admitted host refused spec destination) →
    CheckoutRun host refused spec (.error e) []
  | unmade {destination : List String} {answer : CheckoutAnswer} {e : Raised} :
    Admitted host refused spec destination → answer ≠ .done →
    CheckoutRun host refused spec (.error (.raised e)) [⟨.mkdir destination, answer⟩]
  | complete {destination : List String} {log : CheckoutLog} : Admitted host refused spec destination →
    Played destination (checkoutScript spec) log → Named spec.request.candidateSha log →
    CheckoutRun host refused spec
      (.ok ⟨destination, spec.request.candidateSha, spec.request.trustedRef⟩)
      (⟨.mkdir destination, .done⟩ :: log)
  | undone {destination : List String} {log cleanup : CheckoutLog} {message : String} :
    Admitted host refused spec destination → Stopped destination (checkoutScript spec) log →
    Cleaned destination cleanup →
    CheckoutRun host refused spec (.error (.checkout message))
      (⟨.mkdir destination, .done⟩ :: (log ++ cleanup))
  /-- Another exception than those of the checkout itself comes out of a call. -/
  | abandoned {destination : List String} {log looks : CheckoutLog} {e : Raised} :
    Admitted host refused spec destination → Stopped destination (checkoutScript spec) log →
    Looked destination looks →
    CheckoutRun host refused spec (.error (.raised e))
      (⟨.mkdir destination, .done⟩ :: (log ++ looks))

end Specification

theorem checkoutDestination_eq_ok {host : CheckoutHost} {refused : Url.Chars → Bool}
    {spec : CheckoutSpec} {destination : List String} (remote : isRemote refused spec.remote = true)
    (h : checkoutDestination host spec = .ok destination) : Admitted host refused spec destination := by
  unfold checkoutDestination at h
  split at h
  · cases h
  next root resolved =>
    split at h
    · cases h
    · cases h
    next isDir =>
      split at h
      · cases h
      · cases h
      next unlinked =>
        split at h
        · cases h
        next target found =>
          split at h
          · cases h
          next below =>
            rw [not_or, not_not] at below
            split at h
            · cases h
            · cases h
            next absent =>
              split at h
              · cases h
              · cases h
              next parent =>
                cases h
                exact ⟨isRemote_iff.mp remote, ⟨root, resolved, isDir, below.2, below.1⟩, unlinked,
                  found, absent, parent⟩

theorem Admitted.accepted {host : CheckoutHost} {refused : Url.Chars → Bool} {spec : CheckoutSpec}
    {destination : List String} (h : Admitted host refused spec destination) :
    isRemote refused spec.remote = true ∧ checkoutDestination host spec = .ok destination := by
  refine ⟨isRemote_iff.mpr h.remote, ?_⟩
  obtain ⟨root, resolved, isDir, below, differ⟩ := h.below
  simp only [checkoutDestination, resolved, isDir, h.unlinked, h.resolved]
  rw [if_neg (by simp [differ, below])]
  simp only [h.absent, h.parent]

section

variable {peer : CheckoutPeer} {destination arguments : List String}

theorem emits_runGit : Emits (runGit peer destination arguments) fun result log =>
    (∃ answer, log = [⟨.git destination arguments, answer⟩]) ∧
      ∀ text, result = .ok text → ∃ stdout, text = Text.strip (stdout.getD "") ∧
        log = [⟨.git destination arguments, .completed 0 stdout⟩] := by
  unfold runGit
  refine Emits.ask_bind fun answer => ?_
  have raises {e : CheckoutFailure} : Emits (throw e : Checkout String) fun result log =>
      (∃ answer', (⟨.git destination arguments, answer⟩ : Exchange _ _) :: log =
        [⟨.git destination arguments, answer'⟩]) ∧
      ∀ text, result = .ok text → ∃ stdout, text = Text.strip (stdout.getD "") ∧
        (⟨.git destination arguments, answer⟩ : Exchange _ _) :: log =
          [⟨.git destination arguments, .completed 0 stdout⟩] := by
    refine Emits.throw ⟨⟨answer, rfl⟩, fun text returned => ?_⟩
    cases returned
  cases answer with
  | completed returncode stdout =>
    refine Emits.ensure_bind (fun zero => Emits.pure ⟨⟨_, rfl⟩, ?_⟩) fun _ => ⟨⟨_, rfl⟩, ?_⟩
    · rintro text ⟨⟩
      exact ⟨stdout, rfl, by rw [zero]⟩
    · rintro text ⟨⟩
  | raises e => exact raises
  | done => exact raises
  | flag holds => exact raises
  | osError => exact raises

variable {spec : CheckoutSpec} {left : List (List String)}

/-- What a checkout does with these commands left. -/
structure Finishes (spec : CheckoutSpec) (destination : List String) (left : List (List String))
    (result : Except CheckoutFailure CheckoutResult) (log : CheckoutLog) : Prop where
  stopped : Stopped destination left log
  complete : ∀ r, result = .ok r → Played destination left log ∧ Named spec.request.candidateSha log ∧
    r = ⟨destination, spec.request.candidateSha, spec.request.trustedRef⟩

theorem stopped_one {x : Exchange CheckoutQuery CheckoutAnswer} (own : ∃ answer, [x] =
    [⟨.git destination arguments, answer⟩]) : Stopped destination (arguments :: left) [x] := by
  obtain ⟨answer, one⟩ := own
  exact ⟨[], _, [], _, rfl, rfl, .nil, .inr ⟨arguments, left, answer, rfl, one⟩⟩

theorem Stopped.cons {x : Exchange CheckoutQuery CheckoutAnswer} {log : CheckoutLog}
    (first : Succeeded destination arguments x) (h : Stopped destination left log) :
    Stopped destination (arguments :: left) (x :: log) := by
  obtain ⟨done, rest, played, last, rfl, rfl, all, stop⟩ := h
  exact ⟨arguments :: done, rest, x :: played, last, rfl, rfl, .cons first all, stop⟩

theorem Named.cons {sha : String} {x : Exchange CheckoutQuery CheckoutAnswer} {log : CheckoutLog}
    (h : Named sha log) : Named sha (x :: log) := by
  obtain ⟨before, directory, stdout, rfl, named⟩ := h
  exact ⟨x :: before, directory, stdout, rfl, named⟩

/-- A command before the others. -/
theorem emits_command {next : String → Checkout CheckoutResult}
    (rest : ∀ text, Emits (next text) (Finishes spec destination left)) :
    Emits (runGit peer destination arguments >>= next) (Finishes spec destination (arguments :: left)) := by
  refine Emits.andThen emits_runGit (fun text events ran => ?_) fun e events ran => ?_
  · obtain ⟨stdout, -, one⟩ := ran.2 text rfl
    refine Emits.conseq (rest text) fun result more done => ?_
    rw [one, List.singleton_append]
    refine ⟨done.stopped.cons ⟨stdout, rfl⟩, fun r returned => ?_⟩
    obtain ⟨played, named, rfl⟩ := done.complete r returned
    exact ⟨.cons ⟨stdout, rfl⟩ played, named.cons, rfl⟩
  · obtain ⟨answer, rfl⟩ := ran.1
    refine ⟨stopped_one ⟨answer, rfl⟩, fun r returned => ?_⟩
    cases returned

/-- The last command, and the check of what it names. -/
theorem emits_head : Emits (do
      let headSha ← runGit peer destination headArguments
      ensure (headSha = spec.request.candidateSha)
        (CheckoutFailure.checkout "checked out HEAD does not match candidate SHA")
      pure (⟨destination, headSha, spec.request.trustedRef⟩ : CheckoutResult))
    (Finishes spec destination [headArguments]) := by
  refine Emits.andThen emits_runGit (fun text events ran => ?_) fun e events ran => ?_
  · obtain ⟨stdout, read, one⟩ := ran.2 text rfl
    rw [one]
    refine Emits.ensure_bind (fun same => Emits.pure ⟨stopped_one ⟨_, rfl⟩, ?_⟩) fun _ =>
      ⟨stopped_one ⟨_, rfl⟩, ?_⟩
    · rintro r ⟨⟩
      exact ⟨.cons ⟨stdout, rfl⟩ .nil, ⟨[], destination, stdout, rfl, by rw [← read, same]⟩, by rw [same]⟩
    · rintro r ⟨⟩
  · obtain ⟨answer, rfl⟩ := ran.1
    refine ⟨stopped_one ⟨answer, rfl⟩, fun r returned => ?_⟩
    cases returned

theorem emits_checkoutCommands : Emits (checkoutCommands peer spec destination)
    (Finishes spec destination (checkoutScript spec)) :=
  emits_command fun _ => emits_command fun _ => emits_command fun _ => emits_command fun _ =>
    emits_command fun _ => emits_command fun _ => emits_head

/-- A look at the directory before the rest of its removal. -/
theorem emits_look {query : CheckoutQuery} {next : Bool → Checkout Unit}
    {whole : Except CheckoutFailure Unit → CheckoutLog → Prop}
    (rest : ∀ holds, Emits (next holds) fun result log => whole result (⟨query, .flag holds⟩ :: log))
    (fails : ∀ answer e, whole (.error (.raised e)) [⟨query, answer⟩]) :
    Emits (askCheckoutFlag peer query >>= next) whole := by
  have look : Emits (askCheckoutFlag peer query) fun result log =>
      (∀ holds, result = .ok holds → log = [⟨query, .flag holds⟩]) ∧
        ∀ e, result = .error e → ∃ answer r, e = .raised r ∧ log = [⟨query, answer⟩] := by
    refine Emits.ask_bind fun answer => ?_
    cases answer with
    | flag holds =>
      refine Emits.pure ⟨?_, ?_⟩
      · rintro _ ⟨⟩
        rfl
      · rintro _ ⟨⟩
    | _ =>
      refine Emits.throw ⟨?_, ?_⟩
      · rintro _ ⟨⟩
      · rintro _ ⟨⟩
        exact ⟨_, _, rfl, rfl⟩
  refine Emits.andThen look (fun holds events seen => ?_) fun e events seen => ?_
  · rw [seen.1 holds rfl]
    exact rest holds
  · obtain ⟨answer, r, rfl, rfl⟩ := seen.2 e rfl
    exact fails answer r

/-- How the removal ends. -/
def CleanupEnded (destination : List String) (result : Except CheckoutFailure Unit)
    (log : CheckoutLog) : Prop :=
  result = .ok ⟨⟩ ∧ Cleaned destination log ∨
    ∃ e, result = .error (.raised e) ∧ Looked destination log

theorem emits_cleanupCreatedDestination :
    Emits (cleanupCreatedDestination peer destination) (CleanupEnded destination) := by
  refine emits_look (fun directory => ?_) fun answer e => .inr ⟨e, rfl, ?_⟩
  · cases directory with
    | false => exact Emits.pure (.inl ⟨rfl, .gone⟩)
    | true =>
      refine emits_look (fun linked => ?_) fun answer e => .inr ⟨e, rfl, ?_⟩
      · cases linked with
        | true => exact Emits.pure (.inl ⟨rfl, .linked⟩)
        | false => exact Emits.ask_bind fun answer => Emits.pure (.inl ⟨rfl, .removed⟩)
      · simp [Looked]
  · simp [Looked]

/-- How the handler of a failure ends. -/
def Undone (destination : List String) (e : CheckoutFailure)
    (result : Except CheckoutFailure CheckoutResult) (log : CheckoutLog) : Prop :=
  (∃ message, e = .checkout message ∧ result = .error (.checkout message) ∧ Cleaned destination log) ∨
    ∃ r, result = .error (.raised r) ∧ Looked destination log

theorem emits_undoCheckout (e : CheckoutFailure) :
    Emits (undoCheckout peer destination e) (Undone destination e) := by
  cases e with
  | checkout message =>
    refine Emits.andThen emits_cleanupCreatedDestination (fun _ log ended => Emits.throw ?_)
      fun e log ended => ?_
    · rw [List.append_nil]
      obtain ⟨-, cleaned⟩ | ⟨r, wrong, -⟩ := ended
      · exact .inl ⟨message, rfl, rfl, cleaned⟩
      · cases wrong
    · obtain ⟨wrong, -⟩ | ⟨r, same, looked⟩ := ended
      · cases wrong
      · cases same
        exact .inr ⟨r, rfl, looked⟩
  | raised r => exact Emits.throw (.inr ⟨r, rfl, List.forall_mem_nil _⟩)

end

/-- Whatever git and the file system do, a checkout touches nothing but a new directory at an
admitted place, runs its commands each after the success of the one before it, and either returns the
commit that they confirmed or removes the directory again. -/
theorem checkoutExactSha_run (host : CheckoutHost) (peer : CheckoutPeer) (refused : Url.Chars → Bool)
    (spec : CheckoutSpec) :
    Emits (checkoutExactSha host peer refused spec) (CheckoutRun host refused spec) := by
  refine Emits.ensure_bind (fun remote => ?_) fun other =>
    .rejected fun destination admitted => other admitted.accepted.1
  refine Emits.ofExcept_bind (fun destination admitted => ?_) fun e failed =>
    .rejected fun destination admitted => error_ne_ok (failed.symm.trans admitted.accepted.2)
  have admitted := checkoutDestination_eq_ok remote admitted
  refine Emits.ask_bind fun answer => ?_
  have refuses {e : Raised} (other : answer ≠ .done) : Emits (throw (.raised e) : Checkout CheckoutResult)
      fun result log => CheckoutRun host refused spec result (⟨.mkdir destination, answer⟩ :: log) :=
    Emits.throw (.unmade admitted other)
  cases answer with
  | done =>
    refine Emits.tryCatch emits_checkoutCommands emits_undoCheckout (fun r log done => ?_)
      fun e log result more done undone => ?_
    · obtain ⟨played, named, rfl⟩ := done.complete r rfl
      exact .complete admitted played named
    · obtain ⟨message, -, rfl, cleaned⟩ | ⟨r, rfl, looked⟩ := undone
      · exact .undone admitted done.stopped cleaned
      · exact .abandoned admitted done.stopped looked
  | flag holds => exact refuses (by simp)
  | completed returncode stdout => exact refuses (by simp)
  | osError => exact refuses (by simp)
  | raises e => exact refuses (by simp)

end OptimizrActions.Delivery
