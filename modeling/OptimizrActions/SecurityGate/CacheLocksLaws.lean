import OptimizrActions.SecurityGate.CacheLocks
import OptimizrActions.SecurityGate.FreshnessLaws

/-! What the locks of the Trivy caches protect, in every order of the steps of any jobs. -/

namespace OptimizrActions.SecurityGate

open Flock Relation

variable {Repository Version Job : Type} [DecidableEq Repository] [DecidableEq Version]
  {fromisoformat : String → Option Stamp}

section

variable (job : CacheJob Repository Version)

def gateHeld : CacheLock Repository Version → Option Mode :=
  Function.update (fun _ => none) (.gate job.repository) (some .exclusive)

def setupHeld : CacheLock Repository Version → Option Mode :=
  Function.update (gateHeld job) (.setup job.version) (some .exclusive)

/-- The locks of a job at a place. -/
def Place.holds : Place Version → CacheLock Repository Version → Option Mode
  | .start | .finished => fun _ => none
  | .gated | .work => gateHeld job
  | .prepare | .prune _ | .inspect | .awaitExclusive | .awaitShared => setupHeld job
  | .pruneSetup version _ | .pruneUnlock version _ =>
    Function.update (setupHeld job) (.setup version) (some .exclusive)
  | .pruneBoth version _ =>
    Function.update (Function.update (setupHeld job) (.setup version) (some .exclusive))
      (.database version) (some .exclusive)
  | .reinspect | .refresh | .confirm | .convert =>
    Function.update (setupHeld job) (.database job.version) (some .exclusive)
  | .validate | .unlockSetup _ =>
    Function.update (setupHeld job) (.database job.version) (some .shared)
  | .scan _ => Function.update (gateHeld job) (.database job.version) (some .shared)

/-- The lock at which a job stands still until it is granted. -/
def Place.awaits : Place Version → Option (CacheLock Repository Version × Mode)
  | .start => some (.gate job.repository, .exclusive)
  | .gated => if job.scope = .shared then some (.setup job.version, .exclusive) else none
  | .awaitExclusive => some (.database job.version, .exclusive)
  | .awaitShared => some (.database job.version, .shared)
  | _ => none

/-- Only versions other than its own are locked by a job that prunes. -/
def Place.Proper : Place Version → Prop
  | .pruneSetup version _ | .pruneBoth version _ | .pruneUnlock version _ => version ≠ job.version
  | _ => True

/-- The job may change the shared database of the version. -/
def Place.Disturbs (version : Version) : Place Version → Prop
  | .refresh => job.version = version
  | .pruneBoth other _ => other = version
  | _ => False

end

/-- The database that the last check before the scans has read. -/
def Place.validated : Place Version → Option Database
  | .unlockSetup database | .scan database => some database
  | _ => none

def CacheLock.rank : CacheLock Repository Version → Nat
  | .gate _ => 0
  | .setup _ => 1
  | .database _ => 2

variable {job : CacheJob Repository Version} {jobs : Job → CacheJob Repository Version}
  {place place' : Place Version} {caches caches' : Caches Repository Version}
  {op : Op (CacheLock Repository Version)}
  {s s' : State Job (CacheLock Repository Version) (Place Version) (Caches Repository Version)}

theorem CacheStep.proper (step : CacheStep fromisoformat job place caches op place' caches')
    (proper : place.Proper job) : place'.Proper job := by
  cases step with
  | trySetup other => exact other
  | tryDatabase => exact proper
  | databaseBusy => exact proper
  | remove => exact proper
  | unlockDatabase => exact proper
  | _ => trivial

theorem CacheStep.holds (step : CacheStep fromisoformat job place caches op place' caches')
    (proper : place.Proper job) : place'.holds job = op.apply (place.holds job) := by
  cases step with
  | unlockDatabase => simp [Place.holds, Op.apply, setupHeld, gateHeld]
  | unlockPruned =>
    have other := proper
    rw [Place.Proper] at other
    simp [Place.holds, Op.apply, setupHeld, gateHeld, other]
  | convert => simp [Place.holds, Op.apply]
  | letGo => simp [Place.holds, Op.apply, setupHeld, gateHeld]
  | unlockSetup =>
    funext key
    cases key <;> simp [Place.holds, Op.apply, setupHeld, gateHeld, Function.update_apply]
  | _ => rfl

theorem cacheProtocol_accounts : Accounts (cacheProtocol fromisoformat jobs)
    (fun i place => place.holds (jobs i)) fun i place => place.Proper (jobs i) where
  startProper _ := trivial
  startHolds _ _ := rfl
  stepProper := by
    rintro i place caches op place' caches' (step | ⟨-, rfl, -⟩) proper
    · exact step.proper proper
    · trivial
  stepHolds := by
    rintro i place caches op place' caches' (step | ⟨rfl, rfl, -⟩) proper
    · exact step.holds proper
    · rfl

theorem rank_of_gateHeld {key : CacheLock Repository Version} {mode : Mode}
    (h : gateHeld job key = some mode) : key.rank = 0 := by
  cases key with
  | gate repository => rfl
  | setup version => simp [gateHeld] at h
  | database version => simp [gateHeld] at h

theorem rank_of_setupHeld {key : CacheLock Repository Version} {mode : Mode}
    (h : setupHeld job key = some mode) : key.rank ≤ 1 := by
  cases key with
  | gate repository => exact Nat.zero_le 1
  | setup version => exact Nat.le_refl 1
  | database version => simp [setupHeld, gateHeld] at h

/-- Locks are awaited in the order gate, setup, database. -/
theorem cacheProtocol_ordered : Ordered (fun i (place : Place Version) => place.holds (jobs i))
    (fun i place => place.awaits (jobs i)) CacheLock.rank := by
  intro i place key mode wanted other own holds
  cases place with
  | start => cases holds
  | gated =>
    simp only [Place.awaits, Option.ite_none_right_eq_some] at wanted
    obtain ⟨-, same⟩ := wanted
    cases same
    rw [rank_of_gateHeld holds]
    exact Nat.zero_lt_one
  | awaitExclusive =>
    cases wanted
    exact Nat.lt_succ_of_le (rank_of_setupHeld holds)
  | awaitShared =>
    cases wanted
    exact Nat.lt_succ_of_le (rank_of_setupHeld holds)
  | _ => cases wanted

theorem databaseIsFresh_complete {database : Database} {limit : Limit} {now : Stamp}
    (h : databaseIsFresh fromisoformat database limit now = .ok true) :
    databaseIsComplete database = true := by
  unfold databaseIsFresh at h
  cases limit with
  | finite hours =>
    dsimp only at h
    split_ifs at h with nonpositive incomplete
    · cases h
    · exact (Bool.not_eq_false _).mp incomplete
  | _ => cases h

omit [DecidableEq Repository] [DecidableEq Version] in
/-- What passes a check is there. -/
theorem shared_of_fresh {now : Stamp} (h : sharedFresh fromisoformat job caches now = .ok true) :
    caches.shared job.version = some ((caches.shared job.version).getD emptyDatabase) := by
  cases content : caches.shared job.version with
  | some database => rfl
  | none =>
    rw [sharedFresh, content] at h
    cases databaseIsFresh_complete h

/-- A step leaves each version of the shared database alone, unless the job may change it. -/
theorem CacheStep.shared_kept (step : CacheStep fromisoformat job place caches op place' caches')
    {version : Version} {database : Database} (there : caches.shared version = some database)
    (calm : ¬place.Disturbs job version) : caches'.shared version = some database := by
  cases step with
  | prepare =>
    by_cases same : version = job.version
    · subst same
      simp [Caches.prepareShared, Caches.setShared, there]
    · simpa [Caches.prepareShared, Caches.setShared, same] using there
  | remove => simpa [Caches.setShared, Function.update_of_ne (Ne.symm calm)] using there
  | download => simpa [Caches.setShared, Function.update_of_ne (Ne.symm calm)] using there
  | _ => exact there

/-- Only a job at work changes databases of a repository, and only of its own. -/
theorem CacheStep.repository_kept (step : CacheStep fromisoformat job place caches op place' caches')
    {repository : Repository} (calm : place = .work → repository ≠ job.repository) :
    caches'.repository repository = caches.repository repository := by
  cases step with
  | write => exact Function.update_of_ne (calm rfl) _ _
  | _ => rfl

/-- A database counts as validated from the check that reads it. -/
theorem CacheStep.validated (step : CacheStep fromisoformat job place caches op place' caches')
    {database : Database} (h : place'.validated = some database) :
    place.validated = some database ∨ caches' = caches ∧
      caches.shared job.version = some database ∧
      ∃ now, databaseIsFresh fromisoformat database job.maxAge now = .ok true := by
  cases step with
  | valid fresh =>
    cases h
    exact .inr ⟨rfl, shared_of_fresh fresh, _, fresh⟩
  | unlockSetup => exact .inl h
  | _ => cases h

omit [DecidableEq Repository] [DecidableEq Version] in
theorem Place.not_disturbs_of_validated {database : Database} {version : Version}
    (h : place.validated = some database) : ¬place.Disturbs job version := by
  cases place <;> first | exact id | cases h

theorem Place.holds_of_disturbs {version : Version} (h : place.Disturbs job version) :
    place.holds job (.database version) = some .exclusive := by
  cases place with
  | refresh =>
    cases h
    exact Function.update_self ..
  | pruneBoth other todo =>
    cases h
    exact Function.update_self ..
  | _ => cases h

theorem Place.holds_of_validated {database : Database} (h : place.validated = some database) :
    place.holds job (.database job.version) = some .shared := by
  cases place with
  | unlockSetup other => exact Function.update_self ..
  | scan other => exact Function.update_self ..
  | _ => cases h

theorem Place.holds_of_work (h : place = .work) :
    place.holds job (.gate job.repository) = some .exclusive := by
  subst h
  rw [Place.holds, gateHeld, Function.update_self]

section Runs

variable [DecidableEq Job]

/-- A validated database is still there as it was validated. -/
def Intact (fromisoformat : String → Option Stamp) (jobs : Job → CacheJob Repository Version)
    (s : State Job (CacheLock Repository Version) (Place Version) (Caches Repository Version)) :
    Prop :=
  ∀ i database, (s.place i).validated = some database →
    s.data.shared (jobs i).version = some database ∧
      ∃ now, databaseIsFresh fromisoformat database (jobs i).maxAge now = .ok true

/-- Nobody changes a version of the database that somebody has validated. -/
theorem not_disturbs (reachable : Reachable (cacheProtocol fromisoformat jobs) s) {i : Job}
    {database : Database} (validated : (s.place i).validated = some database) (k : Job) :
    ¬(s.place k).Disturbs (jobs k) (jobs i).version := by
  obtain ⟨sound, -, same⟩ := cacheProtocol_accounts.reachable reachable
  intro disturbs
  have alone : k = i := sound.alone
    ((congrFun (same k) _).trans (Place.holds_of_disturbs disturbs))
    ((congrFun (same i) _).trans (Place.holds_of_validated validated))
  subst alone
  exact Place.not_disturbs_of_validated validated disturbs

theorem shared_of_step (reachable : Reachable (cacheProtocol fromisoformat jobs) s) {i k : Job}
    {database : Database} (validated : (s.place i).validated = some database)
    (there : s.data.shared (jobs i).version = some database)
    (taken : Step (cacheProtocol fromisoformat jobs) s k s') :
    s'.data.shared (jobs i).version = some database := by
  have calm := not_disturbs reachable validated k
  cases taken with
  | of step enabled =>
    obtain step | ⟨-, -, rfl⟩ := step
    · exact step.shared_kept there calm
    · exact there

theorem intact_of_reachable (reachable : Reachable (cacheProtocol fromisoformat jobs) s) :
    Intact fromisoformat jobs s := by
  induction reachable with
  | start data =>
    intro i database h
    cases h
  | @step s s' k before taken ih =>
    intro i database h
    have kept (validated : (s.place i).validated = some database) :
        s'.data.shared (jobs i).version = some database ∧
          ∃ now, databaseIsFresh fromisoformat database (jobs i).maxAge now = .ok true := by
      obtain ⟨there, fresh⟩ := ih i database validated
      exact ⟨shared_of_step before validated there taken, fresh⟩
    cases taken with
    | @of held place data data' _ op next step enabled =>
      by_cases own : i = k
      · subst own
        change (Function.update place i next i).validated = _ at h
        rw [Function.update_self] at h
        obtain step | ⟨-, rfl, -⟩ := step
        · obtain validated | ⟨rfl, there, fresh⟩ := step.validated h
          · exact kept validated
          · exact ⟨there, fresh⟩
        · cases h
      · change (Function.update place k next i).validated = _ at h
        rw [Function.update_of_ne own] at h
        exact kept h

/-- In every run of any jobs: a scan with the shared database reads what its last check has
accepted, no job changes that version meanwhile, and no step of another job changes the databases
of a repository that a job of repository mode works on. -/
theorem caches_undisturbed (fromisoformat : String → Option Stamp)
    (jobs : Job → CacheJob Repository Version)
    {s : State Job (CacheLock Repository Version) (Place Version) (Caches Repository Version)}
    (reachable : Reachable (cacheProtocol fromisoformat jobs) s) :
    (∀ i database, s.place i = .scan database →
      s.data.shared (jobs i).version = some database ∧
      (∃ now, databaseIsFresh fromisoformat database (jobs i).maxAge now = .ok true) ∧
      ∀ k, ¬(s.place k).Disturbs (jobs k) (jobs i).version) ∧
    ∀ k s', Step (cacheProtocol fromisoformat jobs) s k s' →
      (∀ i database, s.place i = .scan database →
        s'.data.shared (jobs i).version = some database) ∧
      ∀ i, i ≠ k → s.place i = .work →
        s'.data.repository (jobs i).repository = s.data.repository (jobs i).repository := by
  have validated {i : Job} {database : Database} (scanning : s.place i = .scan database) :
      (s.place i).validated = some database := congrArg Place.validated scanning
  refine ⟨fun i database scanning => ?_, fun k s' taken => ⟨fun i database scanning => ?_, ?_⟩⟩
  · obtain ⟨there, fresh⟩ := intact_of_reachable reachable i database (validated scanning)
    exact ⟨there, fresh, not_disturbs reachable (validated scanning)⟩
  · obtain ⟨there, -⟩ := intact_of_reachable reachable i database (validated scanning)
    exact shared_of_step reachable (validated scanning) there taken
  · intro i differ working
    obtain ⟨sound, -, same⟩ := cacheProtocol_accounts.reachable reachable
    have apart (other : s.place k = .work) : (jobs i).repository ≠ (jobs k).repository := by
      intro one
      have mine := (congrFun (same i) _).trans (Place.holds_of_work working)
      have theirs := (congrFun (same k) _).trans (Place.holds_of_work other)
      rw [one] at mine
      exact differ (sound.alone mine theirs)
    cases taken with
    | of step enabled =>
      obtain step | ⟨-, -, rfl⟩ := step
      · exact step.repository_kept apart
      · rfl

/-- A job that is alone gets every lock. -/
theorem reachable_alone [Subsingleton Job] {caches' : Caches Repository Version}
    (before : Reachable (cacheProtocol fromisoformat jobs) s) (i : Job)
    (step : CacheStep fromisoformat (jobs i) (s.place i) s.data op place' caches')
    (granted : ∀ key mode, op ≠ .refused key mode) :
    Reachable (cacheProtocol fromisoformat jobs)
      ⟨Function.update s.held i (op.apply (s.held i)), fun _ => place', caches'⟩ := by
  have enabled : op.Enabled s.held i := by
    cases op with
    | lock key mode => exact fun q differ => absurd (Subsingleton.elim q i) differ
    | refused key mode => exact absurd rfl (granted key mode)
    | _ => trivial
  have same : (fun _ => place') = Function.update s.place i place' := by
    funext j
    rw [Subsingleton.elim j i, Function.update_self]
  rw [same]
  exact before.step (.of (.inl step) enabled)

def sampleJob : CacheJob Unit Unit := ⟨(), (), .shared, .finite 30⟩

def sampleCaches : Caches Unit Unit := ⟨fun _ => some (sampleDatabase sampleFields), fun _ _ => none⟩

/-- A job that finds a fresh database scans with it. -/
theorem sample_scans : ∃ s, Reachable (cacheProtocol sampleIso fun _ : Unit => sampleJob) s ∧
    s.place () = .scan (sampleDatabase sampleFields) := by
  have prepared : sampleCaches.prepareShared () = sampleCaches := by
    rw [Caches.prepareShared, Caches.setShared, sampleCaches]
    congr 1
  have fresh : sharedFresh sampleIso sampleJob sampleCaches sampleNow = .ok true := by
    decide +kernel
  have prepare : CacheStep sampleIso sampleJob .prepare sampleCaches .keep (.prune [])
      sampleCaches := by
    have step := @CacheStep.prepare _ _ _ _ sampleIso sampleJob sampleCaches []
    rwa [show sampleJob.version = () from rfl, prepared] at step
  have start := @Reachable.start _ _ _ _ _ _ (cacheProtocol sampleIso fun _ : Unit => sampleJob)
    sampleCaches trivial
  have gated := reachable_alone start () .gate (by rintro _ _ ⟨⟩)
  have preparing := reachable_alone gated () (.setup rfl) (by rintro _ _ ⟨⟩)
  have pruning := reachable_alone preparing () prepare (by rintro _ _ ⟨⟩)
  have inspecting := reachable_alone pruning () .pruned (by rintro _ _ ⟨⟩)
  have awaiting := reachable_alone inspecting () (.fresh fresh) (by rintro _ _ ⟨⟩)
  have validating := reachable_alone awaiting () .reader (by rintro _ _ ⟨⟩)
  have unlocking := reachable_alone validating () (.valid fresh) (by rintro _ _ ⟨⟩)
  have scanning := reachable_alone unlocking () .unlockSetup (by rintro _ _ ⟨⟩)
  exact ⟨_, scanning, rfl⟩

/-- What holds of the state in which the one job scans. -/
theorem caches_undisturbed_sample : ∃ s,
    Reachable (cacheProtocol sampleIso fun _ : Unit => sampleJob) s ∧
      s.place () = .scan (sampleDatabase sampleFields) ∧
      s.data.shared () = some (sampleDatabase sampleFields) := by
  obtain ⟨s, reached, scanning⟩ := sample_scans
  have undisturbed := caches_undisturbed sampleIso (fun _ : Unit => sampleJob) reached
  exact ⟨s, reached, scanning, (undisturbed.1 () _ scanning).1⟩

theorem not_finished_of_waitsFor
    (reachable : Reachable (cacheProtocol fromisoformat jobs) s) {i k : Job}
    (waits : WaitsFor (fun i place => place.awaits (jobs i)) s i k) : s.place k ≠ .finished := by
  obtain ⟨-, -, same⟩ := cacheProtocol_accounts.reachable reachable
  obtain ⟨key, mode, other, -, -, held, -⟩ := waits
  intro finished
  rw [same k, finished] at held
  cases held

omit [DecidableEq Job] in
/-- A job that waits for nobody goes on by itself. -/
theorem exists_step {k : Job} (unfinished : s.place k ≠ .finished)
    (free : ¬Blocked (fun i place => place.awaits (jobs i)) s k) :
    ∃ op place' caches', CacheStep fromisoformat (jobs k) (s.place k) s.data op place' caches' ∧
      op.Enabled s.held k := by
  have granted {key : CacheLock Repository Version} {mode : Mode}
      (wanted : (s.place k).awaits (jobs k) = some (key, mode)) : Grants s.held k key mode :=
    grants_of_not_blocked free wanted
  have checked (place : Place Version) (isCheck : place.Checks) {next other : Place Version}
      (passes : ∀ now, sharedFresh fromisoformat (jobs k) s.data now = .ok true →
        CacheStep fromisoformat (jobs k) place s.data .keep next s.data)
      (fails : ∀ now, sharedFresh fromisoformat (jobs k) s.data now = .ok false →
        ∃ op, CacheStep fromisoformat (jobs k) place s.data op other s.data ∧
          op.Enabled s.held k) :
      ∃ op place' caches', CacheStep fromisoformat (jobs k) place s.data op place' caches' ∧
        op.Enabled s.held k := by
    let now : Stamp := ⟨0, none⟩
    cases result : sharedFresh fromisoformat (jobs k) s.data now with
    | error e => exact ⟨_, _, _, .broken isCheck result, trivial⟩
    | ok fresh =>
      cases fresh with
      | true => exact ⟨_, _, _, passes now result, trivial⟩
      | false =>
        obtain ⟨op, step, enabled⟩ := fails now result
        exact ⟨_, _, _, step, enabled⟩
  cases at_ : s.place k with
  | start => exact ⟨_, _, _, .gate, granted (by rw [at_]; rfl)⟩
  | gated =>
    cases scope : (jobs k).scope with
    | repository => exact ⟨_, _, _, .repository scope, trivial⟩
    | shared =>
      refine ⟨_, _, _, .setup scope, granted ?_⟩
      rw [at_]
      exact if_pos scope
  | work => exact ⟨_, _, _, .done, trivial⟩
  | prepare => exact ⟨_, _, _, @CacheStep.prepare _ _ _ _ _ _ _ [], trivial⟩
  | prune todo =>
    cases todo with
    | nil => exact ⟨_, _, _, .pruned, trivial⟩
    | cons version rest => exact ⟨_, _, _, .skip, trivial⟩
  | pruneSetup version todo =>
    by_cases open_ : Grants s.held k (.database version) .exclusive
    · exact ⟨_, _, _, .tryDatabase, open_⟩
    · exact ⟨_, _, _, .databaseBusy, open_⟩
  | pruneBoth version todo => exact ⟨_, _, _, .unlockDatabase, trivial⟩
  | pruneUnlock version todo => exact ⟨_, _, _, .unlockPruned, trivial⟩
  | inspect => exact checked _ trivial (fun _ => .fresh) fun _ stale => ⟨_, .stale stale, trivial⟩
  | awaitExclusive => exact ⟨_, _, _, .writer, granted (by rw [at_]; rfl)⟩
  | reinspect =>
    exact checked _ trivial (fun _ => .freshened) fun _ stale => ⟨_, .stillStale stale, trivial⟩
  | refresh => exact ⟨_, _, _, .downloaded, trivial⟩
  | confirm =>
    exact checked _ trivial (fun _ => .confirmed) fun _ stale =>
      ⟨_, .rejected (.inl rfl) stale, trivial⟩
  | convert => exact ⟨_, _, _, .letGo, trivial⟩
  | awaitShared => exact ⟨_, _, _, .reader, granted (by rw [at_]; rfl)⟩
  | validate =>
    exact checked _ trivial (fun _ => .valid) fun _ stale =>
      ⟨_, .rejected (.inr rfl) stale, trivial⟩
  | unlockSetup validated => exact ⟨_, _, _, .unlockSetup, trivial⟩
  | scan validated => exact ⟨_, _, _, .scanned, trivial⟩
  | finished => exact absurd at_ unfinished

/-- In every run of any jobs, whoever waits for a lock waits in the end for a job that can go on
by itself: there is no deadlock. -/
theorem caches_progress (fromisoformat : String → Option Stamp)
    (jobs : Job → CacheJob Repository Version)
    {s : State Job (CacheLock Repository Version) (Place Version) (Caches Repository Version)}
    (reachable : Reachable (cacheProtocol fromisoformat jobs) s) {i : Job}
    (unfinished : s.place i ≠ .finished) :
    ∃ k, ReflTransGen (WaitsFor (fun i place => place.awaits (jobs i)) s) i k ∧
      ¬Blocked (fun i place => place.awaits (jobs i)) s k ∧
      ∃ op place' caches', CacheStep fromisoformat (jobs k) (s.place k) s.data op place' caches' ∧
        op.Enabled s.held k := by
  obtain ⟨k, path, free⟩ := exists_not_blocked cacheProtocol_accounts cacheProtocol_ordered
    (fun key => show key.rank ≤ 2 by cases key <;> simp [CacheLock.rank]) reachable i
  have open_ : s.place k ≠ .finished := by
    obtain rfl | ⟨j, -, waits⟩ := path.cases_tail
    · exact unfinished
    · exact not_finished_of_waitsFor reachable waits
  exact ⟨k, path, free, exists_step open_ free⟩

def waitingJob : CacheJob Unit Unit := ⟨(), (), .repository, .finite 30⟩

/-- One job has the gate, and the other one waits for it. -/
theorem caches_progress_sample : ∃ s,
    Reachable (cacheProtocol sampleIso fun _ : Bool => waitingJob) s ∧ s.place true = .gated ∧
      ∃ k, ReflTransGen (WaitsFor (fun _ place => place.awaits waitingJob) s) false k ∧
        ∃ op place' caches', CacheStep sampleIso waitingJob (s.place k) s.data op place' caches' ∧
          op.Enabled s.held k := by
  have granted : Grants (fun _ _ => none : Table Bool (CacheLock Unit Unit)) true (.gate ())
      .exclusive := by
    intro q differ other held
    cases held
  have step : (cacheProtocol sampleIso fun _ : Bool => waitingJob).step true .start sampleCaches
      (.lock (.gate ()) .exclusive) .gated sampleCaches := Or.inl .gate
  have reached := (Reachable.start trivial).step (Step.of step granted)
  obtain ⟨k, path, -, next⟩ := @caches_progress _ _ _ _ _ _ sampleIso (fun _ : Bool => waitingJob) _
    reached false (by rintro ⟨⟩)
  exact ⟨_, reached, rfl, k, path, next⟩

end Runs

end OptimizrActions.SecurityGate
