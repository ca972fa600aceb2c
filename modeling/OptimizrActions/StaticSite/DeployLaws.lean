import OptimizrActions.StaticSite.Deploy

/-! What a failed deployment of a static site leaves of the site. -/

namespace OptimizrActions.StaticSite

open Prog

variable {Content Tree : Type} {volumes : Volumes Content} {input : Input Content Tree}
  {faults : Faults Content Tree} {start : Site Content Tree}

section Specification

variable (volumes input faults start)

/-- What the builder is run with: a volume that the first removal spared is built over. -/
def prepared : Content :=
  match faults .removeVolumes with
  | none => volumes.empty
  | some d => if d.candidateGone then volumes.empty else start.candidate

def newContent : Content := input.builder (prepared volumes faults start)

/-- All of the old content or all of the new. -/
def Whole (content : Content) : Prop :=
  content = start.stable ∨ content = newContent volumes input faults start

/-- The outcome of a deployment of the site. -/
def outcome : Except Failure Payload × Deployment Content Tree :=
  deployStaticSite volumes input faults (begin_ start)

structure Safe : Prop where
  /-- After a single failure both stores are as they were, or both are new. -/
  atomic : (outcome volumes input faults start).2.failed.length ≤ 1 →
    ∀ failure, (outcome volumes input faults start).1 = .error failure →
      ((outcome volumes input faults start).2.stable = start.stable ∧
        (outcome volumes input faults start).2.deployRoot = start.deployRoot) ∨
      ((outcome volumes input faults start).2.stable = newContent volumes input faults start ∧
        (outcome volumes input faults start).2.deployRoot = some input.source)
  /-- The backup is not removed while the stable volume is neither old nor new. -/
  backup : ∀ content ∈ (outcome volumes input faults start).2.removals,
    Whole volumes input faults start content

/-- The first removal leaves a backup of an earlier deployment, and the new one is copied over it. -/
def Leftover : Prop :=
  start.backup ≠ volumes.empty ∧ ∃ d, faults .removeVolumes = some d ∧ d.backupGone = false

/-- The removal after the promotion leaves the backup. -/
def Spared : Prop := ∃ d, faults .cleanup = some d ∧ d.backupGone = false

/-- The stable volume has been changed before the step. -/
def Step.isLate : Step → Bool
  | .clearStable | .promoteVolume | .verifyStable _ | .moveSource | .promoteSource
  | .removeSourceBackup | .evidence => true
  | _ => false

/-- No step that failed is one that nothing makes up for: the evidence of success once the backup is
removed, a step of the rollback, the removal of the old source on its own, or any step after the change
of the stable volume where the backup is a mixture. -/
structure Recoverable (failed : List Step) : Prop where
  evidence : .evidence ∈ failed → Spared faults
  clear : .rollbackClear ∉ failed
  copy : .rollbackCopy ∉ failed
  sourceBackup : failed.length ≤ 1 → .removeSourceBackup ∉ failed
  leftover : Leftover volumes faults start → ∀ step ∈ failed, step.isLate = false

end Specification

section Assertions

variable (volumes input faults start)

/-- The stable volume cannot be restored. -/
def Lost (failed : List Step) : Prop :=
  (.evidence ∈ failed ∧ ¬Spared faults) ∨ .rollbackClear ∈ failed ∨ .rollbackCopy ∈ failed ∨
    (Leftover volumes faults start ∧ ∃ step ∈ failed, step.isLate = true)

def Removed (s : Deployment Content Tree) : Prop :=
  ∀ content ∈ s.removals, Whole volumes input faults start content

/-- Neither store has been touched. -/
def Quiet (s : Deployment Content Tree) : Prop :=
  s.stable = start.stable ∧ s.deployRoot = start.deployRoot ∧ s.stableChanged = false ∧
    s.sourceMoved = false ∧ Removed volumes input faults start s

/-- The new source is in its staging directory, and nothing in that of the old one. -/
def Staged (s : Deployment Content Tree) : Prop :=
  s.sourceBackup = none ∧ s.stage = some input.source

def Backed (s : Deployment Content Tree) : Prop :=
  Leftover volumes faults start ∨ s.backup = start.stable

def Verified : Prop :=
  ∀ relative ∈ input.requiredOutputs,
    volumes.contains (newContent volumes input faults start) relative = true

/-- The stable volume is in work. -/
def Changed (s : Deployment Content Tree) : Prop :=
  s.stableChanged = true ∧ s.imageId ≠ "" ∧ Removed volumes input faults start s

/-- The old source is in its place, or beside it with the place free; or so much has failed that
nothing is said of it. -/
def SourceSaved (s : Deployment Content Tree) : Prop :=
  (s.deployRoot = start.deployRoot ∧ s.sourceMoved = false) ∨
    (s.sourceMoved = true ∧ s.deployRoot = none ∧ s.sourceBackup = start.deployRoot ∧
      start.deployRoot.isSome = true) ∨
    2 ≤ s.failed.length ∨ .removeSourceBackup ∈ s.failed

/-- What the handler starts from. -/
def Failed (s : Deployment Content Tree) : Prop :=
  Lost volumes faults start s.failed ∨ Quiet volumes input faults start s ∨
    (Changed volumes input faults start s ∧ s.backup = start.stable ∧ SourceSaved start s ∧
      s.failed ≠ [])

/-- The stable volume is restored. -/
def RolledBack (s : Deployment Content Tree) : Prop :=
  Lost volumes faults start s.failed ∨
    (s.stable = start.stable ∧ Removed volumes input faults start s ∧ SourceSaved start s ∧
      (s.sourceMoved = true → s.failed ≠ []))

/-- Both are restored, as far as a single failure goes. -/
def Ended (s : Deployment Content Tree) : Prop :=
  Lost volumes faults start s.failed ∨
    (s.stable = start.stable ∧ Removed volumes input faults start s ∧
      (s.failed.length ≤ 1 → .removeSourceBackup ∉ s.failed → s.deployRoot = start.deployRoot))

variable {volumes input faults start}

theorem Lost.mono {failed failed' : List Step} (more : failed ⊆ failed')
    (lost : Lost volumes faults start failed) : Lost volumes faults start failed' := by
  rcases lost with ⟨evidence, gone⟩ | clear | copy | ⟨leftover, step, mem, late⟩
  · exact .inl ⟨more evidence, gone⟩
  · exact .inr (.inl (more clear))
  · exact .inr (.inr (.inl (more copy)))
  · exact .inr (.inr (.inr ⟨leftover, step, more mem, late⟩))

theorem Recoverable.not_lost {failed : List Step}
    (recoverable : Recoverable volumes faults start failed) : ¬Lost volumes faults start failed := by
  rintro (⟨evidence, gone⟩ | clear | copy | ⟨leftover, step, mem, late⟩)
  · exact gone (recoverable.evidence evidence)
  · exact recoverable.clear clear
  · exact recoverable.copy copy
  · rw [recoverable.leftover leftover step mem] at late
    cases late

/-- After a late failure the handler has the old content in the backup, or all is lost. -/
theorem failed_of_late {s : Deployment Content Tree} {step : Step}
    (changed : Changed volumes input faults start s) (backed : Backed volumes faults start s)
    (source : SourceSaved start s) (mem : step ∈ s.failed) (late : step.isLate = true) :
    Failed volumes input faults start s := by
  rcases backed with leftover | backup
  · exact .inl (.inr (.inr (.inr ⟨leftover, step, mem, late⟩)))
  · exact .inr (.inr ⟨changed, backup, source, List.ne_nil_of_mem mem⟩)

end Assertions

section Steps

variable {pre : Deployment Content Tree → Prop} {post : Unit → Deployment Content Tree → Prop}
  {raised : Failure → Deployment Content Tree → Prop} {step : Step}
  {effect : Deployment Content Tree → Deployment Content Tree}
  {damage : Damage Content Tree → Deployment Content Tree → Deployment Content Tree}

theorem attempt_triple {error : Damage Content Tree → Failure}
    (works : faults step = none → ∀ s, pre s → post () (effect s))
    (fails : ∀ d, faults step = some d → ∀ s, pre s →
      raised (error d) (damage d { s with failed := s.failed ++ [step] })) :
    Triple pre (attempt faults step error effect damage) post raised where
  run := by
    intro s start
    rw [attempt]
    cases at_ : faults step with
    | none => exact works at_ s start
    | some d => exact fails d at_ s start

theorem attemptQuietly_triple (works : faults step = none → ∀ s, pre s → post () (effect s))
    (fails : ∀ d, faults step = some d → ∀ s, pre s →
      post () (damage d { s with failed := s.failed ++ [step] })) :
    Triple pre (attemptQuietly faults step effect damage) post raised where
  run := by
    intro s start
    rw [attemptQuietly]
    cases at_ : faults step with
    | none => exact works at_ s start
    | some d => exact fails d at_ s start

theorem setPhase_triple {phase : String} (h : ∀ s, pre s → pre { s with phase := phase }) :
    Triple pre (setPhase phase) (fun _ => pre) raised :=
  Triple.modify h

/-- A command that leaves the site as it is. -/
theorem docker_triple (fails : ∀ d, faults step = some d → ∀ s, pre s →
      raised (.deploy d.message) { s with failed := s.failed ++ [step] }) :
    Triple pre (docker faults step id fun _ => id) (fun _ => pre) raised :=
  attempt_triple (fun _ _ h => h) fails

/-- A check of a volume changes nothing. -/
theorem verifyOutputs_triple {step : Nat → Step} {held : Deployment Content Tree → Content}
    {content : Content} (is : ∀ s, pre s → held s = content)
    (breaks : ∀ position d, faults (step position) = some d → ∀ s, pre s →
      raised (.deploy d.message) { s with failed := s.failed ++ [step position] })
    (lacks : (∃ relative ∈ input.requiredOutputs, volumes.contains content relative = false) →
      ∀ s, pre s → raised (.deploy "Docker command failed with exit code 1") s) :
    Triple pre (verifyOutputs volumes input faults step held)
      (fun _ s => pre s ∧ ∀ relative ∈ input.requiredOutputs,
        volumes.contains content relative = true) raised := by
  let done (before : List (String × Nat)) (s : Deployment Content Tree) : Prop :=
    pre s ∧ ∀ item ∈ before, volumes.contains content item.1 = true
  have names : input.requiredOutputs.zipIdx.map Prod.fst = input.requiredOutputs :=
    List.zipIdx_map_fst 0 input.requiredOutputs
  refine Triple.conseq (Triple.forEach done ?_) (fun s h => ⟨h, nofun⟩) ?_ fun _ _ h => h
  · rintro before ⟨relative, position⟩ after split
    refine Triple.bind (docker_triple fun d at_ s h => breaks position d at_ s h.1) fun _ =>
      Triple.get_bind fun a h => Triple.ensure ?_ ?_
    · rintro holds s rfl
      rw [is s h.1] at holds
      exact ⟨h.1, List.forall_mem_append.mpr ⟨h.2, List.forall_mem_singleton.mpr holds⟩⟩
    · rintro lacking s rfl
      rw [is s h.1] at lacking
      refine lacks ⟨relative, ?_, Bool.eq_false_of_not_eq_true lacking⟩ s h.1
      rw [← names, split]
      simp
  · rintro _ s ⟨h, all⟩
    refine ⟨h, fun relative mem => ?_⟩
    rw [← names] at mem
    obtain ⟨item, inside, rfl⟩ := List.mem_map.mp mem
    exact all item inside

end Steps

section Stages

variable (volumes input faults start)

def Begun (s : Deployment Content Tree) : Prop :=
  Quiet volumes input faults start s ∧ Staged input s ∧ s.candidate = start.candidate ∧
    s.backup = start.backup

/-- What the first removal leaves. -/
def Prepared (s : Deployment Content Tree) : Prop :=
  Quiet volumes input faults start s ∧ Staged input s ∧
    s.candidate = prepared volumes faults start ∧
    (Leftover volumes faults start ∨ s.backup = volumes.empty)

/-- The candidate holds the new content, and all that is required is in it. -/
def Built (s : Deployment Content Tree) : Prop :=
  s.candidate = newContent volumes input faults start ∧ s.imageId ≠ "" ∧
    Verified volumes input faults start

def Ready (s : Deployment Content Tree) : Prop :=
  Quiet volumes input faults start s ∧ Staged input s ∧ Built volumes input faults start s ∧
    (Leftover volumes faults start ∨ s.backup = volumes.empty)

def Secured (s : Deployment Content Tree) : Prop :=
  Quiet volumes input faults start s ∧ Staged input s ∧ Built volumes input faults start s ∧
    Backed volumes faults start s

/-- The stable volume is in work, the source is not. -/
def Working (s : Deployment Content Tree) : Prop :=
  Changed volumes input faults start s ∧ Backed volumes faults start s ∧ Staged input s ∧
    s.candidate = newContent volumes input faults start ∧ Verified volumes input faults start ∧
    s.deployRoot = start.deployRoot ∧ s.sourceMoved = false

/-- The stable volume holds the new content. -/
def Promoted (s : Deployment Content Tree) : Prop :=
  Changed volumes input faults start s ∧ Backed volumes faults start s ∧
    s.stable = newContent volumes input faults start

variable {volumes input faults start}

theorem failed_of_quiet {s : Deployment Content Tree} (quiet : Quiet volumes input faults start s) :
    Failed volumes input faults start s :=
  .inr (.inl quiet)

theorem removeVolumes_first :
    Triple (Begun volumes input faults start) (removeVolumes volumes faults .removeVolumes)
      (fun _ => Prepared volumes input faults start)
      fun _ => Failed volumes input faults start := by
  refine attemptQuietly_triple ?_ ?_
  · rintro works s ⟨⟨stable, root, unchanged, unmoved, removed⟩, staged, -, -⟩
    refine ⟨⟨stable, root, unchanged, unmoved, ?_⟩, staged, ?_, .inr rfl⟩
    · exact List.forall_mem_append.mpr ⟨removed, List.forall_mem_singleton.mpr (.inl stable)⟩
    · simp only [prepared, works]
  · rintro d at_ s ⟨⟨stable, root, unchanged, unmoved, removed⟩, staged, candidate, backup⟩
    refine ⟨⟨stable, root, unchanged, unmoved, ?_⟩, staged, ?_, ?_⟩
    · refine List.forall_mem_append.mpr ⟨removed, ?_⟩
      dsimp only
      split
      · exact List.forall_mem_singleton.mpr (.inl stable)
      · exact nofun
    · simp only [prepared, at_, candidate]
    · cases gone : d.backupGone with
      | true => exact .inr (by simp [gone])
      | false =>
        by_cases empty : start.backup = volumes.empty
        · exact .inr (by simp [gone, backup, empty])
        · exact .inl ⟨empty, d, at_, gone⟩

theorem prepareVolumes_triple :
    Triple (Begun volumes input faults start) (prepareVolumes volumes faults)
      (fun _ => Prepared volumes input faults start)
      fun _ => Failed volumes input faults start := by
  refine Triple.bind (setPhase_triple fun _ h => h) fun _ => Triple.bind removeVolumes_first fun _ => ?_
  exact Triple.forEach (fun _ => Prepared volumes input faults start) fun _ _ _ _ =>
    docker_triple fun _ _ s h => failed_of_quiet h.1

theorem ne_empty_of_isImageId {text : String} (h : isImageId text = true) : text ≠ "" := by
  rintro rfl
  cases h

theorem runBuilder_triple :
    Triple (Prepared volumes input faults start)
      (docker faults .runBuilder (fun s => { s with candidate := input.builder s.candidate })
        fun d s => { s with candidate := d.content })
      (fun _ s => Quiet volumes input faults start s ∧ Staged input s ∧
        s.candidate = newContent volumes input faults start ∧
        (Leftover volumes faults start ∨ s.backup = volumes.empty))
      fun _ => Failed volumes input faults start := by
  refine attempt_triple ?_ fun _ _ s h => failed_of_quiet h.1
  rintro - s ⟨quiet, staged, candidate, fresh⟩
  exact ⟨quiet, staged, congrArg input.builder candidate, fresh⟩

theorem buildCandidate_triple :
    Triple (Prepared volumes input faults start) (buildCandidate volumes input faults)
      (fun _ => Ready volumes input faults start) fun _ => Failed volumes input faults start := by
  let known (s : Deployment Content Tree) : Prop :=
    Quiet volumes input faults start s ∧ Staged input s ∧
      s.candidate = newContent volumes input faults start ∧
      (Leftover volumes faults start ∨ s.backup = volumes.empty)
  have images : Triple known
      (docker faults .images (fun s => { s with imageId := firstLine input.imagesOutput })
        fun _ => id)
      (fun _ => known) fun _ => Failed volumes input faults start := by
    generalize firstLine input.imagesOutput = found
    exact attempt_triple (fun _ _ h => h) fun _ _ s h => failed_of_quiet h.1
  unfold buildCandidate
  refine Triple.bind (setPhase_triple fun _ h => h) fun _ => ?_
  refine Triple.bind (docker_triple fun _ _ s h => failed_of_quiet h.1) fun _ => ?_
  refine Triple.bind runBuilder_triple fun _ => Triple.bind images fun _ => ?_
  refine Triple.get_bind fun a h => ?_
  have identified : Triple (fun s => s = a)
      (ensure (isImageId a.imageId = true)
        (Failure.deploy "builder image identity is missing or invalid"))
      (fun _ s => known s ∧ s.imageId ≠ "") fun _ => Failed volumes input faults start := by
    refine Triple.ensure ?_ ?_
    · rintro valid s rfl
      exact ⟨h, ne_empty_of_isImageId valid⟩
    · rintro - s rfl
      exact failed_of_quiet h.1
  refine Triple.bind identified fun _ => ?_
  refine Triple.conseq (verifyOutputs_triple (fun s h => h.1.2.2.1) ?_ ?_) (fun s h => h) ?_
    fun _ _ h => h
  · exact fun _ _ _ s h => failed_of_quiet h.1.1
  · exact fun _ s h => failed_of_quiet h.1.1
  · rintro _ s ⟨⟨⟨quiet, staged, candidate, fresh⟩, identity⟩, verified⟩
    exact ⟨quiet, staged, ⟨candidate, identity, verified⟩, fresh⟩

theorem backupStable_triple :
    Triple (Ready volumes input faults start) (backupStable volumes faults)
      (fun _ => Secured volumes input faults start) fun _ => Failed volumes input faults start := by
  refine Triple.bind (setPhase_triple fun _ h => h) fun _ => attempt_triple ?_ ?_
  · rintro - s ⟨quiet, staged, built, fresh⟩
    refine ⟨quiet, staged, built, fresh.imp_right fun empty => ?_⟩
    change volumes.copy s.stable s.backup = start.stable
    rw [empty, volumes.copy_empty, quiet.1]
  · exact fun _ _ s h => failed_of_quiet h.1

theorem failed_of_working {s : Deployment Content Tree} {step : Step}
    (working : Working volumes input faults start s) (mem : step ∈ s.failed)
    (late : step.isLate = true) : Failed volumes input faults start s :=
  failed_of_late working.1 working.2.1 (.inl working.2.2.2.2.2) mem late

theorem promoteVolume_triple :
    Triple (Secured volumes input faults start) (promoteVolume volumes input faults)
      (fun _ s => Working volumes input faults start s ∧
        s.stable = newContent volumes input faults start)
      fun _ => Failed volumes input faults start := by
  have mark : Triple (Secured volumes input faults start)
      (modify fun s => { s with stableChanged := true } : Run Content Tree Unit)
      (fun _ => Working volumes input faults start) fun _ => Failed volumes input faults start := by
    refine Triple.modify ?_
    rintro s ⟨⟨-, root, -, unmoved, removed⟩, staged, ⟨candidate, identity, verified⟩, backed⟩
    exact ⟨⟨rfl, identity, removed⟩, backed, staged, candidate, verified, root, unmoved⟩
  have clear : Triple (Working volumes input faults start) (clearStable volumes faults .clearStable)
      (fun _ s => Working volumes input faults start s ∧ s.stable = volumes.empty)
      fun _ => Failed volumes input faults start := by
    unfold clearStable docker
    exact attempt_triple (fun _ _ h => ⟨h, rfl⟩) fun d _ s h =>
      failed_of_working (s := { s with failed := s.failed ++ [.clearStable], stable := d.content }) h
        (List.mem_append_right _ List.mem_cons_self) rfl
  have copy : Triple
      (fun s => Working volumes input faults start s ∧ s.stable = volumes.empty)
      (copyToStable volumes faults .promoteVolume (·.candidate))
      (fun _ s => Working volumes input faults start s ∧
        s.stable = newContent volumes input faults start)
      fun _ => Failed volumes input faults start := by
    unfold copyToStable docker
    refine attempt_triple ?_ fun d _ s h =>
      failed_of_working (s := { s with failed := s.failed ++ [.promoteVolume], stable := d.content })
        h.1 (List.mem_append_right _ List.mem_cons_self) rfl
    rintro - s ⟨working, empty⟩
    refine ⟨working, ?_⟩
    change volumes.copy s.candidate s.stable = _
    rw [empty, volumes.copy_empty, working.2.2.2.1]
  refine Triple.bind (setPhase_triple fun _ h => h) fun _ => Triple.bind mark fun _ =>
    Triple.bind clear fun _ => Triple.bind copy fun _ => ?_
  refine Triple.conseq (verifyOutputs_triple (fun s h => h.2) ?_ ?_) (fun s h => h)
    (fun _ s h => h.1) fun _ _ h => h
  · exact fun position _ _ s h =>
      failed_of_working (s := { s with failed := s.failed ++ [.verifyStable position] }) h.1
        (List.mem_append_right _ List.mem_cons_self) rfl
  · rintro ⟨relative, mem, lacking⟩ s ⟨working, -⟩
    rw [working.2.2.2.2.1 relative mem] at lacking
    cases lacking

theorem moveSource_triple :
    Triple (fun s => Working volumes input faults start s ∧
        s.stable = newContent volumes input faults start)
      (moveSource faults)
      (fun _ s => Promoted volumes input faults start s ∧ SourceSaved start s ∧
        s.stage = some input.source)
      fun _ => Failed volumes input faults start := by
  refine Triple.get_bind fun a h => ?_
  obtain ⟨working, new⟩ := h
  split
  · rename_i there
    have moved : Triple (fun s => s = a)
        (files faults .moveSource
          (fun s => { s with deployRoot := none, sourceBackup := s.deployRoot }) fun _ => id)
        (fun _ s => s = { a with deployRoot := none, sourceBackup := a.deployRoot })
        fun _ => Failed volumes input faults start := by
      refine attempt_triple ?_ ?_
      · rintro - s rfl
        rfl
      · rintro d - s rfl
        exact failed_of_working (s := { s with failed := s.failed ++ [.moveSource] }) working
          (List.mem_append_right _ List.mem_cons_self) rfl
    refine Triple.bind moved fun _ => Triple.modify ?_
    rintro s rfl
    obtain ⟨changed, backed, ⟨-, stage⟩, -, -, root, -⟩ := working
    refine ⟨⟨changed, backed, new⟩, .inr (.inl ⟨rfl, rfl, root, ?_⟩), stage⟩
    rw [← root]
    exact there
  · refine Triple.pure ?_
    rintro s rfl
    obtain ⟨changed, backed, ⟨-, stage⟩, -, -, root, unmoved⟩ := working
    exact ⟨⟨changed, backed, new⟩, .inl ⟨root, unmoved⟩, stage⟩

theorem removeOldSource_triple :
    Triple (Promoted volumes input faults start) (removeOldSource faults)
      (fun _ => Promoted volumes input faults start) fun _ => Failed volumes input faults start := by
  refine Triple.get_bind fun a h => ?_
  split
  · refine attempt_triple ?_ ?_
    · rintro - s rfl
      exact h
    · rintro d - s rfl
      have mem : Step.removeSourceBackup ∈ s.failed ++ [.removeSourceBackup] :=
        List.mem_append_right _ List.mem_cons_self
      exact failed_of_late (s := { s with
          failed := s.failed ++ [.removeSourceBackup], sourceBackup := some d.tree })
        h.1 h.2.1 (.inr (.inr (.inr mem))) mem rfl
  · refine Triple.pure ?_
    rintro s rfl
    exact h

theorem promoteSource_triple :
    Triple (fun s => Working volumes input faults start s ∧
        s.stable = newContent volumes input faults start)
      (promoteSource faults) (fun _ => Promoted volumes input faults start)
      fun _ => Failed volumes input faults start := by
  have placed : Triple (fun s => Promoted volumes input faults start s ∧ SourceSaved start s ∧
        s.stage = some input.source)
      (files faults .promoteSource (fun s => { s with stage := none, deployRoot := s.stage })
        fun _ => id)
      (fun _ => Promoted volumes input faults start) fun _ => Failed volumes input faults start := by
    refine attempt_triple (fun _ _ h => h.1) ?_
    rintro d - s ⟨⟨changed, backed, -⟩, source, -⟩
    have grown : SourceSaved start { s with failed := s.failed ++ [.promoteSource] } := by
      rcases source with here | beside | many | removed
      · exact .inl here
      · exact .inr (.inl beside)
      · exact .inr (.inr (.inl (by simp only [List.length_append]; omega)))
      · exact .inr (.inr (.inr (List.mem_append_left _ removed)))
    exact failed_of_late (s := { s with failed := s.failed ++ [.promoteSource] }) changed backed grown
      (List.mem_append_right _ List.mem_cons_self) rfl
  refine Triple.bind (setPhase_triple fun _ h => h) fun _ => Triple.bind moveSource_triple fun _ =>
    Triple.bind placed fun _ => Triple.bind removeOldSource_triple fun _ => ?_
  exact Triple.modify fun _ h => h

/-- The removal after the promotion: a backup that it leaves still holds the old content. -/
theorem removeVolumes_cleanup :
    Triple (Promoted volumes input faults start) (removeVolumes volumes faults .cleanup)
      (fun _ s => Changed volumes input faults start s ∧
        (Spared faults → Backed volumes faults start s ∧ s.failed ≠ []))
      fun _ => Failed volumes input faults start := by
  refine attemptQuietly_triple ?_ ?_
  · rintro works s ⟨⟨changed, identity, removed⟩, -, new⟩
    refine ⟨⟨changed, identity, ?_⟩, ?_⟩
    · exact List.forall_mem_append.mpr ⟨removed, List.forall_mem_singleton.mpr (.inr new)⟩
    · rintro ⟨d, at_, -⟩
      cases works.symm.trans at_
  · rintro d at_ s ⟨⟨changed, identity, removed⟩, backed, new⟩
    refine ⟨⟨changed, identity, ?_⟩, ?_⟩
    · refine List.forall_mem_append.mpr ⟨removed, ?_⟩
      dsimp only
      split
      · exact List.forall_mem_singleton.mpr (.inr new)
      · exact nofun
    · rintro ⟨d', at', kept⟩
      cases at_.symm.trans at'
      refine ⟨backed.imp_right fun saved => ?_, by simp⟩
      simp only [kept, Bool.false_eq_true, if_false]
      exact saved

theorem writeJson_evidence {payload : Payload} :
    Triple (fun s => Changed volumes input faults start s ∧
        (Spared faults → Backed volumes faults start s ∧ s.failed ≠ []))
      (writeJson faults .evidence payload) (fun _ => Removed volumes input faults start)
      fun _ => Failed volumes input faults start := by
  refine attempt_triple (fun _ _ h => h.1.2.2) ?_
  rintro d - s ⟨changed, spared⟩
  have mem : Step.evidence ∈ s.failed ++ [.evidence] := List.mem_append_right _ List.mem_cons_self
  by_cases left : Spared faults
  · obtain ⟨backed, some_⟩ := spared left
    have many : 2 ≤ (s.failed ++ [Step.evidence]).length := by
      have positive := List.length_pos_iff.mpr some_
      simp only [List.length_append, List.length_singleton]
      omega
    exact failed_of_late (s := { s with failed := s.failed ++ [.evidence] }) changed backed
      (.inr (.inr (.inl many))) mem rfl
  · exact .inl (.inl ⟨mem, left⟩)

theorem deployBody_triple :
    Triple (Begun volumes input faults start) (deployBody volumes input faults)
      (fun _ => Removed volumes input faults start) fun _ => Failed volumes input faults start := by
  unfold deployBody
  refine Triple.bind prepareVolumes_triple fun _ => Triple.bind buildCandidate_triple fun _ => ?_
  refine Triple.bind backupStable_triple fun _ => Triple.bind promoteVolume_triple fun _ => ?_
  refine Triple.bind promoteSource_triple fun _ => Triple.bind (setPhase_triple fun _ h => h) fun _ => ?_
  refine Triple.bind removeVolumes_cleanup fun _ => Triple.get_bind fun a h => ?_
  refine Triple.bind (Triple.of_pre writeJson_evidence ?_) fun _ => Triple.pure fun _ h => h
  rintro s rfl
  exact h

end Stages

section Handler

theorem Ended.append {s s' : Deployment Content Tree} (ended : Ended volumes input faults start s)
    {more : List Step} (failed : s'.failed = s.failed ++ more) (stable : s'.stable = s.stable)
    (root : s'.deployRoot = s.deployRoot)
    (removals : ∀ content ∈ s'.removals, content ∈ s.removals ∨ content = s.stable) :
    Ended volumes input faults start s' := by
  rcases ended with lost | ⟨old, removed, restored⟩
  · exact .inl (failed ▸ lost.mono (List.subset_append_left _ _))
  · refine .inr ⟨stable.trans old, fun content mem => ?_, fun few absent => ?_⟩
    · rcases removals content mem with before | rfl
      · exact removed content before
      · exact .inl old
    · rw [failed] at few absent
      rw [List.length_append] at few
      exact root.trans (restored (by omega) fun mem => absent (List.mem_append_left _ mem))

/-- The rollback has not started, or it has cleared the stable volume. -/
def Restoring (volumes : Volumes Content) (input : Input Content Tree)
    (faults : Faults Content Tree) (start : Site Content Tree) (s : Deployment Content Tree) : Prop :=
  Lost volumes faults start s.failed ∨
    (Changed volumes input faults start s ∧ s.backup = start.stable ∧ SourceSaved start s ∧
      s.failed ≠ [])

theorem restore_triple :
    Triple (Restoring volumes input faults start)
      (do
        clearStable volumes faults .rollbackClear
        copyToStable volumes faults .rollbackCopy (·.backup))
      (fun _ => RolledBack volumes input faults start)
      fun failure s => (∃ message, failure = .deploy message) ∧ Lost volumes faults start s.failed := by
  have clear : Triple (Restoring volumes input faults start)
      (clearStable volumes faults .rollbackClear)
      (fun _ s => Lost volumes faults start s.failed ∨
        (Restoring volumes input faults start s ∧ s.stable = volumes.empty))
      fun failure s => (∃ message, failure = .deploy message) ∧
        Lost volumes faults start s.failed := by
    unfold clearStable docker
    refine attempt_triple (fun _ _ h => .inr ⟨h, rfl⟩) fun d _ s _ => ⟨⟨_, rfl⟩, ?_⟩
    exact .inr (.inl (List.mem_append_right _ List.mem_cons_self))
  refine Triple.bind clear fun _ => ?_
  unfold copyToStable docker
  refine attempt_triple ?_ fun d _ s _ => ⟨⟨_, rfl⟩, ?_⟩
  · rintro - s (lost | ⟨lost | ⟨⟨-, -, removed⟩, saved, source, spent⟩, empty⟩)
    · exact .inl lost
    · exact .inl lost
    · refine .inr ⟨?_, removed, source, fun _ => spent⟩
      change volumes.copy s.backup s.stable = _
      rw [empty, volumes.copy_empty, saved]
  · exact .inr (.inr (.inl (List.mem_append_right _ List.mem_cons_self)))

theorem rollbackVolume_triple {raised : Failure → Deployment Content Tree → Prop} :
    Triple (Failed volumes input faults start) (rollbackVolume volumes faults)
      (fun _ => RolledBack volumes input faults start) raised := by
  refine Triple.get_bind fun a h => ?_
  split
  · rename_i changed
    have begun : Restoring volumes input faults start a := by
      rcases h with lost | quiet | saved
      · exact .inl lost
      · rw [quiet.2.2.1] at changed
        cases changed.1
      · exact .inr saved
    refine Triple.tryCatch (Triple.of_pre restore_triple ?_) fun failure => ?_
    · rintro s rfl
      exact begun
    · cases failure with
      | deploy message => exact Triple.modify fun s h => .inl h.2
      | os =>
        refine Triple.throw ?_
        rintro s ⟨⟨message, other⟩, -⟩
        cases other
  · rename_i unchanged
    refine Triple.pure ?_
    rintro s rfl
    rcases h with lost | ⟨stable, root, -, unmoved, removed⟩ | ⟨⟨changed, identity, -⟩, -⟩
    · exact .inl lost
    · refine .inr ⟨stable, removed, .inl ⟨root, unmoved⟩, fun moved => ?_⟩
      rw [unmoved] at moved
      cases moved
    · exact absurd ⟨changed, identity⟩ unchanged

theorem restoreSource_triple :
    Triple (RolledBack volumes input faults start) (restoreSource faults)
      (fun _ => Ended volumes input faults start) fun _ => Ended volumes input faults start := by
  refine Triple.get_bind fun a h => ?_
  split
  · rename_i beside
    refine attempt_triple ?_ ?_
    · rintro - s rfl
      rcases h with lost | ⟨stable, removed, source, spent⟩
      · exact .inl lost
      · refine .inr ⟨stable, removed, fun few absent => ?_⟩
        rcases source with ⟨-, unmoved⟩ | ⟨-, -, saved, -⟩ | many | removing
        · rw [unmoved] at beside
          cases beside.1
        · exact saved
        · exact absurd many (Nat.not_le.mpr (Nat.lt_succ_of_le few))
        · exact absurd removing absent
    · rintro d - s rfl
      rcases h with lost | ⟨stable, removed, -, spent⟩
      · exact .inl (lost.mono (List.subset_append_left _ _))
      · refine .inr ⟨stable, removed, fun few _ => ?_⟩
        have positive := List.length_pos_iff.mpr (spent beside.1)
        simp only [id, List.length_append, List.length_singleton] at few
        omega
  · rename_i notBeside
    refine Triple.pure ?_
    rintro s rfl
    rcases h with lost | ⟨stable, removed, source, -⟩
    · exact .inl lost
    · refine .inr ⟨stable, removed, fun few absent => ?_⟩
      rcases source with ⟨root, -⟩ | ⟨moved, free, saved, some_⟩ | many | removing
      · exact root
      · exact absurd ⟨moved, saved ▸ some_, free⟩ notBeside
      · exact absurd many (by omega)
      · exact absurd removing absent

theorem deployFailed_triple :
    Triple (Failed volumes input faults start) (deployFailed volumes input faults)
      (fun _ => Removed volumes input faults start) fun _ => Ended volumes input faults start := by
  have stage : Triple (Ended volumes input faults start)
      (attemptQuietly faults .removeStage (fun s => { s with stage := none })
        fun d s => { s with stage := s.stage.map fun _ => d.tree })
      (fun _ => Ended volumes input faults start) fun _ => Ended volumes input faults start :=
    attemptQuietly_triple (fun _ _ h => h) fun d _ s h =>
      h.append rfl rfl rfl fun _ mem => .inl mem
  have cleanup : Triple (Ended volumes input faults start)
      (removeVolumes volumes faults .rollbackCleanup)
      (fun _ => Ended volumes input faults start) fun _ => Ended volumes input faults start := by
    refine attemptQuietly_triple (fun _ s h => ?_) fun d _ s h => ?_
    · refine h.append (List.append_nil _).symm rfl rfl fun content mem => ?_
      exact (List.mem_append.mp mem).imp_right List.mem_singleton.mp
    · refine h.append rfl rfl rfl fun content mem => (List.mem_append.mp mem).imp_right fun new => ?_
      split at new
      · exact List.mem_singleton.mp new
      · cases new
  have evidence {payload : Payload} : Triple (Ended volumes input faults start)
      (writeJson faults .failureEvidence payload)
      (fun _ => Ended volumes input faults start) fun _ => Ended volumes input faults start :=
    attempt_triple (fun _ _ h => h) fun d _ s h => h.append rfl rfl rfl fun _ mem => .inl mem
  unfold deployFailed
  refine Triple.bind rollbackVolume_triple fun _ => Triple.bind restoreSource_triple fun _ => ?_
  refine Triple.bind stage fun _ => Triple.bind cleanup fun _ => Triple.get_bind fun a h => ?_
  refine Triple.bind (Triple.of_pre evidence ?_) fun _ => Triple.get_bind fun b h => ?_
  · rintro s rfl
    exact h
  · refine Triple.throw ?_
    rintro s rfl
    exact h

end Handler

section Stage

/-- Before the `try` statement only the staging directories change. -/
def Untouched (start : Site Content Tree) (s : Deployment Content Tree) : Prop :=
  s.stable = start.stable ∧ s.deployRoot = start.deployRoot ∧ s.candidate = start.candidate ∧
    s.backup = start.backup ∧ s.stableChanged = false ∧ s.sourceMoved = false ∧ s.removals = []

theorem Untouched.ended {s : Deployment Content Tree} (untouched : Untouched start s) :
    Ended volumes input faults start s := by
  obtain ⟨stable, root, -, -, -, -, none_⟩ := untouched
  refine .inr ⟨stable, fun content mem => ?_, fun _ _ => root⟩
  rw [none_] at mem
  cases mem

theorem clearPath_triple {step : Step} {at_ : Deployment Content Tree → Option Tree}
    {put : Option Tree → Deployment Content Tree → Deployment Content Tree}
    {raised : Failure → Deployment Content Tree → Prop}
    (keeps : ∀ tree s, Untouched start s → Untouched start (put tree s))
    (clears : ∀ s, at_ (put none s) = none)
    (ends : ∀ failure s, Untouched start s → raised failure s) :
    Triple (Untouched start) (clearPath input faults step at_ put)
      (fun _ s => Untouched start s ∧ at_ s = none) raised := by
  refine Triple.get_bind fun a h => ?_
  cases there : at_ a with
  | none =>
    refine Triple.pure ?_
    rintro s rfl
    exact ⟨h, there⟩
  | some tree =>
    have checked : Triple (fun s => s = a)
        (ensure (input.isDirectory tree = true) (Failure.deploy "staging paths must be directories"))
        (fun _ s => s = a) raised := by
      refine Triple.ensure (fun _ _ h => h) ?_
      rintro - s rfl
      exact ends _ _ h
    refine Triple.bind checked fun _ => attempt_triple ?_ ?_
    · rintro - s rfl
      exact ⟨keeps none s h, clears s⟩
    · rintro d - s rfl
      exact ends _ _ (keeps (some d.tree) { s with failed := s.failed ++ [step] } h)

theorem requireCompose_triple :
    Triple (fun s => Untouched start s ∧ Staged input s) (requireCompose input faults)
      (fun _ s => Untouched start s ∧ Staged input s)
      fun _ => Ended volumes input faults start := by
  unfold requireCompose
  split
  · exact Triple.pure fun _ h => h
  · have drop : Triple (fun s => Untouched start s ∧ Staged input s)
        (attemptQuietly faults .dropStage (fun s => { s with stage := none })
          fun d s => { s with stage := some d.tree })
        (fun _ => Untouched start) fun _ => Ended volumes input faults start :=
      attemptQuietly_triple (fun _ _ h => h.1) fun _ _ _ h => h.1
    exact Triple.bind drop fun _ => Triple.throw fun _ h => h.ended

theorem stageSource_triple :
    Triple (fun s => s = begin_ start) (stageSource input faults)
      (fun _ => Begun volumes input faults start) fun _ => Ended volumes input faults start := by
  have begun : Untouched start (begin_ start) := ⟨rfl, rfl, rfl, rfl, rfl, rfl, rfl⟩
  have ends (failure : Failure) (s : Deployment Content Tree) (h : Untouched start s) :
      Ended volumes input faults start s := h.ended
  have sha : Triple (fun s => s = begin_ start)
      (ensure (input.deployedSha.length = 40 ∧ input.deployedSha.toList.all Text.isLowerHex = true)
        (Failure.deploy "deployed_sha must be a lowercase 40-character SHA"))
      (fun _ => Untouched start) fun _ => Ended volumes input faults start := by
    refine Triple.ensure ?_ ?_
    all_goals
      rintro - s rfl
    · exact begun
    · exact begun.ended
  have checked : Triple (Untouched start) (ofExcept (input.checked.mapError Failure.deploy))
      (fun _ => Untouched start) fun _ => Ended volumes input faults start :=
    Triple.ofExcept (fun _ _ _ h => h) fun _ _ _ h => h.ended
  have copied : Triple (fun s => Untouched start s ∧ s.sourceBackup = none)
      (files faults .copySource (fun s => { s with stage := some input.source })
        fun d s => { s with stage := some d.tree })
      (fun _ s => Untouched start s ∧ Staged input s)
      fun _ => Ended volumes input faults start :=
    attempt_triple (fun _ _ h => ⟨h.1, h.2, rfl⟩) fun _ _ _ h => Untouched.ended h.1
  unfold stageSource
  refine Triple.bind sha fun _ => Triple.bind checked fun _ => ?_
  refine Triple.bind (clearPath_triple (fun _ _ h => h) (fun _ => rfl) ends) fun _ => ?_
  refine Triple.bind (Triple.of_pre (clearPath_triple (fun _ _ h => h) (fun _ => rfl) ends)
    fun _ h => h.1) fun _ => ?_
  refine Triple.bind copied fun _ => Triple.conseq requireCompose_triple (fun _ h => h) ?_
    fun _ _ h => h
  rintro _ s ⟨⟨stable, root, candidate, backup, unchanged, unmoved, none_⟩, staged⟩
  refine ⟨⟨stable, root, unchanged, unmoved, fun content mem => ?_⟩, staged, candidate, backup⟩
  rw [none_] at mem
  cases mem

end Stage

section Result

theorem deployStaticSite_triple :
    Triple (fun s => s = begin_ start) (deployStaticSite volumes input faults)
      (fun _ => Removed volumes input faults start) fun _ => Ended volumes input faults start :=
  Triple.bind stageSource_triple fun _ =>
    Triple.tryCatch deployBody_triple fun _ => deployFailed_triple

/-- A deployment whose failures are all recoverable leaves both stores as they were or both new after
a single failure, and never removes the backup while the stable volume is neither. -/
theorem deployStaticSite_safe (volumes : Volumes Content) (input : Input Content Tree)
    (faults : Faults Content Tree) (start : Site Content Tree)
    (recoverable : Recoverable volumes faults start (outcome volumes input faults start).2.failed) :
    Safe volumes input faults start := by
  have run := (@deployStaticSite_triple _ _ volumes input faults start).run _ rfl
  change Outcome _ _ (outcome volumes input faults start) at run
  cases eq : outcome volumes input faults start with
  | mk result s =>
    rw [eq] at run recoverable
    cases result with
    | ok payload =>
      refine ⟨fun _ failure failed => ?_, fun content mem => ?_⟩
      · rw [eq] at failed
        cases failed
      · rw [eq] at mem
        exact run content mem
    | error failure =>
      obtain ⟨stable, removed, restored⟩ := Or.resolve_left run recoverable.not_lost
      refine ⟨fun few _ _ => .inl ?_, fun content mem => ?_⟩
      · rw [eq] at few ⊢
        exact ⟨stable, restored few (recoverable.sourceBackup few)⟩
      · rw [eq] at mem
        exact removed content mem

end Result

section Example

/-- Volumes of named files; a copy keeps what has other names. -/
def fileVolumes : Volumes (List String) where
  empty := []
  copy source destination := source ++ destination.filter fun name => name ∉ source
  contains content name := name ∈ content
  copy_empty source := List.append_nil source

def sampleInput : Input (List String) String where
  serviceName := "site"
  requiredOutputs := ["index.html"]
  deployedSha := "0123456789012345678901234567890123456789"
  checked := .ok ()
  source := "new"
  isDirectory _ := true
  hasCompose _ := true
  builder _ := ["index.html", "new.html"]
  imagesOutput := "sha256:abc\n"

def sampleSite : Site (List String) String :=
  ⟨[], ["index.html", "old.html"], [], some "old", none, none⟩

/-- One step fails, and leaves half of a site. -/
def failsAt (step other : Step) : Option (Damage (List String) String) :=
  if other = step then some ⟨"Docker command failed with exit code 1", false, ["half.html"], "", true, true⟩
  else none

theorem deployStaticSite_safe_clearStable :
    Safe fileVolumes sampleInput (failsAt .clearStable) sampleSite := by
  have failed : (outcome fileVolumes sampleInput (failsAt .clearStable) sampleSite).2.failed =
      [.clearStable] := by decide +kernel
  refine deployStaticSite_safe _ _ _ _ (failed ▸ ⟨?_, ?_, ?_, ?_, ?_⟩)
  · exact fun mem => absurd mem (by decide)
  · decide
  · decide
  · exact fun _ => by decide
  · exact fun leftover => absurd rfl leftover.1

/-- When the evidence of success cannot be written, the rollback copies from a backup that is gone. -/
theorem not_safe_evidence : ¬Safe fileVolumes sampleInput (failsAt .evidence) sampleSite := by
  intro safe
  have few : (outcome fileVolumes sampleInput (failsAt .evidence) sampleSite).2.failed.length ≤ 1 := by
    decide +kernel
  have stable : (outcome fileVolumes sampleInput (failsAt .evidence) sampleSite).2.stable = [] := by
    decide +kernel
  obtain ⟨failure, raised⟩ :
      ∃ failure, (outcome fileVolumes sampleInput (failsAt .evidence) sampleSite).1 = .error failure :=
    ⟨_, rfl⟩
  rcases safe.atomic few failure raised with ⟨old, -⟩ | ⟨new, -⟩
  · rw [stable] at old
    cases old
  · rw [stable] at new
    cases new

end Example

end OptimizrActions.StaticSite
