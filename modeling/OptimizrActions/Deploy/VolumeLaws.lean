import OptimizrActions.Deploy.VolumeContract

/-! A volume is created only after all were inspected, and only where its creation is allowed. -/

namespace OptimizrActions.Deploy

open Talk Prog

abbrev Log := List (Exchange Command Answer)

section Spec

def Inspected (volume : String) (log : Log) : Prop :=
  ∃ answer, ⟨inspectVolumeCommand volume, answer⟩ ∈ log

def InspectFailed (volume : String) (log : Log) : Prop :=
  ∃ returncode stdout, returncode ≠ 0 ∧
    ⟨inspectVolumeCommand volume, .completed returncode stdout⟩ ∈ log

/-- The volume could not be inspected, and is not in the inventory. -/
def InspectedMissing (volume : String) (log : Log) : Prop :=
  InspectFailed volume log ∧ ∃ stdout, volume ∉ Text.splitLines stdout ∧
    ⟨listVolumesCommand volume, .completed 0 stdout⟩ ∈ log

/-- No volume is created. -/
def Quiet (log : Log) : Prop := ∀ x ∈ log, ∀ volume, x.query ≠ createVolumeCommand volume

/-- What comes before the creation of a volume. -/
structure CreateAllowed (manifest : VolumeManifest) (volume : String) (before : Log) : Prop where
  required : volume ∈ manifest.ensureVolumes
  authorized : mayCreateMissingVolume manifest volume = true
  missing : InspectedMissing volume before
  inspected : ∀ other ∈ manifest.ensureVolumes, Inspected other before

/-- Every creation is allowed, and none happens where a missing volume is not authorized. -/
structure CreatesAllowed (manifest : VolumeManifest) (log : Log) : Prop where
  each : ∀ before x after volume, log = before ++ x :: after →
    x.query = createVolumeCommand volume → CreateAllowed manifest volume before
  none : ∀ volume ∈ manifest.ensureVolumes, mayCreateMissingVolume manifest volume = false →
    InspectFailed volume log → Quiet log

end Spec

section Calls

variable {β : Type} {daemon : Daemon} {command : Command} {description : String}
  {whole : Except String β → Log → Prop}

/-- A call before the program; where it raises, the program ends with it. -/
theorem emits_call_bind {next : Int × String → Docker β}
    (raises : ∀ message, whole (.error message) [⟨command, .raised message⟩])
    (completes : ∀ returncode stdout, Emits (next (returncode, stdout)) fun result log =>
      whole result (⟨command, .completed returncode stdout⟩ :: log)) :
    Emits (call daemon command >>= next) whole := by
  have asked : Emits (call daemon command) fun result log =>
      (∃ message, result = .error message ∧ log = [⟨command, .raised message⟩]) ∨
        ∃ returncode stdout, result = .ok (returncode, stdout) ∧
          log = [⟨command, .completed returncode stdout⟩] := by
    refine Emits.ask_bind fun answer => ?_
    cases answer with
    | completed returncode stdout => exact Emits.pure (Or.inr ⟨returncode, stdout, rfl, rfl⟩)
    | raised message => exact Emits.throw (Or.inl ⟨message, rfl, rfl⟩)
  refine Emits.bind asked (fun answered => completes answered.1 answered.2) ?_ ?_
  · rintro message log (⟨_, eq, rfl⟩ | ⟨_, _, eq, -⟩)
    · cases eq
      exact raises _
    · exact absurd eq nofun
  · rintro answered log result more (⟨_, eq, -⟩ | ⟨returncode, stdout, eq, rfl⟩) rest
    · exact absurd eq nofun
    · cases eq
      exact rest

/-- A call that must succeed before the program. -/
theorem emits_callSuccess_bind {next : String → Docker β}
    (raises : ∀ answer message, (∀ stdout, answer ≠ .completed 0 stdout) →
      whole (.error message) [⟨command, answer⟩])
    (completes : ∀ stdout, Emits (next stdout) fun result log =>
      whole result (⟨command, .completed 0 stdout⟩ :: log)) :
    Emits (callSuccess daemon command description >>= next) whole := by
  have asked : Emits (callSuccess daemon command description) fun result log =>
      (∃ message answer, result = .error message ∧ log = [⟨command, answer⟩] ∧
        ∀ stdout, answer ≠ .completed 0 stdout) ∨
        ∃ stdout, result = .ok stdout ∧ log = [⟨command, .completed 0 stdout⟩] := by
    refine emits_call_bind (fun message => Or.inl ⟨message, _, rfl, rfl, nofun⟩)
      fun returncode stdout => ?_
    refine Emits.ensure_bind (fun zero => Emits.pure (Or.inr ⟨stdout, rfl, ?_⟩)) fun failed => ?_
    · rw [show returncode = 0 from zero]
    · exact Or.inl ⟨_, _, rfl, rfl, fun _ eq => failed (Answer.completed.inj eq).1⟩
  refine Emits.bind asked completes ?_ ?_
  · rintro message log (⟨_, answer, -, rfl, failed⟩ | ⟨_, eq, -⟩)
    · exact raises answer message failed
    · exact absurd eq nofun
  · rintro stdout log result more (⟨_, _, eq, -⟩ | ⟨_, eq, rfl⟩) rest
    · exact absurd eq nofun
    · cases eq
      exact rest

end Calls

section Commands

variable {volume other : String}

theorem inspectVolumeCommand_ne : inspectVolumeCommand volume ≠ createVolumeCommand other := by
  simp [inspectVolumeCommand, createVolumeCommand]

theorem listVolumesCommand_ne : listVolumesCommand volume ≠ createVolumeCommand other := by
  simp [listVolumesCommand, createVolumeCommand]

theorem createVolumeCommand_injective
    (h : createVolumeCommand volume = createVolumeCommand other) : volume = other := by
  simpa [createVolumeCommand] using h

theorem inspectVolumeCommand_injective
    (h : inspectVolumeCommand volume = inspectVolumeCommand other) : volume = other := by
  simpa [inspectVolumeCommand] using h

theorem listVolumesCommand_ne_inspect : listVolumesCommand volume ≠ inspectVolumeCommand other := by
  simp [listVolumesCommand, inspectVolumeCommand]

end Commands

section Preflight

variable {loads : String → Option Json} {daemon : Daemon} {volume : String}
  {volumes more missing : List String} {log log' : Log}

/-- The required volumes are inspected, and these are missing. -/
structure Preflight (volumes missing : List String) (log : Log) : Prop where
  quiet : Quiet log
  required : missing ⊆ volumes
  seen : ∀ volume ∈ missing, InspectedMissing volume log
  inspected : ∀ volume ∈ volumes, Inspected volume log
  found : ∀ volume, InspectFailed volume log → volume ∈ missing

theorem Quiet.append (h : Quiet log) (h' : Quiet log') : Quiet (log ++ log') :=
  List.forall_mem_append.mpr ⟨h, h'⟩

theorem InspectedMissing.mono (h : InspectedMissing volume log) (inside : log ⊆ log') :
    InspectedMissing volume log' := by
  obtain ⟨⟨returncode, stdout, failed, mem⟩, listed, absent, mem'⟩ := h
  exact ⟨⟨returncode, stdout, failed, inside mem⟩, listed, absent, inside mem'⟩

theorem Inspected.mono (h : Inspected volume log) (inside : log ⊆ log') : Inspected volume log' :=
  h.imp fun _ mem => inside mem

theorem Preflight.append {volumes' missing' : List String} (h : Preflight volumes missing log)
    (h' : Preflight volumes' missing' log') :
    Preflight (volumes ++ volumes') (missing ++ missing') (log ++ log') where
  quiet := h.quiet.append h'.quiet
  required := List.append_subset.mpr ⟨fun _ mem => List.mem_append_left _ (h.required mem),
    fun _ mem => List.mem_append_right _ (h'.required mem)⟩
  seen := List.forall_mem_append.mpr
    ⟨fun v mem => (h.seen v mem).mono (List.subset_append_left _ _),
      fun v mem => (h'.seen v mem).mono (List.subset_append_right _ _)⟩
  inspected := List.forall_mem_append.mpr
    ⟨fun v mem => (h.inspected v mem).mono (List.subset_append_left _ _),
      fun v mem => (h'.inspected v mem).mono (List.subset_append_right _ _)⟩
  found := by
    rintro v ⟨returncode, stdout, failed, mem⟩
    rcases List.mem_append.mp mem with mem | mem
    · exact List.mem_append_left _ (h.found v ⟨returncode, stdout, failed, mem⟩)
    · exact List.mem_append_right _ (h'.found v ⟨returncode, stdout, failed, mem⟩)

theorem Preflight.nil : Preflight [] [] [] :=
  ⟨nofun, List.Subset.refl _, nofun, nofun, fun _ ⟨_, _, _, mem⟩ => absurd mem List.not_mem_nil⟩

/-- A volume that Docker has. -/
theorem preflight_present {stdout : String} :
    Preflight [volume] [] [⟨inspectVolumeCommand volume, .completed 0 stdout⟩] where
  quiet := List.forall_mem_singleton.mpr fun _ => inspectVolumeCommand_ne
  required := List.nil_subset _
  seen := nofun
  inspected := List.forall_mem_singleton.mpr ⟨_, List.mem_singleton_self _⟩
  found := by
    rintro v ⟨returncode, out, failed, mem⟩
    have eq := (Exchange.mk.inj (List.mem_singleton.mp mem)).2
    exact absurd (Answer.completed.inj eq).1 failed

/-- A volume that Docker does not have. -/
theorem preflight_missing {returncode : Int} {stdout listed : String} (failed : returncode ≠ 0)
    (absent : volume ∉ Text.splitLines listed) : Preflight [volume] [volume]
      [⟨inspectVolumeCommand volume, .completed returncode stdout⟩,
        ⟨listVolumesCommand volume, .completed 0 listed⟩] where
  quiet := List.forall_mem_cons.mpr ⟨fun _ => inspectVolumeCommand_ne,
    List.forall_mem_singleton.mpr fun _ => listVolumesCommand_ne⟩
  required := List.Subset.refl _
  seen := List.forall_mem_singleton.mpr ⟨⟨returncode, stdout, failed, List.mem_cons_self⟩, listed,
    absent, List.mem_cons_of_mem _ (List.mem_singleton_self _)⟩
  inspected := List.forall_mem_singleton.mpr ⟨_, List.mem_cons_self⟩
  found := by
    rintro v ⟨returncode', out, -, mem⟩
    rcases List.mem_cons.mp mem with eq | mem
    · rw [inspectVolumeCommand_injective (Exchange.mk.inj eq).1]
      exact List.mem_singleton_self _
    · have eq := (Exchange.mk.inj (List.mem_singleton.mp mem)).1
      exact absurd eq.symm listVolumesCommand_ne_inspect

theorem emits_inspectVolume : Emits (inspectVolume loads daemon volume) fun result log =>
    Quiet log ∧ ∀ absent, result = .ok absent →
      Preflight [volume] (if absent then [volume] else []) log := by
  have inspected : ∀ answer, Quiet [⟨inspectVolumeCommand volume, answer⟩] := fun _ =>
    List.forall_mem_singleton.mpr fun _ => inspectVolumeCommand_ne
  refine emits_call_bind (fun _ => ⟨inspected _, nofun⟩) fun returncode stdout => ?_
  dsimp only
  split_ifs with zero
  · refine Emits.ofExcept_bind (fun same _ => ?_) fun _ _ => ⟨inspected _, nofun⟩
    refine Emits.ensure_bind (fun _ => ?_) fun _ => ⟨inspected _, nofun⟩
    refine Emits.pure ⟨inspected _, fun absent eq => ?_⟩
    cases eq
    rw [zero]
    exact preflight_present
  · have both : ∀ answer, Quiet [⟨inspectVolumeCommand volume, .completed returncode stdout⟩,
        ⟨listVolumesCommand volume, answer⟩] := fun _ =>
      List.forall_mem_cons.mpr ⟨fun _ => inspectVolumeCommand_ne,
        List.forall_mem_singleton.mpr fun _ => listVolumesCommand_ne⟩
    refine emits_callSuccess_bind (fun answer _ _ => ⟨both answer, nofun⟩) fun listed => ?_
    refine Emits.ensure_bind (fun absent => ?_) fun _ => ⟨both _, nofun⟩
    refine Emits.pure ⟨both _, fun missing eq => ?_⟩
    cases eq
    exact preflight_missing zero absent

theorem emits_inspectVolumes : Emits (inspectVolumes loads daemon volumes missing) fun result log =>
    Quiet log ∧ ∀ out, result = .ok out → ∃ more, out = missing ++ more ∧ Preflight volumes more log := by
  induction volumes generalizing missing with
  | nil => exact Emits.pure ⟨nofun, fun _ eq => by cases eq; exact ⟨[], (List.append_nil _).symm, Preflight.nil⟩⟩
  | cons volume rest ih =>
    refine Emits.bind emits_inspectVolume (fun absent => ih) (fun _ _ h => ⟨h.1, nofun⟩) ?_
    intro absent events result more one later
    refine ⟨one.1.append later.1, fun out ok => ?_⟩
    obtain ⟨found, eq, flight⟩ := later.2 out ok
    refine ⟨(if absent then [volume] else []) ++ found, ?_, (one.2 absent rfl).append flight⟩
    rw [eq]
    cases absent with
    | true => exact List.append_assoc _ _ _
    | false => rfl

end Preflight

section Create

variable {loads : String → Option Json} {daemon : Daemon} {manifest : VolumeManifest}
  {missing : List String} {log log' : Log}

/-- A call about one of these volumes after they were found missing. -/
def IsCreation (missing : List String) (x : Exchange Command Answer) : Prop :=
  ∃ volume ∈ missing, x.query = createVolumeCommand volume ∨ x.query = inspectVolumeCommand volume

theorem emits_createVolume {volume : String} (mem : volume ∈ missing) :
    Emits (createVolume loads daemon volume) fun _ log => ∀ x ∈ log, IsCreation missing x := by
  have created : ∀ answer, ∀ x ∈ [(⟨createVolumeCommand volume, answer⟩ : Exchange Command Answer)],
      IsCreation missing x := fun _ =>
    List.forall_mem_singleton.mpr ⟨volume, mem, Or.inl rfl⟩
  have both : ∀ stdout answer, ∀ x ∈ [(⟨createVolumeCommand volume, .completed 0 stdout⟩ :
      Exchange Command Answer), ⟨inspectVolumeCommand volume, answer⟩], IsCreation missing x :=
    fun _ _ => List.forall_mem_cons.mpr ⟨⟨volume, mem, Or.inl rfl⟩,
      List.forall_mem_singleton.mpr ⟨volume, mem, Or.inr rfl⟩⟩
  refine emits_callSuccess_bind (fun answer _ _ => created answer) fun stdout => ?_
  refine Emits.ensure_bind (fun _ => ?_) fun _ => created _
  refine emits_callSuccess_bind (fun answer _ _ => both _ answer) fun inspected => ?_
  refine Emits.ofExcept_bind (fun same _ => ?_) fun _ _ => both _ _
  exact Emits.ensure (fun _ => both _ _) fun _ => both _ _

theorem CreatesAllowed.of_quiet (quiet : Quiet log) : CreatesAllowed manifest log where
  each := by
    rintro before x after volume rfl created
    exact absurd created (quiet x (List.mem_append_right _ List.mem_cons_self) volume)
  none := fun _ _ _ _ => quiet

/-- All volumes were inspected, and every missing one is authorized. -/
theorem Preflight.createsAllowed (h : Preflight manifest.ensureVolumes missing log)
    (authorized : ∀ volume ∈ missing, mayCreateMissingVolume manifest volume = true)
    (creations : ∀ x ∈ log', IsCreation missing x) : CreatesAllowed manifest (log ++ log') where
  each := by
    intro before x after volume split created
    have absent : x ∉ log := fun mem => h.quiet x mem volume created
    obtain ⟨between, rfl, rfl⟩ := exists_of_not_mem absent split
    obtain ⟨other, mem, query⟩ := creations x (List.mem_append_right _ List.mem_cons_self)
    have same : other = volume := by
      rcases query with query | query
      · exact createVolumeCommand_injective (query.symm.trans created)
      · exact absurd (query.symm.trans created) inspectVolumeCommand_ne
    rw [same] at mem
    exact ⟨h.required mem, authorized volume mem, (h.seen volume mem).mono (List.subset_append_left _ _),
      fun other mem => (h.inspected other mem).mono (List.subset_append_left _ _)⟩
  none := by
    rintro volume - unauthorized ⟨returncode, stdout, failed, mem⟩
    have found : volume ∈ missing := by
      rcases List.mem_append.mp mem with mem | mem
      · exact h.found volume ⟨returncode, stdout, failed, mem⟩
      · obtain ⟨other, inside, query | query⟩ := creations _ mem
        · exact absurd query inspectVolumeCommand_ne
        · rwa [inspectVolumeCommand_injective query]
    exact absurd ((authorized volume found).symm.trans unauthorized) nofun

theorem emits_ensureVolumes : Emits (ensureVolumes loads daemon manifest) fun _ log =>
    CreatesAllowed manifest log := by
  have rest : ∀ missing, Emits (do
      ensure (missing.filter (fun volume => !mayCreateMissingVolume manifest volume) = [])
        ("required volume(s) are missing and not authorized for creation: " ++
          ", ".intercalate (missing.filter fun volume => !mayCreateMissingVolume manifest volume))
      forEach missing (createVolume loads daemon) : Docker Unit) fun _ log =>
      log = [] ∨ (∀ volume ∈ missing, mayCreateMissingVolume manifest volume = true) ∧
        ∀ x ∈ log, IsCreation missing x := by
    intro missing
    refine Emits.ensure_bind (fun none => ?_) fun _ => Or.inl rfl
    have authorized : ∀ volume ∈ missing, mayCreateMissingVolume manifest volume = true := by
      intro volume mem
      simpa using List.filter_eq_nil_iff.mp none volume mem
    exact (Emits.forEach_mem fun volume mem => emits_createVolume mem).conseq
      fun _ _ creations => Or.inr ⟨authorized, creations⟩
  refine Emits.bind emits_inspectVolumes rest (fun _ _ h => .of_quiet h.1) ?_
  rintro missing log result log' ⟨quiet, flight⟩ later
  obtain ⟨found, eq, flight⟩ := flight missing rfl
  rw [List.nil_append] at eq
  subst eq
  rcases later with rfl | ⟨authorized, creations⟩
  · rw [List.append_nil]
    exact .of_quiet quiet
  · exact flight.createsAllowed authorized creations

theorem emits_ensureNetwork {network : String} :
    Emits (ensureNetwork daemon network) fun _ log => ∀ x ∈ log, ∃ args, x.query = .docker ("network" :: args) := by
  refine emits_call_bind (fun _ => List.forall_mem_singleton.mpr ⟨_, rfl⟩) fun returncode stdout => ?_
  dsimp only
  split_ifs
  · exact Emits.pure (List.forall_mem_singleton.mpr ⟨_, rfl⟩)
  · refine emits_callSuccess_bind (fun _ _ _ => ?_) fun _ => Emits.pure ?_
    · exact List.forall_mem_cons.mpr ⟨⟨_, rfl⟩, List.forall_mem_singleton.mpr ⟨_, rfl⟩⟩
    · exact List.forall_mem_cons.mpr ⟨⟨_, rfl⟩, List.forall_mem_singleton.mpr ⟨_, rfl⟩⟩

theorem quiet_of_network (h : ∀ x ∈ log, ∃ args, x.query = .docker ("network" :: args)) : Quiet log := by
  intro x mem volume created
  obtain ⟨args, query⟩ := h x mem
  rw [query] at created
  simp [createVolumeCommand] at created

theorem CreatesAllowed.after_network (first : ∀ x ∈ log, ∃ args, x.query = .docker ("network" :: args))
    (h : CreatesAllowed manifest log') : CreatesAllowed manifest (log ++ log') where
  each := by
    intro before x after volume split created
    have absent : x ∉ log := fun mem => quiet_of_network first x mem volume created
    obtain ⟨between, rfl, rfl⟩ := exists_of_not_mem absent split
    have allowed := h.each between x after volume rfl created
    exact ⟨allowed.required, allowed.authorized, allowed.missing.mono (List.subset_append_right _ _),
      fun other mem => (allowed.inspected other mem).mono (List.subset_append_right _ _)⟩
  none := by
    rintro volume required unauthorized ⟨returncode, stdout, failed, mem⟩
    refine (quiet_of_network first).append ?_
    rcases List.mem_append.mp mem with mem | mem
    · obtain ⟨args, query⟩ := first _ mem
      simp [inspectVolumeCommand] at query
    · exact h.none volume required unauthorized ⟨returncode, stdout, failed, mem⟩

theorem emits_ensureResources : Emits (ensureResources loads daemon manifest) fun _ log =>
    CreatesAllowed manifest log := by
  refine Emits.bind (Emits.forEach_mem fun _ _ => emits_ensureNetwork) (fun _ => emits_ensureVolumes)
    (fun _ _ first => .of_quiet (quiet_of_network first)) ?_
  exact fun _ _ _ _ first later => later.after_network first

/-- Volumes are created only where they are required, missing and authorized, after all required
volumes were inspected; and none at all where a missing one is not authorized. -/
theorem ensureVolumes_createsAllowed :
    (∀ log, ∃ events, (ensureVolumes loads daemon manifest log).2 = log ++ events ∧
      CreatesAllowed manifest events) ∧
    ∀ log, ∃ events, (ensureResources loads daemon manifest log).2 = log ++ events ∧
      CreatesAllowed manifest events := by
  refine ⟨emits_ensureVolumes.run, emits_ensureResources.run⟩

end Create

end OptimizrActions.Deploy
