import OptimizrActions.Deploy.VolumeLaws
import OptimizrActions.Deploy.WriteProbes

/-! Every probe runs in a container that was verified for it right before. -/

namespace OptimizrActions.Deploy

open Talk Prog

section Spec

variable (loads : String → Option Json) (probe : VolumeProbe) (services : Option (List String))

/-- What the container says of itself. -/
structure ContainerFacts (target : ProbeTarget) (container : Mapping) : Prop where
  id : container.get "Id" = .str target.id
  isId : isContainerId target.id = true
  name : container.get "Name" = .str ("/" ++ probe.container)
  running : ∃ state, container.get "State" = .obj state ∧ Mapping.get state "Running" = .bool true
  config : ∃ config labels, container.get "Config" = .obj config ∧
    Mapping.get config "Image" = .str target.image ∧ Mapping.get config "Labels" = .obj labels ∧
    Mapping.get labels "com.docker.compose.service" = .str target.service ∧
    isOneOff (Mapping.get labels "com.docker.compose.oneoff") = false
  rollout : ∀ expected, services = some expected → target.service ∈ expected

/-- Compose declares the service, and the image where it declares one. -/
def Declared (target : ProbeTarget) (config : Json) : Prop :=
  ∃ fields declared service, config = .obj fields ∧ Mapping.get fields "services" = .obj declared ∧
    Mapping.get declared target.service = .obj service ∧
    (Mapping.get service "image" = .null ∨ Mapping.get service "image" = .str target.image)

/-- Exactly one mount of the volume at the path, which can be written. -/
def Mounted (container : Mapping) : Prop :=
  ∃ mounts mount, container.get "Mounts" = .arr mounts ∧
    mounts.filter (isProbedMount probe) = [.obj mount] ∧ Mapping.get mount "RW" = .bool true

/-- Four calls that verify the container with this identifier. -/
structure Verified (id : String) (log : Log) : Prop where
  exists_ : ∃ ids inspected config resolved, ∃ container : Mapping, ∃ composed target,
    log = [⟨listContainersCommand, .completed 0 ids⟩,
      ⟨inspectContainerCommand probe.container, .completed 0 inspected⟩,
      ⟨composeConfigCommand, .completed 0 config⟩,
      ⟨inspectImageCommand target.image, .completed 0 resolved⟩] ∧
    target.id = id ∧ id ∈ Text.splitLines ids ∧
    loads inspected = some (.arr [.obj container]) ∧
    ContainerFacts probe services target container ∧
    loads config = some composed ∧ Declared target composed ∧
    container.get "Image" = .str (Text.strip resolved) ∧ isImageId (Text.strip resolved) = true ∧
    Mounted probe container

def IsExec (x : Exchange Command Answer) : Prop := ∃ args, x.query = .docker ("exec" :: args)

/-- The log of a run: probe after probe, up to the first that cannot be verified or that fails. -/
inductive Probed : List VolumeProbe → Except String Unit → Log → Prop
  | done : Probed [] (.ok ()) []
  | unverified {probe : VolumeProbe} {rest : List VolumeProbe} {message : String} {log : Log}
      (none : ∀ x ∈ log, ¬IsExec x) : Probed (probe :: rest) (.error message) log
  | failed {probe : VolumeProbe} {rest : List VolumeProbe} {id message : String} {log : Log}
      {answer : Answer} (verified : Verified loads probe services id log)
      (failed : ∀ stdout, answer ≠ .completed 0 stdout) :
      Probed (probe :: rest) (.error message) (log ++ [⟨execCommand probe id, answer⟩])
  | next {probe : VolumeProbe} {rest : List VolumeProbe} {id stdout : String} {log later : Log}
      {result : Except String Unit} (verified : Verified loads probe services id log)
      (further : Probed rest result later) : Probed (probe :: rest) result
        (log ++ ⟨execCommand probe id, .completed 0 stdout⟩ :: later)

end Spec

section Checks

variable {loads : String → Option Json} {probe : VolumeProbe} {services : Option (List String)}
  {container : Mapping} {target : ProbeTarget}

theorem parseInspectedContainer_eq_ok {raw : String}
    (h : parseInspectedContainer loads raw = .ok container) :
    loads raw = some (.arr [.obj container]) := by
  unfold parseInspectedContainer at h
  split at h
  next fields eq =>
    cases h
    exact eq
  next => exact absurd h nofun
  next => exact absurd h nofun

theorem containerId_eq_ok {ids : List String} {id : String} (h : containerId ids container = .ok id) :
    container.get "Id" = .str id ∧ isContainerId id = true ∧ id ∈ ids := by
  unfold containerId at h
  split at h
  next text eq =>
    simp only [bind_eq_ok, require_eq_ok, pure_eq_ok] at h
    obtain ⟨_, valid, rfl⟩ := h
    exact ⟨eq, valid⟩
  next => exact absurd h error_ne_ok

theorem checkRunning_eq_ok (h : checkRunning container = .ok ()) :
    ∃ state, container.get "State" = .obj state ∧ Mapping.get state "Running" = .bool true := by
  unfold checkRunning at h
  split at h
  next state eq => exact ⟨state, eq, require_eq_ok.mp h⟩
  next => exact absurd h nofun

theorem configImage_eq_ok {config : Mapping} {image : String} (h : configImage config = .ok image) :
    config.get "Image" = .str image := by
  unfold configImage at h
  split at h
  next text eq =>
    simp only [bind_eq_ok, pure_eq_ok] at h
    obtain ⟨_, -, rfl⟩ := h
    exact eq
  next => exact absurd h error_ne_ok

theorem serviceLabel_eq_ok {config : Mapping} {service : String}
    (h : serviceLabel services config = .ok service) : ∃ labels,
      config.get "Labels" = .obj labels ∧
      Mapping.get labels "com.docker.compose.service" = .str service ∧
      isOneOff (Mapping.get labels "com.docker.compose.oneoff") = false ∧
      ∀ expected, services = some expected → service ∈ expected := by
  unfold serviceLabel at h
  split at h
  next labels labelsEq =>
    split at h
    next text eq =>
      simp only [bind_eq_ok, require_eq_ok, pure_eq_ok] at h
      obtain ⟨_, -, _, rollout, _, oneOff, rfl⟩ := h
      exact ⟨labels, labelsEq, eq, oneOff, fun expected at_ => rollout expected at_⟩
    next => exact absurd h error_ne_ok
  next => exact absurd h error_ne_ok

theorem checkContainer_eq_ok {ids : List String}
    (h : checkContainer probe ids services container = .ok target) :
    target.id ∈ ids ∧ ContainerFacts probe services target container := by
  unfold checkContainer at h
  obtain ⟨id, idOk, rest⟩ := bind_eq_ok.mp h
  obtain ⟨_, name, rest⟩ := bind_eq_ok.mp rest
  obtain ⟨_, running, rest⟩ := bind_eq_ok.mp rest
  split at rest
  next config configEq =>
    simp only [bind_eq_ok, pure_eq_ok] at rest
    obtain ⟨image, imageOk, service, serviceOk, rfl⟩ := rest
    obtain ⟨idEq, isId, mem⟩ := containerId_eq_ok idOk
    obtain ⟨labels, labelsEq, label, oneOff, rollout⟩ := serviceLabel_eq_ok serviceOk
    exact ⟨mem, idEq, isId, require_eq_ok.mp name, checkRunning_eq_ok running,
      ⟨config, labels, configEq, configImage_eq_ok imageOk, labelsEq, label, oneOff⟩, rollout⟩
  next => exact absurd rest error_ne_ok

theorem checkDeclared_eq_ok {stdout : String} (h : checkDeclared loads target stdout = .ok ()) :
    ∃ config, loads stdout = some config ∧ Declared target config := by
  unfold checkDeclared at h
  split at h
  next => exact absurd h nofun
  next fields eq =>
    split at h
    next declared declaredEq =>
      split at h
      next service serviceEq =>
        exact ⟨_, eq, fields, declared, service, rfl, declaredEq, serviceEq, require_eq_ok.mp h⟩
      next => exact absurd h nofun
    next => exact absurd h nofun
  next => exact absurd h nofun

theorem imageId_eq_ok {id : String} (h : imageId container = .ok id) :
    container.get "Image" = .str id ∧ isImageId id = true := by
  unfold imageId at h
  split at h
  next text eq =>
    simp only [bind_eq_ok, require_eq_ok, pure_eq_ok] at h
    obtain ⟨_, valid, rfl⟩ := h
    exact ⟨eq, valid⟩
  next => exact absurd h error_ne_ok

theorem checkMounts_eq_ok (h : checkMounts probe container = .ok ()) : Mounted probe container := by
  unfold checkMounts at h
  split at h
  next mounts eq =>
    split at h
    next mount one => exact ⟨mounts, mount, eq, one, require_eq_ok.mp h⟩
    next => exact absurd h nofun
  next => exact absurd h nofun

end Checks

section Run

variable {loads : String → Option Json} {probe : VolumeProbe} {services : Option (List String)}
  {daemon : Daemon} {probes : List VolumeProbe} {log : Log}

/-- No call of the verification is a probe. -/
def NoExec (log : Log) : Prop := ∀ x ∈ log, ¬IsExec x

theorem not_isExec_listContainers {answer : Answer} : ¬IsExec ⟨listContainersCommand, answer⟩ := by
  simp [IsExec, listContainersCommand]

theorem not_isExec_inspectContainer {container : String} {answer : Answer} :
    ¬IsExec ⟨inspectContainerCommand container, answer⟩ := by
  simp [IsExec, inspectContainerCommand]

theorem not_isExec_composeConfig {answer : Answer} : ¬IsExec ⟨composeConfigCommand, answer⟩ := by
  simp [IsExec, composeConfigCommand]

theorem not_isExec_inspectImage {image : String} {answer : Answer} :
    ¬IsExec ⟨inspectImageCommand image, answer⟩ := by
  simp [IsExec, inspectImageCommand]

theorem NoExec.cons {x : Exchange Command Answer} (h : ¬IsExec x) (rest : NoExec log) :
    NoExec (x :: log) := List.forall_mem_cons.mpr ⟨h, rest⟩

theorem NoExec.singleton {x : Exchange Command Answer} (h : ¬IsExec x) : NoExec [x] := .cons h nofun

theorem emits_verifyProbeTarget :
    Emits (verifyProbeTarget loads daemon services probe) fun result log =>
      NoExec log ∧ ∀ id, result = .ok id → Verified loads probe services id log := by
  have two (ids : String) (answer : Answer) : NoExec [⟨listContainersCommand, .completed 0 ids⟩,
      ⟨inspectContainerCommand probe.container, answer⟩] :=
    .cons not_isExec_listContainers (.singleton not_isExec_inspectContainer)
  have three (ids inspected : String) (answer : Answer) : NoExec
      [⟨listContainersCommand, .completed 0 ids⟩,
        ⟨inspectContainerCommand probe.container, .completed 0 inspected⟩,
        ⟨composeConfigCommand, answer⟩] :=
    .cons not_isExec_listContainers (.cons not_isExec_inspectContainer
      (.singleton not_isExec_composeConfig))
  have four (ids inspected config image : String) (answer : Answer) : NoExec
      [⟨listContainersCommand, .completed 0 ids⟩,
        ⟨inspectContainerCommand probe.container, .completed 0 inspected⟩,
        ⟨composeConfigCommand, .completed 0 config⟩, ⟨inspectImageCommand image, answer⟩] :=
    .cons not_isExec_listContainers (.cons not_isExec_inspectContainer
      (.cons not_isExec_composeConfig (.singleton not_isExec_inspectImage)))
  refine emits_callSuccess_bind (fun _ _ _ => ⟨.singleton not_isExec_listContainers, nofun⟩)
    fun ids => ?_
  refine emits_callSuccess_bind (fun answer _ _ => ⟨two ids answer, nofun⟩) fun inspected => ?_
  refine Emits.ofExcept_bind (fun container parsed => ?_) fun _ _ => ⟨two ids _, nofun⟩
  refine Emits.ofExcept_bind (fun target checked => ?_) fun _ _ => ⟨two ids _, nofun⟩
  refine emits_callSuccess_bind (fun answer _ _ => ⟨three ids inspected answer, nofun⟩)
    fun config => ?_
  refine Emits.ofExcept_bind (fun _ declared => ?_) fun _ _ => ⟨three ids inspected _, nofun⟩
  refine Emits.ofExcept_bind (fun image imageOk => ?_) fun _ _ => ⟨three ids inspected _, nofun⟩
  refine emits_callSuccess_bind (fun answer _ _ => ⟨four ids inspected config _ answer, nofun⟩)
    fun resolved => ?_
  refine Emits.ensure_bind (fun same => ?_) fun _ => ⟨four ids inspected config _ _, nofun⟩
  refine Emits.ofExcept_bind (fun _ mounted => ?_) fun _ _ => ⟨four ids inspected config _ _, nofun⟩
  refine Emits.pure ⟨four ids inspected config _ _, fun id eq => ?_⟩
  cases eq
  obtain ⟨listed, facts⟩ := checkContainer_eq_ok checked
  obtain ⟨composed, composedOk, declared⟩ := checkDeclared_eq_ok declared
  obtain ⟨image, isId⟩ := imageId_eq_ok imageOk
  rw [← same] at image isId
  exact ⟨⟨ids, inspected, config, resolved, container, composed, target, rfl, rfl, listed,
    parseInspectedContainer_eq_ok parsed, facts, composedOk, declared, image, isId,
    checkMounts_eq_ok mounted⟩⟩

theorem Verified.noExec {id : String} (h : Verified loads probe services id log) : NoExec log := by
  obtain ⟨_, _, _, _, _, _, _, rfl, -⟩ := h.exists_
  exact .cons not_isExec_listContainers (.cons not_isExec_inspectContainer
    (.cons not_isExec_composeConfig (.singleton not_isExec_inspectImage)))

/-- One probe: it ends the run, or it ran in the container that was verified. -/
theorem emits_runWriteProbe : Emits (runWriteProbe loads daemon services probe) fun result log =>
    (∃ message, result = .error message ∧
      ∀ rest, Probed loads services (probe :: rest) (.error message) log) ∨
    ∃ id stdout verification, result = .ok () ∧ Verified loads probe services id verification ∧
      log = verification ++ [⟨execCommand probe id, .completed 0 stdout⟩] := by
  have executed (id : String) : Emits (do
      let _ ← callSuccess daemon (execCommand probe id) "Docker volume write probe"
      pure () : Docker Unit) fun result log =>
        (∃ message answer, result = .error message ∧ log = [⟨execCommand probe id, answer⟩] ∧
          ∀ stdout, answer ≠ .completed 0 stdout) ∨
        ∃ stdout, result = .ok () ∧ log = [⟨execCommand probe id, .completed 0 stdout⟩] :=
    emits_callSuccess_bind (fun answer message failed => Or.inl ⟨message, answer, rfl, rfl, failed⟩)
      fun stdout => Emits.pure (Or.inr ⟨stdout, rfl, rfl⟩)
  refine Emits.bind emits_verifyProbeTarget executed ?_ ?_
  · exact fun message log h => Or.inl ⟨message, rfl, fun _ => .unverified h.1⟩
  · rintro id log result more ⟨-, verified⟩ (⟨message, answer, rfl, rfl, failed⟩ | ⟨stdout, rfl, rfl⟩)
    · exact Or.inl ⟨message, rfl, fun _ => .failed (verified id rfl) failed⟩
    · exact Or.inr ⟨id, stdout, log, rfl, verified id rfl, rfl⟩

theorem emits_probes : Emits (forEach probes (runWriteProbe loads daemon services))
    (Probed loads services probes) := by
  induction probes with
  | nil => exact Emits.pure .done
  | cons probe rest ih =>
    refine Emits.bind emits_runWriteProbe (fun _ => ih) ?_ ?_
    · rintro message log (⟨_, eq, stopped⟩ | ⟨_, _, _, eq, -⟩)
      · cases eq
        exact stopped rest
      · exact absurd eq nofun
    · rintro _ log result later (⟨_, eq, -⟩ | ⟨id, stdout, verification, -, verified, rfl⟩) further
      · exact absurd eq nofun
      · rw [List.append_assoc]
        exact .next verified further

/-- A probe in the log comes right after the verification of its container. -/
theorem Probed.verified {result : Except String Unit} (h : Probed loads services probes result log) :
    ∀ before x after, log = before ++ x :: after → IsExec x →
      ∃ probe ∈ probes, ∃ id earlier verification, before = earlier ++ verification ∧
        Verified loads probe services id verification ∧ x.query = execCommand probe id := by
  induction h with
  | done => exact fun before x after split => absurd split (by simp)
  | unverified none =>
    rintro before x after rfl exec
    exact absurd exec (none x (List.mem_append_right _ List.mem_cons_self))
  | @failed probe rest id message log answer verified failed =>
    intro before x after split exec
    obtain ⟨between, rfl, tail⟩ := exists_of_not_mem (fun mem => verified.noExec x mem exec) split
    cases between with
    | nil =>
      have at_ := (List.cons.inj tail).1
      exact ⟨probe, List.mem_cons_self, id, [], log, by simp, verified, congrArg Exchange.query at_.symm⟩
    | cons y between =>
      have length := congrArg List.length tail
      simp at length
  | @next probe rest id stdout log later result verified further ih =>
    intro before x after split exec
    obtain ⟨between, rfl, tail⟩ := exists_of_not_mem (fun mem => verified.noExec x mem exec) split
    cases between with
    | nil =>
      have at_ := (List.cons.inj tail).1
      exact ⟨probe, List.mem_cons_self, id, [], log, by simp, verified, congrArg Exchange.query at_.symm⟩
    | cons y between =>
      obtain ⟨rfl, split'⟩ := List.cons.inj tail
      obtain ⟨probe', mem, id', earlier, verification, rfl, verified', query⟩ :=
        ih between x after split' exec
      exact ⟨probe', List.mem_cons_of_mem _ mem, id', log ++ ⟨execCommand probe id, .completed 0 stdout⟩ ::
        earlier, verification, by simp, verified', query⟩

end Run

end OptimizrActions.Deploy
