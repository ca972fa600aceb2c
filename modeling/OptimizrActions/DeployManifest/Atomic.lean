import OptimizrActions.DeployManifest.Pointer

/-! What a decoration leaves behind when it raises. -/

namespace OptimizrActions.DeployManifest

open Delivery (Bytes)

section

variable (codec : JsonCodec) (at_ : List String) (faults : Faults) (d : Decoration)
  (dir : ManifestDir)

/-- Where the call raises, the manifest and the pointer are as before. -/
def Atomic : Prop :=
  ∀ message, (decorateManifest codec at_ faults d dir).1 = .error message →
    ∀ name ∈ [d.manifest.name, lastSuccessfulName],
      (decorateManifest codec at_ faults d dir).2.get name = dir.get name

/-- The first write is reached, does not fail, and writes this. -/
def Replaces (content : Bytes) : Prop :=
  ∃ fields payload, decorationFields d = .ok fields ∧
    loadManifest codec at_ d.manifest dir = .ok payload ∧
    codec.dumps (.obj (update payload fields)) = some content ∧ faults.manifest = false

/-- The pointer's path is the right one, there is a file or nothing, and its write does not fail. -/
structure PointerWritable : Prop where
  parent : d.lastSuccessful.parent = d.manifest.parent
  name : d.lastSuccessful.name = lastSuccessfulName
  node : ∀ node, dir.get lastSuccessfulName = some node → ∃ content, node = .file content
  write : faults.lastSuccessful = false

end

section

variable {codec : JsonCodec} {at_ : List String} {faults : Faults} {d : Decoration}
  {dir : ManifestDir} {content : Bytes}

theorem decorateLast_of_writable {payload : Mapping}
    (dumped : codec.dumps (.obj payload) = some content) (h : PointerWritable faults d dir) :
    (decorateLast codec faults d payload dir).1 = .ok () := by
  have path : ¬(d.lastSuccessful.parent ≠ d.manifest.parent ∨
      d.lastSuccessful.name ≠ lastSuccessfulName) := by
    rw [not_or, not_not, not_not]
    exact ⟨h.parent, h.name⟩
  rw [decorateLast, if_neg path, dumped]
  cases held : dir.get lastSuccessfulName with
  | none => simp [h.write]
  | some node =>
    obtain ⟨old, rfl⟩ := h.node node held
    simp [h.write]

theorem decorateLast_of_not_writable {payload : Mapping} (h : ¬PointerWritable faults d dir) :
    ∃ message, decorateLast codec faults d payload dir = (.error message, dir) := by
  rw [decorateLast]
  by_cases path : d.lastSuccessful.parent ≠ d.manifest.parent ∨
      d.lastSuccessful.name ≠ lastSuccessfulName
  · rw [if_pos path]
    exact ⟨_, rfl⟩
  · rw [if_neg path]
    rw [not_or, not_not, not_not] at path
    split
    next => exact ⟨_, rfl⟩
    next => exact ⟨_, rfl⟩
    next => exact ⟨_, rfl⟩
    next notLink notDirectory =>
      by_cases fails : faults.lastSuccessful = true
      · rw [if_pos fails]
        exact ⟨_, rfl⟩
      · refine absurd ⟨path.1, path.2, fun node held => ?_, Bool.eq_false_iff.mpr fails⟩ h
        cases node with
        | file old => exact ⟨old, rfl⟩
        | directory => exact (notDirectory held).elim
        | symlink leads => exact (notLink leads held).elim

theorem decorateManifest_of_not_replaces (h : ∀ content, ¬Replaces codec at_ faults d dir content) :
    (decorateManifest codec at_ faults d dir).2 = dir := by
  unfold decorateManifest
  split
  next => rfl
  next => rfl
  next fields payload fieldsOk payloadOk =>
    split
    next => rfl
    next content dumped =>
      by_cases fails : faults.manifest = true
      · rw [if_pos fails]
      · exact absurd ⟨fields, payload, fieldsOk, payloadOk, dumped, Bool.eq_false_iff.mpr fails⟩
          (h content)

/-- After the first write the second one follows where the status is `success`. -/
theorem decorateManifest_of_replaces (h : Replaces codec at_ faults d dir content) :
    ∃ payload, codec.dumps (.obj payload) = some content ∧
      decorateManifest codec at_ faults d dir =
        if d.status = "success" then
          decorateLast codec faults d payload (dir.write d.manifest.name (.file content))
        else (.ok (), dir.write d.manifest.name (.file content)) := by
  obtain ⟨fields, payload, fieldsOk, payloadOk, dumped, fails⟩ := h
  refine ⟨update payload fields, dumped, ?_⟩
  rw [decorateManifest, fieldsOk, payloadOk]
  dsimp only
  rw [dumped]
  dsimp only
  rw [if_neg (Bool.eq_false_iff.mp fails)]

/-- The first write leaves the second one as possible as it was. -/
theorem writable_write_iff (h : Replaces codec at_ faults d dir content) :
    PointerWritable faults d (dir.write d.manifest.name (.file content)) ↔
      PointerWritable faults d dir := by
  by_cases same : lastSuccessfulName = d.manifest.name
  · obtain ⟨-, payload, -, payloadOk, -⟩ := h
    obtain ⟨old, held, -⟩ := loadManifest_eq_ok payloadOk
    have new : (dir.write d.manifest.name (.file content)).get lastSuccessfulName =
        some (.file content) := by rw [same, Directory.get_write_self]
    rw [← same] at held
    have node {dir : ManifestDir} {old : Bytes} (held : dir.get lastSuccessfulName = some (.file old))
        (node : Node) (there : dir.get lastSuccessfulName = some node) :
        ∃ content, node = .file content := ⟨old, Option.some.inj (there.symm.trans held)⟩
    exact ⟨fun h => ⟨h.parent, h.name, node held, h.write⟩,
      fun h => ⟨h.parent, h.name, node new, h.write⟩⟩
  · have kept := @Directory.get_write_of_ne _ dir d.manifest.name lastSuccessfulName (.file content) same
    exact ⟨fun h => ⟨h.parent, h.name, kept ▸ h.node, h.write⟩,
      fun h => ⟨h.parent, h.name, kept.symm ▸ h.node, h.write⟩⟩

theorem decorateManifest_of_late_failure (h : Replaces codec at_ faults d dir content)
    (success : d.status = "success") (late : ¬PointerWritable faults d dir) :
    ∃ message, decorateManifest codec at_ faults d dir =
      (.error message, dir.write d.manifest.name (.file content)) := by
  obtain ⟨payload, -, after⟩ := decorateManifest_of_replaces h
  rw [after, if_pos success]
  exact decorateLast_of_not_writable (mt (writable_write_iff h).mp late)

/-- A decoration is atomic exactly where, once the manifest is replaced and the status is
`success`, the pointer can be written, or the manifest was this text already. -/
theorem decorateManifest_atomic_iff : Atomic codec at_ faults d dir ↔
    (d.status = "success" → ∀ content, Replaces codec at_ faults d dir content →
      PointerWritable faults d dir ∨ dir.get d.manifest.name = some (.file content)) := by
  constructor
  · intro atomic success content replaces
    refine or_iff_not_imp_left.mpr fun late => ?_
    obtain ⟨message, after⟩ := decorateManifest_of_late_failure replaces success late
    have kept := atomic message (congrArg Prod.fst after) _ List.mem_cons_self
    rw [after, Directory.get_write_self] at kept
    exact kept.symm
  · intro possible message raised name mem
    by_cases replaced : ∃ content, Replaces codec at_ faults d dir content
    · obtain ⟨content, replaces⟩ := replaced
      obtain ⟨payload, dumped, after⟩ := decorateManifest_of_replaces replaces
      by_cases success : d.status = "success"
      · by_cases writable : PointerWritable faults d dir
        · rw [after, if_pos success, decorateLast_of_writable dumped
            ((writable_write_iff replaces).mpr writable)] at raised
          exact absurd raised nofun
        · obtain ⟨_, late⟩ := decorateManifest_of_late_failure replaces success writable
          have held := (possible success content replaces).resolve_left writable
          rw [late]
          by_cases same : name = d.manifest.name
          · rw [same, Directory.get_write_self, held]
          · exact Directory.get_write_of_ne same
      · rw [after, if_neg success] at raised
        exact absurd raised nofun
    · rw [decorateManifest_of_not_replaces fun content h => replaced ⟨content, h⟩]

/-- The pointer's path lies elsewhere, which is seen when the manifest is replaced already. -/
theorem decorateManifest_not_atomic : ¬Atomic (sampleCodec "success") serviceDir ⟨false, false⟩
    { successDecoration with lastSuccessful := ⟨["srv", "shop"], lastSuccessfulName⟩ }
    (writtenService "success").dir := by
  intro atomic
  have replaces : Replaces (sampleCodec "success") serviceDir ⟨false, false⟩
      { successDecoration with lastSuccessful := ⟨["srv", "shop"], lastSuccessfulName⟩ }
      (writtenService "success").dir (decoratedContent "success") :=
    ⟨_, _, decoration_fields, sample_loaded (by decide), dumps_decorated _, rfl⟩
  obtain ⟨message, after⟩ := decorateManifest_of_late_failure replaces rfl
    fun writable => absurd writable.parent (by decide)
  have kept := atomic message (congrArg Prod.fst after) _ List.mem_cons_self
  rw [after, Directory.get_write_self] at kept
  have held : (writtenService "success").dir.get sampleName =
      some (.file (sampleContent "success")) := written_get (by decide)
  exact decoratedContent_ne _ (Node.file.inj (Option.some.inj (kept.trans held)))

end

end OptimizrActions.DeployManifest
