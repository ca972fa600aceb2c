import OptimizrActions.DeployManifest.Write

/-! What a call of the manifest writer does to the directory. -/

namespace OptimizrActions.DeployManifest

open Delivery (Bytes)

section Prepare

variable {codec : JsonCodec} {unicodeWord : Char → Bool} {clock : Calendar.DateTime}
  {config : ManifestConfig} {prepared : Prepared}

/-- What the checks of the writer certify. -/
structure PreparedFrom (codec : JsonCodec) (config : ManifestConfig) (prepared : Prepared) :
    Prop where
  name : ∃ now sha runId, prepared.name = manifestName now sha runId
  status : prepared.payload.get "status" = .str config.status
  content : codec.dumps (.obj prepared.payload) = some prepared.content
  success : prepared.success = decide (config.status = "success")
  retention : validateRetention config.retention = .ok prepared.retention

theorem one_le_of_validateRetention {value : Json} {retention : Nat}
    (h : validateRetention value = .ok retention) : 1 ≤ retention := by
  cases value with
  | int n =>
    simp only [validateRetention, bind_eq_ok, require_eq_ok, pure_eq_ok] at h
    obtain ⟨_, range, rfl⟩ := h
    omega
  | _ => exact absurd h error_ne_ok

theorem manifestPayload_eq_ok {payload : Mapping} {name : String} {retention : Nat}
    (h : manifestPayload unicodeWord clock config = .ok (payload, name, retention)) :
    (∃ now sha runId, name = manifestName now sha runId) ∧
      payload.get "status" = .str config.status ∧
      validateRetention config.retention = .ok retention := by
  simp only [manifestPayload, bind_eq_ok, pure_eq_ok, Prod.mk.injEq] at h
  obtain ⟨_, -, _, -, retention, retentionOk, _, -, sha, -, _, -, _, -, _, -, runId, -, _, -, _, -,
    _, -, _, -, _, -, _, -, _, -, _, -, now, -, rfl, rfl, rfl⟩ := h
  exact ⟨⟨now, sha, runId, rfl⟩, rfl, retentionOk⟩

theorem prepareManifest_eq_ok (h : prepareManifest codec unicodeWord clock config = .ok prepared) :
    PreparedFrom codec config prepared := by
  obtain ⟨⟨payload, name, retention⟩, checked, rest⟩ := bind_eq_ok.mp h
  obtain ⟨named, status, retentionOk⟩ := manifestPayload_eq_ok checked
  dsimp only at rest
  split at rest
  next => exact absurd rest nofun
  next content dumped =>
    simp only [bind_eq_ok, pure_eq_ok] at rest
    obtain ⟨_, -, rfl⟩ := rest
    exact ⟨named, status, dumped, rfl, retentionOk⟩

theorem head_manifestName (now : Calendar.DateTime) (sha runId : String) :
    ∃ rest, (manifestName now sha runId).toList = Calendar.digit (now.year / 100 / 10) :: rest :=
  ⟨_, String.toList_ofList⟩

theorem manifestName_ne (now : Calendar.DateTime) (sha runId : String) :
    manifestName now sha runId ≠ lastSuccessfulName := by
  intro same
  obtain ⟨rest, at_⟩ := head_manifestName now sha runId
  rw [same] at at_
  have digit : 'l' = Calendar.digit (now.year / 100 / 10) := (List.cons.inj at_).1
  have small : now.year / 100 / 10 < 10 := by
    have := now.ranges
    omega
  have letters : ∀ n < 10, 'l' ≠ Calendar.digit n := by decide
  exact letters _ small digit

theorem isJsonName_manifestName (now : Calendar.DateTime) (sha runId : String) :
    isJsonName (manifestName now sha runId) = true := by
  have text : (manifestName now sha runId).toList = compactTimestamp now ++
      '-' :: (safeFilenameSegment (sha.toList.take 12) "unknown" ++
        '-' :: (safeFilenameSegment runId.toList "unknown" ++ ".json".toList)) :=
    String.toList_ofList
  rw [isJsonName, List.isSuffixOf_iff_suffix, text]
  refine List.suffix_append_of_suffix (.trans ?_ (List.suffix_cons _ _))
  refine List.suffix_append_of_suffix (.trans ?_ (List.suffix_cons _ _))
  exact List.suffix_append _ _

theorem PreparedFrom.name_ne (h : PreparedFrom codec config prepared) :
    prepared.name ≠ lastSuccessfulName := by
  obtain ⟨now, sha, runId, at_⟩ := h.name
  rw [at_]
  exact manifestName_ne now sha runId

end Prepare

section Directory

variable {dir : ManifestDir} {prepared : Prepared} {name : String}

theorem mem_manifestNames : name ∈ manifestNames dir ↔
    name ∈ dir.names ∧ isJsonName name = true ∧ name ≠ lastSuccessfulName := by
  simp [manifestNames]

theorem mem_of_mem_expiredNames {retention : Nat} {names : List String}
    (h : name ∈ expiredNames retention names) : name ∈ names :=
  (List.mem_insertionSort _).mp (List.mem_of_mem_drop h)

/-- What is not on the list stays. -/
theorem get_unlinkAll_of_not_mem {names : List String} (absent : name ∉ names) :
    (unlinkAll names dir).2.get name = dir.get name := by
  induction names generalizing dir with
  | nil => rfl
  | cons head rest ih =>
    rw [List.mem_cons, not_or] at absent
    unfold unlinkAll
    split_ifs
    · rfl
    · rw [ih absent.2, Directory.get_remove_of_ne absent.1]

/-- What is left is what was there. -/
theorem get_unlinkAll {names : List String} {node : Node}
    (h : (unlinkAll names dir).2.get name = some node) : dir.get name = some node := by
  induction names generalizing dir with
  | nil => exact h
  | cons head rest ih =>
    unfold unlinkAll at h
    split_ifs at h
    · exact h
    · have left := ih h
      by_cases same : name = head
      · rw [same, Directory.get_remove_self] at left
        exact absurd left nofun
      · rwa [Directory.get_remove_of_ne same] at left

/-- The directory with the manifest and, for a success, the pointer. -/
def placed (prepared : Prepared) (dir : ManifestDir) : ManifestDir :=
  let dir := dir.write prepared.name (.file prepared.content)
  if prepared.success then dir.write lastSuccessfulName (.file prepared.content) else dir

theorem placeManifest_eq (ne : prepared.name ≠ lastSuccessfulName)
    (pointer : dir.get lastSuccessfulName ≠ some .directory) :
    placeManifest prepared dir = (.ok (), placed prepared dir) := by
  have held : ¬(dir.write prepared.name (.file prepared.content)).get lastSuccessfulName =
      some .directory := by
    rwa [Directory.get_write_of_ne (Ne.symm ne)]
  unfold placeManifest placed
  dsimp only
  by_cases success : prepared.success = true
  · rw [if_pos success, if_neg held, if_pos success]
  · rw [if_neg success, if_neg success]

/-- The names that a write removes. -/
def expiredBy (prepared : Prepared) (dir : ManifestDir) : List String :=
  expiredNames prepared.retention (manifestNames (placed prepared dir))

theorem commitManifest_dir (ne : prepared.name ≠ lastSuccessfulName)
    (new : ¬(dir.get prepared.name).any Node.exists_ = true)
    (pointer : dir.get lastSuccessfulName ≠ some .directory) :
    (commitManifest prepared dir).2 =
      (unlinkAll (expiredBy prepared dir) (placed prepared dir)).2 := by
  rw [commitManifest, if_neg new, placeManifest_eq ne pointer, expiredBy]
  dsimp only
  split
  next at_ => rw [at_]
  next at_ => rw [at_]

theorem last_not_mem_expiredBy : lastSuccessfulName ∉ expiredBy prepared dir := fun mem =>
  (mem_manifestNames.mp (mem_of_mem_expiredNames mem)).2.2 rfl

theorem get_placed_name (ne : prepared.name ≠ lastSuccessfulName) :
    (placed prepared dir).get prepared.name = some (.file prepared.content) := by
  unfold placed
  split_ifs
  · rw [Directory.get_write_of_ne ne, Directory.get_write_self]
  · exact Directory.get_write_self

theorem get_placed_of_ne (ne : name ≠ prepared.name) (other : name ≠ lastSuccessfulName) :
    (placed prepared dir).get name = dir.get name := by
  unfold placed
  split_ifs
  · rw [Directory.get_write_of_ne other, Directory.get_write_of_ne ne]
  · exact Directory.get_write_of_ne ne

theorem get_placed_last_of_success (success : prepared.success = true) :
    (placed prepared dir).get lastSuccessfulName = some (.file prepared.content) := by
  rw [placed, if_pos success]
  exact Directory.get_write_self

theorem get_placed_last_of_failure (ne : prepared.name ≠ lastSuccessfulName)
    (failure : ¬prepared.success = true) :
    (placed prepared dir).get lastSuccessfulName = dir.get lastSuccessfulName := by
  rw [placed, if_neg failure]
  exact Directory.get_write_of_ne (Ne.symm ne)

end Directory

end OptimizrActions.DeployManifest
