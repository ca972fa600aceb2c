import OptimizrActions.DeployManifest.Pointer
import OptimizrActions.Lib.Newest

/-! Which manifests a write keeps. -/

namespace OptimizrActions.DeployManifest

/-- The manifests in the order in which they were written, up to the new one. -/
def writtenNames (name : String) (dir : ManifestDir) : List String :=
  (manifestNames dir).filter (· ≠ name) ++ [name]

/-- The new manifest is there, no more than the retention are, and they are the newest ones. -/
structure Retained (retention : Nat) (name : String) (before after : ManifestDir) : Prop where
  exists_ : ∃ content, after.get name = some (.file content)
  count : (manifestNames after).length ≤ retention
  recent : ∀ other, other ∈ manifestNames after ↔
    other ∈ newest retention (writtenNames name before)

section Commit

variable {prepared : Prepared} {dir after : ManifestDir} {name : String}

theorem unlinkAll_names {names : List String} (h : unlinkAll names dir = (.ok (), after)) :
    after.names = dir.names.filter (· ∉ names) := by
  induction names generalizing dir with
  | nil =>
    cases h
    simp
  | cons head rest ih =>
    unfold unlinkAll at h
    split_ifs at h
    · exact absurd (congrArg Prod.fst h) error_ne_ok
    · rw [ih h, Directory.names_remove, List.filter_filter]
      refine List.filter_congr fun other _ => ?_
      simp [Bool.and_comm, not_or]

theorem placed_of_ok {dir' : ManifestDir} (h : placeManifest prepared dir = (.ok (), dir')) :
    dir' = placed prepared dir := by
  unfold placeManifest at h
  unfold placed
  dsimp only at h ⊢
  split_ifs at h with success held
  · exact absurd (congrArg Prod.fst h) nofun
  · rw [if_pos success]
    exact (congrArg Prod.snd h).symm
  · rw [if_neg success]
    exact (congrArg Prod.snd h).symm

theorem commitManifest_ok (h : commitManifest prepared dir = (.ok name, after)) :
    name = prepared.name ∧
      unlinkAll (expiredBy prepared dir) (placed prepared dir) = (.ok (), after) := by
  unfold commitManifest at h
  split_ifs at h
  · exact absurd (congrArg Prod.fst h) nofun
  · split at h
    next => exact absurd (congrArg Prod.fst h) nofun
    next dir' placedOk =>
      cases placed_of_ok placedOk
      split at h
      next => exact absurd (congrArg Prod.fst h) nofun
      next unlinked =>
        cases h
        exact ⟨rfl, unlinked⟩

theorem manifestNames_placed (json : isJsonName prepared.name = true)
    (ne : prepared.name ≠ lastSuccessfulName) :
    manifestNames (placed prepared dir) = writtenNames prepared.name dir := by
  have plain : manifestNames (dir.write prepared.name (.file prepared.content)) =
      writtenNames prepared.name dir := by
    rw [manifestNames, Directory.names_write, List.filter_append, writtenNames, manifestNames,
      List.filter_filter, List.filter_filter, List.filter_singleton]
    simp [json, ne, Bool.and_comm]
  unfold placed
  split_ifs
  · rw [← plain, manifestNames, manifestNames, Directory.names_write, List.filter_append,
      List.filter_filter, List.filter_singleton]
    simp
  · exact plain

theorem manifestNames_unlinked {names : List String} (h : unlinkAll names dir = (.ok (), after)) :
    manifestNames after = (manifestNames dir).filter (· ∉ names) := by
  rw [manifestNames, manifestNames, unlinkAll_names h, List.filter_filter, List.filter_filter]
  exact List.filter_congr fun other _ => Bool.and_comm _ _

theorem nodup_manifestNames : (manifestNames dir).Nodup := dir.nodup.filter _

theorem nodup_writtenNames : (writtenNames name dir).Nodup := by
  rw [writtenNames, List.nodup_append]
  refine ⟨nodup_manifestNames.filter _, List.nodup_singleton _, ?_⟩
  rintro old oldMem new newMem rfl
  exact of_decide_eq_true (List.mem_filter.mp oldMem).2 (List.mem_singleton.mp newMem)

end Commit

section Write

variable {codec : JsonCodec} {unicodeWord : Char → Bool} {clock : Calendar.DateTime}
  {config : ManifestConfig} {dir after : ManifestDir} {name : String} {retention : Nat}

/-- The manifests after a write: the greatest names. -/
theorem writeManifest_names (retentionOk : validateRetention config.retention = .ok retention)
    (h : writeManifest codec unicodeWord clock config dir = (.ok name, after)) (other : String) :
    other ∈ manifestNames after ↔
      other ∈ (descending (writtenNames name dir)).take retention := by
  unfold writeManifest at h
  split at h
  next => exact absurd (congrArg Prod.fst h) nofun
  next prepared ok =>
    have from_ := prepareManifest_eq_ok ok
    cases from_.retention.symm.trans retentionOk
    obtain ⟨rfl, unlinked⟩ := commitManifest_ok h
    have json : isJsonName prepared.name = true := by
      obtain ⟨now, sha, runId, at_⟩ := from_.name
      rw [at_]
      exact isJsonName_manifestName now sha runId
    have names := @manifestNames_placed prepared dir json from_.name_ne
    have expired : expiredBy prepared dir =
        (descending (writtenNames prepared.name dir)).drop prepared.retention := by
      rw [expiredBy, names]
      rfl
    have sorted : (descending (writtenNames prepared.name dir)).Nodup :=
      descending_perm.nodup_iff.mpr nodup_writtenNames
    rw [manifestNames_unlinked unlinked, names, expired, List.mem_filter, decide_eq_true_eq,
      ← descending_perm.mem_iff]
    rw [← List.take_append_drop prepared.retention (descending _)] at sorted
    have apart := List.disjoint_of_nodup_append sorted
    constructor
    · rintro ⟨mem, kept⟩
      rw [← List.take_append_drop prepared.retention (descending _), List.mem_append] at mem
      exact mem.resolve_right kept
    · exact fun mem => ⟨List.mem_of_mem_take mem, apart mem⟩

/-- The file of the manifest, where it was kept. -/
theorem writeManifest_file (h : writeManifest codec unicodeWord clock config dir = (.ok name, after))
    (mem : name ∈ manifestNames after) : ∃ content, after.get name = some (.file content) := by
  unfold writeManifest at h
  split at h
  next => exact absurd (congrArg Prod.fst h) nofun
  next prepared ok =>
    obtain ⟨rfl, unlinked⟩ := commitManifest_ok h
    obtain ⟨node, held⟩ := Directory.mem_names.mp (mem_manifestNames.mp mem).1
    have left : (unlinkAll (expiredBy prepared dir) (placed prepared dir)).2.get prepared.name =
        some node := by
      rwa [unlinked]
    have before := get_unlinkAll left
    rw [get_placed_name (prepareManifest_eq_ok ok).name_ne] at before
    exact ⟨prepared.content, held.trans before.symm⟩

/-- A write keeps the newest manifests, the new one among them, exactly where each of the others
has a lesser name than each of them. -/
theorem writeManifest_retained_iff
    (retentionOk : validateRetention config.retention = .ok retention)
    (h : writeManifest codec unicodeWord clock config dir = (.ok name, after)) :
    Retained retention name dir after ↔
      ∀ old ∈ older retention (writtenNames name dir),
        ∀ new ∈ newest retention (writtenNames name dir), old < new := by
  have names := writeManifest_names retentionOk h
  rw [← greatest_eq_newest_iff nodup_writtenNames]
  constructor
  · intro retained other
    rw [← names, retained.recent]
  · intro same
    have recent (other : String) : other ∈ manifestNames after ↔
        other ∈ newest retention (writtenNames name dir) := (names other).trans (same other)
    have new : name ∈ manifestNames after :=
      (recent name).mpr (mem_of_mem_newest_append (one_le_of_validateRetention retentionOk))
    refine ⟨writeManifest_file h new, ?_, recent⟩
    have fewer := (List.subperm_of_subset nodup_manifestNames fun other mem =>
      (names other).mp mem).length_le
    exact fewer.trans (List.length_take_le _ _)

end Write

section Sample

/-- A directory with a manifest of a clock that was ahead, or of one that was not. -/
def earlierDir (name : String) : ManifestDir := ⟨[(name, .file [])], List.nodup_singleton _⟩

def sampleWrite (dir : ManifestDir) : Except String String × ManifestDir :=
  writeManifest (sampleCodec "success") (fun _ => false) sampleClock (sampleConfig "success") dir

theorem sampleWrite_eq (dir : ManifestDir) :
    sampleWrite dir = commitManifest (samplePrepared "success") dir := by
  rw [sampleWrite, writeManifest, sample_prepared (by decide)]

/-- The manifest that was just written is removed, and the older one is kept. -/
theorem writeManifest_removes_new :
    let dir := earlierDir "20990101T000000Z-0123456789ab-1.json"
    (sampleWrite dir).1 = .ok sampleName ∧ (sampleWrite dir).2.get sampleName = none ∧
      ¬Retained 1 sampleName dir (sampleWrite dir).2 := by
  intro dir
  have gone : (sampleWrite dir).2.get sampleName = none := by
    rw [sampleWrite_eq]
    decide +kernel
  refine ⟨?_, gone, fun retained => ?_⟩
  · rw [sampleWrite_eq]
    decide +kernel
  · obtain ⟨content, held⟩ := retained.exists_
    exact absurd (gone.symm.trans held) nofun

/-- The manifest of an earlier day makes room for the new one. -/
theorem writeManifest_retained_sample :
    let dir := earlierDir "20260228T120000Z-0123456789ab-1.json"
    Retained 1 sampleName dir (sampleWrite dir).2 := by
  intro dir
  have written : sampleWrite dir = (.ok sampleName, (sampleWrite dir).2) := by
    refine Prod.ext ?_ rfl
    rw [sampleWrite_eq]
    decide +kernel
  exact (writeManifest_retained_iff rfl written).mpr (by decide +kernel)

end Sample

end OptimizrActions.DeployManifest
