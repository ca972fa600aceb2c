import OptimizrActions.EnvWriter.Write

/-! What a write of the environment file leaves behind when it raises. -/

namespace OptimizrActions.EnvWriter

open Prog

section Paths

theorem temporaryPath_ne (destination : FilePath) (suffix : Suffix) :
    destination ≠ temporaryPath destination suffix := by
  intro same
  have lengths := congrArg (fun path => path.name.length) same
  simp only [temporaryPath, String.length_append, String.length_ofList, suffix.length] at lengths
  omega

/-- The random part has no dot. -/
theorem evidenceTemporary_ne_temporaryPath (evidence destination : FilePath) (suffix : Suffix) :
    temporaryPath destination suffix ≠ evidenceTemporary evidence := by
  intro same
  have names := congrArg (fun path => path.name.toList) same
  simp only [evidenceTemporary, temporaryPath, String.toList_append, String.toList_ofList] at names
  have shorter : ".tmp".toList.length ≤ suffix.chars.length := by
    rw [suffix.length]
    decide
  have part : ".tmp".toList <:+ suffix.chars :=
    List.suffix_of_suffix_length_le (names.symm ▸ List.suffix_append _ _) (List.suffix_append _ _) shorter
  exact suffix.plain (part.subset (by decide))

end Paths

section Replace

variable {faults : Faults} {files : Files} {temporary destination : FilePath}
  {rendered : List Char} {mode : Nat}

/-- The files after the destination was replaced. -/
def placed (files : Files) (temporary destination : FilePath) (rendered : List Char) : Files :=
  Function.update (Function.update files temporary none) destination (some (.file rendered))

/-- Every step up to the replacement succeeds. -/
structure Replaces (faults : Faults) : Prop where
  write : faults.write = none
  chmod : faults.chmod = false
  replace : faults.replace = false

theorem createTemporary_eq : createTemporary faults temporary files =
    if faults.create = false ∧ files temporary = none then
      (.ok (), Function.update files temporary (some (.file [])))
    else (.error "temporary file could not be created", files) := by
  rw [createTemporary, get_bind, ensure_bind]
  rfl

theorem replaceDestination_of_not_replaces (h : ¬Replaces faults) : ∃ message part,
    replaceDestination faults mode rendered temporary destination files =
      (.error message, Function.update files temporary (some (.file part))) := by
  rw [replaceDestination]
  cases write : faults.write with
  | some part => exact ⟨_, part, rfl⟩
  | none =>
    dsimp only
    rw [put, modify_bind, ensure_bind]
    by_cases chmod : faults.chmod = false
    · rw [if_pos chmod, ensure_bind, if_neg fun replace => h ⟨write, chmod, replace⟩]
      exact ⟨_, rendered, rfl⟩
    · rw [if_neg chmod]
      exact ⟨_, rendered, rfl⟩

theorem replaceDestination_of_replaces (h : Replaces faults) : ∃ result,
    replaceDestination faults mode rendered temporary destination files =
      (result, placed files temporary destination rendered) ∧
    (result = .ok () ↔ faults.actualMode = some mode) := by
  have after : placed (Function.update files temporary (some (.file rendered))) temporary destination
      rendered = placed files temporary destination rendered := by
    rw [placed, Function.update_idem]
    rfl
  rw [replaceDestination, h.write]
  dsimp only
  rw [put, modify_bind, ensure_bind, if_pos h.chmod, ensure_bind, if_pos h.replace, move, modify_bind,
    ← after]
  cases faults.actualMode with
  | none => exact ⟨_, rfl, by rintro ⟨⟩, by rintro ⟨⟩⟩
  | some actual =>
    by_cases same : actual = mode
    · refine ⟨.ok (), ?_, fun _ => congrArg some same, fun _ => rfl⟩
      dsimp only
      rw [ensure, if_pos same]
      rfl
    · refine ⟨.error "destination mode verification failed", ?_, by rintro ⟨⟩,
        fun equal => absurd (Option.some.inj equal) same⟩
      dsimp only
      rw [ensure, if_neg same]
      rfl

theorem removeTemporary_of_none (h : files temporary = none) :
    removeTemporary faults temporary files = (.ok (), files) := by
  rw [removeTemporary, get_bind, if_pos h]
  rfl

theorem removeTemporary_of_some (h : files temporary ≠ none) :
    removeTemporary faults temporary files =
      if faults.cleanup = false then (.ok (), Function.update files temporary none)
      else (.error "temporary file could not be removed", files) := by
  rw [removeTemporary, get_bind, if_neg h, ensure_bind]
  rfl

/-- The `try` statement, from the files with the temporary one. -/
def tryReplace (faults : Faults) (mode : Nat) (rendered : List Char)
    (temporary destination : FilePath) : Write Unit :=
  finallyDo (replaceDestination faults mode rendered temporary destination)
    (removeTemporary faults temporary)

theorem tryReplace_of_not_replaces (fresh : files temporary = none) (h : ¬Replaces faults) :
    ∃ message part, tryReplace faults mode rendered temporary destination
        (Function.update files temporary (some (.file []))) =
      (.error message,
        if faults.cleanup = false then files
        else Function.update files temporary (some (.file part))) := by
  obtain ⟨message, part, body⟩ := @replaceDestination_of_not_replaces faults
    (Function.update files temporary (some (.file []))) temporary destination rendered mode h
  rw [Function.update_idem] at body
  have there : Function.update files temporary (some (Node.file part)) temporary ≠ none := by
    rw [Function.update_self]
    exact nofun
  have cleanup := @removeTemporary_of_some faults _ _ there
  have as_before : Function.update files temporary none = files :=
    Function.update_eq_self_iff.mpr fresh.symm
  rw [Function.update_idem, as_before] at cleanup
  rw [tryReplace, finallyDo, body]
  dsimp only
  rw [cleanup]
  by_cases removed : faults.cleanup = false
  · rw [if_pos removed]
    exact ⟨message, part, by rw [if_pos removed]⟩
  · rw [if_neg removed]
    exact ⟨_, part, by rw [if_neg removed]⟩

theorem tryReplace_of_replaces (ne : destination ≠ temporary) (h : Replaces faults) :
    ∃ result, tryReplace faults mode rendered temporary destination
        (Function.update files temporary (some (.file []))) =
      (result, placed files temporary destination rendered) ∧
    (result = .ok () ↔ faults.actualMode = some mode) := by
  obtain ⟨result, body, iff⟩ := @replaceDestination_of_replaces faults
    (Function.update files temporary (some (.file []))) temporary destination rendered mode h
  rw [placed, Function.update_idem, ← placed] at body
  have gone : placed files temporary destination rendered temporary = none := by
    rw [placed, Function.update_of_ne ne.symm, Function.update_self]
  refine ⟨result, ?_, iff⟩
  rw [tryReplace, finallyDo, body]
  dsimp only
  rw [removeTemporary_of_none gone]

end Replace

section Evidence

variable {faults : Faults} {files : Files} {path : FilePath} {text : List Char}

/-- Where the evidence cannot be written: what was written to its temporary file until then. -/
def evidenceFailure (faults : Faults) (path : FilePath) (text : List Char) (files : Files) :
    Option (Option (List Char)) :=
  if faults.mkdir = false ∧ (files path).any Node.isSymlink = false ∧
      (files (evidenceTemporary path)).any Node.isSymlink = false ∧
      files (evidenceTemporary path) ≠ some .directory then
    match faults.evidenceWrite with
    | some part => some (some part)
    | none =>
      if files path ≠ some .directory ∧ faults.evidenceReplace = false then none
      else some (some text)
  else some none

/-- The files with what was written to the temporary file of the evidence. -/
def withEvidence (files : Files) (path : FilePath) : Option (List Char) → Files
  | none => files
  | some written => Function.update files (evidenceTemporary path) (some (.file written))

theorem writeJsonAtomic_eq : ∃ message after, writeJsonAtomic faults path text files =
    match evidenceFailure faults path text files with
    | some written => (.error message, withEvidence files path written)
    | none => (.ok (), after) := by
  rw [writeJsonAtomic, ensure_bind, get_bind, ensure_bind, ensure_bind, ensure_bind, evidenceFailure]
  by_cases possible : faults.mkdir = false ∧ (files path).any Node.isSymlink = false ∧
      (files (evidenceTemporary path)).any Node.isSymlink = false ∧
      files (evidenceTemporary path) ≠ some .directory
  · rw [if_pos possible, if_pos possible.1, if_pos possible.2.1, if_pos possible.2.2.1,
      if_pos possible.2.2.2]
    cases faults.evidenceWrite with
    | some part => exact ⟨_, files, rfl⟩
    | none =>
      dsimp only
      rw [put, modify_bind, ensure_bind]
      by_cases replaced : files path ≠ some .directory ∧ faults.evidenceReplace = false
      · rw [if_pos replaced, if_pos replaced]
        exact ⟨"", _, rfl⟩
      · rw [if_neg replaced, if_neg replaced]
        exact ⟨_, files, rfl⟩
  · rw [if_neg possible]
    dsimp only
    split_ifs with mkdir symlink temporary directory
    · exact absurd ⟨mkdir, symlink, temporary, directory⟩ possible
    all_goals exact ⟨_, files, rfl⟩

end Evidence

section Write

variable {sha256 : String → String} {dumps : Json → List Char} {suffix : Suffix} {faults : Faults}
  {request : WriteRequest} {files : Files} {destination : FilePath} {rendered : List Char}
  {entries : List Json}

/-- The checks before the temporary file, and its creation. -/
structure Prepared (sha256 : String → String) (suffix : Suffix) (faults : Faults)
    (request : WriteRequest) (files : Files) (destination : FilePath) (rendered : List Char)
    (entries : List Json) : Prop where
  modeOk : request.mode ∈ allowedModes
  destinationOk : resolveDestination request.destination files = .ok destination
  renderedOk : renderEnv sha256 request.schema request.environment = .ok (rendered, entries)
  createOk : faults.create = false ∧ files (temporaryPath destination suffix) = none

theorem writeEnvFile_of_not_prepared
    (h : ∀ destination rendered entries,
      ¬Prepared sha256 suffix faults request files destination rendered entries) :
    ∃ message, writeEnvFile faults sha256 dumps suffix request files = (.error message, files) := by
  rw [writeEnvFile, ensure_bind]
  by_cases mode : request.mode ∈ allowedModes
  · rw [if_pos mode, get_bind, ofExcept_bind]
    cases resolved : resolveDestination request.destination files with
    | error message => exact ⟨message, rfl⟩
    | ok destination =>
      dsimp only
      rw [ofExcept_bind]
      cases render : renderEnv sha256 request.schema request.environment with
      | error message => exact ⟨message, rfl⟩
      | ok pair =>
        obtain ⟨rendered, entries⟩ := pair
        dsimp only
        have create : ¬(faults.create = false ∧ files (temporaryPath destination suffix) = none) :=
          fun create => h destination rendered entries ⟨mode, resolved, render, create⟩
        have failed : createTemporary faults (temporaryPath destination suffix) files =
            (.error "temporary file could not be created", files) := by
          rw [createTemporary_eq, if_neg create]
        exact ⟨_, bind_of_error failed⟩
  · rw [if_neg mode]
    exact ⟨_, rfl⟩

theorem writeEnvFile_of_prepared
    (h : Prepared sha256 suffix faults request files destination rendered entries) :
    writeEnvFile faults sha256 dumps suffix request files =
      (tryReplace faults request.mode rendered (temporaryPath destination suffix) destination >>=
        fun _ => writeJsonAtomic faults request.evidence (dumps (evidencePayload request entries)) >>=
          fun _ => pure (evidencePayload request entries))
        (Function.update files (temporaryPath destination suffix) (some (.file []))) := by
  have created : createTemporary faults (temporaryPath destination suffix) files =
      (.ok (), Function.update files (temporaryPath destination suffix) (some (.file []))) := by
    rw [createTemporary_eq, if_pos h.createOk]
  rw [writeEnvFile, ensure_bind, if_pos h.modeOk, get_bind, ofExcept_bind, h.destinationOk]
  dsimp only
  rw [ofExcept_bind, h.renderedOk]
  dsimp only
  rw [bind_of_ok created]
  rfl

/-- Where a check or a step after the replacement fails: what was written to the temporary file of
the evidence until then. -/
def lateFailure (faults : Faults) (request : WriteRequest) (text : List Char) (files : Files) :
    Option (Option (List Char)) :=
  if faults.actualMode = some request.mode then evidenceFailure faults request.evidence text files
  else some none

/-- What the destination holds after a late failure; it may be the evidence's temporary file. -/
def leftBehind (evidence destination : FilePath) (rendered : List Char) :
    Option (List Char) → List Char
  | some written => if destination = evidenceTemporary evidence then written else rendered
  | none => rendered

theorem withEvidence_destination {evidence temporary : FilePath} {written : Option (List Char)} :
    withEvidence (placed files temporary destination rendered) evidence written destination =
      some (.file (leftBehind evidence destination rendered written)) := by
  have held : placed files temporary destination rendered destination = some (.file rendered) := by
    rw [placed, Function.update_self]
  cases written with
  | none => exact held
  | some written =>
    rw [withEvidence, leftBehind]
    split_ifs with same
    · rw [same, Function.update_self]
    · rw [Function.update_of_ne same, held]

theorem withEvidence_temporary {evidence : FilePath} {written : Option (List Char)} :
    withEvidence (placed files (temporaryPath destination suffix) destination rendered) evidence
      written (temporaryPath destination suffix) = none := by
  have gone : placed files (temporaryPath destination suffix) destination rendered
      (temporaryPath destination suffix) = none := by
    rw [placed, Function.update_of_ne (temporaryPath_ne _ _).symm, Function.update_self]
  cases written with
  | none => exact gone
  | some written =>
    rw [withEvidence, Function.update_of_ne (evidenceTemporary_ne_temporaryPath _ _ _), gone]

/-- After the replacement the call raises exactly where a later check or step fails. -/
theorem writeEnvFile_of_replaces
    (h : Prepared sha256 suffix faults request files destination rendered entries)
    (replaces : Replaces faults) : ∃ message payload after,
    writeEnvFile faults sha256 dumps suffix request files =
      match lateFailure faults request (dumps (evidencePayload request entries))
        (placed files (temporaryPath destination suffix) destination rendered) with
      | some written => (.error message, withEvidence
          (placed files (temporaryPath destination suffix) destination rendered) request.evidence
          written)
      | none => (.ok payload, after) := by
  obtain ⟨result, tried, iff⟩ := @tryReplace_of_replaces faults files
    (temporaryPath destination suffix) destination rendered request.mode (temporaryPath_ne _ _)
    replaces
  rw [writeEnvFile_of_prepared h, lateFailure]
  by_cases verified : faults.actualMode = some request.mode
  · rw [iff.mpr verified] at tried
    rw [if_pos verified, bind_of_ok tried]
    obtain ⟨message, after, recorded⟩ := @writeJsonAtomic_eq faults
      (placed files (temporaryPath destination suffix) destination rendered) request.evidence
      (dumps (evidencePayload request entries))
    cases failure : evidenceFailure faults request.evidence (dumps (evidencePayload request entries))
        (placed files (temporaryPath destination suffix) destination rendered) with
    | some written =>
      rw [failure] at recorded
      exact ⟨message, evidencePayload request entries, after, bind_of_error recorded⟩
    | none =>
      rw [failure] at recorded
      exact ⟨message, evidencePayload request entries, after, bind_of_ok recorded⟩
  · rw [if_neg verified]
    cases result with
    | ok done => exact absurd (iff.mp rfl) verified
    | error message => exact ⟨message, .null, files, bind_of_error tried⟩

/-- Where the call raises, the destination and the temporary file are as before. -/
def Atomic (sha256 : String → String) (dumps : Json → List Char) (suffix : Suffix) (faults : Faults)
    (request : WriteRequest) (files : Files) : Prop :=
  ∀ message, (writeEnvFile faults sha256 dumps suffix request files).1 = .error message →
    ∀ parent, request.destination.parent = some parent →
      ∀ path ∈ [⟨parent, request.destination.name⟩,
          temporaryPath ⟨parent, request.destination.name⟩ suffix],
        (writeEnvFile faults sha256 dumps suffix request files).2 path = files path

theorem resolveDestination_eq_ok {d : Destination} (h : resolveDestination d files = .ok destination) :
    d.parent = some destination.parent ∧ d.name = destination.name := by
  unfold resolveDestination at h
  obtain ⟨_, -, rest⟩ := bind_eq_ok.mp h
  split at rest
  next => exact absurd rest nofun
  next parent at_ =>
    simp only [bind_eq_ok, pure_eq_ok] at rest
    obtain ⟨_, -, _, -, _, -, rfl⟩ := rest
    exact ⟨at_, rfl⟩

/-- A write of the environment file is atomic exactly where a step that fails before the
replacement lets the temporary file be removed, and no check or step after it fails, or the
destination held already what is found there then. -/
theorem writeEnvFile_atomic_iff : Atomic sha256 dumps suffix faults request files ↔
    ∀ destination rendered entries,
      Prepared sha256 suffix faults request files destination rendered entries →
        (¬Replaces faults → faults.cleanup = false) ∧
        (Replaces faults → ∀ written,
          lateFailure faults request (dumps (evidencePayload request entries))
            (placed files (temporaryPath destination suffix) destination rendered) = some written →
          files destination =
            some (.file (leftBehind request.evidence destination rendered written))) := by
  constructor
  · intro atomic destination rendered entries prepared
    obtain ⟨parent, name⟩ := resolveDestination_eq_ok prepared.destinationOk
    have at_ : (⟨destination.parent, request.destination.name⟩ : FilePath) = destination := by
      rw [name]
    refine ⟨fun stops => ?_, fun replaces written late => ?_⟩
    · by_contra stuck
      obtain ⟨message, part, tried⟩ := @tryReplace_of_not_replaces faults files
        (temporaryPath destination suffix) destination rendered request.mode prepared.createOk.2 stops
      rw [if_neg stuck] at tried
      have run := (@writeEnvFile_of_prepared _ dumps _ _ _ _ _ _ _ prepared).trans
        (bind_of_error tried)
      have kept := atomic message (congrArg Prod.fst run) _ parent _
        (List.mem_cons_of_mem _ List.mem_cons_self)
      rw [run, at_] at kept
      have left := (Function.update_self _ _ files).symm.trans (kept.trans prepared.createOk.2)
      exact absurd left nofun
    · obtain ⟨message, payload, after, run⟩ :=
        @writeEnvFile_of_replaces _ dumps _ _ _ _ _ _ _ prepared replaces
      rw [late] at run
      have kept := atomic message (congrArg Prod.fst run) _ parent _ List.mem_cons_self
      rw [run, at_] at kept
      exact kept.symm.trans withEvidence_destination
  · intro safe message raised parent there path mem
    by_cases prepared : ∃ destination rendered entries,
        Prepared sha256 suffix faults request files destination rendered entries
    · obtain ⟨destination, rendered, entries, prepared⟩ := prepared
      obtain ⟨parent', name⟩ := resolveDestination_eq_ok prepared.destinationOk
      cases there.symm.trans parent'
      have at_ : (⟨destination.parent, request.destination.name⟩ : FilePath) = destination := by
        rw [name]
      rw [at_] at mem
      obtain ⟨removed, same⟩ := safe destination rendered entries prepared
      by_cases replaces : Replaces faults
      · obtain ⟨message', payload, after, run⟩ :=
          @writeEnvFile_of_replaces _ dumps _ _ _ _ _ _ _ prepared replaces
        cases late : lateFailure faults request (dumps (evidencePayload request entries))
            (placed files (temporaryPath destination suffix) destination rendered) with
        | none =>
          rw [late] at run
          rw [run] at raised
          exact absurd raised nofun
        | some written =>
          rw [late] at run
          rw [run]
          rw [List.mem_cons, List.mem_singleton] at mem
          rcases mem with rfl | rfl
          · exact withEvidence_destination.trans (same replaces written late).symm
          · exact withEvidence_temporary.trans prepared.createOk.2.symm
      · obtain ⟨message', part, tried⟩ := @tryReplace_of_not_replaces faults files
          (temporaryPath destination suffix) destination rendered request.mode prepared.createOk.2
          replaces
        rw [if_pos (removed replaces)] at tried
        rw [(@writeEnvFile_of_prepared _ dumps _ _ _ _ _ _ _ prepared).trans (bind_of_error tried)]
    · obtain ⟨message', run⟩ := @writeEnvFile_of_not_prepared sha256 dumps suffix faults request files
        fun destination rendered entries h => prepared ⟨destination, rendered, entries, h⟩
      rw [run]

/-- A file with an older value, which the write replaces before it finds a link in the place of the
evidence. -/
def sampleRequest : WriteRequest where
  schema := .obj [("version", .int 1), ("entries", .arr
    [.obj [("key", .str "PORT"), ("literal", .str "80"), ("secret", .bool false)]])]
  environment := fun _ => none
  destination := ⟨true, false, some ["srv", "app"], ".env", true, false⟩
  mode := 0o600
  evidence := ⟨["work"], "evidence.json"⟩

def sampleFiles : Files := fun path =>
  if path = ⟨["srv", "app"], ".env"⟩ then some (.file "PORT=\"79\"\n".toList)
  else if path = ⟨["work"], "evidence.json"⟩ then some (.symlink true)
  else none

def sampleSuffix : Suffix := ⟨"a1b2c3d4".toList, rfl, by decide⟩

theorem writeEnvFile_not_atomic : ¬Atomic id (fun _ => []) sampleSuffix
    { actualMode := some 0o600 } sampleRequest sampleFiles := by
  intro atomic
  have kept := atomic "evidence path must not be a symbolic link" rfl
    ["srv", "app"] rfl ⟨["srv", "app"], ".env"⟩ List.mem_cons_self
  exact absurd kept (by decide +kernel)

end Write

end OptimizrActions.EnvWriter
