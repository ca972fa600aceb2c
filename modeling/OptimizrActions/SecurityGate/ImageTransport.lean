import OptimizrActions.Exceptions.Policy
import OptimizrActions.Lib.Prog

/-! Preparing a local Docker image for a scan: the image identity is read, and where the daemon
cannot be reached without `sudo` the image is exported to an archive. -/

namespace OptimizrActions.SecurityGate.Image

open Exceptions (isImageDigest lowerSet)

inductive Status where
  | ready | failed
  deriving DecidableEq, Repr

inductive Transport where
  | none | direct | archive
  deriving DecidableEq, Repr

def Status.text : Status → String
  | .ready => "ready"
  | .failed => "failed"

def Transport.text : Transport → String
  | .none => ""
  | .direct => "direct"
  | .archive => "archive"

structure ImageTransport where
  status : Status
  transport : Transport
  identity : String := ""
  lineageDigests : List String := []
  scanArgs : List String := []
  failureReason : String := ""
  deriving DecidableEq, Repr

/-- A process that ran to its end. -/
structure Completed where
  returncode : Int
  stdout : Option String

/-- What stands at the path of the archive. -/
inductive Entry where
  | absent | file | symlink | directory
  deriving DecidableEq, Repr

/-- What `docker save` can leave there. -/
inductive Left where
  | nothing | file | symlink
  deriving DecidableEq, Repr

def Left.entry : Left → Entry
  | .nothing => .absent
  | .file => .file
  | .symlink => .symlink

abbrev Argv := List String

/-- The injected command runner: what it does after the commands before; `none` is an `OSError`. -/
structure CommandRunner where
  respond : List Argv → Argv → Option Completed
  leaves : List Argv → Left

/-- `json.loads` of a text: a value, a `JSONDecodeError`, or another exception. -/
inductive Loaded where
  | value (v : Json)
  | decodeError
  | raised (error : String)

structure Python where
  loads : String → Loaded
  /-- `str(value)` of a value that is not text -/
  str : Json → String
  /-- `os.getuid()` and `os.getgid()`, where the platform has them -/
  getuid : Option Nat
  getgid : Option Nat

structure World where
  issued : List Argv
  archive : Entry

abbrev Step := Prog World String

def modes : List String := ["auto", "direct", "sudo"]

/-- `_IMAGE_ID.fullmatch(text)` -/
def isImageId (text : String) : Bool := isImageDigest text

section

variable (python : Python) (runner : CommandRunner)

/-- `_run`, for every command but `docker save`. -/
def run (argv : Argv) : Step (Option Completed) := fun w =>
  (.ok (runner.respond w.issued argv), { w with issued := w.issued ++ [argv] })

/-- `_run`, for `docker save`. -/
def runSave (argv : Argv) : Step (Option Completed) := fun w =>
  (.ok (runner.respond w.issued argv),
    ⟨w.issued ++ [argv], (runner.leaves w.issued).entry⟩)

/-- `archive.unlink(missing_ok=True)` -/
def unlink : Step Unit := fun w =>
  match w.archive with
  | .directory => (.error "IsADirectoryError", w)
  | _ => (.ok (), { w with archive := .absent })

/-- The first line of the output, `""` for no output. -/
def firstLine : Option String → Except String String
  | none => .ok ""
  | some stdout =>
    if stdout = "" then .ok ""
    else match Text.splitLines (Text.strip stdout) with
      | line :: _ => .ok line
      | [] => .error "list index out of range"

/-- `str(value)` -/
def text : Json → String
  | .str s => s
  | value => python.str value

/-- `text.rsplit("@", 1)[1]` -/
def afterLastAt (s : String) : String :=
  String.ofList (s.toList.reverse.takeWhile (· ≠ '@')).reverse

def baseDigest (payload : Mapping) : List String :=
  match payload.get "Config" with
  | .obj config =>
    match Mapping.get config "Labels" with
    | .obj labels =>
      match Mapping.get labels "org.opencontainers.image.base.digest" with
      | .str digest => [Text.strip digest]
      | _ => []
    | _ => []
  | _ => []

def repoDigest? : Json → Option String
  | .str digest =>
    if '@' ∈ digest.toList then some (Text.strip (afterLastAt digest)) else none
  | _ => none

def repoDigests (payload : Mapping) : List String :=
  match payload.get "RepoDigests" with
  | .arr digests => digests.filterMap repoDigest?
  | _ => []

def lineageDigests (payload : Mapping) : List String :=
  lowerSet ((baseDigest payload ++ repoDigests payload).filter isImageId)

/-- What `_inspect` returns. -/
structure Inspected where
  identity : String
  error : String
  lineageDigests : List String
  deriving DecidableEq, Repr

def checkIdentity (identity : String) (lineage : List String) : Inspected :=
  if isImageId identity then ⟨identity, "", lineage⟩ else ⟨"", "identity_invalid", []⟩

/-- `_inspect` once its command has been run. -/
def readInspect : Option Completed → Except String Inspected
  | none => .ok ⟨"", "inspect_failed", []⟩
  | some result =>
    if result.returncode ≠ 0 then .ok ⟨"", "inspect_failed", []⟩
    else do
      let raw ← firstLine result.stdout
      match python.loads raw with
      | .raised error => .error error
      | .decodeError => pure (checkIdentity raw [])
      | .value (.obj payload) =>
        pure (checkIdentity
          (Text.strip (text python (Mapping.getD payload "Id" (.str "")))) (lineageDigests payload))
      | .value _ => pure ⟨"", "inspect_invalid", []⟩

def inspectArgv (target : String) (start : Argv) : Argv :=
  start ++ ["docker", "image", "inspect", "--format", "\x7b\x7bjson .\x7d\x7d", target]

def inspect (target : String) (start : Argv) : Step Inspected := do
  let result ← run runner (inspectArgv target start)
  Prog.ofExcept (readInspect python result)

def failed (reason : String) : ImageTransport := ⟨.failed, .none, "", [], [], reason⟩

def isSuccess : Option Completed → Bool
  | some result => result.returncode = 0
  | none => false

def idText (given own : Option Nat) : String :=
  match given, own with
  | none, some own => toString own
  | given, _ => toString (given.getD 0)

def saveArgv (target archive : String) : Argv :=
  ["sudo", "-n", "docker", "save", target, "-o", archive]

def chownArgv (uid gid : Option Nat) (archive : String) : Argv :=
  ["sudo", "-n", "chown", idText uid python.getuid ++ ":" ++ idText gid python.getgid, archive]

/-- The export of an inspected image. -/
def exportArchive (target archive : String) (uid gid : Option Nat) (inspected : Inspected) :
    Step ImageTransport := do
  let prepared ← Prog.tryCatch (do unlink; pure true) fun _ => pure false
  if !prepared then pure (failed "docker_archive_prepare_failed")
  else do
    let save ← runSave runner (saveArgv target archive)
    if !isSuccess save then do
      unlink
      pure (failed "docker_save_failed")
    else do
      let world ← Prog.get
      if world.archive ≠ .file then do
        unlink
        pure (failed "docker_archive_missing")
      else do
        let chown ← run runner (chownArgv python uid gid archive)
        if !isSuccess chown then do
          unlink
          pure (failed "docker_archive_ownership_failed")
        else
          pure ⟨.ready, .archive, inspected.identity, inspected.lineageDigests,
            ["--input", archive], ""⟩

/-- The path through `sudo`. -/
def prepareSudo (target mode archive : String) (uid gid : Option Nat) : Step ImageTransport := do
  let inspected ← inspect python runner target ["sudo", "-n"]
  if inspected.identity = "" then
    pure (failed (if inspected.error = "identity_invalid" then "docker_identity_invalid"
      else if mode = "sudo" then "docker_sudo_inspect_failed" else "docker_access_failed"))
  else exportArchive python runner target archive uid gid inspected

def prepareImageTransport (target mode archive : String) (uid gid : Option Nat) :
    Step ImageTransport :=
  if mode ∉ modes then pure (failed "docker_mode_invalid")
  else if Text.strip target = "" then pure (failed "docker_target_missing")
  else if mode = "sudo" then prepareSudo python runner target mode archive uid gid
  else do
    let inspected ← inspect python runner target []
    if inspected.identity ≠ "" then
      pure ⟨.ready, .direct, inspected.identity, inspected.lineageDigests, [], ""⟩
    else if mode = "direct" then
      pure (failed (if inspected.error = "identity_invalid" then "docker_identity_invalid"
        else "docker_direct_inspect_failed"))
    else prepareSudo python runner target mode archive uid gid

end

/-! ### The steps as they run -/

section

variable {python : Python} {runner : CommandRunner} {target mode archive : String}
  {uid gid : Option Nat}

theorem inspect_eq (start : Argv) (w : World) :
    inspect python runner target start w =
      (readInspect python (runner.respond w.issued (inspectArgv target start)),
        { w with issued := w.issued ++ [inspectArgv target start] }) := by
  simp only [inspect, bind, run, Prog.ofExcept]
  cases readInspect python (runner.respond w.issued (inspectArgv target start)) <;> rfl

/-- The export works: nothing bars the path, the archive is written and handed over. -/
def Exports (python : Python) (runner : CommandRunner) (target archive : String)
    (uid gid : Option Nat) (entry : Entry) (issued : List Argv) : Prop :=
  entry ≠ .directory ∧ isSuccess (runner.respond issued (saveArgv target archive)) = true ∧
    runner.leaves issued = .file ∧
    isSuccess (runner.respond (issued ++ [saveArgv target archive])
      (chownArgv python uid gid archive)) = true

/-- What an export returns, and in which state. -/
structure Exported (python : Python) (runner : CommandRunner) (target archive : String)
    (uid gid : Option Nat) (inspected : Inspected) (start : World) (t : ImageTransport)
    (w : World) : Prop where
  status : t.status = .ready ↔ Exports python runner target archive uid gid start.archive start.issued
  ready : t.status = .ready → t.identity = inspected.identity ∧ w.archive = .file
  failed : t.status = .failed →
    t.failureReason ≠ "" ∧ (saveArgv target archive ∈ w.issued → saveArgv target archive ∉ start.issued →
      w.archive = .absent)
  log : ∃ more, w.issued = start.issued ++ more ∧ ∀ argv ∈ more, argv.head? = some "sudo"

theorem run_eq (argv : Argv) (w : World) :
    run runner argv w =
      (.ok (runner.respond w.issued argv), { w with issued := w.issued ++ [argv] }) := rfl

theorem runSave_eq (argv : Argv) (w : World) :
    runSave runner argv w =
      (.ok (runner.respond w.issued argv), ⟨w.issued ++ [argv], (runner.leaves w.issued).entry⟩) := rfl

theorem get_eq (w : World) : (Prog.get : Step World) w = (.ok w, w) := rfl

/-- The archive path is cleared, or the export is given up. -/
theorem clear_eq (issued : List Argv) (entry : Entry) :
    Prog.tryCatch (do unlink; pure true) (fun _ => (pure false : Step Bool)) ⟨issued, entry⟩ =
      (.ok (decide (entry ≠ .directory)),
        ⟨issued, if entry = .directory then .directory else .absent⟩) := by
  cases entry <;> rfl

theorem unlink_entry (issued : List Argv) (left : Left) :
    unlink ⟨issued, left.entry⟩ = (.ok (), ⟨issued, .absent⟩) := by
  cases left <;> rfl

/-- What an export that gets as far as `docker save` does. -/
theorem exportArchive_eq (inspected : Inspected) {issued : List Argv} {entry : Entry}
    (clear : entry ≠ .directory) :
    exportArchive python runner target archive uid gid inspected ⟨issued, entry⟩ =
      let saved := issued ++ [saveArgv target archive]
      let handed := saved ++ [chownArgv python uid gid archive]
      if isSuccess (runner.respond issued (saveArgv target archive)) = false then
        (.ok (failed "docker_save_failed"), ⟨saved, .absent⟩)
      else if runner.leaves issued ≠ .file then
        (.ok (failed "docker_archive_missing"), ⟨saved, .absent⟩)
      else if isSuccess (runner.respond saved (chownArgv python uid gid archive)) = false then
        (.ok (failed "docker_archive_ownership_failed"), ⟨handed, .absent⟩)
      else (.ok ⟨.ready, .archive, inspected.identity, inspected.lineageDigests,
        ["--input", archive], ""⟩, ⟨handed, .file⟩) := by
  rw [exportArchive, Prog.bind_of_ok (clear_eq issued entry)]
  simp only [ne_eq, clear, not_false_eq_true, decide_true, Bool.not_true, Bool.false_eq_true,
    if_false, Bool.not_eq_true']
  rw [Prog.bind_of_ok (runSave_eq _ _)]
  by_cases save : isSuccess (runner.respond issued (saveArgv target archive)) = false
  · rw [if_pos save, if_pos save, Prog.bind_of_ok (unlink_entry _ _)]
    rfl
  rw [if_neg save, if_neg save, Prog.bind_of_ok (get_eq _)]
  cases left : runner.leaves issued with
  | file =>
    simp only [left, Left.entry, not_true_eq_false, if_false]
    rw [Prog.bind_of_ok (run_eq _ _)]
    by_cases chown : isSuccess (runner.respond (issued ++ [saveArgv target archive])
        (chownArgv python uid gid archive)) = false
    · rw [if_pos chown, if_pos chown]
      rfl
    · rw [if_neg chown, if_neg chown]
      rfl
  | _ =>
    simp only [left, Left.entry, reduceCtorEq, not_false_eq_true, if_true]
    rfl

theorem exportArchive_exported (inspected : Inspected) (start : World) :
    ∃ t w, exportArchive python runner target archive uid gid inspected start = (.ok t, w) ∧
      Exported python runner target archive uid gid inspected start t w := by
  obtain ⟨issued, entry⟩ := start
  by_cases barred : entry = .directory
  · subst barred
    refine ⟨failed "docker_archive_prepare_failed", ⟨issued, .directory⟩, rfl, ?_⟩
    exact ⟨⟨nofun, fun h => absurd rfl h.1⟩, nofun,
      fun _ => ⟨by simp [failed], fun mem fresh => absurd mem fresh⟩, [], by simp, nofun⟩
  have viaSudo : ∀ argv ∈ [saveArgv target archive, chownArgv python uid gid archive],
      argv.head? = some "sudo" := by
    simp [saveArgv, chownArgv]
  have more : ∃ more, issued ++ [saveArgv target archive] ++ [chownArgv python uid gid archive] =
      issued ++ more ∧ ∀ argv ∈ more, argv.head? = some "sudo" :=
    ⟨_, List.append_assoc _ _ _, viaSudo⟩
  have once : ∃ more, issued ++ [saveArgv target archive] = issued ++ more ∧
      ∀ argv ∈ more, argv.head? = some "sudo" :=
    ⟨_, rfl, fun argv mem => viaSudo argv (List.mem_cons.mpr (.inl (List.mem_singleton.mp mem)))⟩
  rw [exportArchive_eq inspected barred]
  simp only
  split_ifs with save left chown
  · exact ⟨_, _, rfl, ⟨nofun, fun h => by simp [Exports, save] at h⟩, nofun,
      fun _ => ⟨by simp [failed], fun _ _ => rfl⟩, once⟩
  · exact ⟨_, _, rfl, ⟨nofun, fun h => absurd h.2.2.1 left⟩, nofun,
      fun _ => ⟨by simp [failed], fun _ _ => rfl⟩, once⟩
  · exact ⟨_, _, rfl, ⟨nofun, fun h => by simp [Exports, chown] at h⟩, nofun,
      fun _ => ⟨by simp [failed], fun _ _ => rfl⟩, more⟩
  · refine ⟨_, _, rfl, ⟨fun _ => ⟨barred, ?_, not_not.mp left, ?_⟩, fun _ => rfl⟩,
      fun _ => ⟨rfl, rfl⟩, nofun, more⟩
    · simpa using save
    · simpa using chown

/-! ### What every run promises -/

def isAscii (text : String) : Bool := text.toList.all (·.toNat < 128)

/-- A full identity: `sha256:` and 64 digits, in any letter case.  The pattern alone also accepts
the long s. -/
def IsIdentity (text : String) : Prop := isImageId text = true ∧ isAscii text = true

structure Prepared (target mode archive : String) (run : Except String ImageTransport × World) :
    Prop where
  returns : ∃ t, run.1 = .ok t ∧
    (t.status = .ready ∧ IsIdentity t.identity ∧ (t.transport = .archive → run.2.archive = .file) ∨
      t.status = .failed ∧ t.failureReason ≠ "")
  cleaned : ∀ t, run.1 = .ok t → t.status = .failed → saveArgv target archive ∈ run.2.issued →
    run.2.archive = .absent
  direct : mode = "direct" → ∀ argv ∈ run.2.issued, argv.head? ≠ some "sudo"
  escalated : mode = "sudo" → ∀ argv ∈ run.2.issued, argv.head? = some "sudo"

/-- The direct inspection can be read, and does not report an identity with a long s. -/
def DirectSettles (python : Python) (runner : CommandRunner) (target : String) : Prop :=
  ∃ inspected, readInspect python (runner.respond [] (inspectArgv target [])) = .ok inspected ∧
    isAscii inspected.identity = true

/-- The inspection through `sudo` can be read, and does not report such an identity to an export
that works. -/
def SudoSettles (python : Python) (runner : CommandRunner) (target archive : String)
    (uid gid : Option Nat) (entry : Entry) (issued : List Argv) : Prop :=
  ∃ inspected,
    readInspect python (runner.respond issued (inspectArgv target ["sudo", "-n"])) = .ok inspected ∧
    (inspected.identity ≠ "" → Exports python runner target archive uid gid entry
      (issued ++ [inspectArgv target ["sudo", "-n"]]) → isAscii inspected.identity = true)

/-- The inspections that the run comes to. -/
structure Settles (python : Python) (runner : CommandRunner) (target mode archive : String)
    (uid gid : Option Nat) (entry : Entry) : Prop where
  direct : mode ≠ "sudo" → DirectSettles python runner target
  viaSudo : mode = "sudo" → SudoSettles python runner target archive uid gid entry []
  fallback : mode = "auto" →
    (∃ inspected, readInspect python (runner.respond [] (inspectArgv target [])) = .ok inspected ∧
      inspected.identity = "") →
    SudoSettles python runner target archive uid gid entry [inspectArgv target []]

theorem readInspect_identity {result : Option Completed} {inspected : Inspected}
    (h : readInspect python result = .ok inspected) :
    inspected.identity = "" ∨ isImageId inspected.identity = true := by
  have checked (identity : String) (lineage : List String) :
      (checkIdentity identity lineage).identity = "" ∨
        isImageId (checkIdentity identity lineage).identity = true := by
    unfold checkIdentity
    split
    · exact .inr ‹_›
    · exact .inl rfl
  cases result with
  | none =>
    cases h
    exact .inl rfl
  | some result =>
    rw [readInspect] at h
    split at h
    · cases h
      exact .inl rfl
    · simp only [bind_eq_ok] at h
      obtain ⟨raw, -, h⟩ := h
      cases loaded : python.loads raw with
      | raised error =>
        rw [loaded] at h
        cases h
      | decodeError =>
        simp only [loaded, pure_eq_ok] at h
        exact h ▸ checked raw []
      | value v =>
        cases v with
        | obj payload =>
          simp only [loaded, pure_eq_ok] at h
          exact h ▸ checked _ _
        | _ =>
          simp only [loaded, pure_eq_ok] at h
          exact h ▸ .inl rfl

theorem prepareSudo_eq (issued : List Argv) (entry : Entry) :
    prepareSudo python runner target mode archive uid gid ⟨issued, entry⟩ =
      match readInspect python (runner.respond issued (inspectArgv target ["sudo", "-n"])) with
      | .error error => (.error error, ⟨issued ++ [inspectArgv target ["sudo", "-n"]], entry⟩)
      | .ok inspected =>
        if inspected.identity = "" then
          (.ok (failed (if inspected.error = "identity_invalid" then "docker_identity_invalid"
            else if mode = "sudo" then "docker_sudo_inspect_failed" else "docker_access_failed")),
            ⟨issued ++ [inspectArgv target ["sudo", "-n"]], entry⟩)
        else exportArchive python runner target archive uid gid inspected
          ⟨issued ++ [inspectArgv target ["sudo", "-n"]], entry⟩ := by
  have step := @inspect_eq python runner target ["sudo", "-n"] ⟨issued, entry⟩
  cases read : readInspect python (runner.respond issued (inspectArgv target ["sudo", "-n"])) with
  | error error =>
    rw [prepareSudo, Prog.bind_of_error (step.trans (by rw [read]))]
  | ok inspected =>
    rw [prepareSudo, Prog.bind_of_ok (step.trans (by rw [read]))]
    simp only
    split <;> rfl

theorem saveArgv_ne {start : Argv} (h : start = [] ∨ start = ["sudo", "-n"]) :
    saveArgv target archive ≠ inspectArgv target start := by
  rcases h with rfl | rfl <;> simp [saveArgv, inspectArgv]

theorem prepareSudo_prepared {issued : List Argv} {entry : Entry} (other : mode ≠ "direct")
    (fresh : saveArgv target archive ∉ issued)
    (before : mode = "sudo" → ∀ argv ∈ issued, argv.head? = some "sudo") :
    Prepared target mode archive (prepareSudo python runner target mode archive uid gid
      ⟨issued, entry⟩) ↔ SudoSettles python runner target archive uid gid entry issued := by
  have fresh' : saveArgv target archive ∉ issued ++ [inspectArgv target ["sudo", "-n"]] :=
    fun mem => (List.mem_append.mp mem).elim fresh fun new =>
      saveArgv_ne (.inr rfl) (List.mem_singleton.mp new)
  have before' (sudoMode : mode = "sudo") :
      ∀ argv ∈ issued ++ [inspectArgv target ["sudo", "-n"]], argv.head? = some "sudo" := by
    intro argv mem
    rcases List.mem_append.mp mem with old | new
    · exact before sudoMode argv old
    · rw [List.mem_singleton.mp new]
      rfl
  rw [prepareSudo_eq, SudoSettles]
  cases read : readInspect python (runner.respond issued (inspectArgv target ["sudo", "-n"])) with
  | error error =>
    constructor
    · rintro ⟨⟨t, raised, -⟩, -⟩
      cases raised
    · rintro ⟨_, eq, -⟩
      cases eq
  | ok inspected =>
    by_cases none : inspected.identity = ""
    · simp only [if_pos none]
      refine ⟨fun _ => ⟨inspected, rfl, fun some => absurd none some⟩, fun _ =>
        ⟨⟨_, rfl, .inr ⟨rfl, ?_⟩⟩, fun _ _ _ mem => absurd mem fresh', fun h => absurd h other,
          before'⟩⟩
      simp only [failed]
      split_ifs <;> decide
    · simp only [if_neg none]
      obtain ⟨t, w, run, exported⟩ := @exportArchive_exported python runner target archive uid gid
        inspected ⟨issued ++ [inspectArgv target ["sudo", "-n"]], entry⟩
      rw [run]
      constructor
      · rintro ⟨⟨t', eq, outcome⟩, -⟩
        cases eq
        refine ⟨inspected, rfl, fun _ exports => ?_⟩
        have ready := exported.status.mpr exports
        rcases outcome with ⟨-, identity, -⟩ | ⟨failed, -⟩
        · rw [← (exported.ready ready).1]
          exact identity.2
        · rw [ready] at failed
          cases failed
      · rintro ⟨_, ⟨⟩, ascii⟩
        refine ⟨⟨t, rfl, ?_⟩, ?_, fun h => absurd h other, ?_⟩
        · cases status : t.status with
          | ready =>
            obtain ⟨same, file⟩ := exported.ready status
            refine .inl ⟨rfl, ?_, fun _ => file⟩
            rw [same]
            exact ⟨(readInspect_identity read).resolve_left none,
              ascii none (exported.status.mp status)⟩
          | failed => exact .inr ⟨rfl, (exported.failed status).1⟩
        · rintro _ ⟨⟩ failed mem
          exact (exported.failed failed).2 mem fresh'
        · intro sudoMode argv mem
          obtain ⟨more, eq, all⟩ := exported.log
          rw [eq] at mem
          exact (List.mem_append.mp mem).elim (before' sudoMode argv) (all argv)

end

def quietPython : Python := ⟨fun _ => .decodeError, fun _ => "", none, none⟩

/-- Every command succeeds and prints one empty line. -/
def blankRunner : CommandRunner := ⟨fun _ _ => some ⟨0, some "\n"⟩, fun _ => .nothing⟩

end OptimizrActions.SecurityGate.Image
