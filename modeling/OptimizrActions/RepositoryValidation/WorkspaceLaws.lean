import OptimizrActions.RepositoryValidation.Workspace

/-! A checkout is repaired only after it was seen to be the expected commit, clean and incomplete,
and is accepted only after it was seen to be complete. -/

namespace OptimizrActions.RepositoryValidation

open Talk Prog
open Evidence (pathParts)

abbrev Log := List (Exchange Query Answer)

section Specification

def headArguments : List String := ["rev-parse", "HEAD"]

def rootArguments : List String := ["rev-parse", "--show-toplevel"]

def statusArguments : List String := ["status", "--porcelain", "--untracked-files=all"]

/-- A question about files, or a command that only reads the checkout, without credentials. -/
def Query.IsHarmless : Query → Prop
  | .run _ argv env => env = none ∧
      (argv = "git" :: headArguments ∨ argv = "git" :: rootArguments ∨ argv = "git" :: statusArguments)
  | .sleep _ | .write _ _ => False
  | _ => True

def Harmless (x : Exchange Query Answer) : Prop := x.query.IsHarmless

/-- Git has written this, and nothing went wrong. -/
def Printed (workspace arguments : List String) (text : String) (log : Log) : Prop :=
  ∃ completed : Completed, completed.returncode = 0 ∧ Text.strip completed.stdout = text ∧
    ⟨.run (some (rootText workspace)) ("git" :: arguments) none, .process completed⟩ ∈ log

/-- The workspace is the root of a clean checkout of the commit. -/
structure AtCommit (workspace : List String) (expectedSha : String) (log : Log) : Prop where
  head : Printed workspace headArguments expectedSha log
  root : ∃ text, Printed workspace rootArguments text log ∧ ⟨.resolve text, .path workspace⟩ ∈ log
  clean : Printed workspace statusArguments "" log

/-- No part of the path is a symlink. -/
def Unlinked (current parts : List String) (log : Log) : Prop :=
  ∀ part rest, part ++ rest = parts → part ≠ [] → ⟨.isSymlink (current ++ part), .flag false⟩ ∈ log

/-- The path lies in the workspace, and its file is there or not. -/
structure Located (workspace : List String) (path : String) (present : Bool) (log : Log) : Prop where
  named : path ≠ "" ∧ isAbsolute path = false ∧ ".." ∉ pathParts path
  unlinked : Unlinked workspace (pathParts path) log
  seen : ∃ candidate, workspace <+: candidate ∧
    ⟨.resolveMissing (workspace ++ pathParts path), .path candidate⟩ ∈ log ∧
    ⟨.exists_ candidate, .flag present⟩ ∈ log

/-- All required files but the missing ones are there. -/
structure Inventory (workspace : List String) (paths missing : List String) (log : Log) : Prop where
  present : ∀ path ∈ paths, path ∉ missing → Located workspace path true log
  absent : ∀ path ∈ missing, path ∈ paths ∧ Located workspace path false log

/-- A look at the checkout, which changes nothing. -/
structure Confirmed (workspace : List String) (expectedSha : String) (paths missing : List String)
    (log : Log) : Prop where
  commit : AtCommit workspace expectedSha log
  inventory : Inventory workspace paths missing log
  harmless : ∀ x ∈ log, Harmless x

def sparseQuery (workspace : List String) (env : Env) : Query :=
  .run (some (rootText workspace)) ("git" :: sparseArguments) (some env)

def checkoutQuery (workspace : List String) (expectedSha : String) (env : Env) : Query :=
  .run (some (rootText workspace)) ("git" :: checkoutArguments expectedSha) (some env)

/-- What comes before a command of a repair: a look at a checkout that lacks files and has nothing
else wrong, and the first command before the second. -/
def Earned (expectedSha : String) (paths : List String) (before : Log) (query : Query) : Prop :=
  ∃ workspace missing first look steps env, before = first ++ look ++ steps ∧
    (∀ x ∈ first, Harmless x) ∧ Confirmed workspace expectedSha paths missing look ∧ missing ≠ [] ∧
    env.lookup "GITHUB_TOKEN" = none ∧ env.lookup "VALIDATION_GITHUB_TOKEN" = none ∧
    (steps = [] ∧ query = sparseQuery workspace env ∨
      ∃ completed : Completed, completed.returncode = 0 ∧
        steps = [⟨sparseQuery workspace env, .process completed⟩] ∧
        query = checkoutQuery workspace expectedSha env)

def AllEarned (expectedSha : String) (paths : List String) (log : Log) : Prop :=
  ∀ before x after, log = before ++ x :: after →
    Harmless x ∨ Earned expectedSha paths before x.query

/-- The log ends with a look at a complete checkout, which the result tells of. -/
def EndsConfirmed (expectedSha : String) (paths : List String) (r : WorkspaceResult) (log : Log) :
    Prop :=
  ∃ workspace first look, log = first ++ look ∧ Confirmed workspace expectedSha paths [] look ∧
    r.workspace = rootText workspace ∧ r.actualSha = expectedSha ∧ r.requiredPaths = paths

end Specification

section Monotone

variable {workspace arguments current parts paths missing : List String} {text path expectedSha : String}
  {present : Bool} {log log' : Log}

theorem Printed.mono (h : Printed workspace arguments text log) (inside : log ⊆ log') :
    Printed workspace arguments text log' := by
  obtain ⟨completed, zero, printed, mem⟩ := h
  exact ⟨completed, zero, printed, inside mem⟩

theorem AtCommit.mono (h : AtCommit workspace expectedSha log) (inside : log ⊆ log') :
    AtCommit workspace expectedSha log' where
  head := h.head.mono inside
  root := by
    obtain ⟨text, printed, resolved⟩ := h.root
    exact ⟨text, printed.mono inside, inside resolved⟩
  clean := h.clean.mono inside

theorem Located.mono (h : Located workspace path present log) (inside : log ⊆ log') :
    Located workspace path present log' where
  named := h.named
  unlinked part rest eq nonempty := inside (h.unlinked part rest eq nonempty)
  seen := by
    obtain ⟨candidate, below, resolved, seen⟩ := h.seen
    exact ⟨candidate, below, inside resolved, inside seen⟩

theorem Inventory.mono (h : Inventory workspace paths missing log) (inside : log ⊆ log') :
    Inventory workspace paths missing log' where
  present path mem there := (h.present path mem there).mono inside
  absent path mem := ⟨(h.absent path mem).1, (h.absent path mem).2.mono inside⟩

theorem Inventory.cons {here : Log} (first : Located workspace path present here)
    (rest : Inventory workspace paths missing log) :
    Inventory workspace (path :: paths) (if (!present) = true then path :: missing else missing)
      (here ++ log) where
  present other mem there := by
    have known : other ∉ missing := by
      cases present with
      | true => exact there
      | false => exact fun mem => there (List.mem_cons_of_mem _ mem)
    rcases List.mem_cons.mp mem with rfl | mem
    · cases present with
      | true => exact first.mono (List.subset_append_left _ _)
      | false => exact absurd List.mem_cons_self there
    · exact (rest.present other mem known).mono (List.subset_append_right _ _)
  absent other mem := by
    have known (mem : other ∈ missing) : other ∈ path :: paths ∧
        Located workspace other false (here ++ log) :=
      ⟨List.mem_cons_of_mem _ (rest.absent other mem).1,
        (rest.absent other mem).2.mono (List.subset_append_right _ _)⟩
    cases present with
    | true => exact known mem
    | false =>
      rcases List.mem_cons.mp mem with rfl | mem
      · exact ⟨List.mem_cons_self, first.mono (List.subset_append_left _ _)⟩
      · exact known mem

end Monotone

section Looks

variable {machine : Machine} {environ : Env} {β : Type} {whole : β → Log → Prop} {query : Query}
  {workspace current parts arguments : List String}

theorem within_askFlag_bind {allowed : Exchange Query Answer → Prop} {next : Bool → Runner β}
    (permitted : ∀ answer, allowed ⟨query, answer⟩)
    (rest : ∀ holds, Within allowed (next holds) fun b log =>
      whole b (⟨query, .flag holds⟩ :: log)) :
    Within allowed (askFlag machine query >>= next) whole := by
  have asked : Within allowed (askFlag machine query) fun holds log =>
      log = [⟨query, .flag holds⟩] := by
    refine Within.ask_bind permitted fun answer => ?_
    cases answer with
    | flag holds => exact Within.pure rfl
    | _ => exact Within.throw
  refine Within.bind asked fun holds log eq => ?_
  subst eq
  exact rest holds

theorem within_gitOutput_bind {next : String → Runner β}
    (harmless : (Query.run (some (rootText workspace)) ("git" :: arguments) none).IsHarmless)
    (rest : ∀ text log, Printed workspace arguments text log →
      Within Harmless (next text) fun b more => whole b (log ++ more)) :
    Within Harmless (gitOutput machine workspace arguments none >>= next) whole := by
  have ran : Within Harmless (gitOutput machine workspace arguments none)
      (Printed workspace arguments) := by
    refine Within.ask_bind (fun _ => harmless) fun answer => ?_
    cases answer with
    | process completed =>
      refine Within.ensure_bind fun zero => Within.pure ?_
      exact ⟨completed, zero, rfl, List.mem_cons_self⟩
    | _ => exact Within.throw
  exact ran.bind rest

theorem within_containsSymlink {allowed : Exchange Query Answer → Prop}
    (permitted : ∀ path answer, allowed ⟨.isSymlink path, answer⟩) :
    Within allowed (containsSymlink machine current parts)
      fun found log => found = false → Unlinked current parts log := by
  induction parts generalizing current with
  | nil =>
    refine Within.pure fun _ part rest eq nonempty => ?_
    exact absurd (List.append_eq_nil_iff.mp eq).1 nonempty
  | cons part parts ih =>
    refine within_askFlag_bind (permitted _) fun holds => ?_
    cases holds with
    | true => exact Within.pure fun absurd => Bool.noConfusion absurd
    | false =>
      refine Within.conseq ih fun found log unlinked isFalse => ?_
      intro first rest eq nonempty
      cases first with
      | nil => exact absurd rfl nonempty
      | cons name first =>
        obtain ⟨rfl, tail⟩ := List.cons.inj eq
        by_cases last : first = []
        · subst last
          exact List.mem_cons_self
        · refine List.mem_cons_of_mem _ ?_
          rw [List.append_cons]
          exact unlinked isFalse first rest tail last

theorem within_isUnsafePath {path : String} : Within Harmless (isUnsafePath machine workspace path)
    fun isUnsafe log => isUnsafe = false → (path ≠ "" ∧ isAbsolute path = false ∧
      ".." ∉ pathParts path) ∧ Unlinked workspace (pathParts path) log := by
  unfold isUnsafePath
  split
  · exact Within.pure fun absurd => Bool.noConfusion absurd
  next plain =>
    rw [not_or, not_or, Bool.not_eq_true] at plain
    exact Within.conseq (within_containsSymlink fun _ _ => trivial) fun _ _ unlinked isFalse => ⟨plain, unlinked isFalse⟩

theorem within_requiredPath {allowMissing : Bool} {path : String} :
    Within Harmless (requiredPath machine environ workspace allowMissing path)
      fun missing log => Located workspace path (!missing) log ∧ (allowMissing = false → missing = false) := by
  refine Within.bind within_isUnsafePath fun isUnsafe links safe => ?_
  refine Within.ensure_bind fun isFalse => Within.ask_bind (fun _ => trivial) fun answer => ?_
  cases answer with
  | path candidate =>
    refine Within.ensure_bind fun below => within_askFlag_bind (fun _ => trivial) fun present => ?_
    refine Within.ensure_bind fun accepted => Within.pure ⟨⟨(safe isFalse).1, ?_, ?_⟩, ?_⟩
    · exact fun part rest eq nonempty => List.mem_append_left _ ((safe isFalse).2 part rest eq nonempty)
    · refine ⟨candidate, below, List.mem_append_right _ List.mem_cons_self, ?_⟩
      rw [Bool.not_not]
      exact List.mem_append_right _ (List.mem_cons_of_mem _ List.mem_cons_self)
    · rintro rfl
      rw [accepted.resolve_right Bool.noConfusion]
      rfl
  | _ => exact Within.throw

theorem within_requiredPathsMissing {allowMissing : Bool} {paths : List String} :
    Within Harmless (requiredPathsMissing machine environ workspace allowMissing paths)
      fun missing log => Inventory workspace paths missing log ∧ (allowMissing = false → missing = []) := by
  induction paths with
  | nil => exact Within.pure ⟨⟨List.forall_mem_nil _, List.forall_mem_nil _⟩, fun _ => rfl⟩
  | cons path paths ih =>
    refine Within.bind within_requiredPath fun missing here located => ?_
    refine Within.bind ih fun others log inventory => Within.pure ⟨?_, fun strict => ?_⟩
    · have all := Inventory.cons located.1 inventory.1
      rw [Bool.not_not] at all
      rwa [List.append_nil]
    · rw [located.2 strict, inventory.2 strict]
      rfl

theorem within_workspaceContext {text expectedSha : String} :
    Within Harmless (workspaceContext machine environ text expectedSha)
      fun resolved log => AtCommit resolved expectedSha log := by
  refine Within.ask_bind (fun _ => trivial) fun answer => ?_
  cases answer with
  | path resolved =>
    refine within_askFlag_bind (fun _ => trivial) fun directory => Within.ensure_bind fun _ => ?_
    refine within_gitOutput_bind ⟨rfl, .inl rfl⟩ fun actualSha head printed => ?_
    refine Within.ensure_bind fun same => ?_
    subst same
    refine within_gitOutput_bind ⟨rfl, .inr (.inl rfl)⟩ fun rootText root printed' => ?_
    refine Within.ask_bind (fun _ => trivial) fun answer => ?_
    cases answer with
    | path gitRoot =>
      refine Within.ensure_bind fun same => ?_
      subst same
      refine within_gitOutput_bind ⟨rfl, .inr (.inr rfl)⟩ fun status clean printed'' => ?_
      refine Within.ensure_bind fun empty => Within.pure ⟨?_, ?_, ?_⟩
      · exact printed.mono fun x mem => by simp [mem]
      · exact ⟨rootText, printed'.mono fun x mem => by simp [mem], by simp⟩
      · subst empty
        exact printed''.mono fun x mem => by simp [mem]
    | _ => exact Within.throw
  | _ => exact Within.throw

end Looks

section Repairs

variable {expectedSha : String} {paths missing workspace : List String} {log more : Log} {env : Env}

theorem allEarned_nil : AllEarned expectedSha paths [] := by
  intro before x after eq
  exact absurd eq.symm (by simp)

theorem AllEarned.append (h : AllEarned expectedSha paths log) {x : Exchange Query Answer}
    (may : Harmless x ∨ Earned expectedSha paths log x.query) :
    AllEarned expectedSha paths (log ++ [x]) := by
  intro before y after eq
  obtain rfl | ⟨after, last, rfl⟩ := List.eq_nil_or_concat after
  · obtain ⟨rfl, one⟩ := List.append_inj' eq rfl
    cases List.head_eq_of_cons_eq one
    exact may
  · rw [List.concat_eq_append, ← List.cons_append, ← List.append_assoc] at eq
    exact h before y after (List.append_inj' eq rfl).1

theorem AllEarned.append_harmless (h : AllEarned expectedSha paths log)
    (harmless : ∀ x ∈ more, Harmless x) : AllEarned expectedSha paths (log ++ more) := by
  induction more generalizing log with
  | nil => rwa [List.append_nil]
  | cons x more ih =>
    rw [List.forall_mem_cons] at harmless
    rw [List.append_cons]
    exact ih (h.append (.inl harmless.1)) harmless.2

theorem allEarned_of_harmless (harmless : ∀ x ∈ log, Harmless x) : AllEarned expectedSha paths log :=
  allEarned_nil.append_harmless harmless

theorem lookup_filter_ne {key other : String} (ne : key ≠ other) (env : Env) :
    (env.filter fun entry => entry.1 ≠ other).lookup key = env.lookup key := by
  induction env with
  | nil => rfl
  | cons entry env ih =>
    obtain ⟨name, value⟩ := entry
    by_cases same : name = other
    · subst same
      rw [List.filter_cons_of_neg (by simp), ih, List.lookup_cons, beq_false_of_ne ne]
    · rw [List.filter_cons_of_pos (by simpa using same), List.lookup_cons, List.lookup_cons, ih]

theorem lookup_setVariable {key other value : String} (ne : key ≠ other) :
    (setVariable env other value).lookup key = env.lookup key := by
  rw [setVariable, List.lookup_cons, beq_false_of_ne ne]
  exact lookup_filter_ne ne env

theorem lookup_filter_eq_none {key : String} {p : String → Bool} (dropped : p key = false) (env : Env) :
    (env.filter fun entry => p entry.1).lookup key = none := by
  induction env with
  | nil => rfl
  | cons entry env ih =>
    obtain ⟨name, value⟩ := entry
    cases kept : p name with
    | false => rwa [List.filter_cons_of_neg (by simp [kept])]
    | true =>
      have ne : key ≠ name := by
        rintro rfl
        rw [kept] at dropped
        cases dropped
      rw [List.filter_cons_of_pos (by exact kept), List.lookup_cons, beq_false_of_ne ne]
      exact ih

theorem ne_append {key head rest : String} {i : Nat} {c : Char} (there : head.toList[i]? = some c)
    (differ : key.toList[i]? ≠ some c) : key ≠ head ++ rest := by
  rintro rfl
  refine differ ?_
  rw [String.toList_append, List.getElem?_append_left (List.getElem?_eq_some_iff.mp there).1]
  exact there

/-- The tokens of the step reach git in the credential only. -/
theorem lookup_ephemeralGitAuthEnv {environ : Env} {token : String}
    (made : ephemeralGitAuthEnv environ token = .ok env) :
    env.lookup "GITHUB_TOKEN" = none ∧ env.lookup "VALIDATION_GITHUB_TOKEN" = none := by
  unfold ephemeralGitAuthEnv at made
  split at made
  · cases made
  · simp only at made
    split at made
    · cases made
    next index _ =>
      split at made
      · cases made
      · cases made
        have other (key : String) (differ : key.toList[3]? ≠ some '_') :
            key ≠ "GIT_CONFIG_COUNT" ∧ key ≠ "GIT_CONFIG_KEY_" ++ toString index ∧
              key ≠ "GIT_CONFIG_VALUE_" ++ toString index :=
          ⟨fun same => differ (same ▸ rfl), ne_append rfl differ, ne_append rfl differ⟩
        have dropped (key : String) (isToken : (key ≠ "VALIDATION_GITHUB_TOKEN" &&
            key ≠ "GITHUB_TOKEN") = false) : (environ.filter fun entry =>
              entry.1 ≠ "VALIDATION_GITHUB_TOKEN" && entry.1 ≠ "GITHUB_TOKEN").lookup key = none :=
          @lookup_filter_eq_none key (fun key => key ≠ "VALIDATION_GITHUB_TOKEN" &&
            key ≠ "GITHUB_TOKEN") isToken environ
        constructor
        · obtain ⟨count, name, value⟩ := other "GITHUB_TOKEN" (by decide)
          rw [lookup_setVariable value, lookup_setVariable name, lookup_setVariable count]
          exact dropped _ (by decide)
        · obtain ⟨count, name, value⟩ := other "VALIDATION_GITHUB_TOKEN" (by decide)
          rw [lookup_setVariable value, lookup_setVariable name, lookup_setVariable count]
          exact dropped _ (by decide)

/-- Where a verification returns, it has looked at a complete checkout. -/
theorem within_verifyWorkspace {machine : Machine} {environ : Env} {text : String} :
    Within Harmless (verifyWorkspace machine environ text expectedSha paths) fun r log =>
      ∃ workspace, AtCommit workspace expectedSha log ∧ Inventory workspace paths [] log ∧
        r.workspace = rootText workspace ∧ r.actualSha = expectedSha ∧ r.requiredPaths = paths := by
  refine Within.ofExcept_bind fun _ _ => Within.bind within_workspaceContext fun resolved log commit => ?_
  refine Within.bind within_requiredPathsMissing fun missing more inventory => Within.pure ?_
  refine ⟨resolved, commit.mono (List.subset_append_left _ _), ?_, rfl, rfl, rfl⟩
  rw [inventory.2 rfl] at inventory
  rw [List.append_nil]
  exact inventory.1.mono (List.subset_append_right _ _)

/-- What a run does on top of a harmless past: its commands are earned, its result is confirmed. -/
def Repairing (expectedSha : String) (paths : List String) {ε : Type}
    (result : Except ε WorkspaceResult) (log : Log) : Prop :=
  (∀ first, (∀ x ∈ first, Harmless x) → AllEarned expectedSha paths (first ++ log)) ∧
    ∀ r, result = .ok r → EndsConfirmed expectedSha paths r log

theorem repairing_error {ε : Type} {e : ε} (harmless : ∀ x ∈ log, Harmless x) :
    Repairing expectedSha paths (.error e) log := by
  refine ⟨fun first calm => allEarned_of_harmless (List.forall_mem_append.mpr ⟨calm, harmless⟩), ?_⟩
  intro r returned
  cases returned

/-- A command with credentials before the program. -/
theorem emits_gitOutput_bind {β : Type} {machine : Machine} {arguments : List String}
    {next : String → Runner β} {whole : Except Raised β → Log → Prop} (query : Query)
    (same : query = .run (some (rootText workspace)) ("git" :: arguments) (some env))
    (fails : ∀ e answer, whole (.error e) [⟨query, answer⟩])
    (rest : ∀ completed : Completed, completed.returncode = 0 →
      Emits (next (Text.strip completed.stdout)) fun result more =>
        whole result (⟨query, .process completed⟩ :: more)) :
    Emits (gitOutput machine workspace arguments (some env) >>= next) whole := by
  subst same
  have asked : Emits (gitOutput machine workspace arguments (some env)) fun result log =>
      (∃ e answer, result = .error e ∧
        log = [⟨.run (some (rootText workspace)) ("git" :: arguments) (some env), answer⟩]) ∨
      ∃ completed : Completed, completed.returncode = 0 ∧ result = .ok (Text.strip completed.stdout) ∧
        log = [⟨.run (some (rootText workspace)) ("git" :: arguments) (some env), .process completed⟩] := by
    refine Emits.ask_bind fun answer => ?_
    cases answer with
    | process completed =>
      refine Emits.ensure_bind (fun zero => Emits.pure (.inr ⟨completed, zero, rfl, rfl⟩)) fun _ => ?_
      exact .inl ⟨_, _, rfl, rfl⟩
    | _ => exact Emits.throw (.inl ⟨_, _, rfl, rfl⟩)
  refine Emits.andThen asked ?_ ?_
  · rintro text log (⟨e, answer, returned, -⟩ | ⟨completed, zero, returned, rfl⟩)
    · cases returned
    · cases returned
      exact rest completed zero
  · rintro e log (⟨_, answer, -, rfl⟩ | ⟨completed, -, returned, -⟩)
    · exact fails e answer
    · cases returned

/-- The two commands after a look at a checkout that lacks files, and the verification after them. -/
theorem emits_repair {machine : Machine} {environ : Env} {text : String} {look : Log}
    (confirmed : Confirmed workspace expectedSha paths missing look) (lacks : missing ≠ [])
    (hidden : env.lookup "GITHUB_TOKEN" = none ∧ env.lookup "VALIDATION_GITHUB_TOKEN" = none)
    (finish : WorkspaceResult → WorkspaceResult)
    (same : ∀ r, (finish r).workspace = r.workspace ∧ (finish r).actualSha = r.actualSha ∧
      (finish r).requiredPaths = r.requiredPaths) :
    Emits (do
        let _ ← gitOutput machine workspace sparseArguments (some env)
        let _ ← gitOutput machine workspace (checkoutArguments expectedSha) (some env)
        let result ← verifyWorkspace machine environ text expectedSha paths
        pure (finish result))
      fun result more => Repairing expectedSha paths result (look ++ more) := by
  have sparse (first : Log) (calm : ∀ x ∈ first, Harmless x) (answer : Answer) :
      AllEarned expectedSha paths (first ++ (look ++ [⟨sparseQuery workspace env, answer⟩])) := by
    rw [← List.append_assoc]
    refine (allEarned_of_harmless (List.forall_mem_append.mpr ⟨calm, confirmed.harmless⟩)).append ?_
    exact .inr ⟨workspace, missing, first, look, [], env, (List.append_nil _).symm, calm, confirmed,
      lacks, hidden.1, hidden.2, .inl ⟨rfl, rfl⟩⟩
  have checkout (completed : Completed) (zero : completed.returncode = 0) (first : Log)
      (calm : ∀ x ∈ first, Harmless x) (answer : Answer) :
      AllEarned expectedSha paths (first ++ (look ++ [⟨sparseQuery workspace env, .process completed⟩,
        ⟨checkoutQuery workspace expectedSha env, answer⟩])) := by
    rw [List.append_cons look, ← List.append_assoc]
    refine (sparse first calm _).append ?_
    exact .inr ⟨workspace, missing, first, look, _, env, (List.append_assoc _ _ _).symm, calm, confirmed,
      lacks, hidden.1, hidden.2, .inr ⟨completed, zero, rfl, rfl⟩⟩
  have failed {e : Raised} {log : Log}
      (earned : ∀ first, (∀ x ∈ first, Harmless x) → AllEarned expectedSha paths (first ++ log)) :
      Repairing expectedSha paths (.error e) log := by
    refine ⟨earned, fun r returned => ?_⟩
    cases returned
  refine emits_gitOutput_bind (sparseQuery workspace env) rfl
    (fun e answer => failed fun first calm => sparse first calm answer) fun completed zero => ?_
  refine emits_gitOutput_bind (checkoutQuery workspace expectedSha env) rfl
    (fun e answer => failed fun first calm => checkout completed zero first calm answer)
    fun completed' zero' => ?_
  refine Within.emits_bind within_verifyWorkspace (fun r log calm complete => ?_) fun e log calm => ?_
  · obtain ⟨root, commit, inventory, named, sha, listed⟩ := complete
    refine Emits.pure ⟨fun first before => ?_, fun r' returned => ?_⟩
    · have all := (checkout completed zero first before (.process completed')).append_harmless calm
      simpa using all
    · cases returned
      obtain ⟨sameRoot, sameSha, samePaths⟩ := same r
      refine ⟨root, look ++ [⟨sparseQuery workspace env, .process completed⟩,
        ⟨checkoutQuery workspace expectedSha env, .process completed'⟩], log, by simp,
        ⟨commit, inventory, calm⟩, sameRoot.trans named, sameSha.trans sha, samePaths.trans listed⟩
  · refine failed fun first before => ?_
    have all := (checkout completed zero first before (.process completed')).append_harmless calm
    simpa using all

theorem emits_repairWorkspace {machine : Machine} {environ : Env} {text token : String} :
    Emits (repairWorkspace machine environ text expectedSha paths token)
      (Repairing expectedSha paths) := by
  refine Emits.ofExcept_bind (fun _ _ => ?_) fun e _ => repairing_error (List.forall_mem_nil _)
  refine Within.emits_bind within_workspaceContext (fun resolved log calm commit => ?_)
    fun e log calm => repairing_error calm
  refine Within.emits_bind within_requiredPathsMissing (fun missing more calm' inventory => ?_)
    fun e more calm' => repairing_error (List.forall_mem_append.mpr ⟨calm, calm'⟩)
  have harmless := List.forall_mem_append.mpr ⟨calm, calm'⟩
  have stopped (e : Raised) : Repairing expectedSha paths (.error e) (log ++ (more ++ [])) := by
    rw [List.append_nil]
    exact repairing_error harmless
  refine Emits.ensure_bind (fun lacks => ?_) fun _ => stopped _
  refine Emits.ensure_bind (fun _ => ?_) fun _ => stopped _
  refine Emits.ofExcept_bind (fun gitEnv made => ?_) fun e _ => stopped _
  have confirmed : Confirmed resolved expectedSha paths missing (log ++ more) :=
    ⟨commit.mono (List.subset_append_left _ _), inventory.1.mono (List.subset_append_right _ _),
      harmless⟩
  refine Emits.conseq (emits_repair confirmed lacks (lookup_ephemeralGitAuthEnv made)
    (fun r => { r with repairedPaths := some missing }) fun _ => ⟨rfl, rfl, rfl⟩) fun result last done => ?_
  rwa [List.append_assoc] at done

end Repairs

section Action

variable {α : Type} {machine : Machine} {environ : Env} {loads : String → Except String Json}
  {expectedSha json workspace : String} {spec : Except Int α → Log → Prop}

theorem emits_exiting {body : Runner α}
    (h : Emits body fun result log => spec (match result with
      | .ok a => .ok a
      | .error _ => .error 2) log) : Emits (exiting body) spec where
  run := by
    intro log
    obtain ⟨events, added, holds⟩ := h.run log
    rw [exiting]
    cases at_ : body log with
    | mk result log' =>
      rw [at_] at added holds
      cases result with
      | ok a => exact ⟨events, added, holds⟩
      | error e => exact ⟨events, added, holds⟩

/-- The paths are read first: without them nothing is asked. -/
theorem emits_main {json : String} {body : List String → Runner WorkspaceResult}
    {spec : List String → Except Raised WorkspaceResult → Log → Prop}
    (h : ∀ paths, Emits (body paths) (spec paths)) :
    Emits (ofExcept (parseArgsJson loads json) >>= body) fun result log =>
      (log = [] ∧ ∃ e, result = .error e) ∨
        ∃ paths, parseArgsJson loads json = .ok paths ∧ spec paths result log := by
  refine Emits.ofExcept_bind (fun paths parsed => ?_) fun e _ => .inl ⟨rfl, e, rfl⟩
  exact Emits.conseq (h paths) fun _ _ holds => .inr ⟨paths, parsed, holds⟩

/-- What the step does, whatever it ends with: without required paths it asks for nothing. -/
def Guarded (loads : String → Except String Json) (expectedSha json repair : String)
    (result : Except Int WorkspaceResult) (log : Log) : Prop :=
  (log = [] ∧ ∃ status, result = .error status) ∨
    ∃ paths, parseArgsJson loads json = .ok paths ∧ AllEarned expectedSha paths log ∧
      (repair ≠ "true" → ∀ x ∈ log, Harmless x) ∧
      ∀ r, result = .ok r → EndsConfirmed expectedSha paths r log

theorem emits_checkoutIntegrity {repair : String} :
    Emits (checkoutIntegrity machine environ loads workspace expectedSha json repair)
      (Guarded loads expectedSha json repair) := by
  refine Emits.ensure_bind (fun _ => ?_) fun _ => .inl ⟨rfl, 2, rfl⟩
  have checked : Emits (checkWorkspaceMain machine environ loads workspace expectedSha json)
      fun result log => (log = [] ∧ ∃ status, result = .error status) ∨
        ∃ paths, parseArgsJson loads json = .ok paths ∧ (∀ x ∈ log, Harmless x) ∧
          ∀ r, result = .ok r → EndsConfirmed expectedSha paths r log := by
    refine emits_exiting (Emits.conseq (emits_main fun _ => within_verifyWorkspace) ?_)
    rintro result log (⟨rfl, e, rfl⟩ | ⟨paths, parsed, calm, complete⟩)
    · exact .inl ⟨rfl, 2, rfl⟩
    · refine .inr ⟨paths, parsed, calm, fun r returned => ?_⟩
      cases result with
      | error e => cases returned
      | ok a =>
        cases returned
        obtain ⟨root, commit, inventory, rest⟩ := complete _ rfl
        exact ⟨root, [], log, rfl, ⟨commit, inventory, calm⟩, rest⟩
  have repaired : Emits (repairWorkspaceMain machine environ loads workspace expectedSha json)
      fun result log => (log = [] ∧ ∃ status, result = .error status) ∨
        ∃ paths, parseArgsJson loads json = .ok paths ∧ Repairing expectedSha paths result log := by
    refine emits_exiting (Emits.conseq (emits_main fun _ => emits_repairWorkspace) ?_)
    rintro result log (⟨rfl, e, rfl⟩ | ⟨paths, parsed, earned, complete⟩)
    · exact .inl ⟨rfl, 2, rfl⟩
    · refine .inr ⟨paths, parsed, earned, fun r returned => ?_⟩
      cases result with
      | error e => cases returned
      | ok a =>
        cases returned
        exact complete _ rfl
  have handled (status : Int) : Emits
      (if repair = "true" then repairWorkspaceMain machine environ loads workspace expectedSha json
        else throw status)
      fun result log => (log = [] ∧ ∃ status, result = .error status) ∨ repair = "true" ∧
        ∃ paths, parseArgsJson loads json = .ok paths ∧ Repairing expectedSha paths result log := by
    split
    next wanted => exact Emits.conseq repaired fun _ _ holds => holds.imp_right fun done => ⟨wanted, done⟩
    · exact Emits.throw (.inl ⟨rfl, status, rfl⟩)
  refine Emits.tryCatch checked handled ?_ ?_
  · rintro r log (⟨-, status, returned⟩ | ⟨paths, parsed, calm, complete⟩)
    · cases returned
    · exact .inr ⟨paths, parsed, allEarned_of_harmless calm, fun _ => calm, complete⟩
  · rintro status log result more (⟨rfl, -⟩ | ⟨paths, parsed, calm, -⟩)
      (⟨rfl, status', rfl⟩ | ⟨wanted, paths', parsed', earned, complete⟩)
    · exact .inl ⟨rfl, status', rfl⟩
    · refine .inr ⟨paths', parsed', earned [] (List.forall_mem_nil _), fun other => absurd wanted other,
        complete⟩
    · rw [List.append_nil]
      refine .inr ⟨paths, parsed, allEarned_of_harmless calm, fun _ => calm, fun r returned => ?_⟩
      cases returned
    · obtain rfl : paths' = paths := Except.ok.inj (parsed'.symm.trans parsed)
      refine .inr ⟨paths', parsed', earned log calm, fun other => absurd wanted other, ?_⟩
      intro r returned
      obtain ⟨root, first, look, rfl, rest⟩ := complete r returned
      exact ⟨root, log ++ first, look, (List.append_assoc _ _ _).symm, rest⟩

/-- Whatever the machine answers, the step asks for nothing but looks at the checkout unless it
repairs it: then a look has shown the expected commit, a clean tree and missing files, and the two
commands come in order and have the only credentials. Where the step succeeds, the last thing it did
was a look at the complete checkout, with nothing changed since. -/
theorem checkoutIntegrity_guarded (machine : Machine) (environ : Env)
    (loads : String → Except String Json) (workspace expectedSha json repair : String) :
    Guarded loads expectedSha json repair
      (checkoutIntegrity machine environ loads workspace expectedSha json repair []).1
      (checkoutIntegrity machine environ loads workspace expectedSha json repair []).2 := by
  obtain ⟨log, whole, guarded⟩ := emits_checkoutIntegrity.run []
  rw [List.nil_append] at whole
  rwa [whole]

end Action

end OptimizrActions.RepositoryValidation
