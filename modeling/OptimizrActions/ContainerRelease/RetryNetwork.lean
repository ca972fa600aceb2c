import OptimizrActions.Lib.Attempts
import OptimizrActions.Lib.Check
import OptimizrActions.Lib.Pattern

/-! One registry or network command, run again after transient failures. -/

namespace OptimizrActions.ContainerRelease.RetryNetwork

open Pattern

def minAttempts : Int := 1
def maxAttempts : Int := 5
def maxBackoffSeconds : Int := 30
def maxSleepSeconds : Nat := 60

section

/- Which characters outside ASCII are word characters. -/
variable (unicodeWord : Char → Bool)

/-- `\b` -/
def wordBoundary : Pattern :=
  .boundary fun c => c.isAlphanum || c = '_' || (0x80 ≤ c.toNat && unicodeWord c)

/-- `\b…\b` -/
def bounded (body : Pattern) : Pattern :=
  .inOrder [wordBoundary unicodeWord, body, wordBoundary unicodeWord]

/-- `PERMANENT_PATTERNS` -/
def permanentPatterns : List Pattern :=
  [bounded unicodeWord (.word "unauthorized"), .word "authentication required",
    .word "incorrect username or password", bounded unicodeWord (.word "denied"),
    bounded unicodeWord (.anyOf [.word "401", .word "403"]),
    bounded unicodeWord (.word "forbidden"), .word "manifest unknown", .word "name unknown",
    .word "no such manifest", bounded unicodeWord (.word "not found"),
    .word "invalid reference format", .word "repository name must be lowercase"]

/-- `\d` -/
def digit : Pattern := .char fun c => (Text.decimal? c).isSome

/-- `TRANSIENT_PATTERNS` -/
def transientPatterns : List Pattern :=
  [.word "no route to host", .word "network is unreachable", .word "could not resolve host",
    .word "temporary failure in name resolution", .word "no such host", .word "server misbehaving",
    .word "i/o timeout", .word "tls handshake timeout", .word "context deadline exceeded",
    .inOrder [.anyOf [.word "operation", .word "connection"], .word " timed out"],
    .word "timeout exceeded while awaiting headers", .word "connection reset by peer",
    .word "connection refused", .word "broken pipe", .word "unexpected eof",
    .word "request canceled",
    bounded unicodeWord (.anyOf [.word "502 bad gateway", .word "503 service unavailable",
      .word "504 gateway timeout"]),
    .inOrder [.word "unexpected ", .optional (.word "http "), .word "status",
      .optional (.word " code"), .optional (.word ":"), .word " ",
      .alt (.word "429") (.inOrder [.word "5", digit, digit])],
    .alt (.word "toomanyrequests") (.word "too many requests")]

inductive Failure where
  | permanent | transient | unclassified
  deriving DecidableEq, Repr

def classify (output : String) : Failure :=
  if (permanentPatterns unicodeWord).any (·.search output) then .permanent
  else if (transientPatterns unicodeWord).any (·.search output) then .transient
  else .unclassified

/-- The delay after this attempt, counted from one. -/
def backoffDelay (baseSeconds attempt : Nat) : Nat :=
  min (baseSeconds * 2 ^ (attempt - 1)) maxSleepSeconds

def validateBounds (attempts backoffSeconds : Int) : Except String Unit := do
  require (minAttempts ≤ attempts ∧ attempts ≤ maxAttempts)
    s!"retry attempts must be an integer between {minAttempts} and {maxAttempts}"
  require (0 ≤ backoffSeconds ∧ backoffSeconds ≤ maxBackoffSeconds)
    s!"retry backoff seconds must be an integer between 0 and {maxBackoffSeconds}"

/-- What one call of the runner does. -/
inductive Outcome where
  | completed (returncode : Int) (stdout stderr : Option String)
  | osError (error : String)
  /-- another exception, which is not caught -/
  | raised (error : String)

inductive Classification where
  | success | recovered | retryDisabled | transientExhausted | permanent | unclassified
  deriving DecidableEq, Repr

def Classification.text : Classification → String
  | .success => "success"
  | .recovered => "recovered"
  | .retryDisabled => "retry_disabled"
  | .transientExhausted => "transient_exhausted"
  | .permanent => "permanent"
  | .unclassified => "unclassified"

def Failure.final : Failure → Classification
  | .transient => .transientExhausted
  | .permanent => .permanent
  | .unclassified => .unclassified

structure RetryResult where
  returncode : Int
  attempts : Nat
  classification : Classification
  stdout : String
  deriving DecidableEq, Repr

/-- What the wrapper does to the world: a run of the command, or a sleep. -/
inductive Event where
  | run
  | sleep (seconds : Nat)
  deriving DecidableEq, Repr

/-- A run as the loop reads it. -/
structure Completed where
  returncode : Int
  stdout : String
  stderr : String

def readOutcome (label : String) : Outcome → Except String Completed
  | .completed returncode stdout stderr => .ok ⟨returncode, stdout.getD "", stderr.getD ""⟩
  | .osError error => .ok ⟨127, "", label ++ ": " ++ error⟩
  | .raised error => .error error

/-- The variables that the loop leaves behind. -/
structure Progress where
  attempt : Nat
  returncode : Int
  classification : Failure

def Progress.result (s : Progress) : RetryResult :=
  ⟨s.returncode, s.attempt, s.classification.final, ""⟩

def Completed.failure (run : Completed) : Failure :=
  classify unicodeWord (run.stdout ++ "\n" ++ run.stderr)

/-- The loop for the rest of the range; `outcomes` lists what the runner's calls do. -/
def attemptLoop (label : String) (attempts backoffSeconds : Nat) (outcomes : Nat → Outcome) :
    Nat → Nat → Progress → List Event × Except String RetryResult
  | 0, _, s => ([], .ok s.result)
  | left + 1, call, s =>
    let attempt := s.attempt + 1
    match readOutcome label (outcomes call) with
    | .error error => ([.run], .error error)
    | .ok run =>
      if run.returncode = 0 then
        ([.run], .ok ⟨0, attempt, if attempt = 1 then .success else .recovered, run.stdout⟩)
      else
        let s : Progress :=
          ⟨attempt, if 0 < run.returncode then run.returncode else 1, run.failure unicodeWord⟩
        if s.classification ≠ .transient then ([.run], .ok s.result)
        else
          let (events, result) :=
            attemptLoop label attempts backoffSeconds outcomes left (call + 1) s
          let pause := if attempt < attempts then [.sleep (backoffDelay backoffSeconds attempt)] else []
          (.run :: pause ++ events, result)

/-- The checks before anything is run. -/
def checkArguments (command : List String) (attempts backoffSeconds priorFailedAttempts : Int) :
    Except String Unit := do
  validateBounds attempts backoffSeconds
  require (command ≠ []) "a command is required after --"
  require (0 ≤ priorFailedAttempts ∧ priorFailedAttempts < maxAttempts)
    s!"prior failed attempts must be an integer between 0 and {maxAttempts - 1}"

def runWithRetry (label : String) (command : List String)
    (attempts backoffSeconds priorFailedAttempts : Int) (outcomes : Nat → Outcome) :
    List Event × Except String RetryResult :=
  match checkArguments command attempts backoffSeconds priorFailedAttempts with
  | .error message => ([], .error message)
  | .ok () =>
    let prior := priorFailedAttempts.toNat
    if attempts ≤ priorFailedAttempts then ([], .ok ⟨1, prior, .retryDisabled, ""⟩)
    else
      let (events, result) := attemptLoop unicodeWord label attempts.toNat backoffSeconds.toNat
        outcomes (attempts.toNat - prior) 0 ⟨prior, 1, .unclassified⟩
      let pause := if prior = 0 then [] else [.sleep (backoffDelay backoffSeconds.toNat prior)]
      (pause ++ events, result)

end

/-! ### How the loop runs -/

section

variable {unicodeWord : Char → Bool} {label : String}

/-- The outcome is a failure that carries a transient marker and no permanent one. -/
def Transient (unicodeWord : Char → Bool) (label : String) (outcome : Outcome) : Prop :=
  ∃ run, readOutcome label outcome = .ok run ∧ run.returncode ≠ 0 ∧
    (∀ p ∈ permanentPatterns unicodeWord, p.search (run.stdout ++ "\n" ++ run.stderr) = false) ∧
    ∃ p ∈ transientPatterns unicodeWord, p.search (run.stdout ++ "\n" ++ run.stderr) = true

def Succeeds (label : String) (outcome : Outcome) : Prop :=
  ∃ run, readOutcome label outcome = .ok run ∧ run.returncode = 0

theorem classify_eq_transient {output : String} :
    classify unicodeWord output = .transient ↔
      (∀ p ∈ permanentPatterns unicodeWord, p.search output = false) ∧
        ∃ p ∈ transientPatterns unicodeWord, p.search output = true := by
  unfold classify
  by_cases permanent : (permanentPatterns unicodeWord).any (·.search output) = true
  · rw [if_pos permanent]
    obtain ⟨p, mem, found⟩ := List.any_eq_true.mp permanent
    exact ⟨nofun, fun h => by simp [h.1 p mem] at found⟩
  · rw [if_neg permanent]
    have clear : ∀ p ∈ permanentPatterns unicodeWord, p.search output = false := by
      simpa using permanent
    by_cases transient : (transientPatterns unicodeWord).any (·.search output) = true
    · rw [if_pos transient]
      exact ⟨fun _ => ⟨clear, List.any_eq_true.mp transient⟩, fun _ => rfl⟩
    · rw [if_neg transient]
      exact ⟨nofun, fun h => absurd (List.any_eq_true.mpr h.2) transient⟩

/-- A failed run that the loop repeats. -/
def AsksAgain (unicodeWord : Char → Bool) (label : String) (outcome : Outcome) : Prop :=
  match readOutcome label outcome with
  | .ok run => run.returncode ≠ 0 ∧ run.failure unicodeWord = .transient
  | .error _ => False

instance : DecidablePred (AsksAgain unicodeWord label) := fun outcome => by
  unfold AsksAgain
  cases readOutcome label outcome with
  | ok run => exact inferInstanceAs (Decidable (_ ∧ _))
  | error e => exact .isFalse id

theorem asksAgain_iff {outcome : Outcome} :
    AsksAgain unicodeWord label outcome ↔ Transient unicodeWord label outcome := by
  unfold AsksAgain Transient
  cases readOutcome label outcome with
  | ok run => simp [Completed.failure, classify_eq_transient]
  | error e => simp

/-- What the wrapper makes of its last run. -/
def conclude (unicodeWord : Char → Bool) (label : String) (attempt : Nat) (outcome : Outcome) :
    Except String RetryResult :=
  match readOutcome label outcome with
  | .error error => .error error
  | .ok run =>
    if run.returncode = 0 then
      .ok ⟨0, attempt, if attempt = 1 then .success else .recovered, run.stdout⟩
    else
      .ok (Progress.result ⟨attempt, if 0 < run.returncode then run.returncode else 1,
        run.failure unicodeWord⟩)

/-- Runs from this attempt on, each but the last with its backoff after it. -/
def paced (backoffSeconds : Nat) : Nat → Nat → List Event
  | _, 0 => []
  | _, 1 => [.run]
  | attempt, runs + 2 =>
    .run :: .sleep (backoffDelay backoffSeconds attempt) :: paced backoffSeconds (attempt + 1) (runs + 1)

theorem count_paced (backoffSeconds attempt runs : Nat) :
    (paced backoffSeconds attempt runs).count .run = runs := by
  induction attempt, runs using paced.induct with
  | case1 => rfl
  | case2 => rfl
  | case3 attempt runs ih => simpa [paced] using ih

/-- The loop makes the attempts that its outcomes ask for, and concludes from the last. -/
theorem attemptLoop_eq {attempts backoffSeconds : Nat} {outcomes : Nat → Outcome} {left call : Nat}
    {s : Progress} (range : s.attempt + left = attempts) :
    attemptLoop unicodeWord label attempts backoffSeconds outcomes left call s =
      let runs := Attempts.made (AsksAgain unicodeWord label) outcomes left call
      (paced backoffSeconds (s.attempt + 1) runs,
        if runs = 0 then .ok s.result
        else conclude unicodeWord label (s.attempt + runs) (outcomes (call + runs - 1))) := by
  induction left generalizing call s with
  | zero => rfl
  | succ left ih =>
    rw [attemptLoop, Attempts.made]
    cases read : readOutcome label (outcomes call) with
    | error error =>
      have last : ¬AsksAgain unicodeWord label (outcomes call) := by simp [AsksAgain, read]
      simp [last, paced, conclude, read]
    | ok run =>
      by_cases success : run.returncode = 0
      · have last : ¬AsksAgain unicodeWord label (outcomes call) := by simp [AsksAgain, read, success]
        simp [last, paced, conclude, read, success]
      by_cases transient : run.failure unicodeWord = .transient
      · have more : AsksAgain unicodeWord label (outcomes call) := by
          simp [AsksAgain, read, success, transient]
        simp only [success, if_false, transient, ne_eq, not_true_eq_false, if_pos more]
        rw [ih (by simp only; omega)]
        cases made : Attempts.made (AsksAgain unicodeWord label) outcomes left (call + 1) with
        | zero =>
          have spent : left = 0 := by
            have := Attempts.made_pos (AsksAgain unicodeWord label) outcomes left (call + 1)
            omega
          simp [paced, conclude, read, success, transient, show ¬s.attempt + 1 < attempts by omega]
        | succ runs =>
          have budget : s.attempt + 1 < attempts := by
            have := Attempts.made_le (AsksAgain unicodeWord label) outcomes left (call + 1)
            omega
          simp only [if_pos budget, Nat.add_one_ne_zero, if_false, paced]
          rw [show s.attempt + 1 + (runs + 1) = s.attempt + (runs + 1 + 1) by omega,
            show call + 1 + (runs + 1) - 1 = call + (runs + 1 + 1) - 1 by omega]
          rfl
      · have last : ¬AsksAgain unicodeWord label (outcomes call) := by
          simp [AsksAgain, read, transient]
        simp [last, paced, conclude, read, success, transient]

theorem conclude_returncode {attempt : Nat} {outcome : Outcome} {r : RetryResult}
    (h : conclude unicodeWord label attempt outcome = .ok r) :
    (r.returncode = 0 → ∃ run, readOutcome label outcome = .ok run ∧ run.returncode = 0 ∧
      r.stdout = run.stdout) ∧
    (r.returncode ≠ 0 → ¬Succeeds label outcome ∧ r.stdout = "") := by
  unfold conclude at h
  split at h
  next => cases h
  next run read =>
    split at h
    next success =>
      cases h
      exact ⟨fun _ => ⟨run, read, success, rfl⟩, fun ne => absurd rfl ne⟩
    next failed =>
      cases h
      have code : (if 0 < run.returncode then run.returncode else 1) ≠ 0 := by
        split <;> omega
      refine ⟨fun zero => absurd zero code, fun _ => ⟨?_, rfl⟩⟩
      rintro ⟨run', read', success⟩
      cases read.symm.trans read'
      exact failed success

end

/-! ### The law of the wrapper -/

/-- What the wrapper did in `runs` runs and what it returned. -/
structure Governed (unicodeWord : Char → Bool) (label : String) (command : List String)
    (attempts backoffSeconds priorFailedAttempts : Int) (outcomes : Nat → Outcome)
    (events : List Event) (result : Except String RetryResult) (runs : Nat) : Prop where
  counted : events.count .run = runs
  bounded : (runs : Int) ≤ max 0 (attempts - priorFailedAttempts)
  begins : 0 < runs ↔
    checkArguments command attempts backoffSeconds priorFailedAttempts = .ok () ∧
      priorFailedAttempts < attempts
  continues : ∀ k < runs, (k + 1 < runs ↔
    Transient unicodeWord label (outcomes k) ∧ priorFailedAttempts + (k + 1) < attempts)
  succeeds : (∃ r, result = .ok r ∧ r.returncode = 0) ↔
    0 < runs ∧ Succeeds label (outcomes (runs - 1))
  forwards : ∀ r, result = .ok r → r.returncode = 0 →
    ∃ run, readOutcome label (outcomes (runs - 1)) = .ok run ∧ r.stdout = run.stdout
  withholds : ∀ r, result = .ok r → r.returncode ≠ 0 → r.stdout = ""
  sleeps : events = if runs = 0 then [] else
    (if priorFailedAttempts = 0 then []
      else [.sleep (backoffDelay backoffSeconds.toNat priorFailedAttempts.toNat)]) ++
    paced backoffSeconds.toNat (priorFailedAttempts.toNat + 1) runs

/-- A call that runs nothing. -/
theorem governed_zero {unicodeWord : Char → Bool} {label : String} {command : List String}
    {attempts backoffSeconds priorFailedAttempts : Int} {outcomes : Nat → Outcome}
    {result : Except String RetryResult}
    (never : ¬(checkArguments command attempts backoffSeconds priorFailedAttempts = .ok () ∧
      priorFailedAttempts < attempts))
    (failed : ∀ r, result = .ok r → r.returncode ≠ 0 ∧ r.stdout = "") :
    Governed unicodeWord label command attempts backoffSeconds priorFailedAttempts outcomes [] result
      0 where
  counted := rfl
  bounded := le_max_left _ _
  begins := ⟨nofun, fun h => absurd h never⟩
  continues := nofun
  succeeds := ⟨fun ⟨r, eq, zero⟩ => absurd zero (failed r eq).1, nofun⟩
  forwards r eq zero := absurd zero (failed r eq).1
  withholds r eq _ := (failed r eq).2
  sleeps := rfl

end OptimizrActions.ContainerRelease.RetryNetwork
