import OptimizrActions.Lib.Host

/-! The image publisher's reading of the gate: which outputs let an image through. -/

namespace OptimizrActions.Publisher

/-- A value of the fields mapping. -/
inductive Value where
  | none
  | flag (b : Bool)
  | text (s : String)
  deriving DecidableEq, Repr

abbrev Fields := List (String × Value)

def Fields.get (fields : Fields) (key : String) : Value :=
  ((fields.find? (·.1 = key)).map (·.2)).getD .none

def Value.truthy : Value → Bool
  | .none => false
  | .flag b => b
  | .text s => s ≠ ""

def classifications : List String :=
  ["clean", "actionable_vulnerability", "unfixed_warning", "misconfiguration_detected",
    "secret_detected", "scanner_error"]

def outcomes : List String := ["success", "failure", "cancelled", "skipped"]

def passingClassifications : List String := ["clean", "unfixed_warning"]

def isGitSha (s : String) : Bool := Text.hexText Text.isLowerHex 40 s.toList

def isImageDigest (s : String) : Bool := Text.sha256Text Text.isLowerHex s

def isHexDigest (s : String) : Bool := Text.hexText Text.isLowerHex 64 s.toList

/-- `[1-9][0-9]{0,limit}` -/
def isCounter (limit : Nat) : List Char → Bool
  | [] => false
  | c :: cs => '1' ≤ c && c ≤ '9' && cs.length ≤ limit && cs.all Char.isDigit

def isEvaluatorVersion (s : String) : Bool := isCounter 5 s.toList

def boolean : Value → Option Bool
  | .flag b => some b
  | .text "true" => some true
  | .text "false" => some false
  | _ => Option.none

def count : Value → Option Nat
  | .text s =>
    if s.toList = ['0'] || isCounter 9 s.toList then some (Nat.ofDigitChars 10 s.toList 0)
    else Option.none
  | _ => Option.none

def isText (accepts : String → Bool) : Value → Bool
  | .text s => accepts s
  | _ => false

/-- `text.rsplit("@", 1)[-1]` -/
def afterLastAt (s : String) : String :=
  String.ofList (s.toList.reverse.takeWhile (· ≠ '@')).reverse

/-- The reference ends in `@` and the digest. -/
def isBound (digest : Value) (imageRef : String) : Bool :=
  '@' ∈ imageRef.toList && Value.text (afterLastAt imageRef) = digest

def isPlain (imageRef : String) : Bool :=
  !imageRef.toList.any fun c => Text.isSpace c || c.toNat < 32

/-- The counter cross-check. -/
def countsCover (fields : Fields) : Bool :=
  let blocking := count (fields.get "blocking_total")
  let matching := count (fields.get "window_count")
  !(blocking = Option.none || blocking = some 0 || matching = Option.none || matching = some 0 ||
    count (fields.get "covered") ≠ blocking || count (fields.get "uncovered") ≠ some 0 ||
    count (fields.get "rejected") ≠ some 0 || count (fields.get "overdue") ≠ some 0 ||
    count (fields.get "unmatched") ≠ some 0 || count (fields.get "reintroduced") ≠ some 0)

/-- The tests of an image that was pushed. -/
def immutableIdentity (fields : Fields) : Bool :=
  isText isImageDigest (fields.get "image_digest") &&
    isText (isBound (fields.get "image_digest")) (fields.get "scanned_image_ref") &&
    isText isGitSha (fields.get "source_sha")

def securityGateAcceptable (fields : Fields) : Bool :=
  let outcome := fields.get "outcome"
  let result := fields.get "result"
  let classification := fields.get "classification"
  if outcome ∉ outcomes.map .text ∨ classification ∉ classifications.map .text then false
  else if boolean (fields.get "push") = some true ∧ immutableIdentity fields = false then false
  else if outcome = .text "success" then
    result = .text "passed" ∧ classification ∈ passingClassifications.map .text
  else if outcome ≠ .text "failure" ∨ result ≠ .text "failed" then false
  else if boolean (fields.get "window_enabled") ≠ some true then false
  else if classification ≠ .text "actionable_vulnerability" then false
  else if fields.get "window_allowed" ≠ .text "true" then false
  else if fields.get "window_decision" ≠ .text "allowed_window" then false
  else if fields.get "window_classification" ≠ .text "actionable_vulnerability" then false
  else if (fields.get "failure_reason").truthy ∨ (fields.get "window_failure_reason").truthy then
    false
  else if countsCover fields = false then false
  else if isText isImageDigest (fields.get "image_digest") = false then false
  else if isText (fun ref => isBound (fields.get "image_digest") ref && isPlain ref)
      (fields.get "scanned_image_ref") = false then false
  else if isText isGitSha (fields.get "source_sha") = false then false
  else if isText isHexDigest (fields.get "policy_digest") = false then false
  else isText isEvaluatorVersion (fields.get "evaluator_version")

/-- The fields and the environment variables they come from. -/
def environmentNames : List (String × String) :=
  [("outcome", "SECURITY_OUTCOME"),
    ("result", "SECURITY_RESULT"),
    ("classification", "SECURITY_CLASSIFICATION"),
    ("window_enabled", "SECURITY_WINDOW_ENABLED"),
    ("push", "SECURITY_PUSH"),
    ("window_allowed", "SECURITY_WINDOW_ALLOWED"),
    ("window_decision", "SECURITY_WINDOW_DECISION"),
    ("window_classification", "SECURITY_WINDOW_CLASSIFICATION"),
    ("window_count", "SECURITY_WINDOW_COUNT"),
    ("blocking_total", "SECURITY_WINDOW_BLOCKING_TOTAL"),
    ("covered", "SECURITY_WINDOW_COVERED"),
    ("uncovered", "SECURITY_WINDOW_UNCOVERED"),
    ("rejected", "SECURITY_WINDOW_REJECTED"),
    ("overdue", "SECURITY_WINDOW_OVERDUE"),
    ("unmatched", "SECURITY_WINDOW_UNMATCHED"),
    ("reintroduced", "SECURITY_WINDOW_REINTRODUCED"),
    ("policy_digest", "SECURITY_WINDOW_POLICY_DIGEST"),
    ("evaluator_version", "SECURITY_WINDOW_EVALUATOR_VERSION"),
    ("failure_reason", "SECURITY_FAILURE_REASON"),
    ("window_failure_reason", "SECURITY_WINDOW_FAILURE_REASON")]

/-- An unset variable reads as the empty text. -/
def outputsFromEnvironment (environ : String → Option String) : Fields :=
  environmentNames.map fun (key, name) => (key, .text ((environ name).getD ""))

/-! ### Counters as text -/

theorem head_toDigits {n : Nat} (h : 0 < n) : ∃ c cs, Nat.toDigits 10 n = c :: cs ∧ c ≠ '0' := by
  induction n using Nat.strong_induction_on with
  | _ n ih =>
    rw [Nat.toDigits_eq_if (by decide)]
    split
    next small =>
      refine ⟨n.digitChar, [], rfl, ?_⟩
      intro zero
      have digits : ∀ m < 10, m.digitChar = '0' → m = 0 := by decide
      exact h.ne' (digits n small zero)
    next large =>
      obtain ⟨c, cs, eq, ne⟩ := ih (n / 10) (by omega) (by omega)
      exact ⟨c, cs ++ [(n % 10).digitChar], by simp [eq], ne⟩

theorem isCounter_toDigits {n : Nat} (limit : Nat) (positive : 0 < n) (bound : n < 10 ^ (limit + 1)) :
    isCounter limit (Nat.toDigits 10 n) = true := by
  have length := (Nat.length_toDigits_le_iff (by decide) (Nat.succ_pos limit)).mpr bound
  have digits : ∀ c ∈ Nat.toDigits 10 n, c.isDigit = true := fun c mem =>
    Nat.isDigit_of_mem_toDigits (by decide) (by decide) mem
  obtain ⟨c, cs, eq, ne⟩ := head_toDigits positive
  rw [eq] at length digits ⊢
  have first := digits c List.mem_cons_self
  have rest : cs.all Char.isDigit = true :=
    List.all_eq_true.mpr fun d mem => digits d (List.mem_cons_of_mem _ mem)
  have range : '1' ≤ c ∧ c ≤ '9' := by
    have value : c.val.toNat ≠ 48 := fun same => ne (Char.toNat_inj.mp same)
    simp only [Char.isDigit, Bool.and_eq_true, decide_eq_true_eq, ge_iff_le,
      UInt32.le_iff_toNat_le] at first
    have low : 48 ≤ c.val.toNat := first.1
    have above : 49 ≤ c.val.toNat := by omega
    exact ⟨above, first.2⟩
  simp only [isCounter, range, rest, decide_true, Bool.and_true, Bool.true_and, decide_eq_true_eq]
  simpa using length

/-- A counter below the limit is read back from its text. -/
theorem count_repr {n : Nat} (bound : n < 10 ^ 10) : count (.text n.repr) = some n := by
  rw [count, Nat.toList_repr]
  cases n.eq_zero_or_pos with
  | inl zero =>
    subst zero
    decide
  | inr positive =>
    rw [isCounter_toDigits 9 positive bound, Bool.or_true, if_pos rfl,
      Nat.ofDigitChars_ten_toDigits]

end OptimizrActions.Publisher
