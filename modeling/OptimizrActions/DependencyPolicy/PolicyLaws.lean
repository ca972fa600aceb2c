import OptimizrActions.DependencyPolicy.Policy
import OptimizrActions.Lib.Gather

/-! Every finding blocks or is suppressed, and only an exception suppresses. -/

namespace OptimizrActions.DependencyPolicy

open Exceptions (Date)

variable {fromisoformat : String → Option Date} {today : Date} {str : Json → String}

section Specification

variable (str : Json → String) (policy : Policy)

def resultFindings : Json → Except String (List Finding)
  | .obj result => do
    let target := text str (Mapping.getD result "Target" (.str "unknown"))
    let vulnerabilities ← iterate (Mapping.get result "Vulnerabilities")
    let licenses ← iterate (Mapping.get result "Licenses")
    return vulnerabilities.filterMap (vulnerabilityFinding str policy target) ++
      licenses.filterMap (licenseFinding str policy target)
  | _ => .ok []

/-- The vulnerabilities of a blocking severity and the denied licences, in the order of the report. -/
def findings (report : Mapping) : Except String (List Finding) := do
  let results ← iterate (report.get "Results")
  return (← results.mapM (resultFindings str policy)).flatten

/-- The exception is for the finding. -/
def Covers (entry : PolicyException) (finding : Finding) : Prop :=
  entry.kind = finding.kind ∧ entry.id = finding.id ∧
    (entry.package = finding.package ∨ entry.package = "*")

def Suppressed (finding : Finding) : Prop := ∃ entry ∈ policy.exceptions, Covers entry finding

theorem excepted_iff (finding : Finding) :
    excepted policy finding.kind finding.id finding.package = true ↔ Suppressed policy finding := by
  simp [excepted, Suppressed, Covers, and_assoc]

instance (finding : Finding) : Decidable (Suppressed policy finding) :=
  decidable_of_iff _ (excepted_iff policy finding)

/-- The entries of the policy file that `load_policy` makes exceptions of. -/
def rawExceptions (file : Mapping) : List Json :=
  match file.getD "exceptions" (.arr []) with
  | .arr entries => entries
  | _ => []

structure Accounted (items : List Finding) (evaluation : Evaluation) : Prop where
  blocking : evaluation.blocking = items.filter fun finding => ¬Suppressed policy finding
  suppressed : evaluation.suppressed = items.filter fun finding => Suppressed policy finding
  passed : evaluation.passed = true ↔ evaluation.blocking = []

/-- One more exception, somewhere in the list. -/
def Policy.Extends (policy' : Policy) : Prop :=
  policy'.blockSeverities = policy.blockSeverities ∧
    policy'.deniedLicenses = policy.deniedLicenses ∧
    ∃ before entry after, policy.exceptions = before ++ after ∧
      policy'.exceptions = before ++ entry :: after

end Specification

section Split

variable {policy : Policy}

def split (policy : Policy) (items : List Finding) : Placed :=
  (items.filter fun finding => ¬Suppressed policy finding,
    items.filter fun finding => Suppressed policy finding)

theorem place_split (items : List Finding) (finding : Finding) :
    place policy (split policy items) finding = split policy (items ++ [finding]) := by
  unfold place split
  by_cases covered : Suppressed policy finding
  · rw [if_pos ((excepted_iff policy finding).mpr covered)]
    simp [List.filter_append, covered]
  · rw [if_neg fun e => covered ((excepted_iff policy finding).mp e)]
    simp [List.filter_append, covered]

theorem placeAll_split (read : Json → Option Finding) (items : List Finding) (values : List Json) :
    placeAll policy read (split policy items) values =
      split policy (items ++ values.filterMap read) := by
  induction values generalizing items with
  | nil => simp [placeAll]
  | cons value rest ih =>
    rw [placeAll, List.foldl_cons, List.filterMap_cons]
    cases read value with
    | none => exact ih items
    | some finding =>
      rw [List.append_cons, ← ih (items ++ [finding]), ← place_split]
      rfl

theorem evaluateResult_split (items : List Finding) (result : Json) :
    evaluateResult str policy (split policy items) result =
      (resultFindings str policy result).map fun more => split policy (items ++ more) := by
  cases result with
  | obj result =>
    simp only [evaluateResult, resultFindings]
    cases iterate (Mapping.get result "Vulnerabilities") with
    | error e => rfl
    | ok vulnerabilities =>
      cases iterate (Mapping.get result "Licenses") with
      | error e => rfl
      | ok licenses =>
        simp only [Bind.bind, Except.bind, Pure.pure, Except.pure, Except.map, placeAll_split,
          List.append_assoc]
  | _ =>
    simp only [evaluateResult, resultFindings, Except.map, List.append_nil]

theorem foldlM_evaluateResult (items : List Finding) (results : List Json) :
    results.foldlM (evaluateResult str policy) (split policy items) =
      (results.mapM (resultFindings str policy)).map fun more =>
        split policy (items ++ more.flatten) := by
  induction results generalizing items with
  | nil => simp [Except.map, Pure.pure, Except.pure]
  | cons result rest ih =>
    rw [List.foldlM_cons, List.mapM_cons, evaluateResult_split]
    cases resultFindings str policy result with
    | error e => rfl
    | ok found =>
      simp only [Except.map, Bind.bind, Except.bind, ih]
      cases rest.mapM (resultFindings str policy) with
      | error e => rfl
      | ok more => simp [Pure.pure, Except.pure]

theorem evaluateReport_eq (report : Mapping) :
    evaluateReport str policy report = (findings str policy report).map fun items =>
      ⟨(split policy items).1, (split policy items).2, (split policy items).1.isEmpty⟩ := by
  unfold evaluateReport findings
  cases iterate (report.get "Results") with
  | error e => rfl
  | ok results =>
    have loop := @foldlM_evaluateResult str policy [] results
    simp only [Bind.bind, Except.bind]
    rw [show (([], []) : Placed) = split policy [] from rfl, loop]
    cases results.mapM (resultFindings str policy) with
    | error e => rfl
    | ok more => rfl

end Split

section Load

/-- An exception that is loaded has not expired. -/
theorem not_expired_of_loadException {entry : Json} {exception : PolicyException}
    (loaded : loadException fromisoformat today entry = .ok exception) :
    ∃ expiry, fromisoformat exception.expires = some expiry ∧ ¬expiry < today := by
  cases entry with
  | obj entry =>
    simp only [loadException, bind_eq_ok, require_eq_ok, exists_const] at loaded
    obtain ⟨-, kind, -, id, -, package, -, owner, -, statement, -, expires, -, last⟩ := loaded
    cases read : fromisoformat expires with
    | none => simp [read] at last
    | some expiry =>
      simp only [read, bind_eq_ok, require_eq_ok, pure_eq_ok] at last
      obtain ⟨-, fresh, rfl⟩ := last
      exact ⟨expiry, read, fresh⟩
  | _ => cases loaded

theorem loadPolicy_exceptions {file : Mapping} {policy : Policy}
    (loaded : loadPolicy fromisoformat today file = .ok policy) :
    (rawExceptions file).mapM (loadException fromisoformat today) = .ok policy.exceptions := by
  simp only [loadPolicy, bind_eq_ok] at loaded
  obtain ⟨-, -, severities, -, licenses, -, last⟩ := loaded
  unfold rawExceptions
  cases at_ : file.getD "exceptions" (.arr []) with
  | arr entries =>
    simp only [at_, bind_eq_ok, pure_eq_ok] at last
    obtain ⟨exceptions, read, rfl⟩ := last
    exact read
  | _ =>
    rw [at_] at last
    cases last

theorem exists_entry_of_mem {file : Mapping} {policy : Policy} {exception : PolicyException}
    (loaded : loadPolicy fromisoformat today file = .ok policy)
    (mem : exception ∈ policy.exceptions) :
    ∃ entry ∈ rawExceptions file, loadException fromisoformat today entry = .ok exception := by
  have read := mapM_eq_ok_iff.mp (loadPolicy_exceptions loaded)
  generalize rawExceptions file = entries at read ⊢
  generalize policy.exceptions = exceptions at read mem
  induction read with
  | nil => cases mem
  | cons one _ ih =>
    obtain rfl | later := List.mem_cons.mp mem
    · exact ⟨_, List.mem_cons_self, one⟩
    · obtain ⟨entry, inside, made⟩ := ih later
      exact ⟨entry, List.mem_cons_of_mem _ inside, made⟩

end Load

section Monotone

variable {policy policy' : Policy}

theorem Policy.Extends.suppressed (more : policy.Extends policy') {finding : Finding}
    (h : Suppressed policy finding) : Suppressed policy' finding := by
  obtain ⟨-, -, before, entry, after, old, new⟩ := more
  obtain ⟨cover, mem, covers⟩ := h
  refine ⟨cover, ?_, covers⟩
  rw [old] at mem
  rw [new]
  exact List.mem_append.mpr ((List.mem_append.mp mem).imp_right (List.mem_cons_of_mem entry))

/-- An exception more takes findings out of the blocking ones and puts them under the suppressed. -/
theorem split_extends (more : policy.Extends policy') (items : List Finding) :
    (split policy' items).1.Sublist (split policy items).1 ∧
      (split policy items).2.Sublist (split policy' items).2 := by
  constructor
  · refine List.monotone_filter_right items fun finding open_ => ?_
    rw [decide_eq_true_iff] at open_ ⊢
    exact fun h => open_ (more.suppressed h)
  · refine List.monotone_filter_right items fun finding covered => ?_
    rw [decide_eq_true_iff] at covered ⊢
    exact more.suppressed covered

theorem split_perm (policy : Policy) (items : List Finding) :
    ((split policy items).1 ++ (split policy items).2).Perm items := by
  have parts := List.filter_append_perm (fun finding => ¬Suppressed policy finding) items
  simpa [split] using parts

theorem findings_extends (more : policy.Extends policy') (report : Mapping) :
    findings str policy' report = findings str policy report := by
  have vulnerability : vulnerabilityFinding str policy' = vulnerabilityFinding str policy := by
    funext target value
    cases value <;> simp only [vulnerabilityFinding, more.1]
  have license : licenseFinding str policy' = licenseFinding str policy := by
    funext target value
    cases value <;> simp only [licenseFinding, more.2.1]
  have result : resultFindings str policy' = resultFindings str policy := by
    funext value
    cases value <;> simp only [resultFindings, vulnerability, license]
  rw [findings, findings, result]

end Monotone

/-- Every finding is in exactly one of the two lists, in the order of the report; what suppresses it
is an exception that was loaded and has not expired; and one more exception only moves findings from
the blocking ones to the suppressed. -/
theorem evaluateReport_accounted {file report : Mapping} {policy : Policy} {evaluation : Evaluation}
    (loaded : loadPolicy fromisoformat today file = .ok policy)
    (evaluated : evaluateReport str policy report = .ok evaluation) :
    (∃ items, findings str policy report = .ok items ∧ Accounted policy items evaluation) ∧
      (∀ finding ∈ evaluation.suppressed, ∃ entry ∈ rawExceptions file, ∃ exception expiry,
        loadException fromisoformat today entry = .ok exception ∧ Covers exception finding ∧
          fromisoformat exception.expires = some expiry ∧ ¬expiry < today) ∧
      ∀ policy', policy.Extends policy' → ∃ evaluation',
        evaluateReport str policy' report = .ok evaluation' ∧
          evaluation'.blocking.Sublist evaluation.blocking ∧
          evaluation.suppressed.Sublist evaluation'.suppressed ∧
          (evaluation'.blocking ++ evaluation'.suppressed).Perm
            (evaluation.blocking ++ evaluation.suppressed) := by
  rw [evaluateReport_eq, map_eq_ok] at evaluated
  obtain ⟨items, found, rfl⟩ := evaluated
  refine ⟨⟨items, found, ⟨rfl, rfl, List.isEmpty_iff⟩⟩, ?_, ?_⟩
  · intro finding mem
    have suppressed := of_decide_eq_true (List.mem_filter.mp mem).2
    obtain ⟨exception, listed, covers⟩ := suppressed
    obtain ⟨entry, inside, made⟩ := exists_entry_of_mem loaded listed
    obtain ⟨expiry, read, fresh⟩ := not_expired_of_loadException made
    exact ⟨entry, inside, exception, expiry, made, covers, read, fresh⟩
  · intro policy' more
    obtain ⟨fewer, moved⟩ := split_extends more items
    have again : evaluateReport str policy' report = .ok ⟨(split policy' items).1,
        (split policy' items).2, (split policy' items).1.isEmpty⟩ := by
      rw [evaluateReport_eq, findings_extends more, found]
      rfl
    exact ⟨_, again, fewer, moved,
      (split_perm policy' items).trans (split_perm policy items).symm⟩

section Sample

def sampleDay : Date := ⟨2026, 1, 2, by decide⟩

def samplePolicy : Mapping :=
  [("version", .int 1), ("denied_licenses", .arr [.str "AGPL-3.0"]),
    ("exceptions", .arr [.obj [("kind", .str "vulnerability"), ("id", .str "CVE-1"),
      ("package", .str "*"), ("owner", .str "platform"), ("statement", .str "not reachable"),
      ("expires", .str "2026-02-01")]])]

def sampleReport : Mapping :=
  [("Results", .arr [.obj [("Target", .str "uv.lock"),
    ("Vulnerabilities", .arr [
      .obj [("VulnerabilityID", .str "CVE-1"), ("PkgName", .str "a"), ("Severity", .str "HIGH")],
      .obj [("VulnerabilityID", .str "CVE-2"), ("PkgName", .str "b"), ("Severity", .str "LOW")]]),
    ("Licenses", .arr [.obj [("Name", .str "AGPL-3.0"), ("PkgName", .str "c")]])]])]

/-- Dates in the one form that the sample uses. -/
def sampleDates (text : String) : Option Date :=
  if text = "2026-02-01" then some ⟨2026, 2, 1, by decide⟩ else none

def loadedPolicy : Policy :=
  ⟨["HIGH", "CRITICAL"], ["AGPL-3.0"],
    [⟨.vulnerability, "CVE-1", "*", "platform", "not reachable", "2026-02-01"⟩]⟩

def sampleEvaluation : Evaluation :=
  ⟨[⟨.license, "AGPL-3.0", "c", "POLICY", "uv.lock"⟩],
    [⟨.vulnerability, "CVE-1", "a", "HIGH", "uv.lock"⟩], false⟩

theorem samplePolicy_loaded : loadPolicy sampleDates sampleDay samplePolicy = .ok loadedPolicy := rfl

theorem sampleReport_evaluated :
    evaluateReport (fun _ => "") loadedPolicy sampleReport = .ok sampleEvaluation := rfl

theorem evaluateReport_accounted_sample :
    ∃ items, findings (fun _ => "") loadedPolicy sampleReport = .ok items ∧
      Accounted loadedPolicy items sampleEvaluation :=
  (evaluateReport_accounted samplePolicy_loaded sampleReport_evaluated).1

end Sample

end OptimizrActions.DependencyPolicy
