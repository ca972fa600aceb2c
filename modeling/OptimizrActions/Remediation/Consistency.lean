import OptimizrActions.Remediation.Output

/-! Every evaluation is consistent: its counters partition its findings, its
decision is read off the counters, and its texts are single lines. -/

namespace OptimizrActions.Remediation

open Calendar KeyValue

structure Consistent (r : Evaluation) : Prop where
  total : r.blockingTotal = r.findings.length
  partition : r.blockingTotal = r.windowCovered + r.rejectedCount + r.overdueCount +
    r.unmatchedCount + r.reintroducedCount
  uncovered : r.uncoveredBlockingFindings = r.blockingTotal - r.windowCovered
  matching_le : r.matchingEntryCount ≤ r.blockingTotal
  version : r.evaluatorVersion = evaluatorVersion
  allowed_iff : r.remediationWindowAllowed = true ↔ r.decision = .allowedWindow
  decision_iff : r.decision = .allowedWindow ↔ 0 < r.blockingTotal ∧
    r.windowCovered = r.blockingTotal
  matching : r.decision = .allowedWindow → 0 < r.matchingEntryCount
  classified : r.decision = .allowedWindow → r.classification = allowedClassification
  noFailure : r.decision = .allowedWindow → r.failureReason = ""
  policy : r.decision = .allowedWindow →
    Text.hexText Text.isLowerHex 64 r.policyDigest.toList = true
  oneLine : ∀ text ∈ [r.classification, r.nearestDeadline, r.policyDigest, r.failureReason,
    r.sourceSha, r.imageDigest], OneLine text

theorem githubOutput_isKey (result : Evaluation) : ∀ field ∈ githubOutput result, IsKey field.1 := by
  have keys : ∀ key ∈ (githubOutput result).map (·.1), IsKey key := by
    simp only [githubOutput, List.map_cons, List.map_nil]
    decide +kernel
  exact fun field mem => keys field.1 (List.mem_map_of_mem mem)

theorem Consistent.githubOutput_oneLine {result : Evaluation} (h : Consistent result) :
    ∀ field ∈ githubOutput result, OneLine field.2 := by
  have lines := h.oneLine
  simp only [List.forall_mem_cons, List.not_mem_nil, false_implies, implies_true, and_true] at lines
  obtain ⟨classification, deadline, policy, failure, source, image⟩ := lines
  have allowed : OneLine (if result.remediationWindowAllowed then "true" else "false") := by
    split <;> decide
  have state : OneLine result.remediationState.text := by
    cases result.remediationState <;> decide
  have decision : OneLine result.decision.text := by
    cases result.decision <;> decide
  have version : OneLine result.evaluatorVersion := by
    rw [h.version]
    decide
  simp [githubOutput, oneLine_repr, classification, deadline, policy, failure, source, image,
    allowed, state, decision, version]

/-- The result before anything is counted. -/
def header (sourceSha imageDigest policyDigest : String) (blockingTotal : Nat) : Evaluation :=
  { emptyResult with sourceSha, imageDigest, policyDigest, blockingTotal }

theorem header_consistent {sourceSha imageDigest policyDigest : String}
    (source : OneLine sourceSha) (image : OneLine imageDigest) (policy : OneLine policyDigest) :
    Consistent (header sourceSha imageDigest policyDigest 0) := by
  constructor
  case oneLine =>
    have empty : OneLine "" := by decide
    simp [header, emptyResult, source, image, policy, empty]
  all_goals simp [header, emptyResult]

theorem length_eq_counts (findings : List Finding) :
    findings.length = findings.countP isCovered + countState .rejected findings +
      countState .overdue findings + countState .unmatched findings +
      countState .reintroduced findings := by
  induction findings with
  | nil => rfl
  | cons f rest ih =>
    simp only [List.length_cons, countState, List.countP_cons, isCovered] at ih ⊢
    obtain ⟨_, _, _, _, state, _⟩ := f
    cases state <;> simp <;> omega

/-- What the summary needs of its findings. -/
structure Backed (f : Finding) : Prop where
  identified : isCovered f = true → f.policyEntryId ≠ ""
  deadline : OneLine f.deadlineAt

theorem nearestDeadline_mem (findings : List Finding) :
    nearestDeadline findings = "" ∨ ∃ f ∈ findings, nearestDeadline findings = f.deadlineAt := by
  have least : ∀ (texts : List String) (first : String),
      texts.foldl (fun least text => if text < least then text else least) first ∈
        first :: texts := by
    intro texts
    induction texts with
    | nil => intro first; exact List.mem_cons_self
    | cons text rest ih =>
      intro first
      rw [List.foldl_cons]
      split
      · exact List.mem_cons_of_mem _ (ih text)
      · cases List.mem_cons.mp (ih first) with
        | inl here =>
          rw [here]
          exact List.mem_cons_self
        | inr later => exact List.mem_cons_of_mem _ (List.mem_cons_of_mem _ later)
  unfold nearestDeadline
  split
  next => exact .inl rfl
  next first rest dated =>
    have mem := least rest first
    rw [← dated] at mem
    obtain ⟨f, mem, eq⟩ := List.mem_map.mp (List.mem_of_mem_filter mem)
    exact .inr ⟨f, mem, eq.symm⟩

theorem oneLine_nearestDeadline {findings : List Finding} (backed : ∀ f ∈ findings, Backed f) :
    OneLine (nearestDeadline findings) := by
  cases nearestDeadline_mem findings with
  | inl empty =>
    rw [empty]
    decide
  | inr dated =>
    obtain ⟨f, mem, eq⟩ := dated
    rw [eq]
    exact (backed f mem).deadline

theorem verdict_decision (r : Evaluation) :
    (verdict r).decision = .allowedWindow ↔ r.uncoveredBlockingFindings = 0 := by
  unfold verdict
  split_ifs <;> simp [*]

theorem verdict_failureReason {r : Evaluation} (clean : r.failureReason = "") :
    OneLine (verdict r).failureReason ∧
      ((verdict r).decision = .allowedWindow → (verdict r).failureReason = "") := by
  unfold verdict
  split_ifs <;> simp [clean] <;> decide

theorem summarize_consistent {sourceSha imageDigest policyDigest : String}
    {findings : List Finding} (source : OneLine sourceSha) (image : OneLine imageDigest)
    (policy : Text.hexText Text.isLowerHex 64 policyDigest.toList = true)
    (some_ : findings ≠ []) (backed : ∀ f ∈ findings, Backed f) :
    Consistent (summarize (header sourceSha imageDigest policyDigest findings.length) findings) := by
  have positive := List.length_pos_iff.mpr some_
  have le := List.countP_le_length (p := isCovered) (l := findings)
  -- With no uncovered finding the first one is covered, so it names its entry.
  have matched : findings.countP isCovered = findings.length →
      0 < findings.countP (fun f : Finding => f.policyEntryId ≠ "") := by
    intro all
    rw [List.countP_eq_length] at all
    obtain ⟨f, mem⟩ := List.exists_mem_of_ne_nil findings some_
    exact List.countP_pos_iff.mpr ⟨f, mem, by simpa using (backed f mem).identified (all f mem)⟩
  have decision := verdict_decision
    (counted (header sourceSha imageDigest policyDigest findings.length) findings)
  have failure := verdict_failureReason
    (r := counted (header sourceSha imageDigest policyDigest findings.length) findings) rfl
  have complete : findings.length - findings.countP isCovered = 0 ↔
      0 < findings.length ∧ findings.countP isCovered = findings.length := by omega
  have open_ := decision.trans complete
  constructor
  case total => rfl
  case partition => exact length_eq_counts findings
  case uncovered => rfl
  case matching_le => exact List.countP_le_length
  case version => rfl
  case allowed_iff => exact (verdict_allowed rfl).trans decision.symm
  case decision_iff => exact open_
  case matching => exact fun allowed => matched (open_.mp allowed).2
  case classified => exact fun _ => rfl
  case noFailure => exact failure.2
  case policy => exact fun _ => policy
  case oneLine =>
    have digest := oneLine_hexText policy (by decide) (by decide)
    have classification : OneLine allowedClassification := by decide
    simp only [List.forall_mem_cons, List.not_mem_nil, false_implies, implies_true, and_true]
    exact ⟨classification, oneLine_nearestDeadline backed, digest, failure.1, source, image⟩

section

variable {host : Host}

theorem loaded_entry {now : DateTime} {file : File} {referenceTime : Option String}
    {policy : Policy} (load : loadPolicy host now file referenceTime = .ok policy) {entry : Entry}
    (mem : entry ∈ policy.entries) : entry.id ≠ "" ∧ OneLine entry.deadlineAt := by
  obtain ⟨_, _, _, -, -, -, read, -⟩ := loadPolicy_eq_ok load
  cases readEntries_loaded read mem with
  | inl old => cases old
  | inr new =>
    obtain ⟨_, _, _, _, lifecycle, -, loaded⟩ := new
    obtain ⟨t, text⟩ := normalizeLifecycle_deadline loaded.lifecycle_read
    refine ⟨loaded.id_ne_empty, ?_⟩
    rw [loaded.deadlineAt, text]
    exact oneLine_format t

theorem evaluateEntry_entry {o : Observation} {entry : Entry} {evaluation : DateTime}
    {f : Finding} (h : evaluateEntry host o entry evaluation = .ok f) :
    f.policyEntryId = entry.id ∧ f.deadlineAt = entry.deadlineAt := by
  unfold evaluateEntry at h
  split at h
  · cases h
    exact ⟨rfl, rfl⟩
  · simp only [bind_eq_ok] at h
    obtain ⟨_, -, _, -, h⟩ := h
    split_ifs at h <;> cases h <;> exact ⟨rfl, rfl⟩

theorem evaluateOne_backed {entries : List Entry} {evaluation : DateTime} {o : Observation}
    {f : Finding} (loaded : ∀ entry ∈ entries, entry.id ≠ "" ∧ OneLine entry.deadlineAt)
    (one : evaluateOne host entries evaluation o = .ok f) : Backed f := by
  have empty : OneLine "" := by decide
  unfold evaluateOne at one
  split at one
  next =>
    cases one
    exact ⟨nofun, empty⟩
  next =>
    split at one
    next =>
      cases one
      exact ⟨nofun, empty⟩
    next entry found =>
      obtain ⟨id, deadline⟩ := evaluateEntry_entry one
      have fields := loaded entry (entryFor_mem found).1
      rw [← id, ← deadline] at fields
      exact ⟨fun _ => fields.1, fields.2⟩

theorem normalizedIdentity_oneLine {text message result : String} {accepts : String → Bool}
    (h : normalizedIdentity text message accepts = .ok result)
    (line : ∀ s, accepts s = true → OneLine s) : OneLine result := by
  unfold normalizedIdentity at h
  split at h
  · cases h
    decide
  · simp only [bind_eq_ok, require_eq_ok, exists_const, pure_eq_ok] at h
    obtain ⟨accepted, rfl⟩ := h
    exact line _ accepted

theorem evaluation_consistent {now : DateTime} {policyFile : Option File}
    {observations : List Mapping} {enabled : Bool} {evaluationTime : Option String}
    {sourceSha imageDigest : String} {result : Evaluation}
    (run : evaluateRemediationWindows host now policyFile observations enabled evaluationTime
      sourceSha imageDigest = .ok result) : Consistent result := by
  unfold evaluateRemediationWindows at run
  split at run
  next =>
    cases run
    exact header_consistent (by decide) (by decide) (by decide)
  next =>
  cases policyFile with
  | none => cases run
  | some file =>
    simp only [bind_eq_ok] at run
    obtain ⟨source, sourceRead, image, imageRead, evaluation, -, policy, load, run⟩ := run
    have sourceLine : OneLine source :=
      normalizedIdentity_oneLine sourceRead fun s hex => oneLine_hexText hex (by decide) (by decide)
    have imageLine : OneLine image :=
      normalizedIdentity_oneLine imageRead fun s digest => oneLine_sha256Text digest
    have digest : Text.hexText Text.isLowerHex 64 policy.policyDigest.toList = true := by
      obtain ⟨_, _, _, -, -, -, -, eq⟩ := loadPolicy_eq_ok load
      rw [eq]
      exact Text.hexText_hexdigest _
    have digestLine := oneLine_hexText digest (by decide) (by decide)
    split at run
    next zero =>
      cases run
      have total : (collect host 0 ⟨[], []⟩ observations).normalized.length +
          (collect host 0 ⟨[], []⟩ observations).rejected.length = 0 := zero
      rw [total]
      exact header_consistent sourceLine imageLine digestLine
    next nonzero =>
      simp only [bind_eq_ok, pure_eq_ok] at run
      obtain ⟨findings, found, rfl⟩ := run
      have perm := List.perm_insertionSort (fun a b => sortKey a ≤ sortKey b)
        (findings ++ (collect host 0 ⟨[], []⟩ observations).rejected)
      have backed : ∀ f ∈ findings, Backed f :=
        (mapM_all (q := fun _ => True) found fun o f one =>
          iff_true_intro (evaluateOne_backed (fun _ mem => loaded_entry load mem) one)).mpr
          fun _ _ => trivial
      have total : (collect host 0 ⟨[], []⟩ observations).normalized.length +
          (collect host 0 ⟨[], []⟩ observations).rejected.length =
          ((findings ++ (collect host 0 ⟨[], []⟩ observations).rejected).insertionSort
            fun a b => sortKey a ≤ sortKey b).length := by
        rw [perm.length_eq, List.length_append, mapM_length found]
      rw [total] at nonzero ⊢
      apply summarize_consistent sourceLine imageLine digest
      · exact List.ne_nil_of_length_pos (Nat.pos_of_ne_zero nonzero)
      · intro f mem
        cases List.mem_append.mp (perm.mem_iff.mp mem) with
        | inl evaluated => exact backed f evaluated
        | inr rejected =>
          obtain ⟨raw, reason, rfl⟩ := rejected_of_mem_collect rejected
          have empty : OneLine "" := by decide
          exact ⟨by rintro ⟨⟩, empty⟩

end

end OptimizrActions.Remediation
