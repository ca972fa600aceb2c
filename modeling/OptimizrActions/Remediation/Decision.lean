import OptimizrActions.Remediation.WindowLaws

/-! The decision over all observations, and what an allowed window guarantees. -/

namespace OptimizrActions.Remediation

open Calendar

section

variable {host : Host}

theorem summarize_allowed {result : Evaluation} {findings : List Finding}
    (blocked : result.remediationWindowAllowed = false)
    (total : result.blockingTotal = findings.length) :
    (summarize result findings).remediationWindowAllowed = true ↔
      ∀ f ∈ findings, isCovered f = true := by
  have all : findings.length - findings.countP isCovered = 0 ↔
      ∀ f ∈ findings, isCovered f = true := by
    rw [← List.countP_eq_length]
    have := List.countP_le_length (p := isCovered) (l := findings)
    omega
  rw [← all, ← total]
  exact verdict_allowed blocked

/-- One enabled run: the time, the policy and the findings it rests on. -/
structure Evaluates (host : Host) (now : DateTime) (file : File) (observations : List Mapping)
    (evaluationTime : Option String) (evaluation : DateTime) (policy : Policy)
    (result : Evaluation) : Prop where
  time : optionalTime now evaluationTime "evaluation_time" = .ok evaluation
  load : loadPolicy host now file (some (format evaluation)) = .ok policy
  identity : ∃ sourceSha imageDigest,
    evaluateRemediationWindows host now (some file) observations true evaluationTime sourceSha
      imageDigest = .ok result

/-- A run that returns rests on some time and some loaded policy. -/
theorem exists_evaluates {now : DateTime} {file : File} {observations : List Mapping}
    {evaluationTime : Option String} {sourceSha imageDigest : String} {result : Evaluation}
    (run : evaluateRemediationWindows host now (some file) observations true evaluationTime
      sourceSha imageDigest = .ok result) :
    ∃ evaluation policy,
      Evaluates host now file observations evaluationTime evaluation policy result := by
  have unfolded := run
  simp only [evaluateRemediationWindows, Bool.not_true, Bool.false_eq_true, if_false,
    bind_eq_ok] at unfolded
  obtain ⟨_, -, _, -, evaluation, time, policy, load, -⟩ := unfolded
  exact ⟨evaluation, policy, time, load, sourceSha, imageDigest, run⟩

theorem Evaluates.allowed {now : DateTime} {file : File} {observations : List Mapping}
    {evaluationTime : Option String} {evaluation : DateTime} {policy : Policy} {result : Evaluation}
    (h : Evaluates host now file observations evaluationTime evaluation policy result) :
    result.remediationWindowAllowed = true ↔ observations ≠ [] ∧
      (∀ index < observations.length, ∃ o, CanonicalAt host observations index o) ∧
      ∀ index o, CanonicalAt host observations index o → ¬Repeated host observations index o →
        CoveredBy policy.entries evaluation o := by
  obtain ⟨sourceSha, imageDigest, run⟩ := h.identity
  simp only [evaluateRemediationWindows, Bool.not_true, Bool.false_eq_true, if_false, bind_eq_ok,
    h.time, h.load, Except.ok.injEq, exists_eq_left'] at run
  obtain ⟨source, -, digest, -, run⟩ := run
  rw [← rejected_collect_eq_nil]
  have covers : (∀ o ∈ (collect host 0 ⟨[], []⟩ observations).normalized,
      CoveredBy policy.entries evaluation o) ↔
      ∀ index o, CanonicalAt host observations index o → ¬Repeated host observations index o →
        CoveredBy policy.entries evaluation o := by
    simp only [mem_collect]
    refine ⟨fun all index o at_ fresh => all o ⟨index, at_, fresh⟩, ?_⟩
    rintro all o ⟨index, at_, fresh⟩
    exact all index o at_ fresh
  rw [← covers]
  split at run
  next zero =>
    cases run
    simp only [emptyResult, Bool.false_eq_true, false_iff, not_and]
    have empty : observations = [] := (collect_eq_nil host observations).mp (by
      simpa [emptyResult] using zero)
    exact fun ne => absurd empty ne
  next nonzero =>
    simp only [bind_eq_ok, pure_eq_ok] at run
    obtain ⟨findings, found, rfl⟩ := run
    have ne : observations ≠ [] := by
      rintro rfl
      exact nonzero rfl
    have perm := List.perm_insertionSort (fun a b => sortKey a ≤ sortKey b)
      (findings ++ (collect host 0 ⟨[], []⟩ observations).rejected)
    rw [summarize_allowed rfl (by simp [perm.length_eq, mapM_length found])]
    simp only [perm.mem_iff, List.mem_append, ne_eq, ne, not_false_eq_true, true_and]
    rw [← mapM_all found fun o f one => evaluateOne_covered one]
    constructor
    · refine fun all => ⟨List.eq_nil_iff_forall_not_mem.mpr fun f mem => ?_, fun f mem => all f (.inl mem)⟩
      obtain ⟨raw, reason, rfl⟩ := rejected_of_mem_collect mem
      have := all _ (.inr mem)
      simp [isCovered, normalizationFinding] at this
    · rintro ⟨clean, all⟩ f (mem | mem)
      · exact all f mem
      · simp [clean] at mem

/-! ### Every observation of an allowed window -/

/-- What an allowed window promises of one observation. -/
structure Acceptable (entries : List Entry) (evaluation : DateTime) (o : Observation) : Prop where
  classification : o.classification = allowedClassification
  notExploited : o.knownExploited = false
  notFixed : o.fixedImageVerified = false
  exposure : ¬(o.severity = .critical ∧ o.exposureCriticality ∈ blockedCriticalExposures)
  matched : ∃ entry ∈ entries, entry.fingerprint = o.toFingerprint ∧
    ∃ firstSeen deadline, InForce entry o.severity evaluation firstSeen deadline

def EveryAcceptable (host : Host) (entries : List Entry) (evaluation : DateTime)
    (observations : List Mapping) : Prop :=
  ∀ index < observations.length,
    ∃ o, CanonicalAt host observations index o ∧ Acceptable entries evaluation o

/-- The windows of the entries with this fingerprint fit the observation's severity. -/
def FitsLimit (entries : List Entry) (o : Observation) : Prop :=
  ∀ entry ∈ entries, entry.fingerprint = o.toFingerprint → ∀ firstSeen deadline,
    parse? entry.firstSeenAt = some firstSeen → parse? entry.deadlineAt = some deadline →
      deadline.sub firstSeen ≤ DateTime.days (maxWindowDays o.severity)

/-- A repeated observation passes the tests on itself, or else the decision is
not open: some observation does not canonicalize, or is new and not covered. -/
def RepeatsEligible (host : Host) (entries : List Entry) (evaluation : DateTime)
    (observations : List Mapping) : Prop :=
  (∀ index o, CanonicalAt host observations index o → Repeated host observations index o →
    blockReason o = none ∧ FitsLimit entries o) ∨
  ∃ index < observations.length, ∀ o, CanonicalAt host observations index o →
    ¬Repeated host observations index o ∧ ¬CoveredBy entries evaluation o

theorem blockReason_eq_none {o : Observation} :
    blockReason o = none ↔ o.classification = allowedClassification ∧ o.knownExploited = false ∧
      o.fixedImageVerified = false ∧
      ¬(o.severity = .critical ∧ o.exposureCriticality ∈ blockedCriticalExposures) := by
  unfold blockReason
  split_ifs <;> simp_all

theorem CanonicalAt.unique {raws : List Mapping} {index : Nat} {o o' : Observation}
    (h : CanonicalAt host raws index o) (h' : CanonicalAt host raws index o') : o = o' := by
  obtain ⟨raw, at_, canon⟩ := h
  obtain ⟨raw', at_', canon'⟩ := h'
  cases at_.symm.trans at_'
  cases canon.symm.trans canon'
  rfl

theorem CanonicalAt.exists_fresh {raws : List Mapping} {index : Nat} {o : Observation}
    (h : CanonicalAt host raws index o) :
    ∃ first o', CanonicalAt host raws first o' ∧ ¬Repeated host raws first o' ∧
      dedupeKey o' = dedupeKey o := by
  have key := mem_keys_collect.mpr ⟨index, o, h, rfl⟩
  obtain ⟨o', mem, same⟩ := List.mem_map.mp key
  obtain ⟨first, at_, fresh⟩ := mem_collect.mp mem
  exact ⟨first, o', at_, fresh, same⟩

theorem CoveredBy.acceptable {entries : List Entry} {evaluation : DateTime} {o : Observation}
    (h : CoveredBy entries evaluation o) : Acceptable entries evaluation o := by
  obtain ⟨block, entry, firstSeen, deadline, found, -, force⟩ := h
  obtain ⟨classification, exploited, fixed, exposure⟩ := blockReason_eq_none.mp block
  obtain ⟨mem, same⟩ := entryFor_mem found
  exact ⟨classification, exploited, fixed, exposure, entry, mem, same, firstSeen, deadline, force⟩

/-- Coverage carries over to an observation with the same fingerprint that passes
the tests on itself. -/
theorem CoveredBy.acceptable_of_same {entries : List Entry} {evaluation : DateTime}
    {o o' : Observation} (h : CoveredBy entries evaluation o')
    (same : o'.toFingerprint = o.toFingerprint) (block : blockReason o = none)
    (limit : FitsLimit entries o) : Acceptable entries evaluation o := by
  obtain ⟨-, entry, firstSeen, deadline, found, -, force⟩ := h
  obtain ⟨classification, exploited, fixed, exposure⟩ := blockReason_eq_none.mp block
  obtain ⟨mem, print⟩ := entryFor_mem found
  refine ⟨classification, exploited, fixed, exposure, entry, mem, print.trans same, firstSeen,
    deadline, force.firstSeen_read, force.deadline_read, force.seen, force.notOverdue, ?_⟩
  exact limit entry mem (print.trans same) _ _ force.firstSeen_read force.deadline_read

theorem Acceptable.fitsLimit {entries : List Entry} {evaluation : DateTime} {o : Observation}
    (nodup : (entries.map (·.fingerprint)).Nodup) (h : Acceptable entries evaluation o) :
    FitsLimit entries o := by
  intro entry mem same firstSeen deadline first last
  obtain ⟨entry', mem', same', firstSeen', deadline', force⟩ := h.matched
  have eq : entry = entry' := List.inj_on_of_nodup_map nodup mem mem' (same.trans same'.symm)
  subst eq
  cases first.symm.trans force.firstSeen_read
  cases last.symm.trans force.deadline_read
  exact force.withinLimit

theorem Evaluates.fingerprint_nodup {now : DateTime} {file : File} {observations : List Mapping}
    {evaluationTime : Option String} {evaluation : DateTime} {policy : Policy} {result : Evaluation}
    (h : Evaluates host now file observations evaluationTime evaluation policy result) :
    (policy.entries.map (·.fingerprint)).Nodup := by
  obtain ⟨_, _, _, -, -, -, read, -⟩ := loadPolicy_eq_ok h.load
  exact readEntries_fingerprint_nodup read List.nodup_nil

/-- An allowed window says of every observation what it promises exactly when no
repeated observation is ineligible by itself. -/
theorem allowed_acceptable_iff {now : DateTime} {file : File} {observations : List Mapping}
    {evaluationTime : Option String} {evaluation : DateTime} {policy : Policy} {result : Evaluation}
    (h : Evaluates host now file observations evaluationTime evaluation policy result) :
    (result.remediationWindowAllowed = true →
      EveryAcceptable host policy.entries evaluation observations) ↔
      RepeatsEligible host policy.entries evaluation observations := by
  rw [h.allowed]
  constructor
  · intro promise
    by_cases closed : ∃ index < observations.length, ∀ o, CanonicalAt host observations index o →
        ¬Repeated host observations index o ∧ ¬CoveredBy policy.entries evaluation o
    · exact .inr closed
    · push Not at closed
      refine .inl fun index o at_ _ => ?_
      have ne : observations ≠ [] := by
        rintro rfl
        exact absurd at_.lt_length (Nat.not_lt_zero _)
      have all := promise ⟨ne, fun i lt => (closed i lt).imp fun _ h => h.1, fun i o' at_' fresh => by
        obtain ⟨o'', same, covered⟩ := closed i at_'.lt_length
        cases at_'.unique same
        exact covered fresh⟩
      obtain ⟨o', at_', accept⟩ := all index at_.lt_length
      cases at_.unique at_'
      exact ⟨blockReason_eq_none.mpr ⟨accept.classification, accept.notExploited, accept.notFixed,
        accept.exposure⟩, accept.fitsLimit h.fingerprint_nodup⟩
  · rintro eligible ⟨-, canonical, covered⟩ index lt
    obtain ⟨o, at_⟩ := canonical index lt
    refine ⟨o, at_, ?_⟩
    rcases eligible with eligible | ⟨i, lt', closed⟩
    · by_cases again : Repeated host observations index o
      · obtain ⟨block, limit⟩ := eligible index o at_ again
        obtain ⟨first, o', at_', fresh, same⟩ := at_.exists_fresh
        exact (covered first o' at_' fresh).acceptable_of_same (congrArg Prod.fst same) block limit
      · exact (covered index o at_ again).acceptable
    · obtain ⟨o', at_'⟩ := canonical i lt'
      obtain ⟨fresh, uncovered⟩ := closed o' at_'
      exact absurd (covered i o' at_' fresh) uncovered

theorem sample_evaluates :
    ∃ policy result, Evaluates sampleHost sampleNow sampleFile
      [sampleObservation false, sampleObservation true] (some sampleTime) sampleNow policy result ∧
      result.remediationWindowAllowed = true := by
  have run : (sampleRun [sampleObservation false, sampleObservation true]).map
      (·.remediationWindowAllowed) = .ok true := by decide +kernel
  obtain ⟨result, run, allowed⟩ := map_eq_ok.mp run
  obtain ⟨evaluation, policy, evaluates⟩ := exists_evaluates run
  have now : optionalTime sampleNow (some sampleTime) "evaluation_time" = .ok sampleNow := by
    decide +kernel
  cases now.symm.trans evaluates.time
  exact ⟨policy, result, evaluates, allowed⟩

theorem allowed_acceptable_iff_sample :
    ∃ (policy : Policy) (result : Evaluation), result.remediationWindowAllowed = true ∧
      ((result.remediationWindowAllowed = true →
        EveryAcceptable sampleHost policy.entries sampleNow
          [sampleObservation false, sampleObservation true]) ↔
        RepeatsEligible sampleHost policy.entries sampleNow
          [sampleObservation false, sampleObservation true]) := by
  obtain ⟨policy, result, run, allowed⟩ := sample_evaluates
  exact ⟨policy, result, allowed, allowed_acceptable_iff run⟩

/-- A known-exploited observation rides on an earlier one with the same key. -/
theorem exploited_repeat_allowed :
    ¬∀ (host : Host) (now : DateTime) (file : File) (observations : List Mapping)
      (evaluationTime : Option String) (evaluation : DateTime) (policy : Policy)
      (result : Evaluation), evaluation.microsecond = 0 →
      Evaluates host now file observations evaluationTime evaluation policy result →
      result.remediationWindowAllowed = true →
      EveryAcceptable host policy.entries evaluation observations := by
  intro claim
  obtain ⟨policy, result, run, allowed⟩ := sample_evaluates
  obtain ⟨o, ⟨raw, at_, canon⟩, accept⟩ := claim _ _ _ _ _ _ _ _ rfl run allowed 1 (by decide)
  cases at_
  have exploited := canonicalObservation_knownExploited canon
  rw [accept.notExploited] at exploited
  cases exploited

/-! ### The lifecycle bounds every coverage -/

/-- No observation is covered later than its severity's limit after the first
sighting that the raw entry records, whatever its history. -/
theorem covered_within_limit {now : DateTime} {file : File} {referenceTime : Option String}
    {policy : Policy} {evaluation : DateTime} {o : Observation} {f : Finding}
    (load : loadPolicy host now file referenceTime = .ok policy)
    (one : evaluateOne host policy.entries evaluation o = .ok f) (covered : isCovered f = true) :
    ∃ entry ∈ policy.entries, entry.fingerprint = o.toFingerprint ∧
      ∃ raw label reference firstSeen deadline lifecycle,
        LoadedFrom raw label reference firstSeen deadline lifecycle entry ∧
        evaluation.sub firstSeen ≤ DateTime.days (maxWindowDays o.severity) := by
  obtain ⟨-, entry, firstSeen, deadline, found, -, force⟩ := (evaluateOne_covered one).mp covered
  obtain ⟨mem, same⟩ := entryFor_mem found
  obtain ⟨_, _, reference, -, -, -, read, -⟩ := loadPolicy_eq_ok load
  rcases readEntries_loaded read mem with old | ⟨raw, label, first, last, lifecycle, -, loaded⟩
  · cases old
  · refine ⟨entry, mem, same, raw, label, reference, first, last, lifecycle, loaded, ?_⟩
    cases loaded.parse_firstSeenAt.symm.trans force.firstSeen_read
    exact force.evaluation_le

end

end OptimizrActions.Remediation
