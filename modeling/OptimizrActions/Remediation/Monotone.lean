import OptimizrActions.Lib.Gather
import OptimizrActions.Lib.Persistent
import OptimizrActions.Remediation.Decision

/-! Remediation windows over increasing time: an accepted policy stays the same
policy, and an allowed decision was allowed before. -/

namespace OptimizrActions.Remediation

open Calendar

/-! ### The loader looks at the time only to refuse what lies in the future -/

theorem checkRevision_persistent (firstSeen : DateTime) (s : Tracked) (r : Revision) :
    Persistent fun reference => checkRevision firstSeen reference s r :=
  .bind (.const _) fun _ => .bind (.const _) fun _ => .bind (.notAfter _ _) fun _ =>
    .bind (.const _) fun _ => .const _

theorem historyLoop_persistent (firstSeen : DateTime) (index : Nat) (s : Tracked)
    (raw : List Json) : Persistent fun reference => historyLoop firstSeen reference index s raw := by
  induction raw generalizing index s with
  | nil => exact .const _
  | cons revision rest ih =>
    exact .bind (.const _) fun r => .bind (checkRevision_persistent firstSeen s r) fun s => ih _ s

theorem normalizeLifecycle_persistent (entry : Mapping) (firstSeen originalDeadline : DateTime) :
    Persistent fun reference => normalizeLifecycle entry firstSeen originalDeadline reference := by
  refine .bind (.const _) fun status => .bind (.const _) fun initial => .bind (.notAfter _ _) fun _ => ?_
  cases entry.get "history" with
  | arr raw =>
    cases raw with
    | nil => exact .const _
    | cons revision rest => exact .bind (historyLoop_persistent _ _ _ _) fun _ => .const _
  | _ => exact .const _

section

variable (host : Host)

theorem readEntry_persistent (index : Nat) (accepted : List Entry) (raw : Json) :
    Persistent fun reference => readEntry host reference index accepted raw := by
  cases raw with
  | obj raw =>
    refine .bind (.const _) fun id => .bind (.const _) fun _ => .bind (.const _) fun fingerprint =>
      .bind (.const _) fun _ => .bind (.const _) fun firstSeen => .bind (.const _) fun deadline =>
      .bind (.const _) fun reviewedAt => .bind (.notAfter _ _) fun _ =>
      .bind (.notAfter _ _) fun _ => .bind (.const _) fun _ =>
      .bind (normalizeLifecycle_persistent raw firstSeen deadline) fun lifecycle => .const _
  | _ => exact .const _

theorem readEntries_persistent (index : Nat) (accepted : List Entry) (raws : List Json) :
    Persistent fun reference => readEntries host reference index accepted raws := by
  induction raws generalizing index accepted with
  | nil => exact .const _
  | cons raw rest ih =>
    exact .bind (readEntry_persistent host index accepted raw) fun entry => ih _ _

/-- The loader at the time of an evaluation, which it reads back from its text. -/
theorem loadPolicy_format (now : DateTime) (file : File) (evaluation : DateTime) :
    loadPolicy host now file (some (format evaluation)) =
      loadPolicy host evaluation.truncate file none := by
  have filled : format evaluation ≠ "" := fun empty => by
    have chars := congrArg String.toList empty
    simp [format] at chars
  have given : optionalTime now (some (format evaluation)) "reference_time" =
      .ok evaluation.truncate := by
    rw [optionalTime, if_neg filled]
    exact parseUtc_eq_ok.mpr (parse?_format evaluation)
  rw [loadPolicy, loadPolicy, given]
  rfl

theorem loadPolicy_persistent (file : File) :
    Persistent fun reference => loadPolicy host reference file none := by
  refine .bind (.const _) fun payload => .bind (.const _) fun _ => .bind (.const _) fun owner => ?_
  cases payload.get "entries" with
  | arr raws =>
    cases raws with
    | nil => exact .const _
    | cons raw rest =>
      exact .congr (.bind (readEntries_persistent host 0 [] (raw :: rest)) fun entries =>
        .const (pure ⟨owner, entries, host.sha256Hex file.bytes⟩)) fun _ => rfl
  | _ => exact .const _

/-- A document accepted at two times is one policy. -/
theorem loadPolicy_unique {now₁ now₂ : DateTime} {file : File} {t₁ t₂ : DateTime}
    {policy₁ policy₂ : Policy} (h₁ : loadPolicy host now₁ file (some (format t₁)) = .ok policy₁)
    (h₂ : loadPolicy host now₂ file (some (format t₂)) = .ok policy₂) : policy₁ = policy₂ :=
  (loadPolicy_persistent host file).unique ((loadPolicy_format host now₁ file t₁).symm.trans h₁)
    ((loadPolicy_format host now₂ file t₂).symm.trans h₂)

theorem firstSeen_le_of_loadPolicy {now : DateTime} {file : File} {t : DateTime} {policy : Policy}
    (load : loadPolicy host now file (some (format t)) = .ok policy) {entry : Entry}
    (mem : entry ∈ policy.entries) {firstSeen : DateTime}
    (read : parse? entry.firstSeenAt = some firstSeen) : firstSeen ≤ t := by
  rw [loadPolicy_format] at load
  obtain ⟨_, _, reference, -, -, time, entries, -⟩ := loadPolicy_eq_ok load
  cases time
  rcases readEntries_loaded entries mem with old | ⟨_, _, _, _, _, -, loaded⟩
  · cases old
  · cases loaded.parse_firstSeenAt.symm.trans read
    exact loaded.firstSeen_le.trans t.truncate_le

end

/-! ### The state of one observation -/

/-- The state of a window that has begun. -/
def phase (deadline t : DateTime) : FindingState :=
  if deadline < t then .overdue else if deadline.sub t ≤ dueSoon then .dueSoon else .active

def onTrack : List FindingState := [.active, .dueSoon, .overdue]

/-- Forward along `active`, `dueSoon`, `overdue`, or not at all. -/
def FindingState.Advances (s t : FindingState) : Prop :=
  s ∈ onTrack ∧ t ∈ onTrack ∧ onTrack.idxOf s ≤ onTrack.idxOf t

instance (s t : FindingState) : Decidable (s.Advances t) := inferInstanceAs (Decidable (_ ∧ _))

theorem phase_advances (deadline : DateTime) {t u : DateTime} (le : t ≤ u) :
    (phase deadline t).Advances (phase deadline u) := by
  have less : deadline.sub u ≤ deadline.sub t := by
    have := DateTime.le_def.mp le
    simp only [DateTime.sub]
    omega
  unfold phase
  by_cases late : deadline < t
  · rw [if_pos late, if_pos (late.trans_le le)]
    decide
  · rw [if_neg late]
    by_cases near : deadline.sub t ≤ dueSoon
    · rw [if_pos near, if_pos (less.trans near)]
      split <;> decide
    · rw [if_neg near]
      split_ifs <;> decide

/-- The observation has an entry in force, and its window has begun. -/
structure Begun (entries : List Entry) (t : DateTime) (o : Observation) (entry : Entry)
    (firstSeen deadline : DateTime) : Prop where
  eligible : blockReason o = none
  found : entryFor entries o.toFingerprint = some entry
  active : entry.status = .active
  firstSeen_read : parse? entry.firstSeenAt = some firstSeen
  deadline_read : parse? entry.deadlineAt = some deadline
  withinLimit : deadline.sub firstSeen ≤ DateTime.days (maxWindowDays o.severity)
  begun : deadline < t ∨ firstSeen ≤ t

section

variable {host : Host} {entries : List Entry} {t : DateTime} {o : Observation}

theorem Begun.later {entry : Entry} {firstSeen deadline u : DateTime}
    (h : Begun entries t o entry firstSeen deadline) (le : t ≤ u) :
    Begun entries u o entry firstSeen deadline :=
  { h with begun := h.begun.imp (·.trans_le le) (·.trans le) }

variable (host) in
theorem Begun.evaluateOne {entry : Entry} {firstSeen deadline : DateTime}
    (h : Begun entries t o entry firstSeen deadline) :
    ∃ f, evaluateOne host entries t o = .ok f ∧ f.state = phase deadline t := by
  have first : parseUtc entry.firstSeenAt "policy.first_seen_at" = .ok firstSeen :=
    parseUtc_eq_ok.mpr h.firstSeen_read
  have last : parseUtc entry.deadlineAt "policy.deadline_at" = .ok deadline :=
    parseUtc_eq_ok.mpr h.deadline_read
  have seen (late : ¬deadline < t) : ¬t < firstSeen := not_lt.mpr (h.begun.resolve_left late)
  have run : ∃ f, evaluateEntry host o entry t = .ok f ∧ f.state = phase deadline t := by
    rw [evaluateEntry, if_neg (not_not.mpr h.active), first, ok_bind, last, ok_bind,
      if_neg (not_lt.mpr h.withinLimit), phase]
    by_cases late : deadline < t
    · rw [if_pos late, if_pos late]
      exact ⟨_, rfl, rfl⟩
    · rw [if_neg late, if_neg late, if_neg (seen late)]
      split
      · exact ⟨_, rfl, rfl⟩
      · exact ⟨_, rfl, rfl⟩
  obtain ⟨f, ok, state⟩ := run
  refine ⟨f, ?_, state⟩
  rw [Remediation.evaluateOne]
  simp only [h.eligible, h.found, ok]

theorem begun_of_onTrack {f : Finding} (one : evaluateOne host entries t o = .ok f)
    (track : f.state ∈ onTrack) :
    ∃ entry firstSeen deadline, Begun entries t o entry firstSeen deadline := by
  unfold Remediation.evaluateOne at one
  split at one
  next =>
    cases one
    simp [findingResult, onTrack] at track
  next eligible =>
    split at one
    next =>
      cases one
      simp [findingResult, onTrack] at track
    next entry found =>
      unfold evaluateEntry at one
      split at one
      next =>
        cases one
        simp [findingResult, onTrack] at track
      next active =>
        simp only [bind_eq_ok, parseUtc_eq_ok] at one
        obtain ⟨firstSeen, first, deadline, last, one⟩ := one
        have begun : deadline.sub firstSeen ≤ DateTime.days (maxWindowDays o.severity) ∧
            (deadline < t ∨ firstSeen ≤ t) := by
          split_ifs at one with limit overdue future
          · cases one
            simp [findingResult, onTrack] at track
          · exact ⟨not_lt.mp limit, .inl overdue⟩
          · cases one
            simp [findingResult, onTrack] at track
          all_goals exact ⟨not_lt.mp limit, .inr (not_lt.mp future)⟩
        exact ⟨entry, firstSeen, deadline, eligible, found, not_not.mp active, first, last,
          begun.1, begun.2⟩

theorem CoveredBy.begun (h : CoveredBy entries t o) :
    ∃ entry firstSeen deadline, Begun entries t o entry firstSeen deadline := by
  obtain ⟨eligible, entry, firstSeen, deadline, found, active, force⟩ := h
  exact ⟨entry, firstSeen, deadline, eligible, found, active, force.firstSeen_read,
    force.deadline_read, force.withinLimit, .inr force.seen⟩

theorem CoveredBy.earlier {u : DateTime} (h : CoveredBy entries u o) (le : t ≤ u)
    (seen : ∀ entry ∈ entries, ∀ firstSeen, parse? entry.firstSeenAt = some firstSeen →
      firstSeen ≤ t) : CoveredBy entries t o := by
  obtain ⟨eligible, entry, firstSeen, deadline, found, active, force⟩ := h
  exact ⟨eligible, entry, firstSeen, deadline, found, active,
    { force with
      seen := seen entry (entryFor_mem found).1 firstSeen force.firstSeen_read
      notOverdue := le.trans force.notOverdue }⟩

end

/-! ### The decision -/

/-- Another run on the same observations returns when its time and document are
accepted and every observation can be evaluated. -/
theorem exists_evaluation {host : Host} {now₁ now₂ t₁ : DateTime} {file : File}
    {observations : List Mapping} {time₁ time₂ : Option String} {sourceSha imageDigest : String}
    {policy : Policy} {result₂ : Evaluation}
    (run : evaluateRemediationWindows host now₂ (some file) observations true time₂ sourceSha
      imageDigest = .ok result₂)
    (time : optionalTime now₁ time₁ "evaluation_time" = .ok t₁)
    (load : loadPolicy host now₁ file (some (format t₁)) = .ok policy)
    (each : ∀ o ∈ (collect host 0 ⟨[], []⟩ observations).normalized,
      ∃ f, evaluateOne host policy.entries t₁ o = .ok f) :
    ∃ result₁, evaluateRemediationWindows host now₁ (some file) observations true time₁ sourceSha
      imageDigest = .ok result₁ := by
  simp only [evaluateRemediationWindows, Bool.not_true, Bool.false_eq_true, if_false,
    bind_eq_ok] at run
  obtain ⟨sha, readSha, digest, readDigest, -⟩ := run
  obtain ⟨findings, found⟩ := exists_mapM each
  simp only [evaluateRemediationWindows, Bool.not_true, Bool.false_eq_true, if_false, readSha,
    readDigest, time, load, found, ok_bind]
  split
  · exact ⟨_, rfl⟩
  · exact ⟨_, rfl⟩

/-- An allowed decision was allowed at every earlier time at which the document is
accepted, and what is covered only moves forward. -/
theorem evaluateRemediationWindows_monotone {host : Host} {now₁ now₂ t₁ t₂ : DateTime}
    {file : File} {observations : List Mapping} {time₁ time₂ : Option String}
    {policy₁ policy₂ : Policy} (read₁ : optionalTime now₁ time₁ "evaluation_time" = .ok t₁)
    (read₂ : optionalTime now₂ time₂ "evaluation_time" = .ok t₂) (le : t₁ ≤ t₂)
    (load₁ : loadPolicy host now₁ file (some (format t₁)) = .ok policy₁)
    (load₂ : loadPolicy host now₂ file (some (format t₂)) = .ok policy₂) :
    (∀ enabled sourceSha imageDigest result₂,
      evaluateRemediationWindows host now₂ (some file) observations enabled time₂ sourceSha
        imageDigest = .ok result₂ → result₂.remediationWindowAllowed = true →
      ∃ result₁, evaluateRemediationWindows host now₁ (some file) observations enabled time₁
        sourceSha imageDigest = .ok result₁ ∧ result₁.remediationWindowAllowed = true) ∧
    ∀ o f₁, evaluateOne host policy₁.entries t₁ o = .ok f₁ → f₁.state ∈ onTrack →
      ∃ f₂, evaluateOne host policy₂.entries t₂ o = .ok f₂ ∧ f₁.state.Advances f₂.state := by
  cases loadPolicy_unique host load₁ load₂
  constructor
  · intro enabled sourceSha imageDigest result₂ run₂ allowed
    cases enabled with
    | false =>
      cases run₂
      cases allowed
    | true =>
      have evaluates₂ : Evaluates host now₂ file observations time₂ t₂ policy₁ result₂ :=
        ⟨read₂, load₂, sourceSha, imageDigest, run₂⟩
      obtain ⟨nonempty, canonical, covered⟩ := evaluates₂.allowed.mp allowed
      have earlier (o : Observation) (h : CoveredBy policy₁.entries t₂ o) :
          CoveredBy policy₁.entries t₁ o :=
        h.earlier le fun _ mem _ read => firstSeen_le_of_loadPolicy host load₁ mem read
      obtain ⟨result₁, run₁⟩ := exists_evaluation run₂ read₁ load₁ fun o mem => by
        obtain ⟨index, at_, fresh⟩ := mem_collect.mp mem
        obtain ⟨_, _, _, begun⟩ := (earlier o (covered index o at_ fresh)).begun
        exact (begun.evaluateOne host).imp fun _ => And.left
      have evaluates₁ : Evaluates host now₁ file observations time₁ t₁ policy₁ result₁ :=
        ⟨read₁, load₁, sourceSha, imageDigest, run₁⟩
      exact ⟨result₁, run₁, evaluates₁.allowed.mpr
        ⟨nonempty, canonical, fun index o at_ fresh => earlier o (covered index o at_ fresh)⟩⟩
  · intro o f₁ one track
    obtain ⟨entry, firstSeen, deadline, begun⟩ := begun_of_onTrack one track
    obtain ⟨f, ok, state⟩ := begun.evaluateOne host
    cases one.symm.trans ok
    obtain ⟨f₂, ok₂, state₂⟩ := (begun.later le).evaluateOne host
    refine ⟨f₂, ok₂, ?_⟩
    rw [state, state₂]
    exact phase_advances deadline le

def sampleLater : DateTime := ⟨2026, 1, 5, 0, 0, 0, 0, by decide⟩

/-- The sample window is due soon three days later, and both decisions are open. -/
theorem evaluateRemediationWindows_monotone_sample :
    ∃ result₁, evaluateRemediationWindows sampleHost sampleNow (some sampleFile)
      [sampleObservation false] true none "" "" = .ok result₁ ∧
      result₁.remediationWindowAllowed = true := by
  have read₁ : optionalTime sampleNow none "evaluation_time" = .ok sampleNow := rfl
  have read₂ : optionalTime sampleLater none "evaluation_time" = .ok sampleLater := rfl
  have late : (evaluateRemediationWindows sampleHost sampleLater (some sampleFile)
      [sampleObservation false] true none "" "").map (fun r => (r.remediationWindowAllowed,
        r.remediationState)) = .ok (true, .dueSoon) := by decide +kernel
  have accepted : (loadPolicy sampleHost sampleNow sampleFile (some (format sampleNow))).isOk =
      true := by decide +kernel
  obtain ⟨policy₁, load₁⟩ := exists_of_isOk accepted
  obtain ⟨result₂, run₂, open₂⟩ := map_eq_ok.mp late
  obtain ⟨t₂, policy₂, evaluates₂⟩ := exists_evaluates run₂
  cases read₂.symm.trans evaluates₂.time
  exact (evaluateRemediationWindows_monotone read₁ read₂ (by decide) load₁ evaluates₂.load).1
    _ _ _ _ run₂ (congrArg Prod.fst open₂)

end OptimizrActions.Remediation
