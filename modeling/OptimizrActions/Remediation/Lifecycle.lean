import OptimizrActions.Lib.Calendar
import OptimizrActions.Lib.Check
import OptimizrActions.Lib.Json
import OptimizrActions.Lib.Text
import OptimizrActions.Remediation.History

/-! The lifecycle of one reviewed policy entry, as the policy loader normalizes it. -/

namespace OptimizrActions.Remediation

open Calendar History

/-- A text field that is present and not blank, stripped.  Both remediation
modules have this function, each with its own exception class. -/
def requiredText (payload : Mapping) (field label : String) : Except String String :=
  match payload.get field with
  | .str value =>
    if Text.strip value = "" then .error (label ++ " field " ++ field ++ " is required")
    else .ok (Text.strip value)
  | _ => .error (label ++ " field " ++ field ++ " is required")

def parseUtc (text label : String) : Except String DateTime :=
  match parse? text with
  | some t => .ok t
  | none => .error (label ++ " must use RFC3339 UTC timestamps")

/-- A required text field that holds a time. -/
def requiredTime (payload : Mapping) (field label : String) : Except String DateTime := do
  parseUtc (← requiredText payload field label) (label ++ "." ++ field)

def Status.text : Status → String
  | .active => "active"
  | .resolved => "resolved"
  | .reintroduced => "reintroduced"

def Action.text : Action → String
  | .extended => "extended"
  | .resolved => "resolved"
  | .reintroduced => "reintroduced"

def allowedEntryStatuses : List Status := [.active, .resolved, .reintroduced]
def allowedHistoryActions : List Action := [.extended, .resolved, .reintroduced]

def entryStatus (entry : Mapping) : Except String Status := do
  let status ← requiredText entry "status" "policy entry"
  match allowedEntryStatuses.find? (·.text = status) with
  | some s => .ok s
  | none => .error "policy entry status is not allowed"

def historyAction (revision : Mapping) (label : String) : Except String Action := do
  let action ← requiredText revision "action" label
  match allowedHistoryActions.find? (·.text = action) with
  | some a => .ok a
  | none => .error (label ++ ".action is not allowed")

/-- One raw history item, read before anything is compared. -/
structure Revision extends Event DateTime where
  reviewedBy : String
  reason : String

def readRevision (index : Nat) (revision : Json) : Except String Revision :=
  match revision with
  | .obj revision => do
    let label := "history[" ++ toString index ++ "]"
    let action ← historyAction revision label
    let firstSeen ← requiredTime revision "first_seen_at" label
    let previousDeadline ← requiredTime revision "previous_deadline_at" label
    let deadline ← requiredTime revision "deadline_at" label
    let reviewedAt ← requiredTime revision "reviewed_at" label
    let reviewedBy ← requiredText revision "reviewed_by" label
    let reason ← requiredText revision "reason" label
    pure { action, firstSeen, previousDeadline, deadline, reviewedAt, reviewedBy, reason }
  | _ => .error ("policy entry history[" ++ toString index ++ "] must be an object")

/-- A history item as the normalized policy keeps it. -/
structure HistoryRecord where
  action : String
  firstSeenAt : String
  previousDeadlineAt : String
  deadlineAt : String
  reviewedAt : String
  reviewedBy : String
  reason : String
  deriving DecidableEq, Repr

def Revision.record (r : Revision) : HistoryRecord where
  action := r.action.text
  firstSeenAt := format r.firstSeen
  previousDeadlineAt := format r.previousDeadline
  deadlineAt := format r.deadline
  reviewedAt := format r.reviewedAt
  reviewedBy := r.reviewedBy
  reason := r.reason

/-- The variables that the history loop carries. -/
structure Tracked extends State DateTime where
  history : List HistoryRecord

/-- The branch of the loop that the action selects: the deadline and status after it. -/
def reviseDeadline (s : Tracked) (r : Revision) : Except String (DateTime × Status) :=
  match r.action with
  | .extended => do
    require (s.status = .active) "only an active policy entry may be extended"
    require (r.previousDeadline < r.deadline) "extended deadline must be after previous deadline"
    pure (r.deadline, s.status)
  | .resolved => do
    require (s.status = .active) "only an active policy entry may be resolved"
    require (r.deadline = r.previousDeadline) "resolved revision must preserve the deadline"
    pure (s.deadline, .resolved)
  | .reintroduced => do
    require (s.status = .resolved) "reintroduced revision must follow resolved state"
    require (r.deadline = r.previousDeadline) "reintroduced revision must preserve the deadline"
    pure (s.deadline, .reintroduced)

def checkRevision (firstSeen reference : DateTime) (s : Tracked) (r : Revision) :
    Except String Tracked := do
  require (r.firstSeen = firstSeen) "policy entry history must preserve first_seen_at"
  require (r.previousDeadline = s.deadline)
    "policy entry history previous deadline must match prior state"
  require (r.reviewedAt ≤ reference) "policy entry history reviewed_at must not be in the future"
  require (s.reviewedAt < r.reviewedAt)
    "policy entry history reviews must follow the initial review and remain strictly chronological"
  let (deadline, status) ← reviseDeadline s r
  pure { status, deadline, reviewedAt := r.reviewedAt, history := s.history ++ [r.record] }

def historyLoop (firstSeen reference : DateTime) :
    Nat → Tracked → List Json → Except String Tracked
  | _, s, [] => .ok s
  | index, s, revision :: rest => do
    let s ← checkRevision firstSeen reference s (← readRevision index revision)
    historyLoop firstSeen reference (index + 1) s rest

structure Lifecycle where
  status : Status
  originalDeadlineAt : String
  effectiveDeadlineAt : String
  history : List HistoryRecord
  revisionCount : Nat
  deriving DecidableEq, Repr

def normalizeLifecycle (entry : Mapping) (firstSeen originalDeadline reference : DateTime) :
    Except String Lifecycle := do
  let status ← entryStatus entry
  let initialReviewedAt ← requiredTime entry "reviewed_at" "policy entry"
  require (initialReviewedAt ≤ reference) "policy entry reviewed_at must not be in the future"
  match entry.get "history" with
  | .null => do
    require (status = .active) "resolved or reintroduced status requires explicit history"
    pure ⟨.active, format originalDeadline, format originalDeadline, [], 0⟩
  | .arr (revision :: rest) => do
    let s ← historyLoop firstSeen reference 0
      ⟨⟨.active, originalDeadline, initialReviewedAt⟩, []⟩ (revision :: rest)
    require (s.status = status) "policy status must match the final history action"
    pure ⟨status, format originalDeadline, format s.deadline, s.history, s.history.length⟩
  | _ => .error "policy entry history must be a non-empty array"

/-! ### The loop refines the history -/

/-- The text fields of every item, read without comparing them. -/
def readHistory : Nat → List Json → Except String (List Revision)
  | _, [] => .ok []
  | index, revision :: rest => do
    let r ← readRevision index revision
    let rs ← readHistory (index + 1) rest
    pure (r :: rs)

def Tracked.after (s : Tracked) (r : Revision) : Tracked :=
  ⟨State.after s.toState r.toEvent, s.history ++ [r.record]⟩

theorem reviseDeadline_eq_ok {s : Tracked} {r : Revision} {next : DateTime × Status}
    (chained : r.previousDeadline = s.deadline) :
    reviseDeadline s r = .ok next ↔
      (transition s.status r.action).isSome ∧
      (r.action = .extended → r.previousDeadline < r.deadline) ∧
      (r.action ≠ .extended → r.deadline = r.previousDeadline) ∧
      next = ((State.after s.toState r.toEvent).deadline,
        (State.after s.toState r.toEvent).status) := by
  obtain ⟨⟨status, deadline, reviewed⟩, history⟩ := s
  obtain ⟨⟨action, first, previous, deadline', reviewed'⟩, reviewedBy, reason⟩ := r
  subst chained
  cases action <;>
    simp only [reviseDeadline, bind_eq_ok, require_eq_ok, exists_const, pure_eq_ok,
      eq_comm (b := next)] <;>
    cases status <;> simp [transition, State.after]

theorem checkRevision_eq_ok {firstSeen reference : DateTime} {s t : Tracked} {r : Revision} :
    checkRevision firstSeen reference s r = .ok t ↔
      Follows firstSeen reference s.toState r.toEvent ∧ t = s.after r := by
  simp only [checkRevision, bind_eq_ok, require_eq_ok, exists_const, pure_eq_ok]
  constructor
  · rintro ⟨first, previous, now, later, next, step, rfl⟩
    obtain ⟨allowed, grows, keeps, rfl⟩ := (reviseDeadline_eq_ok previous).mp step
    exact ⟨⟨first, previous, now, later, allowed, grows, keeps⟩, rfl⟩
  · rintro ⟨h, rfl⟩
    exact ⟨h.firstSeen, h.previousDeadline, h.notFuture, h.later, _,
      (reviseDeadline_eq_ok h.previousDeadline).mpr
        ⟨h.allowed, h.extends_deadline, h.keeps_deadline, rfl⟩, rfl⟩

theorem historyLoop_eq_ok {firstSeen reference : DateTime} {index : Nat} {s t : Tracked}
    {raw : List Json} :
    historyLoop firstSeen reference index s raw = .ok t ↔
      ∃ rs, readHistory index raw = .ok rs ∧
        Accepts firstSeen reference s.toState (rs.map (·.toEvent)) ∧
        t = ⟨final s.toState (rs.map (·.toEvent)), s.history ++ rs.map (·.record)⟩ := by
  induction raw generalizing index s with
  | nil => simp [historyLoop, readHistory, Accepts, eq_comm]
  | cons revision rest ih =>
    simp only [historyLoop, bind_eq_ok, ih, checkRevision_eq_ok, readHistory, pure_eq_ok]
    constructor
    · rintro ⟨r, read, _, ⟨follows, rfl⟩, rs, reads, accepts, rfl⟩
      exact ⟨r :: rs, ⟨r, read, rs, reads, rfl⟩, ⟨follows, accepts⟩, by simp [Tracked.after]⟩
    · rintro ⟨_, ⟨r, read, rs, reads, rfl⟩, ⟨follows, accepts⟩, rfl⟩
      exact ⟨r, read, _, ⟨follows, rfl⟩, rs, reads, accepts, by simp [Tracked.after]⟩

/-- What a normalized lifecycle says, for an entry whose history was read as `rs`. -/
def lifecycleOf (status : Status) (originalDeadline : DateTime) (rs : List Revision) : Lifecycle where
  status := status
  originalDeadlineAt := format originalDeadline
  effectiveDeadlineAt := format (deadlineInForce originalDeadline (rs.map (·.toEvent)))
  history := rs.map (·.record)
  revisionCount := rs.length

/-- An entry that names an allowed status and an initial review that is not in the future. -/
structure Reviewed (entry : Mapping) (reference : DateTime) (status : Status) (initial : DateTime) :
    Prop where
  status_read : entryStatus entry = .ok status
  review_read : requiredTime entry "reviewed_at" "policy entry" = .ok initial
  notFuture : initial ≤ reference

theorem normalizeLifecycle_null {entry : Mapping} {firstSeen originalDeadline reference : DateTime}
    {l : Lifecycle} (null : entry.get "history" = .null) :
    normalizeLifecycle entry firstSeen originalDeadline reference = .ok l ↔
      (∃ initial, Reviewed entry reference .active initial) ∧
        l = lifecycleOf .active originalDeadline [] := by
  simp only [normalizeLifecycle, null, bind_eq_ok, require_eq_ok, exists_const, pure_eq_ok]
  constructor
  · rintro ⟨_, status, initial, review, now, rfl, rfl⟩
    exact ⟨⟨initial, status, review, now⟩, rfl⟩
  · rintro ⟨⟨initial, status, review, now⟩, rfl⟩
    exact ⟨_, status, initial, review, now, rfl, rfl⟩

/-- The loader accepts a history exactly when it is admissible as a whole. -/
theorem normalizeLifecycle_arr {entry : Mapping} {firstSeen originalDeadline reference : DateTime}
    {raw : List Json} {l : Lifecycle} (history : entry.get "history" = .arr raw) :
    normalizeLifecycle entry firstSeen originalDeadline reference = .ok l ↔
      ∃ status initial rs, Reviewed entry reference status initial ∧ raw ≠ [] ∧
        readHistory 0 raw = .ok rs ∧
        Admissible firstSeen originalDeadline initial reference (rs.map (·.toEvent)) ∧
        statusInForce (rs.map (·.toEvent)) = status ∧
        l = lifecycleOf status originalDeadline rs := by
  cases raw with
  | nil => simp [normalizeLifecycle, history]
  | cons revision rest =>
    simp only [normalizeLifecycle, history, bind_eq_ok, require_eq_ok, exists_const, pure_eq_ok,
      historyLoop_eq_ok, List.nil_append]
    constructor
    · rintro ⟨status, read, initial, review, now, _, ⟨rs, reads, accepts, rfl⟩, last, rfl⟩
      refine ⟨status, initial, rs, ⟨read, review, now⟩, List.cons_ne_nil _ _, reads,
        (accepts_iff_admissible ..).mp accepts, ?_, ?_⟩
      · rw [← last]
        exact (final_status rfl accepts).symm
      · simp [lifecycleOf, final_deadline]
    · rintro ⟨status, initial, rs, ⟨read, review, now⟩, -, reads, admissible, last, rfl⟩
      have accepts := (accepts_iff_admissible ..).mpr admissible
      refine ⟨status, read, initial, review, now, _, ⟨rs, reads, accepts, rfl⟩, ?_, ?_⟩
      · rw [← last]
        exact final_status rfl accepts
      · simp [lifecycleOf, final_deadline]

theorem normalizeLifecycle_other {entry : Mapping} {firstSeen originalDeadline reference : DateTime}
    {l : Lifecycle} (h : normalizeLifecycle entry firstSeen originalDeadline reference = .ok l) :
    entry.get "history" = .null ∨ ∃ raw, entry.get "history" = .arr raw := by
  simp only [normalizeLifecycle, bind_eq_ok] at h
  obtain ⟨_, -, _, -, _, -, h⟩ := h
  split at h
  · exact .inl ‹_›
  · exact .inr ⟨_, ‹_›⟩
  · cases h

/-- The effective deadline is the text of a time. -/
theorem normalizeLifecycle_deadline {entry : Mapping}
    {firstSeen originalDeadline reference : DateTime} {l : Lifecycle}
    (h : normalizeLifecycle entry firstSeen originalDeadline reference = .ok l) :
    ∃ t, l.effectiveDeadlineAt = format t := by
  cases normalizeLifecycle_other h with
  | inl null =>
    obtain ⟨-, rfl⟩ := (normalizeLifecycle_null null).mp h
    exact ⟨_, rfl⟩
  | inr history =>
    obtain ⟨raw, history⟩ := history
    obtain ⟨_, _, _, -, -, -, -, -, rfl⟩ := (normalizeLifecycle_arr history).mp h
    exact ⟨_, rfl⟩

end OptimizrActions.Remediation
