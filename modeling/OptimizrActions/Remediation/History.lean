import Mathlib.Data.List.Induction
import Mathlib.Order.Lattice

/-! Review histories of a remediation window, over any linear time.  A window is
opened by an initial review; each later event is a review that extends, resolves
or reintroduces the finding. -/

namespace OptimizrActions.Remediation

inductive Action where
  | extended | resolved | reintroduced
  deriving DecidableEq, Repr

inductive Status where
  | active | resolved | reintroduced
  deriving DecidableEq, Repr

/-- The status that a review leaves. -/
def Action.status : Action → Status
  | .extended => .active
  | .resolved => .resolved
  | .reintroduced => .reintroduced

structure Event (Time : Type*) where
  action : Action
  firstSeen : Time
  previousDeadline : Time
  deadline : Time
  reviewedAt : Time

/-- What is in force after a prefix of a history. -/
structure State (Time : Type*) where
  status : Status
  deadline : Time
  reviewedAt : Time

namespace History

variable {Time : Type*}

/-- Where an action leads from a status, if it is allowed there. -/
def transition : Status → Action → Option Status
  | .active, .extended => some .active
  | .active, .resolved => some .resolved
  | .resolved, .reintroduced => some .reintroduced
  | _, _ => none

def State.after (s : State Time) (e : Event Time) : State Time where
  status := (transition s.status e.action).getD s.status
  deadline := if e.action = .extended then e.deadline else s.deadline
  reviewedAt := e.reviewedAt

def final (s : State Time) (es : List (Event Time)) : State Time := es.foldl State.after s

@[simp] theorem final_nil (s : State Time) : final s [] = s := rfl

@[simp] theorem final_cons (s : State Time) (e : Event Time) (es : List (Event Time)) :
    final s (e :: es) = final (State.after s e) es := rfl

/-- The deadline of the last extension, or the original one. -/
def deadlineInForce (original : Time) (es : List (Event Time)) : Time :=
  ((es.filter (·.action = .extended)).getLast?.map (·.deadline)).getD original

/-- The status that the last event leaves. -/
def statusInForce (es : List (Event Time)) : Status :=
  (es.getLast?.map (·.action.status)).getD .active

/-- `extended* [resolved [reintroduced]]`. -/
def Shape (actions : List Action) : Prop :=
  ∃ n tail, actions = List.replicate n .extended ++ tail ∧
    (tail = [] ∨ tail = [.resolved] ∨ tail = [.resolved, .reintroduced])

theorem deadlineInForce_cons (original : Time) (e : Event Time) (es : List (Event Time)) :
    deadlineInForce original (e :: es) =
      deadlineInForce (if e.action = .extended then e.deadline else original) es := by
  unfold deadlineInForce
  by_cases h : e.action = .extended
  · cases hes : es.filter (·.action = .extended) with
    | nil => simp [h, hes]
    | cons x xs => simp [h, hes, List.getLast?_cons]
  · simp [h]

/-- The actions that can be run from a status. -/
def Runs : Status → List Action → Prop
  | _, [] => True
  | s, a :: as => ∃ t, transition s a = some t ∧ Runs t as

theorem runs_reintroduced (as : List Action) : Runs .reintroduced as ↔ as = [] := by
  cases as with
  | nil => simp [Runs]
  | cons a as => cases a <;> simp [Runs, transition]

theorem runs_resolved (as : List Action) :
    Runs .resolved as ↔ as = [] ∨ as = [.reintroduced] := by
  cases as with
  | nil => simp [Runs]
  | cons a as => cases a <;> simp [Runs, transition, runs_reintroduced]

theorem shape_cons_extended (as : List Action) : Shape (.extended :: as) ↔ Shape as := by
  constructor
  · rintro ⟨n, tail, eq, last⟩
    cases n with
    | zero => rcases last with rfl | rfl | rfl <;> simp at eq
    | succ n =>
      simp only [List.replicate_succ, List.cons_append, List.cons.injEq, true_and] at eq
      exact ⟨n, tail, eq, last⟩
  · rintro ⟨n, tail, rfl, last⟩
    exact ⟨n + 1, tail, by simp [List.replicate_succ], last⟩

theorem shape_cons_of_ne {a : Action} (ne : a ≠ .extended) (as : List Action) :
    Shape (a :: as) ↔ a = .resolved ∧ (as = [] ∨ as = [.reintroduced]) := by
  constructor
  · rintro ⟨n, tail, eq, last⟩
    cases n with
    | zero => rcases last with rfl | rfl | rfl <;> simp_all
    | succ n =>
      simp only [List.replicate_succ, List.cons_append, List.cons.injEq] at eq
      exact absurd eq.1 ne
  · rintro ⟨rfl, rfl | rfl⟩
    · exact ⟨0, [.resolved], rfl, .inr (.inl rfl)⟩
    · exact ⟨0, [.resolved, .reintroduced], rfl, .inr (.inr rfl)⟩

theorem runs_active_iff_shape (as : List Action) : Runs .active as ↔ Shape as := by
  induction as with
  | nil => exact ⟨fun _ => ⟨0, [], rfl, .inl rfl⟩, fun _ => trivial⟩
  | cons a as ih =>
    cases a with
    | extended => simp [Runs, transition, ih, shape_cons_extended]
    | resolved => simp [Runs, transition, runs_resolved, shape_cons_of_ne]
    | reintroduced => simp [Runs, transition, shape_cons_of_ne]

theorem final_deadline (s : State Time) (es : List (Event Time)) :
    (final s es).deadline = deadlineInForce s.deadline es := by
  induction es generalizing s with
  | nil => rfl
  | cons e es ih => rw [final_cons, ih, deadlineInForce_cons, State.after]

theorem transition_status {s t : Status} {a : Action} (h : transition s a = some t) :
    t = a.status := by
  cases s <;> cases a <;> cases h <;> rfl

variable [LinearOrder Time]

/-- One event is admissible in a state. -/
structure Follows (firstSeen reference : Time) (s : State Time) (e : Event Time) : Prop where
  firstSeen : e.firstSeen = firstSeen
  previousDeadline : e.previousDeadline = s.deadline
  notFuture : e.reviewedAt ≤ reference
  later : s.reviewedAt < e.reviewedAt
  allowed : (transition s.status e.action).isSome
  extends_deadline : e.action = .extended → e.previousDeadline < e.deadline
  keeps_deadline : e.action ≠ .extended → e.deadline = e.previousDeadline

/-- Every event follows the state its predecessors lead to. -/
def Accepts (firstSeen reference : Time) : State Time → List (Event Time) → Prop
  | _, [] => True
  | s, e :: es => Follows firstSeen reference s e ∧ Accepts firstSeen reference (State.after s e) es

/-- A history read as a whole, without running it. -/
structure Admissible (firstSeen original initial reference : Time) (es : List (Event Time)) :
    Prop where
  shape : Shape (es.map (·.action))
  chronological : (initial :: es.map (·.reviewedAt)).Pairwise (· < ·)
  notFuture : ∀ e ∈ es, e.reviewedAt ≤ reference
  firstSeen : ∀ e ∈ es, e.firstSeen = firstSeen
  previousDeadline : ∀ i (h : i < es.length),
    es[i].previousDeadline = deadlineInForce original (es.take i)
  extends_deadline : ∀ e ∈ es, e.action = .extended → e.previousDeadline < e.deadline
  keeps_deadline : ∀ e ∈ es, e.action ≠ .extended → e.deadline = e.previousDeadline

/-- The fold and the reading as a whole agree, from any state. -/
theorem accepts_iff (firstSeen reference : Time) (s : State Time) (es : List (Event Time)) :
    Accepts firstSeen reference s es ↔
      Runs s.status (es.map (·.action)) ∧
      (s.reviewedAt :: es.map (·.reviewedAt)).Pairwise (· < ·) ∧
      (∀ e ∈ es, e.reviewedAt ≤ reference) ∧
      (∀ e ∈ es, e.firstSeen = firstSeen) ∧
      (∀ i (h : i < es.length),
        es[i].previousDeadline = deadlineInForce s.deadline (es.take i)) ∧
      (∀ e ∈ es, e.action = .extended → e.previousDeadline < e.deadline) ∧
      (∀ e ∈ es, e.action ≠ .extended → e.deadline = e.previousDeadline) := by
  induction es generalizing s with
  | nil => simp [Accepts, Runs]
  | cons e es ih =>
    have chain : (∀ i (h : i < (e :: es).length),
        (e :: es)[i].previousDeadline = deadlineInForce s.deadline ((e :: es).take i)) ↔
        e.previousDeadline = s.deadline ∧ ∀ i (h : i < es.length),
          es[i].previousDeadline = deadlineInForce (State.after s e).deadline (es.take i) := by
      constructor
      · intro h
        have head : e.previousDeadline = deadlineInForce s.deadline [] := h 0 (by simp)
        refine ⟨head, fun i hi => ?_⟩
        have := h (i + 1) (by simpa using hi)
        simpa [deadlineInForce_cons, State.after] using this
      · rintro ⟨head, tail⟩ i hi
        cases i with
        | zero => exact head
        | succ i =>
          simpa [deadlineInForce_cons, State.after] using tail i (by simpa using hi)
    rw [Accepts, ih, chain]
    simp only [List.map_cons, List.forall_mem_cons, Runs]
    constructor
    · rintro ⟨⟨first, previous, now, later, allowed, ext, keep⟩, runs, order, ref, firsts, prevs,
        exts, keeps⟩
      obtain ⟨t, step⟩ := Option.isSome_iff_exists.mp allowed
      refine ⟨⟨t, step, by simpa [State.after, step] using runs⟩, ?_, ⟨now, ref⟩, ⟨first, firsts⟩,
        ⟨previous, prevs⟩, ⟨ext, exts⟩, ⟨keep, keeps⟩⟩
      refine List.pairwise_cons.mpr ⟨?_, order⟩
      intro r mem
      rcases List.mem_cons.mp mem with rfl | mem
      · exact later
      · exact later.trans ((List.pairwise_cons.mp order).1 r mem)
    · rintro ⟨⟨t, step, runs⟩, order, ⟨now, ref⟩, ⟨first, firsts⟩, ⟨previous, prevs⟩, ⟨ext, exts⟩,
        ⟨keep, keeps⟩⟩
      have order' := List.pairwise_cons.mp order
      exact ⟨⟨first, previous, now, order'.1 _ List.mem_cons_self, by simp [step], ext, keep⟩,
        by simpa [State.after, step] using runs, order'.2, ref, firsts, prevs, exts, keeps⟩

theorem accepts_iff_admissible (firstSeen original initial reference : Time)
    (es : List (Event Time)) :
    Accepts firstSeen reference ⟨.active, original, initial⟩ es ↔
      Admissible firstSeen original initial reference es := by
  rw [accepts_iff, runs_active_iff_shape]
  constructor
  · rintro ⟨h₁, h₂, h₃, h₄, h₅, h₆, h₇⟩
    exact ⟨h₁, h₂, h₃, h₄, h₅, h₆, h₇⟩
  · rintro ⟨h₁, h₂, h₃, h₄, h₅, h₆, h₇⟩
    exact ⟨h₁, h₂, h₃, h₄, h₅, h₆, h₇⟩

theorem follows_last {firstSeen reference : Time} {s : State Time} {es : List (Event Time)}
    {e : Event Time} (h : Accepts firstSeen reference s (es ++ [e])) :
    Follows firstSeen reference (final s es) e := by
  induction es generalizing s with
  | nil => exact h.1
  | cons x xs ih => exact ih h.2

theorem final_status {firstSeen reference : Time} {s : State Time} {es : List (Event Time)}
    (active : s.status = .active) (h : Accepts firstSeen reference s es) :
    (final s es).status = statusInForce es := by
  -- From the right, since only the last event decides the status.
  cases es using List.reverseRecOn with
  | nil => exact active
  | append_singleton es e _ =>
    obtain ⟨t, step⟩ := Option.isSome_iff_exists.mp (follows_last h).allowed
    have same : (final s (es ++ [e])).status = t := by
      simp only [final, List.foldl_append, List.foldl_cons, List.foldl_nil, State.after]
      change (transition (final s es).status e.action).getD _ = t
      rw [step, Option.getD_some]
    rw [same, transition_status step]
    simp [statusInForce]

end History

end OptimizrActions.Remediation
