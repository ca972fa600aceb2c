import Mathlib.Tactic.Linarith
import OptimizrActions.PrMetadata.ApiClient

/-! The retries of a client keep within their budget, over all its requests. -/

namespace OptimizrActions.PrMetadata

open Prog

section Specification

/-- A failure after which there may be another attempt. -/
def Retryable (response : Response) : Prop :=
  ∃ reason, response = .transport reason ∧ (classifyTransportError reason).2 = true

/-- The timeout is at most what is left of the budget at the time of the attempt. -/
def InBudget (budget : Rat) (s : Client) (attempt : Attempt) : Prop :=
  ∃ startedAt, s.retryStartedAt = some startedAt ∧
    attempt.timeout ≤ remainingAt budget startedAt attempt.now

structure Served (budget : Rat) (requests : List (List Attempt)) (s : Client) : Prop where
  attempts : ∀ request ∈ requests, request.length ≤ 3
  slept : s.slept ≤ budget
  timeouts : ∀ request ∈ requests, ∀ retry ∈ request.tail, InBudget budget s retry
  /-- What is followed by another attempt is a failure of the transport that may be repeated. -/
  retried : ∀ request ∈ requests, ∀ attempt ∈ request.dropLast, Retryable attempt.response

end Specification

section Invariant

/-- The invariant of the client's life: the sleeps are in the time since the retries began. -/
structure Kept (budget : Rat) (known : Option Rat) (s : Client) : Prop where
  total : s.retryBudgetSeconds = budget
  idle : s.retryStartedAt = none → s.slept = 0
  begun : ∀ t, s.retryStartedAt = some t → t ≤ s.now ∧ s.slept ≤ s.now - t
  slept : s.slept ≤ budget
  known : ∀ t, known = some t → s.retryStartedAt = some t

/-- The attempts of the current request, all of which have failed and may be repeated. -/
structure Tried (budget : Rat) (attempts : Nat) (s : Client) : Prop where
  length : s.attempts.length = attempts
  retried : ∀ attempt ∈ s.attempts, Retryable attempt.response
  timeouts : ∀ retry ∈ s.attempts.tail, InBudget budget s retry

/-- The attempts of the current request, the last of which may be of any kind. -/
structure Over (budget : Rat) (s : Client) : Prop where
  length : s.attempts.length ≤ 3
  retried : ∀ attempt ∈ s.attempts.dropLast, Retryable attempt.response
  timeouts : ∀ retry ∈ s.attempts.tail, InBudget budget s retry

variable {budget : Rat} {known : Option Rat}

def Done (budget : Rat) (known : Option Rat) (s : Client) : Prop :=
  Kept budget known s ∧ Over budget s

/-- Before an attempt: the retries have begun unless it is the first one. -/
def Ready (budget : Rat) (known : Option Rat) (attempts : Nat) (s : Client) : Prop :=
  Kept budget known s ∧ Tried budget attempts s ∧ (attempts ≠ 0 → s.retryStartedAt ≠ none)

theorem Tried.over {attempts : Nat} {s : Client} (tried : Tried budget attempts s)
    (few : attempts ≤ 3) : Over budget s where
  length := tried.length.trans_le few
  retried attempt mem := tried.retried attempt (List.dropLast_subset _ mem)
  timeouts := tried.timeouts

/-- An assertion that the passing of time leaves as it is. -/
def Steady (P : Client → Prop) : Prop :=
  ∀ s now looks, P s → s.now ≤ now → P { s with now := now, looks := looks }

theorem steady_kept : Steady (Kept budget known) := by
  intro s now looks kept later
  refine ⟨kept.total, kept.idle, fun t at_ => ?_, kept.slept, kept.known⟩
  obtain ⟨le, slept⟩ := kept.begun t at_
  exact ⟨le.trans later, slept.trans (sub_le_sub_right later t)⟩

theorem steady_ready {attempts : Nat} : Steady (Ready budget known attempts) :=
  fun s now looks ready later =>
    ⟨steady_kept s now looks ready.1 later, ⟨ready.2.1.1, ready.2.1.2, ready.2.1.3⟩, ready.2.2⟩

end Invariant

section Steps

variable {world : World} {P : Client → Prop} {raised : Failure → Client → Prop} {budget : Rat}
  {known : Option Rat} {attempts : Nat}

theorem clock_triple (steady : Steady P) :
    Triple P (clock world) (fun now s => P s ∧ now = s.now) raised where
  run s start := ⟨steady s _ _ start (le_add_of_nonneg_right (world.nonneg _)), rfl⟩

/-- What is read as the rest of the budget is the rest at the time that it is. -/
theorem remaining_triple (steady : Steady P) :
    Triple P (retryBudgetRemaining world)
      (fun remaining s => P s ∧ ∀ t, s.retryStartedAt = some t →
        remaining = remainingAt s.retryBudgetSeconds t s.now) raised where
  run s start := by
    unfold retryBudgetRemaining
    rw [get_bind]
    cases at_ : s.retryStartedAt with
    | none => exact ⟨start, fun t is => by simp [at_] at is⟩
    | some startedAt =>
      refine ⟨steady s _ _ start (le_add_of_nonneg_right (world.nonneg _)), fun t is => ?_⟩
      cases at_.symm.trans is
      rfl

theorem Ready.done {s : Client} (ready : Ready budget known attempts s) (few : attempts ≤ 3) :
    Done budget known s := ⟨ready.1, ready.2.1.over few⟩

/-- The timeout of a retry is within the budget at the time of the attempt. -/
def Timed (budget : Rat) (known : Option Rat) (attempts : Nat) (timeout : Rat) (s : Client) : Prop :=
  Ready budget known attempts s ∧
    (attempts ≠ 0 → ∃ t, s.retryStartedAt = some t ∧ timeout ≤ remainingAt budget t s.now)

theorem attemptTimeout_triple {category : String} (few : attempts ≤ 3) :
    Triple (Ready budget known attempts) (attemptTimeout world attempts category)
      (Timed budget known attempts) (fun _ => Done budget known) := by
  unfold attemptTimeout
  split_ifs with first
  · exact Triple.pure fun s ready => ⟨ready, fun later => absurd first later⟩
  · refine Triple.bind (remaining_triple steady_ready) fun remaining => ?_
    have left : Triple
        (fun s => Ready budget known attempts s ∧ ∀ t, s.retryStartedAt = some t →
          remaining = remainingAt s.retryBudgetSeconds t s.now)
        (ensure (0 < remaining) (exhausted category attempts))
        (fun _ s => Ready budget known attempts s ∧ ∀ t, s.retryStartedAt = some t →
          remaining = remainingAt s.retryBudgetSeconds t s.now)
        (fun _ => Done budget known) :=
      Triple.ensure (fun _ _ h => h) fun _ s h => h.1.done few
    refine Triple.bind left fun _ => ?_
    refine Triple.pure fun s ⟨ready, read⟩ => ⟨ready, fun later => ?_⟩
    obtain ⟨t, at_⟩ := Option.ne_none_iff_exists'.mp (ready.2.2 later)
    refine ⟨t, at_, (min_le_right _ _).trans_eq ?_⟩
    rw [read t at_, ready.1.total]

/-- The attempts before the last one have failed and may be repeated. -/
def Sent (budget : Rat) (known : Option Rat) (attempts : Nat) (response : Response) (s : Client) :
    Prop :=
  Kept budget known s ∧ s.attempts.length = attempts + 1 ∧
    (∃ front last, s.attempts = front ++ [last] ∧ last.response = response ∧
      ∀ attempt ∈ front, Retryable attempt.response) ∧
    ∀ retry ∈ s.attempts.tail, InBudget budget s retry

theorem urlopen_triple {timeout : Rat} :
    Triple (Timed budget known attempts timeout) (urlopen world timeout)
      (Sent budget known attempts) raised where
  run s start := by
    obtain ⟨⟨kept, tried, -⟩, timed⟩ := start
    refine ⟨⟨kept.1, kept.2, kept.3, kept.4, kept.5⟩, ?_, ⟨s.attempts, _, rfl, rfl, tried.retried⟩,
      fun retry mem => ?_⟩
    · rw [List.length_append, tried.length, List.length_singleton]
    · cases old : s.attempts with
      | nil => simp [old] at mem
      | cons one rest =>
        have later : attempts ≠ 0 := by simp [← tried.length, old]
        simp only [old, List.cons_append, List.tail_cons, List.mem_append, List.mem_singleton] at mem
        obtain before | rfl := mem
        · exact tried.timeouts retry (by rw [old]; exact before)
        · exact timed later

theorem Sent.done {response : Response} {s : Client} (sent : Sent budget known attempts response s)
    (few : attempts < 3) : Done budget known s := by
  obtain ⟨kept, length, ⟨front, last, at_, -, retried⟩, timeouts⟩ := sent
  refine ⟨kept, length.trans_le few, ?_, timeouts⟩
  rw [at_, List.dropLast_concat]
  exact retried

theorem Sent.tried {reason : Reason} {s : Client}
    (sent : Sent budget known attempts (.transport reason) s)
    (retryable : (classifyTransportError reason).2 = true) : Tried budget (attempts + 1) s := by
  obtain ⟨-, length, ⟨front, last, at_, is, retried⟩, timeouts⟩ := sent
  refine ⟨length, ?_, timeouts⟩
  rw [at_, List.forall_mem_append]
  exact ⟨retried, List.forall_mem_singleton.mpr ⟨reason, is, retryable⟩⟩

theorem startRetries_triple :
    Triple (fun s => Kept budget known s ∧ Tried budget (attempts + 1) s) (startRetries world)
      (fun _ => Ready budget known (attempts + 1)) raised where
  run s start := by
    obtain ⟨kept, tried⟩ := start
    unfold startRetries
    rw [get_bind]
    cases at_ : s.retryStartedAt with
    | some startedAt => exact ⟨kept, tried, fun _ => by simp [at_]⟩
    | none =>
      have none_yet : s.slept = 0 := kept.idle at_
      refine ⟨⟨kept.total, nofun, fun t is => ?_, kept.slept, fun t is => ?_⟩,
        ⟨tried.length, tried.retried, fun retry mem => ?_⟩, nofun⟩
      · cases is
        exact ⟨le_refl _, by simp [none_yet]⟩
      · cases at_.symm.trans (kept.known t is)
      · obtain ⟨t, is, -⟩ := tried.timeouts retry mem
        cases at_.symm.trans is

/-- A sleep that is shorter than the rest of the budget keeps the sleeps within it. -/
theorem Kept.sleep {s : Client} (kept : Kept budget known s) {t delay : Rat}
    (at_ : s.retryStartedAt = some t) (nonneg : 0 ≤ delay)
    (short : delay < remainingAt budget t s.now) :
    Kept budget known { s with now := s.now + delay, slept := s.slept + delay } := by
  obtain ⟨le, slept⟩ := kept.begun t at_
  have elapsed : max 0 (s.now - t) = s.now - t := max_eq_right (sub_nonneg.mpr le)
  rw [remainingAt, elapsed, lt_max_iff] at short
  have room : delay < budget - (s.now - t) := short.resolve_left nonneg.not_gt
  refine ⟨kept.total, fun none_ => ?_, fun t' is => ?_, ?_, kept.known⟩
  · cases at_.symm.trans none_
  · cases at_.symm.trans is
    constructor <;> dsimp only <;> linarith
  · dsimp only
    linarith

theorem retryDelay_nonneg (n : Nat) : 0 ≤ retryDelaysSeconds.getD n 0 := by
  unfold retryDelaysSeconds
  match n with
  | 0 => simp
  | 1 => simp
  | n + 2 => simp

theorem waitForRetry_triple {category : String} (few : attempts + 1 < 3) :
    Triple (fun s => Kept budget known s ∧ Tried budget (attempts + 1) s)
      (waitForRetry world category (attempts + 1))
      (fun _ => Ready budget known (attempts + 1)) (fun _ => Done budget known) := by
  have done (s : Client) (ready : Ready budget known (attempts + 1) s) : Done budget known s :=
    ready.done few.le
  have delayed (remaining : Rat) : Triple
      (fun s => Ready budget known (attempts + 1) s ∧ ∀ t, s.retryStartedAt = some t →
        remaining = remainingAt s.retryBudgetSeconds t s.now)
      (ensure (retryDelaysSeconds.getD attempts 0 < remaining) (exhausted category (attempts + 1)))
      (fun _ s => Ready budget known (attempts + 1) s ∧ ∀ t, s.retryStartedAt = some t →
        retryDelaysSeconds.getD attempts 0 < remainingAt budget t s.now)
      (fun _ => Done budget known) := by
    refine Triple.ensure (fun short s h => ⟨h.1, fun t at_ => ?_⟩) fun _ s h => done s h.1
    rw [← h.1.1.total, ← h.2 t at_]
    exact short
  have slept : Triple
      (fun s => Ready budget known (attempts + 1) s ∧ ∀ t, s.retryStartedAt = some t →
        retryDelaysSeconds.getD attempts 0 < remainingAt budget t s.now)
      (sleep (retryDelaysSeconds.getD attempts 0))
      (fun _ => Ready budget known (attempts + 1)) (fun _ => Done budget known) := by
    refine Triple.modify fun s ⟨⟨kept, tried, begun⟩, short⟩ => ?_
    obtain ⟨t, at_⟩ := Option.ne_none_iff_exists'.mp (begun (Nat.succ_ne_zero _))
    exact ⟨kept.sleep at_ (retryDelay_nonneg attempts) (short t at_),
      ⟨tried.length, tried.retried, tried.timeouts⟩, begun⟩
  refine Triple.bind startRetries_triple fun _ => ?_
  refine Triple.bind (remaining_triple steady_ready) fun remaining => ?_
  refine Triple.bind (delayed remaining) fun _ => ?_
  refine Triple.bind slept fun _ => ?_
  refine Triple.bind (remaining_triple steady_ready) fun remaining => ?_
  exact Triple.ensure (fun _ _ h => h.1) fun _ s h => done s h.1

end Steps

section Run

variable {world : World} {budget : Rat} {known : Option Rat}

/-- By induction on the attempts that are left. -/
theorem requestLoop_triple (attempts : Nat) (category : String) (few : attempts < 3) :
    Triple (Ready budget known attempts) (requestLoop world attempts category)
      (fun _ => Done budget known) (fun _ => Done budget known) := by
  rw [requestLoop]
  refine Triple.bind (attemptTimeout_triple few.le) fun timeout => ?_
  refine Triple.bind urlopen_triple fun response => ?_
  cases response with
  | json value => exact Triple.pure fun s sent => sent.done few
  | httpError code => exact Triple.throw fun s sent => sent.done few
  | raised => exact Triple.throw fun s sent => sent.done few
  | transport reason =>
    dsimp only
    split_ifs with more
    · have waited := Triple.of_pre (@waitForRetry_triple world budget known attempts
        (classifyTransportError reason).1 more.2) fun s (sent : Sent budget known attempts _ s) =>
          ⟨sent.1, sent.tried more.1⟩
      exact Triple.bind waited fun _ => requestLoop_triple (attempts + 1) _ more.2
    · exact Triple.throw fun s sent => sent.done few
termination_by 3 - attempts

theorem requestJson_done {s : Client} (kept : Kept budget known s) :
    Done budget known (requestJson world { s with attempts := [] }).2 := by
  have ready : Ready budget known 0 { s with attempts := [] } :=
    ⟨⟨kept.1, kept.2, kept.3, kept.4, kept.5⟩, ⟨rfl, nofun, nofun⟩, nofun⟩
  have done := (@requestLoop_triple world budget known 0 "transport_error" (by decide)).run _ ready
  unfold requestJson
  cases outcome : requestLoop world 0 "transport_error" { s with attempts := [] } with
  | mk result after =>
    rw [outcome] at done
    cases result with
    | ok value => exact done
    | error failure => exact done

/-- What a later state says of the time that the retries began is what an earlier one said. -/
theorem serve_served (requests : Nat) {s : Client} (kept : Kept budget s.retryStartedAt s) :
    Served budget (serve world requests s).1 (serve world requests s).2 ∧
      Kept budget s.retryStartedAt (serve world requests s).2 := by
  induction requests generalizing s with
  | zero => exact ⟨⟨nofun, kept.slept, nofun, nofun⟩, kept⟩
  | succ requests ih =>
    obtain ⟨after, done⟩ := @requestJson_done world budget s.retryStartedAt s kept
    rw [serve]
    generalize (requestJson world { s with attempts := [] }).2 = next at after done ⊢
    have again : Kept budget next.retryStartedAt next :=
      ⟨after.1, after.2, after.3, after.4, fun _ => id⟩
    obtain ⟨served, last⟩ := ih again
    refine ⟨⟨?_, served.slept, ?_, ?_⟩, last.1, last.2, last.3, last.4, fun t at_ => ?_⟩
    · exact List.forall_mem_cons.mpr ⟨done.length, served.attempts⟩
    · refine List.forall_mem_cons.mpr ⟨fun retry mem => ?_, served.timeouts⟩
      obtain ⟨t, at_, within⟩ := done.timeouts retry mem
      exact ⟨t, last.known t at_, within⟩
    · exact List.forall_mem_cons.mpr ⟨done.retried, served.retried⟩
    · exact last.known t (after.known t at_)

/-- Over the whole life of a client no request is tried more than three times, the sleeps and the
timeouts of the retries are within the shared budget, and only failures of the transport that may be
repeated are. -/
theorem serve_withinBudget (world : World) (requests : Nat) {budget now : Rat} {client : Client}
    (created : createClient budget now = .ok client) :
    Served budget (serve world requests client).1 (serve world requests client).2 := by
  unfold createClient at created
  split_ifs at created with negative
  cases created
  have new : Kept budget none ⟨budget, none, now, 0, 0, 0, []⟩ :=
    ⟨rfl, fun _ => rfl, fun _ => nofun, not_lt.mp negative, fun _ => nofun⟩
  exact (serve_served requests new).1

end Run

section Example

/-- A network that is down, and a clock that only the sleeps advance. -/
def downWorld : World where
  respond _ := .transport .timeoutError
  passes _ := 0
  nonneg _ := le_refl _

theorem serve_withinBudget_down :
    Served 30 (serve downWorld 9 ⟨30, none, 0, 0, 0, 0, []⟩).1
      (serve downWorld 9 ⟨30, none, 0, 0, 0, 0, []⟩).2 :=
  @serve_withinBudget downWorld 9 30 0 _ (if_neg (by decide))

end Example

end OptimizrActions.PrMetadata
