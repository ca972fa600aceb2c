import OptimizrActions.Remediation.Window
import Mathlib.Data.List.Induction

/-! What a covered finding and an allowed decision say about the observations. -/

namespace OptimizrActions.Remediation

open Calendar

section

variable {host : Host}

theorem entryFor_mem {entries : List Entry} {key : Fingerprint} {entry : Entry}
    (h : entryFor entries key = some entry) : entry ∈ entries ∧ entry.fingerprint = key := by
  refine ⟨List.mem_reverse.mp (List.mem_of_find?_eq_some h), ?_⟩
  simpa using List.find?_some h

/-- The entry is in force for an observation of this severity at this time. -/
structure InForce (entry : Entry) (severity : Severity) (evaluation firstSeen deadline : DateTime) :
    Prop where
  firstSeen_read : parse? entry.firstSeenAt = some firstSeen
  deadline_read : parse? entry.deadlineAt = some deadline
  seen : firstSeen ≤ evaluation
  notOverdue : evaluation ≤ deadline
  withinLimit : deadline.sub firstSeen ≤ DateTime.days (maxWindowDays severity)

/-- Coverage of one observation, as a condition on it and the loaded entries. -/
def CoveredBy (entries : List Entry) (evaluation : DateTime) (o : Observation) : Prop :=
  blockReason o = none ∧ ∃ entry firstSeen deadline,
    entryFor entries o.toFingerprint = some entry ∧ entry.status = .active ∧
      InForce entry o.severity evaluation firstSeen deadline

theorem evaluateEntry_covered {o : Observation} {entry : Entry} {evaluation : DateTime}
    {f : Finding} (h : evaluateEntry host o entry evaluation = .ok f) :
    isCovered f = true ↔ entry.status = .active ∧
      ∃ firstSeen deadline, InForce entry o.severity evaluation firstSeen deadline := by
  unfold evaluateEntry at h
  split at h
  · cases h
    simp_all [isCovered, findingResult]
  · have active : entry.status = .active := by simp_all
    simp only [bind_eq_ok, parseUtc_eq_ok] at h
    obtain ⟨firstSeen, first, deadline, last, h⟩ := h
    have force : (∃ firstSeen deadline, InForce entry o.severity evaluation firstSeen deadline) ↔
        InForce entry o.severity evaluation firstSeen deadline := by
      constructor
      · rintro ⟨firstSeen', deadline', force⟩
        cases first.symm.trans force.firstSeen_read
        cases last.symm.trans force.deadline_read
        exact force
      · exact fun force => ⟨_, _, force⟩
    rw [force]
    split_ifs at h with limit overdue future soon <;> cases h <;>
      simp only [isCovered, findingResult, active, true_and]
    · exact ⟨by rintro ⟨⟩, fun force => absurd force.withinLimit (not_le.mpr limit)⟩
    · exact ⟨by rintro ⟨⟩, fun force => absurd force.notOverdue (not_le.mpr overdue)⟩
    · exact ⟨by rintro ⟨⟩, fun force => absurd force.seen (not_le.mpr future)⟩
    all_goals
      exact ⟨fun _ => ⟨first, last, not_lt.mp future, not_lt.mp overdue, not_lt.mp limit⟩,
        fun _ => rfl⟩

theorem evaluateOne_covered {entries : List Entry} {evaluation : DateTime} {o : Observation}
    {f : Finding} (h : evaluateOne host entries evaluation o = .ok f) :
    isCovered f = true ↔ CoveredBy entries evaluation o := by
  unfold evaluateOne at h
  unfold CoveredBy
  split at h
  next reason block =>
    cases h
    simp [isCovered, findingResult, block]
  next block =>
    split at h
    next missing =>
      cases h
      simp [isCovered, findingResult, missing]
    next entry found =>
      simp [evaluateEntry_covered h, block, found]

/-- A covered observation is within its severity's limit after the first sighting. -/
theorem InForce.evaluation_le {entry : Entry} {severity : Severity}
    {evaluation firstSeen deadline : DateTime}
    (h : InForce entry severity evaluation firstSeen deadline) :
    evaluation.sub firstSeen ≤ DateTime.days (maxWindowDays severity) := by
  have late : evaluation.sub firstSeen ≤ deadline.sub firstSeen := by
    have := DateTime.le_def.mp h.notOverdue
    simp only [DateTime.sub]
    omega
  exact late.trans h.withinLimit

/-! ### De-duplication -/

/-- The observation at an index canonicalizes to `o`. -/
def CanonicalAt (host : Host) (observations : List Mapping) (index : Nat) (o : Observation) : Prop :=
  ∃ raw, observations[index]? = some raw ∧ canonicalObservation host index raw = .ok o

/-- An earlier observation has the same de-duplication key. -/
def Repeated (host : Host) (observations : List Mapping) (index : Nat) (o : Observation) : Prop :=
  ∃ earlier < index, ∃ o', CanonicalAt host observations earlier o' ∧ dedupeKey o' = dedupeKey o

theorem collect_append (index : Nat) (s : Collected) (raws : List Mapping) (raw : Mapping) :
    collect host index s (raws ++ [raw]) =
      collectOne host (index + raws.length) (collect host index s raws) raw := by
  induction raws generalizing index s with
  | nil => rfl
  | cons x xs ih =>
    simp only [List.cons_append, collect, ih, List.length_cons]
    congr 1
    omega

theorem canonicalAt_append {raws : List Mapping} {raw : Mapping} {index : Nat} {o : Observation} :
    CanonicalAt host (raws ++ [raw]) index o ↔
      CanonicalAt host raws index o ∨
        index = raws.length ∧ canonicalObservation host raws.length raw = .ok o := by
  unfold CanonicalAt
  rcases Nat.lt_trichotomy index raws.length with lt | rfl | gt
  · simp [List.getElem?_append_left lt, lt.ne]
  · simp
  · have none : (raws ++ [raw])[index]? = none := by simp; omega
    simp [none, List.getElem?_eq_none gt.le, gt.ne']

theorem CanonicalAt.lt_length {raws : List Mapping} {index : Nat} {o : Observation}
    (h : CanonicalAt host raws index o) : index < raws.length := by
  obtain ⟨raw, at_, -⟩ := h
  exact (List.getElem?_eq_some_iff.mp at_).1

theorem repeated_append {raws : List Mapping} {raw : Mapping} {index : Nat} {o : Observation}
    (le : index ≤ raws.length) :
    Repeated host (raws ++ [raw]) index o ↔ Repeated host raws index o := by
  unfold Repeated
  refine exists_congr fun earlier => and_congr_right fun lt => exists_congr fun o' => ?_
  rw [canonicalAt_append]
  simp [show earlier ≠ raws.length by omega]

theorem mem_keys_collect {raws : List Mapping} {key : Fingerprint × String} :
    key ∈ (collect host 0 ⟨[], []⟩ raws).normalized.map dedupeKey ↔
      ∃ index o, CanonicalAt host raws index o ∧ dedupeKey o = key := by
  induction raws using List.reverseRecOn with
  | nil => simp [collect, CanonicalAt]
  | append_singleton raws raw ih =>
    rw [collect_append]
    simp only [canonicalAt_append, or_and_right, exists_or, ← ih, Nat.zero_add, collectOne]
    cases canon : canonicalObservation host raws.length raw with
    | error reason => simp
    | ok o =>
      simp only [Except.ok.injEq]
      split
      next seen =>
        constructor
        · exact .inl
        · rintro (old | ⟨_, o', ⟨-, rfl⟩, rfl⟩)
          · exact old
          · exact seen
      next => simp [eq_comm]

theorem mem_collect {raws : List Mapping} {o : Observation} :
    o ∈ (collect host 0 ⟨[], []⟩ raws).normalized ↔
      ∃ index, CanonicalAt host raws index o ∧ ¬Repeated host raws index o := by
  induction raws using List.reverseRecOn with
  | nil => simp [collect, CanonicalAt]
  | append_singleton raws raw ih =>
    -- The old indices keep their answer; the new one is kept when its key is new.
    have split : (∃ index, CanonicalAt host (raws ++ [raw]) index o ∧
        ¬Repeated host (raws ++ [raw]) index o) ↔
        o ∈ (collect host 0 ⟨[], []⟩ raws).normalized ∨
          canonicalObservation host raws.length raw = .ok o ∧
            dedupeKey o ∉ (collect host 0 ⟨[], []⟩ raws).normalized.map dedupeKey := by
      rw [ih, mem_keys_collect]
      constructor
      · rintro ⟨index, at_, fresh⟩
        rcases canonicalAt_append.mp at_ with old | ⟨rfl, new⟩
        · exact .inl ⟨index, old, fun r => fresh ((repeated_append old.lt_length.le).mpr r)⟩
        · refine .inr ⟨new, fun ⟨j, o', old, same⟩ => fresh ?_⟩
          exact (repeated_append le_rfl).mpr ⟨j, old.lt_length, o', old, same⟩
      · rintro (⟨index, old, fresh⟩ | ⟨new, fresh⟩)
        · exact ⟨index, canonicalAt_append.mpr (.inl old),
            fun r => fresh ((repeated_append old.lt_length.le).mp r)⟩
        · refine ⟨raws.length, canonicalAt_append.mpr (.inr ⟨rfl, new⟩), fun r => fresh ?_⟩
          obtain ⟨j, -, o', old, same⟩ := (repeated_append le_rfl).mp r
          exact ⟨j, o', old, same⟩
    rw [split, collect_append, Nat.zero_add, collectOne]
    cases canon : canonicalObservation host raws.length raw with
    | error reason => simp
    | ok o' =>
      simp only [Except.ok.injEq]
      split
      next seen =>
        constructor
        · exact .inl
        · rintro (old | ⟨rfl, fresh⟩)
          · exact old
          · exact absurd seen fresh
      next fresh =>
        simp only [List.mem_append, List.mem_singleton]
        constructor
        · rintro (old | rfl)
          · exact .inl old
          · exact .inr ⟨rfl, fresh⟩
        · rintro (old | ⟨rfl, -⟩)
          · exact .inl old
          · exact .inr rfl

theorem rejected_collect_eq_nil {raws : List Mapping} :
    (collect host 0 ⟨[], []⟩ raws).rejected = [] ↔
      ∀ index < raws.length, ∃ o, CanonicalAt host raws index o := by
  induction raws using List.reverseRecOn with
  | nil => simp [collect]
  | append_singleton raws raw ih =>
    have step : (∀ index < (raws ++ [raw]).length, ∃ o, CanonicalAt host (raws ++ [raw]) index o) ↔
        (∀ index < raws.length, ∃ o, CanonicalAt host raws index o) ∧
          ∃ o, canonicalObservation host raws.length raw = .ok o := by
      simp only [canonicalAt_append, List.length_append, List.length_singleton]
      constructor
      · refine fun all => ⟨fun index lt => ?_, ?_⟩
        · obtain ⟨o, old | ⟨rfl, -⟩⟩ := all index (by omega)
          · exact ⟨o, old⟩
          · omega
        · obtain ⟨o, old | ⟨-, new⟩⟩ := all raws.length (by omega)
          · exact absurd old.lt_length (lt_irrefl _)
          · exact ⟨o, new⟩
      · rintro ⟨all, o, new⟩ index lt
        rcases Nat.lt_or_ge index raws.length with lt | ge
        · obtain ⟨o, old⟩ := all index lt
          exact ⟨o, .inl old⟩
        · exact ⟨o, .inr ⟨by omega, new⟩⟩
    rw [step, ← ih, collect_append, Nat.zero_add, collectOne]
    cases canonicalObservation host raws.length raw with
    | error reason => simp
    | ok o =>
      simp only [Except.ok.injEq, exists_eq', and_true]
      split <;> rfl

theorem rejected_of_mem_collect {raws : List Mapping} {f : Finding}
    (h : f ∈ (collect host 0 ⟨[], []⟩ raws).rejected) :
    ∃ raw reason, f = normalizationFinding host raw reason := by
  induction raws using List.reverseRecOn with
  | nil => cases h
  | append_singleton raws raw ih =>
    rw [collect_append, collectOne] at h
    split at h
    next reason _ =>
      cases List.mem_append.mp h with
      | inl old => exact ih old
      | inr new => exact ⟨raw, reason, List.mem_singleton.mp new⟩
    next =>
      split at h <;> exact ih h

theorem collect_eq_nil (host : Host) (raws : List Mapping) :
    (collect host 0 ⟨[], []⟩ raws).normalized = [] ∧
      (collect host 0 ⟨[], []⟩ raws).rejected = [] ↔ raws = [] := by
  constructor
  · rintro ⟨empty, clean⟩
    by_contra ne
    obtain ⟨o, at_⟩ := rejected_collect_eq_nil.mp clean 0 (List.length_pos_iff.mpr ne)
    have : o ∈ (collect host 0 ⟨[], []⟩ raws).normalized :=
      mem_collect.mpr ⟨0, at_, fun ⟨_, lt, _⟩ => absurd lt (Nat.not_lt_zero _)⟩
    rw [empty] at this
    cases this
  · rintro rfl
    exact ⟨rfl, rfl⟩

/-! ### The findings and the verdict -/

theorem mapM_length {α β : Type} {f : α → Except String β} {xs : List α} {ys : List β}
    (h : xs.mapM f = .ok ys) : ys.length = xs.length := by
  induction xs generalizing ys with
  | nil => cases h; rfl
  | cons x xs ih =>
    simp only [List.mapM_cons, bind_eq_ok, pure_eq_ok] at h
    obtain ⟨y, -, ys, rest, rfl⟩ := h
    simp [ih rest]

theorem mapM_all {α β : Type} {f : α → Except String β} {xs : List α} {ys : List β}
    {p : β → Prop} {q : α → Prop} (h : xs.mapM f = .ok ys)
    (step : ∀ x y, f x = .ok y → (p y ↔ q x)) : (∀ y ∈ ys, p y) ↔ ∀ x ∈ xs, q x := by
  induction xs generalizing ys with
  | nil => cases h; simp
  | cons x xs ih =>
    simp only [List.mapM_cons, bind_eq_ok, pure_eq_ok] at h
    obtain ⟨y, first, ys, rest, rfl⟩ := h
    simp [ih rest, step x y first]

theorem verdict_allowed {result : Evaluation} (blocked : result.remediationWindowAllowed = false) :
    (verdict result).allowed = true ↔ result.uncoveredBlockingFindings = 0 := by
  unfold verdict
  split_ifs <;> simp [*]

end

end OptimizrActions.Remediation
