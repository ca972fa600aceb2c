import OptimizrActions.Lib.Prog

/-! Programs that ask a peer, and what they add to the log of questions and answers. -/

namespace OptimizrActions

structure Exchange (Query Answer : Type) where
  query : Query
  answer : Answer

/-- A peer sees all that happened before a question, and may answer anything. -/
abbrev Peer (Query Answer : Type) := List (Exchange Query Answer) → Query → Answer

abbrev Talk (Query Answer ε : Type) := Prog (List (Exchange Query Answer)) ε

namespace Talk

variable {Query Answer ε α β : Type}

def ask (peer : Peer Query Answer) (query : Query) : Talk Query Answer ε Answer := fun log =>
  (.ok (peer log query), log ++ [⟨query, peer log query⟩])

/-- What a program adds to every log, with its result, satisfies the specification. -/
structure Emits (prog : Talk Query Answer ε α)
    (spec : Except ε α → List (Exchange Query Answer) → Prop) : Prop where
  run : ∀ log, ∃ events, (prog log).2 = log ++ events ∧ spec (prog log).1 events

namespace Emits

variable {prog : Talk Query Answer ε α} {next : α → Talk Query Answer ε β}
  {spec spec' : Except ε α → List (Exchange Query Answer) → Prop}
  {later : α → Except ε β → List (Exchange Query Answer) → Prop}
  {whole : Except ε β → List (Exchange Query Answer) → Prop}

theorem pure {a : α} (h : spec (.ok a) []) :
    Emits (Pure.pure a : Talk Query Answer ε α) spec :=
  ⟨fun log => ⟨[], (List.append_nil log).symm, h⟩⟩

theorem throw {e : ε} (h : spec (.error e) []) :
    Emits (Prog.throw e : Talk Query Answer ε α) spec :=
  ⟨fun log => ⟨[], (List.append_nil log).symm, h⟩⟩

theorem ask {peer : Peer Query Answer} {query : Query}
    {spec : Except ε Answer → List (Exchange Query Answer) → Prop}
    (h : ∀ answer, spec (.ok answer) [⟨query, answer⟩]) :
    Emits (Talk.ask peer query : Talk Query Answer ε Answer) spec :=
  ⟨fun log => ⟨[⟨query, peer log query⟩], rfl, h _⟩⟩

theorem conseq (h : Emits prog spec) (weak : ∀ result events, spec result events → spec' result events) :
    Emits prog spec' where
  run := by
    intro log
    obtain ⟨events, added, holds⟩ := h.run log
    exact ⟨events, added, weak _ _ holds⟩

/-- First one program, then another where the first one returns. -/
theorem andThen {whole : Except ε β → List (Exchange Query Answer) → Prop} (first : Emits prog spec)
    (rest : ∀ a events, spec (.ok a) events →
      Emits (next a) fun result more => whole result (events ++ more))
    (stops : ∀ e events, spec (.error e) events → whole (.error e) events) :
    Emits (prog >>= next) whole where
  run := by
    intro log
    obtain ⟨events, added, holds⟩ := first.run log
    cases at_ : prog log with
    | mk result log' =>
      rw [at_] at added holds
      cases result with
      | error e =>
        rw [Prog.bind_of_error at_]
        exact ⟨events, added, stops e events holds⟩
      | ok a =>
        rw [Prog.bind_of_ok at_]
        obtain ⟨more, added', holds'⟩ := (rest a events holds).run log'
        refine ⟨events ++ more, ?_, holds'⟩
        rw [added', show log' = log ++ events from added, List.append_assoc]

theorem bind (first : Emits prog spec) (rest : ∀ a, Emits (next a) (later a))
    (stops : ∀ e events, spec (.error e) events → whole (.error e) events)
    (goes : ∀ a events result more, spec (.ok a) events → later a result more →
      whole result (events ++ more)) :
    Emits (prog >>= next) whole :=
  andThen first (fun a events holds => conseq (rest a) fun result more => goes a events result more holds)
    stops

theorem ensure {p : Prop} [Decidable p] {e : ε}
    {spec : Except ε Unit → List (Exchange Query Answer) → Prop} (holds : p → spec (.ok ()) [])
    (fails : ¬p → spec (.error e) []) :
    Emits (Prog.ensure p e : Talk Query Answer ε Unit) spec := by
  unfold Prog.ensure
  split
  · exact pure (holds ‹_›)
  · exact throw (fails ‹_›)

/-- A check before the program. -/
theorem ensure_bind {p : Prop} [Decidable p] {e : ε} {prog : Unit → Talk Query Answer ε β}
    (holds : p → Emits (prog ()) whole) (fails : ¬p → whole (.error e) []) :
    Emits ((Prog.ensure p e : Talk Query Answer ε Unit) >>= prog) whole where
  run := by
    intro log
    rw [Prog.ensure_bind]
    by_cases h : p
    · rw [if_pos h]
      exact (holds h).run log
    · rw [if_neg h]
      exact ⟨[], (List.append_nil log).symm, fails h⟩

/-- A value or an exception before the program. -/
theorem ofExcept_bind {x : Except ε α} {next : α → Talk Query Answer ε β}
    (returns : ∀ a, x = .ok a → Emits (next a) whole)
    (raises : ∀ e, x = .error e → whole (.error e) []) :
    Emits ((Prog.ofExcept x : Talk Query Answer ε α) >>= next) whole where
  run := by
    intro log
    rw [Prog.ofExcept_bind]
    cases x with
    | ok a => exact (returns a rfl).run log
    | error e => exact ⟨[], (List.append_nil log).symm, raises e rfl⟩

/-- A question before the program. -/
theorem ask_bind {peer : Peer Query Answer} {query : Query}
    {next : Answer → Talk Query Answer ε β}
    (h : ∀ answer, Emits (next answer) fun result events => whole result (⟨query, answer⟩ :: events)) :
    Emits (Talk.ask peer query >>= next) whole where
  run := by
    intro log
    obtain ⟨events, added, holds⟩ := (h (peer log query)).run (log ++ [⟨query, peer log query⟩])
    refine ⟨⟨query, peer log query⟩ :: events, ?_, holds⟩
    exact added.trans (List.append_assoc _ _ _)

/-- A program with a handler for what it raises. -/
theorem tryCatch {handler : ε → Talk Query Answer ε α}
    {caught : ε → Except ε α → List (Exchange Query Answer) → Prop} (body : Emits prog spec)
    (handled : ∀ e, Emits (handler e) (caught e))
    (returns : ∀ a events, spec (.ok a) events → spec' (.ok a) events)
    (goes : ∀ e events result more, spec (.error e) events → caught e result more →
      spec' result (events ++ more)) :
    Emits (Prog.tryCatch prog handler) spec' where
  run := by
    intro log
    obtain ⟨events, added, holds⟩ := body.run log
    rw [Prog.tryCatch]
    cases at_ : prog log with
    | mk result log' =>
      rw [at_] at added holds
      cases result with
      | ok a => exact ⟨events, added, returns a events holds⟩
      | error e =>
        obtain ⟨more, added', holds'⟩ := (handled e).run log'
        refine ⟨events ++ more, ?_, goes e events _ more holds holds'⟩
        rw [added', show log' = log ++ events from added, List.append_assoc]

/-- What each round adds to the log, a loop adds. -/
theorem forEach_mem {items : List β} {body : β → Talk Query Answer ε Unit}
    {allowed : Exchange Query Answer → Prop}
    (each : ∀ item ∈ items, Emits (body item) fun _ events => ∀ x ∈ events, allowed x) :
    Emits (Prog.forEach items body) fun _ events => ∀ x ∈ events, allowed x := by
  induction items with
  | nil => exact pure nofun
  | cons item items ih =>
    rw [List.forall_mem_cons] at each
    refine bind each.1 (fun _ => ih each.2) (fun _ _ h => h) fun _ events _ more one rest => ?_
    exact List.forall_mem_append.mpr ⟨one, rest⟩

end Emits

/-- All that a program adds to the log is allowed, and bears out the value that it returns. -/
def Within (allowed : Exchange Query Answer → Prop) (prog : Talk Query Answer ε α)
    (facts : α → List (Exchange Query Answer) → Prop) : Prop :=
  Emits prog fun result events => (∀ x ∈ events, allowed x) ∧ ∀ a, result = .ok a → facts a events

namespace Within

variable {allowed : Exchange Query Answer → Prop} {prog : Talk Query Answer ε α}
  {next : α → Talk Query Answer ε β} {facts facts' : α → List (Exchange Query Answer) → Prop}
  {whole : β → List (Exchange Query Answer) → Prop}

theorem pure {a : α} (h : facts a []) :
    Within allowed (Pure.pure a : Talk Query Answer ε α) facts := by
  refine Emits.pure ⟨List.forall_mem_nil _, fun b returned => ?_⟩
  cases returned
  exact h

theorem throw {e : ε} : Within allowed (Prog.throw e : Talk Query Answer ε α) facts := by
  refine Emits.throw ⟨List.forall_mem_nil _, fun a returned => ?_⟩
  cases returned

theorem conseq (h : Within allowed prog facts) (weak : ∀ a events, facts a events → facts' a events) :
    Within allowed prog facts' :=
  Emits.conseq h fun _ _ holds => ⟨holds.1, fun a returned => weak a _ (holds.2 a returned)⟩

/-- First only what is allowed, then a program of any kind. -/
theorem emits_bind {whole : Except ε β → List (Exchange Query Answer) → Prop}
    (first : Within allowed prog facts)
    (rest : ∀ a events, (∀ x ∈ events, allowed x) → facts a events →
      Emits (next a) fun result more => whole result (events ++ more))
    (stops : ∀ e events, (∀ x ∈ events, allowed x) → whole (.error e) events) :
    Emits (prog >>= next) whole :=
  Emits.andThen first (fun a events holds => rest a events holds.1 (holds.2 a rfl))
    fun e events holds => stops e events holds.1

theorem bind (first : Within allowed prog facts)
    (rest : ∀ a events, facts a events →
      Within allowed (next a) fun b more => whole b (events ++ more)) :
    Within allowed (prog >>= next) whole := by
  refine emits_bind first (fun a events holds returned => ?_) fun e events holds => ⟨holds, ?_⟩
  · exact Emits.conseq (rest a events returned) fun _ _ more =>
      ⟨List.forall_mem_append.mpr ⟨holds, more.1⟩, more.2⟩
  · intro b returned
    cases returned

theorem ask_bind {peer : Peer Query Answer} {query : Query} {next : Answer → Talk Query Answer ε β}
    (permitted : ∀ answer, allowed ⟨query, answer⟩)
    (rest : ∀ answer, Within allowed (next answer) fun b more => whole b (⟨query, answer⟩ :: more)) :
    Within allowed (Talk.ask peer query >>= next) whole :=
  Emits.ask_bind fun answer => Emits.conseq (rest answer) fun _ _ holds =>
    ⟨List.forall_mem_cons.mpr ⟨permitted answer, holds.1⟩, holds.2⟩

theorem ensure_bind {p : Prop} [Decidable p] {e : ε} {prog : Unit → Talk Query Answer ε β}
    (holds : p → Within allowed (prog ()) whole) :
    Within allowed ((Prog.ensure p e : Talk Query Answer ε Unit) >>= prog) whole := by
  refine Emits.ensure_bind holds fun _ => ⟨List.forall_mem_nil _, fun b returned => ?_⟩
  cases returned

theorem ofExcept_bind {x : Except ε α} (returns : ∀ a, x = .ok a → Within allowed (next a) whole) :
    Within allowed ((Prog.ofExcept x : Talk Query Answer ε α) >>= next) whole := by
  refine Emits.ofExcept_bind returns fun e _ => ⟨List.forall_mem_nil _, fun b returned => ?_⟩
  cases returned

end Within

/-- An event that is not in the first part of a log comes after that part. -/
theorem exists_of_not_mem {first second before after : List (Exchange Query Answer)}
    {x : Exchange Query Answer} (absent : x ∉ first) (h : first ++ second = before ++ x :: after) :
    ∃ between, before = first ++ between ∧ second = between ++ x :: after := by
  obtain inside | ⟨between, rfl, tail⟩ := List.append_eq_append_iff.mp h
  · exact inside
  · cases between with
    | nil => exact ⟨[], by simp, tail.symm⟩
    | cons y between =>
      rw [List.cons_append, List.cons.injEq] at tail
      exact absurd (List.mem_append_right _ (tail.1 ▸ List.mem_cons_self)) absent

end Talk

end OptimizrActions
