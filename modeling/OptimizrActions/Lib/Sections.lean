import OptimizrActions.Lib.Flock

/-! Processes that run through scripts, each with sections under a lock of its own. -/

namespace OptimizrActions.Flock

/-- What a line of a script is to the lock of its process. -/
inductive Effect
  | enter
  | leave
  | work
  | idle
  deriving DecidableEq

def Effect.op {Key : Type} (key : Key) : Effect → Op Key
  | .enter => .lock key .exclusive
  | .leave => .unlock key
  | .work | .idle => .keep

variable {Proc Key Line : Type}

/-- Whether the lock is held after these lines. -/
def inside (effect : Line → Effect) (lines : List Line) : Bool :=
  lines.foldl (fun now line => match effect line with
    | .enter => true
    | .leave => false
    | .work | .idle => now) false

/-- Work is only done under the lock. -/
def Guarded (effect : Line → Effect) (lines : List Line) : Prop :=
  ∀ before line after, lines = before ++ line :: after → effect line = .work →
    inside effect before = true

/-- The lines of one process in a common trace. -/
def linesOf [DecidableEq Proc] (p : Proc) (trace : List (Proc × Line)) : List Line :=
  trace.filterMap fun entry => if entry.1 = p then some entry.2 else none

/-- How far a process is in its script. -/
structure Progress (Line : Type) where
  done : List Line
  left : List Line

/-- The processes take the lines of their scripts one by one, and leave a common trace. -/
def replay (effect : Line → Effect) (lock : Proc → Key) (script : Proc → List Line) :
    Protocol Proc Key (Progress Line) (List (Proc × Line)) where
  start p := ⟨[], script p⟩
  initial trace := trace = []
  step p place trace op place' trace' := ∃ line, place.left = line :: place'.left ∧
    place'.done = place.done ++ [line] ∧ op = (effect line).op (lock p) ∧
    trace' = trace ++ [(p, line)]

/-- No two processes with one lock work in turns: between a line of work of one and a later one of
the other the first leaves its section. -/
def Serialized (effect : Line → Effect) (lock : Proc → Key) (trace : List (Proc × Line)) : Prop :=
  ∀ before p first between q second after,
    trace = before ++ (p, first) :: between ++ (q, second) :: after → p ≠ q → lock p = lock q →
    effect first = .work → effect second = .work → ∃ line, (p, line) ∈ between ∧ effect line = .leave

variable {effect : Line → Effect} {lock : Proc → Key} {script : Proc → List Line}

theorem inside_append_singleton (lines : List Line) (line : Line) :
    inside effect (lines ++ [line]) = match effect line with
      | .enter => true
      | .leave => false
      | .work | .idle => inside effect lines := by
  rw [inside, List.foldl_append]
  rfl

/-- Who is inside stays there until a line leaves. -/
theorem inside_append {lines more : List Line} (start : inside effect lines = true)
    (stays : ∀ line ∈ more, effect line ≠ .leave) : inside effect (lines ++ more) = true := by
  induction more generalizing lines with
  | nil => rwa [List.append_nil]
  | cons line rest ih =>
    rw [List.forall_mem_cons] at stays
    rw [List.append_cons]
    refine ih ?_ stays.2
    rw [inside_append_singleton]
    cases isA : effect line with
    | enter => rfl
    | leave => exact absurd isA stays.1
    | work => exact start
    | idle => exact start

theorem guarded_nil : Guarded effect [] := by
  intro before line after eq
  exact absurd eq.symm (by simp)

theorem Guarded.append {lines : List Line} (h : Guarded effect lines) {line : Line}
    (may : effect line = .work → inside effect lines = true) : Guarded effect (lines ++ [line]) := by
  intro before other after eq works
  obtain rfl | ⟨after, last, rfl⟩ := List.eq_nil_or_concat after
  · obtain ⟨rfl, one⟩ := List.append_inj' eq rfl
    cases List.head_eq_of_cons_eq one
    exact may works
  · rw [List.concat_eq_append, ← List.cons_append, ← List.append_assoc] at eq
    exact h before other after (List.append_inj' eq rfl).1 works

section

variable [DecidableEq Proc]

theorem linesOf_append (p : Proc) (a b : List (Proc × Line)) :
    linesOf p (a ++ b) = linesOf p a ++ linesOf p b := List.filterMap_append

theorem linesOf_self (p : Proc) (line : Line) : linesOf p [(p, line)] = [line] := by
  simp [linesOf]

theorem linesOf_other {p q : Proc} (differ : q ≠ p) (line : Line) : linesOf p [(q, line)] = [] := by
  simp [linesOf, differ]

theorem mem_linesOf {p : Proc} {line : Line} {trace : List (Proc × Line)}
    (h : line ∈ linesOf p trace) : (p, line) ∈ trace := by
  obtain ⟨⟨q, other⟩, mem, same⟩ := List.mem_filterMap.mp h
  rw [Option.ite_none_right_eq_some] at same
  obtain ⟨rfl, same⟩ := same
  cases same
  exact mem

variable [DecidableEq Key]

/-- A process holds its lock while it is inside. -/
def replayHolds (effect : Line → Effect) (lock : Proc → Key) (p : Proc) (place : Progress Line) :
    Key → Option Mode :=
  Function.update (fun _ => none) (lock p)
    (if inside effect place.done = true then some .exclusive else none)

omit [DecidableEq Proc] in
theorem replay_accounts : Accounts (replay effect lock script) (replayHolds effect lock)
    fun p place => place.done ++ place.left = script p where
  startProper _ := rfl
  startHolds p key := by simp [replay, replayHolds, inside, Function.update_apply]
  stepProper := by
    rintro p place trace op place' trace' ⟨line, left, done, -, -⟩ proper
    rw [← proper, left, done, List.append_assoc, List.singleton_append]
  stepHolds := by
    rintro p place trace op place' trace' ⟨line, left, done, rfl, -⟩ -
    simp only [replayHolds, done, inside_append_singleton]
    cases effect line <;> simp [Effect.op, Op.apply]

variable {s : State Proc Key (Progress Line) (List (Proc × Line))}

/-- The trace has the lines that each process has done. -/
theorem linesOf_reachable (reachable : Reachable (replay effect lock script) s) (p : Proc) :
    linesOf p s.data = (s.place p).done := by
  induction reachable with
  | start empty =>
    rw [show _ = [] from empty]
    rfl
  | @step s s' q _ taken ih =>
    cases taken with
    | @of held place data data' _ op next step enabled =>
      obtain ⟨line, -, done, -, rfl⟩ := step
      rw [linesOf_append, show linesOf p data = (place p).done from ih]
      change _ = (Function.update place q next p).done
      by_cases own : p = q
      · subst own
        rw [linesOf_self, Function.update_self, done]
      · rw [linesOf_other (Ne.symm own), Function.update_of_ne own, List.append_nil]

/-- Two processes with one lock are not inside at the same time. -/
theorem alone_of_inside (reachable : Reachable (replay effect lock script) s) {p q : Proc}
    (same : lock p = lock q) (first : inside effect (s.place p).done = true)
    (second : inside effect (s.place q).done = true) : p = q := by
  obtain ⟨sound, -, held⟩ := replay_accounts.reachable reachable
  have holds {r : Proc} (is : inside effect (s.place r).done = true) :
      s.held r (lock r) = some .exclusive := by
    rw [held r, replayHolds, Function.update_self, if_pos is]
  have theirs := holds second
  rw [← same] at theirs
  exact sound.alone (holds first) theirs

/-- While nobody else is inside, a process can run its script to the end. -/
theorem run_alone (reachable : Reachable (replay effect lock script) s) {p : Proc}
    (alone : ∀ q, q ≠ p → inside effect (s.place q).done = false) :
    ∃ s', Reachable (replay effect lock script) s' ∧ s'.place p = ⟨script p, []⟩ ∧
      (∀ q, q ≠ p → s'.place q = s.place q) ∧
      s'.data = s.data ++ (s.place p).left.map fun line => (p, line) := by
  have proper := (replay_accounts.reachable reachable).2.1 p
  induction left : (s.place p).left generalizing s with
  | nil =>
    refine ⟨s, reachable, ?_, fun _ _ => rfl, (List.append_nil _).symm⟩
    rw [left, List.append_nil] at proper
    rw [← proper, ← left]
  | cons line rest ih =>
    have free : ((effect line).op (lock p)).Enabled s.held p := by
      cases effect line with
      | enter =>
        intro q differ other theirs
        rw [(replay_accounts.reachable reachable).2.2 q, replayHolds, alone q differ] at theirs
        simp [Function.update_apply] at theirs
      | leave => trivial
      | work => trivial
      | idle => trivial
    have step : (replay effect lock script).step p (s.place p) s.data ((effect line).op (lock p))
        ⟨(s.place p).done ++ [line], rest⟩ (s.data ++ [(p, line)]) :=
      ⟨line, left, rfl, rfl, rfl⟩
    have next := reachable.step (.of step free)
    obtain ⟨s', reached, whole, others, trace⟩ := ih next
      (fun q differ => by simpa [differ] using alone q differ)
      (by simpa [left] using proper) (by simp)
    refine ⟨s', reached, whole, fun q differ => ?_, ?_⟩
    · rw [others q differ]
      exact Function.update_of_ne differ _ _
    · rw [trace, List.append_assoc, List.map_cons, List.singleton_append]

/-- What a process has worked on and not left since, it is still inside of. -/
theorem inside_of_worked (guarded : Guarded effect (script p))
    (reachable : Reachable (replay effect lock script) s) {before between : List (Proc × Line)}
    {first : Line} (trace : s.data = before ++ (p, first) :: between) (works : effect first = .work)
    (stays : ∀ line, (p, line) ∈ between → effect line ≠ .leave) :
    inside effect (s.place p).done = true := by
  have done : (s.place p).done = linesOf p before ++ first :: linesOf p between := by
    rw [← linesOf_reachable reachable p, trace, linesOf_append, List.append_right_inj,
      ← List.singleton_append, linesOf_append, linesOf_self, List.singleton_append]
  have script := (replay_accounts.reachable reachable).2.1 p
  rw [done, List.append_assoc, List.cons_append] at script
  have start := guarded _ first _ script.symm works
  rw [done, List.append_cons, List.append_assoc]
  refine inside_append start fun line mem => ?_
  rcases List.mem_append.mp mem with own | later
  · rw [List.mem_singleton.mp own, works]
    exact Effect.noConfusion
  · exact stays line (mem_linesOf later)

/-- Scripts that work only under the lock are serialized in every order of their lines. -/
theorem serialized (guarded : ∀ p, Guarded effect (script p))
    (reachable : Reachable (replay effect lock script) s) : Serialized effect lock s.data := by
  induction reachable with
  | start empty =>
    intro before p first between q second after eq
    rw [show _ = [] from empty] at eq
    exact absurd eq.symm (by simp)
  | @step s s' r earlier taken ih =>
    cases taken with
    | @of held place data data' _ op next step enabled =>
      obtain ⟨line, left, done, -, rfl⟩ := step
      intro before p first between q second after eq differ same isFirst isSecond
      obtain rfl | ⟨after, last, rfl⟩ := List.eq_nil_or_concat after
      · obtain ⟨trace, one⟩ := List.append_inj' eq rfl
        cases List.head_eq_of_cons_eq one
        have own := guarded r _ line _
          (((replay_accounts.reachable earlier).2.1 r).symm.trans (congrArg _ left)) isSecond
        by_contra never
        have stays (line : Line) (mem : (p, line) ∈ between) : effect line ≠ .leave :=
          fun leaves => never ⟨line, mem, leaves⟩
        exact differ (alone_of_inside earlier same
          (inside_of_worked (guarded p) earlier trace isFirst stays) own)
      · rw [List.concat_eq_append, ← List.cons_append, ← List.append_assoc] at eq
        exact ih before p first between q second after (List.append_inj' eq rfl).1 differ same
          isFirst isSecond

end

end OptimizrActions.Flock
