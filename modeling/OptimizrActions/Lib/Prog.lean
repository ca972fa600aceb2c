import Mathlib.Data.List.Basic

/-! Programs with a state and exceptions, and triples about them. -/

namespace OptimizrActions

/-- A raised exception keeps the state that was reached. -/
def Prog (σ ε α : Type) : Type := σ → Except ε α × σ

namespace Prog

variable {σ ε α β : Type}

instance : Monad (Prog σ ε) where
  pure a := fun s => (.ok a, s)
  bind m f := fun s => match m s with
    | (.ok a, s') => f a s'
    | (.error e, s') => (.error e, s')

theorem bind_of_ok {m : Prog σ ε α} {f : α → Prog σ ε β} {s s' : σ} {a : α}
    (h : m s = (.ok a, s')) : (m >>= f) s = f a s' := by
  simp only [Bind.bind, h]

theorem bind_of_error {m : Prog σ ε α} {f : α → Prog σ ε β} {s s' : σ} {e : ε}
    (h : m s = (.error e, s')) : (m >>= f) s = (.error e, s') := by
  simp only [Bind.bind, h]

def throw (e : ε) : Prog σ ε α := fun s => (.error e, s)

def get : Prog σ ε σ := fun s => (.ok s, s)

def modify (f : σ → σ) : Prog σ ε Unit := fun s => (.ok (), f s)

/-- `try: body except …: handler` -/
def tryCatch (body : Prog σ ε α) (handler : ε → Prog σ ε α) : Prog σ ε α := fun s =>
  match body s with
  | (.ok a, s') => (.ok a, s')
  | (.error e, s') => handler e s'

/-- `try: body finally: cleanup` -/
def finallyDo (body : Prog σ ε α) (cleanup : Prog σ ε Unit) : Prog σ ε α := fun s =>
  match body s with
  | (result, s') =>
    match cleanup s' with
    | (.ok _, s'') => (result, s'')
    | (.error e, s'') => (.error e, s'')

def ofExcept : Except ε α → Prog σ ε α
  | .ok a => pure a
  | .error e => throw e

def ensure (p : Prop) [Decidable p] (e : ε) : Prog σ ε Unit := if p then pure () else throw e

def forEach : List β → (β → Prog σ ε Unit) → Prog σ ε Unit
  | [], _ => pure ()
  | b :: bs, body => do
    body b
    forEach bs body

section

variable {f : β → Prog σ ε α} {s : σ}

theorem get_bind {f : σ → Prog σ ε α} : (get >>= f) s = f s s := rfl

theorem modify_bind {g : σ → σ} {f : Unit → Prog σ ε α} : (modify g >>= f) s = f () (g s) := rfl

theorem throw_bind {e : ε} : (throw e >>= f) s = (.error e, s) := rfl

theorem ensure_bind {p : Prop} [Decidable p] {e : ε} {f : Unit → Prog σ ε α} :
    (ensure p e >>= f) s = if p then f () s else (.error e, s) := by
  by_cases h : p
  · rw [if_pos h, ensure, if_pos h]
    rfl
  · rw [if_neg h, ensure, if_neg h]
    rfl

theorem ofExcept_bind {x : Except ε β} : (ofExcept x >>= f) s =
    match x with
    | .ok b => f b s
    | .error e => (.error e, s) := by
  cases x with
  | ok b => rfl
  | error e => rfl

end

/-- What is said of a program's end: `post` when it returns, `raised` when it raises. -/
def Outcome (post : α → σ → Prop) (raised : ε → σ → Prop) : Except ε α × σ → Prop
  | (.ok a, s) => post a s
  | (.error e, s) => raised e s

/-- From every state that satisfies `pre` the program returns in a state that
satisfies `post`, or raises in one that satisfies `raised`. -/
structure Triple (pre : σ → Prop) (prog : Prog σ ε α) (post : α → σ → Prop)
    (raised : ε → σ → Prop) : Prop where
  run : ∀ s, pre s → Outcome post raised (prog s)

namespace Triple

variable {pre pre' : σ → Prop} {post post' : α → σ → Prop} {next : β → σ → Prop}
  {raised raised' : ε → σ → Prop}

theorem pure {a : α} (h : ∀ s, pre s → post a s) :
    Triple pre (Pure.pure a : Prog σ ε α) post raised := ⟨h⟩

theorem throw {e : ε} (h : ∀ s, pre s → raised e s) :
    Triple pre (Prog.throw e : Prog σ ε α) post raised := ⟨h⟩

theorem get {post : σ → σ → Prop} (h : ∀ s, pre s → post s s) :
    Triple pre (Prog.get : Prog σ ε σ) post raised := ⟨h⟩

theorem modify {f : σ → σ} {post : Unit → σ → Prop} (h : ∀ s, pre s → post () (f s)) :
    Triple pre (Prog.modify f : Prog σ ε Unit) post raised := ⟨h⟩

theorem bind {m : Prog σ ε α} {f : α → Prog σ ε β} (first : Triple pre m post raised)
    (rest : ∀ a, Triple (post a) (f a) next raised) : Triple pre (m >>= f) next raised where
  run := by
    intro s h
    have step := first.run s h
    simp only [Bind.bind]
    cases eq : m s with
    | mk result s' =>
      rw [eq] at step
      cases result with
      | ok a => exact (rest a).run s' step
      | error e => exact step

/-- What is read is the state that the rest starts from. -/
theorem get_bind {f : σ → Prog σ ε α}
    (h : ∀ a, pre a → Triple (fun s => s = a) (f a) post raised) :
    Triple pre (Prog.get >>= f) post raised where
  run s start := (h s start).run s rfl

theorem conseq {m : Prog σ ε α} (h : Triple pre m post raised) (strong : ∀ s, pre' s → pre s)
    (weak : ∀ a s, post a s → post' a s) (weakRaised : ∀ e s, raised e s → raised' e s) :
    Triple pre' m post' raised' where
  run := by
    intro s start
    have step := h.run s (strong s start)
    cases eq : m s with
    | mk result s' =>
      rw [eq] at step
      cases result with
      | ok a => exact weak a s' step
      | error e => exact weakRaised e s' step

/-- The precondition is strengthened. -/
theorem of_pre {m : Prog σ ε α} (h : Triple pre m post raised) (strong : ∀ s, pre' s → pre s) :
    Triple pre' m post raised :=
  h.conseq strong (fun _ _ h => h) fun _ _ h => h

/-- What the precondition says apart from the state is a hypothesis. -/
theorem fact {q : Prop} {m : Prog σ ε α} (h : q → Triple pre m post raised) :
    Triple (fun s => q ∧ pre s) m post raised :=
  ⟨fun s start => (h start.1).run s start.2⟩

/-- A witness in the precondition is a variable. -/
theorem witness {ι : Type} {pre : ι → σ → Prop} {m : Prog σ ε α}
    (h : ∀ i, Triple (pre i) m post raised) : Triple (fun s => ∃ i, pre i s) m post raised :=
  ⟨fun s ⟨i, start⟩ => (h i).run s start⟩

/-- Less is said of the exceptions. -/
theorem of_raised {m : Prog σ ε α} (h : Triple pre m post raised)
    (weak : ∀ e s, raised e s → raised' e s) : Triple pre m post raised' :=
  h.conseq (fun _ h => h) (fun _ _ h => h) weak

theorem tryCatch {body : Prog σ ε α} {handler : ε → Prog σ ε α}
    (first : Triple pre body post raised) (rest : ∀ e, Triple (raised e) (handler e) post raised') :
    Triple pre (Prog.tryCatch body handler) post raised' where
  run := by
    intro s h
    have step := first.run s h
    simp only [Prog.tryCatch]
    cases eq : body s with
    | mk result s' =>
      rw [eq] at step
      cases result with
      | ok a => exact step
      | error e => exact (rest e).run s' step

/-- The cleanup runs after a return and after an exception. -/
theorem finallyDo {body : Prog σ ε α} {cleanup : Prog σ ε Unit}
    (first : Triple pre body post raised)
    (returned : ∀ a, Triple (post a) cleanup (fun _ => post' a) raised')
    (failed : ∀ e, Triple (raised e) cleanup (fun _ => raised' e) raised') :
    Triple pre (Prog.finallyDo body cleanup) post' raised' where
  run := by
    intro s h
    have step := first.run s h
    simp only [Prog.finallyDo]
    cases eq : body s with
    | mk result s' =>
      rw [eq] at step
      cases result with
      | ok a =>
        have last := (returned a).run s' step
        cases done : cleanup s' with
        | mk end_ s'' =>
          rw [done] at last
          cases end_ with
          | ok _ => exact last
          | error _ => exact last
      | error e =>
        have last := (failed e).run s' step
        cases done : cleanup s' with
        | mk end_ s'' =>
          rw [done] at last
          cases end_ with
          | ok _ => exact last
          | error _ => exact last

theorem ofExcept {x : Except ε α} (returns : ∀ a, x = .ok a → ∀ s, pre s → post a s)
    (raises : ∀ e, x = .error e → ∀ s, pre s → raised e s) :
    Triple pre (Prog.ofExcept x) post raised := by
  cases x with
  | ok a => exact pure (returns a rfl)
  | error e => exact throw (raises e rfl)

theorem ensure {p : Prop} [Decidable p] {e : ε} {post : Unit → σ → Prop}
    (holds : p → ∀ s, pre s → post () s) (fails : ¬p → ∀ s, pre s → raised e s) :
    Triple pre (Prog.ensure p e) post raised := by
  unfold Prog.ensure
  split
  · exact pure (holds ‹_›)
  · exact throw (fails ‹_›)

/-- The loop rule: `done` is what the state satisfies after a part of the list. -/
theorem forEach {body : β → Prog σ ε Unit} {items : List β} (done : List β → σ → Prop)
    (step : ∀ before item after, items = before ++ item :: after →
      Triple (done before) (body item) (fun _ => done (before ++ [item])) raised) :
    Triple (done []) (Prog.forEach items body) (fun _ => done items) raised := by
  have loop : ∀ rest before, items = before ++ rest →
      Triple (done before) (Prog.forEach rest body) (fun _ => done items) raised := by
    intro rest
    induction rest with
    | nil =>
      intro before eq
      rw [List.append_nil] at eq
      subst eq
      exact pure fun _ h => h
    | cons item rest ih =>
      intro before eq
      apply bind (step before item rest eq)
      intro _
      apply ih
      rw [eq, List.append_assoc]
      rfl
  exact loop items [] rfl

end Triple

/-- The invariant `inv` survives the program, whether it returns or raises. -/
def Preserves (inv : σ → Prop) (prog : Prog σ ε α) : Prop :=
  Triple inv prog (fun _ => inv) fun _ => inv

namespace Preserves

variable {inv : σ → Prop}

theorem ofExcept {x : Except ε α} : Preserves inv (Prog.ofExcept x : Prog σ ε α) :=
  Triple.ofExcept (fun _ _ _ h => h) fun _ _ _ h => h

theorem ensure {p : Prop} [Decidable p] {e : ε} : Preserves inv (Prog.ensure p e : Prog σ ε Unit) :=
  Triple.ensure (fun _ _ h => h) fun _ _ h => h

/-- First a program that keeps the state's invariant, then one that starts from it. -/
theorem bind {m : Prog σ ε α} {f : α → Prog σ ε β} {post : β → σ → Prop} {raised : ε → σ → Prop}
    (first : Preserves inv m) (weak : ∀ e s, inv s → raised e s)
    (rest : ∀ a, Triple inv (f a) post raised) : Triple inv (m >>= f) post raised :=
  Triple.bind (Triple.of_raised first weak) rest

end Preserves

end Prog

end OptimizrActions
