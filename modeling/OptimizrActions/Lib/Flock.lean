import Mathlib.Logic.Function.Basic
import Mathlib.Logic.Relation

/-! Processes that work on shared data under file locks, their steps in any order. -/

namespace OptimizrActions.Flock

open Relation

inductive Mode
  | shared
  | exclusive
  deriving DecidableEq

/-- Two processes may hold one lock like this. -/
def Mode.Compatible : Mode → Mode → Prop
  | .shared, .shared => True
  | _, _ => False

/-- What a step does to the locks of its process: `refused` is an attempt that does not block. -/
inductive Op (Key : Type)
  | keep
  | lock (key : Key) (mode : Mode)
  | refused (key : Key) (mode : Mode)
  | unlock (key : Key)
  | close

variable {Proc Key Local Data : Type}

abbrev Table (Proc Key : Type) : Type := Proc → Key → Option Mode

/-- No other process stands in the way of the lock. -/
def Grants (held : Table Proc Key) (p : Proc) (key : Key) (mode : Mode) : Prop :=
  ∀ q, q ≠ p → ∀ other, held q key = some other → mode.Compatible other

def Op.Enabled (held : Table Proc Key) (p : Proc) : Op Key → Prop
  | .lock key mode => Grants held p key mode
  | .refused key mode => ¬Grants held p key mode
  | _ => True

def Op.apply [DecidableEq Key] (own : Key → Option Mode) : Op Key → Key → Option Mode
  | .keep => own
  | .lock key mode => Function.update own key (some mode)
  | .refused _ _ => own
  | .unlock key => Function.update own key none
  | .close => fun _ => none

/-- The locks that are held go together. -/
def Sound (held : Table Proc Key) : Prop :=
  ∀ p q, p ≠ q → ∀ key mode other, held p key = some mode → held q key = some other →
    mode.Compatible other

/-- What each process does next, from its place and the data. -/
structure Protocol (Proc Key Local Data : Type) where
  start : Proc → Local
  initial : Data → Prop
  step : Proc → Local → Data → Op Key → Local → Data → Prop

structure State (Proc Key Local Data : Type) where
  held : Table Proc Key
  place : Proc → Local
  data : Data

theorem Mode.Compatible.symm {a b : Mode} (h : a.Compatible b) : b.Compatible a := by
  cases a <;> cases b <;> exact h

theorem Mode.not_compatible_exclusive {a : Mode} : ¬a.Compatible .exclusive := by
  cases a <;> exact id

theorem Sound.alone {held : Table Proc Key} (sound : Sound held) {p q : Proc} {key : Key}
    {mode : Mode} (mine : held p key = some .exclusive) (others : held q key = some mode) :
    p = q := by
  by_contra differ
  exact Mode.not_compatible_exclusive (sound q p (Ne.symm differ) key mode .exclusive others mine)

/-- A process waits for another one that holds the lock at which it stands. -/
def WaitsFor (awaits : Proc → Local → Option (Key × Mode)) (s : State Proc Key Local Data)
    (p q : Proc) : Prop :=
  ∃ key mode other, awaits p (s.place p) = some (key, mode) ∧ q ≠ p ∧ s.held q key = some other ∧
    ¬mode.Compatible other

def Blocked (awaits : Proc → Local → Option (Key × Mode)) (s : State Proc Key Local Data)
    (p : Proc) : Prop := ∃ q, WaitsFor awaits s p q

/-- Locks are awaited in the order of their ranks. -/
def Ordered (holds : Proc → Local → Key → Option Mode)
    (awaits : Proc → Local → Option (Key × Mode)) (rank : Key → Nat) : Prop :=
  ∀ p place key mode, awaits p place = some (key, mode) → ∀ other own,
    holds p place other = some own → rank other < rank key

section

variable {awaits : Proc → Local → Option (Key × Mode)} {s : State Proc Key Local Data} {p : Proc}

theorem not_blocked_of_awaits_none (h : awaits p (s.place p) = none) : ¬Blocked awaits s p := by
  rintro ⟨q, key, mode, other, wanted, -⟩
  rw [h] at wanted
  cases wanted

theorem grants_of_not_blocked {key : Key} {mode : Mode} (free : ¬Blocked awaits s p)
    (wanted : awaits p (s.place p) = some (key, mode)) : Grants s.held p key mode := by
  intro q differ other theirs
  by_contra clash
  exact free ⟨q, key, mode, other, wanted, differ, theirs, clash⟩

end

variable [DecidableEq Key]

/-- A lock that a process has after a step was its own before, or it was granted. -/
theorem Op.of_apply {held : Table Proc Key} {p : Proc} {op : Op Key} (enabled : op.Enabled held p)
    {key : Key} {mode : Mode} (h : op.apply (held p) key = some mode) :
    held p key = some mode ∨ Grants held p key mode := by
  cases op with
  | keep => exact .inl h
  | refused _ _ => exact .inl h
  | close => cases h
  | unlock other =>
    by_cases same : key = other
    · simp [Op.apply, same] at h
    · exact .inl (by simpa [Op.apply, same] using h)
  | lock other wanted =>
    by_cases same : key = other
    · subst same
      obtain rfl : wanted = mode := by simpa [Op.apply] using h
      exact .inr enabled
    · exact .inl (by simpa [Op.apply, same] using h)

variable [DecidableEq Proc]

theorem Sound.update {held : Table Proc Key} (sound : Sound held) {p : Proc} {op : Op Key}
    (enabled : op.Enabled held p) : Sound (Function.update held p (op.apply (held p))) := by
  have mine {q : Proc} (differ : q ≠ p) {key : Key} {mode other : Mode}
      (after : op.apply (held p) key = some mode) (theirs : held q key = some other) :
      mode.Compatible other := by
    rcases Op.of_apply enabled after with before | granted
    · exact sound p q (Ne.symm differ) key mode other before theirs
    · exact granted q differ other theirs
  intro a b differ key mode other ha hb
  by_cases isA : a = p
  · subst isA
    rw [Function.update_self] at ha
    rw [Function.update_of_ne (Ne.symm differ)] at hb
    exact mine (Ne.symm differ) ha hb
  · rw [Function.update_of_ne isA] at ha
    by_cases isB : b = p
    · subst isB
      rw [Function.update_self] at hb
      exact (mine isA hb ha).symm
    · rw [Function.update_of_ne isB] at hb
      exact sound a b differ key mode other ha hb

section Runs

variable (protocol : Protocol Proc Key Local Data)

/-- One process takes a step, as far as the locks allow it. -/
inductive Step : State Proc Key Local Data → Proc → State Proc Key Local Data → Prop
  | of {held : Table Proc Key} {place : Proc → Local} {data data' : Data} {p : Proc} {op : Op Key}
    {next : Local} : protocol.step p (place p) data op next data' → op.Enabled held p →
    Step ⟨held, place, data⟩ p
      ⟨Function.update held p (op.apply (held p)), Function.update place p next, data'⟩

inductive Reachable : State Proc Key Local Data → Prop
  | start {data : Data} : protocol.initial data →
    Reachable ⟨fun _ _ => none, protocol.start, data⟩
  | step {s s' : State Proc Key Local Data} {p : Proc} : Reachable s → Step protocol s p s' →
    Reachable s'

/-- The place of a process tells which locks it holds. -/
structure Accounts (holds : Proc → Local → Key → Option Mode) (proper : Proc → Local → Prop) :
    Prop where
  startProper : ∀ p, proper p (protocol.start p)
  startHolds : ∀ p key, holds p (protocol.start p) key = none
  stepProper : ∀ p place data op place' data', protocol.step p place data op place' data' →
    proper p place → proper p place'
  stepHolds : ∀ p place data op place' data', protocol.step p place data op place' data' →
    proper p place → holds p place' = op.apply (holds p place)

end Runs

section

variable {protocol : Protocol Proc Key Local Data} {s s' : State Proc Key Local Data} {p q : Proc}
  {holds : Proc → Local → Key → Option Mode} {proper : Proc → Local → Prop}
  {awaits : Proc → Local → Option (Key × Mode)}

/-- In every run the locks go together, and each process holds what its place says. -/
theorem Accounts.reachable (accounts : Accounts protocol holds proper)
    (reachable : Reachable protocol s) :
    Sound s.held ∧ (∀ p, proper p (s.place p)) ∧ ∀ p, s.held p = holds p (s.place p) := by
  induction reachable with
  | start data =>
    refine ⟨fun p q _ key mode other h => ?_, accounts.startProper, fun p => ?_⟩
    · cases h
    · funext key
      exact (accounts.startHolds p key).symm
  | @step s s' p _ taken ih =>
    obtain ⟨sound, isProper, same⟩ := ih
    cases taken with
    | @of held place data data' _ op next step enabled =>
      refine ⟨sound.update enabled, fun q => ?_, fun q => ?_⟩
      · by_cases isP : q = p
        · subst isP
          simpa using accounts.stepProper _ _ _ _ _ _ step (isProper q)
        · simpa [isP] using isProper q
      · by_cases isP : q = p
        · subst isP
          simp [accounts.stepHolds _ _ _ _ _ _ step (isProper q), ← same q]
        · simpa [isP] using same q

/-- Whoever waits, waits in the end for a process that does not wait. -/
theorem exists_not_blocked (accounts : Accounts protocol holds proper) {rank : Key → Nat}
    (ordered : Ordered holds awaits rank) {bound : Nat} (below : ∀ key, rank key ≤ bound)
    (reachable : Reachable protocol s) (p : Proc) :
    ∃ q, ReflTransGen (WaitsFor awaits s) p q ∧ ¬Blocked awaits s q := by
  have same := (accounts.reachable reachable).2.2
  -- the rank of the lock at which a process stands rises along the chain
  have climb (n : Nat) : ∀ p, (∀ key mode, awaits p (s.place p) = some (key, mode) →
      bound < rank key + n) → ∃ q, ReflTransGen (WaitsFor awaits s) p q ∧ ¬Blocked awaits s q := by
    induction n with
    | zero =>
      intro p high
      refine ⟨p, .refl, ?_⟩
      rintro ⟨q, key, mode, other, wanted, -⟩
      exact absurd (high key mode wanted) (Nat.not_lt.mpr (below key))
    | succ n ih =>
      intro p high
      by_cases blocked : Blocked awaits s p
      · obtain ⟨q, waits⟩ := blocked
        obtain ⟨key, mode, other, wanted, -, theirs, -⟩ := id waits
        rw [same q] at theirs
        obtain ⟨last, path, free⟩ := ih q fun key' mode' wanted' => by
          have rises := ordered q _ key' mode' wanted' key other theirs
          have := high key mode wanted
          omega
        exact ⟨last, .head waits path, free⟩
      · exact ⟨p, .refl, blocked⟩
  exact climb (bound + 1) p fun key mode _ => by omega

end

end OptimizrActions.Flock
