import OptimizrActions.Delivery.Consistency
import OptimizrActions.Delivery.Protocol
import OptimizrActions.Lib.Sections

/-! Deliveries that run at the same time on one host. -/

namespace OptimizrActions.Delivery

open Prog Flock

/-- What an event is to the service lock. -/
def Event.effect : Event → Effect
  | .acquired => .enter
  | .released | .closed => .leave
  | .checkedOut _ | .gates _ _ | .sync _ => .work

/-- One call of `execute_delivery`, with all that it meets. -/
structure Call where
  fs : FileSystem
  lock : LockHost
  spec : ExecutorSpec
  runners : Runners

namespace Call

variable (unicodeWord : Char → Bool)

def log (call : Call) : List Event :=
  (executeDelivery unicodeWord call.fs call.spec call.runners call.lock []).2

/-- The lock file of the service, where the lock root can be used. -/
def lockPath (call : Call) : List String :=
  match lockRoot call.fs call.spec.lockRoot with
  | .ok root => root ++ [call.spec.checkout.request.service ++ ".lock"]
  | .error _ => []

end Call

/-- What holds of a log at every point of the locked section. -/
def Inside (log : List Event) : Prop :=
  Guarded Event.effect log ∧ inside Event.effect log = true

section

variable {unicodeWord : Char → Bool} {fs : FileSystem} {spec : ExecutorSpec} {runners : Runners}
  {lock : LockHost} {runner : DeliveryContext → Phase → Except Raised (List GateItem)}

theorem emit_inside {event : Event} (works : event.effect = .work) :
    Preserves Inside (emit event) := by
  refine Triple.modify fun log h => ⟨h.1.append fun _ => h.2, ?_⟩
  rw [inside_append_singleton, works]
  exact h.2

theorem throw_inside {α : Type} {e : Raised} : Preserves Inside (throw e : Run α) :=
  Triple.throw fun _ h => h

theorem checkoutStep_inside : Preserves Inside (checkoutStep fs spec runners) := by
  unfold checkoutStep
  split
  · exact throw_inside
  · exact throw_inside
  · exact throw_inside
  · exact (emit_inside rfl).bind (fun _ _ h => h) fun _ => Preserves.ofExcept

theorem runGates_inside {context : DeliveryContext} {phase : Phase} {required : List Json} :
    Preserves Inside (runGates unicodeWord runner context phase required) := by
  unfold runGates
  split
  · exact throw_inside
  · exact throw_inside
  · exact throw_inside
  · refine (emit_inside rfl).bind (fun _ _ h => h) fun _ => ?_
    split
    · exact Triple.pure fun _ h => h
    · split
      · exact throw_inside
      · exact throw_inside

theorem syncStep_inside {source : List String} : Preserves Inside (syncStep spec runners source) := by
  refine (emit_inside rfl).bind (fun _ _ h => h) fun _ => ?_
  split
  · exact throw_inside
  · exact throw_inside
  · exact Preserves.ofExcept

theorem lockedDelivery_inside :
    Preserves Inside (lockedDelivery unicodeWord fs spec runners runner) := by
  refine checkoutStep_inside.bind (fun _ _ h => h) fun checkout => ?_
  refine runGates_inside.bind (fun _ _ h => h) fun preflight => ?_
  split
  · exact Triple.pure fun _ h => h
  · refine syncStep_inside.bind (fun _ _ h => h) fun sync => ?_
    exact runGates_inside.bind (fun _ _ h => h) fun postflight => Triple.pure fun _ h => h

theorem inside_acquired : Inside [.acquired] :=
  ⟨guarded_nil.append fun works => absurd works (by decide), rfl⟩

theorem Guarded.append_end {log : List Event} (h : Guarded Event.effect log) {event : Event}
    (last : IsLockEnd event) : Guarded Event.effect (log ++ [event]) := by
  refine h.append fun works => ?_
  obtain rfl | rfl := last
  · cases works
  · cases works

theorem executeDelivery_guarded_triple :
    Triple (· = []) (executeDelivery unicodeWord fs spec runners lock)
      (fun _ => Guarded Event.effect) fun _ => Guarded Event.effect := by
  have outside : ∀ log : List Event, log = [] → Guarded Event.effect log := by
    rintro _ rfl
    exact guarded_nil
  refine Preserves.ofExcept.bind (fun _ => outside) fun _ => ?_
  split
  · exact Triple.throw outside
  next runner _ =>
    have body : Triple (· = [.acquired]) (lockedDelivery unicodeWord fs spec runners runner)
        (fun _ log => Guarded Event.effect log ∧ True) fun _ => Guarded Event.effect :=
      lockedDelivery_inside.conseq (fun log h => h ▸ inside_acquired) (fun _ _ h => ⟨h.1, trivial⟩)
        fun _ _ h => h.1
    have locked := @serviceLock_triple _ fs lock spec.lockRoot spec.checkout.request.service
      spec.lockTimeoutSeconds _ _ _ guarded_nil (fun _ _ last h => Guarded.append_end h last)
      (fun _ _ _ _ h => h) body
    refine (locked.conseq (fun _ h => h) (fun _ _ h => h.1.1) fun _ _ h => h.1).tryCatch fun e => ?_
    cases e <;> exact Triple.throw fun _ h => h

/-- Every callback of a delivery is made under its lock. -/
theorem Call.guarded (unicodeWord : Char → Bool) (call : Call) :
    Guarded Event.effect (call.log unicodeWord) := by
  have outcome := (@executeDelivery_guarded_triple unicodeWord call.fs call.spec call.runners
    call.lock).run [] rfl
  change Outcome _ _ (executeDelivery unicodeWord call.fs call.spec call.runners call.lock []) at outcome
  rw [Call.log]
  cases eq : executeDelivery unicodeWord call.fs call.spec call.runners call.lock [] with
  | mk result log =>
    rw [eq] at outcome
    cases result with
    | ok result => exact outcome
    | error e => exact outcome

end

/-- Any number of deliveries on one host, their events in any order that the lock files allow:
those with one lock file never run callbacks in turns. -/
theorem deliveries_serialized {Process : Type} [DecidableEq Process] (unicodeWord : Char → Bool)
    (calls : Process → Call)
    {s : State Process (List String) (Progress Event) (List (Process × Event))}
    (reachable : Reachable (replay Event.effect (fun p => (calls p).lockPath)
      fun p => (calls p).log unicodeWord) s) :
    Serialized Event.effect (fun p => (calls p).lockPath) s.data :=
  serialized (fun p => (calls p).guarded unicodeWord) reachable

/-- Two deliveries of one service whose gates pass. -/
def sampleCall : Call := ⟨sampleHost, sampleLock, sampleSpec, syncRunners wholeSync⟩

theorem deliveries_serialized_sample : ∃ s,
    Reachable (replay Event.effect (fun _ : Bool => sampleCall.lockPath)
      fun _ => sampleCall.log fun _ => false) s ∧
    linesOf true s.data = sampleCall.log (fun _ => false) ∧
    linesOf false s.data = sampleCall.log (fun _ => false) ∧
    Serialized Event.effect (fun _ => sampleCall.lockPath) s.data := by
  have closed : inside Event.effect (sampleCall.log fun _ => false) = false := by decide +kernel
  have start : Reachable (replay Event.effect (fun _ : Bool => sampleCall.lockPath)
      fun _ => sampleCall.log fun _ => false) _ := .start rfl
  obtain ⟨s, reached, first, others, -⟩ := run_alone start fun q (_ : q ≠ true) => rfl
  obtain ⟨s', reached', second, others', -⟩ := run_alone reached (p := false) fun q differ => by
    rw [Bool.eq_true_of_not_eq_false differ, first]
    exact closed
  refine ⟨s', reached', ?_, ?_, deliveries_serialized _ (fun _ => sampleCall) reached'⟩
  · rw [linesOf_reachable reached' true, others' true Bool.noConfusion, first]
  · rw [linesOf_reachable reached' false, second]

end OptimizrActions.Delivery
