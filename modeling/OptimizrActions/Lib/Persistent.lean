import OptimizrActions.Lib.Check
import Mathlib.Order.Lattice

/-! Checks against a bound that only grows: what they return once, they return
ever after. -/

universe u v w

namespace OptimizrActions

variable {Time : Type u} {ε : Type v} {α β : Type w}

/-- What the check returns at one bound, it returns at every larger one. -/
def Persistent [Preorder Time] (check : Time → Except ε α) : Prop :=
  ∀ ⦃earlier later⦄, earlier ≤ later → ∀ ⦃a⦄, check earlier = .ok a → check later = .ok a

namespace Persistent

section

variable [Preorder Time]

theorem const (x : Except ε α) : Persistent fun _ : Time => x :=
  fun _ _ _ _ h => h

theorem notAfter [DecidableLE Time] (t : Time) (message : String) :
    Persistent fun bound : Time => require (t ≤ bound) message := by
  intro earlier later le u h
  exact require_eq_ok.mpr ((require_eq_ok.mp h).trans le)

theorem bind {x : Time → Except ε α} {f : Time → α → Except ε β} (hx : Persistent x)
    (hf : ∀ a, Persistent fun t => f t a) : Persistent fun t => x t >>= f t := by
  intro earlier later le b h
  obtain ⟨a, first, second⟩ := bind_eq_ok.mp h
  exact bind_eq_ok.mpr ⟨a, hx le first, hf a le second⟩

theorem congr {x y : Time → Except ε α} (hx : Persistent x) (h : ∀ t, y t = x t) :
    Persistent y := by
  rwa [show y = x from funext h]

end

/-- Two bounds at which the check passes: it returns the same value at both. -/
theorem unique [LinearOrder Time] {check : Time → Except ε α} (h : Persistent check) {s t : Time}
    {a b : α} (first : check s = .ok a) (second : check t = .ok b) : a = b := by
  cases le_total s t with
  | inl le => exact Except.ok.inj ((h le first).symm.trans second)
  | inr le => exact Except.ok.inj (first.symm.trans (h le second))

end Persistent

end OptimizrActions
