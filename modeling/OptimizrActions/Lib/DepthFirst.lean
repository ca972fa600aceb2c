import Mathlib.Data.List.Basic
import Mathlib.Logic.Relation

/-! Depth-first order over a graph whose nodes are identified by a key: a node is
entered unless its key was entered before. -/

universe u v

namespace OptimizrActions.DepthFirst

variable {α : Type u} {κ : Type v} [DecidableEq κ] (key : α → κ) (children : α → List α)

/-- The nodes entered so far and those entered below `a`, to a depth bound. -/
def enter : Nat → List α → α → List α
  | 0, entered, _ => entered
  | fuel + 1, entered, a =>
    if key a ∈ entered.map key then entered
    else (children a).foldl (enter fuel) (entered ++ [a])

def Reaches : α → α → Prop := Relation.ReflTransGen fun a b => b ∈ children a

variable {key children}

theorem enter_of_mem {fuel : Nat} {entered : List α} {a : α} (h : key a ∈ entered.map key) :
    enter key children fuel entered a = entered := by
  cases fuel with
  | zero => rfl
  | succ fuel => rw [enter, if_pos h]

theorem foldl_extends {step : List α → α → List α} (h : ∀ l a, l <+: step l a) (l as : List α) :
    l <+: as.foldl step l := by
  induction as generalizing l with
  | nil => exact List.prefix_refl l
  | cons a as ih => exact (h l a).trans (ih (step l a))

theorem enter_extends (fuel : Nat) (entered : List α) (a : α) :
    entered <+: enter key children fuel entered a := by
  induction fuel generalizing entered a with
  | zero => exact List.prefix_refl entered
  | succ fuel ih =>
    rw [enter]
    split
    · exact List.prefix_refl entered
    · exact (List.prefix_append entered [a]).trans (foldl_extends ih _ _)

theorem self_mem_enter {fuel : Nat} {entered : List α} {a : α} (h : key a ∉ entered.map key) :
    a ∈ enter key children (fuel + 1) entered a := by
  rw [enter, if_neg h]
  apply (foldl_extends (enter_extends fuel) _ _).subset
  exact List.mem_append_right _ List.mem_cons_self

theorem foldl_reaches {step : List α → α → List α} {root : α} {l as : List α}
    (h : ∀ l a, (∀ b ∈ l, Reaches children root b) → Reaches children root a →
      ∀ b ∈ step l a, Reaches children root b)
    (start : ∀ b ∈ l, Reaches children root b) (below : ∀ a ∈ as, Reaches children root a) :
    ∀ b ∈ as.foldl step l, Reaches children root b := by
  induction as generalizing l with
  | nil => exact start
  | cons a as ih =>
    apply ih
    · exact h l a start (below a List.mem_cons_self)
    · exact fun b mem => below b (List.mem_cons_of_mem _ mem)

/-- Only nodes that can be reached are entered. -/
theorem enter_reaches {fuel : Nat} {root a : α} {entered : List α}
    (start : ∀ b ∈ entered, Reaches children root b) (reach : Reaches children root a) :
    ∀ b ∈ enter key children fuel entered a, Reaches children root b := by
  induction fuel generalizing entered a with
  | zero => exact start
  | succ fuel ih =>
    rw [enter]
    split
    · exact start
    · apply foldl_reaches (fun l c known step => ih known step)
      · intro b mem
        cases List.mem_append.mp mem with
        | inl old => exact start b old
        | inr new =>
          rw [List.mem_singleton.mp new]
          exact reach
      · intro c mem
        exact reach.tail mem

omit [DecidableEq κ] in
/-- When nodes with one key have the same children, the key of everything that can
be reached from an entered node whose relatives were entered is entered too. -/
theorem reaches_closed {root : α} {entered : List α} (start : root ∈ entered)
    (same : ∀ a b, Reaches children root a → Reaches children root b → key a = key b →
      children a = children b)
    (reach : ∀ a ∈ entered, Reaches children root a)
    (closed : ∀ a ∈ entered, ∀ b ∈ children a, key b ∈ entered.map key) {a : α}
    (h : Reaches children root a) : key a ∈ entered.map key := by
  induction h with
  | refl => exact List.mem_map_of_mem start
  | tail below step ih =>
    obtain ⟨b, mem, eq⟩ := List.mem_map.mp ih
    apply closed b mem
    rw [same b _ (reach b mem) below eq]
    exact step

end OptimizrActions.DepthFirst
