import OptimizrActions.Lib.Json

/-! Where the values inside a JSON value are. -/

namespace OptimizrActions.Json

inductive Key
  | field (name : String)
  | index (position : Nat)
  deriving DecidableEq

/-- The value that a path leads to. -/
def at? : List Key → Json → Option Json
  | [], value => some value
  | .field name :: path, .obj fields => (fields.lookup name).bind (at? path)
  | .index position :: path, .arr items => items[position]?.bind (at? path)
  | _ :: _, _ => none

@[simp] theorem at?_nil (value : Json) : at? [] value = some value := by
  cases value <;> rfl

theorem at?_field {name : String} {path : List Key} {value w : Json}
    (h : at? (.field name :: path) value = some w) :
    ∃ fields inner, value = .obj fields ∧ fields.lookup name = some inner ∧
      at? path inner = some w := by
  cases value with
  | obj fields =>
    obtain ⟨inner, found, rest⟩ := Option.bind_eq_some_iff.mp h
    exact ⟨fields, inner, rfl, found, rest⟩
  | _ => cases h

theorem at?_index {position : Nat} {path : List Key} {value w : Json}
    (h : at? (.index position :: path) value = some w) :
    ∃ items inner, value = .arr items ∧ items[position]? = some inner ∧
      at? path inner = some w := by
  cases value with
  | arr items =>
    obtain ⟨inner, found, rest⟩ := Option.bind_eq_some_iff.mp h
    exact ⟨items, inner, rfl, found, rest⟩
  | _ => cases h

end OptimizrActions.Json
