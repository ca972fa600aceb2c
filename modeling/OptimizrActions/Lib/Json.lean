import Mathlib.Data.List.Basic
import Mathlib.Data.Rat.Defs

/-! JSON values as `json.loads` returns them. -/

namespace OptimizrActions

inductive Json where
  | null
  | bool (b : Bool)
  | int (n : Int)
  | float (q : Rat)
  /-- `NaN`, `Infinity` and `-Infinity`. -/
  | nonfinite (text : String)
  | str (s : String)
  | arr (items : List Json)
  | obj (fields : List (String × Json))
  deriving Repr, Inhabited

/-- A Python mapping with text keys. -/
abbrev Mapping := List (String × Json)

namespace Mapping

/-- `payload.get(field)`: an absent field reads as `None`. -/
def get (payload : Mapping) (field : String) : Json :=
  (payload.lookup field).getD .null

/-- `payload.get(field, default)` -/
def getD (payload : Mapping) (field : String) (default : Json) : Json :=
  (payload.lookup field).getD default

@[simp] theorem get_nil (field : String) : get [] field = .null := rfl

theorem get_cons (key field : String) (value : Json) (rest : Mapping) :
    get ((key, value) :: rest) field = if field = key then value else get rest field := by
  by_cases h : field = key
  · subst h
    simp [get, List.lookup_cons]
  · have hne : (field == key) = false := beq_false_of_ne h
    simp [get, List.lookup_cons, hne, h]

/-- `payload[field] = value` -/
def set (payload : Mapping) (field : String) (value : Json) : Mapping :=
  (field, value) :: payload.filter fun entry => entry.1 ≠ field

@[simp] theorem get_set_self (payload : Mapping) (field : String) (value : Json) :
    (payload.set field value).get field = value := by
  simp [set, get_cons]

theorem get_set_of_ne {payload : Mapping} {field other : String} {value : Json}
    (ne : other ≠ field) : (payload.set field value).get other = payload.get other := by
  rw [set, get_cons, if_neg ne]
  induction payload with
  | nil => rfl
  | cons entry rest ih =>
    obtain ⟨key, old⟩ := entry
    by_cases same : key = field
    · subst same
      rw [List.filter_cons_of_neg (by simp), ih, get_cons, if_neg ne]
    · rw [List.filter_cons_of_pos (by simp [same]), get_cons, get_cons, ih]

theorem exists_of_mem_keys {payload : Mapping} {field : String}
    (h : field ∈ payload.map Prod.fst) : ∃ entry ∈ payload, entry.2 = payload.get field := by
  induction payload with
  | nil => cases h
  | cons entry rest ih =>
    obtain ⟨key, value⟩ := entry
    rw [get_cons]
    by_cases same : field = key
    · exact ⟨(key, value), List.mem_cons_self, (if_pos same).symm⟩
    · obtain ⟨entry, mem, at_⟩ := ih ((List.mem_cons.mp h).resolve_left same)
      exact ⟨entry, List.mem_cons_of_mem _ mem, at_.trans (if_neg same).symm⟩

end Mapping

namespace Json

/-- Python equality with the integer one: `True` and `1.0` are equal to it. -/
def eqOne : Json → Bool
  | .int n => n = 1
  | .float q => q = 1
  | .bool b => b
  | _ => false

/-- Python truth value. -/
def truthy : Json → Bool
  | .null => false
  | .bool b => b
  | .int n => n ≠ 0
  | .float q => q ≠ 0
  | .nonfinite _ => true
  | .str s => s ≠ ""
  | .arr items => !items.isEmpty
  | .obj fields => !fields.isEmpty

end Json

end OptimizrActions
