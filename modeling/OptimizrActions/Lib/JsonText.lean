import Mathlib.Data.List.Sort
import Mathlib.Data.String.Basic
import OptimizrActions.Lib.Dict
import OptimizrActions.Lib.Json
import OptimizrActions.Lib.Text

/-! Equality of JSON values: exact, up to the order of keys, and Python's `==`. -/

namespace OptimizrActions.Json

mutual

def beq : Json → Json → Bool
  | .null, .null => true
  | .bool a, .bool b => a = b
  | .int a, .int b => a = b
  | .float a, .float b => a = b
  | .nonfinite a, .nonfinite b => a = b
  | .str a, .str b => a = b
  | .arr xs, .arr ys => beqItems xs ys
  | .obj f, .obj g => beqFields f g
  | _, _ => false

def beqItems : List Json → List Json → Bool
  | [], [] => true
  | x :: xs, y :: ys => beq x y && beqItems xs ys
  | _, _ => false

def beqFields : List (String × Json) → List (String × Json) → Bool
  | [], [] => true
  | (j, x) :: f, (k, y) :: g => j = k && beq x y && beqFields f g
  | _, _ => false

end

mutual

theorem beq_iff : ∀ v w : Json, beq v w = true ↔ v = w
  | .null, w => by cases w <;> simp [beq]
  | .bool _, w => by cases w <;> simp [beq]
  | .int _, w => by cases w <;> simp [beq]
  | .float _, w => by cases w <;> simp [beq]
  | .nonfinite _, w => by cases w <;> simp [beq]
  | .str _, w => by cases w <;> simp [beq]
  | .arr xs, w => by cases w <;> simp [beq, beqItems_iff xs]
  | .obj f, w => by cases w <;> simp [beq, beqFields_iff f]

theorem beqItems_iff : ∀ xs ys : List Json, beqItems xs ys = true ↔ xs = ys
  | [], ys => by cases ys <;> simp [beqItems]
  | x :: xs, ys => by cases ys <;> simp [beqItems, beq_iff x, beqItems_iff xs]

theorem beqFields_iff : ∀ f g : List (String × Json), beqFields f g = true ↔ f = g
  | [], g => by cases g <;> simp [beqFields]
  | (_, x) :: f, g => by
    cases g <;> simp [beqFields, Prod.ext_iff, beq_iff x, beqFields_iff f]

end

instance : DecidableEq Json := fun v w => decidable_of_iff _ (beq_iff v w)

/-- Equal but for the order of keys: what writing a value and loading it again keeps. -/
inductive Same : Json → Json → Prop
  | refl (v : Json) : Same v v
  | arr {xs ys : List Json} : List.Forall₂ Same xs ys → Same (.arr xs) (.arr ys)
  | obj {f g : Mapping} : (∀ key, (f.lookup key).isSome = (g.lookup key).isSome) →
      (∀ key, Same (Mapping.get f key) (Mapping.get g key)) → Same (.obj f) (.obj g)

theorem Same.obj_left {f : Mapping} {v : Json} (h : Same (.obj f) v) :
    ∃ g, v = .obj g ∧ ∀ key, Same (f.get key) (Mapping.get g key) := by
  cases h with
  | refl => exact ⟨f, rfl, fun _ => .refl _⟩
  | @obj _ g _ each => exact ⟨g, rfl, each⟩

theorem lookup_eq_of_perm {f g : Mapping} (perm : f.Perm g) (nodup : (f.map Prod.fst).Nodup)
    (key : String) : f.lookup key = g.lookup key := by
  induction perm with
  | nil => rfl
  | @cons entry f g _ ih =>
    rw [List.map_cons, List.nodup_cons] at nodup
    obtain ⟨k, v⟩ := entry
    simp only [List.lookup_cons, ih nodup.2]
  | swap a b f =>
    obtain ⟨j, v⟩ := a
    obtain ⟨k, w⟩ := b
    have ne : k ≠ j := by
      simp only [List.map_cons, List.nodup_cons, List.mem_cons, not_or] at nodup
      exact nodup.1.1
    simp only [List.lookup_cons]
    cases first : key == k with
    | false => rfl
    | true => rw [eq_of_beq first, beq_false_of_ne ne]
  | trans first _ ih ih' => rw [ih nodup, ih' ((first.map Prod.fst).nodup_iff.mp nodup)]

/-- The order of an object's keys does not matter. -/
theorem Same.of_perm {f g : Mapping} (perm : f.Perm g) (nodup : (f.map Prod.fst).Nodup) :
    Same (.obj f) (.obj g) := by
  refine .obj (fun key => ?_) fun key => ?_
  · rw [lookup_eq_of_perm perm nodup]
  · rw [Mapping.get, Mapping.get, lookup_eq_of_perm perm nodup]
    exact .refl _

/-- A value without parts is loaded as it was. -/
def IsScalar : Json → Prop
  | .arr _ => False
  | .obj _ => False
  | _ => True

theorem Same.eq_of_isScalar {v w : Json} (h : Same v w) (scalar : v.IsScalar) : w = v := by
  cases h with
  | refl => rfl
  | arr => exact scalar.elim
  | obj => exact scalar.elim

/-- Scalars that Python does not tell apart, each `nan` being another object. -/
def eqScalar : Json → Json → Bool
  | .str a, .str b => a = b
  | .null, .null => true
  | .nonfinite a, .nonfinite b => a = b && a ≠ "NaN"
  | a, b => match number? a, number? b with
    | some p, some q => p = q
    | _, _ => false
where
  number? : Json → Option Rat
    | .bool b => some (if b then 1 else 0)
    | .int n => some n
    | .float q => some q
    | _ => none

mutual

/-- `left == right`, keys being unique. -/
def eq : Json → Json → Bool
  | .arr xs, .arr ys => eqItems xs ys
  | .obj f, .obj g => f.length = g.length && eqFields f g
  | v, w => eqScalar v w

def eqItems : List Json → List Json → Bool
  | [], [] => true
  | x :: xs, y :: ys => eq x y && eqItems xs ys
  | _, _ => false

def eqFields : List (String × Json) → List (String × Json) → Bool
  | [], _ => true
  | (key, v) :: rest, g => (match g.lookup key with
    | some w => eq v w
    | none => false) && eqFields rest g

end

theorem eqFields_self {f g : Mapping} (same : ∀ entry ∈ f, g.lookup entry.1 = some entry.2)
    (each : ∀ entry ∈ f, eq entry.2 entry.2 = true) : eqFields f g = true := by
  induction f with
  | nil => rfl
  | cons entry rest ih =>
    obtain ⟨key, v⟩ := entry
    obtain ⟨here, same⟩ := List.forall_mem_cons.mp same
    obtain ⟨self, each⟩ := List.forall_mem_cons.mp each
    rw [eqFields, here]
    exact Bool.and_eq_true_iff.mpr ⟨self, ih same each⟩

theorem eqItems_self {items : List Json} (each : ∀ v ∈ items, eq v v = true) :
    eqItems items items = true := by
  induction items with
  | nil => rfl
  | cons v rest ih =>
    obtain ⟨self, each⟩ := List.forall_mem_cons.mp each
    exact Bool.and_eq_true_iff.mpr ⟨self, ih each⟩

/-- An object of texts. -/
def IsTexts (f : Mapping) : Prop := (f.map Prod.fst).Nodup ∧ ∀ entry ∈ f, ∃ s, entry.2 = .str s

theorem IsTexts.eq_self {f : Mapping} (texts : IsTexts f) : eq (.obj f) (.obj f) = true := by
  rw [eq, Bool.and_eq_true]
  refine ⟨decide_eq_true rfl, eqFields_self (fun _ mem => (Dict.lookup_eq_some_iff_mem texts.1).mpr mem) ?_⟩
  intro entry mem
  obtain ⟨s, text⟩ := texts.2 entry mem
  rw [text]
  exact decide_eq_true rfl

mutual

/-- `int.__repr__` has digits enough for every integer of the value. -/
def printable : Json → Bool
  | .int n => decide (n.natAbs < 10 ^ Text.maxStrDigits)
  | .arr items => printableItems items
  | .obj fields => printableFields fields
  | _ => true

def printableItems : List Json → Bool
  | [] => true
  | v :: rest => printable v && printableItems rest

def printableFields : List (String × Json) → Bool
  | [] => true
  | (_, v) :: rest => printable v && printableFields rest

end

theorem printableItems_eq_all (items : List Json) : printableItems items = items.all printable := by
  induction items with
  | nil => rfl
  | cons v rest ih => rw [printableItems, ih, List.all_cons]

theorem printable_obj (f : Mapping) : printable (.obj f) = f.all fun entry => printable entry.2 := by
  rw [printable]
  induction f with
  | nil => rfl
  | cons entry rest ih => rw [printableFields, ih, List.all_cons]

theorem IsTexts.printable {f : Mapping} (texts : IsTexts f) : printable (.obj f) = true := by
  rw [printable_obj, List.all_eq_true]
  intro entry mem
  obtain ⟨s, text⟩ := texts.2 entry mem
  rw [text]
  rfl

theorem printable_of_digit {n : Nat} (h : n < 10) : printable (.int n) = true := by
  rw [printable]
  exact decide_eq_true (h.trans_le (Nat.le_self_pow (by decide) 10))

mutual

/-- The value with the keys of all its objects in order. -/
def sortKeys : Json → Json
  | .arr items => .arr (sortItems items)
  | .obj fields => .obj ((sortFields fields).insertionSort (·.1 ≤ ·.1))
  | v => v

def sortItems : List Json → List Json
  | [] => []
  | v :: rest => sortKeys v :: sortItems rest

def sortFields : List (String × Json) → List (String × Json)
  | [] => []
  | (key, v) :: rest => (key, sortKeys v) :: sortFields rest

end

theorem sortItems_eq_map (items : List Json) : sortItems items = items.map sortKeys := by
  induction items with
  | nil => rfl
  | cons v rest ih => rw [sortItems, ih, List.map_cons]

theorem sortFields_keys (fields : Mapping) :
    (sortFields fields).map Prod.fst = fields.map Prod.fst := by
  induction fields with
  | nil => rfl
  | cons entry rest ih =>
    obtain ⟨key, v⟩ := entry
    rw [sortFields, List.map_cons, ih, List.map_cons]

theorem sortFields_lookup (fields : Mapping) (key : String) :
    (sortFields fields).lookup key = (fields.lookup key).map sortKeys := by
  induction fields with
  | nil => rfl
  | cons entry rest ih =>
    obtain ⟨k, v⟩ := entry
    simp only [sortFields, List.lookup_cons, ih]
    cases key == k <;> rfl

/-- An object with its keys in order has the same entries. -/
theorem sortKeys_obj {fields : Mapping} (nodup : (fields.map Prod.fst).Nodup) :
    ∃ sorted : Mapping, sortKeys (.obj fields) = .obj sorted ∧
      (∀ key, key ∈ sorted.map Prod.fst ↔ key ∈ fields.map Prod.fst) ∧
      ∀ key, sorted.get key = (Mapping.get fields key).sortKeys := by
  have perm : ((sortFields fields).insertionSort (·.1 ≤ ·.1)).Perm (sortFields fields) :=
    List.perm_insertionSort _ _
  refine ⟨_, by rw [sortKeys], fun key => ?_, fun key => ?_⟩
  · rw [(perm.map Prod.fst).mem_iff, sortFields_keys]
  · have nodup' : ((sortFields fields).map Prod.fst).Nodup := sortFields_keys fields ▸ nodup
    rw [Mapping.get, ← lookup_eq_of_perm perm.symm nodup' key, sortFields_lookup, Mapping.get]
    cases List.lookup key fields <;> rfl

end OptimizrActions.Json

namespace OptimizrActions

/-- The text forms of JSON: `json.dumps(…, indent=2, sort_keys=True)` with a line feed, in
UTF-8, and `json.loads` of UTF-8 text; `none` is an exception. -/
structure JsonCodec where
  dumps : Json → Option (List UInt8)
  loads : List UInt8 → Option Json

/-- Writing the value and loading it again gives the same value. -/
def JsonCodec.Keeps (codec : JsonCodec) (v : Json) : Prop :=
  ∀ content, codec.dumps v = some content → ∃ w, codec.loads content = some w ∧ Json.Same v w

/-- A value has a text unless one of its integers has none. -/
def JsonCodec.Encodes (codec : JsonCodec) : Prop :=
  ∀ v, (∃ content, codec.dumps v = some content) ↔ v.printable = true

/-- What is written is loaded again, with the keys in the order of the text. -/
def JsonCodec.Sorts (codec : JsonCodec) : Prop :=
  ∀ v content, codec.dumps v = some content → codec.loads content = some v.sortKeys

/-- A codec that knows these values and these texts only. -/
def JsonCodec.table (written : List (Json × List UInt8)) (read : List (List UInt8 × Json)) :
    JsonCodec where
  dumps v := written.lookup v
  loads content := read.lookup content

theorem JsonCodec.table_sorts {written : List (Json × List UInt8)}
    {read : List (List UInt8 × Json)}
    (h : ∀ entry ∈ written, read.lookup entry.2 = some entry.1.sortKeys) :
    (table written read).Sorts := by
  intro v content dumped
  have mem : (v, content) ∈ written := by
    obtain ⟨before, after, rfl, -⟩ := List.lookup_eq_some_iff.mp dumped
    simp
  exact h _ mem

/-- The bytes of ASCII text. -/
def asciiBytes (text : String) : List UInt8 := text.toList.map fun c => UInt8.ofNat c.toNat

end OptimizrActions
