import OptimizrActions.Lib.JsonPath

/-! What is taken out of a SARIF report before it is published. -/

namespace OptimizrActions.SastGate

open Json

def forbiddenKeys : List String :=
  ["snippet", "contextRegion", "artifactContent", "fixes", "replacement", "insertedContent"]

mutual

/-- `clean` -/
def clean : Json → Json
  | .arr items => .arr (cleanItems items)
  | .obj fields => .obj (cleanFields fields)
  | value => value

def cleanItems : List Json → List Json
  | [] => []
  | item :: rest => clean item :: cleanItems rest

def cleanFields : List (String × Json) → List (String × Json)
  | [] => []
  | (key, item) :: rest =>
    if key ∈ forbiddenKeys then cleanFields rest else (key, clean item) :: cleanFields rest

end

def sanitizeSarif (report : Json) : Except String Json :=
  match clean report with
  | .obj fields => .ok (.obj fields)
  | _ => .error "sanitized SARIF root must remain an object"

section Specification

def Allowed : Key → Prop
  | .field name => name ∉ forbiddenKeys
  | .index _ => True

/-- The same value but for what is inside it: a list of the same length, an object with the same
keys in the same order but for the forbidden ones. -/
inductive SameNode : Json → Json → Prop
  | null : SameNode .null .null
  | bool (b : Bool) : SameNode (.bool b) (.bool b)
  | int (n : Int) : SameNode (.int n) (.int n)
  | float (q : Rat) : SameNode (.float q) (.float q)
  | nonfinite (text : String) : SameNode (.nonfinite text) (.nonfinite text)
  | str (s : String) : SameNode (.str s) (.str s)
  | arr {items items' : List Json} : items.length = items'.length →
    SameNode (.arr items) (.arr items')
  | obj {fields fields' : List (String × Json)} :
    fields'.map Prod.fst = (fields.map Prod.fst).filter (· ∉ forbiddenKeys) →
    SameNode (.obj fields) (.obj fields')

structure Sanitized (value result : Json) : Prop where
  /-- No forbidden key at any depth. -/
  allowed : ∀ path w, at? path result = some w → ∀ key ∈ path, Allowed key
  kept : ∀ path w, (∀ key ∈ path, Allowed key) → at? path value = some w →
    ∃ w', at? path result = some w' ∧ SameNode w w'
  /-- Nothing else is there. -/
  only : ∀ path w', at? path result = some w' → ∃ w, at? path value = some w ∧ SameNode w w'

end Specification

section Shape

theorem cleanItems_eq_map (items : List Json) : cleanItems items = items.map clean := by
  induction items with
  | nil => rfl
  | cons item rest ih => rw [cleanItems, ih, List.map_cons]

theorem cleanFields_eq_map (fields : List (String × Json)) :
    cleanFields fields =
      (fields.filter fun entry => entry.1 ∉ forbiddenKeys).map fun entry =>
        (entry.1, clean entry.2) := by
  induction fields with
  | nil => rfl
  | cons entry rest ih =>
    obtain ⟨key, item⟩ := entry
    by_cases bad : key ∈ forbiddenKeys
    · rw [cleanFields, if_pos bad, ih, List.filter_cons_of_neg (by simp [bad])]
    · rw [cleanFields, if_neg bad, ih, List.filter_cons_of_pos (by simp [bad]), List.map_cons]

theorem keys_cleanFields (fields : List (String × Json)) :
    (cleanFields fields).map Prod.fst =
      (fields.map Prod.fst).filter (· ∉ forbiddenKeys) := by
  rw [cleanFields_eq_map, List.map_map, List.filter_map]
  rfl

theorem sameNode_clean (value : Json) : SameNode value (clean value) := by
  cases value with
  | arr items => exact .arr (by rw [cleanItems_eq_map, List.length_map])
  | obj fields => exact .obj (keys_cleanFields fields)
  | null => exact .null
  | bool b => exact .bool b
  | int n => exact .int n
  | float q => exact .float q
  | nonfinite text => exact .nonfinite text
  | str s => exact .str s

theorem lookup_cleanFields (fields : List (String × Json)) (name : String) :
    (cleanFields fields).lookup name =
      if name ∈ forbiddenKeys then none else (fields.lookup name).map clean := by
  induction fields with
  | nil => simp [cleanFields]
  | cons entry rest ih =>
    obtain ⟨key, item⟩ := entry
    rw [cleanFields]
    by_cases same : name = key
    · subst same
      by_cases bad : name ∈ forbiddenKeys
      · rw [if_pos bad, ih, if_pos bad, if_pos bad]
      · simp [bad]
    · have skip (value : Json) (fields : List (String × Json)) :
          List.lookup name ((key, value) :: fields) = List.lookup name fields := by
        rw [List.lookup_cons, beq_false_of_ne same]
      by_cases bad : key ∈ forbiddenKeys
      · rw [if_pos bad, ih, skip]
      · rw [if_neg bad, skip, ih, skip]

/-- A path leads to the cleaned value where it leads through no forbidden key, and nowhere else. -/
theorem at?_clean_of_allowed {path : List Key} (allowed : ∀ key ∈ path, Allowed key)
    (value : Json) : at? path (clean value) = (at? path value).map clean := by
  induction path generalizing value with
  | nil => simp
  | cons key path ih =>
    obtain ⟨here, rest⟩ := List.forall_mem_cons.mp allowed
    cases key with
    | field name =>
      cases value with
      | obj fields =>
        rw [clean, at?, at?, lookup_cleanFields, if_neg here]
        cases fields.lookup name with
        | none => rfl
        | some inner => exact ih rest inner
      | _ => rfl
    | index position =>
      cases value with
      | arr items =>
        rw [clean, at?, at?, cleanItems_eq_map, List.getElem?_map]
        cases items[position]? with
        | none => rfl
        | some inner => exact ih rest inner
      | _ => rfl

theorem allowed_of_at?_clean {path : List Key} {value w : Json}
    (h : at? path (clean value) = some w) : ∀ key ∈ path, Allowed key := by
  induction path generalizing value with
  | nil => exact nofun
  | cons key path ih =>
    cases key with
    | field name =>
      obtain ⟨fields, inner, is, found, rest⟩ := at?_field h
      cases value with
      | obj fields₀ =>
        cases is
        rw [lookup_cleanFields] at found
        split_ifs at found with bad
        obtain ⟨inner₀, -, rfl⟩ := Option.map_eq_some_iff.mp found
        exact List.forall_mem_cons.mpr ⟨bad, ih rest⟩
      | _ => cases is
    | index position =>
      obtain ⟨items, inner, is, found, rest⟩ := at?_index h
      cases value with
      | arr items₀ =>
        cases is
        rw [cleanItems_eq_map, List.getElem?_map] at found
        obtain ⟨inner₀, -, rfl⟩ := Option.map_eq_some_iff.mp found
        exact List.forall_mem_cons.mpr ⟨trivial, ih rest⟩
      | _ => cases is

end Shape

section Idempotent

mutual

theorem clean_clean : ∀ value : Json, clean (clean value) = clean value
  | .null => rfl
  | .bool _ => rfl
  | .int _ => rfl
  | .float _ => rfl
  | .nonfinite _ => rfl
  | .str _ => rfl
  | .arr items => congrArg Json.arr (cleanItems_cleanItems items)
  | .obj fields => congrArg Json.obj (cleanFields_cleanFields fields)

theorem cleanItems_cleanItems : ∀ items : List Json, cleanItems (cleanItems items) = cleanItems items
  | [] => rfl
  | item :: rest => by rw [cleanItems, cleanItems, clean_clean item, cleanItems_cleanItems rest]

theorem cleanFields_cleanFields :
    ∀ fields : List (String × Json), cleanFields (cleanFields fields) = cleanFields fields
  | [] => rfl
  | (key, item) :: rest => by
    by_cases bad : key ∈ forbiddenKeys
    · rw [cleanFields, if_pos bad, cleanFields_cleanFields rest]
    · rw [cleanFields, if_neg bad, cleanFields, if_neg bad, clean_clean item,
        cleanFields_cleanFields rest]

end

end Idempotent

theorem sanitized_clean (value : Json) : Sanitized value (clean value) where
  allowed _ _ h := allowed_of_at?_clean h
  kept path w allowed h := by
    refine ⟨clean w, ?_, sameNode_clean w⟩
    rw [at?_clean_of_allowed allowed, h]
    rfl
  only path w' h := by
    rw [at?_clean_of_allowed (allowed_of_at?_clean h)] at h
    obtain ⟨w, found, rfl⟩ := Option.map_eq_some_iff.mp h
    exact ⟨w, found, sameNode_clean w⟩

/-- The cleaned value has all of the value but what is under a forbidden key, and cleaning it again
changes nothing; a report that is no object is refused. -/
theorem sanitizeSarif_exact (value : Json) :
    Sanitized value (clean value) ∧ clean (clean value) = clean value ∧
      ((∃ fields, value = .obj fields ∧ sanitizeSarif value = .ok (clean value)) ∨
        ((∀ fields, value ≠ .obj fields) ∧ ∃ message, sanitizeSarif value = .error message)) := by
  refine ⟨sanitized_clean value, clean_clean value, ?_⟩
  cases value with
  | obj fields => exact .inl ⟨fields, rfl, rfl⟩
  | _ => exact .inr ⟨nofun, _, rfl⟩

end OptimizrActions.SastGate
