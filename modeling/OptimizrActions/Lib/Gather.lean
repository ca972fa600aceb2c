import Mathlib.Data.List.Nodup
import Mathlib.Data.List.Perm.Basic
import OptimizrActions.Lib.Check

/-! Loops that read a list item by item, each against what was read before. -/

universe u v w

namespace OptimizrActions

section

variable {α : Type u} {β : Type v} {κ : Type w}

/-- `for index, item in enumerate(items)`, with what has been read so far. -/
def gather (step : Nat → List β → α → Except String β) :
    Nat → List β → List α → Except String (List β)
  | _, seen, [] => .ok seen
  | index, seen, item :: rest =>
    match step index seen item with
    | .ok value => gather step (index + 1) (seen ++ [value]) rest
    | .error message => .error message

/-- The step reads the item, whatever its index, and refuses a key seen before. -/
def ReadsFresh (step : Nat → List β → α → Except String β) (reads : α → β → Prop) (key : β → κ) :
    Prop :=
  ∀ index seen item value,
    step index seen item = .ok value ↔ reads item value ∧ key value ∉ seen.map key

variable {step : Nat → List β → α → Except String β} {reads : α → β → Prop} {key : β → κ}

theorem ReadsFresh.gather_eq_ok (spec : ReadsFresh step reads key) {index : Nat} {seen out : List β}
    {items : List α} (fresh : (seen.map key).Nodup) :
    gather step index seen items = .ok out ↔
      ∃ values, List.Forall₂ reads items values ∧ out = seen ++ values ∧ (out.map key).Nodup := by
  induction items generalizing index seen with
  | nil =>
    simp only [gather, Except.ok.injEq, List.forall₂_nil_left_iff, exists_eq_left, List.append_nil]
    exact ⟨fun eq => ⟨eq.symm, eq ▸ fresh⟩, fun h => h.1.symm⟩
  | cons item rest ih =>
    rw [gather]
    constructor
    · intro h
      split at h
      next value one =>
        obtain ⟨read, new⟩ := (spec _ _ _ _).mp one
        have fresh' : ((seen ++ [value]).map key).Nodup := by
          rw [List.map_append, List.map_singleton]
          exact List.Nodup.append fresh (List.nodup_singleton _) (List.disjoint_singleton.mpr new)
        obtain ⟨values, later, eq, nodup⟩ := (ih fresh').mp h
        exact ⟨value :: values, .cons read later, by rw [eq, List.append_assoc]; rfl, nodup⟩
      next => cases h
    · rintro ⟨_, read, rfl, nodup⟩
      cases read with
      | @cons _ value _ values one later =>
        have eq : seen ++ value :: values = (seen ++ [value]) ++ values := by
          rw [List.append_assoc]
          rfl
        have fresh' : ((seen ++ [value]).map key).Nodup := by
          rw [eq, List.map_append] at nodup
          exact List.Nodup.of_append_left nodup
        have new : key value ∉ seen.map key := by
          rw [List.map_append, List.nodup_append] at fresh'
          exact fun mem => fresh'.2.2 _ mem _ (List.mem_singleton_self _) rfl
        rw [(spec _ _ _ _).mpr ⟨one, new⟩]
        exact (ih fresh').mpr ⟨values, later, eq, nodup⟩

/-- What the step says of each value holds of all that is read. -/
theorem forall_of_gather {claim : β → Prop}
    (each : ∀ index seen item value, step index seen item = .ok value → claim value) {index : Nat}
    {seen out : List β} {items : List α} (h : gather step index seen items = .ok out) :
    ∃ values, out = seen ++ values ∧ values.length = items.length ∧ ∀ value ∈ values, claim value := by
  induction items generalizing index seen with
  | nil =>
    cases h
    exact ⟨[], (List.append_nil _).symm, rfl, nofun⟩
  | cons item rest ih =>
    rw [gather] at h
    split at h
    next value one =>
      obtain ⟨values, eq, length, later⟩ := ih h
      refine ⟨value :: values, ?_, congrArg (· + 1) length, ?_⟩
      · rw [eq, List.append_assoc]
        rfl
      · exact List.forall_mem_cons.mpr ⟨each _ _ _ _ one, later⟩
    next => exact absurd h nofun

/-- From nothing, the loop reads every item and refuses repeated keys. -/
theorem ReadsFresh.gather_nil_eq_ok (spec : ReadsFresh step reads key) {index : Nat} {out : List β}
    {items : List α} :
    gather step index [] items = .ok out ↔ List.Forall₂ reads items out ∧ (out.map key).Nodup := by
  have empty : (([] : List β).map key).Nodup := List.nodup_nil
  rw [spec.gather_eq_ok empty]
  simp

/-- The order of the items only permutes what is read, also by another step that
reads the same. -/
theorem ReadsFresh.gather_perm {step' : Nat → List β → α → Except String β}
    (spec : ReadsFresh step reads key) (spec' : ReadsFresh step' reads key) {index : Nat}
    {out : List β} {items items' : List α} (perm : items.Perm items')
    (h : gather step index [] items = .ok out) :
    ∃ out', gather step' index [] items' = .ok out' ∧ out.Perm out' := by
  obtain ⟨read, nodup⟩ := spec.gather_nil_eq_ok.mp h
  obtain ⟨out', read', perm'⟩ := List.perm_comp_forall₂ perm.symm read
  exact ⟨out', spec'.gather_nil_eq_ok.mpr ⟨read', (perm'.map key).nodup_iff.mpr nodup⟩, perm'.symm⟩

theorem ReadsFresh.congr {reads' : α → β → Prop} (spec : ReadsFresh step reads key)
    (same : ∀ item value, reads item value ↔ reads' item value) : ReadsFresh step reads' key :=
  fun index seen item value =>
    (spec index seen item value).trans (and_congr_left' (same item value))

theorem mem_of_forall₂ {reads : α → β → Prop} {items : List α} {values : List β}
    (h : List.Forall₂ reads items values) {value : β} (mem : value ∈ values) :
    ∃ item ∈ items, reads item value := by
  induction h with
  | nil => cases mem
  | @cons item head _ _ one _ ih =>
    rcases List.mem_cons.mp mem with rfl | later
    · exact ⟨item, List.mem_cons_self, one⟩
    · obtain ⟨item, inRest, read⟩ := ih later
      exact ⟨item, List.mem_cons_of_mem _ inRest, read⟩

/-- A property of one item and of what is read from it holds somewhere on both sides or on none. -/
theorem exists_mem_iff_of_forall₂ {reads : α → β → Prop} {items : List α} {values : List β}
    {p : α → Prop} {q : β → Prop} (h : List.Forall₂ reads items values)
    (same : ∀ item value, reads item value → (p item ↔ q value)) :
    (∃ item ∈ items, p item) ↔ ∃ value ∈ values, q value := by
  induction h with
  | nil => simp
  | cons one _ ih => simp only [List.exists_mem_cons_iff, same _ _ one, ih]

theorem eq_map_of_forall₂ {f : α → β} {items : List α} {values : List β}
    (h : List.Forall₂ (fun item value => value = f item) items values) : values = items.map f := by
  induction h with
  | nil => rfl
  | cons one _ ih => rw [List.map_cons, ← ih, one]

theorem mapM_eq_ok_iff {ε : Type} {f : α → Except ε β} {items : List α} {values : List β} :
    items.mapM f = .ok values ↔ List.Forall₂ (fun item value => f item = .ok value) items values := by
  induction items generalizing values with
  | nil => simp [List.mapM_nil, Except.pure, pure, eq_comm]
  | cons item rest ih =>
    simp only [List.mapM_cons, bind_eq_ok, pure_eq_ok, List.forall₂_cons_left_iff, ih]
    constructor
    · rintro ⟨value, one, values, later, rfl⟩
      exact ⟨value, values, one, later, rfl⟩
    · rintro ⟨value, values, one, later, rfl⟩
      exact ⟨value, one, values, later, rfl⟩

theorem exists_mapM {ε : Type} {f : α → Except ε β} {items : List α}
    (each : ∀ item ∈ items, ∃ value, f item = .ok value) : ∃ values, items.mapM f = .ok values := by
  induction items with
  | nil => exact ⟨[], rfl⟩
  | cons item rest ih =>
    obtain ⟨⟨value, one⟩, later⟩ := List.forall_mem_cons.mp each
    obtain ⟨values, all⟩ := ih later
    exact ⟨value :: values, mapM_eq_ok_iff.mpr (.cons one (mapM_eq_ok_iff.mp all))⟩

theorem mapM_perm {ε : Type} {f : α → Except ε β} {items items' : List α} {values : List β}
    (perm : items.Perm items') (h : items.mapM f = .ok values) :
    ∃ values', items'.mapM f = .ok values' ∧ values.Perm values' := by
  obtain ⟨values', read, perm'⟩ := List.perm_comp_forall₂ perm.symm (mapM_eq_ok_iff.mp h)
  exact ⟨values', mapM_eq_ok_iff.mpr read, perm'.symm⟩

theorem forM_eq_ok_iff {f : α → Except String PUnit} {items : List α} :
    items.forM f = .ok ⟨⟩ ↔ ∀ item ∈ items, f item = .ok ⟨⟩ := by
  induction items with
  | nil => simp [pure, Except.pure]
  | cons item rest ih =>
    change (f item >>= fun _ => rest.forM f) = .ok ⟨⟩ ↔ _
    rw [bind_eq_ok, List.forall_mem_cons, ← ih]
    exact ⟨fun ⟨_, one, later⟩ => ⟨one, later⟩, fun ⟨one, later⟩ => ⟨_, one, later⟩⟩

end

end OptimizrActions
