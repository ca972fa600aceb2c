import OptimizrActions.Lib.Dict

/-! A flat directory: named entries in the order in which they were written. -/

universe u

namespace OptimizrActions

structure Directory (α : Type u) where
  entries : List (String × α)
  nodup : (entries.map Prod.fst).Nodup

namespace Directory

variable {α : Type u} {dir : Directory α} {name other : String} {content : α}

@[ext] theorem ext {a b : Directory α} (h : a.entries = b.entries) : a = b := by
  cases a
  cases b
  cases h
  rfl

def names (dir : Directory α) : List String := dir.entries.map Prod.fst

def get (dir : Directory α) (name : String) : Option α := dir.entries.lookup name

/-- `os.replace` onto the name: the entry is the last one written. -/
def write (dir : Directory α) (name : String) (content : α) : Directory α where
  entries := dir.entries.filter (fun old => old.1 ≠ name) ++ [(name, content)]
  nodup := by
    rw [List.map_append, List.nodup_append]
    refine ⟨dir.nodup.sublist (List.filter_sublist.map _), List.nodup_singleton _, ?_⟩
    rintro key old _ new rfl
    obtain ⟨entry, mem, rfl⟩ := List.mem_map.mp old
    have differ := of_decide_eq_true (List.mem_filter.mp mem).2
    exact differ (List.mem_singleton.mp new)

def remove (dir : Directory α) (name : String) : Directory α where
  entries := dir.entries.filter fun old => old.1 ≠ name
  nodup := dir.nodup.sublist (List.filter_sublist.map _)

theorem lookup_filter_self (entries : List (String × α)) :
    (entries.filter fun old => old.1 ≠ name).lookup name = none := by
  rw [List.lookup_eq_none_iff]
  intro entry mem
  have differ := of_decide_eq_true (List.mem_filter.mp mem).2
  exact bne_iff_ne.mpr (Ne.symm differ)

theorem lookup_filter_of_ne (entries : List (String × α)) (ne : other ≠ name) :
    (entries.filter fun old => old.1 ≠ name).lookup other = entries.lookup other := by
  induction entries with
  | nil => rfl
  | cons entry rest ih =>
    obtain ⟨key, value⟩ := entry
    by_cases same : key = name
    · rw [List.filter_cons_of_neg (by simp [same]), ih, List.lookup_cons,
        beq_false_of_ne (same ▸ ne)]
    · rw [List.filter_cons_of_pos (by simp [same]), List.lookup_cons, List.lookup_cons, ih]

@[simp] theorem get_write_self : (dir.write name content).get name = some content := by
  rw [get, write, List.lookup_append, lookup_filter_self, Option.none_or, List.lookup_cons_self]

theorem get_write_of_ne (ne : other ≠ name) : (dir.write name content).get other = dir.get other := by
  rw [get, write, List.lookup_append, lookup_filter_of_ne _ ne, List.lookup_cons,
    beq_false_of_ne ne, List.lookup_nil, Option.or_none]
  rfl

@[simp] theorem get_remove_self : (dir.remove name).get name = none := lookup_filter_self _

theorem get_remove_of_ne (ne : other ≠ name) : (dir.remove name).get other = dir.get other :=
  lookup_filter_of_ne _ ne

theorem names_remove : (dir.remove name).names = dir.names.filter (· ≠ name) := by
  rw [names, names, remove, List.filter_map]
  rfl

theorem names_write : (dir.write name content).names = dir.names.filter (· ≠ name) ++ [name] := by
  rw [← names_remove, names, write, List.map_append]
  rfl

theorem get_eq_none : dir.get name = none ↔ name ∉ dir.names := by
  rw [get, List.lookup_eq_none_iff, names, List.mem_map, not_exists]
  refine forall_congr' fun entry => ?_
  rw [not_and, bne_iff_ne]
  exact imp_congr_right fun _ => ne_comm

theorem mem_names : name ∈ dir.names ↔ ∃ content, dir.get name = some content := by
  rw [← Option.ne_none_iff_exists', Ne, get_eq_none, not_not]

end Directory

end OptimizrActions
