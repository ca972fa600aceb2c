import Mathlib.Algebra.BigOperators.Group.List.Basic
import Mathlib.Algebra.GroupWithZero.Nat
import Mathlib.Data.List.Induction
import Mathlib.Data.List.Sort

/-! Dictionaries filled by assignment: the last value of a key stays. -/

universe u v

namespace OptimizrActions.Dict

section

variable {κ : Type u} {α : Type v} [DecidableEq κ]

/-- `entries[key] = value`; the place of a key in the list carries no meaning. -/
def put (entries : List (κ × α)) (entry : κ × α) : List (κ × α) :=
  entries.filter (fun old => old.1 ≠ entry.1) ++ [entry]

def ofList (entries : List (κ × α)) : List (κ × α) := entries.foldl put []

@[simp] theorem mem_put {entries : List (κ × α)} {entry other : κ × α} :
    other ∈ put entries entry ↔ other ∈ entries ∧ other.1 ≠ entry.1 ∨ other = entry := by
  simp [put]

theorem ofList_append (entries : List (κ × α)) (entry : κ × α) :
    ofList (entries ++ [entry]) = put (ofList entries) entry := by
  simp [ofList]

theorem mem_of_mem_ofList {entries : List (κ × α)} {entry : κ × α} (h : entry ∈ ofList entries) :
    entry ∈ entries := by
  induction entries using List.reverseRecOn with
  | nil => exact h
  | append_singleton entries last ih =>
    rw [ofList_append, mem_put] at h
    rcases h with ⟨old, -⟩ | rfl
    · exact List.mem_append_left _ (ih old)
    · exact List.mem_append_right _ (List.mem_singleton_self _)

theorem key_mem_ofList {entries : List (κ × α)} {entry : κ × α} (h : entry ∈ entries) :
    ∃ value, (entry.1, value) ∈ ofList entries := by
  induction entries using List.reverseRecOn with
  | nil => cases h
  | append_singleton entries last ih =>
    rw [ofList_append]
    by_cases same : entry.1 = last.1
    · exact ⟨last.2, mem_put.mpr (.inr (Prod.ext same rfl))⟩
    · rcases List.mem_append.mp h with old | new
      · obtain ⟨value, mem⟩ := ih old
        exact ⟨value, mem_put.mpr (.inl ⟨mem, same⟩)⟩
      · exact absurd (congrArg Prod.fst (List.mem_singleton.mp new)) same

theorem nodup_keys_put {entries : List (κ × α)} (nodup : (entries.map Prod.fst).Nodup)
    (entry : κ × α) : ((put entries entry).map Prod.fst).Nodup := by
  rw [put, List.map_append, List.nodup_append]
  refine ⟨nodup.sublist (List.filter_sublist.map _), List.nodup_singleton _, ?_⟩
  rintro key old _ new rfl
  obtain ⟨entry, mem, rfl⟩ := List.mem_map.mp old
  simp only [List.map_cons, List.map_nil, List.mem_singleton] at new
  simp [new] at mem

theorem nodup_keys_ofList (entries : List (κ × α)) : ((ofList entries).map Prod.fst).Nodup := by
  induction entries using List.reverseRecOn with
  | nil => exact List.nodup_nil
  | append_singleton entries last ih =>
    rw [ofList_append]
    exact nodup_keys_put ih last

theorem eq_of_mem_ofList {entries : List (κ × α)} {p q : κ × α} (hp : p ∈ ofList entries)
    (hq : q ∈ ofList entries) (same : p.1 = q.1) : p = q :=
  List.inj_on_of_nodup_map (nodup_keys_ofList entries) hp hq same

/-- An assignment lasts where no later one has the same key. -/
theorem mem_ofList_filterMap {β : Type*} {f : β → Option (κ × α)} {items : List β} {key : κ}
    {value : α} : (key, value) ∈ ofList (items.filterMap f) ↔
      ∃ earlier item later, items = earlier ++ item :: later ∧ f item = some (key, value) ∧
        ∀ other ∈ later, ∀ value', f other ≠ some (key, value') := by
  induction items using List.reverseRecOn with
  | nil => simp [ofList]
  | append_singleton items last ih =>
    rw [List.filterMap_append]
    constructor
    · intro mem
      cases read : f last with
      | none =>
        rw [List.filterMap_cons_none read, List.filterMap_nil, List.append_nil, ih] at mem
        obtain ⟨earlier, item, later, rfl, here, lasting⟩ := mem
        refine ⟨earlier, item, later ++ [last], by simp, here, fun other inside value' => ?_⟩
        rcases List.mem_append.mp inside with inside | inside
        · exact lasting other inside value'
        · rw [List.mem_singleton.mp inside, read]
          nofun
      | some entry =>
        rw [List.filterMap_cons_some read, List.filterMap_nil, ofList_append, mem_put, ih] at mem
        rcases mem with ⟨⟨earlier, item, later, rfl, here, lasting⟩, ne⟩ | rfl
        · refine ⟨earlier, item, later ++ [last], by simp, here, fun other inside value' => ?_⟩
          rcases List.mem_append.mp inside with inside | inside
          · exact lasting other inside value'
          · rw [List.mem_singleton.mp inside, read]
            intro same
            cases same
            exact ne rfl
        · exact ⟨items, last, [], rfl, read, nofun⟩
    · rintro ⟨earlier, item, later, split, here, lasting⟩
      rcases List.eq_nil_or_concat later with rfl | ⟨init, final, rfl⟩
      · obtain ⟨rfl, same⟩ := List.append_inj' split rfl
        cases same
        rw [List.filterMap_cons_some here, List.filterMap_nil, ofList_append, mem_put]
        exact .inr rfl
      · rw [List.concat_eq_append, ← List.cons_append, ← List.append_assoc] at split
        rw [List.concat_eq_append] at lasting
        obtain ⟨rfl, same⟩ := List.append_inj' split rfl
        cases same
        have old : (key, value) ∈ ofList ((earlier ++ item :: init).filterMap f) :=
          ih.mpr ⟨earlier, item, init, rfl, here, fun other inside =>
            lasting other (List.mem_append_left _ inside)⟩
        have other := lasting last (List.mem_append_right _ List.mem_cons_self)
        cases read : f last with
        | none => simpa [List.filterMap_cons_none read] using old
        | some entry =>
          rw [List.filterMap_cons_some read, List.filterMap_nil, ofList_append, mem_put]
          refine .inl ⟨old, ?_⟩
          rintro rfl
          exact other entry.2 read

/-- Two values of one key are the same value. -/
def Agreeing (entries : List (κ × α)) : Prop :=
  ∀ p ∈ entries, ∀ q ∈ entries, p.1 = q.1 → p.2 = q.2

theorem Agreeing.mem_ofList {entries : List (κ × α)} (agree : Agreeing entries) {entry : κ × α} :
    entry ∈ ofList entries ↔ entry ∈ entries := by
  refine ⟨mem_of_mem_ofList, fun mem => ?_⟩
  obtain ⟨value, kept⟩ := key_mem_ofList mem
  have same : entry.2 = value := agree entry mem _ (mem_of_mem_ofList kept) rfl
  rwa [← same] at kept

theorem Agreeing.ofList_perm {entries entries' : List (κ × α)} (agree : Agreeing entries)
    (perm : entries.Perm entries') : (ofList entries).Perm (ofList entries') := by
  have agree' : Agreeing entries' := fun p hp q hq =>
    agree p (perm.mem_iff.mpr hp) q (perm.mem_iff.mpr hq)
  refine (List.perm_ext_iff_of_nodup ?_ ?_).mpr fun entry => ?_
  · exact (nodup_keys_ofList entries).of_map
  · exact (nodup_keys_ofList entries').of_map
  · rw [agree.mem_ofList, agree'.mem_ofList, perm.mem_iff]

end

section

variable {κ : Type u} {α : Type v} [LinearOrder κ]

/-- The values in the order of the sorted keys. -/
def sortedValues (entries : List (κ × α)) : List α :=
  (entries.insertionSort fun p q => p.1 ≤ q.1).map Prod.snd

@[simp] theorem mem_sortedValues {entries : List (κ × α)} {value : α} :
    value ∈ sortedValues entries ↔ ∃ key, (key, value) ∈ entries := by
  simp [sortedValues]

/-- Entries with different keys are sorted in one way only. -/
theorem insertionSort_perm {entries entries' : List (κ × α)} (keys : (entries.map Prod.fst).Nodup)
    (perm : entries.Perm entries') :
    entries.insertionSort (fun p q => p.1 ≤ q.1) = entries'.insertionSort fun p q => p.1 ≤ q.1 := by
  let le := fun p q : κ × α => p.1 ≤ q.1
  have sorts : (entries.insertionSort le).Perm (entries'.insertionSort le) :=
    (List.perm_insertionSort le entries).trans (perm.trans (List.perm_insertionSort le entries').symm)
  have total : Std.Total le := ⟨fun p q => le_total p.1 q.1⟩
  have transitive : IsTrans (κ × α) le := ⟨fun _ _ _ => le_trans⟩
  have antisymm (p q : κ × α) (hp : p ∈ entries.insertionSort le)
      (hq : q ∈ entries'.insertionSort le) (pq : le p q) (qp : le q p) : p = q := by
    rw [List.mem_insertionSort] at hp hq
    exact List.inj_on_of_nodup_map keys hp (perm.mem_iff.mpr hq) (le_antisymm pq qp)
  exact sorts.eq_of_pairwise antisymm (List.pairwise_insertionSort le _)
    (List.pairwise_insertionSort le _)

theorem sortedValues_perm {entries entries' : List (κ × α)} (keys : (entries.map Prod.fst).Nodup)
    (perm : entries.Perm entries') : sortedValues entries = sortedValues entries' :=
  congrArg (List.map Prod.snd) (insertionSort_perm keys perm)

/-- Entries whose values agree give the same sorted values in every order. -/
theorem Agreeing.sortedValues_ofList [DecidableEq κ] {entries entries' : List (κ × α)}
    (agree : Agreeing entries) (perm : entries.Perm entries') :
    sortedValues (ofList entries) = sortedValues (ofList entries') :=
  sortedValues_perm (nodup_keys_ofList entries) (agree.ofList_perm perm)

end

/-- In a list with unique keys, looking a key up finds its entry. -/
theorem lookup_eq_some_iff_mem {κ : Type u} {α : Type v} [BEq κ] [LawfulBEq κ]
    {entries : List (κ × α)} (nodup : (entries.map Prod.fst).Nodup) {key : κ} {value : α} :
    entries.lookup key = some value ↔ (key, value) ∈ entries := by
  induction entries with
  | nil => simp
  | cons entry rest ih =>
    obtain ⟨k, v⟩ := entry
    rw [List.map_cons, List.nodup_cons] at nodup
    rw [List.lookup_cons, List.mem_cons, Prod.mk.injEq]
    cases same : key == k with
    | true =>
      cases eq_of_beq same
      have notLater : (key, value) ∉ rest := fun mem => nodup.1 (List.mem_map.mpr ⟨_, mem, rfl⟩)
      simp [notLater, eq_comm]
    | false =>
      have ne : key ≠ k := ne_of_beq_false same
      simp [ih nodup.2, ne]

/-- Raising the count of one key by one raises the sum of all counts by one. -/
theorem sum_put {κ : Type u} [DecidableEq κ] {entries : List (κ × Nat)}
    (nodup : (entries.map Prod.fst).Nodup) (key : κ) :
    ((put entries (key, (entries.lookup key).getD 0 + 1)).map Prod.snd).sum =
      (entries.map Prod.snd).sum + 1 := by
  have others : ((entries.filter fun old => old.1 ≠ key).map Prod.snd).sum +
      (entries.lookup key).getD 0 = (entries.map Prod.snd).sum := by
    induction entries with
    | nil => rfl
    | cons entry rest ih =>
      obtain ⟨k, n⟩ := entry
      rw [List.map_cons, List.nodup_cons] at nodup
      rw [List.lookup_cons]
      by_cases same : key = k
      · subst same
        have absent : rest.filter (fun old => old.1 ≠ key) = rest := by
          refine List.filter_eq_self.mpr fun old mem => decide_eq_true ?_
          rintro rfl
          exact nodup.1 (List.mem_map.mpr ⟨old, mem, rfl⟩)
        rw [List.filter_cons_of_neg (by simp), absent, beq_self_eq_true]
        exact Nat.add_comm _ _
      · rw [List.filter_cons_of_pos (by simp [Ne.symm same]), beq_false_of_ne same, List.map_cons,
          List.sum_cons, List.map_cons, List.sum_cons, Nat.add_assoc, ih nodup.2]
  rw [put, List.map_append, List.sum_append, ← others]
  rfl

end OptimizrActions.Dict
