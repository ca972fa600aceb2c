import Mathlib.Data.List.Sort

/-! The items that were added last, and the greatest ones. -/

universe u

namespace OptimizrActions

section

variable {α : Type u} {count : Nat} {items : List α}

/-- The last items of the list, as many as this or all. -/
def newest (count : Nat) (items : List α) : List α := items.drop (items.length - count)

/-- The other items. -/
def older (count : Nat) (items : List α) : List α := items.take (items.length - count)

theorem older_append_newest : older count items ++ newest count items = items :=
  List.take_append_drop _ _

theorem length_newest : (newest count items).length = min count items.length := by
  rw [newest, List.length_drop]
  omega

theorem newest_sublist : (newest count items).Sublist items := List.drop_sublist _ _

theorem disjoint_of_nodup (nodup : items.Nodup) {a : α} (old : a ∈ older count items)
    (new : a ∈ newest count items) : False := by
  rw [← @older_append_newest _ count items] at nodup
  exact List.disjoint_of_nodup_append nodup old new

theorem mem_of_mem_newest_append {a : α} (positive : 1 ≤ count) : a ∈ newest count (items ++ [a]) := by
  rw [newest, List.length_append, List.length_singleton, List.drop_append]
  refine List.mem_append_right _ ?_
  have none : items.length + 1 - count - items.length = 0 := by omega
  rw [none]
  exact List.mem_cons_self

end

section

variable {α : Type u} [LinearOrder α] {count : Nat} {items : List α}

/-- The items from the greatest one on. -/
def descending (items : List α) : List α := items.insertionSort (· ≥ ·)

theorem descending_perm : (descending items).Perm items := List.perm_insertionSort _ _

theorem le_of_mem_drop {a b : α} (front : a ∈ (descending items).take count)
    (back : b ∈ (descending items).drop count) : b ≤ a := by
  have sorted := List.pairwise_insertionSort (· ≥ ·) items
  change (descending items).Pairwise (· ≥ ·) at sorted
  rw [← List.take_append_drop count (descending items), List.pairwise_append] at sorted
  exact sorted.2.2 a front b back

/-- The greatest items are the newest ones exactly where every other item is below each of them. -/
theorem greatest_eq_newest_iff (nodup : items.Nodup) :
    (∀ a, a ∈ (descending items).take count ↔ a ∈ newest count items) ↔
      ∀ old ∈ older count items, ∀ new ∈ newest count items, old < new := by
  have sortedNodup : (descending items).Nodup := descending_perm.nodup_iff.mpr nodup
  constructor
  · intro same old oldMem new newMem
    have apart : old ∉ (descending items).take count := fun mem =>
      disjoint_of_nodup nodup oldMem ((same old).mp mem)
    have present : old ∈ descending items :=
      descending_perm.mem_iff.mpr (List.mem_of_mem_take oldMem)
    rw [← List.take_append_drop count (descending items), List.mem_append] at present
    have below := le_of_mem_drop ((same new).mpr newMem) (present.resolve_left apart)
    exact below.lt_of_ne fun equal => disjoint_of_nodup nodup oldMem (equal ▸ newMem)
  · intro below
    have lengths : ((descending items).take count).length = (newest count items).length := by
      rw [length_newest, List.length_take, descending_perm.length_eq]
    have inside : newest count items ⊆ (descending items).take count := by
      intro new newMem
      by_contra apart
      have present : new ∈ descending items :=
        descending_perm.mem_iff.mpr (newest_sublist.subset newMem)
      rw [← List.take_append_drop count (descending items), List.mem_append] at present
      have back := present.resolve_left apart
      -- every item of the front would be a newest one other than this one
      have front : (descending items).take count ⊆ (newest count items).erase new := by
        intro a aMem
        have ne : a ≠ new := fun equal => apart (equal ▸ aMem)
        have member : a ∈ items := descending_perm.mem_iff.mp (List.mem_of_mem_take aMem)
        rw [← @older_append_newest _ count items, List.mem_append] at member
        refine (List.mem_erase_of_ne ne).mpr (member.resolve_left fun oldMem => ?_)
        exact absurd (below a oldMem new newMem) (le_of_mem_drop aMem back).not_gt
      have fewer := (List.subperm_of_subset (sortedNodup.sublist (List.take_sublist _ _)) front).length_le
      rw [List.length_erase_of_mem newMem, lengths] at fewer
      have positive := List.length_pos_of_mem newMem
      omega
    have perm := (List.subperm_of_subset (nodup.sublist newest_sublist) inside).perm_of_length_le lengths.le
    exact fun a => perm.mem_iff.symm

end

end OptimizrActions
