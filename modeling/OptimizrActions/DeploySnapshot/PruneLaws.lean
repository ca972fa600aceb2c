import OptimizrActions.DeploySnapshot.Prune
import OptimizrActions.Lib.Gather
import OptimizrActions.Lib.Prefix

/-! Which snapshots a pruning keeps, and what it removes. -/

namespace OptimizrActions.DeploySnapshot

section

/-- The snapshot that a child of the root is. -/
def snapshotOf : String × Node → Option SnapshotEntry
  | (name, .file size (some mtime)) => if isSnapshotName name then some ⟨name, size, mtime⟩ else none
  | _ => none

def snapshots (dir : SnapshotRoot) : List SnapshotEntry := dir.entries.filterMap snapshotOf

def IsSnapshot (dir : SnapshotRoot) (name : String) : Prop :=
  isSnapshotName name = true ∧ ∃ size mtime, dir.get name = some (.file size mtime)

variable (limits : Limits) (now : Calendar.DateTime)

def Recent (entry : SnapshotEntry) : Prop :=
  now.instant ≤ entry.mtime.instant + limits.maxAgeDays * dayMicroseconds

/-- The limits on what is kept; a single snapshot may be old or large. -/
def Allowed (kept : List SnapshotEntry) : Prop :=
  kept.length ≤ limits.maxCount ∧
    (kept.length ≤ 1 ∨ (∀ entry ∈ kept, Recent limits now entry) ∧
      totalSize kept ≤ limits.maxTotalBytes)

/-- What a pruning that returns has done. -/
structure Pruned (before after : SnapshotRoot) (result : PruneResult)
    (kept deleted : List SnapshotEntry) : Prop where
  all : ∀ name, IsSnapshot before name ↔ ∃ entry ∈ snapshots before, entry.name = name
  partition : (kept ++ deleted).Perm (snapshots before)
  longest : LongestPrefix (Allowed limits now) (newestFirst (snapshots before)) kept
  newest : ∀ entry ∈ (newestFirst (snapshots before)).head?, entry ∈ kept
  keptNames : result.kept = kept.map (·.name)
  deletedNames : result.deleted = deleted.map (·.name)
  keptBytes : result.keptBytes = totalSize kept
  deletedBytes : result.deletedBytes = totalSize deleted
  totalBytesBefore : result.totalBytesBefore = totalSize (snapshots before)
  totalBytesAfter : result.totalBytesAfter = totalSize kept
  overBudgetBytes : result.overBudgetBytes = totalSize kept - limits.maxTotalBytes
  removed : ∀ entry ∈ deleted, after.get entry.name = none
  untouched : ∀ name, (∀ entry ∈ deleted, entry.name ≠ name) → after.get name = before.get name

end

section Load

variable {dir : SnapshotRoot} {entries : List SnapshotEntry} {name : String}

theorem loadSnapshot_eq_ok {child : String × Node} {value : Option SnapshotEntry}
    (h : loadSnapshot child = .ok value) : value = snapshotOf child ∧
      ((child.1 = name ∧ isSnapshotName name = true ∧ ∃ size mtime, child.2 = .file size mtime) ↔
        ∃ entry, value = some entry ∧ entry.name = name) := by
  obtain ⟨name', node⟩ := child
  cases node with
  | symlink => exact absurd h nofun
  | other =>
    cases h
    simp [snapshotOf]
  | file size mtime =>
    cases json : isSnapshotName name' with
    | false =>
      simp only [loadSnapshot, json, Bool.false_eq_true, if_false, Except.ok.injEq] at h
      subst h
      refine ⟨?_, ?_⟩
      · cases mtime with
        | none => rfl
        | some mtime => simp [snapshotOf, json]
      · constructor
        · rintro ⟨rfl, json', -⟩
          exact absurd (json.symm.trans json') nofun
        · rintro ⟨entry, none, -⟩
          exact absurd none nofun
    | true =>
      cases mtime with
      | none => simp [loadSnapshot, json] at h
      | some mtime =>
        simp only [loadSnapshot, json, if_true, Except.ok.injEq] at h
        subst h
        refine ⟨by simp [snapshotOf, json], ?_⟩
        constructor
        · rintro ⟨rfl, -⟩
          exact ⟨_, rfl, rfl⟩
        · rintro ⟨entry, here, rfl⟩
          cases here
          exact ⟨rfl, json, size, _, rfl⟩

/-- What is read is every snapshot of the root. -/
theorem loadSnapshots_eq_ok (h : loadSnapshots dir = .ok entries) : entries = snapshots dir ∧
    ∀ name, IsSnapshot dir name ↔ ∃ entry ∈ snapshots dir, entry.name = name := by
  obtain ⟨children, read, rfl⟩ := map_eq_ok.mp h
  have each := mapM_eq_ok_iff.mp read
  have mapped : children = dir.entries.map snapshotOf :=
    eq_map_of_forall₂ (each.imp fun child value one => (@loadSnapshot_eq_ok "" child value one).1)
  have same : children.filterMap id = snapshots dir := by
    rw [mapped, List.filterMap_map]
    rfl
  refine ⟨same, fun name => ?_⟩
  have both := exists_mem_iff_of_forall₂ each fun child value one =>
    (@loadSnapshot_eq_ok name child value one).2
  have left : IsSnapshot dir name ↔ ∃ child ∈ dir.entries, child.1 = name ∧
      isSnapshotName name = true ∧ ∃ size mtime, child.2 = .file size mtime := by
    constructor
    · rintro ⟨json, size, mtime, held⟩
      exact ⟨_, (Dict.lookup_eq_some_iff_mem dir.nodup).mp held, rfl, json, size, mtime, rfl⟩
    · rintro ⟨⟨_, node⟩, mem, rfl, json, size, mtime, rfl⟩
      exact ⟨json, size, mtime, (Dict.lookup_eq_some_iff_mem dir.nodup).mpr mem⟩
  rw [left, both, ← same]
  simp only [List.mem_filterMap, id]
  constructor
  · rintro ⟨value, mem, entry, rfl, at_⟩
    exact ⟨entry, ⟨_, mem, rfl⟩, at_⟩
  · rintro ⟨entry, ⟨value, mem, rfl⟩, at_⟩
    exact ⟨_, mem, entry, rfl, at_⟩

end Load

section Trim

variable {limits : Limits} {now : Calendar.DateTime}
  {ordered survivors deletions : List SnapshotEntry} {last : SnapshotEntry}

theorem totalSize_reverse : totalSize survivors.reverse = totalSize survivors := by
  rw [totalSize, totalSize, List.map_reverse, List.sum_reverse]

theorem totalSize_cons : totalSize (last :: survivors) = last.size + totalSize survivors := rfl

theorem totalSize_append {more : List SnapshotEntry} :
    totalSize (survivors ++ more) = totalSize survivors + totalSize more := by
  rw [totalSize, totalSize, totalSize, List.map_append, List.sum_append]

/-- What holds of the survivors, from the last one on, whenever the loops test them. -/
structure Survivors (limits : Limits) (now : Calendar.DateTime)
    (ordered survivors deletions : List SnapshotEntry) : Prop where
  nonempty : survivors ≠ []
  cut : ∃ tail, survivors.reverse ++ tail = ordered ∧ deletions.Perm tail
  recent : survivors.length ≤ 1 ∨ ∀ entry ∈ survivors, Recent limits now entry
  bounds : Bounds (Allowed limits now) ordered survivors.reverse

theorem Survivors.pop (h : Survivors limits now ordered (last :: survivors) deletions)
    (more : survivors ≠ []) (fails : ¬Allowed limits now (last :: survivors).reverse) :
    Survivors limits now ordered survivors (deletions ++ [last]) where
  nonempty := more
  cut := by
    obtain ⟨tail, whole, perm⟩ := h.cut
    refine ⟨last :: tail, ?_, ?_⟩
    · rw [← whole, List.reverse_cons, List.append_assoc]
      rfl
    · exact (List.perm_append_singleton last deletions).trans (perm.cons last)
  recent := h.recent.imp (fun one => (Nat.le_succ _).trans one)
    fun each entry mem => each entry (List.mem_cons_of_mem _ mem)
  bounds := by
    have isPrefix : (last :: survivors).reverse <+: ordered := h.cut.imp fun _ cut => cut.1
    have bounds := h.bounds
    rw [List.reverse_cons] at bounds isPrefix fails
    exact bounds.pop isPrefix fails

theorem trimCount_survivors (positive : 1 ≤ limits.maxCount)
    (h : Survivors limits now ordered survivors deletions) :
    Survivors limits now ordered (trimCount limits.maxCount survivors deletions).1
        (trimCount limits.maxCount survivors deletions).2 ∧
      (trimCount limits.maxCount survivors deletions).1.length ≤ limits.maxCount := by
  induction survivors generalizing deletions with
  | nil => exact ⟨h, Nat.zero_le _⟩
  | cons last survivors ih =>
    unfold trimCount
    split_ifs with many
    · have more : survivors ≠ [] := by
        rintro rfl
        exact absurd (positive.trans_lt many) (lt_irrefl _)
      refine ih (h.pop more fun allowed => ?_)
      have le := allowed.1
      rw [List.length_reverse, List.length_cons] at le
      exact absurd le many.not_ge
    · exact ⟨h, not_lt.mp many⟩

theorem trimBytes_survivors (h : Survivors limits now ordered survivors deletions)
    (count : survivors.length ≤ limits.maxCount) :
    ∃ kept deleted, trimBytes limits.maxTotalBytes survivors deletions (totalSize survivors) =
        (kept, deleted, totalSize kept) ∧
      Survivors limits now ordered kept deleted ∧ Allowed limits now kept.reverse := by
  induction survivors generalizing deletions with
  | nil => exact absurd rfl h.nonempty
  | cons last survivors ih =>
    have size : totalSize (last :: survivors) - last.size = totalSize survivors := by
      rw [totalSize_cons, Nat.add_sub_cancel_left]
    unfold trimBytes
    split_ifs with large
    · have more : survivors ≠ [] := by
        rintro rfl
        exact absurd large.1 (lt_irrefl _)
      rw [size]
      refine ih (h.pop more fun allowed => ?_) ((Nat.le_succ _).trans count)
      rcases allowed.2 with one | ⟨-, bytes⟩
      · rw [List.length_reverse, List.length_cons] at one
        exact absurd one large.1.not_ge
      · rw [totalSize_reverse] at bytes
        exact absurd bytes large.2.not_ge
    · refine ⟨_, _, rfl, h, ?_, ?_⟩
      · rw [List.length_reverse]
        exact count
      · rw [not_and_or, not_lt, not_lt] at large
        rw [List.length_reverse, totalSize_reverse]
        rcases large with one | bytes
        · exact Or.inl one
        · refine h.recent.imp id fun each => ⟨fun entry mem => ?_, bytes⟩
          exact each entry (List.mem_reverse.mp mem)

end Trim

section Select

variable {limits : Limits} {now : Calendar.DateTime} {newest : SnapshotEntry}
  {entries others : List SnapshotEntry}

theorem newestFirst_perm : (newestFirst entries).Perm entries := List.perm_insertionSort _ _

theorem oldestFirst_perm : (oldestFirst entries).Perm entries := List.perm_insertionSort _ _

theorem newestFirst_pairwise :
    (newestFirst entries).Pairwise fun a b => b.mtime.instant ≤ a.mtime.instant := by
  have total : Std.Total fun a b : SnapshotEntry => b.key ≤ a.key := ⟨fun a b => le_total b.key a.key⟩
  have trans : IsTrans SnapshotEntry fun a b => b.key ≤ a.key := ⟨fun _ _ _ ab bc => bc.trans ab⟩
  refine (List.pairwise_insertionSort (fun a b : SnapshotEntry => b.key ≤ a.key) entries).imp ?_
  intro a b le
  rcases Prod.Lex.toLex_le_toLex.mp le with lt | ⟨eq, -⟩
  · exact lt.le
  · exact eq.le

/-- Before the loops, the survivors are the snapshots that are not too old. -/
theorem survivors_of_recent {cutoff : Nat} (sorted : (newest :: others).Pairwise
      fun a b => b.mtime.instant ≤ a.mtime.instant)
    (recent : ∀ entry : SnapshotEntry, Recent limits now entry ↔ cutoff ≤ entry.mtime.instant) :
    Survivors limits now (newest :: others)
      (newest :: others.filter fun entry => !(entry.mtime.instant < cutoff : Bool)).reverse
      (others.filter fun entry => entry.mtime.instant < cutoff) where
  nonempty := List.reverse_ne_nil_iff.mpr (List.cons_ne_nil _ _)
  cut := by
    have keep : others.Pairwise fun a b =>
        (!decide (b.mtime.instant < cutoff)) = true → (!decide (a.mtime.instant < cutoff)) = true :=
      (List.pairwise_cons.mp sorted).2.imp fun le later => by
        rw [Bool.not_eq_true', decide_eq_false_iff_not, not_lt] at later ⊢
        exact later.trans le
    refine ⟨_, ?_, List.Perm.refl _⟩
    rw [List.reverse_reverse, List.cons_append]
    refine congrArg _ (Eq.trans ?_ (filter_append_filter_not keep))
    simp only [Bool.not_not]
  recent := by
    cases at_ : others.filter fun entry => !(entry.mtime.instant < cutoff : Bool) with
    | nil => exact Or.inl (by simp)
    | cons first rest =>
      refine Or.inr fun entry mem => ?_
      rw [← at_, List.mem_reverse, List.mem_cons] at mem
      have late {entry : SnapshotEntry} (mem : entry ∈ others.filter fun entry =>
          !(entry.mtime.instant < cutoff : Bool)) : cutoff ≤ entry.mtime.instant := by
        simpa using (List.mem_filter.mp mem).2
      rw [recent]
      rcases mem with rfl | mem
      · have inside : first ∈ others.filter fun entry => !(entry.mtime.instant < cutoff : Bool) :=
          at_ ▸ List.mem_cons_self
        exact (late inside).trans ((List.pairwise_cons.mp sorted).1 first (List.mem_filter.mp inside).1)
      · exact late mem
  bounds := by
    rw [List.reverse_reverse]
    intro front inside allowed
    rcases allowed.2 with one | ⟨each, -⟩
    · exact one.trans (Nat.succ_le_succ (Nat.zero_le _))
    · cases front with
      | nil => exact Nat.zero_le _
      | cons first front =>
        refine Nat.succ_le_succ (length_le_length_filter (List.cons_prefix_cons.mp inside).2.sublist ?_)
        intro entry mem
        have late := (recent entry).mp (each entry (List.mem_cons_of_mem _ mem))
        simpa using late

theorem selectSnapshots_longest {cutoff : Nat} (positive : 1 ≤ limits.maxCount)
    (sorted : (newest :: others).Pairwise fun a b => b.mtime.instant ≤ a.mtime.instant)
    (recent : ∀ entry : SnapshotEntry, Recent limits now entry ↔ cutoff ≤ entry.mtime.instant) :
    ∃ kept deleted, selectSnapshots limits cutoff newest others = (kept, deleted, totalSize kept) ∧
      LongestPrefix (Allowed limits now) (newest :: others) kept ∧
      (kept ++ deleted).Perm (newest :: others) ∧ newest ∈ kept := by
  obtain ⟨start, count⟩ := trimCount_survivors positive (survivors_of_recent sorted recent)
  obtain ⟨last, deleted, eq, done, allowed⟩ := trimBytes_survivors start count
  obtain ⟨tail, whole, perm⟩ := done.cut
  refine ⟨last.reverse, deleted, ?_, ⟨⟨tail, whole⟩, allowed, done.bounds⟩, ?_, ?_⟩
  · rw [selectSnapshots]
    dsimp only
    rw [eq]
    dsimp only
    rw [totalSize_reverse]
  · exact (perm.append_left _).trans (List.Perm.of_eq whole)
  · cases at_ : last.reverse with
    | nil => exact absurd (List.reverse_eq_nil_iff.mp at_) done.nonempty
    | cons first rest =>
      rw [at_, List.cons_append] at whole
      rw [(List.cons.inj whole).1]
      exact List.mem_cons_self

end Select

section Unlink

variable {denied : String → Bool} {entries : List SnapshotEntry} {dir : SnapshotRoot}
  {name : String} {bytes : Nat}

theorem unlinkAll_of_not_mem (apart : ∀ entry ∈ entries, entry.name ≠ name) :
    (unlinkAll denied entries bytes dir).2.get name = dir.get name := by
  induction entries generalizing dir bytes with
  | nil => rfl
  | cons entry rest ih =>
    rw [List.forall_mem_cons] at apart
    unfold unlinkAll
    split_ifs
    · rfl
    · rw [ih apart.2, Directory.get_remove_of_ne (Ne.symm apart.1)]

theorem unlinkAll_eq_ok {after : SnapshotRoot} {deletedBytes : Nat}
    (h : unlinkAll denied entries bytes dir = (.ok deletedBytes, after)) :
    deletedBytes = bytes + totalSize entries ∧ ∀ entry ∈ entries, after.get entry.name = none := by
  induction entries generalizing dir bytes with
  | nil =>
    cases h
    exact ⟨rfl, nofun⟩
  | cons entry rest ih =>
    unfold unlinkAll at h
    split_ifs at h
    · exact absurd (congrArg Prod.fst h) nofun
    · obtain ⟨total, gone⟩ := ih h
      refine ⟨total.trans (Nat.add_assoc _ _ _), List.forall_mem_cons.mpr ⟨?_, gone⟩⟩
      by_cases again : ∃ other ∈ rest, other.name = entry.name
      · obtain ⟨other, mem, same⟩ := again
        exact same ▸ gone other mem
      · have left := @unlinkAll_of_not_mem denied rest (dir.remove entry.name) entry.name
          (bytes + entry.size) fun other mem same => again ⟨other, mem, same⟩
        rw [h] at left
        exact left.trans Directory.get_remove_self

end Unlink

section Prune

variable {clock now : Calendar.DateTime} {denied : String → Bool} {config : PruneConfig}
  {dir : SnapshotRoot} {limits : Limits}

theorem one_le_of_validatePositiveInt {name : String} {value : Json} {n : Nat}
    (h : validatePositiveInt name value = .ok n) : 1 ≤ n := by
  cases value with
  | int i =>
    obtain ⟨_, positive, rest⟩ := bind_eq_ok.mp h
    cases rest
    have := require_eq_ok.mp positive
    omega
  | _ => exact absurd h nofun

theorem one_le_of_pruneLimits (h : pruneLimits clock config = .ok (limits, now)) :
    1 ≤ limits.maxCount := by
  simp only [pruneLimits, bind_eq_ok, pure_eq_ok] at h
  obtain ⟨_, -, count, countOk, _, -, _, -, _, -, eq⟩ := h
  cases eq
  exact one_le_of_validatePositiveInt countOk

theorem pruneOrdered_cons {root : RootPath} {newest : SnapshotEntry} {others : List SnapshotEntry}
    (positive : 1 ≤ limits.maxCount)
    (sorted : (newest :: others).Pairwise fun a b => b.mtime.instant ≤ a.mtime.instant)
    (fits : ¬now.instant < (limits.maxAgeDays + 1) * dayMicroseconds) :
    ∃ kept deleted, LongestPrefix (Allowed limits now) (newest :: others) kept ∧
      (kept ++ deleted).Perm (newest :: others) ∧ newest ∈ kept ∧
      pruneOrdered root denied limits now dir (newest :: others) =
        match unlinkAll denied deleted 0 dir with
        | (.error message, dir) => (.error message, dir)
        | (.ok deletedBytes, dir) =>
          (.ok ⟨root, kept.map (·.name), deleted.map (·.name), totalSize kept, deletedBytes,
            totalSize kept + deletedBytes, totalSize kept,
            totalSize kept - limits.maxTotalBytes⟩, dir) := by
  obtain ⟨kept, deleted, eq, longest, perm, mem⟩ :=
    @selectSnapshots_longest limits now newest others
      (now.instant - limits.maxAgeDays * dayMicroseconds) positive sorted
      fun _ => Nat.sub_le_iff_le_add.symm
  refine ⟨kept, oldestFirst deleted, longest, ?_, mem, ?_⟩
  · exact (oldestFirst_perm.append_left _).trans perm
  · rw [pruneOrdered, if_neg fits]
    dsimp only
    generalize selectSnapshots limits _ newest others = found at eq ⊢
    subst eq
    rfl

/-- Whatever the outcome, only snapshots are removed. -/
theorem pruneOrdered_of_not_mem {root : RootPath} {name : String} {ordered : List SnapshotEntry}
    (positive : 1 ≤ limits.maxCount)
    (sorted : ordered.Pairwise fun a b => b.mtime.instant ≤ a.mtime.instant)
    (apart : ∀ entry ∈ ordered, entry.name ≠ name) :
    (pruneOrdered root denied limits now dir ordered).2.get name = dir.get name := by
  cases ordered with
  | nil => rfl
  | cons newest others =>
    by_cases fits : now.instant < (limits.maxAgeDays + 1) * dayMicroseconds
    · rw [pruneOrdered, if_pos fits]
    · obtain ⟨kept, deleted, -, perm, -, eq⟩ :=
        @pruneOrdered_cons now denied dir limits root newest others positive sorted fits
      have kept := @unlinkAll_of_not_mem denied deleted dir name 0 fun entry mem =>
        apart entry (perm.mem_iff.mp (List.mem_append_right _ mem))
      rw [eq]
      split
      next message after unlinked => rwa [unlinked] at kept
      next bytes after unlinked => rwa [unlinked] at kept

theorem pruneOrdered_pruned {root : RootPath} {result : PruneResult} {after : SnapshotRoot}
    (positive : 1 ≤ limits.maxCount)
    (all : ∀ name, IsSnapshot dir name ↔ ∃ entry ∈ snapshots dir, entry.name = name)
    (h : pruneOrdered root denied limits now dir (newestFirst (snapshots dir)) = (.ok result, after)) :
    result.root = root ∧ ∃ kept deleted, Pruned limits now dir after result kept deleted := by
  have sorted := @newestFirst_pairwise (snapshots dir)
  have whole := @newestFirst_perm (snapshots dir)
  cases ordered : newestFirst (snapshots dir) with
  | nil =>
    have none : snapshots dir = [] := List.nil_perm.mp (ordered ▸ whole)
    rw [ordered] at h
    cases h
    refine ⟨rfl, [], [], ⟨all, ?_, ?_, ?_, rfl, rfl, rfl, rfl, ?_, rfl,
      (Nat.zero_sub _).symm, nofun, fun _ _ => rfl⟩⟩
    · rw [none]
      exact List.Perm.refl _
    · rw [ordered]
      exact ⟨List.prefix_rfl, ⟨Nat.zero_le _, Or.inl (Nat.zero_le _)⟩, fun _ inside _ => inside.length_le⟩
    · rw [ordered]
      exact nofun
    · rw [none]
      rfl
  | cons newest others =>
    rw [ordered] at h sorted whole
    by_cases fits : now.instant < (limits.maxAgeDays + 1) * dayMicroseconds
    · rw [pruneOrdered, if_pos fits] at h
      exact absurd (congrArg Prod.fst h) nofun
    · obtain ⟨kept, deleted, longest, perm, mem, eq⟩ :=
        @pruneOrdered_cons now denied dir limits root newest others positive sorted fits
      rw [eq] at h
      split at h
      next => exact absurd (congrArg Prod.fst h) nofun
      next bytes after' unlinked =>
        cases h
        obtain ⟨total, gone⟩ := unlinkAll_eq_ok unlinked
        rw [Nat.zero_add] at total
        have partition := perm.trans whole
        have sizes : totalSize (snapshots dir) = totalSize kept + totalSize deleted := by
          rw [← totalSize_append, totalSize, totalSize]
          exact (partition.map _).sum_eq.symm
        refine ⟨rfl, kept, deleted, ⟨all, partition, ordered ▸ longest, ?_, rfl, rfl, rfl, total, ?_,
          rfl, rfl, gone, fun name apart => ?_⟩⟩
        · rw [ordered]
          intro entry head
          cases head
          exact mem
        · rw [sizes, ← total]
        · have left := @unlinkAll_of_not_mem denied deleted dir name 0 apart
          rwa [unlinked] at left

/-- A pruning that returns keeps the longest allowed part of the snapshots, from the newest one on,
and removes the others.  Whatever its outcome, nothing else is removed. -/
theorem pruneSnapshots_longest :
    (∀ name, ¬IsSnapshot dir name →
      (pruneSnapshots clock denied config dir).2.get name = dir.get name) ∧
    ∀ result, (pruneSnapshots clock denied config dir).1 = .ok result →
      ∃ limits now kept deleted, pruneLimits clock config = .ok (limits, now) ∧
        result.root = config.root ∧
        Pruned limits now dir (pruneSnapshots clock denied config dir).2 result kept deleted := by
  rw [pruneSnapshots]
  cases limitsOk : pruneLimits clock config with
  | error message => exact ⟨fun _ _ => rfl, fun _ h => absurd h nofun⟩
  | ok checked =>
    obtain ⟨limits, now⟩ := checked
    have positive := one_le_of_pruneLimits limitsOk
    cases loaded : loadSnapshots dir with
    | error message => exact ⟨fun _ _ => rfl, fun _ h => absurd h nofun⟩
    | ok entries =>
      obtain ⟨rfl, all⟩ := loadSnapshots_eq_ok loaded
      refine ⟨fun name none => ?_, fun result returned => ?_⟩
      · refine pruneOrdered_of_not_mem positive newestFirst_pairwise fun entry mem same => none ?_
        exact (all name).mpr ⟨entry, newestFirst_perm.mem_iff.mp mem, same⟩
      · obtain ⟨root, kept, deleted, pruned⟩ := pruneOrdered_pruned positive all (Prod.ext returned rfl)
        exact ⟨limits, now, kept, deleted, rfl, root, pruned⟩

/-- Three snapshots, of which the two newest are small enough, and a directory. -/
def sampleRoot : SnapshotRoot :=
  ⟨[("old.tar.gz", .file 5 (some ⟨2026, 3, 1, 0, 0, 0, 0, by decide⟩)), ("notes", .other),
    ("new.tar.gz", .file 4 (some ⟨2026, 3, 3, 0, 0, 0, 0, by decide⟩)),
    ("last.tar.gz", .file 3 (some ⟨2026, 3, 2, 0, 0, 0, 0, by decide⟩))], by decide⟩

def sampleConfig : PruneConfig where
  root := ⟨true, false, true, true, false, false⟩
  maxCount := .int 3
  maxAgeDays := .int 9
  maxTotalBytes := .int 10

def samplePrune : Except String PruneResult × SnapshotRoot :=
  pruneSnapshots ⟨2026, 3, 4, 0, 0, 0, 0, by decide⟩ (fun _ => false) sampleConfig sampleRoot

def sampleResult : PruneResult where
  root := sampleConfig.root
  kept := ["new.tar.gz", "last.tar.gz"]
  deleted := ["old.tar.gz"]
  keptBytes := 7
  deletedBytes := 5
  totalBytesBefore := 12
  totalBytesAfter := 7
  overBudgetBytes := 0

theorem pruneSnapshots_longest_sample : samplePrune.2.get "notes" = some .other ∧
    ∃ limits now kept deleted, Pruned limits now sampleRoot samplePrune.2 sampleResult kept deleted := by
  have returned : samplePrune.1 = .ok sampleResult := by decide +kernel
  obtain ⟨untouched, pruned⟩ := @pruneSnapshots_longest ⟨2026, 3, 4, 0, 0, 0, 0, by decide⟩
    (fun _ => false) sampleConfig sampleRoot
  refine ⟨untouched "notes" fun snapshot => absurd snapshot.1 (by decide), ?_⟩
  obtain ⟨limits, now, kept, deleted, -, -, h⟩ := pruned sampleResult returned
  exact ⟨limits, now, kept, deleted, h⟩

end Prune

end OptimizrActions.DeploySnapshot
