import Mathlib.Data.List.Basic
import Mathlib.Data.List.Infix

/-! Directory trees with symlinks, and how the operating system follows a path. -/

namespace OptimizrActions

/-- Paths are compared in many places; the instance is named once. -/
instance instLawfulBEqPath : LawfulBEq (List String) := List.instLawfulBEq

inductive Node (α : Type) where
  | file (content : α)
  | directory
  | symlink (absolute : Bool) (target : List String)
  | special

/-- What is found at a path of plain names. -/
structure FileTree (α : Type) where
  node : List String → Option (Node α)
  root : node [] = some .directory
  parent : ∀ dir name n, node (dir ++ [name]) = some n → node dir = some .directory

namespace FileTree

variable {α : Type} (tree : FileTree α)

/-- How far names lead: to the end, to nothing, or to a symlink with names left. -/
inductive Descent where
  | done (path : List String)
  | missing
  | link (dir : List String) (absolute : Bool) (target rest : List String)

def descend : List String → List String → Descent
  | cur, [] => .done cur
  | cur, name :: rest =>
    if name = ".." then descend cur.dropLast rest
    else match tree.node (cur ++ [name]) with
      | none => .missing
      | some (.symlink absolute target) => .link cur absolute target rest
      | some _ => descend (cur ++ [name]) rest

/-- At most this many symlinks are followed. -/
def follow : Nat → List String → List String → Option (List String)
  | links, cur, rest => match tree.descend cur rest, links with
    | .done path, _ => some path
    | .missing, _ => none
    | .link .., 0 => none
    | .link dir absolute target rest, links + 1 =>
      follow links (if absolute then [] else dir) (target ++ rest)

def maxLinks : Nat := 40

/-- `resolve(strict=True)` -/
def resolve (path : List String) : Option (List String) := tree.follow maxLinks [] path

def exists_ (path : List String) : Bool := (tree.resolve path).isSome

def lstat (path : List String) : Option (Node α) :=
  match path.getLast? with
  | none => tree.node []
  | some name =>
    if name = ".." then (tree.resolve path).bind tree.node
    else (tree.resolve path.dropLast).bind fun dir => tree.node (dir ++ [name])

def isSymlink (path : List String) : Bool :=
  match tree.lstat path with
  | some (.symlink ..) => true
  | _ => false

def isDir (path : List String) : Bool :=
  match (tree.resolve path).bind tree.node with
  | some .directory => true
  | _ => false

def isFile (path : List String) : Bool :=
  match (tree.resolve path).bind tree.node with
  | some (.file _) => true
  | _ => false

def read (path : List String) : Option α :=
  match (tree.resolve path).bind tree.node with
  | some (.file content) => some content
  | _ => none

/-- Some path on the way exists and is a symlink. -/
def throughSymlink (path : List String) : Bool :=
  (List.range path.length).any fun n =>
    tree.exists_ (path.take (n + 1)) && tree.isSymlink (path.take (n + 1))

/-- A path that leads to itself. -/
def Canonical (path : List String) : Prop := tree.descend [] path = .done path

variable {tree}

theorem descend_append (cur xs ys : List String) :
    tree.descend cur (xs ++ ys) = match tree.descend cur xs with
      | .done path => tree.descend path ys
      | .missing => .missing
      | .link dir absolute target rest => .link dir absolute target (rest ++ ys) := by
  induction xs generalizing cur with
  | nil => rfl
  | cons name xs ih =>
    simp only [List.cons_append, descend]
    split_ifs
    · exact ih _
    · split
      · rfl
      · rfl
      · exact ih _

/-- What a new file is found as. -/
structure Placed (tree after : FileTree α) (path dir : List String) (name : String)
    (content : α) : Prop where
  parent : after.descend [] path.dropLast = .done dir
  led : after.descend [] path = .done (dir ++ [name])
  file : after.node (dir ++ [name]) = some (.file content)
  others : ∀ q, q ≠ dir ++ [name] → after.node q = tree.node q

theorem length_of_done {cur rest path : List String} (h : tree.descend cur rest = .done path) :
    path.length ≤ cur.length + rest.length := by
  induction rest generalizing cur with
  | nil =>
    cases h
    exact Nat.le_refl _
  | cons name rest ih =>
    simp only [descend] at h
    split_ifs at h
    · have := ih h
      simp only [List.length_dropLast, List.length_cons] at this ⊢
      omega
    · split at h
      · cases h
      · cases h
      · have := ih h
        simp only [List.length_append, List.length_cons, List.length_nil] at this ⊢
        omega

theorem canonical_nil : tree.Canonical [] := rfl

/-- The name of something that is no symlink. -/
def Plain (tree : FileTree α) (path : List String) : Prop :=
  ∃ n, tree.node path = some n ∧ ∀ absolute target, n ≠ .symlink absolute target

theorem descend_singleton {cur : List String} {name : String} (h : name ≠ "..") :
    tree.descend cur [name] = .done (cur ++ [name]) ↔ tree.Plain (cur ++ [name]) := by
  simp only [descend, if_neg h, Plain]
  cases tree.node (cur ++ [name]) with
  | none => simp
  | some n => cases n <;> simp

theorem canonical_append_singleton {dir : List String} {name : String} :
    tree.Canonical (dir ++ [name]) ↔
      tree.Canonical dir ∧ name ≠ ".." ∧ tree.Plain (dir ++ [name]) := by
  simp only [Canonical, descend_append]
  constructor
  · intro h
    cases led : tree.descend [] dir with
    | missing => simp [led] at h
    | link => simp [led] at h
    | done path =>
      have short := length_of_done led
      simp only [led] at h
      by_cases up : name = ".."
      · simp only [descend, if_pos up, Descent.done.injEq] at h
        have := congrArg List.length h
        simp only [List.length_dropLast, List.length_append, List.length_nil,
          List.length_singleton] at this short
        omega
      · have same : path = dir := by
          simp only [descend, if_neg up] at h
          split at h
          · cases h
          · cases h
          · exact (List.append_inj' (Descent.done.inj h) rfl).1
        subst same
        exact ⟨rfl, up, (descend_singleton up).mp h⟩
  · rintro ⟨led, up, plain⟩
    simp only [led]
    exact (descend_singleton up).mpr plain

theorem Canonical.dropLast {path : List String} (h : tree.Canonical path) :
    tree.Canonical path.dropLast := by
  rcases List.eq_nil_or_concat' path with rfl | ⟨dir, name, rfl⟩
  · exact h
  · rw [List.dropLast_concat]
    exact (canonical_append_singleton.mp h).1

theorem Canonical.descend {cur rest path : List String} (start : tree.Canonical cur)
    (h : tree.descend cur rest = .done path) : tree.Canonical path := by
  induction rest generalizing cur with
  | nil =>
    cases h
    exact start
  | cons name rest ih =>
    by_cases up : name = ".."
    · simp only [FileTree.descend, if_pos up] at h
      exact ih start.dropLast h
    · have plain : tree.Plain (cur ++ [name]) ∧ tree.descend (cur ++ [name]) rest = .done path := by
        simp only [FileTree.descend, if_neg up] at h
        cases at_ : tree.node (cur ++ [name]) with
        | none => simp [at_] at h
        | some n =>
          cases n with
          | symlink => simp [at_] at h
          | _ => exact ⟨⟨_, at_, nofun⟩, by simpa only [at_] using h⟩
      exact ih (canonical_append_singleton.mpr ⟨start, up, plain.1⟩) plain.2

/-- A symlink stopped at is found in a place that the names before it lead to. -/
theorem exists_of_link {cur names dir target rest : List String} {absolute : Bool}
    (h : tree.descend cur names = .link dir absolute target rest) :
    ∃ before name, names = before ++ name :: rest ∧ name ≠ ".." ∧
      tree.descend cur before = .done dir ∧
      tree.node (dir ++ [name]) = some (.symlink absolute target) := by
  induction names generalizing cur with
  | nil => cases h
  | cons name names ih =>
    simp only [descend] at h
    split_ifs at h with up
    · obtain ⟨before, last, rfl, one, led, at_⟩ := ih h
      exact ⟨name :: before, last, rfl, one, by simp only [descend, if_pos up, led], at_⟩
    · split at h
      · cases h
      next absolute' target' at_ =>
        cases h
        exact ⟨[], name, rfl, up, rfl, at_⟩
      next n notLink at_ =>
        obtain ⟨before, last, rfl, one, led, at'⟩ := ih h
        refine ⟨name :: before, last, rfl, one, ?_, at'⟩
        simp only [descend, if_neg up, at_]
        exact led

theorem follow_of_done {links : Nat} {cur rest path : List String}
    (h : tree.descend cur rest = .done path) : tree.follow links cur rest = some path := by
  unfold follow
  rw [h]

theorem Canonical.resolve {path : List String} (h : tree.Canonical path) :
    tree.resolve path = some path := follow_of_done h

theorem Canonical.follow {links : Nat} {cur rest path : List String} (start : tree.Canonical cur)
    (h : tree.follow links cur rest = some path) : tree.Canonical path := by
  induction links generalizing cur rest with
  | zero =>
    unfold FileTree.follow at h
    split at h
    next led =>
      cases h
      exact start.descend led
    next => cases h
    next => cases h
    next same => cases same
  | succ links ih =>
    unfold FileTree.follow at h
    split at h
    next led =>
      cases h
      exact start.descend led
    next => cases h
    next => cases h
    next dir absolute target rest' led same =>
      cases same
      obtain ⟨_, _, -, -, led, -⟩ := exists_of_link led
      refine ih ?_ h
      split_ifs
      · exact canonical_nil
      · exact start.descend led

theorem canonical_of_resolve {path target : List String} (h : tree.resolve path = some target) :
    tree.Canonical target := canonical_nil.follow h

/-- A path that is followed to its end is followed to the end of its first part. -/
theorem follow_of_append {links : Nat} {cur xs ys path : List String}
    (h : tree.follow links cur (xs ++ ys) = some path) :
    ∃ part, tree.follow links cur xs = some part := by
  induction links generalizing cur xs with
  | zero =>
    unfold follow at h ⊢
    rw [descend_append] at h
    cases led : tree.descend cur xs with
    | done part => exact ⟨part, rfl⟩
    | missing => simp [led] at h
    | link => simp [led] at h
  | succ links ih =>
    unfold follow at h ⊢
    rw [descend_append] at h
    cases led : tree.descend cur xs with
    | done part => exact ⟨part, rfl⟩
    | missing => simp [led] at h
    | link dir absolute target rest =>
      simp only [led, ← List.append_assoc] at h
      exact ih h

/-- A path that exists and leads through no symlink needs no following. -/
theorem done_of_resolve {path target : List String} (h : tree.resolve path = some target)
    (plain : tree.throughSymlink path = false) : tree.descend [] path = .done target := by
  cases led : tree.descend [] path with
  | done reached =>
    rw [resolve, follow_of_done led] at h
    cases h
    rfl
  | missing =>
    unfold resolve follow at h
    simp [led] at h
  | link dir absolute linked rest =>
    obtain ⟨before, name, rfl, up, toDir, at_⟩ := exists_of_link led
    have split : before ++ name :: rest = (before ++ [name]) ++ rest := by simp
    have alive : tree.exists_ (before ++ [name]) = true := by
      rw [resolve, split] at h
      obtain ⟨part, at_⟩ := follow_of_append h
      rw [exists_, resolve, at_]
      rfl
    have linked : tree.isSymlink (before ++ [name]) = true := by
      simp [isSymlink, lstat, up, resolve, follow_of_done toDir, at_]
    have taken : (before ++ name :: rest).take (before.length + 1) = before ++ [name] := by
      rw [split]
      exact List.take_left' (by simp)
    have among : before.length ∈ List.range (before ++ name :: rest).length := by simp
    have off := List.any_eq_false.mp plain _ among
    rw [taken, alive, linked] at off
    exact absurd rfl off

theorem lstat_append_singleton {dir : List String} {name : String} (h : name ≠ "..") :
    tree.lstat (dir ++ [name]) = (tree.resolve dir).bind fun dir => tree.node (dir ++ [name]) := by
  simp [lstat, h]

theorem done_of_append {cur xs ys path : List String}
    (h : tree.descend cur (xs ++ ys) = .done path) :
    ∃ part, tree.descend cur xs = .done part ∧ tree.descend part ys = .done path := by
  rw [descend_append] at h
  cases led : tree.descend cur xs with
  | done part => exact ⟨part, rfl, by simpa only [led] using h⟩
  | missing => simp [led] at h
  | link => simp [led] at h

theorem Canonical.plain {path : List String} (h : tree.Canonical path) : tree.Plain path := by
  rcases List.eq_nil_or_concat' path with rfl | ⟨dir, name, rfl⟩
  · exact ⟨_, tree.root, nofun⟩
  · exact (canonical_append_singleton.mp h).2.2

/-- Names that are followed without a link do not end at one. -/
theorem isSymlink_of_done {path target : List String} (h : tree.descend [] path = .done target) :
    tree.isSymlink path = false := by
  have found : tree.lstat path = tree.node target := by
    rcases List.eq_nil_or_concat' path with rfl | ⟨start, name, rfl⟩
    · cases h
      rfl
    · by_cases up : name = ".."
      · simp [lstat, up, resolve, follow_of_done (up ▸ h)]
      · obtain ⟨dir, led, last⟩ := done_of_append h
        have same : target = dir ++ [name] := by
          simp only [descend, if_neg up] at last
          split at last
          · cases last
          · cases last
          · exact (Descent.done.inj last).symm
        rw [lstat_append_singleton up, resolve, follow_of_done led, same, Option.bind_some]
  obtain ⟨n, at_, plain⟩ := (canonical_nil.descend h).plain
  rw [isSymlink, found, at_]
  cases n with
  | symlink absolute target => exact absurd rfl (plain absolute target)
  | _ => rfl

theorem Canonical.isFile_iff {path : List String} (h : tree.Canonical path) :
    tree.isFile path = true ↔ ∃ content, tree.node path = some (.file content) := by
  rw [isFile, h.resolve, Option.bind_some]
  cases tree.node path with
  | none => simp
  | some n => cases n <;> simp

theorem Canonical.read {path : List String} {content : α} (h : tree.Canonical path)
    (file : tree.node path = some (.file content)) : tree.read path = some content := by
  rw [FileTree.read, h.resolve, Option.bind_some, file]

theorem throughSymlink_of_done {path target : List String}
    (h : tree.descend [] path = .done target) : tree.throughSymlink path = false := by
  refine List.any_eq_false.mpr fun n _ => ?_
  rw [← List.take_append_drop (n + 1) path] at h
  obtain ⟨part, led, -⟩ := done_of_append h
  rw [isSymlink_of_done led, Bool.and_false]
  exact Bool.false_ne_true

instance (n : Option (Node α)) : Decidable (n = some .directory) :=
  match n with
  | some .directory => isTrue rfl
  | none => isFalse nofun
  | some (.file _) => isFalse nofun
  | some (.symlink ..) => isFalse nofun
  | some .special => isFalse nofun

/-- A file in a directory, in the place of whatever else had its name. -/
def put (tree : FileTree α) (dir : List String) (name : String) (content : α)
    (inside : tree.node dir = some .directory)
    (free : tree.node (dir ++ [name]) ≠ some .directory) : FileTree α where
  node path := if path = dir ++ [name] then some (.file content) else tree.node path
  root := by
    rw [if_neg (by simp)]
    exact tree.root
  parent := by
    intro d last n at_
    have other : d = dir → d ≠ dir ++ [name] := by
      rintro rfl
      simp
    by_cases same : d ++ [last] = dir ++ [name]
    · obtain ⟨same, -⟩ := List.append_inj' same rfl
      rw [if_neg (other same), same, inside]
    · rw [if_neg same] at at_
      have inner := tree.parent d last n at_
      by_cases below : d = dir ++ [name]
      · exact absurd (below ▸ inner) free
      · rw [if_neg below, inner]

/-- `os.replace(temporary, path)` for a temporary file with this content. -/
def replace (tree : FileTree α) (path : List String) (content : α) : Option (FileTree α) :=
  match tree.resolve path.dropLast, path.getLast? with
  | some dir, some name =>
    if h : tree.node dir = some .directory ∧ tree.node (dir ++ [name]) ≠ some .directory then
      some (tree.put dir name content h.1 h.2)
    else none
  | _, _ => none

theorem descend_put {dir : List String} {name : String} {content : α}
    {inside : tree.node dir = some .directory}
    {free : tree.node (dir ++ [name]) ≠ some .directory} (new : ¬tree.Plain (dir ++ [name]))
    {cur rest path : List String} (h : tree.descend cur rest = .done path) :
    (tree.put dir name content inside free).descend cur rest = .done path := by
  induction rest generalizing cur with
  | nil => exact h
  | cons next rest ih =>
    simp only [descend] at h ⊢
    split_ifs at h ⊢ with up
    · exact ih h
    · by_cases same : cur ++ [next] = dir ++ [name]
      · -- the place of the new file was not passed before
        rw [same] at h
        split at h
        · cases h
        · cases h
        next n notLink at_ =>
          exact absurd ⟨n, at_, fun absolute target eq => notLink absolute target eq⟩ new
      · have kept : (tree.put dir name content inside free).node (cur ++ [next]) =
            tree.node (cur ++ [next]) := if_neg same
        rw [kept]
        split at h
        · cases h
        · cases h
        · exact ih h

theorem throughSymlink_dropLast {start : List String} {name : String}
    (plain : tree.throughSymlink (start ++ [name]) = false) : tree.throughSymlink start = false := by
  refine List.any_eq_false.mpr fun n mem => ?_
  have short := List.mem_range.mp mem
  have off := List.any_eq_false.mp plain n (by simp; omega)
  rwa [List.take_append_of_le_length (by omega)] at off

theorem placed_of_replace {after : FileTree α} {path : List String} {content : α}
    (plain : tree.throughSymlink path = false) (absent : tree.exists_ path = false)
    (h : tree.replace path content = some after) :
    ∃ dir name, Placed tree after path dir name content := by
  unfold replace at h
  split at h
  next dir name at_ last =>
    split_ifs at h with ok
    cases h
    obtain ⟨start, rfl⟩ := List.getLast?_eq_some_iff.mp last
    rw [List.dropLast_concat] at at_
    have led := done_of_resolve at_ (throughSymlink_dropLast plain)
    have gone (path : List String) (found : tree.descend dir [name] = .done path) : False := by
      have there : tree.resolve (start ++ [name]) = some path := follow_of_done (by
        simp only [descend_append, led, found])
      rw [exists_, there] at absent
      cases absent
    have up : name ≠ ".." := fun up => gone dir.dropLast (by simp only [descend, if_pos up])
    have new : ¬tree.Plain (dir ++ [name]) := fun there => gone _ ((descend_singleton up).mpr there)
    have file : (tree.put dir name content ok.1 ok.2).node (dir ++ [name]) = some (.file content) :=
      if_pos rfl
    refine ⟨dir, name, by rw [List.dropLast_concat, descend_put new led], ?_, file,
      fun q ne => if_neg ne⟩
    simp only [descend_append, descend_put new led]
    exact (descend_singleton up).mpr ⟨_, file, nofun⟩
  next => cases h

theorem exists_of_isDir {path : List String} (h : tree.isDir path = true) :
    ∃ dir, tree.resolve path = some dir ∧ tree.node dir = some .directory := by
  unfold isDir at h
  cases at_ : tree.resolve path with
  | none => simp [at_] at h
  | some dir =>
    refine ⟨dir, rfl, ?_⟩
    rw [at_, Option.bind_some] at h
    split at h
    · assumption
    · cases h

/-- A file can be placed where nothing is. -/
theorem exists_replace {path : List String} {content : α} (below : path ≠ [])
    (plain : tree.throughSymlink path = false) (parent : tree.isDir path.dropLast = true)
    (absent : tree.exists_ path = false) : ∃ after, tree.replace path content = some after := by
  obtain ⟨dir, at_, inside⟩ := exists_of_isDir parent
  obtain ⟨start, name, rfl⟩ : ∃ start name, path = start ++ [name] :=
    ⟨_, _, (List.dropLast_append_getLast below).symm⟩
  rw [List.dropLast_concat] at at_
  have led := done_of_resolve at_ (throughSymlink_dropLast plain)
  have free : tree.node (dir ++ [name]) ≠ some .directory := by
    intro taken
    have found : ∃ target, tree.descend dir [name] = .done target := by
      by_cases up : name = ".."
      · exact ⟨dir.dropLast, by simp only [descend, if_pos up]⟩
      · exact ⟨_, (descend_singleton up).mpr ⟨_, taken, nofun⟩⟩
    obtain ⟨target, found⟩ := found
    have there : tree.resolve (start ++ [name]) = some target :=
      follow_of_done (by simp only [descend_append, led, found])
    rw [exists_, there] at absent
    cases absent
  simp only [replace, List.dropLast_concat, at_, List.getLast?_concat]
  exact ⟨_, dif_pos ⟨inside, free⟩⟩

end FileTree

end OptimizrActions
