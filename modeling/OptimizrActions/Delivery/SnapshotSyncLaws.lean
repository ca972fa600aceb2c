import OptimizrActions.Delivery.SnapshotSync
import OptimizrActions.Lib.Segments

/-! Which of the files that a synchronization may remove are in the snapshot before it. -/

namespace OptimizrActions.Delivery

section Specification

variable (wild : Wildmatch) (command : List String) (ignored : Names → Bool → Bool)
  (destination : Destination)

/-- A pattern of the command excludes the path; `ignored` is for the patterns of a file that the
command names. -/
def Excluded (path : Names) : Prop :=
  (∃ pattern ∈ excludePatterns command,
    matchesPattern wild pattern path (destination.type path = some .directory) = true) ∨
  ignored path (destination.type path = some .directory) = true

/-- The path or a directory above it is excluded from the transfer. -/
def Protected (path : Names) : Prop :=
  ∃ front, front ≠ [] ∧ front <+: path ∧ Excluded wild command ignored destination front

/-- The file and the directories above it pass the filter of the archive. -/
def InSnapshot (path : Names) : Prop := ∀ front, front <+: path → isKept destination front = true

/-- What the synchronization may delete or overwrite. -/
def AtRisk (path : Names) : Prop :=
  path ≠ [] ∧ destination.type path ≠ none ∧ ¬Protected wild command ignored destination path

def SnapshotComplete : Prop :=
  ∀ path, AtRisk wild command ignored destination path → InSnapshot destination path

/-- What the archive has no member for, whatever its name. -/
def IsSkipped (type : Option TarType) : Prop :=
  type = some .symlink ∨ type = some .hardlink ∨ type = some .socket

/-- The suffixes that both sides name. -/
def suffixes : List (List Char) := privateSuffixes ++ [".tar.gz".toList]

/-- A backslash in the name sets off a private name, or the name ends in a suffix in other case. -/
def Differs (name : List Char) : Prop :=
  ('\\' ∈ name ∧ ∃ component ∈ components name, isPrivate component = true) ∨
    ('\\' ∉ name ∧ ∃ suffix ∈ suffixes, suffix <:+ name.flatMap Text.lowerChar ∧ ¬suffix <:+ name)

end Specification

section Names

/-- Both filters see a path through its last names: the archive splits it where it was joined. -/
theorem splitOn_joined {path : Names} (some : path ≠ []) (f : Char → Char) (slash : f '/' = '/') :
    KeyValue.splitOn '/' ((joined path).map f) =
      path.flatMap fun name => KeyValue.splitOn '/' (name.map f) := by
  induction path with
  | nil => exact absurd rfl some
  | cons name rest ih =>
    by_cases last : rest = []
    · subst last
      rw [joined, List.intercalate_singleton, List.flatMap_singleton]
    · rw [joined, KeyValue.intercalate_cons last, List.map_append, List.map_cons, slash,
        KeyValue.splitOn_mid, List.flatMap_cons]
      exact congrArg _ (ih last)

theorem components_joined {path : Names} (some : path ≠ []) :
    components (joined path) = path.flatMap components := by
  rw [components, splitOn_joined some _ rfl, List.filter_flatMap]
  rfl

theorem components_memberName (path : Names) :
    components (memberName path) = path.flatMap components := by
  rw [memberName, components_joined (List.cons_ne_nil _ _), List.flatMap_cons]
  rfl

theorem memberName_ne_dot {path : Names} (some : path ≠ []) : memberName path ≠ ['.'] := by
  rw [memberName, joined, KeyValue.intercalate_cons some]
  exact fun eq => by simpa using congrArg List.length eq

theorem components_of_plain {name : List Char} (slash : '/' ∉ name) (back : '\\' ∉ name) :
    components name = [name].filter fun component => component ≠ [] ∧ component ≠ ['.'] := by
  have same : name.map (fun c => if c = '\\' then '/' else c) = name :=
    (List.map_congr_left fun c mem => if_neg fun (same : c = '\\') => back (same ▸ mem)).trans (List.map_id _)
  rw [components, same, KeyValue.splitOn_of_not_mem slash]

end Names

section Kept

variable {destination : Destination}

theorem isKept_root : isKept destination [] = true := by
  rw [isKept, destination.root]
  rfl

theorem isPrivate_memberName {path : Names} :
    (components (memberName path)).any isPrivate = false ↔
      ∀ name ∈ path, ∀ component ∈ components name, isPrivate component = false := by
  rw [components_memberName, List.any_flatMap]
  simp

theorem isSome_snapshotFilter {path : Names} (some : path ≠ []) (type : TarType) :
    (snapshotFilter ⟨memberName path, type⟩).isSome = true ↔
      (∀ name ∈ path, ∀ component ∈ components name, isPrivate component = false) ∧
        ¬(type = .symlink ∨ type = .hardlink) := by
  rw [← isPrivate_memberName, snapshotFilter, if_neg (memberName_ne_dot some)]
  cases (components (memberName path)).any isPrivate <;> by_cases link : type = .symlink ∨ type = .hardlink <;>
    simp [link]

theorem isKept_iff {path : Names} (some : path ≠ []) (there : destination.type path ≠ none) :
    isKept destination path = true ↔
      (∀ name ∈ path, ∀ component ∈ components name, isPrivate component = false) ∧
        ¬IsSkipped (destination.type path) := by
  obtain ⟨type, at_⟩ := Option.ne_none_iff_exists'.mp there
  rw [isKept, at_]
  cases type with
  | socket => simp [IsSkipped]
  | file | directory | symlink | hardlink | device =>
    rw [isSome_snapshotFilter some]
    simp [IsSkipped]

end Kept

section Excluded

variable {wild : Wildmatch} {source_ destination_ : String} {deployignore compose : Option String}
  {dryRun : Bool} {ignored : Names → Bool → Bool} {destination : Destination} {path : Names}

/-- A pattern for last names. -/
theorem matchesPattern_name {pattern name : List Char} (slash : '/' ∉ pattern)
    (stars : Text.occursIn ['*', '*'] pattern = false) (isDirectory : Bool) :
    matchesPattern wild pattern (path ++ [name]) isDirectory = wild.accepts pattern name := by
  have last : pattern.getLast? ≠ some '/' := fun at_ => slash (List.mem_of_getLast? at_)
  have first : pattern.head? ≠ some '/' := fun at_ => slash (List.mem_of_mem_head? at_)
  simp only [matchesPattern, last, false_and, if_false, first, slash, stars, Bool.false_eq_true,
    or_false, List.getLast?_concat, Option.getD_some]

def namePatterns : List String :=
  [".env", ".env.*", ".secrets", "*.pem", "*.key", "*.p12", "*.pfx", "*.tar.gz"]

theorem namePatterns_subset {pattern : String} (mem : pattern ∈ namePatterns) :
    pattern.toList ∈
      excludePatterns (rsyncCommand source_ destination_ deployignore compose dryRun) := by
  simp only [rsyncCommand, excludePatterns, List.filterMap_append, List.append_assoc]
  refine List.mem_append_left _ ?_
  revert pattern
  decide

theorem not_accepts {pattern : String} {name : List Char} (mem : pattern ∈ namePatterns)
    (kept : ¬Excluded wild (rsyncCommand source_ destination_ deployignore compose dryRun) ignored
      destination (path ++ [name])) : wild.accepts pattern.toList name = false := by
  have plain : '/' ∉ pattern.toList ∧ Text.occursIn ['*', '*'] pattern.toList = false := by
    revert pattern
    decide
  rw [Bool.eq_false_iff]
  intro accepted
  refine kept (.inl ⟨_, namePatterns_subset mem, ?_⟩)
  rw [matchesPattern_name plain.1 plain.2, accepted]

/-- What the fixed patterns of the command leave of a name. -/
theorem plain_of_not_excluded {name : List Char} (slash : '/' ∉ name)
    (kept : ¬Excluded wild (rsyncCommand source_ destination_ deployignore compose dryRun) ignored
      destination (path ++ [name])) :
    name ≠ ".secrets".toList ∧ name ≠ ".env".toList ∧ ¬".env.".toList <+: name ∧
      ∀ suffix ∈ suffixes, ¬suffix <:+ name := by
  have free (pattern : String) (mem : pattern ∈ namePatterns) : wild.accepts pattern.toList name ≠ true := by
    rw [not_accepts mem kept]
    exact Bool.false_ne_true
  refine ⟨fun same => ?_, fun same => ?_, fun front => ?_, fun suffix mem back => ?_⟩
  · exact free ".secrets" (by decide) ((wild.literal (by decide)).mpr same)
  · exact free ".env" (by decide) ((wild.literal (by decide)).mpr same)
  · exact free ".env.*" (by decide) ((wild.beginning (by decide) slash).mpr front)
  · have known : IsLiteral suffix ∧ ∃ pattern ∈ namePatterns, pattern.toList = '*' :: suffix := by
      clear back
      revert suffix
      decide
    obtain ⟨literal, pattern, listed, eq⟩ := known
    apply free pattern listed
    rw [eq]
    exact (wild.ending literal slash).mpr back

theorem isPrivate_eq_false_iff {name : List Char} :
    isPrivate name = false ↔
      name ≠ ".secrets".toList ∧ name ≠ ".env".toList ∧ ¬".env.".toList <+: name ∧
        ∀ suffix ∈ suffixes, ¬suffix <:+ name.flatMap Text.lowerChar := by
  have listed : privateSuffixes.any (·.isSuffixOf (name.flatMap Text.lowerChar)) = false ↔
      ∀ suffix ∈ privateSuffixes, ¬suffix <:+ name.flatMap Text.lowerChar := by simp
  simp only [isPrivate, Bool.or_eq_false_iff, listed, suffixes, List.mem_append,
    List.mem_singleton, or_imp, forall_and, forall_eq, decide_eq_false_iff_not, and_assoc]
  simp only [← Bool.not_eq_true, List.isPrefixOf_iff_prefix, List.isSuffixOf_iff_suffix, ne_eq]

theorem components_clean_iff {name : List Char} (slash : '/' ∉ name)
    (kept : ¬Excluded wild (rsyncCommand source_ destination_ deployignore compose dryRun) ignored
      destination (path ++ [name])) :
    (∀ component ∈ components name, isPrivate component = false) ↔ ¬Differs name := by
  by_cases back : '\\' ∈ name
  · simp [Differs, back]
  · obtain ⟨secrets, env, front, bare⟩ := plain_of_not_excluded slash kept
    rw [components_of_plain slash back]
    simp only [Differs, back, false_and, false_or, not_false_eq_true, true_and]
    constructor
    · rintro clean ⟨suffix, mem, lowered, -⟩
      have proper : name ≠ [] ∧ name ≠ ['.'] := by
        constructor <;>
        · rintro rfl
          clear clean
          revert suffix
          decide
      have part : name ∈ [name].filter fun component => component ≠ [] ∧ component ≠ ['.'] :=
        List.mem_filter.mpr ⟨List.mem_cons_self, decide_eq_true proper⟩
      exact (isPrivate_eq_false_iff.mp (clean name part)).2.2.2 suffix mem lowered
    · intro alike component mem
      obtain rfl := List.mem_singleton.mp (List.mem_of_mem_filter mem)
      refine isPrivate_eq_false_iff.mpr ⟨secrets, env, front, fun suffix mem lowered => ?_⟩
      exact alike ⟨suffix, mem, lowered, bare suffix mem⟩

end Excluded

section Complete

variable {wild : Wildmatch} {source_ destination_ : String} {deployignore compose : Option String}
  {dryRun : Bool} {ignored : Names → Bool → Bool} {destination : Destination} {path : Names}

theorem type_of_below {back : Names} (more : back ≠ [])
    (there : destination.type (path ++ back) ≠ none) :
    destination.type path = some .directory := by
  induction back generalizing path with
  | nil => exact absurd rfl more
  | cons name rest ih =>
    by_cases last : rest = []
    · subst last
      exact destination.parent path name there
    · rw [List.append_cons] at there
      have above := ih last there
      exact destination.parent path name (by simp [above])

theorem type_of_above {front : Names} (above : front <+: path) (other : front ≠ path)
    (there : destination.type path ≠ none) : destination.type front = some .directory := by
  obtain ⟨back, rfl⟩ := above
  exact type_of_below (fun empty => other (by simp [empty])) there

/-- A path at risk is in the archive where the archive makes a member of it and no name on the way
to it sets the two filters apart. -/
theorem inSnapshot_iff
    (risk : AtRisk wild (rsyncCommand source_ destination_ deployignore compose dryRun) ignored
      destination path) :
    InSnapshot destination path ↔
      ¬IsSkipped (destination.type path) ∧ ∀ name ∈ path, ¬Differs name := by
  obtain ⟨proper, there, open_⟩ := risk
  have clean (name : List Char) (mem : name ∈ path) :
      (∀ component ∈ components name, isPrivate component = false) ↔ ¬Differs name := by
    obtain ⟨front, back, rfl⟩ := List.append_of_mem mem
    have free : ¬Excluded wild (rsyncCommand source_ destination_ deployignore compose dryRun)
        ignored destination (front ++ [name]) := fun excluded =>
      open_ ⟨front ++ [name], by simp, ⟨back, by simp⟩, excluded⟩
    exact components_clean_iff (destination.names _ there name mem) free
  constructor
  · intro saved
    obtain ⟨names, member⟩ := (isKept_iff proper there).mp (saved path (List.prefix_refl path))
    exact ⟨member, fun name mem => (clean name mem).mp (names name mem)⟩
  · rintro ⟨member, alike⟩ front above
    by_cases root : front = []
    · rw [root]
      exact isKept_root
    · have kind : destination.type front ≠ none ∧ ¬IsSkipped (destination.type front) := by
        by_cases same : front = path
        · exact same ▸ ⟨there, member⟩
        · rw [type_of_above above same there]
          simp [IsSkipped]
      refine (isKept_iff root kind.1).mpr ⟨fun name mem => ?_, kind.2⟩
      have mem := above.subset mem
      exact (clean name mem).mpr (alike name mem)

/-- The snapshot has all that the synchronization may remove if and only if that has no link and no
socket, and no name that only one of the two filters takes for private. -/
theorem snapshotComplete_iff (wild : Wildmatch) (source_ destination_ : String)
    (deployignore compose : Option String) (dryRun : Bool) (ignored : Names → Bool → Bool)
    (destination : Destination) :
    SnapshotComplete wild (rsyncCommand source_ destination_ deployignore compose dryRun) ignored
        destination ↔
      ∀ path, AtRisk wild (rsyncCommand source_ destination_ deployignore compose dryRun) ignored
          destination path →
        ¬IsSkipped (destination.type path) ∧ ∀ name ∈ path, ¬Differs name :=
  forall_congr' fun _ => forall_congr' inSnapshot_iff

end Complete

section Wildcards

def acceptsAfter (accepts : List Char → Bool) : List Char → Bool
  | [] => accepts []
  | c :: cs => accepts (c :: cs) || (c ≠ '/' && acceptsAfter accepts cs)

/-- `*` and `?` only. -/
def simpleAccepts : List Char → List Char → Bool
  | [], text => text.isEmpty
  | p :: ps, text =>
    if p = '*' then acceptsAfter (simpleAccepts ps) text
    else text.head?.any (fun c => if p = '?' then c ≠ '/' else p = c) && simpleAccepts ps text.tail

theorem acceptsAfter_iff {accepts : List Char → Bool} {text : List Char} (slash : '/' ∉ text) :
    acceptsAfter accepts text = true ↔ ∃ back, back <:+ text ∧ accepts back = true := by
  induction text with
  | nil => simp [acceptsAfter]
  | cons c cs ih =>
    have other : c ≠ '/' := fun same => slash (same ▸ List.mem_cons_self)
    rw [acceptsAfter, Bool.or_eq_true, Bool.and_eq_true, decide_eq_true other,
      ih fun mem => slash (List.mem_cons_of_mem _ mem)]
    simp [List.suffix_cons_iff, or_and_right, exists_or]

theorem simpleAccepts_append {front back text : List Char} (literal : IsLiteral front) :
    simpleAccepts (front ++ back) text = true ↔
      ∃ rest, text = front ++ rest ∧ simpleAccepts back rest = true := by
  induction front generalizing text with
  | nil => simp
  | cons p ps ih =>
    have plain := literal p List.mem_cons_self
    have star : p ≠ '*' := fun same => plain (by simp [same])
    have mark : p ≠ '?' := fun same => plain (by simp [same])
    rw [List.cons_append, simpleAccepts, if_neg star]
    cases text with
    | nil => simp
    | cons c cs =>
      rw [List.tail_cons, Bool.and_eq_true, ih fun c mem => literal c (List.mem_cons_of_mem _ mem)]
      simp only [mark, if_false, List.head?_cons, Option.any_some, decide_eq_true_eq,
        List.cons_append, List.cons.injEq, and_assoc, exists_and_left]
      exact and_congr_left' eq_comm

theorem simpleAccepts_literal {pattern text : List Char} (literal : IsLiteral pattern) :
    simpleAccepts pattern text = true ↔ text = pattern := by
  rw [← List.append_nil pattern, simpleAccepts_append literal]
  simp [simpleAccepts]

def simpleWildmatch : Wildmatch where
  accepts := simpleAccepts
  literal := simpleAccepts_literal
  ending literal slash := by
    rw [simpleAccepts, if_pos rfl, acceptsAfter_iff slash]
    simp [simpleAccepts_literal literal]
  beginning {front text} literal slash := by
    rw [simpleAccepts_append literal]
    constructor
    · rintro ⟨rest, rfl, -⟩
      exact List.prefix_append _ _
    · rintro ⟨rest, rfl⟩
      refine ⟨rest, rfl, ?_⟩
      rw [simpleAccepts, if_pos rfl,
        acceptsAfter_iff fun mem => slash (List.mem_append_right _ mem)]
      exact ⟨[], List.nil_suffix, rfl⟩

end Wildcards

section Example

def current : List Char := "current".toList

/-- A directory with nothing but a link to the release that is in use. -/
def linkedDestination : Destination where
  type path := if path = [] then some .directory else if path = [current] then some .symlink else none
  root := rfl
  parent path name there := by
    have only : path ++ [name] = [current] := by
      by_contra other
      simp [other] at there
    have empty : path = [] := by simpa using congrArg List.length only
    exact if_pos empty
  names path there name mem := by
    have cases_ : path = [] ∨ path = [current] := by
      by_contra other
      simp [not_or.mp other] at there
    rcases cases_ with rfl | rfl
    · cases mem
    · cases List.mem_singleton.mp mem
      decide

theorem atRisk_current : AtRisk simpleWildmatch
    (rsyncCommand "/srv/checkout" "/srv/app" none none false) (fun _ _ => false) linkedDestination
    [current] := by
  refine ⟨by decide, by decide, ?_⟩
  rintro ⟨front, some_, above, excluded⟩
  obtain rfl : front = [current] := by
    simpa [some_] using (@List.prefix_concat_iff _ front [] current).mp above
  obtain ⟨pattern, mem, hit⟩ | ⟨⟨⟩⟩ := excluded
  revert pattern
  decide

theorem not_snapshotComplete_linked : ¬SnapshotComplete simpleWildmatch
    (rsyncCommand "/srv/checkout" "/srv/app" none none false) (fun _ _ => false)
    linkedDestination := by
  intro complete
  have saved := complete [current] atRisk_current
  exact ((inSnapshot_iff atRisk_current).mp saved).1 (.inl rfl)

end Example

section Sync

theorem ValidatedSync.command_ne (spec : ValidatedSync) : spec.command true ≠ spec.command false := by
  intro same
  have lengths := congrArg List.length same
  simp [ValidatedSync.command, rsyncCommand] at lengths

/-- The synchronization comes after the snapshot that was asked for. -/
theorem syncDeployment_snapshot_first {run : List String → Option CompletedProcess}
    {create : String → Except String Unit} {spec : ValidatedSync}
    (synced : SyncEvent.rsync (spec.command false) ∈ (syncDeployment run create spec).2)
    (enabled : spec.snapshotEnabled = true) :
    create spec.snapshotName = .ok () ∧ (syncDeployment run create spec).2 =
      [.rsync (spec.command true), .snapshot spec.snapshotName, .rsync (spec.command false)] := by
  have other := spec.command_ne.symm
  revert synced
  unfold syncDeployment
  simp only [enabled, if_true]
  split
  · simp [other]
  · split_ifs
    · simp [other]
    · split
      · simp [other]
      · rename_i made
        split <;> exact fun _ => ⟨made, rfl⟩

end Sync

end OptimizrActions.Delivery
