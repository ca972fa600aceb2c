import OptimizrActions.CapabilityCatalog.Search

/-! The keys that a workflow declares, against the blocks of its text. -/

namespace OptimizrActions.CapabilityCatalog

section Specification

def isContent (line : Line) : Bool := !isSkipped line

/-- The lines that are neither blank nor comments. -/
def contentLines (content : List Char) : List Line := (linesOf content).filter isContent

/-- In the block of the first `workflow_call:` line, the first line `name:` and the lines of its own
block. -/
inductive CallSection (name : Line) : List Line → Line → List Line → Prop
  | mk (before : List Line) (call : Line) (between : List Line) (header : Line)
      (inside after : List Line) (first : ∀ line ∈ before, matchesCall line = false)
      (found : matchesCall call = true)
      (within : ∀ line ∈ between, indentation call < indentation line ∧
        Text.stripChars line ≠ name ++ [':'])
      (deeper : indentation call < indentation header)
      (named : Text.stripChars header = name ++ [':'])
      (block : ∀ line ∈ inside, indentation header < indentation line)
      (ends : ∀ line, after.head? = some line → indentation line ≤ indentation header) :
    CallSection name (before ++ call :: (between ++ header :: (inside ++ after))) header inside

/-- A key two deeper than the header whose last line has no value. -/
def DeclaredKey (header : Line) (inside : List Line) (key : Line) : Prop :=
  ∃ earlier line later, inside = earlier ++ line :: later ∧
    indentation line = indentation header + 2 ∧ keyLine? line = some (key, []) ∧
    ∀ other ∈ later, indentation other = indentation header + 2 →
      ∀ value, keyLine? other ≠ some (key, value)

def Declares (content : List Char) (name key : Line) : Prop :=
  ∃ header inside, CallSection name (contentLines content) header inside ∧
    DeclaredKey header inside key

/-- With these lines between them, a line is the next one above that has less indentation. -/
def IsParent (parent : Line) (between : List Line) (child : Line) : Prop :=
  indentation parent < indentation child ∧ ∀ line ∈ between, indentation child ≤ indentation line

/-- A block-form key under `name:` under `workflow_call:` under `on:`, at any indentation. -/
def Nested (content : List Char) (name key : Line) : Prop :=
  ∃ before on_ upper call middle header lower line after,
    contentLines content = before ++ on_ :: (upper ++ call :: (middle ++ header :: (lower ++ line :: after))) ∧
      indentation on_ = 0 ∧ Text.stripChars on_ = "on:".toList ∧
      IsParent on_ upper call ∧ Text.stripChars call = callKey ++ [':'] ∧
      IsParent call middle header ∧ Text.stripChars header = name ++ [':'] ∧
      IsParent header lower line ∧ keyLine? line = some (key, [])

/-- Lines with some blank lines and comments inserted. -/
inductive Inserted : List Line → List Line → Prop
  | nil : Inserted [] []
  | keep {line : Line} {lines lines' : List Line} :
      Inserted lines lines' → Inserted (line :: lines) (line :: lines')
  | insert {line : Line} {lines lines' : List Line} :
      isSkipped line = true → Inserted lines lines' → Inserted lines (line :: lines')

end Specification

section Walk

variable {name line : Line} {lines : List Line} {callIndent baseIndent : Nat}

/-- The line `name:` that the walk finds, with the lines after it. -/
def sectionFrom (callIndent : Nat) (name : Line) : List Line → Option (Line × List Line)
  | [] => none
  | line :: rest =>
    if isSkipped line then sectionFrom callIndent name rest
    else if indentation line ≤ callIndent then none
    else if Text.stripChars line = name ++ [':'] then some (line, rest)
    else sectionFrom callIndent name rest

def declaredIn : Option (Line × List Line) → List (Line × Line)
  | none => []
  | some (header, rest) => blockFormKeys (childrenFrom (indentation header) [] rest)

/-- The walk over the lines alone. -/
def ioOf (name : Line) (lines : List Line) : List (Line × Line) :=
  match lines.dropWhile fun line => !matchesCall line with
  | [] => []
  | call :: rest => declaredIn (sectionFrom (indentation call) name rest)

theorem blockIndex_eq (front lines : List Line) :
    (blockIndex callIndent name front.length lines).map
        (fun i => ((front ++ lines).getD i [], (front ++ lines).drop (i + 1))) =
      sectionFrom callIndent name lines := by
  induction lines generalizing front with
  | nil => rfl
  | cons line rest ih =>
    have next := ih (front ++ [line])
    rw [List.length_append, List.append_assoc] at next
    rw [blockIndex, sectionFrom]
    split
    · exact next
    · split
      · rfl
      · split
        · simp
        · exact next

theorem exists_of_findIdx? {p : Line → Bool} {i : Nat} (found : lines.findIdx? p = some i) :
    ∃ before call rest, lines = before ++ call :: rest ∧ before.length = i ∧ p call = true ∧
      ∀ line ∈ before, p line = false := by
  induction lines generalizing i with
  | nil => cases found
  | cons line rest ih =>
    rw [List.findIdx?_cons] at found
    split at found
    · rename_i here
      cases found
      exact ⟨[], line, rest, rfl, rfl, here, nofun⟩
    · rename_i no
      obtain ⟨j, later, rfl⟩ := Option.map_eq_some_iff.mp found
      obtain ⟨before, call, after, rfl, rfl, here, first⟩ := ih later
      refine ⟨line :: before, call, after, rfl, rfl, here, List.forall_mem_cons.mpr ⟨?_, first⟩⟩
      exact Bool.eq_false_of_not_eq_true no

theorem ioOf_split {before rest : List Line} {call : Line} (found : matchesCall call = true)
    (first : ∀ line ∈ before, matchesCall line = false) :
    ioOf name (before ++ call :: rest) = declaredIn (sectionFrom (indentation call) name rest) := by
  have skip : ∀ line ∈ before, (!matchesCall line) = true := fun line mem => by rw [first line mem]; rfl
  rw [ioOf, List.dropWhile_append_of_pos skip, List.dropWhile_cons_of_neg (by simp [found])]

theorem workflowCallIo_eq {content : List Char} (regular : Regular content) (name : Line) :
    workflowCallIo content name = ioOf name (linesOf content) := by
  have search := regular.searchCall
  unfold workflowCallIo blockChildren
  generalize linesOf content = lines at search ⊢
  cases found : searchCall 0 true content with
  | none =>
    rw [found, Option.map_none, eq_comm, List.findIdx?_eq_none_iff] at search
    have none_ : lines.dropWhile (fun line => !matchesCall line) = [] :=
      List.dropWhile_eq_nil_iff.mpr fun line mem => by rw [search line mem]; rfl
    rw [ioOf, none_]
  | some start =>
    rw [found, Option.map_some, eq_comm] at search
    obtain ⟨before, call, rest, rfl, length, here, first⟩ := exists_of_findIdx? search
    have walk := @blockIndex_eq name (indentation call) (before ++ [call]) rest
    rw [List.append_assoc, List.singleton_append, List.length_append, length] at walk
    have at_ : (before ++ call :: rest).getD (lineIndex content start) [] = call := by
      rw [← length]
      simp
    have after : (before ++ call :: rest).drop (lineIndex content start + 1) = rest := by
      rw [← length]
      simp
    simp only [at_, after]
    rw [ioOf_split here first, ← walk]
    cases blockIndex (indentation call) name (lineIndex content start + [call].length) rest <;> rfl

end Walk

section Skipped

variable {name line : Line} {lines : List Line} {callIndent baseIndent : Nat}

theorem isContent_of_matchesCall (found : matchesCall line = true) : isContent line = true := by
  obtain ⟨indent, after, rfl, -, spaces, -⟩ := matchesCall_iff.mp found
  have word : callKey ++ after = 'w' :: ("orkflow_call".toList ++ after) := rfl
  have shown : 'w' ∈ Text.stripChars (indent ++ (callKey ++ after)) :=
    Text.mem_stripChars (List.mem_append_right _ (word ▸ List.mem_cons_self)) (by decide)
  rw [isContent, isSkipped, List.dropWhile_append_of_pos spaces, word,
    List.dropWhile_cons_of_neg (by decide), ← word]
  simp only [List.ne_nil_of_mem shown, decide_false, Bool.false_or, Bool.not_eq_true']
  rfl

theorem dropWhile_filter (keep : ∀ line, matchesCall line = true → isContent line = true)
    (lines : List Line) :
    (lines.filter isContent).dropWhile (fun line => !matchesCall line) =
      (lines.dropWhile fun line => !matchesCall line).filter isContent := by
  induction lines with
  | nil => rfl
  | cons line rest ih =>
    cases found : matchesCall line with
    | true =>
      rw [List.filter_cons_of_pos (keep line found), List.dropWhile_cons_of_neg (by simp [found]),
        List.dropWhile_cons_of_neg (by simp [found]), List.filter_cons_of_pos (keep line found)]
    | false =>
      rw [List.dropWhile_cons_of_pos (by simp [found]), ← ih, List.filter_cons]
      split
      · rw [List.dropWhile_cons_of_pos (by simp [found])]
      · rfl

theorem sectionFrom_filter (lines : List Line) :
    sectionFrom callIndent name (lines.filter isContent) =
      (sectionFrom callIndent name lines).map fun found => (found.1, found.2.filter isContent) := by
  induction lines with
  | nil => rfl
  | cons line rest ih =>
    cases skipped : isSkipped line with
    | true =>
      rw [List.filter_cons_of_neg (by simp [isContent, skipped]), sectionFrom, if_pos skipped, ih]
    | false =>
      rw [List.filter_cons_of_pos (by simp [isContent, skipped]), sectionFrom, sectionFrom, skipped,
        if_neg Bool.false_ne_true, if_neg Bool.false_ne_true, ih]
      split_ifs <;> rfl

theorem childrenFrom_filter (children : List (Line × Line)) (lines : List Line) :
    childrenFrom baseIndent children (lines.filter isContent) =
      childrenFrom baseIndent children lines := by
  induction lines generalizing children with
  | nil => rfl
  | cons line rest ih =>
    cases skipped : isSkipped line with
    | true =>
      rw [List.filter_cons_of_neg (by simp [isContent, skipped]), childrenFrom, if_pos skipped, ih]
    | false =>
      rw [List.filter_cons_of_pos (by simp [isContent, skipped]), childrenFrom, childrenFrom, skipped,
        if_neg Bool.false_ne_true, if_neg Bool.false_ne_true]
      simp only [ih]

/-- Blank lines and comments do not count. -/
theorem ioOf_filter (name : Line) (lines : List Line) :
    ioOf name (lines.filter isContent) = ioOf name lines := by
  rw [ioOf, ioOf, dropWhile_filter fun line => isContent_of_matchesCall]
  cases found : lines.dropWhile fun line => !matchesCall line with
  | nil => rfl
  | cons call rest =>
    have here : matchesCall call = true := by
      refine List.find?_some (l := lines) ?_
      rw [List.find?_eq_head?_dropWhile_not, found]
      rfl
    rw [List.filter_cons_of_pos (isContent_of_matchesCall here)]
    simp only [sectionFrom_filter]
    cases sectionFrom (indentation call) name rest with
    | none => rfl
    | some pair => exact congrArg blockFormKeys (childrenFrom_filter [] pair.2)

theorem Inserted.filter_eq {lines lines' : List Line} (inserted : Inserted lines lines') :
    lines'.filter isContent = lines.filter isContent := by
  induction inserted with
  | nil => rfl
  | keep _ ih => rw [List.filter_cons, List.filter_cons, ih]
  | insert skipped _ ih => rw [List.filter_cons_of_neg (by simp [isContent, skipped]), ih]

end Skipped

section Content

variable {name header key : Line} {lines rest : List Line} {callIndent baseIndent : Nat}

theorem sectionFrom_iff (content : ∀ line ∈ lines, isSkipped line = false) :
    sectionFrom callIndent name lines = some (header, rest) ↔
      ∃ between, lines = between ++ header :: rest ∧
        (∀ line ∈ between, callIndent < indentation line ∧ Text.stripChars line ≠ name ++ [':']) ∧
        callIndent < indentation header ∧ Text.stripChars header = name ++ [':'] := by
  induction lines with
  | nil => simp [sectionFrom]
  | cons line lines ih =>
    rw [List.forall_mem_cons] at content
    rw [sectionFrom, content.1, if_neg Bool.false_ne_true]
    constructor
    · intro found
      split at found
      · cases found
      · rename_i deeper
        split at found
        · rename_i named
          cases found
          exact ⟨[], rfl, nofun, Nat.not_le.mp deeper, named⟩
        · rename_i other
          obtain ⟨between, rfl, within, below, named⟩ := (ih content.2).mp found
          exact ⟨line :: between, rfl, List.forall_mem_cons.mpr ⟨⟨Nat.not_le.mp deeper, other⟩, within⟩,
            below, named⟩
    · rintro ⟨between, split, within, below, named⟩
      cases between with
      | nil =>
        cases split
        rw [if_neg (Nat.not_le.mpr below), if_pos named]
      | cons first between =>
        cases split
        rw [List.forall_mem_cons] at within
        rw [if_neg (Nat.not_le.mpr within.1.1), if_neg within.1.2]
        exact (ih content.2).mpr ⟨between, rfl, within.2, below, named⟩

/-- The entry that a line of the block gives. -/
def childEntry (baseIndent : Nat) (line : Line) : Option (Line × Line) :=
  if indentation line = baseIndent + 2 then keyLine? line else none

theorem childrenFrom_eq (content : ∀ line ∈ lines, isSkipped line = false)
    (children : List (Line × Line)) :
    childrenFrom baseIndent children lines =
      ((lines.takeWhile (baseIndent < indentation ·)).filterMap (childEntry baseIndent)).foldl
        Dict.put children := by
  induction lines generalizing children with
  | nil => rfl
  | cons line lines ih =>
    rw [List.forall_mem_cons] at content
    rw [childrenFrom, content.1, if_neg Bool.false_ne_true]
    split
    · rename_i outside
      rw [List.takeWhile_cons_of_neg (by simpa using outside)]
      rfl
    · rename_i inside
      rw [List.takeWhile_cons_of_pos (by simpa using inside)]
      split
      · rename_i other
        have entry : childEntry baseIndent line = none := if_neg other
        rw [List.filterMap_cons_none entry, ih content.2]
      · rename_i child
        have entry : childEntry baseIndent line = keyLine? line := if_pos (not_not.mp child)
        split
        · rename_i read
          rw [List.filterMap_cons_some (entry.trans read), ih content.2]
          rfl
        · rename_i read
          rw [List.filterMap_cons_none (entry.trans read), ih content.2]

theorem childEntry_eq_some {line value : Line} : childEntry baseIndent line = some (key, value) ↔
    indentation line = baseIndent + 2 ∧ keyLine? line = some (key, value) := by
  rw [childEntry]
  split
  · rename_i child
    simp [child]
  · rename_i other
    simp [other]

theorem declaredKey_iff {inside : List Line} : DeclaredKey header inside key ↔
    (key, []) ∈ Dict.ofList (inside.filterMap (childEntry (indentation header))) := by
  rw [Dict.mem_ofList_filterMap, DeclaredKey]
  simp only [ne_eq, childEntry_eq_some, not_and, and_assoc]
  constructor
  · rintro ⟨earlier, line, later, split, child, read, lasting⟩
    exact ⟨earlier, line, later, split, child, read, fun other mem value deep =>
      lasting other mem deep value⟩
  · rintro ⟨earlier, line, later, split, child, read, lasting⟩
    exact ⟨earlier, line, later, split, child, read, fun other mem deep value =>
      lasting other mem value deep⟩

theorem mem_declaredIn_iff (content : ∀ line ∈ rest, isSkipped line = false)
    {entry : Line × Line} : entry ∈ declaredIn (some (header, rest)) ↔ entry.2 = [] ∧
      DeclaredKey header (rest.takeWhile (indentation header < indentation ·)) entry.1 := by
  rw [declaredIn, blockFormKeys, List.mem_filter, childrenFrom_eq content, declaredKey_iff,
    decide_eq_true_eq, and_comm]
  obtain ⟨key, value⟩ := entry
  refine and_congr_right fun empty => ?_
  cases (empty : value = [])
  rfl

theorem takeWhile_block {inside after : List Line}
    (block : ∀ line ∈ inside, baseIndent < indentation line)
    (ends : ∀ line, after.head? = some line → indentation line ≤ baseIndent) :
    (inside ++ after).takeWhile (baseIndent < indentation ·) = inside := by
  rw [List.takeWhile_append_of_pos fun line mem => decide_eq_true (block line mem)]
  cases after with
  | nil => exact List.append_nil inside
  | cons line after =>
    rw [List.takeWhile_cons_of_neg (by simpa using ends line rfl), List.append_nil]

/-- What the walk finds in lines that all count. -/
theorem mem_ioOf_iff (content : ∀ line ∈ lines, isSkipped line = false) {entry : Line × Line} :
    entry ∈ ioOf name lines ↔ entry.2 = [] ∧
      ∃ header inside, CallSection name lines header inside ∧ DeclaredKey header inside entry.1 := by
  constructor
  · intro mem
    cases found : lines.findIdx? matchesCall with
    | none =>
      have none_ : lines.dropWhile (fun line => !matchesCall line) = [] :=
        List.dropWhile_eq_nil_iff.mpr fun line mem => by
          rw [List.findIdx?_eq_none_iff.mp found line mem]
          rfl
      rw [ioOf, none_] at mem
      cases mem
    | some i =>
      obtain ⟨before, call, rest, rfl, -, here, first⟩ := exists_of_findIdx? found
      rw [ioOf_split here first] at mem
      have content : ∀ line ∈ rest, isSkipped line = false := fun line inside =>
        content line (List.mem_append_right _ (List.mem_cons_of_mem _ inside))
      cases walk : sectionFrom (indentation call) name rest with
      | none =>
        rw [walk] at mem
        cases mem
      | some pair =>
        obtain ⟨header, after⟩ := pair
        rw [walk] at mem
        obtain ⟨between, rfl, within, deeper, named⟩ := (sectionFrom_iff content).mp walk
        have content : ∀ line ∈ after, isSkipped line = false := fun line inside =>
          content line (List.mem_append_right _ (List.mem_cons_of_mem _ inside))
        obtain ⟨empty, declared⟩ := (mem_declaredIn_iff content).mp mem
        refine ⟨empty, header, _, ?_, declared⟩
        have blocks := @CallSection.mk name before call between header
          (after.takeWhile (indentation header < indentation ·))
          (after.dropWhile (indentation header < indentation ·)) first here within deeper named
          (fun line inside => by simpa using List.mem_takeWhile_imp inside)
          fun line head => by
            rw [← List.find?_not_eq_head?_dropWhile] at head
            simpa using List.find?_some head
        rwa [List.takeWhile_append_dropWhile] at blocks
  · rintro ⟨empty, header, inside, found, declared⟩
    cases found with
    | mk before call between header inside after first here within deeper named block ends =>
      have content : ∀ line ∈ between ++ header :: (inside ++ after), isSkipped line = false :=
        fun line inside => content line (List.mem_append_right _ (List.mem_cons_of_mem _ inside))
      have walk := (sectionFrom_iff content).mpr ⟨between, rfl, within, deeper, named⟩
      rw [ioOf_split here first, walk, mem_declaredIn_iff fun line inside =>
        content line (List.mem_append_right _ (List.mem_cons_of_mem _ inside))]
      rw [takeWhile_block block ends]
      exact ⟨empty, declared⟩

end Content

section Result

theorem contentLines_content (content : List Char) :
    ∀ line ∈ contentLines content, isSkipped line = false := fun line mem => by
  simpa [isContent] using (List.mem_filter.mp mem).2

theorem workflowCallIo_eq_contentLines {content : List Char} (regular : Regular content)
    (name : Line) : workflowCallIo content name = ioOf name (contentLines content) := by
  rw [workflowCallIo_eq regular, contentLines, ioOf_filter]

end Result

section Example

def sampleText : List Char :=
  "on:\n  workflow_call:\n    inputs:\n      a:\n".toList ++
    "  workflow_dispatch:\n    inputs:\n      b:\n".toList

def commentedText : List Char :=
  "on:\n  workflow_call:\n    inputs:\n\n  # the only one\n      a:\n".toList ++
    "  workflow_dispatch:\n    inputs:\n      b:\n".toList

instance (content : List Char) : Decidable (Regular content) :=
  let _ : Decidable (∀ c ∈ content, Text.isLineBreak c = true → c = '\n') :=
    List.decidableBAll _ content
  decidable_of_iff ((∀ c ∈ content, Text.isLineBreak c = true → c = '\n') ∧ _)
    ⟨fun h => ⟨h.1, h.2⟩, fun h => ⟨h.breaks, h.call⟩⟩

def wideText : List Char := "on:\n    workflow_call:\n        inputs:\n            a:\n".toList

end Example

end OptimizrActions.CapabilityCatalog
