import OptimizrActions.Lib.Lines
import OptimizrActions.PrMetadata.ChangedFiles

/-! Which files the scan reports, line by line of their patches. -/

namespace OptimizrActions.PrMetadata

open Text (occursIn isLineBreak)

section Specification

/-- The lines of a patch end at line feeds only. -/
def patchLines (patch : String) : List (List Char) := patch.toList.splitOn '\n'

def isCorrupted (text : List Char) : Prop :=
  search mojibake text = true ∨ search corruptPath text = true

def IsAdded (line : List Char) : Prop := ∃ content, line = '+' :: content

/-- Some line that the patch adds has a mojibake or a corrupted-path sequence in its content. -/
def AddsCorruption (patch : String) : Prop :=
  ∃ content, '+' :: content ∈ patchLines patch ∧ isCorrupted content

/-- Some part of the line, between line ends of other kinds, begins with one plus sign but not
with three, and has such a sequence behind it. -/
def Shows (line : List Char) : Prop :=
  ∃ content, '+' :: content ∈ line.splitOnP isLineBreak ∧ ¬"++".toList <+: content ∧
    isCorrupted content

/-- The patch adds a sequence, and no part of a line shows one. -/
def Hidden (patch : String) : Prop := AddsCorruption patch ∧ ∀ line ∈ patchLines patch, ¬Shows line

/-- The patch adds no sequence, but a part of a line that is not added shows one. -/
def Spurious (patch : String) : Prop :=
  ¬AddsCorruption patch ∧ ∃ line ∈ patchLines patch, ¬IsAdded line ∧ Shows line

/-- The record of a file whose path is scanned. -/
structure IsRecord (item : Mapping) (path patch : String) : Prop where
  filename : item.get "filename" = .str path
  patch : item.get "patch" = .str patch
  scanned : isScannedSourcePath path = true

end Specification

section Search

variable {text : List Char}

theorem words_ok : ∀ word ∈ mojibake ++ corruptPath, '\n' ∉ word ∧ word ≠ [] := by decide +kernel

theorem search_iff {words : List (List Char)} :
    search words text = true ↔ ∃ word ∈ words, word <:+: text := by
  simp only [search, List.any_eq_true, Text.occursIn_iff]

theorem isCorrupted_iff : isCorrupted text ↔ ∃ word ∈ mojibake ++ corruptPath, word <:+: text := by
  simp only [isCorrupted, search_iff, List.mem_append, or_and_right, exists_or]

theorem isCorrupted_mono {other : List Char} (h : text <:+: other) (corrupted : isCorrupted text) :
    isCorrupted other := by
  rw [isCorrupted_iff] at corrupted ⊢
  obtain ⟨word, mem, inside⟩ := corrupted
  exact ⟨word, mem, inside.trans h⟩

theorem not_isCorrupted_nil : ¬isCorrupted [] := by
  rw [isCorrupted_iff]
  rintro ⟨word, mem, inside⟩
  exact (words_ok word mem).2 (List.infix_nil.mp inside)

theorem isCorrupted_intercalate (items : List (List Char)) :
    isCorrupted (['\n'].intercalate items) ↔ ∃ item ∈ items, isCorrupted item := by
  simp only [isCorrupted_iff]
  constructor
  · rintro ⟨word, mem, inside⟩
    obtain ⟨inLine, nonempty⟩ := words_ok word mem
    obtain ⟨item, there, inside⟩ :=
      (Lines.occursIn_intercalate inLine nonempty items).mp (Text.occursIn_iff.mpr inside)
    exact ⟨item, there, word, mem, Text.occursIn_iff.mp inside⟩
  · rintro ⟨item, there, word, mem, inside⟩
    obtain ⟨inLine, nonempty⟩ := words_ok word mem
    have found := (Lines.occursIn_intercalate inLine nonempty items).mpr
      ⟨item, there, Text.occursIn_iff.mpr inside⟩
    exact ⟨word, mem, Text.occursIn_iff.mp found⟩

end Search

section Lines

variable {patch : String}

theorem isShown_iff {line : List Char} :
    isShown line = true ↔ ∃ content, line = '+' :: content ∧ ¬"++".toList <+: content := by
  rw [isShown, Bool.and_eq_true, Bool.not_eq_true', ← Bool.not_eq_true, List.isPrefixOf_iff_prefix,
    List.isPrefixOf_iff_prefix]
  constructor
  · rintro ⟨⟨content, rfl⟩, long⟩
    exact ⟨content, rfl, fun there => long (List.cons_prefix_cons.mpr ⟨rfl, there⟩)⟩
  · rintro ⟨content, rfl, long⟩
    exact ⟨⟨content, rfl⟩, fun there => long (List.cons_prefix_cons.mp there).2⟩

/-- The scan sees the parts of the lines. -/
theorem isCorrupted_addedText :
    isCorrupted (addedText patch) ↔ ∃ line ∈ patchLines patch, Shows line := by
  have parts : patch.toList.splitOnP isLineBreak =
      (patchLines patch).flatMap (List.splitOnP isLineBreak) := by
    rw [patchLines, List.splitOn_eq_splitOnP]
    refine Lines.splitOnP_flatMap (fun c feed => ?_) _
    rw [beq_iff_eq.mp feed]
    decide
  have seen (content : List Char) : '+' :: content ∈ Text.splitLinesFrom [] patch.toList ↔
      ∃ line ∈ patchLines patch, '+' :: content ∈ line.splitOnP isLineBreak := by
    rw [Lines.mem_splitLinesFrom (List.cons_ne_nil _ _) (by simp), List.reverse_nil,
      List.nil_append, parts, List.mem_flatMap]
  rw [addedText, isCorrupted_intercalate]
  constructor
  · rintro ⟨item, mem, corrupted⟩
    obtain ⟨part, there, rfl⟩ := List.mem_map.mp mem
    obtain ⟨there, shown⟩ := List.mem_filter.mp there
    obtain ⟨content, rfl, long⟩ := isShown_iff.mp shown
    obtain ⟨line, mem, part⟩ := (seen content).mp there
    exact ⟨line, mem, content, part, long, corrupted⟩
  · rintro ⟨line, mem, content, part, long, corrupted⟩
    refine ⟨content, List.mem_map.mpr ⟨'+' :: content, List.mem_filter.mpr ⟨?_, ?_⟩, rfl⟩, corrupted⟩
    · exact (seen content).mpr ⟨line, mem, part⟩
    · exact isShown_iff.mpr ⟨content, rfl, long⟩

/-- A part of an added line that shows a sequence is in its content. -/
theorem isCorrupted_of_shows {content : List Char} (h : Shows ('+' :: content)) :
    isCorrupted content := by
  obtain ⟨shown, part, -, corrupted⟩ := h
  obtain ⟨first, rest, split⟩ := List.exists_cons_of_ne_nil (List.splitOnP_ne_nil isLineBreak content)
  have inside (part : List Char) (mem : part ∈ first :: rest) : part <:+: content := by
    rw [← split] at mem
    exact (Lines.splitOnP_parts _ _).2 part mem
  rw [List.splitOnP_cons_eq_if_modifyHead, if_neg (by decide), split, List.modifyHead_cons] at part
  refine isCorrupted_mono ?_ corrupted
  rcases List.mem_cons.mp part with same | later
  · rw [(List.cons.inj same).2]
    exact inside first List.mem_cons_self
  · exact (List.suffix_cons _ _).isInfix.trans (inside _ (List.mem_cons_of_mem _ later))

end Lines

section Files

variable {str : Json → String} {fields : Mapping} {path patch : String}

theorem changedFile_ne_nil_iff (record : IsRecord fields path patch) :
    changedFile str (.obj fields) ≠ [] ↔ ∃ line ∈ patchLines patch, Shows line := by
  rw [← isCorrupted_addedText]
  have path_ : filename str fields = path := by rw [filename, record.filename]
  have some_ : path ≠ "" := by
    rintro rfl
    exact absurd record.scanned (by decide)
  rw [changedFile]
  simp only [path_, record.patch, record.scanned]
  rw [if_neg (by simp [some_])]
  by_cases none : patch = ""
  · rw [if_pos none, none]
    exact iff_of_false (fun ne => ne rfl) not_isCorrupted_nil
  rw [if_neg none]
  by_cases empty : addedText patch = []
  · rw [if_pos empty, empty]
    exact iff_of_false (fun ne => ne rfl) not_isCorrupted_nil
  rw [if_neg empty, isCorrupted]
  by_cases first : search mojibake (addedText patch) = true
  · rw [if_pos first]
    exact iff_of_true (List.cons_ne_nil _ _) (.inl first)
  rw [if_neg first]
  by_cases second : search corruptPath (addedText patch) = true
  · rw [if_pos second]
    exact iff_of_true (List.cons_ne_nil _ _) (.inr second)
  · rw [if_neg second]
    exact iff_of_false (fun ne => ne rfl) (not_or.mpr ⟨first, second⟩)

/-- Each file has its own failures, and they are there exactly where its patch adds corruption,
unless what it adds is hidden or what it shows is not added. -/
theorem validateChangedFiles_exact_iff (files : List Json) :
    validateChangedFiles str files = files.flatMap (fun file => validateChangedFiles str [file]) ∧
      ((∀ fields path patch, .obj fields ∈ files → IsRecord fields path patch →
        (validateChangedFiles str [.obj fields] ≠ [] ↔ AddsCorruption patch)) ↔
      ∀ fields path patch, .obj fields ∈ files → IsRecord fields path patch →
        ¬Hidden patch ∧ ¬Spurious patch) := by
  have alone (file : Json) : validateChangedFiles str [file] = changedFile str file :=
    List.append_nil _
  simp only [alone]
  refine ⟨rfl, forall_congr' fun fields => forall_congr' fun path => forall_congr' fun patch => ?_⟩
  refine imp_congr_right fun _ => imp_congr_right fun record => ?_
  rw [changedFile_ne_nil_iff record]
  constructor
  · intro exact_
    refine ⟨fun ⟨adds, unseen⟩ => ?_, fun ⟨clean, line, mem, _, shows⟩ => ?_⟩
    · obtain ⟨line, mem, shows⟩ := exact_.mpr adds
      exact unseen line mem shows
    · exact clean (exact_.mp ⟨line, mem, shows⟩)
  · rintro ⟨seen, real⟩
    constructor
    · rintro ⟨line, mem, shows⟩
      by_contra clean
      refine real ⟨clean, line, mem, ?_, shows⟩
      rintro ⟨content, rfl⟩
      exact clean ⟨content, mem, isCorrupted_of_shows shows⟩
    · intro adds
      by_contra unseen
      exact seen ⟨adds, fun line mem shows => unseen ⟨line, mem, shows⟩⟩

def sampleRecord (patch : String) : Mapping :=
  [("filename", .str "src/app.ts"), ("patch", .str patch)]

theorem sample_isRecord (patch : String) : IsRecord (sampleRecord patch) "src/app.ts" patch where
  filename := rfl
  patch := rfl
  scanned := by decide

/-- An added line that begins with `++`, and a sequence that ends with a line end of its own. -/
theorem validateChangedFiles_misses :
    (IsRecord (sampleRecord "@@ -0,0 +1 @@\n+++total // Ã©") "src/app.ts"
        "@@ -0,0 +1 @@\n+++total // Ã©" ∧
      AddsCorruption "@@ -0,0 +1 @@\n+++total // Ã©" ∧
      validateChangedFiles (fun _ => "") [.obj (sampleRecord "@@ -0,0 +1 @@\n+++total // Ã©")] = []) ∧
    (IsRecord (sampleRecord "@@ -0,0 +1 @@\n+// Ã\u0085") "src/app.ts"
        "@@ -0,0 +1 @@\n+// Ã\u0085" ∧
      AddsCorruption "@@ -0,0 +1 @@\n+// Ã\u0085" ∧
      validateChangedFiles (fun _ => "") [.obj (sampleRecord "@@ -0,0 +1 @@\n+// Ã\u0085")] = []) := by
  refine ⟨⟨sample_isRecord _, ⟨"++total // Ã©".toList, ?_, .inl ?_⟩, ?_⟩,
    ⟨sample_isRecord _, ⟨"// Ã\u0085".toList, ?_, .inl ?_⟩, ?_⟩⟩ <;> decide +kernel

end Files

end OptimizrActions.PrMetadata
