import Mathlib.Data.List.TakeWhile
import OptimizrActions.StaticLint.Actionlint

/-! The decision about actionlint, against all that it wrote. -/

namespace OptimizrActions.StaticLint

section Specification

/-- The diagnostics of an output: its lines, but for blank ones and for an empty list. -/
def diagnostics (output : List Char) : List (List Char) :=
  if Text.stripChars output = ['[', ']'] then []
  else (keepLines output).filter fun line => !isBlank line

variable (loads : List Char → Loaded) (valid : Locations)

/-- The line is the known error, at a queue key that the contract validated. -/
def IsKnown (line : List Char) : Prop :=
  ∃ value diagnostic, loads line = .value value ∧ diagnostic? value = some diagnostic ∧
    diagnostic.Validated valid

def AllKnown (output : List Char) : Prop := ∀ line ∈ diagnostics output, IsKnown loads valid line

/-- What an exit code and an output must be for the exit code 0. -/
def Accepted (exitCode : Int) (output : List Char) : Prop :=
  (exitCode = 0 ∧ AllKnown loads valid output) ∨
    (exitCode = 1 ∧ diagnostics output ≠ [] ∧ AllKnown loads valid output)

/-- Where the exit code leaves it to the output, what is left of the output has only known errors, or
some of them, just as the whole has. -/
def CutHarmless (proc : Process) : Prop :=
  (proc.exitCode = 0 → (AllKnown loads valid proc.output ↔ AllKnown loads valid proc.written)) ∧
    (proc.exitCode = 1 →
      ((diagnostics proc.output ≠ [] ∧ AllKnown loads valid proc.output) ↔
        (diagnostics proc.written ≠ [] ∧ AllKnown loads valid proc.written)))

end Specification

section Blank

theorem isBlank_iff (text : List Char) : isBlank text = true ↔ ∀ c ∈ text, Text.isSpace c = true := by
  rw [isBlank, decide_eq_true_iff, Text.stripChars, List.reverse_eq_nil_iff,
    List.dropWhile_eq_nil_iff]
  simp only [List.mem_reverse]
  constructor
  · intro h c mem
    rw [← List.takeWhile_append_dropWhile (p := Text.isSpace) (l := text)] at mem
    rcases List.mem_append.mp mem with taken | left
    · exact List.mem_takeWhile_imp taken
    · exact h c left
  · exact fun h c mem => h c ((List.dropWhile_suffix _).subset mem)

theorem isBlank_flatten (lines : List (List Char)) :
    isBlank lines.flatten = true ↔ ∀ line ∈ lines, isBlank line = true := by
  simp only [isBlank_iff, List.mem_flatten]
  exact ⟨fun h line mem c inside => h c ⟨line, mem, inside⟩,
    fun h c ⟨line, mem, inside⟩ => h line mem c inside⟩

end Blank

section Filter

variable {loads : List Char → Loaded} {valid : Locations} {line : List Char}
variable {lines : List (List Char)} {state next : Filtered}

theorem filterLine_of_isBlank (blank : isBlank line = true) :
    filterLine loads valid state line = some { state with kept := state.kept ++ [line] } :=
  if_pos blank

theorem filterLine_of_isKnown (shown : isBlank line = false) (known : IsKnown loads valid line) :
    filterLine loads valid state line = some { state with suppressed := state.suppressed + 1 } := by
  obtain ⟨value, diagnostic, loaded, read, validated⟩ := known
  simp only [filterLine, shown, loaded, read, if_pos validated, Bool.false_eq_true, if_false]

/-- A line is kept, or it is a known error. -/
theorem filterLine_kept (filtered : filterLine loads valid state line = some next) :
    state.kept ⊆ next.kept ∧ (IsKnown loads valid line ∨ line ∈ next.kept) := by
  have keep {kept : List (List Char)} (eq : next.kept = kept ++ [line]) :
      kept ⊆ next.kept ∧ (IsKnown loads valid line ∨ line ∈ next.kept) := by
    rw [eq]
    exact ⟨List.subset_append_left _ _, .inr (List.mem_append_right _ List.mem_cons_self)⟩
  unfold filterLine at filtered
  split at filtered
  · cases filtered
    exact keep rfl
  · split at filtered
    · cases filtered
    · cases filtered
      exact keep rfl
    · rename_i value loaded
      split at filtered
      · cases filtered
        exact keep rfl
      · rename_i diagnostic read
        split at filtered
        · rename_i validated
          cases filtered
          exact ⟨List.Subset.refl _, .inl ⟨value, diagnostic, loaded, read, validated⟩⟩
        · cases filtered
          exact keep rfl

theorem foldlM_filterLine_kept (filtered : lines.foldlM (filterLine loads valid) state = some next) :
    state.kept ⊆ next.kept ∧ ∀ line ∈ lines, IsKnown loads valid line ∨ line ∈ next.kept := by
  induction lines generalizing state with
  | nil =>
    cases filtered
    exact ⟨List.Subset.refl _, nofun⟩
  | cons line rest ih =>
    rw [List.foldlM_cons] at filtered
    obtain ⟨middle, first, later⟩ := Option.bind_eq_some_iff.mp filtered
    obtain ⟨before, one⟩ := filterLine_kept first
    obtain ⟨after, others⟩ := ih later
    refine ⟨List.Subset.trans before after, List.forall_mem_cons.mpr ⟨one.imp_right fun mem => after mem, others⟩⟩

/-- The filter on lines that are blank or known. -/
theorem foldlM_filterLine_of_known
    (known : ∀ line ∈ lines, isBlank line = false → IsKnown loads valid line) :
    lines.foldlM (filterLine loads valid) state =
      some ⟨state.kept ++ lines.filter isBlank,
        state.suppressed + (lines.filter fun line => !isBlank line).length, state.parseable⟩ := by
  induction lines generalizing state with
  | nil => simp
  | cons line rest ih =>
    rw [List.forall_mem_cons] at known
    rw [List.foldlM_cons]
    cases blank : isBlank line with
    | true => simp [filterLine_of_isBlank blank, ih known.2, blank]
    | false => simp [filterLine_of_isKnown blank (known.1 blank), ih known.2, blank]; omega

end Filter

section Decision

variable {loads : List Char → Loaded} {valid : Locations} {output : List Char}

theorem allKnown_iff (notEmpty : Text.stripChars output ≠ ['[', ']']) :
    AllKnown loads valid output ↔
      ∀ line ∈ keepLines output, isBlank line = false → IsKnown loads valid line := by
  simp only [AllKnown, diagnostics, if_neg notEmpty, List.mem_filter, Bool.not_eq_true', and_imp]

/-- Nothing is left of an output if and only if its diagnostics are known errors, and then they are
all counted. -/
theorem filter_of_allKnown (known : AllKnown loads valid output) :
    ∃ filtered, isBlank filtered = true ∧ filterActionlintQueueErrors loads valid output =
      some (filtered, (diagnostics output).length, true) := by
  by_cases empty : Text.stripChars output = ['[', ']']
  · exact ⟨[], rfl, by rw [filterActionlintQueueErrors, if_pos empty, diagnostics, if_pos empty]; rfl⟩
  · have filtered := @foldlM_filterLine_of_known loads valid _ ⟨[], 0, true⟩ ((allKnown_iff empty).mp known)
    refine ⟨((keepLines output).filter isBlank).flatten, ?_, ?_⟩
    · exact (isBlank_flatten _).mpr fun line mem => (List.mem_filter.mp mem).2
    · rw [filterActionlintQueueErrors, if_neg empty, filtered, diagnostics, if_neg empty]
      simp

theorem allKnown_of_filter {filtered : List Char} {suppressed : Nat} {parseable : Bool}
    (eq : filterActionlintQueueErrors loads valid output = some (filtered, suppressed, parseable))
    (blank : isBlank filtered = true) : AllKnown loads valid output := by
  by_cases empty : Text.stripChars output = ['[', ']']
  · intro line mem
    rw [diagnostics, if_pos empty] at mem
    cases mem
  · rw [filterActionlintQueueErrors, if_neg empty] at eq
    obtain ⟨result, folded, same⟩ := Option.bind_eq_some_iff.mp eq
    cases same
    rw [allKnown_iff empty]
    intro line mem shown
    refine ((foldlM_filterLine_kept folded).2 line mem).resolve_right fun kept => ?_
    rw [(isBlank_flatten _).mp blank line kept] at shown
    cases shown

theorem effectiveExitCode_eq_zero_iff_accepted (proc : Process) :
    effectiveExitCode loads valid proc = some 0 ↔
      Accepted loads valid proc.exitCode proc.output := by
  unfold effectiveExitCode
  generalize proc.output = output
  constructor
  · intro zero
    obtain ⟨⟨filtered, suppressed, parseable⟩, eq, code⟩ := Option.bind_eq_some_iff.mp zero
    have code : effectiveActionlintExitCode proc.exitCode filtered suppressed parseable = 0 :=
      Option.some.inj code
    unfold effectiveActionlintExitCode at code
    split at code
    · cases parseable <;> cases code
    · rename_i silent
      split at code
      · rename_i one
        obtain ⟨exited, positive, -, blank⟩ := one
        have known := allKnown_of_filter eq blank
        obtain ⟨_, -, exact_⟩ := filter_of_allKnown known
        rw [eq] at exact_
        cases exact_
        exact .inr ⟨exited, List.length_pos_iff.mp positive, known⟩
      · exact .inl ⟨code, allKnown_of_filter eq (by simpa [code] using silent)⟩
  · intro accepted
    rcases accepted with ⟨exited, known⟩ | ⟨exited, some_, known⟩
    all_goals
      obtain ⟨filtered, blank, eq⟩ := filter_of_allKnown known
      rw [eq]
    · simp [effectiveActionlintExitCode, exited, blank]
    · simp [effectiveActionlintExitCode, exited, blank, List.length_pos_iff.mpr some_]

theorem Process.output_of_length_le {proc : Process} (short : proc.written.length ≤ outputBound) :
    proc.output = proc.written := by
  rw [output, Nat.sub_eq_zero_of_le short, List.drop_zero]

theorem cutHarmless_of_length_le {proc : Process} (short : proc.written.length ≤ outputBound) :
    CutHarmless loads valid proc := by
  rw [CutHarmless, Process.output_of_length_le short]
  exact ⟨fun _ => Iff.rfl, fun _ => Iff.rfl⟩

end Decision

section Lines

theorem clean_of_all {text : List Char} (all : text.all (fun c => !Text.isLineBreak c) = true) :
    ∀ c ∈ text, Text.isLineBreak c = false := by
  simpa using all

theorem keepLinesFrom_line {line : List Char} (clean : ∀ c ∈ line, Text.isLineBreak c = false)
    (start rest : List Char) : keepLinesFrom start (line ++ '\n' :: rest) =
      (start.reverse ++ line ++ ['\n']) :: keepLinesFrom [] rest := by
  induction line generalizing start with
  | nil => simp [keepLinesFrom, Text.isLineBreak]
  | cons c line ih =>
    rw [List.forall_mem_cons] at clean
    have plain : c ≠ '\r' := by rintro rfl; exact absurd clean.1 (by decide)
    rw [List.cons_append, keepLinesFrom.eq_3 _ _ _ (fun _ same _ => plain same), clean.1,
      if_neg Bool.false_ne_true, ih clean.2]
    simp

/-- An output of lines that each hold an object. -/
theorem diagnostics_of_brace {output : List Char} (brace : '\x7b' ∈ output)
    (shown : ∀ line ∈ keepLines output, '\x7b' ∈ line) : diagnostics output = keepLines output := by
  have notEmpty : Text.stripChars output ≠ ['[', ']'] := fun eq =>
    absurd (eq ▸ Text.mem_stripChars brace (by decide)) (by decide)
  rw [diagnostics, if_neg notEmpty, List.filter_eq_self]
  intro line mem
  rw [Bool.not_eq_true', ← Bool.not_eq_true, isBlank_iff]
  exact fun blank => absurd (blank _ (shown line mem)) (by decide)

end Lines

section Cut

variable {loads : List Char → Loaded} {valid : Locations} {unknown known : List Char}

/-- A process that reports an unknown error, and then a known one. -/
def twoLines (unknown known : List Char) : Process :=
  ⟨1, (unknown ++ ['\n']) ++ (known ++ ['\n']), []⟩

theorem twoLines_written : (twoLines unknown known).written =
    (unknown ++ ['\n']) ++ (known ++ ['\n']) :=
  List.append_nil _

theorem twoLines_output (fills : known.length + 1 = outputBound) :
    (twoLines unknown known).output = known ++ ['\n'] := by
  have last : (known ++ ['\n']).length = outputBound := by
    rw [List.length_append, ← fills]
    rfl
  rw [Process.output, twoLines_written, List.length_append, last, Nat.add_sub_cancel, List.drop_left]

theorem keepLines_single (clean : ∀ c ∈ known, Text.isLineBreak c = false) :
    keepLines (known ++ ['\n']) = [known ++ ['\n']] := by
  rw [keepLines, keepLinesFrom_line clean]
  simp [keepLinesFrom]

theorem diagnostics_single (clean : ∀ c ∈ known, Text.isLineBreak c = false)
    (brace : '\x7b' ∈ known) : diagnostics (known ++ ['\n']) = [known ++ ['\n']] := by
  have shown : '\x7b' ∈ known ++ ['\n'] := List.mem_append_left _ brace
  rw [diagnostics_of_brace shown]
  · exact keepLines_single clean
  · rw [keepLines_single clean]
    exact List.forall_mem_singleton.mpr shown

theorem mem_diagnostics_twoLines (clean : ∀ c ∈ unknown, Text.isLineBreak c = false)
    (cleanKnown : ∀ c ∈ known, Text.isLineBreak c = false) (brace : '\x7b' ∈ unknown)
    (braceKnown : '\x7b' ∈ known) :
    unknown ++ ['\n'] ∈ diagnostics (twoLines unknown known).written := by
  have lines : keepLines (twoLines unknown known).written =
      [unknown ++ ['\n'], known ++ ['\n']] := by
    have rest : keepLinesFrom [] (known ++ ['\n']) = [known ++ ['\n']] := keepLines_single cleanKnown
    rw [twoLines_written, List.append_assoc, List.singleton_append, keepLines,
      keepLinesFrom_line clean, rest]
    rfl
  rw [diagnostics_of_brace, lines]
  · exact List.mem_cons_self
  · simp [twoLines_written, brace]
  · simp [lines, brace, braceKnown]

/-- Before a known error that fills the last million characters, an unknown one is lost. -/
theorem not_accepted_twoLines (clean : ∀ c ∈ unknown, Text.isLineBreak c = false)
    (cleanKnown : ∀ c ∈ known, Text.isLineBreak c = false) (brace : '\x7b' ∈ unknown)
    (braceKnown : '\x7b' ∈ known) (fills : known.length + 1 = outputBound)
    (isKnown : IsKnown loads valid (known ++ ['\n']))
    (notKnown : ¬IsKnown loads valid (unknown ++ ['\n'])) :
    ¬(effectiveExitCode loads valid (twoLines unknown known) = some 0 ↔
      Accepted loads valid (twoLines unknown known).exitCode (twoLines unknown known).written) := by
  rw [effectiveExitCode_eq_zero_iff_accepted, twoLines_output fills]
  intro same
  have alone := diagnostics_single cleanKnown braceKnown
  have accepted : Accepted loads valid 1 (known ++ ['\n']) := by
    refine .inr ⟨rfl, alone ▸ List.cons_ne_nil _ _, ?_⟩
    rw [AllKnown, alone]
    exact List.forall_mem_singleton.mpr isKnown
  have all : AllKnown loads valid (twoLines unknown known).written :=
    (same.mp accepted).elim And.right fun accepted => accepted.2.2
  exact notKnown (all _ (mem_diagnostics_twoLines clean cleanKnown brace braceKnown))

end Cut

section Example

def unknownText : List Char :=
  "\x7b\"message\":\"unexpected key ".toList ++ "\\\"nam\\\" for \\\"workflow\\\" section\",".toList ++
    "\"filepath\":\"ci.yml\",\"line\":1,".toList ++ "\"column\":1,\"kind\":\"syntax-check\"\x7d".toList

def unknownFields : Mapping :=
  [("message", .str "unexpected key \"nam\" for \"workflow\" section"), ("filepath", .str "ci.yml"),
    ("line", .int 1), ("column", .int 1), ("kind", .str "syntax-check")]

def knownStart : List Char :=
  "\x7b\"message\":\"unexpected key ".toList ++ "\\\"queue\\\" for \\\"concurrency\\\" ".toList ++
    "section. expected one of ".toList ++ "\\\"cancel-in-progress\\\", \\\"group\\\"\",".toList ++
    "\"filepath\":\"ci.yml\",\"line\":3,".toList ++ "\"column\":15,\"kind\":\"syntax-check\",".toList ++
    "\"snippet\":\"concurrency: ".toList ++ "\x7bqueue: max, group: ".toList

/-- A known error whose snippet shows a group name of so many letters. -/
def knownText (letters : Nat) : List Char :=
  knownStart ++ (List.replicate letters 'x' ++ ['\x7d', '"', '\x7d'])

def knownFields (letters : Nat) : Mapping :=
  [("message", .str expectedMessage), ("filepath", .str "ci.yml"), ("line", .int 3),
    ("column", .int 15), ("kind", .str "syntax-check"),
    ("snippet", .str (String.ofList ("concurrency: \x7bqueue: max, group: ".toList ++
      (List.replicate letters 'x' ++ ['\x7d']))))]

/-- `json.loads` on the two lines -/
def sampleLoads (letters : Nat) (line : List Char) : Loaded :=
  if line = unknownText ++ ['\n'] then .value (.obj unknownFields)
  else if line = knownText letters ++ ['\n'] then .value (.obj (knownFields letters))
  else .undecodable

def sampleLocations : Locations := [("ci.yml", [(3, 15)])]

theorem isKnown_knownText {letters : Nat} (other : knownText letters ≠ unknownText) :
    IsKnown (sampleLoads letters) sampleLocations (knownText letters ++ ['\n']) := by
  refine ⟨.obj (knownFields letters), ⟨"ci.yml", 3, 15, expectedMessage, "syntax-check"⟩, ?_, rfl, ?_⟩
  · rw [sampleLoads, if_neg fun same => other (List.append_cancel_right same), if_pos rfl]
  · decide +kernel

theorem not_isKnown_unknownText (letters : Nat) :
    ¬IsKnown (sampleLoads letters) sampleLocations (unknownText ++ ['\n']) := by
  rintro ⟨value, diagnostic, loaded, read, validated⟩
  rw [sampleLoads, if_pos rfl] at loaded
  cases loaded
  cases read
  exact absurd validated.1 (by decide +kernel)

theorem not_accepted_letters {letters : Nat} (fills : knownStart.length + letters + 4 = outputBound) :
    ¬(effectiveExitCode (sampleLoads letters) sampleLocations (twoLines unknownText (knownText letters)) =
        some 0 ↔
      Accepted (sampleLoads letters) sampleLocations (twoLines unknownText (knownText letters)).exitCode
        (twoLines unknownText (knownText letters)).written) := by
  have start : ∀ c ∈ knownStart, Text.isLineBreak c = false := clean_of_all (by decide +kernel)
  have stop : ∀ c ∈ ['\x7d', '"', '\x7d'], Text.isLineBreak c = false := clean_of_all rfl
  have short : unknownText.length + 1 < outputBound := by decide +kernel
  have fills : (knownText letters).length + 1 = outputBound := by
    simp only [knownText, List.length_append, List.length_replicate, List.length_cons,
      List.length_nil]
    omega
  have other : knownText letters ≠ unknownText := by
    intro same
    rw [same] at fills
    exact short.ne fills
  refine not_accepted_twoLines (clean_of_all (by decide +kernel)) ?_ (by decide +kernel) ?_ fills
    (isKnown_knownText other) (not_isKnown_unknownText letters)
  · rw [knownText, List.forall_mem_append, List.forall_mem_append]
    exact ⟨start, fun c mem => List.eq_of_mem_replicate mem ▸ (by decide), stop⟩
  · exact List.mem_append_left _ (by decide +kernel)

end Example

end OptimizrActions.StaticLint
