import OptimizrActions.Lib.Json
import OptimizrActions.StaticLint.Queue

/-! What actionlint reports, and which of its diagnostics count. -/

namespace OptimizrActions.StaticLint

section Output

/-- `splitlines(keepends=True)`, after the start of a line -/
def keepLinesFrom (line : List Char) : List Char → List (List Char)
  | [] => if line = [] then [] else [line.reverse]
  | '\r' :: '\n' :: cs => ('\n' :: '\r' :: line).reverse :: keepLinesFrom [] cs
  | c :: cs =>
    if Text.isLineBreak c then (c :: line).reverse :: keepLinesFrom [] cs
    else keepLinesFrom (c :: line) cs

def keepLines (output : List Char) : List (List Char) := keepLinesFrom [] output

/-- `not text.strip()` -/
def isBlank (text : List Char) : Bool := Text.stripChars text = []

/-- What `json.loads` comes to: a value, a `JSONDecodeError` or another error. -/
inductive Loaded
  | value (value : Json)
  | undecodable
  | raised

end Output

section Diagnostic

structure Diagnostic where
  filepath : String
  line : Int
  column : Int
  message : String
  kind : String

/-- The fields that are read, where each has its type. -/
def diagnostic? : Json → Option Diagnostic
  | .obj fields =>
    match Mapping.get fields "filepath", Mapping.get fields "line", Mapping.get fields "column",
      Mapping.get fields "message", Mapping.get fields "kind" with
    | .str filepath, .int line, .int column, .str message, .str kind =>
      some ⟨filepath, line, column, message, kind⟩
    | _, _, _, _, _ => none
  | _ => none

def expectedMessage : String :=
  "unexpected key \"queue\" for \"concurrency\" section. " ++
    "expected one of \"cancel-in-progress\", \"group\""

def stripDotSlash : List Char → List Char
  | '.' :: '/' :: rest => stripDotSlash rest
  | path => path

def normalizedPath (filepath : String) : String :=
  String.ofList (stripDotSlash (filepath.toList.map fun c => if c = '\\' then '/' else c))

variable (valid : Locations)

/-- The known error, at a queue key that the contract validated. -/
def Diagnostic.Validated (diagnostic : Diagnostic) : Prop :=
  diagnostic.message = expectedMessage ∧ diagnostic.kind = "syntax-check" ∧
    ∃ location ∈ (valid.lookup (normalizedPath diagnostic.filepath)).getD [],
      diagnostic.line = location.1 ∧ diagnostic.column = location.2

instance (diagnostic : Diagnostic) : Decidable (diagnostic.Validated valid) :=
  inferInstanceAs (Decidable (_ ∧ _ ∧ ∃ location ∈ _, _))

end Diagnostic

section Filter

structure Filtered where
  kept : List (List Char)
  suppressed : Nat
  parseable : Bool

variable (loads : List Char → Loaded) (valid : Locations)

/-- One line of the output; `none` where `json.loads` raises what is not caught. -/
def filterLine (state : Filtered) (line : List Char) : Option Filtered :=
  if isBlank line then some { state with kept := state.kept ++ [line] }
  else match loads line with
    | .raised => none
    | .undecodable => some { state with kept := state.kept ++ [line], parseable := false }
    | .value value =>
      match diagnostic? value with
      | none => some { state with kept := state.kept ++ [line], parseable := false }
      | some diagnostic =>
        if diagnostic.Validated valid then some { state with suppressed := state.suppressed + 1 }
        else some { state with kept := state.kept ++ [line] }

/-- `filter_actionlint_queue_errors` -/
def filterActionlintQueueErrors (output : List Char) : Option (List Char × Nat × Bool) :=
  if Text.stripChars output = ['[', ']'] then some ([], 0, true)
  else do
    let result ← (keepLines output).foldlM (filterLine loads valid) ⟨[], 0, true⟩
    return (result.kept.flatten, result.suppressed, result.parseable)

/-- `effective_actionlint_exit_code` -/
def effectiveActionlintExitCode (exitCode : Int) (filteredOutput : List Char)
    (suppressedCount : Nat) (parseable : Bool) : Int :=
  if exitCode = 0 ∧ isBlank filteredOutput = false then if parseable then 1 else 2
  else if exitCode = 1 ∧ 0 < suppressedCount ∧ parseable ∧ isBlank filteredOutput then 0
  else exitCode

end Filter

section Run

/-- A process that has ended. -/
structure Process where
  exitCode : Int
  stdout : List Char
  stderr : List Char

def outputBound : Nat := 1000000

def Process.written (proc : Process) : List Char := proc.stdout ++ proc.stderr

/-- `_run` keeps the end of what the process wrote. -/
def Process.output (proc : Process) : List Char :=
  proc.written.drop (proc.written.length - outputBound)

/-- What `run_lints` makes of the actionlint process. -/
def effectiveExitCode (loads : List Char → Loaded) (valid : Locations) (proc : Process) :
    Option Int := do
  let (filteredOutput, suppressedCount, parseable) ←
    filterActionlintQueueErrors loads valid proc.output
  return effectiveActionlintExitCode proc.exitCode filteredOutput suppressedCount parseable

end Run

end OptimizrActions.StaticLint
