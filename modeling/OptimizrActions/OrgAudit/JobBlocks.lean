import OptimizrActions.Lib.Spans
import OptimizrActions.Lib.Text

/-! The blocks of the jobs of a workflow, found line by line. -/

namespace OptimizrActions.OrgAudit

abbrev Line := List Char

def linesOf (content : String) : List Line := Text.splitLinesFrom [] content.toList

/-- `line.strip() == "jobs:" and not line.startswith((" ", "\t"))` -/
def isJobsLine (line : Line) : Bool :=
  Text.stripChars line = "jobs:".toList && line.head? ≠ some ' ' && line.head? ≠ some '\t'

/-- `line and not line.startswith((" ", "\t", "#"))` -/
def isTopLevel (line : Line) : Bool :=
  line ≠ [] && line.head? ≠ some ' ' && line.head? ≠ some '\t' && line.head? ≠ some '#'

def isJobChar (c : Char) : Bool :=
  ('A' ≤ c && c ≤ 'Z') || ('a' ≤ c && c ≤ 'z') || ('0' ≤ c && c ≤ '9') || c = '_' || c = '-'

/-- `^  ([A-Za-z0-9_-]+):\s*(?:#.*)?$` -/
def jobName? : Line → Option Line
  | ' ' :: ' ' :: rest =>
    match rest.dropWhile isJobChar with
    | ':' :: tail =>
      let after := tail.dropWhile Text.isSpace
      if rest.takeWhile isJobChar ≠ [] ∧ (after = [] ∨ after.head? = some '#') then
        some (rest.takeWhile isJobChar)
      else none
    | _ => none
  | _ => none

/-- The lines where a job starts; the scan ends at the next top-level line. -/
def jobStarts : Nat → List Line → List (Nat × Line)
  | _, [] => []
  | index, line :: rest =>
    if isTopLevel line then []
    else match jobName? line with
      | some name => (index, name) :: jobStarts (index + 1) rest
      | none => jobStarts (index + 1) rest

def jobsIndex (content : String) : Option Nat := (linesOf content).findIdx? isJobsLine

/-- The lines from the start of a job to the next one, or to the end of the text. -/
def jobSpans (content : String) : List (Span Line) :=
  match jobsIndex content with
  | none => []
  | some index =>
    spans (linesOf content).length (jobStarts (index + 1) ((linesOf content).drop (index + 1)))

/-- `_job_blocks` -/
def jobBlocks (content : String) : List (String × String) :=
  (jobSpans content).map fun span =>
    (String.ofList span.name,
      String.ofList
        (['\n'].intercalate (((linesOf content).drop span.start).take (span.stop - span.start))))

end OptimizrActions.OrgAudit
