import OptimizrActions.Lib.Dict
import OptimizrActions.Lib.Text

/-! What a workflow declares under `workflow_call`, read by indentation. -/

namespace OptimizrActions.CapabilityCatalog

abbrev Line := List Char

section Lines

/-- `content.splitlines()` -/
def linesOf (content : List Char) : List Line := Text.splitLinesFrom [] content

/-- `not line.strip() or line.lstrip().startswith("#")` -/
def isSkipped (line : Line) : Bool :=
  Text.stripChars line = [] || (line.dropWhile Text.isSpace).head? = some '#'

/-- `len(line) - len(line.lstrip())` -/
def indentation (line : Line) : Nat := line.length - (line.dropWhile Text.isSpace).length

def isKeyChar (c : Char) : Bool :=
  ('A' ≤ c && c ≤ 'Z') || ('a' ≤ c && c ≤ 'z') || ('0' ≤ c && c ≤ '9') || c = '_' || c = '-'

/-- `KEY_LINE_RE`, with the key and the stripped value -/
def keyLine? (line : Line) : Option (Line × Line) :=
  let text := line.dropWhile Text.isSpace
  match text.dropWhile isKeyChar with
  | ':' :: value =>
    if text.takeWhile isKeyChar = [] then none
    else some (text.takeWhile isKeyChar, Text.stripChars value)
  | _ => none

end Lines

section Search

/-- `\s*$`, where a line may end anywhere -/
def endsLine (text : List Char) : Bool :=
  text.dropWhile Text.isSpace = [] || '\n' ∈ text.takeWhile Text.isSpace

/-- `\s*:\s*$` -/
def colonEnds (text : List Char) : Bool :=
  match text.dropWhile Text.isSpace with
  | ':' :: rest => endsLine rest
  | _ => false

def callKey : List Char := "workflow_call".toList

/-- `\s{2,}workflow_call\s*:\s*$` -/
def matchesCall (text : List Char) : Bool :=
  2 ≤ (text.takeWhile Text.isSpace).length &&
    match (text.dropWhile Text.isSpace).dropPrefix? callKey with
    | some rest => colonEnds rest
    | none => false

/-- Where the first match starts; the pattern matches at starts of lines. -/
def searchCall (offset : Nat) : Bool → List Char → Option Nat
  | _, [] => none
  | start, c :: rest =>
    if start && matchesCall (c :: rest) then some offset
    else searchCall (offset + 1) (c = '\n') rest

/-- `_line_index` -/
def lineIndex (content : List Char) (charOffset : Nat) : Nat :=
  (content.take charOffset).count '\n'

end Search

section Block

/-- The lines of a block as `_block_children` walks over them. -/
def childrenFrom (baseIndent : Nat) (children : List (Line × Line)) : List Line →
    List (Line × Line)
  | [] => children
  | line :: rest =>
    if isSkipped line then childrenFrom baseIndent children rest
    else if indentation line ≤ baseIndent then children
    else if indentation line ≠ baseIndent + 2 then childrenFrom baseIndent children rest
    else match keyLine? line with
      | some entry => childrenFrom baseIndent (Dict.put children entry) rest
      | none => childrenFrom baseIndent children rest

/-- `_block_children` -/
def blockChildren (content : List Char) (blockStart baseIndent : Nat) : List (Line × Line) :=
  childrenFrom baseIndent [] ((linesOf content).drop (blockStart + 1))

/-- `_block_form_keys` -/
def blockFormKeys (children : List (Line × Line)) : List (Line × Line) :=
  children.filter fun entry => entry.2 = []

/-- The first line `name:` of the block, counted from `index`. -/
def blockIndex (callIndent : Nat) (name : Line) (index : Nat) : List Line → Option Nat
  | [] => none
  | line :: rest =>
    if isSkipped line then blockIndex callIndent name (index + 1) rest
    else if indentation line ≤ callIndent then none
    else if Text.stripChars line = name ++ [':'] then some index
    else blockIndex callIndent name (index + 1) rest

/-- `_workflow_call_io` -/
def workflowCallIo (content : List Char) (name : Line) : List (Line × Line) :=
  match searchCall 0 true content with
  | none => []
  | some start =>
    let lines := linesOf content
    let callLine := lineIndex content start
    let callIndent := indentation (lines.getD callLine [])
    match blockIndex callIndent name (callLine + 1) (lines.drop (callLine + 1)) with
    | none => []
    | some index =>
      blockFormKeys (blockChildren content index (indentation (lines.getD index [])))

end Block

end OptimizrActions.CapabilityCatalog
