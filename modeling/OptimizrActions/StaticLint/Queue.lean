import OptimizrActions.Lib.Descent
import OptimizrActions.Lib.Text

/-! The contract of `concurrency.queue`, checked on the node graph of a workflow file. -/

namespace OptimizrActions.StaticLint

section Yaml

structure Mark where
  line : Nat
  column : Nat
  deriving DecidableEq

/-- What a node of PyYAML is, with its parts named in the graph. -/
inductive Content (Node : Type)
  | scalar (tag value : String)
  | sequence (items : List Node)
  | mapping (entries : List (Node × Node))

structure YamlNode (Node : Type) where
  startMark : Mark
  content : Content Node

/-- The graph that `yaml.compose` makes of a file: an alias is the node that its anchor names. -/
structure Document where
  size : Nat
  root : Fin size
  node : Fin size → YamlNode (Fin size)

/-- What `yaml.compose` comes to; a file with no document has none. -/
inductive Composed
  | error (mark : Option Mark)
  | empty
  | document (document : Document)

variable (doc : Document)

def Document.scalar? (n : Fin doc.size) : Option String :=
  match (doc.node n).content with
  | .scalar _ value => some value
  | _ => none

/-- The nodes that `visit` goes on to: items, and values but no keys. -/
def Document.children (n : Fin doc.size) : List (Fin doc.size) :=
  match (doc.node n).content with
  | .scalar _ _ => []
  | .sequence items => items
  | .mapping entries => entries.map Prod.snd

end Yaml

section Candidate

/-- `(?:['"]queue['"]|queue)\s*:` after white space -/
def isQueueKey (text : List Char) : Bool :=
  let isQuote (c : Char) : Bool := c = '\'' || c = '"'
  let after (rest : List Char) : Bool := (rest.dropWhile Text.isSpace).head? = some ':'
  match text.dropWhile Text.isSpace with
  | 'q' :: 'u' :: 'e' :: 'u' :: 'e' :: rest => after rest
  | quote :: 'q' :: 'u' :: 'e' :: 'u' :: 'e' :: close :: rest =>
    isQuote quote && isQuote close && after rest
  | _ => false

/-- The search from here on, at the start of a line or not. -/
def searchQueueKey : Bool → List Char → Bool
  | start, [] => start && isQueueKey []
  | start, c :: rest =>
    (start && isQueueKey (c :: rest)) || ((c = ',' || c = '{') && isQueueKey rest) ||
      searchQueueKey (c = '\n') rest

/-- `_has_queue_key_candidate` -/
def hasQueueKeyCandidate (content : String) : Bool := searchQueueKey true content.toList

end Candidate

structure LintFailure where
  path : String
  error : String
  deriving DecidableEq

/-- What a visit adds to: the failures of all files, and the locations of this one. -/
structure Visit where
  failures : List LintFailure
  locations : List (Nat × Nat)

abbrev MappingPath := List (Option String)

/-- `_location_for_concurrency` -/
def locationForConcurrency (path : MappingPath) : Bool :=
  match path with
  | [some "concurrency"] => true
  | [some "jobs", some _, some "concurrency"] => true
  | _ => false

section Visit

variable (relative : String) (doc : Document)

def at_ (n : Fin doc.size) : String :=
  s!"(line {(doc.node n).startMark.line + 1}, column {(doc.node n).startMark.column + 1})"

def keyed (entries : List (Fin doc.size × Fin doc.size)) (key : String) :
    List (Fin doc.size × Fin doc.size) :=
  entries.filter fun entry => doc.scalar? entry.1 = some key

/-- The string `single` or `max`. -/
def queueValue? (n : Fin doc.size) : Option String :=
  match (doc.node n).content with
  | .scalar tag value =>
    if tag = "tag:yaml.org,2002:str" ∧ value ∈ ["single", "max"] then some value else none
  | _ => none

/-- The boolean `false`, in any letter case. -/
def isFalse (n : Fin doc.size) : Bool :=
  match (doc.node n).content with
  | .scalar tag value => tag = "tag:yaml.org,2002:bool" && Text.lower value = "false"
  | _ => false

/-- What is wrong with the only queue key of a concurrency mapping, and where. -/
def queueProblem (entries : List (Fin doc.size × Fin doc.size))
    (queue : Fin doc.size × Fin doc.size) : Option (String × Fin doc.size) :=
  match queueValue? doc queue.2 with
  | none => some ("concurrency.queue must be the string 'single' or 'max'", queue.1)
  | some value =>
    match keyed doc entries "cancel-in-progress" with
    | _ :: second :: _ =>
      some ("duplicate concurrency.cancel-in-progress keys are not supported", second.1)
    | cancels =>
      match keyed doc entries "<<" with
      | merge :: _ =>
        some ("YAML merge keys are not supported in concurrency mappings with queue", merge.1)
      | [] =>
        match cancels with
        | [] => none
        | cancel :: _ =>
          if value = "max" ∧ isFalse doc cancel.2 = false then
            some ("concurrency.queue: max requires cancel-in-progress to be omitted or false",
              cancel.1)
          else none

/-- What the visit of a mapping records before it goes on to the values. -/
def checkMapping (path : MappingPath) (entries : List (Fin doc.size × Fin doc.size))
    (visit : Visit) : Visit :=
  match keyed doc entries "queue" with
  | [] => visit
  | queue :: others =>
    if locationForConcurrency path = false then
      { visit with failures := visit.failures ++ (queue :: others).map fun entry =>
          ⟨relative, "queue is only supported directly under workflow-level or job-level " ++
            s!"concurrency {at_ doc entry.1}"⟩ }
    else if others ≠ [] then
      { visit with failures := visit.failures ++ others.map fun entry =>
          ⟨relative, s!"duplicate concurrency.queue keys are not supported {at_ doc entry.1}"⟩ }
    else
      match queueProblem doc entries queue with
      | some (problem, node) =>
        { visit with failures := visit.failures ++ [⟨relative, s!"{problem} {at_ doc node}"⟩] }
      | none =>
        { visit with locations := visit.locations ++
            [((doc.node queue.1).startMark.line + 1, (doc.node queue.1).startMark.column + 1)] }

/-- `visit`, to a depth; `none` where it goes deeper. -/
def visit : Nat → Visit → Fin doc.size → MappingPath → Option Visit
  | 0, _, _, _ => none
  | depth + 1, state, n, path =>
    match (doc.node n).content with
    | .scalar _ _ => some state
    | .sequence items => items.foldlM (fun state item => visit depth state item (path ++ [none])) state
    | .mapping entries =>
      entries.foldlM (fun state entry => visit depth state entry.2 (path ++ [doc.scalar? entry.1]))
        (checkMapping relative doc path entries state)

end Visit

section Validate

/-- A file as it is listed, with its text and what `yaml.compose` makes of it. -/
structure Workflow where
  relative : String
  source : String
  composed : Composed

abbrev Locations := List (String × List (Nat × Nat))

def yamlError (mark : Option Mark) : String :=
  "queue workflow YAML is invalid" ++
    ((mark.map fun mark => s!" near line {mark.line + 1}, column {mark.column + 1}").getD "")

/- `Path(relative).as_posix()` -/
variable (asPosix : String → String)

def validateWorkflow (depth : Nat) (state : Locations × List LintFailure) (workflow : Workflow) :
    Option (Locations × List LintFailure) :=
  let (allowed, failures) := state
  if hasQueueKeyCandidate workflow.source = false then some state
  else match workflow.composed with
    | .error mark => some (allowed, failures ++ [⟨workflow.relative, yamlError mark⟩])
    | .empty => some (allowed, failures ++ [⟨workflow.relative, "queue workflow is empty"⟩])
    | .document doc => do
      let visited ← visit workflow.relative doc depth ⟨failures, []⟩ doc.root []
      if visited.locations = [] then return (allowed, visited.failures)
      else
        let others := allowed.filter fun entry => entry.1 ≠ asPosix workflow.relative
        return (others ++ [(asPosix workflow.relative, visited.locations)], visited.failures)

/-- `validate_concurrency_queue_contract`, where no visit goes deeper than `depth` -/
def validateConcurrencyQueueContract (depth : Nat) (workflows : List Workflow) :
    Option (Locations × List LintFailure) :=
  workflows.foldlM (validateWorkflow asPosix depth) ([], [])

end Validate

end OptimizrActions.StaticLint
