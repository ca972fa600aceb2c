import OptimizrActions.Lib.Gather
import OptimizrActions.Lib.Json
import OptimizrActions.Lib.Replace
import OptimizrActions.Lib.Text

/-! The text of an environment file, from a schema and an environment. -/

namespace OptimizrActions.EnvWriter

def maxEntries : Nat := 200
def maxValueBytes : Nat := 1024 * 1024

/-- `KEY_RE` -/
def isKey (key : String) : Bool :=
  Text.isBounded (fun c => c.isUpper || c = '_') (fun c => c.isUpper || c.isDigit || c = '_') 127 key

/-- Where the value of an entry comes from. -/
inductive EntrySource where
  | env (source : String) (default : Option String)
  | literal (value : String)
  deriving DecidableEq

def EntrySource.kind : EntrySource → String
  | .env _ _ => "env"
  | .literal _ => "literal"

structure SchemaEntry where
  key : String
  source : EntrySource
  required : Bool
  secret : Bool
  deriving DecidableEq

/-- `_bounded_value` -/
def boundedValue (value : Json) (label : String) : Except String String :=
  match value with
  | .str value => do
    require (value.utf8ByteSize ≤ maxValueBytes) s!"{label} exceeds {maxValueBytes} bytes"
    require ('\x00' ∉ value.toList) s!"{label} contains a NUL byte"
    return value
  | _ => .error s!"{label} must be a string"

def keyField (value : Json) (message : String) : Except String String :=
  match value with
  | .str key => do
    require (isKey key = true) message
    return key
  | _ => .error message

def flag (value : Json) (key : String) : Except String Bool :=
  match value with
  | .bool b => .ok b
  | _ => .error s!"{key} secret and required fields must be boolean"

def defaultField (value : Json) (key : String) : Except String (Option String) :=
  match value with
  | .null => .ok none
  | value => (boundedValue value s!"{key} default").map some

/-- One entry of the schema, after the keys that came before it. -/
def normalizeEntry (keys : List String) : Json → Except String SchemaEntry
  | .obj raw => do
    let key ← keyField (Mapping.get raw "key") "entry key must be an uppercase environment variable name"
    require (key ∉ keys) s!"duplicate entry key: {key}"
    let hasEnv := (raw.lookup "env").isSome
    let hasLiteral := (raw.lookup "literal").isSome
    require (hasEnv ≠ hasLiteral) s!"{key} must define exactly one of env or literal"
    let secret ← flag (Mapping.getD raw "secret" (.bool hasEnv)) key
    let required ← flag (Mapping.getD raw "required" (.bool false)) key
    if hasEnv then do
      let source ← keyField (Mapping.get raw "env") s!"{key} env source must be an uppercase variable name"
      require (¬(secret = true ∧ (raw.lookup "default").isSome = true))
        s!"{key} secret entries must not embed defaults"
      let default ← defaultField (Mapping.get raw "default") key
      return ⟨key, .env source default, required, secret⟩
    else do
      require (secret = false) s!"{key} literal entries cannot be secret"
      let literal ← boundedValue (Mapping.get raw "literal") s!"{key} literal"
      return ⟨key, .literal literal, true, false⟩
  | _ => .error "every schema entry must be an object"

def normalizeSchema : Json → Except String (List SchemaEntry)
  | .obj data => do
    require ((Mapping.get data "version").eqOne = true) "schema must be an object with version 1"
    match Mapping.get data "entries" with
    | .arr entries => do
      require (1 ≤ entries.length ∧ entries.length ≤ maxEntries)
        s!"schema entries must contain 1-{maxEntries} items"
      gather (fun _ seen raw => normalizeEntry (seen.map (·.key)) raw) 0 [] entries
    | _ => .error s!"schema entries must contain 1-{maxEntries} items"
  | _ => .error "schema must be an object with version 1"

/-- The replacements of `_compose_quote`, in their order. -/
def quoteReplacements : List (Char × List Char) :=
  [('\\', ['\\', '\\']), ('"', ['\\', '"']), ('\r', ['\\', 'r']), ('\n', ['\\', 'n']),
    ('\t', ['\\', 't']), ('$', ['$', '$'])]

def composeQuote (value : String) : Except String (List Char) := do
  let value ← boundedValue (.str value) "environment value"
  return '"' :: (Text.replaceAll quoteReplacements value.toList ++ ['"'])

/-- The value of an entry, and whether it was there. -/
def entryValue (environment : String → Option String) (entry : SchemaEntry) :
    Except String (String × Bool) :=
  match entry.source with
  | .literal value => .ok (value, true)
  | .env source default =>
    -- an empty variable counts as a missing one
    match (environment source).filter (· ≠ ""), default with
    | some raw, _ => (boundedValue (.str raw) s!"environment source for {entry.key}").map (·, true)
    | none, some value => .ok (value, true)
    | none, none =>
      if entry.required then .error s!"required environment source is missing for {entry.key}"
      else .ok ("", false)

section

/- The hexadecimal digest of the UTF-8 bytes of a text. -/
variable (sha256 : String → String)

def entryMetadata (entry : SchemaEntry) (present : Bool) : Json :=
  .obj [("key", .str entry.key), ("key_sha256", .str (sha256 entry.key)),
    ("source_kind", .str entry.source.kind), ("required", .bool entry.required),
    ("secret", .bool entry.secret), ("present", .bool present)]

def renderEntry (environment : String → Option String) (entry : SchemaEntry) :
    Except String (List Char × Json) := do
  let (value, present) ← entryValue environment entry
  let quoted ← composeQuote value
  return (entry.key.toList ++ '=' :: quoted, entryMetadata sha256 entry present)

/-- `render_env` -/
def renderEnv (schema : Json) (environment : String → Option String) :
    Except String (List Char × List Json) := do
  let entries ← normalizeSchema schema
  let rendered ← entries.mapM (renderEntry sha256 environment)
  return (['\n'].intercalate (rendered.map Prod.fst) ++ ['\n'], rendered.map Prod.snd)

end

end OptimizrActions.EnvWriter
