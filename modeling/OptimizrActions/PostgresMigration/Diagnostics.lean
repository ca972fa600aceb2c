import OptimizrActions.Lib.Check
import OptimizrActions.Lib.Fresh
import OptimizrActions.Lib.JsonText
import OptimizrActions.Lib.KeyValue
import Std.Data.String.ToNat

/-! Diagnostics of a PostgreSQL migration: a name and a digest for each verified component. -/

namespace OptimizrActions.PostgresMigration

structure Component where
  name : String
  sha256 : String
  deriving DecidableEq, Repr

structure Manifest where
  side : String
  sha256 : String
  components : List Component
  deriving DecidableEq, Repr

def isAlphanumeric (c : Char) : Bool :=
  ('A' ≤ c && c ≤ 'Z') || ('a' ≤ c && c ≤ 'z') || ('0' ≤ c && c ≤ '9')

def isComponentChar (c : Char) : Bool := isAlphanumeric c || c ∈ ['_', '.', '-']

/-- `_SAFE_COMPONENT` -/
def isSafeComponent (name : String) : Bool := Text.isBounded isAlphanumeric isComponentChar 63 name

def suffixed (candidate : String) (suffix : Nat) : String := s!"{candidate}_{suffix}"

theorem suffixed_injective (candidate : String) : Function.Injective (suffixed candidate) := by
  intro a b same
  have digits : Nat.toDigits 10 a = Nat.toDigits 10 b := by
    have lists := congrArg String.toList same
    simpa [suffixed, Nat.repr] using lists
  exact Nat.repr_injective (congrArg String.ofList digits)

/-- The name of the pair before it is made unique. -/
def candidateName (rawName : String) (index : Nat) : String :=
  if isSafeComponent (Text.strip rawName) then Text.strip rawName else s!"component_{index}"

/-- `_safe_component_name` -/
def safeComponentName (rawName : String) (index : Nat) (used : List String) : String :=
  let candidate := candidateName rawName index
  if candidate ∉ used then candidate
  else suffixed candidate (firstFree (suffixed_injective candidate) used 2)

section

/- `json.loads`, `none` where it raises; `_json_value`; `str(value)` of a value that is not text; the
digest of a text in UTF-8. -/
variable (loads : String → Option Json) (jsonValue : Json → String) (str : Json → String)
  (sha256 : String → String)

def text : Json → String
  | .str s => s
  | value => str value

/-- An object that has a name and a value. -/
def namedValue : Json → Option (String × String)
  | .obj item => do
    let name ← item.lookup "name"
    let value ← item.lookup "value"
    return (text str name, jsonValue value)
  | _ => none

def lineName (index : Nat) : String := s!"verification_{index}"

def linePairs : Nat → List String → List (String × String)
  | _, [] => []
  | index, line :: rest =>
    (if '\t' ∈ line.toList then
      (String.ofList (KeyValue.cut '\t' line.toList).1, String.ofList (KeyValue.cut '\t' line.toList).2)
    else (lineName index, line)) :: linePairs (index + 1) rest

def textPairs (text : String) : List (String × String) :=
  match Text.splitLines text with
  | [line] => if '\t' ∉ line.toList then [("verification", line)] else linePairs 1 [line]
  | lines => linePairs 1 lines

/-- `_verification_pairs` -/
def verificationPairs (rawOutput : String) : List (String × String) :=
  let stripped := Text.strip rawOutput
  if stripped = "" then []
  else match loads stripped with
    | some (.obj fields) =>
      (fields.insertionSort (·.1 ≤ ·.1)).map fun field => (field.1, jsonValue field.2)
    | some (.arr items) => (items.mapM (namedValue jsonValue str)).getD (textPairs stripped)
    | _ => textPairs stripped

def nameComponents : Nat → List String → List (String × String) → List Component
  | _, _, [] => []
  | index, used, (rawName, value) :: rest =>
    let name := safeComponentName rawName index used
    ⟨name, sha256 value⟩ :: nameComponents (index + 1) (name :: used) rest

def buildComponentManifest (rawOutput side overallSha256 : String) : Except String Manifest := do
  require (side ∈ ["source", "target"]) "side must be source or target"
  require (overallSha256.length = 64 ∧ overallSha256.toList.all Text.isLowerHex = true)
    "overall_sha256 must be a lowercase SHA-256 digest"
  let components := nameComponents sha256 1 [] (verificationPairs loads jsonValue str rawOutput)
  return ⟨side, overallSha256, components.insertionSort (·.name ≤ ·.name)⟩

end

end OptimizrActions.PostgresMigration
