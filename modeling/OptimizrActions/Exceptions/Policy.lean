import OptimizrActions.Lib.Calendar
import OptimizrActions.Lib.Gather
import OptimizrActions.Lib.Host
import Mathlib.Data.List.Dedup
import Mathlib.Data.List.Sort

/-! Vulnerability exceptions: the validator that reviews a whole policy and the
renderer that hands a scan its part of it. -/

namespace OptimizrActions.Exceptions

open Calendar

structure Date where
  year : Nat
  month : Nat
  day : Nat
  valid : validFields year month day 0 0 0 0 = true
  deriving DecidableEq

namespace Date

def fields (d : Date) : List Nat := [d.year, d.month, d.day]

instance : LT Date := ⟨fun a b => a.fields < b.fields⟩

instance (a b : Date) : Decidable (a < b) := inferInstanceAs (Decidable (a.fields < b.fields))

def isoformat (d : Date) : String :=
  String.ofList
    [digit (d.year / 1000), digit (d.year / 100 % 10), digit (d.year / 10 % 10), digit (d.year % 10),
      '-', digit (d.month / 10), digit (d.month % 10), '-', digit (d.day / 10), digit (d.day % 10)]

end Date

inductive ScanType where
  | fs | image
  deriving DecidableEq, Repr

def ScanType.text : ScanType → String
  | .fs => "fs"
  | .image => "image"

def scanType? (text : String) : Option ScanType :=
  [ScanType.fs, .image].find? (·.text = text)

/-- A pattern character under `re.IGNORECASE`: the long s also matches `s`. -/
def matchesIgnoringCase (pattern c : Char) : Bool :=
  Text.lowerChar c = [pattern] || pattern = 's' && c.toNat = 0x17f

/-- A full match against one character class after another. -/
def fullmatch : List (Char → Bool) → List Char → Bool
  | [], [] => true
  | accepts :: classes, c :: cs => accepts c && fullmatch classes cs
  | _, _ => false

def imageDigestClasses : List (Char → Bool) :=
  "sha256:".toList.map matchesIgnoringCase ++ List.replicate 64 Text.isHex

/-- `sha256:` and 64 hexadecimal digits, in any letter case. -/
def isImageDigest (s : String) : Bool := fullmatch imageDigestClasses s.toList

/-- The digest pattern on text that is its own lower case. -/
def isLowerImageDigest (s : String) : Bool := isImageDigest s && s = Text.lower s

def entryLabel (index : Nat) : String := "vulnerabilities[" ++ toString index ++ "]"

def strippedText? : Json → Option String
  | .str s => if Text.strip s = "" then none else some (Text.strip s)
  | _ => none

def requireText (entry : Mapping) (field : String) (index : Nat) : Except String String :=
  match strippedText? (entry.get field) with
  | some text => .ok text
  | none => .error (entryLabel index ++ "." ++ field ++ " is required")

/-- The stripped items of an array of non-empty texts, or of the default when the
field is absent. -/
def textArray (entry : Mapping) (field : String) (default : List String) (index : Nat) :
    Except String (List String) :=
  match entry.getD field (.arr (default.map .str)) with
  | .arr items =>
    match items.mapM strippedText? with
    | some texts => .ok texts
    | none => .error (entryLabel index ++ "." ++ field ++ " must be a string array")
  | _ => .error (entryLabel index ++ "." ++ field ++ " must be a string array")

def stringList (entry : Mapping) (field : String) (index : Nat) : Except String (List String) :=
  textArray entry field [] index

/-- `sorted({value.lower() for value in values})` -/
def lowerSet (values : List String) : List String :=
  (values.map Text.lower).dedup.insertionSort (· ≤ ·)

def digestList (entry : Mapping) (field : String) (index : Nat) : Except String (List String) := do
  let values ← stringList entry field index
  require (values.all isImageDigest)
    (entryLabel index ++ "." ++ field ++ " must contain full sha256 digests")
  pure (lowerSet values)

def scanTypes (entry : Mapping) (index : Nat) : Except String (List ScanType) := do
  let texts ← textArray entry "scan_types" ["image"] index
  match texts.mapM scanType? with
  | some (scanType :: rest) => .ok (scanType :: rest)
  | _ => .error (entryLabel index ++ ".scan_types must contain fs or image")

/-- A file as `is_file` and `read_bytes` see it. -/
structure Document where
  path : String
  isFile : Bool
  bytes : List UInt8

def loadExceptionEntries (host : Host) (source : Document) : Except String (List Json) := do
  require source.isFile ("exception policy is missing: " ++ source.path)
  match host.loads source.bytes with
  | none => .error ("exception policy is not valid JSON: " ++ source.path)
  | some (.obj raw) => do
    require (Mapping.get raw "version").eqOne "exception policy version must be 1"
    match Mapping.get raw "vulnerabilities" with
    | .arr entries => .ok entries
    | _ => .error "exception policy vulnerabilities must be an array"
  | some _ => .error "exception policy version must be 1"

/-- A text file, decoded. -/
structure TextFile where
  path : String
  isFile : Bool
  text : String

def loadActiveImageIds (file : TextFile) : Except String (List String) := do
  require file.isFile ("active image ID file is missing: " ++ file.path)
  let values := Text.splitLines file.text
  require (values ≠ []) "active image ID set must not be empty"
  require (values.all fun value => value ≠ "" ∧ value = Text.strip value)
    "active image ID set contains malformed values"
  require (values.all isLowerImageDigest)
    "active image ID set contains invalid values; expected full lowercase sha256 IDs"
  require values.Nodup "active image ID set contains a duplicate active image ID"
  pure values

def checkImageRefs (imageRefs active : List String) : Except String Unit := do
  require (imageRefs ≠ []) "image_refs must contain the complete active image set"
  require (imageRefs.all isLowerImageDigest)
    "image_refs must contain full immutable sha256 image IDs"
  require imageRefs.Nodup "image_refs contains a duplicate immutable image ID"
  require (active ⊆ imageRefs ∧ imageRefs ⊆ active)
    "active image ID file must match the complete image_refs set"

section

/- `date.fromisoformat`; the accepted forms differ between Python versions. -/
variable (fromisoformat : String → Option Date)

def expiry (text : String) (index : Nat) : Except String Date :=
  match fromisoformat text with
  | some expires => .ok expires
  | none => .error (entryLabel index ++ ".expires must use YYYY-MM-DD")

def notExpired (expires today : Date) (id text : String) (index : Nat) : Except String Unit :=
  require (¬expires < today) (entryLabel index ++ " " ++ id ++ " expired on " ++ text)

/-- What makes two exceptions duplicates. -/
structure Identity where
  id : String
  expires : String
  scanTypes : List String
  targets : List String
  lineageDigests : List String
  paths : List String
  purls : List String
  deriving DecidableEq

def sorted (values : List String) : List String := values.insertionSort (· ≤ ·)

/-- The scope rules of an exception that applies to images. -/
def checkImageScope (active targets lineage paths purls : List String) (index : Nat) :
    Except String Unit := do
  require (targets ≠ [] ∨ lineage ≠ [])
    (entryLabel index ++ " must scope the exception by targets or lineage_digests")
  require (targets.all isLowerImageDigest)
    (entryLabel index ++ ".targets must contain full lowercase sha256 image IDs")
  require (targets ⊆ active)
    (entryLabel index ++ " targets image IDs outside the exact active image set")
  require (paths ≠ [] ∨ purls ≠ []) (entryLabel index ++ " must be narrowed by path or purl")
  require (lineage ≠ [] → purls ≠ [])
    (entryLabel index ++ ".purls is required for lineage-scoped exceptions")

def checkScope (types : List ScanType) (active targets lineage paths purls : List String)
    (index : Nat) : Except String Unit :=
  if .image ∈ types then checkImageScope active targets lineage paths purls index
  else require (targets = [] ∧ lineage = [])
    (entryLabel index ++ " filesystem-only exceptions must not target image IDs")

def validateEntry (active : List String) (today : Date) (index : Nat) :
    Json → Except String Identity
  | .obj item => do
    let id ← requireText item "id" index
    let _ ← requireText item "owner" index
    let _ ← requireText item "statement" index
    let _ ← requireText item "compensating_control" index
    let text ← requireText item "expires" index
    let expires ← expiry fromisoformat text index
    require (expires.isoformat = text) (entryLabel index ++ ".expires must use YYYY-MM-DD")
    notExpired expires today id text index
    let types ← scanTypes item index
    require types.Nodup (entryLabel index ++ " " ++ id ++ " contains duplicate scan types")
    let targets ← stringList item "targets" index
    let lineage ← digestList item "lineage_digests" index
    let paths ← stringList item "paths" index
    let purls ← stringList item "purls" index
    checkScope types active targets lineage paths purls index
    require (.fs ∈ types → paths ≠ [])
      (entryLabel index ++ " " ++ id ++ " filesystem exceptions must target paths")
    pure
      { id, expires := expires.isoformat, scanTypes := sorted (types.map (·.text))
        targets := sorted targets, lineageDigests := sorted lineage, paths := sorted paths
        purls := sorted purls }
  | _ => .error (entryLabel index ++ " must be an object")

def validateFresh (active : List String) (today : Date) (index : Nat) (seen : List Identity)
    (item : Json) : Except String Identity := do
  let identity ← validateEntry fromisoformat active today index item
  require (identity ∉ seen) ("duplicate exception: " ++ identity.id)
  pure identity

/-- The validator, given how the entries are read. -/
def validatePolicy (entries : Except String (List Json)) (activeImageIds : TextFile)
    (imageRefs : List String) (today : Date) : Except String Nat := do
  let active ← loadActiveImageIds activeImageIds
  checkImageRefs imageRefs active
  let entries ← entries
  let _ ← gather (validateFresh fromisoformat active today) 0 [] entries
  pure entries.length

def validateCompleteExceptionPolicy (host : Host) (source : Document) (activeImageIds : TextFile)
    (imageRefs : List String) (today : Date) : Except String Nat :=
  validatePolicy fromisoformat (loadExceptionEntries host source) activeImageIds imageRefs today

/-! ### The renderer -/

structure Rendered where
  id : String
  expiredAt : String
  statement : String
  paths : List String
  purls : List String
  deriving DecidableEq, Repr

/-- The entry as written: empty scopes are left out. -/
def Rendered.toJson (r : Rendered) : Json :=
  .obj ([("id", .str r.id), ("expired_at", .str r.expiredAt), ("statement", .str r.statement)] ++
    (if r.paths = [] then [] else [("paths", .arr (r.paths.map .str))]) ++
    (if r.purls = [] then [] else [("purls", .arr (r.purls.map .str))]))

/-- The summary returned and the policy written for the scan. -/
structure Rendering where
  source : String
  policySha256 : String
  activeExceptions : Nat
  target : String
  scanType : String
  lineageDigests : List String
  matchedLineageDigests : List String
  vulnerabilities : List Rendered

/-- One entry: what is rendered and which lineage digests it matched, or nothing
when the entry is out of scope. -/
def renderEntry (today : Date) (target : String) (scanType : ScanType) (lineage : List String)
    (index : Nat) : Json → Except String (Option (Rendered × List String))
  | .obj item => do
    let id ← requireText item "id" index
    let owner ← requireText item "owner" index
    let statement ← requireText item "statement" index
    let control ← requireText item "compensating_control" index
    let text ← requireText item "expires" index
    let expires ← expiry fromisoformat text index
    notExpired expires today id text index
    let types ← scanTypes item index
    if scanType ∉ types then pure none
    else do
      let targets ← stringList item "targets" index
      let exceptionLineage ← digestList item "lineage_digests" index
      let paths ← stringList item "paths" index
      let purls ← stringList item "purls" index
      require (¬(scanType = .image ∧ targets = [] ∧ exceptionLineage = []))
        (entryLabel index ++ " must scope the exception by targets or lineage_digests")
      require (¬(scanType = .fs ∧ paths = []))
        (entryLabel index ++ " " ++ id ++ " filesystem exceptions must target paths")
      require (exceptionLineage ≠ [] → purls ≠ [])
        (entryLabel index ++ ".purls is required for lineage-scoped exceptions")
      let matching := exceptionLineage.filter (· ∈ lineage)
      if scanType = .image ∧ target ∉ targets ∧ "*" ∉ targets ∧ matching = [] then pure none
      else pure (some
        ({ id, expiredAt := expires.isoformat ++ "T23:59:59Z"
           statement := statement ++ "; owner=" ++ owner ++ "; control=" ++ control
           paths, purls }, matching))
  | _ => .error (entryLabel index ++ " must be an object")

def renderEntries (today : Date) (target : String) (scanType : ScanType) (lineage : List String) :
    Nat → List Json → Except String (List (Rendered × List String))
  | _, [] => .ok []
  | index, item :: rest => do
    let rendered ← renderEntry fromisoformat today target scanType lineage index item
    let later ← renderEntries today target scanType lineage (index + 1) rest
    pure (rendered.toList ++ later)

/-- The output path is writable: the file system beneath it is not part of the policy. -/
def renderExceptionPolicy (host : Host) (source : Document) (target scanType : String)
    (today : Date) (lineageDigests : List String) : Except String Rendering := do
  match scanType? scanType with
  | none => .error "scan_type must be fs or image"
  | some kind => do
    let entries ← loadExceptionEntries host source
    let lineage := lowerSet lineageDigests
    require (lineage.all isImageDigest) "lineage_digests must contain full sha256 digests"
    let rendered ← renderEntries fromisoformat today target kind lineage 0 entries
    pure
      { source := source.path, policySha256 := host.sha256Hex source.bytes
        activeExceptions := rendered.length, target, scanType, lineageDigests := lineage
        matchedLineageDigests := (rendered.flatMap (·.2)).dedup.insertionSort (· ≤ ·)
        vulnerabilities := rendered.map (·.1) }

end

end OptimizrActions.Exceptions
