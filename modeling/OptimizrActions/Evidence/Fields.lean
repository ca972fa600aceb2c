import OptimizrActions.Lib.Check
import OptimizrActions.Lib.Host
import OptimizrActions.Lib.Json
import OptimizrActions.Lib.KeyValue

/-! Checks of the fields of an evidence record. -/

namespace OptimizrActions.Evidence

def conclusions : List String := ["success", "failure", "cancelled", "skipped"]

/-- `CONCLUSIONS - {"skipped"}` -/
def bundleConclusions : List String := ["success", "failure", "cancelled"]

def results : List String := ["passed", "failed"]

/-- The regular expression `SHA`. -/
def isSha (s : String) : Bool :=
  Text.hexText Text.isLowerHex 40 s.toList || Text.hexText Text.isLowerHex 64 s.toList

def isSha256 (s : String) : Bool := Text.hexText Text.isLowerHex 64 s.toList

/-- `(?:sha256:)?[0-9a-f]{64}` -/
def isArtifactSha256 (s : String) : Bool := isSha256 s || Text.sha256Text Text.isLowerHex s

def isRepositoryChar (c : Char) : Bool := c.isAlphanum || c = '_' || c = '.' || c = '-'

def isRepository (s : String) : Bool :=
  let (owner, name) := KeyValue.cut '/' s.toList
  owner ≠ [] && owner.all isRepositoryChar && s.toList.contains '/' && name ≠ [] &&
    name.all isRepositoryChar

def isControl (c : Char) : Bool := c.toNat < 0x20 || c.toNat = 0x7f

def requiredText (value : Json) (label : String) : Except String String :=
  match value with
  | .str s => do
    require (Text.strip s ≠ "" ∧ s = Text.strip s) s!"{label} must be a non-empty trimmed string"
    require (s.toList.all fun c => !isControl c) s!"{label} must not contain control characters"
    return s
  | _ => .error s!"{label} must be a non-empty trimmed string"

def validateRepository (value : Json) (label : String) : Except String String := do
  let value ← requiredText value label
  require (isRepository value = true) s!"{label} must use owner/repository form"
  return value

def validateSha (value : Json) (label : String) : Except String String := do
  let value ← requiredText value label
  require (isSha value = true) s!"{label} must be a full lowercase Git SHA"
  return value

/-- The parts of `PurePosixPath(value)`, the root apart. -/
def pathParts (value : String) : List String :=
  ((KeyValue.splitOn '/' value.toList).filter fun part => part ≠ [] && part ≠ ['.']).map
    String.ofList

/-- `as_posix()` of a relative path. -/
def posix (parts : List String) : String :=
  if parts = [] then "." else String.ofList (['/'].intercalate (parts.map String.toList))

def isSafePath (value : String) : Bool :=
  value.toList.head? ≠ some '/' && !value.toList.contains '\\' && !(pathParts value).contains ".." &&
    value.toList.head? ≠ some '~'

def validateRelativePath (value : Json) (label : String) : Except String String := do
  let value ← requiredText value label
  require (isSafePath value = true) s!"{label} must be a safe relative path"
  return posix (pathParts value)

/-- `isdecimal()` and `int(value) >= 1`; text that `int` does not take is not accepted either. -/
def isRunNumber (value : String) : Bool :=
  value ≠ "" && value.toList.all (fun c => (Text.decimal? c).isSome) &&
    (Text.natText? value.toList).any (1 ≤ ·)

def validateRunNumber (value : Json) (label : String) : Except String String := do
  let value ← requiredText (match value with
    | .int n => .str (toString n)
    | .bool b => .str (if b then "True" else "False")
    | other => other) label
  require (isRunNumber value = true) s!"{label} must be a positive decimal number"
  return value

/-- Text without blanks at its ends and without control characters. -/
structure IsRequiredText (s : String) : Prop where
  nonempty : Text.strip s ≠ ""
  trimmed : s = Text.strip s
  printable : (s.toList.all fun c => !isControl c) = true

theorem requiredText_eq_ok {value : Json} {label s : String} :
    requiredText value label = .ok s ↔ value = .str s ∧ IsRequiredText s := by
  cases value with
  | str text =>
    simp only [requiredText, bind_eq_ok, require_eq_ok, pure_eq_ok, Json.str.injEq]
    constructor
    · rintro ⟨_, ⟨nonempty, trimmed⟩, _, printable, rfl⟩
      exact ⟨rfl, nonempty, trimmed, printable⟩
    · rintro ⟨rfl, h⟩
      exact ⟨⟨⟩, ⟨h.nonempty, h.trimmed⟩, ⟨⟩, h.printable, rfl⟩
  | _ => simp [requiredText]

theorem validateRepository_eq_ok {value : Json} {label s : String} :
    validateRepository value label = .ok s ↔
      value = .str s ∧ IsRequiredText s ∧ isRepository s = true := by
  simp only [validateRepository, bind_eq_ok, require_eq_ok, pure_eq_ok, requiredText_eq_ok]
  constructor
  · rintro ⟨_, ⟨rfl, text⟩, _, form, rfl⟩
    exact ⟨rfl, text, form⟩
  · rintro ⟨rfl, text, form⟩
    exact ⟨s, ⟨rfl, text⟩, ⟨⟩, form, rfl⟩

theorem validateSha_eq_ok {value : Json} {label s : String} :
    validateSha value label = .ok s ↔ value = .str s ∧ IsRequiredText s ∧ isSha s = true := by
  simp only [validateSha, bind_eq_ok, require_eq_ok, pure_eq_ok, requiredText_eq_ok]
  constructor
  · rintro ⟨_, ⟨rfl, text⟩, _, form, rfl⟩
    exact ⟨rfl, text, form⟩
  · rintro ⟨rfl, text, form⟩
    exact ⟨s, ⟨rfl, text⟩, ⟨⟩, form, rfl⟩

theorem validateRelativePath_eq_ok {value : Json} {label path : String} :
    validateRelativePath value label = .ok path ↔ ∃ s, value = .str s ∧ IsRequiredText s ∧
      isSafePath s = true ∧ path = posix (pathParts s) := by
  simp only [validateRelativePath, bind_eq_ok, require_eq_ok, pure_eq_ok, requiredText_eq_ok]
  constructor
  · rintro ⟨s, ⟨rfl, text⟩, _, safe, rfl⟩
    exact ⟨s, rfl, text, safe, rfl⟩
  · rintro ⟨s, rfl, text, safe, rfl⟩
    exact ⟨s, ⟨rfl, text⟩, ⟨⟩, safe, rfl⟩

theorem validateRunNumber_eq_ok {s text label : String} :
    validateRunNumber (.str s) label = .ok text ↔
      s = text ∧ IsRequiredText s ∧ isRunNumber s = true := by
  simp only [validateRunNumber, bind_eq_ok, require_eq_ok, pure_eq_ok, requiredText_eq_ok,
    Json.str.injEq]
  constructor
  · rintro ⟨_, ⟨rfl, required⟩, _, form, rfl⟩
    exact ⟨rfl, required, form⟩
  · rintro ⟨rfl, required, form⟩
    exact ⟨s, ⟨rfl, required⟩, ⟨⟩, form, rfl⟩

theorem validateRunNumber_ok {value : Json} {label text : String}
    (h : validateRunNumber value label = .ok text) :
    (value = .str text ∨ ∃ n, value = .int n) ∧ IsRequiredText text ∧ isRunNumber text = true := by
  cases value with
  | str s =>
    obtain ⟨rfl, valid⟩ := validateRunNumber_eq_ok.mp h
    exact ⟨.inl rfl, valid⟩
  | int n =>
    change validateRunNumber (.str (toString n)) label = .ok text at h
    obtain ⟨rfl, valid⟩ := validateRunNumber_eq_ok.mp h
    exact ⟨.inr ⟨n, rfl⟩, valid⟩
  | bool b =>
    change validateRunNumber (.str (if b then "True" else "False")) label = .ok text at h
    obtain ⟨rfl, -, number⟩ := validateRunNumber_eq_ok.mp h
    cases b <;> exact absurd number (by decide)
  | _ =>
    simp only [validateRunNumber, bind_eq_ok, requiredText_eq_ok] at h
    obtain ⟨_, ⟨⟨⟩, -⟩, -⟩ := h

/-- A name that a directory can hold. -/
def IsName (name : String) : Prop :=
  name ≠ "" ∧ name ≠ "." ∧ name ≠ ".." ∧ '/' ∉ name.toList

instance (name : String) : Decidable (IsName name) := inferInstanceAs (Decidable (_ ∧ _))

theorem pathParts_posix {path : List String} (nonempty : path ≠ [])
    (names : ∀ name ∈ path, IsName name) : pathParts (posix path) = path := by
  have split : KeyValue.splitOn '/' (posix path).toList = path.map String.toList := by
    rw [posix, if_neg nonempty, String.toList_ofList]
    refine KeyValue.splitOn_intercalate (by simpa using nonempty) fun part mem => ?_
    obtain ⟨name, inPath, rfl⟩ := List.mem_map.mp mem
    exact (names name inPath).2.2.2
  have kept : (path.map String.toList).filter (fun part => part ≠ [] && part ≠ ['.']) =
      path.map String.toList := by
    refine List.filter_eq_self.mpr fun part mem => ?_
    obtain ⟨name, inPath, rfl⟩ := List.mem_map.mp mem
    obtain ⟨some, notDot, -⟩ := names name inPath
    have some : name.toList ≠ [] := fun empty => some (String.toList_injective empty)
    have notDot : name.toList ≠ ['.'] := fun dot => notDot (String.toList_injective dot)
    simp [some, notDot]
  rw [pathParts, split, kept, List.map_map]
  simp

theorem posix_injective {path path' : List String} (nonempty : path ≠ [])
    (names : ∀ name ∈ path, IsName name) (nonempty' : path' ≠ [])
    (names' : ∀ name ∈ path', IsName name) (same : posix path = posix path') : path = path' := by
  rw [← pathParts_posix nonempty names, same, pathParts_posix nonempty' names']

end OptimizrActions.Evidence
