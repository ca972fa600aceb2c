import OptimizrActions.Lib.Json
import OptimizrActions.Lib.Text

/-! The scan of the changed source files of a pull request. -/

namespace OptimizrActions.PrMetadata

open Text (occursIn)

structure ValidationFailure where
  stage : String
  message : String
  deriving DecidableEq

/-- The texts that `MOJIBAKE_RE` matches. -/
def mojibake : List (List Char) :=
  "ðŸ".toList :: "â€".toList :: (List.range 64).flatMap fun n =>
    [['Ã', Char.ofNat (0x80 + n)], ['Â', Char.ofNat (0x80 + n)]]

/-- The texts that `CORRUPT_PATH_RE` matches. -/
def corruptPath : List (List Char) :=
  ["\\origin/".toList, "\\assets/".toList, "\\release.yml".toList, "\\.releaserc".toList,
    "\\main\\".toList, "\\dev\\".toList]

def search (words : List (List Char)) (text : List Char) : Bool := words.any (occursIn · text)

def scanFileExtensions : List String :=
  [".ts", ".tsx", ".js", ".jsx", ".mjs", ".cjs", ".py", ".rb", ".go", ".rs", ".sh", ".bash", ".ps1",
    ".css", ".scss", ".html", ".vue", ".svelte", ".yml", ".yaml", ".json", ".toml", ".sql",
    ".graphql"]

def scanExcludedSuffixes : List String := ["lock.yaml", "lock.json", "lock.yml"]

/-- `os.path.splitext(name)[1]`: the dots in front of a name begin no extension. -/
def extension (name : List Char) : List Char :=
  match name.reverse.dropWhile (· ≠ '.') with
  | '.' :: before =>
    if before.all (· = '.') then [] else '.' :: (name.reverse.takeWhile (· ≠ '.')).reverse
  | _ => []

def isScannedSourcePath (path : String) : Bool :=
  let name := (path.toList.reverse.takeWhile (· ≠ '/')).reverse
  if scanExcludedSuffixes.any (fun suffix => suffix.toList.isSuffixOf name) then false
  else String.ofList ((extension name).flatMap Text.lowerChar) ∈ scanFileExtensions

/-- A line that is taken for an added one. -/
def isShown (line : List Char) : Bool := "+".toList.isPrefixOf line && !"+++".toList.isPrefixOf line

def addedText (patch : String) : List Char :=
  ['\n'].intercalate (((Text.splitLinesFrom [] patch.toList).filter isShown).map List.tail)

section Files

-- `str(value)` of a file name that is no text.
variable (str : Json → String)

def filename (item : Mapping) : String :=
  match item.get "filename" with
  | .str s => s
  | value => if value.truthy then str value else ""

def changedFile (item : Json) : List ValidationFailure :=
  match item with
  | .obj fields =>
    let item : Mapping := fields
    let path := filename str item
    if path = "" ∨ isScannedSourcePath path = false then []
    else
      match item.get "patch" with
      | .str patch =>
        if patch = "" then []
        else
          let added := addedText patch
          if added = [] then []
          else if search mojibake added then
            [⟨"changed files", s!"{path}: added lines contain mojibake sequences"⟩]
          else if search corruptPath added then
            [⟨"changed files", s!"{path}: added lines contain corrupted PowerShell paths"⟩]
          else []
      | _ => []
  | _ => []

def validateChangedFiles (files : List Json) : List ValidationFailure :=
  files.flatMap (changedFile str)

end Files

end OptimizrActions.PrMetadata
