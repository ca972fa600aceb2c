import Mathlib.Data.List.Basic

/-! Paths and what `pathlib` reports of them. -/

namespace OptimizrActions.Delivery

/-- A `Path`: its names, below the anchor when it is absolute. -/
structure RawPath where
  absolute : Bool
  parts : List String
  deriving DecidableEq, Repr

/-- What one host's file system answers, paths being absolute; `none` is an `OSError`. -/
structure FileSystem where
  cwd : List String
  isSymlink : List String → Option Bool
  isDir : List String → Option Bool
  /-- `resolve(strict=True)` -/
  resolve : List String → Option (List String)
  /-- `resolve(strict=False)` -/
  resolveMissing : List String → Option (List String)

namespace FileSystem

variable (fs : FileSystem)

/-- `_absolute` -/
def absolute (path : RawPath) : List String :=
  if path.absolute then path.parts else fs.cwd ++ path.parts

/-- Some component of the path, the path itself among them, is a symlink. -/
def anySymlink (path : List String) : Option Bool :=
  path.inits.tail.foldlM (fun found current => if found then some true else fs.isSymlink current)
    false

end FileSystem

end OptimizrActions.Delivery
