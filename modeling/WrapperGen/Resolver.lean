import WrapperGen.Module

/-!
# Finding packages

A package is asked for by an import path or by the path of its directory.  The places where it
may be are tried in a fixed order, and the first directory that exists wins.

## Main definitions

* `inferImportPath?`: the import path of a directory.
* `Tier`, `Found`: where a package was found.
* `resolve`: the search, which gives the places that were tried if it fails.
-/

namespace WrapperGen

/-! ### Directories and import paths -/

/-- The nearest module at or above a directory, below the source root. -/
def enclosingModule? (tree : FileTree) (srcRoot dir : Path) : Option Module :=
  findModule? tree dir.normalize srcRoot

/-- The import path of a directory: by its place in its module or, outside of modules, by its
place under the source root. -/
def inferImportPath? (tree : FileTree) (srcRoot dir : Path) : Option String :=
  let dir := dir.normalize
  match enclosingModule? tree srcRoot dir with
  | some m =>
      (m.root.below? dir).map fun steps =>
        let names := Path.slashNames steps
        -- the module itself has no names behind its root
        if names.isEmpty then m.name else m.name ++ "/" ++ names
  | none =>
      match srcRoot.below? dir with
      | none => none
      | some steps =>
          let names := Path.slashNames steps
          if names.isEmpty then none else some names

/-! ### The search -/

/-- Where a package was found. -/
inductive Tier
  /-- In the module that encloses the working directory. -/
  | module
  /-- In the directory of that path. -/
  | directory
  /-- Among the packages kept beside a directory above the working directory. -/
  | vendor
  /-- Under the source root. -/
  | sourceRoot
  deriving DecidableEq, Repr, Inhabited

/-- How a tier is shown. -/
def Tier.text : Tier → String
  | .module => "module"
  | .directory => "directory"
  | .vendor => "vendor"
  | .sourceRoot => "source root"

/-- A package that was found. -/
structure Found where
  /-- The import path for generated code. -/
  importPath : String
  /-- The directory of the package. -/
  dir : Path
  /-- Where it was found. -/
  tier : Tier
  deriving DecidableEq, Repr, Inhabited

/-- Why a package was not found. -/
structure NotFound where
  /-- What was asked for. -/
  specifier : String
  /-- The places that were tried, in order. -/
  searched : List Path
  deriving DecidableEq, Repr, Inhabited

/-- The text for a package that was not found. -/
def NotFound.message (e : NotFound) : String :=
  "could not locate package \x60" ++ e.specifier ++ "\x60"

/-- Whether what is asked for is an import path and not the path of a directory. -/
def isLogical (specifier : String) : Bool :=
  match specifier.toList.head? with
  | none => false
  | some c => c != '.' && c != '/'

/-- A place to try: a directory, the tier it belongs to, and the import path that a package there
has, if it may be used. -/
structure Candidate where
  /-- The directory. -/
  dir : Path
  /-- The tier. -/
  tier : Tier
  /-- The import path. -/
  importPath? : Option String
  deriving DecidableEq, Repr, Inhabited

/-- The place in the module that encloses the working directory, if the module owns what is
asked for. -/
def moduleCandidate? (tree : FileTree) (srcRoot wd : Path) (specifier : String) :
    Option Candidate :=
  match enclosingModule? tree srcRoot wd with
  | none => none
  | some m =>
      (m.relative? specifier).map fun rest => ⟨m.directoryOf rest, .module, some specifier⟩

/-- The directories from the working directory up to the source root, which is left out; none
if the working directory is not under the source root. -/
def directoriesBelowRoot (srcRoot wd : Path) : List Path :=
  if wd.isAtOrBelow srcRoot then wd.ancestors.takeWhile (fun dir => !dir.sameSteps srcRoot)
  else []

/-- All places to try for what is asked for, in order. -/
def candidates (tree : FileTree) (srcRoot wd : Path) (specifier : String) : List Candidate :=
  let dir := wd.absolutize ⟨specifier⟩
  let asDirectory : Candidate := ⟨dir, .directory, inferImportPath? tree srcRoot dir⟩
  if isLogical specifier then
    -- the segments are joined as they are, so a `..` among them is not folded away
    let segments := slashSegments specifier
    (moduleCandidate? tree srcRoot wd specifier).toList
      ++ asDirectory
      :: (directoriesBelowRoot srcRoot wd).map (fun above =>
          ⟨(above.join ⟨"vendor"⟩).joinAll segments, .vendor, some specifier⟩)
      ++ [⟨srcRoot.joinAll segments, .sourceRoot, some specifier⟩]
  else [asDirectory]

/-- What is found at a place, if it is a directory and may be used. -/
def Candidate.found? (tree : FileTree) (c : Candidate) : Option Found :=
  if tree.isDirectory c.dir then c.importPath?.map fun path => ⟨path, c.dir, c.tier⟩ else none

/-- Find the package that is asked for, as seen from a working directory. -/
def resolve (tree : FileTree) (srcRoot wd : Path) (specifier : String) :
    Except NotFound Found :=
  let places := candidates tree srcRoot wd.normalize specifier
  match places.findSome? (Candidate.found? tree) with
  | some found => .ok found
  | none => .error ⟨specifier, places.map Candidate.dir⟩

end WrapperGen
