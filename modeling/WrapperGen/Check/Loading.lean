import WrapperGen.Check.Kinds
import WrapperGen.Context
import WrapperGen.SourceFiles

/-!
# Loading packages

A package is checked when it is asked for, and the packages that it needs are found and checked
on the way.  A package that is needed for its own check is an import cycle.

## Main definitions

* `Workspace`: the files and roots in which packages are found.
* `Workspace.locate`: the directory of a package.
* `Workspace.checkDirectory`, `Workspace.checkImport`: the package that consists of the files of a
  directory, or of the one that an import path leads to.
* `Workspace.loadPackage`: a package by its import path.
* `Workspace.checkPackage`: the package in a directory.
-/

namespace WrapperGen

open Source (File)

/-- The files and roots in which packages are found. -/
structure Workspace where
  /-- The files. -/
  tree : FileTree
  /-- The working directory, the roots and the platform. -/
  context : Context
  deriving DecidableEq, Inhabited

namespace Workspace

/-! ### Finding -/

/-- Whether an import path is one of the standard library: what stands in front of its first
slash is not empty and has no point. -/
def isStandardPath (importPath : String) : Bool :=
  let first := importPath.toList.takeWhile (· != '/')
  !first.isEmpty && !first.contains '.'

/-- The directory that a standard import path has under the root of the installation. -/
def standardDirectory? (w : Workspace) (importPath : String) : Option Path :=
  match w.context.standardRoot? with
  | none => none
  | some root =>
      let dir := root.join ⟨importPath⟩
      if isStandardPath importPath && w.tree.isDirectory dir then some dir else none

/-- The directory of a package: that of the standard library comes first. -/
def locate (w : Workspace) (importPath : String) : Except CheckError Path :=
  match w.standardDirectory? importPath with
  | some dir => .ok dir
  | none =>
      match resolve w.tree w.context.resolverRoot w.context.cwd importPath with
      | .ok found => .ok found.dir
      | .error cause => .error (.notFound cause)

/-! ### Names of packages -/

/-- The package name in the first source file of a directory. -/
def clauseIn? (w : Workspace) (dir : Path) : Option String :=
  match sourceFiles w.tree dir w.context.platform with
  -- the first file is enough: that all have one name is asked by `commonName`
  | .ok (first :: _) =>
      match w.tree.readText first with
      | .ok text => (File.ofText text).packageName?
      | .error _ => none
  | _ => none

/-- The package name of an import path, as far as it can be found. -/
def clause? (w : Workspace) (importPath : String) : Option String :=
  match w.locate importPath with
  | .ok dir => w.clauseIn? dir
  | .error _ => none

/-- The package name of an import path, which is read once in a session. -/
def packageName? (w : Workspace) (importPath : String) : Check (Option String) := do
  let session ← get
  match session.package? importPath with
  | some package => pure (some package.name)
  | none =>
      match session.names.lookup importPath with
      | some name? => pure name?
      | none => do
          let name? := w.clause? importPath
          modify fun session => session.learnName importPath name?
          pure name?

/-! ### Checking -/

/-- The files of some paths, all of which have to be well formed. -/
def readFiles (w : Workspace) : List Path → Except CheckError (List SourceFile)
  | [] => .ok []
  | path :: rest =>
      match w.tree.readText path with
      | .error cause => .error (.unreadable path cause)
      | .ok text =>
          let file := SourceFile.ofText path text
          -- a file is used only as a whole, though its front may be well formed
          if file.content.complete then
            match w.readFiles rest with
            | .error cause => .error cause
            | .ok more => .ok (file :: more)
          else .error (.malformed path)

/-- The files of a directory, of which there has to be one. -/
def filesIn (w : Workspace) (dir : Path) : Except CheckError (List SourceFile) :=
  match sourceFiles w.tree dir w.context.platform with
  | .error cause => .error (.unreadable dir cause)
  | .ok [] => .error (.noSources dir)
  | .ok paths => w.readFiles paths

/-- The package name of each of some files. -/
def clauses : List SourceFile → Except CheckError (List (String × SourceFile))
  | [] => .ok []
  | file :: rest =>
      match file.content.packageName? with
      | none => .error (.missingClause file.path)
      | some name =>
          match clauses rest with
          | .error cause => .error cause
          | .ok more => .ok ((name, file) :: more)

/-- The package name that some files, taken from `dir`, have in common. -/
def commonName (dir : Path) (files : List SourceFile) : Except CheckError String :=
  match clauses files with
  | .error cause => .error cause
  | .ok [] => .error (.noSources dir)
  | .ok ((name, file) :: rest) =>
      match rest.find? (·.1 != name) with
      | none => .ok name
      | some (other, otherFile) =>
          .error (.mixedPackages name file.shortName other otherFile.shortName)

/-- The package that consists of the files of a directory. -/
def checkDirectory (w : Workspace) (importer : Importer) (dir : Path) (importPath : String) :
    Check CheckedPackage := do
  let files ← w.filesIn dir
  let name ← commonName dir files
  let scope := PackageScope.ofFiles importPath files
  let declarations ← scope.declarations importer
  let constants ← exportedConstants scope
  pure ⟨name, importPath, declarations, constants⟩

/-- The package of an import path, which is found first. -/
def checkImport (w : Workspace) (importer : Importer) (importPath : String) :
    Check CheckedPackage := do
  let dir ← w.locate importPath
  w.checkDirectory importer dir importPath

/-- The package of an import path, which is checked once in a session.  At most `depth` packages
may be entered on the way. -/
def loadPackage (w : Workspace) : Nat → String → Check CheckedPackage
  | depth, importPath => do
      let session ← get
      match session.package? importPath with
      | some package => pure package
      | none =>
          match depth with
          -- the packages that are being loaded differ, so `importer` never gets here
          | 0 => throw (.importCycle importPath)
          | depth + 1 =>
              if session.loading.contains importPath then throw (.importCycle importPath)
              else
                Check.learning importPath (Check.whileLoading importPath
                  (w.checkImport ⟨w.loadPackage depth, w.packageName?⟩ importPath))

/-- A bound on how many import paths stand in the texts among some entries.  A text of `n`
characters has no more than `n` tokens, so it has no more than `n + 1` parts, and none of these has
more than `n + 2` imports. -/
def boundOfTexts : List (Location × Entry) → Nat
  | [] => 0
  | (_, .file (.text value) _) :: rest =>
      (value.length + 1) * (value.length + 2) + boundOfTexts rest
  | _ :: rest => boundOfTexts rest

/-- A bound on how many import paths there are in the tree. -/
def importBound (w : Workspace) : Nat := boundOfTexts w.tree.entries

/-- The other packages, as seen from a package that is not loaded by its import path. -/
def importer (w : Workspace) : Importer := ⟨w.loadPackage w.importBound, w.packageName?⟩

/-- The package in a directory, under the given import path. -/
def checkPackage (w : Workspace) (dir : Path) (importPath : String) : Check CheckedPackage :=
  Check.learning importPath (w.checkDirectory w.importer dir importPath)

end Workspace

end WrapperGen
