import WrapperGen.Check.Session
import WrapperGen.Name
import WrapperGen.Source.File

/-!
# Scopes

A file has names for the packages that it imports.  A package has names for the types and the
constants that its files declare; of two declarations of one name the first counts.

## Main definitions

* `FileScope`: the names that a file has for packages.
* `SourceFile`: a file of a package.
* `PackageScope`: the names that a package declares.
* `FileScope.importPath?`: the package that a name stands for in a file.
-/

namespace WrapperGen

open Source

/-! ### Names for packages -/

/-- The import path of foreign code. -/
def foreignPath : String := "C"

/-- The names that a file has for packages. -/
structure FileScope where
  /-- Names and import paths; of two entries with one name the first counts. -/
  names : List (String × String)
  /-- The import paths without a name of their own in the file, in order. -/
  unnamed : List String
  /-- Whether foreign code is imported. -/
  foreign : Bool
  /-- Whether all names of some package are to stand bare. -/
  hasDotImport : Bool
  deriving DecidableEq, Inhabited

namespace FileScope

/-- The scope of a file without imports. -/
def empty : FileScope := ⟨[], [], false, false⟩

/-- The scope with one more import.  Without a name the package is known by the name that its
path suggests, until that turns out to be none. -/
def addImport (s : FileScope) (spec : ImportSpec) : FileScope :=
  match spec.name with
  | .dot => { s with hasDotImport := true }
  | .blank => s
  | .name text => { s with names := (text, spec.path) :: s.names }
  -- the guess may be given to another path later on, so the path is kept as unnamed too
  | .own =>
      if spec.path == foreignPath then { s with foreign := true }
      else
        { s with
          names := (guessPackageName spec.path, spec.path) :: s.names
          unnamed := s.unnamed ++ [spec.path] }

/-- The scope of a file with the given imports. -/
def ofImports (specs : List ImportSpec) : FileScope := specs.foldl addImport empty

/-- Whether a qualifier stands for foreign code. -/
def isForeign (s : FileScope) (qualifier : String) : Bool :=
  s.foreign && qualifier == foreignQualifier

/-- The first of some packages that has the given name. -/
def firstNamed (importer : Importer) (name : String) : List String → Check (Option String)
  | [] => pure none
  | importPath :: rest => do
      if (← importer.name? importPath) = some name then pure (some importPath)
      else firstNamed importer name rest

/-- The import path that a name stands for. -/
def importPath? (s : FileScope) (importer : Importer) (name : String) : Check (Option String) :=
  match s.names.lookup name with
  | some importPath => pure (some importPath)
  | none => firstNamed importer name s.unnamed

end FileScope

/-! ### Names for types and constants -/

/-- A file of a package. -/
structure SourceFile where
  /-- The path of the file. -/
  path : Path
  /-- The text. -/
  text : List Char
  /-- What the text holds. -/
  content : Source.File
  /-- The names that the file has for packages. -/
  scope : FileScope
  deriving Inhabited

namespace SourceFile

/-- The file of a path and a text. -/
def ofText (path : Path) (text : String) : SourceFile :=
  let content := File.ofText text
  ⟨path, text.toList, content, FileScope.ofImports content.imports⟩

/-- The name of the file, as shown in messages. -/
def shortName (f : SourceFile) : String := f.path.fileName?.getD f.path.text

/-- The text of a part of the file. -/
def textAt (f : SourceFile) (span : Span) : String := span.textIn f.text

/-- Fail because of what is wrong with a part of the file. -/
def fail {α : Type} (f : SourceFile) (span : Span) (what : Fault) : Check α :=
  throw (.fault f.shortName span.place what)

/-- Fail because a name stands for nothing. -/
def failUndefined {α : Type} (f : SourceFile) (span : Span) (name : String) : Check α :=
  f.fail span (.undefined name f.scope.hasDotImport)

end SourceFile

/-- A type that a package declares. -/
structure TypeEntry where
  /-- The file of the declaration. -/
  file : SourceFile
  /-- The declaration. -/
  spec : TypeSpec
  deriving Inhabited

/-- A constant that a package declares. -/
structure ConstEntry where
  /-- The name. -/
  name : String
  /-- The file of the declaration. -/
  file : SourceFile
  /-- The value, if there is one. -/
  value? : Option Expr
  /-- How many declarations of its group stand in front of it. -/
  counter : Nat
  deriving Inhabited

/-- The entries whose name no earlier entry has. -/
def keepFirst {α : Type} (nameOf : α → String) (entries : List α) : List α :=
  (entries.foldl (fun kept entry =>
    if kept.any (fun other => nameOf other == nameOf entry) then kept else entry :: kept)
    []).reverse

/-- The constants of one group behind `counter` of its declarations.  A declaration without
values repeats those of the one before. -/
def groupEntries (file : SourceFile) :
    Nat → List Expr → List ConstSpec → List ConstEntry
  | _, _, [] => []
  | counter, values, spec :: rest =>
      let values := spec.values?.getD values
      let here := spec.names.zipIdx.filterMap fun (name, position) =>
        -- positions are counted together with the commas between the names
        if name == "_" then none else some ⟨name, file, values[2 * position]?, counter⟩
      here ++ groupEntries file (counter + 1) values rest

/-- The names that a package declares. -/
structure PackageScope where
  /-- The import path. -/
  importPath : String
  /-- The types, in order. -/
  types : List TypeEntry
  /-- The constants, in order. -/
  constants : List ConstEntry
  deriving Inhabited

namespace PackageScope

/-- The scope of the package that consists of the given files. -/
def ofFiles (importPath : String) (files : List SourceFile) : PackageScope where
  importPath := importPath
  types := keepFirst (·.spec.name)
    (files.flatMap fun file => file.content.typeSpecs.map fun spec => ⟨file, spec⟩)
  constants := keepFirst (·.name)
    (files.flatMap fun file => file.content.constGroups.flatMap (groupEntries file 0 []))

/-- The type of a name. -/
def type? (s : PackageScope) (name : String) : Option TypeEntry :=
  s.types.find? (·.spec.name == name)

/-- The constant of a name. -/
def constant? (s : PackageScope) (name : String) : Option ConstEntry :=
  s.constants.find? (·.name == name)

end PackageScope

end WrapperGen
