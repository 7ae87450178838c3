import WrapperGen.FileTree

/-!
# Modules

A module file gives the directory that it stands in, and all directories below, import paths
that begin with the name of the module.

## Main definitions

* `Module`: a name and the directory that it belongs to.
* `Module.relative?`, `Module.directoryOf`: from import paths to directories.
* `moduleName?`: the name that a module file declares.
* `findModule?`: the nearest module at or above a directory.
-/

namespace WrapperGen

/-- A module: its name and its directory. -/
structure Module where
  /-- The import path of the directory. -/
  name : String
  /-- The directory of the module file. -/
  root : Path
  deriving DecidableEq, Repr, Inhabited

namespace Module

/-- What follows the name of the module in an import path, if the path is the name itself or
lies below it. -/
def relative? (m : Module) (importPath : String) : Option String :=
  match m.name.toList.isPrefixOf? importPath.toList with
  | none => none
  | some [] => some ""
  | some ('/' :: rest) => some (String.ofList rest)
  | some _ => none

/-- The directory of a package of the module, given what follows the name of the module. -/
def directoryOf (m : Module) (relative : String) : Path := m.root.joinAll (slashSegments relative)

end Module

/-- The name of a module file. -/
def moduleFile : String := "go.mod"

/-- The word that a module is declared with. -/
def moduleWord : List Char := ['m', 'o', 'd', 'u', 'l', 'e']

/-- The text in front of a comment. -/
def beforeComment : List Char → List Char
  | [] => []
  | '/' :: '/' :: _ => []
  | c :: rest => c :: beforeComment rest

/-- Whether a character quotes a module name. -/
def isNameQuote (c : Char) : Bool := c == '"' || c == '\x60'

/-- A name without the quotes around it. -/
def dropNameQuotes (s : List Char) : List Char :=
  ((s.dropWhile isNameQuote).reverse.dropWhile isNameQuote).reverse

/-- The module that a line of a module file declares. -/
def moduleOfLine? (line : List Char) : Option String :=
  match moduleWord.isPrefixOf? (trimBlank line) with
  | none => none
  | some rest =>
      let value := rest.dropWhile isBlank
      if value.isEmpty || value.length == rest.length then none
      else
        match dropNameQuotes (trimBlank (beforeComment value)) with
        | [] => none
        | name => some (String.ofList name)

/-- The name that the module file in a directory declares. -/
def moduleName? (tree : FileTree) (dir : Path) : Option String :=
  match tree.readText (dir.join ⟨moduleFile⟩) with
  | .error _ => none
  | .ok text => (textLines text.toList).findSome? moduleOfLine?

/-- The first module among some directories, in front of the directory `boundary`. -/
def firstModule? (tree : FileTree) (boundary : Path) : List Path → Option Module
  | [] => none
  | dir :: above =>
      if dir.sameSteps boundary then none
      else
        match moduleName? tree dir with
        | some name => some ⟨name, dir⟩
        | none => firstModule? tree boundary above

/-- The nearest module at or above a directory.  The search ends in front of `boundary`, so that
a module file there or above is not seen. -/
def findModule? (tree : FileTree) (start boundary : Path) : Option Module :=
  firstModule? tree boundary start.ancestors

end WrapperGen
