import WrapperGen.TypeForm

/-!
# Checked packages

What is known of a package once its files have been read: the types that it declares, with the
method sets of its interfaces, and the integer constants that other packages may use.

## Main definitions

* `TypeKind`: what the definition of a type comes down to.
* `Declaration`: a type with its kind.
* `CheckedPackage`: the declarations and constants of a package.
-/

namespace WrapperGen

/-- What the definition of a type comes down to. -/
inductive TypeKind
  /-- An interface with all its methods, embedded ones included. -/
  | interface (methods : List (Method DeclaredName))
  /-- An interface that limits types and has no values of its own. -/
  | constraint
  /-- Any other type. -/
  | other
  deriving DecidableEq, Inhabited

/-- A declared type. -/
structure Declaration where
  /-- The name. -/
  name : String
  /-- Whether the type has parameters. -/
  generic : Bool
  /-- What its definition comes down to. -/
  kind : TypeKind
  deriving DecidableEq, Inhabited

/-- What is known of a package. -/
structure CheckedPackage where
  /-- The name in the package clauses. -/
  name : String
  /-- The import path. -/
  importPath : String
  /-- The declared types, in the order of their declarations. -/
  declarations : List Declaration
  /-- The exported integer constants. -/
  constants : List (String × Int)
  deriving DecidableEq, Inhabited

namespace CheckedPackage

/-- The declaration of a name. -/
def declaration? (p : CheckedPackage) (name : String) : Option Declaration :=
  p.declarations.find? (·.name == name)

/-- The value of a constant. -/
def constant? (p : CheckedPackage) (name : String) : Option Int := p.constants.lookup name

end CheckedPackage

end WrapperGen
