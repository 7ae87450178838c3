import WrapperGen.Resolver
import WrapperGen.Source.Token

/-!
# Why a package cannot be used

## Main definitions

* `Fault`: what is wrong at a place of a source file.
* `CheckError`: why a package cannot be used.
* `CheckError.message`: the text for that.
-/

namespace WrapperGen

open Source (Place)

/-- What is wrong at a place of a source file. -/
inductive Fault
  /-- A type is defined by itself. -/
  | recursiveType (name : String)
  /-- A name stands for nothing.  It may be one that a dot import would have brought. -/
  | undefined (name : String) (besideDotImport : Bool)
  /-- An interface has two methods of one name that differ. -/
  | duplicateMethod (name : String)
  /-- A type that generated code cannot name. -/
  | unsupportedType (text : String)
  /-- A type argument that is no single type. -/
  | unsupportedArgument (text : String)
  /-- A number that can be no length of an array. -/
  | invalidLength (text : String)
  /-- An integer literal that stands for no number of 64 bits. -/
  | invalidInteger (text : String)
  /-- The counter of constants stands outside of their declaration. -/
  | counterOutside
  /-- An expression has no integer value. -/
  | notInteger (text : String)
  /-- A constant is defined by itself. -/
  | constantCycle (name : String)
  deriving DecidableEq, Repr, Inhabited

/-- The text for a fault. -/
def Fault.message : Fault → String
  | .recursiveType name => "invalid recursive type " ++ name
  | .undefined name false => "undefined: " ++ name
  | .undefined name true => "undefined: " ++ name ++ " (dot imports are not supported)"
  | .duplicateMethod name => "duplicate method " ++ name
  | .unsupportedType text => "unsupported type expression " ++ text
  | .unsupportedArgument text => "unsupported type argument " ++ text
  | .invalidLength text => "invalid array length " ++ text
  | .invalidInteger text => "invalid integer " ++ text
  | .counterOutside => "cannot use iota outside constant declaration"
  | .notInteger text => text ++ " is not an integer constant"
  | .constantCycle name => "initialization cycle for " ++ name

/-- Why a package cannot be used. -/
inductive CheckError
  /-- The directory has no source files. -/
  | noSources (dir : Path)
  /-- A file or directory cannot be read. -/
  | unreadable (path : Path) (cause : FileError)
  /-- A file is not well formed. -/
  | malformed (file : Path)
  /-- A file does not name its package. -/
  | missingClause (file : Path)
  /-- Two files name different packages. -/
  | mixedPackages (name file otherName otherFile : String)
  /-- The package is not found. -/
  | notFound (cause : NotFound)
  /-- The package imports itself, be it through others. -/
  | importCycle (importPath : String)
  /-- A constant has no value. -/
  | missingValue (name : String)
  /-- Something is wrong at a place of a file. -/
  | fault (file : String) (place : Place) (what : Fault)
  /-- A package that is needed at a place of a file cannot be used. -/
  | importFailed (file : String) (place : Place) (importPath : String) (cause : CheckError)
  deriving DecidableEq, Repr, Inhabited

namespace CheckError

/-- A text for a place of a file. -/
def atPlace (file : String) (place : Place) (text : String) : String :=
  file ++ ":" ++ toString place.line ++ ":" ++ toString place.column ++ ": " ++ text

/-- The text for an error. -/
def message : CheckError → String
  | .noSources dir => "no buildable Go source files in " ++ dir.text
  | .unreadable path _ => "failed to read " ++ path.text
  | .malformed file => file.text ++ ": syntax error"
  | .missingClause file => file.text ++ ": missing package clause"
  | .mixedPackages name file otherName otherFile =>
      "found packages " ++ name ++ " (" ++ file ++ ") and " ++ otherName ++ " (" ++ otherFile
        ++ ")"
  | .notFound cause => cause.message
  | .importCycle importPath => "import cycle not allowed: " ++ importPath
  | .missingValue name => "missing init expr for " ++ name
  | .fault file place what => atPlace file place what.message
  | .importFailed file place importPath cause =>
      atPlace file place ("could not import " ++ importPath ++ " (" ++ cause.message ++ ")")

end CheckError

end WrapperGen
