import WrapperGen.Text.LetterCase
import WrapperGen.Text.Pieces

/-!
# Names

The rules of the source language on names, and the name under which a package is expected to
be known when only its import path is given.

## Main definitions

* `isExported`: the name is visible outside its package.
* `isPlainName`: the name may be used for a generated package or as a prefix of one.
* `isKeyword`, `isPredeclared`: the reserved words and the types of the universal scope.
* `guessPackageName`: the package name that an import path suggests.

## Main results

* `guessPackageName_ne_empty`: the guess is never the empty name.
-/

namespace WrapperGen

/-- The reserved words. -/
def keywords : List String :=
  ["break", "case", "chan", "const", "continue", "default", "defer", "else", "fallthrough",
    "for", "func", "go", "goto", "if", "import", "interface", "map", "package", "range",
    "return", "select", "struct", "switch", "type", "var"]

/-- The types of the universal scope. -/
def predeclaredTypes : List String :=
  ["any", "bool", "byte", "comparable", "complex64", "complex128", "error", "float32",
    "float64", "int", "int8", "int16", "int32", "int64", "rune", "string", "uint", "uint8",
    "uint16", "uint32", "uint64", "uintptr"]

/-- Whether a name is a reserved word. -/
def isKeyword (name : String) : Bool := keywords.contains name

/-- Whether a name is a type of the universal scope. -/
def isPredeclared (name : String) : Bool := predeclaredTypes.contains name

/-- Whether a name is visible outside its package: its first letter is upper case. -/
def isExported (name : String) : Bool := name.toList.head?.any isUppercase

/-- Whether a character may stand inside a plain name. -/
def isPlainNameChar (c : Char) : Bool := c.isAlpha || c.isDigit || c == '_'

/-- Whether a name may be used for a generated package or as a prefix: ASCII letters, digits
and underscores, with a letter at both ends. -/
def isPlainName (name : String) : Bool :=
  let s := name.toList
  s.head?.any Char.isAlpha && s.all isPlainNameChar && s.getLast?.any Char.isAlpha

/-- Whether a path segment is a major version, such as `v2`. -/
def isMajorVersion : List Char → Bool
  | 'v' :: digits => !digits.isEmpty && digits.all Char.isDigit
  | _ => false

/-- The segment of an import path that names the package: the last one, unless that is a major
version below another segment. -/
def namingSegment (importPath : String) : List Char :=
  match (slashSegments importPath).reverse.map String.toList with
  | [] => []
  | [only] => only
  | last :: above :: _ => if isMajorVersion last then above else last

/-- The segment without a version behind a dot, such as `.v2`, at its end. -/
def dropDotVersion (segment : List Char) : List Char :=
  let backwards := segment.reverse
  match backwards.takeWhile Char.isDigit, backwards.dropWhile Char.isDigit with
  | _ :: _, 'v' :: '.' :: rest => rest.reverse
  | _, _ => segment

/-- The segment without the decorations `go-` in front and `-go` behind. -/
def dropDecorations (segment : List Char) : List Char :=
  let front := (['g', 'o', '-'].isPrefixOf? segment).getD segment
  (['-', 'g', 'o'].isSuffixOf? front).getD front

/-- Whether a character may stand in a guessed package name. -/
def isPackageNameChar (c : Char) : Bool := isAlphanumeric c || c == '_'

/-- The letters of the package name that an import path suggests; none if the path suggests
nothing. -/
def guessedLetters (importPath : String) : List Char :=
  ((dropDecorations (dropDotVersion (namingSegment importPath))).takeWhile
    isPackageNameChar).dropWhile Char.isDigit

/-- The package name that an import path suggests.  Versions and decorations are dropped, then
the name ends at the first character that cannot be part of it, and digits do not begin it. -/
def guessPackageName (importPath : String) : String :=
  match guessedLetters importPath with
  | [] => "pkg"
  | letters => String.ofList letters

theorem guessPackageName_ne_empty (importPath : String) : guessPackageName importPath ≠ "" := by
  unfold guessPackageName
  split
  · decide
  · rename_i letters h
    intro e
    apply h
    simpa using congrArg String.toList e

end WrapperGen
