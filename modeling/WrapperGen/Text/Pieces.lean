import WrapperGen.Text.Alphanumeric

/-!
# Cutting a text into pieces

Texts are cut with the functions of the standard library: `List.splitOn` gives the pieces between
the occurrences of a separator, empty ones included, and `List.isPrefixOf?` and `List.isSuffixOf?`
what is left of a text without a given start or end.

## Main definitions

* `slashSegments`: the non-empty pieces between slashes, as import paths and directories are
  read.
* `textLines`: the lines of a text, without their ends.
-/

namespace WrapperGen

/-- The non-empty pieces of a text between slashes. -/
def slashSegments (s : String) : List String :=
  ((List.splitOn '/' s.toList).filter (!·.isEmpty)).map String.ofList

/-- Texts joined by single slashes. -/
def joinSlash (segments : List String) : String :=
  String.ofList (['/'].intercalate (segments.map String.toList))

/-- The text without one carriage return at its end. -/
def dropCarriageReturn (s : List Char) : List Char :=
  if s.getLast? == some '\r' then s.dropLast else s

/-- The lines whose texts lie between newlines: what follows the last newline is a line only if
it is not empty, and a carriage return belongs to the newline after it. -/
def linesOfPieces : List (List Char) → List (List Char)
  | [] => []
  | [last] => if last.isEmpty then [] else [last]
  | line :: rest => dropCarriageReturn line :: linesOfPieces rest

/-- The lines of a text, without their ends. -/
def textLines (s : List Char) : List (List Char) := linesOfPieces (List.splitOn '\n' s)

end WrapperGen
