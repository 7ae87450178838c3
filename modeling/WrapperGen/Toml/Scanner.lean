import WrapperGen.Text.Reading

/-!
# Reading a TOML text

The smallest parts of a TOML text: single characters, blanks, comments and ends of lines.

## Main definitions

* `Scanner`: what reads a value from the front of a text.
* `charWhere`, `charsWhile`, `char`, `chars`: characters.
* `skipBlanks`, `newline`, `comment`, `lineEnd`: what stands between the other parts.
-/

namespace WrapperGen.Toml

open Reading

/-- What reads a value from the front of a text, and gives back the text behind. -/
abbrev Scanner (α : Type) := Reading Char α

/-- A character of a class. -/
def charWhere (p : Char → Bool) : Scanner Char := fun s =>
  match s with
  | [] => none
  | c :: rest => if p c then some (c, rest) else none

/-- All characters of a class that stand at the front. -/
def charsWhile (p : Char → Bool) : Scanner (List Char) := fun s =>
  some (s.takeWhile p, s.dropWhile p)

/-- A given character. -/
def char (c : Char) : Scanner Char := charWhere (· == c)

/-- Given characters, one after the other. -/
def chars : List Char → Scanner Unit
  | [] => pure ()
  | c :: rest => do
      let _ ← char c
      chars rest

/-- The end of the text. -/
def atEnd : Scanner Unit := fun s =>
  match s with
  | [] => some ((), [])
  | _ => none

/-- Whether a character is a blank within a line. -/
def isBlankInLine (c : Char) : Bool := c == ' ' || c == '\t'

/-- Whether a character may stand in a comment: any but control characters of ASCII, of which
the tabulator is allowed. -/
def isTextChar (c : Char) : Bool := c == '\t' || (' ' ≤ c && c != '\x7f')

/-- Blanks within a line, if there are any. -/
def skipBlanks : Scanner Unit := do
  let _ ← charsWhile isBlankInLine
  pure ()

/-- The end of a line. -/
def newline : Scanner Unit := chars ['\n'] <|> chars ['\r', '\n']

/-- A comment. -/
def comment : Scanner Unit := do
  let _ ← char '#'
  let _ ← charsWhile isTextChar
  pure ()

/-- The end of a line or of the text, perhaps behind a comment. -/
def lineEnd : Scanner Unit := do
  skipBlanks
  let _ ← maybe comment
  newline <|> atEnd

/-- Blanks, ends of lines and comments, if there are any. -/
def skipLines : Scanner Unit := do
  let _ ← readAll (newline <|> comment <|> (do
    let _ ← charWhere isBlankInLine
    pure ()))
  pure ()

end WrapperGen.Toml
