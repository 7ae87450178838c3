import WrapperGen.Toml.Scanner

/-!
# Texts in TOML

A text stands between quotes.  Between double quotes there may be escapes, and between three
quotes there may be ends of lines.

## Main definitions

* `basicText`, `literalText`: texts on one line.
* `basicBlock`, `literalBlock`: texts on several lines.
* `text`: any of these.
-/

namespace WrapperGen.Toml

open Reading

/-! ### Escapes -/

/-- The value of a digit of base sixteen. -/
def hexValue? (c : Char) : Option Nat :=
  if c.isDigit then some (c.toNat - '0'.toNat)
  else if 'a' ≤ c && c ≤ 'f' then some (c.toNat - 'a'.toNat + 10)
  else if 'A' ≤ c && c ≤ 'F' then some (c.toNat - 'A'.toNat + 10)
  else none

/-- The number that the given count of digits of base sixteen stands for, behind `value`. -/
def hexNumber : Nat → Nat → Scanner Nat
  | 0, value => pure value
  | count + 1, value => do
      let c ← charWhere fun c => (hexValue? c).isSome
      hexNumber count (value * 16 + (hexValue? c).getD 0)

/-- The character of a code point, which has to be given by `count` digits. -/
def codePoint (count : Nat) : Scanner Char := do
  let n ← hexNumber count 0
  require (n < 0xd800 || (0xdfff < n && n < 0x110000))
  pure (Char.ofNat n)

/-- The character that a letter stands for in an escape. -/
def escapedChar? (c : Char) : Option Char :=
  if c == 'b' then some '\x08'
  else if c == 't' then some '\t'
  else if c == 'n' then some '\n'
  else if c == 'f' then some '\x0c'
  else if c == 'r' then some '\r'
  else if c == '"' || c == '\\' then some c
  else none

/-- The character that an escape stands for. -/
def escape : Scanner Char := do
  let _ ← char '\\'
  (do
    let c ← charWhere fun c => (escapedChar? c).isSome
    pure ((escapedChar? c).getD c)) <|> (do
    let _ ← char 'u'
    codePoint 4) <|> (do
    let _ ← char 'U'
    codePoint 8)

/-! ### Texts on one line -/

/-- The quote around texts with escapes. -/
def doubleQuote : Char := '"'

/-- The quote around texts without escapes. -/
def singleQuote : Char := '\''

/-- Whether a character stands for itself between double quotes. -/
def isBasicChar (c : Char) : Bool := isTextChar c && c != doubleQuote && c != '\\'

/-- Whether a character may stand between single quotes. -/
def isLiteralChar (c : Char) : Bool := isTextChar c && c != singleQuote

/-- A text between double quotes. -/
def basicText : Scanner String := do
  let _ ← char doubleQuote
  let inner ← readAll (charWhere isBasicChar <|> escape)
  let _ ← char doubleQuote
  pure (String.ofList inner)

/-- A text between single quotes. -/
def literalText : Scanner String := do
  let _ ← char singleQuote
  let inner ← charsWhile isLiteralChar
  let _ ← char singleQuote
  pure (String.ofList inner)

/-! ### Texts on several lines -/

/-- One or two quotes that do not end a block. -/
def innerQuotes (quote : Char) : Scanner (List Char) :=
  (do
    chars [quote, quote]
    follows (charWhere (· != quote))
    pure [quote, quote]) <|> (do
    chars [quote]
    follows (charWhere (· != quote))
    pure [quote])

/-- The three quotes that end a block, and up to two quotes in front of them that belong to the
text. -/
def blockEnd (quote : Char) : Scanner (List Char) :=
  (do
    chars (List.replicate 5 quote)
    pure [quote, quote]) <|> (do
    chars (List.replicate 4 quote)
    pure [quote]) <|> (do
    chars (List.replicate 3 quote)
    pure [])

/-- A block between three quotes on each side, whose text consists of the given pieces.  An end
of line right behind the first quotes does not count. -/
def block (quote : Char) (piece : Scanner (List Char)) : Scanner String := do
  chars (List.replicate 3 quote)
  let _ ← maybe newline
  let pieces ← readAll (piece <|> (do
    newline
    pure ['\n']) <|> innerQuotes quote)
  let last ← blockEnd quote
  pure (String.ofList (pieces.flatten ++ last))

/-- A backslash at the end of a line, which joins that line and the next text. -/
def joinedLines : Scanner (List Char) := do
  let _ ← char '\\'
  skipBlanks
  newline
  let _ ← readAll (newline <|> (do
    let _ ← charWhere isBlankInLine
    pure ()))
  pure []

/-- A character as a piece of a text. -/
def single (p : Scanner Char) : Scanner (List Char) := do
  let c ← p
  pure [c]

/-- A text between three double quotes on each side. -/
def basicBlock : Scanner String :=
  block doubleQuote (single (charWhere isBasicChar) <|> joinedLines <|> single escape)

/-- A text between three single quotes on each side. -/
def literalBlock : Scanner String :=
  block singleQuote (single (charWhere isLiteralChar))

/-- A text. -/
def text : Scanner String := basicBlock <|> basicText <|> literalBlock <|> literalText

end WrapperGen.Toml
