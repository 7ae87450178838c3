import WrapperGen.Source.Literal
import WrapperGen.Text.IdentifierChar

/-!
# Tokens

A source text is a sequence of tokens with blanks and comments between them.  Every operator
character is a token of its own, and a token knows whether it touches the one before: which
characters form one operator depends on what may follow, so it is settled where operators are
read.  A token also knows whether a line ends in front of it, because the end of a line may end
a statement.

## Main definitions

* `Token`, `Lexeme`: a token, its place, and what it is.
* `blankLength?`: the length of the blank or comment at the start of a text.
* `lexemeAt`: the token at the start of a text.
* `tokens`: all tokens of a text.
-/

namespace WrapperGen.Source

/-! ### Places -/

/-- A line and a column, counted from one.  The column counts bytes. -/
structure Place where
  /-- The line. -/
  line : Nat
  /-- The column. -/
  column : Nat
  deriving DecidableEq, Repr, Inhabited

namespace Place

/-- The start of a text. -/
def start : Place := ⟨1, 1⟩

/-- The place behind a character. -/
def step (p : Place) (c : Char) : Place :=
  if c == '\n' then ⟨p.line + 1, 1⟩ else ⟨p.line, p.column + c.utf8Size⟩

/-- The place behind some characters. -/
def after (p : Place) (s : List Char) : Place := s.foldl step p

end Place

/-- A part of a source text. -/
structure Span where
  /-- How many characters stand in front of it. -/
  start : Nat
  /-- How many characters stand in front of its end. -/
  stop : Nat
  /-- The place of its first character. -/
  place : Place
  deriving DecidableEq, Repr, Inhabited

namespace Span

/-- The part from the start of one part to the end of another. -/
def upTo (a b : Span) : Span := ⟨a.start, b.stop, a.place⟩

/-- The text of a part. -/
def textIn (a : Span) (source : List Char) : String :=
  String.ofList ((source.drop a.start).take (a.stop - a.start))

end Span

/-! ### Tokens -/

/-- What a token is. -/
inductive Lexeme
  /-- An identifier or a reserved word. -/
  | word (text : String)
  /-- An integer literal. -/
  | integer (text : String)
  /-- A literal of another number. -/
  | number
  /-- A rune literal. -/
  | rune
  /-- A string literal, as it is written. -/
  | string (text : String)
  /-- One character of an operator or a bracket. -/
  | symbol (c : Char)
  /-- A character that begins no token. -/
  | invalid
  deriving DecidableEq, Repr, Inhabited

/-- A token. -/
structure Token where
  /-- What it is. -/
  lexeme : Lexeme
  /-- Where it is. -/
  span : Span
  /-- Whether a line ends between the token before and this one. -/
  onNewLine : Bool
  /-- Whether this token touches the one before. -/
  joined : Bool
  deriving DecidableEq, Repr, Inhabited

/-! ### Blanks and comments -/

/-- The length of a block comment behind its opening, the closing included. -/
def blockCommentLength? : List Char → Option Nat
  | [] => none
  | '*' :: '/' :: _ => some 2
  -- a null character ends the text for comments, which makes this one unclosed
  | c :: rest => if c == '\x00' then none else (blockCommentLength? rest).map (· + 1)

/-- Whether a character belongs to a line comment that has begun. -/
def isLineCommentChar (c : Char) : Bool := c != '\n' && c != '\x00'

/-- If a text begins with a blank or a comment, how many characters belong to that behind the
first one, which is `c`. -/
def blankLength? (c : Char) (rest : List Char) : Option Nat :=
  if isBlank c then some 0
  else if c == '/' then
    match rest with
    | '/' :: more => some ((more.takeWhile isLineCommentChar).length + 1)
    | '*' :: more => (blockCommentLength? more).map (· + 1)
    | _ => none
  else none

/-! ### Reading tokens -/

/-- The characters that operators and brackets consist of. -/
def symbolChars : List Char :=
  ['(', ')', '{', '}', '[', ']', ',', ';', '.', ':', '=', '+', '-', '*', '/', '%', '&', '|',
    '^', '<', '>', '!', '~']

/-- A quoted literal behind its opening quote, where it is well formed. -/
def quotedLexeme (lexeme : Nat → Lexeme) : Option Nat → Lexeme × Nat
  | some n => (lexeme n, n)
  | none => (.invalid, 0)

/-- The token at the start of a text that begins with `c`, and how many characters belong to it
behind `c`. -/
def lexemeAt (c : Char) (rest : List Char) : Lexeme × Nat :=
  if isIdentStart c then
    let tail := rest.takeWhile isIdentRest
    (.word (String.ofList (c :: tail)), tail.length)
  -- a point begins a number only with a digit behind it
  else if c.isDigit || (c == '.' && rest.head?.any Char.isDigit) then
    match numberAt (c :: rest) with
    | (.integer, n) => (.integer (String.ofList ((c :: rest).take n)), n - 1)
    | (_, n) => (.number, n - 1)
  else if c == '"' then
    quotedLexeme (fun n => .string (String.ofList (c :: rest.take n))) (stringLength? 0 rest)
  else if c == '\x60' then
    quotedLexeme (fun n => .string (String.ofList (c :: rest.take n))) (rawStringLength? rest)
  else if c == '\'' then quotedLexeme (fun _ => .rune) (runeLength? rest)
  -- what begins like a block comment and is none was never closed
  else if c == '/' && rest.head? == some '*' then (.invalid, 0)
  else if symbolChars.contains c then (.symbol c, 0)
  else (.invalid, 0)

/-- The tokens of a text that begins at the given place.  The flags say what stands between the
token before and the text. -/
def tokensFrom (offset : Nat) (place : Place) (onNewLine joined : Bool) :
    List Char → List Token
  | [] => []
  | c :: rest =>
      match blankLength? c rest with
      | some n =>
          tokensFrom (offset + n + 1) (place.after (c :: rest.take n)) (onNewLine || c == '\n')
            false (rest.drop n)
      | none =>
          let found := lexemeAt c rest
          ⟨found.1, ⟨offset, offset + found.2 + 1, place⟩, onNewLine, joined⟩
            :: tokensFrom (offset + found.2 + 1) (place.after (c :: rest.take found.2)) false
              true (rest.drop found.2)
termination_by s => s.length
decreasing_by
  all_goals simp only [List.length_drop, List.length_cons]; omega

/-- The tokens of a text.  A byte order mark at its start is no part of them. -/
def tokens (source : List Char) : List Token :=
  match source with
  | '\ufeff' :: rest => tokensFrom 1 (Place.start.step '\ufeff') false false rest
  | _ => tokensFrom 0 Place.start false false source

end WrapperGen.Source
