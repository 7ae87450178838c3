import WrapperGen.Source.Syntax
import WrapperGen.Text.Reading

/-!
# Reading from tokens

A reader takes the tokens that it recognises from the front of a list and gives back the rest.
The end of a line ends a construct where something else may begin behind it and is a blank
everywhere else; a reader that may meet such an end takes a flag `endsLine`, and then does not
look beyond it.

Readers of nested constructs call each other through a `Grammar`, which holds those for one level
of nesting less.

## Main definitions

* `Reader`: what reads a value from the front of a list of tokens.
* `token`, `symbol`, `operator`, `word`, `keyword`, `terminator`: single tokens.
* `commaList`, `bracketList`, `terminatedList`: sequences.
* `Mode`, `Operand`, `Grammar`: what the readers of expressions and statements share.
-/

namespace WrapperGen.Source

open Reading

/-- What reads a value from the front of a list of tokens, and gives back the tokens behind. -/
abbrev Reader (α : Type) := Reading Token α

/-! ### Single tokens -/

/-- The first token.  With `endsLine` it has to stand on the line of the token before. -/
def token (endsLine : Bool) : Reader Token := fun ts =>
  match ts with
  | [] => none
  | t :: rest => if endsLine && t.onNewLine then none else some (t, rest)

/-- The first token, which is left in place. -/
def peek (endsLine : Bool) : Reader Token := fun ts =>
  match token endsLine ts with
  | none => none
  | some (t, _) => some (t, ts)

/-- One character of an operator or a bracket. -/
def symbol (endsLine : Bool) (c : Char) : Reader Span := do
  let t ← token endsLine
  require (t.lexeme == .symbol c)
  pure t.span

/-- Further characters of an operator, each of which touches the one before. -/
def joinedSymbols (last : Span) : List Char → Reader Span
  | [] => pure last
  | c :: rest => do
      let t ← token false
      require (t.joined && t.lexeme == .symbol c)
      joinedSymbols t.span rest

/-- An operator. -/
def operator (endsLine : Bool) : List Char → Reader Span
  | [] => failure
  | c :: rest => do
      let first ← symbol endsLine c
      let last ← joinedSymbols first rest
      pure (first.upTo last)

/-- A word. -/
def word (endsLine : Bool) : Reader (String × Span) := do
  let t ← token endsLine
  match t.lexeme with
  | .word text => pure (text, t.span)
  | _ => failure

/-- A given word. -/
def keyword (endsLine : Bool) (expected : String) : Reader Span := do
  let (text, span) ← word endsLine
  require (text == expected)
  pure span

/-- A string literal, as it is written. -/
def stringLiteral (endsLine : Bool) : Reader String := do
  let t ← token endsLine
  match t.lexeme with
  | .string text => pure text
  | _ => failure

/-- The end of a line, a semicolon, or the end of the text. -/
def terminator : Reader Unit := fun ts =>
  match ts with
  | [] => some ((), [])
  | t :: rest =>
      if t.onNewLine then some ((), { t with onNewLine := false } :: rest)
      else if t.lexeme == .symbol ';' then some ((), rest)
      else none

/-! ### Sequences -/

/-- One value or more with commas between them.  A comma does not count beyond the end of a
line if `endsLine` says so. -/
def commaList {α : Type} (limit : Nat) (endsLine : Bool) (p : Reader α) : Reader (List α) := do
  let first ← p
  let more ← many limit (do
    let _ ← symbol endsLine ','
    p)
  pure (first :: more)

/-- Any number of values with commas between them, and perhaps a comma at the end. -/
def bracketList {α : Type} (limit : Nat) (p : Reader α) : Reader (List α) := do
  let values ← maybe (commaList limit false p)
  let _ ← maybe (symbol false ',')
  pure (values.getD [])

/-- Any number of values with terminators between them, and perhaps a terminator at the end. -/
def terminatedList {α : Type} (limit : Nat) (p : Reader α) : Reader (List α) := do
  let first ← maybe p
  match first with
  | none => pure []
  | some value =>
      let more ← many limit (do
        terminator
        p)
      let _ ← maybe terminator
      pure (value :: more)

/-- One value, or several in parentheses. -/
def oneOrGroup {α : Type} (limit : Nat) (p : Reader α) : Reader (List α) :=
  (do
    let _ ← symbol false '('
    let values ← terminatedList limit p
    let _ ← symbol false ')'
    pure values) <|> (do
    let value ← p
    pure [value])

/-! ### What readers share -/

/-- Where an expression stands. -/
structure Mode where
  /-- Whether the end of a line may end the expression. -/
  endsLine : Bool
  /-- Whether the expression may be the start of a statement, so that the operators of
  statements may follow it. -/
  startsStatement : Bool
  /-- The brace that begins the block behind the expression, given by how many characters stand
  in front of it. -/
  block? : Option Nat
  /-- Whether the expression may be the subject of a switch over types. -/
  inSwitch : Bool
  deriving DecidableEq, Inhabited

namespace Mode

/-- Inside of brackets. -/
def inner : Mode := ⟨false, false, none, false⟩

/-- At the start of a statement. -/
def line : Mode := ⟨true, true, none, false⟩

/-- In front of the block that begins with the given brace. -/
def header (block : Nat) : Mode := ⟨false, true, some block, false⟩

/-- Behind the operator of a statement. -/
def value (m : Mode) : Mode := { m with startsStatement := false }

end Mode

/-- What was read where an expression or a type may stand. -/
structure Operand where
  /-- The expression, as far as it is kept. -/
  expr : Expr
  /-- Whether it may be used as an expression. -/
  isExpr : Bool
  /-- Whether it may be used as a type. -/
  isType : Bool
  /-- Whether values in braces may follow it. -/
  takesValues : Bool
  deriving DecidableEq, Inhabited

/-- The readers for what is nested. -/
structure Grammar where
  /-- A number that no sequence exceeds. -/
  limit : Nat
  /-- Types. -/
  type : Bool → Reader TypeExpr
  /-- Operands with the operators in front of them. -/
  unary : Mode → Reader Operand
  /-- Expressions, and types in their places. -/
  expr : Mode → Reader Operand
  /-- Values in braces. -/
  values : Reader Span
  /-- One statement. -/
  statement : Reader Unit
  /-- The statements of a block. -/
  statements : Reader Unit

end WrapperGen.Source
