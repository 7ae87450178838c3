import WrapperGen.Source.Reader.Types

/-!
# Reading expressions

Conversions, generic calls and composite values begin with a type, which often looks like an
expression until something behind it decides.  An operand is therefore read once, together with
the uses that it allows, and each context asks for the use that it needs.

## Main definitions

* `readOperand`: the smallest expressions.
* `readPostfix`: calls, selections, indexing and values in braces behind an operand.
* `readUnary`, `readExpr`: operators.
* `assemble`: operands and operators put together by precedence.
-/

namespace WrapperGen.Source

open Reading

/-! ### Operands -/

/-- An operand that is a value and nothing else. -/
def valueOperand (expr : Expr) : Operand := ⟨expr, true, false, false⟩

/-- An operand that is a type and nothing else. -/
def typeOperand (span : Span) (takesValues : Bool) : Operand :=
  ⟨.other span, false, true, takesValues⟩

/-- An expression whose inner structure is not kept. -/
def opaqueValue (span : Span) : Operand := valueOperand (.other span)

/-- The values in words. -/
def valueWords : List String := ["nil", "true", "false"]

/-- The word for the counter of a group of constants. -/
def counterWord : String := "iota"

/-- Whether values in braces may follow a type. -/
def takesValuesBehind : TypeExpr → Bool
  | .map .. | .slice .. | .array .. | .struct .. => true
  | _ => false

/-- A block. -/
def readBlock (g : Grammar) : Reader Span := do
  let start ← symbol false '{'
  g.statements
  let close ← symbol false '}'
  pure (start.upTo close)

/-- A function value or type. -/
def readFunction (g : Grammar) : Reader Operand := do
  let start ← keyword false "func"
  let type ← readFunctionType g false start
  match ← maybe (readBlock g) with
  | some body => pure (opaqueValue (start.upTo body))
  | none => pure (typeOperand type.span false)

/-- A type where an expression may stand. -/
def readTypeOperand (g : Grammar) : Reader Operand := do
  let type ← readType g false
  pure (typeOperand type.span (takesValuesBehind type))

/-- An array type whose length is counted from its values. -/
def readCountedArray (g : Grammar) : Reader Operand := do
  let start ← symbol false '['
  let _ ← operator false ['.', '.', '.']
  let _ ← symbol false ']'
  let element ← g.type false
  pure ⟨.other (start.upTo element.span), false, false, true⟩

/-- An operand in parentheses. -/
def readParenthesized (g : Grammar) : Reader Operand := do
  let start ← symbol false '('
  let inner ← g.expr Mode.inner
  let close ← symbol false ')'
  pure ⟨.paren (start.upTo close) inner.expr, inner.isExpr, inner.isType, false⟩

/-- A name, or a value in a word. -/
def readNameOperand : Reader Operand := do
  let (text, span) ← word false
  if valueWords.contains text then pure (opaqueValue span)
  else if text == counterWord then pure (valueOperand (.counter span))
  else pure ⟨.name span text, true, true, true⟩

/-- The smallest expressions, and types in their places. -/
def readOperand (g : Grammar) : Reader Operand := do
  let first ← peek false
  match first.lexeme with
  | .word text =>
      if text == "func" then readFunction g
      else if typeWords.contains text then readTypeOperand g
      else readNameOperand
  | .integer text => do
      let t ← token false
      pure (valueOperand (.integer t.span text))
  | .number | .rune | .string _ => do
      let t ← token false
      pure (opaqueValue t.span)
  | .symbol '(' => readParenthesized g
  | .symbol '[' => readCountedArray g <|> readTypeOperand g
  | _ => failure

/-! ### Behind an operand -/

/-- The words that call for a type in the first place of their arguments. -/
def typeCallWords : List String := ["new", "make"]

/-- Whether the first argument behind an operand may be a type. -/
def takesTypeArgument : Expr → Bool
  | .name _ text => typeCallWords.contains text
  | _ => false

/-- One argument of a call, and whether it is spread. -/
def readArgument (g : Grammar) : Reader (Operand × Bool) := do
  let value ← g.expr Mode.inner
  let spread ← maybe (operator false ['.', '.', '.'])
  require (spread.isNone || value.isExpr)
  pure (value, spread.isSome)

/-- Whether arguments may stand behind an operand that is called. -/
def isCall (o : Operand) (arguments : List (Operand × Bool)) : Bool :=
  o.isExpr &&
    (arguments.all (·.1.isExpr) ||
      (takesTypeArgument o.expr && (arguments.take 1).all (·.1.isType)
        && (arguments.drop 1).all (·.1.isExpr)))

/-- Whether arguments may stand behind a type that a value is converted to. -/
def isConversion (o : Operand) : List (Operand × Bool) → Bool
  | [(value, spread)] => o.isType && value.isExpr && !spread
  | _ => false

/-- A call or a conversion. -/
def readCall (g : Grammar) (endsLine : Bool) (o : Operand) : Reader Operand := do
  let _ ← symbol endsLine '('
  let arguments ← bracketList g.limit (readArgument g)
  let close ← symbol false ')'
  require (isCall o arguments || isConversion o arguments)
  pure (opaqueValue (o.expr.span.upTo close))

/-- Whether an operand is the name of a type, perhaps of another package. -/
def Operand.isName (o : Operand) : Bool := o.isExpr && o.isType && o.takesValues

/-- A name behind an operand and a point. -/
def readSelector (endsLine : Bool) (o : Operand) : Reader Operand := do
  let (name, stop) ← readMember endsLine
  require o.isExpr
  let bare := match o.expr with
    | .name _ _ => o.isName
    | _ => false
  pure ⟨.selector (o.expr.span.upTo stop) o.expr name, true, bare, bare⟩

/-- The mark behind the subject of a switch over types. -/
def readTypeMark : Reader Unit := do
  let _ ← symbol false '.'
  let _ ← symbol false '('
  let _ ← keyword false "type"
  let _ ← symbol false ')'
  pure ()

/-- A value taken as one of a given type. -/
def readAssertion (g : Grammar) (endsLine : Bool) (o : Operand) : Reader Operand := do
  let _ ← symbol endsLine '.'
  let _ ← symbol false '('
  let _ ← g.type false
  let close ← symbol false ')'
  require o.isExpr
  pure (opaqueValue (o.expr.span.upTo close))

/-- What stands in brackets behind an operand, as an index or as type arguments, up to the
closing bracket. -/
def readIndexRest (o : Operand) (arguments : List Operand) : Reader Operand := do
  let comma ← maybe (symbol false ',')
  let close ← symbol false ']'
  let isIndex := o.isExpr && arguments.length == 1 && comma.isNone && arguments.all (·.isExpr)
  let isApplied := o.isType && !arguments.isEmpty && arguments.all (·.isType)
  require (isIndex || isApplied)
  let generic := o.isName && isApplied
  pure ⟨.other (o.expr.span.upTo close), true, generic, generic⟩

/-- A bound of a slice. -/
def readBound (g : Grammar) : Reader Unit := do
  let bound ← g.expr Mode.inner
  require bound.isExpr

/-- What stands in brackets behind an operand, as a part of a sequence, from the first colon up
to the closing bracket. -/
def readSliceRest (g : Grammar) (o : Operand) (bounds : List Operand) : Reader Operand := do
  let _ ← symbol false ':'
  let second ← maybe (readBound g)
  if second.isSome then
    let _ ← maybe (do
      let _ ← symbol false ':'
      readBound g)
  let close ← symbol false ']'
  require (o.isExpr && bounds.length ≤ 1 && bounds.all (·.isExpr))
  pure (opaqueValue (o.expr.span.upTo close))

/-- Brackets behind an operand. -/
def readBrackets (g : Grammar) (endsLine : Bool) (o : Operand) : Reader Operand := do
  let _ ← symbol endsLine '['
  let arguments ← maybe (commaList g.limit false (g.expr Mode.inner))
  readIndexRest o (arguments.getD []) <|> readSliceRest g o (arguments.getD [])

/-- Values in braces behind a type, unless the brace begins the block behind the expression. -/
def readComposite (g : Grammar) (mode : Mode) (endsLine : Bool) (o : Operand) :
    Reader Operand := do
  let first ← peek endsLine
  require (o.takesValues && mode.block? != some first.span.start)
  let body ← g.values
  pure (opaqueValue (o.expr.span.upTo body))

/-- Whatever may follow an operand and make another one of it. -/
def readPostfix (g : Grammar) (mode : Mode) (o : Operand) : Reader Operand := do
  let endsLine := mode.endsLine && o.isExpr
  let next ← peek endsLine
  match next.lexeme with
  | .symbol '.' => do
      match ← maybe (follows readTypeMark) with
      | some _ => if mode.inSwitch then failure else readAssertion g endsLine o
      | none => readSelector endsLine o <|> readAssertion g endsLine o
  | .symbol '(' => readCall g endsLine o
  | .symbol '[' => readBrackets g endsLine o
  | .symbol '{' => readComposite g mode endsLine o
  | _ => failure

/-! ### Operators -/

/-- The operator that a character in front of an operand stands for. -/
def unaryOp? (c : Char) : Option UnaryOp :=
  match c with
  | '+' => some .plus
  | '-' => some .minus
  | '^' => some .complement
  | '!' | '*' | '&' => some .other
  | _ => none

/-- An operator in front of an operand. -/
def readPrefixed (g : Grammar) (mode : Mode) (c : Char) (op : UnaryOp) : Reader Operand := do
  let start ← symbol false c
  let operand ← g.unary mode
  let isType := c == '*' && operand.isType
  require (operand.isExpr || isType)
  pure ⟨.unary (start.upTo operand.expr.span) op operand.expr, operand.isExpr, isType, false⟩

/-- A value received from a channel. -/
def readReceive (g : Grammar) (mode : Mode) : Reader Operand := do
  let start ← operator false ['<', '-']
  let operand ← g.unary mode
  require operand.isExpr
  pure (valueOperand (.unary (start.upTo operand.expr.span) .other operand.expr))

/-- A channel type to receive from, where an expression may stand. -/
def readReceiverOperand (g : Grammar) : Reader Operand := do
  let type ← readReceiver g false
  pure (typeOperand type.span false)

/-- An operand with what follows it. -/
def readPrimary (g : Grammar) (mode : Mode) (start : Reader Operand) : Reader Operand := do
  let first ← start
  repeatStep (readPostfix g mode) g.limit first

/-- An operand with the operators in front of it. -/
def readUnary (g : Grammar) (mode : Mode) : Reader Operand := do
  let first ← peek false
  match first.lexeme with
  | .symbol '<' => readPrimary g mode (readReceiverOperand g) <|> readReceive g mode
  | .symbol c =>
      match unaryOp? c with
      | some op => readPrefixed g mode c op
      | none => readPrimary g mode (readOperand g)
  | _ => readPrimary g mode (readOperand g)

/-- The operators that may stand behind an expression, longer ones first.  The operators of
statements have no meaning between operands. -/
def infixTable : List (List Char × Option BinaryOp) :=
  [(['<', '<', '='], none), (['>', '>', '='], none), (['&', '^', '='], none),
    (['&', '&'], some .both), (['|', '|'], some .either), (['=', '='], some .compare),
    (['!', '='], some .compare), (['<', '='], some .compare), (['>', '='], some .compare),
    (['<', '<'], some .shiftLeft), (['>', '>'], some .shiftRight), (['&', '^'], some .andNot),
    (['+', '='], none), (['-', '='], none), (['*', '='], none), (['/', '='], none),
    (['%', '='], none), (['&', '='], none), (['|', '='], none), (['^', '='], none),
    (['+', '+'], none), (['-', '-'], none), (['<', '-'], none),
    (['+'], some .add), (['-'], some .sub), (['*'], some .mul), (['/'], some .div),
    (['%'], some .rem), (['&'], some .and), (['|'], some .or), (['^'], some .xor),
    (['<'], some .compare), (['>'], some .compare)]

/-- The first operator of a table that can be read.  Those of statements count only where a
statement may go on. -/
def readInfix (startsStatement endsLine : Bool) :
    List (List Char × Option BinaryOp) → Reader BinaryOp
  | [] => failure
  | (chars, op?) :: rest => fun ts =>
      match op? with
      | none =>
          if startsStatement && (operator endsLine chars ts).isSome then none
          else readInfix startsStatement endsLine rest ts
      | some op =>
          match operator endsLine chars ts with
          | some (_, behind) => some (op, behind)
          | none => readInfix startsStatement endsLine rest ts

/-- Put together what operators of one precedence join, from the left. -/
def mergeLevel (precedence : Nat) (first : Expr) :
    List (BinaryOp × Expr) → Expr × List (BinaryOp × Expr)
  | [] => (first, [])
  | (op, next) :: rest =>
      if op.precedence = precedence then
        mergeLevel precedence (.binary (first.span.upTo next.span) op first next) rest
      else
        let merged := mergeLevel precedence next rest
        (first, (op, merged.1) :: merged.2)

/-- Put operands and the operators between them together, tightest operators first. -/
def assemble (first : Expr) (rest : List (BinaryOp × Expr)) : Expr :=
  ([5, 4, 3, 2, 1].foldl (fun (e : Expr × List (BinaryOp × Expr)) precedence =>
    mergeLevel precedence e.1 e.2) (first, rest)).1

/-- An operator and the operand behind it. -/
def readTail (g : Grammar) (mode : Mode) : Reader (BinaryOp × Expr) := do
  let op ← readInfix mode.startsStatement mode.endsLine infixTable
  let operand ← readUnary g mode
  require operand.isExpr
  pure (op, operand.expr)

/-- An expression, or a type in its place. -/
def readExpr (g : Grammar) (mode : Mode) : Reader Operand := do
  let first ← readUnary g mode
  if first.isExpr then
    let rest ← many g.limit (readTail g mode)
    if rest.isEmpty then pure first
    else pure (valueOperand (assemble first.expr rest))
  else pure first

/-- An expression. -/
def readValue (g : Grammar) (mode : Mode) : Reader Expr := do
  let operand ← readExpr g mode
  require operand.isExpr
  pure operand.expr

/-- Expressions with commas between them. -/
def readValueList (g : Grammar) (mode : Mode) : Reader (List Expr) :=
  commaList g.limit mode.endsLine (readValue g mode)

/-! ### Values in braces -/

/-- An element of a composite value, or its key. -/
def readElementValue (g : Grammar) : Reader Unit :=
  (do
    let _ ← g.values
    pure ()) <|> (do
    let operand ← g.expr Mode.inner
    require operand.isExpr)

/-- An element of a composite value, with or without a key. -/
def readKeyedValue (g : Grammar) : Reader Unit := do
  readElementValue g
  let _ ← maybe (do
    let _ ← symbol false ':'
    readElementValue g)
  pure ()

/-- Values in braces. -/
def readValues (g : Grammar) : Reader Span := do
  let start ← symbol false '{'
  let _ ← bracketList g.limit (readKeyedValue g)
  let close ← symbol false '}'
  pure (start.upTo close)

end WrapperGen.Source
