import WrapperGen.Source.Reader.Basic

/-!
# Reading types

## Main definitions

* `readType`: any type.
* `readParams`, `readResults`: the parts of a signature.
* `groupParams`: which names of a parameter list belong to which type.
* `readElement`, `readField`: what interfaces and structures consist of.
-/

namespace WrapperGen.Source

open Reading

/-- The words that begin a type. -/
def typeWords : List String := ["struct", "interface", "map", "chan", "func"]

/-- A word that does not begin a type. -/
def plainWord (endsLine : Bool) : Reader (String × Span) := do
  let (text, span) ← word endsLine
  require (!typeWords.contains text)
  pure (text, span)

/-! ### Names and arguments -/

/-- A union of types. -/
def readUnion (g : Grammar) (endsLine : Bool) : Reader TypeElem := do
  let first ← g.type endsLine
  let more ← many g.limit (do
    let _ ← symbol endsLine '|'
    g.type endsLine)
  let last := more.getLast?.getD first
  pure (.mk (first.span.upTo last.span) (first :: more))

/-- The arguments of a generic type, in brackets. -/
def readTypeArguments (g : Grammar) (endsLine : Bool) : Reader (List TypeElem × Span) := do
  let _ ← symbol endsLine '['
  let arguments ← commaList g.limit false (readUnion g false)
  let _ ← maybe (symbol false ',')
  let close ← symbol false ']'
  pure (arguments, close)

/-- A type with arguments, if there are any. -/
def readApplied (g : Grammar) (endsLine : Bool) (base : TypeExpr) : Reader TypeExpr := do
  match ← maybe (readTypeArguments g endsLine) with
  | some (arguments, close) => pure (.generic (base.span.upTo close) base arguments)
  | none => pure base

/-- The name behind a point. -/
def readMember (endsLine : Bool) : Reader (String × Span) := do
  let _ ← symbol endsLine '.'
  word false

/-- A type that begins with a name. -/
def readNamed (g : Grammar) (endsLine : Bool) (text : String) (span : Span) :
    Reader TypeExpr := do
  match ← maybe (readMember endsLine) with
  | some (name, stop) => readApplied g endsLine (.qualified (span.upTo stop) text name)
  | none => readApplied g endsLine (.name span text)

/-! ### Parameters -/

/-- An entry of a parameter list. -/
inductive ParamEntry where
  /-- A name alone, which may be a type or the name of a parameter. -/
  | bare (span : Span) (name : String)
  /-- A name with its type. -/
  | named (type : TypeExpr)
  /-- A type that is no name alone. -/
  | unnamed (type : TypeExpr)
  /-- A parameter that may be repeated. -/
  | repeated (type : TypeExpr)
  deriving Inhabited

/-- A name that stands for a type. -/
def bareParam (entry : Span × String) : Param := .mk 0 (.name entry.1 entry.2) false

/-- The parameters that the entries of a list declare, where `pending` are the names alone
directly in front.  They share the type of the next entry if that has a name too, and are types
themselves otherwise. -/
def groupParams (pending : List (Span × String)) : List ParamEntry → List Param
  | [] => pending.map bareParam
  | .bare span name :: rest => groupParams (pending ++ [(span, name)]) rest
  | .named type :: rest => .mk (pending.length + 1) type false :: groupParams [] rest
  | .unnamed type :: rest => pending.map bareParam ++ .mk 0 type false :: groupParams [] rest
  | .repeated type :: rest => pending.map bareParam ++ .mk 0 type true :: groupParams [] rest

/-- The end of an entry of a parameter list. -/
def entryEnd : Reader Unit := do
  let t ← token false
  require (t.lexeme == .symbol ',' || t.lexeme == .symbol ')')

/-- A parameter that may be repeated, with or without a name. -/
def readRepeated (g : Grammar) : Reader ParamEntry := do
  let _ ← maybe (plainWord false)
  let _ ← operator false ['.', '.', '.']
  let type ← g.type false
  pure (.repeated type)

/-- A name alone. -/
def readBare : Reader ParamEntry := do
  let (name, span) ← plainWord false
  follows entryEnd
  pure (.bare span name)

/-- A type alone. -/
def readUnnamed (g : Grammar) : Reader ParamEntry := do
  let type ← g.type false
  follows entryEnd
  pure (.unnamed type)

/-- A name with a type. -/
def readNamedParam (g : Grammar) : Reader ParamEntry := do
  let _ ← plainWord false
  let type ← g.type false
  pure (.named type)

/-- An entry of a parameter list.  Where brackets follow a name, they hold the arguments of a
generic type if the entry ends behind them, and the length of an array otherwise. -/
def readParamEntry (g : Grammar) : Reader ParamEntry :=
  readRepeated g <|> readBare <|> readUnnamed g <|> readNamedParam g

/-- The parameters of a signature, and the place of the closing parenthesis. -/
def readParams (g : Grammar) (endsLine : Bool) : Reader (List Param × Span) := do
  let _ ← symbol endsLine '('
  let entries ← bracketList g.limit (readParamEntry g)
  let close ← symbol false ')'
  pure (groupParams [] entries, close)

/-- The results of a signature, and where they end: a parameter list, a type, or nothing. -/
def readResults (g : Grammar) (endsLine : Bool) : Reader (List Param × Option Span) := do
  match ← maybe (peek endsLine) with
  | none => pure ([], none)
  | some t =>
      if t.lexeme == .symbol '(' then do
        let (params, close) ← readParams g endsLine
        pure (params, some close)
      else
        match ← maybe (g.type endsLine) with
        | some type => pure ([.mk 0 type false], some type.span)
        | none => pure ([], none)

/-! ### Structures and interfaces -/

/-- An embedded type. -/
def readEmbedded (g : Grammar) : Reader Unit := do
  let (text, span) ← word false
  let _ ← readNamed g true text span
  pure ()

/-- Whether an embedded type ends in front of this token. -/
def endsEmbedded : Reader Unit := fun ts =>
  match ts with
  | [] => some ((), ts)
  | t :: _ =>
      match t.lexeme with
      | .string _ => some ((), ts)
      | .symbol c => if t.onNewLine || c == ';' || c == '}' then some ((), ts) else none
      | _ => if t.onNewLine then some ((), ts) else none

/-- The names and the type of a field.  A single name could be an embedded type, so the end of a
line ends the field behind it. -/
def readFieldNames (g : Grammar) : Reader Unit := do
  let _ ← word false
  let more ← maybe (do
    let _ ← symbol true ','
    commaList g.limit false (word false))
  follows (token more.isNone)
  let _ ← g.type true
  pure ()

/-- A field: an embedded type, or names with a type; and perhaps a tag. -/
def readField (g : Grammar) : Reader Unit := do
  (do
    let _ ← symbol false '*'
    readEmbedded g) <|> (do
    readEmbedded g
    endsEmbedded) <|> readFieldNames g
  let _ ← maybe (stringLiteral true)
  pure ()

/-- A structure behind its word. -/
def readStruct (g : Grammar) (start : Span) : Reader TypeExpr := do
  let _ ← symbol false '{'
  let fields ← terminatedList g.limit (readField g)
  let close ← symbol false '}'
  pure (.struct (start.upTo close) !fields.isEmpty)

/-- A method of an interface. -/
def readMethod (g : Grammar) : Reader Element := do
  let (name, span) ← plainWord false
  let (params, close) ← readParams g true
  let (results, stop) ← readResults g true
  pure (.method (span.upTo (stop.getD close)) name params results)

/-- What an interface consists of: a method, or a union of types. -/
def readElement (g : Grammar) : Reader Element :=
  readMethod g <|> (do
    let elem ← readUnion g true
    pure (.types elem))

/-- An interface behind its word. -/
def readInterface (g : Grammar) (start : Span) : Reader TypeExpr := do
  let _ ← symbol false '{'
  let elements ← terminatedList g.limit (readElement g)
  let close ← symbol false '}'
  pure (.interface (start.upTo close) elements)

/-! ### Other types -/

/-- A map behind its word. -/
def readMap (g : Grammar) (endsLine : Bool) (start : Span) : Reader TypeExpr := do
  let _ ← symbol false '['
  let key ← g.type false
  let _ ← symbol false ']'
  let value ← g.type endsLine
  pure (.map (start.upTo value.span) key value)

/-- A channel behind its word.  An arrow there belongs to the element if that can be read as a
channel to receive from. -/
def readChannel (g : Grammar) (endsLine : Bool) (start : Span) : Reader TypeExpr :=
  (do
    let element ← g.type endsLine
    pure (.channel (start.upTo element.span) .both element)) <|> (do
    let _ ← operator false ['<', '-']
    let element ← g.type endsLine
    pure (.channel (start.upTo element.span) .send element))

/-- A channel to receive from. -/
def readReceiver (g : Grammar) (endsLine : Bool) : Reader TypeExpr := do
  let start ← operator false ['<', '-']
  let _ ← keyword false "chan"
  let element ← g.type endsLine
  pure (.channel (start.upTo element.span) .receive element)

/-- A function type behind its word. -/
def readFunctionType (g : Grammar) (endsLine : Bool) (start : Span) : Reader TypeExpr := do
  let (params, close) ← readParams g false
  let (results, stop) ← readResults g endsLine
  pure (.function (start.upTo (stop.getD close)) params results)

/-- An array or a slice. -/
def readBracketType (g : Grammar) (endsLine : Bool) : Reader TypeExpr := do
  let start ← symbol false '['
  (do
    let _ ← symbol false ']'
    let element ← g.type endsLine
    pure (.slice (start.upTo element.span) element)) <|> (do
    let length ← g.expr Mode.inner
    require length.isExpr
    let _ ← symbol false ']'
    let element ← g.type endsLine
    pure (.array (start.upTo element.span) length.expr element))

/-- A type that begins with a word. -/
def readWordType (g : Grammar) (endsLine : Bool) : Reader TypeExpr := do
  let (text, span) ← word false
  if text == "struct" then readStruct g span
  else if text == "interface" then readInterface g span
  else if text == "map" then readMap g endsLine span
  else if text == "chan" then readChannel g endsLine span
  else if text == "func" then readFunctionType g endsLine span
  else readNamed g endsLine text span

/-- A type. -/
def readType (g : Grammar) (endsLine : Bool) : Reader TypeExpr := do
  let first ← peek false
  match first.lexeme with
  | .word _ => readWordType g endsLine
  | .symbol '*' => do
      let start ← symbol false '*'
      let element ← g.type endsLine
      pure (.pointer (start.upTo element.span) element)
  | .symbol '[' => readBracketType g endsLine
  | .symbol '(' => do
      let start ← symbol false '('
      let inner ← g.type false
      let close ← symbol false ')'
      pure (.paren (start.upTo close) inner)
  | .symbol '~' => do
      let start ← symbol false '~'
      let inner ← g.type endsLine
      pure (.approximation (start.upTo inner.span) inner)
  | .symbol '<' => readReceiver g endsLine
  | _ => failure

end WrapperGen.Source
