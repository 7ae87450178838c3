import WrapperGen.Source.Reader.Expressions

/-!
# Reading declarations and statements

Declarations are kept; of other statements only the extent matters.  Where a block follows an
expression, a brace may begin the block or values of a type, so each brace ahead is tried as the
beginning of the block until the statement can be read to its end.

## Main definitions

* `readTypes`, `readConstants`, `readVariables`: declarations.
* `withBlock`: a statement with an expression and a block behind it.
* `readStatement`, `readStatements`: one statement, and the statements of a block.
-/

namespace WrapperGen.Source

open Reading

/-! ### Declarations -/

/-- Names with commas between them. -/
def readNames (g : Grammar) (endsLine : Bool) : Reader (List String) :=
  commaList g.limit endsLine (do
    let (name, _) ← word false
    pure name)

/-- Type parameters that are declared together: names and a limit. -/
def readTypeParam (g : Grammar) : Reader Unit := do
  let _ ← commaList g.limit false (word false)
  let _ ← readUnion g false
  pure ()

/-- The parameters of a type or a function. -/
def readTypeParams (g : Grammar) : Reader Unit := do
  let _ ← symbol false '['
  let _ ← commaList g.limit false (readTypeParam g)
  let _ ← maybe (symbol false ',')
  let _ ← symbol false ']'
  pure ()

/-- The declaration of one type.  Brackets behind the name belong to an array or a slice if that
can be read, and hold type parameters otherwise. -/
def readTypeSpec (g : Grammar) : Reader TypeSpec := do
  let (name, _) ← word false
  (do
    let _ ← symbol false '='
    let type ← g.type true
    pure ⟨name, false, type⟩) <|> (do
    let type ← g.type true
    pure ⟨name, false, type⟩) <|> (do
    readTypeParams g
    let type ← g.type true
    pure ⟨name, true, type⟩)

/-- Type declarations behind their word. -/
def readTypes (g : Grammar) : Reader (List TypeSpec) := do
  let _ ← keyword false "type"
  oneOrGroup g.limit (readTypeSpec g)

/-- The values behind an equals sign. -/
def readAssigned (g : Grammar) (endsLine : Bool) : Reader (List Expr) := do
  let _ ← symbol endsLine '='
  readValueList g Mode.line.value

/-- The declaration of constants with one list of values. -/
def readConstSpec (g : Grammar) : Reader ConstSpec := do
  let names ← readNames g true
  (do
    let values ← readAssigned g true
    pure ⟨names, some values⟩) <|> (do
    follows (token true)
    let _ ← g.type false
    let values ← readAssigned g false
    pure ⟨names, some values⟩) <|> pure ⟨names, none⟩

/-- Constant declarations behind their word. -/
def readConstants (g : Grammar) : Reader (List ConstSpec) := do
  let _ ← keyword false "const"
  oneOrGroup g.limit (readConstSpec g)

/-- The declaration of variables with one type or one list of values. -/
def readVarSpec (g : Grammar) : Reader Unit := do
  let _ ← readNames g false
  (do
    let _ ← readAssigned g false
    pure ()) <|> (do
    let _ ← g.type true
    let _ ← maybe (readAssigned g true)
    pure ())

/-- Variable declarations behind their word. -/
def readVariables (g : Grammar) : Reader Unit := do
  let _ ← keyword false "var"
  let _ ← oneOrGroup g.limit (readVarSpec g)
  pure ()

/-! ### Simple statements -/

/-- The operators that assign. -/
def assignOperators : List (List Char) :=
  [['<', '<', '='], ['>', '>', '='], ['&', '^', '='], ['+', '='], ['-', '='], ['*', '='],
    ['/', '='], ['%', '='], ['&', '='], ['|', '='], ['^', '='], [':', '='], ['=']]

/-- The first of some readers that reads something. -/
def firstOf {α : Type} : List (Reader α) → Reader α
  | [] => failure
  | p :: rest => p <|> firstOf rest

/-- An operator that assigns.  An equals sign is not the beginning of a comparison. -/
def readAssign (endsLine : Bool) : Reader Unit := do
  let _ ← firstOf (assignOperators.map (operator endsLine))
  pure ()

/-- The expressions in front of an assignment.  Behind the first comma, the end of a line ends
nothing. -/
def readTargets (g : Grammar) (mode : Mode) : Reader (List Expr) := do
  let first ← readValue g mode
  let more ← many g.limit (do
    let _ ← symbol mode.endsLine ','
    readValue g { mode with endsLine := false })
  pure (first :: more)

/-- A simple statement; the answer says whether it is an expression alone. -/
def readSimple (g : Grammar) (mode : Mode) : Reader Bool := do
  let targets ← readTargets g mode
  let single := targets.length == 1
  let endsLine := mode.endsLine && single
  (do
    require single
    let _ ← operator endsLine ['<', '-']
    let _ ← readValue g mode.value
    pure false) <|> (do
    require single
    let _ ← operator endsLine ['+', '+'] <|> operator endsLine ['-', '-']
    pure false) <|> (do
    readAssign endsLine
    let _ ← readValueList g mode.value
    pure false) <|> (do
    require single
    pure true)

/-- A simple statement and the semicolon that sets it off from what follows. -/
def readInitializer (g : Grammar) (mode : Mode) : Reader Unit := do
  let _ ← readSimple g mode
  let _ ← symbol false ';'
  pure ()

/-! ### Statements with blocks -/

/-- The words that begin a case of a switch. -/
def caseWords : List String := ["case", "default"]

/-- Whether a statement may end in front of the next token. -/
def endsStatement : Reader Unit := fun ts =>
  match ts with
  | [] => some ((), ts)
  | t :: _ =>
      match t.lexeme with
      | .symbol c => if t.onNewLine || c == ';' || c == '}' then some ((), ts) else none
      | .word text => if t.onNewLine || caseWords.contains text then some ((), ts) else none
      | _ => if t.onNewLine then some ((), ts) else none

/-- Where braces open something outside of all brackets, given by how many characters stand in
front.  The brackets that have been opened so far are counted by `opened`. -/
def braceStarts (opened : Nat) : List Token → List Nat
  | [] => []
  | t :: rest =>
      match t.lexeme with
      | .symbol c =>
          if c == '(' || c == '[' then braceStarts (opened + 1) rest
          else if c == '{' then
            (if opened = 0 then [t.span.start] else []) ++ braceStarts (opened + 1) rest
          else if c == ')' || c == ']' || c == '}' then
            if opened = 0 then [] else braceStarts (opened - 1) rest
          else braceStarts opened rest
      | _ => braceStarts opened rest

/-- Nothing, provided that the next token is the given brace. -/
def atBrace (block : Nat) : Reader Unit := do
  let t ← peek false
  require (t.lexeme == .symbol '{' && t.span.start == block)

/-- A statement that begins with a header and a block.  Each brace ahead is tried as the
beginning of the block. -/
def withBlock {α : Type} (header : Mode → Reader α) (body : α → Reader Unit) : Reader Unit :=
  fun ts =>
    (braceStarts 0 ts).findSome? fun block =>
      (do
        let value ← header (Mode.header block)
        atBrace block
        body value
        follows endsStatement : Reader Unit) ts

/-- The header of a condition: perhaps a simple statement, and an expression. -/
def readCondition (g : Grammar) (mode : Mode) : Reader Unit := do
  let isExpr ← readSimple g mode
  match ← maybe (symbol false ';') with
  | some _ => do
      let _ ← readValue g mode.value
      pure ()
  | none => require isExpr

/-- What follows the block of a condition. -/
def readElse (g : Grammar) : Reader Unit := do
  let _ ← keyword true "else"
  let next ← peek false
  match next.lexeme with
  | .symbol '{' => do
      let _ ← readBlock g
      pure ()
  | .word "if" => g.statement
  | _ => failure

/-- A condition with its block. -/
def readIf (g : Grammar) : Reader Unit := do
  let _ ← keyword false "if"
  withBlock (readCondition g) fun _ => do
    let _ ← readBlock g
    let _ ← maybe (readElse g)
    pure ()

/-- The header of a loop over the elements of a value. -/
def readRange (g : Grammar) (mode : Mode) : Reader Unit := do
  let _ ← maybe (do
    let _ ← readTargets g mode
    let _ ← operator false [':', '='] <|> symbol false '='
    pure ())
  let _ ← keyword false "range"
  let _ ← readValue g mode.value
  pure ()

/-- The header of a loop with a counter. -/
def readCounting (g : Grammar) (mode : Mode) : Reader Unit := do
  let _ ← maybe (readSimple g mode)
  let _ ← symbol false ';'
  let _ ← maybe (readValue g mode.value)
  let _ ← symbol false ';'
  let _ ← maybe (readSimple g mode)
  pure ()

/-- The header of a loop. -/
def readLoopHeader (g : Grammar) (mode : Mode) : Reader Unit :=
  let block := mode.block?.getD 0
  firstOf [
    atBrace block,
    do
      readRange g mode
      follows (atBrace block),
    do
      readCounting g mode
      follows (atBrace block),
    do
      let _ ← readValue g mode
      pure ()]

/-- A loop with its block. -/
def readFor (g : Grammar) : Reader Unit := do
  let _ ← keyword false "for"
  withBlock (readLoopHeader g) fun _ => do
    let _ ← readBlock g
    pure ()

/-! ### Cases -/

/-- The cases of a switch, in braces.  `label` reads what stands between the word and the
colon. -/
def readCases (g : Grammar) (label : Reader Unit) : Reader Unit := do
  let _ ← symbol false '{'
  let _ ← many g.limit (do
    (do
      let _ ← keyword false "case"
      label) <|> (do
      let _ ← keyword false "default"
      pure ())
    let _ ← symbol false ':'
    g.statements)
  let _ ← symbol false '}'
  pure ()

/-- The subject of a switch over types, perhaps with a name for the value. -/
def readTypeSubject (g : Grammar) (mode : Mode) : Reader Unit := do
  let subject := { mode with inSwitch := true }
  let _ ← maybe (do
    let _ ← readTargets g subject
    let _ ← operator false [':', '=']
    pure ())
  let _ ← readValue g subject
  readTypeMark

/-- The header of a switch; the answer says whether it is one over types. -/
def readSwitchHeader (g : Grammar) (mode : Mode) : Reader Bool := do
  let block := mode.block?.getD 0
  let subject : Reader Bool := firstOf [
    do
      atBrace block
      pure false,
    do
      readTypeSubject g mode
      pure true,
    do
      let _ ← readValue g mode.value
      pure false]
  (do
    readInitializer g mode
    subject) <|> subject

/-- The label of a case in a switch over values or over types. -/
def readCaseLabel (g : Grammar) (overTypes : Bool) : Reader Unit :=
  if overTypes then do
    let _ ← commaList g.limit false (g.type false)
    pure ()
  else do
    let _ ← readValueList g Mode.inner
    pure ()

/-- A switch. -/
def readSwitch (g : Grammar) : Reader Unit := do
  let _ ← keyword false "switch"
  withBlock (readSwitchHeader g) fun overTypes => readCases g (readCaseLabel g overTypes)

/-- What a case of a choice between channels does. -/
def readCommunication (g : Grammar) : Reader Unit := do
  let mode := { Mode.line with endsLine := false }
  let _ ← readSimple g mode
  pure ()

/-- A choice between channels. -/
def readSelect (g : Grammar) : Reader Unit := do
  let _ ← keyword false "select"
  readCases g (readCommunication g)

/-! ### Statements -/

/-- What is given back, if anything. -/
def readReturn (g : Grammar) : Reader Unit := do
  let _ ← keyword false "return"
  endsStatement <|> (do
    let _ ← readValueList g Mode.line.value
    pure ())

/-- A jump, perhaps with a label. -/
def readJump (name : String) (needsLabel : Bool) : Reader Unit := do
  let _ ← keyword false name
  if needsLabel then do
    let _ ← word false
    pure ()
  else endsStatement <|> (do
    let _ ← word true
    pure ())

/-- A call that runs beside this one or at its end. -/
def readDetached (g : Grammar) (name : String) : Reader Unit := do
  let _ ← keyword false name
  let _ ← readValue g Mode.line.value
  pure ()

/-- A label, whose colon is not the beginning of an operator. -/
def readLabel : Reader Unit := do
  let _ ← word false
  let _ ← symbol true ':'
  let next ← maybe (peek false)
  require !(next.any fun t => t.joined && t.lexeme == .symbol '=')

/-- A label in front of a statement. -/
def readLabeled (g : Grammar) : Reader Unit := do
  readLabel
  g.statement

/-- A statement that begins with a word of its own, where the word is given. -/
def readWordStatement (g : Grammar) (text : String) : Option (Reader Unit) :=
  match text with
  | "const" => some (do
      let _ ← readConstants g
      pure ())
  | "type" => some (do
      let _ ← readTypes g
      pure ())
  | "var" => some (readVariables g)
  | "return" => some (readReturn g)
  | "go" => some (readDetached g "go")
  | "defer" => some (readDetached g "defer")
  | "if" => some (readIf g)
  | "for" => some (readFor g)
  | "switch" => some (readSwitch g)
  | "select" => some (readSelect g)
  | "break" => some (readJump "break" false)
  | "continue" => some (readJump "continue" false)
  | "goto" => some (readJump "goto" true)
  | "fallthrough" => some (do
      let _ ← keyword false "fallthrough"
      pure ())
  | "case" => some failure
  | "default" => some failure
  | _ => none

/-- A statement that is no declaration and begins with no word of its own. -/
def readPlainStatement (g : Grammar) : Reader Unit := do
  let _ ← readSimple g Mode.line
  pure ()

/-- A statement. -/
def readStatement (g : Grammar) : Reader Unit := do
  let first ← peek false
  match first.lexeme with
  | .symbol '{' => do
      let _ ← readBlock g
      pure ()
  | .symbol ';' => do
      let _ ← symbol false ';'
      pure ()
  | .word text =>
      match readWordStatement g text with
      | some p => p
      | none => readLabeled g <|> readPlainStatement g
  | _ => readPlainStatement g

/-- Whether statements end in front of this token. -/
def endsStatements (t : Token) : Bool :=
  match t.lexeme with
  | .symbol c => c == '}'
  | .word text => caseWords.contains text
  | _ => false

/-- A label behind the last statement of a block. -/
def readLastLabel (g : Grammar) : Reader Unit := do
  follows (do
    let (text, _) ← word false
    require (readWordStatement g text).isNone)
  readLabel
  let next ← peek false
  require (endsStatements next)

/-- The statements of a block. -/
def readStatements (g : Grammar) : Reader Unit := do
  let _ ← terminatedList g.limit (readLastLabel g <|> readStatement g)
  pure ()

end WrapperGen.Source
