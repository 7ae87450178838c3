import WrapperGen.Source.Reader.Statements

/-!
# Source files

A file is a sequence of package clauses, imports, functions, declarations and statements in any
order.

## Main definitions

* `grammar`: the readers of types, expressions and statements, nested to a given depth.
* `File`, `File.ofText`: what a text holds at its top level, and whether all of it is well
  formed.
* `isWellFormed`: the text is a well-formed file.
-/

namespace WrapperGen.Source

open Reading

/-! ### Nesting -/

/-- The readers for constructs that are nested at most `depth` deep. -/
def grammar (limit : Nat) : Nat → Grammar
  | 0 =>
      { limit := limit
        type := fun _ => failure
        unary := fun _ => failure
        expr := fun _ => failure
        values := failure
        statement := failure
        statements := failure }
  | depth + 1 =>
      { limit := limit
        type := fun endsLine ts => readType (grammar limit depth) endsLine ts
        unary := fun mode ts => readUnary (grammar limit depth) mode ts
        expr := fun mode ts => readExpr (grammar limit depth) mode ts
        values := fun ts => readValues (grammar limit depth) ts
        statement := fun ts => readStatement (grammar limit depth) ts
        statements := fun ts => readStatements (grammar limit depth) ts }

/-- The readers for a list of tokens, in which nothing is nested deeper than it is long. -/
def grammarFor (ts : List Token) : Grammar := grammar (ts.length + 1) (ts.length + 1)

/-! ### Top level -/

/-- A package clause. -/
def readPackage : Reader Item := do
  let _ ← keyword false "package"
  let (name, _) ← word false
  pure (.package name)

/-- The text between the quotes of a string literal. -/
def unquoted (literal : String) : String :=
  String.ofList ((literal.toList.drop 1).dropLast)

/-- The name that an import gives to a package. -/
def readImportName : Reader ImportName :=
  (do
    let _ ← symbol false '.'
    pure .dot) <|> (do
    let (text, _) ← word false
    pure (if text == "_" then .blank else .name text)) <|> pure .own

/-- One import. -/
def readImportSpec : Reader ImportSpec := do
  let name ← readImportName
  let path ← stringLiteral false
  pure ⟨name, unquoted path⟩

/-- Imports. -/
def readImports (g : Grammar) : Reader Item := do
  let _ ← keyword false "import"
  let specs ← oneOrGroup g.limit readImportSpec
  pure (.imports specs)

/-- The parameters, the results and the body of a function. -/
def readFunctionRest (g : Grammar) : Reader Unit := do
  let _ ← readParams g false
  let _ ← readResults g true
  let _ ← maybe (do
    follows (token true)
    readBlock g)
  pure ()

/-- A function. -/
def readFunctionDecl (g : Grammar) : Reader Item := do
  let _ ← keyword false "func"
  let _ ← word false
  let _ ← maybe (readTypeParams g)
  readFunctionRest g
  pure .other

/-- A method. -/
def readMethodDecl (g : Grammar) : Reader Item := do
  let _ ← keyword false "func"
  let _ ← readParams g false
  let _ ← word false
  readFunctionRest g
  pure .other

/-- A statement at the top level. -/
def readTopStatement (g : Grammar) : Reader Item := do
  readStatement g
  pure .other

/-- What may stand at the top level. -/
def readItem (g : Grammar) : Reader Item := do
  let first ← peek false
  match first.lexeme with
  | .word "package" => readPackage
  | .word "import" => readImports g
  -- a method begins as a function does, and so does a statement with a literal
  | .word "func" => readFunctionDecl g <|> readMethodDecl g <|> readTopStatement g
  | .word "type" => do
      let specs ← readTypes g
      pure (.types specs)
  | .word "const" => do
      let specs ← readConstants g
      pure (.constants specs)
  | _ => readTopStatement g

/-- What stands at the top level, and whether all tokens belong to it.  If not, the answer holds
what stands in front of the first part that is not well formed. -/
def readItems (g : Grammar) : Nat → List Token → List Item × Bool
  | 0, ts => ([], ts.isEmpty)
  | _ + 1, [] => ([], true)
  | steps + 1, t :: rest =>
      match readItem g (t :: rest) with
      | none => ([], false)
      | some (item, behind) =>
          match terminator behind with
          -- the part itself was well formed, so its declarations count
          | none => ([item], false)
          | some (_, next) =>
              let more := readItems g steps next
              (item :: more.1, more.2)

/-! ### Files -/

/-- What a text holds at its top level. -/
structure File where
  /-- The parts in front of the first one that is not well formed. -/
  items : List Item
  /-- Whether all parts are well formed. -/
  complete : Bool
  deriving Inhabited

namespace File

/-- The file of some tokens. -/
def ofTokens (ts : List Token) : File :=
  let found := readItems (grammarFor ts) (ts.length + 1) ts
  ⟨found.1, found.2⟩

/-- The file of a text. -/
def ofText (text : String) : File := ofTokens (tokens text.toList)

/-- The name in the first package clause. -/
def packageName? (f : File) : Option String :=
  f.items.findSome? fun
    | .package name => some name
    | _ => none

/-- All imports, in order. -/
def imports (f : File) : List ImportSpec :=
  f.items.flatMap fun
    | .imports specs => specs
    | _ => []

/-- All type declarations, in order. -/
def typeSpecs (f : File) : List TypeSpec :=
  f.items.flatMap fun
    | .types specs => specs
    | _ => []

/-- All groups of constant declarations, in order. -/
def constGroups (f : File) : List (List ConstSpec) :=
  f.items.filterMap fun
    | .constants specs => some specs
    | _ => none

end File

/-- Whether a text is a well-formed file. -/
def isWellFormed (text : String) : Bool := (File.ofText text).complete

end WrapperGen.Source
