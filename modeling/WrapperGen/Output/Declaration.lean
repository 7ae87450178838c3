import WrapperGen.Output.TypeText

/-!
# Declarations of a generated file

## Main definitions

* `FunctionDecl`: a function or method with its body.
* `StructDecl`: a structure type with its fields.
* `FunctionDecl.text`, `StructDecl.text`: how they are written.
* `nameParams`, `forwardingCall`, `forwardingReturn`: the parts of a method that hands a call on
  to another value.
-/

namespace WrapperGen

/-! ### Functions -/

/-- A function, or a method if it has a receiver.  All types are given by their texts. -/
structure FunctionDecl where
  /-- The name and type of the receiver. -/
  receiver : Option (String × String)
  /-- The name of the function. -/
  name : String
  /-- The parameters, such as `v0 string`. -/
  params : List String
  /-- The types of the results. -/
  results : List String
  /-- The statements of the body. -/
  body : List String
  deriving DecidableEq, Inhabited

namespace FunctionDecl

/-- The receiver in front of the name. -/
def receiverText : Option (String × String) → String
  | none => ""
  | some (name, type) => "(" ++ name ++ " " ++ type ++ ") "

/-- The lines of a statement, each behind a tab. -/
def statementText (statement : String) : String :=
  String.ofList ((textLines statement.toList).flatMap fun line => '\t' :: line ++ ['\n'])

/-- The body, in braces. -/
def bodyText (statements : List String) : String :=
  if statements.isEmpty then " \x7b\x7d"
  else " \x7b\n" ++ String.join (statements.map statementText) ++ "\x7d"

/-- How the function is written. -/
def text (f : FunctionDecl) : String :=
  "func " ++ receiverText f.receiver ++ f.name ++ "(" ++ commaText f.params ++ ")"
    ++ resultsText f.results ++ bodyText f.body

/-- A function without receiver. -/
def plain (name : String) (params results body : List String) : FunctionDecl :=
  ⟨none, name, params, results, body⟩

/-- A method of the pointer type to a structure. -/
def onPointer (receiver structName name : String) (params results body : List String) :
    FunctionDecl :=
  ⟨some (receiver, "*" ++ structName), name, params, results, body⟩

end FunctionDecl

/-! ### Structures -/

/-- A name with blanks behind it up to a width in characters. -/
def padName (width : Nat) (name : String) : String :=
  name ++ String.ofList (List.replicate (width - name.toList.length) ' ')

/-- A structure type.  The types of the fields are given by their texts. -/
structure StructDecl where
  /-- The name of the type. -/
  name : String
  /-- The fields with their types. -/
  fields : List (String × String)
  deriving DecidableEq, Inhabited

namespace StructDecl

/-- How the structure is written.  The types of the fields stand in one column, whose place is
the length of the longest name in bytes. -/
def text (s : StructDecl) : String :=
  if s.fields.isEmpty then "type " ++ s.name ++ " struct\x7b\x7d"
  else
    let width := (s.fields.map fun field => field.1.utf8ByteSize).foldl max 0
    "type " ++ s.name ++ " struct \x7b\n"
      ++ String.join (s.fields.map fun field =>
          "\t" ++ padName width field.1 ++ " " ++ field.2 ++ "\n")
      ++ "\x7d"

end StructDecl

/-! ### Handing a call on -/

/-- The texts of the parameters of a method that an interface of package `home` has.  With
`omitDots`, a repeated parameter is written as the slice that it is inside the method. -/
def methodParamTexts (home : String) (omitDots : Bool) (m : Method WrittenName) :
    StateM ImportTable (List String) :=
  paramTexts home (m.signature.variadic && !omitDots) m.signature.params

/-- The texts of the results of a method that an interface of package `home` has. -/
def methodResultTexts (home : String) (m : Method WrittenName) :
    StateM ImportTable (List String) :=
  typeTexts home m.signature.results

/-- The name of the parameter at a position. -/
def paramName (position : Nat) : String := "v" ++ toString position

/-- The name of the captured result at a position. -/
def resultName (position : Nat) : String := "r" ++ toString position

/-- The given types behind the names of parameters, in order. -/
def nameParams (types : List String) : List String :=
  types.mapIdx fun position type => paramName position ++ " " ++ type

/-- The parameters of a method with names. -/
def namedParamTexts (home : String) (m : Method WrittenName) :
    StateM ImportTable (List String) := do
  let types ← methodParamTexts home false m
  pure (nameParams types)

/-- The arguments that hand on the parameters of a signature; a repeated parameter is spread. -/
def forwardedArguments (s : Signature WrittenName) : List String :=
  (List.range s.params.length).map fun position =>
    if s.variadicIndex? == some position then paramName position ++ "..."
    else paramName position

/-- The names of the captured results of a signature. -/
def resultNames (s : Signature WrittenName) : List String :=
  (List.range s.results.length).map resultName

/-- The statement that calls the same method on `target` and captures its results. -/
def forwardingCall (m : Method WrittenName) (target : String) : String :=
  let call := target ++ "." ++ m.name ++ "(" ++ commaText (forwardedArguments m.signature) ++ ")"
  if m.signature.results.isEmpty then call
  else commaText (resultNames m.signature) ++ " := " ++ call

/-- The statement that gives the captured results back. -/
def forwardingReturn (m : Method WrittenName) : String :=
  if m.signature.results.isEmpty then "return"
  else "return " ++ commaText (resultNames m.signature)

/-- A method of the pointer type to a structure with the signature of a method that an
interface of package `home` has. -/
def overridingMethod (receiver structName home : String) (m : Method WrittenName)
    (body : List String) : StateM ImportTable FunctionDecl := do
  let params ← namedParamTexts home m
  let results ← methodResultTexts home m
  pure (FunctionDecl.onPointer receiver structName m.name params results body)

end WrapperGen
