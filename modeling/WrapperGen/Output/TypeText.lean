import WrapperGen.Output.ImportTable
import WrapperGen.TypeForm

/-!
# The text of a type

Writing a type imports the packages that it names, so every function here takes the import
table and gives back the table as it is afterwards.

## Main definitions

* `qualify`: a name behind the alias of its package.
* `resultsText`: the results of a signature, from their texts.
* `typeText`: the text of a type, as an interface of package `home` mentions it.
-/

namespace WrapperGen

/-- A name from the package at `importPath`, behind its alias.  The empty path is the package
that is being written, where names stand bare. -/
def qualify (importPath name : String) : StateM ImportTable String :=
  if importPath.isEmpty then pure name
  else do
    let packageAlias ← ImportTable.add importPath
    pure (packageAlias ++ "." ++ name)

/-- Texts with commas between them. -/
def commaText (texts : List String) : String := ", ".intercalate texts

/-- Whether a text begins with the word for functions. -/
def startsWithFunc (text : String) : Bool := ['f', 'u', 'n', 'c'].isPrefixOf text.toList

/-- The results of a signature: nothing, one type, or a list in parentheses.  A function type
stands in parentheses too. -/
def resultsText (results : List String) : String :=
  match results with
  | [] => ""
  | [single] => if startsWithFunc single then " (" ++ single ++ ")" else " " ++ single
  | _ => " (" ++ commaText results ++ ")"

/-- A name as an interface of package `home` mentions it.  A bare name is predeclared or belongs
to `home`. -/
def nameText (home : String) : WrittenName → StateM ImportTable String
  | .named name (some importPath) => qualify importPath name
  | .named name none => if isPredeclared name then pure name else qualify home name
  | .selected qualifier name => do
      if qualifier = foreignQualifier then
        modify fun table => table.bind foreignQualifier foreignQualifier
      pure (qualifier ++ "." ++ name)

/-- A channel of elements with the given text.  A two-way channel of receiving channels needs
parentheses, or its arrow would be taken for its own. -/
def channelText (direction : Direction) (element : WrittenType) (text : String) : String :=
  match direction, element with
  | .both, .channel .receive _ => "chan (" ++ text ++ ")"
  | .both, _ => "chan " ++ text
  | .send, _ => "chan<- " ++ text
  | .receive, _ => "<-chan " ++ text

mutual

/-- The text of a type, as an interface of package `home` mentions it. -/
def typeText (home : String) : WrittenType → StateM ImportTable String
  | .named name => nameText home name
  | .pointer element => do
      let text ← typeText home element
      pure ("*" ++ text)
  | .slice element => do
      let text ← typeText home element
      pure ("[]" ++ text)
  | .array length element => do
      let text ← typeText home element
      pure ("[" ++ toString length.toNat ++ "]" ++ text)
  | .map key value => do
      let keyText ← typeText home key
      let valueText ← typeText home value
      pure ("map[" ++ keyText ++ "]" ++ valueText)
  | .channel direction element => do
      let text ← typeText home element
      pure (channelText direction element text)
  | .function params results variadic => do
      let paramTexts ← paramTexts home variadic params
      let resultTexts ← typeTexts home results
      pure ("func(" ++ commaText paramTexts ++ ")" ++ resultsText resultTexts)
  | .applied base arguments => do
      let baseText ← typeText home base
      let argumentTexts ← typeTexts home arguments
      pure (baseText ++ "[" ++ commaText argumentTexts ++ "]")
  | .emptyInterface => pure "interface\x7b\x7d"
  | .emptyStruct => pure "struct\x7b\x7d"

/-- The texts of some types. -/
def typeTexts (home : String) : List WrittenType → StateM ImportTable (List String)
  | [] => pure []
  | type :: rest => do
      let text ← typeText home type
      let texts ← typeTexts home rest
      pure (text :: texts)

/-- The text of the last parameter, where `dots` asks for a slice to be written as a repeated
parameter. -/
def lastParamText (home : String) (dots : Bool) : WrittenType → StateM ImportTable String
  | .slice element => do
      let text ← typeText home element
      pure ((if dots then "..." else "[]") ++ text)
  | type => typeText home type

/-- The texts of some parameters, where `dots` asks for the last one to be written as a repeated
parameter if it is a slice. -/
def paramTexts (home : String) (dots : Bool) : List WrittenType → StateM ImportTable (List String)
  | [] => pure []
  | [last] => do
      let text ← lastParamText home dots last
      pure [text]
  | type :: next :: rest => do
      let text ← typeText home type
      let texts ← paramTexts home dots (next :: rest)
      pure (text :: texts)

end

end WrapperGen
