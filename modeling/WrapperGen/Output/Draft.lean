import WrapperGen.Output.Declaration
import WrapperGen.Source.File

/-!
# Files that are being written

A draft holds what will stand in a generated file.  Its text is given away only if it is a
well-formed file.

## Main definitions

* `Draft`: the parts of a generated file.
* `Draft.assemble`: the text of a draft.
* `Draft.text?`: that text, provided that it is well formed.

## Main results

* `Draft.isWellFormed_of_text?`: a text that is given away is well formed.
-/

namespace WrapperGen

/-- The parts of a generated file. -/
structure Draft where
  /-- The name of the package. -/
  packageName : String
  /-- The lines of the comment at the top. -/
  header : List String
  /-- The imports. -/
  imports : ImportTable
  /-- The declarations, in order. -/
  declarations : List String
  deriving DecidableEq, Inhabited

namespace Draft

/-! ### Building -/

/-- A file of a package with nothing in it. -/
def empty (packageName : String) : Draft := ⟨packageName, [], .empty, []⟩

/-- The draft with one more line in the comment at the top. -/
def addHeader (line : String) (d : Draft) : Draft := { d with header := d.header ++ [line] }

/-- The draft with one more declaration. -/
def addDeclaration (text : String) (d : Draft) : Draft :=
  { d with declarations := d.declarations ++ [text] }

@[simp] theorem imports_addHeader (line : String) (d : Draft) :
    (d.addHeader line).imports = d.imports := rfl

@[simp] theorem imports_addDeclaration (text : String) (d : Draft) :
    (d.addDeclaration text).imports = d.imports := rfl

/-- What names other packages, as a step on a draft. -/
def naming {α : Type} (step : StateM ImportTable α) : StateM Draft α := do
  let d ← get
  let (value, imports) := step.run d.imports
  set { d with imports := imports }
  pure value

/-! ### Text -/

/-- The text behind the last slash of an import path. -/
def lastSegment (importPath : String) : String :=
  String.ofList ((List.splitOn '/' importPath.toList).getLast?.getD [])

/-- The line of an import.  The alias is left out where it is the last segment of the path. -/
def importLine (importPath name : String) : String :=
  if lastSegment importPath == name then "\t\"" ++ importPath ++ "\"\n"
  else "\t" ++ name ++ " \"" ++ importPath ++ "\"\n"

/-- The comment at the top, with a blank line behind it. -/
def headerText (lines : List String) : String :=
  if lines.isEmpty then ""
  else String.join (lines.map fun line => "// " ++ line ++ "\n") ++ "\n"

/-- The imports, with a blank line in front of them. -/
def importsText (imports : ImportTable) : String :=
  if imports.entries.isEmpty then ""
  else
    "\nimport (\n" ++ String.join (imports.entries.map fun entry => importLine entry.1 entry.2)
      ++ ")\n"

/-- The text of a draft. -/
def assemble (d : Draft) : String :=
  headerText d.header ++ "package " ++ d.packageName ++ "\n" ++ importsText d.imports
    ++ String.join (d.declarations.map fun text => "\n" ++ text ++ "\n")

/-- The text of a draft, if it is a well-formed file. -/
def text? (d : Draft) : Option String :=
  if Source.isWellFormed d.assemble then some d.assemble else none

/-- A text that is given away is well formed. -/
theorem isWellFormed_of_text? {d : Draft} {text : String} (h : d.text? = some text) :
    Source.isWellFormed text = true := by
  unfold text? at h
  split at h
  · obtain rfl := Option.some.inj h
    assumption
  · cases h

end Draft

end WrapperGen
