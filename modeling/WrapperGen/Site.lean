import WrapperGen.FileTree

/-!
# What a run changes

A run changes files and prints text.  Both stay as they are at the time of a failure.

## Main definitions

* `Site`: the files, and the output stream.
* `Run`: a computation that may fail and that changes a site.
* `Run.onTree`: a change of the files.
* `Run.print`: a text for the output stream.
-/

namespace WrapperGen

/-- The files, and the output stream. -/
structure Site where
  /-- The files. -/
  tree : FileTree
  /-- The texts on the output stream, in order. -/
  printed : List String
  /-- Whether the output stream takes text. -/
  printable : Bool
  deriving DecidableEq, Inhabited

/-- A computation that may fail with an `ε` and that changes a site. -/
abbrev Run (ε α : Type) := ExceptT ε (StateM Site) α

namespace Run

variable {ε α : Type}

/-- What is found in the files; not to find it is a failure. -/
def look (failed : FileError → ε) (question : FileTree → Except FileError α) : Run ε α := do
  match question (← get).tree with
  | .ok value => pure value
  | .error cause => throw (failed cause)

/-- A change of the files. -/
def onTree (failed : FileError → ε) (change : FileTree → Except FileError FileTree) :
    Run ε Unit := do
  let site ← get
  match change site.tree with
  | .ok tree => set { site with tree := tree }
  | .error cause => throw (failed cause)

/-- A text for the output stream. -/
def print (failed : ε) (text : String) : Run ε Unit := do
  let site ← get
  if site.printable then set { site with printed := site.printed ++ [text] }
  else throw failed

/-- The same computation with other failures. -/
def mapError {δ : Type} (f : ε → δ) (run : Run ε α) : Run δ α := fun site =>
  match run site with
  | (.ok value, after) => (.ok value, after)
  | (.error cause, after) => (.error (f cause), after)

end Run

end WrapperGen
