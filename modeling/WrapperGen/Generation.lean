import WrapperGen.Check.Loading
import WrapperGen.Extraction
import WrapperGen.Options
import WrapperGen.Output.Wrapper

/-!
# A run

A run finds the packages that are asked for, takes the interfaces that are wanted from them, and
writes code for those.

## Main definitions

* `GenerateError`: why a run fails.
* `Request`: what a run is given, the files apart.
* `resolveAll`: finds the packages.
* `Request.interfaces`: finds the interfaces.
* `Request.generate`: the whole run.
-/

namespace WrapperGen

/-! ### Errors -/

/-- Why a run fails. -/
inductive GenerateError
  /-- The options cannot be met. -/
  | options (cause : OptionError)
  /-- A package is not found. -/
  | notFound (cause : NotFound)
  /-- A package cannot be used. -/
  | package (cause : ExtractError CheckError)
  /-- Code cannot be written. -/
  | emit (cause : EmitError)
  /-- The output stream takes no text. -/
  | streamClosed
  deriving DecidableEq, Repr, Inhabited

/-- The texts for the causes behind an error of a package. -/
def CheckError.chain (e : CheckError) : List String :=
  match e with
  | .unreadable _ cause => [e.message, cause.message]
  | _ => [e.message]

/-- The texts for the causes behind an error of the options. -/
def OptionError.chain (e : OptionError) : List String :=
  match e with
  | .noOutputDir _ cause => [e.message, cause.message]
  | _ => [e.message]

/-- The texts for the causes behind an error of writing. -/
def EmitError.chain (e : EmitError) : List String :=
  match e with
  | .write _ cause => [e.message, cause.message]
  | _ => [e.message]

/-- The texts for an error and for the causes behind it, nearest first. -/
def GenerateError.chain : GenerateError → List String
  | .options cause => cause.chain
  | .notFound cause => [cause.message]
  | .package error => error.message :: error.cause.chain
  | .emit cause => cause.chain
  | .streamClosed => ["failed to write output"]

/-! ### Finding interfaces -/

/-- Find the packages that are asked for. -/
def resolveAll (tree : FileTree) (context : Context) :
    List String → Except NotFound (List Found)
  | [] => .ok []
  | specifier :: rest =>
      match resolve tree context.resolverRoot context.cwd specifier with
      | .error cause => .error cause
      | .ok found =>
          match resolveAll tree context rest with
          | .error cause => .error cause
          | .ok more => .ok (found :: more)

/-- How packages are checked, given the files. -/
abbrev PackageChecker := FileTree → Path → String → Check CheckedPackage

/-- Checking packages by their source files, as seen in a context. -/
def Context.checker (context : Context) : PackageChecker := fun tree =>
  (Workspace.mk tree context).checkPackage

/-- What a run is given, the files apart. -/
structure Request where
  /-- The working directory and the roots. -/
  context : Context
  /-- What the run is asked to do. -/
  options : Options
  /-- The program that writes the files. -/
  tool : Tool
  /-- The times to name in the files. -/
  clock : Clock
  /-- How packages are checked. -/
  checker : PackageChecker
  /-- The name of the file for an interface, before it is made lower case. -/
  fileName : String → String
  /-- Writes the code for an interface, given what stands in front of type names. -/
  write : String → Interface → StateM Draft Unit

/-- What a run did. -/
inductive Outcome
  /-- It printed the names of interfaces. -/
  | listed (names : List String)
  /-- It wrote files. -/
  | generated (files : List Path)
  deriving DecidableEq, Repr, Inhabited

namespace Request

/-- The packages that are asked for, each checked in one new session. -/
def packages (r : Request) (tree : FileTree) : Except GenerateError PackageSet :=
  match resolveAll tree r.context r.options.specifiers with
  | .error cause => .error (.notFound cause)
  | .ok found =>
      match ((extract (r.checker tree) found).run.run .empty).1 with
      | .error cause => .error (.package cause)
      | .ok packages => .ok packages

/-- The interfaces that are asked for. -/
def interfaces (r : Request) (tree : FileTree) : Except GenerateError (List Interface) := do
  let packages ← r.packages tree
  pure (packages.interfaces.filter fun i => r.options.allows i.name)

/-! ### Running -/

/-- Print names, one on each line. -/
def printNames : List String → Run GenerateError Unit
  | [] => pure ()
  | name :: rest => do
      Run.print .streamClosed (name ++ "\n")
      printNames rest

/-- Print the names of the interfaces that are asked for. -/
def list (r : Request) : Run GenerateError Outcome := do
  let interfaces ← r.interfaces (← get).tree
  let names := interfaces.map Interface.name
  printNames names
  pure (.listed names)

/-- The interfaces as the code in a directory names them: those of its own package stand
bare. -/
def elideOwn (r : Request) (tree : FileTree) (dir : Path) (interfaces : List Interface) :
    List Interface :=
  match inferImportPath? tree r.context.resolverRoot dir with
  | none => interfaces
  | some importPath => interfaces.map (Interface.elideFrom importPath)

/-- Make sure that the output directory exists, and give the interfaces as code there names
them. -/
def prepare (r : Request) (settings : EmitSettings) (interfaces : List Interface) :
    Run GenerateError (List Interface) := do
  match settings.outputDir? with
  | none => pure interfaces
  | some dir => do
      Run.onTree (fun cause => .options (.noOutputDir dir cause)) fun tree =>
        tree.ensureDirectory dir
      -- the path is told from the tree in which the directory has been made
      pure (r.elideOwn (← get).tree dir interfaces)

/-- What writes the files of the run. -/
def emitter (r : Request) (settings : EmitSettings) : Emitter :=
  ⟨r.tool, r.clock, r.context.cwd, settings, r.fileName, r.write⟩

/-- Write the code for the interfaces that are asked for. -/
def emitInterfaces (r : Request) (settings : EmitSettings) : Run GenerateError Outcome := do
  let interfaces ← r.interfaces (← get).tree
  match r.options.firstMissing? interfaces with
  | some name => throw (.options (.noSuchInterface name))
  | none => do
      -- the directory is made here, so it stays there even if the code cannot be written
      let interfaces ← r.prepare settings interfaces
      let files ← Run.mapError .emit ((r.emitter settings).emit interfaces)
      pure (.generated files)

/-- The whole run. -/
def generate (r : Request) : Run GenerateError Outcome :=
  if r.options.listOnly then r.list
  else
    match r.options.settings r.context.cwd with
    | .error cause => throw (.options cause)
    | .ok settings => r.emitInterfaces settings

end Request

end WrapperGen
