import WrapperGen.Interface
import WrapperGen.Output.Header
import WrapperGen.Site
import WrapperGen.Text.LetterCase

/-!
# Writing generated code

Code goes into one file, into one file for each interface, or to the output stream.  All
destinations are looked at, and all texts are made, before anything is written.

## Main definitions

* `EmitSettings`: where code goes, and how it is named.
* `EmitError`: why code cannot be written.
* `Emitter`: all that the text of a file depends on.
* `outputFileName`: the name of the file for an interface.
* `plan`: the destinations of some interfaces.
* `Emitter.emit`: writes the code for some interfaces.
-/

namespace WrapperGen

/-! ### Settings -/

/-- Where code goes. -/
inductive OutputTarget
  /-- Into one file. -/
  | file (path : Path)
  /-- Into one file for each interface, all in one directory. -/
  | directory (dir : Path)
  /-- To the output stream. -/
  | stream
  deriving DecidableEq, Repr, Inhabited

/-- Where code goes, and how it is named. -/
structure EmitSettings where
  /-- Where code goes. -/
  target : OutputTarget
  /-- Whether existing files are replaced. -/
  force : Bool
  /-- The name of the package. -/
  packageName : String
  /-- What stands in front of the names of generated types. -/
  namePrefix? : Option String
  deriving DecidableEq, Repr, Inhabited

namespace EmitSettings

/-- The directory that files are written into. -/
def outputDir? (s : EmitSettings) : Option Path :=
  match s.target with
  | .file path => path.parent?
  | .directory dir => some dir
  | .stream => none

/-- What stands in front of the names of generated types. -/
def namePrefix (s : EmitSettings) : String := s.namePrefix?.getD ""

end EmitSettings

/-- Why code cannot be written. -/
inductive EmitError
  /-- A destination exists already. -/
  | conflict (path : Path) (shown : String)
  /-- Two interfaces have one destination. -/
  | collision (path : Path) (shown first second : String)
  /-- The code is not well formed. -/
  | malformed
  /-- A file or directory cannot be written. -/
  | write (path : Path) (cause : FileError)
  /-- The output stream takes no text. -/
  | streamClosed
  deriving DecidableEq, Repr, Inhabited

/-- The text for an error. -/
def EmitError.message : EmitError → String
  | .conflict _ shown => "filename " ++ shown ++ " already exists, overwrite with --force"
  | .collision _ shown first second =>
      first ++ " and " ++ second ++ " would both be written to " ++ shown
  | .malformed => "generated source is invalid: syntax error"
  | .write path _ => "failed to write " ++ path.text
  | .streamClosed => "failed to write <stdout>"

/-- The name of the file for an interface, given a rule for the name of the file. -/
def outputFileName (fileName : String → String) (namePrefix interfaceName : String) : String :=
  let name := fileName interfaceName
  let full := if namePrefix.isEmpty then name else namePrefix ++ "_" ++ name
  String.ofList ((lowercaseText full).toList.map fun c => if c == '-' then '_' else c)

/-! ### Destinations -/

/-- Add an interface with its destination to a plan.  An interface that is in the plan already
is left out. -/
def addToPlan (shown : Path → String) (planned : List (Interface × Path)) (i : Interface)
    (path : Path) : Except EmitError (List (Interface × Path)) :=
  match planned.find? (fun entry => entry.2.sameSteps path) with
  | none => .ok (planned ++ [(i, path)])
  | some (first, _) =>
      -- the names of files are lower case, so two declarations may well share one
      if first.sameDeclaration i then .ok planned
      else .error (.collision path (shown path) first.qualifiedName i.qualifiedName)

/-- The destinations of some interfaces behind those that are planned already. -/
def planBehind (shown : Path → String) (destination : Interface → Path) :
    List (Interface × Path) → List Interface → Except EmitError (List (Interface × Path))
  | planned, [] => .ok planned
  | planned, i :: rest =>
      match addToPlan shown planned i (destination i) with
      | .ok more => planBehind shown destination more rest
      | .error cause => .error cause

/-- The destinations of some interfaces, each with the first interface that goes there. -/
def plan (shown : Path → String) (destination : Interface → Path)
    (interfaces : List Interface) : Except EmitError (List (Interface × Path)) :=
  planBehind shown destination [] interfaces

/-! ### Emitting -/

/-- All that the text of a file depends on, the interfaces apart. -/
structure Emitter where
  /-- The program that writes the files. -/
  tool : Tool
  /-- The times to name in the files. -/
  clock : Clock
  /-- The directory from which paths are shown. -/
  cwd : Path
  /-- Where code goes, and how it is named. -/
  settings : EmitSettings
  /-- The name of the file for an interface, before it is made lower case. -/
  fileName : String → String
  /-- Writes the code for an interface, given what stands in front of type names. -/
  generate : String → Interface → StateM Draft Unit

namespace Emitter

/-- Write the code for some interfaces. -/
def generateAll (e : Emitter) : List Interface → StateM Draft Unit
  | [] => pure ()
  | i :: rest => do
      e.generate e.settings.namePrefix i
      e.generateAll rest

/-- The file for some interfaces, made at the given look at the clock. -/
def draft (e : Emitter) (look : Nat) (interfaces : List Interface) : Draft :=
  ((e.generateAll interfaces).run
    (Draft.withHeader e.settings.packageName e.tool (e.clock.shows look))).2

/-- The text of the file for some interfaces, made at the given look at the clock. -/
def fileText (e : Emitter) (look : Nat) (interfaces : List Interface) : Except EmitError String :=
  match (e.draft look interfaces).text? with
  | some text => .ok text
  | none => .error .malformed

/-- How a path is shown. -/
def shown (e : Emitter) (path : Path) : String := e.cwd.display path

/-- The failure that comes from a destination that exists already. -/
def conflict (e : Emitter) (path : Path) : EmitError := .conflict path (e.shown path)

/-- The destination of an interface in a directory. -/
def destination (e : Emitter) (dir : Path) (i : Interface) : Path :=
  dir.join ⟨outputFileName e.fileName e.settings.namePrefix i.name⟩

/-- The texts for planned files.  The clock is looked at for each of them, from the given look
on. -/
def planTexts (e : Emitter) (look : Nat) :
    List (Interface × Path) → Except EmitError (List (Path × String))
  | [] => .ok []
  | (i, path) :: rest =>
      match e.fileText look [i] with
      | .error cause => .error cause
      | .ok text =>
          match e.planTexts (look + 1) rest with
          | .error cause => .error cause
          | .ok more => .ok ((path, text) :: more)

/-- Write a file, and the directories above it where they are missing. -/
def writeFile (path : Path) (text : String) : Run EmitError Unit := do
  match path.parent? with
  | none => pure ()
  | some above => Run.onTree (.write above) fun tree => tree.ensureDirectory above
  Run.onTree (.write path) fun tree => tree.writeText path text

/-- Write some files, one after the other. -/
def writeFiles : List (Path × String) → Run EmitError Unit
  | [] => pure ()
  | (path, text) :: rest => do
      writeFile path text
      writeFiles rest

/-- Write the code for some interfaces to the output stream. -/
def emitStream (e : Emitter) (interfaces : List Interface) : Run EmitError (List Path) := do
  let text ← e.fileText 0 interfaces
  Run.print .streamClosed text
  pure []

/-- Write the code for some interfaces into one file. -/
def emitFile (e : Emitter) (path : Path) (interfaces : List Interface) :
    Run EmitError (List Path) := do
  let taken ← Run.look (.write path) fun tree => tree.exists? path
  -- nothing has been written yet, so a conflict leaves all as it is
  if taken && !e.settings.force then throw (e.conflict path)
  let text ← e.fileText 0 interfaces
  writeFile path text
  pure [path]

/-- Write the code for some interfaces, each into its own file in a directory. -/
def emitDirectory (e : Emitter) (dir : Path) (interfaces : List Interface) :
    Run EmitError (List Path) := do
  let planned ← plan e.shown (e.destination dir) interfaces
  if !e.settings.force then
    match ← Run.look (.write dir) fun tree => tree.firstExisting? (planned.map Prod.snd) with
    | some path => throw (e.conflict path)
    | none => pure ()
  -- all texts are made before the first file is written
  let files ← e.planTexts 0 planned
  writeFiles files
  pure (files.map Prod.fst)

/-- Write the code for some interfaces.  The answer is the files that were written. -/
def emit (e : Emitter) (interfaces : List Interface) : Run EmitError (List Path) :=
  match e.settings.target with
  | .stream => e.emitStream interfaces
  | .file path => e.emitFile path interfaces
  | .directory dir => e.emitDirectory dir interfaces

end Emitter

end WrapperGen
