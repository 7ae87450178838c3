import WrapperGen.Name
import WrapperGen.Output.Emission

/-!
# Options of a run

## Main definitions

* `Options`: what a run is asked to do.
* `OptionError`: why that cannot be done.
* `Options.settings`: where code goes, once the options have been validated.
* `Options.allows`: whether an interface is asked for.
-/

namespace WrapperGen

/-- What a run is asked to do. -/
structure Options where
  /-- The packages to look through. -/
  specifiers : List String
  /-- The directory for one file per interface. -/
  dir? : Option Path
  /-- The file for all interfaces. -/
  file? : Option Path
  /-- Whether existing files are replaced. -/
  force : Bool
  /-- The names of the interfaces that are asked for; all if there are none. -/
  interfaces : List String
  /-- The name of the generated package. -/
  packageName? : Option String
  /-- What stands in front of the names of generated types. -/
  namePrefix? : Option String
  /-- Whether only the names of the interfaces are printed. -/
  listOnly : Bool
  deriving DecidableEq, Repr, Inhabited

/-- Why a run cannot do what it is asked. -/
inductive OptionError
  /-- Code would go into a directory and into a file. -/
  | twoOutputs
  /-- There is no name for the generated package. -/
  | noPackageName
  /-- The generated package cannot have that name. -/
  | badPackageName (name : String)
  /-- That cannot stand in front of names. -/
  | badPrefix (text : String)
  /-- An interface that is asked for does not exist. -/
  | noSuchInterface (name : String)
  /-- The output directory cannot be made. -/
  | noOutputDir (dir : Path) (cause : FileError)
  deriving DecidableEq, Repr, Inhabited

/-- The text for an error. -/
def OptionError.message : OptionError → String
  | .twoOutputs => "dirname and filename are mutually exclusive"
  | .noPackageName => "could not infer package name, supply one with --package"
  | .badPackageName name => "illegal package name \x60" ++ name ++ "\x60"
  | .badPrefix text => "illegal prefix \x60" ++ text ++ "\x60"
  | .noSuchInterface name => "type '" ++ name ++ "' not found in supplied import paths"
  | .noOutputDir dir _ => "failed to make output directory " ++ dir.text

/-- The file name that stands for the output stream. -/
def streamFileName : String := "-"

/-- Whether two names differ at most in the case of ASCII letters. -/
def sameNameIgnoringCase (a b : String) : Bool :=
  a.toList.map Char.toLower == b.toList.map Char.toLower

/-- The package name that goes with a target: the name of its directory. -/
def OutputTarget.packageName? : OutputTarget → Option String
  | .file path => path.parent?.bind Path.fileName?
  | .directory dir => dir.fileName?
  | .stream => none

namespace Options

/-- Where code goes, as seen from a directory.  Without an option it goes into that
directory. -/
def target (o : Options) (cwd : Path) : Except OptionError OutputTarget :=
  match o.dir?, o.file? with
  | some _, some _ => .error .twoOutputs
  | some dir, none => .ok (.directory (cwd.absolutize dir))
  | none, some file =>
      .ok (if file.text = streamFileName then .stream else .file (cwd.absolutize file))
  | none, none => .ok (.directory (cwd.absolutize ⟨"."⟩))

/-- The name of the generated package. -/
def packageName (o : Options) (target : OutputTarget) : Except OptionError String :=
  match o.packageName?.orElse fun _ => target.packageName? with
  | none => .error .noPackageName
  | some name => if isPlainName name then .ok name else .error (.badPackageName name)

/-- What stands in front of the names of generated types.  The empty text is the same as
none. -/
def namePrefix (o : Options) : Except OptionError (Option String) :=
  match o.namePrefix? with
  | none => .ok none
  | some text =>
      if text.isEmpty then .ok none
      else if isPlainName text then .ok (some text)
      else .error (.badPrefix text)

/-- Where code goes, and how it is named, as seen from a directory. -/
def settings (o : Options) (cwd : Path) : Except OptionError EmitSettings := do
  let target ← o.target cwd
  let packageName ← o.packageName target
  let namePrefix ← o.namePrefix
  pure ⟨target, o.force, packageName, namePrefix⟩

/-- Whether an interface is asked for. -/
def allows (o : Options) (name : String) : Bool :=
  o.interfaces.isEmpty || o.interfaces.any fun allowed => sameNameIgnoringCase allowed name

/-- The first name that is asked for and that no interface has. -/
def firstMissing? (o : Options) (interfaces : List Interface) : Option String :=
  o.interfaces.find? fun name => !interfaces.any fun i => sameNameIgnoringCase i.name name

end Options

end WrapperGen
