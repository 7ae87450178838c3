import WrapperGen.Environment
import WrapperGen.Generation

/-!
# The command line

Arguments are options, which begin with a dash, and the packages to look through.  An option
with a value has it attached or in the next argument.  Behind `--` there are only packages.

## Main definitions

* `Switch`, `Parameter`: the options without and with a value.
* `Arguments`: what the arguments say.
* `readArguments`: reads them.
* `Invocation`, `Invocation.run`: a command and what it does.
-/

namespace WrapperGen

/-! ### Options -/

/-- The options without a value. -/
inductive Switch
  /-- Replace existing files. -/
  | force
  /-- Print names only. -/
  | list
  /-- Say more about what is done. -/
  | verbose
  /-- Show how the command is used. -/
  | help
  /-- Show the version. -/
  | version
  deriving DecidableEq, Repr, Inhabited

/-- The options with a value. -/
inductive Parameter
  /-- The output directory. -/
  | dirname
  /-- The output file. -/
  | filename
  /-- An interface. -/
  | interfaces
  /-- The name of the package. -/
  | package
  /-- What stands in front of names. -/
  | namePrefix
  deriving DecidableEq, Repr, Inhabited

/-- The long names of the switches. -/
def longSwitches : List (String × Switch) :=
  [("force", .force), ("list", .list), ("verbose", .verbose), ("help", .help),
    ("version", .version)]

/-- The letters of the switches. -/
def shortSwitches : List (Char × Switch) :=
  [('f', .force), ('v', .verbose), ('h', .help), ('V', .version)]

/-- The long names of the parameters. -/
def longParameters : List (String × Parameter) :=
  [("dirname", .dirname), ("filename", .filename), ("interfaces", .interfaces),
    ("package", .package), ("prefix", .namePrefix)]

/-- The letters of the parameters. -/
def shortParameters : List (Char × Parameter) :=
  [('d', .dirname), ('o', .filename), ('i', .interfaces), ('p', .package)]

/-- What the arguments say. -/
structure Arguments where
  /-- The switches that are set. -/
  switches : List Switch
  /-- The parameters with their values, in order. -/
  parameters : List (Parameter × String)
  /-- The packages. -/
  specifiers : List String
  deriving DecidableEq, Repr, Inhabited

/-- Why the arguments are not followed. -/
inductive Refusal
  /-- They are not understood. -/
  | misuse
  /-- They ask how the command is used. -/
  | help
  /-- They ask for the version. -/
  | version
  deriving DecidableEq, Repr, Inhabited

namespace Arguments

/-- Nothing said. -/
def empty : Arguments := ⟨[], [], []⟩

/-- One more switch.  None may be set twice. -/
def addSwitch (a : Arguments) (s : Switch) : Except Refusal Arguments :=
  match s with
  | .help => .error .help
  | .version => .error .version
  | s =>
      if a.switches.contains s then .error .misuse
      else .ok { a with switches := a.switches ++ [s] }

/-- Whether a parameter may be given more than once. -/
def isRepeatable : Parameter → Bool
  | .interfaces => true
  | _ => false

/-- Whether a parameter is a path, which cannot be empty. -/
def isPath : Parameter → Bool
  | .dirname | .filename => true
  | _ => false

/-- One more parameter. -/
def addParameter (a : Arguments) (p : Parameter) (value : String) : Except Refusal Arguments :=
  if isPath p && value.isEmpty then .error .misuse
  else if !isRepeatable p && a.parameters.any (fun given => given.1 == p) then .error .misuse
  else .ok { a with parameters := a.parameters ++ [(p, value)] }

/-- More packages. -/
def addSpecifiers (a : Arguments) (specifiers : List String) : Arguments :=
  { a with specifiers := a.specifiers ++ specifiers }

/-- The value of a parameter. -/
def value? (a : Arguments) (p : Parameter) : Option String := a.parameters.lookup p

/-- All values of a parameter. -/
def values (a : Arguments) (p : Parameter) : List String :=
  a.parameters.filterMap fun given => if given.1 == p then some given.2 else none

/-- Whether a switch is set. -/
def isSet (a : Arguments) (s : Switch) : Bool := a.switches.contains s

/-- What a run is asked to do. -/
def toOptions (a : Arguments) : Options where
  specifiers := a.specifiers
  dir? := (a.value? .dirname).map Path.mk
  file? := (a.value? .filename).map Path.mk
  force := a.isSet .force
  interfaces := a.values .interfaces
  packageName? := a.value? .package
  namePrefix? := a.value? .namePrefix
  listOnly := a.isSet .list

end Arguments

/-! ### Reading arguments -/

/-- Whether an argument is an option.  A dash alone is none. -/
def isOption (argument : String) : Bool :=
  match argument.toList with
  | '-' :: _ :: _ => true
  | _ => false

/-- An option, and a parameter that has its value in the next argument. -/
abbrev Pending := Arguments × Option Parameter

/-- Read an option by its long name.  A value may stand behind an equals sign. -/
def readLong (a : Arguments) (option : List Char) : Except Refusal Pending :=
  let name := String.ofList (option.takeWhile (· != '='))
  let attached? : Option String :=
    match option.dropWhile (· != '=') with
    | [] => none
    | _ :: value => some (String.ofList value)
  match longSwitches.lookup name, longParameters.lookup name, attached? with
  | some s, _, none => (a.addSwitch s).map fun a => (a, none)
  | none, some p, some value => (a.addParameter p value).map fun a => (a, none)
  | none, some p, none => .ok (a, some p)
  | _, _, _ => .error .misuse

/-- Read options by their letters.  A value may follow the letter of a parameter, with or
without an equals sign between them. -/
def readShort (a : Arguments) : List Char → Except Refusal Pending
  | [] => .ok (a, none)
  | c :: rest =>
      match shortSwitches.lookup c, shortParameters.lookup c with
      | some s, _ =>
          match a.addSwitch s with
          | .ok a => readShort a rest
          | .error refusal => .error refusal
      | none, some p =>
          match rest with
          | [] => .ok (a, some p)
          | '=' :: value => (a.addParameter p (String.ofList value)).map fun a => (a, none)
          | value => (a.addParameter p (String.ofList value)).map fun a => (a, none)
      | none, none => .error .misuse

/-- Read one option. -/
def readOption (a : Arguments) (argument : String) : Except Refusal Pending :=
  match argument.toList with
  | '-' :: '-' :: name => readLong a name
  | '-' :: letters => readShort a letters
  | _ => .error .misuse

/-- Read further arguments. -/
def readArgumentsBehind (a : Arguments) : List String → Except Refusal Arguments
  | [] => .ok a
  | argument :: rest =>
      if argument = "--" then .ok (a.addSpecifiers rest)
      else if isOption argument then
        match readOption a argument with
        | .error refusal => .error refusal
        | .ok (a, none) => readArgumentsBehind a rest
        | .ok (a, some p) =>
            match rest with
            | [] => .error .misuse
            | value :: rest =>
                if isOption value then .error .misuse
                else
                  match a.addParameter p value with
                  | .error refusal => .error refusal
                  | .ok a => readArgumentsBehind a rest
      else readArgumentsBehind (a.addSpecifiers [argument]) rest

/-- Read arguments.  There has to be a package. -/
def readArguments (arguments : List String) : Except Refusal Arguments :=
  match readArgumentsBehind .empty arguments with
  | .error refusal => .error refusal
  | .ok a => if a.specifiers.isEmpty then .error .misuse else .ok a

/-! ### Commands -/

/-- The name of the command. -/
def commandName : String := "genlib"

/-- The version of the command. -/
def commandVersion : String := "0.1.0"

/-- How the command is used. -/
def usageText : String := "Usage: genlib [OPTIONS] <PATH>...\n"

/-- The options as they are shown, each with what it does. -/
def optionHelp : List (String × String) :=
  [("-d, --dirname <DIRNAME>",
      "The target output directory. Each wrapper will be written to a unique file"),
    ("-o, --filename <FILENAME>",
      "The target output file. All wrappers are written to this file ('-' for stdout)"),
    ("-f, --force", "Do not abort if a write to disk would overwrite an existing file"),
    ("-i, --interfaces <NAME>", "A whitelist of interfaces to generate given the import paths"),
    ("    --list", "Dry run - print the interfaces found in the given import paths"),
    ("-p, --package <NAME>",
      "The name of the generated package (defaults to the name of the target directory)"),
    ("    --prefix <PREFIX>", "A prefix used in the name of each wrapper struct"),
    ("-v, --verbose", "Enable verbose output"),
    ("-h, --help", "Print help"),
    ("-V, --version", "Print version")]

/-- An option and what it does on one line, the latter in a column of its own. -/
def optionLine (width : Nat) (entry : String × String) : String :=
  "  " ++ padName width entry.1 ++ "  " ++ entry.2 ++ "\n"

/-- What the command says about itself. -/
def helpText : String :=
  let width := (optionHelp.map fun entry => entry.1.length).foldl max 0
  "An engine for building derive-from-interface Go code generators\n\n" ++ usageText
    ++ "\nArguments:\n"
    ++ "  <PATH>...  The import paths used to search for eligible interfaces\n\nOptions:\n"
    ++ String.join (optionHelp.map (optionLine width))

/-- How a command ends. -/
structure Ending where
  /-- The exit code. -/
  code : Nat
  /-- The text on the output stream. -/
  output : String
  /-- What is said about a failure. -/
  failure? : Option String
  deriving DecidableEq, Repr, Inhabited

/-- A command, as it is started. -/
structure Invocation where
  /-- The arguments. -/
  arguments : List String
  /-- The working directory. -/
  cwd : Path
  /-- The environment. -/
  environment : Environment
  /-- The times that the run sees. -/
  clock : Clock
  deriving Inhabited

namespace Invocation

/-- The working directory without links on the way to it. -/
def place (i : Invocation) (tree : FileTree) : Path :=
  match tree.directoryPlace? i.cwd with
  | some place => .ofComponents (.root :: place.map .name)
  | none => i.cwd

/-- The program as generated files name it. -/
def tool (i : Invocation) : Tool := ⟨commandName, commandVersion, commandName :: i.arguments⟩

/-- What the arguments ask for, on a host of some platform. -/
def request (i : Invocation) (tree : FileTree) (platform : Platform) (a : Arguments) : Request :=
  let context := i.environment.context tree (i.place tree) platform
  ⟨context, a.toOptions, i.tool, i.clock, context.checker, wrapperFileName, writeWrapper⟩

/-- The text for a failure: the failure and the causes behind it. -/
def failureText (e : GenerateError) : String := "error: " ++ ": ".intercalate e.chain

/-- Run a command on a host of some platform.  The answer is how it ends, and the files as they
are afterwards. -/
def run (i : Invocation) (tree : FileTree) (platform : Platform := hostPlatform) :
    Ending × FileTree :=
  match readArguments i.arguments with
  | .error .misuse => (⟨2, "", some ("error: invalid arguments\n\n" ++ usageText)⟩, tree)
  | .error .help => (⟨0, helpText, none⟩, tree)
  | .error .version => (⟨0, commandName ++ " " ++ commandVersion ++ "\n", none⟩, tree)
  | .ok a =>
      let (result, site) := (i.request tree platform a).generate.run.run ⟨tree, [], true⟩
      let output := String.join site.printed
      match result with
      | .ok _ => (⟨0, output, none⟩, site.tree)
      | .error e => (⟨1, output, some (failureText e)⟩, site.tree)

end Invocation

end WrapperGen
