import WrapperGen.FileTree
import WrapperGen.Toml.Document

/-!
# Configuration files

A configuration file may name the roots under which packages are looked for.  There is one for
the user and one for the project, and the latter counts where both name a root.

## Main definitions

* `Config`: the roots that are named.
* `Config.ofDocument?`: what a document says.
* `Config.load`, `Config.loadOrDefault`: what a file says.
* `Config.layered`: what the files of the user and of the project say.
-/

namespace WrapperGen

open Toml (Node Entries)

/-- The roots that a configuration names. -/
structure Config where
  /-- The root of the workspace. -/
  gopath? : Option Path
  /-- The root of the installation. -/
  goroot? : Option Path
  deriving DecidableEq, Repr, Inhabited

/-- Why a configuration file cannot be used. -/
inductive ConfigError
  /-- It cannot be read. -/
  | unreadable (file : Path) (cause : FileError)
  /-- It is not a well-formed configuration. -/
  | malformed (file : Path)
  deriving DecidableEq, Repr, Inhabited

/-- The text for an error. -/
def ConfigError.message : ConfigError → String
  | .unreadable file _ => "failed to read config: " ++ file.text
  | .malformed file => "failed to parse config: " ++ file.text

namespace Config

/-- The configuration that names nothing. -/
def empty : Config := ⟨none, none⟩

/-! ### From documents -/

/-- The path that a value names, if there is a value; it has to be a text. -/
def pathOf? : Option Node → Option (Option Path)
  | none => some none
  | some (.text value) => some (some ⟨value⟩)
  | some _ => none

/-- The configuration of two values that may be missing. -/
def ofNodes? (gopath? goroot? : Option Node) : Option Config := do
  let gopath? ← pathOf? gopath?
  let goroot? ← pathOf? goroot?
  pure ⟨gopath?, goroot?⟩

/-- The configuration that the roots are given by: a table, or a list with the roots in
order. -/
def ofRoots? : Node → Option Config
  | .table _ entries => ofNodes? (entries.lookup "gopath") (entries.lookup "goroot")
  | .inline entries => ofNodes? (entries.lookup "gopath") (entries.lookup "goroot")
  | .array items => ofNodes? items[0]? items[1]?
  | _ => none

/-- What a document says. -/
def ofEntries? (entries : Entries) : Option Config :=
  match entries.lookup "paths" with
  | none => some empty
  | some roots => ofRoots? roots

/-- What the text of a document says. -/
def ofDocument? (document : String) : Option Config := (Toml.parse? document).bind ofEntries?

/-! ### From files -/

/-- What a file says. -/
def load (tree : FileTree) (file : Path) : Except ConfigError Config :=
  match tree.readText file with
  | .error cause => .error (.unreadable file cause)
  | .ok document =>
      match ofDocument? document with
      | none => .error (.malformed file)
      | some config => .ok config

/-- What a file says; nothing if it cannot be used. -/
def loadOrDefault (tree : FileTree) (file : Path) : Config :=
  match load tree file with
  | .ok config => config
  | .error _ => empty

/-- One configuration over another: what it does not name is taken from the other. -/
def merge (under above : Config) : Config :=
  ⟨above.gopath?.or under.gopath?, above.goroot?.or under.goroot?⟩

/-- The name of the configuration file of a project. -/
def projectFile : Path := ⟨"genlib.toml"⟩

/-- What the file of the user, if there is one, and the file of the project in a directory
say. -/
def layered (tree : FileTree) (userFile? : Option Path) (dir : Path) : Config :=
  let user := (userFile?.map (loadOrDefault tree)).getD empty
  user.merge (loadOrDefault tree (dir.join projectFile))

end Config

end WrapperGen
