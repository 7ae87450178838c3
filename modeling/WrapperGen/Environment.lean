import WrapperGen.Config
import WrapperGen.Context

/-!
# The environment of a run

The roots come from environment variables; what those do not say is taken from configuration
files, and the root of the workspace has a default in the home directory.

## Main definitions

* `Environment`: the variables of a run.
* `Environment.context`: where a run looks for packages.
-/

namespace WrapperGen

/-- The variables of a run, with their values. -/
structure Environment where
  /-- The variables; of two with one name the first counts. -/
  bindings : List (String × String)
  deriving DecidableEq, Repr, Inhabited

namespace Environment

/-- The value of a variable. -/
def value? (e : Environment) (name : String) : Option String := e.bindings.lookup name

/-- The value of a variable, unless it is empty. -/
def nonEmpty? (e : Environment) (name : String) : Option String :=
  (e.value? name).filter (!·.isEmpty)

/-- The home directory. -/
def home? (e : Environment) : Option Path := (e.nonEmpty? "HOME").map Path.mk

/-- The directory for the configuration files of the user. -/
def configHome? (e : Environment) : Option Path :=
  match e.home? with
  | none => none
  | some home =>
      match e.value? "XDG_CONFIG_HOME" with
      | some dir => some (if Path.isAbsolute ⟨dir⟩ then ⟨dir⟩ else home.join ⟨".config"⟩)
      | none => some (home.join ⟨".config"⟩)

/-- The configuration file of the user. -/
def userFile? (e : Environment) : Option Path :=
  e.configHome?.map fun dir => (dir.join ⟨"genlib"⟩).join ⟨"config.toml"⟩

/-- The first path in a list with colons between the paths that is not empty. -/
def firstPath? (paths : String) : Option Path :=
  ((List.splitOn ':' paths.toList).find? (!·.isEmpty)).map fun path => ⟨String.ofList path⟩

/-- The root of the workspace that is used where nothing names one. -/
def defaultGopath (e : Environment) : Path :=
  match e.home? with
  | some home => home.join ⟨"go"⟩
  | none => ⟨"go"⟩

/-- The root of the workspace. -/
def gopath (e : Environment) (config : Config) : Path :=
  (((e.value? "GOPATH").bind firstPath?).or config.gopath?).getD e.defaultGopath

/-- The root of the installation, if anything names it. -/
def goroot? (e : Environment) (config : Config) : Option Path :=
  ((e.nonEmpty? "GOROOT").map Path.mk).or config.goroot?

/-- Where a run in a directory looks for packages, and for which platform it reads them. -/
def context (e : Environment) (tree : FileTree) (cwd : Path) (platform : Platform) : Context :=
  let config := Config.layered tree (e.userFile?.map cwd.join) cwd
  .ofRoots cwd (e.gopath config) (e.goroot? config) platform

end Environment

end WrapperGen
