import WrapperGen.Path

/-!
# Where a run looks for packages

A run has a working directory and roots under which packages stand, and it reads the packages as
they are built on one platform, that of the host.  The host has names of its own for systems and
processors, which are not in every case those that file names use.

## Main definitions

* `Platform`, `Platform.ofHost`: a platform to build for, and the one that a host is.
* `Context`: the working directory, the roots and the platform of a run.
* `Context.srcRoot`, `Context.standardRoot?`: the directories that import paths lead into.
-/

namespace WrapperGen

/-! ### Platforms -/

/-- A platform to build for, with the names that file names use. -/
structure Platform where
  /-- The operating system. -/
  system : String
  /-- The processor. -/
  processor : String
  deriving DecidableEq, Repr, Inhabited

/-- The name in file names for what a host calls its operating system. -/
def systemOfHost : String → String
  | "macos" => "darwin"
  | other => other

/-- The name in file names for what a host calls its processor. -/
def processorOfHost : String → String
  | "x86" => "386"
  | "x86_64" => "amd64"
  | "aarch64" => "arm64"
  | "loongarch64" => "loong64"
  | "powerpc" => "ppc"
  | "powerpc64" => "ppc64"
  | "wasm32" => "wasm"
  | other => other

/-- The platform that a host with these names for its system and processor is. -/
def Platform.ofHost (system processor : String) : Platform :=
  ⟨systemOfHost system, processorOfHost processor⟩

/-- The platform that is assumed where nothing else is said. -/
def hostPlatform : Platform := .ofHost "linux" "x86_64"

/-! ### Contexts -/

/-- The working directory, the roots and the platform of a run. -/
structure Context where
  /-- The working directory. -/
  cwd : Path
  /-- The root of the workspace. -/
  gopath : Path
  /-- The root of the installation, if known. -/
  goroot? : Option Path
  /-- The platform that packages are read for. -/
  platform : Platform
  deriving DecidableEq, Repr, Inhabited

namespace Context

/-- The context of a working directory and of roots that are seen from there. -/
def ofRoots (cwd gopath : Path) (goroot? : Option Path) (platform : Platform := hostPlatform) :
    Context :=
  ⟨cwd, cwd.absolutize gopath, goroot?.map cwd.absolutize, platform⟩

/-- The directory under which packages of the workspace stand. -/
def srcRoot (c : Context) : Path := c.gopath.join ⟨"src"⟩

/-- The directory under which packages of the standard library stand. -/
def standardRoot? (c : Context) : Option Path := c.goroot?.map (·.join ⟨"src"⟩)

/-- The source root that packages are searched under. -/
def resolverRoot (c : Context) : Path := c.srcRoot.normalize

end Context

end WrapperGen
