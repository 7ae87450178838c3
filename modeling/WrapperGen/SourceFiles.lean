import WrapperGen.Context
import WrapperGen.FileTree

/-!
# The source files of a directory

Not every file of a directory belongs to its package: tests do not, and a file name may restrict
a file to one operating system or processor.

## Main definitions

* `isSourceFile`: the file name is that of a source file and not of a test.
* `matchesPlatform`: the restrictions in a file name allow a platform.
* `sourceFiles`: the files of a directory that are built for a platform.
-/

namespace WrapperGen

/-- The operating systems that a file name may restrict a file to. -/
def knownSystems : List String :=
  ["aix", "android", "darwin", "dragonfly", "freebsd", "hurd", "illumos", "ios", "js", "linux",
    "nacl", "netbsd", "openbsd", "plan9", "solaris", "wasip1", "windows", "zos"]

/-- The processors that a file name may restrict a file to. -/
def knownProcessors : List String :=
  ["386", "amd64", "amd64p32", "arm", "armbe", "arm64", "arm64be", "loong64", "mips", "mipsle",
    "mips64", "mips64le", "mips64p32", "mips64p32le", "ppc", "ppc64", "ppc64le", "riscv",
    "riscv64", "s390", "s390x", "sparc", "sparc64", "wasm"]

/-- The end of the name of a source file. -/
def sourceSuffix : List Char := ['.', 'g', 'o']

/-- The end of the base name of a test. -/
def testSuffix : List Char := ['_', 't', 'e', 's', 't']

/-- Whether a file name is that of a source file and not of a test. -/
def isSourceFile (name : String) : Bool :=
  match sourceSuffix.isSuffixOf? name.toList with
  | none => false
  | some base => !base.isEmpty && (testSuffix.isSuffixOf? base).isNone

/-- The pieces between underscores behind the first underscore of a file name, last one
first. -/
def nameTags (name : String) : List String :=
  let base := (sourceSuffix.isSuffixOf? name.toList).getD name.toList
  let base := (testSuffix.isSuffixOf? base).getD base
  (((List.splitOn '_' base).drop 1).map String.ofList).reverse

/-- Whether a tag allows a platform. -/
def tagAllows (platform : Platform) (tag : String) : Bool :=
  if knownSystems.contains tag then tag == platform.system
  else if knownProcessors.contains tag then tag == platform.processor
  else true

/-- Whether the tags at the end of a file name, last one first, allow a platform. -/
def tagsAllow (platform : Platform) : List String → Bool
  | [] => true
  | [tag] => tagAllows platform tag
  | last :: tag :: _ =>
      if knownSystems.contains tag && knownProcessors.contains last then
        tag == platform.system && last == platform.processor
      else tagAllows platform last

/-- Whether a file name allows its file to be built for a platform. -/
def matchesPlatform (name : String) (platform : Platform) : Bool :=
  tagsAllow platform (nameTags name)

/-- The source files of a directory that are built for a platform, in the order of their names. -/
def sourceFiles (tree : FileTree) (dir : Path) (platform : Platform := hostPlatform) :
    Except FileError (List Path) :=
  match tree.fileNames dir with
  | .error cause => .error cause
  | .ok names =>
      .ok ((names.filter fun name => isSourceFile name && matchesPlatform name platform).map
        fun name => dir.join ⟨name⟩)

end WrapperGen
