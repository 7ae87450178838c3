import WrapperGen.Check.Error
import WrapperGen.Check.Package

/-!
# Sessions

One run asks for many packages, and for some of them many times.  A session remembers the
packages that have been checked and the package names that have been read.  It keeps what it
has learnt when a check fails.  It also holds the packages that are being loaded.

## Main definitions

* `Session`: what has been learnt so far.
* `Check`: a computation that may fail and that uses a session.
* `Check.whileLoading`: a computation during which a package is being loaded.
* `Check.learning`: a computation whose package is remembered.
* `Importer`: how the checker of one package gets at the others.

## Main results

* `package?_learnPackage_self`, `package?_learnPackage_of_ne`: what a session knows after it has
  learnt a package.
* `Check.run_whileLoading`: a package is left also when its check fails.
-/

namespace WrapperGen

/-- What has been learnt of packages, by import path. -/
structure Session where
  /-- The packages that have been checked. -/
  packages : List (String × CheckedPackage)
  /-- The package names that have been read, or that could not be read. -/
  names : List (String × Option String)
  /-- The packages that are being loaded. -/
  loading : List String
  deriving DecidableEq, Inhabited

namespace Session

/-- The session that knows nothing. -/
def empty : Session := ⟨[], [], []⟩

/-- The package of an import path, if it has been checked. -/
def package? (s : Session) (importPath : String) : Option CheckedPackage :=
  s.packages.lookup importPath

/-- The session that knows a package. -/
def learnPackage (s : Session) (importPath : String) (package : CheckedPackage) : Session :=
  { s with packages := (importPath, package) :: s.packages }

/-- The session that knows the name of a package, or that it has none. -/
def learnName (s : Session) (importPath : String) (name? : Option String) : Session :=
  { s with names := (importPath, name?) :: s.names }

/-- The session in which a package is being loaded. -/
def enter (s : Session) (importPath : String) : Session :=
  { s with loading := importPath :: s.loading }

/-- The session in which a package is not being loaded any more. -/
def leave (s : Session) (importPath : String) : Session :=
  { s with loading := s.loading.erase importPath }

@[simp] theorem package?_learnPackage_self (s : Session) (importPath : String)
    (package : CheckedPackage) :
    (s.learnPackage importPath package).package? importPath = some package := by
  simp [package?, learnPackage]

theorem package?_learnPackage_of_ne (s : Session) {importPath other : String}
    (package : CheckedPackage) (h : other ≠ importPath) :
    (s.learnPackage importPath package).package? other = s.package? other := by
  have : (other == importPath) = false := by simp [h]
  simp [package?, learnPackage, List.lookup_cons, this]

@[simp] theorem package?_learnName (s : Session) (importPath other : String)
    (name? : Option String) : (s.learnName importPath name?).package? other = s.package? other :=
  rfl

end Session

/-- A computation that may fail and that uses a session, which outlives the failure. -/
abbrev Check (α : Type) := ExceptT CheckError (StateM Session) α

namespace Check

/-- A computation during which a package is being loaded.  It is not any more afterwards,
whatever the computation comes to. -/
def whileLoading {α : Type} (importPath : String) (check : Check α) : Check α := do
  modify fun session => session.enter importPath
  let result ← ExceptT.lift check.run
  modify fun session => session.leave importPath
  result

theorem run_whileLoading {α : Type} (importPath : String) (check : Check α) (s : Session) :
    (whileLoading importPath check).run.run s
      = ((check.run.run (s.enter importPath)).1,
          (check.run.run (s.enter importPath)).2.leave importPath) := by
  have parts : (whileLoading importPath check).run.run s
      = (liftM (check.run.run (s.enter importPath)).1 : Check α).run.run
          ((check.run.run (s.enter importPath)).2.leave importPath) := rfl
  rw [parts]
  cases (check.run.run (s.enter importPath)).1 with
  | ok value => rfl
  | error cause => rfl

/-- A computation whose package the session learns. -/
def learning (importPath : String) (check : Check CheckedPackage) : Check CheckedPackage := do
  let package ← check
  modify fun session => session.learnPackage importPath package
  pure package

end Check

/-- How the checker of one package gets at the others. -/
structure Importer where
  /-- The package of an import path. -/
  load : String → Check CheckedPackage
  /-- The name of the package of an import path, if it can be read. -/
  name? : String → Check (Option String)

end WrapperGen
