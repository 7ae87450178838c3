import WrapperGen.Proofs.Caching

/-!
# What is known of packages

A session may hold packages from earlier requests, and the files may have changed since; but
whatever it holds was read at some time from files that a workspace had then.  So what is true of
every package that is read from a directory, as long as it is true of those that are imported, is
true of all packages that a session ever holds, and of all that are replied.  The same goes for the
names of packages, which a session may have read without checking the package.

## Main definitions

* `Secures`: a computation comes to good values, and keeps sessions right.
* `PackageFact`: what is to be known of packages and of their names.
* `Session.Holds`, `Importer.Keeps`: all packages are as some fact says.
* `Workspace.Reads`, `PackageRequest.Reads`, `ReadFor`: what packages are read from.
* `PackageRequest`, `replies`: requests for packages, each to the workspace as it is then.

## Main results

* `Workspace.holds_loadPackage`, `PackageRequest.Grants.holds_checkPackage`: the steps of a check.
* `holds_of_mem_replies`: all packages that are replied are as the fact says.
-/

namespace WrapperGen

open Source

/-- What is to be known of the packages of import paths and of their names.  A name is known of a
package that has been checked, and also where only the name has been asked for. -/
structure PackageFact where
  /-- What is known of the package. -/
  package : String → CheckedPackage → Prop
  /-- What is known of its name, or of there being none that can be read. -/
  name : String → Option String → Prop
  /-- A package has the name that is known. -/
  named : ∀ {path : String} {p : CheckedPackage}, package path p → name path (some p.name)

/-- A fact about packages that says nothing of names. -/
def PackageFact.ofPackages (package : String → CheckedPackage → Prop) : PackageFact :=
  ⟨package, fun _ _ => True, fun _ => trivial⟩

variable {known : Session → Prop} {α : Type} {good : α → Prop} {fact : PackageFact}

/-- From a session that is `known` to be right, a value that comes out is `good`, and the session is
right afterwards. -/
abbrev Secures (known : Session → Prop) (good : α → Prop) (m : Check α) : Prop :=
  AlikeOn (fun s s' => s = s' ∧ known s) good (fun _ => True) m m

theorem secures_fail {file : SourceFile} {span : Span} {what : Fault} :
    Secures known good (file.fail span what : Check α) :=
  AlikeOn.throw trivial

theorem Secures.good_of_run {m : Check α} (h : Secures known good m) {s : Session} (hs : known s)
    {value : α} (came : (m.run.run s).1 = .ok value) : good value := by
  obtain ⟨result, last, -, ran, -, -, ends⟩ := h s s ⟨rfl, hs⟩
  rw [ran] at came
  rw [show result = .ok value from came] at ends
  cases ends with
  | ok hv => exact hv

theorem Secures.known_run {m : Check α} (h : Secures known good m) {s : Session} (hs : known s) :
    known (m.run.run s).2 := by
  obtain ⟨result, last, _, ran, ran', ⟨rfl, right⟩, -⟩ := h s s ⟨rfl, hs⟩
  rw [ran]
  exact right

/-! ### Sessions and importers -/

/-- All that a session holds is as `fact` says. -/
structure Session.Holds (fact : PackageFact) (s : Session) : Prop where
  /-- Packages. -/
  packages : ∀ path package, s.package? path = some package → fact.package path package
  /-- Names that have been read. -/
  names : ∀ path name?, s.names.lookup path = some name? → fact.name path name?

theorem Session.holds_empty (fact : PackageFact) : Session.empty.Holds fact := ⟨nofun, nofun⟩

/-- All that an importer comes to is as `fact` says, and it keeps sessions right. -/
structure Importer.Keeps (importer : Importer) (fact : PackageFact) (known : Session → Prop) :
    Prop where
  /-- Packages. -/
  load : ∀ path, Secures known (fact.package path) (importer.load path)
  /-- Their names. -/
  name? : ∀ path, Secures known (fact.name path) (importer.name? path)

theorem Importer.Keeps.alike {importer : Importer} (h : importer.Keeps fact known)
    (file : SourceFile) :
    ImportersAlike (fun s s' => s = s' ∧ known s) (fun _ _ => True) (fun _ => True) importer
      importer file :=
  fun path _ => ⟨(h.load path).mono (fun _ _ => trivial) fun _ => id,
    (h.name? path).mono (fun _ _ => trivial) fun _ => id⟩

theorem Importer.Keeps.scopeAlike {importer : Importer} (h : importer.Keeps fact known)
    (scope : PackageScope) :
    ScopeAlike (fun s s' => s = s' ∧ known s) (fun _ _ => True) (fun _ => True) importer importer
      scope :=
  ⟨fun entry _ => h.alike entry.file, fun entry _ => h.alike entry.file⟩

/-! ### Checks -/

namespace Workspace

variable {w : Workspace} {importPath : String}

/-- The package of an import path has the names that the files have to which it leads. -/
def Reads (w : Workspace) (importPath : String) (scope : PackageScope) : Prop :=
  ∃ dir files, w.locate importPath = .ok dir ∧ w.filesIn dir = .ok files
    ∧ scope = PackageScope.ofFiles importPath files

/-- The name of a package is that of the package if it is held, one that has been read before, or
the one in its files, and then the session holds it. -/
theorem holds_packageName? {path : String} (clause : fact.name path (w.clause? path)) :
    Secures (Session.Holds fact) (fact.name path) (w.packageName? path) := by
  rintro s _ ⟨rfl, right⟩
  rw [run_packageName?]
  -- the name is known from the package, or from an earlier look, or is learnt now
  cases held : s.package? path with
  | some package =>
    exact ⟨_, s, s, rfl, rfl, ⟨rfl, right⟩, .ok (fact.named (right.packages _ _ held))⟩
  | none =>
    cases read : s.names.lookup path with
    | some name? => exact ⟨_, s, s, rfl, rfl, ⟨rfl, right⟩, .ok (right.names _ _ read)⟩
    | none =>
      refine ⟨_, s.learnName path (w.clause? path), _, rfl, rfl, ⟨rfl, right.packages, ?_⟩,
        .ok clause⟩
      -- what was learnt now is what the clause says, and all else is as before
      intro other name? found
      by_cases same : other = path
      · rw [same, Session.learnName, List.lookup_cons_self] at found
        rw [same, ← Option.some.inj found]
        exact clause
      · rw [Session.learnName, List.lookup_cons, beq_false_of_ne same] at found
        exact right.names other name? found

theorem holds_whileLoading {m : Check α} (h : Secures (Session.Holds fact) good m) :
    Secures (Session.Holds fact) good (Check.whileLoading importPath m) := by
  rintro s _ ⟨rfl, right⟩
  obtain ⟨result, last, _, ran, -, ⟨rfl, rightToo⟩, ends⟩ :=
    h (s.enter importPath) _ ⟨rfl, right.packages, right.names⟩
  refine ⟨result, last.leave importPath, _, ?_, ?_,
    ⟨rfl, rightToo.packages, rightToo.names⟩, ends⟩
  · rw [Check.run_whileLoading, ran]
  · rw [Check.run_whileLoading, ran]

theorem holds_learning {m : Check CheckedPackage}
    (h : Secures (Session.Holds fact) (fact.package importPath) m) :
    Secures (Session.Holds fact) (fact.package importPath) (Check.learning importPath m) := by
  unfold Check.learning
  refine h.bind fun package hp => ?_
  rintro s _ ⟨rfl, right⟩
  refine ⟨.ok package, s.learnPackage importPath package, _, rfl, rfl, ⟨rfl, ?_, right.names⟩,
    .ok hp⟩
  intro path found hf
  by_cases same : path = importPath
  · rw [same, Session.package?_learnPackage_self] at hf
    rw [same, ← Option.some.inj hf]
    exact hp
  · rw [Session.package?_learnPackage_of_ne s package same] at hf
    exact right.packages path found hf

/-- A package that is imported is as the fact says, if the fact is true of each package that is read
where an import path leads, and of the names there. -/
theorem holds_loadPackage (clauses : ∀ path, fact.name path (w.clause? path))
    (read : ∀ {importer : Importer} {path : String} {dir : Path},
      importer.Keeps fact (Session.Holds fact) → w.locate path = .ok dir →
      Secures (Session.Holds fact) (fact.package path) (w.checkDirectory importer dir path))
    (depth : Nat) (importPath : String) :
    Secures (Session.Holds fact) (fact.package importPath) (w.loadPackage depth importPath) := by
  -- a package that is held is right already, and else it is read, with imports one less deep
  induction depth generalizing importPath with
  | zero =>
    rintro s _ ⟨rfl, right⟩
    rw [run_loadPackage_zero]
    cases held : s.package? importPath with
    | some package => exact ⟨_, s, s, rfl, rfl, ⟨rfl, right⟩, .ok (right.packages _ _ held)⟩
    | none => exact ⟨_, s, s, rfl, rfl, ⟨rfl, right⟩, .error trivial⟩
  | succ depth ih =>
    have entered : Secures (Session.Holds fact) (fact.package importPath)
        (w.checkImport ⟨w.loadPackage depth, w.packageName?⟩ importPath) := by
      unfold checkImport
      refine (AlikeOn.lift fun _ _ => trivial).bind fun dir located => ?_
      exact read ⟨ih, fun path => holds_packageName? (clauses path)⟩ located
    rintro s _ ⟨rfl, right⟩
    rw [run_loadPackage]
    cases held : s.package? importPath with
    | some package => exact ⟨_, s, s, rfl, rfl, ⟨rfl, right⟩, .ok (right.packages _ _ held)⟩
    | none =>
      dsimp only
      split
      · exact ⟨_, s, s, rfl, rfl, ⟨rfl, right⟩, .error trivial⟩
      · exact holds_learning (holds_whileLoading entered) s s ⟨rfl, right⟩

theorem keeps_importer (clauses : ∀ path, fact.name path (w.clause? path))
    (read : ∀ {importer : Importer} {path : String} {dir : Path},
      importer.Keeps fact (Session.Holds fact) → w.locate path = .ok dir →
      Secures (Session.Holds fact) (fact.package path) (w.checkDirectory importer dir path)) :
    w.importer.Keeps fact (Session.Holds fact) :=
  ⟨holds_loadPackage clauses read _, fun path => holds_packageName? (clauses path)⟩

end Workspace

/-! ### Requests -/

/-- A request for the package in a directory, to the workspace as it is then. -/
structure PackageRequest where
  /-- The workspace. -/
  workspace : Workspace
  /-- The directory. -/
  dir : Path
  /-- The import path of the package. -/
  importPath : String

/-- What is read for a request: the files of the directory, and those of packages that are
imported. -/
def PackageRequest.Reads (r : PackageRequest) (importPath : String) (scope : PackageScope) : Prop :=
  r.workspace.Reads importPath scope
    ∨ importPath = r.importPath ∧ ∃ files, r.workspace.filesIn r.dir = .ok files
      ∧ scope = PackageScope.ofFiles importPath files

/-- The name that is read for a request: the one in the files of an import path, or of the
directory. -/
def PackageRequest.ReadsName (r : PackageRequest) (importPath : String) (name? : Option String) :
    Prop :=
  name? = r.workspace.clause? importPath
    ∨ importPath = r.importPath ∧ name? = r.workspace.clauseIn? r.dir

/-- What is read for some requests. -/
def ReadFor (requests : List PackageRequest) (importPath : String) (scope : PackageScope) : Prop :=
  ∃ r ∈ requests, r.Reads importPath scope

/-- What is replied to requests, one after the other in one session. -/
def replies : List PackageRequest → Session → List (Except CheckError CheckedPackage)
  | [], _ => []
  | r :: rest, s =>
      let (reply, last) := (r.workspace.checkPackage r.dir r.importPath).run.run s
      reply :: replies rest last

/-- A request for a package that consists of one file. -/
def requestFor (text : String) : PackageRequest where
  workspace :=
    ⟨⟨[(["src"], .directory directoryMode),
        (["src", "p"], .directory directoryMode),
        (["src", "p", "p.go"], .file (.text text) fileMode)]⟩,
      ⟨⟨"/work"⟩, ⟨"/"⟩, none, hostPlatform⟩⟩
  dir := ⟨"/src/p"⟩
  importPath := "p"

/-- The fact is true of each package that is read for a request, as long as it is true of those that
are imported; and it is true of the names that are read. -/
structure PackageRequest.Grants (r : PackageRequest) (fact : PackageFact) : Prop where
  /-- Names. -/
  names : ∀ path name?, r.ReadsName path name? → fact.name path name?
  /-- Packages. -/
  packages : ∀ {importer : Importer} {path : String} {dir : Path},
    importer.Keeps fact (Session.Holds fact) →
    (∀ files, r.workspace.filesIn dir = .ok files → r.Reads path (.ofFiles path files)) →
    r.ReadsName path (r.workspace.clauseIn? dir) →
    Secures (Session.Holds fact) (fact.package path) (r.workspace.checkDirectory importer dir path)

namespace PackageRequest.Grants

variable {r : PackageRequest}

/-- The packages that are imported for a request are as the fact says. -/
theorem keeps_importer (grants : r.Grants fact) :
    r.workspace.importer.Keeps fact (Session.Holds fact) := by
  refine Workspace.keeps_importer (fun path => grants.names path _ (.inl rfl))
    fun keeps located => grants.packages keeps (fun files found => ?_) ?_
  · exact .inl ⟨_, files, located, found, rfl⟩
  · refine .inl ?_
    rw [Workspace.clause?, located]

/-- The package of a request is as the fact says. -/
theorem holds_checkPackage (grants : r.Grants fact) :
    Secures (Session.Holds fact) (fact.package r.importPath)
      (r.workspace.checkPackage r.dir r.importPath) := by
  unfold Workspace.checkPackage
  refine Workspace.holds_learning (grants.packages grants.keeps_importer ?_ (.inr ⟨rfl, rfl⟩))
  exact fun files found => .inr ⟨rfl, files, found, rfl⟩

end PackageRequest.Grants

/-- All packages that are replied are as the fact says. -/
theorem holds_of_mem_replies {requests : List PackageRequest}
    (grants : ∀ r ∈ requests, r.Grants fact)
    (own : ∀ path package, fact.package path package → package.importPath = path) {s : Session}
    (right : s.Holds fact) {package : CheckedPackage} (h : .ok package ∈ replies requests s) :
    fact.package package.importPath package := by
  -- each request leaves a session in which all is still right
  induction requests generalizing s with
  | nil => cases h
  | cons r rest ih =>
    have secures := (grants r List.mem_cons_self).holds_checkPackage
    rcases ran : (r.workspace.checkPackage r.dir r.importPath).run.run s with ⟨reply, last⟩
    have first : replies (r :: rest) s = reply :: replies rest last := by
      rw [replies, ran]
    rw [first] at h
    rcases List.mem_cons.1 h with rfl | h
    · have hp := secures.good_of_run right (congrArg Prod.fst ran)
      rwa [own _ _ hp]
    · have rightToo := secures.known_run right
      rw [ran] at rightToo
      exact ih (fun other ho => grants other (List.mem_cons_of_mem r ho)) rightToo h

end WrapperGen
