import WrapperGen.Proofs.Caching

/-!
# Checks end, and the cycles that they find are real

The check of a package goes down three kinds of references: from a type to those that its
definition names, from a constant to those in its expression, and from a package to those that it
imports.  Each has a guard against cycles, and a bound on how deep it may go.  The bounds are never
felt, whatever refers to what, and the guards strike only where there is a cycle.  That is said of
checks that do anything else instead: they come to the same.  And if a check fails with a cycle,
then the cycle goes through what the failure names.

The package whose check is asked for is not guarded.  If an import leads back to it, it is checked
once more as an import, and the next import on the way is found to be loading.

## Main definitions

* `Workspace.loadOr`, `Workspace.checkPackageOr`: loading and checking, where `beyond` tells what is
  done beyond the bounds.
* `Workspace.RealCycles`, `Workspace.Stuck`: the cycles that a failure tells of are there.
* `Workspace.SameFor`: two workspaces hold the same of what is asked for.
* `Workspace.Remembers`: a relation between sessions that the steps of a check keep.

## Main results

* `Workspace.alike_loadOr`: loading comes to the same in both, whatever is done beyond the bounds.
* `Workspace.checkPackage_real_cycles`: checks end, and the cycles that they find are real.
-/

namespace WrapperGen
namespace Workspace

open Source

variable {w w' : Workspace} {asked : String → Prop} {loading : List String} {importPath : String}
  {dir : Path}

/-! ### Real cycles -/

/-- The cycles that a failure of the check of a package tells of are there: those of types and of
constants in the package, and those of imports.  A failure that comes from an import is the one of
loading it. -/
def RealCycles (w : Workspace) : CheckError → Path → String → Prop
  | .fault _ _ what, dir, importPath =>
      ∃ files, w.filesIn dir = .ok files ∧ what.IsReal (PackageScope.ofFiles importPath files)
  | .importFailed _ _ other cause, dir, _ =>
      w.Mentions dir other
        ∧ ((cause = .importCycle other ∧ Relation.TransGen w.Needs other other)
          ∨ w.locate other = .error cause
          ∨ ∃ below, w.locate other = .ok below ∧ w.RealCycles cause below other)
  | .importCycle _, _, _ => False
  | _, _, _ => True

/-- A package cannot be loaded for a cause: it needs itself, or is not found, or its check fails. -/
def Stuck (w : Workspace) (importPath : String) (cause : CheckError) : Prop :=
  (cause = .importCycle importPath ∧ Relation.TransGen w.Needs importPath importPath)
    ∨ w.locate importPath = .error cause
    ∨ ∃ dir, w.locate importPath = .ok dir ∧ w.RealCycles cause dir importPath

theorem realCycles_of_isPlain {cause : CheckError} (h : cause.IsPlain) :
    w.RealCycles cause dir importPath := by
  cases cause with
  | fault | importFailed | importCycle => cases h
  | _ => trivial

theorem admits_realCycles {files : List SourceFile} (read : w.filesIn dir = .ok files) :
    Admits (PackageScope.ofFiles importPath files)
      (fun other cause => w.Mentions dir other ∧ w.Stuck other cause)
      fun cause => w.RealCycles cause dir importPath where
  fault := fun _ _ _ real => ⟨files, read, real⟩
  plain := fun _ plain => realCycles_of_isPlain plain
  importFailed := fun _ _ _ _ stuck => stuck

/-! ### Beyond the bounds -/

open Classical in
/-- A package that has been checked, or else what `enter` comes to, unless the package is being
loaded.  What is done then, if it does not need itself, `beyond` tells. -/
noncomputable def unlessLoading (w : Workspace) (beyond : String → Check CheckedPackage)
    (importPath : String) (enter : Check CheckedPackage) : Check CheckedPackage := do
  let session ← get
  match session.package? importPath with
  | some package => pure package
  | none =>
      if session.loading.contains importPath then
        if Relation.TransGen w.Needs importPath importPath then throw (.importCycle importPath)
        else beyond importPath
      else enter

/-- The package of an import path, as `loadPackage` has it, but for what is done beyond the bounds:
where the depth is used up, and where a package is being loaded that does not need itself. -/
noncomputable def loadOr (w : Workspace) (beyond : String → Check CheckedPackage) :
    Nat → String → Check CheckedPackage
  | 0, importPath => w.unlessLoading beyond importPath (beyond importPath)
  | depth + 1, importPath =>
      w.unlessLoading beyond importPath
        (Check.learning importPath (Check.whileLoading importPath
          (w.checkImport ⟨w.loadOr beyond depth, w.packageName?⟩ importPath)))

theorem loadOr_eq (beyond : String → Check CheckedPackage) (depth : Nat) :
    w.loadOr beyond depth importPath
      = w.unlessLoading beyond importPath (match depth with
        | 0 => beyond importPath
        | less + 1 =>
            Check.learning importPath (Check.whileLoading importPath
              (w.checkImport ⟨w.loadOr beyond less, w.packageName?⟩ importPath))) := by
  cases depth with
  | zero => rfl
  | succ less => rfl

/-- The package in a directory, as `checkPackage` has it, but for what is done beyond the bounds,
and with another bound. -/
noncomputable def checkPackageOr (w : Workspace) (beyond : String → Check CheckedPackage)
    (depth : Nat) (dir : Path) (importPath : String) : Check CheckedPackage :=
  Check.learning importPath
    (w.checkDirectory ⟨w.loadOr beyond depth, w.packageName?⟩ dir importPath)

open Classical in
theorem run_unlessLoading (beyond : String → Check CheckedPackage) (enter : Check CheckedPackage)
    (s : Session) :
    (w.unlessLoading beyond importPath enter).run.run s = match s.package? importPath with
      | some package => (.ok package, s)
      | none =>
          if s.loading.contains importPath then
            if Relation.TransGen w.Needs importPath importPath then
              (.error (.importCycle importPath), s)
            else (beyond importPath).run.run s
          else enter.run.run s := by
  have asked : (w.unlessLoading beyond importPath enter).run.run s
      = (match s.package? importPath with
        | some package => pure package
        | none =>
            if s.loading.contains importPath then
              if Relation.TransGen w.Needs importPath importPath then
                throw (.importCycle importPath)
              else beyond importPath
            else enter : Check CheckedPackage).run.run s := rfl
  rw [asked]
  cases s.package? importPath with
  | some package => rfl
  | none =>
    dsimp only
    split
    · split
      · rfl
      · rfl
    · rfl

/-- What `loadPackage` does beyond the bounds. -/
theorem loadPackage_eq_or (depth : Nat) (importPath : String) :
    w.loadPackage depth importPath
      = w.loadOr (fun importPath => throw (.importCycle importPath)) depth importPath := by
  induction depth generalizing importPath with
  | zero =>
    unfold loadPackage loadOr unlessLoading
    refine bind_congr fun session => ?_
    cases session.package? importPath with
    | some package => rfl
    | none => simp only [ite_self]
  | succ depth ih =>
    unfold loadPackage loadOr unlessLoading
    refine bind_congr fun session => ?_
    cases session.package? importPath with
    | some package => rfl
    | none => simp only [ite_self, funext ih]

theorem checkPackage_eq_or (dir : Path) (importPath : String) :
    w.checkPackage dir importPath
      = w.checkPackageOr (fun importPath => throw (.importCycle importPath)) w.importBound dir
          importPath := by
  unfold checkPackage checkPackageOr importer
  rw [funext (loadPackage_eq_or w.importBound)]

/-! ### Two workspaces -/

/-- Two workspaces hold the same of the packages that are asked for, and of all that these need. -/
structure SameFor (w w' : Workspace) (asked : String → Prop) : Prop where
  /-- They are found at the same place. -/
  located : ∀ {path}, asked path → w.locate path = w'.locate path
  /-- Their files are the same. -/
  files : ∀ {path dir}, asked path → w.locate path = .ok dir → w.filesIn dir = w'.filesIn dir
  /-- Their names are the same. -/
  clauses : ∀ {path}, asked path → w.clause? path = w'.clause? path
  /-- What they need is asked for too. -/
  closed : ∀ {path other}, asked path → w.Needs path other → asked other
  /-- Something imports them. -/
  mentioned : ∀ {path}, asked path → ∃ dir, w.Mentions dir path
  /-- That is so in both. -/
  mentioned' : ∀ {path}, asked path → ∃ dir, w'.Mentions dir path

theorem mentions_of_filesIn_eq (same : w.filesIn dir = w'.filesIn dir)
    (mentions : w.Mentions dir importPath) : w'.Mentions dir importPath := by
  obtain ⟨files, read, file, hf, mem⟩ := mentions
  exact ⟨files, same ▸ read, file, hf, mem⟩

namespace SameFor

/-- A workspace holds the same as itself of all that is imported anywhere. -/
theorem refl (w : Workspace) : w.SameFor w fun path => ∃ dir, w.Mentions dir path where
  located := fun _ => rfl
  files := fun _ _ => rfl
  clauses := fun _ => rfl
  closed := fun _ ⟨dir, _, mentions⟩ => ⟨dir, mentions⟩
  mentioned := id
  mentioned' := id

theorem needs (h : w.SameFor w' asked) {path other : String} (ha : asked path)
    (needs : w.Needs path other) : w'.Needs path other := by
  obtain ⟨dir, located, mentions⟩ := needs
  exact ⟨dir, h.located ha ▸ located, mentions_of_filesIn_eq (h.files ha located) mentions⟩

theorem transGen_needs (h : w.SameFor w' asked) {path other : String} (ha : asked path)
    (chain : Relation.TransGen w.Needs path other) : Relation.TransGen w'.Needs path other := by
  induction chain using Relation.TransGen.head_induction_on with
  | single step => exact .single (h.needs ha step)
  | head step _ ih => exact .head (h.needs ha step) (ih (h.closed ha step))

end SameFor

/-! ### Steps -/

/-- A relation between two sessions, in each of which the given packages are being loaded, that
holds from one step of a check to the next as long as both check the same.  The sessions answer
alike for the packages that are `asked` for; what they know of others need not be the same. -/
structure Remembers (asked : String → Prop) (keeps : List String → Session → Session → Prop) :
    Prop where
  /-- The packages are being loaded in both. -/
  loading : ∀ {loading s s'}, keeps loading s s' → s.loading = loading ∧ s'.loading = loading
  /-- Both know the same packages. -/
  package? : ∀ {loading s s' path}, asked path → keeps loading s s' →
    s.package? path = s'.package? path
  /-- Both have read the same names. -/
  names : ∀ {loading s s' path}, asked path → keeps loading s s' →
    s.names.lookup path = s'.names.lookup path
  /-- Another package may be entered in both. -/
  enter : ∀ {loading s s'} path, keeps loading s s' →
    keeps (path :: loading) (s.enter path) (s'.enter path)
  /-- It may be left in both. -/
  leave : ∀ {loading s s'} path, keeps (path :: loading) s s' →
    keeps loading (s.leave path) (s'.leave path)
  /-- Both may learn a package. -/
  learnPackage : ∀ {loading s s'} path package, keeps loading s s' →
    keeps loading (s.learnPackage path package) (s'.learnPackage path package)
  /-- Both may learn a name. -/
  learnName : ∀ {loading s s'} path name?, keeps loading s s' →
    keeps loading (s.learnName path name?) (s'.learnName path name?)

/-- The same session, in which the given packages are being loaded. -/
def Loads (loading : List String) (s s' : Session) : Prop := s = s' ∧ s.loading = loading

theorem remembers_loads : Remembers asked Loads where
  loading := fun ⟨same, loads⟩ => ⟨loads, same ▸ loads⟩
  package? := fun _ ⟨same, _⟩ => same ▸ rfl
  names := fun _ ⟨same, _⟩ => same ▸ rfl
  enter := fun path ⟨same, loads⟩ => ⟨same ▸ rfl, by rw [Session.enter, loads]⟩
  leave := fun path ⟨same, loads⟩ =>
    ⟨same ▸ rfl, by rw [Session.leave, loads, List.erase_cons_head]⟩
  learnPackage := fun path package ⟨same, loads⟩ => ⟨same ▸ rfl, loads⟩
  learnName := fun path name? ⟨same, loads⟩ => ⟨same ▸ rfl, loads⟩

section

variable {keeps : List String → Session → Session → Prop}

theorem alike_whileLoading (rel : Remembers asked keeps) {α : Type} {good : α → Prop}
    {fails : CheckError → Prop} {m m' : Check α}
    (h : AlikeOn (keeps (importPath :: loading)) good fails m m') :
    AlikeOn (keeps loading) good fails (Check.whileLoading importPath m)
      (Check.whileLoading importPath m') := by
  intro s s' kept
  obtain ⟨result, last, last', ran, ran', behind, ends⟩ := h _ _ (rel.enter importPath kept)
  refine ⟨result, last.leave importPath, last'.leave importPath, ?_, ?_, rel.leave _ behind, ends⟩
  · rw [Check.run_whileLoading, ran]
  · rw [Check.run_whileLoading, ran']

theorem alike_learning (rel : Remembers asked keeps) {good : CheckedPackage → Prop}
    {fails : CheckError → Prop} {m m' : Check CheckedPackage}
    (h : AlikeOn (keeps loading) good fails m m') :
    AlikeOn (keeps loading) good fails (Check.learning importPath m)
      (Check.learning importPath m') := by
  unfold Check.learning
  refine h.bind fun package hp => ?_
  intro s s' kept
  exact ⟨.ok package, s.learnPackage importPath package, s'.learnPackage importPath package, rfl,
    rfl, rel.learnPackage importPath package kept, .ok hp⟩

theorem alike_packageName? (rel : Remembers asked keeps) (ha : asked importPath)
    {fails : CheckError → Prop} (same : w.clause? importPath = w'.clause? importPath) :
    Alike (keeps loading) fails (w.packageName? importPath) (w'.packageName? importPath) := by
  intro s s' kept
  rw [run_packageName?, run_packageName?, ← same, ← rel.package? ha kept, ← rel.names ha kept]
  cases s.package? importPath with
  | some package => exact ⟨_, s, s', rfl, rfl, kept, .ok trivial⟩
  | none =>
    cases s.names.lookup importPath with
    | some name? => exact ⟨_, s, s', rfl, rfl, kept, .ok trivial⟩
    | none => exact ⟨_, _, _, rfl, rfl, rel.learnName importPath _ kept, .ok trivial⟩

end

/-- Importers that come to the same for what a directory imports come to the same package, and any
cycle that a failure tells of is there. -/
theorem alike_checkDirectory_real {keeps : Session → Session → Prop} {importer importer' : Importer}
    (same : w.filesIn dir = w'.filesIn dir)
    (h : ∀ other, w.Mentions dir other →
      Alike keeps (w.Stuck other) (importer.load other) (importer'.load other)
        ∧ Alike keeps (fun _ => False) (importer.name? other) (importer'.name? other)) :
    Alike keeps (fun cause => w.RealCycles cause dir importPath)
      (w.checkDirectory importer dir importPath) (w'.checkDirectory importer' dir importPath) := by
  refine (alike_checkDirectory same importPath (fun files read => admits_realCycles read)
    (fun _ => realCycles_of_isPlain) fun other mentions => ?_).mono (fun _ _ => trivial) fun _ => id
  obtain ⟨load, name⟩ := h other mentions
  exact ⟨load.mono (fun _ => id) fun _ stuck => ⟨mentions, stuck⟩,
    name.mono (fun _ => id) fun _ => False.elim⟩

/-- Importers that come to the same for what a package needs come to the same package. -/
theorem alike_checkImport_real {keeps : Session → Session → Prop} {importer importer' : Importer}
    (same : w.SameFor w' asked) (ha : asked importPath)
    (h : ∀ other, w.Needs importPath other →
      Alike keeps (w.Stuck other) (importer.load other) (importer'.load other)
        ∧ Alike keeps (fun _ => False) (importer.name? other) (importer'.name? other)) :
    Alike keeps (w.Stuck importPath) (w.checkImport importer importPath)
      (w'.checkImport importer' importPath) := by
  unfold checkImport
  rw [← same.located ha]
  refine (AlikeOn.lift fun cause lost => Or.inr (Or.inl lost)).bind fun dir located => ?_
  refine (alike_checkDirectory_real (same.files ha located) fun other mentions => ?_).mono
    (fun _ => id) fun cause real => Or.inr (Or.inr ⟨dir, located, real⟩)
  exact h other ⟨dir, located, mentions⟩

section

variable {keeps : List String → Session → Session → Prop}

/-- Loading a package comes to the same in both workspaces, whatever is done beyond the bounds. -/
theorem alike_loadOr (rel : Remembers asked keeps) (same : w.SameFor w' asked)
    {beyond beyond' : String → Check CheckedPackage} {depth depth' : Nat} (ha : asked importPath)
    (chain : Chain asked w.Needs loading importPath)
    (enough : w.importBound ≤ loading.length + depth)
    (enough' : w'.importBound ≤ loading.length + depth') :
    Alike (keeps loading) (w.Stuck importPath) (w.loadOr beyond depth importPath)
      (w'.loadOr beyond' depth' importPath) := by
  induction depth using Nat.strongRecOn generalizing depth' loading importPath with
  | ind depth ih =>
    intro s s' kept
    obtain ⟨loads, loads'⟩ := rel.loading kept
    rw [loadOr_eq, loadOr_eq, run_unlessLoading, run_unlessLoading, ← rel.package? ha kept, loads,
      loads']
    cases s.package? importPath with
    | some package => exact ⟨_, s, s', rfl, rfl, kept, .ok trivial⟩
    | none =>
      dsimp only
      by_cases old : loading.contains importPath = true
      · -- what is being loaded already comes to need itself
        have real := chain.cycle (List.contains_iff_mem.1 old)
        rw [if_pos old, if_pos old, if_pos real, if_pos (same.transGen_needs ha real)]
        exact ⟨_, s, s', rfl, rfl, kept, .error (Or.inl ⟨rfl, real⟩)⟩
      · rw [if_neg old, if_neg old]
        have new : importPath ∉ loading := fun mem => old (List.contains_iff_mem.2 mem)
        have room : loading.length < w.importBound :=
          chain.length_lt ha new fun names nodup all =>
            length_le_importBound nodup fun path hp => same.mentioned (all path hp)
        have room' : loading.length < w'.importBound :=
          chain.length_lt ha new fun names nodup all =>
            length_le_importBound nodup fun path hp => same.mentioned' (all path hp)
        obtain ⟨less, rfl⟩ : ∃ less, depth = less + 1 := ⟨depth - 1, by omega⟩
        obtain ⟨less', rfl⟩ : ∃ less, depth' = less + 1 := ⟨depth' - 1, by omega⟩
        have entered : Alike (keeps (importPath :: loading)) (w.Stuck importPath)
            (w.checkImport ⟨w.loadOr beyond less, w.packageName?⟩ importPath)
            (w'.checkImport ⟨w'.loadOr beyond' less', w'.packageName?⟩ importPath) := by
          refine alike_checkImport_real same ha fun other needs => ?_
          have below := same.closed ha needs
          refine ⟨?_, alike_packageName? rel below (same.clauses below)⟩
          refine ih less (Nat.lt_succ_self less) below (chain.step ha new needs) ?_ ?_
          · rw [List.length_cons]
            omega
          · rw [List.length_cons]
            omega
        exact alike_learning rel (alike_whileLoading rel entered) s s' kept

/-- The importers of both workspaces come to the same for what is asked for. -/
theorem alike_importer (rel : Remembers asked keeps) (same : w.SameFor w' asked)
    {beyond beyond' : String → Check CheckedPackage} {depth depth' : Nat} (ha : asked importPath)
    (enough : w.importBound ≤ depth) (enough' : w'.importBound ≤ depth') :
    Alike (keeps []) (w.Stuck importPath) (w.loadOr beyond depth importPath)
        (w'.loadOr beyond' depth' importPath)
      ∧ Alike (keeps []) (fun _ => False) (w.packageName? importPath)
        (w'.packageName? importPath) :=
  ⟨alike_loadOr rel same ha .nil (Nat.le_add_left_of_le enough) (Nat.le_add_left_of_le enough'),
    alike_packageName? rel ha (same.clauses ha)⟩

/-- The check of a package comes to the same in both workspaces, whatever is done beyond the
bounds. -/
theorem alike_checkPackageOr (rel : Remembers asked keeps) (same : w.SameFor w' asked)
    {beyond beyond' : String → Check CheckedPackage} {depth depth' : Nat}
    (files : w.filesIn dir = w'.filesIn dir) (below : ∀ other, w.Mentions dir other → asked other)
    (enough : w.importBound ≤ depth) (enough' : w'.importBound ≤ depth') :
    Alike (keeps []) (fun cause => w.RealCycles cause dir importPath)
      (w.checkPackageOr beyond depth dir importPath)
      (w'.checkPackageOr beyond' depth' dir importPath) :=
  alike_learning rel (alike_checkDirectory_real files fun other mentions =>
    alike_importer rel same (below other mentions) enough enough')

end

/-! ### The result -/

/-- Checks end, and the cycles that they find are real: what is done beyond the bounds on imports,
types and constants, and where a guard strikes without a cycle, makes no difference; and if a check
fails with a cycle, it is there and goes through what the failure names.  No package is loading
afterwards, so that this holds again of the next check in the session. -/
theorem checkPackage_real_cycles (w : Workspace) (dir : Path) (importPath : String) {s : Session}
    (idle : s.loading = []) :
    (∀ beyond depth, w.importBound ≤ depth →
      (w.checkPackageOr beyond depth dir importPath).run.run s
        = (w.checkPackage dir importPath).run.run s)
    ∧ (∀ (scope : PackageScope) importer beyond depth, scope.types.length ≤ depth →
      ∀ entry ∈ scope.types, entry.spec.generic = false → ∀ strict,
        namedKindOr beyond scope importer depth [] entry strict
          = namedKind scope importer scope.types.length [] entry strict)
    ∧ (∀ (scope : PackageScope) imported? beyond depth, scope.constants.length ≤ depth →
      ∀ entry ∈ scope.constants, namedConstantOr beyond scope imported? depth [] entry
        = namedConstant scope imported? scope.constants.length [] entry)
    ∧ (∀ cause, ((w.checkPackage dir importPath).run.run s).1 = .error cause →
      w.RealCycles cause dir importPath)
    ∧ ((w.checkPackage dir importPath).run.run s).2.loading = [] := by
  have alike beyond depth (enough : w.importBound ≤ depth) :
      Alike (Loads []) (fun cause => w.RealCycles cause dir importPath)
        (w.checkPackage dir importPath) (w.checkPackageOr beyond depth dir importPath) := by
    rw [checkPackage_eq_or]
    exact alike_checkPackageOr remembers_loads (SameFor.refl w) rfl
      (fun _ mentions => ⟨dir, mentions⟩) (Nat.le_refl _) enough
  have loads : Loads [] s s := ⟨rfl, idle⟩
  -- one other way to go on is enough to see how the check itself ends
  have ends := alike (fun _ => throw (.importCycle importPath)) w.importBound (Nat.le_refl _)
  refine ⟨fun beyond depth enough => ?_, fun scope importer beyond depth enough entry he plain =>
    namedKindOr_eq beyond importer enough he plain, fun scope imported? beyond depth enough entry =>
    namedConstantOr_eq beyond imported? enough, fun cause => ends.fails_of_run loads, ?_⟩
  · obtain ⟨result, last, _, ran, ran', ⟨rfl, -⟩, -⟩ := alike beyond depth enough s s loads
    exact ran'.trans ran.symm
  · obtain ⟨result, last, _, ran, -, ⟨-, idleToo⟩, -⟩ := ends s s loads
    rw [ran]
    exact idleToo

/-- Two packages, each with an interface that embeds the one of the other. -/
def knot : Workspace where
  tree :=
    ⟨[(["src"], .directory directoryMode),
      (["src", "a"], .directory directoryMode),
      (["src", "a", "a.go"],
        .file (.text "package a\nimport \"b\"\ntype S interface \x7b b.T \x7d\n") fileMode),
      (["src", "b"], .directory directoryMode),
      (["src", "b", "b.go"],
        .file (.text "package b\nimport \"a\"\ntype T interface \x7b a.S \x7d\n") fileMode)]⟩
  context := ⟨⟨"/work"⟩, ⟨"/"⟩, none, hostPlatform⟩

/-- Why the first of them cannot be used.  It is not guarded, so it is checked once more as an
import, and then the second is found to be loading. -/
def knotCause : CheckError :=
  .importFailed "a.go" ⟨3, 20⟩ "b" (.importFailed "b.go" ⟨3, 20⟩ "a"
    (.importFailed "a.go" ⟨3, 20⟩ "b" (.importCycle "b")))

/-- A type and a constant that are defined by themselves. -/
def ring : PackageScope where
  importPath := "ring"
  types := [⟨.ofText ⟨"/ring.go"⟩ "", ⟨"A", false, .name default "A"⟩⟩]
  constants := [⟨"C", .ofText ⟨"/ring.go"⟩ "", some (.name default "C"), 0⟩]

theorem needs_of_realCycles_knotCause (real : knot.RealCycles knotCause ⟨"/src/a"⟩ "a") :
    Relation.TransGen knot.Needs "b" "b" := by
  have first : knot.locate "a" = .ok ⟨"/src/a"⟩ := by decide +kernel
  have second : knot.locate "b" = .ok ⟨"/src/b"⟩ := by decide +kernel
  obtain ⟨-, ⟨never, -⟩ | lost | ⟨_, -, real⟩⟩ := real
  · cases never
  · cases second.symm.trans lost
  obtain ⟨-, ⟨never, -⟩ | lost | ⟨_, -, real⟩⟩ := real
  · cases never
  · cases first.symm.trans lost
  obtain ⟨-, ⟨-, cycle⟩ | lost | ⟨_, -, never⟩⟩ := real
  · exact cycle
  · cases second.symm.trans lost
  · exact never.elim

/-- The check of the first of them ends with a cycle of imports, and the bounds are not felt; nor
are they for what is defined by itself. -/
theorem checkPackage_real_cycles_knot :
    Session.empty.loading = []
      ∧ ((knot.checkPackage ⟨"/src/a"⟩ "a").run.run .empty).1 = .error knotCause
      ∧ Relation.TransGen knot.Needs "b" "b"
      ∧ (∀ beyond, (knot.checkPackageOr beyond knot.importBound ⟨"/src/a"⟩ "a").run.run .empty
        = (knot.checkPackage ⟨"/src/a"⟩ "a").run.run .empty)
      ∧ (∀ importer beyond, ∀ entry ∈ ring.types,
        namedKindOr beyond ring importer 1 [] entry false
          = namedKind ring importer 1 [] entry false)
      ∧ ∀ beyond, ∀ entry ∈ ring.constants,
        namedConstantOr beyond ring none 1 [] entry = namedConstant ring none 1 [] entry := by
  obtain ⟨imports, kinds, constants, real, -⟩ :=
    checkPackage_real_cycles knot ⟨"/src/a"⟩ "a" (s := .empty) rfl
  have came : ((knot.checkPackage ⟨"/src/a"⟩ "a").run.run .empty).1 = .error knotCause := by
    decide +kernel
  refine ⟨rfl, came, needs_of_realCycles_knotCause (real _ came),
    fun beyond => imports beyond _ (Nat.le_refl _), fun importer beyond entry he => ?_,
    fun beyond entry he => constants ring none beyond 1 (Nat.le_refl _) entry he⟩
  have plain : entry.spec.generic = false := by
    rw [List.mem_singleton.1 he]
  exact kinds ring importer beyond 1 (Nat.le_refl _) entry he plain false

end Workspace
end WrapperGen
