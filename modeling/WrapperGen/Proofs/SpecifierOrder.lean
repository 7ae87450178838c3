import WrapperGen.Generation
import WrapperGen.Proofs.Caching
import WrapperGen.Proofs.PackageOrder

/-!
# The order in which packages are asked for

A package that was asked for is known to those that come later under its path, while a path that
nobody asked for yet is looked up from the working directory.  So the order may decide whether an
imported package is found at all.  It does not as long as an import path that comes up leads to the
directory that was found for it, and none comes to need itself.

## Main definitions

* `Workspace.packagesOf`: the packages that were found, checked in one new session.
* `Workspace.ComesUp`: the import paths that the check of what was found may ask for.

## Main results

* `resolveAll_perm`: another order of what is asked for.
* `Workspace.repeatable_checkPackage`: what the check of a package comes to.
* `Workspace.packagesOf_perm`: the order decides neither success nor the packages.
* `Workspace.packagesOf_nested`: an order that decides success.
* `Workspace.packagesOf_circular`: a circle of imports in which the order decides the answer.
-/

namespace WrapperGen

/-! ### Finding -/

section

variable {tree : FileTree} {context : Context} {specifiers others : List String}
  {found : List Found}

theorem resolveAll_eq_ok_iff :
    resolveAll tree context specifiers = .ok found
      ↔ List.Forall₂ (fun specifier f =>
        resolve tree context.resolverRoot context.cwd specifier = .ok f) specifiers found := by
  induction specifiers generalizing found with
  | nil => cases found <;> simp [resolveAll]
  | cons specifier rest ih =>
    cases here : resolve tree context.resolverRoot context.cwd specifier with
    | error cause => cases found <;> simp [resolveAll, here]
    | ok f =>
      cases behind : resolveAll tree context rest with
      | error cause => cases found <;> simp [resolveAll, here, ← ih, behind]
      | ok more => cases found <;> simp [resolveAll, here, ← ih, behind]

/-- Packages that are asked for in another order are found in that order. -/
theorem resolveAll_perm (perm : specifiers.Perm others)
    (h : resolveAll tree context specifiers = .ok found) :
    ∃ again, resolveAll tree context others = .ok again ∧ found.Perm again := by
  obtain ⟨again, resolved, permToo⟩ :=
    List.perm_comp_forall₂ perm.symm (resolveAll_eq_ok_iff.1 h)
  exact ⟨again, resolveAll_eq_ok_iff.2 resolved, permToo.symm⟩

end

/-! ### Checking -/

namespace Workspace

variable {w : Workspace} {found : List Found}

/-- A package that has been checked has the import path that was given. -/
theorem importPath_of_run_checkDirectory {importer : Importer} {dir : Path} {importPath : String}
    {s last : Session} {p : CheckedPackage}
    (h : (w.checkDirectory importer dir importPath).run.run s = (.ok p, last)) :
    p.importPath = importPath := by
  obtain ⟨files, _, -, h⟩ := exists_of_run_bind h
  obtain ⟨name, _, -, h⟩ := exists_of_run_bind h
  obtain ⟨declarations, _, -, h⟩ := exists_of_run_bind h
  obtain ⟨constants, _, -, h⟩ := exists_of_run_bind h
  cases h
  rfl

/-- The packages that were found, each checked in one new session. -/
def packagesOf (w : Workspace) (found : List Found) :
    Except (ExtractError CheckError) PackageSet :=
  ((extract w.checkPackage found).run.run .empty).1

/-- An import path that the check of what was found may ask for: a directory that was found imports
it, or something that it needs does. -/
def ComesUp (w : Workspace) (found : List Found) (importPath : String) : Prop :=
  ∃ f ∈ found, ∃ first, w.Mentions f.dir first ∧ Relation.ReflTransGen w.Needs first importPath

/-- What the check of a directory under an import path comes to. -/
def answer (w : Workspace) (dir : Path) (importPath : String) : Except CheckError CheckedPackage :=
  ((w.checkDirectory (w.judge w.importBound) dir importPath).run.run .empty).1

theorem importPath_of_answer {dir : Path} {importPath : String} {p : CheckedPackage}
    (h : w.answer dir importPath = .ok p) : p.importPath = importPath := by
  have ran : (w.checkDirectory (w.judge w.importBound) dir importPath).run.run .empty
      = (.ok p, _) := Prod.ext h rfl
  exact importPath_of_run_checkDirectory ran

theorem grounded_comesUp
    (acyclic : ∀ path, w.ComesUp found path → ¬ Relation.TransGen w.Needs path path) :
    w.Grounded (w.ComesUp found) where
  closed := fun ⟨f, hf, first, mentions, chain⟩ needs =>
    ⟨f, hf, first, mentions, chain.tail needs⟩
  acyclic := fun {path} ha => acyclic path ha

/-- The checks of what was found come to the same, whatever has been found before. -/
theorem repeatable_checkPackage
    (acyclic : ∀ path, w.ComesUp found path → ¬ Relation.TransGen w.Needs path path)
    (located : ∀ f ∈ found, w.ComesUp found f.importPath → w.locate f.importPath = .ok f.dir) :
    Repeatable w.checkPackage (w.Coherent (w.ComesUp found) []) w.answer found := by
  intro f hf s hs
  have agrees := agrees_checkPackage (grounded_comesUp acyclic)
    (fun other mentions => ⟨f, hf, other, mentions, .refl⟩) (located f hf)
  exact ⟨agrees.run_eq hs, agrees.known_run hs⟩

/-- The order in which packages are asked for decides neither whether they can be used nor which
packages there are in the end, unless an import path that comes up needs itself, or leads to another
directory than the one that was found for it.  Which packages there are may still depend on the
order if one import path was found in two directories. -/
theorem packagesOf_perm {specifiers others : List String} (perm : specifiers.Perm others)
    (resolved : resolveAll w.tree w.context specifiers = .ok found)
    (acyclic : ∀ path, w.ComesUp found path → ¬ Relation.TransGen w.Needs path path)
    (located : ∀ f ∈ found, w.ComesUp found f.importPath → w.locate f.importPath = .ok f.dir) :
    ∃ again, resolveAll w.tree w.context others = .ok again ∧ found.Perm again
      ∧ ((w.packagesOf found).isOk = (w.packagesOf again).isOk)
      ∧ ∀ packages more, w.packagesOf found = .ok packages → w.packagesOf again = .ok more →
        packages.packages.map Package.importPath = (found.map Found.importPath).eraseDups
        ∧ more.packages.map Package.importPath = (again.map Found.importPath).eraseDups
        ∧ ((∀ f ∈ found, ∀ g ∈ found, f.importPath = g.importPath → f.dir = g.dir) →
          packages.packages.Perm more.packages) := by
  obtain ⟨again, resolvedToo, permToo⟩ := resolveAll_perm perm resolved
  -- without cycles, and with each package found where it is looked for, every check is repeatable
  have repeatable := repeatable_checkPackage acyclic located
  have named : ∀ dir path p, w.answer dir path = .ok p → p.importPath = path :=
    fun _ _ _ => importPath_of_answer
  -- from the one order to the other, and back
  have onward {packages} (h : w.packagesOf found = .ok packages) :=
    repeatable.extract_perm coherent_empty named permToo h
  have back {packages} (h : w.packagesOf again = .ok packages) :=
    (repeatable.perm permToo).extract_perm coherent_empty named permToo.symm h
  refine ⟨again, resolvedToo, permToo, ?_, fun packages more hp hm => ⟨?_, ?_, fun one => ?_⟩⟩
  -- if one order succeeds then so does the other one, which is `onward` or `back`
  · cases first : w.packagesOf found with
    | ok packages =>
      obtain ⟨more, second, -⟩ := onward first
      rw [show w.packagesOf again = .ok more from second]
      rfl
    | error cause =>
      cases second : w.packagesOf again with
      | error other => rfl
      | ok more =>
        obtain ⟨packages, both, -⟩ := back second
        cases first.symm.trans both
  · exact repeatable.map_importPath_extract coherent_empty named hp
  · exact (repeatable.perm permToo).map_importPath_extract coherent_empty named hm
  · obtain ⟨other, second, same⟩ := onward hp
    obtain rfl := Except.ok.inj (hm.symm.trans second)
    exact same one

/-! ### A module below the working directory -/

/-- Where all texts import one package at most, and that imports none, nothing needs itself. -/
theorem not_needs_self_of_leaf (leaf : String)
    (texts : ∀ place text mode, (place, Entry.file (.text text) mode) ∈ w.tree.entries →
      ∀ path ∈ pathsIn text, path = leaf)
    (ends : ∀ other, ¬ w.Needs leaf other) (path : String) :
    ¬ Relation.TransGen w.Needs path path := by
  have only : ∀ {first other}, w.Needs first other → other = leaf := by
    rintro first other ⟨dir, -, mentions⟩
    obtain ⟨text, ⟨place, mode, held⟩, mem⟩ := exists_text_of_mentions mentions
    exact texts place text mode held other mem
  intro cycle
  obtain ⟨next, first, -⟩ := Relation.TransGen.head'_iff.1 cycle
  obtain ⟨before, -, last⟩ := Relation.TransGen.tail'_iff.1 cycle
  rw [only last] at first
  exact ends next first

/-- The file of a module. -/
def nestedModuleText : String := "module example.com/x\n"

/-- The file of a package with an interface. -/
def nestedFirstText : String := "package a\n\ntype A interface \x7b\n\tM()\n\x7d\n"

/-- The file of a package with an interface that embeds that one. -/
def nestedSecondText : String :=
  "package b\n\nimport \"example.com/x/a\"\n\ntype B interface \x7b\n\ta.A\n\x7d\n"

/-- A module with these two packages. -/
def nestedTree : FileTree :=
  ⟨[(["work"], .directory directoryMode),
    (["work", "x"], .directory directoryMode),
    (["work", "x", "go.mod"], .file (.text nestedModuleText) fileMode),
    (["work", "x", "a"], .directory directoryMode),
    (["work", "x", "a", "a.go"], .file (.text nestedFirstText) fileMode),
    (["work", "x", "b"], .directory directoryMode),
    (["work", "x", "b", "b.go"], .file (.text nestedSecondText) fileMode)]⟩

/-- The module, seen from above or from inside. -/
def nested (cwd : Path) : Workspace := ⟨nestedTree, ⟨cwd, ⟨"/gopath"⟩, none, hostPlatform⟩⟩

/-- The first package of the module. -/
def nestedFirst (tier : Tier) : Found := ⟨"example.com/x/a", ⟨"/work/x/a"⟩, tier⟩

/-- The second package of the module. -/
def nestedSecond (tier : Tier) : Found := ⟨"example.com/x/b", ⟨"/work/x/b"⟩, tier⟩

/-- From above, the second package finds the first only if that was asked for before. -/
theorem packagesOf_nested :
    resolveAll nestedTree (nested ⟨"/work"⟩).context ["./x/a", "./x/b"]
        = .ok [nestedFirst .directory, nestedSecond .directory]
      ∧ resolveAll nestedTree (nested ⟨"/work"⟩).context ["./x/b", "./x/a"]
        = .ok [nestedSecond .directory, nestedFirst .directory]
      ∧ ((nested ⟨"/work"⟩).packagesOf
          [nestedFirst .directory, nestedSecond .directory]).isOk = true
      ∧ ((nested ⟨"/work"⟩).packagesOf
          [nestedSecond .directory, nestedFirst .directory]).isOk = false := by
  decide +kernel

/-- Three packages, the first two of which import each other. -/
def circular : Workspace where
  tree :=
    ⟨[(["src"], .directory directoryMode),
      (["src", "a"], .directory directoryMode),
      (["src", "a", "a.go"],
        .file (.text ("package a\nimport \"b\"\ntype S interface \x7b M() \x7d\n"
          ++ "type U b.T\n")) fileMode),
      (["src", "b"], .directory directoryMode),
      (["src", "b", "b.go"], .file (.text "package b\nimport \"a\"\ntype T a.S\n") fileMode),
      (["src", "c"], .directory directoryMode),
      (["src", "c", "c.go"], .file (.text "package c\nimport \"a\"\ntype V a.S\n") fileMode)]⟩
  context := ⟨⟨"/work"⟩, ⟨"/"⟩, none, hostPlatform⟩

/-- The first of the packages. -/
def circularFirst : Found := ⟨"a", ⟨"/src/a"⟩, .sourceRoot⟩

/-- The third of the packages, which imports the first. -/
def circularThird : Found := ⟨"c", ⟨"/src/c"⟩, .sourceRoot⟩

/-- The names of the interfaces that are listed for packages. -/
def namesOf (w : Workspace) (found : List Found) :
    Except (ExtractError CheckError) (List String) :=
  (w.packagesOf found).map fun packages => packages.interfaces.map Interface.name

/-- In a circle of imports, which type is an interface depends on where the circle is entered: so
both orders are answered, each package is found where the request says, and the answers differ.
What keeps a request with these packages from having one answer is the circle alone. -/
theorem packagesOf_circular :
    Relation.TransGen circular.Needs "a" "a"
      ∧ (∀ f ∈ [circularFirst, circularThird], circular.locate f.importPath = .ok f.dir)
      ∧ circular.namesOf [circularFirst, circularThird] = .ok ["S", "U", "V"]
      ∧ circular.namesOf [circularThird, circularFirst] = .ok ["V", "S"] := by
  have first : ((circular.filesIn ⟨"/src/a"⟩).map fun files =>
      files.flatMap fun file => file.scope.paths) = .ok ["b", "b"] := by decide +kernel
  have second : ((circular.filesIn ⟨"/src/b"⟩).map fun files =>
      files.flatMap fun file => file.scope.paths) = .ok ["a", "a"] := by decide +kernel
  have outward : circular.Needs "a" "b" :=
    ⟨⟨"/src/a"⟩, by decide +kernel, (mentions_iff_of_paths first "b").2 List.mem_cons_self⟩
  have back : circular.Needs "b" "a" :=
    ⟨⟨"/src/b"⟩, by decide +kernel, (mentions_iff_of_paths second "a").2 List.mem_cons_self⟩
  exact ⟨.tail (.single outward) back, by decide +kernel, by decide +kernel, by decide +kernel⟩

theorem not_needs_self_nested (path : String) :
    ¬ Relation.TransGen (nested ⟨"/work/x"⟩).Needs path path := by
  refine not_needs_self_of_leaf "example.com/x/a" (fun place text mode held => ?_) ?_ path
  · have texts : text ∈ [nestedModuleText, nestedFirstText, nestedSecondText] := by
      simp only [nested, nestedTree, List.mem_cons, Prod.mk.injEq, Entry.file.injEq,
        Content.text.injEq, reduceCtorEq, and_false, false_or, List.not_mem_nil, or_false] at held
      rcases held with ⟨-, rfl, -⟩ | ⟨-, rfl, -⟩ | ⟨-, rfl, -⟩ <;> simp
    have paths : ∀ text ∈ [nestedModuleText, nestedFirstText, nestedSecondText],
        ∀ path ∈ pathsIn text, path = "example.com/x/a" := by decide +kernel
    exact paths text texts
  · rintro other ⟨dir, located, mentions⟩
    have here : (nested ⟨"/work/x"⟩).locate "example.com/x/a" = .ok ⟨"/work/x/a"⟩ := by
      decide +kernel
    obtain rfl := Except.ok.inj (here.symm.trans located)
    exact not_mentions_of_paths (by decide +kernel) other mentions

/-- From inside, both orders give both packages. -/
theorem packagesOf_perm_nested :
    resolveAll nestedTree (nested ⟨"/work/x"⟩).context ["./b", "example.com/x/a"]
        = .ok [nestedSecond .directory, nestedFirst .module]
      ∧ (∀ f ∈ [nestedSecond .directory, nestedFirst .module],
        (nested ⟨"/work/x"⟩).locate f.importPath = .ok f.dir)
      ∧ (∀ path, ¬ Relation.TransGen (nested ⟨"/work/x"⟩).Needs path path)
      ∧ ∃ again, resolveAll nestedTree (nested ⟨"/work/x"⟩).context ["example.com/x/a", "./b"]
        = .ok again ∧ ((nested ⟨"/work/x"⟩).packagesOf again).isOk = true := by
  have resolved : resolveAll nestedTree (nested ⟨"/work/x"⟩).context ["./b", "example.com/x/a"]
      = .ok [nestedSecond .directory, nestedFirst .module] := by decide +kernel
  have located : ∀ f ∈ [nestedSecond .directory, nestedFirst .module],
      (nested ⟨"/work/x"⟩).locate f.importPath = .ok f.dir := by decide +kernel
  refine ⟨resolved, located, not_needs_self_nested, ?_⟩
  obtain ⟨again, resolvedToo, -, same, -⟩ := packagesOf_perm (w := nested ⟨"/work/x"⟩)
    (List.Perm.swap "example.com/x/a" "./b" []) resolved (fun path _ => not_needs_self_nested path)
    fun f hf _ => located f hf
  have first : ((nested ⟨"/work/x"⟩).packagesOf
    [nestedSecond .directory, nestedFirst .module]).isOk = true := by decide +kernel
  exact ⟨again, resolvedToo, same ▸ first⟩

end Workspace

end WrapperGen
