import Mathlib.Data.String.Basic
import WrapperGen.Proofs.Finding
import WrapperGen.Proofs.OwnPackage
import WrapperGen.Proofs.SearchOrder
import WrapperGen.Proofs.SpecifierOrder

/-!
# Listed names and written files

A run that writes into a directory leaves out an interface that it has met before: one of the same
name in the same package.  No run ever meets one.  The packages of a run differ in their import
paths, the interfaces of a package differ in their names, and as no import path is empty, a package
that is named bare is not taken for another one either.  So every interface that would be listed
gets a file of its own.

## Main definitions

* `Interface.key`: what makes two interfaces one declaration.
* `Package.IsKeyed`: the interfaces of a package differ in their names.
* `Request.listing`: the same run, which only lists names.

## Main results

* `plan_of_nodup`: nothing is left out if no declaration comes twice.
* `nodup_key_interfaces`: the interfaces of a run are distinct declarations.
* `nodup_key_elideOwn`: and so they are as named from inside a package.
* `Request.generate_lists`: the files of a run into a directory, from the names that are listed.
-/

namespace WrapperGen

/-! ### Declarations -/

/-- What makes two interfaces one declaration: the package and the name. -/
def Interface.key (i : Interface) : String × String := (i.importPath, i.name)

/-- A plan compares declarations by their keys. -/
theorem Interface.sameDeclaration_iff {i j : Interface} :
    i.sameDeclaration j = true ↔ i.key = j.key := by
  simp [sameDeclaration, key]

/-! ### Plans -/

section

variable {shown : Path → String} {destination : Interface → Path} {interfaces : List Interface}

/-- A declaration that is not planned yet goes to the end, and its path is a new one. -/
theorem addToPlan_of_new {planned more : List (Interface × Path)} {i : Interface} {path : Path}
    (new : ∀ entry ∈ planned, entry.1.key ≠ i.key)
    (h : addToPlan shown planned i path = .ok more) :
    more = planned ++ [(i, path)] ∧ ∀ entry ∈ planned, entry.2.sameSteps path = false := by
  -- only a declaration that is planned already can be left out, and `new` says that there is none
  unfold addToPlan at h
  split at h
  · next free =>
    obtain rfl := Except.ok.inj h
    refine ⟨rfl, fun entry hm => ?_⟩
    simpa using List.find?_eq_none.1 free entry hm
  · next first _ taken =>
    split at h
    · next same =>
      have known := new _ (List.mem_of_find?_eq_some taken)
      exact absurd (Interface.sameDeclaration_iff.1 same) known
    · cases h

/-- If none of the interfaces that are left is planned already, then all of them are planned behind
those of before.  That their paths differ is no assumption: a plan with two equal paths is refused,
unless one declaration comes twice. -/
theorem planBehind_of_nodup {before planned : List (Interface × Path)}
    (new : ∀ entry ∈ before, ∀ i ∈ interfaces, entry.1.key ≠ i.key)
    (distinct : (interfaces.map Interface.key).Nodup)
    (apart : before.Pairwise fun a b => a.2.sameSteps b.2 = false)
    (h : planBehind shown destination before interfaces = .ok planned) :
    planned = before ++ interfaces.map (fun i => (i, destination i))
      ∧ planned.Pairwise fun a b => a.2.sameSteps b.2 = false := by
  -- `new` and `apart` are kept by each step, with the planned pair put behind those of before
  induction interfaces generalizing before with
  | nil =>
    obtain rfl := Except.ok.inj h
    simpa using apart
  | cons i rest ih =>
    unfold planBehind at h
    rw [List.map_cons, List.nodup_cons] at distinct
    cases step : addToPlan shown before i (destination i) with
    | error cause =>
      rw [step] at h
      cases h
    | ok more =>
      rw [step] at h
      have newHere : ∀ entry ∈ before, entry.1.key ≠ i.key :=
        fun entry hm => new entry hm i List.mem_cons_self
      obtain ⟨rfl, free⟩ := addToPlan_of_new newHere step
      -- a later interface is not the one just planned, as no declaration comes twice
      have newBehind : ∀ entry ∈ before ++ [(i, destination i)], ∀ j ∈ rest,
          entry.1.key ≠ j.key := by
        intro entry hm j hj
        rcases List.mem_append.1 hm with hm | hm
        · exact new entry hm j (List.mem_cons_of_mem i hj)
        · obtain rfl := List.mem_singleton.1 hm
          intro same
          exact distinct.1 (same ▸ List.mem_map_of_mem hj)
      -- the step gives that the new path is free
      have apartBehind : (before ++ [(i, destination i)]).Pairwise
          fun a b => a.2.sameSteps b.2 = false := by
        refine List.pairwise_append.2 ⟨apart, List.pairwise_singleton _ _, fun a ha b hb => ?_⟩
        obtain rfl := List.mem_singleton.1 hb
        exact free a ha
      obtain ⟨e, all⟩ := ih newBehind distinct.2 apartBehind h
      refine ⟨?_, all⟩
      rw [e, List.append_assoc, List.singleton_append, List.map_cons]

/-- If no declaration comes twice, then every interface is planned, in order, and no two of them
have one destination. -/
theorem plan_of_nodup {planned : List (Interface × Path)}
    (distinct : (interfaces.map Interface.key).Nodup)
    (h : plan shown destination interfaces = .ok planned) :
    planned = interfaces.map (fun i => (i, destination i))
      ∧ planned.Pairwise fun a b => a.2.sameSteps b.2 = false :=
  planBehind_of_nodup (fun entry hm => by cases hm) distinct .nil h

end

/-! ### Packages -/

/-- The interfaces of a package have its import path, and no two have one name. -/
structure Package.IsKeyed (p : Package) : Prop where
  /-- The import path is that of the package. -/
  home : ∀ i ∈ p.interfaces, i.importPath = p.importPath
  /-- The interfaces stand in the order of their names. -/
  ordered : p.interfaces.Pairwise fun i j => i.name < j.name

/-- An interface that is put in by its name keeps the order, and takes the place of the one that has
its name. -/
theorem pairwise_putByName {i : Interface} {sorted : List Interface}
    (h : sorted.Pairwise fun a b => a.name < b.name) :
    (putByName i sorted).Pairwise fun a b => a.name < b.name := by
  induction sorted with
  | nil => exact List.pairwise_singleton _ _
  | cons j rest ih =>
    obtain ⟨least, tail⟩ := List.pairwise_cons.1 h
    rw [putByName]
    by_cases same : i.name = j.name
    · rw [if_pos same]
      refine List.pairwise_cons.2 ⟨fun k hk => ?_, tail⟩
      rw [same]
      exact least k hk
    · rw [if_neg same]
      -- the new name goes in front of the first greater one, or into the rest
      by_cases front : i.name < j.name
      · rw [if_pos front]
        refine List.pairwise_cons.2 ⟨fun k hk => ?_, h⟩
        rcases List.mem_cons.1 hk with rfl | hk
        · exact front
        · exact lt_trans front (least k hk)
      · rw [if_neg front]
        refine List.pairwise_cons.2 ⟨fun k hk => ?_, ih tail⟩
        rcases mem_putByName hk with rfl | hk
        · exact lt_of_le_of_ne (not_lt.1 front) (Ne.symm same)
        · exact least k hk

/-- The interfaces of a checked package differ in their names.  They are put in one by one, so this
does not depend on the declarations of the package being distinct. -/
theorem isKeyed_toPackage (p : CheckedPackage) : p.toPackage.IsKeyed where
  home := by
    intro i hi
    obtain ⟨d, -, methods, -, -, rfl⟩ := exists_declaration_of_mem hi
    rfl
  ordered := by
    -- each step changes the sorted list, so the order is stated for every one to start with
    have all : ∀ (given sorted : List Interface), (sorted.Pairwise fun a b => a.name < b.name) →
        (given.foldl (fun sorted i => putByName i sorted) sorted).Pairwise
          fun a b => a.name < b.name := by
      intro given
      induction given with
      | nil => exact fun _ h => h
      | cons i rest ih => exact fun sorted h => ih _ (pairwise_putByName h)
    exact all _ [] .nil

/-- A package that is in a set was there before, or has just been put in. -/
theorem mem_of_mem_putPackage {p q : Package} {packages : List Package}
    (h : p ∈ PackageSet.putPackage q packages) : p ∈ packages ∨ p = q := by
  induction packages with
  | nil => simpa [PackageSet.putPackage] using h
  | cons first rest ih =>
    rw [PackageSet.putPackage] at h
    split at h
    · rcases List.mem_cons.1 h with rfl | h
      · exact .inr rfl
      · exact .inl (List.mem_cons_of_mem first h)
    · rcases List.mem_cons.1 h with rfl | h
      · exact .inl List.mem_cons_self
      · exact (ih h).imp_left (List.mem_cons_of_mem first)

namespace PackageSet

/-- The interfaces of packages with different import paths are distinct declarations: two of one
package differ in their names, and two of different packages in their import paths. -/
theorem nodup_key_interfaces {s : PackageSet} (paths : (s.packages.map Package.importPath).Nodup)
    (keyed : ∀ p ∈ s.packages, p.IsKeyed) : (s.interfaces.map Interface.key).Nodup := by
  -- within a package the names differ, and between two packages the paths
  have within : ∀ p ∈ s.packages, (p.interfaces.map Interface.key).Nodup := by
    intro p hp
    rw [List.Nodup, List.pairwise_map]
    refine (keyed p hp).ordered.imp fun {a b} less same => ?_
    exact absurd (congrArg Prod.snd same) (ne_of_lt less)
  rw [interfaces, List.map_flatMap, List.nodup_flatMap]
  refine ⟨within, ?_⟩
  rw [List.Nodup, List.pairwise_map] at paths
  refine paths.imp_of_mem fun {p q} hp hq other => ?_
  simp only [Function.onFun, List.disjoint_left, List.mem_map]
  rintro _ ⟨i, hi, rfl⟩ ⟨j, hj, same⟩
  apply other
  rw [← (keyed p hp).home i hi, ← (keyed q hq).home j hj]
  exact (congrArg Prod.fst same).symm

end PackageSet

section

variable {ε σ : Type} {check : Path → String → ExceptT ε (StateM σ) CheckedPackage}
  {found : List Found} {s : σ}

/-- The packages of a run are those that its checks gave, put one after the other. -/
theorem exists_checked_of_extractInto {before result : PackageSet}
    (h : ((extractInto check before found).run.run s).1 = .ok result) :
    ∃ packages : List CheckedPackage,
      result = (packages.map CheckedPackage.toPackage).foldl PackageSet.insert before
        ∧ ∀ p ∈ packages, ∃ f ∈ found, ∃ s, ((check f.dir f.importPath).run.run s).1 = .ok p := by
  induction found generalizing before s with
  | nil => exact ⟨[], (Except.ok.inj h).symm, by simp⟩
  | cons f rest ih =>
    rw [extractInto, run_bind, run_adapt] at h
    cases first : ((check f.dir f.importPath).run.run s).1 with
    | error cause =>
      rw [first] at h
      cases h
    | ok checked =>
      rw [first] at h
      obtain ⟨packages, rfl, came⟩ := ih h
      refine ⟨checked :: packages, rfl, fun p hp => ?_⟩
      rcases List.mem_cons.1 hp with rfl | hp
      · exact ⟨f, List.mem_cons_self, s, first⟩
      · obtain ⟨g, hg, later⟩ := came p hp
        exact ⟨g, List.mem_cons_of_mem f hg, later⟩

end

/-- A set of packages holds no others than those that were put in. -/
theorem mem_of_mem_ofPackages {packages : List Package} {p : Package}
    (h : p ∈ (PackageSet.ofPackages packages).packages) : p ∈ packages := by
  -- the packages are put in from the front on, so the induction takes off the last
  induction packages using List.reverseRecOn with
  | nil => cases h
  | append_singleton front q ih =>
    rw [PackageSet.ofPackages_concat] at h
    rcases mem_of_mem_putPackage h with h | rfl
    · exact List.mem_append_left _ (ih h)
    · simp

/-! ### Import paths -/

/-- No module has an empty name: a line that gives none is passed over. -/
theorem ne_empty_of_moduleName? {tree : FileTree} {dir : Path} {name : String}
    (h : moduleName? tree dir = some name) : name ≠ "" := by
  unfold moduleName? at h
  split at h
  · cases h
  · obtain ⟨line, -, declared⟩ := List.exists_of_findSome?_eq_some h
    unfold moduleOfLine? at declared
    split at declared
    · cases declared
    · dsimp only at declared
      split at declared
      · cases declared
      · split at declared
        · cases declared
        · next filled =>
          obtain rfl := Option.some.inj declared
          simpa using filled

/-- No directory has an empty import path.  Inside of a module it begins with the module's name, and
outside of all modules the source root itself has no import path. -/
theorem ne_empty_of_inferImportPath? {tree : FileTree} {srcRoot dir : Path} {importPath : String}
    (h : inferImportPath? tree srcRoot dir = some importPath) : importPath ≠ "" := by
  unfold inferImportPath? at h
  dsimp only at h
  split at h
  · next m enclosing =>
    obtain ⟨steps, -, rfl⟩ := Option.map_eq_some_iff.1 h
    obtain ⟨-, -, -, named, -⟩ := firstModule?_eq_some_iff.1 enclosing
    -- the directory of a module is named as the module, and one below it has a `/` in its path
    by_cases top : (Path.slashNames steps).isEmpty = true
    · rw [if_pos top]
      exact ne_empty_of_moduleName? named
    · rw [if_neg top]
      simp
  · split at h
    · cases h
    · next steps _ =>
      -- without a module the path is that below the root, and the root itself has none
      by_cases top : (Path.slashNames steps).isEmpty = true
      · rw [if_pos top] at h
        cases h
      · rw [if_neg top] at h
        obtain rfl := Option.some.inj h
        simpa using top

/-- The import path of a directory that is asked for by its path. -/
theorem importPath?_directoryPlace (tree : FileTree) (srcRoot wd : Path) (specifier : String) :
    (directoryPlace tree srcRoot wd specifier).importPath?
      = inferImportPath? tree srcRoot (wd.absolutize ⟨specifier⟩) := by
  rw [directoryPlace]

/-- No package is found under an empty import path.  An empty path is what stands for the package
that is written into, so a package that was found is never taken for that one. -/
theorem importPath_ne_empty_of_resolve {tree : FileTree} {srcRoot wd : Path} {specifier : String}
    {found : Found} (h : resolve tree srcRoot wd specifier = .ok found) :
    found.importPath ≠ "" := by
  have filled : ∀ c ∈ candidates tree srcRoot wd.normalize specifier, ∀ path,
      c.importPath? = some path → path ≠ "" := by
    intro c hc path given
    cases logical : isLogical specifier with
    | false =>
      rw [candidates_path logical] at hc
      obtain rfl := List.mem_singleton.1 hc
      rw [importPath?_directoryPlace] at given
      exact ne_empty_of_inferImportPath? given
    | true =>
      -- the specifier itself is the path of most candidates, and an empty one is no logical one
      have asked : specifier ≠ "" := by
        rintro rfl
        simp [isLogical] at logical
      rw [candidates_logical logical, List.mem_append, List.mem_append, List.mem_cons] at hc
      -- by module, below the working directory, above it, and in the source root
      rcases hc with (owned | rfl | above) | root
      · unfold moduleCandidate? at owned
        split at owned
        · simp at owned
        · obtain ⟨rest, -, rfl⟩ := Option.map_eq_some_iff.1 (Option.mem_toList.1 owned)
          exact Option.some.inj given ▸ asked
      · rw [importPath?_directoryPlace] at given
        exact ne_empty_of_inferImportPath? given
      · obtain ⟨dir, -, rfl⟩ := List.mem_map.1 above
        exact Option.some.inj given ▸ asked
      · obtain rfl := List.mem_singleton.1 root
        exact Option.some.inj given ▸ asked
  unfold resolve at h
  dsimp only at h
  split at h
  · next place =>
    obtain rfl := Except.ok.inj h
    obtain ⟨c, hc, there⟩ := List.exists_of_findSome?_eq_some place
    unfold Candidate.found? at there
    split at there
    · obtain ⟨path, given, rfl⟩ := Option.map_eq_some_iff.1 there
      exact filled c hc path given
    · cases there
  · cases h

/-! ### Runs -/

/-- What was found was asked for. -/
theorem exists_specifier_of_mem {tree : FileTree} {context : Context} {specifiers : List String}
    {found : List Found} {f : Found} (h : resolveAll tree context specifiers = .ok found)
    (hf : f ∈ found) :
    ∃ specifier ∈ specifiers, resolve tree context.resolverRoot context.cwd specifier = .ok f := by
  -- each place belongs to the specifier at its position
  have all := resolveAll_eq_ok_iff.1 h
  clear h
  induction all with
  | nil => cases hf
  | @cons specifier g rest more here _ ih =>
    rcases List.mem_cons.1 hf with rfl | hf
    · exact ⟨specifier, List.mem_cons_self, here⟩
    · obtain ⟨other, ho, there⟩ := ih hf
      exact ⟨other, List.mem_cons_of_mem specifier ho, there⟩

namespace Request

variable {r : Request} {tree : FileTree} {interfaces : List Interface}

/-- A package that is checked has the import path that was asked for. -/
theorem importPath_of_run_checkPackage {w : Workspace} {dir : Path} {importPath : String}
    {s : Session} {p : CheckedPackage}
    (h : ((w.checkPackage dir importPath).run.run s).1 = .ok p) : p.importPath = importPath := by
  rw [Workspace.checkPackage, Check.learning, run_bind] at h
  rcases ran : (w.checkDirectory w.importer dir importPath).run.run s with ⟨result, last⟩
  rw [ran] at h
  cases result with
  | error cause => cases h
  | ok checked =>
    obtain rfl := Except.ok.inj h
    exact Workspace.importPath_of_run_checkDirectory ran

/-- The interfaces of a run are distinct declarations, and none is named as from inside its package.
A specifier that is given twice, or that leads to a package by two ways, adds nothing: packages are
kept by their import paths. -/
theorem nodup_key_of_interfaces (source : r.checker = r.context.checker)
    (h : r.interfaces tree = .ok interfaces) :
    (interfaces.map Interface.key).Nodup ∧ ∀ i ∈ interfaces, i.importPath ≠ "" := by
  unfold Request.interfaces packages at h
  split at h
  · cases h
  · next found resolved =>
    cases extracted : ((extract (r.checker tree) found).run.run .empty).1 with
    | error cause =>
      rw [extracted] at h
      cases h
    | ok set =>
      rw [extracted] at h
      obtain rfl := Except.ok.inj h
      rw [source] at extracted
      obtain ⟨packages, e, came⟩ := exists_checked_of_extractInto extracted
      -- the packages put together are among those that the checks gave
      have from' : ∀ p ∈ set.packages, ∃ q ∈ packages, q.toPackage = p := by
        intro p hp
        rw [e] at hp
        exact List.mem_map.1 (mem_of_mem_ofPackages hp)
      -- so each holds interfaces of its own path
      have keyed : ∀ p ∈ set.packages, p.IsKeyed := by
        intro p hp
        obtain ⟨q, -, rfl⟩ := from' p hp
        exact isKeyed_toPackage q
      have paths : (set.packages.map Package.importPath).Nodup := by
        rw [e]
        exact PackageSet.nodup_importPath_ofPackages _
      constructor
      · exact (PackageSet.nodup_key_interfaces paths keyed).sublist (List.filter_sublist.map _)
      · intro i hi
        obtain ⟨p, hp, hi⟩ := List.mem_flatMap.1 (List.mem_filter.1 hi).1
        obtain ⟨q, hq, rfl⟩ := from' p hp
        -- the path of a checked package is the one it was found under, which is not empty
        obtain ⟨f, hf, s, ran⟩ := came q hq
        obtain ⟨specifier, -, place⟩ := exists_specifier_of_mem resolved hf
        rw [(keyed _ hp).home i hi]
        show q.importPath ≠ ""
        rw [importPath_of_run_checkPackage ran]
        exact importPath_ne_empty_of_resolve place

/-- As named from inside a package, the interfaces are distinct declarations as well.  The paths of
that package become empty, and no other path is empty. -/
theorem nodup_key_elideOwn (distinct : (interfaces.map Interface.key).Nodup)
    (filled : ∀ i ∈ interfaces, i.importPath ≠ "") (dir : Path) :
    ((r.elideOwn tree dir interfaces).map Interface.key).Nodup := by
  unfold elideOwn
  split
  · exact distinct
  · next output _ =>
    rw [List.map_map, List.Nodup, List.pairwise_map]
    rw [List.Nodup, List.pairwise_map] at distinct
    -- to elide keeps the name, and makes only the path of the output package empty
    refine distinct.imp_of_mem fun {i j} hi hj other same => other ?_
    have names : (i.elideFrom output).name = (j.elideFrom output).name := congrArg Prod.snd same
    rw [name_elideFrom, name_elideFrom] at names
    have paths : (i.elideFrom output).importPath = (j.elideFrom output).importPath :=
      congrArg Prod.fst same
    rw [importPath_elideFrom, importPath_elideFrom] at paths
    -- an empty path on one side is so by eliding, as neither path was empty before
    have eq : i.importPath = j.importPath := by
      have := filled i hi
      have := filled j hj
      grind
    rw [Interface.key, Interface.key, eq, names]

/-- To name interfaces from inside a package does not change their own names. -/
theorem names_elideOwn (dir : Path) :
    (r.elideOwn tree dir interfaces).map Interface.name = interfaces.map Interface.name := by
  unfold elideOwn
  split
  · rfl
  · simp

/-- The same run, which only lists names. -/
def listing (r : Request) : Request := { r with options := { r.options with listOnly := true } }

/-- To print names adds a line for each. -/
theorem triple_printNames (names : List String) {site : Site} (printable : site.printable = true) :
    Run.Triple (· = site) (printNames names)
      (fun _ last => last = { site with printed := site.printed ++ names.map (· ++ "\n") })
      fun _ _ => False := by
  induction names generalizing site with
  | nil => exact Run.Triple.pure fun last hs => by simp [hs]
  | cons name rest ih =>
    let next : Site := { site with printed := site.printed ++ [name ++ "\n"] }
    have print : Run.Triple (· = site) (Run.print GenerateError.streamClosed (name ++ "\n"))
        (fun _ last => last = next) fun _ _ => False := by
      refine Run.Triple.get_keep.bind fun found => ?_
      rintro last ⟨rfl, rfl⟩
      rw [if_pos printable]
      rfl
    have behind := @ih next printable
    refine print.bind fun _ => behind.mono (fun _ h => h) (fun _ last h => ?_) fun _ _ h => h
    simpa [next] using h

/-- What a run lists, if the output stream takes text. -/
theorem triple_list {site : Site} (printable : site.printable = true)
    (h : r.interfaces site.tree = .ok interfaces) :
    Run.Triple (· = site) r.list
      (fun outcome last => outcome = .listed (interfaces.map Interface.name)
        ∧ last = { site with
            printed := site.printed ++ (interfaces.map Interface.name).map (· ++ "\n") })
      fun _ _ => False := by
  unfold list
  refine Run.Triple.get_keep.bind fun found => ?_
  -- the interfaces depend on the tree alone, which is that of the start
  have asked : Run.Triple (fun last => found = last ∧ last = site)
      (liftM (r.interfaces found.tree) : Run GenerateError (List Interface))
      (fun given last => given = interfaces ∧ last = site) fun _ _ => False := by
    refine Run.Triple.lift (fun given came last hs => ?_) fun cause came last hs => ?_
    · rw [hs.1, hs.2, h] at came
      exact ⟨(Except.ok.inj came).symm, hs.2⟩
    · rw [hs.1, hs.2, h] at came
      cases came
  refine asked.bind fun given => ?_
  rintro last ⟨rfl, rfl⟩
  exact ((triple_printNames _ printable).bind fun _ =>
    Run.Triple.pure fun after done => ⟨rfl, done⟩) _ rfl

variable {settings : EmitSettings} {dir : Path}

/-- The files of a run into a directory.  The interfaces are read from the tree of the start, and as
they are distinct declarations, the plan leaves none of them out. -/
theorem triple_emitInterfaces {site : Site} (source : r.checker = r.context.checker)
    (target : settings.target = .directory dir) :
    Run.Triple (· = site) (r.emitInterfaces settings)
      (fun outcome _ => ∃ interfaces files, r.interfaces site.tree = .ok interfaces
        ∧ outcome = .generated files
        ∧ files = (interfaces.map Interface.name).map (fun name =>
          dir.join ⟨outputFileName r.fileName settings.namePrefix name⟩)
        ∧ files.Pairwise fun p q => p.sameSteps q = false)
      fun _ _ => True := by
  unfold emitInterfaces
  refine Run.Triple.get_keep.bind fun found => ?_
  refine (Run.Triple.lift_keep fun _ _ _ _ => trivial).bind fun interfaces => ?_
  cases r.options.firstMissing? interfaces with
  | some name => exact Run.Triple.throw fun _ _ => trivial
  | none =>
    rintro start ⟨asked, rfl, rfl⟩
    obtain ⟨distinct, filled⟩ := nodup_key_of_interfaces source asked
    -- a directory is made before anything is emitted, but the names stay
    have prepared : Run.Triple (fun _ => True) (r.prepare settings interfaces)
        (fun given _ => (given.map Interface.key).Nodup
          ∧ given.map Interface.name = interfaces.map Interface.name)
        fun _ _ => True := by
      unfold prepare EmitSettings.outputDir?
      rw [target]
      refine Run.Triple.trivial.bind fun _ => Run.Triple.get_keep.bind fun found =>
        Run.Triple.pure ?_
      intro _ _
      exact ⟨nodup_key_elideOwn distinct filled dir, names_elideOwn dir⟩
    refine (prepared.bind fun given => ?_) _ trivial
    rintro last ⟨distinct, names⟩
    -- no two interfaces are one declaration, so each has its file
    have emitted : Run.Triple (fun _ => True)
        (Run.mapError GenerateError.emit ((r.emitter settings).emit given))
        (fun files _ => files = (interfaces.map Interface.name).map (fun name =>
            dir.join ⟨outputFileName r.fileName settings.namePrefix name⟩)
          ∧ files.Pairwise fun p q => p.sameSteps q = false)
        fun _ _ => True := by
      refine Run.Triple.mapError ?_
      have target' : (r.emitter settings).settings.target = .directory dir := target
      unfold Emitter.emit
      rw [target']
      refine Emitter.triple_emitDirectory _ _ _ (fun _ _ _ _ => trivial) (fun _ _ _ => trivial)
        (fun _ _ _ => trivial) (fun _ _ _ _ _ => trivial) fun planned files planned' texts => ?_
      obtain ⟨e, apart⟩ := plan_of_nodup distinct planned'
      have paths := Emitter.map_fst_planTexts texts
      refine Run.Triple.trivial.mono (fun _ h => h) (fun _ _ _ => ?_) fun _ _ h => h
      rw [paths]
      constructor
      · simp [e, ← names, Emitter.destination, emitter]
      · exact List.pairwise_map.2 apart
    exact (emitted.bind fun files => Run.Triple.pure fun _ done =>
      ⟨interfaces, files, asked, rfl, done.1, done.2⟩) last trivial

/-- The files of a run into a directory are those for the names that the run would list, in that
order; no two of them are one, and listing the names changes no file. -/
theorem generate_lists (r : Request) (site : Site) {files : List Path}
    (source : r.checker = r.context.checker)
    (checked : r.options.settings r.context.cwd = .ok settings)
    (target : settings.target = .directory dir)
    (written : (r.generate.run.run site).1 = .ok (.generated files)) :
    ∃ names, (site.printable = true → r.listing.generate.run.run site
        = (.ok (.listed names), { site with printed := site.printed ++ names.map (· ++ "\n") }))
      ∧ (r.listing.generate.run.run site).2.tree = site.tree
      ∧ files = names.map (fun name =>
        dir.join ⟨outputFileName r.fileName settings.namePrefix name⟩)
      ∧ files.Pairwise fun p q => p.sameSteps q = false := by
  -- a run that only lists gives no files, so the files are those of `triple_emitInterfaces`
  have whole : Run.Triple (· = site) r.generate
      (fun outcome _ => outcome = .generated files → ∃ interfaces,
        r.interfaces site.tree = .ok interfaces
        ∧ files = (interfaces.map Interface.name).map (fun name =>
          dir.join ⟨outputFileName r.fileName settings.namePrefix name⟩)
        ∧ files.Pairwise fun p q => p.sameSteps q = false)
      fun _ _ => True := by
    unfold generate
    by_cases listOnly : r.options.listOnly = true
    · rw [if_pos listOnly]
      refine (@tree_list site.tree r).mono (fun _ h => h ▸ rfl) ?_ fun _ _ _ => trivial
      rintro _ _ ⟨-, listed, rfl⟩ other
      cases other
    · rw [if_neg listOnly, checked]
      refine (triple_emitInterfaces source target).mono (fun _ h => h) ?_ fun _ _ _ => trivial
      rintro _ _ ⟨interfaces, given, asked, rfl, e, apart⟩ same
      obtain rfl := Outcome.generated.inj same
      exact ⟨interfaces, asked, e, apart⟩
  obtain ⟨interfaces, asked, e, apart⟩ := whole.of_ok rfl written rfl
  have lists : r.listing.generate = r.list := if_pos rfl
  rw [lists]
  refine ⟨interfaces.map Interface.name, fun printable => ?_, ?_, e, apart⟩
  · have ends := triple_list printable asked site rfl
    rcases ran : r.list.run.run site with ⟨result, last⟩
    rw [ran] at ends
    cases result with
    | ok outcome =>
      obtain ⟨rfl, rfl⟩ := ends
      rfl
    | error cause => exact ends.elim
  -- to list changes no tree, also where the stream takes no text
  · have kept : Run.Triple (fun last => last.tree = site.tree) r.list
        (fun _ last => last.tree = site.tree) fun _ last => last.tree = site.tree :=
      (@tree_list site.tree r).mono (fun _ h => h) (fun _ _ h => h.1) fun _ _ h => h
    exact kept.of_both rfl

/-- A run for a package that is asked for twice, into the directory of that package. -/
def shelf : Request :=
  { sample with
    options := { sample.options with specifiers := ["a", "/src/a"], dir? := some ⟨"/src/a"⟩ }
    tool := ⟨"wrap", "1", []⟩
    clock := .still "now"
    checker := sample.context.checker }

/-- The package, which has one interface. -/
def shelfSite : Site where
  tree :=
    ⟨[(["src"], .directory directoryMode), (["src", "a"], .directory directoryMode),
      (["src", "a", "a.go"], .file (.text "package a\ntype S interface\x7b\x7d\n") fileMode),
      (["work"], .directory directoryMode)]⟩
  printed := []
  printable := true

/-- The lines of the file that is written for it. -/
def shelfLines : List String :=
  ["// Code generated by wrap 1; DO NOT EDIT.", "// This file was generated by robots at",
      "// now", "// using the command", "// $ ", "", "package a"]
    ++ Emitter.wrapperLines "SWrapper" "S"

/-- The file of the run is that of the one name that it lists. -/
theorem generate_lists_shelf :
    (shelf.generate.run.run shelfSite).1 = .ok (.generated [⟨"/src/a/s.go"⟩])
      ∧ ∃ names, shelf.listing.generate.run.run shelfSite
          = (.ok (.listed names), { shelfSite with printed := names.map (· ++ "\n") })
        ∧ [⟨"/src/a/s.go"⟩] = names.map (fun name =>
          (⟨"/src/a"⟩ : Path).join ⟨outputFileName wrapperFileName "" name⟩) := by
  have checked : shelf.options.settings shelf.context.cwd
      = .ok ⟨.directory ⟨"/src/a"⟩, false, "a", none⟩ := by
    decide +kernel
  let e := shelf.emitter ⟨.directory ⟨"/src/a"⟩, false, "a", none⟩
  have text : e.fileText 0 [⟨"S", "", []⟩] = .ok (textOfLines shelfLines) :=
    Emitter.fileText_of_lines (by decide +kernel) (by decide +kernel)
  have made : plan e.shown (e.destination ⟨"/src/a"⟩) [⟨"S", "", []⟩]
      = .ok [(⟨"S", "", []⟩, ⟨"/src/a/s.go"⟩)] := by
    decide +kernel
  have free : shelfSite.tree.firstExisting? [⟨"/src/a/s.go"⟩] = .ok none := by decide +kernel
  let files := [((⟨"/src/a/s.go"⟩ : Path), textOfLines shelfLines)]
  have wrote : ((Emitter.writeFiles files).run.run shelfSite).1 = .ok () := by decide +kernel
  have texts : e.planTexts 0 [(⟨"S", "", []⟩, ⟨"/src/a/s.go"⟩)] = .ok files :=
    Emitter.planTexts_cons text rfl
  have emitted : (e.emit [⟨"S", "", []⟩]).run.run shelfSite
      = (.ok [⟨"/src/a/s.go"⟩], ((Emitter.writeFiles files).run.run shelfSite).2) :=
    Emitter.run_emit_of_writeFiles rfl made (.inr free) texts wrote
  have finds : shelf.finds shelfSite.tree = .ok [⟨"S", "", []⟩] := by decide +kernel
  have ensured : shelf.withOutputDir shelfSite.tree = .ok shelfSite.tree := by decide +kernel
  have written := congrArg Prod.fst (generate_of_emit rfl checked finds ensured emitted)
  obtain ⟨names, lists, -, listed, -⟩ := generate_lists shelf shelfSite rfl checked rfl written
  exact ⟨written, names, lists rfl, listed⟩

end Request
end WrapperGen
