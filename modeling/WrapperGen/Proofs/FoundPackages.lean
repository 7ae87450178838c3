import WrapperGen.Proofs.CleanPaths
import WrapperGen.Proofs.ImportHeight

/-!
# Where packages are found

A package that is found stands in one of the four tiers.  In the tier of directories its path has
been folded, and its import path is made of names.  In the other three, what is asked for is
written behind the root of the tier as it is, and it is the import path as it is.  So the path that
is given away is folded, stays below that root and has a clean import path exactly if what is asked
for is clean itself.

## Main definitions

* `Found.ComesFrom`: the four tiers, with what is found in each.
* `Found.StaysInside`: the directory lies at or below the root of its tier.
* `Found.IsCanonical`: a folded directory inside of its tier, with a clean import path.

## Main results

* `comesFrom_of_resolve`: whatever is found comes from one of the tiers.
* `isClean_of_inferImportPath?`: the import paths of directories are clean.
* `resolve_isCanonical_iff`: which of the packages that are found are canonical.
* `resolve_climbing`: one that is not.
-/

namespace WrapperGen

section Tiers

variable (tree : FileTree) (srcRoot wd : Path) (specifier : String)

/-- The tiers, and what is found in each. -/
inductive Found.ComesFrom (found : Found) : Prop
  /-- In the nearest module, behind its root. -/
  | module {m : Module} {rest : String} (nearest : IsNearestModule tree srcRoot wd.normalize m)
      (owns : m.Owns specifier rest) (importPath : found.importPath = specifier)
      (dir : found.dir = m.root.joinAll (slashSegments rest)) (tier : found.tier = .module)
  /-- In the directory of that path. -/
  | directory (inferred : inferImportPath? tree srcRoot found.dir = some found.importPath)
      (dir : found.dir = wd.absolutize ⟨specifier⟩) (tier : found.tier = .directory)
  /-- Beside a directory between the working directory and the source root. -/
  | vendor {above : Path} (between : above ∈ wd.normalize.upTo srcRoot)
      (importPath : found.importPath = specifier)
      (dir : found.dir = (above.join ⟨"vendor"⟩).joinAll (slashSegments specifier))
      (tier : found.tier = .vendor)
  /-- Under the source root. -/
  | sourceRoot (importPath : found.importPath = specifier)
      (dir : found.dir = srcRoot.joinAll (slashSegments specifier))
      (tier : found.tier = .sourceRoot)

variable {tree srcRoot wd specifier} {found : Found}

theorem mem_upTo_of_mem_directoriesBelowRoot {above : Path}
    (h : above ∈ directoriesBelowRoot srcRoot wd.normalize) :
    above ∈ wd.normalize.upTo srcRoot := by
  unfold directoriesBelowRoot at h
  split at h
  · rwa [Path.ancestors_normalize] at h
  · cases h

/-- What is found at a place that is looked at comes from the tier of the place. -/
theorem Candidate.Gives.comesFrom {c : Candidate} (h : c.Gives tree found)
    (mem : c ∈ candidates tree srcRoot wd.normalize specifier) :
    found.ComesFrom tree srcRoot wd specifier := by
  obtain ⟨-, importPath, dir, tier⟩ := h
  -- both kinds of specifiers have the directory of their own path among the places
  have asDirectory : c = directoryPlace tree srcRoot wd specifier →
      found.ComesFrom tree srcRoot wd specifier := by
    rintro rfl
    rw [directoryPlace] at importPath dir tier
    dsimp only at importPath dir tier
    rw [← dir] at importPath
    exact .directory importPath dir tier
  cases logical : isLogical specifier with
  | false =>
    rw [candidates_path logical, List.mem_singleton] at mem
    exact asDirectory mem
  | true =>
    rw [candidates_logical logical, List.mem_append, List.mem_append, List.mem_cons,
      List.mem_singleton] at mem
    -- in the order of the tiers: module, own path, vendor directories, source root
    rcases mem with (inModule | here | beside) | rfl
    · have order := moduleTier_iff.2 (rfl :
        (moduleCandidate? tree srcRoot wd.normalize specifier).toList = _)
      generalize (moduleCandidate? tree srcRoot wd.normalize specifier).toList = places at *
      cases order with
      | owned nearest owns =>
        obtain rfl := List.mem_singleton.1 inModule
        exact .module nearest owns (Option.some.inj importPath).symm dir tier
      | foreign _ => cases inModule
    · exact asDirectory here
    · obtain ⟨above, between, rfl⟩ := List.mem_map.1 beside
      exact .vendor (mem_upTo_of_mem_directoriesBelowRoot between)
        (Option.some.inj importPath).symm dir tier
    · exact .sourceRoot (Option.some.inj importPath).symm dir tier

/-- Whatever is found comes from one of the tiers. -/
theorem comesFrom_of_resolve (h : resolve tree srcRoot wd specifier = .ok found) :
    found.ComesFrom tree srcRoot wd specifier := by
  unfold resolve at h
  dsimp only at h
  split at h
  · next other some' =>
    obtain rfl := Except.ok.inj h
    obtain ⟨c, mem, gives⟩ := List.exists_of_findSome?_eq_some some'
    exact (Candidate.found?_eq_some_iff.1 gives).comesFrom mem
  · cases h

end Tiers

/-! ### Import paths of directories -/

section Inferred

variable {tree : FileTree} {srcRoot wd p : Path} {absolute : Bool} {inner steps : List Component}

/-- The names among the last steps of a folded path are read back from their texts. -/
theorem Path.IsFolded.isWritten_of_below (h : p.IsFolded absolute inner) {front : List Component}
    (below : p.components = front ++ steps) :
    ∀ name, Component.name name ∈ steps → (Component.name name).IsWritten := by
  intro name mem
  have inside : Component.name name ∈ Path.start absolute ++ inner := by
    rw [← h.components, below]
    exact List.mem_append_right _ mem
  rcases List.mem_append.1 inside with top | here
  · cases absolute with
    | true => cases List.mem_singleton.1 top
    | false => cases top
  · exact h.written _ here

/-- The names among such steps make a clean path, if there are any. -/
theorem isClean_slashNames
    (h : ∀ name, Component.name name ∈ steps → (Component.name name).IsWritten)
    (some' : (Path.slashNames steps).isEmpty = false) : IsClean (Path.slashNames steps) := by
  refine isClean_joinSlash ?_ fun name hn => h name ?_
  · intro none'
    rw [Path.slashNames, none'] at some'
    cases some'
  · obtain ⟨step, hs, e⟩ := List.mem_filterMap.1 hn
    split at e
    · obtain rfl := Option.some.inj e
      exact hs
    · cases e

theorem enclosingModule?_eq_some_iff {m : Module} (h : p.normalize = p) :
    enclosingModule? tree srcRoot p = some m ↔ IsNearestModule tree srcRoot p m := by
  rw [enclosingModule?, findModule?_eq_some_iff, h]

/-- The import path of a directory comes from the module around it, or from its place under the
source root. -/
theorem inferImportPath?_cases {importPath : String} (folded : p.normalize = p)
    (h : inferImportPath? tree srcRoot p = some importPath) :
    (∃ m steps, IsNearestModule tree srcRoot p m ∧ p.components = m.root.components ++ steps
        ∧ importPath = if (Path.slashNames steps).isEmpty then m.name
          else m.name ++ "/" ++ Path.slashNames steps)
      ∨ ∃ steps, p.components = srcRoot.components ++ steps
        ∧ (Path.slashNames steps).isEmpty = false ∧ importPath = Path.slashNames steps := by
  unfold inferImportPath? at h
  dsimp only at h
  rw [folded] at h
  -- inside of a module the path is told by the module, and else by the source root
  split at h
  · next m enclosing =>
    obtain ⟨steps, below, e⟩ := Option.map_eq_some_iff.1 h
    exact .inl ⟨m, steps, (enclosingModule?_eq_some_iff folded).1 enclosing,
      Path.below?_eq_some_iff.1 below, e.symm⟩
  · split at h
    · cases h
    · next steps below =>
      split at h
      · cases h
      · next some' =>
        exact .inr ⟨steps, Path.below?_eq_some_iff.1 below, by simpa using some',
          (Option.some.inj h).symm⟩

/-- The name of a module is declared by one of the texts of the tree. -/
theorem exists_holds_of_moduleName? {dir : Path} {name : String}
    (h : moduleName? tree dir = some name) :
    ∃ text, FileTree.Holds tree.entries text
      ∧ (textLines text.toList).findSome? moduleOfLine? = some name := by
  unfold moduleName? at h
  split at h
  · cases h
  · next text read => exact ⟨text, FileTree.holds_of_readText read, h⟩

/-- The import path of a directory is clean, if modules have clean names. -/
theorem isClean_of_inferImportPath? {importPath : String}
    (modules : ∀ dir name, moduleName? tree dir = some name → IsClean name)
    (h : inferImportPath? tree srcRoot p.normalize = some importPath) : IsClean importPath := by
  obtain ⟨inner, folded⟩ := p.exists_isFolded_normalize
  rcases inferImportPath?_cases p.normalize_normalize h with
    ⟨m, steps, ⟨-, -, -, named, -⟩, below, rfl⟩ | ⟨steps, below, some', rfl⟩
  · split
    · exact modules _ _ named
    · next some' =>
      refine isClean_append_slash_iff.2 ⟨modules _ _ named, ?_⟩
      exact isClean_slashNames (folded.isWritten_of_below below) (by simpa using some')
  · exact isClean_slashNames (folded.isWritten_of_below below) some'

end Inferred

/-! ### Canonical packages -/

section Canonical

variable (tree : FileTree) (srcRoot wd : Path)

/-- The directory lies at or below the root that belongs to its tier. -/
def Found.StaysInside (found : Found) : Prop :=
  match found.tier with
  | .module => ∃ m, IsNearestModule tree srcRoot wd.normalize m
      ∧ found.dir.isAtOrBelow m.root = true
  | .directory => (∃ m, IsNearestModule tree srcRoot found.dir m
      ∧ found.dir.isAtOrBelow m.root = true) ∨ found.dir.isAtOrBelow srcRoot = true
  | .vendor => ∃ above ∈ wd.normalize.upTo srcRoot,
      found.dir.isAtOrBelow (above.join ⟨"vendor"⟩) = true
  | .sourceRoot => found.dir.isAtOrBelow srcRoot = true

/-- A package that is told apart from others by its texts. -/
structure Found.IsCanonical (found : Found) : Prop where
  /-- Folding leaves the directory as it is. -/
  folded : found.dir.normalize = found.dir
  /-- The import path has no empty segment, no `.` and no `..`. -/
  clean : IsClean found.importPath
  /-- The directory stays in its tier. -/
  inside : found.StaysInside tree srcRoot wd

variable {tree srcRoot wd} {specifier : String} {found : Found}

/-- What follows the name of a module in a clean path consists of names. -/
theorem Module.Owns.isWritten {m : Module} {rest : String} (owns : m.Owns specifier rest)
    (clean : IsClean specifier) :
    ∀ name ∈ slashSegments rest, (Component.name name).IsWritten := by
  rcases owns with ⟨-, rfl⟩ | rfl
  · intro name none'
    cases none'
  · exact (isClean_append_slash_iff.1 clean).2.isWritten

theorem IsNearestModule.mem_enclosing {m : Module} {p : Path}
    (nearest : IsNearestModule tree srcRoot p m) : m.root ∈ p.enclosing := by
  obtain ⟨nearer, farther, e, -⟩ := nearest
  rw [e]
  exact List.mem_append_right _ List.mem_cons_self

/-- What is found in a directory is canonical, if modules have clean names. -/
theorem isCanonical_of_directory
    (modules : ∀ dir name, moduleName? tree dir = some name → IsClean name)
    (inferred : inferImportPath? tree srcRoot found.dir = some found.importPath)
    (dir : found.dir = wd.absolutize ⟨specifier⟩) (tier : found.tier = .directory) :
    found.IsCanonical tree srcRoot wd := by
  have folded : found.dir.normalize = found.dir := by
    rw [dir, Path.absolutize, Path.normalize_normalize]
  refine ⟨folded, ?_, ?_⟩
  · rw [← folded] at inferred
    exact isClean_of_inferImportPath? modules inferred
  · rw [Found.StaysInside, tier]
    rcases inferImportPath?_cases folded inferred with
      ⟨m, steps, nearest, below, -⟩ | ⟨steps, below, -⟩
    · exact .inl ⟨m, nearest, Path.isAtOrBelow_iff.2 ⟨steps, below⟩⟩
    · exact .inr (Path.isAtOrBelow_iff.2 ⟨steps, below⟩)

/-- What is asked for by a clean path is found at a canonical place. -/
theorem Found.ComesFrom.isCanonical (h : found.ComesFrom tree srcRoot.normalize wd specifier)
    (modules : ∀ dir name, moduleName? tree dir = some name → IsClean name)
    (clean : IsClean specifier) : found.IsCanonical tree srcRoot.normalize wd := by
  obtain ⟨_, wdFolded⟩ := wd.exists_isFolded_normalize
  -- by the tier: each place is a clean one below the directory that its tier starts from
  cases h with
  | module nearest owns importPath dir tier =>
    obtain ⟨_, _, -, root⟩ := wdFolded.exists_of_mem_enclosing nearest.mem_enclosing
    have below := root.joinAll (owns.isWritten clean)
    rw [← dir] at below
    refine ⟨below.normalize, importPath ▸ clean, ?_⟩
    rw [StaysInside, tier]
    exact ⟨_, nearest, root.isAtOrBelow below⟩
  | directory inferred dir tier => exact isCanonical_of_directory modules inferred dir tier
  | vendor between importPath dir tier =>
    obtain ⟨_, _, -, above⟩ :=
      wdFolded.exists_of_mem_enclosing (Path.mem_enclosing_of_mem_upTo between)
    have vendor : ∀ name ∈ ["vendor"], (Component.name name).IsWritten := by
      intro name hn
      rw [List.mem_singleton.1 hn]
      exact ⟨rfl, by decide⟩
    have root := above.joinAll vendor
    have below := root.joinAll clean.isWritten
    have place : found.dir = (Path.joinAll _ ["vendor"]).joinAll (slashSegments specifier) := dir
    rw [← place] at below
    refine ⟨below.normalize, importPath ▸ clean, ?_⟩
    rw [StaysInside, tier]
    exact ⟨_, between, root.isAtOrBelow below⟩
  | sourceRoot importPath dir tier =>
    obtain ⟨_, root⟩ := srcRoot.exists_isFolded_normalize
    have below := root.joinAll clean.isWritten
    rw [← dir] at below
    refine ⟨below.normalize, importPath ▸ clean, ?_⟩
    rw [StaysInside, tier]
    exact root.isAtOrBelow below

/-- A package that is found is canonical if and only if it is found in a directory, or what is asked
for has no empty segment, no `.` and no `..`.  In all other tiers these are left as they are. -/
theorem resolve_isCanonical_iff
    (modules : ∀ dir name, moduleName? tree dir = some name → IsClean name)
    (h : resolve tree srcRoot.normalize wd specifier = .ok found) :
    found.IsCanonical tree srcRoot.normalize wd ↔ found.tier = .directory ∨ IsClean specifier := by
  have comes := comesFrom_of_resolve h
  -- every tier but that of directories takes the specifier itself as the import path
  constructor
  · intro canonical
    cases comes with
    | directory _ _ tier => exact .inl tier
    | module _ _ importPath _ _ => exact .inr (importPath ▸ canonical.clean)
    | vendor _ importPath _ _ => exact .inr (importPath ▸ canonical.clean)
    | sourceRoot importPath _ _ => exact .inr (importPath ▸ canonical.clean)
  · rintro (tier | clean)
    · cases comes with
      | directory inferred dir tier => exact isCanonical_of_directory modules inferred dir tier
      | module _ _ _ _ other => cases other.symm.trans tier
      | vendor _ _ _ other => cases other.symm.trans tier
      | sourceRoot _ _ other => cases other.symm.trans tier
    · exact comes.isCanonical modules clean

/-- A module with a package two directories down, and two packages under the source root. -/
def outpostTree : FileTree :=
  ⟨[(["work"], .directory directoryMode),
    (["work", "app"], .directory directoryMode),
    (["work", "app", "go.mod"], .file (.text "module example.com/app\n") fileMode),
    (["work", "app", "store"], .directory directoryMode),
    (["work", "app", "store", "disk"], .directory directoryMode),
    (["src"], .directory directoryMode),
    (["src", "a"], .directory directoryMode),
    (["src", "b"], .directory directoryMode),
    (["src", "b", "c"], .directory directoryMode)]⟩

theorem isClean_of_moduleName?_outpostTree (dir : Path) (name : String)
    (h : moduleName? outpostTree dir = some name) : IsClean name := by
  obtain ⟨text, held, declared⟩ := exists_holds_of_moduleName? h
  have only : text = "module example.com/app\n" := by
    simpa [FileTree.Holds, outpostTree] using held
  have known : (textLines "module example.com/app\n".toList).findSome? moduleOfLine?
      = some "example.com/app" := by decide +kernel
  rw [only, known] at declared
  obtain rfl := Option.some.inj declared
  decide +kernel

/-- A package of the module is canonical if it is asked for by its import path, and also if it is
asked for by a winding path to its directory. -/
theorem resolve_isCanonical_outpost :
    (∃ found, resolve outpostTree (Path.normalize ⟨"/src"⟩) ⟨"/work/app/store"⟩
        "example.com/app/store/disk" = .ok found ∧ found.tier = .module
      ∧ found.IsCanonical outpostTree (Path.normalize ⟨"/src"⟩) ⟨"/work/app/store"⟩)
    ∧ ∃ found, resolve outpostTree (Path.normalize ⟨"/src"⟩) ⟨"/work/app/store"⟩
        "disk//./../disk" = .ok found ∧ found.tier = .directory
      ∧ found.IsCanonical outpostTree (Path.normalize ⟨"/src"⟩) ⟨"/work/app/store"⟩ := by
  have inModule : resolve outpostTree (Path.normalize ⟨"/src"⟩) ⟨"/work/app/store"⟩
      "example.com/app/store/disk"
      = .ok ⟨"example.com/app/store/disk", ⟨"/work/app/store/disk"⟩, .module⟩ := by decide +kernel
  have inDirectory : resolve outpostTree (Path.normalize ⟨"/src"⟩) ⟨"/work/app/store"⟩
      "disk//./../disk"
      = .ok ⟨"example.com/app/store/disk", ⟨"/work/app/store/disk"⟩, .directory⟩ := by
    decide +kernel
  exact ⟨⟨_, inModule, rfl, (resolve_isCanonical_iff isClean_of_moduleName?_outpostTree
      inModule).2 (.inr (by decide +kernel))⟩,
    ⟨_, inDirectory, rfl, (resolve_isCanonical_iff isClean_of_moduleName?_outpostTree
      inDirectory).2 (.inl rfl)⟩⟩

/-- Under the source root, what climbs up and down again is given away as it is written: the
directory is not folded, and the import path is another one than that of the same directory. -/
theorem resolve_climbing :
    (∀ dir name, moduleName? outpostTree dir = some name → IsClean name)
      ∧ ∃ found, resolve outpostTree (Path.normalize ⟨"/src"⟩) ⟨"/work"⟩ "a/../b" = .ok found
      ∧ found.dir.normalize ≠ found.dir ∧ ¬ IsClean found.importPath
      ∧ ¬ found.IsCanonical outpostTree (Path.normalize ⟨"/src"⟩) ⟨"/work"⟩
      ∧ inferImportPath? outpostTree (Path.normalize ⟨"/src"⟩) found.dir = some "b" := by
  have found : resolve outpostTree (Path.normalize ⟨"/src"⟩) ⟨"/work"⟩ "a/../b"
      = .ok ⟨"a/../b", ⟨"/src/a/../b"⟩, .sourceRoot⟩ := by decide +kernel
  have unclean : ¬ IsClean "a/../b" := by decide +kernel
  exact ⟨isClean_of_moduleName?_outpostTree, _, found, by decide +kernel, unclean,
    fun canonical => unclean canonical.clean, by decide +kernel⟩

end Canonical

end WrapperGen
