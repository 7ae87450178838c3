import WrapperGen.Proofs.FoundPackages

/-!
# Import paths of packages that were found

An import path is cut at its slashes, and its names lead down from the root of a tier.  From the
directory that is reached, the way back up meets the same root again, unless another module or the
source root is in between; and the names on that way, put together, are the import path.

## Main results

* `inferImportPath?_below_module`, `inferImportPath?_below_root`: the import path of a directory
  that names lead to.
* `inferImportPath?_of_resolve`: the directory of a package has the import path that was asked for.
-/

namespace WrapperGen

section Below

variable {tree : FileTree} {srcRoot p dir : Path} {absolute : Bool} {inner : List Component}
  {names : List String}

/-- The first directory at or above a folded path is the path. -/
theorem Path.IsFolded.exists_enclosing_eq_cons (h : p.IsFolded absolute inner) :
    ∃ farther, p.enclosing = p :: farther := by
  rw [h.enclosing]
  rcases List.eq_nil_or_concat inner with rfl | ⟨front, last, rfl⟩
  · exact ⟨[], by rw [h.path]; rfl⟩
  · rw [List.concat_eq_append] at h ⊢
    rw [List.inits_append, List.map_append, List.reverse_append]
    exact ⟨_, by rw [h.path]; rfl⟩

/-- A walk that meets no module in front of its boundary finds none. -/
theorem firstModule?_eq_none {boundary : Path} {front rest : List Path}
    (free : ∀ dir ∈ front, moduleName? tree dir = none) :
    firstModule? tree boundary (front ++ boundary :: rest) = none := by
  induction front with
  | nil =>
    have reached : boundary.sameSteps boundary = true := by
      rw [Path.sameSteps]
      exact beq_self_eq_true _
    rw [List.nil_append, firstModule?, if_pos reached]
  | cons dir more ih =>
    obtain ⟨here, others⟩ := List.forall_mem_cons.1 free
    rw [List.cons_append, firstModule?, here]
    by_cases reached : dir.sameSteps boundary = true
    · rw [if_pos reached]
    · rw [if_neg reached]
      exact ih others

/-- Names that lead down from a module lead to a directory of that module, if no other one and not
the source root is on the way. -/
theorem isNearestModule_of_joinAll {m : Module} (root : m.root.IsFolded absolute inner)
    (below : dir.IsFolded absolute (inner ++ names.map .name))
    (named : moduleName? tree m.root = some m.name) (inside : m.root.sameSteps srcRoot = false)
    (free : ∀ d ∈ dir.upTo m.root, moduleName? tree d = none ∧ d.sameSteps srcRoot = false) :
    IsNearestModule tree srcRoot dir m := by
  obtain ⟨farther, first⟩ := root.exists_enclosing_eq_cons
  refine ⟨dir.upTo m.root, farther, ?_, named, fun d hd => (free d hd).1, ?_⟩
  · rw [root.enclosing_append below, root.upTo_append below, first]
  · exact List.forall_mem_append.2 ⟨fun d hd => (free d hd).2, by simpa using inside⟩

/-- The import path of a directory in a module. -/
theorem inferImportPath?_below_module {m : Module} (root : m.root.IsFolded absolute inner)
    (below : dir.IsFolded absolute (inner ++ names.map .name))
    (nearest : IsNearestModule tree srcRoot dir m) :
    inferImportPath? tree srcRoot dir
      = some (if (joinSlash names).isEmpty then m.name else m.name ++ "/" ++ joinSlash names) := by
  have enclosing := (enclosingModule?_eq_some_iff below.normalize).2 nearest
  have steps : m.root.below? dir = some (names.map .name) := by
    rw [Path.below?_eq_some_iff, below.components, root.components, List.append_assoc]
  unfold inferImportPath?
  dsimp only
  rw [below.normalize, enclosing]
  dsimp only
  rw [steps, Option.map_some, Path.slashNames_map_name]

/-- The import path of a directory under the source root that is in no module. -/
theorem inferImportPath?_below_root (root : srcRoot.IsFolded absolute inner)
    (below : dir.IsFolded absolute (inner ++ names.map .name))
    (free : ∀ d ∈ dir.upTo srcRoot, moduleName? tree d = none)
    (some' : (joinSlash names).isEmpty = false) :
    inferImportPath? tree srcRoot dir = some (joinSlash names) := by
  -- no module is found on the way up to the root, where the search ends
  have none' : enclosingModule? tree srcRoot dir = none := by
    obtain ⟨farther, first⟩ := root.exists_enclosing_eq_cons
    rw [enclosingModule?, findModule?, Path.ancestors_normalize, below.normalize,
      root.enclosing_append below, first]
    rw [root.upTo_append below] at free
    exact firstModule?_eq_none free
  have steps : srcRoot.below? dir = some (names.map .name) := by
    rw [Path.below?_eq_some_iff, below.components, root.components, List.append_assoc]
  unfold inferImportPath?
  dsimp only
  rw [below.normalize, none']
  dsimp only
  rw [steps]
  dsimp only
  rw [Path.slashNames_map_name, if_neg (by simp [some'])]

end Below

section Found

variable {tree : FileTree} {srcRoot wd : Path} {specifier : String} {found : Found}

/-- A clean path is not empty. -/
theorem IsClean.isEmpty_eq_false (clean : IsClean specifier) : specifier.isEmpty = false := by
  rw [Bool.eq_false_iff]
  intro empty
  have nothing : specifier = "" := by simpa using empty
  rw [nothing] at clean
  exact absurd clean (by decide)

/-- The name of a module with what is left behind it is what was asked for. -/
theorem Module.Owns.name_append {m : Module} {rest : String} (owns : m.Owns specifier rest)
    (clean : IsClean specifier) :
    (if (joinSlash (slashSegments rest)).isEmpty then m.name
      else m.name ++ "/" ++ joinSlash (slashSegments rest)) = specifier := by
  rcases owns with ⟨e, rfl⟩ | e
  · exact e.symm
  · have behind : IsClean rest := (isClean_append_slash_iff.1 (e ▸ clean)).2
    rw [joinSlash_slashSegments behind, if_neg (by simp [behind.isEmpty_eq_false]), e]

/-- What was asked for by a clean path and found in the tier of the module, or under the source
root, is in a directory whose import path is just that path, unless a module or the source root is
on the way. -/
theorem inferImportPath?_of_resolve (clean : IsClean specifier)
    (h : resolve tree srcRoot.normalize wd specifier = .ok found) :
    (found.tier = .module →
      ∃ m, enclosingModule? tree srcRoot.normalize wd.normalize = some m
        ∧ found.dir.isAtOrBelow m.root = true
        ∧ ((∀ dir ∈ found.dir.upTo m.root,
            moduleName? tree dir = none ∧ dir.sameSteps srcRoot.normalize = false) →
          inferImportPath? tree srcRoot.normalize found.dir = some specifier))
    ∧ (found.tier = .sourceRoot → found.dir.isAtOrBelow srcRoot.normalize = true
        ∧ ((∀ dir ∈ found.dir.upTo srcRoot.normalize, moduleName? tree dir = none) →
          inferImportPath? tree srcRoot.normalize found.dir = some specifier)) := by
  -- the tier tells where the directory is, and the other tiers claim nothing
  cases comesFrom_of_resolve h with
  | module nearest owns importPath dir tier =>
    refine ⟨fun _ => ?_, fun other => (by cases tier.symm.trans other)⟩
    obtain ⟨_, wdFolded⟩ := wd.exists_isFolded_normalize
    obtain ⟨_, _, -, root⟩ := wdFolded.exists_of_mem_enclosing nearest.mem_enclosing
    have below := root.joinAll (owns.isWritten clean)
    rw [← dir] at below
    refine ⟨_, (enclosingModule?_eq_some_iff wd.normalize_normalize).2 nearest,
      root.isAtOrBelow below, fun free => ?_⟩
    obtain ⟨_, _, _, named, _, before⟩ := nearest
    -- the module is the nearest one of the directory too, since none is declared in between
    have again := isNearestModule_of_joinAll root below named
      (before _ (List.mem_append_right _ (List.mem_singleton_self _))) free
    rw [inferImportPath?_below_module root below again, owns.name_append clean]
  | directory _ _ tier =>
    exact ⟨fun other => (by cases tier.symm.trans other),
      fun other => (by cases tier.symm.trans other)⟩
  | vendor _ _ _ tier =>
    exact ⟨fun other => (by cases tier.symm.trans other),
      fun other => (by cases tier.symm.trans other)⟩
  | sourceRoot importPath dir tier =>
    refine ⟨fun other => (by cases tier.symm.trans other), fun _ => ?_⟩
    obtain ⟨_, root⟩ := srcRoot.exists_isFolded_normalize
    have below := root.joinAll clean.isWritten
    rw [← dir] at below
    have whole := joinSlash_slashSegments clean
    refine ⟨root.isAtOrBelow below, fun free => ?_⟩
    rw [inferImportPath?_below_root root below free
      (by rw [whole, clean.isEmpty_eq_false]), whole]

/-- A package of a module and one under the source root, each with the import path that it was asked
for by. -/
theorem inferImportPath?_outpost :
    (∃ found, resolve outpostTree (Path.normalize ⟨"/src"⟩) ⟨"/work/app/store"⟩
        "example.com/app/store/disk" = .ok found ∧ found.tier = .module
      ∧ inferImportPath? outpostTree (Path.normalize ⟨"/src"⟩) found.dir
        = some "example.com/app/store/disk")
    ∧ ∃ found, resolve outpostTree (Path.normalize ⟨"/src"⟩) ⟨"/work"⟩ "b/c" = .ok found
      ∧ found.tier = .sourceRoot
      ∧ inferImportPath? outpostTree (Path.normalize ⟨"/src"⟩) found.dir = some "b/c" := by
  have inModule : resolve outpostTree (Path.normalize ⟨"/src"⟩) ⟨"/work/app/store"⟩
      "example.com/app/store/disk"
      = .ok ⟨"example.com/app/store/disk", ⟨"/work/app/store/disk"⟩, .module⟩ := by decide +kernel
  have underRoot : resolve outpostTree (Path.normalize ⟨"/src"⟩) ⟨"/work"⟩ "b/c"
      = .ok ⟨"b/c", ⟨"/src/b/c"⟩, .sourceRoot⟩ := by decide +kernel
  obtain ⟨m, enclosing, -, infers⟩ :=
    (inferImportPath?_of_resolve (by decide +kernel) inModule).1 rfl
  have only : enclosingModule? outpostTree (Path.normalize ⟨"/src"⟩)
      (Path.normalize ⟨"/work/app/store"⟩) = some ⟨"example.com/app", ⟨"/work/app"⟩⟩ := by
    decide +kernel
  obtain rfl := Option.some.inj (only.symm.trans enclosing)
  have free := (inferImportPath?_of_resolve (by decide +kernel) underRoot).2 rfl
  exact ⟨⟨_, inModule, rfl, infers (by decide +kernel)⟩,
    _, underRoot, rfl, free.2 (by decide +kernel)⟩

end Found

end WrapperGen
