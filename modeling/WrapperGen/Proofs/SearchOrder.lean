import WrapperGen.Resolver
import WrapperGen.Proofs.FoldedPaths

/-!
# The order of the search

What is asked for is looked up in four tiers: in the module around the working directory, in the
directory of that path, among the packages kept beside the directories from the working directory up
to the source root, and under the source root.  The tiers are written down here without any search.
The module is the nearest one among the directories that the first steps of the working directory
lead to, as long as none of these up to there is the source root; and the packages kept beside
directories are those of the directories on the way from the source root to the working directory.

## Main definitions

* `Module.Owns`: an import path that begins with the name of a module.
* `IsNearestModule`: the nearest module at or above a directory, in front of another.
* `Path.downFrom`: the directories on the way from one to another.
* `ModuleTier`, `VendorTier`, `IsSearchOrder`: the places to try, tier by tier.
* `Candidate.IsAcceptable`, `Candidate.Gives`: the places where a package is found.

## Main results

* `findModule?_eq_some_iff`: the walk for a module finds the nearest one.
* `takeWhile_enclosing`: the walk up to a directory meets those on the way from there.
* `isSearchOrder_iff`: the places that are tried are those of the tiers.
* `resolve_first_acceptable`: the first acceptable place is found, or else all of them were tried.
-/

namespace WrapperGen

/-! ### Modules -/

/-- An import path that begins with the name of a module, and what follows the name. -/
def Module.Owns (m : Module) (specifier rest : String) : Prop :=
  specifier = m.name ∧ rest = "" ∨ specifier = m.name ++ "/" ++ rest

theorem Module.relative?_eq_some_iff {m : Module} {specifier rest : String} :
    m.relative? specifier = some rest ↔ m.Owns specifier rest := by
  -- texts are compared by their characters, since prefixes are taken of these
  have text : ∀ behind, specifier.toList = m.name.toList ++ behind ↔
      specifier = m.name ++ String.ofList behind := by
    intro behind
    rw [← String.toList_inj, String.toList_append, String.toList_ofList]
  unfold relative? Owns
  cases found : m.name.toList.isPrefixOf? specifier.toList with
  | none =>
    have other : ∀ behind, specifier ≠ m.name ++ String.ofList behind := by
      intro behind e
      rw [List.isPrefixOf?_eq_some_iff_append_eq.2 ((text behind).2 e).symm] at found
      cases found
    constructor
    · intro e
      cases e
    · rintro (⟨e, -⟩ | e)
      · exact absurd (by simpa using e) (other [])
      · refine absurd (e.trans ?_) (other ('/' :: rest.toList))
        apply String.toList_injective
        simp
  | some behind =>
    have e : specifier = m.name ++ String.ofList behind :=
      (text behind).1 (List.append_eq_of_isPrefixOf?_eq_some found).symm
    -- the specifier begins with the name, so what is said of it is said of the rest
    have cut : ∀ more, specifier = m.name ++ String.ofList more ↔ behind = more := by
      intro more
      rw [← text, ← List.append_eq_of_isPrefixOf?_eq_some found, List.append_cancel_left_eq]
    have whole : specifier = m.name ↔ behind = [] := by
      rw [← cut, String.ofList_nil, String.append_empty]
    have below : specifier = m.name ++ "/" ++ rest ↔ behind = '/' :: rest.toList := by
      rw [← cut, String.append_assoc]
      have glued : String.ofList ('/' :: rest.toList) = "/" ++ rest := by
        apply String.toList_injective
        simp
      rw [glued]
    rw [whole, below]
    -- nothing behind the name, or a slash, or a letter that makes another name of it
    cases behind with
    | nil =>
      constructor
      · intro e
        exact .inl ⟨rfl, (Option.some.inj e).symm⟩
      · rintro (⟨-, rfl⟩ | e)
        · rfl
        · cases e
    | cons c letters =>
      by_cases slash : c = '/'
      · subst slash
        constructor
        · intro e
          rw [← Option.some.inj e, String.toList_ofList]
          exact .inr rfl
        · rintro (⟨e, -⟩ | e)
          · cases e
          · rw [(List.cons.inj e).2]
            exact congrArg some String.ofList_toList
      · simp [slash]

/-- The nearest module at or above the directory `dir`, where the directory `boundary` has not been
met up to there. -/
def IsNearestModule (tree : FileTree) (boundary dir : Path) (m : Module) : Prop :=
  ∃ nearer farther, dir.enclosing = nearer ++ m.root :: farther
    ∧ moduleName? tree m.root = some m.name ∧ (∀ other ∈ nearer, moduleName? tree other = none)
    ∧ ∀ other ∈ nearer ++ [m.root], other.sameSteps boundary = false

theorem firstModule?_eq_some_iff {tree : FileTree} {boundary : Path} {dirs : List Path}
    {m : Module} :
    firstModule? tree boundary dirs = some m ↔ ∃ nearer farther, dirs = nearer ++ m.root :: farther
      ∧ moduleName? tree m.root = some m.name ∧ (∀ other ∈ nearer, moduleName? tree other = none)
      ∧ ∀ other ∈ nearer ++ [m.root], other.sameSteps boundary = false := by
  -- from the nearest directory on, each is passed, or it is the boundary, or it declares a module
  induction dirs with
  | nil => simp [firstModule?]
  | cons dir above ih =>
    unfold firstModule?
    by_cases reached : dir.sameSteps boundary = true
    · rw [if_pos reached]
      constructor
      · intro e
        cases e
      · -- the first directory that is looked at is the boundary, and no module is in front of it
        rintro ⟨nearer, farther, e, -, -, before⟩
        have first : dir ∈ nearer ++ [m.root] := by
          cases nearer with
          | nil => rw [(List.cons.inj e).1]; exact List.mem_singleton_self _
          | cons other more => rw [(List.cons.inj e).1]; exact List.mem_cons_self
        rw [before dir first] at reached
        cases reached
    · have free : dir.sameSteps boundary = false := by simpa using reached
      rw [if_neg reached]
      cases named : moduleName? tree dir with
      | some name =>
        constructor
        · intro e
          obtain rfl := Option.some.inj e
          refine ⟨[], above, rfl, named, by simp, fun other hm => ?_⟩
          rw [List.mem_singleton.1 hm]
          exact free
        · rintro ⟨nearer, farther, e, found, unnamed, -⟩
          cases nearer with
          | nil =>
            obtain ⟨rfl, -⟩ := List.cons.inj e
            rw [named] at found
            rw [Option.some.inj found]
          | cons other more =>
            obtain ⟨rfl, -⟩ := List.cons.inj e
            rw [unnamed dir List.mem_cons_self] at named
            cases named
      | none =>
        dsimp only
        rw [ih]
        constructor
        · rintro ⟨nearer, farther, rfl, found, unnamed, before⟩
          refine ⟨dir :: nearer, farther, rfl, found, ?_, ?_⟩
          · exact List.forall_mem_cons.2 ⟨named, unnamed⟩
          · exact List.forall_mem_cons.2 ⟨free, before⟩
        · rintro ⟨nearer, farther, e, found, unnamed, before⟩
          cases nearer with
          | nil =>
            obtain ⟨rfl, -⟩ := List.cons.inj e
            rw [named] at found
            cases found
          | cons other more =>
            obtain ⟨rfl, rfl⟩ := List.cons.inj e
            exact ⟨more, farther, rfl, found, (List.forall_mem_cons.1 unnamed).2,
              (List.forall_mem_cons.1 before).2⟩

/-- The walk for a module from a folded path finds the nearest one. -/
theorem findModule?_eq_some_iff {tree : FileTree} {boundary dir : Path} {m : Module} :
    findModule? tree dir.normalize boundary = some m ↔
      IsNearestModule tree boundary dir.normalize m := by
  rw [findModule?, firstModule?_eq_some_iff, Path.ancestors_normalize]
  rfl

/-! ### The directories on the way -/

/-- The directories that some steps lead to from `base`, which is none of them, the last one
first. -/
def Path.downFrom (base : Path) (steps : List Component) : List Path :=
  (steps.inits.tail.map fun front => ofComponents (base.components ++ front)).reverse

theorem Path.downFrom_concat (base : Path) (steps : List Component) (last : Component) :
    base.downFrom (steps ++ [last])
      = ofComponents (base.components ++ (steps ++ [last])) :: base.downFrom steps := by
  have some' : steps.inits ≠ [] := by
    intro e
    have := List.length_inits steps
    rw [e] at this
    cases this
  unfold downFrom
  rw [List.inits_append, List.tail_append_of_ne_nil some', List.map_append, List.reverse_append]
  rfl

/-- The walk up to a directory meets those on the way from there. -/
theorem takeWhile_enclosing {base : Path} {steps inner : List Component} (absolute : Bool)
    (written : ∀ step ∈ inner, step.IsWritten)
    (below : Path.start absolute ++ inner = base.components ++ steps) :
    ((Path.ofComponents (Path.start absolute ++ inner)).enclosing).takeWhile
      (fun dir => !dir.sameSteps base) = base.downFrom steps := by
  rw [Path.enclosing_ofComponents absolute written]
  induction inner using List.reverseRecOn generalizing steps with
  | nil =>
    have here := Path.components_ofComponents absolute written
    have one : (([] : List Component).inits.map fun front =>
          Path.ofComponents (Path.start absolute ++ front)).reverse
        = [Path.ofComponents (Path.start absolute ++ [])] := rfl
    rw [one]
    rcases List.eq_nil_or_concat steps with rfl | ⟨front, last, rfl⟩
    · have same : (Path.ofComponents (Path.start absolute ++ [])).sameSteps base = true := by
        rw [Path.sameSteps, here, below, List.append_nil]
        exact beq_self_eq_true _
      rw [List.takeWhile_cons, same]
      rfl
    · -- only the step to the top of the tree is left, and nothing is above that
      rw [List.concat_eq_append] at below ⊢
      have lengths := congrArg List.length below
      have short : (Path.start absolute).length ≤ 1 := by cases absolute <;> decide
      simp only [List.length_append, List.length_nil, List.length_singleton] at lengths
      have noFront : front = [] := List.length_eq_zero_iff.1 (by omega)
      have noBase : base.components = [] := List.length_eq_zero_iff.1 (by omega)
      have other : (Path.ofComponents (Path.start absolute ++ [])).sameSteps base = false := by
        rw [Path.sameSteps, here, below, noBase, noFront]
        rfl
      rw [List.takeWhile_cons, other, Path.downFrom_concat, ← below, noFront]
      rfl
  | append_singleton front last ih =>
    have here := Path.components_ofComponents absolute written
    have climbs : ((front ++ [last]).inits.map fun front =>
          Path.ofComponents (Path.start absolute ++ front)).reverse
        = Path.ofComponents (Path.start absolute ++ (front ++ [last]))
          :: (front.inits.map fun front =>
            Path.ofComponents (Path.start absolute ++ front)).reverse := by
      rw [List.inits_append, List.map_append, List.reverse_append]
      rfl
    rw [climbs]
    rcases List.eq_nil_or_concat steps with rfl | ⟨way, step, rfl⟩
    · have same : (Path.ofComponents (Path.start absolute ++ (front ++ [last]))).sameSteps base
          = true := by
        rw [Path.sameSteps, here, below, List.append_nil]
        exact beq_self_eq_true _
      rw [List.takeWhile_cons, same]
      rfl
    · rw [List.concat_eq_append] at below ⊢
      have other : (Path.ofComponents (Path.start absolute ++ (front ++ [last]))).sameSteps base
          = false := by
        rw [Path.sameSteps, here, below]
        refine beq_eq_false_iff_ne.2 fun e => ?_
        have lengths := congrArg List.length e
        simp at lengths
      have above : Path.start absolute ++ front = base.components ++ way := by
        rw [← List.append_assoc, ← List.append_assoc] at below
        exact (List.append_inj' below rfl).1
      rw [List.takeWhile_cons, other, Path.downFrom_concat, ← below,
        ← ih (fun s hs => written s (List.mem_append_left _ hs)) above]
      rfl

/-! ### The tiers -/

section Tiers

variable (tree : FileTree) (srcRoot wd : Path) (specifier : String)

/-- The place in the module around the working directory, if that owns what is asked for. -/
inductive ModuleTier : List Candidate → Prop
  /-- The nearest module owns what is asked for. -/
  | owned {m : Module} {rest : String} (nearest : IsNearestModule tree srcRoot wd.normalize m)
      (owns : m.Owns specifier rest) :
      ModuleTier [⟨m.root.joinAll (slashSegments rest), .module, some specifier⟩]
  /-- There is no module, or the nearest one does not own what is asked for. -/
  | foreign (h : ∀ m rest, IsNearestModule tree srcRoot wd.normalize m → ¬ m.Owns specifier rest) :
      ModuleTier []

/-- The directory of the path that is asked for.  The import path is that of the directory. -/
def directoryPlace : Candidate :=
  ⟨wd.absolutize ⟨specifier⟩, .directory,
    inferImportPath? tree srcRoot (wd.absolutize ⟨specifier⟩)⟩

/-- The places beside the directories from the working directory up to the source root. -/
inductive VendorTier : List Candidate → Prop
  /-- The working directory is the source root or stands below it. -/
  | below {steps : List Component}
      (h : wd.normalize.components = srcRoot.components ++ steps) :
      VendorTier ((srcRoot.downFrom steps).map fun dir =>
        ⟨(dir.join ⟨"vendor"⟩).joinAll (slashSegments specifier), .vendor, some specifier⟩)
  /-- The working directory stands elsewhere. -/
  | outside (h : ∀ steps, wd.normalize.components ≠ srcRoot.components ++ steps) : VendorTier []

/-- The places to try, in order. -/
inductive IsSearchOrder : List Candidate → Prop
  /-- The path of a directory stands for that directory alone. -/
  | path (h : isLogical specifier = false) :
      IsSearchOrder [directoryPlace tree srcRoot wd specifier]
  /-- An import path is looked up in all tiers. -/
  | logical {inModule inVendor : List Candidate} (h : isLogical specifier = true)
      (first : ModuleTier tree srcRoot wd specifier inModule)
      (third : VendorTier srcRoot wd specifier inVendor) :
      IsSearchOrder (inModule ++ directoryPlace tree srcRoot wd specifier :: inVendor
        ++ [⟨srcRoot.joinAll (slashSegments specifier), .sourceRoot, some specifier⟩])

variable {tree srcRoot wd specifier} {places : List Candidate}

theorem moduleTier_iff : ModuleTier tree srcRoot wd specifier places ↔
    places = (moduleCandidate? tree srcRoot wd.normalize specifier).toList := by
  unfold moduleCandidate? enclosingModule?
  rw [Path.normalize_normalize]
  -- no module is near, or the one that is owns the specifier, or it does not
  cases found : findModule? tree wd.normalize srcRoot with
  | none =>
    have no : ∀ m, ¬ IsNearestModule tree srcRoot wd.normalize m := by
      intro m nearest
      rw [findModule?_eq_some_iff.2 nearest] at found
      cases found
    constructor
    · intro h
      cases h with
      | owned nearest owns => exact absurd nearest (no _)
      | foreign h => rfl
    · rintro rfl
      exact .foreign fun m rest nearest => absurd nearest (no m)
  | some m =>
    have nearest := findModule?_eq_some_iff.1 found
    -- the nearest module is the one that the search finds
    have only : ∀ other, IsNearestModule tree srcRoot wd.normalize other → other = m := by
      intro other ho
      rw [findModule?_eq_some_iff.2 ho] at found
      exact Option.some.inj found
    cases owned : m.relative? specifier with
    | none =>
      have no : ∀ rest, ¬ m.Owns specifier rest := by
        intro rest owns
        rw [Module.relative?_eq_some_iff.2 owns] at owned
        cases owned
      constructor
      · intro h
        cases h with
        | owned other owns => exact absurd (only _ other ▸ owns) (no _)
        | foreign h => simp [owned]
      · intro e
        have none' : places = [] := by simpa [owned] using e
        rw [none']
        exact .foreign fun other rest ho owns => no rest (only other ho ▸ owns)
    | some rest =>
      have owns := Module.relative?_eq_some_iff.1 owned
      constructor
      · intro h
        cases h with
        | @owned other behind ho how =>
          obtain rfl := only other ho
          rw [Module.relative?_eq_some_iff.2 how] at owned
          obtain rfl := Option.some.inj owned
          simp [Module.relative?_eq_some_iff.2 how, Module.directoryOf]
        | foreign h => exact absurd owns (h m rest nearest)
      · intro e
        have one : places
            = [⟨m.root.joinAll (slashSegments rest), .module, some specifier⟩] := by
          simpa [owned, Module.directoryOf] using e
        rw [one]
        exact .owned nearest owns

theorem Path.below?_eq_some_iff {base p : Path} {steps : List Component} :
    base.below? p = some steps ↔ p.components = base.components ++ steps := by
  unfold below?
  dsimp only
  by_cases front : base.components.isPrefixOf p.components = true
  · obtain ⟨rest, e⟩ := List.isPrefixOf_iff_prefix.1 front
    rw [if_pos front, ← e, List.drop_left, Option.some.injEq, List.append_cancel_left_eq]
  · rw [if_neg front]
    constructor
    · intro e
      cases e
    · intro e
      exact absurd (List.isPrefixOf_iff_prefix.2 ⟨steps, e.symm⟩) front

theorem Path.isAtOrBelow_iff {p base : Path} :
    p.isAtOrBelow base = true ↔ ∃ steps, p.components = base.components ++ steps := by
  rw [isAtOrBelow, Option.isSome_iff_exists]
  exact exists_congr fun steps => below?_eq_some_iff

/-- The directories from a folded path up to the source root are those on the way from there. -/
theorem directoriesBelowRoot_eq {steps : List Component}
    (h : wd.normalize.components = srcRoot.components ++ steps) :
    directoriesBelowRoot srcRoot wd.normalize = srcRoot.downFrom steps := by
  obtain ⟨inner, path, components, -, written⟩ := Path.exists_inner_normalize wd
  rw [directoriesBelowRoot, if_pos (Path.isAtOrBelow_iff.2 ⟨steps, h⟩), Path.ancestors_normalize,
    path]
  exact takeWhile_enclosing wd.isAbsolute written (components.symm.trans h)

theorem vendorTier_iff : VendorTier srcRoot wd specifier places ↔
    places = (directoriesBelowRoot srcRoot wd.normalize).map fun above =>
      ⟨(above.join ⟨"vendor"⟩).joinAll (slashSegments specifier), .vendor, some specifier⟩ := by
  -- only a working directory below the root has directories between the two
  by_cases inside : wd.normalize.isAtOrBelow srcRoot = true
  · obtain ⟨steps, h⟩ := Path.isAtOrBelow_iff.1 inside
    rw [directoriesBelowRoot_eq h]
    constructor
    · intro tier
      cases tier with
      | @below other e =>
        rw [List.append_cancel_left (h.symm.trans e)]
      | outside no => exact absurd h (no steps)
    · rintro rfl
      exact .below h
  · rw [directoriesBelowRoot, if_neg inside]
    have no : ∀ steps, wd.normalize.components ≠ srcRoot.components ++ steps :=
      fun steps h => inside (Path.isAtOrBelow_iff.2 ⟨steps, h⟩)
    constructor
    · intro tier
      cases tier with
      | below h => exact absurd h (no _)
      | outside _ => rfl
    · rintro rfl
      exact .outside no

theorem candidates_logical (h : isLogical specifier = true) :
    candidates tree srcRoot wd.normalize specifier
      = (moduleCandidate? tree srcRoot wd.normalize specifier).toList
        ++ directoryPlace tree srcRoot wd specifier
        :: ((directoriesBelowRoot srcRoot wd.normalize).map fun above =>
          ⟨(above.join ⟨"vendor"⟩).joinAll (slashSegments specifier), .vendor, some specifier⟩)
        ++ [⟨srcRoot.joinAll (slashSegments specifier), .sourceRoot, some specifier⟩] := by
  unfold candidates directoryPlace
  rw [Path.absolutize_normalize]
  dsimp only
  rw [if_pos h]

theorem candidates_path (h : isLogical specifier = false) :
    candidates tree srcRoot wd.normalize specifier
      = [directoryPlace tree srcRoot wd specifier] := by
  unfold candidates directoryPlace
  rw [Path.absolutize_normalize]
  dsimp only
  rw [if_neg (by rw [h]; exact Bool.false_ne_true)]

/-- The places that are tried are those of the tiers. -/
theorem isSearchOrder_iff : IsSearchOrder tree srcRoot wd specifier places ↔
    places = candidates tree srcRoot wd.normalize specifier := by
  -- the kind of the specifier tells which rule of the order applies
  cases kind : isLogical specifier with
  | true =>
    rw [candidates_logical kind]
    constructor
    · intro order
      cases order with
      | path h =>
        rw [kind] at h
        cases h
      | logical _ first third => rw [moduleTier_iff.1 first, vendorTier_iff.1 third]
    · intro e
      have first : ModuleTier tree srcRoot wd specifier _ := moduleTier_iff.2 rfl
      have third : VendorTier srcRoot wd specifier _ := vendorTier_iff.2 rfl
      rw [e]
      exact IsSearchOrder.logical kind first third
  | false =>
    rw [candidates_path kind]
    constructor
    · intro order
      cases order with
      | path _ => rfl
      | logical h _ _ =>
        rw [kind] at h
        cases h
    · rintro rfl
      exact .path kind

end Tiers

/-! ### The first acceptable place -/

/-- A place is acceptable: it is a directory that exists, and there is an import path for it. -/
def Candidate.IsAcceptable (tree : FileTree) (c : Candidate) : Prop :=
  tree.isDirectory c.dir = true ∧ c.importPath?.isSome = true

/-- What is found at an acceptable place. -/
structure Candidate.Gives (tree : FileTree) (c : Candidate) (found : Found) : Prop where
  /-- The place is a directory that exists. -/
  exists' : tree.isDirectory c.dir = true
  /-- The import path is the one for the place. -/
  importPath : c.importPath? = some found.importPath
  /-- The directory is the place. -/
  dir : found.dir = c.dir
  /-- The tier is that of the place. -/
  tier : found.tier = c.tier

theorem Candidate.found?_eq_some_iff {tree : FileTree} {c : Candidate} {found : Found} :
    c.found? tree = some found ↔ c.Gives tree found := by
  unfold found?
  constructor
  · intro h
    by_cases there : tree.isDirectory c.dir = true
    · rw [if_pos there] at h
      obtain ⟨path, e, rfl⟩ := Option.map_eq_some_iff.1 h
      exact ⟨there, e, rfl, rfl⟩
    · rw [if_neg there] at h
      cases h
  · rintro ⟨there, e, dir, tier⟩
    rw [if_pos there, e, ← dir, ← tier]
    rfl

theorem Candidate.found?_eq_none_iff {tree : FileTree} {c : Candidate} :
    c.found? tree = none ↔ ¬ c.IsAcceptable tree := by
  unfold found? IsAcceptable
  by_cases there : tree.isDirectory c.dir = true
  · rw [if_pos there, Option.map_eq_none_iff, ← Option.not_isSome_iff_eq_none]
    simp [there]
  · simp [there]

/-- There is one list of places for what is asked for.  The first acceptable one among them is
found; and if none is acceptable, nothing is found and all of them were tried. -/
theorem resolve_first_acceptable (tree : FileTree) (srcRoot wd : Path) (specifier : String) :
    ∃ places, IsSearchOrder tree srcRoot wd specifier places
      ∧ (∀ other, IsSearchOrder tree srcRoot wd specifier other → other = places)
      ∧ (∀ found, resolve tree srcRoot wd specifier = .ok found ↔
        ∃ before c after, places = before ++ c :: after
          ∧ (∀ earlier ∈ before, ¬ earlier.IsAcceptable tree) ∧ c.Gives tree found)
      ∧ ∀ cause, resolve tree srcRoot wd specifier = .error cause ↔
        (∀ c ∈ places, ¬ c.IsAcceptable tree) ∧ cause = ⟨specifier, places.map Candidate.dir⟩ := by
  refine ⟨candidates tree srcRoot wd.normalize specifier, isSearchOrder_iff.2 rfl,
    fun other order => isSearchOrder_iff.1 order, ?_, ?_⟩
  · intro found
    -- what is found comes from the first place that gives something
    have first : resolve tree srcRoot wd specifier = .ok found ↔
        (candidates tree srcRoot wd.normalize specifier).findSome? (Candidate.found? tree)
          = some found := by
      unfold resolve
      dsimp only
      split
      · next other e => rw [e, Except.ok.injEq, Option.some.injEq]
      · next e => simp [e]
    rw [first, List.findSome?_eq_some_iff]
    constructor
    · rintro ⟨before, c, after, split, gives, none'⟩
      refine ⟨before, c, after, split, fun earlier he => ?_, Candidate.found?_eq_some_iff.1 gives⟩
      exact Candidate.found?_eq_none_iff.1 (none' earlier he)
    · rintro ⟨before, c, after, split, none', gives⟩
      refine ⟨before, c, after, split, Candidate.found?_eq_some_iff.2 gives, fun earlier he => ?_⟩
      exact Candidate.found?_eq_none_iff.2 (none' earlier he)
  · intro cause
    -- and nothing is found where no place gives anything
    have no : (∀ c ∈ candidates tree srcRoot wd.normalize specifier, ¬ c.IsAcceptable tree) ↔
        (candidates tree srcRoot wd.normalize specifier).findSome? (Candidate.found? tree)
          = none := by
      rw [List.findSome?_eq_none_iff]
      exact forall₂_congr fun c _ => Candidate.found?_eq_none_iff.symm
    rw [no]
    unfold resolve
    dsimp only
    split
    · next other e => simp [e]
    · next e => simp [e, eq_comm]

end WrapperGen
