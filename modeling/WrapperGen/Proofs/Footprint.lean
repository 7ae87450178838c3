import WrapperGen.Proofs.Finding
import WrapperGen.Proofs.Rewriting

/-!
# What a run looks at

Of all that is in a tree a run looks at little: at the module files above some directories, at the
directories in which a package may be, and at the source files of the packages that it reads.  As it
writes only into files, whatever it looked at and found is still where it was, and holds the same
unless it is one of the files that have been written.  Two things remain that may change.  What was
looked for in vain may be there afterwards, and a source file may have come to a package that was
read.  A run that does neither of these finds in the end what it found before.

The conditions are stated for the paths that the run answers with, so that nothing has to be known
of how they were written.

## Main definitions

* `FileTree.LeavesAlone`: the files that were written have left alone what a path leads to.
* `FileTree.LeavesSources`: they have left alone the source files of a directory.
* `moduleFiles`, `searchedFor`, `Workspace.searchedFor`: the paths that a search looks at.
* `Request.LooksFor`: the paths that a run looks at before it reads any source file.
* `Request.LooksAside`, `Request.LeavesAside`: the files of a run have left alone what it looks at.

## Main results

* `FileTree.Wrote.leadsAlike`, `FileTree.Wrote.sameSources`: what is left alone is the same
  afterwards.
* `resolve_of_leadsAlike`, `inferImportPath?_of_leadsAlike`, `Workspace.locate_of_leadsAlike`:
  searches that look at the same come to the same.
* `Request.readsAlike_of_leavesAside`: a run that leaves aside what it reads would read the same.
* `Request.finds_of_leavesAside`: so it would find the same.
-/

namespace WrapperGen

open FileTree

/-! ### Files that are left alone -/

namespace FileTree

/-- The place that a path leads to. -/
def place? (tree : FileTree) (p : Path) : Option Location := (tree.find p).toOption.map Prod.fst

/-- A path leads to the same in two trees, or leads nowhere in either, for whatever cause. -/
def LeadsAlike (tree later : FileTree) (p : Path) : Prop :=
  (later.find p).toOption = (tree.find p).toOption

/-- The files `files`, which have been written between `tree` and `later`, have left alone what the
path `p` leads to. -/
structure LeavesAlone (tree later : FileTree) (files : List Path) (p : Path) : Prop where
  /-- If the path leads anywhere afterwards, it did so before. -/
  old : (later.place? p).isSome = true → (tree.place? p).isSome = true
  /-- What it led to is none of the files. -/
  apart : ∀ place ∈ tree.place? p, ∀ file ∈ files, later.place? file ≠ some place

instance (tree later : FileTree) (files : List Path) (p : Path) :
    Decidable (tree.LeavesAlone later files p) :=
  decidable_of_iff (_ ∧ _) ⟨fun h => ⟨h.1, h.2⟩, fun h => ⟨h.old, h.apart⟩⟩

/-- The files `files` have left alone the source files of a directory, and none of them has become
one. -/
structure LeavesSources (tree later : FileTree) (platform : Platform) (files : List Path)
    (dir : Path) : Prop where
  /-- The source files can be found, and are left alone. -/
  sources : ∀ paths ∈ (sourceFiles tree dir platform).toOption, ∀ p ∈ paths,
    (tree.place? p).isSome = true ∧ tree.LeavesAlone later files p
  /-- A file that now stands in the directory is no source file. -/
  others : ∀ goal ∈ tree.directoryPlace? dir, ∀ file ∈ files, ∀ place ∈ later.place? file,
    place.dropLast = goal → ∀ name ∈ place.getLast?,
      (isSourceFile name && matchesPlatform name platform) = false

instance (tree later : FileTree) (platform : Platform) (files : List Path) (dir : Path) :
    Decidable (tree.LeavesSources later platform files dir) :=
  decidable_of_iff (_ ∧ _) ⟨fun h => ⟨h.1, h.2⟩, fun h => ⟨h.sources, h.others⟩⟩

section

variable {tree later : FileTree} {p : Path}

theorem place?_eq_some_iff {place : Location} :
    tree.place? p = some place ↔ ∃ entry, tree.find p = .ok (place, entry) := by
  unfold place?
  cases tree.find p with
  | error cause => simp [Except.toOption]
  | ok target => simp [Except.toOption, Prod.ext_iff]

theorem LeadsAlike.find_eq (h : LeadsAlike tree later p) {target : Location × Entry}
    (found : tree.find p = .ok target) : later.find p = tree.find p := by
  unfold LeadsAlike at h
  rw [found] at h ⊢
  cases again : later.find p with
  | ok other =>
    rw [again] at h
    rw [Option.some.inj h]
  | error cause =>
    rw [again] at h
    cases h

/-- What leads to the same in the first and in the last tree does so in one that stands between
them, before files have been rewritten. -/
theorem LeadsAlike.of_grown (h : LeadsAlike tree later p) {made : FileTree}
    (grown : Grown tree made) (kept : Rewritten made later) : LeadsAlike made later p := by
  cases found : tree.find p with
  | ok target =>
    obtain ⟨place, entry⟩ := target
    obtain ⟨stood, other, stands, between⟩ := find_of_rewritten grown.rewritten found
    rw [grown.kept place entry stood] at stands
    unfold LeadsAlike
    rw [h.find_eq found, found, between, Option.some.inj stands]
  | error cause =>
    have last : (later.find p).toOption = none := by
      rw [LeadsAlike, found] at h
      exact h
    unfold LeadsAlike
    rw [last]
    cases between : made.find p with
    | error cause => rfl
    | ok target =>
      obtain ⟨-, other, -, again⟩ := find_of_rewritten kept between
      rw [again] at last
      cases last

theorem LeadsAlike.isDirectory (h : LeadsAlike tree later p) :
    later.isDirectory p = tree.isDirectory p := by
  cases found : tree.find p with
  | ok target =>
    unfold FileTree.isDirectory
    rw [h.find_eq found]
  | error cause =>
    unfold LeadsAlike at h
    unfold FileTree.isDirectory
    rw [found] at h ⊢
    cases again : later.find p with
    | ok other =>
      rw [again] at h
      cases h
    | error cause => rfl

end

namespace Wrote

variable {α : Type} {text : α → String} {start tree : FileTree} {written : List (Written α)}
  {files : List Path} {platform : Platform} {dir p : Path}

/-- Each place that was written to is now where some path leads that was given. -/
theorem exists_place?_of_mem (h : Wrote text start tree written)
    (asked : written.reverse.map Written.path = files) {place : Location}
    (mem : place ∈ written.map Written.place) :
    ∃ file ∈ files, tree.place? file = some place := by
  obtain ⟨w, hw, rfl⟩ := List.mem_map.1 mem
  obtain ⟨content, mode, leads⟩ := (h.sends w hw).leads
  exact ⟨w.path, asked ▸ List.mem_map_of_mem (List.mem_reverse.2 hw),
    place?_eq_some_iff.2 ⟨_, find_eq_ok_iff.2 leads⟩⟩

/-- What is left alone is the same afterwards. -/
theorem leadsAlike (h : Wrote text start tree written)
    (asked : written.reverse.map Written.path = files) (alone : start.LeavesAlone tree files p) :
    LeadsAlike start tree p := by
  unfold LeadsAlike
  cases found : start.find p with
  | error cause =>
    cases again : tree.find p with
    | error cause => rfl
    | ok target =>
      have old := alone.old (by rw [place?, again]; rfl)
      rw [place?, found] at old
      cases old
  | ok target =>
    obtain ⟨place, entry⟩ := target
    obtain ⟨stood, other, stands, again⟩ := find_of_rewritten h.kept found
    have apart : place ∉ written.map Written.place := by
      intro mem
      obtain ⟨file, hf, leads⟩ := h.exists_place?_of_mem asked mem
      exact alone.apart place (place?_eq_some_iff.2 ⟨entry, found⟩) file hf leads
    rw [h.others place entry apart stood] at stands
    rw [again, ← Option.some.inj stands]

/-- The source files of a directory before and after: those that have not been written are the same,
in the same order. -/
theorem sourceFiles_ok (h : Wrote text start tree written) (platform : Platform)
    (there : start.isDirectory dir = true) :
    ∃ goal bits, ∃ names names' : List String, start.find dir = .ok (goal, .directory bits)
      ∧ sourceFiles start dir platform = .ok (names.map fun name => dir.join ⟨name⟩)
      ∧ sourceFiles tree dir platform = .ok (names'.map fun name => dir.join ⟨name⟩)
      ∧ (∀ name ∈ names', (isSourceFile name && matchesPlatform name platform) = true)
      ∧ ∀ keep : String → Bool,
          (∀ name, (isSourceFile name && matchesPlatform name platform) = true →
            keep name = true → goal ++ [name] ∉ written.map Written.place) →
          names'.filter keep = names.filter keep := by
  obtain ⟨goal, bits, found⟩ := find_of_isDirectory there
  have found' := find_directory_of_rewritten h.kept found
  obtain ⟨names, names', listed, listed', same⟩ := filter_fileNames found found' (h.listed goal)
  refine ⟨goal, bits, _, _, found, by rw [sourceFiles, listed], by rw [sourceFiles, listed'],
    fun name mem => (List.mem_filter.1 mem).2, fun keep apart => ?_⟩
  rw [List.filter_filter, List.filter_filter]
  refine same _ fun name kept => ?_
  rw [Bool.and_eq_true] at kept
  exact apart name kept.2 kept.1

/-- Source files that are left alone are the same afterwards, and so are their texts. -/
theorem sameSources (h : Wrote text start tree written)
    (asked : written.reverse.map Written.path = files) (there : start.isDirectory dir = true)
    (alone : start.LeavesSources tree platform files dir) :
    start.SameSources tree platform dir := by
  obtain ⟨goal, bits, names, names', found, listed, listed', -, same⟩ :=
    h.sourceFiles_ok platform there
  have all := same (fun _ => true) fun name source _ mem => by
    obtain ⟨file, hf, leads⟩ := h.exists_place?_of_mem asked mem
    have goes : goal ∈ start.directoryPlace? dir := by
      rw [directoryPlace?, found]
      rfl
    have none := alone.others goal goes file hf _ leads List.dropLast_concat name
      List.getLast?_concat
    rw [none] at source
    cases source
  rw [List.filter_true, List.filter_true] at all
  refine ⟨by rw [listed', listed, all], fun paths read p hp => ?_⟩
  obtain ⟨found, left⟩ := alone.sources paths (by rw [read]; rfl) p hp
  obtain ⟨place, leads⟩ := Option.isSome_iff_exists.1 found
  obtain ⟨entry, found⟩ := place?_eq_some_iff.1 leads
  unfold FileTree.readText
  rw [(h.leadsAlike asked left).find_eq found]

end Wrote

end FileTree

/-! ### Searches -/

section

variable {tree later : FileTree} {srcRoot wd dir : Path} {specifier : String}

/-- The module files that are looked at from a directory upwards.  The search ends at the first of
them that names a module, but which one that is depends on the tree. -/
def moduleFiles (srcRoot dir : Path) : List Path :=
  (dir.normalize.ancestors.takeWhile fun above => !above.sameSteps srcRoot).map
    fun above => above.join ⟨moduleFile⟩

theorem moduleName?_of_leadsAlike (same : LeadsAlike tree later (dir.join ⟨moduleFile⟩)) :
    moduleName? later dir = moduleName? tree dir := by
  unfold moduleName?
  cases found : tree.find (dir.join ⟨moduleFile⟩) with
  | ok target =>
    unfold FileTree.readText
    rw [same.find_eq found]
  | error cause =>
    unfold LeadsAlike at same
    unfold FileTree.readText
    rw [found] at same ⊢
    cases again : later.find (dir.join ⟨moduleFile⟩) with
    | ok other =>
      rw [again] at same
      cases same
    | error cause => rfl

theorem firstModule?_of_leadsAlike {dirs : List Path}
    (same : ∀ p ∈ (dirs.takeWhile fun above => !above.sameSteps srcRoot).map
      (fun above => above.join ⟨moduleFile⟩), LeadsAlike tree later p) :
    firstModule? later srcRoot dirs = firstModule? tree srcRoot dirs := by
  induction dirs with
  | nil => rfl
  | cons first above ih =>
    unfold firstModule?
    by_cases top : first.sameSteps srcRoot = true
    · rw [if_pos top, if_pos top]
    · rw [if_neg top, if_neg top]
      rw [List.takeWhile_cons_of_pos (by simpa using top), List.map_cons] at same
      rw [moduleName?_of_leadsAlike (same _ List.mem_cons_self),
        ih fun p hp => same p (List.mem_cons_of_mem _ hp)]

theorem enclosingModule?_of_leadsAlike
    (same : ∀ p ∈ moduleFiles srcRoot dir, LeadsAlike tree later p) :
    enclosingModule? later srcRoot dir = enclosingModule? tree srcRoot dir :=
  firstModule?_of_leadsAlike same

/-- The import path of a directory depends on the module files above it. -/
theorem inferImportPath?_of_leadsAlike
    (same : ∀ p ∈ moduleFiles srcRoot dir.normalize, LeadsAlike tree later p) :
    inferImportPath? later srcRoot dir = inferImportPath? tree srcRoot dir := by
  unfold inferImportPath?
  dsimp only
  rw [enclosingModule?_of_leadsAlike same]

/-- The paths that are looked at to find a package: the module files above the working directory and
above the directory that the specifier names, and the places where the package may be. -/
def searchedFor (tree : FileTree) (srcRoot wd : Path) (specifier : String) : List Path :=
  moduleFiles srcRoot wd ++ moduleFiles srcRoot (wd.absolutize ⟨specifier⟩).normalize
    ++ (candidates tree srcRoot wd specifier).map Candidate.dir

theorem findSome?_of_forall {α β : Type} {f g : α → Option β} {l : List α}
    (same : ∀ a ∈ l, f a = g a) : l.findSome? f = l.findSome? g := by
  induction l with
  | nil => rfl
  | cons first rest ih =>
    rw [List.findSome?_cons, List.findSome?_cons, same first List.mem_cons_self,
      ih fun a ha => same a (List.mem_cons_of_mem _ ha)]

/-- A search that looks at the same comes to the same. -/
theorem resolve_of_leadsAlike
    (same : ∀ p ∈ searchedFor tree srcRoot wd.normalize specifier, LeadsAlike tree later p) :
    resolve later srcRoot wd specifier = resolve tree srcRoot wd specifier := by
  unfold searchedFor at same
  simp only [List.mem_append, or_imp, forall_and] at same
  obtain ⟨⟨above, aside⟩, there⟩ := same
  have places : candidates later srcRoot wd.normalize specifier
      = candidates tree srcRoot wd.normalize specifier := by
    unfold candidates moduleCandidate?
    dsimp only
    rw [enclosingModule?_of_leadsAlike above, inferImportPath?_of_leadsAlike aside]
  have tried : ∀ c ∈ candidates tree srcRoot wd.normalize specifier,
      c.found? later = c.found? tree := by
    intro c hc
    unfold Candidate.found?
    rw [(there c.dir (List.mem_map_of_mem hc)).isDirectory]
  unfold resolve
  dsimp only
  rw [places, findSome?_of_forall tried]

theorem resolveAll_of_resolve {context : Context} {specifiers : List String}
    (same : ∀ specifier ∈ specifiers, resolve later context.resolverRoot context.cwd specifier
      = resolve tree context.resolverRoot context.cwd specifier) :
    resolveAll later context specifiers = resolveAll tree context specifiers := by
  induction specifiers with
  | nil => rfl
  | cons specifier rest ih =>
    unfold resolveAll
    rw [same specifier List.mem_cons_self,
      ih fun other ho => same other (List.mem_cons_of_mem _ ho)]

/-- A package that is found is found in a directory. -/
theorem isDirectory_of_resolve {found : Found} (h : resolve tree srcRoot wd specifier = .ok found) :
    tree.isDirectory found.dir = true := by
  unfold resolve at h
  dsimp only at h
  cases first : (candidates tree srcRoot wd.normalize specifier).findSome? (Candidate.found? tree)
    with
  | none =>
    rw [first] at h
    cases h
  | some other =>
    rw [first] at h
    obtain rfl := Except.ok.inj h
    obtain ⟨c, -, tried⟩ := List.exists_of_findSome?_eq_some first
    unfold Candidate.found? at tried
    by_cases there : tree.isDirectory c.dir = true
    · rw [if_pos there] at tried
      obtain ⟨importPath, -, rfl⟩ := Option.map_eq_some_iff.1 tried
      exact there
    · rw [if_neg there] at tried
      cases tried

theorem isDirectory_of_resolveAll {context : Context} {specifiers : List String}
    {found : List Found} (h : resolveAll tree context specifiers = .ok found) :
    ∀ f ∈ found, tree.isDirectory f.dir = true := by
  have each := resolveAll_eq_ok_iff.1 h
  intro f hf
  clear h
  induction each with
  | nil => cases hf
  | cons resolved _ ih =>
    rcases List.mem_cons.1 hf with rfl | hf
    · exact isDirectory_of_resolve resolved
    · exact ih hf

end

namespace Workspace

variable {tree later : FileTree} {context : Context} {importPath : String} {dir : Path}

/-- The paths that are looked at to find the package of an import path: that in the standard
library, and if there is none, those of a search. -/
def searchedFor (w : Workspace) (importPath : String) : List Path :=
  (w.context.standardRoot?.map fun root => root.join ⟨importPath⟩).toList
    ++ WrapperGen.searchedFor w.tree w.context.resolverRoot w.context.cwd.normalize importPath

theorem locate_of_leadsAlike (same : ∀ p ∈ (Workspace.mk tree context).searchedFor importPath,
      LeadsAlike tree later p) :
    (Workspace.mk later context).locate importPath
      = (Workspace.mk tree context).locate importPath := by
  unfold searchedFor at same
  simp only [List.mem_append, or_imp, forall_and] at same
  obtain ⟨standard, searched⟩ := same
  have first : (Workspace.mk later context).standardDirectory? importPath
      = (Workspace.mk tree context).standardDirectory? importPath := by
    unfold standardDirectory?
    dsimp only at standard ⊢
    cases root : context.standardRoot? with
    | none => rfl
    | some root =>
      dsimp only
      rw [root] at standard
      rw [(standard _ List.mem_cons_self).isDirectory]
  unfold locate
  rw [first, resolve_of_leadsAlike searched]

theorem isDirectory_of_locate (h : (Workspace.mk tree context).locate importPath = .ok dir) :
    tree.isDirectory dir = true := by
  unfold locate at h
  cases standard : (Workspace.mk tree context).standardDirectory? importPath with
  | some found =>
    rw [standard] at h
    obtain rfl := Except.ok.inj h
    unfold standardDirectory? at standard
    split at standard
    · cases standard
    · dsimp only at standard
      split at standard
      · next there =>
        rw [← Option.some.inj standard]
        exact (Bool.and_eq_true_iff.1 there).2
      · cases standard
  | none =>
    rw [standard] at h
    dsimp only at h
    cases found : resolve tree context.resolverRoot context.cwd importPath with
    | error cause =>
      rw [found] at h
      cases h
    | ok f =>
      rw [found] at h
      obtain rfl := Except.ok.inj h
      exact isDirectory_of_resolve found

end Workspace

/-! ### Runs -/

namespace Request

variable {r : Request} {site after : Site} {tree later made : FileTree} {found : List Found}
  {files : List Path}

/-- A path that a run looks at before it reads any source file. -/
inductive LooksFor (r : Request) (tree : FileTree) (found : List Found) : Path → Prop
  /-- To find a package that is asked for. -/
  | asked {specifier : String} {p : Path} (mem : specifier ∈ r.options.specifiers)
    (looked : p ∈ searchedFor tree r.context.resolverRoot r.context.cwd.normalize specifier) :
    LooksFor r tree found p
  /-- To find a package that comes up. -/
  | imported {importPath : String} {p : Path}
    (comesUp : (Workspace.mk tree r.context).ComesUp found importPath)
    (looked : p ∈ (Workspace.mk tree r.context).searchedFor importPath) : LooksFor r tree found p
  /-- To find the import path of the output directory. -/
  | output {dir p : Path} (output : r.outputDir? = some dir)
    (looked : p ∈ moduleFiles r.context.resolverRoot dir.normalize) : LooksFor r tree found p

/-- The files that a run has written have left alone what it looks at, and the source files of all
packages that come up. -/
structure LooksAside (r : Request) (tree later : FileTree) (found : List Found)
    (files : List Path) : Prop where
  /-- What it looks at is left alone. -/
  looks : ∀ p, r.LooksFor tree found p → tree.LeavesAlone later files p
  /-- So are the source files of packages that come up. -/
  imports : ∀ importPath dir, (Workspace.mk tree r.context).ComesUp found importPath →
    (Workspace.mk tree r.context).locate importPath = .ok dir →
      tree.LeavesSources later r.context.platform files dir

/-- They have left alone all that the run reads, the source files of the packages that it was asked
for among it. -/
structure LeavesAside (r : Request) (tree later : FileTree) (found : List Found)
    (files : List Path) : Prop extends r.LooksAside tree later found files where
  /-- The source files of the packages are left alone. -/
  packages : ∀ f ∈ found, tree.LeavesSources later r.context.platform files f.dir

/-- What a run that writes files has done to the tree: directories have been made, and the files
that it answers with have been written, one after the other. -/
theorem exists_wrote_of_generate
    (first : r.generate.run.run site = (.ok (.generated files), after)) :
    ∃ made, ∃ written : List (Written String), r.withOutputDir site.tree = .ok made
      ∧ Rewritten made after.tree ∧ written.reverse.map Written.path = files
      ∧ Wrote id site.tree after.tree written := by
  obtain ⟨-, settings, interfaces, made, -, -, prepared, emitted⟩ := exists_of_run_generate first
  -- what the emitter has written is looked at from the tree that it met, and from the first one
  have ends (start : FileTree) (nothing : Wrote id start made []) :
      ∃ written, written.reverse.map Written.path = files ∧ Wrote id start after.tree written := by
    have before : Wrote id start ({ site with tree := made } : Site).tree [] := nothing
    have wrote := (Emitter.triple_emit_wrote (r.emitter settings) interfaces).of_ok before
      (congrArg Prod.fst emitted)
    rw [emitted] at wrote
    exact wrote
  obtain ⟨_, -, behind⟩ := ends made Wrote.nil
  obtain ⟨written, asked, wrote⟩ :=
    ends site.tree (Wrote.nil.of_furnished (furnished_withOutputDir prepared))
  exact ⟨made, written, prepared, behind.kept, asked, wrote⟩

/-- What a run looks at leads to the same afterwards. -/
theorem leadsAlike_of_looksAside
    (first : r.generate.run.run site = (.ok (.generated files), after))
    (aside : r.LooksAside site.tree after.tree found files) {p : Path}
    (looks : r.LooksFor site.tree found p) : LeadsAlike site.tree after.tree p := by
  obtain ⟨made, written, -, -, asked, wrote⟩ := exists_wrote_of_generate first
  exact wrote.leadsAlike asked (aside.looks p looks)

/-- The same packages are found. -/
theorem resolveAll_of_looksAside
    (first : r.generate.run.run site = (.ok (.generated files), after))
    (aside : r.LooksAside site.tree after.tree found files) :
    resolveAll after.tree r.context r.options.specifiers
      = resolveAll site.tree r.context r.options.specifiers :=
  resolveAll_of_resolve fun _ mem => resolve_of_leadsAlike fun _ hp =>
    leadsAlike_of_looksAside first aside (.asked mem hp)

/-- The packages that come up are found where they were, with the same source files. -/
theorem imports_of_looksAside
    (first : r.generate.run.run site = (.ok (.generated files), after))
    (aside : r.LooksAside site.tree after.tree found files) (path : String)
    (comesUp : (Workspace.mk site.tree r.context).ComesUp found path) :
    (Workspace.mk after.tree r.context).locate path = (Workspace.mk site.tree r.context).locate path
      ∧ ∀ dir, (Workspace.mk site.tree r.context).locate path = .ok dir →
        site.tree.SameSources after.tree r.context.platform dir := by
  obtain ⟨made, written, -, -, asked, wrote⟩ := exists_wrote_of_generate first
  refine ⟨Workspace.locate_of_leadsAlike fun p hp =>
    leadsAlike_of_looksAside first aside (.imported comesUp hp), fun dir located => ?_⟩
  exact wrote.sameSources asked (Workspace.isDirectory_of_locate located)
    (aside.imports path dir comesUp located)

/-- The output directory has the import path that it had when it had just been made. -/
theorem output_of_looksAside
    (first : r.generate.run.run site = (.ok (.generated files), after))
    (aside : r.LooksAside site.tree after.tree found files) (dir : Path) (made : FileTree)
    (output : r.outputDir? = some dir) (ensured : site.tree.ensureDirectory dir = .ok made) :
    inferImportPath? after.tree r.context.resolverRoot dir
      = inferImportPath? made r.context.resolverRoot dir := by
  obtain ⟨there, written, prepared, kept, -, -⟩ := exists_wrote_of_generate first
  obtain rfl : there = made := by
    rw [withOutputDir, output] at prepared
    exact Except.ok.inj (prepared.symm.trans ensured)
  -- the module files above the directory are found in between as they are found in the end
  exact inferImportPath?_of_leadsAlike fun p hp =>
    (leadsAlike_of_looksAside first aside (.output output hp)).of_grown
      (furnished_withOutputDir prepared).grown kept

/-- A run that leaves aside what it reads would read the same once more. -/
theorem readsAlike_of_leavesAside
    (first : r.generate.run.run site = (.ok (.generated files), after))
    (resolved : resolveAll site.tree r.context r.options.specifiers = .ok found)
    (aside : r.LeavesAside site.tree after.tree found files) :
    r.ReadsAlike site.tree after.tree found where
  resolved := resolved
  resolvedToo := (resolveAll_of_looksAside first aside.toLooksAside).trans resolved
  sources := by
    obtain ⟨made, written, -, -, asked, wrote⟩ := exists_wrote_of_generate first
    exact fun f hf => wrote.sameSources asked (isDirectory_of_resolveAll resolved f hf)
      (aside.packages f hf)
  imports := imports_of_looksAside first aside.toLooksAside
  output := output_of_looksAside first aside.toLooksAside

/-- So it would find the same. -/
theorem finds_of_leavesAside (source : r.checker = r.context.checker)
    (first : r.generate.run.run site = (.ok (.generated files), after))
    (resolved : resolveAll site.tree r.context r.options.specifiers = .ok found)
    (aside : r.LeavesAside site.tree after.tree found files) :
    r.finds after.tree = r.finds site.tree := by
  obtain ⟨made, written, prepared, kept, -, -⟩ := exists_wrote_of_generate first
  exact finds_of_readsAlike (readsAlike_of_leavesAside first resolved aside) source
    (hasOutputDir_of_rewritten prepared kept) prepared

end Request

end WrapperGen
