import Mathlib.Logic.Relation
import WrapperGen.Check.Loading
import WrapperGen.Proofs.CheckerAgreement
import WrapperGen.Proofs.Walking

/-!
# How deep packages import each other

Loading a package is given a bound on how many packages may be entered on the way.  Where no
directory comes to import itself, that bound is never felt: every step down a chain of imports
leads to another import path of the tree, so that a chain is no longer than there are such paths.

## Main definitions

* `Workspace.Imports`, `Workspace.Acyclic`: the imports between directories.
* `Workspace.Needs`: the imports between import paths.
* `Workspace.Grounded`: some import paths none of which comes to need itself.
* `Workspace.Within`: what a package needs ends after so many steps.

## Main results

* `Workspace.Grounded.not_needs_back`: without cycles, nothing that a package needs comes to need
  it.
* `Workspace.within_importBound`: without cycles, no chain of imports is longer than the bound.
-/

namespace WrapperGen

open Source (File)

/-! ### Texts -/

namespace FileTree

theorem holds_of_readText {tree : FileTree} {path : Path} {text : String}
    (h : tree.readText path = .ok text) : Holds tree.entries text := by
  unfold readText find locate locateSteps at h
  by_cases blank : path.text.isEmpty = true
  · rw [if_pos blank] at h
    cases h
  by_cases null : path.text.toList.contains '\x00' = true
  · rw [if_neg blank, if_pos null] at h
    cases h
  rw [if_neg blank, if_neg null] at h
  rcases walked : walk tree true maxLinks (walkSteps path) [] with cause | (⟨place, entry⟩ | place)
  · rw [walked] at h
    cases h
  · rw [walked] at h
    rcases entry with ⟨_ | _, mode⟩ | _ | _
    · obtain rfl := Except.ok.inj h
      have here := entryAt_of_found (IsInside.top tree) walked
      unfold entryAt at here
      by_cases top : place = []
      · rw [if_pos top] at here
        cases here
      · rw [if_neg top] at here
        obtain ⟨front, behind, entries, -⟩ := List.lookup_eq_some_iff.1 here
        exact ⟨place, mode, by simp [entries]⟩
    all_goals cases h
  · rw [walked] at h
    cases h

end FileTree

namespace Workspace

variable {w : Workspace}

/-! ### Imports -/

/-- One directory imports another. -/
def Imports (w : Workspace) (dir other : Path) : Prop :=
  ∃ importPath, w.Mentions dir importPath ∧ w.locate importPath = .ok other

/-- No directory comes to import itself. -/
def Acyclic (w : Workspace) : Prop := ∀ dir, ¬ Relation.TransGen w.Imports dir dir

/-- The package of one import path imports another import path. -/
def Needs (w : Workspace) (importPath other : String) : Prop :=
  ∃ dir, w.locate importPath = .ok dir ∧ w.Mentions dir other

/-- What a directory imports can be read off its files. -/
theorem mentions_iff_of_paths {dir : Path} {paths : List String}
    (h : ((w.filesIn dir).map fun files => files.flatMap fun file => file.scope.paths) = .ok paths)
    (importPath : String) : w.Mentions dir importPath ↔ importPath ∈ paths := by
  obtain ⟨files, read, rfl⟩ : ∃ files, w.filesIn dir = .ok files
      ∧ (files.flatMap fun file => file.scope.paths) = paths := by
    cases read : w.filesIn dir with
    | error cause => rw [read] at h; cases h
    | ok files => rw [read] at h; exact ⟨files, rfl, Except.ok.inj h⟩
  constructor
  · rintro ⟨others, again, file, hf, mem⟩
    obtain rfl := Except.ok.inj (read.symm.trans again)
    exact List.mem_flatMap.2 ⟨file, hf, mem⟩
  · intro mem
    obtain ⟨file, hf, mem⟩ := List.mem_flatMap.1 mem
    exact ⟨files, read, file, hf, mem⟩

theorem not_mentions_of_paths {dir : Path}
    (h : ((w.filesIn dir).map fun files => files.flatMap fun file => file.scope.paths) = .ok [])
    (importPath : String) : ¬ w.Mentions dir importPath := by
  rw [mentions_iff_of_paths h]
  exact List.not_mem_nil

/-- What a package needs, and what that needs in turn, ends before so many steps. -/
def Within (w : Workspace) : Nat → String → Prop
  | 0, _ => False
  | n + 1, importPath => ∀ other, w.Needs importPath other → w.Within n other

theorem imports_of_needs {first last : String} (chain : Relation.ReflTransGen w.Needs first last)
    {dir : Path} (located : w.locate last = .ok dir) :
    ∃ start, w.locate first = .ok start ∧ Relation.ReflTransGen w.Imports start dir := by
  induction chain using Relation.ReflTransGen.head_induction_on with
  | refl => exact ⟨dir, located, .refl⟩
  | head step _ ih =>
    obtain ⟨start, here, mentions⟩ := step
    obtain ⟨next, there, onward⟩ := ih
    exact ⟨start, here, .head ⟨_, mentions, there⟩ onward⟩

/-- Some import paths, with all that their packages need, of which none comes to need itself. -/
structure Grounded (w : Workspace) (asked : String → Prop) : Prop where
  /-- What is needed is among them. -/
  closed : ∀ {importPath other}, asked importPath → w.Needs importPath other → asked other
  /-- There is no cycle. -/
  acyclic : ∀ {importPath}, asked importPath → ¬ Relation.TransGen w.Needs importPath importPath

/-- Where no directory comes to import itself, no import path comes to need itself. -/
theorem Acyclic.grounded (h : w.Acyclic) : w.Grounded fun _ => True := by
  refine ⟨fun _ _ => trivial, fun {importPath} _ cycle => ?_⟩
  obtain ⟨other, ⟨dir, located, mentions⟩, back⟩ := Relation.TransGen.head'_iff.1 cycle
  obtain ⟨next, there, onward⟩ := imports_of_needs back located
  exact h dir (.head' ⟨other, mentions, there⟩ onward)

/-- Without cycles, nothing that a package needs comes to need it. -/
theorem Grounded.not_needs_back {asked : String → Prop} (h : w.Grounded asked)
    {importPath other : String} (ha : asked importPath) (needs : w.Needs importPath other) :
    ¬ Relation.ReflTransGen w.Needs other importPath :=
  fun back => h.acyclic ha (.head' needs back)

/-! ### The bound -/

theorem readFiles_cons {first : Path} {rest : List Path} {files : List SourceFile}
    (read : w.readFiles (first :: rest) = .ok files) :
    ∃ text more, w.tree.readText first = .ok text
      ∧ (SourceFile.ofText first text).content.complete = true ∧ w.readFiles rest = .ok more
      ∧ files = SourceFile.ofText first text :: more := by
  unfold readFiles at read
  cases there : w.tree.readText first with
  | error cause =>
    rw [there] at read
    cases read
  | ok text =>
    rw [there] at read
    dsimp only at read
    by_cases complete : (SourceFile.ofText first text).content.complete = true
    · rw [if_pos complete] at read
      cases behind : w.readFiles rest with
      | error cause =>
        rw [behind] at read
        cases read
      | ok more =>
        rw [behind] at read
        exact ⟨text, more, rfl, complete, rfl, (Except.ok.inj read).symm⟩
    · rw [if_neg complete] at read
      cases read

theorem exists_readText_of_mem_readFiles {paths : List Path} {files : List SourceFile}
    (read : w.readFiles paths = .ok files) {file : SourceFile} (hf : file ∈ files) :
    ∃ path text, w.tree.readText path = .ok text ∧ file = SourceFile.ofText path text := by
  induction paths generalizing files with
  | nil =>
    obtain rfl := Except.ok.inj read
    cases hf
  | cons path rest ih =>
    obtain ⟨text, more, there, -, behind, rfl⟩ := readFiles_cons read
    rcases List.mem_cons.1 hf with rfl | hf
    · exact ⟨path, text, there, rfl⟩
    · exact ih behind hf

theorem map_path_of_readFiles {paths : List Path} {files : List SourceFile}
    (read : w.readFiles paths = .ok files) : files.map SourceFile.path = paths := by
  induction paths generalizing files with
  | nil =>
    obtain rfl := Except.ok.inj read
    rfl
  | cons path rest ih =>
    obtain ⟨text, more, -, -, behind, rfl⟩ := readFiles_cons read
    rw [List.map_cons, ih behind]
    rfl

theorem exists_readText_of_mem_filesIn {dir : Path} {files : List SourceFile}
    (h : w.filesIn dir = .ok files) {file : SourceFile} (hf : file ∈ files) :
    ∃ path text, w.tree.readText path = .ok text ∧ file = SourceFile.ofText path text := by
  unfold filesIn at h
  split at h
  · cases h
  · cases h
  · exact exists_readText_of_mem_readFiles h hf

/-- The files of a directory with one file. -/
theorem filesIn_of_single {dir path : Path} {text : String}
    (found : sourceFiles w.tree dir w.context.platform = .ok [path])
    (there : w.tree.readText path = .ok text)
    (complete : (SourceFile.ofText path text).content.complete = true) :
    w.filesIn dir = .ok [.ofText path text] := by
  unfold filesIn
  rw [found]
  simp only [readFiles, there]
  exact if_pos complete

theorem exists_text_of_mentions {dir : Path} {importPath : String}
    (h : w.Mentions dir importPath) :
    ∃ text, FileTree.Holds w.tree.entries text ∧ importPath ∈ pathsIn text := by
  obtain ⟨files, read, file, hf, hp⟩ := h
  obtain ⟨path, text, found, rfl⟩ := exists_readText_of_mem_filesIn read hf
  exact ⟨text, FileTree.holds_of_readText found, hp⟩

/-- Different import paths that come up are no more than the bound says. -/
theorem length_le_importBound {paths : List String} (nodup : paths.Nodup)
    (mentioned : ∀ path ∈ paths, ∃ dir, w.Mentions dir path) : paths.length ≤ w.importBound := by
  refine length_le_boundOfTexts nodup fun path hp => ?_
  obtain ⟨dir, mentions⟩ := mentioned path hp
  exact exists_text_of_mentions mentions

/-- The induction behind `within_of_mentions`, down a chain of imports: `seen` holds the import
paths that led here, each of which comes to need this one. -/
theorem within_of_seen {asked : String → Prop} (grounded : w.Grounded asked) {n : Nat}
    {importPath : String} (ha : asked importPath) {seen : List String} (nodup : seen.Nodup)
    (mentioned : ∀ path ∈ seen, ∃ dir, w.Mentions dir path)
    (leads : ∀ path ∈ seen, Relation.ReflTransGen w.Needs path importPath)
    (enough : seen.length + n = w.importBound + 1) : w.Within n importPath := by
  induction n generalizing importPath seen with
  | zero =>
    have few : seen.length ≤ w.importBound := length_le_importBound nodup mentioned
    omega
  | succ n ih =>
    intro other needs
    obtain ⟨dir, -, mentions⟩ := id needs
    -- an import path that had led here before would come to need itself
    have new : other ∉ seen := fun old => grounded.not_needs_back ha needs (leads other old)
    refine ih (grounded.closed ha needs) (List.nodup_cons.2 ⟨new, nodup⟩) ?_ ?_ ?_
    · exact List.forall_mem_cons.2 ⟨⟨dir, mentions⟩, mentioned⟩
    · exact List.forall_mem_cons.2 ⟨.refl, fun path hp => (leads path hp).tail needs⟩
    · rw [List.length_cons]
      omega

/-- Without cycles, no chain of imports that starts in a directory is longer than the bound. -/
theorem within_of_mentions {asked : String → Prop} (grounded : w.Grounded asked) {dir : Path}
    {importPath : String} (ha : asked importPath) (mentions : w.Mentions dir importPath) :
    w.Within w.importBound importPath :=
  within_of_seen grounded ha (List.pairwise_singleton _ importPath)
    (List.forall_mem_singleton.2 ⟨dir, mentions⟩) (List.forall_mem_singleton.2 .refl)
    (Nat.add_comm _ _)

/-- Without cycles, no chain of imports is longer than the bound. -/
theorem within_importBound {asked : String → Prop} (grounded : w.Grounded asked)
    {importPath : String} (ha : asked importPath) :
    w.Within (w.importBound + 1) importPath := by
  intro other needs
  have below := grounded.closed ha needs
  obtain ⟨dir, -, mentions⟩ := needs
  exact within_of_mentions grounded below mentions

end Workspace

end WrapperGen
