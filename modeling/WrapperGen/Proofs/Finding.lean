import WrapperGen.Proofs.FailedRuns
import WrapperGen.Proofs.RealCycles
import WrapperGen.Proofs.SpecifierOrder

/-!
# What a run finds

A run reads before it writes.  It looks for the packages that are asked for and checks them, takes
the interfaces that are wanted, and names them as code in the output directory would.  What all this
comes to depends on a part of the tree only: on the files of the packages that it finds and of those
that come up in them, on where these are found, and on the import path of the output directory.
Where two trees agree in that, the run finds the same in both.

A run that writes files has found something to write code for and has made sure of its output
directory; and with both at hand it does nothing but write.  So runs can be compared by what they
find and by what they write, each on its own.

## Main definitions

* `FileTree.SameSources`: two trees with the same source files in a directory.
* `Request.finds`: what a run finds to write code for.
* `Request.ReadsAlike`: two trees in which a run reads the same.

## Main results

* `Request.ReadsAlike.interfaces`: the interfaces that are asked for, where a run reads the same.
* `Request.finds_of_readsAlike`: where a run reads the same, it finds the same.
* `Request.exists_of_run_generate`, `Request.generate_of_emit`: a run, from what it finds.
-/

namespace WrapperGen

open FileTree Source

/-! ### Reading -/

/-- The source files of a directory for a platform, and their texts, are the same in two trees. -/
structure FileTree.SameSources (tree later : FileTree) (platform : Platform) (dir : Path) :
    Prop where
  /-- The files are the same. -/
  files : sourceFiles later dir platform = sourceFiles tree dir platform
  /-- They hold the same. -/
  texts : ∀ paths, sourceFiles tree dir platform = .ok paths →
    ∀ p ∈ paths, later.readText p = tree.readText p

namespace Workspace

variable {tree later : FileTree} {context : Context} {dir : Path}

theorem readFiles_of_texts {paths : List Path}
    (h : ∀ p ∈ paths, later.readText p = tree.readText p) :
    (Workspace.mk later context).readFiles paths = (Workspace.mk tree context).readFiles paths := by
  induction paths with
  | nil => rfl
  | cons p rest ih =>
    unfold readFiles
    rw [ih fun q hq => h q (List.mem_cons_of_mem p hq)]
    simp only [h p List.mem_cons_self]

theorem filesIn_of_sameSources (h : tree.SameSources later context.platform dir) :
    (Workspace.mk later context).filesIn dir = (Workspace.mk tree context).filesIn dir := by
  unfold filesIn
  simp only [h.files]
  cases found : sourceFiles tree dir context.platform with
  | error cause => rfl
  | ok paths =>
    cases paths with
    | nil => rfl
    | cons first rest => exact readFiles_of_texts (h.texts _ found)

theorem clauseIn?_of_sameSources (h : tree.SameSources later context.platform dir) :
    (Workspace.mk later context).clauseIn? dir = (Workspace.mk tree context).clauseIn? dir := by
  unfold clauseIn?
  simp only [h.files]
  cases found : sourceFiles tree dir context.platform with
  | error cause => rfl
  | ok paths =>
    cases paths with
    | nil => rfl
    | cons first rest => simp only [h.texts _ found first List.mem_cons_self]

/-- Two trees hold the same of all that comes up in some packages, if they do of what is imported
there, and if the packages still import it. -/
theorem sameFor_comesUp {found : List Found}
    (imports : ∀ path, (Workspace.mk tree context).ComesUp found path →
      (Workspace.mk later context).locate path = (Workspace.mk tree context).locate path
        ∧ ∀ dir, (Workspace.mk tree context).locate path = .ok dir →
          tree.SameSources later context.platform dir)
    (mentions : ∀ f ∈ found, ∀ path, (Workspace.mk tree context).Mentions f.dir path →
      (Workspace.mk later context).Mentions f.dir path) :
    (Workspace.mk tree context).SameFor ⟨later, context⟩
      ((Workspace.mk tree context).ComesUp found) := by
  -- a package comes up because another one mentions it, and that one has the same files later
  have mentioned : ∀ {path}, (Workspace.mk tree context).ComesUp found path →
      ∃ dir, (Workspace.mk tree context).Mentions dir path
        ∧ (Workspace.mk later context).Mentions dir path := by
    rintro path ⟨f, hf, first, here, chain⟩
    rcases Relation.ReflTransGen.cases_tail chain with rfl | ⟨before, chain, dir, located, needs⟩
    · exact ⟨f.dir, here, mentions f hf _ here⟩
    · have same := (imports before ⟨f, hf, first, here, chain⟩).2 dir located
      exact ⟨dir, needs, mentions_of_filesIn_eq (filesIn_of_sameSources same).symm needs⟩
  constructor
  · exact fun ha => (imports _ ha).1.symm
  · exact fun ha located => (filesIn_of_sameSources ((imports _ ha).2 _ located)).symm
  · intro path ha
    unfold clause?
    rw [(imports path ha).1]
    cases located : (Workspace.mk tree context).locate path with
    | error cause => rfl
    | ok dir => exact (clauseIn?_of_sameSources ((imports path ha).2 dir located)).symm
  · rintro path other ⟨f, hf, first, here, chain⟩ needs
    exact ⟨f, hf, first, here, chain.tail needs⟩
  · intro path ha
    obtain ⟨dir, before, -⟩ := mentioned ha
    exact ⟨dir, before⟩
  · intro path ha
    obtain ⟨dir, -, after⟩ := mentioned ha
    exact ⟨dir, after⟩

end Workspace

section

variable {check check' : Path → String → Check CheckedPackage} {found : List Found}

/-- Checks that come to the same give the same interfaces. -/
theorem run_extractInto_of_alike
    (h : ∀ f ∈ found, ∃ fails, Alike (Workspace.Loads []) fails (check f.dir f.importPath)
      (check' f.dir f.importPath)) (packages : PackageSet) {s : Session} (idle : s.loading = []) :
    (extractInto check packages found).run.run s
      = (extractInto check' packages found).run.run s := by
  induction found generalizing packages s with
  | nil => rfl
  | cons f rest ih =>
    obtain ⟨fails, alike⟩ := h f List.mem_cons_self
    obtain ⟨result, last, _, ran, ran', ⟨rfl, idleToo⟩, -⟩ := alike s s ⟨rfl, idle⟩
    rw [extractInto, extractInto, run_bind, run_bind, run_adapt, run_adapt, ran, ran']
    cases result with
    | ok checked => exact ih (fun g hg => h g (List.mem_cons_of_mem f hg)) _ idleToo
    | error cause => rfl

end

/-! ### Finding -/

namespace Request

variable {r : Request} {settings : EmitSettings} {site after : Site} {tree later : FileTree}

/-- What a run finds to write code for: the interfaces that are asked for, as the code in the
output directory names them. -/
def finds (r : Request) (tree : FileTree) : Except GenerateError (List Interface) :=
  match r.interfaces tree with
  | .error cause => .error cause
  | .ok interfaces =>
      match r.options.firstMissing? interfaces with
      | some name => .error (.options (.noSuchInterface name))
      | none =>
          match r.outputDir? with
          | none => .ok interfaces
          | some dir =>
              match tree.ensureDirectory dir with
              | .error cause => .error (.options (.noOutputDir dir cause))
              | .ok made => .ok (r.elideOwn made dir interfaces)

/-- Two trees in which a run reads the same: it finds the same packages there, and all that they
consist of and that comes up in them. -/
structure ReadsAlike (r : Request) (tree later : FileTree) (found : List Found) : Prop where
  /-- These packages are found in the one tree. -/
  resolved : resolveAll tree r.context r.options.specifiers = .ok found
  /-- They are found in the other. -/
  resolvedToo : resolveAll later r.context r.options.specifiers = .ok found
  /-- Their files are the same. -/
  sources : ∀ f ∈ found, tree.SameSources later r.context.platform f.dir
  /-- So are those of the packages that come up. -/
  imports : ∀ path, (Workspace.mk tree r.context).ComesUp found path →
    (Workspace.mk later r.context).locate path = (Workspace.mk tree r.context).locate path
      ∧ ∀ dir, (Workspace.mk tree r.context).locate path = .ok dir →
        tree.SameSources later r.context.platform dir
  /-- The output directory has the same import path. -/
  output : ∀ dir made, r.outputDir? = some dir → tree.ensureDirectory dir = .ok made →
    inferImportPath? later r.context.resolverRoot dir
      = inferImportPath? made r.context.resolverRoot dir

namespace ReadsAlike

variable {found : List Found}

theorem sameFor (h : r.ReadsAlike tree later found) :
    (Workspace.mk tree r.context).SameFor ⟨later, r.context⟩
      ((Workspace.mk tree r.context).ComesUp found) :=
  Workspace.sameFor_comesUp h.imports fun f hf _ mentions => Workspace.mentions_of_filesIn_eq
    (Workspace.filesIn_of_sameSources (h.sources f hf)).symm mentions

theorem interfaces (h : r.ReadsAlike tree later found) (source : r.checker = r.context.checker) :
    r.interfaces later = r.interfaces tree := by
  have checks : ∀ f ∈ found, ∃ fails, Alike (Workspace.Loads []) fails
      ((Workspace.mk tree r.context).checkPackage f.dir f.importPath)
      ((Workspace.mk later r.context).checkPackage f.dir f.importPath) := by
    intro f hf
    rw [Workspace.checkPackage_eq_or, Workspace.checkPackage_eq_or]
    exact ⟨_, Workspace.alike_checkPackageOr Workspace.remembers_loads h.sameFor
      (Workspace.filesIn_of_sameSources (h.sources f hf)).symm
      (fun other mentions => ⟨f, hf, other, mentions, .refl⟩) (Nat.le_refl _) (Nat.le_refl _)⟩
  have same : (extract (r.context.checker later) found).run.run .empty
      = (extract (r.context.checker tree) found).run.run .empty :=
    (run_extractInto_of_alike checks .empty (s := .empty) rfl).symm
  unfold Request.interfaces Request.packages
  rw [h.resolved, h.resolvedToo, source]
  simp only [same]

end ReadsAlike

/-- A run that is asked for the same interfaces finds the same if the output directory is there and
has the same import path. -/
theorem finds_of_interfaces {made : FileTree} (same : r.interfaces later = r.interfaces tree)
    (path : ∀ dir made, r.outputDir? = some dir → tree.ensureDirectory dir = .ok made →
      inferImportPath? later r.context.resolverRoot dir
        = inferImportPath? made r.context.resolverRoot dir)
    (there : r.HasOutputDir later) (before : r.withOutputDir tree = .ok made) :
    r.finds later = r.finds tree := by
  unfold finds
  rw [same]
  cases output : r.outputDir? with
  | none => rfl
  | some dir =>
    have made' : tree.ensureDirectory dir = .ok made := by
      rw [withOutputDir, output] at before
      exact before
    -- interfaces are named from inside the package of the directory, which has the path of before
    have named (interfaces : List Interface) :
        r.elideOwn later dir interfaces = r.elideOwn made dir interfaces := by
      unfold elideOwn
      rw [path dir made output made']
    simp only [ensureDirectory_of_found (there dir output), made', named]

/-- Where a run reads the same, and the output directory is there, it finds the same. -/
theorem finds_of_readsAlike {found : List Found} {made : FileTree}
    (h : r.ReadsAlike tree later found) (source : r.checker = r.context.checker)
    (there : r.HasOutputDir later) (before : r.withOutputDir tree = .ok made) :
    r.finds later = r.finds tree :=
  finds_of_interfaces (h.interfaces source) h.output there before

/-! ### Running -/

theorem outputDir?_of_checked (checked : r.options.settings r.context.cwd = .ok settings) :
    r.outputDir? = settings.outputDir? := by
  rw [outputDir?, checked]

/-- Where the output directory is there, making sure of it changes nothing. -/
theorem withOutputDir_of_hasOutputDir (there : r.HasOutputDir tree) :
    r.withOutputDir tree = .ok tree := by
  unfold withOutputDir
  cases output : r.outputDir? with
  | none => rfl
  | some dir => exact ensureDirectory_of_found (there dir output)

/-- Making sure of the output directory makes directories and nothing else. -/
theorem furnished_withOutputDir {made : FileTree} (h : r.withOutputDir tree = .ok made) :
    Furnished tree made := by
  unfold withOutputDir at h
  cases output : r.outputDir? with
  | none =>
    rw [output] at h
    exact Except.ok.inj h ▸ Furnished.refl
  | some dir =>
    rw [output] at h
    exact (furnished_ensureDirectory h).1

/-- The output directory that has been made stays there when files are rewritten. -/
theorem hasOutputDir_of_rewritten {made : FileTree} (h : r.withOutputDir tree = .ok made)
    (kept : Rewritten made later) : r.HasOutputDir later := by
  intro dir output
  rw [withOutputDir, output] at h
  exact (grown_ensureDirectory h).2.imp_left (isDirectory_of_rewritten kept)

theorem run_generated_iff {run : Run EmitError (List Path)} {files : List Path} :
    (do
      let files ← Run.mapError GenerateError.emit run
      pure (.generated files) : Run GenerateError Outcome).run.run site
        = (.ok (.generated files), after) ↔ run.run.run site = (.ok files, after) := by
  rw [run_bind, Run.run_mapError]
  rcases run.run.run site with ⟨_ | given, last⟩
  · constructor
    · intro h
      cases h
    · intro h
      cases h
  · constructor
    · intro h
      cases h
      rfl
    · intro h
      cases h
      rfl

/-- Making the output directory succeeds. -/
theorem run_prepare {interfaces : List Interface} {dir : Path} {made : FileTree}
    (output : settings.outputDir? = some dir) (ensured : site.tree.ensureDirectory dir = .ok made) :
    (r.prepare settings interfaces).run.run site
      = (.ok (r.elideOwn made dir interfaces), { site with tree := made }) := by
  unfold prepare
  rw [output]
  exact run_bind_of_ok (Run.run_onTree ensured) _

/-- A run that writes files has found something to write code for, and has made sure of the output
directory. -/
theorem exists_of_run_emitInterfaces {files : List Path}
    (checked : r.options.settings r.context.cwd = .ok settings)
    (h : (r.emitInterfaces settings).run.run site = (.ok (.generated files), after)) :
    ∃ found made, r.finds site.tree = .ok found ∧ r.withOutputDir site.tree = .ok made
      ∧ ((r.emitter settings).emit found).run.run { site with tree := made }
        = (.ok files, after) := by
  unfold emitInterfaces at h
  -- step by step from the front: each of them has succeeded, since the run has
  obtain ⟨_, _, got, h⟩ := exists_of_run_bind h
  cases got
  obtain ⟨interfaces, asked, h⟩ := exists_of_run_liftM_bind h
  unfold finds withOutputDir
  rw [asked, outputDir?_of_checked checked]
  dsimp only
  cases missing : r.options.firstMissing? interfaces with
  | some name =>
    rw [missing] at h
    cases h
  | none =>
    rw [missing] at h
    obtain ⟨found, _, prepared, h⟩ := exists_of_run_bind h
    -- a run to the stream prepares nothing, and one to a file or a directory makes that first
    cases output : settings.outputDir? with
    | none =>
      unfold prepare at prepared
      rw [output] at prepared
      cases prepared
      exact ⟨_, _, rfl, rfl, run_generated_iff.1 h⟩
    | some dir =>
      have ensured : ∃ made, site.tree.ensureDirectory dir = .ok made := by
        unfold prepare at prepared
        rw [output] at prepared
        obtain ⟨_, _, ensured, -⟩ := exists_of_run_bind prepared
        obtain ⟨made, there, -⟩ := Run.exists_of_run_onTree ensured
        exact ⟨made, there⟩
      obtain ⟨made, ensured⟩ := ensured
      rw [run_prepare output ensured] at prepared
      obtain ⟨named, rfl⟩ := Prod.mk.inj prepared
      obtain rfl := Except.ok.inj named
      exact ⟨r.elideOwn made dir interfaces, made, by simp only [ensured], ensured,
        run_generated_iff.1 h⟩

/-- A run that finds something to write code for writes it. -/
theorem run_emitInterfaces {files : List Path} {found : List Interface} {made : FileTree}
    (checked : r.options.settings r.context.cwd = .ok settings)
    (finds : r.finds site.tree = .ok found) (ensured : r.withOutputDir site.tree = .ok made)
    (emitted : ((r.emitter settings).emit found).run.run { site with tree := made }
      = (.ok files, after)) :
    (r.emitInterfaces settings).run.run site = (.ok (.generated files), after) := by
  unfold Request.finds at finds
  unfold withOutputDir at ensured
  rw [outputDir?_of_checked checked] at finds ensured
  cases asked : r.interfaces site.tree with
  | error cause =>
    rw [asked] at finds
    cases finds
  | ok interfaces =>
    rw [asked] at finds
    dsimp only at finds
    cases missing : r.options.firstMissing? interfaces with
    | some name =>
      rw [missing] at finds
      cases finds
    | none =>
      rw [missing] at finds
      -- to prepare is to make the directory, and to name the interfaces from inside of it
      have prepared : (r.prepare settings interfaces).run.run site
          = (.ok found, { site with tree := made }) := by
        cases output : settings.outputDir? with
        | none =>
          rw [output] at finds ensured
          obtain rfl := Except.ok.inj finds
          obtain rfl := Except.ok.inj ensured
          unfold prepare
          rw [output]
          rfl
        | some dir =>
          rw [output] at finds ensured
          dsimp only at finds ensured
          simp only [ensured] at finds
          obtain rfl := Except.ok.inj finds
          exact run_prepare output ensured
      unfold emitInterfaces
      refine (run_get_bind _ site).trans ?_
      rw [run_liftM_bind asked, missing]
      exact (run_bind_of_ok prepared _).trans (run_generated_iff.2 emitted)

/-- A whole run that writes files is not one that lists names, and its options are right. -/
theorem exists_of_run_generate {files : List Path}
    (h : r.generate.run.run site = (.ok (.generated files), after)) :
    r.options.listOnly = false ∧ ∃ settings found made,
      r.options.settings r.context.cwd = .ok settings ∧ r.finds site.tree = .ok found
        ∧ r.withOutputDir site.tree = .ok made
        ∧ ((r.emitter settings).emit found).run.run { site with tree := made }
          = (.ok files, after) := by
  unfold generate at h
  -- a run that only lists generates nothing
  by_cases listOnly : r.options.listOnly = true
  · rw [if_pos listOnly] at h
    obtain ⟨-, names, never⟩ := (tree_list r).of_ok rfl (congrArg Prod.fst h)
    cases never
  rw [if_neg listOnly] at h
  cases checked : r.options.settings r.context.cwd with
  | error cause =>
    rw [checked] at h
    cases h
  | ok settings =>
    rw [checked] at h
    obtain ⟨found, made, parts⟩ := exists_of_run_emitInterfaces checked h
    exact ⟨Bool.eq_false_iff.2 listOnly, settings, found, made, rfl, parts⟩

/-- A run that has something to write code for, and that can make sure of its output directory, does
what its emitter does. -/
theorem generate_of_emit {files : List Path} {found : List Interface} {made : FileTree}
    (writing : r.options.listOnly = false)
    (checked : r.options.settings r.context.cwd = .ok settings)
    (finds : r.finds site.tree = .ok found) (ensured : r.withOutputDir site.tree = .ok made)
    (emitted : ((r.emitter settings).emit found).run.run { site with tree := made }
      = (.ok files, after)) :
    r.generate.run.run site = (.ok (.generated files), after) := by
  unfold generate
  rw [if_neg (writing ▸ Bool.false_ne_true), checked]
  exact run_emitInterfaces checked finds ensured emitted

end Request

end WrapperGen
