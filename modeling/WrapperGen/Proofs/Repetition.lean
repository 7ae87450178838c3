import WrapperGen.Proofs.EmitRules
import WrapperGen.Proofs.Footprint
import WrapperGen.Proofs.Stamps

/-!
# Runs that are repeated

A run that may replace files reads the tree that it writes into.  If it finds there in the end what
it found before, then it can be repeated: the second run writes the same files, and they differ in
the time that they name and in nothing else.  What a run finds is not changed by files that it does
not read.

It may be changed where the run replaces a file that it has read, or adds one to a package, and
where it makes a directory in which a package is looked for.  A file that adds only structures with
names of their own changes nothing; `GrowingPackages` shows that by comparing two packages.

## Main definitions

* `FileTree.EqualButStamps`: two trees that differ in the time that some files name.
* `Emitter.Repeats`: a computation that does again what another one did.
* `Request.again`: the same run at another time.

## Main results

* `Emitter.emit_again`: emitting can be repeated.
* `Request.generate_again`: a run that finds the same can be repeated.
* `Request.generate_shadowed`: a run that cannot be repeated.
-/

namespace WrapperGen

open FileTree Source

/-! ### Files -/

/-- The tree `later` differs from `tree` at most in the time that some generated files name: where
the one names what `clock` shows at some look, the other names what `other` shows at that look. -/
def FileTree.EqualButStamps (tool : Tool) (clock other : Clock) (tree later : FileTree) : Prop :=
  ∀ place, later.entryAt place = tree.entryAt place
    ∨ ∃ look rest,
      tree.entryAt place = some (.file (.text (stampedText tool (clock.shows look) rest)) fileMode)
      ∧ later.entryAt place
        = some (.file (.text (stampedText tool (other.shows look) rest)) fileMode)

/-! ### Emitting -/

namespace Emitter

variable {α : Type} {e : Emitter} {clock : Clock} {interfaces : List Interface} {site after : Site}

/-- Emitting one file succeeds where there is none yet and the directory above is there. -/
theorem run_emit_free {path above : Path} {place : Location} {text : String}
    (force : e.settings.force = true) (target : e.settings.target = .file path)
    (free : site.tree.exists? path = .ok false) (given : e.fileText 0 interfaces = .ok text)
    (parent : path.parent? = some above) (there : site.tree.isDirectory above = true)
    (leads : site.tree.locateFile path = .ok (.free place)) :
    (e.emit interfaces).run.run site
      = (.ok [path], { site with tree := site.tree.put place (.file (.text text) fileMode) }) := by
  have only : ∀ dir, path.parent? = some dir →
      site.tree.isDirectory dir = true ∨ dir.text = "" := by
    intro dir found
    exact .inl (Option.some.inj (parent.symm.trans found) ▸ there)
  unfold emit
  rw [target]
  dsimp only
  rw [emitFile_forced force, run_bind_of_ok (Run.run_look free), run_liftM_bind given]
  exact run_bind_of_ok (run_writeFile_of_writeText only (writeText_free leads text)) _

/-- Files that have been written can be written again with other texts. -/
theorem writeFiles_again {files : List (Path × α)} {text : α → String}
    (wrote : (writeFiles (files.map fun file => (file.1, text file.2))).run.run site
      = (.ok (), after)) (other : α → String) :
    ∃ written : List (Written α), written.reverse.map Written.file = files
      ∧ Wrote text site.tree after.tree written
      ∧ (writeFiles (files.map fun file => (file.1, other file.2))).run.run after
        = (.ok (), { after with tree := after.tree.overwrite other written.reverse }) := by
  obtain ⟨written, rfl, left⟩ := (triple_writeFiles_wrote files).of_ok
    Wrote.nil (congrArg Prod.fst wrote)
  rw [wrote, List.append_nil] at left
  refine ⟨written, rfl, left, ?_⟩
  rw [List.map_map]
  exact run_writeFiles fun w hw => left.sends w (List.mem_reverse.1 hw)

theorem equalButStamps_overwrite {start tree : FileTree} {written : List (Written (Nat × String))}
    (h : Wrote e.text start tree written) :
    EqualButStamps e.tool e.clock clock tree
      (tree.overwrite (e.restamped clock).text written.reverse) := by
  intro place
  rcases h.entryAt_overwrite (e.restamped clock).text place with same | ⟨w, -, before, behind⟩
  · exact .inl same
  · exact .inr ⟨w.body.1, w.body.2, before, behind⟩

/-- What the one computation did, the other can do again with another clock: it writes the same
files. -/
def Repeats (e : Emitter) (clock : Clock) (first again : Run EmitError (List Path)) : Prop :=
  ∀ {site after : Site} {files : List Path}, first.run.run site = (.ok files, after) →
    Rewritten site.tree after.tree
      ∧ ∃ last, again.run.run after = (.ok files, last)
        ∧ EqualButStamps e.tool e.clock clock after.tree last.tree

theorem emitStream_again (wrappers : e.generate = writeWrapper)
    (alike : ∀ look, StampsAlike e.tool (e.clock.shows look) (clock.shows look)) :
    e.Repeats clock (e.emitStream interfaces) ((e.restamped clock).emitStream interfaces) := by
  intro site after files emitted
  obtain ⟨text, given, emitted⟩ := exists_of_run_liftM_bind emitted
  obtain ⟨-, again⟩ := fileText_restamped wrappers alike given
  obtain ⟨_, _, printed, emitted⟩ := exists_of_run_bind emitted
  rw [Run.run_print] at printed
  by_cases printable : site.printable = true
  · rw [if_pos printable] at printed
    cases printed
    cases emitted
    have printableToo :
        ({ site with printed := site.printed ++ [text] } : Site).printable = true :=
      printable
    refine ⟨Rewritten.refl _, { site with
      printed := site.printed ++ [text] ++ [(e.restamped clock).text (0, e.body interfaces)] }, ?_,
      fun place => .inl rfl⟩
    refine (run_liftM_bind again _ _).trans ?_
    rw [run_bind, Run.run_print, if_pos printableToo]
    rfl
  · rw [if_neg printable] at printed
    cases printed

theorem emitFile_again (wrappers : e.generate = writeWrapper) (force : e.settings.force = true)
    (alike : ∀ look, StampsAlike e.tool (e.clock.shows look) (clock.shows look)) (path : Path) :
    e.Repeats clock (e.emitFile path interfaces)
      ((e.restamped clock).emitFile path interfaces) := by
  intro site after files emitted
  have forceToo : (e.restamped clock).settings.force = true := force
  rw [emitFile_forced force] at emitted
  rw [emitFile_forced forceToo]
  obtain ⟨_, _, looked, emitted⟩ := exists_of_run_bind emitted
  obtain ⟨-, rfl⟩ := Run.exists_of_run_look looked
  obtain ⟨text, given, emitted⟩ := exists_of_run_liftM_bind emitted
  obtain ⟨rfl, again⟩ := fileText_restamped wrappers alike given
  obtain ⟨_, _, wrote, emitted⟩ := exists_of_run_bind emitted
  cases emitted
  rw [← writeFiles_singleton, show [(path, e.text (0, e.body interfaces))]
    = [(path, (0, e.body interfaces))].map (fun file => (file.1, e.text file.2)) from rfl] at wrote
  obtain ⟨written, only, left, repeated⟩ := writeFiles_again wrote (e.restamped clock).text
  -- the path is asked about once more before it is written to
  have one : (path, (0, e.body interfaces)) ∈ written.reverse.map Written.file :=
    only ▸ List.mem_singleton_self _
  obtain ⟨w, hw, same⟩ := List.mem_map.1 one
  have sends := left.sends w (List.mem_reverse.1 hw)
  rw [show w.path = path from congrArg Prod.fst same] at sends
  obtain ⟨seen, looks⟩ := sends.exists?
  refine ⟨left.kept, { after with
    tree := after.tree.overwrite (e.restamped clock).text written.reverse }, ?_,
    equalButStamps_overwrite left⟩
  rw [run_bind_of_ok (Run.run_look looks), run_liftM_bind again, ← writeFiles_singleton]
  exact run_bind_of_ok repeated _

theorem emitDirectory_again (wrappers : e.generate = writeWrapper) (force : e.settings.force = true)
    (alike : ∀ look, StampsAlike e.tool (e.clock.shows look) (clock.shows look)) (dir : Path) :
    e.Repeats clock (e.emitDirectory dir interfaces)
      ((e.restamped clock).emitDirectory dir interfaces) := by
  intro site after files emitted
  have forceToo : (e.restamped clock).settings.force = true := force
  rw [emitDirectory_forced force] at emitted
  rw [emitDirectory_forced forceToo]
  obtain ⟨planned, came, emitted⟩ := exists_of_run_liftM_bind emitted
  obtain ⟨texts, given, emitted⟩ := exists_of_run_liftM_bind emitted
  obtain ⟨made, rfl, again⟩ := planTexts_restamped wrappers alike given
  obtain ⟨_, _, wrote, emitted⟩ := exists_of_run_bind emitted
  cases emitted
  obtain ⟨written, -, left, repeated⟩ := writeFiles_again wrote (e.restamped clock).text
  have cameToo : plan (e.restamped clock).shown ((e.restamped clock).destination dir) interfaces
      = .ok planned := came
  refine ⟨left.kept, { after with
    tree := after.tree.overwrite (e.restamped clock).text written.reverse }, ?_,
    equalButStamps_overwrite left⟩
  rw [run_liftM_bind cameToo, run_liftM_bind again, run_bind_of_ok repeated, List.map_map,
    List.map_map]
  rfl

/-- Emitting can be repeated at another time, where files may be replaced. -/
theorem emit_again (wrappers : e.generate = writeWrapper) (force : e.settings.force = true)
    (alike : ∀ look, StampsAlike e.tool (e.clock.shows look) (clock.shows look)) :
    e.Repeats clock (e.emit interfaces) ((e.restamped clock).emit interfaces) := by
  unfold emit
  rw [show (e.restamped clock).settings.target = e.settings.target from rfl]
  cases e.settings.target with
  | stream => exact emitStream_again wrappers alike
  | file path => exact emitFile_again wrappers force alike path
  | directory dir => exact emitDirectory_again wrappers force alike dir

end Emitter

namespace Request

/-! ### The result -/

/-- The same run with another clock. -/
def again (r : Request) (clock : Clock) : Request := { r with clock := clock }

@[simp] theorem options_again (r : Request) (clock : Clock) :
    (r.again clock).options = r.options := rfl

@[simp] theorem context_again (r : Request) (clock : Clock) :
    (r.again clock).context = r.context := rfl

@[simp] theorem interfaces_again (r : Request) (clock : Clock) (tree : FileTree) :
    (r.again clock).interfaces tree = r.interfaces tree := rfl

@[simp] theorem outputDir?_again (r : Request) (clock : Clock) :
    (r.again clock).outputDir? = r.outputDir? := rfl

@[simp] theorem elideOwn_again (r : Request) (clock : Clock) (tree : FileTree) (dir : Path)
    (interfaces : List Interface) :
    (r.again clock).elideOwn tree dir interfaces = r.elideOwn tree dir interfaces := by
  unfold elideOwn
  rw [context_again]

@[simp] theorem finds_again (r : Request) (clock : Clock) (tree : FileTree) :
    (r.again clock).finds tree = r.finds tree := by
  unfold finds
  simp only [interfaces_again, options_again, outputDir?_again, elideOwn_again]

/-- The files of a run can be written once more.  If the run finds in the tree that it leaves what
it found in the one that it met, then it succeeds there at any other time, writes the same files,
and changes nothing but the time in them.  It finds the same if it reads the same. -/
theorem generate_again (r : Request) (clock : Clock) {site after : Site} {files : List Path}
    (wrappers : r.write = writeWrapper) (force : r.options.force = true)
    (alike : ∀ look, StampsAlike r.tool (r.clock.shows look) (clock.shows look))
    (first : r.generate.run.run site = (.ok (.generated files), after)) :
    (∀ found, r.checker = r.context.checker → r.ReadsAlike site.tree after.tree found →
      r.finds after.tree = r.finds site.tree)
    ∧ (r.finds after.tree = r.finds site.tree →
      ∃ last, (r.again clock).generate.run.run after = (.ok (.generated files), last)
        ∧ EqualButStamps r.tool r.clock clock after.tree last.tree) := by
  obtain ⟨writing, settings, found, made, checked, finds, prepared, emitted⟩ :=
    exists_of_run_generate first
  obtain ⟨-, sameForce, -⟩ := Options.settings_ok checked
  obtain ⟨kept, last, repeated, equal⟩ := Emitter.emit_again (e := r.emitter settings)
    wrappers (sameForce.trans force) alike emitted
  have there : r.HasOutputDir after.tree := hasOutputDir_of_rewritten prepared kept
  have ensured := withOutputDir_of_hasOutputDir there
  refine ⟨fun found source reads => finds_of_readsAlike reads source there prepared,
    fun same => ⟨last, ?_, equal⟩⟩
  have findsAgain := (r.finds_again clock after.tree).trans (same.trans finds)
  exact generate_of_emit (r := r.again clock) writing checked findsAgain ensured repeated

/-- A run for the package `a`, from a directory beside it, that may replace the file it writes. -/
def outlet (file : Path) : Request :=
  { sample with
    context := ⟨⟨"/src/work"⟩, ⟨"/"⟩, none, hostPlatform⟩
    options := ⟨["a"], none, some file, true, [], none, none, false⟩
    tool := ⟨"wrap", "1", []⟩
    checker := Context.checker ⟨⟨"/src/work"⟩, ⟨"/"⟩, none, hostPlatform⟩ }

/-- The package, with one interface, and the directory beside it. -/
def outletSite : Site where
  tree :=
    ⟨[(["src"], .directory directoryMode), (["src", "a"], .directory directoryMode),
      (["src", "a", "a.go"], .file (.text "package a\ntype S interface\x7b\x7d\n") fileMode),
      (["src", "work"], .directory directoryMode)]⟩
  printed := []
  printable := true

/-- The lines of the file that is written. -/
def outletLines (packageName : String) : List String :=
  ["// Code generated by wrap 1; DO NOT EDIT.", "// This file was generated by robots at",
      "// 2024-01-01T00:00:00Z", "// using the command", "// $ ", "", "package " ++ packageName, "",
      "import (", "\t\"a\"", ")"]
    ++ Emitter.wrapperLines "SWrapper" "a.S"

/-- The tree with the directory that is made for the file. -/
def outletMade (dir : String) : FileTree :=
  ⟨(["src", "work", dir], .directory directoryMode) :: outletSite.tree.entries⟩

/-- The site after the run. -/
def outletAfter (dir name : String) : Site :=
  { outletSite with
    tree := (outletMade dir).put ["src", "work", dir, name]
      (.file (.text (textOfLines (outletLines dir))) fileMode) }

/-- The clock of the second run, one second later. -/
def nextClock : Clock := .still "2024-01-01T00:00:01Z"

theorem stampsAlike_outlet (file : Path) (look : Nat) :
    StampsAlike (outlet file).tool ((outlet file).clock.shows look) (nextClock.shows look) where
  name := List.all_eq_true.1 (show "wrap".toList.all isLineCommentChar = true by decide)
  version := List.all_eq_true.1 (show "1".toList.all isLineCommentChar = true by decide)
  one := List.all_eq_true.1
    (show "2024-01-01T00:00:00Z".toList.all isLineCommentChar = true by decide)
  another := List.all_eq_true.1
    (show "2024-01-01T00:00:01Z".toList.all isLineCommentChar = true by decide)
  length := show "2024-01-01T00:00:00Z".length = "2024-01-01T00:00:01Z".length by decide

theorem not_comesUp_outlet {path : String} :
    ¬ (Workspace.mk outletSite.tree (outlet ⟨"mocks/s.go"⟩).context).ComesUp
      [⟨"a", ⟨"/src/a"⟩, .sourceRoot⟩] path := by
  rintro ⟨f, hf, first, mentions, -⟩
  obtain rfl := List.mem_singleton.1 hf
  exact absurd mentions (Workspace.not_mentions_of_paths (by decide +kernel) first)

/-- Nothing is imported, so such a run looks for its package, and for the module files above its
output. -/
theorem looksAside_outlet {file dir : Path} {later : FileTree} {files : List Path}
    (output : (outlet file).outputDir? = some dir)
    (searched : ∀ p ∈ searchedFor outletSite.tree (outlet file).context.resolverRoot
      (outlet file).context.cwd.normalize "a", outletSite.tree.LeavesAlone later files p)
    (modules : ∀ p ∈ moduleFiles (outlet file).context.resolverRoot dir.normalize,
      outletSite.tree.LeavesAlone later files p) :
    (outlet file).LooksAside outletSite.tree later [⟨"a", ⟨"/src/a"⟩, .sourceRoot⟩] files where
  looks := by
    rintro p (⟨mem, looked⟩ | ⟨comesUp, -⟩ | ⟨known, looked⟩)
    · obtain rfl := List.mem_singleton.1 mem
      exact searched p looked
    · exact absurd comesUp not_comesUp_outlet
    · obtain rfl := Option.some.inj (output.symm.trans known)
      exact modules p looked
  imports := fun path dir comesUp => absurd comesUp not_comesUp_outlet

/-- The run writes beside all that it reads: no module file is looked for that it makes, and what it
writes is no source file of the package. -/
theorem leavesAside_outlet :
    (outlet ⟨"mocks/s.go"⟩).LeavesAside outletSite.tree (outletAfter "mocks" "s.go").tree
      [⟨"a", ⟨"/src/a"⟩, .sourceRoot⟩] [⟨"/src/work/mocks/s.go"⟩] := by
  have output : (outlet ⟨"mocks/s.go"⟩).outputDir? = some ⟨"/src/work/mocks"⟩ := by
    decide +kernel
  exact ⟨looksAside_outlet output (by decide +kernel) (by decide +kernel), by decide +kernel⟩

/-- The wrapper of the interface is written once more. -/
theorem generate_again_outlet :
    (outlet ⟨"mocks/s.go"⟩).generate.run.run outletSite
        = (.ok (.generated [⟨"/src/work/mocks/s.go"⟩]), outletAfter "mocks" "s.go")
      ∧ ∃ last, ((outlet ⟨"mocks/s.go"⟩).again nextClock).generate.run.run
          (outletAfter "mocks" "s.go") = (.ok (.generated [⟨"/src/work/mocks/s.go"⟩]), last)
        ∧ EqualButStamps ⟨"wrap", "1", []⟩ (.still "2024-01-01T00:00:00Z") nextClock
          (outletAfter "mocks" "s.go").tree last.tree := by
  have given : ((outlet ⟨"mocks/s.go"⟩).emitter
      ⟨.file ⟨"/src/work/mocks/s.go"⟩, true, "mocks", none⟩).fileText 0 [⟨"S", "a", []⟩]
      = .ok (textOfLines (outletLines "mocks")) :=
    Emitter.fileText_of_lines (by decide +kernel) (by decide +kernel)
  have ensured : (outlet ⟨"mocks/s.go"⟩).withOutputDir outletSite.tree
      = .ok (outletMade "mocks") := by
    decide +kernel
  have parent : (⟨"/src/work/mocks/s.go"⟩ : Path).parent? = some ⟨"/src/work/mocks"⟩ := by
    decide +kernel
  have first : (outlet ⟨"mocks/s.go"⟩).generate.run.run outletSite
      = (.ok (.generated [⟨"/src/work/mocks/s.go"⟩]), outletAfter "mocks" "s.go") :=
    generate_of_emit rfl (by decide +kernel) (by decide +kernel) ensured (Emitter.run_emit_free
      rfl rfl (by decide +kernel) given parent (by decide +kernel) (by decide +kernel))
  have again :=
    generate_again (outlet ⟨"mocks/s.go"⟩) nextClock rfl rfl (stampsAlike_outlet _) first
  have reads := readsAlike_of_leavesAside first (by decide +kernel) leavesAside_outlet
  exact ⟨first, again.2 (again.1 _ rfl reads)⟩

/-- A run whose package is another one afterwards: it makes a directory where the package is looked
for first, with no source files in it. -/
theorem generate_shadowed :
    ((outlet ⟨"a/s_test.go"⟩).options.force = true
      ∧ (outlet ⟨"a/s_test.go"⟩).options.listOnly = false
      ∧ (outlet ⟨"a/s_test.go"⟩).checker = (outlet ⟨"a/s_test.go"⟩).context.checker
      ∧ (outlet ⟨"a/s_test.go"⟩).fileName = wrapperFileName
      ∧ (outlet ⟨"a/s_test.go"⟩).write = writeWrapper)
    ∧ (outlet ⟨"a/s_test.go"⟩).generate.run.run outletSite
      = (.ok (.generated [⟨"/src/work/a/s_test.go"⟩]), outletAfter "a" "s_test.go")
    ∧ (((outlet ⟨"a/s_test.go"⟩).again nextClock).generate.run.run (outletAfter "a" "s_test.go")).1
      = .error (.package ⟨"work/a", .noSources ⟨"/src/work/a"⟩⟩) := by
  have given : ((outlet ⟨"a/s_test.go"⟩).emitter
      ⟨.file ⟨"/src/work/a/s_test.go"⟩, true, "a", none⟩).fileText 0 [⟨"S", "a", []⟩]
      = .ok (textOfLines (outletLines "a")) :=
    Emitter.fileText_of_lines (by decide +kernel) (by decide +kernel)
  have ensured : (outlet ⟨"a/s_test.go"⟩).withOutputDir outletSite.tree = .ok (outletMade "a") := by
    decide +kernel
  have parent : (⟨"/src/work/a/s_test.go"⟩ : Path).parent? = some ⟨"/src/work/a"⟩ := by
    decide +kernel
  refine ⟨⟨rfl, rfl, rfl, rfl, rfl⟩, ?_, by decide +kernel⟩
  exact generate_of_emit rfl (by decide +kernel) (by decide +kernel) ensured (Emitter.run_emit_free
    rfl rfl (by decide +kernel) given parent (by decide +kernel) (by decide +kernel))

end Request

end WrapperGen
