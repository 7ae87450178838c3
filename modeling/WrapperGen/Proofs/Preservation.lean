import Mathlib.Control.Monad.Basic
import WrapperGen.Generation
import WrapperGen.Proofs.EmitRules
import WrapperGen.Proofs.FileNames
import WrapperGen.Proofs.FoldedPaths
import WrapperGen.Proofs.TreeGrowth

/-!
# Without force nothing is altered

A run that may not replace files only adds to the tree.  It first makes the output directory, and
from then on every destination is one name in that directory, links on the way to it included.  The
destinations are looked at before the first file is written; as the tree only grows after that,
what is written later is either at a free place or at a file of the same run.

## Main results

* `mem_plan`: what is planned is the destination of an interface that is asked for.
* `Emitter.grown_emit`: emitting only adds.
* `Request.grown_prepare`: making the output directory only adds.
* `Request.generate_keeps`: without force every entry stays, and every file that is written is new.
-/

namespace WrapperGen

open FileTree

/-! ### Plans -/

theorem mem_addToPlan {shown : Path → String} {planned more : List (Interface × Path)}
    {i : Interface} {path : Path} (h : addToPlan shown planned i path = .ok more) :
    ∀ entry ∈ more, entry ∈ planned ∨ entry = (i, path) := by
  unfold addToPlan at h
  split at h
  · obtain rfl := Except.ok.inj h
    intro entry hm
    simpa using hm
  · split at h
    · obtain rfl := Except.ok.inj h
      exact fun entry hm => Or.inl hm
    · cases h

theorem mem_planBehind {shown : Path → String} {destination : Interface → Path}
    {interfaces : List Interface} {before planned : List (Interface × Path)}
    (h : planBehind shown destination before interfaces = .ok planned) :
    ∀ entry ∈ planned, entry ∈ before
      ∨ entry.1 ∈ interfaces ∧ entry.2 = destination entry.1 := by
  induction interfaces generalizing before with
  | nil =>
    obtain rfl := Except.ok.inj h
    exact fun entry hm => Or.inl hm
  | cons i rest ih =>
    unfold planBehind at h
    cases step : addToPlan shown before i (destination i) with
    | error cause =>
      rw [step] at h
      cases h
    | ok more =>
      rw [step] at h
      intro entry hm
      rcases ih h entry hm with hm | ⟨hi, path⟩
      · rcases mem_addToPlan step entry hm with hm | rfl
        · exact Or.inl hm
        · exact Or.inr ⟨List.mem_cons_self, rfl⟩
      · exact Or.inr ⟨List.mem_cons_of_mem i hi, path⟩

/-- What is planned is the destination of an interface that is asked for. -/
theorem mem_plan {shown : Path → String} {destination : Interface → Path}
    {interfaces : List Interface} {planned : List (Interface × Path)}
    (h : plan shown destination interfaces = .ok planned) :
    ∀ entry ∈ planned, entry.1 ∈ interfaces ∧ entry.2 = destination entry.1 := by
  intro entry hm
  rcases mem_planBehind h entry hm with hm | asked
  · cases hm
  · exact asked

theorem Emitter.map_fst_planTexts {e : Emitter} {look : Nat} {planned : List (Interface × Path)}
    {files : List (Path × String)} (h : e.planTexts look planned = .ok files) :
    files.map Prod.fst = planned.map Prod.snd := by
  induction planned generalizing look files with
  | nil =>
    obtain rfl := Except.ok.inj h
    rfl
  | cons entry rest ih =>
    obtain ⟨i, path⟩ := entry
    obtain ⟨text, more, -, behind, rfl⟩ := exists_of_planTexts_cons h
    rw [List.map_cons, List.map_cons, ih behind]

theorem FileTree.exists?_of_firstExisting? {tree : FileTree} {paths : List Path}
    (h : tree.firstExisting? paths = .ok none) : ∀ p ∈ paths, tree.exists? p = .ok false := by
  induction paths with
  | nil => exact fun p hm => by cases hm
  | cons first rest ih =>
    unfold firstExisting? at h
    cases found : tree.exists? first with
    | error cause =>
      rw [found] at h
      cases h
    | ok there =>
      rw [found] at h
      cases there with
      | true => cases h
      | false =>
        intro p hm
        rcases List.mem_cons.1 hm with rfl | hm
        · exact found
        · exact ih h p hm

/-! ### Destinations -/

theorem endsInSlash_eq_false {p : Path} (h : p.text.toList.getLast? ≠ some '/') :
    endsInSlash p = false := by
  simpa [endsInSlash] using h

/-- A name without slashes stands in the directory that it is joined to. -/
theorem standsIn_join (dir : Path) {name : String} (some' : name.toList ≠ [])
    (h : '/' ∉ name.toList) : StandsIn (dir.join ⟨name⟩) dir name := by
  refine ⟨slashSegments_join dir some' h, endsInSlash_eq_false ?_⟩
  -- however the two are joined, the name is at the end
  have ends : ∃ front, (dir.join ⟨name⟩).text.toList = front ++ name.toList := by
    unfold Path.join
    split
    · exact ⟨[], rfl⟩
    · split
      · exact ⟨dir.text.toList, String.toList_append⟩
      · exact ⟨(dir.text ++ "/").toList, String.toList_append⟩
  obtain ⟨front, text⟩ := ends
  rw [text, List.getLast?_append_of_ne_nil _ some']
  exact fun e => h (List.mem_of_getLast? e)

/-- The last step of a folded path stands in the directory that its parent names. -/
theorem standsIn_ofPieces (absolute : Bool) {pieces : List (List Char)} {piece : List Char}
    (h : ∀ p ∈ pieces ++ [piece], IsStep p) :
    StandsIn (Path.ofPieces absolute (pieces ++ [piece])) (Path.ofPieces absolute pieces)
      (String.ofList piece) := by
  have front : ∀ p ∈ pieces, IsStep p := fun p hp => h p (List.mem_append_left _ hp)
  obtain ⟨-, -, slash⟩ := h piece (by simp)
  constructor
  · rw [Path.slashSegments_ofPieces absolute h, Path.slashSegments_ofPieces absolute front,
      List.map_append, List.map_singleton]
  · refine endsInSlash_eq_false ?_
    rw [Path.getLast?_ofPieces absolute h]
    exact fun e => slash (List.mem_of_getLast? e)

/-- Nothing can be written to the top of the tree, nor to no path at all. -/
theorem writeText_ofPieces_nil (absolute : Bool) (tree made : FileTree) (text : String) :
    tree.writeText (Path.ofPieces absolute []) text ≠ .ok made := by
  unfold writeText writeContent locateFile
  cases absolute with
  | true =>
    have slash : endsInSlash (Path.ofPieces true []) = true := rfl
    rw [if_pos slash]
    split
    · exact fun e => by cases e
    · next h =>
      split at h <;> cases h
    · next h =>
      split at h <;> cases h
    · next h =>
      split at h <;> cases h
  | false =>
    have nothing : tree.locate true (Path.ofPieces false []) = .error .missing := rfl
    have noSlash : endsInSlash (Path.ofPieces false []) = false := rfl
    rw [if_neg (by rw [noSlash]; exact Bool.false_ne_true), nothing]
    exact fun e => by cases e

/-! ### Emitting -/

namespace Emitter

variable {tree : FileTree}

/-- To write a file where none was only adds, however much the tree has grown since. -/
theorem grown_writeFile {path dir : Path} {name text : String} {goal : Location}
    (stands : StandsIn path dir name) (leads : LeadsTo tree dir goal)
    (nowhere : tree.exists? path = .ok false) :
    Run.Triple (fun site => Grown tree site.tree) (writeFile path text)
      (fun _ site => Grown tree site.tree) fun _ site => Grown tree site.tree := by
  refine triple_writeFile (fun _ _ grown => grown) (fun above _ => ?_) ?_
  · exact Run.Triple.onTree (fun made site h grown => grown.trans (ensureDirectory_ok h).1)
      fun _ _ _ grown => grown
  · exact Run.Triple.onTree
      (fun made site h grown => grown_writeText stands leads nowhere grown h)
      fun _ _ _ grown => grown

/-- What a run without force does: the tree grows, and the files that are written are new. -/
abbrev Adds (e : Emitter) (interfaces : List Interface) (tree : FileTree) : Prop :=
  Run.Triple (fun site => site.tree = tree) (e.emit interfaces)
    (fun files site => Grown tree site.tree ∧ ∀ p ∈ files, tree.exists? p = .ok false)
    fun _ site => Grown tree site.tree

theorem grown_of_eq {site : Site} (h : site.tree = tree) : Grown tree site.tree :=
  h ▸ Grown.refl _

variable {e : Emitter} {interfaces : List Interface}

theorem grown_emitFile {path : Path} (target : e.settings.target = .file path)
    (force : e.settings.force = false)
    (write : ∀ text, tree.exists? path = .ok false →
      Run.Triple (fun site => Grown tree site.tree) (writeFile path text)
        (fun _ site => Grown tree site.tree) fun _ site => Grown tree site.tree) :
    Adds e interfaces tree := by
  unfold Adds emit
  rw [target]
  refine triple_emitFile e interfaces path (fun _ site _ hs => grown_of_eq hs)
    (fun _ site _ hs => grown_of_eq hs) (fun _ _ site hs => grown_of_eq hs) ?_
  intro text _ site hs
  have nowhere : tree.exists? path = .ok false := hs.1 ▸ hs.2 force
  refine ((write text nowhere).mono (fun _ h => h) (fun _ last grown => ?_) fun _ _ h => h)
    site (grown_of_eq hs.1)
  refine ⟨grown, fun p hp => ?_⟩
  rw [List.mem_singleton.1 hp]
  exact nowhere

theorem grown_emitDirectory {dir : Path} {goal : Location}
    (target : e.settings.target = .directory dir) (force : e.settings.force = false)
    (leads : LeadsTo tree dir goal)
    (names : ∀ i ∈ interfaces,
      '/' ∉ (outputFileName e.fileName e.settings.namePrefix i.name).toList
        ∧ (outputFileName e.fileName e.settings.namePrefix i.name).toList ≠ []) :
    Adds e interfaces tree := by
  unfold Adds emit
  rw [target]
  refine triple_emitDirectory e interfaces dir (fun _ _ site hs => grown_of_eq hs)
    (fun _ site hs => grown_of_eq hs) (fun _ site hs => grown_of_eq hs)
    (fun _ _ _ site hs => grown_of_eq hs) ?_
  intro planned files asked texts site hs
  have paths := map_fst_planTexts texts
  have free := exists?_of_firstExisting? (hs.2 force)
  rw [hs.1, ← paths] at free
  have write : Run.Triple (fun site => Grown tree site.tree) (writeFiles files)
      (fun _ site => Grown tree site.tree) fun _ site => Grown tree site.tree := by
    refine triple_writeFiles fun file hf => ?_
    have hp : file.1 ∈ planned.map Prod.snd := paths ▸ List.mem_map_of_mem hf
    obtain ⟨entry, he, e'⟩ := List.mem_map.1 hp
    -- the file is the destination of one of the interfaces, and its name has no slash
    obtain ⟨hi, path⟩ := mem_plan asked entry he
    obtain ⟨slash, full⟩ := names entry.1 hi
    have stands : StandsIn file.1 dir
        (outputFileName e.fileName e.settings.namePrefix entry.1.name) := by
      rw [← e', path]
      exact standsIn_join dir full slash
    exact grown_writeFile stands leads (free _ (List.mem_map_of_mem hf))
  exact (write.mono (fun _ h => h) (fun _ last grown => ⟨grown, free⟩) fun _ _ h => h)
    site (grown_of_eq hs.1)

theorem grown_emitStream (target : e.settings.target = .stream) : Adds e interfaces tree := by
  unfold Adds emit
  rw [target]
  refine triple_emitStream e interfaces (fun _ _ site hs => grown_of_eq hs)
    (fun site hs => grown_of_eq hs) fun _ _ site hs => ⟨?_, fun p hp => by cases hp⟩
  show Grown tree site.tree
  exact grown_of_eq hs

/-- Emitting only adds, once the output directory is there. -/
theorem grown_emit (force : e.settings.force = false)
    (leads : ∀ dir, e.settings.outputDir? = some dir → ∃ goal, LeadsTo tree dir goal)
    (folded : ∀ path, e.settings.target = .file path → ∃ absolute pieces,
      path = Path.ofPieces absolute pieces ∧ ∀ piece ∈ pieces, IsStep piece)
    (names : ∀ i ∈ interfaces,
      '/' ∉ (outputFileName e.fileName e.settings.namePrefix i.name).toList
        ∧ (outputFileName e.fileName e.settings.namePrefix i.name).toList ≠ []) :
    Adds e interfaces tree := by
  cases target : e.settings.target with
  | stream => exact grown_emitStream target
  | directory dir =>
    obtain ⟨goal, there⟩ := leads dir (by rw [EmitSettings.outputDir?, target])
    exact grown_emitDirectory target force there names
  | file path =>
    refine grown_emitFile target force fun text nowhere => ?_
    obtain ⟨absolute, pieces, rfl, steps⟩ := folded path target
    rcases List.eq_nil_or_concat pieces with rfl | ⟨front, piece, rfl⟩
    · -- no directory is above such a path, and nothing can be written there
      refine triple_writeFile (fun _ _ grown => grown) (fun dir above => ?_) ?_
      · rw [Path.parent?_ofPieces_nil] at above
        cases above
      · exact Run.Triple.onTree
          (fun made site h _ => absurd h (writeText_ofPieces_nil absolute _ _ _))
          fun _ _ _ grown => grown
    · rw [List.concat_eq_append] at *
      have parent := Path.parent?_ofPieces absolute steps
      obtain ⟨goal, there⟩ := leads _ (by rw [EmitSettings.outputDir?, target, ← parent])
      exact grown_writeFile (standsIn_ofPieces absolute steps) there nowhere

end Emitter

/-! ### Settings -/

theorem Options.exists_absolutize_of_target {o : Options} {cwd path : Path}
    (h : o.target cwd = .ok (.file path)) : ∃ file, path = cwd.absolutize file := by
  unfold target at h
  split at h
  · cases h
  · cases h
  · next file _ _ =>
    split at h
    · cases h
    · injection Except.ok.inj h with e
      exact ⟨file, e.symm⟩
  · cases h

theorem Options.slash_not_mem_namePrefix {o : Options} {namePrefix? : Option String}
    (h : o.namePrefix = .ok namePrefix?) : '/' ∉ (namePrefix?.getD "").toList :=
  not_mem_namePrefix (by decide) h

/-! ### Runs -/

namespace Request

variable {tree : FileTree} (r : Request) (settings : EmitSettings) (interfaces : List Interface)

theorem mem_elideOwn {dir : Path} {i : Interface} (h : i ∈ r.elideOwn tree dir interfaces) :
    ∃ j ∈ interfaces, i.name = j.name := by
  unfold elideOwn at h
  split at h
  · exact ⟨i, h, rfl⟩
  · obtain ⟨j, hj, rfl⟩ := List.mem_map.1 h
    refine ⟨j, hj, ?_⟩
    unfold Interface.elideFrom
    split
    · rfl
    · rfl

/-- Making the output directory only adds, and the directory is there then. -/
theorem grown_prepare :
    Run.Triple (fun site => site.tree = tree) (r.prepare settings interfaces)
      (fun found site => Grown tree site.tree
        ∧ (∀ dir, settings.outputDir? = some dir → ∃ goal, LeadsTo site.tree dir goal)
        ∧ ∀ i ∈ found, ∃ j ∈ interfaces, i.name = j.name)
      fun _ site => Grown tree site.tree := by
  unfold prepare
  cases output : settings.outputDir? with
  | none =>
    refine Run.Triple.pure fun site hs => ⟨Emitter.grown_of_eq hs, ?_, fun i hi => ⟨i, hi, rfl⟩⟩
    intro dir e
    cases e
  | some dir =>
    have make : Run.Triple (fun site => site.tree = tree)
        (Run.onTree (fun cause => GenerateError.options (.noOutputDir dir cause)) fun tree =>
          tree.ensureDirectory dir)
        (fun _ site => Grown tree site.tree ∧ ∃ goal, LeadsTo site.tree dir goal)
        fun _ site => Grown tree site.tree := by
      refine Run.Triple.onTree (fun made site h hs => ?_) fun _ _ _ hs => Emitter.grown_of_eq hs
      rw [hs] at h
      exact ensureDirectory_ok h
    refine make.bind fun _ => ?_
    refine Run.Triple.get_keep.bind fun found => ?_
    refine Run.Triple.pure fun site hs => ⟨hs.2.1, ?_, fun i hi => mem_elideOwn r interfaces hi⟩
    rintro other e
    obtain rfl := Option.some.inj e
    exact hs.2.2

variable {r settings}

/-- Writing code without force only adds, and what is written was not there. -/
theorem grown_emitInterfaces (checked : r.options.settings r.context.cwd = .ok settings)
    (force : r.options.force = false) (wrapper : r.fileName = wrapperFileName)
    (names : ∀ interfaces, r.interfaces tree = .ok interfaces → ∀ i ∈ interfaces,
      Source.isIdentifier i.name = true) :
    Run.Triple (fun site => site.tree = tree) (r.emitInterfaces settings)
      (fun outcome site => Grown tree site.tree
        ∧ ∀ files, outcome = .generated files → ∀ p ∈ files, tree.exists? p = .ok false)
      fun _ site => Grown tree site.tree := by
  obtain ⟨target, sameForce, front⟩ := Options.settings_ok checked
  unfold emitInterfaces
  refine Run.Triple.get_keep.bind fun found => ?_
  have asked : Run.Triple (fun site => found = site ∧ site.tree = tree)
      (liftM (r.interfaces found.tree) : Run GenerateError (List Interface))
      (fun interfaces site => r.interfaces tree = .ok interfaces ∧ site.tree = tree)
      fun _ site => Grown tree site.tree := by
    refine Run.Triple.lift (fun interfaces h site hs => ⟨?_, hs.2⟩)
      fun _ _ site hs => Emitter.grown_of_eq hs.2
    rw [← hs.2, ← hs.1]
    exact h
  refine asked.bind fun interfaces => ?_
  cases missing : r.options.firstMissing? interfaces with
  | some name => exact Run.Triple.throw fun site hs => Emitter.grown_of_eq hs.2
  | none =>
    intro site hs
    refine ((grown_prepare r settings interfaces).bind fun found => ?_) site hs.2
    -- from here on the tree is the one with the output directory, and what is shown of it is put
    -- together with the growth up to there at the end
    rintro prepared ⟨grown, leads, renamed⟩
    have emitted : (r.emitter settings).Adds found prepared.tree := by
      refine Emitter.grown_emit (sameForce.trans force) leads (fun path e => ?_) fun i hi => ?_
      · obtain ⟨file, rfl⟩ := Options.exists_absolutize_of_target (e ▸ target)
        exact Path.exists_ofPieces_absolutize _ file
      · obtain ⟨j, hj, same⟩ := renamed i hi
        have name : Source.isIdentifier i.name = true := same ▸ names interfaces hs.1 j hj
        obtain ⟨slash, full⟩ := slash_not_mem_wrapperFileName name
        have inFront : '/' ∉ settings.namePrefix.toList := Options.slash_not_mem_namePrefix front
        have both := slash_not_mem_outputFileName slash full inFront
        rw [← wrapper] at both
        exact both
    have ends : Run.Triple (fun site => site.tree = prepared.tree)
        (Run.mapError GenerateError.emit ((r.emitter settings).emit found))
        (fun files site => Grown tree site.tree ∧ ∀ p ∈ files, tree.exists? p = .ok false)
        fun _ site => Grown tree site.tree := by
      refine Run.Triple.mapError (emitted.mono (fun _ h => h) ?_ fun _ site h => grown.trans h)
      rintro files last ⟨more, free⟩
      exact ⟨grown.trans more, fun p hp => exists?_of_grown grown (free p hp)⟩
    refine (ends.bind fun files => Run.Triple.pure fun last done => ?_) prepared rfl
    refine ⟨done.1, fun other e => ?_⟩
    obtain rfl := Outcome.generated.inj e
    exact done.2

theorem tree_printNames (names : List String) :
    Run.Triple (fun site => site.tree = tree) (printNames names) (fun _ site => site.tree = tree)
      fun _ site => site.tree = tree := by
  induction names with
  | nil => exact Run.Triple.pure fun _ hs => hs
  | cons name rest ih =>
    have print : Run.Triple (fun site => site.tree = tree)
        (Run.print GenerateError.streamClosed (name ++ "\n")) (fun _ site => site.tree = tree)
        fun _ site => site.tree = tree :=
      Run.Triple.print (fun _ hs => hs) fun _ hs => hs
    exact print.bind fun _ => ih

/-- To list names changes no files. -/
theorem tree_list (r : Request) :
    Run.Triple (fun site => site.tree = tree) r.list
      (fun outcome site => site.tree = tree ∧ ∃ names, outcome = .listed names)
      fun _ site => site.tree = tree := by
  unfold list
  refine Run.Triple.get_keep.bind fun found => ?_
  refine (Run.Triple.lift_keep fun _ _ _ hs => hs.2).bind fun interfaces => ?_
  intro site hs
  exact ((tree_printNames _).bind fun _ => Run.Triple.pure fun _ done => ⟨done, _, rfl⟩) site hs.2.2

/-- Without force every entry of the tree stays as it is, whatever becomes of the run; and where
the run ends well, nothing was at the files that it names. -/
theorem generate_keeps (r : Request) (site : Site) (force : r.options.force = false)
    (wrapper : r.fileName = wrapperFileName)
    (names : ∀ interfaces, r.interfaces site.tree = .ok interfaces → ∀ i ∈ interfaces,
      Source.isIdentifier i.name = true) :
    (∀ place entry, site.tree.entryAt place = some entry →
      (r.generate.run.run site).2.tree.entryAt place = some entry)
    ∧ ∀ files, (r.generate.run.run site).1 = .ok (.generated files) →
      ∀ p ∈ files, site.tree.exists? p = .ok false := by
  have whole : Run.Triple (fun last => last.tree = site.tree) r.generate
      (fun outcome last => Grown site.tree last.tree
        ∧ ∀ files, outcome = .generated files → ∀ p ∈ files, site.tree.exists? p = .ok false)
      fun _ last => Grown site.tree last.tree := by
    unfold generate
    by_cases listOnly : r.options.listOnly = true
    · rw [if_pos listOnly]
      refine (tree_list r).mono (fun _ h => h) ?_ fun _ last hs => Emitter.grown_of_eq hs
      rintro outcome last ⟨hs, listed, rfl⟩
      refine ⟨Emitter.grown_of_eq hs, fun files e => ?_⟩
      cases e
    · rw [if_neg listOnly]
      cases checked : r.options.settings r.context.cwd with
      | error cause => exact Run.Triple.throw fun last hs => Emitter.grown_of_eq hs
      | ok settings => exact grown_emitInterfaces checked force wrapper names
  constructor
  · intro place entry found
    cases result : (r.generate.run.run site).1 with
    | ok outcome => exact (whole.of_ok rfl result).1.kept place entry found
    | error cause => exact (whole.of_error rfl result).kept place entry found
  · intro files written
    exact (whole.of_ok rfl written).2 files rfl

/-- A package, and a working directory with a file and with a link to nowhere. -/
def sampleSite : Site where
  tree :=
    ⟨[(["src"], .directory directoryMode), (["src", "store"], .directory directoryMode),
      (["work"], .directory directoryMode), (["work", "notes"], .file (.text "keep") fileMode),
      (["work", "gone"], .link ⟨"nowhere"⟩)]⟩
  printed := []
  printable := true

/-- A run for the one interface of the package. -/
def sample : Request where
  context := ⟨⟨"/work"⟩, ⟨"/"⟩, none, hostPlatform⟩
  options := ⟨["store"], none, none, false, [], none, none, false⟩
  tool := ⟨"wrap", "1.0", ["wrap", "store"]⟩
  clock := .still "2024-01-01T00:00:00Z"
  checker := fun _ _ path => pure ⟨"store", path, [⟨"Store", false, .interface []⟩], []⟩
  fileName := wrapperFileName
  write := writeWrapper

/-- The run for one interface keeps the file and the link. -/
theorem generate_keeps_sample :
    sample.interfaces sampleSite.tree = .ok [⟨"Store", "store", []⟩]
    ∧ (∀ place entry, sampleSite.tree.entryAt place = some entry →
      (sample.generate.run.run sampleSite).2.tree.entryAt place = some entry)
    ∧ ∀ files, (sample.generate.run.run sampleSite).1 = .ok (.generated files) →
      ∀ p ∈ files, sampleSite.tree.exists? p = .ok false := by
  have asked : sample.interfaces sampleSite.tree = .ok [⟨"Store", "store", []⟩] := by
    decide +kernel
  refine ⟨asked, generate_keeps sample sampleSite rfl rfl fun interfaces found i hi => ?_⟩
  rw [asked] at found
  obtain rfl := Except.ok.inj found
  obtain rfl := List.mem_singleton.1 hi
  decide +kernel

end Request

end WrapperGen
