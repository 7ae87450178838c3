import WrapperGen.Proofs.GeneratedFiles
import WrapperGen.Proofs.Repetition

/-!
# Runs that write into packages that they read

Code that wraps an interface is often wanted in the package that declares the interface.  So a run
may write into a directory that it has read, and when it is repeated it reads what it has written.
As long as that are structures with names of their own, it finds the same interfaces again.

The two checks of such a package are compared in two steps: first the files that stood there before
are checked in the new tree, which comes to the same because all that they import is the same, and
then the generated files are added.  From then on the two sessions know the package differently, so
the comparison goes on only as long as no other package asks for it.

## Main definitions

* `KnowsAlike`: two sessions that know the same of some packages.
* `Workspace.ChecksAlike`: a package that has the same interfaces in two workspaces.
* `Request.AddsTo`, `Request.AddsAside`: a run adds structures to packages that it reads, and leaves
  aside all else that it looks at.

## Main results

* `Workspace.checksAlike_of_addsStructs`: a package to which structures are added.
* `Workspace.filter_filesIn`: the files of a package that have not been written are the same.
* `Request.finds_of_addsAside`: such a run would find the same once more.
* `Request.finds_inlet`: a wrapper beside its interface.
-/

namespace WrapperGen

open FileTree

/-! ### Sessions -/

/-- Two sessions, in each of which the given packages are being loaded, know the same of what is
`asked` for.  What they know of other packages may be different. -/
structure KnowsAlike (asked : String → Prop) (loading : List String) (s s' : Session) : Prop where
  /-- The packages are being loaded in the one. -/
  loads : s.loading = loading
  /-- They are in the other. -/
  loads' : s'.loading = loading
  /-- The same packages have been checked. -/
  packages : ∀ path, asked path → s.package? path = s'.package? path
  /-- The same names have been read. -/
  names : ∀ path, asked path → s.names.lookup path = s'.names.lookup path

namespace KnowsAlike

variable {asked : String → Prop} {loading : List String} {s s' : Session} {path : String}

theorem learnPackage (h : KnowsAlike asked loading s s') {package package' : CheckedPackage}
    (same : asked path → package = package') :
    KnowsAlike asked loading (s.learnPackage path package) (s'.learnPackage path package') where
  loads := h.loads
  loads' := h.loads'
  packages := by
    intro other ha
    by_cases here : other = path
    · subst here
      rw [Session.package?_learnPackage_self, Session.package?_learnPackage_self, same ha]
    · rw [Session.package?_learnPackage_of_ne _ _ here,
        Session.package?_learnPackage_of_ne _ _ here, h.packages other ha]
  names := h.names

theorem learnName (h : KnowsAlike asked loading s s') (name? : Option String) :
    KnowsAlike asked loading (s.learnName path name?) (s'.learnName path name?) where
  loads := h.loads
  loads' := h.loads'
  packages := h.packages
  names := by
    intro other ha
    show List.lookup other (_ :: s.names) = List.lookup other (_ :: s'.names)
    rw [List.lookup_cons, List.lookup_cons, h.names other ha]

end KnowsAlike

namespace Workspace

variable {w w' : Workspace} {asked : String → Prop} {found : List Found} {f : Found}

theorem remembers_knowsAlike : Remembers asked (KnowsAlike asked) where
  loading := fun h => ⟨h.loads, h.loads'⟩
  package? := fun ha h => h.packages _ ha
  names := fun ha h => h.names _ ha
  enter := fun path h =>
    ⟨by rw [Session.enter, h.loads], by rw [Session.enter, h.loads'], h.packages, h.names⟩
  leave := fun path h => ⟨by rw [Session.leave, h.loads, List.erase_cons_head],
    by rw [Session.leave, h.loads', List.erase_cons_head], h.packages, h.names⟩
  learnPackage := fun path package h => h.learnPackage fun _ => rfl
  learnName := fun path name? h => h.learnName name?

/-! ### Checks -/

/-- Where the check of a package succeeds in the one workspace, it succeeds in the other one, and
the package has the same interfaces there. -/
def ChecksAlike (w w' : Workspace) (asked : String → Prop) (f : Found) : Prop :=
  ∀ s s' package last, KnowsAlike asked [] s s' →
    (w.checkPackage f.dir f.importPath).run.run s = (.ok package, last) →
      ∃ again last', (w'.checkPackage f.dir f.importPath).run.run s' = (.ok again, last')
        ∧ KnowsAlike asked [] last last' ∧ again.toPackage = package.toPackage

/-- A package whose files are the same is checked as before. -/
theorem checksAlike_of_filesIn_eq (same : w.SameFor w' asked)
    (files : w.filesIn f.dir = w'.filesIn f.dir)
    (below : ∀ other, w.Mentions f.dir other → asked other) : w.ChecksAlike w' asked f := by
  intro s s' package last alike ran
  have both : Alike (KnowsAlike asked []) (fun cause => w.RealCycles cause f.dir f.importPath)
      (w.checkPackage f.dir f.importPath) (w'.checkPackage f.dir f.importPath) := by
    rw [checkPackage_eq_or, checkPackage_eq_or]
    exact alike_checkPackageOr remembers_knowsAlike same files below (Nat.le_refl _) (Nat.le_refl _)
  obtain ⟨result, last, last', ran₁, ran₂, behind, -⟩ := both s s' alike
  cases ran.symm.trans ran₁
  exact ⟨package, last', ran₂, behind, rfl⟩

/-- Nothing is said of a package that cannot be read. -/
theorem checksAlike_of_error {cause : CheckError} (unread : w.filesIn f.dir = .error cause) :
    w.ChecksAlike w' asked f := by
  intro s s' package last alike ran
  unfold checkPackage Check.learning at ran
  obtain ⟨_, _, checked, -⟩ := exists_of_run_bind ran
  rw [checkDirectory_eq, unread] at checked
  cases checked

/-- A package to which structures are added has the same interfaces.  The sessions may know it
differently afterwards, so it must not be asked for. -/
theorem checksAlike_of_addsStructs (same : w.SameFor w' asked) {files later : List SourceFile}
    {ours : SourceFile → Bool} (read : w.filesIn f.dir = .ok files)
    (read' : w'.filesIn f.dir = .ok later) (adds : AddsStructs ours files later)
    (others : (later.filter fun file => !ours file) = files.filter fun file => !ours file)
    (below : ∀ other, w.Mentions f.dir other → asked other) (unasked : ¬ asked f.importPath) :
    w.ChecksAlike w' asked f := by
  intro s s' package last alike ran
  -- the files that stood there before give the same package with either importer
  have both : Alike (KnowsAlike asked []) (fun cause => w.RealCycles cause f.dir f.importPath)
      (checkFiles w.importer f.dir f.importPath files)
      (checkFiles w'.importer f.dir f.importPath files) := by
    refine (alike_checkFiles (admits_realCycles read) fun file hf other ho => ?_).mono
      (fun _ _ => trivial) fun _ => id
    have mentions : w.Mentions f.dir other := ⟨files, read, file, hf, ho⟩
    have asks := below other mentions
    constructor
    · refine AlikeOn.mono ?_ (fun _ => id) fun cause stuck => ⟨mentions, stuck⟩
      show Alike _ _ (w.loadPackage w.importBound other) (w'.loadPackage w'.importBound other)
      rw [loadPackage_eq_or, loadPackage_eq_or]
      exact (alike_importer remembers_knowsAlike same asks (Nat.le_refl _) (Nat.le_refl _)).1
    · exact (alike_packageName? remembers_knowsAlike asks (same.clauses asks)).mono (fun _ => id)
        fun _ => False.elim
  unfold checkPackage Check.learning at ran ⊢
  obtain ⟨_, between, checked, ran⟩ := exists_of_run_bind ran
  cases ran
  rw [checkDirectory_eq, read] at checked
  obtain ⟨_, _, last', ran₁, ran₂, behind, -⟩ := both s s' alike
  have checked : (checkFiles w.importer f.dir f.importPath files).run.run s
      = (.ok package, between) := checked
  cases checked.symm.trans ran₁
  -- and the ones that stand there now give one with the same interfaces
  obtain ⟨again, ranToo, interfaces⟩ := adds.run_checkFiles others ran₂
  refine ⟨again, last'.learnPackage f.importPath again, ?_,
    behind.learnPackage fun ha => absurd ha unasked, interfaces⟩
  rw [checkDirectory_eq, read']
  exact run_bind_of_ok ranToo _

/-- The interfaces of packages that are checked alike are the same. -/
theorem run_extractInto_of_checksAlike (h : ∀ f ∈ found, w.ChecksAlike w' asked f)
    (packages : PackageSet) {s s' last : Session} (alike : KnowsAlike asked [] s s')
    {all : PackageSet}
    (ran : (extractInto w.checkPackage packages found).run.run s = (.ok all, last)) :
    ∃ last', (extractInto w'.checkPackage packages found).run.run s' = (.ok all, last') := by
  induction found generalizing packages s s' with
  | nil =>
    cases ran
    exact ⟨s', rfl⟩
  | cons f rest ih =>
    rw [extractInto] at ran
    obtain ⟨package, between, checked, ran⟩ := exists_of_run_bind ran
    rw [run_adapt] at checked
    rcases here : (w.checkPackage f.dir f.importPath).run.run s with ⟨cause | package, _⟩
    · rw [here] at checked
      cases checked
    · rw [here] at checked
      cases checked
      obtain ⟨again, between', there, behind, same⟩ := h f List.mem_cons_self s s' _ _ alike here
      obtain ⟨last', onward⟩ := ih (fun g hg => h g (List.mem_cons_of_mem f hg)) _ behind ran
      refine ⟨last', ?_⟩
      rw [extractInto, run_bind, run_adapt, there]
      rw [← same] at onward
      exact onward

end Workspace

/-! ### Files that have been written -/

/-- One of the files has been written to what a path leads to. -/
def FileTree.isAmong (tree : FileTree) (files : List Path) (p : Path) : Bool :=
  files.any fun file => tree.place? file == tree.place? p

/-- A text that has not been written is the same afterwards. -/
theorem FileTree.Wrote.readText_of_not_isAmong {α : Type} {text : α → String}
    {start tree : FileTree} {written : List (Written α)} {files : List Path} {p : Path}
    (h : Wrote text start tree written) (asked : written.reverse.map Written.path = files)
    (there : ∃ value, start.readText p = .ok value) (apart : tree.isAmong files p = false) :
    tree.readText p = start.readText p := by
  obtain ⟨value, there⟩ := there
  cases found : start.find p with
  | error cause =>
    unfold FileTree.readText at there
    rw [found] at there
    cases there
  | ok target =>
    obtain ⟨place, entry⟩ := target
    obtain ⟨-, other, -, again⟩ := find_of_rewritten h.kept found
    have here : start.place? p = some place := place?_eq_some_iff.2 ⟨entry, found⟩
    have here' : tree.place? p = some place := place?_eq_some_iff.2 ⟨other, again⟩
    have alone : start.LeavesAlone tree files p := by
      refine ⟨fun _ => by rw [here]; rfl, fun goal leads file hf same => ?_⟩
      obtain rfl := Option.some.inj (here.symm.trans leads)
      have among : tree.isAmong files p = true :=
        List.any_eq_true.2 ⟨file, hf, beq_iff_eq.2 (same.trans here'.symm)⟩
      rw [apart] at among
      cases among
    unfold FileTree.readText
    rw [(h.leadsAlike asked alone).find_eq found]

namespace Workspace

variable {tree later : FileTree} {context : Context} {dir : Path} {files : List Path}
  {paths : List Path} {olds news : List SourceFile}

/-- Some of the files that are read. -/
theorem readFiles_filter {w : Workspace} (read : w.readFiles paths = .ok olds)
    (keep : Path → Bool) :
    w.readFiles (paths.filter keep) = .ok (olds.filter fun file => keep file.path) := by
  induction paths generalizing olds with
  | nil =>
    obtain rfl := Except.ok.inj read
    rfl
  | cons p rest ih =>
    obtain ⟨text, more, there, complete, behind, rfl⟩ := readFiles_cons read
    have path : (SourceFile.ofText p text).path = p := rfl
    rw [List.filter_cons, List.filter_cons, path]
    split
    · rw [readFiles, there]
      dsimp only
      rw [if_pos complete, ih behind]
    · exact ih behind

theorem exists_readText_of_readFiles {w : Workspace} (read : w.readFiles paths = .ok olds)
    {p : Path} (mem : p ∈ paths) : ∃ text, w.tree.readText p = .ok text := by
  rw [← map_path_of_readFiles read] at mem
  obtain ⟨file, hf, rfl⟩ := List.mem_map.1 mem
  obtain ⟨path, text, there, rfl⟩ := exists_readText_of_mem_readFiles read hf
  exact ⟨text, there⟩

theorem readFiles_of_filesIn {w : Workspace} (read : w.filesIn dir = .ok olds) :
    ∃ paths, sourceFiles w.tree dir w.context.platform = .ok paths
      ∧ w.readFiles paths = .ok olds := by
  unfold filesIn at read
  split at read
  · cases read
  · cases read
  · next paths _ listed => exact ⟨paths, listed, read⟩

/-- The files of a package that have not been written are the same afterwards. -/
theorem filter_filesIn {α : Type} {text : α → String} {written : List (Written α)}
    (wrote : Wrote text tree later written) (asked : written.reverse.map Written.path = files)
    (there : tree.isDirectory dir = true)
    (stands : ∀ goal ∈ tree.directoryPlace? dir, ∀ file ∈ files, ∀ place ∈ later.place? file,
      place.dropLast = goal → ∀ name ∈ place.getLast?, later.place? (dir.join ⟨name⟩) = some place)
    (read : (Workspace.mk tree context).filesIn dir = .ok olds)
    (read' : (Workspace.mk later context).filesIn dir = .ok news) :
    (news.filter fun file => !later.isAmong files file.path)
      = olds.filter fun file => !later.isAmong files file.path := by
  obtain ⟨goal, bits, names, names', found, listed, listed', -, same⟩ :=
    wrote.sourceFiles_ok context.platform there
  obtain ⟨paths, here, read⟩ := readFiles_of_filesIn read
  obtain rfl := Except.ok.inj (listed.symm.trans here)
  obtain ⟨paths, here, read'⟩ := readFiles_of_filesIn read'
  obtain rfl := Except.ok.inj (listed'.symm.trans here)
  have left := same (fun name => !later.isAmong files (dir.join ⟨name⟩)) fun name _ kept mem => by
    obtain ⟨file, hf, leads⟩ := wrote.exists_place?_of_mem asked mem
    have goes : goal ∈ tree.directoryPlace? dir := by
      rw [directoryPlace?, found]
      rfl
    have leadsToo := stands goal goes file hf _ leads List.dropLast_concat name List.getLast?_concat
    have among : later.isAmong files (dir.join ⟨name⟩) = true :=
      List.any_eq_true.2 ⟨file, hf, beq_iff_eq.2 (leads.trans leadsToo.symm)⟩
    rw [among] at kept
    cases kept
  have before := readFiles_filter read fun p => !later.isAmong files p
  have after := readFiles_filter read' fun p => !later.isAmong files p
  rw [List.filter_map] at before after
  rw [show names'.filter ((fun p => !later.isAmong files p) ∘ fun name => dir.join ⟨name⟩)
    = _ from left] at after
  refine Except.ok.inj (after.symm.trans ((readFiles_of_texts fun p hp => ?_).trans before))
  obtain ⟨name, mem, rfl⟩ := List.mem_map.1 hp
  obtain ⟨hn, kept⟩ := List.mem_filter.1 mem
  exact wrote.readText_of_not_isAmong asked
    (exists_readText_of_readFiles read (List.mem_map_of_mem hn)) (by simpa using kept)

/-- What the package imported it imports still. -/
theorem mentions_of_addsStructs {w w' : Workspace} {ours : SourceFile → Bool} {path : String}
    (read : w.filesIn dir = .ok olds) (read' : w'.filesIn dir = .ok news)
    (adds : AddsStructs ours olds news)
    (others : (news.filter fun file => !ours file) = olds.filter fun file => !ours file)
    (mentions : w.Mentions dir path) : w'.Mentions dir path := by
  obtain ⟨_, again, file, hf, mem⟩ := mentions
  obtain rfl := Except.ok.inj (read.symm.trans again)
  cases mine : ours file with
  | true =>
    obtain ⟨other, ho, -, covers⟩ := adds.kept file hf mine
    exact ⟨news, read', other, ho, covers.imports path mem⟩
  | false =>
    have stays : file ∈ news.filter fun file => !ours file :=
      others ▸ List.mem_filter.2 ⟨hf, by rw [mine, Bool.not_false]⟩
    exact ⟨news, read', file, (List.mem_filter.1 stays).1, mem⟩

end Workspace

/-! ### Runs -/

namespace Request

variable {r : Request} {site after : Site} {tree later : FileTree} {found : List Found} {f : Found}
  {files : List Path}

/-- A run has added structures to a package that it was asked for, or has replaced structures there
by others.  The package must not be imported by what was found: an importer would know it as it was
in the one tree, and as it is in the other. -/
structure AddsTo (r : Request) (tree later : FileTree) (found : List Found) (files : List Path)
    (f : Found) : Prop where
  /-- No package imports this one. -/
  unasked : ¬ (Workspace.mk tree r.context).ComesUp found f.importPath
  /-- A file that now stands in the directory is what its name there leads to. -/
  stands : ∀ goal ∈ tree.directoryPlace? f.dir, ∀ file ∈ files, ∀ place ∈ later.place? file,
    place.dropLast = goal →
      ∀ name ∈ place.getLast?, later.place? (f.dir.join ⟨name⟩) = some place
  /-- All files of the package are well formed. -/
  read : ((Workspace.mk later r.context).filesIn f.dir).toOption.isSome = true
  /-- Those that have been written declare structures only. -/
  structs : ∀ olds ∈ ((Workspace.mk tree r.context).filesIn f.dir).toOption,
    ∀ news ∈ ((Workspace.mk later r.context).filesIn f.dir).toOption,
      AddsStructs (fun file => later.isAmong files file.path) olds news

/-- The files of a run have left alone what it looks at and reads, but that structures may have been
added to the packages that it was asked for. -/
structure AddsAside (r : Request) (tree later : FileTree) (found : List Found)
    (files : List Path) : Prop extends r.LooksAside tree later found files where
  /-- The packages. -/
  packages : ∀ f ∈ found, tree.LeavesSources later r.context.platform files f.dir
    ∨ r.AddsTo tree later found files f

/-- The package before and after. -/
theorem AddsTo.exists_news (adds : r.AddsTo site.tree after.tree found files f)
    (first : r.generate.run.run site = (.ok (.generated files), after))
    (there : site.tree.isDirectory f.dir = true) {olds : List SourceFile}
    (read : (Workspace.mk site.tree r.context).filesIn f.dir = .ok olds) :
    ∃ ours news, (Workspace.mk after.tree r.context).filesIn f.dir = .ok news
      ∧ AddsStructs ours olds news
      ∧ (news.filter fun file => !ours file) = olds.filter fun file => !ours file := by
  obtain ⟨made, written, -, -, asked, wrote⟩ := exists_wrote_of_generate first
  obtain ⟨news, again⟩ := Option.isSome_iff_exists.1 adds.read
  have structs := adds.structs olds (by rw [read]; rfl) news again
  cases read' : (Workspace.mk after.tree r.context).filesIn f.dir with
  | error cause =>
    rw [read'] at again
    cases again
  | ok others =>
    rw [read'] at again
    obtain rfl := Option.some.inj again
    exact ⟨_, others, rfl, structs,
      Workspace.filter_filesIn wrote asked there adds.stands read read'⟩

/-- Packages that come up are the same afterwards, and what is found is checked as before. -/
theorem checksAlike_of_addsAside (first : r.generate.run.run site = (.ok (.generated files), after))
    (resolved : resolveAll site.tree r.context r.options.specifiers = .ok found)
    (aside : r.AddsAside site.tree after.tree found files) :
    ∀ f ∈ found, (Workspace.mk site.tree r.context).ChecksAlike ⟨after.tree, r.context⟩
      ((Workspace.mk site.tree r.context).ComesUp found) f := by
  obtain ⟨made, written, -, -, asked, wrote⟩ := exists_wrote_of_generate first
  have there := isDirectory_of_resolveAll resolved
  have same (f : Found) (hf : f ∈ found)
      (left : site.tree.LeavesSources after.tree r.context.platform files f.dir) :
      (Workspace.mk site.tree r.context).filesIn f.dir
        = (Workspace.mk after.tree r.context).filesIn f.dir :=
    (Workspace.filesIn_of_sameSources (wrote.sameSources asked (there f hf) left)).symm
  have sameFor := Workspace.sameFor_comesUp (imports_of_looksAside first aside.toLooksAside)
    fun f hf path mentions => by
      rcases aside.packages f hf with left | adds
      · exact Workspace.mentions_of_filesIn_eq (same f hf left) mentions
      · have ⟨olds, read, _⟩ := mentions
        obtain ⟨ours, news, read', structs, others⟩ := adds.exists_news first (there f hf) read
        exact Workspace.mentions_of_addsStructs read read' structs others mentions
  intro f hf
  have below : ∀ other, (Workspace.mk site.tree r.context).Mentions f.dir other →
      (Workspace.mk site.tree r.context).ComesUp found other :=
    fun other mentions => ⟨f, hf, other, mentions, .refl⟩
  rcases aside.packages f hf with left | adds
  · exact Workspace.checksAlike_of_filesIn_eq sameFor (same f hf left) below
  · cases read : (Workspace.mk site.tree r.context).filesIn f.dir with
    | error cause => exact Workspace.checksAlike_of_error read
    | ok olds =>
      obtain ⟨ours, news, read', structs, others⟩ := adds.exists_news first (there f hf) read
      exact Workspace.checksAlike_of_addsStructs sameFor read read' structs others below
        adds.unasked

/-- A run that writes structures into packages that it reads, and leaves aside all else that it
reads, would find the same once more. -/
theorem finds_of_addsAside (source : r.checker = r.context.checker)
    (first : r.generate.run.run site = (.ok (.generated files), after))
    (resolved : resolveAll site.tree r.context r.options.specifiers = .ok found)
    (aside : r.AddsAside site.tree after.tree found files) :
    r.finds after.tree = r.finds site.tree := by
  obtain ⟨made, written, prepared, kept, -, -⟩ := exists_wrote_of_generate first
  obtain ⟨-, -, wanted, -, -, finds, -⟩ := exists_of_run_generate first
  refine finds_of_interfaces ?_ (output_of_looksAside first aside.toLooksAside)
    (hasOutputDir_of_rewritten prepared kept) prepared
  have again := (resolveAll_of_looksAside first aside.toLooksAside).trans resolved
  unfold Request.finds Request.interfaces packages at finds
  unfold Request.interfaces packages
  rw [resolved] at finds ⊢
  rw [again]
  rw [source] at finds ⊢
  rcases ran : (extract (r.context.checker site.tree) found).run.run .empty with ⟨cause | all, last⟩
  · simp only [ran] at finds
    cases finds
  · have idle : KnowsAlike ((Workspace.mk site.tree r.context).ComesUp found) [] .empty .empty :=
      ⟨rfl, rfl, fun _ _ => rfl, fun _ _ => rfl⟩
    obtain ⟨last', ranToo⟩ := Workspace.run_extractInto_of_checksAlike
      (checksAlike_of_addsAside first resolved aside) .empty idle ran
    have ranToo : (extract (r.context.checker after.tree) found).run.run .empty
        = (.ok all, last') := ranToo
    simp only [ran, ranToo]

/-- The lines of a wrapper in the package of its interface. -/
def inletLines : List String :=
  (outletLines "a").take 7 ++ Emitter.wrapperLines "SWrapper" "S"

/-- The file that consists of these lines, as it is read. -/
def inletFile : SourceFile :=
  let text := inletLines.flatMap fun line => line.toList ++ ['\n']
  let content := Source.File.ofTokens (Source.tokens text)
  ⟨⟨"/src/a/S.go"⟩, text, content, FileScope.ofImports content.imports⟩

/-- The site after the wrapper has been written into the package. -/
def inletAfter : Site :=
  { outletSite with
    tree := outletSite.tree.put ["src", "a", "S.go"]
      (.file (.text (textOfLines inletLines)) fileMode) }

/-- Two source files stand in the package then. -/
theorem filesIn_inlet :
    (Workspace.mk inletAfter.tree (outlet ⟨"/src/a/S.go"⟩).context).filesIn ⟨"/src/a"⟩
      = .ok [inletFile,
          SourceFile.ofText ⟨"/src/a/a.go"⟩ "package a\ntype S interface\x7b\x7d\n"] := by
  have found : inletAfter.tree.find ⟨"/src/a"⟩ = .ok (["src", "a"], .directory directoryMode) := by
    decide +kernel
  have names : inletAfter.tree.entries.filterMap (fileNameIn? ["src", "a"]) = ["S.go", "a.go"] := by
    decide +kernel
  have sources : sourceFiles inletAfter.tree ⟨"/src/a"⟩ (outlet ⟨"/src/a/S.go"⟩).context.platform
      = .ok [⟨"/src/a/S.go"⟩, ⟨"/src/a/a.go"⟩] := by
    rw [sourceFiles, fileNames, found]
    dsimp only
    rw [names, List.mergeSort_of_pairwise (by decide)]
    decide +kernel
  have text : inletAfter.tree.readText ⟨"/src/a/S.go"⟩ = .ok (textOfLines inletLines) := by
    decide +kernel
  have other : inletAfter.tree.readText ⟨"/src/a/a.go"⟩
      = .ok "package a\ntype S interface\x7b\x7d\n" := by
    decide +kernel
  have file : SourceFile.ofText ⟨"/src/a/S.go"⟩ (textOfLines inletLines) = inletFile := by
    unfold SourceFile.ofText Source.File.ofText inletFile
    rw [toList_textOfLines]
  have complete : inletFile.content.complete = true := by decide +kernel
  have completeToo : (SourceFile.ofText ⟨"/src/a/a.go"⟩
      "package a\ntype S interface\x7b\x7d\n").content.complete = true := by
    decide +kernel
  unfold Workspace.filesIn
  rw [sources]
  dsimp only
  rw [Workspace.readFiles, Workspace.readFiles, Workspace.readFiles, text, other]
  dsimp only
  rw [file, if_pos complete, if_pos completeToo]

/-- The module files that are looked for are not there, and the wrapper is a structure with a name
of its own. -/
theorem addsAside_inlet :
    (outlet ⟨"/src/a/S.go"⟩).AddsAside outletSite.tree inletAfter.tree
      [⟨"a", ⟨"/src/a"⟩, .sourceRoot⟩] [⟨"/src/a/S.go"⟩] := by
  have output : (outlet ⟨"/src/a/S.go"⟩).outputDir? = some ⟨"/src/a"⟩ := by decide +kernel
  refine ⟨looksAside_outlet output (by decide +kernel) (by decide +kernel), fun f hf => ?_⟩
  obtain rfl := List.mem_singleton.1 hf
  refine .inr ⟨not_comesUp_outlet, by decide +kernel, ?_, ?_⟩
  · rw [filesIn_inlet]
    rfl
  · rw [filesIn_inlet]
    decide +kernel

/-- A wrapper that is written into the package of its interface makes no difference to what is found
there. -/
theorem finds_inlet :
    (outlet ⟨"/src/a/S.go"⟩).generate.run.run outletSite
        = (.ok (.generated [⟨"/src/a/S.go"⟩]), inletAfter)
      ∧ (outlet ⟨"/src/a/S.go"⟩).finds inletAfter.tree
        = (outlet ⟨"/src/a/S.go"⟩).finds outletSite.tree := by
  have given : ((outlet ⟨"/src/a/S.go"⟩).emitter
      ⟨.file ⟨"/src/a/S.go"⟩, true, "a", none⟩).fileText 0 [⟨"S", "", []⟩]
      = .ok (textOfLines inletLines) :=
    Emitter.fileText_of_lines (by decide +kernel) (by decide +kernel)
  have parent : (⟨"/src/a/S.go"⟩ : Path).parent? = some ⟨"/src/a"⟩ := by decide +kernel
  have first : (outlet ⟨"/src/a/S.go"⟩).generate.run.run outletSite
      = (.ok (.generated [⟨"/src/a/S.go"⟩]), inletAfter) :=
    generate_of_emit rfl (by decide +kernel) (by decide +kernel)
      (show (outlet ⟨"/src/a/S.go"⟩).withOutputDir outletSite.tree = .ok outletSite.tree by
        decide +kernel)
      (Emitter.run_emit_free rfl rfl (by decide +kernel) given parent (by decide +kernel)
        (by decide +kernel))
  exact ⟨first, finds_of_addsAside rfl first (by decide +kernel) addsAside_inlet⟩

end Request

end WrapperGen
