import Mathlib.Control.Monad.Basic
import WrapperGen.Proofs.ImportHeight

/-!
# What sessions remember makes no difference

A session may hold packages, names of packages, and the packages that are being loaded.  Where
no directory comes to import itself, every answer is the same as in a new session.  For that a
verdict is defined without any session: it starts all over again for every import.  A session is
right if it holds nothing but verdicts on what is asked for, and every step of a check, be it one
that fails, keeps it right.  What nobody asks for it may hold as it likes.

## Main definitions

* `Workspace.verdict`: what loading a package comes to, without a session.
* `Workspace.Coherent`: a session holds nothing but verdicts on what is asked for.
* `Workspace.answers`, `Workspace.sessionAfter`: what is answered to requests, one after the other
  in one session, and that session in the end.

## Main results

* `Workspace.verdict_eq`: the bound on a verdict makes no difference.
* `Workspace.agrees_packageName?`, `Workspace.agrees_loadPackage`, `Workspace.agrees_checkPackage`:
  the steps.
* `Workspace.answers_eq`: each answer is that of a new session.
-/

namespace WrapperGen
namespace Workspace

variable {w : Workspace} {asked : String → Prop} {loading : List String} {importPath : String}

/-! ### Verdicts -/

/-- What loading the package of an import path comes to, without a session. -/
def verdict (w : Workspace) : Nat → String → Except CheckError CheckedPackage
  | 0, importPath => .error (.importCycle importPath)
  | n + 1, importPath =>
      ((w.checkImport ⟨fun other => liftM (w.verdict n other), fun other => pure (w.clause? other)⟩
        importPath).run.run .empty).1

/-- The other packages, as they are without a session. -/
def judge (w : Workspace) (n : Nat) : Importer :=
  ⟨fun other => liftM (w.verdict n other), fun other => pure (w.clause? other)⟩

/-- The name that all files of a directory have is the one in the first of them. -/
theorem clauseIn?_of_commonName {dir : Path} {files : List SourceFile} {name : String}
    (read : w.filesIn dir = .ok files) (common : commonName dir files = .ok name) :
    w.clauseIn? dir = some name := by
  unfold clauseIn?
  unfold filesIn at read
  cases found : sourceFiles w.tree dir w.context.platform with
  | error cause =>
    rw [found] at read
    cases read
  | ok paths =>
    rw [found] at read
    cases paths with
    | nil => cases read
    | cons first rest =>
      -- both answers are read off the first file
      dsimp only at read ⊢
      obtain ⟨text, more, there, -, -, rfl⟩ := readFiles_cons read
      rw [there]
      exact (commonName_eq_ok_iff.1 common).2 _ List.mem_cons_self

theorem clause?_of_commonName {dir : Path} {files : List SourceFile} {name : String}
    (located : w.locate importPath = .ok dir) (read : w.filesIn dir = .ok files)
    (common : commonName dir files = .ok name) : w.clause? importPath = some name := by
  rw [clause?, located]
  exact clauseIn?_of_commonName read common

/-- Importers that agree with the verdicts on what a package needs come to its verdict. -/
theorem agrees_checkImport {known : Session → Prop} (one : ∃ start, known start)
    {importer : Importer} {n : Nat} (h : ∀ other, w.Needs importPath other →
      Agrees known (importer.load other) (liftM (w.verdict n other))
        ∧ Agrees known (importer.name? other) (pure (w.clause? other))) :
    AgreesOn known (fun package => w.clause? importPath = some package.name)
      (w.checkImport importer importPath) (w.checkImport (w.judge n) importPath) := by
  unfold checkImport
  refine (AgreesOn.lift _ fun dir located => located).bind fun dir located => ?_
  refine (agrees_checkDirectory one importPath fun other mentions => ?_).mono ?_
  · exact h other ⟨dir, located, mentions⟩
  rintro package ⟨files, read, common⟩
  exact clause?_of_commonName located read common

theorem agrees_judge {known : Session → Prop} (n : Nat) (other : String) :
    Agrees known ((w.judge n).load other) (liftM (w.verdict n other))
      ∧ Agrees known ((w.judge n).name? other) (pure (w.clause? other)) :=
  ⟨AgreesOn.lift _ fun _ _ => trivial, AgreesOn.pure trivial⟩

/-- As long as the bound is not felt, it makes no difference. -/
theorem verdict_eq {n m : Nat} (hn : w.Within n importPath) (hm : w.Within m importPath) :
    w.verdict n importPath = w.verdict m importPath := by
  induction n generalizing m importPath with
  | zero => exact hn.elim
  | succ n ih =>
    cases m with
    | zero => exact hm.elim
    | succ m =>
      -- no session is used here, so all of them are right
      have same : Agrees (fun _ => True) (w.checkImport (w.judge n) importPath)
          (w.checkImport (w.judge m) importPath) := by
        refine (agrees_checkImport ⟨.empty, trivial⟩ fun other needs => ?_).mono fun _ _ => trivial
        rw [← ih (hn other needs) (hm other needs)]
        exact agrees_judge n other
      exact same.run_eq trivial

theorem clause?_of_verdict {n : Nat} {package : CheckedPackage}
    (h : w.verdict n importPath = .ok package) : w.clause? importPath = some package.name := by
  cases n with
  | zero => cases h
  | succ n =>
    have self : AgreesOn (fun _ => True) (fun package => w.clause? importPath = some package.name)
        (w.checkImport (w.judge n) importPath) (w.checkImport (w.judge n) importPath) :=
      agrees_checkImport ⟨.empty, trivial⟩ fun other _ => agrees_judge n other
    exact self.good_of_run h

/-! ### Sessions that are right -/

/-- Of the import paths that are asked for, a session holds nothing but verdicts; and the given
packages are being loaded. -/
structure Coherent (w : Workspace) (asked : String → Prop) (loading : List String) (s : Session) :
    Prop where
  /-- The packages are verdicts. -/
  packages : ∀ importPath package, asked importPath → s.package? importPath = some package →
    ∃ n, w.Within n importPath ∧ w.verdict n importPath = .ok package
  /-- The names are those in the files. -/
  names : ∀ importPath name?, s.names.lookup importPath = some name? →
    name? = w.clause? importPath
  /-- The packages that are being loaded. -/
  loading : s.loading = loading

/-- A session that has learnt nothing is right, whatever is being loaded. -/
theorem coherent_start (loading : List String) : w.Coherent asked loading ⟨[], [], loading⟩ := by
  refine ⟨fun importPath package _ h => ?_, fun importPath name? h => ?_, rfl⟩
  · cases h
  · cases h

theorem coherent_empty : w.Coherent asked [] .empty := coherent_start []

theorem Coherent.learnPackage {s : Session} {package : CheckedPackage}
    (h : w.Coherent asked loading s) (judged : asked importPath →
      ∃ n, w.Within n importPath ∧ w.verdict n importPath = .ok package) :
    w.Coherent asked loading (s.learnPackage importPath package) := by
  refine ⟨fun other found ha hf => ?_, h.names, h.loading⟩
  by_cases same : other = importPath
  · rw [same, Session.package?_learnPackage_self] at hf
    obtain rfl := Option.some.inj hf
    rw [same] at ha ⊢
    exact judged ha
  · rw [Session.package?_learnPackage_of_ne s package same] at hf
    exact h.packages other found ha hf

theorem Coherent.learnName {s : Session} (h : w.Coherent asked loading s) :
    w.Coherent asked loading (s.learnName importPath (w.clause? importPath)) := by
  refine ⟨h.packages, fun other name? hn => ?_, h.loading⟩
  unfold Session.learnName at hn
  by_cases same : other = importPath
  · rw [same] at hn ⊢
    rw [List.lookup_cons_self] at hn
    exact (Option.some.inj hn).symm
  · have differ : (other == importPath) = false := by simpa using same
    rw [List.lookup_cons, differ] at hn
    exact h.names other name? hn

theorem Coherent.enter {s : Session} (h : w.Coherent asked loading s) :
    w.Coherent asked (importPath :: loading) (s.enter importPath) := by
  refine ⟨h.packages, h.names, ?_⟩
  rw [Session.enter, h.loading]

theorem Coherent.leave {s : Session} (h : w.Coherent asked (importPath :: loading) s) :
    w.Coherent asked loading (s.leave importPath) := by
  refine ⟨h.packages, h.names, ?_⟩
  show s.loading.erase importPath = loading
  rw [h.loading, List.erase_cons_head]

/-! ### Steps -/

theorem run_packageName? (s : Session) : (w.packageName? importPath).run.run s
    = match s.package? importPath with
      | some package => (.ok (some package.name), s)
      | none => match s.names.lookup importPath with
        | some name? => (.ok name?, s)
        | none => (.ok (w.clause? importPath), s.learnName importPath (w.clause? importPath)) := by
  have asked : (w.packageName? importPath).run.run s = (match s.package? importPath with
      | some package => pure (some package.name)
      | none => match s.names.lookup importPath with
        | some name? => pure name?
        | none => do
            modify fun session => session.learnName importPath (w.clause? importPath)
            pure (w.clause? importPath) : Check (Option String)).run.run s := rfl
  rw [asked]
  cases s.package? importPath with
  | some package => rfl
  | none =>
    cases s.names.lookup importPath with
    | some name? => rfl
    | none => rfl

theorem agrees_packageName? (ha : asked importPath) :
    Agrees (w.Coherent asked loading) (w.packageName? importPath)
      (pure (w.clause? importPath)) := by
  refine ⟨.ok (w.clause? importPath), fun s hs => ?_, fun s => rfl, fun _ _ => trivial⟩
  rw [run_packageName?]
  cases held : s.package? importPath with
  | some package =>
    -- the package has been checked, and its name is the one in its first file
    obtain ⟨n, within, verdict⟩ := hs.packages importPath package ha held
    rw [clause?_of_verdict verdict]
    exact ⟨rfl, hs⟩
  | none =>
    cases read : s.names.lookup importPath with
    | some name? =>
      rw [← hs.names importPath name? read]
      exact ⟨rfl, hs⟩
    | none => exact ⟨rfl, hs.learnName⟩

theorem agrees_whileLoading {α : Type} {good : α → Prop} {m plain : Check α}
    (h : AgreesOn (w.Coherent asked (importPath :: loading)) good m plain) :
    AgreesOn (w.Coherent asked loading) good (Check.whileLoading importPath m) plain := by
  obtain ⟨result, steady, free, ends⟩ := h
  refine ⟨result, fun s hs => ?_, free, ends⟩
  obtain ⟨came, right⟩ := steady (s.enter importPath) hs.enter
  rw [Check.run_whileLoading]
  exact ⟨came, right.leave⟩

theorem agrees_learning {good : CheckedPackage → Prop} {m plain : Check CheckedPackage}
    (h : AgreesOn (w.Coherent asked loading) good m plain)
    (judged : ∀ package, (plain.run.run .empty).1 = .ok package → asked importPath →
      ∃ n, w.Within n importPath ∧ w.verdict n importPath = .ok package) :
    Agrees (w.Coherent asked loading) (Check.learning importPath m) plain := by
  unfold Check.learning
  refine h.came.andThen fun package came => ?_
  exact ⟨.ok package, fun s hs => ⟨rfl, hs.learnPackage (judged package came)⟩, fun s => rfl,
    fun _ _ => trivial⟩

theorem run_loadPackage_zero (s : Session) :
    (w.loadPackage 0 importPath).run.run s = match s.package? importPath with
      | some package => (.ok package, s)
      | none => (.error (.importCycle importPath), s) := by
  have asked : (w.loadPackage 0 importPath).run.run s = (match s.package? importPath with
      | some package => pure package
      | none => throw (.importCycle importPath) : Check CheckedPackage).run.run s := by
    rw [loadPackage]
    rfl
  rw [asked]
  cases s.package? importPath with
  | some package => rfl
  | none => rfl

theorem run_loadPackage (depth : Nat) (s : Session) :
    (w.loadPackage (depth + 1) importPath).run.run s = match s.package? importPath with
      | some package => (.ok package, s)
      | none =>
          if s.loading.contains importPath then (.error (.importCycle importPath), s)
          else (Check.learning importPath (Check.whileLoading importPath
            (w.checkImport ⟨w.loadPackage depth, w.packageName?⟩ importPath))).run.run s := by
  have asked : (w.loadPackage (depth + 1) importPath).run.run s = (match s.package? importPath with
      | some package => pure package
      | none =>
          if s.loading.contains importPath then throw (.importCycle importPath)
          else Check.learning importPath (Check.whileLoading importPath
            (w.checkImport ⟨w.loadPackage depth, w.packageName?⟩ importPath))
      : Check CheckedPackage).run.run s := by
    rw [loadPackage]
    rfl
  rw [asked]
  cases s.package? importPath with
  | some package => rfl
  | none =>
    dsimp only
    by_cases cycle : s.loading.contains importPath = true
    · rw [if_pos cycle, if_pos cycle]
      rfl
    · rw [if_neg cycle, if_neg cycle]

/-- Loading a package comes to its verdict, whatever has been loaded before, and whatever is being
loaded that does not come up in it. -/
theorem agrees_loadPackage (grounded : w.Grounded asked) {n depth : Nat} (ha : asked importPath)
    (within : w.Within n importPath) (enough : n ≤ depth)
    (apart : ∀ other ∈ loading, ¬ Relation.ReflTransGen w.Needs importPath other) :
    Agrees (w.Coherent asked loading) (w.loadPackage depth importPath)
      (liftM (w.verdict n importPath)) := by
  induction depth generalizing n importPath loading with
  | zero =>
    obtain rfl : n = 0 := by omega
    exact within.elim
  | succ depth ih =>
    cases n with
    | zero => exact within.elim
    | succ n =>
      have entered : AgreesOn (w.Coherent asked (importPath :: loading))
          (fun package => w.clause? importPath = some package.name)
          (w.checkImport ⟨w.loadPackage depth, w.packageName?⟩ importPath)
          (w.checkImport (w.judge n) importPath) := by
        refine agrees_checkImport ⟨_, coherent_start _⟩ fun other needs => ?_
        have below : asked other := grounded.closed ha needs
        refine ⟨?_, agrees_packageName? below⟩
        refine ih below (within other needs) (by omega) fun above mem chain => ?_
        rcases List.mem_cons.1 mem with rfl | mem
        · exact grounded.not_needs_back ha needs chain
        · exact apart above mem (.head needs chain)
      have learnt : Agrees (w.Coherent asked loading)
          (Check.learning importPath (Check.whileLoading importPath
            (w.checkImport ⟨w.loadPackage depth, w.packageName?⟩ importPath)))
          (liftM (w.verdict (n + 1) importPath)) := by
        refine agrees_learning (agrees_whileLoading entered.answer) fun package came _ => ?_
        rw [run_liftM] at came
        exact ⟨n + 1, within, came⟩
      -- what the session holds of this package is its verdict; if it holds none, the package is not
      -- being loaded, since it does not need itself
      refine learnt.replace fun s hs => ?_
      rw [run_loadPackage]
      cases held : s.package? importPath with
      | some package =>
        obtain ⟨m, bound, verdict⟩ := hs.packages importPath package ha held
        rw [verdict_eq bound within] at verdict
        rw [verdict]
        exact ⟨rfl, hs⟩
      | none =>
        have new : ¬ s.loading.contains importPath = true := by
          rw [hs.loading, List.contains_iff_mem]
          exact fun mem => apart importPath mem .refl
        dsimp only
        rw [if_neg new]
        exact ⟨learnt.run_eq hs, learnt.known_run hs⟩

theorem checkImport_of_located {importer : Importer} {dir : Path}
    (located : w.locate importPath = .ok dir) :
    w.checkImport importer importPath = w.checkDirectory importer dir importPath := by
  unfold checkImport
  rw [located]
  rfl

/-- The package in a directory comes to the same whatever has been asked before.  All that its files
need has to be among what is asked for; and so may be its own import path, if that leads there. -/
theorem agrees_checkPackage (grounded : w.Grounded asked) {dir : Path}
    (below : ∀ other, w.Mentions dir other → asked other)
    (located : asked importPath → w.locate importPath = .ok dir) :
    Agrees (w.Coherent asked []) (w.checkPackage dir importPath)
      (w.checkDirectory (w.judge w.importBound) dir importPath) := by
  have checked : AgreesOn (w.Coherent asked [])
      (fun package => ∃ files, w.filesIn dir = .ok files
        ∧ commonName dir files = .ok package.name)
      (w.checkDirectory w.importer dir importPath)
      (w.checkDirectory (w.judge w.importBound) dir importPath) := by
    refine agrees_checkDirectory ⟨_, coherent_empty⟩ importPath fun other mentions => ?_
    have ha : asked other := below other mentions
    refine ⟨?_, agrees_packageName? ha⟩
    have within := within_of_mentions grounded ha mentions
    refine agrees_loadPackage grounded ha within (Nat.le_refl _) fun above mem => ?_
    cases mem
  unfold checkPackage
  refine agrees_learning checked fun package came ha => ?_
  refine ⟨w.importBound + 1, within_importBound grounded ha, ?_⟩
  rw [← checkImport_of_located (located ha)] at came
  exact came

/-! ### Requests -/

/-- What is answered to requests, each for a directory under an import path, one after the other
in one session. -/
def answers (w : Workspace) : List (Path × String) → Session →
    List (Except CheckError CheckedPackage)
  | [], _ => []
  | (dir, importPath) :: rest, s =>
      let (answer, last) := (w.checkPackage dir importPath).run.run s
      answer :: w.answers rest last

theorem answers_of_coherent (grounded : w.Grounded asked) {requests : List (Path × String)}
    (below : ∀ request ∈ requests, ∀ other, w.Mentions request.1 other → asked other)
    (located : ∀ request ∈ requests, asked request.2 → w.locate request.2 = .ok request.1)
    {s : Session} (right : w.Coherent asked [] s) :
    w.answers requests s
      = requests.map fun request => ((w.checkPackage request.1 request.2).run.run .empty).1 := by
  induction requests generalizing s with
  | nil => rfl
  | cons request rest ih =>
    have agrees := agrees_checkPackage grounded (below request List.mem_cons_self)
      (located request List.mem_cons_self)
    have same := (agrees.run_eq right).trans (agrees.run_eq coherent_empty).symm
    have onward := ih (fun other ho => below other (List.mem_cons_of_mem request ho))
      (fun other ho => located other (List.mem_cons_of_mem request ho)) (agrees.known_run right)
    have first : w.answers (request :: rest) s
        = ((w.checkPackage request.1 request.2).run.run s).1
          :: w.answers rest ((w.checkPackage request.1 request.2).run.run s).2 := rfl
    rw [first, List.map_cons, same, onward]

/-- Where no directory comes to import itself, every answer is the one that a new session gives,
whatever has been asked before, and whether or not that failed. -/
theorem answers_eq (acyclic : w.Acyclic) {requests : List (Path × String)}
    (located : ∀ request ∈ requests, w.locate request.2 = .ok request.1) :
    w.answers requests .empty
      = requests.map fun request => ((w.checkPackage request.1 request.2).run.run .empty).1 :=
  answers_of_coherent acyclic.grounded (fun _ _ _ _ => trivial)
    (fun request hr _ => located request hr) coherent_empty

/-! ### An example -/

/-- The file of a package that imports nothing. -/
def readerText : String := "package reader\ntype Mode int\n"

/-- The file of a package that imports it. -/
def storeText : String := "package store\nimport \"reader\"\ntype Mode reader.Mode\n"

/-- The file of a package that imports it and asks for what it does not have. -/
def wrongText : String := "package wrong\nimport \"reader\"\ntype Mode reader.Kind\n"

/-- Three packages, two of which import the third.  One of these two is wrong. -/
def sample : Workspace where
  tree :=
    ⟨[(["src"], .directory directoryMode),
      (["src", "reader"], .directory directoryMode),
      (["src", "reader", "reader.go"], .file (.text readerText) fileMode),
      (["src", "store"], .directory directoryMode),
      (["src", "store", "store.go"], .file (.text storeText) fileMode),
      (["src", "wrong"], .directory directoryMode),
      (["src", "wrong", "wrong.go"], .file (.text wrongText) fileMode)]⟩
  context := ⟨⟨"/work"⟩, ⟨"/"⟩, none, hostPlatform⟩

/-- Requests for these two, the wrong one first. -/
def sampleRequests : List (Path × String) :=
  [(⟨"/src/wrong"⟩, "wrong"), (⟨"/src/store"⟩, "store")]

theorem imports_sample {dir other : Path} (h : sample.Imports dir other) :
    other = ⟨"/src/reader"⟩ ∧ dir ≠ ⟨"/src/reader"⟩ := by
  obtain ⟨importPath, mentions, located⟩ := h
  constructor
  · obtain ⟨text, ⟨place, mode, held⟩, mem⟩ := exists_text_of_mentions mentions
    have texts : text ∈ [readerText, storeText, wrongText] := by
      simp only [sample, List.mem_cons, Prod.mk.injEq, Entry.file.injEq, Content.text.injEq,
        reduceCtorEq, and_false, false_or, List.not_mem_nil, or_false] at held
      rcases held with ⟨-, rfl, -⟩ | ⟨-, rfl, -⟩ | ⟨-, rfl, -⟩ <;> simp
    have paths : ∀ text ∈ [readerText, storeText, wrongText], ∀ path ∈ pathsIn text,
        path = "reader" := by decide +kernel
    rw [paths text texts importPath mem] at located
    have reader : sample.locate "reader" = .ok ⟨"/src/reader"⟩ := by decide +kernel
    rw [reader] at located
    exact (Except.ok.inj located).symm
  · rintro rfl
    exact not_mentions_of_paths (by decide +kernel) importPath mentions

theorem acyclic_sample : sample.Acyclic := by
  intro dir cycle
  obtain ⟨next, first, -⟩ := Relation.TransGen.head'_iff.1 cycle
  obtain ⟨before, -, last⟩ := Relation.TransGen.tail'_iff.1 cycle
  exact (imports_sample first).2 (imports_sample last).1

/-- The failure of the first request makes no difference for the second, which finds the package
that both import in the session. -/
theorem answers_eq_sample :
    (∀ request ∈ sampleRequests, sample.locate request.2 = .ok request.1)
    ∧ (sample.answers sampleRequests .empty).head?.map Except.isOk = some false
    ∧ sample.answers sampleRequests .empty
      = sampleRequests.map fun request =>
          ((sample.checkPackage request.1 request.2).run.run .empty).1 := by
  have located : ∀ request ∈ sampleRequests, sample.locate request.2 = .ok request.1 := by
    decide +kernel
  exact ⟨located, by decide +kernel, answers_eq acyclic_sample located⟩

end Workspace
end WrapperGen
