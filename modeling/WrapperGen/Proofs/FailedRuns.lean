import WrapperGen.Proofs.EarlyFailure
import WrapperGen.Proofs.Preservation

/-!
# What a failed run leaves behind

A run looks for all that it needs before it changes anything, and its emitter looks for all that may
be wrong with the code before it writes any.  In between, the run makes the output directory.  So a
run that fails before anything is written leaves no trace, but for an output directory that was not
there and is of no use then.

## Main definitions

* `GenerateError.isEarly`: the failures that come before anything is written.
* `Request.withOutputDir`: the files after making sure of the output directory.
* `Request.HasOutputDir`: the output directory is there before the run.
* `Request.Leaves`, `Request.LeavesEarly`: what a failure leaves behind, if it is early.

## Main results

* `Request.leaves_list`, `Request.triple_prepare`, `Request.leaves_emitInterfaces`: the parts of a
  run.
* `Request.generate_early`: a run that fails early leaves no trace, exactly if the output directory
  was there or emitting has not begun.
-/

namespace WrapperGen

/-- The failures of options that do not come from the files. -/
def OptionError.isEarly : OptionError → Bool
  | .noOutputDir .. => false
  | .twoOutputs | .noPackageName | .badPackageName _ | .badPrefix _ | .noSuchInterface _ => true

/-- The failures that come before anything is written. -/
def GenerateError.isEarly : GenerateError → Bool
  | .options cause => cause.isEarly
  | .notFound _ | .package _ => true
  | .emit cause => cause.isEarly
  | .streamClosed => false

namespace Request

variable {r : Request} {settings : EmitSettings} {site : Site} {cause : GenerateError}

/-- The directory that a run writes into. -/
def outputDir? (r : Request) : Option Path :=
  match r.options.settings r.context.cwd with
  | .ok settings => settings.outputDir?
  | .error _ => none

/-- The files after making sure of the output directory, if the run has one. -/
def withOutputDir (r : Request) (tree : FileTree) : Except FileError FileTree :=
  match r.outputDir? with
  | none => .ok tree
  | some dir => tree.ensureDirectory dir

/-- The output directory of a run is there, if the run has one; the empty path asks for none. -/
def HasOutputDir (r : Request) (tree : FileTree) : Prop :=
  ∀ dir, r.outputDir? = some dir → tree.isDirectory dir = true ∨ dir.text = ""

theorem withOutputDir_eq_self_iff {tree made : FileTree} (h : r.withOutputDir tree = .ok made) :
    made = tree ↔ r.HasOutputDir tree := by
  unfold withOutputDir at h
  unfold HasOutputDir
  cases output : r.outputDir? with
  | none =>
    rw [output] at h
    refine iff_of_true (Except.ok.inj h).symm fun dir e => ?_
    cases e
  | some dir =>
    rw [output] at h
    rw [FileTree.ensureDirectory_eq_self_iff h]
    constructor
    · intro there other e
      obtain rfl := Option.some.inj e
      exact there
    · intro all
      exact all dir rfl

/-- What a failure leaves behind: nothing is printed, and the files are as they were, or, once
emitting has begun, as making the output directory has left them. -/
structure Leaves (r : Request) (site : Site) (cause : GenerateError) (last : Site) : Prop where
  /-- Nothing is printed. -/
  printed : last.printed = site.printed
  /-- The output stream is as it was. -/
  printable : last.printable = site.printable
  /-- Before emitting, the files are as they were. -/
  ahead : (∀ reason, cause ≠ .emit reason) → last.tree = site.tree
  /-- From then on the output directory is there. -/
  made : ∀ reason, cause = .emit reason → r.withOutputDir site.tree = .ok last.tree

/-- What an early failure leaves behind. -/
def LeavesEarly (r : Request) (site : Site) (cause : GenerateError) (last : Site) : Prop :=
  cause.isEarly = true → r.Leaves site cause last

/-! ### Failures ahead of emitting -/

theorem leaves_self (other : ∀ reason, cause ≠ .emit reason) : r.Leaves site cause site :=
  ⟨rfl, rfl, fun _ => rfl, fun reason e => absurd e (other reason)⟩

theorem leavesEarly_of_eq {last : Site} (other : ∀ reason, cause ≠ .emit reason)
    (same : last = site) : r.LeavesEarly site cause last := by
  intro _
  rw [same]
  exact leaves_self other

theorem leavesEarly_of_late {last : Site} (late : cause.isEarly = false) :
    r.LeavesEarly site cause last := by
  intro early
  rw [late] at early
  cases early

/-- Finding interfaces has no failures of emitting. -/
theorem ne_emit_of_interfaces {tree : FileTree} (h : r.interfaces tree = .error cause)
    (reason : EmitError) : cause ≠ .emit reason := by
  rintro rfl
  unfold interfaces at h
  cases found : r.packages tree with
  | ok packages =>
    rw [found] at h
    cases h
  | error other =>
    rw [found] at h
    have same : other = .emit reason := Except.error.inj h
    unfold packages at found
    split at found
    · cases same ▸ Except.error.inj found
    · split at found
      · cases same ▸ Except.error.inj found
      · cases found

theorem late_printNames (names : List String) :
    Run.Triple (fun _ => True) (printNames names) (fun _ _ => True)
      fun cause _ => cause.isEarly = false := by
  induction names with
  | nil => exact Run.Triple.pure fun _ _ => trivial
  | cons name rest ih =>
    have print : Run.Triple (fun _ => True) (Run.print GenerateError.streamClosed (name ++ "\n"))
        (fun _ _ => True) fun cause _ => cause.isEarly = false :=
      Run.Triple.print (fun _ _ => trivial) fun _ _ => rfl
    exact print.bind fun _ => ih

/-- To list names changes nothing before the first name is printed. -/
theorem leaves_list : Run.Triple (· = site) r.list (fun _ _ => True) (r.LeavesEarly site) := by
  unfold list
  refine Run.Triple.get_keep.bind fun found => ?_
  refine (Run.Triple.lift_keep fun cause h last hs => ?_).bind fun interfaces => ?_
  · exact leavesEarly_of_eq (ne_emit_of_interfaces h) hs.2
  · have print : Run.Triple
        (fun last => r.interfaces found.tree = .ok interfaces ∧ found = last ∧ last = site)
        (printNames (interfaces.map Interface.name)) (fun _ _ => True) (r.LeavesEarly site) :=
      (late_printNames _).mono (fun _ _ => trivial) (fun _ _ h => h)
        fun _ _ late => leavesEarly_of_late late
    exact print.bind fun _ => Run.Triple.pure fun _ h => h

/-! ### The output directory -/

/-- Making sure of the output directory changes nothing else. -/
theorem triple_prepare (checked : r.options.settings r.context.cwd = .ok settings)
    (interfaces : List Interface) :
    Run.Triple (· = site) (r.prepare settings interfaces)
      (fun _ last => ∃ tree, r.withOutputDir site.tree = .ok tree
        ∧ last = { site with tree := tree })
      (r.LeavesEarly site) := by
  have dir? : r.outputDir? = settings.outputDir? := by
    unfold outputDir?
    rw [checked]
  unfold prepare withOutputDir
  rw [dir?]
  cases settings.outputDir? with
  | none => exact Run.Triple.pure fun last hs => ⟨site.tree, rfl, hs⟩
  | some dir =>
    have make : Run.Triple (· = site)
        (Run.onTree (fun cause => GenerateError.options (.noOutputDir dir cause)) fun tree =>
          tree.ensureDirectory dir)
        (fun _ last => ∃ tree, site.tree.ensureDirectory dir = .ok tree
          ∧ last = { site with tree := tree })
        (r.LeavesEarly site) := by
      refine Run.Triple.onTree (fun made last h hs => ?_) fun _ _ _ _ => leavesEarly_of_late rfl
      subst hs
      exact ⟨made, h, rfl⟩
    refine make.bind fun _ => Run.Triple.get_keep.bind fun found => ?_
    exact Run.Triple.pure fun last hs => hs.2

/-! ### Runs -/

/-- What an early failure of emitting leaves behind is the output directory. -/
theorem leaves_emitInterfaces (checked : r.options.settings r.context.cwd = .ok settings) :
    Run.Triple (· = site) (r.emitInterfaces settings) (fun _ _ => True) (r.LeavesEarly site) := by
  unfold emitInterfaces
  refine Run.Triple.get_keep.bind fun found => ?_
  refine (Run.Triple.lift_keep fun cause h last hs => ?_).bind fun interfaces => ?_
  · exact leavesEarly_of_eq (ne_emit_of_interfaces h) hs.2
  · cases r.options.firstMissing? interfaces with
    | some name =>
      exact Run.Triple.throw fun last hs => leavesEarly_of_eq (fun _ e => by cases e) hs.2.2
    | none =>
      intro start hs
      refine ((triple_prepare checked interfaces).bind fun prepared => ?_) start hs.2.2
      -- an early failure of the emitter ends at the site with the output directory
      rintro between ⟨tree, made, rfl⟩
      have emitted : Run.Triple (· = { site with tree := tree })
          (Run.mapError GenerateError.emit ((r.emitter settings).emit prepared))
          (fun _ _ => True) (r.LeavesEarly site) := by
        refine Run.Triple.mapError ((Emitter.untouched_emit _ _).mono (fun _ h => h)
          (fun _ _ h => h) fun reason last untouched => ?_)
        intro early
        rw [untouched early]
        exact ⟨rfl, rfl, fun other => absurd rfl (other reason), fun _ _ => made⟩
      exact (emitted.bind fun files => Run.Triple.pure fun _ h => h) _ rfl

/-- A run that fails before anything is written prints nothing.  If emitting has begun, it has made
sure of the output directory; and it leaves the files as they were exactly if emitting has not begun
or the output directory was there. -/
theorem generate_early (r : Request) (site : Site) {cause : GenerateError}
    (failed : (r.generate.run.run site).1 = .error cause) (early : cause.isEarly = true) :
    (r.generate.run.run site).2.printed = site.printed
      ∧ (r.generate.run.run site).2.printable = site.printable
      ∧ (∀ reason, cause = .emit reason →
        r.withOutputDir site.tree = .ok (r.generate.run.run site).2.tree)
      ∧ ((r.generate.run.run site).2.tree = site.tree ↔
        ∀ reason, cause = .emit reason → r.HasOutputDir site.tree) := by
  have whole : Run.Triple (· = site) r.generate (fun _ _ => True) (r.LeavesEarly site) := by
    unfold generate
    by_cases listOnly : r.options.listOnly = true
    · rw [if_pos listOnly]
      exact leaves_list
    · rw [if_neg listOnly]
      cases checked : r.options.settings r.context.cwd with
      | error cause =>
        exact Run.Triple.throw fun last hs => leavesEarly_of_eq (fun _ e => by cases e) hs
      | ok settings => exact leaves_emitInterfaces checked
  have left := whole.of_error rfl failed early
  refine ⟨left.printed, left.printable, left.made, ?_⟩
  by_cases begun : ∃ reason, cause = .emit reason
  · obtain ⟨reason, rfl⟩ := begun
    rw [withOutputDir_eq_self_iff (left.made reason rfl)]
    exact ⟨fun there _ _ => there, fun all => all reason rfl⟩
  · have other : ∀ reason, cause ≠ .emit reason := fun reason e => begun ⟨reason, e⟩
    exact iff_of_true (left.ahead other) fun reason e => absurd e (other reason)

/-! ### Two packages with one interface -/

/-- A run for two packages whose interfaces have one name, and so one destination. -/
def twins : Request :=
  { sample with
    options := { sample.options with specifiers := ["a", "b"], dir? := some ⟨"mocks"⟩ } }

/-- The two packages, and a working directory with the output directory or without. -/
def twinsSite (outputs : List (Location × Entry)) : Site where
  tree :=
    ⟨[(["src"], .directory directoryMode), (["src", "a"], .directory directoryMode),
      (["src", "b"], .directory directoryMode), (["work"], .directory directoryMode)] ++ outputs⟩
  printed := []
  printable := true

/-- Why the run fails. -/
def twinsError : EmitError :=
  .collision ⟨"/work/mocks/store.go"⟩ "mocks/store.go" "a.Store" "b.Store"

/-- The site with the output directory. -/
def preparedSite : Site := twinsSite [(["work", "mocks"], .directory directoryMode)]

/-- Where the output directory is there, the run leaves no trace. -/
theorem generate_early_twins :
    (twins.generate.run.run preparedSite).1 = .error (.emit twinsError)
      ∧ (twins.generate.run.run preparedSite).2.printed = preparedSite.printed
      ∧ (twins.generate.run.run preparedSite).2.tree = preparedSite.tree := by
  have failed : (twins.generate.run.run preparedSite).1 = .error (.emit twinsError) := by
    decide +kernel
  have mocks : twins.outputDir? = some ⟨"/work/mocks"⟩ := by decide +kernel
  have there : twins.HasOutputDir preparedSite.tree := by
    intro dir output
    rw [mocks] at output
    obtain rfl := Option.some.inj output
    exact .inl (by decide +kernel)
  obtain ⟨printed, -, -, files⟩ := generate_early twins preparedSite failed rfl
  exact ⟨failed, printed, files.2 fun _ _ => there⟩

/-- Where the output directory is not there, the run leaves it behind. -/
theorem generate_twins_leaves_directory :
    (twins.generate.run.run (twinsSite [])).1 = .error (.emit twinsError)
      ∧ GenerateError.isEarly (.emit twinsError) = true
      ∧ (twins.generate.run.run (twinsSite [])).2.tree ≠ (twinsSite []).tree := by
  refine ⟨by decide +kernel, rfl, fun same => ?_⟩
  have made : (twins.generate.run.run (twinsSite [])).2.tree.isDirectory ⟨"/work/mocks"⟩
      = true := by
    decide +kernel
  rw [same] at made
  exact absurd made (by decide +kernel)

end Request

end WrapperGen
