import WrapperGen.Output.Emission
import WrapperGen.Proofs.RunLogic

/-!
# Rules for emitting

Each way of emitting looks at its destinations, makes its texts, and then writes.  The rules below
follow that order once and for all: what a property of emitting asks for is one condition for each
point where emitting may stop, and one triple for the writing, which knows the answers to the
questions before it.

## Main results

* `Emitter.triple_writeFile`, `Emitter.triple_writeFiles`: writing.
* `Emitter.triple_emitStream`, `Emitter.triple_emitFile`, `Emitter.triple_emitDirectory`: the ways
  of emitting.
* `Emitter.planTexts_cons`, `Emitter.exists_of_planTexts_cons`: the texts for a plan.
* `Emitter.fileText_of_lines`: a text that is given by its lines.
* `Emitter.run_emit_of_writeFiles`: emitting into a directory.
* `Emitter.emitFile_forced`, `Emitter.emitDirectory_forced`: emitting where files may be replaced.
-/

namespace WrapperGen

/-! ### Texts by their lines -/

/-- The text that consists of the given lines. -/
def textOfLines (lines : List String) : String := String.join (lines.map (· ++ "\n"))

theorem toList_textOfLines (lines : List String) :
    (textOfLines lines).toList = lines.flatMap fun line => line.toList ++ ['\n'] := by
  simp [textOfLines, List.flatMap_map]

theorem isWellFormed_textOfLines (lines : List String) :
    Source.isWellFormed (textOfLines lines)
      = (Source.File.ofTokens
        (Source.tokens (lines.flatMap fun line => line.toList ++ ['\n']))).complete := by
  rw [Source.isWellFormed, Source.File.ofText, toList_textOfLines]

namespace Emitter

variable {before : Site → Prop} {after : List Path → Site → Prop}
  {failed : EmitError → Site → Prop}

/-! ### Writing -/

/-- Writing a file makes the directory above it, and then the file. -/
theorem triple_writeFile {between : Site → Prop} {done : Unit → Site → Prop} {path : Path}
    {text : String}
    (missing : path.parent? = none → ∀ site, before site → between site)
    (above : ∀ dir, path.parent? = some dir → Run.Triple before
      (Run.onTree (.write dir) fun tree => tree.ensureDirectory dir) (fun _ => between) failed)
    (file : Run.Triple between (Run.onTree (.write path) fun tree => tree.writeText path text)
      done failed) :
    Run.Triple before (writeFile path text) done failed := by
  unfold writeFile
  cases h : path.parent? with
  | none => exact fun site hs => file site (missing h site hs)
  | some dir => exact (above dir h).bind fun _ => file

/-- What every file keeps, many files keep. -/
theorem triple_writeFiles {files : List (Path × String)}
    (h : ∀ file ∈ files, Run.Triple before (writeFile file.1 file.2) (fun _ => before) failed) :
    Run.Triple before (writeFiles files) (fun _ => before) failed := by
  induction files with
  | nil => exact Run.Triple.pure fun _ hs => hs
  | cons file rest ih =>
    have first := h file List.mem_cons_self
    exact first.bind fun _ => ih fun file hf => h file (List.mem_cons_of_mem _ hf)

/-! ### Emitting -/

variable (e : Emitter) (interfaces : List Interface)

theorem triple_emitStream
    (malformed : ∀ cause, e.fileText 0 interfaces = .error cause → ∀ site, before site →
      failed cause site)
    (closed : ∀ site, before site → failed .streamClosed site)
    (printed : ∀ text, e.fileText 0 interfaces = .ok text → ∀ site, before site →
      after [] { site with printed := site.printed ++ [text] }) :
    Run.Triple before (e.emitStream interfaces) after failed := by
  unfold emitStream
  refine (Run.Triple.lift_keep malformed).bind fun text => ?_
  have print : Run.Triple (fun site => e.fileText 0 interfaces = .ok text ∧ before site)
      (Run.print EmitError.streamClosed text) (fun _ => after []) failed :=
    Run.Triple.print (fun site hs => printed text hs.1 site hs.2) fun site hs => closed site hs.2
  exact print.bind fun _ => Run.Triple.pure fun _ hs => hs

theorem triple_emitFile (path : Path)
    (unseen : ∀ cause site, site.tree.exists? path = .error cause → before site →
      failed (.write path cause) site)
    (taken : e.settings.force = false → ∀ site, site.tree.exists? path = .ok true →
      before site → failed (e.conflict path) site)
    (malformed : ∀ cause, e.fileText 0 interfaces = .error cause → ∀ site, before site →
      failed cause site)
    (write : ∀ text, e.fileText 0 interfaces = .ok text → Run.Triple
      (fun site => before site
        ∧ (e.settings.force = false → site.tree.exists? path = .ok false))
      (writeFile path text) (fun _ => after [path]) failed) :
    Run.Triple before (e.emitFile path interfaces) after failed := by
  unfold emitFile
  have look : Run.Triple before
      (Run.look (EmitError.write path) fun tree => tree.exists? path)
      (fun found site => before site ∧ site.tree.exists? path = .ok found) failed :=
    Run.Triple.look (fun found site h hs => ⟨hs, h⟩) unseen
  refine look.bind fun found => ?_
  -- behind the check the run is the same with force and without
  have rest : Run.Triple
      (fun site => before site
        ∧ (e.settings.force = false → site.tree.exists? path = .ok false))
      (do
        let text ← liftM (e.fileText 0 interfaces)
        writeFile path text
        pure [path] : Run EmitError (List Path)) after failed := by
    refine Run.Triple.bind (Run.Triple.lift_keep fun cause h site hs =>
      malformed cause h site hs.1) fun text => ?_
    intro site hs
    exact ((write text hs.1).bind fun _ => Run.Triple.pure fun _ done => done) site hs.2
  dsimp only
  by_cases stop : (found && !e.settings.force) = true
  · rw [if_pos stop]
    have stop' : found = true ∧ e.settings.force = false := by simpa using stop
    refine Run.Triple.throw_bind ?_
    rintro site ⟨hs, h⟩
    exact taken stop'.2 site (stop'.1 ▸ h) hs
  · rw [if_neg stop]
    refine rest.mono ?_ (fun _ _ hs => hs) fun _ _ hs => hs
    rintro site ⟨hs, h⟩
    refine ⟨hs, fun force => ?_⟩
    have free : found = false := by simpa [force] using stop
    exact free ▸ h

theorem triple_emitDirectory (dir : Path)
    (collision : ∀ cause, plan e.shown (e.destination dir) interfaces = .error cause →
      ∀ site, before site → failed cause site)
    (unseen : ∀ cause site, before site → failed (.write dir cause) site)
    (taken : ∀ path site, before site → failed (e.conflict path) site)
    (malformed : ∀ planned cause, e.planTexts 0 planned = .error cause → ∀ site, before site →
      failed cause site)
    (write : ∀ planned files, plan e.shown (e.destination dir) interfaces = .ok planned →
      e.planTexts 0 planned = .ok files → Run.Triple
        (fun site => before site ∧ (e.settings.force = false →
          site.tree.firstExisting? (planned.map Prod.snd) = .ok none))
        (writeFiles files) (fun _ => after (files.map Prod.fst)) failed) :
    Run.Triple before (e.emitDirectory dir interfaces) after failed := by
  unfold emitDirectory
  refine (Run.Triple.lift_keep collision).bind fun planned => ?_
  have rest : Run.Triple
      (fun site => plan e.shown (e.destination dir) interfaces = .ok planned ∧ before site
        ∧ (e.settings.force = false →
          site.tree.firstExisting? (planned.map Prod.snd) = .ok none))
      (do
        let files ← liftM (e.planTexts 0 planned)
        writeFiles files
        pure (files.map Prod.fst) : Run EmitError (List Path)) after failed := by
    refine Run.Triple.bind (Run.Triple.lift_keep fun cause h site hs =>
      malformed planned cause h site hs.2.1) fun files => ?_
    intro site hs
    exact ((write planned files hs.2.1 hs.1).bind fun _ => Run.Triple.pure fun _ done => done)
      site hs.2.2
  dsimp only
  -- with force the destinations are not looked at
  by_cases force : e.settings.force = false
  · rw [if_pos (by simpa using force)]
    have look : Run.Triple
        (fun site => plan e.shown (e.destination dir) interfaces = .ok planned ∧ before site)
        (Run.look (EmitError.write dir) fun tree =>
          tree.firstExisting? (planned.map Prod.snd))
        (fun found site => site.tree.firstExisting? (planned.map Prod.snd) = .ok found
          ∧ plan e.shown (e.destination dir) interfaces = .ok planned ∧ before site) failed :=
      Run.Triple.look (fun found site h hs => ⟨h, hs⟩) fun cause site _ hs =>
        unseen cause site hs.2
    refine look.bind fun found => ?_
    cases found with
    | some path =>
      exact Run.Triple.throw_bind fun site hs => taken path site hs.2.2
    | none =>
      exact rest.mono (fun site hs => ⟨hs.2.1, hs.2.2, fun _ => hs.1⟩) (fun _ _ hs => hs)
        fun _ _ hs => hs
  · rw [if_neg (by simpa using force)]
    exact rest.mono (fun site hs => ⟨hs.1, hs.2, fun h => absurd h force⟩) (fun _ _ hs => hs)
      fun _ _ hs => hs

/-! ### Texts -/

section

variable {e : Emitter} {look : Nat} {i : Interface} {path : Path} {rest : List (Interface × Path)}

theorem planTexts_cons {text : String} {more : List (Path × String)}
    (first : e.fileText look [i] = .ok text) (behind : e.planTexts (look + 1) rest = .ok more) :
    e.planTexts look ((i, path) :: rest) = .ok ((path, text) :: more) := by
  simp only [planTexts, first, behind]

/-- All texts are made if the first one and those behind it are. -/
theorem exists_of_planTexts_cons {files : List (Path × String)}
    (h : e.planTexts look ((i, path) :: rest) = .ok files) :
    ∃ text more, e.fileText look [i] = .ok text ∧ e.planTexts (look + 1) rest = .ok more
      ∧ files = (path, text) :: more := by
  unfold planTexts at h
  cases first : e.fileText look [i] with
  | error cause =>
    rw [first] at h
    cases h
  | ok text =>
    rw [first] at h
    cases behind : e.planTexts (look + 1) rest with
    | error cause =>
      rw [behind] at h
      cases h
    | ok more =>
      rw [behind] at h
      exact ⟨text, more, rfl, rfl, (Except.ok.inj h).symm⟩

end

/-! ### Wrappers by their lines -/

/-- The lines of a wrapper without methods. -/
def wrapperLines (name type : String) : List String :=
  ["", "type " ++ name ++ " struct \x7b", "\tinner " ++ type, "\x7d", "",
    "func New" ++ name ++ "(inner " ++ type ++ ") *" ++ name ++ " \x7b",
    "\treturn &" ++ name ++ "\x7binner: inner\x7d", "\x7d"]

/-- The text of a file is the one of the given lines if these are well formed. -/
theorem fileText_of_lines {e : Emitter} {look : Nat} {interfaces : List Interface}
    {lines : List String} (text : (e.draft look interfaces).assemble = textOfLines lines)
    (wellFormed :
      (Source.File.ofTokens
        (Source.tokens (lines.flatMap fun line => line.toList ++ ['\n']))).complete = true) :
    e.fileText look interfaces = .ok (textOfLines lines) := by
  rw [fileText, Draft.text?, text, isWellFormed_textOfLines, if_pos wellFormed]

/-! ### Directories -/

/-- Emitting into a directory where files may be replaced, or where no planned file is there,
succeeds with all planned files that can be written. -/
theorem run_emit_of_writeFiles {e : Emitter} {interfaces : List Interface} {dir : Path}
    {planned : List (Interface × Path)} {files : List (Path × String)} {site : Site}
    (target : e.settings.target = .directory dir)
    (made : plan e.shown (e.destination dir) interfaces = .ok planned)
    (free : e.settings.force = true ∨ site.tree.firstExisting? (planned.map Prod.snd) = .ok none)
    (texts : e.planTexts 0 planned = .ok files)
    (wrote : ((writeFiles files).run.run site).1 = .ok ()) :
    (e.emit interfaces).run.run site
      = (.ok (files.map Prod.fst), ((writeFiles files).run.run site).2) := by
  have behind : (do
      let files ← liftM (e.planTexts 0 planned)
      writeFiles files
      pure (files.map Prod.fst) : Run EmitError (List Path)).run.run site
        = (.ok (files.map Prod.fst), ((writeFiles files).run.run site).2) := by
    rw [run_liftM_bind texts, run_bind_of_ok (Prod.ext wrote rfl)]
    rfl
  unfold emit
  rw [target]
  dsimp only
  unfold emitDirectory
  rw [run_liftM_bind made]
  cases force : e.settings.force with
  | true => exact behind
  | false =>
    have none' := free.resolve_left (force ▸ Bool.false_ne_true)
    refine (run_bind_of_ok (Run.run_look none') _).trans ?_
    exact behind

/-! ### With force -/

section

variable {e : Emitter} {interfaces : List Interface}

theorem emitFile_forced (force : e.settings.force = true) (path : Path) :
    e.emitFile path interfaces = (do
      let _ ← Run.look (.write path) fun tree => tree.exists? path
      let text ← liftM (e.fileText 0 interfaces)
      writeFile path text
      pure [path]) := by
  simp [emitFile, force]

theorem emitDirectory_forced (force : e.settings.force = true) (dir : Path) :
    e.emitDirectory dir interfaces = (do
      let planned ← liftM (plan e.shown (e.destination dir) interfaces)
      let files ← liftM (e.planTexts 0 planned)
      writeFiles files
      pure (files.map Prod.fst)) := by
  simp [emitDirectory, force]

end

end Emitter
end WrapperGen
