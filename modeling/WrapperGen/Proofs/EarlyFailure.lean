import Mathlib.Control.Monad.Basic
import WrapperGen.Proofs.EmitRules

/-!
# Failures before anything is written

Where a destination exists, where two interfaces go to one destination, or where a text is not
well formed, the site is the one from before, whichever interface is to blame: each of these is
found out before the first file is written, and writing has only failures of its own.

## Main definitions

* `EmitError.isEarly`: the failures that come before anything is written.
* `Untouched`: the site of an early failure is the one from before.

## Main results

* `Emitter.late_writeFiles`: writing has no early failure.
* `Emitter.tree_emitStream`: printing leaves the files alone.
* `Emitter.emit_early`: an early failure leaves the site alone.
-/

namespace WrapperGen

/-- The failures that come before anything is written. -/
def EmitError.isEarly : EmitError → Bool
  | .conflict .. | .collision .. | .malformed => true
  | .write .. | .streamClosed => false

/-- A failure at the site `last` is no early one, or `last` is `site`. -/
def Untouched (site : Site) (cause : EmitError) (last : Site) : Prop :=
  cause.isEarly = true → last = site

namespace Emitter

variable {site : Site}

/-! ### Writing -/

theorem late_writeFile (path : Path) (text : String) :
    Run.Triple (fun _ => True) (writeFile path text) (fun _ _ => True)
      fun cause _ => cause.isEarly = false := by
  have change : ∀ (place : Path) (f : FileTree → Except FileError FileTree),
      Run.Triple (fun _ => True) (Run.onTree (EmitError.write place) f) (fun _ _ => True)
        fun cause _ => cause.isEarly = false :=
    fun _ _ => Run.Triple.onTree (fun _ _ _ _ => trivial) fun _ _ _ _ => rfl
  exact triple_writeFile (fun _ _ _ => trivial) (fun dir _ => change dir _) (change path _)

theorem late_writeFiles (files : List (Path × String)) :
    Run.Triple (fun _ => True) (writeFiles files) (fun _ _ => True)
      fun cause _ => cause.isEarly = false :=
  triple_writeFiles fun file _ => late_writeFile file.1 file.2

theorem untouched_of_late {before : Site → Prop} {run : Run EmitError Unit}
    (h : Run.Triple (fun _ => True) run (fun _ _ => True) fun cause _ => cause.isEarly = false) :
    Run.Triple before run (fun _ _ => True) (Untouched site) := by
  refine h.mono (fun _ _ => trivial) (fun _ _ _ => trivial) ?_
  intro cause last late early
  rw [late] at early
  cases early

/-! ### Emitting -/

theorem untouched_emit (e : Emitter) (interfaces : List Interface) :
    Run.Triple (· = site) (e.emit interfaces) (fun _ _ => True) (Untouched site) := by
  -- up to the first write the site is the one at the start; from there on no failure is early
  have still : ∀ cause last, last = site → Untouched site cause last := fun _ _ h _ => h
  unfold emit
  split
  · exact triple_emitStream e interfaces (fun cause _ => still cause) (still _)
      fun _ _ _ _ => trivial
  · next path _ =>
    exact triple_emitFile e interfaces path (fun _ last _ => still _ last)
      (fun _ last _ => still _ last) (fun cause _ => still cause)
      fun text _ => untouched_of_late (late_writeFile path text)
  · next dir _ =>
    exact triple_emitDirectory e interfaces dir (fun cause _ => still cause)
      (fun _ => still _) (fun _ => still _) (fun _ cause _ => still cause)
      fun _ files _ _ => untouched_of_late (late_writeFiles files)

theorem tree_emitStream (e : Emitter) (interfaces : List Interface) :
    Run.Triple (·.tree = site.tree) (e.emitStream interfaces) (fun _ last => last.tree = site.tree)
      fun _ last => last.tree = site.tree :=
  triple_emitStream e interfaces (fun _ _ _ hs => hs) (fun _ hs => hs) fun _ _ _ hs => hs

/-- A run that fails early leaves the files and the output stream as they were, and a run that
prints leaves the files as they were. -/
theorem emit_early (e : Emitter) (interfaces : List Interface) (site : Site) :
    (∀ cause, ((e.emit interfaces).run.run site).1 = .error cause → cause.isEarly = true →
      ((e.emit interfaces).run.run site).2 = site)
    ∧ (e.settings.target = .stream → ((e.emit interfaces).run.run site).2.tree = site.tree) := by
  constructor
  · intro cause failed early
    exact (untouched_emit e interfaces).of_error rfl failed early
  · intro stream
    have printed : ((e.emitStream interfaces).run.run site).2.tree = site.tree :=
      (tree_emitStream e interfaces).of_both rfl
    unfold emit
    rw [stream]
    exact printed

/-- An emitter whose code is empty. -/
def sample (target : OutputTarget) : Emitter where
  tool := ⟨"wrap", "1.0", ["wrap"]⟩
  clock := .still "2024-01-01T00:00:00Z"
  cwd := ⟨"/work"⟩
  settings := ⟨target, false, "mocks", none⟩
  fileName := fun name => name ++ ".go"
  generate := fun _ _ => pure ()

/-- Two interfaces that differ, and whose files have one name. -/
def sampleInterfaces : List Interface :=
  [⟨"Store", "example.com/a", []⟩, ⟨"STORE", "example.com/b", []⟩]

/-- A site with one directory, where something has been printed. -/
def sampleSite : Site := ⟨⟨[(["work"], .directory directoryMode)]⟩, ["before"], true⟩

/-- Two interfaces with one destination leave no trace, and printing leaves no files. -/
theorem emit_early_sample :
    (((sample (.directory ⟨"/work"⟩)).emit sampleInterfaces).run.run sampleSite).2 = sampleSite
    ∧ (((sample .stream).emit sampleInterfaces).run.run sampleSite).2.tree = sampleSite.tree := by
  constructor
  · exact (emit_early (sample (.directory ⟨"/work"⟩)) sampleInterfaces sampleSite).1
      (.collision ⟨"/work/store.go"⟩ "store.go" "example.com/a.Store" "example.com/b.STORE")
      (by decide +kernel) rfl
  · exact (emit_early (sample .stream) sampleInterfaces sampleSite).2 rfl

end Emitter

end WrapperGen
