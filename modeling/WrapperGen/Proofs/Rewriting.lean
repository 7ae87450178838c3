import WrapperGen.Proofs.EmitRules
import WrapperGen.Proofs.Listings

/-!
# Writing files once more

Once a file has been written, its path leads to it, whatever else is written later: the walk there
passes through directories and links, and these stay.  So to write the same files again, be it with
other texts, is to replace the contents at the same places, and at each of them the file that was
the last one before is the last one again.

## Main definitions

* `FileTree.SendsTo`: a path leads to a file, and no directory above it is missing.
* `Written`: a file that has been written, its place, and what its text was made from.
* `FileTree.overwrite`: the tree with other texts at the places of written files.
* `FileTree.Wrote`: what a tree holds where files have been written.

## Main results

* `FileTree.sendsTo_of_writeText`: where a text has been written, the path leads to it.
* `Emitter.triple_writeFiles_wrote`, `Emitter.triple_emit_wrote`: what writing files leaves behind.
* `Emitter.run_writeFiles`: writing them again succeeds, and only overwrites.
* `FileTree.Wrote.entryAt_overwrite`: what that changes.
-/

namespace WrapperGen

namespace FileTree

variable {tree later made : FileTree} {path : Path} {place : Location}

/-! ### Paths that lead to files -/

/-- A path leads to a file at a place, and the directory above is there. -/
structure SendsTo (tree : FileTree) (path : Path) (place : Location) : Prop where
  /-- The directory above is there; the empty path asks for none. -/
  above : ∀ dir, path.parent? = some dir → tree.isDirectory dir = true ∨ dir.text = ""
  /-- The path asks for no directory. -/
  noSlash : endsInSlash path = false
  /-- The path leads to a file. -/
  leads : ∃ content mode, tree.locate true path = .ok (.found place (.file content mode))

namespace SendsTo

/-- A file stands at the place. -/
theorem taken (h : SendsTo tree path place) :
    ∃ content mode, tree.entryAt place = some (.file content mode) := by
  obtain ⟨content, mode, found⟩ := h.leads
  obtain ⟨-, -, walked⟩ := locateSteps_ok found
  exact ⟨content, mode, entryAt_of_found (IsInside.top tree) walked⟩

theorem ne_nil (h : SendsTo tree path place) : place ≠ [] := by
  rintro rfl
  obtain ⟨content, mode, taken⟩ := h.taken
  rw [entryAt_nil] at taken
  cases taken

/-- The path leads there still when files have been rewritten. -/
theorem of_rewritten (h : SendsTo tree path place) (kept : Rewritten tree later) :
    SendsTo later path place where
  above := fun dir e => (h.above dir e).imp_left (isDirectory_of_rewritten kept)
  noSlash := h.noSlash
  leads := by
    obtain ⟨content, mode, found⟩ := h.leads
    obtain ⟨empty, null, walked⟩ := locateSteps_ok found
    obtain ⟨content', mode', there⟩ :=
      kept.files _ _ _ (entryAt_of_found (IsInside.top tree) walked)
    refine ⟨content', mode', ?_⟩
    rw [locate, locateSteps_of_walk _ empty null]
    exact walk_of_rewritten kept walked there fun _ e => by cases e

/-- To write to the path is to put a text at the place. -/
theorem writeText (h : SendsTo tree path place) (text : String) :
    tree.writeText path text = .ok (tree.put place (.file (.text text) fileMode)) := by
  obtain ⟨content, mode, found⟩ := h.leads
  unfold FileTree.writeText writeContent locateFile
  rw [h.noSlash, if_neg Bool.false_ne_true, found]

/-- Writing to the path leaves directories and links as they are. -/
theorem put (h : SendsTo tree path place) (text : String) :
    Rewritten tree (tree.put place (.file (.text text) fileMode)) := by
  refine (Rewritten.refl tree).put fun entry there => ?_
  obtain ⟨content, mode, taken⟩ := h.taken
  rw [taken] at there
  exact ⟨content, mode, (Option.some.inj there).symm⟩

/-- It can be told whether anything is there. -/
theorem exists? (h : SendsTo tree path place) : ∃ there, tree.exists? path = .ok there := by
  obtain ⟨content, mode, found⟩ := h.leads
  obtain ⟨empty, null, walked⟩ := locateSteps_ok found
  obtain ⟨seen, unfollowed⟩ := exists_walk_unfollowed walked
  unfold FileTree.exists?
  rw [locate, locateSteps_of_walk _ empty null, unfollowed]
  cases seen with
  | found place entry => exact ⟨true, rfl⟩
  | free place => exact ⟨false, rfl⟩

end SendsTo

/-- Where nothing is there yet, to write to a path is to put a text at the place it leads to. -/
theorem writeText_free (leads : tree.locateFile path = .ok (.free place)) (text : String) :
    tree.writeText path text = .ok (tree.put place (.file (.text text) fileMode)) := by
  rw [FileTree.writeText, writeContent, leads]

/-- A text is written where there was nothing but a file, and then the path leads to it. -/
theorem sendsTo_of_writeText {text : String}
    (above : ∀ dir, path.parent? = some dir → tree.isDirectory dir = true ∨ dir.text = "")
    (h : tree.writeText path text = .ok made) :
    ∃ place, made = tree.put place (.file (.text text) fileMode)
      ∧ Rewritten tree made ∧ SendsTo made path place := by
  unfold FileTree.writeText writeContent locateFile at h
  by_cases slash : endsInSlash path = true
  · rw [if_pos slash] at h
    split at h
    · cases h
    · next located => split at located <;> cases located
    · next located => split at located <;> cases located
    · next located => split at located <;> cases located
  rw [if_neg slash] at h
  -- whatever the path leads to, only files are replaced
  have ends : ∃ target, tree.locate true path = .ok target
      ∧ made = tree.put target.place (.file (.text text) fileMode)
      ∧ ∀ entry, tree.entryAt target.place = some entry →
        ∃ content mode, entry = .file content mode := by
    cases located : tree.locate true path with
    | error cause =>
      rw [located] at h
      cases h
    | ok target =>
      rw [located] at h
      obtain ⟨-, -, walked⟩ := locateSteps_ok located
      refine ⟨target, rfl, ?_⟩
      cases target with
      | free place =>
        refine ⟨(Except.ok.inj h).symm, fun entry there => ?_⟩
        cases (entryAt_of_free walked).symm.trans there
      | found place entry =>
        cases entry with
        | file content mode =>
          refine ⟨(Except.ok.inj h).symm, fun entry there => ⟨content, mode, ?_⟩⟩
          exact Option.some.inj (there.symm.trans (entryAt_of_found (IsInside.top tree) walked))
        | directory bits => cases h
        | link goal => cases h
  obtain ⟨target, located, rfl, fits⟩ := ends
  obtain ⟨empty, null, walked⟩ := locateSteps_ok located
  have kept : Rewritten tree (tree.put target.place (.file (.text text) fileMode)) :=
    (Rewritten.refl tree).put fits
  have below : target.place ≠ [] := by
    intro top
    obtain ⟨_, _, e⟩ := fits _ (top ▸ entryAt_nil tree)
    cases e
  refine ⟨target.place, rfl, kept, fun dir e => ?_, by simpa using slash, .text text, fileMode, ?_⟩
  · exact (above dir e).imp_left (isDirectory_of_rewritten kept)
  · rw [locate, locateSteps_of_walk _ empty null]
    exact walk_of_rewritten kept walked (entryAt_put_self tree _ below) fun _ e => by cases e

end FileTree

/-! ### Written files -/

/-- A file that has been written.  What its text was made from is of some type `α`: it is the text
itself, or what a text can be made from at one time or another. -/
structure Written (α : Type) where
  /-- The path that it was written to. -/
  path : Path
  /-- The place that the path led to. -/
  place : Location
  /-- What its text was made from. -/
  body : α

/-- What was asked for, the place apart. -/
def Written.file {α : Type} (w : Written α) : Path × α := (w.path, w.body)

namespace FileTree

variable {α : Type} {start tree later : FileTree} {text : α → String}
  {written : List (Written α)}

/-- The tree with the texts of some files, one written after the other. -/
def overwrite (text : α → String) (tree : FileTree) : List (Written α) → FileTree
  | [] => tree
  | w :: rest => overwrite text (tree.put w.place (.file (.text (text w.body)) fileMode)) rest

/-- At each place the last text stands. -/
theorem entryAt_overwrite (below : ∀ w ∈ written, w.place ≠ []) (place : Location) :
    (tree.overwrite text written).entryAt place
      = match written.reverse.find? (fun w => w.place == place) with
        | some w => some (.file (.text (text w.body)) fileMode)
        | none => tree.entryAt place := by
  induction written generalizing tree with
  | nil => rfl
  | cons w rest ih =>
    rw [overwrite, ih fun v hv => below v (List.mem_cons_of_mem w hv), List.reverse_cons,
      List.find?_append]
    cases rest.reverse.find? (fun w => w.place == place) with
    | some v => rfl
    | none =>
      rw [Option.none_or, List.find?_singleton]
      by_cases same : w.place = place
      · rw [if_pos (by simpa using same), ← same]
        exact entryAt_put_self tree _ (below w List.mem_cons_self)
      · rw [if_neg (by simpa using same)]
        exact entryAt_put_of_ne tree _ (Ne.symm same)

/-- What a tree holds that was `start` before some files were written, the newest one first: their
paths lead to them, and where several have one place, the newest stands there.  At all other places
nothing has happened but that directories have been made. -/
structure Wrote (text : α → String) (start tree : FileTree) (written : List (Written α)) :
    Prop where
  /-- Directories and links are as they were. -/
  kept : Rewritten start tree
  /-- What stood at another place stands there still. -/
  others : ∀ place entry, place ∉ written.map Written.place →
    start.entryAt place = some entry → tree.entryAt place = some entry
  /-- The files at other places are listed as before. -/
  listed : ∀ goal, tree.namesBut (written.map Written.place) goal
    = start.namesBut (written.map Written.place) goal
  /-- The paths lead to the files. -/
  sends : ∀ w ∈ written, SendsTo tree w.path w.place
  /-- The newest file stands at its place. -/
  stands : ∀ place w, written.find? (fun w => w.place == place) = some w →
    tree.entryAt place = some (.file (.text (text w.body)) fileMode)

namespace Wrote

/-- Nothing has been written yet. -/
theorem nil : Wrote text tree tree [] where
  kept := Rewritten.refl tree
  others := fun place entry _ there => there
  listed := fun goal => rfl
  sends := fun w hw => by cases hw
  stands := fun place w found => by cases found

/-- Directories may be made in between. -/
theorem of_furnished (h : Wrote text start tree written) (more : Furnished tree later) :
    Wrote text start later written where
  kept := h.kept.trans more.grown.rewritten
  others := fun place entry apart there =>
    more.grown.kept place _ (h.others place entry apart there)
  listed := fun goal => (namesBut_of_furnished more).trans (h.listed goal)
  sends := fun w hw => (h.sends w hw).of_rewritten more.grown.rewritten
  stands := fun place w found => more.grown.kept place _ (h.stands place w found)

/-- One more file. -/
theorem put (h : Wrote text start tree written) {w : Written α} {later : FileTree}
    (e : later = tree.put w.place (.file (.text (text w.body)) fileMode))
    (kept : Rewritten tree later) (sends : SendsTo later w.path w.place) :
    Wrote text start later (w :: written) where
  kept := h.kept.trans kept
  others := by
    intro place entry apart there
    rw [List.map_cons, List.mem_cons, not_or] at apart
    rw [e, entryAt_put_of_ne tree _ apart.1]
    exact h.others place entry apart.2 there
  listed := by
    intro goal
    rw [e, List.map_cons, namesBut_put_file List.mem_cons_self]
    exact namesBut_mono (h.listed goal) (List.subset_cons_self _ _)
  sends := by
    intro v hv
    rcases List.mem_cons.1 hv with rfl | hv
    · exact sends
    · exact (h.sends v hv).of_rewritten kept
  stands := by
    intro place v found
    rw [List.find?_cons] at found
    by_cases same : w.place = place
    · rw [show (w.place == place) = true by simpa using same] at found
      obtain rfl := Option.some.inj found
      rw [e, ← same]
      exact entryAt_put_self tree _ sends.ne_nil
    · rw [show (w.place == place) = false by simpa using same] at found
      rw [e, entryAt_put_of_ne tree _ (Ne.symm same)]
      exact h.stands place v found

/-- Overwriting the files with other texts changes nothing but these texts. -/
theorem entryAt_overwrite (h : Wrote text start tree written) (other : α → String)
    (place : Location) :
    (tree.overwrite other written.reverse).entryAt place = tree.entryAt place
      ∨ ∃ w ∈ written, tree.entryAt place = some (.file (.text (text w.body)) fileMode)
        ∧ (tree.overwrite other written.reverse).entryAt place
          = some (.file (.text (other w.body)) fileMode) := by
  have below : ∀ w ∈ written.reverse, w.place ≠ [] :=
    fun w hw => (h.sends w (List.mem_reverse.1 hw)).ne_nil
  rw [FileTree.entryAt_overwrite below place, List.reverse_reverse]
  cases found : written.find? (fun w => w.place == place) with
  | none => exact .inl rfl
  | some w => exact .inr ⟨w, List.mem_of_find?_eq_some found, h.stands place w found, rfl⟩

end Wrote

end FileTree

/-! ### Writing -/

namespace Emitter

open FileTree

variable {α : Type} {start : FileTree} {text : α → String} {written : List (Written α)}
  {site : Site}

/-- Writing a file adds it to what has been written. -/
theorem triple_writeFile_wrote (path : Path) (body : α) :
    Run.Triple (fun site => Wrote text start site.tree written) (writeFile path (text body))
      (fun _ last => ∃ place, Wrote text start last.tree (⟨path, place, body⟩ :: written))
      fun _ _ => True := by
  have file : Run.Triple
      (fun site => Wrote text start site.tree written
        ∧ ∀ dir, path.parent? = some dir → site.tree.isDirectory dir = true ∨ dir.text = "")
      (Run.onTree (EmitError.write path) fun tree => tree.writeText path (text body))
      (fun _ last => ∃ place, Wrote text start last.tree (⟨path, place, body⟩ :: written))
      fun _ _ => True := by
    refine Run.Triple.onTree ?_ fun _ _ _ _ => trivial
    rintro made site h ⟨wrote, above⟩
    obtain ⟨place, e, kept, sends⟩ := sendsTo_of_writeText above h
    exact ⟨place, wrote.put e kept sends⟩
  refine triple_writeFile ?_ ?_ file
  · intro top site wrote
    refine ⟨wrote, fun dir e => ?_⟩
    rw [top] at e
    cases e
  · intro dir above
    refine Run.Triple.onTree (fun made site h wrote => ?_) fun _ _ _ _ => trivial
    obtain ⟨more, there⟩ := furnished_ensureDirectory h
    refine ⟨wrote.of_furnished more, fun other e => ?_⟩
    obtain rfl := Option.some.inj (above.symm.trans e)
    exact there

/-- Writing files adds them to what has been written. -/
theorem triple_writeFiles_wrote (files : List (Path × α)) :
    Run.Triple (fun site => Wrote text start site.tree written)
      (writeFiles (files.map fun file => (file.1, text file.2)))
      (fun _ last => ∃ more : List (Written α), more.reverse.map Written.file = files
        ∧ Wrote text start last.tree (more ++ written))
      fun _ _ => True := by
  induction files generalizing written with
  | nil => exact Run.Triple.pure fun site wrote => ⟨[], rfl, wrote⟩
  | cons file rest ih =>
    refine (triple_writeFile_wrote file.1 file.2).bind fun _ => ?_
    rintro site ⟨place, wrote⟩
    refine (ih.mono (fun _ h => h) ?_ fun _ _ h => h) site wrote
    rintro _ last ⟨more, files, wrote⟩
    refine ⟨more ++ [⟨file.1, place, file.2⟩], ?_, ?_⟩
    · rw [List.reverse_append, List.map_append, files]
      rfl
    · rw [List.append_assoc]
      exact wrote

theorem writeFiles_singleton (path : Path) (value : String) :
    writeFiles [(path, value)] = writeFile path value := by
  simp [writeFiles]

/-- Emitting writes the files that it answers with, one after the other, and does nothing else to
the tree.  Whether files may be replaced makes no difference here: that only decides whether it gets
so far. -/
theorem triple_emit_wrote (e : Emitter) (interfaces : List Interface) :
    Run.Triple (fun site => Wrote id start site.tree []) (e.emit interfaces)
      (fun files last => ∃ written : List (Written String),
        written.reverse.map Written.path = files ∧ Wrote id start last.tree written)
      fun _ _ => True := by
  -- the answer of each way of emitting is the paths of what it has written
  have writes (files : List (Path × String)) :
      Run.Triple (fun site => Wrote id start site.tree []) (writeFiles files)
        (fun _ last => ∃ written : List (Written String),
          written.reverse.map Written.path = files.map Prod.fst ∧ Wrote id start last.tree written)
        fun _ _ => True := by
    have triple : Run.Triple (fun site => Wrote id start site.tree [])
        (writeFiles (files.map fun file => (file.1, id file.2))) _ _ :=
      triple_writeFiles_wrote files
    simp only [id_eq, List.map_id'] at triple
    refine triple.mono (fun _ h => h) ?_ fun _ _ h => h
    rintro _ last ⟨more, same, wrote⟩
    rw [List.append_nil] at wrote
    exact ⟨more, by rw [← same, List.map_map]; rfl, wrote⟩
  unfold emit
  cases e.settings.target with
  | stream =>
    refine triple_emitStream e interfaces (fun _ _ _ _ => trivial) (fun _ _ => trivial) ?_
    exact fun text _ site nothing => ⟨[], rfl, nothing⟩
  | file path =>
    refine triple_emitFile e interfaces path (fun _ _ _ _ => trivial) (fun _ _ _ _ => trivial)
      (fun _ _ _ _ => trivial) fun text _ => ?_
    rw [← writeFiles_singleton]
    exact (writes [(path, text)]).mono (fun _ h => h.1) (fun _ _ h => h) fun _ _ h => h
  | directory dir =>
    refine triple_emitDirectory e interfaces dir (fun _ _ _ _ => trivial) (fun _ _ _ => trivial)
      (fun _ _ _ => trivial) (fun _ _ _ _ _ => trivial) fun planned files _ _ => ?_
    exact (writes files).mono (fun _ h => h.1) (fun _ _ h => h) fun _ _ h => h

/-- Writing a file succeeds where the directory above is there and the text can be written. -/
theorem run_writeFile_of_writeText {path : Path} {value : String} {made : FileTree}
    (above : ∀ dir, path.parent? = some dir → site.tree.isDirectory dir = true ∨ dir.text = "")
    (written : site.tree.writeText path value = .ok made) :
    (writeFile path value).run.run site = (.ok (), { site with tree := made }) := by
  have write : (Run.onTree (EmitError.write path) fun tree => tree.writeText path value).run.run
      site = (.ok (), { site with tree := made }) :=
    Run.run_onTree written
  unfold writeFile
  cases parent : path.parent? with
  | none => exact write
  | some dir =>
    have there := ensureDirectory_of_found (above dir parent)
    exact (run_bind_of_ok (Run.run_onTree there) _).trans write

/-- Where a path leads to a file, writing to it succeeds. -/
theorem run_writeFile {path : Path} {place : Location} (h : SendsTo site.tree path place)
    (value : String) : (writeFile path value).run.run site
      = (.ok (), { site with tree := site.tree.put place (.file (.text value) fileMode) }) :=
  run_writeFile_of_writeText h.above (h.writeText value)

/-- Where paths lead to files, writing to all of them succeeds. -/
theorem run_writeFiles (sends : ∀ w ∈ written, SendsTo site.tree w.path w.place) :
    (writeFiles (written.map fun w => (w.path, text w.body))).run.run site
      = (.ok (), { site with tree := site.tree.overwrite text written }) := by
  induction written generalizing site with
  | nil => rfl
  | cons w rest ih =>
    have first := sends w List.mem_cons_self
    refine (run_bind_of_ok (run_writeFile first (text w.body)) _).trans (ih fun v hv => ?_)
    exact (sends v (List.mem_cons_of_mem w hv)).of_rewritten (first.put _)

end Emitter

end WrapperGen
