import Mathlib.Data.List.Nodup
import WrapperGen.Proofs.Destinations
import WrapperGen.Proofs.Preservation
import WrapperGen.Proofs.Rewriting

/-!
# Writing files into one folder

Files with different names in one folder do not get into each other's way: once the directory above
them is there, the names of the folder lead to one place, and each file is put behind it under its
own name, unless a link stands there already.  So after all of them have been written, each one is
read back.

## Main definitions

* `FileTree.isLink`: a symbolic link stands at the end of a path.
* `FileTree.Enters`: the place that the names of a folder lead to.
* `FileTree.NoNewLinks`: all links have been there before.

## Main results

* `FileTree.exists_walk_before`: a walk goes through a place in front of its last name.
* `FileTree.Enters.place_eq`: where a file of the folder stands.
* `FileTree.Wrote.readText`: files that do not share a place are read back.
* `Emitter.readText_of_writeFiles`: all files are read back.
-/

namespace WrapperGen

namespace FileTree

variable {tree later made : FileTree} {folder : Path} {goal : Location} {name value : String}

/-- Whether a symbolic link stands at the end of a path. -/
def isLink (tree : FileTree) (p : Path) : Bool :=
  match tree.locate false p with
  | .ok (.found _ (.link _)) => true
  | _ => false

/-- A walk that comes to an end goes through a place in front of its last name.  From there it looks
for any other name as well, also when files have been rewritten. -/
theorem exists_walk_before {links : Nat} {names : List String} {place : Location} {target : Target}
    (walked : walk tree true links (names ++ [name]) place = .ok target) :
    ∃ left goal, ∀ later, Rewritten tree later → ∀ followLast other,
      walk later followLast links (names ++ [other]) place
        = walk later followLast left [other] goal := by
  induction links, names, place using walk_induction with
  | done links place => exact ⟨links, place, fun _ _ _ _ => rfl⟩
  | here links rest place ih =>
    rw [List.cons_append, walk_here] at walked
    obtain ⟨left, goal, onward⟩ := ih walked
    refine ⟨left, goal, fun later kept followLast other => ?_⟩
    rw [List.cons_append, walk_here]
    exact onward later kept followLast other
  | up links rest place ih =>
    rw [List.cons_append, walk_up] at walked
    obtain ⟨left, goal, onward⟩ := ih walked
    refine ⟨left, goal, fun later kept followLast other => ?_⟩
    rw [List.cons_append, walk_up]
    exact onward later kept followLast other
  | name links first rest place hh hu ih behind =>
    rw [List.cons_append] at walked
    obtain ⟨short, step⟩ := nameStep_of_walk hh hu walked
    cases step with
    | free missing last ends => simp at last
    | file content mode found last ends => simp at last
    | link target found stop ends => cases stop
    | enter bits found onward =>
      obtain ⟨left, goal, onward⟩ := ih onward
      refine ⟨left, goal, fun later kept followLast other => ?_⟩
      rw [List.cons_append, walk_name _ _ _ _ _ hh hu, if_neg short,
        kept.directories _ _ found]
      exact onward later kept followLast other
    | jump target fewer found go left onward =>
      subst left
      rw [← List.append_assoc] at onward
      obtain ⟨left, goal, onward⟩ := behind fewer target rfl onward
      refine ⟨left, goal, fun later kept followLast other => ?_⟩
      rw [List.cons_append, walk_name _ _ _ _ _ hh hu, if_neg short, kept.links _ _ found]
      dsimp only
      rw [if_neg (by simp), ← List.append_assoc]
      exact onward later kept followLast other

/-- The names of `folder` lead to `goal`, and any name behind them is looked for there, also when
files have been rewritten. -/
def Enters (tree : FileTree) (folder : Path) (goal : Location) : Prop :=
  ∃ left, ∀ later, Rewritten tree later → ∀ followLast name,
    walk later followLast maxLinks (slashSegments folder.text ++ [name]) []
      = walk later followLast left [name] goal

/-- Every link of the tree `later` is one of `tree`. -/
def NoNewLinks (tree later : FileTree) : Prop :=
  ∀ place target, later.entryAt place = some (.link target) →
    tree.entryAt place = some (.link target)

section Folder

variable (written : (Component.name name).IsWritten)

include written

theorem walkSteps_join (folder : Path) :
    walkSteps (folder.join ⟨name⟩) = slashSegments folder.text ++ [name] := by
  have stands := standsIn_join folder (show name.toList ≠ [] from written.isStep.1) written.2
  rw [walkSteps, stands.noSlash, stands.names, if_neg Bool.false_ne_true, List.append_nil]

/-- A file that has been located in a folder shows where the folder is. -/
theorem exists_enters {target : Target} (h : tree.locate true (folder.join ⟨name⟩) = .ok target) :
    ∃ goal, Enters tree folder goal := by
  obtain ⟨-, -, walked⟩ := locateSteps_ok h
  rw [walkSteps_join written] at walked
  obtain ⟨left, goal, onward⟩ := exists_walk_before walked
  exact ⟨goal, left, onward⟩

/-- A file in a folder stands behind the place of the folder, unless a link has been there. -/
theorem Enters.place_eq {place : Location} (h : Enters tree folder goal)
    (kept : Rewritten tree later) (old : NoNewLinks tree later)
    (noLink : tree.isLink (folder.join ⟨name⟩) = false)
    (sends : SendsTo later (folder.join ⟨name⟩) place) : place = goal ++ [name] := by
  obtain ⟨left, onward⟩ := h
  obtain ⟨content, mode, found⟩ := sends.leads
  obtain ⟨empty, null, walked⟩ := locateSteps_ok found
  rw [walkSteps_join written, onward later kept] at walked
  obtain ⟨named, -⟩ := Component.isWritten_name_iff.1 written
  have hh : name ≠ "." := by
    rintro rfl
    exact named.2.1 rfl
  have hu : name ≠ ".." := by
    rintro rfl
    exact named.2.2 rfl
  obtain ⟨short, step⟩ := nameStep_of_walk hh hu walked
  cases step with
  | free missing last ends => cases ends
  | file content mode found last ends =>
    cases ends
    rfl
  | enter bits found onward =>
    rw [walk_nil, found] at onward
    cases onward
  | link target found stop ends => cases ends
  | jump target fewer found go left onward' =>
    -- the link would have been found before
    have seen : tree.locate false (folder.join ⟨name⟩)
        = .ok (.found (goal ++ [name]) (.link target)) := by
      rw [locate, locateSteps_of_walk _ empty null, walkSteps_join written,
        onward tree (Rewritten.refl tree), walk_name _ _ _ _ _ hh hu, if_neg short, old _ _ found]
      rfl
    rw [isLink, seen] at noLink
    cases noLink

end Folder

theorem NoNewLinks.trans {last : FileTree} (h : NoNewLinks tree later)
    (h' : NoNewLinks later last) : NoNewLinks tree last :=
  fun place target found => h place target (h' place target found)

/-- To write a file makes no link. -/
theorem noNewLinks_writeText {path : Path} (h : tree.writeText path value = .ok made) :
    NoNewLinks tree made := by
  obtain ⟨place, rfl⟩ : ∃ place, made = tree.put place (.file (.text value) fileMode) := by
    unfold FileTree.writeText writeContent at h
    split at h
    · cases h
    · exact ⟨_, (Except.ok.inj h).symm⟩
    · exact ⟨_, (Except.ok.inj h).symm⟩
    · cases h
  intro other target found
  by_cases same : other = place
  · by_cases top : place = []
    · rw [same, top, entryAt_nil] at found
      cases found
    · rw [same, entryAt_put_self tree _ top] at found
      cases found
  · rwa [entryAt_put_of_ne tree _ same] at found

/-- If no two files with different texts have one place, all of them are read back. -/
theorem Wrote.readText {α : Type} {text : α → String} {files : List (Written α)}
    (h : Wrote text tree later files)
    (apart : ∀ v ∈ files, ∀ w ∈ files, v.place = w.place → v.body = w.body) :
    ∀ w ∈ files, later.readText w.path = .ok (text w.body) := by
  intro w hw
  have newest : ∃ v, files.find? (fun v => v.place == w.place) = some v ∧ v.body = w.body := by
    cases found : files.find? fun v => v.place == w.place with
    | none => exact absurd (List.find?_eq_none.1 found w hw) (by simp)
    | some v =>
      have place : v.place = w.place := by simpa using List.find?_some found
      exact ⟨v, rfl, apart v (List.mem_of_find?_eq_some found) w hw place⟩
  obtain ⟨v, found, body⟩ := newest
  have there := h.stands w.place v found
  obtain ⟨content, mode, leads⟩ := (h.sends w hw).leads
  obtain ⟨-, -, walked⟩ := locateSteps_ok leads
  rw [entryAt_of_found (IsInside.top later) walked] at there
  cases there
  rw [FileTree.readText, FileTree.find, leads, body]

end FileTree

namespace Emitter

open FileTree

variable {site last : Site} {path above : Path} {value : String}

/-- To write files makes no link. -/
theorem noNewLinks_writeFiles (start : FileTree) (files : List (Path × String)) :
    Run.Triple (fun site => NoNewLinks start site.tree) (writeFiles files)
      (fun _ last => NoNewLinks start last.tree) fun _ _ => True := by
  refine triple_writeFiles fun file _ => triple_writeFile (fun _ _ h => h) (fun dir _ => ?_) ?_
  · refine Run.Triple.onTree (fun made site h old => ?_) fun _ _ _ _ => trivial
    exact old.trans (grown_ensureDirectory h).1.noLinks
  · refine Run.Triple.onTree (fun made site h old => ?_) fun _ _ _ _ => trivial
    exact old.trans (noNewLinks_writeText h)

/-- A file that has been written shows that the directory above it could be made.  From then on it
may be written in the same way. -/
theorem exists_made_of_writeFile (parent : path.parent? = some above)
    (done : (writeFile path value).run.run site = (.ok (), last)) :
    ∃ made target, site.tree.ensureDirectory above = .ok made
      ∧ made.locate true path = .ok target
      ∧ (writeFile path value).run.run { site with tree := made } = (.ok (), last) := by
  unfold writeFile at done
  rw [parent] at done
  obtain ⟨_, between, first, second⟩ := exists_of_run_bind done
  obtain ⟨made, ensured, rfl⟩ := Run.exists_of_run_onTree first
  obtain ⟨after, wrote, rfl⟩ := Run.exists_of_run_onTree second
  have there : ∀ dir, path.parent? = some dir → made.isDirectory dir = true ∨ dir.text = "" := by
    intro dir e
    obtain rfl := Option.some.inj (parent.symm.trans e)
    exact (grown_ensureDirectory ensured).2
  obtain ⟨place, -, -, sends⟩ := sendsTo_of_writeText there wrote
  have located : ∃ target, made.locate true path = .ok target := by
    unfold FileTree.writeText writeContent locateFile at wrote
    rw [sends.noSlash, if_neg Bool.false_ne_true] at wrote
    cases located : made.locate true path with
    | ok target => exact ⟨target, rfl⟩
    | error cause =>
      rw [located] at wrote
      cases wrote
  obtain ⟨target, located⟩ := located
  exact ⟨made, target, ensured, located, run_writeFile_of_writeText there wrote⟩

/-- The directory above some files of one folder is made with the first of them, and all of them are
written behind it. -/
theorem exists_wrote_of_writeFiles {folder : Path} {name : String} {file : Path × String}
    {rest : List (Path × String)} (written : (Component.name name).IsWritten)
    (joined : file.1 = folder.join ⟨name⟩) (parent : file.1.parent? = some above)
    (done : (writeFiles (file :: rest)).run.run site = (.ok (), last)) :
    ∃ made goal more, site.tree.ensureDirectory above = .ok made ∧ Enters made folder goal
      ∧ NoNewLinks made last.tree ∧ more.reverse.map Written.file = file :: rest
      ∧ Wrote id made last.tree more := by
  obtain ⟨_, between, first, others⟩ := exists_of_run_bind done
  obtain ⟨made, target, ensured, located, again⟩ := exists_made_of_writeFile parent first
  have begun : (writeFiles (file :: rest)).run.run { site with tree := made } = (.ok (), last) :=
    (run_bind_of_ok again _).trans others
  obtain ⟨goal, enters⟩ := exists_enters written (joined ▸ located)
  have old := noNewLinks_writeFiles made (file :: rest) { site with tree := made }
    fun _ _ found => found
  rw [begun] at old
  have nothing : Wrote id made made [] := Wrote.nil
  have ends := triple_writeFiles_wrote (file :: rest) { site with tree := made } nothing
  simp only [id_eq, List.map_id'] at ends
  rw [begun] at ends
  obtain ⟨more, files, wrote⟩ := ends
  exact ⟨made, goal, more, ensured, enters, old, files, by rwa [List.append_nil] at wrote⟩

/-- Files of one folder are all read back, unless a link stood in the place of one when the
directory above them was there. -/
theorem readText_of_writeFiles (folder : Path) {files : List (Path × String)}
    (named : ∀ file ∈ files, ∃ name,
      (Component.name name).IsWritten ∧ file.1 = folder.join ⟨name⟩)
    (distinct : (files.map Prod.fst).Nodup)
    (noLink : ∀ file ∈ files, ∀ above made, file.1.parent? = some above →
      site.tree.ensureDirectory above = .ok made → made.isLink file.1 = false)
    (done : (writeFiles files).run.run site = (.ok (), last)) :
    ∀ file ∈ files, last.tree.readText file.1 = .ok file.2 := by
  obtain ⟨above, parent⟩ := folder.exists_parent?_join
  cases files with
  | nil => exact fun file hf => by cases hf
  | cons first rest =>
    obtain ⟨name, written, joined⟩ := named first List.mem_cons_self
    obtain ⟨made, goal, more, ensured, enters, old, files, wrote⟩ :=
      exists_wrote_of_writeFiles written joined (joined ▸ parent name written) done
    have asked : ∀ w ∈ more, w.file ∈ first :: rest := by
      intro w hw
      rw [← files]
      exact List.mem_map_of_mem (List.mem_reverse.2 hw)
    -- each file stands behind the place of the folder, under its own name
    have stands : ∀ w ∈ more, ∃ name, w.path = folder.join ⟨name⟩ ∧ w.place = goal ++ [name] := by
      intro w hw
      obtain ⟨name, written, joined⟩ := named _ (asked w hw)
      have path : w.path = folder.join ⟨name⟩ := joined
      have free := noLink _ (asked w hw) above made (joined ▸ parent name written) ensured
      exact ⟨name, path,
        enters.place_eq written wrote.kept old (joined ▸ free) (path ▸ wrote.sends w hw)⟩
    have apart : ∀ v ∈ more, ∀ w ∈ more, v.place = w.place → v.body = w.body := by
      intro v hv w hw same
      obtain ⟨name, path, place⟩ := stands v hv
      obtain ⟨other, path', place'⟩ := stands w hw
      rw [place, place'] at same
      have names : name = other := by simpa using same
      have paths : v.path = w.path := by rw [path, path', names]
      exact congrArg Prod.snd (List.inj_on_of_nodup_map distinct (asked v hv) (asked w hw) paths)
    intro file hf
    obtain ⟨w, hw, rfl⟩ := List.mem_map.1 (files ▸ hf)
    exact wrote.readText apart w (List.mem_reverse.1 hw)

end Emitter

end WrapperGen
