import WrapperGen.Proofs.Walking

/-!
# Changes that only add

Making a directory adds directories at free places.  Writing a file adds it at a free place, as
long as the path led nowhere when it was asked about and the directory above it was there then: the
tree may have grown since, but the walk to that directory is the same, and behind it there is at
most a file that is new itself.

## Main definitions

* `FileTree.LeadsTo`: the directory that a path leads to, in the tree and in all that grow from it.
* `FileTree.Furnished`: a tree with directories more.
* `FileTree.StandsIn`: a path with one name more than that of a directory.

## Main results

* `FileTree.exists?_of_grown`: a path that leads nowhere led nowhere before.
* `FileTree.find_of_rewritten`: a path leads where it led before files were rewritten.
* `FileTree.furnished_ensureDirectory`: making directories does nothing else.
* `FileTree.ensureDirectory_ok`: making directories only adds, and the path leads to one then.
* `FileTree.grown_writeText`: writing a file where none was only adds.
-/

namespace WrapperGen
namespace FileTree

variable {tree later made : FileTree} {p dir : Path}

/-! ### Looking -/

theorem locateSteps_ok {followLast : Bool} {steps : List String} {target : Target}
    (h : tree.locateSteps followLast p steps = .ok target) :
    p.text.isEmpty = false ∧ p.text.toList.contains '\x00' = false
      ∧ walk tree followLast maxLinks steps [] = .ok target := by
  unfold locateSteps at h
  by_cases empty : p.text.isEmpty = true
  · rw [if_pos empty] at h
    cases h
  · rw [if_neg empty] at h
    by_cases null : p.text.toList.contains '\x00' = true
    · rw [if_pos null] at h
      cases h
    · rw [if_neg null] at h
      exact ⟨by simpa using empty, by simpa using null, h⟩

theorem locateSteps_of_walk {followLast : Bool} (steps : List String)
    (empty : p.text.isEmpty = false) (null : p.text.toList.contains '\x00' = false) :
    tree.locateSteps followLast p steps = walk tree followLast maxLinks steps [] := by
  rw [locateSteps, empty, null]
  rfl

theorem exists?_eq_false_iff : tree.exists? p = .ok false ↔ IsOpen (tree.locate false p) := by
  unfold exists? IsOpen
  cases h : tree.locate false p with
  | ok target =>
    cases target with
    | found place entry => simp
    | free place => simp
  | error cause => cases cause <;> simp

/-- A path that leads nowhere led nowhere before the tree grew. -/
theorem exists?_of_grown (h : Grown tree later) (nowhere : later.exists? p = .ok false) :
    tree.exists? p = .ok false := by
  rw [exists?_eq_false_iff] at nowhere ⊢
  unfold locate locateSteps at nowhere ⊢
  by_cases empty : p.text.isEmpty = true
  · rw [if_pos empty]
    exact Or.inl rfl
  · rw [if_neg empty] at nowhere ⊢
    by_cases null : p.text.toList.contains '\x00' = true
    · rw [if_pos null] at nowhere
      rcases nowhere with e | ⟨place, e⟩ <;> cases e
    · rw [if_neg null] at nowhere ⊢
      exact isOpen_of_grown h nowhere

/-! ### Directories on the way -/

/-- The names of `dir` lead to the directory at `goal`, and whatever follows them goes on from
there, as long as the tree only grows. -/
def LeadsTo (tree : FileTree) (dir : Path) (goal : Location) : Prop :=
  ∃ left, ∀ later, Grown tree later → ∀ followLast name more,
    walk later followLast maxLinks (slashSegments dir.text ++ name :: more) []
      = walk later followLast left (name :: more) goal

theorem leadsTo_of_empty (h : dir.text = "") : LeadsTo tree dir [] := by
  refine ⟨maxLinks, fun later _ followLast name more => ?_⟩
  rw [h]
  rfl

/-- What a path leads to, in the words of walks. -/
theorem find_eq_ok_iff {place : Location} {entry : Entry} :
    tree.find p = .ok (place, entry) ↔ tree.locate true p = .ok (.found place entry) := by
  unfold find
  cases tree.locate true p with
  | error cause => simp
  | ok target =>
    cases target with
    | free place => simp
    | found place entry => simp

/-- Where only files have been rewritten, a path leads where it led, to what stands there now; what
it leads to is never a link. -/
theorem find_of_rewritten (h : Rewritten tree later) {place : Location} {entry : Entry}
    (found : tree.find p = .ok (place, entry)) :
    tree.entryAt place = some entry
      ∧ ∃ other, later.entryAt place = some other ∧ later.find p = .ok (place, other) := by
  obtain ⟨empty, null, walked⟩ := locateSteps_ok (find_eq_ok_iff.1 found)
  have stood := entryAt_of_found (IsInside.top tree) walked
  have stands : ∃ other, later.entryAt place = some other ∧ ∀ target, other ≠ .link target := by
    cases entry with
    | directory bits => exact ⟨_, h.directories _ _ stood, fun _ e => by cases e⟩
    | file content mode =>
      obtain ⟨content, mode, there⟩ := h.files _ _ _ stood
      exact ⟨_, there, fun _ e => by cases e⟩
    | link target => exact absurd rfl (ne_link_of_found (IsInside.top tree) walked target)
  obtain ⟨other, there, noLink⟩ := stands
  refine ⟨stood, other, there, find_eq_ok_iff.2 ?_⟩
  rw [locate, locateSteps_of_walk _ empty null]
  exact walk_of_rewritten h walked there noLink

/-- A path to a directory leads to it still when files are rewritten. -/
theorem find_directory_of_rewritten (h : Rewritten tree later) {goal : Location} {bits : Nat}
    (found : tree.find p = .ok (goal, .directory bits)) :
    later.find p = .ok (goal, .directory bits) := by
  obtain ⟨stood, other, stands, again⟩ := find_of_rewritten h found
  rw [h.directories _ _ stood] at stands
  rw [again, ← Option.some.inj stands]

theorem find_of_isDirectory (h : tree.isDirectory dir = true) :
    ∃ goal bits, tree.find dir = .ok (goal, .directory bits) := by
  unfold isDirectory at h
  split at h
  · next goal bits found => exact ⟨goal, bits, found⟩
  · cases h

/-- What is a directory stays one when files are rewritten. -/
theorem isDirectory_of_rewritten (h : Rewritten tree later) (there : tree.isDirectory dir = true) :
    later.isDirectory dir = true := by
  obtain ⟨goal, bits, found⟩ := find_of_isDirectory there
  rw [isDirectory, find_directory_of_rewritten h found]

theorem exists_leadsTo_of_isDirectory (h : tree.isDirectory dir = true) :
    ∃ goal, LeadsTo tree dir goal := by
  obtain ⟨goal, bits, found⟩ := find_of_isDirectory h
  obtain ⟨-, -, walked⟩ := locateSteps_ok (find_eq_ok_iff.1 found)
  obtain ⟨left, onward⟩ := exists_walk_append walked
  refine ⟨goal, left, fun later grown followLast name more => ?_⟩
  -- the walk behind the directory starts from its names without the slash at the end, which asks
  -- for nothing more here
  have way := onward later grown followLast name more
  unfold walkSteps at way
  by_cases slash : endsInSlash dir = true
  · rw [if_pos slash, List.append_assoc, List.singleton_append, walk_append_here] at way
    exact way
  · rw [if_neg slash, List.append_nil] at way
    exact way

/-! ### Making directories -/

/-- The tree `later` is `tree` with some directories more, put one after the other at places that
were free.  Nothing else can become of a tree in which directories are made, so whatever the first
tree has and each single directory leaves alone, the last tree has too. -/
inductive Furnished (tree : FileTree) : FileTree → Prop
  /-- No directory has been put yet. -/
  | refl : Furnished tree tree
  /-- One more directory is put. -/
  | put {later : FileTree} {place : Location} (before : Furnished tree later)
      (free : later.entryAt place = none) :
      Furnished tree (later.put place (.directory directoryMode))

namespace Furnished

variable {last : FileTree}

theorem trans (h : Furnished tree later) (h' : Furnished later last) : Furnished tree last := by
  induction h' with
  | refl => exact h
  | put before free ih => exact ih.put free

theorem grown (h : Furnished tree later) : Grown tree later := by
  induction h with
  | refl => exact Grown.refl tree
  | put before free ih => exact ih.trans ((Grown.refl _).put free fun target e => by cases e)

end Furnished

theorem makeDirectory_ok (h : tree.makeDirectory p = .ok made) :
    ∃ place, tree.locateSteps false p (slashSegments p.text) = .ok (.free place)
      ∧ made = tree.put place (.directory directoryMode) := by
  unfold makeDirectory at h
  cases hl : tree.locateSteps false p (slashSegments p.text) with
  | error cause =>
    rw [hl] at h
    cases h
  | ok target =>
    rw [hl] at h
    cases target with
    | free place => exact ⟨place, rfl, (Except.ok.inj h).symm⟩
    | found place entry => cases h

theorem furnished_makeDirectory (h : tree.makeDirectory p = .ok made) : Furnished tree made := by
  obtain ⟨place, located, rfl⟩ := makeDirectory_ok h
  obtain ⟨-, -, walked⟩ := locateSteps_ok located
  exact Furnished.refl.put (entryAt_of_free walked)

theorem isDirectory_makeDirectory (h : tree.makeDirectory p = .ok made) :
    made.isDirectory p = true := by
  have grown := (furnished_makeDirectory h).grown
  obtain ⟨place, located, rfl⟩ := makeDirectory_ok h
  obtain ⟨empty, null, walked⟩ := locateSteps_ok located
  -- the place was free, so it is not the top, and what has been put there is found
  have free := entryAt_of_free walked
  have below : place ≠ [] := by
    rintro rfl
    rw [entryAt_nil] at free
    cases free
  have put := entryAt_put_self tree (.directory directoryMode) below
  have there : walk (tree.put place (.directory directoryMode)) true maxLinks
      (slashSegments p.text) [] = .ok (.found place (.directory directoryMode)) :=
    walk_of_rewritten grown.rewritten walked put fun _ e => by cases e
  have found : (tree.put place (.directory directoryMode)).locate true p
      = .ok (.found place (.directory directoryMode)) := by
    rw [locate, locateSteps_of_walk _ empty null, walkSteps]
    by_cases slash : endsInSlash p = true
    · obtain ⟨left, onward⟩ := exists_walk_append there
      rw [if_pos slash, onward _ (Grown.refl _), walk_here, walk_nil, put]
      rfl
    · rw [if_neg slash, List.append_nil]
      exact there
  rw [isDirectory, find, found]

theorem makeBelow_ok {makeParent : Except FileError FileTree}
    (parent : ∀ above, makeParent = .ok above → Furnished tree above)
    (h : tree.makeBelow p makeParent = .ok made) :
    Furnished tree made ∧ made.isDirectory p = true := by
  unfold makeBelow at h
  cases direct : tree.makeDirectory p with
  | ok there =>
    rw [direct] at h
    obtain rfl := Except.ok.inj h
    exact ⟨furnished_makeDirectory direct, isDirectory_makeDirectory direct⟩
  | error cause =>
    rw [direct] at h
    -- every other failure is no failure if the directory is there already
    have found : (if tree.isDirectory p then Except.ok tree else .error cause) = .ok made →
        Furnished tree made ∧ made.isDirectory p = true := by
      intro hf
      by_cases there : tree.isDirectory p = true
      · rw [if_pos there] at hf
        obtain rfl := Except.ok.inj hf
        exact ⟨Furnished.refl, there⟩
      · rw [if_neg there] at hf
        cases hf
    cases cause with
    | missing =>
      -- the parent was missing, and has been made in between
      dsimp only at h
      cases hp : makeParent with
      | error cause =>
        rw [hp] at h
        cases h
      | ok above =>
        rw [hp] at h
        have furnished := parent above hp
        cases behind : above.makeDirectory p with
        | ok there =>
          simp only [behind] at h
          obtain rfl := Except.ok.inj h
          exact ⟨furnished.trans (furnished_makeDirectory behind), isDirectory_makeDirectory behind⟩
        | error cause =>
          simp only [behind] at h
          by_cases there : above.isDirectory p = true
          · rw [if_pos there] at h
            obtain rfl := Except.ok.inj h
            exact ⟨furnished, there⟩
          · rw [if_neg there] at h
            cases h
    | _ => exact found h

/-- The first path is made below the others, or is empty and left alone. -/
theorem makeDirectories_cons_ok {paths : List Path}
    (below : ∀ above, tree.makeDirectories paths = .ok above → Furnished tree above)
    (h : tree.makeDirectories (p :: paths) = .ok made) :
    Furnished tree made ∧ (made.isDirectory p = true ∨ p.text = "") := by
  rw [makeDirectories] at h
  by_cases empty : p.text.isEmpty = true
  · rw [if_pos empty] at h
    obtain rfl := Except.ok.inj h
    exact ⟨Furnished.refl, .inr (by simpa using empty)⟩
  · rw [if_neg empty] at h
    exact (makeBelow_ok below h).imp_right .inl

theorem makeDirectories_ok {paths : List Path} (h : tree.makeDirectories (p :: paths) = .ok made) :
    Furnished tree made ∧ (made.isDirectory p = true ∨ p.text = "") := by
  induction paths generalizing p made with
  | nil => exact makeDirectories_cons_ok (fun above e => by cases e) h
  | cons next rest ih => exact makeDirectories_cons_ok (fun above e => (ih e).1) h

/-- A path is the first of its own ancestors. -/
theorem exists_ancestors_eq_cons (dir : Path) : ∃ above, dir.ancestors = dir :: above := by
  unfold Path.ancestors
  cases dir.text.length with
  | zero => exact ⟨[], rfl⟩
  | succ steps =>
    rw [Path.upwards]
    cases dir.parent? with
    | none => exact ⟨[], rfl⟩
    | some q => exact ⟨_, rfl⟩

/-- To make sure of a directory is to make it and those above it where they are missing.  Behind
that the path leads to it, unless the path is empty and asks for none. -/
theorem furnished_ensureDirectory (h : tree.ensureDirectory dir = .ok made) :
    Furnished tree made ∧ (made.isDirectory dir = true ∨ dir.text = "") := by
  unfold ensureDirectory at h
  by_cases there : tree.isDirectory dir = true
  · rw [if_pos there] at h
    obtain rfl := Except.ok.inj h
    exact ⟨Furnished.refl, Or.inl there⟩
  · rw [if_neg there] at h
    obtain ⟨above, e⟩ := exists_ancestors_eq_cons dir
    rw [e] at h
    exact makeDirectories_ok h

theorem grown_ensureDirectory (h : tree.ensureDirectory dir = .ok made) :
    Grown tree made ∧ (made.isDirectory dir = true ∨ dir.text = "") :=
  (furnished_ensureDirectory h).imp_left Furnished.grown

theorem ensureDirectory_ok (h : tree.ensureDirectory dir = .ok made) :
    Grown tree made ∧ ∃ goal, LeadsTo made dir goal := by
  obtain ⟨grown, found⟩ := grown_ensureDirectory h
  refine ⟨grown, ?_⟩
  rcases found with there | empty
  · exact exists_leadsTo_of_isDirectory there
  · exact ⟨[], leadsTo_of_empty empty⟩

/-- To make sure of a directory that is there changes nothing; the empty path asks for none. -/
theorem ensureDirectory_of_found (found : tree.isDirectory dir = true ∨ dir.text = "") :
    tree.ensureDirectory dir = .ok tree := by
  unfold ensureDirectory
  by_cases there : tree.isDirectory dir = true
  · rw [if_pos there]
  · have empty : dir.text.isEmpty = true := by simpa using found.resolve_left there
    obtain ⟨above, e⟩ := exists_ancestors_eq_cons dir
    rw [if_neg there, e, makeDirectories, if_pos empty]

/-- Making sure of a directory changes nothing exactly if the directory is there already; the empty
path asks for none. -/
theorem ensureDirectory_eq_self_iff (h : tree.ensureDirectory dir = .ok made) :
    made = tree ↔ tree.isDirectory dir = true ∨ dir.text = "" := by
  constructor
  · rintro rfl
    exact (grown_ensureDirectory h).2
  · intro found
    exact (Except.ok.inj ((ensureDirectory_of_found found).symm.trans h)).symm

/-! ### Writing -/

/-- A file that stands in a directory: its path has one name more, and no slash behind it. -/
structure StandsIn (path dir : Path) (name : String) : Prop where
  /-- The names on the way. -/
  names : slashSegments path.text = slashSegments dir.text ++ [name]
  /-- The path asks for no directory. -/
  noSlash : endsInSlash path = false

theorem isOpen_walk_singleton {links : Nat} {name : String} {place : Location}
    (h : IsOpen (walk tree false links [name] place)) :
    name ≠ "." ∧ name ≠ ".." ∧ ¬ name.utf8ByteSize > maxNameBytes
      ∧ tree.entryAt (place ++ [name]) = none := by
  have notFound : ∀ place entry, ¬ IsOpen (.ok (.found place entry)) := by
    rintro place entry (e | ⟨free, e⟩) <;> cases e
  have hh : name ≠ "." := by
    rintro rfl
    rw [walk_here, walk_nil] at h
    exact notFound _ _ h
  have hu : name ≠ ".." := by
    rintro rfl
    rw [walk_up, walk_nil] at h
    exact notFound _ _ h
  rw [walk_name _ _ _ _ _ hh hu] at h
  by_cases long : name.utf8ByteSize > maxNameBytes
  · rw [if_pos long] at h
    rcases h with e | ⟨free, e⟩ <;> cases e
  rw [if_neg long] at h
  refine ⟨hh, hu, long, ?_⟩
  cases found : tree.entryAt (place ++ [name]) with
  | none => rfl
  | some entry =>
    rw [found] at h
    cases entry with
    | directory mode =>
      dsimp only at h
      rw [walk_nil] at h
      exact absurd h (notFound _ _)
    | file content mode => exact absurd h (notFound _ _)
    | link target => exact absurd h (notFound _ _)

/-- Behind the directory above it, a file that was nowhere is at a free place, at a file or at a
directory of later: the tree has grown no links. -/
theorem walk_singleton_of_grown {links : Nat} {name : String} {place : Location}
    (nowhere : IsOpen (walk tree false links [name] place)) (grown : Grown tree later)
    (fewer : Nat) :
    walk later true fewer [name] place = .ok (.free (place ++ [name]))
      ∨ ∃ entry, walk later true fewer [name] place = .ok (.found (place ++ [name]) entry) := by
  obtain ⟨hh, hu, long, free⟩ := isOpen_walk_singleton nowhere
  rw [walk_name _ _ _ _ _ hh hu, if_neg long]
  cases found : later.entryAt (place ++ [name]) with
  | none => exact Or.inl rfl
  | some entry =>
    right
    cases entry with
    | directory mode => exact ⟨_, walk_nil _ _ _ _⟩
    | file content mode => exact ⟨_, rfl⟩
    -- a link would have been there before the tree grew
    | link target =>
      have old := grown.noLinks _ _ found
      rw [free] at old
      cases old

/-- To write a file where none was, when its directory was there already, only adds. -/
theorem grown_writeText {path : Path} {name value : String} {goal : Location}
    (stands : StandsIn path dir name) (leads : LeadsTo tree dir goal)
    (nowhere : tree.exists? path = .ok false) (grown : Grown tree later)
    (h : later.writeText path value = .ok made) : Grown tree made := by
  obtain ⟨left, onward⟩ := leads
  have way : ∀ last, Grown tree last → ∀ followLast,
      walk last followLast maxLinks (walkSteps path) []
        = walk last followLast left [name] goal := by
    intro last hl followLast
    rw [walkSteps, stands.noSlash, stands.names]
    simp only [Bool.false_eq_true, if_false, List.append_nil]
    exact onward last hl followLast name []
  -- a path with a name is neither empty nor, as it led nowhere, one with a null character
  have full : path.text.isEmpty = false := by
    cases empty : path.text.isEmpty with
    | false => rfl
    | true =>
      have nothing : path.text = "" := by simpa using empty
      have names : [] = slashSegments dir.text ++ [name] := by rw [← stands.names, nothing]; rfl
      exact absurd names.symm (by simp)
  rw [exists?_eq_false_iff, locate] at nowhere
  unfold writeText writeContent locateFile at h
  rw [stands.noSlash, if_neg Bool.false_ne_true, locate] at h
  by_cases null : path.text.toList.contains '\x00' = true
  · unfold locateSteps at nowhere
    rw [full, if_neg Bool.false_ne_true, if_pos null] at nowhere
    rcases nowhere with e | ⟨place, e⟩ <;> cases e
  have null' : path.text.toList.contains '\x00' = false := by simpa using null
  rw [locateSteps_of_walk _ full null', way tree (Grown.refl _)] at nowhere
  rw [locateSteps_of_walk _ full null', way later grown] at h
  obtain ⟨-, -, -, free⟩ := isOpen_walk_singleton nowhere
  have added : ∀ content, Grown tree (later.put (goal ++ [name]) (.file content fileMode)) :=
    fun content => grown.put free fun target e => by cases e
  -- a file may be there by now, but then it has been written by the run itself
  rcases walk_singleton_of_grown nowhere grown left with e | ⟨entry, e⟩
  · rw [e] at h
    obtain rfl := Except.ok.inj h
    exact added _
  · rw [e] at h
    cases entry with
    | file content mode =>
      obtain rfl := Except.ok.inj h
      exact added _
    | directory mode => cases h
    | link target => cases h

end FileTree
end WrapperGen
