import WrapperGen.FileTree

/-!
# Walking through file trees

A walk follows names, and the names that links hold.  Whatever is shown of walks is shown by one
induction: over the number of links that may still be followed, and below that over the names.

Where a tree has grown, every step that led somewhere leads there still.  Only where something was
missing may a walk come further than before.  As walks pass through directories and links only, that
is so as well where files have been given other contents.

## Main definitions

* `FileTree.Grown`: one tree has all entries of another, and no further links.
* `FileTree.Rewritten`: one tree has all directories and links of another, and files at its files.
* `FileTree.IsInside`: a place that is reached through directories.
* `FileTree.IsOpen`: a walk that comes to nothing.

## Main results

* `FileTree.walk_induction`: the induction over walks.
* `FileTree.nameStep_of_walk`: what the first step of a walk may have been.
* `FileTree.isOpen_of_grown`: what is missing now was missing before.
* `FileTree.entryAt_of_found`: what a walk finds stands in the tree.
* `FileTree.ne_link_of_found`: a walk that follows the last link too ends at none.
* `FileTree.walk_of_rewritten`: a walk leads to what stands at its end in a later tree.
* `FileTree.exists_walk_append`: a walk through a directory goes on from that directory.
-/

namespace WrapperGen
namespace FileTree

/-! ### Trees that grow -/

/-- The tree `later` has every entry of `tree`, and links only where `tree` has them. -/
structure Grown (tree later : FileTree) : Prop where
  /-- Every entry stays. -/
  kept : ∀ place entry, tree.entryAt place = some entry → later.entryAt place = some entry
  /-- No link is new. -/
  noLinks : ∀ place target, later.entryAt place = some (.link target) →
    tree.entryAt place = some (.link target)

namespace Grown

variable {tree later last : FileTree}

theorem refl (tree : FileTree) : Grown tree tree := ⟨fun _ _ h => h, fun _ _ h => h⟩

theorem trans (h : Grown tree later) (h' : Grown later last) : Grown tree last :=
  ⟨fun place entry hp => h'.kept place entry (h.kept place entry hp),
    fun place target hp => h.noLinks place target (h'.noLinks place target hp)⟩

/-- An entry at a place that was free does no harm to the entries of before. -/
theorem put (h : Grown tree later) {place : Location} {entry : Entry}
    (free : tree.entryAt place = none) (noLink : ∀ target, entry ≠ .link target) :
    Grown tree (later.put place entry) := by
  have below : place ≠ [] := by
    rintro rfl
    rw [entryAt_nil] at free
    cases free
  constructor
  · intro other found hf
    have ne : other ≠ place := by
      rintro rfl
      rw [free] at hf
      cases hf
    rw [entryAt_put_of_ne later entry ne]
    exact h.kept other found hf
  · intro other target hl
    by_cases same : other = place
    · rw [same, entryAt_put_self later entry below] at hl
      exact absurd (Option.some.inj hl) (noLink target)
    · rw [entryAt_put_of_ne later entry same] at hl
      exact h.noLinks other target hl

end Grown

/-! ### Trees that are rewritten -/

/-- The tree `later` has the directories and the links of `tree`, and where `tree` has a file, it
has one too. -/
structure Rewritten (tree later : FileTree) : Prop where
  /-- Every directory stays. -/
  directories : ∀ place bits, tree.entryAt place = some (.directory bits) →
    later.entryAt place = some (.directory bits)
  /-- Every link stays. -/
  links : ∀ place target, tree.entryAt place = some (.link target) →
    later.entryAt place = some (.link target)
  /-- Every file stays a file, whatever it holds. -/
  files : ∀ place content mode, tree.entryAt place = some (.file content mode) →
    ∃ content mode, later.entryAt place = some (.file content mode)

theorem Grown.rewritten {tree later : FileTree} (h : Grown tree later) : Rewritten tree later where
  directories := fun place _ => h.kept place _
  links := fun place _ => h.kept place _
  files := fun place content mode found => ⟨content, mode, h.kept place _ found⟩

namespace Rewritten

variable {tree later last : FileTree}

theorem refl (tree : FileTree) : Rewritten tree tree := (Grown.refl tree).rewritten

theorem trans (h : Rewritten tree later) (h' : Rewritten later last) : Rewritten tree last where
  directories := fun place bits found => h'.directories place bits (h.directories place bits found)
  links := fun place target found => h'.links place target (h.links place target found)
  files := by
    intro place content mode found
    obtain ⟨_, _, between⟩ := h.files place content mode found
    exact h'.files place _ _ between

/-- A file may be put where there is nothing but a file. -/
theorem put (h : Rewritten tree later) {place : Location} {content : Content} {mode : Nat}
    (fits : ∀ entry, later.entryAt place = some entry →
      ∃ content mode, entry = .file content mode) :
    Rewritten tree (later.put place (.file content mode)) := by
  have below : place ≠ [] := by
    rintro rfl
    obtain ⟨_, _, e⟩ := fits _ (entryAt_nil later)
    cases e
  have kept : ∀ there entry, (∀ content mode, entry ≠ .file content mode) →
      later.entryAt there = some entry →
      (later.put place (.file content mode)).entryAt there = some entry := by
    intro there entry noFile found
    have other : there ≠ place := by
      rintro rfl
      obtain ⟨_, _, e⟩ := fits entry found
      exact noFile _ _ e
    rw [entryAt_put_of_ne later _ other]
    exact found
  refine ⟨fun there bits found => ?_, fun there target found => ?_, fun there _ _ found => ?_⟩
  · exact kept there _ (fun _ _ e => by cases e) (h.directories there bits found)
  · exact kept there _ (fun _ _ e => by cases e) (h.links there target found)
  · by_cases same : there = place
    · rw [same, entryAt_put_self later _ below]
      exact ⟨_, _, rfl⟩
    · rw [entryAt_put_of_ne later _ same]
      exact h.files there _ _ found

end Rewritten

/-- A place that is reached through directories, and is one itself. -/
def IsInside (tree : FileTree) (place : Location) : Prop :=
  ∀ above, above <+: place → ∃ bits, tree.entryAt above = some (.directory bits)

namespace IsInside

variable {tree : FileTree} {place : Location}

theorem top (tree : FileTree) : IsInside tree [] := by
  intro above h
  rw [List.prefix_nil.1 h]
  exact ⟨_, entryAt_nil tree⟩

theorem up (h : IsInside tree place) : IsInside tree place.dropLast :=
  fun above ha => h above (ha.trans place.dropLast_prefix)

theorem enter (h : IsInside tree place) {name : String} {bits : Nat}
    (found : tree.entryAt (place ++ [name]) = some (.directory bits)) :
    IsInside tree (place ++ [name]) := by
  intro above ha
  rcases List.prefix_concat_iff.1 ha with rfl | ha
  · exact ⟨bits, found⟩
  · exact h above ha

end IsInside

/-! ### Steps of a walk -/

/-- How a walk goes on behind a link. -/
def follow (tree : FileTree) (followLast : Bool) :
    Nat → List String → Location → Except FileError Target
  | 0, _, _ => .error .linkLoop
  | links + 1, names, place => walk tree followLast links names place

section Steps

variable (tree : FileTree) (followLast : Bool) (links : Nat) (rest : List String)
  (place : Location)

theorem walk_eq : walk tree followLast links
    = walkNames tree followLast (follow tree followLast links) := by
  cases links with
  | zero => rfl
  | succ links => rfl

@[simp] theorem walk_nil : walk tree followLast links [] place
    = .ok (.found place ((tree.entryAt place).getD (.directory directoryMode))) := by
  rw [walk_eq, walkNames]

@[simp] theorem walk_here :
    walk tree followLast links ("." :: rest) place = walk tree followLast links rest place := by
  rw [walk_eq, walkNames, if_pos (by decide)]

@[simp] theorem walk_up : walk tree followLast links (".." :: rest) place
    = walk tree followLast links rest place.dropLast := by
  rw [walk_eq, walkNames, if_neg (by decide), if_pos (by decide)]

theorem walk_name {name : String} (hh : name ≠ ".") (hu : name ≠ "..") :
    walk tree followLast links (name :: rest) place
      = if name.utf8ByteSize > maxNameBytes then .error .longName
        else match tree.entryAt (place ++ [name]) with
          | none => if rest.isEmpty then .ok (.free (place ++ [name])) else .error .missing
          | some (.directory _) => walk tree followLast links rest (place ++ [name])
          | some (.file content mode) =>
              if rest.isEmpty then .ok (.found (place ++ [name]) (.file content mode))
              else .error .notDirectory
          | some (.link target) =>
              if rest.isEmpty && !followLast then .ok (.found (place ++ [name]) (.link target))
              else follow tree followLast links (walkSteps target ++ rest)
                (if target.isAbsolute then [] else place) := by
  rw [walk_eq, walkNames]
  exact (if_neg (by simpa using hh)).trans (if_neg (by simpa using hu))

end Steps

/-- Walks, by the links that may be followed and then by the names.  Behind a link there is one
link less to follow, whatever names it holds. -/
@[elab_as_elim]
theorem walk_induction {motive : Nat → List String → Location → Prop}
    (done : ∀ links place, motive links [] place)
    (here : ∀ links rest place, motive links rest place → motive links ("." :: rest) place)
    (up : ∀ links rest place, motive links rest place.dropLast →
      motive links (".." :: rest) place)
    (name : ∀ links name rest place, name ≠ "." → name ≠ ".." →
      motive links rest (place ++ [name]) →
      (∀ fewer target, links = fewer + 1 →
        motive fewer (walkSteps target ++ rest) (if target.isAbsolute then [] else place)) →
      motive links (name :: rest) place)
    (links : Nat) (names : List String) (place : Location) : motive links names place := by
  have inner : ∀ links, (∀ fewer, links = fewer + 1 → ∀ names place, motive fewer names place) →
      ∀ names place, motive links names place := by
    intro links behind names
    induction names with
    | nil => exact done links
    | cons first rest ih =>
      intro place
      by_cases hh : first = "."
      · subst hh
        exact here links rest place (ih place)
      · by_cases hu : first = ".."
        · subst hu
          exact up links rest place (ih _)
        · exact name links first rest place hh hu (ih _)
            fun fewer target e => behind fewer e _ _
  -- the names are followed with a fixed number of links; only behind a link is there one less
  induction links generalizing names place with
  | zero => exact inner 0 (fun fewer e => by omega) names place
  | succ links ih =>
    refine inner (links + 1) (fun fewer e names place => ?_) names place
    obtain rfl : links = fewer := by omega
    exact ih names place

/-- The place of what a walk leads to. -/
def Target.place : Target → Location
  | .found place _ => place
  | .free place => place

/-- How a walk that comes to `target` takes its first name, which is none of the dots. -/
inductive NameStep (tree : FileTree) (followLast : Bool) (links : Nat) (name : String)
    (rest : List String) (place : Location) (target : Target) : Prop
  /-- Nothing is there, and the walk ends at a free place. -/
  | free (missing : tree.entryAt (place ++ [name]) = none) (last : rest = [])
    (ends : target = .free (place ++ [name]))
  /-- The walk goes on in a directory. -/
  | enter (bits : Nat) (found : tree.entryAt (place ++ [name]) = some (.directory bits))
    (onward : walk tree followLast links rest (place ++ [name]) = .ok target)
  /-- The walk ends at a file. -/
  | file (content : Content) (mode : Nat)
    (found : tree.entryAt (place ++ [name]) = some (.file content mode)) (last : rest = [])
    (ends : target = .found (place ++ [name]) (.file content mode))
  /-- The walk ends at a link. -/
  | link (goal : Path) (found : tree.entryAt (place ++ [name]) = some (.link goal))
    (stop : followLast = false) (ends : target = .found (place ++ [name]) (.link goal))
  /-- The walk goes on behind a link. -/
  | jump (goal : Path) (fewer : Nat) (found : tree.entryAt (place ++ [name]) = some (.link goal))
    (go : ¬ (rest.isEmpty && !followLast) = true) (left : links = fewer + 1)
    (onward : walk tree followLast fewer (walkSteps goal ++ rest)
      (if goal.isAbsolute then [] else place) = .ok target)

theorem nameStep_of_walk {tree : FileTree} {followLast : Bool} {links : Nat} {name : String}
    {rest : List String} {place : Location} {target : Target} (hh : name ≠ ".") (hu : name ≠ "..")
    (walked : walk tree followLast links (name :: rest) place = .ok target) :
    ¬ name.utf8ByteSize > maxNameBytes
      ∧ NameStep tree followLast links name rest place target := by
  rw [walk_name _ _ _ _ _ hh hu] at walked
  by_cases long : name.utf8ByteSize > maxNameBytes
  · rw [if_pos long] at walked
    cases walked
  rw [if_neg long] at walked
  refine ⟨long, ?_⟩
  cases found : tree.entryAt (place ++ [name]) with
  | none =>
    rw [found] at walked
    by_cases last : rest.isEmpty = true
    · simp only [if_pos last, Except.ok.injEq] at walked
      exact .free found (List.isEmpty_iff.1 last) walked.symm
    · simp only [if_neg last] at walked
      cases walked
  | some entry =>
    rw [found] at walked
    cases entry with
    | directory bits => exact .enter bits found walked
    | file content mode =>
      dsimp only at walked
      by_cases last : rest.isEmpty = true
      · rw [if_pos last] at walked
        exact .file content mode found (List.isEmpty_iff.1 last) (Except.ok.inj walked).symm
      · rw [if_neg last] at walked
        cases walked
    | link goal =>
      dsimp only at walked
      by_cases stop : (rest.isEmpty && !followLast) = true
      · rw [if_pos stop] at walked
        have unfollowed : followLast = false := by
          rw [Bool.and_eq_true] at stop
          simpa using stop.2
        exact .link goal found unfollowed (Except.ok.inj walked).symm
      · rw [if_neg stop] at walked
        cases links with
        | zero => cases walked
        | succ fewer => exact .jump goal fewer found stop rfl walked

/-! ### Walks in grown trees -/

/-- A walk that comes to nothing: at its end is a free place, or a name before that is missing. -/
def IsOpen (result : Except FileError Target) : Prop :=
  result = .error .missing ∨ ∃ place, result = .ok (.free place)

section Grown

variable {tree later : FileTree} {followLast : Bool} {links : Nat} {names : List String}
  {place : Location}

theorem isOpen_of_grown (h : Grown tree later)
    (walked : IsOpen (walk later followLast links names place)) :
    IsOpen (walk tree followLast links names place) := by
  induction links, names, place using walk_induction with
  | done links place =>
    rw [walk_nil] at walked
    rcases walked with e | ⟨free, e⟩ <;> cases e
  | here links rest place ih =>
    rw [walk_here] at walked ⊢
    exact ih walked
  | up links rest place ih =>
    rw [walk_up] at walked ⊢
    exact ih walked
  | name links name rest place hh hu ih behind =>
    rw [walk_name _ _ _ _ _ hh hu] at walked ⊢
    by_cases long : name.utf8ByteSize > maxNameBytes
    · rw [if_pos long] at walked
      rcases walked with e | ⟨free, e⟩ <;> cases e
    rw [if_neg long] at walked ⊢
    cases found : tree.entryAt (place ++ [name]) with
    | none =>
      -- the tree itself ends here, whatever the grown one has at this place
      by_cases last : rest.isEmpty = true
      · exact Or.inr ⟨_, if_pos last⟩
      · exact Or.inl (if_neg last)
    | some entry =>
      rw [h.kept _ _ found] at walked
      cases entry with
      | directory mode => exact ih walked
      | file content mode => exact walked
      | link target =>
        dsimp only at walked ⊢
        by_cases stop : (rest.isEmpty && !followLast) = true
        · rw [if_pos stop] at walked
          rcases walked with e | ⟨free, e⟩ <;> cases e
        · rw [if_neg stop] at walked ⊢
          cases links with
          | zero => exact walked
          | succ fewer => exact behind fewer target rfl walked

theorem entryAt_of_free {free : Location}
    (walked : walk tree followLast links names place = .ok (.free free)) :
    tree.entryAt free = none := by
  induction links, names, place using walk_induction with
  | done links place =>
    rw [walk_nil] at walked
    cases walked
  | here links rest place ih =>
    rw [walk_here] at walked
    exact ih walked
  | up links rest place ih =>
    rw [walk_up] at walked
    exact ih walked
  | name links name rest place hh hu ih behind =>
    cases (nameStep_of_walk hh hu walked).2 with
    | free missing last ends =>
      cases ends
      exact missing
    | enter bits found onward => exact ih onward
    | file content mode found last ends => cases ends
    | link goal found stop ends => cases ends
    | jump goal fewer found go left onward => exact behind fewer goal left onward

/-- What a walk finds stands in the tree. -/
theorem entryAt_of_found (inside : IsInside tree place) {goal : Location} {entry : Entry}
    (walked : walk tree followLast links names place = .ok (.found goal entry)) :
    tree.entryAt goal = some entry := by
  induction links, names, place using walk_induction with
  | done links place =>
    rw [walk_nil, Except.ok.injEq, Target.found.injEq] at walked
    obtain ⟨rfl, rfl⟩ := walked
    obtain ⟨bits, there⟩ := inside place (List.prefix_refl place)
    rw [there]
    rfl
  | here links rest place ih =>
    rw [walk_here] at walked
    exact ih inside walked
  | up links rest place ih =>
    rw [walk_up] at walked
    exact ih inside.up walked
  | name links name rest place hh hu ih behind =>
    cases (nameStep_of_walk hh hu walked).2 with
    | free missing last ends => cases ends
    | enter bits found onward => exact ih (inside.enter found) onward
    | file content mode found last ends =>
      cases ends
      exact found
    | link goal found stop ends =>
      cases ends
      exact found
    | jump goal fewer found go left onward =>
      refine behind fewer goal left ?_ onward
      by_cases absolute : goal.isAbsolute = true
      · rw [if_pos absolute]
        exact IsInside.top tree
      · rw [if_neg absolute]
        exact inside

/-- A walk that follows the last link too does not end at a link. -/
theorem ne_link_of_found (inside : IsInside tree place) {goal : Location} {entry : Entry}
    (walked : walk tree true links names place = .ok (.found goal entry)) (target : Path) :
    entry ≠ .link target := by
  induction links, names, place using walk_induction with
  | done links place =>
    rw [walk_nil, Except.ok.injEq, Target.found.injEq] at walked
    obtain ⟨bits, there⟩ := inside place (List.prefix_refl place)
    rw [← walked.2, there]
    exact fun e => by cases e
  | here links rest place ih =>
    rw [walk_here] at walked
    exact ih inside walked
  | up links rest place ih =>
    rw [walk_up] at walked
    exact ih inside.up walked
  | name links name rest place hh hu ih behind =>
    cases (nameStep_of_walk hh hu walked).2 with
    | free missing last ends => cases ends
    | enter bits found onward => exact ih (inside.enter found) onward
    | file content mode found last ends =>
      cases ends
      exact fun e => by cases e
    | link goal found stop ends => cases stop
    | jump goal fewer found go left onward =>
      refine behind fewer goal left ?_ onward
      by_cases absolute : goal.isAbsolute = true
      · rw [if_pos absolute]
        exact IsInside.top tree
      · rw [if_neg absolute]
        exact inside

/-- Wherever a walk led, it leads to what stands there in a later tree, as long as that is no
link. -/
theorem walk_of_rewritten (h : Rewritten tree later) {target : Target} {entry : Entry}
    (walked : walk tree followLast links names place = .ok target)
    (there : later.entryAt target.place = some entry) (noLink : ∀ goal, entry ≠ .link goal) :
    walk later true links names place = .ok (.found target.place entry) := by
  induction links, names, place using walk_induction with
  | done links place =>
    rw [walk_nil, Except.ok.injEq] at walked
    subst walked
    rw [walk_nil, show later.entryAt place = some entry from there]
    rfl
  | here links rest place ih =>
    rw [walk_here] at walked ⊢
    exact ih walked
  | up links rest place ih =>
    rw [walk_up] at walked ⊢
    exact ih walked
  | name links name rest place hh hu ih behind =>
    obtain ⟨short, step⟩ := nameStep_of_walk hh hu walked
    rw [walk_name _ _ _ _ _ hh hu, if_neg short]
    -- where the walk ends, it meets what stands in the later tree
    have ends (last : rest = []) (e : target.place = place ++ [name]) :
        (match later.entryAt (place ++ [name]) with
          | none => if rest.isEmpty then .ok (.free (place ++ [name])) else .error .missing
          | some (.directory _) => walk later true links rest (place ++ [name])
          | some (.file content mode) =>
              if rest.isEmpty then .ok (.found (place ++ [name]) (.file content mode))
              else .error .notDirectory
          | some (.link target) =>
              if rest.isEmpty && !true then .ok (.found (place ++ [name]) (.link target))
              else follow later true links (walkSteps target ++ rest)
                (if target.isAbsolute then [] else place))
          = Except.ok (Target.found target.place entry) := by
      rw [e] at there ⊢
      rw [there, last]
      cases entry with
      | directory bits =>
        dsimp only
        rw [walk_nil, there]
        rfl
      | file content mode => rfl
      | link goal => exact absurd rfl (noLink goal)
    cases step with
    | free missing last e => exact ends last (by rw [e]; rfl)
    | enter bits found onward =>
      rw [h.directories _ _ found]
      exact ih onward
    | file content mode found last e => exact ends last (by rw [e]; rfl)
    | link goal found stop e =>
      subst e
      have same := (h.links _ _ found).symm.trans there
      exact absurd (Option.some.inj same).symm (noLink goal)
    | jump goal fewer found go left onward =>
      subst left
      rw [h.links _ _ found]
      dsimp only
      rw [if_neg (by simp)]
      exact behind fewer goal rfl onward

/-- A walk that follows the last link leads somewhere only if it does so without. -/
theorem exists_walk_unfollowed {target : Target}
    (walked : walk tree true links names place = .ok target) :
    ∃ seen, walk tree false links names place = .ok seen := by
  induction links, names, place using walk_induction with
  | done links place => exact ⟨_, walk_nil _ _ _ _⟩
  | here links rest place ih =>
    rw [walk_here] at walked ⊢
    exact ih walked
  | up links rest place ih =>
    rw [walk_up] at walked ⊢
    exact ih walked
  | name links name rest place hh hu ih behind =>
    obtain ⟨short, step⟩ := nameStep_of_walk hh hu walked
    rw [walk_name _ _ _ _ _ hh hu, if_neg short]
    cases step with
    | free missing last ends =>
      rw [missing, last]
      exact ⟨_, rfl⟩
    | enter bits found onward =>
      rw [found]
      exact ih onward
    | file content mode found last ends =>
      rw [found, last]
      exact ⟨_, rfl⟩
    | link goal found stop ends => cases stop
    | jump goal fewer found go left onward =>
      subst left
      rw [found]
      dsimp only
      by_cases last : (rest.isEmpty && !false) = true
      · rw [if_pos last]
        exact ⟨_, rfl⟩
      · rw [if_neg last]
        exact behind fewer goal rfl onward

/-- A walk to a directory goes on from there, also in a grown tree.  How many links are left to
follow depends on the way, not on what comes behind the directory. -/
theorem exists_walk_append {goal : Location} {bits : Nat}
    (walked : walk tree true links names place = .ok (.found goal (.directory bits))) :
    ∃ left, ∀ later, Grown tree later → ∀ followLast name more,
      walk later followLast links (names ++ name :: more) place
        = walk later followLast left (name :: more) goal := by
  induction links, names, place using walk_induction with
  | done links place =>
    rw [walk_nil, Except.ok.injEq, Target.found.injEq] at walked
    obtain ⟨rfl, -⟩ := walked
    exact ⟨links, fun _ _ _ _ _ => rfl⟩
  | here links rest place ih =>
    rw [walk_here] at walked
    obtain ⟨left, onward⟩ := ih walked
    refine ⟨left, fun later h followLast name more => ?_⟩
    rw [List.cons_append, walk_here]
    exact onward later h followLast name more
  | up links rest place ih =>
    rw [walk_up] at walked
    obtain ⟨left, onward⟩ := ih walked
    refine ⟨left, fun later h followLast name more => ?_⟩
    rw [List.cons_append, walk_up]
    exact onward later h followLast name more
  | name links first rest place hh hu ih behind =>
    obtain ⟨short, step⟩ := nameStep_of_walk hh hu walked
    cases step with
    | free missing last ends => cases ends
    | enter bits found onward =>
      obtain ⟨left, onward⟩ := ih onward
      refine ⟨left, fun later h followLast name more => ?_⟩
      rw [List.cons_append, walk_name _ _ _ _ _ hh hu, if_neg short, h.kept _ _ found]
      exact onward later h followLast name more
    | file content mode found last ends => cases ends
    | link goal found stop ends => cases ends
    | jump target fewer found go left onward =>
      -- something comes behind the link now, so it is followed in either way of walking
      subst left
      obtain ⟨left, onward⟩ := behind fewer target rfl onward
      refine ⟨left, fun later h followLast name more => ?_⟩
      rw [List.cons_append, walk_name _ _ _ _ _ hh hu, if_neg short, h.kept _ _ found]
      dsimp only
      rw [if_neg (by simp), ← List.append_assoc]
      exact onward later h followLast name more

/-- A step to where the walk is already makes no difference, unless it is the last one. -/
theorem walk_append_here (name : String) (more : List String) :
    walk tree followLast links (names ++ "." :: name :: more) place
      = walk tree followLast links (names ++ name :: more) place := by
  induction links, names, place using walk_induction with
  | done links place => exact walk_here tree followLast links (name :: more) place
  | here links rest place ih => simpa using ih
  | up links rest place ih => simpa using ih
  | name links first rest place hh hu ih behind =>
    rw [List.cons_append, List.cons_append, walk_name _ _ _ _ _ hh hu,
      walk_name _ _ _ _ _ hh hu, ih]
    have some' : (rest ++ "." :: name :: more).isEmpty = (rest ++ name :: more).isEmpty := by
      cases rest <;> rfl
    rw [some']
    cases links with
    | zero => rfl
    | succ fewer =>
      have onward : ∀ target : Path, follow tree followLast (fewer + 1)
          (walkSteps target ++ (rest ++ "." :: name :: more))
          (if target.isAbsolute then [] else place)
          = follow tree followLast (fewer + 1) (walkSteps target ++ (rest ++ name :: more))
            (if target.isAbsolute then [] else place) := by
        intro target
        rw [← List.append_assoc, ← List.append_assoc]
        exact behind fewer target rfl
      simp only [onward]

end Grown

end FileTree
end WrapperGen
