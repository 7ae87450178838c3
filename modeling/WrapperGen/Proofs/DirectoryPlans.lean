import WrapperGen.Proofs.DeclaredNames
import WrapperGen.Proofs.FolderWrites

/-!
# Plans for a directory

Each interface has its own file in a directory.  The names of files are made from the names of
interfaces and are not one to one with them: so one declaration that is given more than once is
written once, and two declarations with one file are refused before anything is written.

## Main definitions

* `firstTo?`: the first interface with a destination.
* `AgreeOn`: interfaces with one destination are one declaration.
* `IsFirstClash`: the first interface whose destination another declaration has taken.
* `IsPlan`: a plan holds each destination once, with the first interface that goes there.
* `Emitter.WritesToNoLink`: no destination is a link once the directory above it is there.

## Main results

* `addToPlan_eq`, `planBehind_spec`: one interface, and all of them.
* `Emitter.triple_emitDirectory_plan`: how emitting ends.
* `Emitter.exists_collision_iff`, `Emitter.exists_isPlan_of_emitDirectory`: the two ends.
* `Emitter.emit_directory`: collisions, the files that are written, and what they hold.
* `Emitter.lost_behind_link`: making the directory may show that a destination is a link.
-/

namespace WrapperGen

open FileTree

/-! ### Destinations -/

section

variable (destination : Interface → Path)

/-- The first of some interfaces that goes to a path. -/
def firstTo? (interfaces : List Interface) (path : Path) : Option Interface :=
  interfaces.find? fun i => destination i == path

/-- Interfaces that go to one path are one declaration. -/
def AgreeOn (interfaces : List Interface) : Prop :=
  ∀ i ∈ interfaces, ∀ j ∈ interfaces, destination i = destination j → i.key = j.key

/-- Before `second`, interfaces that go to one path are one declaration, but `first`, which is the
first of them that goes to the path of `second`, is another one. -/
def IsFirstClash (interfaces : List Interface) (first second : Interface) : Prop :=
  ∃ front behind, interfaces = front ++ second :: behind ∧ AgreeOn destination front
    ∧ firstTo? destination front (destination second) = some first ∧ first.key ≠ second.key

/-- A plan for some interfaces.  The order of its paths and the interface at each of them are all
that a plan is made of: with the paths it follows that no destination stands in it twice, and with
the interfaces that a declaration given again is not written again. -/
structure IsPlan (planned : List (Interface × Path)) (interfaces : List Interface) : Prop where
  /-- The paths are the destinations in the order in which they came first. -/
  paths : planned.map Prod.snd = (interfaces.map destination).eraseDups
  /-- Each path has the first interface that goes there. -/
  firsts : ∀ entry ∈ planned, firstTo? destination interfaces entry.2 = some entry.1

end

section

variable {destination : Interface → Path} {interfaces front : List Interface}
  {planned : List (Interface × Path)} {first j : Interface} {path : Path}

/-- What is found for a path is one of the interfaces, and goes to that path. -/
theorem mem_of_firstTo? (h : firstTo? destination interfaces path = some first) :
    first ∈ interfaces ∧ destination first = path :=
  ⟨List.mem_of_find?_eq_some h, by simpa using List.find?_some h⟩

/-- Nothing is found for a path exactly if it is no destination. -/
theorem firstTo?_eq_none_iff :
    firstTo? destination interfaces path = none ↔ path ∉ interfaces.map destination := by
  simp [firstTo?, List.find?_eq_none]

/-- The first interface is still the first one with more interfaces behind it. -/
theorem firstTo?_append (h : firstTo? destination front path = some first)
    (behind : List Interface) : firstTo? destination (front ++ behind) path = some first := by
  rw [firstTo?, List.find?_append, show front.find? (fun i => destination i == path) = some first
    from h, Option.some_or]

/-- The first interface with a new path is the one that has just come. -/
theorem firstTo?_concat (h : firstTo? destination front (destination j) = none) :
    firstTo? destination (front ++ [j]) (destination j) = some j := by
  rw [firstTo?, List.find?_append,
    show front.find? (fun i => destination i == destination j) = none from h, Option.none_or]
  simp

/-- One more interface agrees with those of before if it is the same declaration as the first one
that goes to its path.  To look at the first one is enough, as all the others of that path agree
with it. -/
theorem AgreeOn.concat (h : AgreeOn destination front)
    (new : ∀ first, firstTo? destination front (destination j) = some first → first.key = j.key) :
    AgreeOn destination (front ++ [j]) := by
  -- the last one agrees with the first one of its path, and that with all the others
  have withLast : ∀ i ∈ front, destination i = destination j → i.key = j.key := by
    intro i hi same
    cases found : firstTo? destination front (destination j) with
    | none =>
      exact absurd (List.mem_map.2 ⟨i, hi, same⟩) (firstTo?_eq_none_iff.1 found)
    | some first =>
      obtain ⟨hf, goes⟩ := mem_of_firstTo? found
      exact (h i hi first hf (same.trans goes.symm)).trans (new first found)
  intro i hi k hk same
  rw [List.mem_append, List.mem_singleton] at hi hk
  rcases hi with hi | rfl
  · rcases hk with hk | rfl
    · exact h i hi k hk same
    · exact withLast i hi same
  · rcases hk with hk | rfl
    · exact (withLast k hk same.symm).symm
    · rfl

/-- After a clash, interfaces that go to one path are not all one declaration. -/
theorem IsFirstClash.not_agreeOn (h : IsFirstClash destination interfaces first j) :
    ¬ AgreeOn destination interfaces := by
  obtain ⟨front, behind, rfl, -, found, other⟩ := h
  obtain ⟨hf, same⟩ := mem_of_firstTo? found
  exact fun agree => other (agree first (List.mem_append_left _ hf) j (by simp) same)

/-! ### Plans -/

theorem IsPlan.nil : IsPlan destination [] [] where
  paths := rfl
  firsts := fun entry hm => by cases hm

/-- An interface with a new path is planned. -/
theorem IsPlan.concat_new (h : IsPlan destination planned front)
    (new : firstTo? destination front (destination j) = none) :
    IsPlan destination (planned ++ [(j, destination j)]) (front ++ [j]) where
  paths := by
    have missing := firstTo?_eq_none_iff.1 new
    rw [List.map_append, h.paths, List.map_append, List.map_singleton, List.map_singleton,
      eraseDups_concat, if_neg missing]
  firsts := by
    intro entry hm
    rcases List.mem_append.1 hm with hm | hm
    · exact firstTo?_append (h.firsts entry hm) [j]
    · obtain rfl := List.mem_singleton.1 hm
      exact firstTo?_concat new

/-- An interface whose path is planned changes nothing. -/
theorem IsPlan.concat_known (h : IsPlan destination planned front)
    (known : firstTo? destination front (destination j) = some first) :
    IsPlan destination planned (front ++ [j]) where
  paths := by
    obtain ⟨hf, goes⟩ := mem_of_firstTo? known
    have there : destination j ∈ front.map destination := List.mem_map.2 ⟨first, hf, goes⟩
    rw [h.paths, List.map_append, List.map_singleton, eraseDups_concat, if_pos there]
  firsts := fun entry hm => firstTo?_append (h.firsts entry hm) [j]

/-- A path is found in a plan together with the first interface that goes there.  A plan is
searched by the steps of paths, so this needs that different destinations differ in their steps:
`faithful_destination` shows it of the destinations in one directory. -/
theorem IsPlan.find?_sameSteps (h : IsPlan destination planned front)
    (faithful : ∀ i ∈ front, (destination i).sameSteps (destination j) = true →
      destination i = destination j) :
    planned.find? (fun entry => entry.2.sameSteps (destination j))
      = (firstTo? destination front (destination j)).map fun first => (first, destination j) := by
  -- a path of the plan is the destination of an interface, so its steps tell it apart
  have same : ∀ entry ∈ planned, entry.2.sameSteps (destination j) = true →
      entry.2 = destination j := by
    intro entry hm steps
    have asked : entry.2 ∈ (front.map destination).eraseDups := by
      rw [← h.paths]
      exact List.mem_map_of_mem hm
    obtain ⟨i, hi, e⟩ := List.mem_map.1 (List.mem_eraseDups.1 asked)
    rw [← e] at steps ⊢
    exact faithful i hi steps
  -- the plan has an entry for the path just if an interface in front goes there
  cases seen : planned.find? fun entry => entry.2.sameSteps (destination j) with
  | some entry =>
    have hm := List.mem_of_find?_eq_some seen
    have steps := List.find?_some seen
    have path := same entry hm steps
    rw [← path, h.firsts entry hm]
    rfl
  | none =>
    have new : destination j ∉ front.map destination := by
      intro there
      rw [← List.mem_eraseDups, ← h.paths] at there
      obtain ⟨entry, hm, e⟩ := List.mem_map.1 there
      refine List.find?_eq_none.1 seen entry hm ?_
      rw [e, Path.sameSteps]
      exact beq_self_eq_true _
    rw [firstTo?_eq_none_iff.2 new]
    rfl

/-- What comes of one more interface depends on the first one with its path.  If there is none, the
interface is planned; if that is the same declaration, nothing changes; and else the two clash. -/
theorem addToPlan_eq (shown : Path → String) (h : IsPlan destination planned front)
    (faithful : ∀ i ∈ front, (destination i).sameSteps (destination j) = true →
      destination i = destination j) :
    addToPlan shown planned j (destination j)
      = match firstTo? destination front (destination j) with
        | none => .ok (planned ++ [(j, destination j)])
        | some first =>
          if first.key = j.key then .ok planned
          else .error (.collision (destination j) (shown (destination j)) first.qualifiedName
            j.qualifiedName) := by
  unfold addToPlan
  rw [h.find?_sameSteps faithful]
  -- a new path is planned; a known one is a clash unless the declaration is the same
  cases firstTo? destination front (destination j) with
  | none => rfl
  | some first =>
    dsimp only [Option.map_some]
    by_cases one : first.key = j.key
    · rw [if_pos one, if_pos (Interface.sameDeclaration_iff.2 one)]
    · rw [if_neg one, if_neg fun e => one (Interface.sameDeclaration_iff.1 e)]

/-- All interfaces are planned, or the first one is named whose path another declaration has.  The
plan that is there is one for the interfaces in front, and these agree with one another; so the
first clash of those that are left is the first clash of all. -/
theorem planBehind_spec (shown : Path → String) {rest : List Interface}
    (faithful : ∀ i ∈ front ++ rest, ∀ k ∈ front ++ rest,
      (destination i).sameSteps (destination k) = true → destination i = destination k)
    (h : IsPlan destination planned front) (agree : AgreeOn destination front) :
    (∃ more, planBehind shown destination planned rest = .ok more
        ∧ IsPlan destination more (front ++ rest) ∧ AgreeOn destination (front ++ rest))
      ∨ ∃ first second, IsFirstClash destination (front ++ rest) first second
        ∧ planBehind shown destination planned rest
          = .error (.collision (destination second) (shown (destination second))
            first.qualifiedName second.qualifiedName) := by
  -- on the interfaces that are left: those in front have a plan, and agree with one another
  induction rest generalizing planned front with
  | nil =>
    rw [List.append_nil]
    exact .inl ⟨planned, rfl, h, agree⟩
  | cons j rest ih =>
    have step := addToPlan_eq shown h (j := j) fun i hi =>
      faithful i (List.mem_append_left _ hi) j (by simp)
    have onward : front ++ j :: rest = (front ++ [j]) ++ rest := by simp
    unfold planBehind
    rw [step]
    -- the next one has a path of its own, or that of the same declaration, or it clashes
    cases found : firstTo? destination front (destination j) with
    | none =>
      rw [onward]
      exact ih (onward ▸ faithful) (h.concat_new found)
        (agree.concat fun first e => by rw [found] at e; cases e)
    | some first =>
      dsimp only
      by_cases one : first.key = j.key
      · rw [if_pos one, onward]
        refine ih (onward ▸ faithful) (h.concat_known found) (agree.concat fun other e => ?_)
        rw [found] at e
        cases e
        exact one
      · rw [if_neg one]
        exact .inr ⟨first, j, ⟨front, rest, rfl, agree, found, one⟩, rfl⟩

end

/-! ### Emitting -/

/-- Whether a failure comes from two interfaces with one destination. -/
def EmitError.isCollision : EmitError → Bool
  | .collision .. => true
  | .conflict .. | .malformed | .write .. | .streamClosed => false

namespace Emitter

variable {e : Emitter} {look : Nat} {dir : Path} {interfaces : List Interface} {site : Site}

/-- Different names of files make different destinations, so these are told apart by their steps.
All of them stand in the one folder that the directory comes down to, and a name that is written as
one component is not changed by joining it. -/
theorem faithful_destination (dir : Path)
    (plain : ∀ i ∈ interfaces, (Component.name (e.fileName i.name)).IsWritten) :
    ∀ i ∈ interfaces, ∀ k ∈ interfaces,
      (e.destination dir i).sameSteps (e.destination dir k) = true →
        e.destination dir i = e.destination dir k := by
  obtain ⟨folder, last, stands⟩ := e.exists_folder dir
  intro i hi k hk same
  -- both stand in one folder, under the names of their files
  obtain ⟨eq, written⟩ := stands i (plain i hi)
  obtain ⟨eq', written'⟩ := stands k (plain k hk)
  rw [eq, eq'] at same ⊢
  exact (folder.sameSteps_join_iff written written').1 same

/-- The text of a file can only be missing because what was put together is malformed. -/
theorem error_fileText {cause : EmitError} (h : e.fileText look interfaces = .error cause) :
    cause = .malformed := by
  unfold fileText at h
  split at h
  · cases h
  · exact (Except.error.inj h).symm

/-- And so it is with the texts of a plan. -/
theorem error_planTexts {planned : List (Interface × Path)} {cause : EmitError}
    (h : e.planTexts look planned = .error cause) : cause = .malformed := by
  induction planned generalizing look with
  | nil => cases h
  | cons entry rest ih =>
    obtain ⟨i, path⟩ := entry
    unfold planTexts at h
    cases text : e.fileText look [i] with
    | error other =>
      rw [text] at h
      cases h
      exact error_fileText text
    | ok value =>
      rw [text] at h
      cases behind : e.planTexts (look + 1) rest with
      | error other =>
        rw [behind] at h
        cases h
        exact ih behind
      | ok more =>
        rw [behind] at h
        cases h

/-- Each text is that of the one interface that is planned for its path, and the clock has been
looked at once for each text in front of it. -/
theorem exists_of_planTexts_getElem? {planned : List (Interface × Path)}
    {files : List (Path × String)} (h : e.planTexts look planned = .ok files) {k : Nat}
    {file : Path × String} (there : files[k]? = some file) :
    ∃ first, (first, file.1) ∈ planned ∧ e.fileText (look + k) [first] = .ok file.2 := by
  induction planned generalizing look files k with
  | nil =>
    obtain rfl := Except.ok.inj h
    cases there
  | cons entry rest ih =>
    obtain ⟨i, path⟩ := entry
    obtain ⟨text, more, one, behind, rfl⟩ := exists_of_planTexts_cons h
    -- the clock has been looked at once for the first text, so the others are counted from there
    cases k with
    | zero =>
      obtain rfl := Option.some.inj there
      exact ⟨i, List.mem_cons_self, one⟩
    | succ k =>
      obtain ⟨first, hm, given⟩ := ih behind there
      rw [show look + 1 + k = look + (k + 1) by omega] at given
      exact ⟨first, List.mem_cons_of_mem _ hm, given⟩

/-- To write files makes no collision: a collision is found by the plan, and nothing is written
before there is one. -/
theorem triple_writeFiles_noCollision (files : List (Path × String)) :
    Run.Triple (fun _ => True) (writeFiles files) (fun _ _ => True)
      fun cause _ => cause.isCollision = false := by
  refine triple_writeFiles fun file _ =>
    triple_writeFile (fun _ _ _ => trivial) (fun dir _ => ?_) ?_
  · exact Run.Triple.onTree (fun _ _ _ _ => trivial) fun _ _ _ _ => rfl
  · exact Run.Triple.onTree (fun _ _ _ _ => trivial) fun _ _ _ _ => rfl

/-- Emitting to a directory ends with the failure of the plan, with one that is no collision, or
with the files of the plan, which have been written from where it started. -/
theorem triple_emitDirectory_plan (e : Emitter) (dir : Path) (interfaces : List Interface)
    (site : Site) :
    Run.Triple (· = site) (e.emitDirectory dir interfaces)
      (fun paths last => ∃ planned files, plan e.shown (e.destination dir) interfaces = .ok planned
        ∧ e.planTexts 0 planned = .ok files ∧ paths = files.map Prod.fst
        ∧ (writeFiles files).run.run site = (.ok (), last))
      fun cause last => plan e.shown (e.destination dir) interfaces = .error cause ∧ last = site
        ∨ cause.isCollision = false := by
  refine triple_emitDirectory e interfaces dir ?_ ?_ ?_ ?_ ?_
  · exact fun cause h last hs => .inl ⟨h, hs⟩
  · exact fun cause last _ => .inr rfl
  · exact fun path last _ => .inr rfl
  · intro planned cause h last _
    rw [error_planTexts h]
    exact .inr rfl
  · rintro planned files made texts start ⟨rfl, -⟩
    -- writing may fail, but not with a collision
    have ends := triple_writeFiles_noCollision files start trivial
    rcases wrote : (writeFiles files).run.run start with ⟨result, last⟩
    rw [wrote] at ends
    cases result with
    | ok value => exact ⟨planned, files, made, texts, rfl, wrote⟩
    | error cause => exact .inr ends

/-- A plan that fails stops the run before anything is looked at. -/
theorem run_emitDirectory_of_plan {cause : EmitError}
    (h : plan e.shown (e.destination dir) interfaces = .error cause) :
    (e.emitDirectory dir interfaces).run.run site = (.error cause, site) := by
  unfold emitDirectory
  rw [run_bind, run_liftM, h]

/-- Where a directory is the target, interfaces go to files of their own. -/
theorem emit_of_directory (target : e.settings.target = .directory dir) :
    e.emit interfaces = e.emitDirectory dir interfaces := by
  rw [emit, target]

/-- A plan is made, and interfaces with one destination are one declaration, or the first clash is
named.  The two ends exclude each other, so whether there is a plan depends on the interfaces and
their destinations alone, and neither on the tree nor on the clock. -/
theorem plan_spec (dir : Path)
    (plain : ∀ i ∈ interfaces, (Component.name (e.fileName i.name)).IsWritten) :
    (∃ planned, plan e.shown (e.destination dir) interfaces = .ok planned
        ∧ IsPlan (e.destination dir) planned interfaces
        ∧ AgreeOn (e.destination dir) interfaces)
      ∨ ∃ first second, IsFirstClash (e.destination dir) interfaces first second
        ∧ plan e.shown (e.destination dir) interfaces
          = .error (.collision (e.destination dir second) (e.shown (e.destination dir second))
            first.qualifiedName second.qualifiedName) :=
  planBehind_spec e.shown (faithful_destination dir plain) IsPlan.nil fun i hi => by cases hi

/-- Once the directory above it is there, no destination is a symbolic link.  It is asked then and
not before, since a path with `..` may lead elsewhere once a missing part of it has been made. -/
def WritesToNoLink (e : Emitter) (dir : Path) (interfaces : List Interface) (tree : FileTree) :
    Prop :=
  ∀ i ∈ interfaces, ∀ above made, (e.destination dir i).parent? = some above →
    tree.ensureDirectory above = .ok made → made.isLink (e.destination dir i) = false

/-- The files that a successful run writes to a directory are read back, unless a link stood in the
place of one.  No two files of a plan have one path, so no file is written over by a later one. -/
theorem readText_of_emitDirectory {planned : List (Interface × Path)}
    {files : List (Path × String)} {last : Site}
    (plain : ∀ i ∈ interfaces, (Component.name (e.fileName i.name)).IsWritten)
    (isPlan : IsPlan (e.destination dir) planned interfaces)
    (texts : e.planTexts 0 planned = .ok files)
    (wrote : (writeFiles files).run.run site = (.ok (), last))
    (noLink : e.WritesToNoLink dir interfaces site.tree) :
    ∀ file ∈ files, last.tree.readText file.1 = .ok file.2 := by
  have paths : files.map Prod.fst = (interfaces.map (e.destination dir)).eraseDups :=
    (map_fst_planTexts texts).trans isPlan.paths
  -- every file goes to the destination of an interface, and no two files to one
  have asked : ∀ file ∈ files, ∃ i ∈ interfaces, e.destination dir i = file.1 := by
    intro file hf
    have mem : file.1 ∈ (interfaces.map (e.destination dir)).eraseDups := by
      rw [← paths]
      exact List.mem_map_of_mem hf
    exact List.mem_map.1 (List.mem_eraseDups.1 mem)
  obtain ⟨folder, name, stands⟩ := e.exists_folder dir
  refine readText_of_writeFiles folder (fun file hf => ?_) ?_ (fun file hf => ?_) wrote
  · obtain ⟨i, hi, eq⟩ := asked file hf
    obtain ⟨joined, written⟩ := stands i (plain i hi)
    exact ⟨name i.name, written, eq ▸ joined⟩
  · rw [paths]
    exact nodup_eraseDups _
  · obtain ⟨i, hi, eq⟩ := asked file hf
    rw [← eq]
    exact noLink i hi

/-- A collision is the failure of the plan: it names the first clash, and nothing has been done.
All other failures come later and are no collisions. -/
theorem exists_isFirstClash_of_collision {path : Path} {shown first second : String} {last : Site}
    (plain : ∀ i ∈ interfaces, (Component.name (e.fileName i.name)).IsWritten)
    (ran : (e.emitDirectory dir interfaces).run.run site
      = (.error (.collision path shown first second), last)) :
    ∃ i j, IsFirstClash (e.destination dir) interfaces i j ∧ path = e.destination dir j
      ∧ shown = e.shown path ∧ first = i.qualifiedName ∧ second = j.qualifiedName
      ∧ last = site := by
  have ends := triple_emitDirectory_plan e dir interfaces site site rfl
  rw [ran] at ends
  rcases ends with ⟨failed, rfl⟩ | never
  -- a plan that has been made does not fail, so there was a clash
  · rcases plan_spec dir plain with ⟨planned, made, -⟩ | ⟨i, j, isClash, made⟩
    · rw [made] at failed
      cases failed
    · have same := Except.error.inj (made.symm.trans failed)
      obtain ⟨path, shown, one, two⟩ := EmitError.collision.inj same
      exact ⟨i, j, isClash, path.symm, by rw [← shown, path], one.symm, two.symm, rfl⟩
  · cases never

/-- There is a collision exactly if two different declarations have one destination. -/
theorem exists_collision_iff
    (plain : ∀ i ∈ interfaces, (Component.name (e.fileName i.name)).IsWritten) :
    (∃ path shown first second last, (e.emitDirectory dir interfaces).run.run site
        = (.error (.collision path shown first second), last))
      ↔ ∃ i ∈ interfaces, ∃ j ∈ interfaces, i.key ≠ j.key
        ∧ e.destination dir i = e.destination dir j := by
  constructor
  · rintro ⟨path, shown, first, second, last, ran⟩
    obtain ⟨i, j, isClash, -⟩ := exists_isFirstClash_of_collision plain ran
    -- without two such interfaces all agree, and then there is no first clash
    by_contra none'
    refine isClash.not_agreeOn fun i hi j hj same => ?_
    by_contra other
    exact none' ⟨i, hi, j, hj, other, same⟩
  · rintro ⟨i, hi, j, hj, other, same⟩
    rcases plan_spec dir plain with ⟨planned, -, -, agree⟩ | ⟨first, second, -, made⟩
    · exact absurd (agree i hi j hj same) other
    · exact ⟨_, _, _, _, _, run_emitDirectory_of_plan made⟩

/-- A run that succeeds has written the files of a plan. -/
theorem exists_isPlan_of_emitDirectory {paths : List Path} {last : Site}
    (plain : ∀ i ∈ interfaces, (Component.name (e.fileName i.name)).IsWritten)
    (ran : (e.emitDirectory dir interfaces).run.run site = (.ok paths, last)) :
    ∃ planned files, IsPlan (e.destination dir) planned interfaces
      ∧ e.planTexts 0 planned = .ok files ∧ paths = files.map Prod.fst
      ∧ (writeFiles files).run.run site = (.ok (), last) := by
  have ends := triple_emitDirectory_plan e dir interfaces site site rfl
  rw [ran] at ends
  obtain ⟨planned, files, made, texts, paths, wrote⟩ := ends
  refine ⟨planned, files, ?_, texts, paths, wrote⟩
  -- the other way to end would have been a collision
  rcases plan_spec dir plain with ⟨more, again, isPlan, -⟩ | ⟨i, j, -, again⟩
  · rw [made] at again
    cases again
    exact isPlan
  · rw [made] at again
    cases again

/-- Emitting to a directory fails with a collision exactly if two different declarations have one
destination; the collision names the first interface whose destination another declaration has
taken, and the first interface with that destination.  A run that succeeds writes each destination
once, in the order in which they came first, and the file there is the one for the first interface
with that destination alone, unless a link stood there when the directory above was there.  The
clock is looked at once for each file, in the order of the files. -/
theorem emit_directory {dir : Path} (target : e.settings.target = .directory dir)
    (interfaces : List Interface)
    (plain : ∀ i ∈ interfaces, (Component.name (e.fileName i.name)).IsWritten) (site : Site) :
    ((∃ path shown first second last, (e.emit interfaces).run.run site
          = (.error (.collision path shown first second), last))
        ↔ ∃ i ∈ interfaces, ∃ j ∈ interfaces, i.key ≠ j.key
          ∧ e.destination dir i = e.destination dir j)
      ∧ (∀ path shown first second last, (e.emit interfaces).run.run site
          = (.error (.collision path shown first second), last) →
        ∃ i j, IsFirstClash (e.destination dir) interfaces i j ∧ path = e.destination dir j
          ∧ shown = e.shown path ∧ first = i.qualifiedName ∧ second = j.qualifiedName
          ∧ last = site)
      ∧ ∀ paths last, (e.emit interfaces).run.run site = (.ok paths, last) →
        paths = (interfaces.map (e.destination dir)).eraseDups
          ∧ (∀ i ∈ interfaces, e.destination dir i ∈ paths)
          ∧ (e.WritesToNoLink dir interfaces site.tree →
            ∀ k path, paths[k]? = some path → ∃ first text,
              firstTo? (e.destination dir) interfaces path = some first
                ∧ e.fileText k [first] = .ok text ∧ last.tree.readText path = .ok text) := by
  rw [emit_of_directory target]
  refine ⟨exists_collision_iff plain,
    fun path shown first second last => exists_isFirstClash_of_collision plain,
    fun paths last ran => ?_⟩
  obtain ⟨planned, files, isPlan, texts, rfl, wrote⟩ := exists_isPlan_of_emitDirectory plain ran
  -- the texts are made in the order of the plan, and its paths are the destinations
  have written : files.map Prod.fst = (interfaces.map (e.destination dir)).eraseDups :=
    (map_fst_planTexts texts).trans isPlan.paths
  refine ⟨written, fun i hi => ?_, fun noLink k path hp => ?_⟩
  · rw [written, List.mem_eraseDups]
    exact List.mem_map_of_mem hi
  · rw [List.getElem?_map] at hp
    obtain ⟨file, there, rfl⟩ := Option.map_eq_some_iff.1 hp
    have hf : file ∈ files := List.mem_of_getElem? there
    -- the text at this position was made for the interface that is planned there
    obtain ⟨first, hm, text⟩ := exists_of_planTexts_getElem? texts there
    rw [Nat.zero_add] at text
    have isFirst : firstTo? (e.destination dir) interfaces file.1 = some first :=
      isPlan.firsts (first, file.1) hm
    exact ⟨first, file.2, isFirst, text,
      readText_of_emitDirectory plain isPlan texts wrote noLink file hf⟩

/-- A clock that has gone on between the first look at it and the next ones. -/
def commenterClock : Clock := ⟨fun look => if look = 0 then "now" else "later"⟩

/-- An emitter that writes a comment for each interface into a file of a directory. -/
def commenter (dir : Path) : Emitter :=
  { printer none with
    clock := commenterClock
    settings := ⟨.directory dir, true, "mocks", some "Mock"⟩
    generate := fun _ i d => ((), d.addDeclaration ("// " ++ i.name)) }

/-- An interface without methods. -/
def plainInterface (name : String) : Interface := ⟨name, "p", []⟩

/-- The lines of a file with one comment. -/
def commentLines (look : Nat) (name : String) : List String :=
  printerLines.set 2 ("// " ++ commenterClock.shows look) ++ ["", "// " ++ name]

/-- The text of a file with one comment. -/
def commentText (look : Nat) (name : String) : String := textOfLines (commentLines look name)

theorem fileText_commenter (dir : Path) {look : Nat} {name : String}
    (h : (look, name) ∈ [(0, "A"), (1, "B")]) :
    (commenter dir).fileText look [plainInterface name] = .ok (commentText look name) := by
  have texts : ∀ file ∈ [(0, "A"), (1, "B")],
      ((commenter ⟨""⟩).draft file.1 [plainInterface file.2]).assemble
        = commentText file.1 file.2 := by
    decide +kernel
  have wellFormed : ∀ file ∈ [(0, "A"), (1, "B")],
      (Source.File.ofTokens (Source.tokens ((commentLines file.1 file.2).flatMap fun line =>
        line.toList ++ ['\n']))).complete = true := by
    decide +kernel
  -- the directory is not looked at
  have text : ((commenter dir).draft look [plainInterface name]).assemble
      = commentText look name := by
    show ((commenter ⟨""⟩).draft look [plainInterface name]).assemble = commentText look name
    exact texts (look, name) h
  exact fileText_of_lines text (wellFormed (look, name) h)

theorem isWritten_commenter (dir : Path) {names : List String} (h : names ⊆ ["A", "B", "a"]) :
    ∀ i ∈ names.map plainInterface,
      (Component.name ((commenter dir).fileName i.name)).IsWritten := by
  intro i hi
  obtain ⟨name, hn, rfl⟩ := List.mem_map.1 hi
  have all : ∀ name ∈ ["A", "B", "a"],
      (wrapperFileName name).toList ≠ [] ∧ (wrapperFileName name).toList ≠ ['.']
        ∧ (wrapperFileName name).toList ≠ ['.', '.'] ∧ '/' ∉ (wrapperFileName name).toList := by
    decide +kernel
  obtain ⟨some', notHere, notUp, whole⟩ := all name (h hn)
  exact Component.isWritten_name_iff.2 ⟨⟨some', notHere, notUp⟩, whole⟩

/-- Emitting two comments succeeds where both files can be written. -/
theorem run_emit_commenter (dir first second : Path) (names : List String) (site : Site)
    (made : plan (commenter dir).shown ((commenter dir).destination dir)
      (names.map plainInterface)
        = .ok [(plainInterface "A", first), (plainInterface "B", second)])
    (wrote : ((writeFiles [(first, commentText 0 "A"), (second, commentText 1 "B")]).run.run
      site).1 = .ok ()) :
    ((commenter dir).emit (names.map plainInterface)).run.run site = (.ok [first, second],
      ((writeFiles [(first, commentText 0 "A"), (second, commentText 1 "B")]).run.run site).2) := by
  have textA := fileText_commenter dir (show (0, "A") ∈ [(0, "A"), (1, "B")] by simp)
  have textB := fileText_commenter dir (show (1, "B") ∈ [(0, "A"), (1, "B")] by simp)
  have none' : (commenter dir).planTexts 2 [] = .ok [] := rfl
  exact run_emit_of_writeFiles rfl made (.inl rfl)
    (planTexts_cons textA (planTexts_cons textB none')) wrote

/-- A directory that is not there yet. -/
def mocksDir : Path := ⟨"/mocks"⟩

/-- The files of two interfaces in that directory. -/
def mockPaths : List Path := [⟨"/mocks/mock_a.go"⟩, ⟨"/mocks/mock_b.go"⟩]

/-- The tree once the directory has been made. -/
def mocksTree : FileTree := ⟨[(["mocks"], .directory directoryMode)]⟩

theorem writesToNoLink_commenter :
    (commenter mocksDir).WritesToNoLink mocksDir (["A", "B", "A"].map plainInterface) .empty := by
  have parent : ∀ i ∈ ["A", "B", "A"].map plainInterface,
      ((commenter mocksDir).destination mocksDir i).parent? = some mocksDir := by
    decide +kernel
  have makes : FileTree.empty.ensureDirectory mocksDir = .ok mocksTree := by decide +kernel
  have free : ∀ i ∈ ["A", "B", "A"].map plainInterface,
      mocksTree.isLink ((commenter mocksDir).destination mocksDir i) = false := by
    decide +kernel
  -- one directory is above both files, and it is there once it has been made
  intro i hi above made found ensured
  obtain rfl := Option.some.inj ((parent i hi).symm.trans found)
  obtain rfl := Except.ok.inj (makes.symm.trans ensured)
  exact free i hi

/-- An interface that is given twice is written once, and both files are read back; with another
one whose name differs by its case only, there is a collision. -/
theorem emit_directory_comments :
    (∃ last, ((commenter mocksDir).emit (["A", "B", "A"].map plainInterface)).run.run
          ⟨.empty, [], true⟩ = (.ok mockPaths, last)
        ∧ ∀ k path, mockPaths[k]? = some path → ∃ first text,
          firstTo? ((commenter mocksDir).destination mocksDir)
              (["A", "B", "A"].map plainInterface) path = some first
            ∧ (commenter mocksDir).fileText k [first] = .ok text
            ∧ last.tree.readText path = .ok text)
      ∧ ∃ path shown first second last,
        ((commenter mocksDir).emit (["A", "B", "a"].map plainInterface)).run.run
          ⟨.empty, [], true⟩ = (.error (.collision path shown first second), last) := by
  have ran := run_emit_commenter mocksDir ⟨"/mocks/mock_a.go"⟩ ⟨"/mocks/mock_b.go"⟩
    ["A", "B", "A"] ⟨.empty, [], true⟩ (by decide +kernel) (by decide +kernel)
  obtain ⟨-, -, success⟩ := emit_directory (e := commenter mocksDir) rfl
    (["A", "B", "A"].map plainInterface) (isWritten_commenter _ (by simp)) ⟨.empty, [], true⟩
  obtain ⟨collides, -, -⟩ := emit_directory (e := commenter mocksDir) rfl
    (["A", "B", "a"].map plainInterface) (isWritten_commenter _ (by simp)) ⟨.empty, [], true⟩
  obtain ⟨-, -, read⟩ := success _ _ ran
  exact ⟨⟨_, ran, read writesToNoLink_commenter⟩, collides.2
    ⟨plainInterface "A", by simp, plainInterface "a", by simp, by decide, by decide +kernel⟩⟩

/-- A directory that a path with `..` leads to once the missing part of it is there. -/
def linkedDir : Path := ⟨"/out/../l/../real"⟩

/-- A tree with links on the way to that directory, and in it. -/
def linkedTree : FileTree :=
  ⟨[(["l"], .link ⟨"other/place"⟩), (["other"], .directory directoryMode),
    (["other", "place"], .directory directoryMode), (["other", "real"], .directory directoryMode),
    (["other", "real", "mock_a.go"], .link ⟨"mock_b.go"⟩)]⟩

/-- No destination is a link at first.  But once the directory above them is there, one is a link to
the other, and the file for the first interface is lost. -/
theorem lost_behind_link :
    (commenter linkedDir).settings.target = .directory linkedDir
      ∧ (∀ i ∈ ["A", "B"].map plainInterface,
        (Component.name ((commenter linkedDir).fileName i.name)).IsWritten
          ∧ linkedTree.isLink ((commenter linkedDir).destination linkedDir i) = false)
      ∧ firstTo? ((commenter linkedDir).destination linkedDir) (["A", "B"].map plainInterface)
        (linkedDir.join ⟨"mock_a.go"⟩) = some (plainInterface "A")
      ∧ (commenter linkedDir).fileText 0 [plainInterface "A"] = .ok (commentText 0 "A")
      ∧ ∃ last, ((commenter linkedDir).emit (["A", "B"].map plainInterface)).run.run
          ⟨linkedTree, [], true⟩
            = (.ok [linkedDir.join ⟨"mock_a.go"⟩, linkedDir.join ⟨"mock_b.go"⟩], last)
        ∧ last.tree.readText (linkedDir.join ⟨"mock_a.go"⟩) = .ok (commentText 1 "B")
        ∧ commentText 1 "B" ≠ commentText 0 "A" := by
  have ran := run_emit_commenter linkedDir (linkedDir.join ⟨"mock_a.go"⟩)
    (linkedDir.join ⟨"mock_b.go"⟩) ["A", "B"] ⟨linkedTree, [], true⟩ (by decide +kernel)
    (by decide +kernel)
  -- the way to the directory cannot be walked yet, so no link is seen behind it
  have noLink : ∀ i ∈ ["A", "B"].map plainInterface,
      linkedTree.isLink ((commenter linkedDir).destination linkedDir i) = false := by
    decide +kernel
  exact ⟨rfl, fun i hi => ⟨isWritten_commenter linkedDir (by simp) i hi, noLink i hi⟩,
    by decide +kernel, fileText_commenter linkedDir (by simp), _, ran, by decide +kernel,
    by decide +kernel⟩

end Emitter

end WrapperGen
