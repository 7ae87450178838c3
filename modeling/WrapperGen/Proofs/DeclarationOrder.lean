import Mathlib
import WrapperGen.Proofs.Guards
import WrapperGen.Proofs.RealCycles
import WrapperGen.Proofs.Reordering

/-!
# The order of declarations makes no difference

The checker goes through the types of a package in the order of their declarations, and through its
constants in any order.  What it finds out on the way stays in the session, and a failure leaves the
middle of a check.  Where names are distinct and no import leads in a circle, none of that counts: a
declaration comes to the same from every session that is right, and leaves it right.  So another
order of the declarations comes to the same declarations and constants, or fails as well.

## Main definitions

* `Workspace.NeededBy`: the import paths that some files need.
* `PackageScope.answersFor`: what is answered for some types, one after the other in one session.
* `SameDeclarations`: two checks come to the same declarations in some order, or both fail.

## Main results

* `run_declarationsOf_eq_ok_iff`, `run_knownConstants`: what a package comes to, from the answers
  its types and for its constants.
* `declarations_perm`: the declarations of packages that differ in order and places.
* `answersFor_eq`: the answer for a type does not depend on those before.
* `Workspace.verdict_eq_of_sameFor`: workspaces that hold the same come to the same verdicts.
* `Workspace.check_reordered`: another order of the declarations makes no difference.
-/

namespace WrapperGen

open Source

/-! ### Answers that do not tell why they fail -/

theorem Check.run_mute_eq_ok_iff {α : Type} {m : Check α} {s : Session} {value : α} :
    (m.mute.run.run s).1 = .ok value ↔ (m.run.run s).1 = .ok value := by
  rw [run_mute]
  cases (m.run.run s).1 with
  | ok found => exact Iff.rfl
  | error cause => simp [Except.mapError]

/-- Computations that differ only in why they fail come to the same value, if to any. -/
theorem Check.run_eq_ok_iff_of_mute {α : Type} {m m' : Check α} (h : m.mute = m'.mute)
    {s : Session} {value : α} :
    (m.run.run s).1 = .ok value ↔ (m'.run.run s).1 = .ok value := by
  rw [← run_mute_eq_ok_iff, h, run_mute_eq_ok_iff]

/-! ### Types, one after the other -/

section

variable {known : Session → Prop} {importer importer' plain : Importer}
  {scope other bare : PackageScope} {entries : List TypeEntry} {s s' : Session}

/-- The declarations of some types are the answers for each of them. -/
theorem run_declarationsOf_eq_ok_iff
    (h : ∀ entry ∈ entries,
      Agrees known (scope.declaration importer entry) (scope.declaration plain entry))
    (hs : known s) {found : List Declaration} :
    ((scope.declarationsOf importer entries).run.run s).1 = .ok found
      ↔ List.Forall₂ (fun entry d => ((scope.declaration plain entry).run.run .empty).1 = .ok d)
          entries found := by
  -- the session of the first declaration is one that the others may start from
  induction entries generalizing s found with
  | nil =>
    show Except.ok [] = Except.ok found ↔ _
    rw [Except.ok.injEq, List.forall₂_nil_left_iff, eq_comm]
  | cons entry rest ih =>
    have agrees := h entry List.mem_cons_self
    have right := agrees.known_run hs
    rw [List.forall₂_cons_left_iff, ← agrees.run_eq hs, PackageScope.declarationsOf, run_bind]
    rcases ran : (scope.declaration importer entry).run.run s with ⟨result, last⟩
    rw [ran] at right
    cases result with
    | error cause =>
      constructor
      · intro e
        cases e
      · rintro ⟨d, more, e, -⟩
        cases e
    | ok first =>
      -- what is known of the sessions is known of the one that the first declaration has left
      have behind : ∀ {more},
          ((scope.declarationsOf importer rest).run.run last).1 = .ok more
            ↔ List.Forall₂
              (fun entry d => ((scope.declaration plain entry).run.run .empty).1 = .ok d)
              rest more :=
        ih (fun other ho => h other (List.mem_cons_of_mem entry ho)) right
      dsimp only
      rw [run_bind]
      rcases ranToo : (scope.declarationsOf importer rest).run.run last with ⟨result, after⟩
      rw [ranToo] at behind
      cases result with
      | error cause =>
        constructor
        · intro e
          cases e
        · rintro ⟨d, more, -, there, -⟩
          cases behind.2 there
      | ok more =>
        constructor
        · intro e
          cases e
          exact ⟨first, more, rfl, behind.1 rfl, rfl⟩
        · rintro ⟨d, others, e, there, rfl⟩
          cases e
          cases behind.2 there
          rfl

/-- A package whose types are those of another one, in another order and at other places, comes to
the same declarations. -/
theorem declarations_perm (looks : bare.LooksUp scope) (looks' : bare.LooksUp other)
    (perm : (scope.types.map TypeEntry.unplaced).Perm (other.types.map TypeEntry.unplaced))
    {known' : Session → Prop}
    (h : ∀ entry ∈ scope.types,
      Agrees known (scope.declaration importer entry) (scope.declaration plain entry))
    (h' : ∀ entry ∈ other.types,
      Agrees known' (other.declaration importer' entry) (other.declaration plain entry))
    (hs : known s) (hs' : known' s') {found : List Declaration}
    (came : ((scope.declarations importer).run.run s).1 = .ok found) :
    ∃ again, ((other.declarations importer').run.run s').1 = .ok again ∧ found.Perm again := by
  -- on both sides each answer is that for the type without its places
  have answers : ∀ {each : PackageScope}, bare.LooksUp each → ∀ entry d,
      ((each.declaration plain entry).run.run .empty).1 = .ok d
        ↔ ((bare.declaration plain entry.unplaced).run.run .empty).1 = .ok d :=
    fun looks entry d => Check.run_eq_ok_iff_of_mute (mute_declaration looks entry)
  have here : List.Forall₂
      (fun entry d => ((bare.declaration plain entry).run.run .empty).1 = .ok d)
      (scope.types.map TypeEntry.unplaced) found := by
    rw [List.forall₂_map_left_iff]
    exact ((run_declarationsOf_eq_ok_iff h hs).1 came).imp fun entry d => (answers looks entry d).1
  obtain ⟨again, there, permToo⟩ := List.perm_comp_forall₂ perm.symm here
  rw [List.forall₂_map_left_iff] at there
  refine ⟨again, (run_declarationsOf_eq_ok_iff h' hs').2 ?_, permToo.symm⟩
  exact there.imp fun entry d => (answers looks' entry d).2

/-- Two checks come to the same declarations, perhaps in another order, or both fail. -/
def SameDeclarations (result other : Except CheckError (List Declaration)) : Prop :=
  (∃ found again, result = .ok found ∧ other = .ok again ∧ found.Perm again)
    ∨ ∃ cause cause', result = .error cause ∧ other = .error cause'

/-- So does a package that declares what another one does in another order, also where that
fails. -/
theorem sameDeclarations_of_reorders (reorders : other.Reorders scope) {known' : Session → Prop}
    (h : ∀ entry ∈ scope.types,
      Agrees known (scope.declaration importer entry) (scope.declaration plain entry))
    (h' : ∀ entry ∈ other.types,
      Agrees known' (other.declaration importer' entry) (other.declaration plain entry))
    (hs : known s) (hs' : known' s') :
    SameDeclarations ((scope.declarations importer).run.run s).1
      ((other.declarations importer').run.run s').1 := by
  have looks := PackageScope.looksUp_unplaced scope
  cases came : ((scope.declarations importer).run.run s).1 with
  | ok found =>
    obtain ⟨again, came', perm⟩ :=
      declarations_perm looks reorders.looksUp reorders.types.symm h h' hs hs' came
    exact Or.inl ⟨found, again, rfl, came', perm⟩
  | error cause =>
    cases came' : ((other.declarations importer').run.run s').1 with
    | ok again =>
      obtain ⟨found, back, -⟩ :=
        declarations_perm reorders.looksUp looks reorders.types h' h hs' hs came'
      cases came.symm.trans back
    | error cause' => exact Or.inr ⟨cause, cause', rfl, rfl⟩

namespace PackageScope

/-- What is answered for some types, one after the other in one session, whether or not the answers
before are failures. -/
def answersFor (scope : PackageScope) (importer : Importer) :
    List TypeEntry → Session → List (Except CheckError Declaration)
  | [], _ => []
  | entry :: rest, s =>
      let (answer, last) := (scope.declaration importer entry).run.run s
      answer :: scope.answersFor importer rest last

end PackageScope

theorem answersFor_eq
    (h : ∀ entry ∈ entries,
      Agrees known (scope.declaration importer entry) (scope.declaration plain entry))
    (hs : known s) :
    scope.answersFor importer entries s
      = entries.map fun entry => ((scope.declaration plain entry).run.run .empty).1 := by
  induction entries generalizing s with
  | nil => rfl
  | cons entry rest ih =>
    have agrees := h entry List.mem_cons_self
    have behind := ih (fun other ho => h other (List.mem_cons_of_mem entry ho))
      (agrees.known_run hs)
    have first : scope.answersFor importer (entry :: rest) s
        = ((scope.declaration importer entry).run.run s).1
          :: scope.answersFor importer rest ((scope.declaration importer entry).run.run s).2 := rfl
    rw [first, List.map_cons, agrees.run_eq hs, behind]

end

/-! ### Constants in any order -/

section

variable {scope bare : PackageScope} {visited : List ConstEntry}

/-- The value of a constant depends on no session, and none is changed by it. -/
theorem exists_run_named {entry : ConstEntry} (he : entry ∈ scope.constants) :
    ∃ result, ∀ s, ((scope.constantSource none).named entry).run.run s = (result, s) := by
  have self : Agrees (fun _ => True) ((scope.constantSource none).named entry)
      ((scope.constantSource none).named entry) :=
    AgreesOn.of_alike ⟨.empty, trivial⟩ fun t =>
      alike_namedConstant (admits_anything scope) (fun _ _ => Or.inl ⟨rfl, rfl⟩) he
  obtain ⟨result, -, free, -⟩ := self
  exact ⟨result, free⟩

/-- The entry for a constant in the table of values, if it has a value. -/
def PackageScope.valueOf? (scope : PackageScope) (entry : ConstEntry) : Option (String × Int) :=
  (((scope.constantSource none).named entry).run.run .empty).1.toOption.map fun n => (entry.name, n)

/-- The table of values holds the value of each constant, if it has one. -/
theorem run_knownConstants (h : ∀ entry ∈ visited, entry ∈ scope.constants) (s : Session) :
    (knownConstants (scope.constantSource none) visited).run.run s
      = (.ok (visited.filterMap scope.valueOf?), s) := by
  induction visited with
  | nil => rfl
  | cons entry rest ih =>
    obtain ⟨result, ran⟩ := exists_run_named (h entry List.mem_cons_self)
    have behind := ih fun other ho => h other (List.mem_cons_of_mem entry ho)
    have here : scope.valueOf? entry = result.toOption.map fun n => (entry.name, n) := by
      rw [PackageScope.valueOf?, ran]
    have value : (tryCatch (do
          let n ← (scope.constantSource none).named entry
          pure (some n)) fun _ => pure none : Check (Option Int)).run.run s
        = (.ok result.toOption, s) := by
      rw [run_tryCatch, run_bind, ran]
      cases result with
      | ok n => rfl
      | error cause => rfl
    rw [knownConstants, run_bind_of_ok value, run_bind_of_ok behind, List.filterMap_cons, here]
    cases result with
    | ok n => rfl
    | error cause => rfl

theorem map_fst_filterMap_sublist (scope : PackageScope) (visited : List ConstEntry) :
    ((visited.filterMap scope.valueOf?).map Prod.fst).Sublist (visited.map (·.name)) := by
  induction visited with
  | nil => exact .slnil
  | cons entry rest ih =>
    rw [List.filterMap_cons, List.map_cons]
    cases found : scope.valueOf? entry with
    | none => exact ih.cons _
    | some pair =>
      obtain ⟨n, -, rfl⟩ := Option.map_eq_some_iff.1 found
      exact ih.cons_cons _

/-- A package whose constants are those of `bare`, in another order and at other places, comes to
the same table of values, in whatever order they are visited. -/
theorem knownConstants_perm (looks : bare.LooksUp scope)
    (perm : (scope.constants.map ConstEntry.unplaced).Perm bare.constants)
    (order : visited.Perm (scope.constants.filter fun entry => isExported entry.name))
    (s : Session) :
    ∃ found, (knownConstants (scope.constantSource none) visited).run.run s = (.ok found, s)
      ∧ found.Perm ((bare.constants.filter fun entry => isExported entry.name).filterMap
        bare.valueOf?) := by
  have exported : (visited.map ConstEntry.unplaced).Perm
      (bare.constants.filter fun entry => isExported entry.name) := by
    refine (order.map _).trans (List.Perm.trans ?_ (perm.filter _))
    rw [List.filter_map]
    exact .refl _
  have declared : ∀ entry ∈ visited.map ConstEntry.unplaced, entry ∈ bare.constants :=
    fun entry he => (List.mem_filter.1 (exported.mem_iff.1 he)).1
  refine ⟨_, ?_, exported.filterMap bare.valueOf?⟩
  rw [knownConstants_unplaced looks]
  exact run_knownConstants declared s

/-- Two packages that declare the same in another order have one table of values, in whatever order
the constants of each are visited. -/
theorem exists_values_of_reorders {other : PackageScope} (reorders : other.Reorders scope) :
    ∃ values : List (String × Int), (values.map Prod.fst).Nodup
      ∧ ∀ each ∈ [scope, other], ∀ visited,
        visited.Perm (each.constants.filter fun entry => isExported entry.name) →
        ∀ s, ∃ found, (knownConstants (each.constantSource none) visited).run.run s = (.ok found, s)
          ∧ found.Perm values := by
  refine ⟨(scope.unplaced.constants.filter fun entry => isExported entry.name).filterMap
    scope.unplaced.valueOf?, ?_, fun each mem visited order s => ?_⟩
  · refine (map_fst_filterMap_sublist scope.unplaced _).nodup ?_
    refine (List.filter_sublist.map _).nodup ?_
    rw [PackageScope.unplaced, PackageScope.map_unplaced_constants]
    exact reorders.constantNames
  · rcases List.mem_cons.1 mem with rfl | mem
    · exact knownConstants_perm (PackageScope.looksUp_unplaced each) (.refl _) order s
    · obtain rfl := List.mem_singleton.1 mem
      exact knownConstants_perm reorders.looksUp reorders.constants order s

end

namespace Workspace

variable {w w' : Workspace} {asked : String → Prop} {dir : Path} {importPath : String}
  {files others : List SourceFile}

/-! ### Workspaces that hold the same -/

namespace SameFor

theorem symm (h : w.SameFor w' asked) : w'.SameFor w asked where
  located := fun ha => (h.located ha).symm
  files := fun {path dir} ha located => (h.files ha ((h.located ha).trans located)).symm
  clauses := fun ha => (h.clauses ha).symm
  closed := by
    rintro path other ha ⟨dir, located, mentions⟩
    have there := (h.located ha).trans located
    exact h.closed ha ⟨dir, there, mentions_of_filesIn_eq (h.files ha there).symm mentions⟩
  mentioned := h.mentioned'
  mentioned' := h.mentioned

/-- What is asked for comes to need itself in neither. -/
theorem grounded (h : w.SameFor w' asked) (grounded : w.Grounded asked) : w'.Grounded asked where
  closed := h.symm.closed
  acyclic := fun ha cycle => grounded.acyclic ha (h.symm.transGen_needs ha cycle)

theorem within (h : w.SameFor w' asked) {n : Nat} {path : String} (ha : asked path)
    (within : w'.Within n path) : w.Within n path := by
  induction n generalizing path with
  | zero => exact within
  | succ n ih =>
    intro other needs
    exact ih (h.closed ha needs) (within other (h.needs ha needs))

end SameFor

/-- Workspaces that hold the same of what is asked for come to the same verdicts on it. -/
theorem verdict_eq_of_sameFor (same : w.SameFor w' asked) (n : Nat) {path : String}
    (ha : asked path) : w.verdict n path = w'.verdict n path := by
  induction n generalizing path with
  | zero => rfl
  | succ n ih =>
    have alike : Alike Eq (fun _ => True) (w.checkImport (w.judge n) path)
        (w'.checkImport (w'.judge n) path) := by
      unfold checkImport
      rw [← same.located ha]
      refine (AlikeOn.lift fun _ _ => trivial).bind fun dir located => ?_
      have anything : ∀ files, w.filesIn dir = .ok files →
          Admits (PackageScope.ofFiles path files) (fun _ _ => True) fun _ => True :=
        fun _ _ => admits_anything _
      refine (alike_checkDirectory (same.files ha located) path anything (fun _ _ => trivial)
        fun other mentions => ?_).mono (fun _ _ => trivial) fun _ => id
      have below := same.closed ha ⟨dir, located, mentions⟩
      have load : (w.judge n).load other = (w'.judge n).load other :=
        congrArg (fun verdict => (liftM verdict : Check CheckedPackage)) (ih below)
      have name : (w.judge n).name? other = (w'.judge n).name? other :=
        congrArg (fun clause => (pure clause : Check (Option String))) (same.clauses below)
      rw [load, name]
      exact ⟨AlikeOn.refl _, AlikeOn.refl _⟩
    exact congrArg (fun m : Check CheckedPackage => (m.run.run .empty).1) alike.eq

/-! ### The packages that files need -/

/-- The import paths that some files need: those that they import, and all that these need in
turn. -/
def NeededBy (w : Workspace) (files : List SourceFile) (path : String) : Prop :=
  ∃ file ∈ files, ∃ first ∈ file.scope.paths, Relation.ReflTransGen w.Needs first path

theorem grounded_neededBy
    (acyclic : ∀ path, w.NeededBy files path → ¬ Relation.TransGen w.Needs path path) :
    w.Grounded (w.NeededBy files) where
  closed := fun ⟨file, hf, first, mem, chain⟩ needs => ⟨file, hf, first, mem, chain.tail needs⟩
  acyclic := fun {path} ha => acyclic path ha

theorem agrees_importer (grounded : w.Grounded asked) {path : String} (ha : asked path)
    (mentions : w.Mentions dir path) :
    Agrees (w.Coherent asked []) (w.importer.load path) ((w.judge w.importBound).load path)
      ∧ Agrees (w.Coherent asked []) (w.importer.name? path)
        ((w.judge w.importBound).name? path) := by
  refine ⟨?_, agrees_packageName? ha⟩
  refine agrees_loadPackage grounded ha (within_of_mentions grounded ha mentions) (Nat.le_refl _) ?_
  exact fun above mem => nomatch mem

/-- The other packages of a workspace that holds the same agree with the verdicts of this one. -/
theorem agrees_importer_of_sameFor (same : w.SameFor w' asked) (grounded : w.Grounded asked)
    {path : String} (ha : asked path) (mentions : w'.Mentions dir path) :
    Agrees (w'.Coherent asked []) (w'.importer.load path) ((w.judge w.importBound).load path)
      ∧ Agrees (w'.Coherent asked []) (w'.importer.name? path)
        ((w.judge w.importBound).name? path) := by
  obtain ⟨load, name⟩ := agrees_importer (same.grounded grounded) ha mentions
  obtain ⟨below, mentions'⟩ := same.mentioned ha
  have within := within_of_mentions grounded ha mentions'
  have within' := same.within ha (within_of_mentions (same.grounded grounded) ha mentions)
  have verdict : w'.verdict w'.importBound path = w.verdict w.importBound path :=
    (verdict_eq_of_sameFor same _ ha).symm.trans (verdict_eq within' within)
  have clause : w'.clause? path = w.clause? path := (same.clauses ha).symm
  unfold judge at load name ⊢
  dsimp only at load name ⊢
  rw [← verdict, ← clause]
  exact ⟨load, name⟩

/-- The types of a package come to the same from every session that is right. -/
theorem agrees_declaration {known : Session → Prop} (one : ∃ start, known start)
    {importer plain : Importer}
    (h : ∀ file ∈ files, ∀ path ∈ file.scope.paths,
      Agrees known (importer.load path) (plain.load path)
        ∧ Agrees known (importer.name? path) (plain.name? path))
    {entry : TypeEntry} (he : entry ∈ (PackageScope.ofFiles importPath files).types) :
    Agrees known ((PackageScope.ofFiles importPath files).declaration importer entry)
      ((PackageScope.ofFiles importPath files).declaration plain entry) := by
  have anything := admits_anything (PackageScope.ofFiles importPath files)
  refine AgreesOn.of_alike one fun t =>
    alike_declaration anything (scopeAlike_ofFiles fun file hf path hp => ?_) he
  obtain ⟨load, name⟩ := h file hf path hp
  exact ⟨load.alike t, name.alike t⟩

/-! ### The result -/

/-- Let some files declare distinct names, and need packages none of which comes to need itself, and
let a workspace that holds the same of these packages have the files with their declarations in
another order.  Then both come to the same declarations, or both fail, and constants have the same
values, in whatever order they are visited.  The answers for types and for constants do not depend
on those before, be they failures; one guard for all of them is after each what it was before. -/
theorem check_reordered (importPath : String) (read : w.filesIn dir = .ok files)
    (read' : w'.filesIn dir = .ok others)
    (reordered : List.Forall₂ SourceFile.Reorders others files)
    (distinct : DistinctDeclarations files)
    (acyclic : ∀ path, w.NeededBy files path → ¬ Relation.TransGen w.Needs path path)
    (same : w.SameFor w' (w.NeededBy files)) :
    let scope := PackageScope.ofFiles importPath files
    let other := PackageScope.ofFiles importPath others
    (∀ s s', w.Coherent (w.NeededBy files) [] s → w'.Coherent (w.NeededBy files) [] s' →
      SameDeclarations ((scope.declarations w.importer).run.run s).1
        ((other.declarations w'.importer).run.run s').1)
    ∧ (∃ values : List (String × Int), (values.map Prod.fst).Nodup
      ∧ ∀ each ∈ [scope, other], ∀ visited,
        visited.Perm (each.constants.filter fun entry => isExported entry.name) →
        ∀ s, ∃ found, (knownConstants (each.constantSource none) visited).run.run s = (.ok found, s)
          ∧ found.Perm values)
    ∧ (∀ s, w.Coherent (w.NeededBy files) [] s → ∀ entries ⊆ scope.types,
      scope.answersFor w.importer entries s
        = entries.map fun entry => ((scope.declaration w.importer entry).run.run .empty).1)
    ∧ (∀ entry ∈ scope.constants, ∃ result, ∀ s,
      ((scope.constantSource none).named entry).run.run s = (result, s))
    ∧ (∀ imported? depth entry,
      Guarded.Restores (guardedConstant scope imported? depth entry) fun names =>
        namedConstant scope imported? depth names entry)
    ∧ (∀ depth entry strict,
      Guarded.Restores (guardedKind scope w.importer depth entry strict) fun names =>
        namedKind scope w.importer depth names entry strict) := by
  intro scope other
  have reorders : other.Reorders scope := reorders_ofFiles reordered distinct importPath
  have grounded := grounded_neededBy acyclic
  have below : ∀ file ∈ files, ∀ path ∈ file.scope.paths, w.NeededBy files path :=
    fun file hf path hp => ⟨file, hf, path, hp, .refl⟩
  have here : ∀ entry ∈ scope.types, Agrees (w.Coherent (w.NeededBy files) [])
      (scope.declaration w.importer entry)
      (scope.declaration (w.judge w.importBound) entry) := by
    refine fun entry => agrees_declaration ⟨_, coherent_empty⟩ fun file hf path hp => ?_
    exact agrees_importer grounded (below file hf path hp) ⟨files, read, file, hf, hp⟩
  have there : ∀ entry ∈ other.types, Agrees (w'.Coherent (w.NeededBy files) [])
      (other.declaration w'.importer entry)
      (other.declaration (w.judge w.importBound) entry) := by
    refine fun entry => agrees_declaration ⟨_, coherent_empty⟩ fun file hf path hp => ?_
    obtain ⟨first, hfirst, same'⟩ := exists_of_mem_reordered reordered hf
    have needed := below first hfirst path (same'.scope ▸ hp)
    exact agrees_importer_of_sameFor same grounded needed ⟨others, read', file, hf, hp⟩
  refine ⟨fun s s' => sameDeclarations_of_reorders reorders here there,
    exists_values_of_reorders reorders, fun s hs entries sub => ?_, fun entry => exists_run_named,
    fun _ => restores_guardedConstant, restores_guardedKind⟩
  rw [answersFor_eq (fun entry he => here entry (sub he)) hs]
  refine List.map_congr_left fun entry he => ?_
  exact ((here entry (sub he)).run_eq coherent_empty).symm

/-! ### An example -/

/-- The file of a package with an interface. -/
def sourceText : String := "package source\ntype Source interface \x7b Read() int \x7d\n"

/-- The file of a package with an interface that embeds that one.  Each of its declarations needs
one that stands behind it. -/
def forwardText : String :=
  "package shelf\nimport \"source\"\ntype Shelf interface \x7b Book; Put([Size]int) \x7d\n"
    ++ "type Book source.Source\nconst Size = 2 * Half\nconst Half = 4\n"

/-- The same declarations the other way round. -/
def backwardText : String :=
  "package shelf\nimport \"source\"\nconst Half = 4\nconst Size = 2 * Half\n"
    ++ "type Book source.Source\ntype Shelf interface \x7b Book; Put([Size]int) \x7d\n"

/-- The two packages, the second of which has the given text. -/
def shelf (text : String) : Workspace where
  tree :=
    ⟨[(["src"], .directory directoryMode),
      (["src", "shelf"], .directory directoryMode),
      (["src", "shelf", "shelf.go"], .file (.text text) fileMode),
      (["src", "source"], .directory directoryMode),
      (["src", "source", "source.go"], .file (.text sourceText) fileMode)]⟩
  context := ⟨⟨"/work"⟩, ⟨"/"⟩, none, hostPlatform⟩

/-- The file of the second package. -/
def shelfFile (text : String) : SourceFile := .ofText ⟨"/src/shelf/shelf.go"⟩ text

/-- The interface that embeds another one of its package. -/
def shelfSpec : TypeSpec :=
  ⟨"Shelf", false, .interface default [.types (.mk default [.name default "Book"]),
    .method default "Put"
      [.mk 0 (.array default (.name default "Size") (.name default "int")) false] []]⟩

/-- The type that goes back to an interface of another package. -/
def bookSpec : TypeSpec := ⟨"Book", false, .qualified default "source" "Source"⟩

/-- The declarations of the constants. -/
def sizeGroup : List ConstSpec :=
  [⟨["Size"], some [.binary default .mul (.integer default "2") (.name default "Half")]⟩]

/-- Whether a file is well formed, what it imports, and what it declares. -/
def contents (file : SourceFile) :
    Bool × FileScope × List TypeSpec × List (List ConstSpec) :=
  (file.content.complete, file.scope, file.content.typeSpecs.map TypeSpec.unplaced,
    file.content.constGroups.map fun group => group.map ConstSpec.unplaced)

theorem contents_forwardText :
    contents (shelfFile forwardText)
      = (true, ⟨[("source", "source")], ["source"], false, false⟩, [shelfSpec, bookSpec],
        [sizeGroup, [⟨["Half"], some [.integer default "4"]⟩]]) := by
  cbv

theorem contents_backwardText :
    contents (shelfFile backwardText)
      = (true, ⟨[("source", "source")], ["source"], false, false⟩, [bookSpec, shelfSpec],
        [[⟨["Half"], some [.integer default "4"]⟩], sizeGroup]) := by
  cbv

theorem reorders_shelf : (shelfFile backwardText).Reorders (shelfFile forwardText) := by
  obtain ⟨-, there⟩ := Prod.mk.inj contents_forwardText
  obtain ⟨-, here⟩ := Prod.mk.inj contents_backwardText
  obtain ⟨scope, there⟩ := Prod.mk.inj there
  obtain ⟨scope', here⟩ := Prod.mk.inj here
  obtain ⟨types, constants⟩ := Prod.mk.inj there
  obtain ⟨types', constants'⟩ := Prod.mk.inj here
  refine ⟨scope'.trans scope.symm, ?_, ?_⟩
  · rw [types, types']
    exact .swap _ _ _
  · rw [constants, constants']
    exact .swap _ _ _

theorem distinctDeclarations_shelf : DistinctDeclarations [shelfFile forwardText] := by
  obtain ⟨-, there⟩ := Prod.mk.inj contents_forwardText
  obtain ⟨-, there⟩ := Prod.mk.inj there
  obtain ⟨types, constants⟩ := Prod.mk.inj there
  constructor
  · rw [List.flatMap_singleton, ← PackageScope.map_unplaced_types, SourceFile.map_types, types]
    decide
  · rw [List.flatMap_singleton, ← PackageScope.map_unplaced_constants, SourceFile.map_constants,
      constants]
    decide

theorem filesIn_forwardText :
    (shelf forwardText).filesIn ⟨"/src/shelf"⟩ = .ok [shelfFile forwardText] :=
  filesIn_of_single (by decide +kernel) (by decide +kernel)
    (Prod.mk.inj contents_forwardText).1

theorem filesIn_backwardText :
    (shelf backwardText).filesIn ⟨"/src/shelf"⟩ = .ok [shelfFile backwardText] :=
  filesIn_of_single (by decide +kernel) (by decide +kernel)
    (Prod.mk.inj contents_backwardText).1

/-- In both workspaces the package that the other one imports is the same, and imports nothing. -/
theorem source_of_shelf (text : String) (h : text ∈ [forwardText, backwardText]) :
    (shelf text).locate "source" = .ok ⟨"/src/source"⟩
      ∧ (shelf text).filesIn ⟨"/src/source"⟩ = .ok [.ofText ⟨"/src/source/source.go"⟩ sourceText]
      ∧ (shelf text).clause? "source" = some "source"
      ∧ ∀ other, ¬ (shelf text).Needs "source" other := by
  have facts : ∀ text ∈ [forwardText, backwardText],
      (shelf text).locate "source" = .ok ⟨"/src/source"⟩
        ∧ sourceFiles (shelf text).tree ⟨"/src/source"⟩ = .ok [⟨"/src/source/source.go"⟩]
        ∧ (shelf text).tree.readText ⟨"/src/source/source.go"⟩ = .ok sourceText
        ∧ (shelf text).clause? "source" = some "source" := by decide +kernel
  obtain ⟨located, found, there, clause⟩ := facts text h
  have complete : (SourceFile.ofText ⟨"/src/source/source.go"⟩ sourceText).content.complete = true
      ∧ (SourceFile.ofText ⟨"/src/source/source.go"⟩ sourceText).scope.paths = [] := by
    decide +kernel
  have read := filesIn_of_single found there complete.1
  refine ⟨located, read, clause, ?_⟩
  rintro other ⟨dir, located', mentions⟩
  obtain rfl := Except.ok.inj (located.symm.trans located')
  refine not_mentions_of_paths ?_ other mentions
  rw [read]
  exact congrArg Except.ok ((List.append_nil _).trans complete.2)

theorem neededBy_shelf {path : String}
    (h : (shelf forwardText).NeededBy [shelfFile forwardText] path) : path = "source" := by
  obtain ⟨file, hf, first, mem, chain⟩ := h
  obtain rfl := List.mem_singleton.1 hf
  obtain ⟨-, there⟩ := Prod.mk.inj contents_forwardText
  rw [(Prod.mk.inj there).1] at mem
  obtain rfl : first = "source" := by
    simpa [FileScope.paths] using mem
  obtain ⟨-, -, -, ends⟩ := source_of_shelf forwardText List.mem_cons_self
  rcases Relation.ReflTransGen.cases_head chain with same | ⟨other, needs, -⟩
  · exact same.symm
  · exact absurd needs (ends other)

theorem sameFor_shelf :
    (shelf forwardText).SameFor (shelf backwardText)
      ((shelf forwardText).NeededBy [shelfFile forwardText]) := by
  obtain ⟨located, read, clause, ends⟩ := source_of_shelf forwardText (by simp)
  obtain ⟨located', read', clause', -⟩ := source_of_shelf backwardText (by simp)
  obtain ⟨-, there⟩ := Prod.mk.inj contents_forwardText
  obtain ⟨-, here⟩ := Prod.mk.inj contents_backwardText
  constructor
  · intro path ha
    rw [neededBy_shelf ha, located, located']
  · intro path dir ha found
    rw [neededBy_shelf ha, located] at found
    rw [← Except.ok.inj found, read, read']
  · intro path ha
    rw [neededBy_shelf ha, clause, clause']
  · intro path other ha needs
    rw [neededBy_shelf ha] at needs
    exact absurd needs (ends other)
  · intro path ha
    rw [neededBy_shelf ha]
    refine ⟨⟨"/src/shelf"⟩, _, filesIn_forwardText, _, List.mem_singleton_self _, ?_⟩
    rw [(Prod.mk.inj there).1]
    decide
  · intro path ha
    rw [neededBy_shelf ha]
    refine ⟨⟨"/src/shelf"⟩, _, filesIn_backwardText, _, List.mem_singleton_self _, ?_⟩
    rw [(Prod.mk.inj here).1]
    decide

/-- Forward and backward, the package comes to the same declarations. -/
theorem check_reordered_shelf :
    (shelf forwardText).filesIn ⟨"/src/shelf"⟩ = .ok [shelfFile forwardText]
      ∧ (shelf backwardText).filesIn ⟨"/src/shelf"⟩ = .ok [shelfFile backwardText]
      ∧ (shelfFile backwardText).Reorders (shelfFile forwardText)
      ∧ DistinctDeclarations [shelfFile forwardText]
      ∧ ∃ found again,
        (((PackageScope.ofFiles "shelf" [shelfFile forwardText]).declarations
          (shelf forwardText).importer).run.run .empty).1 = .ok found
        ∧ (((PackageScope.ofFiles "shelf" [shelfFile backwardText]).declarations
          (shelf backwardText).importer).run.run .empty).1 = .ok again
        ∧ found.Perm again := by
  obtain ⟨-, -, -, ends⟩ := source_of_shelf forwardText List.mem_cons_self
  have acyclic : ∀ path, (shelf forwardText).NeededBy [shelfFile forwardText] path →
      ¬ Relation.TransGen (shelf forwardText).Needs path path := by
    intro path ha cycle
    rw [neededBy_shelf ha] at cycle
    obtain ⟨other, needs, -⟩ := Relation.TransGen.head'_iff.1 cycle
    exact ends other needs
  obtain ⟨same, -⟩ := check_reordered "shelf" filesIn_forwardText filesIn_backwardText
    (.cons reorders_shelf .nil) distinctDeclarations_shelf acyclic sameFor_shelf
  refine ⟨filesIn_forwardText, filesIn_backwardText, reorders_shelf, distinctDeclarations_shelf, ?_⟩
  rcases same .empty .empty coherent_empty coherent_empty with both | ⟨cause, -, failed, -⟩
  · exact both
  · have came : (((PackageScope.ofFiles "shelf" [shelfFile forwardText]).declarations
        (shelf forwardText).importer).run.run .empty).1.isOk = true := by
      decide +kernel
    rw [failed] at came
    cases came

end Workspace

end WrapperGen
