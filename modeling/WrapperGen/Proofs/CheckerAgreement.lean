import WrapperGen.Proofs.ImportCount
import WrapperGen.Proofs.References
import WrapperGen.Proofs.SessionLogic

/-!
# Checkers over two importers

All that the checker of a package has of a session it has from its importer, and it asks that only
for packages that the files of the package import.  So two importers that come to the same for
those give the same package.  The guards against cycles are looked at on the way: a checker that
does anything else beyond its bounds, and where a guard strikes without a cycle, comes to the same
too, because it never gets there.

## Main definitions

* `ImportersAlike`: two importers come to the same for what a file imports.
* `ScopeAlike`: they do for all files with declarations of a package.
* `Admits`: the failures that are allowed, those among them whose cycles are real.
* `namedConstantOr`, `namedKindOr`: a constant and a kind, where `beyond` tells what is done beyond
  the bounds.
* `Workspace.checkFiles`: the package that consists of some files.

## Main results

* `alike_constantValue`, `alike_declaredType`, `alike_kindOf`: constants, types, and kinds.
* `namedConstantOr_eq`, `namedKindOr_eq`: what is done beyond the bounds makes no difference.
* `Workspace.alike_checkDirectory`, `Workspace.agrees_checkDirectory`: the package of a directory.
-/

namespace WrapperGen

open Source

variable {keeps : Session → Session → Prop} {stuck : String → CheckError → Prop}
  {fails : CheckError → Prop} {importer importer' : Importer} {file : SourceFile}
  {scope : PackageScope}

/-! ### What is compared -/

/-- Two importers come to the same for the imports of a file.  A package that cannot be used is
`stuck` for a cause, and a name that cannot be read is a failure. -/
def ImportersAlike (keeps : Session → Session → Prop) (stuck : String → CheckError → Prop)
    (fails : CheckError → Prop) (importer importer' : Importer) (file : SourceFile) : Prop :=
  ∀ path ∈ file.scope.paths, Alike keeps (stuck path) (importer.load path) (importer'.load path)
    ∧ Alike keeps fails (importer.name? path) (importer'.name? path)

/-- Two importers come to the same for every file that declares something in a package. -/
structure ScopeAlike (keeps : Session → Session → Prop) (stuck : String → CheckError → Prop)
    (fails : CheckError → Prop) (importer importer' : Importer) (scope : PackageScope) :
    Prop where
  /-- The files of types. -/
  types : ∀ entry ∈ scope.types, ImportersAlike keeps stuck fails importer importer' entry.file
  /-- The files of constants. -/
  constants : ∀ entry ∈ scope.constants,
    ImportersAlike keeps stuck fails importer importer' entry.file

/-- A failure that tells neither of a place of a file nor of a cycle. -/
def CheckError.IsPlain : CheckError → Prop
  | .fault _ _ _ | .importFailed _ _ _ _ | .importCycle _ => False
  | _ => True

/-- The failures that are allowed.  Those at a place of a file are if any cycle that they tell of
is real, and those of an import are if its package is stuck. -/
structure Admits (scope : PackageScope) (stuck : String → CheckError → Prop)
    (fails : CheckError → Prop) : Prop where
  /-- What is wrong at a place of a file. -/
  fault : ∀ file place what, what.IsReal scope → fails (.fault file place what)
  /-- What concerns no place of a file. -/
  plain : ∀ cause, cause.IsPlain → fails cause
  /-- An import whose package cannot be used. -/
  importFailed : ∀ file place importPath cause, stuck importPath cause →
    fails (.importFailed file place importPath cause)

/-- All failures may be allowed. -/
theorem admits_anything (scope : PackageScope) : Admits scope (fun _ _ => True) fun _ => True :=
  ⟨fun _ _ _ _ => trivial, fun _ _ => trivial, fun _ _ _ _ _ => trivial⟩

theorem Admits.fail {α : Type} (admits : Admits scope stuck fails) {file : SourceFile}
    {span : Span} {what : Fault} (real : what.IsReal scope) :
    Alike keeps fails (file.fail span what : Check α) (file.fail span what) :=
  AlikeOn.throw (admits.fault _ _ _ real)

theorem Admits.failUndefined {α : Type} (admits : Admits scope stuck fails) {file : SourceFile}
    {span : Span} {name : String} :
    Alike keeps fails (file.failUndefined span name : Check α) (file.failUndefined span name) :=
  admits.fail trivial

/-! ### Names for packages -/

theorem alike_firstNamed {name : String} {paths : List String}
    (h : ∀ path ∈ paths, Alike keeps fails (importer.name? path) (importer'.name? path)) :
    AlikeOn keeps (fun path? => ∀ path, path? = some path → path ∈ paths) fails
      (FileScope.firstNamed importer name paths) (FileScope.firstNamed importer' name paths) := by
  induction paths with
  | nil => exact AlikeOn.pure fun path e => by cases e
  | cons first rest ih =>
    unfold FileScope.firstNamed
    refine (h first List.mem_cons_self).bind fun found => ?_
    by_cases same : found = some name
    · rw [if_pos same, if_pos same]
      refine AlikeOn.pure fun path e => ?_
      rw [← Option.some.inj e]
      exact List.mem_cons_self
    · rw [if_neg same, if_neg same]
      refine (ih fun path hp => h path (List.mem_cons_of_mem first hp)).mono ?_ fun _ => id
      exact fun path? more path e => List.mem_cons_of_mem first (more path e)

theorem alike_importPath? (h : ImportersAlike keeps stuck fails importer importer' file)
    (name : String) :
    AlikeOn keeps (fun path? => ∀ path, path? = some path → path ∈ file.scope.paths) fails
      (file.scope.importPath? importer name) (file.scope.importPath? importer' name) := by
  unfold FileScope.importPath?
  cases found : file.scope.names.lookup name with
  | some importPath =>
    refine AlikeOn.pure fun path e => ?_
    rw [← Option.some.inj e]
    obtain ⟨front, behind, names, -⟩ := List.lookup_eq_some_iff.1 found
    refine List.mem_append_left _ (List.mem_map.2 ⟨(name, importPath), ?_, rfl⟩)
    rw [names]
    simp
  | none =>
    refine (alike_firstNamed fun path hp => ?_).mono ?_ fun _ => id
    · exact (h path (List.mem_append_right _ hp)).2
    · exact fun path? more path e => List.mem_append_right _ (more path e)

/-! ### Expressions -/

/-- The constants of other packages: either none are asked for, or for those that a file names both
sides come to the same. -/
def ImportedAlike (keeps : Session → Session → Prop) (fails : CheckError → Prop)
    (file : SourceFile)
    (imported? imported?' : Option (SourceFile → Span → Expr → String → Check Int)) : Prop :=
  (imported? = none ∧ imported?' = none) ∨
    ∃ f g, imported? = some f ∧ imported?' = some g
      ∧ ∀ span operand field,
        Alike keeps fails (f file span operand field) (g file span operand field)

/-- Two sources of constants come to the same, for those of the package that are among some names
and for what a file imports. -/
structure SourcesAlike (keeps : Session → Session → Prop) (fails : CheckError → Prop)
    (scope : PackageScope) (file : SourceFile) (source source' : ConstantSource)
    (names : List String) : Prop where
  /-- The constants of the package. -/
  named : ∀ entry ∈ scope.constants, entry.name ∈ names →
    Alike keeps fails (source.named entry) (source'.named entry)
  /-- Those of other packages. -/
  imported : ImportedAlike keeps fails file source.imported? source'.imported?

theorem SourcesAlike.mono {source source' : ConstantSource} {names fewer : List String}
    (h : SourcesAlike keeps fails scope file source source' names) (sub : fewer ⊆ names) :
    SourcesAlike keeps fails scope file source source' fewer :=
  ⟨fun entry he mem => h.named entry he (sub mem), h.imported⟩

theorem alike_importedConstant (admits : Admits scope stuck fails)
    (h : ImportersAlike keeps stuck fails importer importer' file) (span : Span) (operand : Expr)
    (field : String) :
    Alike keeps fails (importedConstant importer file span operand field)
      (importedConstant importer' file span operand field) := by
  unfold importedConstant
  split
  · refine (alike_importPath? h _).bind fun path? asked => ?_
    cases path? with
    | none => exact admits.failUndefined
    | some path =>
      refine Alike.bind ?_ fun package => ?_
      · refine (h path (asked path rfl)).1.tryCatch fun cause caught => ?_
        exact AlikeOn.throw (admits.importFailed _ _ _ _ caught)
      · cases package.constant? field with
        | some n => exact AlikeOn.pure trivial
        | none => exact admits.failUndefined
  · exact admits.fail trivial

theorem alike_constantValue (admits : Admits scope stuck fails) {source source' : ConstantSource}
    {counter? : Option Nat} (e : Expr)
    (h : SourcesAlike keeps fails scope file source source' e.names) :
    Alike keeps fails (constantValue scope source file counter? e)
      (constantValue scope source' file counter? e) := by
  -- both sides take the same branch in each case, as the sources differ only in their constants
  induction e with
  | integer span text =>
    unfold constantValue
    cases integerValue? text with
    | some n => exact AlikeOn.pure trivial
    | none => exact admits.fail trivial
  | counter span =>
    unfold constantValue
    cases counter? with
    | some n => exact AlikeOn.pure trivial
    | none => exact admits.fail trivial
  | name span text =>
    unfold constantValue
    cases found : scope.constant? text with
    | some entry =>
      obtain ⟨mem, same⟩ := PackageScope.mem_of_constant? found
      exact h.named entry mem (List.mem_singleton.2 same)
    | none => exact admits.failUndefined
  | selector span operand field =>
    unfold constantValue
    rcases h.imported with ⟨none₁, none₂⟩ | ⟨f, g, some₁, some₂, both⟩
    -- no other packages are to be asked, so this is a failure on both sides
    · rw [none₁, none₂]
      exact admits.fail trivial
    · rw [some₁, some₂]
      exact both span operand field
  | paren span inner ih =>
    unfold constantValue
    exact ih h
  | unary span op operand ih =>
    unfold constantValue
    refine (ih h).bind fun a => ?_
    cases op.apply? a with
    | some n => exact AlikeOn.pure trivial
    | none => exact admits.fail trivial
  | binary span op left right ihl ihr =>
    unfold constantValue
    refine (ihl (h.mono (List.subset_append_left _ _))).bind fun a =>
      (ihr (h.mono (List.subset_append_right _ _))).bind fun b => ?_
    cases op.apply? a b with
    | some n => exact AlikeOn.pure trivial
    | none => exact admits.fail trivial
  | other span => exact admits.fail trivial

/-! ### Constants -/

open Classical in
/-- The value of a constant of the package, as `namedConstant` has it, but for what is done beyond
the bounds: where the depth is used up, and where a name is pending that is part of no cycle. -/
noncomputable def namedConstantOr (beyond : ConstEntry → Expr → Check Int) (scope : PackageScope)
    (imported? : Option (SourceFile → Span → Expr → String → Check Int)) :
    Nat → List String → ConstEntry → Check Int
  | depth, pending, entry =>
      match entry.value? with
      | none => throw (.missingValue entry.name)
      | some value =>
          if pending.contains entry.name then
            if Relation.TransGen scope.RefersTo entry.name entry.name then
              entry.file.fail value.span (.constantCycle entry.name)
            else beyond entry value
          else
            match depth with
            | 0 => beyond entry value
            | depth + 1 =>
                constantValue scope
                  ⟨namedConstantOr beyond scope imported? depth (entry.name :: pending), imported?⟩
                  entry.file (some entry.counter) value

/-- What `namedConstant` does beyond the bounds. -/
theorem namedConstant_eq_or
    (imported? : Option (SourceFile → Span → Expr → String → Check Int)) (depth : Nat)
    (pending : List String) (entry : ConstEntry) :
    namedConstant scope imported? depth pending entry
      = namedConstantOr (fun entry value => entry.file.fail value.span (.constantCycle entry.name))
          scope imported? depth pending entry := by
  induction depth generalizing pending entry with
  | zero =>
    unfold namedConstant namedConstantOr
    cases entry.value? with
    | none => rfl
    | some value => simp only [ite_self]
  | succ depth ih =>
    unfold namedConstant namedConstantOr
    cases entry.value? with
    | none => rfl
    | some value => simp only [ite_self, funext (ih _)]

/-- Constants come to the same on both sides, whatever is done beyond the bounds. -/
theorem alike_namedConstantOr (admits : Admits scope stuck fails)
    {beyond beyond' : ConstEntry → Expr → Check Int}
    {imported? imported?' : Option (SourceFile → Span → Expr → String → Check Int)}
    (h : ∀ entry ∈ scope.constants, ImportedAlike keeps fails entry.file imported? imported?')
    {depth depth' : Nat} {pending : List String} {entry : ConstEntry}
    (he : entry ∈ scope.constants)
    (chain : Chain (· ∈ scope.constants.map ConstEntry.name) scope.RefersTo pending entry.name)
    (enough : scope.constants.length ≤ pending.length + depth)
    (enough' : scope.constants.length ≤ pending.length + depth') :
    Alike keeps fails (namedConstantOr beyond scope imported? depth pending entry)
      (namedConstantOr beyond' scope imported?' depth' pending entry) := by
  -- the depths may differ, so the induction is on one of them, with any other one on the other side
  induction depth using Nat.strongRecOn generalizing depth' pending entry with
  | ind depth ih =>
    unfold namedConstantOr
    cases given : entry.value? with
    | none => exact AlikeOn.throw (admits.plain _ trivial)
    | some value =>
      dsimp only
      by_cases old : pending.contains entry.name = true
      · -- what is pending already comes to refer to itself
        have real := chain.cycle (List.contains_iff_mem.1 old)
        rw [if_pos old, if_pos old, if_pos real, if_pos real]
        exact admits.fail real
      · rw [if_neg old, if_neg old]
        have new : entry.name ∉ pending := fun mem => old (List.contains_iff_mem.2 mem)
        have declared : entry.name ∈ scope.constants.map ConstEntry.name :=
          List.mem_map.2 ⟨entry, he, rfl⟩
        -- the pending names are distinct declared ones, so some depth is left on both sides
        have room : pending.length < scope.constants.length := by
          refine chain.length_lt declared new fun names nodup all => ?_
          have few := (nodup.subperm all).length_le
          rwa [List.length_map] at few
        obtain ⟨less, rfl⟩ : ∃ less, depth = less + 1 := ⟨depth - 1, by omega⟩
        obtain ⟨less', rfl⟩ : ∃ less, depth' = less + 1 := ⟨depth' - 1, by omega⟩
        refine alike_constantValue admits value ⟨fun other ho mem => ?_, h entry he⟩
        refine ih less (Nat.lt_succ_self less) ho ?_ ?_ ?_
        · exact chain.step declared new ⟨entry, he, rfl, value, given, mem⟩
        · rw [List.length_cons]
          omega
        · rw [List.length_cons]
          omega

theorem alike_namedConstant (admits : Admits scope stuck fails)
    {imported? imported?' : Option (SourceFile → Span → Expr → String → Check Int)}
    (h : ∀ entry ∈ scope.constants, ImportedAlike keeps fails entry.file imported? imported?')
    {entry : ConstEntry} (he : entry ∈ scope.constants) :
    Alike keeps fails (namedConstant scope imported? scope.constants.length [] entry)
      (namedConstant scope imported?' scope.constants.length [] entry) := by
  rw [namedConstant_eq_or, namedConstant_eq_or]
  exact alike_namedConstantOr admits h he .nil (Nat.le_add_left _ _) (Nat.le_add_left _ _)

/-- What is done beyond the bounds makes no difference for the constants of a package. -/
theorem namedConstantOr_eq (beyond : ConstEntry → Expr → Check Int)
    (imported? : Option (SourceFile → Span → Expr → String → Check Int)) {depth : Nat}
    (enough : scope.constants.length ≤ depth) {entry : ConstEntry} (he : entry ∈ scope.constants) :
    namedConstantOr beyond scope imported? depth [] entry
      = namedConstant scope imported? scope.constants.length [] entry := by
  have both : ∀ file, ImportedAlike Eq (fun _ => True) file imported? imported? := fun file => by
    cases imported? with
    | none => exact Or.inl ⟨rfl, rfl⟩
    | some f => exact Or.inr ⟨f, f, rfl, rfl, fun _ _ _ => AlikeOn.refl _⟩
  have alike : Alike Eq (fun _ => True) (namedConstantOr beyond scope imported? depth [] entry)
      (namedConstant scope imported? scope.constants.length [] entry) := by
    rw [namedConstant_eq_or]
    exact alike_namedConstantOr (admits_anything scope) (fun _ _ => both _) he .nil
      (Nat.le_add_left_of_le enough) (Nat.le_add_left _ _)
  exact alike.eq

theorem alike_lengthValue (admits : Admits scope stuck fails)
    (h : ScopeAlike keeps stuck fails importer importer' scope)
    (hf : ImportersAlike keeps stuck fails importer importer' file) (length : Expr) :
    Alike keeps fails (lengthValue scope importer file length)
      (lengthValue scope importer' file length) := by
  have both : ∀ file, ImportersAlike keeps stuck fails importer importer' file →
      ImportedAlike keeps fails file (some (importedConstant importer))
        (some (importedConstant importer')) := by
    intro file hf
    exact Or.inr ⟨_, _, rfl, rfl, fun span operand field => alike_importedConstant admits hf _ _ _⟩
  unfold lengthValue
  refine Alike.bind (alike_constantValue admits length ⟨?_, both file hf⟩) ?_
  · intro entry he _
    exact alike_namedConstant admits (fun other ho => both _ (h.constants other ho)) he
  · intro n
    split
    · exact AlikeOn.pure trivial
    · exact admits.fail trivial

/-! ### Types -/

theorem alike_bareName (admits : Admits scope stuck fails) (span : Span) (name : String) :
    Alike keeps fails (bareName scope file span name) (bareName scope file span name) := by
  unfold bareName
  split
  · exact AlikeOn.pure trivial
  · split
    · exact AlikeOn.pure trivial
    · exact admits.failUndefined

theorem alike_qualifiedTypeName (admits : Admits scope stuck fails)
    (h : ImportersAlike keeps stuck fails importer importer' file) (span : Span)
    (qualifier name : String) :
    Alike keeps fails (qualifiedTypeName importer file span qualifier name)
      (qualifiedTypeName importer' file span qualifier name) := by
  unfold qualifiedTypeName
  split
  · exact AlikeOn.pure trivial
  · refine (alike_importPath? h _).bind fun path? _ => ?_
    cases path? with
    | none => exact admits.failUndefined
    | some path => exact AlikeOn.pure trivial

mutual

theorem alike_declaredType (admits : Admits scope stuck fails)
    (h : ScopeAlike keeps stuck fails importer importer' scope)
    (hf : ImportersAlike keeps stuck fails importer importer' file) :
    (e : TypeExpr) →
    Alike keeps fails (declaredType scope importer file e) (declaredType scope importer' file e)
  | .name span text => by
    unfold declaredType
    exact alike_bareName admits span text
  | .qualified span qualifier name => by
    unfold declaredType
    exact alike_qualifiedTypeName admits hf span qualifier name
  | .generic _ base arguments => by
    unfold declaredType
    exact (alike_declaredType admits h hf base).bind fun _ =>
      (alike_declaredArguments admits h hf arguments).bind fun _ => AlikeOn.pure trivial
  | .pointer _ element => by
    unfold declaredType
    exact (alike_declaredType admits h hf element).bind fun _ => AlikeOn.pure trivial
  | .array _ length element => by
    unfold declaredType
    exact (alike_lengthValue admits h hf length).bind fun _ =>
      (alike_declaredType admits h hf element).bind fun _ => AlikeOn.pure trivial
  | .slice _ element => by
    unfold declaredType
    exact (alike_declaredType admits h hf element).bind fun _ => AlikeOn.pure trivial
  | .map _ key value => by
    unfold declaredType
    exact (alike_declaredType admits h hf key).bind fun _ =>
      (alike_declaredType admits h hf value).bind fun _ => AlikeOn.pure trivial
  | .channel _ direction element => by
    unfold declaredType
    exact (alike_declaredType admits h hf element).bind fun _ => AlikeOn.pure trivial
  | .function _ params results => by
    unfold declaredType
    exact (alike_declaredParams admits h hf params).bind fun _ =>
      (alike_declaredParams admits h hf results).bind fun _ => AlikeOn.pure trivial
  | .struct span hasFields => by
    unfold declaredType
    split
    · exact admits.fail trivial
    · exact AlikeOn.pure trivial
  | .interface span elements => by
    unfold declaredType
    split
    · exact AlikeOn.pure trivial
    · exact admits.fail trivial
  | .paren _ inner => by
    unfold declaredType
    exact alike_declaredType admits h hf inner
  | .approximation span _ => by
    unfold declaredType
    exact admits.fail trivial

theorem alike_declaredArguments (admits : Admits scope stuck fails)
    (h : ScopeAlike keeps stuck fails importer importer' scope)
    (hf : ImportersAlike keeps stuck fails importer importer' file) :
    (arguments : List TypeElem) →
    Alike keeps fails (declaredArguments scope importer file arguments)
      (declaredArguments scope importer' file arguments)
  | [] => by
    unfold declaredArguments
    exact AlikeOn.pure trivial
  | argument :: rest => by
    unfold declaredArguments
    exact (alike_declaredArgument admits h hf argument).bind fun _ =>
      (alike_declaredArguments admits h hf rest).bind fun _ => AlikeOn.pure trivial

theorem alike_declaredArgument (admits : Admits scope stuck fails)
    (h : ScopeAlike keeps stuck fails importer importer' scope)
    (hf : ImportersAlike keeps stuck fails importer importer' file) :
    (argument : TypeElem) →
    Alike keeps fails (declaredArgument scope importer file argument)
      (declaredArgument scope importer' file argument)
  | .mk _ [term] => by
    unfold declaredArgument
    exact alike_declaredType admits h hf term
  | .mk span [] => by
    unfold declaredArgument
    exact admits.fail trivial
  | .mk span (_ :: _ :: _) => by
    unfold declaredArgument
    exact admits.fail trivial

theorem alike_declaredParams (admits : Admits scope stuck fails)
    (h : ScopeAlike keeps stuck fails importer importer' scope)
    (hf : ImportersAlike keeps stuck fails importer importer' file) :
    (params : List Param) →
    Alike keeps fails (declaredParams scope importer file params)
      (declaredParams scope importer' file params)
  | [] => by
    unfold declaredParams
    exact AlikeOn.pure trivial
  | .mk names type repeated :: rest => by
    unfold declaredParams
    refine (alike_declaredType admits h hf type).bind fun _ =>
      (alike_declaredParams admits h hf rest).bind fun _ => ?_
    split
    · exact AlikeOn.pure trivial
    · exact AlikeOn.pure trivial

end

theorem alike_declaredSignature (admits : Admits scope stuck fails)
    (h : ScopeAlike keeps stuck fails importer importer' scope)
    (hf : ImportersAlike keeps stuck fails importer importer' file) (params results : List Param) :
    Alike keeps fails (declaredSignature scope importer file params results)
      (declaredSignature scope importer' file params results) := by
  unfold declaredSignature
  exact (alike_declaredParams admits h hf params).bind fun _ =>
    (alike_declaredParams admits h hf results).bind fun _ => AlikeOn.pure trivial

/-! ### Kinds -/

theorem alike_addMethods (admits : Admits scope stuck fails) (span : Span)
    (methods more : List (Method DeclaredName)) :
    Alike keeps fails (addMethods file span methods more) (addMethods file span methods more) := by
  induction more generalizing methods with
  | nil => exact AlikeOn.pure trivial
  | cons m rest ih =>
    unfold addMethods
    cases addMethod? methods m with
    | some grown => exact ih grown
    | none => exact admits.fail trivial

theorem alike_qualifiedKind (admits : Admits scope stuck fails)
    (h : ImportersAlike keeps stuck fails importer importer' file) (strict : Bool) (span : Span)
    (qualifier name : String) :
    Alike keeps fails (qualifiedKind importer file strict span qualifier name)
      (qualifiedKind importer' file strict span qualifier name) := by
  unfold qualifiedKind
  split
  · exact AlikeOn.pure trivial
  · refine (alike_importPath? h _).bind fun path? asked => ?_
    cases path? with
    | none => exact admits.failUndefined
    | some path =>
      refine Alike.bind ?_ fun package? => ?_
      · -- a failure of the other package is caught here, and it is the same failure on both sides
        refine AlikeOn.tryCatch ((h path (asked path rfl)).1.bind fun _ => ?_)
          fun cause caught => ?_
        · exact AlikeOn.pure trivial
        · split
          · exact AlikeOn.throw (admits.importFailed _ _ _ _ caught)
          · exact AlikeOn.pure trivial
      · cases package? with
        | none => exact AlikeOn.pure trivial
        | some package =>
          dsimp only
          cases package.declaration? name with
          | some d => exact AlikeOn.pure trivial
          | none => exact admits.failUndefined

/-- Two sources of kinds come to the same for those types of the package that are among some names
and have no parameters. -/
def NamedAlike (keeps : Session → Session → Prop) (fails : CheckError → Prop)
    (scope : PackageScope) (named named' : TypeEntry → Bool → Check TypeKind)
    (names : List String) : Prop :=
  ∀ entry ∈ scope.types, entry.spec.generic = false → entry.spec.name ∈ names →
    ∀ strict, Alike keeps fails (named entry strict) (named' entry strict)

theorem NamedAlike.mono {named named' : TypeEntry → Bool → Check TypeKind}
    {names fewer : List String} (h : NamedAlike keeps fails scope named named' names)
    (sub : fewer ⊆ names) : NamedAlike keeps fails scope named named' fewer :=
  fun entry he plain mem => h entry he plain (sub mem)

/-- The kinds of predeclared types: one of them has a method. -/
theorem predeclaredKind?_eq_some {name : String} {kind : TypeKind}
    (h : predeclaredKind? name = some kind) :
    (name = "error" ∧ kind = .interface errorMethods) ∨ (name ≠ "error" ∧ kind = .interface [])
      ∨ kind = .constraint ∨ kind = .other := by
  unfold predeclaredKind? at h
  split at h
  · rename_i error
    exact .inl ⟨beq_iff_eq.1 error, (Option.some.inj h).symm⟩
  · rename_i error
    split at h
    · exact .inr (.inl ⟨fun e => error (beq_iff_eq.2 e), (Option.some.inj h).symm⟩)
    · split at h
      · exact .inr (.inr (.inl (Option.some.inj h).symm))
      · split at h
        · exact .inr (.inr (.inr (Option.some.inj h).symm))
        · cases h

mutual

theorem alike_kindOf (admits : Admits scope stuck fails)
    (h : ScopeAlike keeps stuck fails importer importer' scope)
    (hf : ImportersAlike keeps stuck fails importer importer' file)
    {named named' : TypeEntry → Bool → Check TypeKind} (strict : Bool) :
    (e : TypeExpr) → NamedAlike keeps fails scope named named' e.kindNames →
      Alike keeps fails (kindOf ⟨scope, importer, named⟩ file strict e)
        (kindOf ⟨scope, importer', named'⟩ file strict e)
  | .interface _ elements => fun hn => by
    unfold kindOf
    unfold TypeExpr.kindNames at hn
    exact alike_interfaceKind admits h hf [] elements hn
  | .paren _ inner => fun hn => by
    unfold kindOf
    unfold TypeExpr.kindNames at hn
    exact alike_kindOf admits h hf strict inner hn
  | .name span text => fun hn => by
    unfold kindOf
    dsimp only
    cases found : scope.type? text with
    | some entry =>
      dsimp only
      by_cases generic : entry.spec.generic = true
      · rw [if_pos generic, if_pos generic]
        exact AlikeOn.pure trivial
      · rw [if_neg generic, if_neg generic]
        obtain ⟨mem, same⟩ := PackageScope.mem_of_type? found
        refine hn entry mem (Bool.eq_false_iff.2 generic) ?_ strict
        unfold TypeExpr.kindNames
        exact List.mem_singleton.2 same
    | none =>
      dsimp only
      cases predeclaredKind? text with
      | some kind => exact AlikeOn.pure trivial
      | none => exact admits.failUndefined
  | .qualified span qualifier name => fun _ => by
    unfold kindOf
    exact alike_qualifiedKind admits hf strict span qualifier name
  | .generic _ _ _ => fun _ => by unfold kindOf; exact AlikeOn.pure trivial
  | .pointer _ _ => fun _ => by unfold kindOf; exact AlikeOn.pure trivial
  | .array _ _ _ => fun _ => by unfold kindOf; exact AlikeOn.pure trivial
  | .slice _ _ => fun _ => by unfold kindOf; exact AlikeOn.pure trivial
  | .map _ _ _ => fun _ => by unfold kindOf; exact AlikeOn.pure trivial
  | .channel _ _ _ => fun _ => by unfold kindOf; exact AlikeOn.pure trivial
  | .function _ _ _ => fun _ => by unfold kindOf; exact AlikeOn.pure trivial
  | .struct _ _ => fun _ => by unfold kindOf; exact AlikeOn.pure trivial
  | .approximation _ _ => fun _ => by unfold kindOf; exact AlikeOn.pure trivial

theorem alike_interfaceKind (admits : Admits scope stuck fails)
    (h : ScopeAlike keeps stuck fails importer importer' scope)
    (hf : ImportersAlike keeps stuck fails importer importer' file)
    {named named' : TypeEntry → Bool → Check TypeKind} (methods : List (Method DeclaredName)) :
    (elements : List Element) →
      NamedAlike keeps fails scope named named' (embeddedNames elements) →
      Alike keeps fails (interfaceKind ⟨scope, importer, named⟩ file methods elements)
        (interfaceKind ⟨scope, importer', named'⟩ file methods elements)
  | [] => fun _ => by
    unfold interfaceKind
    exact AlikeOn.pure trivial
  | .method span name params results :: rest => fun hn => by
    unfold interfaceKind
    unfold embeddedNames at hn
    exact (alike_declaredSignature admits h hf params results).bind fun signature =>
      (alike_addMethods admits span methods _).bind fun grown =>
        alike_interfaceKind admits h hf grown rest hn
  | .types (.mk span [term]) :: rest => fun hn => by
    unfold interfaceKind
    unfold embeddedNames at hn
    by_cases embeddable : isEmbeddable term = true
    · rw [if_pos embeddable] at hn
      rw [if_pos embeddable, if_pos embeddable]
      -- the names in the embedded interface, and those in the elements behind it
      have here := hn.mono (List.subset_append_left _ _)
      have behind := hn.mono (List.subset_append_right _ _)
      refine (alike_kindOf admits h hf true term here).bind fun kind => ?_
      cases kind with
      | interface embedded =>
        exact (alike_addMethods admits span methods embedded).bind fun grown =>
          alike_interfaceKind admits h hf grown rest behind
      | constraint => exact AlikeOn.pure trivial
      | other => exact AlikeOn.pure trivial
    · rw [if_neg embeddable, if_neg embeddable]
      exact AlikeOn.pure trivial
  | .types (.mk _ []) :: _ => fun _ => by
    unfold interfaceKind
    exact AlikeOn.pure trivial
  | .types (.mk _ (_ :: _ :: _)) :: _ => fun _ => by
    unfold interfaceKind
    exact AlikeOn.pure trivial

end

open Classical in
/-- The kind of a declared type, as `namedKind` has it, but for what is done beyond the bounds:
where the depth is used up, and where a name is pending that is part of no cycle. -/
noncomputable def namedKindOr (beyond : TypeEntry → Check TypeKind) (scope : PackageScope)
    (importer : Importer) : Nat → List String → TypeEntry → Bool → Check TypeKind
  | depth, pending, entry, strict =>
      if pending.contains entry.spec.name then
        if Relation.TransGen scope.Embeds entry.spec.name entry.spec.name then
          entry.file.fail entry.spec.type.span (.recursiveType entry.spec.name)
        else beyond entry
      else
        match depth with
        | 0 => beyond entry
        | depth + 1 =>
            kindOf ⟨scope, importer,
              namedKindOr beyond scope importer depth (entry.spec.name :: pending)⟩
              entry.file strict entry.spec.type

/-- What `namedKind` does beyond the bounds. -/
theorem namedKind_eq_or (depth : Nat) (pending : List String) (entry : TypeEntry)
    (strict : Bool) :
    namedKind scope importer depth pending entry strict
      = namedKindOr (fun entry =>
          entry.file.fail entry.spec.type.span (.recursiveType entry.spec.name))
          scope importer depth pending entry strict := by
  induction depth generalizing pending entry strict with
  | zero =>
    unfold namedKind namedKindOr
    simp only [ite_self]
  | succ depth ih =>
    unfold namedKind namedKindOr
    simp only [ite_self, funext fun other => funext (ih (entry.spec.name :: pending) other)]

/-- Kinds come to the same on both sides, whatever is done beyond the bounds. -/
theorem alike_namedKindOr (admits : Admits scope stuck fails)
    (h : ScopeAlike keeps stuck fails importer importer' scope)
    {beyond beyond' : TypeEntry → Check TypeKind} {depth depth' : Nat} {pending : List String}
    {entry : TypeEntry} (he : entry ∈ scope.types) (plain : entry.spec.generic = false)
    (chain : Chain (· ∈ scope.types.map (·.spec.name)) scope.Embeds pending entry.spec.name)
    (enough : scope.types.length ≤ pending.length + depth)
    (enough' : scope.types.length ≤ pending.length + depth') (strict : Bool) :
    Alike keeps fails (namedKindOr beyond scope importer depth pending entry strict)
      (namedKindOr beyond' scope importer' depth' pending entry strict) := by
  induction depth using Nat.strongRecOn generalizing depth' pending entry strict with
  | ind depth ih =>
    unfold namedKindOr
    by_cases old : pending.contains entry.spec.name = true
    · -- what is pending already comes to embed itself
      have real := chain.cycle (List.contains_iff_mem.1 old)
      rw [if_pos old, if_pos old, if_pos real, if_pos real]
      exact admits.fail real
    · rw [if_neg old, if_neg old]
      have new : entry.spec.name ∉ pending := fun mem => old (List.contains_iff_mem.2 mem)
      have declared : entry.spec.name ∈ scope.types.map (·.spec.name) :=
        List.mem_map.2 ⟨entry, he, rfl⟩
      -- as with constants: what is pending are distinct types, and there is room for one more
      have room : pending.length < scope.types.length := by
        refine chain.length_lt declared new fun names nodup all => ?_
        have few := (nodup.subperm all).length_le
        rwa [List.length_map] at few
      obtain ⟨less, rfl⟩ : ∃ less, depth = less + 1 := ⟨depth - 1, by omega⟩
      obtain ⟨less', rfl⟩ : ∃ less, depth' = less + 1 := ⟨depth' - 1, by omega⟩
      refine alike_kindOf admits h (h.types entry he) strict entry.spec.type ?_
      intro other ho plainToo mem strict
      refine ih less (Nat.lt_succ_self less) ho plainToo ?_ ?_ ?_ strict
      · exact chain.step declared new ⟨entry, he, plain, rfl, mem⟩
      · rw [List.length_cons]
        omega
      · rw [List.length_cons]
        omega

theorem alike_namedKind (admits : Admits scope stuck fails)
    (h : ScopeAlike keeps stuck fails importer importer' scope) {entry : TypeEntry}
    (he : entry ∈ scope.types) (plain : entry.spec.generic = false) (strict : Bool) :
    Alike keeps fails (namedKind scope importer scope.types.length [] entry strict)
      (namedKind scope importer' scope.types.length [] entry strict) := by
  rw [namedKind_eq_or, namedKind_eq_or]
  exact alike_namedKindOr admits h he plain .nil (Nat.le_add_left _ _) (Nat.le_add_left _ _) strict

/-- What is done beyond the bounds makes no difference for the types of a package. -/
theorem namedKindOr_eq (beyond : TypeEntry → Check TypeKind) (importer : Importer) {depth : Nat}
    (enough : scope.types.length ≤ depth) {entry : TypeEntry} (he : entry ∈ scope.types)
    (plain : entry.spec.generic = false) (strict : Bool) :
    namedKindOr beyond scope importer depth [] entry strict
      = namedKind scope importer scope.types.length [] entry strict := by
  have files : ScopeAlike Eq (fun _ _ => True) (fun _ => True) importer importer scope :=
    ⟨fun _ _ _ _ => ⟨AlikeOn.refl _, AlikeOn.refl _⟩,
      fun _ _ _ _ => ⟨AlikeOn.refl _, AlikeOn.refl _⟩⟩
  have alike : Alike Eq (fun _ => True) (namedKindOr beyond scope importer depth [] entry strict)
      (namedKind scope importer scope.types.length [] entry strict) := by
    rw [namedKind_eq_or]
    exact alike_namedKindOr (admits_anything scope) files he plain .nil
      (Nat.le_add_left_of_le enough) (Nat.le_add_left _ _) strict
  exact alike.eq

/-! ### Packages -/

theorem alike_declaration (admits : Admits scope stuck fails)
    (h : ScopeAlike keeps stuck fails importer importer' scope) {entry : TypeEntry}
    (he : entry ∈ scope.types) :
    Alike keeps fails (scope.declaration importer entry) (scope.declaration importer' entry) := by
  unfold PackageScope.declaration
  dsimp only
  by_cases generic : entry.spec.generic = true
  -- the methods of generic types are left out, so nothing is asked for
  · rw [if_pos generic, if_pos generic]
    exact AlikeOn.pure trivial
  · rw [if_neg generic, if_neg generic]
    have plain := Bool.eq_false_iff.2 generic
    exact (alike_namedKind admits h he plain false).bind fun kind => AlikeOn.pure trivial

theorem alike_declarationsOf (admits : Admits scope stuck fails)
    (h : ScopeAlike keeps stuck fails importer importer' scope) {entries : List TypeEntry}
    (he : ∀ entry ∈ entries, entry ∈ scope.types) :
    Alike keeps fails (scope.declarationsOf importer entries)
      (scope.declarationsOf importer' entries) := by
  induction entries with
  | nil => exact AlikeOn.pure trivial
  | cons entry rest ih =>
    unfold PackageScope.declarationsOf
    exact (alike_declaration admits h (he entry List.mem_cons_self)).bind fun _ =>
      (ih fun other ho => he other (List.mem_cons_of_mem entry ho)).bind fun _ =>
        AlikeOn.pure trivial

theorem alike_exportedConstants (admits : Admits scope stuck fails) :
    Alike keeps fails (exportedConstants scope) (exportedConstants scope) := by
  have all : ∀ entries : List ConstEntry, (∀ entry ∈ entries, entry ∈ scope.constants) →
      Alike keeps fails (knownConstants (scope.constantSource none) entries)
        (knownConstants (scope.constantSource none) entries) := by
    intro entries he
    induction entries with
    | nil => exact AlikeOn.pure trivial
    | cons entry rest ih =>
      unfold knownConstants
      refine Alike.bind ?_ fun value? => ?_
      · have value : Alike keeps fails (namedConstant scope none scope.constants.length [] entry)
            (namedConstant scope none scope.constants.length [] entry) :=
          alike_namedConstant admits (fun other ho => Or.inl ⟨rfl, rfl⟩)
            (he entry List.mem_cons_self)
        refine AlikeOn.tryCatch (value.bind fun _ => ?_) fun _ _ => AlikeOn.pure trivial
        exact AlikeOn.pure trivial
      · exact (ih fun other ho => he other (List.mem_cons_of_mem entry ho)).bind fun _ =>
          AlikeOn.pure trivial
  exact all _ fun entry he => (List.mem_filter.1 he).1

/-! ### Files -/

/-- The constants of a group are those of its file, and each is counted by its declaration. -/
theorem of_mem_groupEntries {counter : Nat} {values : List Expr} {specs : List ConstSpec}
    {entry : ConstEntry} (h : entry ∈ groupEntries file counter values specs) :
    entry.file = file ∧ entry.counter < counter + specs.length := by
  induction specs generalizing counter values with
  | nil => cases h
  | cons spec rest ih =>
    rw [List.length_cons]
    rcases List.mem_append.1 h with here | behind
    · obtain ⟨⟨name, position⟩, -, e⟩ := List.mem_filterMap.1 here
      dsimp only at e
      split at e
      · cases e
      · obtain rfl := Option.some.inj e
        exact ⟨rfl, by dsimp only; omega⟩
    · obtain ⟨same, below⟩ := ih behind
      exact ⟨same, by omega⟩

/-- Every file with declarations of a package is one of its files. -/
theorem scopeAlike_ofFiles {importPath : String} {files : List SourceFile}
    (h : ∀ file ∈ files, ImportersAlike keeps stuck fails importer importer' file) :
    ScopeAlike keeps stuck fails importer importer' (PackageScope.ofFiles importPath files) := by
  constructor
  · intro entry he
    obtain ⟨file, hf, he⟩ := List.mem_flatMap.1 (mem_of_mem_keepFirst he)
    obtain ⟨spec, -, rfl⟩ := List.mem_map.1 he
    exact h file hf
  · intro entry he
    obtain ⟨file, hf, he⟩ := List.mem_flatMap.1 (mem_of_mem_keepFirst he)
    obtain ⟨specs, -, he⟩ := List.mem_flatMap.1 he
    rw [(of_mem_groupEntries he).1]
    exact h file hf

namespace Workspace

/-- The checked files of a directory have a name for an import path.  Imports that bring no name
are not among these, and nothing is asked of their packages. -/
def Mentions (w : Workspace) (dir : Path) (importPath : String) : Prop :=
  ∃ files, w.filesIn dir = .ok files ∧ ∃ file ∈ files, importPath ∈ file.scope.paths

variable {w w' : Workspace} {dir : Path}

theorem isPlain_of_readFiles {paths : List Path} {cause : CheckError}
    (h : w.readFiles paths = .error cause) : cause.IsPlain := by
  induction paths with
  | nil => cases h
  | cons path rest ih =>
    unfold readFiles at h
    split at h
    · cases h
      trivial
    · dsimp only at h
      split at h
      · split at h
        · rename_i behind
          cases h
          exact ih behind
        · cases h
      · cases h
        trivial

theorem isPlain_of_filesIn {cause : CheckError} (h : w.filesIn dir = .error cause) :
    cause.IsPlain := by
  unfold filesIn at h
  split at h
  · cases h
    trivial
  · cases h
    trivial
  · exact isPlain_of_readFiles h

theorem isPlain_of_clauses {files : List SourceFile} {cause : CheckError}
    (h : clauses files = .error cause) : cause.IsPlain := by
  induction files with
  | nil => cases h
  | cons file rest ih =>
    unfold clauses at h
    split at h
    · cases h
      trivial
    · split at h
      · rename_i behind
        cases h
        exact ih behind
      · cases h

theorem isPlain_of_commonName {files : List SourceFile} {cause : CheckError}
    (h : commonName dir files = .error cause) : cause.IsPlain := by
  unfold commonName at h
  split at h
  · rename_i behind
    cases h
    exact isPlain_of_clauses behind
  · cases h
    trivial
  · split at h
    · cases h
    · cases h
      trivial

theorem mem_of_clauses {files : List SourceFile} {named : List (String × SourceFile)}
    (h : clauses files = .ok named) {file : SourceFile} (hf : file ∈ files) :
    ∃ name, file.content.packageName? = some name ∧ (name, file) ∈ named := by
  induction files generalizing named with
  | nil => cases hf
  | cons first rest ih =>
    unfold clauses at h
    cases clause : first.content.packageName? with
    | none =>
      rw [clause] at h
      cases h
    | some name =>
      rw [clause] at h
      -- the first file without a clause would have been the failure
      cases behind : clauses rest with
      | error cause =>
        rw [behind] at h
        cases h
      | ok more =>
        rw [behind] at h
        obtain rfl := Except.ok.inj h
        rcases List.mem_cons.1 hf with rfl | hf
        · exact ⟨name, clause, List.mem_cons_self⟩
        · obtain ⟨other, named, mem⟩ := ih behind hf
          exact ⟨other, named, List.mem_cons_of_mem _ mem⟩

theorem clauses_of_forall {files : List SourceFile} {name : String}
    (h : ∀ file ∈ files, file.content.packageName? = some name) :
    clauses files = .ok (files.map fun file => (name, file)) := by
  induction files with
  | nil => rfl
  | cons first rest ih =>
    rw [clauses, h first List.mem_cons_self, ih fun file hf => h file (List.mem_cons_of_mem _ hf)]
    rfl

/-- The files have a name in common if all of them have it, and there is one. -/
theorem commonName_eq_ok_iff {files : List SourceFile} {name : String} :
    commonName dir files = .ok name
      ↔ files ≠ [] ∧ ∀ file ∈ files, file.content.packageName? = some name := by
  constructor
  · intro h
    unfold commonName at h
    split at h
    · cases h
    · cases h
    · rename_i first firstFile rest named
      split at h
      · rename_i none
        obtain rfl := Except.ok.inj h
        refine ⟨?_, fun file hf => ?_⟩
        · rintro rfl
          cases named
        · obtain ⟨other, clause, mem⟩ := mem_of_clauses named hf
          rcases List.mem_cons.1 mem with same | mem
          · rw [clause, (Prod.mk.inj same).1]
          · have same := List.find?_eq_none.1 none _ mem
            rw [clause, show other = first by simpa using same]
      · cases h
  · rintro ⟨some, same⟩
    -- all files are called as the first one, so no other name is found among them
    obtain ⟨first, rest, rfl⟩ := List.exists_cons_of_ne_nil some
    have others : ((rest.map fun file => (name, file)).find? (·.1 != name)) = none := by
      rw [List.find?_eq_none]
      intro named mem
      obtain ⟨file, -, rfl⟩ := List.mem_map.1 mem
      simp
    unfold commonName
    rw [clauses_of_forall same, List.map_cons]
    dsimp only
    rw [others]

/-- The package that consists of some files, which were taken from `dir`. -/
def checkFiles (importer : Importer) (dir : Path) (importPath : String) (files : List SourceFile) :
    Check CheckedPackage := do
  let name ← commonName dir files
  let declarations ← (PackageScope.ofFiles importPath files).declarations importer
  let constants ← exportedConstants (PackageScope.ofFiles importPath files)
  pure ⟨name, importPath, declarations, constants⟩

/-- To check a directory is to read its files, and then to check these. -/
theorem checkDirectory_eq (importer : Importer) (importPath : String) :
    w.checkDirectory importer dir importPath
      = (liftM (w.filesIn dir) : Check (List SourceFile)) >>= checkFiles importer dir importPath :=
  rfl

/-- Importers that come to the same for what some files import come to the same package. -/
theorem alike_checkFiles {importPath : String} {files : List SourceFile}
    (admits : Admits (PackageScope.ofFiles importPath files) stuck fails)
    (h : ∀ file ∈ files, ImportersAlike keeps stuck fails importer importer' file) :
    AlikeOn keeps (fun package => commonName dir files = .ok package.name) fails
      (checkFiles importer dir importPath files) (checkFiles importer' dir importPath files) := by
  unfold checkFiles
  refine (AlikeOn.lift fun cause e => admits.plain _ (isPlain_of_commonName e)).bind
    fun name common => ?_
  refine (alike_declarationsOf admits (scopeAlike_ofFiles h) fun entry he => he).bind
    fun declarations => ?_
  exact (alike_exportedConstants admits).bind fun constants => AlikeOn.pure common

/-- Importers that come to the same for what the files of a directory import come to the same
package, also in another workspace that has the same files there. -/
theorem alike_checkDirectory (same : w.filesIn dir = w'.filesIn dir) (importPath : String)
    (admits : ∀ files, w.filesIn dir = .ok files →
      Admits (PackageScope.ofFiles importPath files) stuck fails)
    (plain : ∀ cause, cause.IsPlain → fails cause)
    (h : ∀ other, w.Mentions dir other → Alike keeps (stuck other) (importer.load other)
      (importer'.load other) ∧ Alike keeps fails (importer.name? other) (importer'.name? other)) :
    AlikeOn keeps (fun package => ∃ files, w.filesIn dir = .ok files
        ∧ commonName dir files = .ok package.name) fails
      (w.checkDirectory importer dir importPath) (w'.checkDirectory importer' dir importPath) := by
  rw [checkDirectory_eq, checkDirectory_eq, ← same]
  refine (AlikeOn.lift fun cause e => plain _ (isPlain_of_filesIn e)).bind fun files read => ?_
  refine (alike_checkFiles (admits files read) fun file hf other ho => ?_).mono
    (fun _ common => ⟨files, read, common⟩) fun _ => id
  exact h other ⟨files, read, file, hf, ho⟩

/-- Importers that agree on what the files of a directory import come to the same package. -/
theorem agrees_checkDirectory {known : Session → Prop} (one : ∃ start, known start)
    (importPath : String)
    (h : ∀ other, w.Mentions dir other → Agrees known (importer.load other) (importer'.load other)
      ∧ Agrees known (importer.name? other) (importer'.name? other)) :
    AgreesOn known (fun package => ∃ files, w.filesIn dir = .ok files
        ∧ commonName dir files = .ok package.name)
      (w.checkDirectory importer dir importPath) (w.checkDirectory importer' dir importPath) := by
  refine AgreesOn.of_alike one fun t => alike_checkDirectory rfl importPath
    (fun files _ => admits_anything _) (fun _ _ => trivial) fun other mentions => ?_
  exact ⟨(h other mentions).1.alike t, (h other mentions).2.alike t⟩

end Workspace

end WrapperGen
