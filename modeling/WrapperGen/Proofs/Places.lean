import WrapperGen.Proofs.SessionLogic
import WrapperGen.Check.Kinds

/-!
# Places

Every part of a syntax tree knows the part of the text that it was read from.  The checker of a
package looks at that only to say where something is wrong.  So trees that differ in their places
alone come to the same, but for what a failure tells.

## Main definitions

* `Check.mute`: a computation that does not tell why it fails.
* `unplaced`: an expression, a type, or a declaration without its places.
* `PackageScope.LooksUp`: a scope stands for another one without places.

## Main results

* `mute_bind`, `mute_tryCatch`: muting goes through sequences and through failures that are caught.
* `mute_constantValue`, `mute_declaredType`, `mute_kindOf`: values, types and kinds do not depend on
  places.
* `mute_declaration`, `knownConstants_unplaced`: nor do declarations and constants.
-/

namespace WrapperGen

open Source

/-! ### Failures without their cause -/

namespace Check

variable {α β : Type}

/-- A computation that does not tell why it fails. -/
def mute (m : Check α) : Check α := tryCatch m fun _ => throw default

theorem run_mute (m : Check α) (s : Session) :
    m.mute.run.run s = ((m.run.run s).1.mapError fun _ => default, (m.run.run s).2) := by
  rw [mute, run_tryCatch]
  rcases m.run.run s with ⟨result, last⟩
  cases result with
  | ok value => rfl
  | error cause => rfl

@[simp] theorem mute_pure (value : α) : mute (Pure.pure value) = Pure.pure value := rfl

@[simp] theorem mute_throw (cause : CheckError) :
    mute (MonadExcept.throw cause : Check α) = MonadExcept.throw default := rfl

/-- Two computations are the same if they do the same in every session. -/
theorem ext {m m' : Check α} (h : ∀ s, m.run.run s = m'.run.run s) : m = m' := funext h

@[simp] theorem mute_bind (m : Check α) (next : α → Check β) :
    mute (m >>= next) = m.mute >>= fun value => (next value).mute := by
  refine ext fun s => ?_
  rw [run_mute, run_bind, run_bind, run_mute]
  rcases m.run.run s with ⟨result, last⟩
  cases result with
  | ok value =>
    show _ = (next value).mute.run.run last
    rw [run_mute]
  | error cause => rfl

/-- Where a failure is caught, only what is done then is muted. -/
theorem mute_tryCatch (m : Check α) (handle : CheckError → Check α) :
    mute (tryCatch m handle) = tryCatch m fun cause => (handle cause).mute := by
  refine ext fun s => ?_
  rw [run_mute, run_tryCatch, run_tryCatch]
  rcases m.run.run s with ⟨result, last⟩
  cases result with
  | ok value => rfl
  | error cause =>
    show _ = (handle cause).mute.run.run last
    rw [run_mute]

/-- Where all failures are treated alike, their causes do not count. -/
theorem tryCatch_mute (m other : Check α) :
    tryCatch m.mute (fun _ => other) = tryCatch m fun _ => other := by
  refine ext fun s => ?_
  rw [run_tryCatch, run_tryCatch, run_mute]
  rcases m.run.run s with ⟨result, last⟩
  cases result with
  | ok value => rfl
  | error cause => rfl

end Check

open Check

@[simp] theorem mute_fail {α : Type} (file : SourceFile) (span : Span) (what : Fault) :
    mute (file.fail span what : Check α) = throw default := rfl

@[simp] theorem mute_failUndefined {α : Type} (file : SourceFile) (span : Span) (name : String) :
    mute (file.failUndefined span name : Check α) = throw default := rfl

@[simp] theorem mute_failNotInteger {α : Type} (file : SourceFile) (span : Span) :
    mute (failNotInteger file span : Check α) = throw default := rfl

@[simp] theorem mute_failUnsupported {α : Type} (file : SourceFile) (span : Span) :
    mute (failUnsupported file span : Check α) = throw default := rfl

/-! ### Trees without places -/

/-- The expression without its places. -/
def Source.Expr.unplaced : Expr → Expr
  | .integer _ text => .integer default text
  | .counter _ => .counter default
  | .name _ text => .name default text
  | .selector _ operand field => .selector default operand.unplaced field
  | .paren _ inner => .paren default inner.unplaced
  | .unary _ op operand => .unary default op operand.unplaced
  | .binary _ op left right => .binary default op left.unplaced right.unplaced
  | .other _ => .other default

mutual

/-- The type without its places. -/
def Source.TypeExpr.unplaced : TypeExpr → TypeExpr
  | .name _ text => .name default text
  | .qualified _ qualifier name => .qualified default qualifier name
  | .generic _ base arguments => .generic default base.unplaced (unplacedArguments arguments)
  | .pointer _ element => .pointer default element.unplaced
  | .array _ length element => .array default length.unplaced element.unplaced
  | .slice _ element => .slice default element.unplaced
  | .map _ key value => .map default key.unplaced value.unplaced
  | .channel _ direction element => .channel default direction element.unplaced
  | .function _ params results =>
      .function default (unplacedParams params) (unplacedParams results)
  | .struct _ hasFields => .struct default hasFields
  | .interface _ elements => .interface default (unplacedElements elements)
  | .paren _ inner => .paren default inner.unplaced
  | .approximation _ inner => .approximation default inner.unplaced

/-- The types without their places. -/
def unplacedTerms : List TypeExpr → List TypeExpr
  | [] => []
  | term :: rest => term.unplaced :: unplacedTerms rest

/-- The union without its places. -/
def Source.TypeElem.unplaced : TypeElem → TypeElem
  | .mk _ terms => .mk default (unplacedTerms terms)

/-- The type arguments without their places. -/
def unplacedArguments : List TypeElem → List TypeElem
  | [] => []
  | argument :: rest => argument.unplaced :: unplacedArguments rest

/-- The parameters without their places. -/
def unplacedParams : List Param → List Param
  | [] => []
  | .mk names type variadic :: rest => .mk names type.unplaced variadic :: unplacedParams rest

/-- The elements of an interface without their places. -/
def unplacedElements : List Element → List Element
  | [] => []
  | .method _ name params results :: rest =>
      .method default name (unplacedParams params) (unplacedParams results)
        :: unplacedElements rest
  | .types elem :: rest => .types elem.unplaced :: unplacedElements rest

end

/-- The declaration of a type without its places. -/
def Source.TypeSpec.unplaced (spec : TypeSpec) : TypeSpec :=
  { spec with type := spec.type.unplaced }

/-- The declaration of some constants without its places. -/
def Source.ConstSpec.unplaced (spec : ConstSpec) : ConstSpec :=
  { spec with values? := spec.values?.map fun values => values.map Expr.unplaced }

/-- What is left of a file for its declarations without their places: the names that it has for
packages. -/
def SourceFile.unplaced (file : SourceFile) : SourceFile := ⟨⟨""⟩, [], default, file.scope⟩

/-- The type without its places. -/
def TypeEntry.unplaced (entry : TypeEntry) : TypeEntry := ⟨entry.file.unplaced, entry.spec.unplaced⟩

/-- The constant without its places. -/
def ConstEntry.unplaced (entry : ConstEntry) : ConstEntry where
  name := entry.name
  file := entry.file.unplaced
  value? := entry.value?.map Expr.unplaced
  counter := entry.counter

/-- What is found by its name in `bare` is what is found in `scope`, without its places. -/
structure PackageScope.LooksUp (bare scope : PackageScope) : Prop where
  /-- The import path is the same. -/
  importPath : bare.importPath = scope.importPath
  /-- The types are those of the scope. -/
  type? : ∀ name, bare.type? name = (scope.type? name).map TypeEntry.unplaced
  /-- The constants are those of the scope. -/
  constant? : ∀ name, bare.constant? name = (scope.constant? name).map ConstEntry.unplaced
  /-- There are as many types. -/
  types : bare.types.length = scope.types.length
  /-- There are as many constants. -/
  constants : bare.constants.length = scope.constants.length

variable {bare scope : PackageScope} {importer : Importer} {file : SourceFile}

/-! ### Constants -/

theorem mute_importedConstant (span : Span) (operand : Expr) (field : String) :
    (importedConstant importer file span operand field).mute
      = (importedConstant importer file.unplaced default operand.unplaced field).mute := by
  cases operand with
  | name operandSpan qualifier =>
    simp only [importedConstant, Expr.unplaced, mute_bind, SourceFile.unplaced]
    refine bind_congr fun path? => ?_
    cases path? with
    | none => rfl
    | some path =>
      simp only [mute_bind, mute_tryCatch, mute_throw]
      refine bind_congr fun package => ?_
      cases package.constant? field with
      | some n => rfl
      | none => rfl
  | _ => rfl

/-- Two ways to get at the constants of other packages do not differ but for places. -/
def ImportedMute
    (imported? imported?' : Option (SourceFile → Span → Expr → String → Check Int)) : Prop :=
  (imported? = none ∧ imported?' = none) ∨ ∃ f g, imported? = some f ∧ imported?' = some g
    ∧ ∀ file span operand field,
      (f file span operand field).mute
        = (g (SourceFile.unplaced file) default operand.unplaced field).mute

theorem mute_constantValue (looks : bare.LooksUp scope) {source source' : ConstantSource}
    (named : ∀ entry, (source.named entry).mute = (source'.named entry.unplaced).mute)
    (imported : ImportedMute source.imported? source'.imported?) (counter? : Option Nat)
    (e : Expr) :
    (constantValue scope source file counter? e).mute
      = (constantValue bare source' file.unplaced counter? e.unplaced).mute := by
  -- places are only told in failures, and these tell nothing once they are mute
  induction e with
  | integer span text =>
    simp only [constantValue, Expr.unplaced]
    cases integerValue? text with
    | some n => rfl
    | none => rfl
  | counter span =>
    simp only [constantValue, Expr.unplaced]
    cases counter? with
    | some n => rfl
    | none => rfl
  | name span text =>
    simp only [constantValue, Expr.unplaced, looks.constant?]
    cases scope.constant? text with
    | some entry => exact named entry
    | none => rfl
  | selector span operand field =>
    simp only [constantValue, Expr.unplaced]
    rcases imported with ⟨none₁, none₂⟩ | ⟨f, g, some₁, some₂, both⟩
    · rw [none₁, none₂]
      rfl
    · rw [some₁, some₂]
      exact both file span operand field
  | paren span inner ih =>
    simp only [constantValue, Expr.unplaced]
    exact ih
  | unary span op operand ih =>
    simp only [constantValue, Expr.unplaced, mute_bind, ih]
    refine bind_congr fun a => ?_
    cases op.apply? a with
    | some n => rfl
    | none => rfl
  | binary span op left right ihl ihr =>
    simp only [constantValue, Expr.unplaced, mute_bind, ihl, ihr]
    refine bind_congr fun a => bind_congr fun b => ?_
    cases op.apply? a b with
    | some n => rfl
    | none => rfl
  | other span => rfl

theorem mute_namedConstant (looks : bare.LooksUp scope)
    {imported? imported?' : Option (SourceFile → Span → Expr → String → Check Int)}
    (imported : ImportedMute imported? imported?') (depth : Nat) (pending : List String)
    (entry : ConstEntry) :
    (namedConstant scope imported? depth pending entry).mute
      = (namedConstant bare imported?' depth pending entry.unplaced).mute := by
  -- names are followed on both sides at once, and no place tells one from the other
  induction depth generalizing pending entry with
  | zero =>
    unfold namedConstant
    cases given : entry.value? with
    | none =>
      have given' : entry.unplaced.value? = none := congrArg (Option.map Expr.unplaced) given
      rw [given']
      rfl
    | some value =>
      have given' : entry.unplaced.value? = some value.unplaced :=
        congrArg (Option.map Expr.unplaced) given
      rw [given']
      rfl
  | succ depth ih =>
    unfold namedConstant
    cases given : entry.value? with
    | none =>
      have given' : entry.unplaced.value? = none := congrArg (Option.map Expr.unplaced) given
      rw [given']
      rfl
    | some value =>
      have given' : entry.unplaced.value? = some value.unplaced :=
        congrArg (Option.map Expr.unplaced) given
      rw [given']
      dsimp only
      by_cases old : pending.contains entry.name = true
      · have old' : pending.contains entry.unplaced.name = true := old
        rw [if_pos old, if_pos old']
        rfl
      · have new' : ¬ pending.contains entry.unplaced.name = true := old
        rw [if_neg old, if_neg new']
        exact mute_constantValue looks (ih _) imported _ value

theorem mute_lengthValue (looks : bare.LooksUp scope) (length : Expr) :
    (lengthValue scope importer file length).mute
      = (lengthValue bare importer file.unplaced length.unplaced).mute := by
  have imported : ImportedMute (some (importedConstant importer))
      (some (importedConstant importer)) :=
    Or.inr ⟨_, _, rfl, rfl, fun file span operand field => mute_importedConstant span operand field⟩
  -- the constants of the package are looked up by name, whatever their places
  have named : ∀ entry : ConstEntry,
      ((scope.constantSource (some (importedConstant importer))).named entry).mute
        = ((bare.constantSource (some (importedConstant importer))).named entry.unplaced).mute := by
    intro entry
    unfold PackageScope.constantSource
    rw [looks.constants]
    exact mute_namedConstant looks imported _ _ entry
  have value : (constantValue scope (scope.constantSource (some (importedConstant importer))) file
      none length).mute
        = (constantValue bare (bare.constantSource (some (importedConstant importer)))
          file.unplaced none length.unplaced).mute :=
    mute_constantValue looks named imported none length
  simp only [lengthValue, mute_bind, value]
  refine bind_congr fun n => ?_
  by_cases fits : (0 ≤ n && n.toNat < UInt64.size) = true
  · rw [if_pos fits, if_pos fits]
  · rw [if_neg fits, if_neg fits]
    rfl

/-! ### Types -/

theorem mute_bareName (looks : bare.LooksUp scope) (span : Span) (name : String) :
    (bareName scope file span name).mute = (bareName bare file.unplaced default name).mute := by
  unfold bareName
  rw [looks.type?, looks.importPath, Option.isSome_map]
  by_cases own : (scope.type? name).isSome = true
  · rw [if_pos own, if_pos own]
  · rw [if_neg own, if_neg own]
    by_cases known : isPredeclared name = true
    · rw [if_pos known, if_pos known]
    · rw [if_neg known, if_neg known]
      rfl

theorem mute_qualifiedTypeName (span : Span) (qualifier name : String) :
    (qualifiedTypeName importer file span qualifier name).mute
      = (qualifiedTypeName importer file.unplaced default qualifier name).mute := by
  unfold qualifiedTypeName
  by_cases foreign : file.scope.isForeign qualifier = true
  · have foreign' : file.unplaced.scope.isForeign qualifier = true := foreign
    rw [if_pos foreign, if_pos foreign']
  · have own' : ¬ file.unplaced.scope.isForeign qualifier = true := foreign
    rw [if_neg foreign, if_neg own', mute_bind, mute_bind]
    refine bind_congr fun path? => ?_
    cases path? with
    | none => rfl
    | some path => rfl

mutual

theorem mute_declaredType (looks : bare.LooksUp scope) : (e : TypeExpr) →
    (declaredType scope importer file e).mute
      = (declaredType bare importer file.unplaced e.unplaced).mute
  | .name span text => by
    simp only [declaredType, TypeExpr.unplaced]
    exact mute_bareName looks span text
  | .qualified span qualifier name => by
    simp only [declaredType, TypeExpr.unplaced]
    exact mute_qualifiedTypeName span qualifier name
  | .generic _ base arguments => by
    simp only [declaredType, TypeExpr.unplaced, mute_bind, mute_declaredType looks base,
      mute_declaredArguments looks arguments]
  | .pointer _ element => by
    simp only [declaredType, TypeExpr.unplaced, mute_bind, mute_declaredType looks element]
  | .array _ length element => by
    simp only [declaredType, TypeExpr.unplaced, mute_bind, mute_lengthValue looks length,
      mute_declaredType looks element]
  | .slice _ element => by
    simp only [declaredType, TypeExpr.unplaced, mute_bind, mute_declaredType looks element]
  | .map _ key value => by
    simp only [declaredType, TypeExpr.unplaced, mute_bind, mute_declaredType looks key,
      mute_declaredType looks value]
  | .channel _ direction element => by
    simp only [declaredType, TypeExpr.unplaced, mute_bind, mute_declaredType looks element]
  | .function _ params results => by
    simp only [declaredType, TypeExpr.unplaced, mute_bind, mute_declaredParams looks params,
      mute_declaredParams looks results]
  | .struct _ true => rfl
  | .struct _ false => rfl
  | .interface _ [] => rfl
  | .interface _ (.method _ _ _ _ :: _) => rfl
  | .interface _ (.types _ :: _) => rfl
  | .paren _ inner => by
    simp only [declaredType, TypeExpr.unplaced, mute_declaredType looks inner]
  | .approximation _ _ => rfl

theorem mute_declaredArguments (looks : bare.LooksUp scope) : (arguments : List TypeElem) →
    (declaredArguments scope importer file arguments).mute
      = (declaredArguments bare importer file.unplaced (unplacedArguments arguments)).mute
  | [] => rfl
  | argument :: rest => by
    simp only [declaredArguments, unplacedArguments, mute_bind,
      mute_declaredArgument looks argument, mute_declaredArguments looks rest]

theorem mute_declaredArgument (looks : bare.LooksUp scope) : (argument : TypeElem) →
    (declaredArgument scope importer file argument).mute
      = (declaredArgument bare importer file.unplaced argument.unplaced).mute
  | .mk _ [term] => by
    simp only [declaredArgument, TypeElem.unplaced, unplacedTerms, mute_declaredType looks term]
  | .mk _ [] => rfl
  | .mk _ (_ :: _ :: _) => rfl

theorem mute_declaredParams (looks : bare.LooksUp scope) : (params : List Param) →
    (declaredParams scope importer file params).mute
      = (declaredParams bare importer file.unplaced (unplacedParams params)).mute
  | [] => rfl
  | .mk names type repeated :: rest => by
    simp only [declaredParams, unplacedParams, mute_bind, mute_declaredType looks type,
      mute_declaredParams looks rest]

end

theorem mute_declaredSignature (looks : bare.LooksUp scope) (params results : List Param) :
    (declaredSignature scope importer file params results).mute
      = (declaredSignature bare importer file.unplaced (unplacedParams params)
          (unplacedParams results)).mute := by
  simp only [declaredSignature, mute_bind, mute_declaredParams looks params,
    mute_declaredParams looks results]

/-! ### Kinds -/

theorem mute_addMethods (span : Span) (methods more : List (Method DeclaredName)) :
    (addMethods file span methods more).mute
      = (addMethods file.unplaced default methods more).mute := by
  induction more generalizing methods with
  | nil => rfl
  | cons m rest ih =>
    unfold addMethods
    cases addMethod? methods m with
    | some grown => exact ih grown
    | none => rfl

theorem mute_qualifiedKind (strict : Bool) (span : Span) (qualifier name : String) :
    (qualifiedKind importer file strict span qualifier name).mute
      = (qualifiedKind importer file.unplaced strict default qualifier name).mute := by
  unfold qualifiedKind
  by_cases foreign : file.scope.isForeign qualifier = true
  · have foreign' : file.unplaced.scope.isForeign qualifier = true := foreign
    rw [if_pos foreign, if_pos foreign']
  · have own' : ¬ file.unplaced.scope.isForeign qualifier = true := foreign
    rw [if_neg foreign, if_neg own', mute_bind, mute_bind]
    refine bind_congr fun path? => ?_
    cases path? with
    | none => rfl
    | some path =>
      rw [mute_bind, mute_bind, mute_tryCatch, mute_tryCatch]
      -- the cause that a strict failure tells of another package is not told any more
      have handled : ∀ cause,
          mute (if strict then throw (.importFailed file.shortName span.place path cause)
            else pure none : Check (Option CheckedPackage))
          = mute (if strict then
              throw (.importFailed file.unplaced.shortName (Span.place default) path cause)
            else pure none) := by
        intro cause
        cases strict with
        | true => rfl
        | false => rfl
      rw [funext handled]
      refine bind_congr fun package? => ?_
      cases package? with
      | none => rfl
      | some package =>
        cases found : package.declaration? name with
        | some d => simp only [found]
        | none =>
          simp only [found]
          rfl

theorem isEmbeddable_unplaced (e : TypeExpr) : isEmbeddable e.unplaced = isEmbeddable e := by
  cases e with
  | _ => rfl

mutual

theorem mute_kindOf (looks : bare.LooksUp scope) {named named' : TypeEntry → Bool → Check TypeKind}
    (hn : ∀ entry strict, (named entry strict).mute = (named' entry.unplaced strict).mute)
    (strict : Bool) : (e : TypeExpr) →
    (kindOf ⟨scope, importer, named⟩ file strict e).mute
      = (kindOf ⟨bare, importer, named'⟩ file.unplaced strict e.unplaced).mute
  | .interface _ elements => by
    simp only [kindOf, TypeExpr.unplaced]
    exact mute_interfaceKind looks hn [] elements
  | .paren _ inner => by
    simp only [kindOf, TypeExpr.unplaced]
    exact mute_kindOf looks hn strict inner
  | .name span text => by
    simp only [kindOf, TypeExpr.unplaced, looks.type?]
    cases scope.type? text with
    | some entry =>
      dsimp only [Option.map_some]
      by_cases generic : entry.spec.generic = true
      · have generic' : entry.unplaced.spec.generic = true := generic
        rw [if_pos generic, if_pos generic']
      · have plain' : ¬ entry.unplaced.spec.generic = true := generic
        rw [if_neg generic, if_neg plain']
        exact hn entry strict
    | none =>
      dsimp only [Option.map_none]
      cases predeclaredKind? text with
      | some kind => rfl
      | none => rfl
  | .qualified span qualifier name => by
    simp only [kindOf, TypeExpr.unplaced]
    exact mute_qualifiedKind strict span qualifier name
  | .generic _ _ _ => rfl
  | .pointer _ _ => rfl
  | .array _ _ _ => rfl
  | .slice _ _ => rfl
  | .map _ _ _ => rfl
  | .channel _ _ _ => rfl
  | .function _ _ _ => rfl
  | .struct _ _ => rfl
  | .approximation _ _ => rfl

theorem mute_interfaceKind (looks : bare.LooksUp scope)
    {named named' : TypeEntry → Bool → Check TypeKind}
    (hn : ∀ entry strict, (named entry strict).mute = (named' entry.unplaced strict).mute)
    (methods : List (Method DeclaredName)) : (elements : List Element) →
    (interfaceKind ⟨scope, importer, named⟩ file methods elements).mute
      = (interfaceKind ⟨bare, importer, named'⟩ file.unplaced methods
          (unplacedElements elements)).mute
  | [] => rfl
  | .method span name params results :: rest => by
    simp only [interfaceKind, unplacedElements, mute_bind, mute_declaredSignature looks]
    refine bind_congr fun signature => ?_
    rw [mute_addMethods]
    exact bind_congr fun grown => mute_interfaceKind looks hn grown rest
  | .types (.mk span [term]) :: rest => by
    simp only [interfaceKind, unplacedElements, TypeElem.unplaced, unplacedTerms,
      isEmbeddable_unplaced]
    by_cases embeddable : isEmbeddable term = true
    · rw [if_pos embeddable, if_pos embeddable, mute_bind, mute_bind,
        mute_kindOf looks hn true term]
      refine bind_congr fun kind => ?_
      cases kind with
      | interface embedded =>
        simp only [mute_bind]
        rw [mute_addMethods]
        exact bind_congr fun grown => mute_interfaceKind looks hn grown rest
      | constraint => rfl
      | other => rfl
    · rw [if_neg embeddable, if_neg embeddable]
  | .types (.mk _ []) :: _ => rfl
  | .types (.mk _ (_ :: _ :: _)) :: _ => rfl

end

theorem mute_namedKind (looks : bare.LooksUp scope) (depth : Nat) (pending : List String)
    (entry : TypeEntry) (strict : Bool) :
    (namedKind scope importer depth pending entry strict).mute
      = (namedKind bare importer depth pending entry.unplaced strict).mute := by
  induction depth generalizing pending entry strict with
  | zero => rfl
  | succ depth ih =>
    unfold namedKind
    by_cases old : pending.contains entry.spec.name = true
    · have old' : pending.contains entry.unplaced.spec.name = true := old
      rw [if_pos old, if_pos old']
      rfl
    · have new' : ¬ pending.contains entry.unplaced.spec.name = true := old
      rw [if_neg old, if_neg new']
      exact mute_kindOf looks (fun other strict => ih _ other strict) strict entry.spec.type

theorem isLimit_unplaced : (elem : TypeElem) →
    isLimit (.types elem.unplaced) = isLimit (.types elem)
  | .mk _ [] => rfl
  | .mk _ [term] => by cases term <;> rfl
  | .mk _ (first :: _ :: _) => by cases first <;> rfl

theorem any_isLimit_unplaced (elements : List Element) :
    (unplacedElements elements).any isLimit = elements.any isLimit := by
  induction elements with
  | nil => rfl
  | cons element rest ih =>
    cases element with
    | method span name params results =>
      rw [unplacedElements, List.any_cons, List.any_cons, ih]
      rfl
    | types elem => rw [unplacedElements, List.any_cons, List.any_cons, ih, isLimit_unplaced]

theorem genericKind_unplaced (e : TypeExpr) : genericKind e.unplaced = genericKind e := by
  cases e with
  | interface span elements =>
    simp only [genericKind, TypeExpr.unplaced, any_isLimit_unplaced]
  | _ => rfl

/-! ### Declarations -/

theorem mute_declaration (looks : bare.LooksUp scope) (entry : TypeEntry) :
    (scope.declaration importer entry).mute
      = (bare.declaration importer entry.unplaced).mute := by
  unfold PackageScope.declaration
  by_cases generic : entry.spec.generic = true
  · have generic' : entry.unplaced.spec.generic = true := generic
    have kind : genericKind entry.unplaced.spec.type = genericKind entry.spec.type :=
      genericKind_unplaced _
    simp only [if_pos generic, if_pos generic', kind]
    rfl
  · have plain' : ¬ entry.unplaced.spec.generic = true := generic
    simp only [if_neg generic, if_neg plain', mute_bind, looks.types, mute_namedKind looks]
    rfl

/-- Constants whose values cannot be told are left out, whatever the cause. -/
theorem knownConstants_unplaced (looks : bare.LooksUp scope) (entries : List ConstEntry) :
    knownConstants (scope.constantSource none) entries
      = knownConstants (bare.constantSource none) (entries.map ConstEntry.unplaced) := by
  induction entries with
  | nil => rfl
  | cons entry rest ih =>
    unfold knownConstants
    -- a constant that fails is left out, so no failure is seen here at all
    have value : ((scope.constantSource none).named entry).mute
        = ((bare.constantSource none).named entry.unplaced).mute := by
      unfold PackageScope.constantSource
      rw [looks.constants]
      exact mute_namedConstant looks (Or.inl ⟨rfl, rfl⟩) _ _ entry
    have found : (do
          let n ← (scope.constantSource none).named entry
          pure (some n) : Check (Option Int)).mute
        = (do
          let n ← (bare.constantSource none).named entry.unplaced
          pure (some n) : Check (Option Int)).mute := by
      simp only [mute_bind, value]
    simp only [List.map_cons]
    rw [← tryCatch_mute, found, tryCatch_mute, ih]
    rfl

end WrapperGen
