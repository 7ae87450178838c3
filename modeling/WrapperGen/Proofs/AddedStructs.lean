import WrapperGen.Proofs.Finding
import WrapperGen.Proofs.Footprint

/-!
# Scopes to which structures are added

A package may grow by types that are no interfaces: generated code does that to the package that it
is written into.  What the package was found to declare is found again then, the new types apart.
For a name that was declared is declared still, and one that was not is not looked up: an undeclared
name is a failure unless it is predeclared, and the new types have no predeclared names.

Nothing is said of a package whose check has failed, and it cannot be: a name that stood for nothing
may be the name of one of the new types.

## Main definitions

* `Source.TypeSpec.isStruct`: a structure without parameters.
* `PackageScope.Extends`: a scope that has more structures than another one.

## Main results

* `PackageScope.Extends.lengthValue_eq`, `PackageScope.Extends.exportedConstants_eq`: constants are
  the same.
* `PackageScope.Extends.yields_declaredType`, `PackageScope.Extends.yields_kindOf`: types and kinds
  come to what they came to.
* `PackageScope.Extends.declarations`: so the same interfaces are declared.
-/

namespace WrapperGen

open Source

/-- Whether a type is a structure without parameters.  No such type is an interface, and nothing has
to be known of its fields to see that. -/
def Source.TypeSpec.isStruct (spec : TypeSpec) : Bool :=
  match spec.type with
  | .struct _ _ => !spec.generic
  | _ => false

/-- One declaration of a type stands for another one: they are the same, or both declare structures,
which may have other fields. -/
def TypeEntry.StandsFor (other entry : TypeEntry) : Prop :=
  other = entry ∨ other.spec.isStruct = true ∧ entry.spec.isStruct = true

theorem Source.TypeSpec.of_isStruct {spec : TypeSpec} (h : spec.isStruct = true) :
    spec.generic = false ∧ ∃ span fields, spec.type = .struct span fields := by
  unfold isStruct at h
  cases type : spec.type with
  | struct span fields =>
    rw [type] at h
    exact ⟨by simpa using h, span, fields, rfl⟩
  | _ =>
    rw [type] at h
    cases h

theorem TypeEntry.StandsFor.generic_eq {other entry : TypeEntry} (h : other.StandsFor entry) :
    other.spec.generic = entry.spec.generic := by
  rcases h with rfl | ⟨one, two⟩
  · rfl
  · rw [(TypeSpec.of_isStruct one).1, (TypeSpec.of_isStruct two).1]

/-- A failure at a place of a file comes to no value. -/
theorem Yields.of_fail {α : Type} {file : SourceFile} {span : Span} {what : Fault}
    {m' : Check α} : Yields (file.fail span what) m' :=
  Yields.of_throw

namespace PackageScope

/-- The scope `later` has all types of `scope`, and structures besides.  A structure of `scope` may
have been replaced by another one of its name. -/
structure Extends (scope later : PackageScope) : Prop where
  /-- It is the scope of the same package. -/
  importPath : later.importPath = scope.importPath
  /-- The constants are the same. -/
  constants : later.constants = scope.constants
  /-- A type that was declared is declared still. -/
  kept : ∀ name entry, scope.type? name = some entry →
    ∃ other, later.type? name = some other ∧ other.StandsFor entry
  /-- A new type has no predeclared name. -/
  fresh : ∀ name, scope.type? name = none → isPredeclared name = true → later.type? name = none
  /-- The other types are the same. -/
  others : (later.types.filter fun entry => !entry.spec.isStruct)
    = scope.types.filter fun entry => !entry.spec.isStruct
  /-- There are no fewer types. -/
  room : scope.types.length ≤ later.types.length

namespace Extends

variable {scope later : PackageScope} {importer : Importer} {file : SourceFile}

/-! ### Constants -/

theorem constantValue_eq (h : scope.Extends later) (source : ConstantSource)
    (counter? : Option Nat) (e : Expr) :
    constantValue later source file counter? e = constantValue scope source file counter? e := by
  induction e with
  | integer | counter | selector | other => rfl
  | name span text =>
    unfold constantValue constant?
    rw [h.constants]
  | paren span inner ih =>
    unfold constantValue
    exact ih
  | unary span op operand ih =>
    unfold constantValue
    rw [ih]
  | binary span op left right ihl ihr =>
    unfold constantValue
    rw [ihl, ihr]

theorem namedConstant_eq (h : scope.Extends later)
    (imported? : Option (SourceFile → Span → Expr → String → Check Int)) (depth : Nat)
    (pending : List String) :
    namedConstant later imported? depth pending = namedConstant scope imported? depth pending := by
  induction depth generalizing pending with
  | zero =>
    funext entry
    unfold namedConstant
    rfl
  | succ depth ih =>
    funext entry
    unfold namedConstant
    cases entry.value? with
    | none => rfl
    | some value =>
      dsimp only
      rw [ih, h.constantValue_eq]

theorem constantSource_eq (h : scope.Extends later)
    (imported? : Option (SourceFile → Span → Expr → String → Check Int)) :
    later.constantSource imported? = scope.constantSource imported? := by
  unfold constantSource
  rw [h.namedConstant_eq, h.constants]

/-- The lengths of arrays depend on constants only. -/
theorem lengthValue_eq (h : scope.Extends later) (length : Expr) :
    lengthValue later importer file length = lengthValue scope importer file length := by
  unfold lengthValue
  rw [h.constantSource_eq, h.constantValue_eq]

theorem exportedConstants_eq (h : scope.Extends later) :
    exportedConstants later = exportedConstants scope := by
  unfold exportedConstants
  rw [h.constantSource_eq, h.constants]

/-! ### Types -/

theorem yields_bareName (h : scope.Extends later) (span : Span) (name : String) :
    Yields (bareName scope file span name) (bareName later file span name) := by
  unfold bareName
  rw [h.importPath]
  cases found : scope.type? name with
  | some entry =>
    obtain ⟨other, there, -⟩ := h.kept name entry found
    rw [there]
    exact Yields.refl _
  | none =>
    rw [if_neg (by simp)]
    by_cases predeclared : isPredeclared name = true
    · rw [if_pos predeclared, h.fresh name found predeclared, if_neg (by simp)]
      exact Yields.refl _
    -- the name stood for nothing
    · rw [if_neg predeclared]
      exact Yields.of_fail

mutual

theorem yields_declaredType (h : scope.Extends later) : (e : TypeExpr) →
    Yields (declaredType scope importer file e) (declaredType later importer file e)
  | .name span text => by
    unfold declaredType
    exact h.yields_bareName span text
  | .qualified span qualifier name => by
    unfold declaredType
    exact Yields.refl _
  | .generic _ base arguments => by
    unfold declaredType
    exact (h.yields_declaredType base).bind fun _ =>
      (h.yields_declaredArguments arguments).bind fun _ => Yields.refl _
  | .pointer _ element | .slice _ element | .channel _ _ element => by
    unfold declaredType
    exact (h.yields_declaredType element).bind fun _ => Yields.refl _
  | .array _ length element => by
    unfold declaredType
    rw [h.lengthValue_eq]
    exact (Yields.refl _).bind fun _ => (h.yields_declaredType element).bind fun _ => Yields.refl _
  | .map _ key value => by
    unfold declaredType
    exact (h.yields_declaredType key).bind fun _ =>
      (h.yields_declaredType value).bind fun _ => Yields.refl _
  | .function _ params results => by
    unfold declaredType
    exact (h.yields_declaredParams params).bind fun _ =>
      (h.yields_declaredParams results).bind fun _ => Yields.refl _
  | .struct span hasFields => by
    unfold declaredType
    exact Yields.refl _
  | .interface span elements => by
    unfold declaredType
    exact Yields.refl _
  | .paren _ inner => by
    unfold declaredType
    exact h.yields_declaredType inner
  | .approximation span _ => by
    unfold declaredType
    exact Yields.refl _

theorem yields_declaredArguments (h : scope.Extends later) : (arguments : List TypeElem) →
    Yields (declaredArguments scope importer file arguments)
      (declaredArguments later importer file arguments)
  | [] => by
    unfold declaredArguments
    exact Yields.refl _
  | argument :: rest => by
    unfold declaredArguments
    exact (h.yields_declaredArgument argument).bind fun _ =>
      (h.yields_declaredArguments rest).bind fun _ => Yields.refl _

theorem yields_declaredArgument (h : scope.Extends later) : (argument : TypeElem) →
    Yields (declaredArgument scope importer file argument)
      (declaredArgument later importer file argument)
  | .mk _ [term] => by
    unfold declaredArgument
    exact h.yields_declaredType term
  | .mk span [] => by
    unfold declaredArgument
    exact Yields.refl _
  | .mk span (_ :: _ :: _) => by
    unfold declaredArgument
    exact Yields.refl _

theorem yields_declaredParams (h : scope.Extends later) : (params : List Param) →
    Yields (declaredParams scope importer file params) (declaredParams later importer file params)
  | [] => by
    unfold declaredParams
    exact Yields.refl _
  | .mk names type repeated :: rest => by
    unfold declaredParams
    exact (h.yields_declaredType type).bind fun _ =>
      (h.yields_declaredParams rest).bind fun _ => Yields.refl _

end

theorem yields_declaredSignature (h : scope.Extends later) (params results : List Param) :
    Yields (declaredSignature scope importer file params results)
      (declaredSignature later importer file params results) := by
  unfold declaredSignature
  exact (h.yields_declaredParams params).bind fun _ =>
    (h.yields_declaredParams results).bind fun _ => Yields.refl _

/-! ### Kinds -/

/-- Every name that has a kind of its own is predeclared. -/
theorem isPredeclared_of_predeclaredKind? {name : String} {kind : TypeKind}
    (h : predeclaredKind? name = some kind) : isPredeclared name = true := by
  by_cases predeclared : isPredeclared name = true
  · exact predeclared
  · have apart : ∀ other, isPredeclared other = true → (name == other) = false := by
      intro other known
      refine beq_false_of_ne fun same => predeclared ?_
      rw [same]
      exact known
    unfold predeclaredKind? at h
    rw [apart "error" (by decide), apart "any" (by decide), apart "comparable" (by decide),
      if_neg Bool.false_ne_true, if_neg Bool.false_ne_true, if_neg Bool.false_ne_true,
      if_neg predeclared] at h
    cases h

/-- The kinds of the types of a package, as far as they are asked for by name, come to as much in
the larger one. -/
def NamedYields (named named' : TypeEntry → Bool → Check TypeKind) : Prop :=
  ∀ entry other strict, other.spec.name = entry.spec.name → other.StandsFor entry →
    Yields (named entry strict) (named' other strict)

section

variable {named named' : TypeEntry → Bool → Check TypeKind}

theorem yields_namedOf (h : scope.Extends later) (hn : NamedYields named named') (strict : Bool)
    (span : Span) (text : String) :
    Yields (kindOf ⟨scope, importer, named⟩ file strict (.name span text))
      (kindOf ⟨later, importer, named'⟩ file strict (.name span text)) := by
  unfold kindOf
  dsimp only
  cases found : scope.type? text with
  | some entry =>
    obtain ⟨other, there, stands⟩ := h.kept text entry found
    have named : other.spec.name = entry.spec.name :=
      (mem_of_type? there).2.trans (mem_of_type? found).2.symm
    rw [there]
    dsimp only
    rw [stands.generic_eq]
    split
    · exact Yields.refl _
    · exact hn entry other strict named stands
  | none =>
    dsimp only
    cases known : predeclaredKind? text with
    | none => exact Yields.of_fail
    | some kind =>
      rw [h.fresh text found (isPredeclared_of_predeclaredKind? known)]
      exact Yields.refl _

mutual

theorem yields_kindOf (h : scope.Extends later) (hn : NamedYields named named') (strict : Bool) :
    (e : TypeExpr) → Yields (kindOf ⟨scope, importer, named⟩ file strict e)
      (kindOf ⟨later, importer, named'⟩ file strict e)
  | .name span text => h.yields_namedOf hn strict span text
  | .interface _ elements => by
    unfold kindOf
    exact h.yields_interfaceKind hn [] elements
  | .paren _ inner => by
    unfold kindOf
    exact h.yields_kindOf hn strict inner
  | .qualified span qualifier name => by
    unfold kindOf
    exact Yields.refl _
  | .generic _ _ _ | .pointer _ _ | .array _ _ _ | .slice _ _ | .map _ _ _ | .channel _ _ _
  | .function _ _ _ | .struct _ _ | .approximation _ _ => by
    unfold kindOf
    exact Yields.refl _

theorem yields_interfaceKind (h : scope.Extends later) (hn : NamedYields named named')
    (methods : List (Method DeclaredName)) : (elements : List Element) →
    Yields (interfaceKind ⟨scope, importer, named⟩ file methods elements)
      (interfaceKind ⟨later, importer, named'⟩ file methods elements)
  | [] => by
    unfold interfaceKind
    exact Yields.refl _
  | .method span name params results :: rest => by
    unfold interfaceKind
    exact (h.yields_declaredSignature params results).bind fun signature =>
      (Yields.refl _).bind fun grown => h.yields_interfaceKind hn grown rest
  | .types (.mk span [term]) :: rest => by
    unfold interfaceKind
    by_cases embeddable : isEmbeddable term = true
    · rw [if_pos embeddable, if_pos embeddable]
      refine (h.yields_kindOf hn true term).bind fun kind => ?_
      cases kind with
      | interface embedded =>
        exact (Yields.refl _).bind fun grown => h.yields_interfaceKind hn grown rest
      | constraint => exact Yields.refl _
      | other => exact Yields.refl _
    · rw [if_neg embeddable, if_neg embeddable]
      exact Yields.refl _
  | .types (.mk _ []) :: _ => by
    unfold interfaceKind
    exact Yields.refl _
  | .types (.mk _ (_ :: _ :: _)) :: _ => by
    unfold interfaceKind
    exact Yields.refl _

end

end

/-- The kind of a structure, if it may be entered at all. -/
theorem kindOf_of_isStruct {source : KindSource} {spec : TypeSpec} (h : spec.isStruct = true)
    (strict : Bool) : kindOf source file strict spec.type = pure .other := by
  obtain ⟨-, span, fields, type⟩ := TypeSpec.of_isStruct h
  rw [type]
  unfold kindOf
  rfl

/-- More types may be entered in the larger package, and the same are pending. -/
theorem yields_namedKind (h : scope.Extends later) {depth depth' : Nat} (deep : depth ≤ depth')
    (pending : List String) :
    NamedYields (namedKind scope importer depth pending)
      (namedKind later importer depth' pending) := by
  induction depth generalizing depth' pending with
  | zero =>
    intro entry other strict _ _
    unfold namedKind
    exact Yields.of_fail
  | succ depth ih =>
    obtain ⟨less, rfl⟩ : ∃ less, depth' = less + 1 := ⟨depth' - 1, by omega⟩
    intro entry other strict same stands
    unfold namedKind
    rw [same]
    split
    · exact Yields.of_fail
    · rcases stands with rfl | ⟨one, two⟩
      · exact h.yields_kindOf (ih (Nat.le_of_succ_le_succ deep) _) strict _
      · rw [kindOf_of_isStruct one, kindOf_of_isStruct two]
        exact Yields.refl _

/-! ### Declarations -/

theorem yields_declarationsOf (h : scope.Extends later) (entries : List TypeEntry) :
    Yields (scope.declarationsOf importer entries) (later.declarationsOf importer entries) := by
  induction entries with
  | nil => exact Yields.refl _
  | cons entry rest ih =>
    unfold declarationsOf declaration
    refine Yields.bind ?_ fun first => ih.bind fun more => Yields.refl _
    dsimp only
    split
    · exact Yields.refl _
    · exact (h.yields_namedKind h.room [] entry entry false rfl (.inl rfl)).bind
        fun kind => Yields.refl _

end Extends

variable {s : PackageScope} {importer : Importer} {entry : TypeEntry} {entries : List TypeEntry}

/-- The declaration of a structure asks for nothing. -/
theorem declaration_of_isStruct (mem : entry ∈ s.types) (h : entry.spec.isStruct = true) :
    s.declaration importer entry = pure ⟨entry.spec.name, false, .other⟩ := by
  have plain := (TypeSpec.of_isStruct h).1
  obtain ⟨less, deep⟩ : ∃ less, s.types.length = less + 1 :=
    ⟨s.types.length - 1, by have := List.length_pos_of_mem mem; omega⟩
  unfold declaration
  dsimp only
  rw [plain, if_neg Bool.false_ne_true, deep, namedKind, if_neg (by simp),
    Extends.kindOf_of_isStruct h]
  rfl

theorem run_declarationsOf_cons_iff {t last : Session} {found : List Declaration} :
    (s.declarationsOf importer (entry :: entries)).run.run t = (.ok found, last)
      ↔ ∃ first between more, (s.declaration importer entry).run.run t = (.ok first, between)
        ∧ (s.declarationsOf importer entries).run.run between = (.ok more, last)
        ∧ found = first :: more := by
  rw [declarationsOf]
  constructor
  · intro ran
    obtain ⟨first, between, here, ran⟩ := exists_of_run_bind ran
    obtain ⟨more, after, behind, ran⟩ := exists_of_run_bind ran
    cases ran
    exact ⟨first, between, more, here, behind, rfl⟩
  · rintro ⟨first, between, more, here, behind, rfl⟩
    rw [run_bind_of_ok here, run_bind_of_ok behind]
    rfl

/-- Structures make no difference to the interfaces of a package, nor to the session in which they
are declared. -/
theorem run_declarationsOf_iff (own : String) (mem : ∀ entry ∈ entries, entry ∈ s.types)
    {t last : Session} {interfaces : List Interface} :
    (∃ found, (s.declarationsOf importer entries).run.run t = (.ok found, last)
        ∧ found.filterMap (exportedInterface? own) = interfaces)
      ↔ ∃ found, (s.declarationsOf importer
          (entries.filter fun entry => !entry.spec.isStruct)).run.run t = (.ok found, last)
        ∧ found.filterMap (exportedInterface? own) = interfaces := by
  induction entries generalizing t interfaces with
  | nil => exact Iff.rfl
  | cons entry rest ih =>
    have rest := fun other ho => mem other (List.mem_cons_of_mem entry ho)
    by_cases struct : entry.spec.isStruct = true
    -- a structure is declared at once, and is no interface
    · have first : s.declaration importer entry = pure ⟨entry.spec.name, false, .other⟩ :=
        declaration_of_isStruct (mem entry List.mem_cons_self) struct
      rw [List.filter_cons_of_neg (by simpa using struct), ← ih rest]
      constructor
      · rintro ⟨found, ran, rfl⟩
        obtain ⟨d, between, more, here, onward, rfl⟩ := run_declarationsOf_cons_iff.1 ran
        rw [first] at here
        cases here
        exact ⟨more, onward, rfl⟩
      · rintro ⟨more, ran, rfl⟩
        exact ⟨_, run_declarationsOf_cons_iff.2 ⟨_, t, more, by rw [first]; rfl, ran, rfl⟩, rfl⟩
    · rw [List.filter_cons_of_pos (by simpa using struct)]
      constructor
      · rintro ⟨found, ran, rfl⟩
        obtain ⟨d, between, more, here, onward, rfl⟩ := run_declarationsOf_cons_iff.1 ran
        obtain ⟨again, ranToo, same⟩ := (ih rest).1 ⟨more, onward, rfl⟩
        refine ⟨_, run_declarationsOf_cons_iff.2 ⟨d, between, again, here, ranToo, rfl⟩, ?_⟩
        rw [List.filterMap_cons, List.filterMap_cons, same]
      · rintro ⟨found, ran, rfl⟩
        obtain ⟨d, between, more, here, onward, rfl⟩ := run_declarationsOf_cons_iff.1 ran
        obtain ⟨again, ranToo, same⟩ := (ih rest).2 ⟨more, onward, rfl⟩
        refine ⟨_, run_declarationsOf_cons_iff.2 ⟨d, between, again, here, ranToo, rfl⟩, ?_⟩
        rw [List.filterMap_cons, List.filterMap_cons, same]

/-- The larger package declares the same interfaces. -/
theorem Extends.declarations {scope later : PackageScope} (h : scope.Extends later) (own : String)
    {t last : Session} {found : List Declaration}
    (ran : (scope.declarations importer).run.run t = (.ok found, last)) :
    ∃ again, (later.declarations importer).run.run t = (.ok again, last)
      ∧ again.filterMap (exportedInterface? own) = found.filterMap (exportedInterface? own) := by
  obtain ⟨less, ran, same⟩ :=
    (run_declarationsOf_iff own fun entry he => he).1 ⟨found, ran, rfl⟩
  refine (run_declarationsOf_iff own fun entry he => he).2 ⟨less, ?_, same⟩
  rw [h.others]
  exact h.yields_declarationsOf _ t less last ran

end PackageScope

end WrapperGen
