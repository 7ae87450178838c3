import WrapperGen.Proofs.SessionGrowth

/-!
# Signatures from the packages at hand

The signature of a method depends on other packages: their names tell which of them a qualifier
stands for, and their constants may be in the lengths of arrays.  What a check makes of a signature
is what comes of it without any session, from the packages that the session holds later on.

## Main results

* `Workspace.settles_importPath?`: what a qualifier stands for.
* `Workspace.settles_constantValue`, `Workspace.settles_lengthValue`: constants.
* `Workspace.settles_declaredType`, `Workspace.settles_declaredSignature`: types and signatures.
-/

namespace WrapperGen

open Source

namespace Workspace

variable {w : Workspace} {fact : String → CheckedPackage → Prop} {importer : Importer}
  {scope : PackageScope} {file : SourceFile}

/-! ### Qualifiers -/

theorem settles_firstNamed (h : w.Reaches fact importer) (name : String) (paths : List String) :
    w.Settles fact (FileScope.firstNamed importer name paths)
      fun i => FileScope.firstNamed i name paths := by
  induction paths with
  | nil => exact Settles.pure none
  | cons path rest ih =>
    unfold FileScope.firstNamed
    refine Settles.bind (h.name? path) fun found => ?_
    exact Settles.ite (fun _ => Settles.pure (some path)) fun _ => ih

/-- What a qualifier stands for. -/
theorem settles_importPath? (h : w.Reaches fact importer) (s : FileScope) (name : String) :
    w.Settles fact (s.importPath? importer name) fun i => s.importPath? i name := by
  unfold FileScope.importPath?
  cases s.names.lookup name with
  | some path => exact Settles.pure (some path)
  | none => exact settles_firstNamed h name s.unnamed

/-! ### Constants -/

theorem settles_importedConstant (h : w.Reaches fact importer) (span : Span) (operand : Expr)
    (field : String) :
    w.Settles fact (importedConstant importer file span operand field)
      fun i => importedConstant i file span operand field := by
  unfold importedConstant
  cases operand with
  | name operandSpan qualifier =>
    refine Settles.bind (settles_importPath? h file.scope qualifier) fun path? => ?_
    cases path? with
    | none => exact Lasts.fail
    | some path =>
      refine Settles.bind (Settles.orThrow (h.load path)) fun package => ?_
      cases package.constant? field with
      | some n => exact Settles.pure n
      | none => exact Lasts.fail
  | _ => exact Lasts.fail

theorem settles_constantValue (h : w.Reaches fact importer) {named : ConstEntry → Check Int}
    {plain : Importer → ConstEntry → Check Int} {counter? : Option Nat}
    (hn : ∀ entry, w.Settles fact (named entry) fun i => plain i entry) (e : Expr) :
    w.Settles fact (constantValue scope ⟨named, some (importedConstant importer)⟩ file counter? e)
      fun i => constantValue scope ⟨plain i, some (importedConstant i)⟩ file counter? e := by
  -- only names and selectors ask for anything, and both are settled
  induction e with
  | integer span text =>
    unfold constantValue
    cases integerValue? text with
    | some n => exact Settles.pure _
    | none => exact Lasts.fail
  | counter span =>
    unfold constantValue
    cases counter? with
    | some n => exact Settles.pure _
    | none => exact Lasts.fail
  | name span text =>
    unfold constantValue
    cases scope.constant? text with
    | some entry => exact hn entry
    | none => exact Lasts.fail
  | selector span operand field => exact settles_importedConstant h span operand field
  | paren span inner ih => exact ih
  | unary span op operand ih =>
    unfold constantValue
    refine Settles.bind ih fun a => ?_
    cases op.apply? a with
    | some n => exact Settles.pure n
    | none => exact Lasts.fail
  | binary span op left right ihl ihr =>
    unfold constantValue
    refine Settles.bind ihl fun a => Settles.bind ihr fun b => ?_
    cases op.apply? a b with
    | some n => exact Settles.pure n
    | none => exact Lasts.fail
  | other span => exact Lasts.fail

theorem settles_namedConstant (h : w.Reaches fact importer) (depth : Nat) (pending : List String)
    (entry : ConstEntry) :
    w.Settles fact (namedConstant scope (some (importedConstant importer)) depth pending entry)
      fun i => namedConstant scope (some (importedConstant i)) depth pending entry := by
  induction depth generalizing pending entry with
  | zero =>
    unfold namedConstant
    cases entry.value? with
    | none => exact Lasts.throw
    | some value => exact Lasts.fail
  | succ depth ih =>
    unfold namedConstant
    cases entry.value? with
    | none => exact Lasts.throw
    | some value =>
      refine Settles.ite (fun _ => Lasts.fail) fun _ => ?_
      exact settles_constantValue h (ih (entry.name :: pending)) value

theorem settles_lengthValue (h : w.Reaches fact importer) (length : Expr) :
    w.Settles fact (lengthValue scope importer file length)
      fun i => lengthValue scope i file length := by
  unfold lengthValue
  refine Settles.bind (settles_constantValue h (settles_namedConstant h _ _) length) fun n => ?_
  exact Settles.ite (fun _ => Settles.pure _) fun _ => Lasts.fail

/-! ### Types -/

theorem settles_qualifiedTypeName (h : w.Reaches fact importer) (span : Span)
    (qualifier name : String) :
    w.Settles fact (qualifiedTypeName importer file span qualifier name)
      fun i => qualifiedTypeName i file span qualifier name := by
  unfold qualifiedTypeName
  refine Settles.ite (fun _ => Settles.pure _) fun _ => ?_
  refine Settles.bind (settles_importPath? h file.scope qualifier) fun path? => ?_
  cases path? with
  | some path => exact Settles.pure _
  | none => exact Lasts.fail

mutual

/-- What a type stands for. -/
theorem settles_declaredType (h : w.Reaches fact importer) : (e : TypeExpr) →
    w.Settles fact (declaredType scope importer file e) fun i => declaredType scope i file e
  -- a type is settled once all its parts are, and only lengths and qualifiers ask other packages
  | .name span text => by
    unfold declaredType bareName
    refine Settles.ite (fun _ => Settles.pure _) fun _ => ?_
    exact Settles.ite (fun _ => Settles.pure _) fun _ => Lasts.fail
  | .qualified span qualifier name => by
    unfold declaredType
    exact settles_qualifiedTypeName h span qualifier name
  | .generic _ base arguments => by
    unfold declaredType
    exact Settles.bind (settles_declaredType h base) fun _ =>
      Settles.bind (settles_declaredArguments h arguments) fun _ => Settles.pure _
  | .pointer _ element => by
    unfold declaredType
    exact Settles.bind (settles_declaredType h element) fun _ => Settles.pure _
  | .array _ length element => by
    unfold declaredType
    exact Settles.bind (settles_lengthValue h length) fun _ =>
      Settles.bind (settles_declaredType h element) fun _ => Settles.pure _
  | .slice _ element => by
    unfold declaredType
    exact Settles.bind (settles_declaredType h element) fun _ => Settles.pure _
  | .map _ key value => by
    unfold declaredType
    exact Settles.bind (settles_declaredType h key) fun _ =>
      Settles.bind (settles_declaredType h value) fun _ => Settles.pure _
  | .channel _ direction element => by
    unfold declaredType
    exact Settles.bind (settles_declaredType h element) fun _ => Settles.pure _
  | .function _ params results => by
    unfold declaredType
    exact Settles.bind (settles_declaredParams h params) fun _ =>
      Settles.bind (settles_declaredParams h results) fun _ => Settles.pure _
  | .struct span hasFields => by
    unfold declaredType
    exact Settles.ite (fun _ => Lasts.fail) fun _ => Settles.pure _
  | .interface span elements => by
    unfold declaredType
    exact Settles.ite (fun _ => Settles.pure _) fun _ => Lasts.fail
  | .paren _ inner => by
    unfold declaredType
    exact settles_declaredType h inner
  | .approximation span _ => by
    unfold declaredType
    exact Lasts.fail

/-- What type arguments stand for. -/
theorem settles_declaredArguments (h : w.Reaches fact importer) : (arguments : List TypeElem) →
    w.Settles fact (declaredArguments scope importer file arguments)
      fun i => declaredArguments scope i file arguments
  | [] => by
    unfold declaredArguments
    exact Settles.pure []
  | .mk _ [term] :: rest => by
    unfold declaredArguments declaredArgument
    exact Settles.bind (settles_declaredType h term) fun _ =>
      Settles.bind (settles_declaredArguments h rest) fun _ => Settles.pure _
  | .mk _ [] :: rest => by
    unfold declaredArguments declaredArgument
    exact Settles.bind Lasts.fail fun _ =>
      Settles.bind (settles_declaredArguments h rest) fun _ => Settles.pure _
  | .mk _ (_ :: _ :: _) :: rest => by
    unfold declaredArguments declaredArgument
    exact Settles.bind Lasts.fail fun _ =>
      Settles.bind (settles_declaredArguments h rest) fun _ => Settles.pure _

/-- What parameters stand for. -/
theorem settles_declaredParams (h : w.Reaches fact importer) : (params : List Param) →
    w.Settles fact (declaredParams scope importer file params)
      fun i => declaredParams scope i file params
  | [] => by
    unfold declaredParams
    exact Settles.pure _
  | .mk names type repeated :: rest => by
    unfold declaredParams
    refine Settles.bind (settles_declaredType h type) fun _ =>
      Settles.bind (settles_declaredParams h rest) fun _ => ?_
    exact Settles.ite (fun _ => Settles.pure _) fun _ => Settles.pure _

end

/-- What a signature stands for. -/
theorem settles_declaredSignature (h : w.Reaches fact importer) (params results : List Param) :
    w.Settles fact (declaredSignature scope importer file params results)
      fun i => declaredSignature scope i file params results := by
  unfold declaredSignature
  exact Settles.bind (settles_declaredParams h params) fun _ =>
    Settles.bind (settles_declaredParams h results) fun _ => Settles.pure _

end Workspace

end WrapperGen
