import WrapperGen.Check.Constant

/-!
# Types of a package

A type as it is written names other types by what stands for them in its file.  Here every such
name gets the package that declares it.

## Main definitions

* `declaredType`: the type that an expression stands for.
* `declaredSignature`: the signature that parameters and results stand for.
-/

namespace WrapperGen

open Source

variable (scope : PackageScope) (importer : Importer) (file : SourceFile)

/-- The type that a bare name stands for. -/
def bareName (span : Span) (name : String) : Check DeclaredType :=
  if (scope.type? name).isSome then pure (.named (.declared name (some scope.importPath)))
  else if isPredeclared name then pure (.named (.declared name none))
  else file.failUndefined span name

/-- The type that a name behind a qualifier stands for. -/
def qualifiedTypeName (span : Span) (qualifier name : String) : Check DeclaredType := do
  if file.scope.isForeign qualifier then pure (.named (.foreign name))
  else
    match ← file.scope.importPath? importer qualifier with
    | some importPath => pure (.named (.declared name (some importPath)))
    | none => file.failUndefined span qualifier

/-- Fail because generated code cannot name a type. -/
def failUnsupported {α : Type} (span : Span) : Check α :=
  file.fail span (.unsupportedType (file.textAt span))

mutual

/-- The type that an expression stands for. -/
def declaredType : TypeExpr → Check DeclaredType
  | .name span text => bareName scope file span text
  | .qualified span qualifier name => qualifiedTypeName importer file span qualifier name
  | .generic _ base arguments => do
      let base ← declaredType base
      let arguments ← declaredArguments arguments
      pure (.applied base arguments)
  | .pointer _ element => do
      let element ← declaredType element
      pure (.pointer element)
  | .array _ length element => do
      let length ← lengthValue scope importer file length
      let element ← declaredType element
      pure (.array length element)
  | .slice _ element => do
      let element ← declaredType element
      pure (.slice element)
  | .map _ key value => do
      let key ← declaredType key
      let value ← declaredType value
      pure (.map key value)
  | .channel _ direction element => do
      let element ← declaredType element
      pure (.channel direction element)
  | .function _ params results => do
      let params ← declaredParams params
      let results ← declaredParams results
      pure (.function params.1 results.1 params.2)
  | .struct span hasFields =>
      if hasFields then failUnsupported file span else pure .emptyStruct
  | .interface span elements =>
      if elements.isEmpty then pure .emptyInterface else failUnsupported file span
  | .paren _ inner => declaredType inner
  | .approximation span _ => failUnsupported file span

/-- The types that type arguments stand for. -/
def declaredArguments : List TypeElem → Check (List DeclaredType)
  | [] => pure []
  | argument :: rest => do
      let first ← declaredArgument argument
      let more ← declaredArguments rest
      pure (first :: more)

/-- The type that a type argument stands for: a union of a single term. -/
def declaredArgument : TypeElem → Check DeclaredType
  | .mk _ [term] => declaredType term
  | .mk span _ => file.fail span (.unsupportedArgument (file.textAt span))

/-- The types that parameters stand for, and whether one of them may be repeated. -/
def declaredParams : List Param → Check (List DeclaredType × Bool)
  | [] => pure ([], false)
  | .mk names type repeated :: rest => do
      let type ← declaredType type
      let more ← declaredParams rest
      if repeated then pure (.slice type :: more.1, true)
      else pure (List.replicate (max 1 names) type ++ more.1, more.2)

end

/-- The signature that parameters and results stand for. -/
def declaredSignature (params results : List Param) : Check (Signature DeclaredName) := do
  let params ← declaredParams scope importer file params
  let results ← declaredParams scope importer file results
  pure ⟨params.1, results.1, params.2⟩

end WrapperGen
