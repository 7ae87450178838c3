import WrapperGen.Check.Types

/-!
# Kinds of types

The methods of an interface are those written in it and those of the interfaces that it embeds.
One method may come in twice if both times its signature is the same.

## Main definitions

* `addMethod?`, `addMethods`: method sets.
* `kindOf`: the kind of the type that an expression stands for.
* `namedKind`: the kind of a declared type.
* `PackageScope.declarations`: all declarations of a package.

## Main results

* `nodup_addMethod?`: the names in a method set are distinct.
* `mem_addMethod?_iff`: no method is lost.
-/

namespace WrapperGen

open Source

/-! ### Method sets -/

/-- The method set with one more method; none if a method of that name differs. -/
def addMethod? (methods : List (Method DeclaredName)) (m : Method DeclaredName) :
    Option (List (Method DeclaredName)) :=
  match methods.find? (·.name == m.name) with
  | none => some (methods ++ [m])
  | some known => if known.signature = m.signature then some methods else none

/-- Adding a method keeps the names of a method set distinct. -/
theorem nodup_addMethod? {methods more : List (Method DeclaredName)} {m : Method DeclaredName}
    (h : (methods.map (·.name)).Nodup) (e : addMethod? methods m = some more) :
    (more.map (·.name)).Nodup := by
  unfold addMethod? at e
  split at e
  · rename_i free
    obtain rfl := Option.some.inj e
    rw [List.map_append, List.nodup_append]
    refine ⟨h, by simp, ?_⟩
    intro a ha b hb
    rw [List.find?_eq_none] at free
    obtain ⟨known, hk, rfl⟩ := List.mem_map.1 ha
    have := free known hk
    simp only [List.map_cons, List.map_nil, List.mem_singleton] at hb
    subst hb
    simpa using this
  · split at e
    · obtain rfl := Option.some.inj e
      exact h
    · cases e

/-- A method set holds all that it held and the method that has been added. -/
theorem mem_addMethod?_iff {methods more : List (Method DeclaredName)}
    {m other : Method DeclaredName} (e : addMethod? methods m = some more) :
    other ∈ more ↔ other ∈ methods ∨ other = m := by
  unfold addMethod? at e
  split at e
  · rw [← Option.some.inj e, List.mem_append, List.mem_singleton]
  · rename_i known found
    split at e
    · rename_i same
      have named : known.name = m.name := by simpa using List.find?_some found
      have whole : known = m := by
        cases known
        cases m
        rw [Method.mk.injEq]
        exact ⟨named, same⟩
      rw [← Option.some.inj e, ← whole]
      constructor
      · exact .inl
      · rintro (mem | rfl)
        · exact mem
        · exact List.mem_of_find?_eq_some found
    · cases e

/-- The method set with more methods, which stand at a place of a file. -/
def addMethods (file : SourceFile) (span : Span) (methods : List (Method DeclaredName)) :
    List (Method DeclaredName) → Check (List (Method DeclaredName))
  | [] => pure methods
  | m :: rest =>
      match addMethod? methods m with
      | some methods => addMethods file span methods rest
      | none => file.fail span (.duplicateMethod m.name)

/-- The methods of errors. -/
def errorMethods : List (Method DeclaredName) :=
  [⟨"Error", ⟨[], [.named (.declared "string" none)], false⟩⟩]

/-! ### Kinds of type expressions -/

/-- The kind of a predeclared type. -/
def predeclaredKind? (name : String) : Option TypeKind :=
  if name == "error" then some (.interface errorMethods)
  else if name == "any" then some (.interface [])
  else if name == "comparable" then some .constraint
  else if isPredeclared name then some .other
  else none

/-- Whether a term in an interface may be an embedded interface. -/
def isEmbeddable : TypeExpr → Bool
  | .name _ _ | .qualified _ _ _ | .paren _ _ => true
  | _ => false

/-- What the kinds of type expressions depend on. -/
structure KindSource where
  /-- The package. -/
  scope : PackageScope
  /-- The other packages. -/
  importer : Importer
  /-- The kind of a type of the package; the flag is that of `kindOf`. -/
  named : TypeEntry → Bool → Check TypeKind

/-- The kind of the type that a name behind a qualifier stands for.  If the package cannot be
used, that is an error where `strict` says so, and otherwise the kind is not known. -/
def qualifiedKind (importer : Importer) (file : SourceFile) (strict : Bool) (span : Span)
    (qualifier name : String) : Check TypeKind := do
  if file.scope.isForeign qualifier then pure .other
  else
    match ← file.scope.importPath? importer qualifier with
    | none => file.failUndefined span qualifier
    | some importPath =>
        let package? ← tryCatch (do
          let package ← importer.load importPath
          pure (some package)) fun cause =>
            if strict then throw (.importFailed file.shortName span.place importPath cause)
            else pure none
        match package? with
        | none => pure .other
        | some package =>
            match package.declaration? name with
            | some d => pure (if d.generic then .other else d.kind)
            | none => file.failUndefined span (qualifier ++ "." ++ name)

variable (source : KindSource) (file : SourceFile)

mutual

/-- The kind of the type that an expression stands for.  With `strict`, the kind of a type of
another package has to be known. -/
def kindOf (strict : Bool) : TypeExpr → Check TypeKind
  | .interface _ elements => interfaceKind [] elements
  | .paren _ inner => kindOf strict inner
  | .name span text =>
      match source.scope.type? text with
      | some entry => if entry.spec.generic then pure .other else source.named entry strict
      | none =>
          match predeclaredKind? text with
          | some kind => pure kind
          | none => file.failUndefined span text
  | .qualified span qualifier name =>
      qualifiedKind source.importer file strict span qualifier name
  | _ => pure .other

/-- The kind of an interface whose elements so far have the given methods.  The first element
that limits the interface to some types decides its kind. -/
def interfaceKind (methods : List (Method DeclaredName)) : List Element → Check TypeKind
  | [] => pure (.interface methods)
  | .method span name params results :: rest => do
      let signature ← declaredSignature source.scope source.importer file params results
      let methods ← addMethods file span methods [⟨name, signature⟩]
      interfaceKind methods rest
  | .types (.mk span [term]) :: rest =>
      if isEmbeddable term then do
        match ← kindOf true term with
        | .interface embedded =>
            let methods ← addMethods file span methods embedded
            interfaceKind methods rest
        | _ => pure .constraint
      else pure .constraint
  | .types _ :: _ => pure .constraint

end

/-! ### Declared types -/

/-- The kind of a declared type.  `pending` holds the names of the types whose kinds are being
determined, and at most `depth` more may be entered. -/
def namedKind (scope : PackageScope) (importer : Importer) :
    Nat → List String → TypeEntry → Bool → Check TypeKind
  | 0, _, entry, _ => entry.file.fail entry.spec.type.span (.recursiveType entry.spec.name)
  | depth + 1, pending, entry, strict =>
      if pending.contains entry.spec.name then
        entry.file.fail entry.spec.type.span (.recursiveType entry.spec.name)
      else
        kindOf ⟨scope, importer, namedKind scope importer depth (entry.spec.name :: pending)⟩
          entry.file strict entry.spec.type

/-- Whether an element of a generic interface limits it to some types. -/
def isLimit : Element → Bool
  | .types (.mk _ [.name _ _]) => false
  | .types (.mk _ [.qualified _ _ _]) => false
  | .types _ => true
  | .method _ _ _ _ => false

/-- The kind of a generic type, whose methods are left out. -/
def genericKind : TypeExpr → TypeKind
  | .interface _ elements => if elements.any isLimit then .constraint else .interface []
  | _ => .other

namespace PackageScope

/-- The declaration of a type. -/
def declaration (scope : PackageScope) (importer : Importer) (entry : TypeEntry) :
    Check Declaration := do
  let kind ←
    if entry.spec.generic then pure (genericKind entry.spec.type)
    else namedKind scope importer scope.types.length [] entry false
  pure ⟨entry.spec.name, entry.spec.generic, kind⟩

/-- The declarations of some types, in order. -/
def declarationsOf (scope : PackageScope) (importer : Importer) :
    List TypeEntry → Check (List Declaration)
  | [] => pure []
  | entry :: rest => do
      let first ← scope.declaration importer entry
      let more ← declarationsOf scope importer rest
      pure (first :: more)

/-- The declarations of all types of the package, in order. -/
def declarations (scope : PackageScope) (importer : Importer) : Check (List Declaration) :=
  scope.declarationsOf importer scope.types

end PackageScope

end WrapperGen
