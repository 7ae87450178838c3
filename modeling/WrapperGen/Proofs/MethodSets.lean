import WrapperGen.Proofs.SettledSignatures

/-!
# Method sets of interfaces

The method set of an interface is the closure under embedding: a method belongs to it if it is
written in the interface, or belongs to the method set of a type that is embedded, be that declared
in the same package, in another one, or predeclared.  A check comes to this closure with each name
once, or to no interface at all.

Other packages are those that the session holds when the package has been read.  Each of them has
been read in the same way before; so a package is seen together with the packages that it could
import, and these with those that they could import.

## Main definitions

* `PackageView`: a package as it has been read, with the others.
* `PackageView.HasMethod`, `PackageView.Brings`: the methods of types, and of their elements.
* `TypeKind.IsClosure`: a kind has the methods that belong to it.
* `PackageView.Explains`: a package has the method sets that its files say.

## Main results

* `Workspace.closes_kindOf`, `Workspace.closes_interfaceKind`: types, and elements of interfaces.
* `Workspace.explains_checkDirectory`: a package.
-/

namespace WrapperGen

open Source

/-! ### Views -/

/-- A package as it has been read: the directory of its files, the names that these declare, and the
packages that could be imported, each as it has been read itself. -/
structure PackageView where
  /-- The directory. -/
  dir : Path
  /-- The names that the files declare. -/
  scope : PackageScope
  /-- The package of an import path. -/
  known? : String → Option (CheckedPackage × PackageView)

namespace PackageView

/-- The packages that could be imported. -/
def importer (w : Workspace) (v : PackageView) : Importer :=
  .ofPackages (fun path => (v.known? path).map Prod.fst) w.clause?

mutual

/-- A method belongs to the method set of the interface that a type stands for in a file. -/
inductive HasMethod (w : Workspace) :
    PackageView → SourceFile → TypeExpr → Method DeclaredName → Prop
  /-- An element of the interface brings it. -/
  | interface {v : PackageView} {file : SourceFile} {span : Span} {elements : List Element}
      {e : Element} {m : Method DeclaredName} :
      e ∈ elements → Brings w v file e m → HasMethod w v file (.interface span elements) m
  /-- A type in parentheses has it. -/
  | paren {v : PackageView} {file : SourceFile} {span : Span} {inner : TypeExpr}
      {m : Method DeclaredName} :
      HasMethod w v file inner m → HasMethod w v file (.paren span inner) m
  /-- The definition of a name has it. -/
  | declared {v : PackageView} {file : SourceFile} {span : Span} {text : String}
      {entry : TypeEntry} {m : Method DeclaredName} :
      v.scope.type? text = some entry → entry.spec.generic = false →
      HasMethod w v entry.file entry.spec.type m → HasMethod w v file (.name span text) m
  /-- Errors have it. -/
  | error {v : PackageView} {file : SourceFile} {span : Span} {m : Method DeclaredName} :
      v.scope.type? "error" = none → m ∈ errorMethods →
      HasMethod w v file (.name span "error") m
  /-- The definition of a name of another package has it. -/
  | imported {v other : PackageView} {file : SourceFile} {span : Span}
      {qualifier path name : String} {package : CheckedPackage} {entry : TypeEntry}
      {m : Method DeclaredName} :
      file.scope.isForeign qualifier = false →
      Check.Gives (file.scope.importPath? (v.importer w) qualifier) (some path) →
      v.known? path = some (package, other) →
      other.scope.type? name = some entry → entry.spec.generic = false →
      HasMethod w other entry.file entry.spec.type m →
      HasMethod w v file (.qualified span qualifier name) m

/-- An element of an interface brings a method. -/
inductive Brings (w : Workspace) : PackageView → SourceFile → Element → Method DeclaredName → Prop
  /-- The method is written. -/
  | method {v : PackageView} {file : SourceFile} {span : Span} {name : String}
      {params results : List Param} {signature : Signature DeclaredName} :
      Check.Gives (declaredSignature v.scope (v.importer w) file params results) signature →
      Brings w v file (.method span name params results) ⟨name, signature⟩
  /-- The type that is embedded has it. -/
  | embedded {v : PackageView} {file : SourceFile} {span : Span} {term : TypeExpr}
      {m : Method DeclaredName} :
      HasMethod w v file term m → Brings w v file (.types (.mk span [term])) m

end

section

variable {w : Workspace} {v other : PackageView} {file : SourceFile} {span : Span}
  {m : Method DeclaredName}

/-- The methods of an interface are those that its elements bring. -/
theorem hasMethod_interface_iff {elements : List Element} :
    v.HasMethod w file (.interface span elements) m ↔ ∃ e ∈ elements, v.Brings w file e m := by
  constructor
  · intro has
    cases has with
    | interface he brings => exact ⟨_, he, brings⟩
  · rintro ⟨e, he, brings⟩
    exact .interface he brings

/-- Parentheses change nothing. -/
theorem hasMethod_paren_iff {inner : TypeExpr} :
    v.HasMethod w file (.paren span inner) m ↔ v.HasMethod w file inner m := by
  refine ⟨fun has => ?_, .paren⟩
  cases has with
  | paren inside => exact inside

/-- A name that the package declares has the methods of its definition, whatever it is called: a
package may declare `error` itself. -/
theorem hasMethod_name_iff_of_declared {text : String} {entry : TypeEntry}
    (found : v.scope.type? text = some entry) (plain : entry.spec.generic = false) :
    v.HasMethod w file (.name span text) m ↔ v.HasMethod w entry.file entry.spec.type m := by
  refine ⟨fun has => ?_, .declared found plain⟩
  cases has with
  | declared found' _ inside =>
    rw [found] at found'
    rwa [Option.some.inj found']
  -- a declared name is not the predeclared one
  | error free _ =>
    rw [found] at free
    cases free

/-- Of the names that a package does not declare only `error` has methods. -/
theorem hasMethod_name_iff_of_undeclared {text : String} (free : v.scope.type? text = none) :
    v.HasMethod w file (.name span text) m ↔ text = "error" ∧ m ∈ errorMethods := by
  constructor
  · intro has
    cases has with
    | declared found _ _ =>
      rw [free] at found
      cases found
    | error _ mem => exact ⟨rfl, mem⟩
  · rintro ⟨rfl, mem⟩
    exact .error free mem

/-- A qualified name has the methods of the definition in the other package, as that package was
read.  A qualifier stands for one path, so there is one such package. -/
theorem hasMethod_qualified_iff {qualifier path name : String} {package : CheckedPackage}
    {entry : TypeEntry} (own : file.scope.isForeign qualifier = false)
    (stands : Check.Gives (file.scope.importPath? (v.importer w) qualifier) (some path))
    (known : v.known? path = some (package, other)) (found : other.scope.type? name = some entry)
    (plain : entry.spec.generic = false) :
    v.HasMethod w file (.qualified span qualifier name) m
      ↔ other.HasMethod w entry.file entry.spec.type m := by
  refine ⟨fun has => ?_, .imported own stands known found plain⟩
  cases has with
  -- the qualifier stands for one path, so it is the same package and the same definition
  | imported _ stands' known' found' _ inside =>
    rw [← Option.some.inj (stands.unique stands'), known] at known'
    obtain ⟨-, rfl⟩ := Prod.mk.inj (Option.some.inj known')
    rw [found] at found'
    rwa [Option.some.inj found']

/-- A method that is written brings itself, with the one signature that it has. -/
theorem brings_method_iff {name : String} {params results : List Param}
    {signature : Signature DeclaredName}
    (gives : Check.Gives (declaredSignature v.scope (v.importer w) file params results) signature) :
    v.Brings w file (.method span name params results) m ↔ m = ⟨name, signature⟩ := by
  constructor
  · intro brings
    cases brings with
    | method gives' => rw [gives.unique gives']
  · rintro rfl
    exact .method gives

/-- What is embedded brings all its methods. -/
theorem brings_embedded_iff {term : TypeExpr} :
    v.Brings w file (.types (.mk span [term])) m ↔ v.HasMethod w file term m := by
  refine ⟨fun brings => ?_, .embedded⟩
  cases brings with
  | embedded has => exact has

end

end PackageView

/-- If the kind is an interface, then its methods are those that belong to it, and each name is
there once.  Of the other kinds nothing is asked: a constraint is no interface that could have a
wrapper. -/
def TypeKind.IsClosure (belongs : Method DeclaredName → Prop) : TypeKind → Prop
  | .interface methods => (methods.map (·.name)).Nodup ∧ ∀ m, m ∈ methods ↔ belongs m
  | _ => True

theorem TypeKind.IsClosure.congr {belongs belongs' : Method DeclaredName → Prop} {kind : TypeKind}
    (h : kind.IsClosure belongs) (same : ∀ m, belongs m ↔ belongs' m) :
    kind.IsClosure belongs' := by
  cases kind with
  | interface methods => exact ⟨h.1, fun m => (h.2 m).trans (same m)⟩
  | _ => trivial

namespace PackageView

/-- The types of a package have the method sets that their definitions have.  Generic types are left
out, as a method set belongs to a type with its arguments. -/
structure Explains (w : Workspace) (v : PackageView) (package : CheckedPackage) : Prop where
  /-- The types are those that the files declare. -/
  names : package.declarations.map (·.name) = v.scope.types.map (·.spec.name)
  /-- Each has its method set. -/
  closed : ∀ d ∈ package.declarations, d.generic = false →
    ∃ entry, v.scope.type? d.name = some entry ∧ entry.spec.generic = false
      ∧ d.kind.IsClosure (v.HasMethod w entry.file entry.spec.type)

/-- The packages that could be imported are those that a session holds, and they have the method
sets that their definitions have. -/
structure Sees (w : Workspace) (v : PackageView) (t : Session) : Prop where
  /-- The packages. -/
  held : ∀ path, (v.known? path).map Prod.fst = t.package? path
  /-- Their method sets. -/
  explained : ∀ path package other, v.known? path = some (package, other) →
    other.Explains w package

theorem Sees.importer_eq {w : Workspace} {v : PackageView} {t : Session} (h : v.Sees w t) :
    v.importer w = w.held t := by
  unfold importer Workspace.held
  rw [funext h.held]

theorem Sees.exists_of_package? {w : Workspace} {v : PackageView} {t : Session} (h : v.Sees w t)
    {path : String} {package : CheckedPackage} (there : t.package? path = some package) :
    ∃ other, v.known? path = some (package, other) ∧ other.Explains w package := by
  rw [← h.held path] at there
  obtain ⟨⟨_, other⟩, known, rfl⟩ := Option.map_eq_some_iff.1 there
  exact ⟨other, known, h.explained path _ other known⟩

end PackageView

namespace Workspace

variable {w : Workspace} {fact : String → CheckedPackage → Prop} {importer : Importer}
  {scope : PackageScope} {file : SourceFile}

/-! ### Method sets -/

/-- All methods that are added are there, and no others.  One that is known already is not added
again, and one that differs from a known one of its name ends the check. -/
theorem lasts_addMethods (span : Span) (methods more : List (Method DeclaredName)) :
    w.Lasts fact (addMethods file span methods more) fun _ all =>
      ((methods.map (·.name)).Nodup → (all.map (·.name)).Nodup)
        ∧ ∀ m, m ∈ all ↔ m ∈ methods ∨ m ∈ more := by
  -- each step adds one method, whose name is new or known with the same signature
  induction more generalizing methods with
  | nil => exact Lasts.pure fun _ _ => ⟨id, fun m => by simp⟩
  | cons first rest ih =>
    unfold addMethods
    cases grown : addMethod? methods first with
    | none => exact Lasts.fail
    | some between =>
      refine (ih between).mono ?_
      rintro _ all _ ⟨nodup, mem⟩
      refine ⟨fun distinct => ?_, fun m => ?_⟩
      · exact nodup (nodup_addMethod? distinct grown)
      · rw [mem m, mem_addMethod?_iff grown, List.mem_cons, or_assoc]

/-- The kind that comes out is the closure of what a type stands for.  The view is any that sees
what the session holds in the end; sessions only grow, so what a part of the check has found stays
true while the others run. -/
abbrev Closes (w : Workspace) (fact : String → CheckedPackage → Prop) (scope : PackageScope)
    (file : SourceFile) (e : TypeExpr) (m : Check TypeKind) : Prop :=
  w.Lasts fact m fun t kind => ∀ v : PackageView, v.scope = scope → v.Sees w t →
    kind.IsClosure (v.HasMethod w file e)

theorem closes_other {e : TypeExpr} : w.Closes fact scope file e (pure .other) :=
  Lasts.pure fun _ _ _ _ _ => trivial

/-- The predeclared types: `error` has its one method, `any` has none, and the others are no
interfaces. -/
theorem isClosure_predeclaredKind? {v : PackageView} {span : Span} {name : String} {kind : TypeKind}
    (free : v.scope.type? name = none) (h : predeclaredKind? name = some kind) :
    kind.IsClosure (v.HasMethod w file (.name span name)) := by
  rcases predeclaredKind?_eq_some h with ⟨error, rfl⟩ | ⟨error, rfl⟩ | rfl | rfl
  · refine ⟨by decide, fun m => ?_⟩
    rw [PackageView.hasMethod_name_iff_of_undeclared free]
    exact ⟨fun mem => ⟨error, mem⟩, And.right⟩
  · refine ⟨List.nodup_nil, fun m => ?_⟩
    rw [PackageView.hasMethod_name_iff_of_undeclared free]
    exact ⟨nofun, fun both => absurd both.1 error⟩
  · trivial
  · trivial

/-- A package that is loaded, or left out where that fails, is held from then on. -/
theorem lasts_loadOrSkip (h : w.Reaches fact importer) (strict : Bool) (span : Span)
    (path : String) :
    w.Lasts fact
      (tryCatch (do
        let package ← importer.load path
        pure (some package)) fun cause =>
          if strict then throw (.importFailed file.shortName span.place path cause)
          else pure none : Check (Option CheckedPackage))
      fun t package? => ∀ package, package? = some package → t.package? path = some package := by
  refine Lasts.tryCatch ?_ fun cause => ?_
  · refine Lasts.andThen (h.load path) fun package => Lasts.pure fun t _ gives other e => ?_
    rw [← Option.some.inj e]
    exact gives_load_iff.1 gives
  -- where the import fails there is no package, so that nothing has to be held
  · split
    · exact Lasts.throw
    · exact Lasts.pure fun _ _ => nofun

/-- A type of another package.  That package is in the session when it has been loaded, and what is
known of it there is that it has the method sets of its own definitions. -/
theorem closes_qualifiedKind (h : w.Reaches fact importer) (strict : Bool) (span : Span)
    (qualifier name : String) :
    w.Closes fact scope file (.qualified span qualifier name)
      (qualifiedKind importer file strict span qualifier name) := by
  unfold qualifiedKind
  split
  · exact closes_other
  -- the steps of the lookup: the path of the qualifier, its package, and the type in that
  · rename_i own
    refine Lasts.andThen (settles_importPath? h file.scope qualifier) fun path? => ?_
    cases path? with
    | none => exact Lasts.fail
    | some path =>
      refine Lasts.andThen (lasts_loadOrSkip h strict span path) fun package? => ?_
      cases package? with
      | none => exact Lasts.pure fun _ _ _ _ _ _ _ => trivial
      | some package =>
        dsimp only
        cases found : package.declaration? name with
        | none => exact Lasts.fail
        | some d =>
          refine Lasts.pure fun t _ loaded stands v same sees => ?_
          -- the package has been read before, so its declaration is explained by its own view
          have named : d.name = name := by simpa using List.find?_some found
          obtain ⟨other, known, explains⟩ := sees.exists_of_package? (loaded package rfl)
          split
          · trivial
          · rename_i plain
            obtain ⟨entry, declared, plainly, closed⟩ :=
              explains.closed d (List.mem_of_find?_eq_some found) (Bool.eq_false_iff.2 plain)
            rw [named] at declared
            rw [← sees.importer_eq] at stands
            exact closed.congr fun m => (PackageView.hasMethod_qualified_iff
              (Bool.eq_false_iff.2 own) stands known declared plainly).symm

/-- The methods of the first element are added to those so far, and then those of the others. -/
theorem mem_or_brings_cons {v : PackageView} {first : Element} {rest : List Element}
    {methods more all : List (Method DeclaredName)}
    (added : ∀ m, m ∈ all ↔ m ∈ methods ∨ m ∈ more)
    (brought : ∀ m, v.Brings w file first m ↔ m ∈ more) (m : Method DeclaredName) :
    (m ∈ all ∨ ∃ e ∈ rest, v.Brings w file e m)
      ↔ m ∈ methods ∨ ∃ e ∈ first :: rest, v.Brings w file e m := by
  rw [added m, or_assoc, ← brought m]
  simp only [List.mem_cons, exists_eq_or_imp]

variable {named : TypeEntry → Bool → Check TypeKind}

mutual

/-- A type.  The induction is on the expression, together with that on the elements of an interface;
for a name it is assumed that its definition is closed, and `closes_namedKind` shows that by the
depth. -/
theorem closes_kindOf (h : w.Reaches fact importer)
    (hn : ∀ entry strict, w.Closes fact scope entry.file entry.spec.type (named entry strict))
    (strict : Bool) :
    (e : TypeExpr) → w.Closes fact scope file e (kindOf ⟨scope, importer, named⟩ file strict e)
  | .interface span elements => by
    unfold kindOf
    -- an interface is the closure of its elements, with no methods before the first one
    refine (closes_interfaceKind h hn [] elements).mono fun _ kind _ closed v same sees => ?_
    refine (closed v same sees List.nodup_nil).congr fun m => ?_
    rw [PackageView.hasMethod_interface_iff]
    simp only [List.not_mem_nil, false_or]
  | .paren _ inner => by
    unfold kindOf
    refine (closes_kindOf h hn strict inner).mono fun _ kind _ closed v same sees => ?_
    exact (closed v same sees).congr fun m => PackageView.hasMethod_paren_iff.symm
  | .name span text => by
    unfold kindOf
    dsimp only
    cases found : scope.type? text with
    -- the definition is in the package itself, perhaps in another file
    | some entry =>
      dsimp only
      split
      · exact closes_other
      · rename_i plain
        refine (hn entry strict).mono fun _ kind _ closed v same sees => ?_
        rw [← same] at found
        exact (closed v same sees).congr fun m =>
          (PackageView.hasMethod_name_iff_of_declared found (Bool.eq_false_iff.2 plain)).symm
    | none =>
      dsimp only
      cases predeclared : predeclaredKind? text with
      | none => exact Lasts.fail
      | some kind =>
        -- a predeclared name counts as such only as the package does not declare it
        refine Lasts.pure fun _ _ v same _ => isClosure_predeclaredKind? ?_ predeclared
        rw [same]
        exact found
  | .qualified span qualifier name => by
    unfold kindOf
    exact closes_qualifiedKind h strict span qualifier name
  | .generic _ _ _ => by unfold kindOf; exact closes_other
  | .pointer _ _ => by unfold kindOf; exact closes_other
  | .array _ _ _ => by unfold kindOf; exact closes_other
  | .slice _ _ => by unfold kindOf; exact closes_other
  | .map _ _ _ => by unfold kindOf; exact closes_other
  | .channel _ _ _ => by unfold kindOf; exact closes_other
  | .function _ _ _ => by unfold kindOf; exact closes_other
  | .struct _ _ => by unfold kindOf; exact closes_other
  | .approximation _ _ => by unfold kindOf; exact closes_other

/-- The elements of an interface.  Those that have been passed have left their methods, so the kind
is the closure of these methods and of what the other elements bring. -/
theorem closes_interfaceKind (h : w.Reaches fact importer)
    (hn : ∀ entry strict, w.Closes fact scope entry.file entry.spec.type (named entry strict))
    (methods : List (Method DeclaredName)) :
    (elements : List Element) →
      w.Lasts fact (interfaceKind ⟨scope, importer, named⟩ file methods elements) fun t kind =>
        ∀ v : PackageView, v.scope = scope → v.Sees w t → (methods.map (·.name)).Nodup →
          kind.IsClosure fun m => m ∈ methods ∨ ∃ e ∈ elements, v.Brings w file e m
  -- the methods so far are the whole closure once no element is left
  | [] => by
    unfold interfaceKind
    refine Lasts.pure fun _ _ v _ _ distinct => ⟨distinct, fun m => ⟨.inl, ?_⟩⟩
    rintro (mem | ⟨e, never, -⟩)
    · exact mem
    · cases never
  | .method span name params results :: rest => by
    unfold interfaceKind
    refine Lasts.andThen (settles_declaredSignature h params results) fun signature =>
      Lasts.andThen (lasts_addMethods span methods [⟨name, signature⟩]) fun all =>
        (closes_interfaceKind h hn all rest).mono ?_
    intro t kind _ closed added gives v same sees distinct
    -- the signature depends on what the session holds, and that is what the view knows
    have brought : ∀ m, v.Brings w file (.method span name params results) m
        ↔ m ∈ [⟨name, signature⟩] := by
      intro m
      rw [List.mem_singleton]
      refine PackageView.brings_method_iff ?_
      rw [same, sees.importer_eq]
      exact gives
    exact (closed v same sees (added.1 distinct)).congr (mem_or_brings_cons added.2 brought)
  | .types (.mk span [term]) :: rest => by
    unfold interfaceKind
    by_cases embeddable : isEmbeddable term = true
    · rw [if_pos embeddable]
      refine Lasts.andThen (closes_kindOf h hn true term) fun kind => ?_
      cases kind with
      | interface embedded =>
        refine Lasts.andThen (lasts_addMethods span methods embedded) fun all =>
          (closes_interfaceKind h hn all rest).mono ?_
        intro t kind _ closed added inside v same sees distinct
        -- the induction on the type gives what the embedded interface has
        have brought : ∀ m, v.Brings w file (.types (.mk span [term])) m ↔ m ∈ embedded :=
          fun m => PackageView.brings_embedded_iff.trans ((inside v same sees).2 m).symm
        exact (closed v same sees (added.1 distinct)).congr (mem_or_brings_cons added.2 brought)
      | _ => exact Lasts.pure fun _ _ _ _ _ _ _ => trivial
    · rw [if_neg embeddable]
      exact Lasts.pure fun _ _ _ _ _ _ => trivial
  | .types (.mk span []) :: rest => by
    unfold interfaceKind
    exact Lasts.pure fun _ _ _ _ _ _ => trivial
  | .types (.mk span (_ :: _ :: _)) :: rest => by
    unfold interfaceKind
    exact Lasts.pure fun _ _ _ _ _ _ => trivial

end

/-! ### Packages -/

end Workspace

end WrapperGen
