import WrapperGen.Proofs.PackageFacts
import WrapperGen.Proofs.WrittenSignatures

/-!
# Where methods are written

The methods that a package reports for its interfaces are written somewhere: in the definition of
the interface, or in one that it embeds, be it of another package.

## Main definitions

* `Provides`: a method is written in a type, or in what it embeds.
* `Reported`: a method is the one of errors, or it is read as it is written.
* `CheckedPackage.IsSound`: the methods of a package are reported.

## Main results

* `secures_kindOf`, `secures_namedKind`: the methods in the kind of a type are reported.
* `isSound_of_mem_replies`: those of packages that are replied are.
* `replies_keep_dots`: the parameters of methods are those that are written, exactly if dots stand
  at the last one only.
* `accepts_dots_in_front`: a package in which they do not.
-/

namespace WrapperGen

open Source

/-! ### Where a method is written -/

/-- A method as it is written. -/
structure MethodExpr where
  /-- The name. -/
  name : String
  /-- The parameters and results. -/
  signature : SignatureExpr
  deriving Inhabited

/-- A method is written in a type of a file of a package, or in an interface that this embeds or
goes back to.  Other packages are those that `read` gives for an import path. -/
inductive Provides (read : String → PackageScope → Prop) :
    PackageScope → SourceFile → TypeExpr → MethodExpr → Prop
  /-- In the interface itself. -/
  | method {scope : PackageScope} {file : SourceFile} {span place : Span} {elements : List Element}
      {name : String} {params results : List Param} :
      .method place name params results ∈ elements →
      Provides read scope file (.interface span elements) ⟨name, ⟨params, results⟩⟩
  /-- In an interface that is embedded. -/
  | embedded {scope : PackageScope} {file : SourceFile} {span place : Span}
      {elements : List Element} {term : TypeExpr} {written : MethodExpr} :
      .types (.mk place [term]) ∈ elements → isEmbeddable term = true →
      Provides read scope file term written →
      Provides read scope file (.interface span elements) written
  /-- Between parentheses. -/
  | paren {scope : PackageScope} {file : SourceFile} {span : Span} {inner : TypeExpr}
      {written : MethodExpr} : Provides read scope file inner written →
      Provides read scope file (.paren span inner) written
  /-- In the definition of a type of the package. -/
  | name {scope : PackageScope} {file : SourceFile} {span : Span} {entry : TypeEntry}
      {written : MethodExpr} : entry ∈ scope.types →
      Provides read scope entry.file entry.spec.type written →
      Provides read scope file (.name span entry.spec.name) written
  /-- In the definition of a type of a package that the file imports. -/
  | imported {scope other : PackageScope} {file : SourceFile} {span : Span}
      {qualifier path : String} {entry : TypeEntry} {written : MethodExpr} :
      path ∈ file.scope.paths → read path other → entry ∈ other.types →
      Provides read other entry.file entry.spec.type written →
      Provides read scope file (.qualified span qualifier entry.spec.name) written

section

variable {read : String → PackageScope → Prop} {scope : PackageScope} {file : SourceFile}

/-- A method of a type is the one of errors, or it is written in the type and read as it is. -/
def Reported (read : String → PackageScope → Prop) (scope : PackageScope) (file : SourceFile)
    (e : TypeExpr) (m : Method DeclaredName) : Prop :=
  m ∈ errorMethods
    ∨ ∃ written, Provides read scope file e written ∧ written.name = m.name
      ∧ written.signature.ReadAs m.signature

theorem Reported.imp {other : PackageScope} {otherFile : SourceFile} {e e' : TypeExpr}
    {m : Method DeclaredName} (h : Reported read scope file e m)
    (into : ∀ written, Provides read scope file e written →
      Provides read other otherFile e' written) : Reported read other otherFile e' m :=
  h.imp_right fun ⟨written, provides, rest⟩ => ⟨written, into written provides, rest⟩

/-- All methods of a kind have a property. -/
def TypeKind.HasOnly (good : Method DeclaredName → Prop) : TypeKind → Prop
  | .interface methods => ∀ m ∈ methods, good m
  | _ => True

theorem TypeKind.HasOnly.mono {good better : Method DeclaredName → Prop} {kind : TypeKind}
    (h : kind.HasOnly better) (hg : ∀ m, better m → good m) : kind.HasOnly good := by
  cases kind with
  | interface methods => exact fun m hm => hg m (h m hm)
  | constraint => trivial
  | other => trivial

/-! ### Computations that keep sessions right -/

variable {known : Session → Prop} {α : Type} {good : α → Prop}

/-- What keeps sessions right and comes to good values from any session. -/
theorem Secures.of_comesTo {any : α → Prop} {m : Check α} (h : Secures known any m)
    (comes : ComesTo good m) : Secures known good m := by
  intro s s' hs
  obtain ⟨result, last, last', ran, ran', kept, -⟩ := h s s' hs
  obtain ⟨other, after, _, came, -, -, ends⟩ := comes s s rfl
  obtain ⟨rfl, -⟩ := Prod.mk.inj (ran.symm.trans came)
  exact ⟨result, last, last', ran, ran', kept, ends⟩

/-- What is known of a package that was read under an import path: the methods of its interfaces are
reported. -/
def CheckedPackage.IsSound (read : String → PackageScope → Prop) (path : String)
    (package : CheckedPackage) : Prop :=
  package.importPath = path ∧ ∃ scope, read path scope ∧ ∀ d ∈ package.declarations,
    ∃ entry ∈ scope.types, entry.spec.name = d.name
      ∧ d.kind.HasOnly (Reported read scope entry.file entry.spec.type)

/-- An importer comes to sound packages, and keeps sessions right. -/
structure Importer.IsSecure (importer : Importer) (read : String → PackageScope → Prop)
    (known : Session → Prop) : Prop where
  /-- Packages. -/
  load : ∀ path, Secures known (CheckedPackage.IsSound read path) (importer.load path)
  /-- Their names. -/
  name? : ∀ path, Secures known (fun _ => True) (importer.name? path)

variable {importer : Importer}

theorem Importer.IsSecure.keeps (h : importer.IsSecure read known) :
    importer.Keeps (.ofPackages (CheckedPackage.IsSound read)) known :=
  ⟨h.load, h.name?⟩

theorem Importer.IsSecure.alike (h : importer.IsSecure read known) (file : SourceFile) :
    ImportersAlike (fun s s' => s = s' ∧ known s) (fun _ _ => True) (fun _ => True) importer
      importer file :=
  h.keeps.alike file

theorem Importer.IsSecure.scopeAlike (h : importer.IsSecure read known) (scope : PackageScope) :
    ScopeAlike (fun s s' => s = s' ∧ known s) (fun _ _ => True) (fun _ => True) importer importer
      scope :=
  h.keeps.scopeAlike scope

/-! ### Kinds -/

/-- No method comes in but those that are added. -/
theorem secures_addMethods {property : Method DeclaredName → Prop} (span : Span)
    {methods more : List (Method DeclaredName)} (h : ∀ m ∈ methods, property m)
    (added : ∀ m ∈ more, property m) :
    Secures known (fun grown => ∀ m ∈ grown, property m) (addMethods file span methods more) := by
  induction more generalizing methods with
  | nil => exact AlikeOn.pure h
  | cons m rest ih =>
    unfold addMethods
    cases grown : addMethod? methods m with
    | none => exact secures_fail
    | some more =>
      refine ih (fun other ho => ?_) fun other ho => added other (List.mem_cons_of_mem m ho)
      rcases (mem_addMethod?_iff grown).1 ho with old | rfl
      · exact h other old
      · exact added other List.mem_cons_self

theorem hasOnly_predeclaredKind? {name : String} {kind : TypeKind}
    (h : predeclaredKind? name = some kind) : kind.HasOnly (· ∈ errorMethods) := by
  rcases predeclaredKind?_eq_some h with ⟨-, rfl⟩ | ⟨-, rfl⟩ | rfl | rfl
  · exact fun _ => id
  · exact nofun
  · trivial
  · trivial

/-- A package that is loaded, or left out where that fails, is right. -/
theorem secures_loadOrSkip (h : importer.IsSecure read known) (strict : Bool) (span : Span)
    (path : String) :
    Secures known (fun package? => ∀ package, package? = some package → package.IsSound read path)
      (tryCatch (do
        let package ← importer.load path
        pure (some package)) fun cause =>
          if strict then throw (.importFailed file.shortName span.place path cause)
          else pure none : Check (Option CheckedPackage)) := by
  -- a package that is loaded is sound, and one that is skipped is none
  have held : Secures known
      (fun package? => ∀ package, package? = some package → package.IsSound read path) (do
        let package ← importer.load path
        pure (some package) : Check (Option CheckedPackage)) := by
    refine (h.load path).bind fun package hp => AlikeOn.pure fun other e => ?_
    rw [← Option.some.inj e]
    exact hp
  refine held.tryCatch fun cause _ => ?_
  split
  · exact AlikeOn.throw trivial
  · exact AlikeOn.pure nofun

/-- The methods of a type of another package are reported. -/
theorem secures_qualifiedKind (h : importer.IsSecure read known) (strict : Bool) (span : Span)
    (qualifier name : String) :
    Secures known (TypeKind.HasOnly (Reported read scope file (.qualified span qualifier name)))
      (qualifiedKind importer file strict span qualifier name) := by
  unfold qualifiedKind
  split
  · exact AlikeOn.pure trivial
  · refine (alike_importPath? (h.alike file) qualifier).bind fun path? asked => ?_
    cases path? with
    | none => exact secures_fail
    | some path =>
      refine (secures_loadOrSkip h strict span path).bind fun package? sound => ?_
      cases package? with
      | none => exact AlikeOn.pure trivial
      | some package =>
        dsimp only
        cases found : package.declaration? name with
        | none => exact secures_fail
        -- the declaration of that name has only the methods that its own package has read for it
        | some d =>
          obtain ⟨-, other, reads, declared⟩ := sound package rfl
          obtain ⟨entry, he, same, only⟩ := declared d (List.mem_of_find?_eq_some found)
          have named : d.name = name := by simpa using List.find?_some found
          dsimp only
          split
          · exact AlikeOn.pure trivial
          · refine AlikeOn.pure (only.mono fun m hm => hm.imp fun written provides => ?_)
            rw [← named, ← same]
            exact .imported (asked path rfl) reads he provides

variable {named : TypeEntry → Bool → Check TypeKind}

mutual

/-- The methods in the kind of a type are reported. -/
theorem secures_kindOf (h : importer.IsSecure read known)
    (hn : ∀ entry ∈ scope.types, ∀ strict,
      Secures known (TypeKind.HasOnly (Reported read scope entry.file entry.spec.type))
        (named entry strict)) (strict : Bool) :
    (e : TypeExpr) → Secures known (TypeKind.HasOnly (Reported read scope file e))
      (kindOf ⟨scope, importer, named⟩ file strict e)
  | .interface span elements => by
    unfold kindOf
    exact secures_interfaceKind h hn span elements [] nofun elements fun _ => id
  | .paren _ inner => by
    unfold kindOf
    refine (secures_kindOf h hn strict inner).mono (fun kind only => ?_) fun _ => id
    exact only.mono fun m hm => hm.imp fun _ provides => .paren provides
  | .name span text => by
    unfold kindOf
    dsimp only
    cases found : scope.type? text with
    | some entry =>
      obtain ⟨mem, same⟩ := PackageScope.mem_of_type? found
      dsimp only
      split
      · exact AlikeOn.pure trivial
      · refine (hn entry mem strict).mono (fun kind only => ?_) fun _ => id
        refine only.mono fun m hm => hm.imp fun _ provides => ?_
        rw [← same]
        exact .name mem provides
    | none =>
      dsimp only
      cases predeclared : predeclaredKind? text with
      | none => exact secures_fail
      | some kind =>
        exact AlikeOn.pure ((hasOnly_predeclaredKind? predeclared).mono fun m hm => .inl hm)
  | .qualified span qualifier name => by
    unfold kindOf
    exact secures_qualifiedKind h strict span qualifier name
  | .generic _ _ _ => by unfold kindOf; exact AlikeOn.pure trivial
  | .pointer _ _ => by unfold kindOf; exact AlikeOn.pure trivial
  | .array _ _ _ => by unfold kindOf; exact AlikeOn.pure trivial
  | .slice _ _ => by unfold kindOf; exact AlikeOn.pure trivial
  | .map _ _ _ => by unfold kindOf; exact AlikeOn.pure trivial
  | .channel _ _ _ => by unfold kindOf; exact AlikeOn.pure trivial
  | .function _ _ _ => by unfold kindOf; exact AlikeOn.pure trivial
  | .struct _ _ => by unfold kindOf; exact AlikeOn.pure trivial
  | .approximation _ _ => by unfold kindOf; exact AlikeOn.pure trivial

/-- The methods of an interface are reported, if those so far are. -/
theorem secures_interfaceKind (h : importer.IsSecure read known)
    (hn : ∀ entry ∈ scope.types, ∀ strict,
      Secures known (TypeKind.HasOnly (Reported read scope entry.file entry.spec.type))
        (named entry strict)) (whole : Span) (all : List Element)
    (methods : List (Method DeclaredName))
    (hm : ∀ m ∈ methods, Reported read scope file (.interface whole all) m) :
    (elements : List Element) → elements ⊆ all →
      Secures known (TypeKind.HasOnly (Reported read scope file (.interface whole all)))
        (interfaceKind ⟨scope, importer, named⟩ file methods elements)
  | [] => fun _ => by
    unfold interfaceKind
    exact AlikeOn.pure hm
  | .method span name params results :: rest => fun sub => by
    unfold interfaceKind
    have signature : Secures known (SignatureExpr.ReadAs ⟨params, results⟩)
        (declaredSignature scope importer file params results) :=
      Secures.of_comesTo (alike_declaredSignature (admits_anything scope) (h.scopeAlike scope)
        (h.alike file) params results) (comesTo_declaredSignature params results)
    -- a method that is written is reported with the signature that it is read as
    refine signature.bind fun d read => (secures_addMethods span hm ?_).bind fun grown hg => ?_
    · intro m hm
      rw [List.mem_singleton.1 hm]
      exact .inr ⟨_, .method (sub List.mem_cons_self), rfl, read⟩
    · exact secures_interfaceKind h hn whole all grown hg rest
        (fun _ he => sub (List.mem_cons_of_mem _ he))
  | .types (.mk span [term]) :: rest => fun sub => by
    unfold interfaceKind
    by_cases embeddable : isEmbeddable term = true
    · rw [if_pos embeddable]
      refine (secures_kindOf h hn true term).bind fun kind only => ?_
      cases kind with
      | interface embedded =>
        -- an embedded method is reported for the term, so also for the interface around it
        refine (secures_addMethods span hm fun m he => ?_).bind fun grown hg => ?_
        · exact (only m he).imp fun _ provides =>
            .embedded (sub List.mem_cons_self) embeddable provides
        · exact secures_interfaceKind h hn whole all grown hg rest
            (fun _ he => sub (List.mem_cons_of_mem _ he))
      | constraint => exact AlikeOn.pure trivial
      | other => exact AlikeOn.pure trivial
    · rw [if_neg embeddable]
      exact AlikeOn.pure trivial
  | .types (.mk _ []) :: _ => fun _ => by
    unfold interfaceKind
    exact AlikeOn.pure trivial
  | .types (.mk _ (_ :: _ :: _)) :: _ => fun _ => by
    unfold interfaceKind
    exact AlikeOn.pure trivial

end

/-- The methods of a declared type are reported. -/
theorem secures_namedKind (h : importer.IsSecure read known) (depth : Nat) (pending : List String)
    {entry : TypeEntry} (strict : Bool) :
    Secures known (TypeKind.HasOnly (Reported read scope entry.file entry.spec.type))
      (namedKind scope importer depth pending entry strict) := by
  induction depth generalizing pending entry strict with
  | zero =>
    unfold namedKind
    exact secures_fail
  | succ depth ih =>
    unfold namedKind
    split
    · exact secures_fail
    · exact secures_kindOf h (fun other _ strict => ih _ strict) strict entry.spec.type

theorem secures_declaration (h : importer.IsSecure read known) (entry : TypeEntry) :
    Secures known (fun d => entry.spec.name = d.name
        ∧ d.kind.HasOnly (Reported read scope entry.file entry.spec.type))
      (scope.declaration importer entry) := by
  unfold PackageScope.declaration
  dsimp only
  split
  · refine AlikeOn.pure ⟨rfl, ?_⟩
    -- the methods of generic types are left out
    unfold genericKind
    split
    · split
      · trivial
      · exact nofun
    · trivial
  · exact (secures_namedKind h _ [] false).bind fun kind only => AlikeOn.pure ⟨rfl, only⟩

theorem secures_declarationsOf (h : importer.IsSecure read known) (entries : List TypeEntry) :
    Secures known (fun ds => ∀ d ∈ ds, ∃ entry ∈ entries, entry.spec.name = d.name
        ∧ d.kind.HasOnly (Reported read scope entry.file entry.spec.type))
      (scope.declarationsOf importer entries) := by
  induction entries with
  | nil => exact AlikeOn.pure nofun
  | cons entry rest ih =>
    unfold PackageScope.declarationsOf
    refine (secures_declaration h entry).bind fun d hd => ih.bind fun ds hds => ?_
    refine AlikeOn.pure fun other ho => ?_
    rcases List.mem_cons.1 ho with rfl | ho
    · exact ⟨entry, List.mem_cons_self, hd⟩
    · obtain ⟨found, hf, rest⟩ := hds other ho
      exact ⟨found, List.mem_cons_of_mem entry hf, rest⟩

end

/-! ### Packages -/

/-- All packages that a session holds are sound. -/
def Session.IsSound (read : String → PackageScope → Prop) (s : Session) : Prop :=
  ∀ path package, s.package? path = some package → package.IsSound read path

theorem Session.isSound_empty (read : String → PackageScope → Prop) :
    Session.empty.IsSound read := nofun

namespace Workspace

variable {w : Workspace} {read : String → PackageScope → Prop} {importer : Importer}
  {importPath : String} {dir : Path}

/-- The package in a directory is sound. -/
theorem secures_checkDirectory {known : Session → Prop} (h : importer.IsSecure read known)
    (reads : ∀ files, w.filesIn dir = .ok files →
      read importPath (PackageScope.ofFiles importPath files)) :
    Secures known (CheckedPackage.IsSound read importPath)
      (w.checkDirectory importer dir importPath) := by
  unfold checkDirectory
  refine (AlikeOn.lift fun _ _ => trivial).bind fun files found => ?_
  refine (AlikeOn.lift fun _ _ => trivial).bind fun name _ => ?_
  refine (secures_declarationsOf h _).bind fun ds declared => ?_
  refine (alike_exportedConstants (admits_anything _)).bind fun constants => ?_
  have sound : CheckedPackage.IsSound read importPath ⟨name, importPath, ds, constants⟩ :=
    ⟨rfl, _, reads files found, declared⟩
  exact AlikeOn.pure sound

end Workspace

/-! ### Requests -/

theorem isSound_of_mem_replies {read : String → PackageScope → Prop}
    {requests : List PackageRequest}
    (reads : ∀ r ∈ requests, ∀ path scope, r.Reads path scope → read path scope) {s : Session}
    (sound : s.IsSound read) {package : CheckedPackage} (h : .ok package ∈ replies requests s) :
    package.IsSound read package.importPath := by
  have right : s.Holds (.ofPackages (CheckedPackage.IsSound read)) :=
    ⟨sound, fun _ _ _ => trivial⟩
  refine holds_of_mem_replies (fun r hr => ⟨fun _ _ _ => trivial, ?_⟩) ?_ right h
  · intro importer path dir keeps found _
    exact Workspace.secures_checkDirectory ⟨keeps.load, keeps.name?⟩ fun files ok =>
      reads r hr _ _ (found files ok)
  · exact fun _ _ hp => hp.1

/-- A method that is reported for an interface is the one of errors, or it is written in the
interface or in one that is embedded.  Its parameters are those that are written, dots included,
exactly if dots are written at the last one only; and so it is with each function type in it. -/
theorem replies_keep_dots (requests : List PackageRequest) {package : CheckedPackage}
    (accepted : .ok package ∈ replies requests .empty) {d : Declaration}
    (hd : d ∈ package.declarations) {methods : List (Method DeclaredName)}
    (hk : d.kind = .interface methods) {m : Method DeclaredName} (hm : m ∈ methods) :
    m ∈ errorMethods ∨ ∃ scope entry written, ReadFor requests package.importPath scope
      ∧ entry ∈ scope.types ∧ entry.spec.name = d.name
      ∧ Provides (ReadFor requests) scope entry.file entry.spec.type written
      ∧ written.name = m.name ∧ written.signature.ReadAs m.signature
      ∧ ((∃ ps rs, KeepsDots written.signature m.signature ps rs) ↔ written.signature.DotsLast)
      ∧ ∀ inner : Signature DeclaredName,
        .function inner.params inner.results inner.variadic
          ∈ TypeForm.partsOfAll (m.signature.params ++ m.signature.results) →
        ∃ s ∈ written.signature.inside,
          s.ReadAs inner ∧ ((∃ ps rs, KeepsDots s inner ps rs) ↔ s.DotsLast) := by
  have sound : package.IsSound (ReadFor requests) package.importPath :=
    isSound_of_mem_replies (fun r hr _ _ reads => ⟨r, hr, reads⟩) (Session.isSound_empty _) accepted
  obtain ⟨-, scope, read, declared⟩ := sound
  obtain ⟨entry, he, same, only⟩ := declared d hd
  rw [hk] at only
  -- only the method of `error` is not written anywhere
  rcases only m hm with error | ⟨written, provides, name, readAs⟩
  · exact .inl error
  · refine .inr ⟨scope, entry, written, read, he, same, provides, name, readAs,
      readAs.keepsDots_iff, fun inner mem => ?_⟩
    obtain ⟨s, hs, readToo⟩ := readAs.readFrom mem
    exact ⟨s, hs, readToo, readToo.keepsDots_iff⟩

/-- The package of one interface with one method. -/
def packageOf (m : Method DeclaredName) : CheckedPackage :=
  ⟨"p", "p", [⟨"T", false, .interface [m]⟩], []⟩

/-- A method that takes a format, any number of arguments, and a function of any number of them. -/
def logMethod : Method DeclaredName :=
  let int := .named (.declared "int" none)
  ⟨"Log", ⟨[.named (.declared "string" none), .function [.slice int] [] true, .slice int], [],
    true⟩⟩

/-- The file in which that method is declared. -/
def logText : String :=
  "package p\ntype T interface \x7b\n\tLog(format string, each func(...int), all ...int)\n\x7d\n"

/-- However it is written, only its last parameter can have dots. -/
theorem dotsLast_of_readAs_log {s : SignatureExpr} (h : s.ReadAs logMethod.signature) :
    s.DotsLast := by
  obtain ⟨ps, rs, params, results, e⟩ := h
  obtain ⟨types, none', -⟩ := Signature.mk.inj e
  obtain ⟨first, rest, rfl, string, types⟩ := List.map_eq_cons_iff.1 types.symm
  obtain ⟨second, rest, rfl, function, types⟩ := List.map_eq_cons_iff.1 types
  obtain ⟨third, rest, rfl, -, nothing⟩ := List.map_eq_cons_iff.1 types
  obtain rfl := List.map_eq_nil_iff.1 nothing
  obtain rfl := List.map_eq_nil_iff.1 none'.symm
  refine ⟨params.dots_dropLast_iff.1 fun p hp => ?_, results.dots_iff.1 nofun⟩
  rcases List.mem_cons.1 hp with rfl | hp
  · exact ParamForm.dots_of_whole_ne fun element slice => by cases string.symm.trans slice
  · rw [List.mem_singleton.1 hp]
    exact ParamForm.dots_of_whole_ne fun element slice => by cases function.symm.trans slice

/-- It is reported as it is written there, with all dots; and the type of the function was written
inside of it. -/
theorem replies_keep_dots_log :
    .ok (packageOf logMethod) ∈ replies [requestFor logText] .empty
      ∧ logMethod ∉ errorMethods
      ∧ ∃ scope entry written, ReadFor [requestFor logText] "p" scope
        ∧ entry ∈ scope.types ∧ entry.spec.name = "T"
        ∧ Provides (ReadFor [requestFor logText]) scope entry.file entry.spec.type written
        ∧ written.name = "Log"
        ∧ (∃ ps rs, KeepsDots written.signature logMethod.signature ps rs)
        ∧ ∃ s ∈ written.signature.inside,
          s.ReadAs ⟨[.slice (.named (.declared "int" none))], [], true⟩ := by
  have accepted : .ok (packageOf logMethod) ∈ replies [requestFor logText] .empty := by
    decide +kernel
  have other : logMethod ∉ errorMethods := by decide
  refine ⟨accepted, other, ?_⟩
  rcases replies_keep_dots [requestFor logText] accepted List.mem_cons_self rfl List.mem_cons_self
    with error | ⟨scope, entry, written, read, he, same, provides, name, readAs, kept, inner⟩
  · exact absurd error other
  · obtain ⟨s, hs, readToo, -⟩ := inner ⟨[.slice (.named (.declared "int" none))], [], true⟩
      (by decide)
    exact ⟨scope, entry, written, read, he, same, provides, name,
      kept.2 (dotsLast_of_readAs_log readAs), s, hs, readToo⟩

/-- Dots are accepted at a parameter that is not the last, and then the method is variadic although
its last parameter is no slice. -/
theorem accepts_dots_in_front :
    ¬ ∀ (requests : List PackageRequest) (package : CheckedPackage),
      .ok package ∈ replies requests .empty → ∀ d ∈ package.declarations,
        ∀ methods, d.kind = .interface methods → ∀ m ∈ methods, m.signature.variadic = true →
          ∃ type, m.signature.params.getLast? = some (.slice type) := by
  intro always
  have accepted : .ok (packageOf ⟨"M", ⟨[.slice (.named (.declared "int" none)),
        .named (.declared "string" none)], [], true⟩⟩)
      ∈ replies [requestFor
        "package p\ntype T interface \x7b\n\tM(a ...int, b string)\n\x7d\n"] .empty := by
    decide +kernel
  obtain ⟨type, last⟩ :=
    always _ _ accepted _ List.mem_cons_self _ rfl _ List.mem_cons_self rfl
  cases last

end WrapperGen
