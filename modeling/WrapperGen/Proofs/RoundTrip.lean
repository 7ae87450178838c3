import WrapperGen.Proofs.TypeRendering
import WrapperGen.Proofs.TypeText

/-!
# Writing a type and reading it again

A type that is written to a file and read from there again, in a file with the same imports, comes
back as it was, with two exceptions.  The arrow of a channel to send two-way channels into is read
as the arrow of its element.  And if foreign code is imported while another package has its name
as an alias, the names of that package are read as names of foreign code.

## Main definitions

* `typeOfText?`: the type expression that a text consists of.
* `Mirrors`: a file has the packages of an import table under their aliases.
* `rereadName`: what a name stands for when it is read again.

## Main results

* `typeOfText?_typeText`: what is read from the text of a type.
* `declaredType_typeText_iff`: the types that come back as they were.
-/

namespace WrapperGen

open Source Reading

/-- The type expression that a text consists of, if it is one. -/
def typeOfText? (text : String) : Option TypeExpr :=
  match (grammarFor (tokens text.toList)).type false (tokens text.toList) with
  | some (e, []) => some e
  | _ => none

/-- A file has the packages of an import table under their aliases, and foreign code if that is
imported. -/
structure Mirrors (table : ImportTable) (s : FileScope) : Prop where
  /-- Each alias stands for its package. -/
  names : ∀ path name, path ≠ foreignPath → table.alias? path = some name →
    s.names.lookup name = some path
  /-- Foreign code can be named exactly if it is imported. -/
  foreign : s.foreign = (table.alias? foreignPath).isSome

/-- What a name stands for when it is read again in a file with the given imports. -/
def rereadName (table : ImportTable) : DeclaredName → DeclaredName
  | .declared name (some path) =>
      if (table.alias? foreignPath).isSome && table.alias? path == some foreignQualifier then
        .foreign name
      else .declared name (some path)
  | name => name

variable {own : String} {scope : PackageScope} {importer : Importer} {file : SourceFile}
  {table : ImportTable}

theorem isFreeName_of_isPredeclared {name : String} (h : isPredeclared name = true) :
    isFreeName name = true := by
  have all : ∀ name ∈ predeclaredTypes, isFreeName name = true := by decide
  exact all name (List.contains_iff_mem.1 h)

/-- A name that was written in a file with the given imports is read as one that is plain. -/
theorem nameDenotes_writtenName {name : DeclaredName} (hw : name.Writable own)
    (hk : name.Known table) (ha : ∀ path qualifier, table.alias? path = some qualifier →
      isFreeName qualifier = true) (hm : Mirrors table file.scope)
    (hs : ∀ name, isPredeclared name = true → scope.type? name = none) :
    (writtenName table name).isPlain = true
      ∧ NameDenotes scope importer file (rereadName table name) (writtenName table name) := by
  cases name with
  | declared name package? =>
      cases package? with
      | none =>
          refine ⟨isFreeName_of_isPredeclared hw, fun span => ?_⟩
          have predeclared : isPredeclared name = true := hw
          rw [bareName, hs name predeclared, predeclared]
          rfl
      | some path =>
          obtain ⟨free, -, hp, -⟩ := hw
          obtain ⟨qualifier, hq⟩ := Option.isSome_iff_exists.1 hk
          have written :
              writtenName table (.declared name (some path)) = .behind qualifier name := by
            rw [writtenName, hq]
            rfl
          rw [written]
          refine ⟨(Bool.and_eq_true _ _).mpr ⟨ha path qualifier hq, free⟩, fun span => ?_⟩
          -- the qualifier is that of foreign code only if the package has this alias
          have known := hm.names path qualifier hp hq
          rw [qualifiedTypeName, FileScope.isForeign, hm.foreign, rereadName, hq,
            FileScope.importPath?, known]
          show _ = pure
            (TypeForm.named (if (_ && qualifier == foreignQualifier) = true then _ else _))
          split
          · rfl
          · rfl
  | foreign name =>
      have free : isFreeName name = true := hw
      have imported : file.scope.foreign = true := hm.foreign.trans hk
      refine ⟨?_, fun span => ?_⟩
      · show (isFreeName foreignQualifier && isFreeName name) = true
        rw [free]
        decide
      · rw [qualifiedTypeName, FileScope.isForeign, imported]
        rfl

/-- The whole text of a type is read as one type expression. -/
theorem typeOfText?_of_reads {t : DeclaredType} {spell : DeclaredName → NameForm}
    {means : DeclaredName → DeclaredName} {text : String}
    (h : Readable scope importer file spell means t)
    (ht : text.toList = textOf (t.mapNames spell).pieces) :
    ∃ e, typeOfText? text = some e ∧ Denotes scope importer file (reread means t) e := by
  -- all names are plain, so no piece runs into the next, the tokens are those of the pieces, and a
  -- grammar as deep as there are tokens reads them to the end
  have plain : (t.mapNames spell).Plain := by
    intro form hm
    rw [TypeForm.parts_mapNames, List.mem_map] at hm
    obtain ⟨p, hp, e⟩ := hm
    cases p <;> cases e
    exact (h _ hp).1
  have spaced : Spaced (t.mapNames spell).pieces := by
    have := TypeForm.fits_pieces _ plain [] endsType_nil
    rwa [List.append_nil] at this
  have spelled : Spelled (typeMarks spell t) (tokens text.toList) := by
    rw [ht]
    exact spelled_tokens spaced
  have length := List.Forall₂.length_eq spelled
  have closing : Closing [] := fun _ e => by cases e
  have deep := (readsBack h ((tokens text.toList).length + 1) ((tokens text.toList).length + 1)
    false (by omega) (by omega)).1
  obtain ⟨e, he, denotes⟩ := deep (tokens text.toList) [] spelled closing
  rw [List.append_nil] at he
  refine ⟨e, ?_, denotes⟩
  rw [typeOfText?, grammarFor, he]

/-- What is read from the text of a type: the type with its arrows regrouped, and with the names of
a package under the alias of foreign code taken for names of that. -/
theorem typeOfText?_typeText (importer : Importer) {t : DeclaredType} (ht : Writable own t)
    (before : ImportTable)
    (ha : ∀ path qualifier,
      ((typeText own (t.seenFrom own)).run before).2.alias? path = some qualifier →
        isFreeName qualifier = true)
    (hm : Mirrors ((typeText own (t.seenFrom own)).run before).2 file.scope)
    (hs : ∀ name, isPredeclared name = true → scope.type? name = none) :
    ∃ e, typeOfText? ((typeText own (t.seenFrom own)).run before).1 = some e
      ∧ declaredType scope importer file e
        = pure (reread (rereadName ((typeText own (t.seenFrom own)).run before).2) t) := by
  obtain ⟨-, written⟩ := writes_typeText t ht before
  obtain ⟨text, known⟩ := written _ (ImportTable.Extends.refl _)
  refine typeOfText?_of_reads (fun p hp => ?_) text
  cases p with
  | named name => exact nameDenotes_writtenName (ht _ hp) (known name hp) ha hm hs
  | function params results variadic =>
      intro dots
      obtain ⟨last, hl, slice⟩ := (Option.any_eq_true _ _).1 (ht _ hp dots)
      obtain ⟨element, rfl⟩ := TypeForm.exists_slice_of_isSlice slice
      exact ⟨element, hl⟩
  | applied base arguments =>
      obtain ⟨named, some'⟩ := ht _ hp
      exact ⟨TypeForm.exists_named_of_isNamed named, List.isEmpty_eq_false_iff.1 some'⟩
  | _ => trivial

theorem rereadName_eq_iff {name : DeclaredName} :
    rereadName table name = name ↔ ∀ text path, name = .declared text (some path) →
      table.alias? path = some foreignQualifier → table.alias? foreignPath = none := by
  cases name with
  | foreign text => exact ⟨fun _ _ _ e => (by cases e), fun _ => rfl⟩
  | declared text package? =>
      cases package? with
      | none => exact ⟨fun _ _ _ e => (by cases e), fun _ => rfl⟩
      | some path =>
          rw [rereadName]
          split
          · rename_i taken
            rw [Bool.and_eq_true, beq_iff_eq, Option.isSome_iff_ne_none] at taken
            constructor
            · intro e
              cases e
            · intro h
              exact absurd (h text path rfl taken.2) taken.1
          · rename_i free
            refine ⟨fun _ other otherPath e taken => ?_, fun _ => rfl⟩
            cases e
            rw [Bool.and_eq_true, beq_iff_eq, Option.isSome_iff_ne_none, not_and_or] at free
            rcases free with free | free
            · exact not_not.1 free
            · exact absurd taken free

/-- A type that is written and read again comes back as it was, exactly if no part of it is a
channel to send two-way channels into, and foreign code is not imported beside a package of the
type that has its name as an alias. -/
theorem declaredType_typeText_iff (own : String) (t : DeclaredType) (before : ImportTable)
    (scope : PackageScope) (importer : Importer) (file : SourceFile) (ht : Writable own t)
    (ha : ∀ path qualifier,
      ((typeText own (t.seenFrom own)).run before).2.alias? path = some qualifier →
        isFreeName qualifier = true)
    (hm : Mirrors ((typeText own (t.seenFrom own)).run before).2 file.scope)
    (hs : ∀ name, isPredeclared name = true → scope.type? name = none) :
    ∃ e u, typeOfText? ((typeText own (t.seenFrom own)).run before).1 = some e
      ∧ declaredType scope importer file e = pure u
      ∧ (u = t ↔ (∀ p ∈ t.parts, p.sendsTwoWay = false)
        ∧ ∀ name path, .named (.declared name (some path)) ∈ t.parts →
          ((typeText own (t.seenFrom own)).run before).2.alias? path = some foreignQualifier →
            ((typeText own (t.seenFrom own)).run before).2.alias? foreignPath = none) := by
  obtain ⟨e, he, denotes⟩ := typeOfText?_typeText importer ht before ha hm hs
  refine ⟨e, _, he, denotes, (TypeForm.regroup_mapNames_eq_iff _ t).trans ?_⟩
  constructor
  · intro settled
    refine ⟨fun p hp => (settled p hp).1, fun name path hp => ?_⟩
    exact rereadName_eq_iff.1 ((settled _ hp).2 _ rfl) name path rfl
  · rintro ⟨arrows, names⟩ p hp
    refine ⟨arrows p hp, ?_⟩
    rintro name rfl
    refine rereadName_eq_iff.2 fun text path e => ?_
    subst e
    exact names text path hp

/-! ### Two types -/

/-- The predeclared type of integers. -/
def intType : DeclaredType := .named (.declared "int" none)

/-- A variadic function of a map and some channels, with a function as its result. -/
def sampleType : DeclaredType :=
  .function
    [.map intType (.applied (.named (.declared "List" (some "example.com/p"))) [.array 3 intType]),
      .slice (.channel .both (.channel .receive intType))]
    [.function [] [.channel .send (.channel .receive intType), intType] false] true

/-- A channel to send two-way channels into. -/
def senderType : DeclaredType := .channel .send (.channel .both intType)

/-- Imports that name one package. -/
def sampleImports : ImportTable := ⟨[("example.com/p", "p")]⟩

/-- A file with one import. -/
def sampleFile : SourceFile :=
  ⟨⟨"/src/q/q.go"⟩, [], default, ⟨[("p", "example.com/p")], [], false, false⟩⟩

/-- A package without declarations. -/
def sampleScope : PackageScope := ⟨"example.com/q", [], []⟩

/-- Other packages cannot be loaded. -/
def noImporter : Importer := ⟨fun path => throw (.importCycle path), fun _ => pure none⟩

theorem alias?_sampleImports {path qualifier : String}
    (h : sampleImports.alias? path = some qualifier) :
    path = "example.com/p" ∧ qualifier = "p" := by
  rw [ImportTable.alias?, sampleImports, List.lookup_cons] at h
  split at h
  · rename_i same
    exact ⟨beq_iff_eq.1 same, (Option.some.inj h).symm⟩
  · cases h

theorem mirrors_sampleImports : Mirrors sampleImports sampleFile.scope := by
  refine ⟨fun path name _ h => ?_, rfl⟩
  obtain ⟨rfl, rfl⟩ := alias?_sampleImports h
  rfl

theorem isFreeName_of_sampleImports {path qualifier : String}
    (h : sampleImports.alias? path = some qualifier) : isFreeName qualifier = true := by
  rw [(alias?_sampleImports h).2]
  decide

/-- Writing the sample needs no further imports. -/
theorem imports_sampleType :
    ((typeText "example.com/p" (DeclaredType.seenFrom "example.com/p" sampleType)).run
      sampleImports).2 = sampleImports := by
  have bare : isPredeclared "List" = false := by decide
  have predeclared : isPredeclared "int" = true := by decide
  have known : @StateT.run ImportTable Id String (ImportTable.add "example.com/p") sampleImports
      = pure ("p", sampleImports) := rfl
  simp [sampleType, intType, DeclaredType.seenFrom, TypeForm.mapNames, TypeForm.mapNamesAll,
    DeclaredName.seenFrom, typeText, paramTexts, lastParamText, typeTexts, nameText, qualify, bare,
    predeclared, known]
  rfl

/-- The sample comes back as it was. -/
theorem sampleType_roundTrip :
    ∃ e, typeOfText? ((typeText "example.com/p"
        (DeclaredType.seenFrom "example.com/p" sampleType)).run sampleImports).1 = some e
      ∧ declaredType sampleScope noImporter sampleFile e = pure sampleType := by
  have imports := imports_sampleType
  obtain ⟨e, u, he, denotes, same⟩ := declaredType_typeText_iff "example.com/p" sampleType
    sampleImports sampleScope noImporter sampleFile (by decide)
    (fun path qualifier h => isFreeName_of_sampleImports (imports ▸ h))
    (imports.symm ▸ mirrors_sampleImports) (fun name _ => rfl)
  refine ⟨e, he, denotes.trans (congrArg pure (same.2 ⟨by decide, ?_⟩))⟩
  intro name path _ taken
  rw [imports] at taken
  exact absurd (alias?_sampleImports taken).2 (by decide)

/-- A channel to send two-way channels into is written as `chan<- chan int`, which is read as a
two-way channel of channels to receive from. -/
theorem senderType_not_reread :
    Writable "example.com/p" senderType
      ∧ Mirrors ((typeText "example.com/p" (DeclaredType.seenFrom "example.com/p" senderType)).run
        sampleImports).2 sampleFile.scope
      ∧ ¬ ∃ e, typeOfText? ((typeText "example.com/p"
          (DeclaredType.seenFrom "example.com/p" senderType)).run sampleImports).1 = some e
        ∧ declaredType sampleScope noImporter sampleFile e = pure senderType := by
  have imports : ((typeText "example.com/p" (DeclaredType.seenFrom "example.com/p" senderType)).run
      sampleImports).2 = sampleImports := by
    have predeclared : isPredeclared "int" = true := by decide
    simp [senderType, intType, DeclaredType.seenFrom, TypeForm.mapNames, DeclaredName.seenFrom,
      typeText, nameText, predeclared]
    rfl
  have writable : Writable "example.com/p" senderType := by decide
  refine ⟨writable, imports.symm ▸ mirrors_sampleImports, ?_⟩
  rintro ⟨e, he, denotes⟩
  have noTypes : ∀ name, isPredeclared name = true → sampleScope.type? name = none :=
    fun name _ => rfl
  obtain ⟨other, ho, reread⟩ := typeOfText?_typeText noImporter writable sampleImports
    (fun path qualifier h => isFreeName_of_sampleImports (imports ▸ h))
    (imports.symm ▸ mirrors_sampleImports) noTypes
  obtain rfl : e = other := Option.some.inj (he.symm.trans ho)
  have same := congrArg (fun m => (m.run Session.empty).1) (denotes.symm.trans reread)
  cases Except.ok.inj same

end WrapperGen
