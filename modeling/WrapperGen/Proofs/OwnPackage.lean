import WrapperGen.Extraction
import WrapperGen.Proofs.ExactImports

/-!
# Wrappers of a package in the file of another

The interfaces of a package name its own types bare, and a wrapper gives these names the alias of
the package back, unless the file belongs to that package.  So the names in a wrapper can be told
from those in the declaration of the interface, with nothing in between.

## Main definitions

* `DeclaredName.formIn`: how a declared name is written in a file.
* `Method.Occurs`: the names in a method.
* `NeedsImport`: the packages whose names are written behind an alias.

## Main results

* `form_seenFrom`: the names in a wrapper, from the names as they are declared.
* `exists_declaration_of_mem`: the declaration of an interface.
* `ofWrappers_ownPackage`: the wrapper of an interface, from its declaration.
-/

namespace WrapperGen

/-! ### Names -/

/-- How a name is written in a file of package `output` for an interface of package `own`: behind
the alias of its package.  Bare are the names of the package of the file, and those of `own` that
are predeclared. -/
def DeclaredName.formIn (own output : String) (final : ImportTable) : DeclaredName → NameForm
  | .declared name package? =>
      let path := package?.getD own
      if path = "" ∨ (path = own ∧ (own = output ∨ isPredeclared name = true)) then .bare name
      else .behind ((final.alias? path).getD "") name
  | .foreign name => .behind foreignQualifier name

/-- A method of an interface of package `own`, and its signature as it is written in a file of
package `output`. -/
def Method.spelledIn (own output : String) (final : ImportTable) (m : Method DeclaredName) :
    Method WrittenName × Signature NameForm :=
  (m.seenFrom own, m.signature.mapNames (DeclaredName.formIn own output final))

theorem importPath_elideFrom (output : String) (i : Interface) :
    (i.elideFrom output).importPath = if i.importPath = output then "" else i.importPath := by
  rw [Interface.elideFrom]
  split <;> rfl

@[simp] theorem name_elideFrom (output : String) (i : Interface) :
    (i.elideFrom output).name = i.name := by
  rw [Interface.elideFrom]
  split <;> rfl

@[simp] theorem methods_elideFrom (output : String) (i : Interface) :
    (i.elideFrom output).methods = i.methods := by
  rw [Interface.elideFrom]
  split <;> rfl

/-- The path of the interface is empty in a file of its own package, and otherwise that package. -/
theorem home_isEmpty_iff {own output home : String}
    (h : home = if own = output then "" else own) :
    home.isEmpty = true ↔ own = "" ∨ own = output := by
  rw [h]
  by_cases inside : own = output
  · simp [inside]
  · simp [inside]

/-- A name that was seen from its package, and is then written for an interface of it, is written
as it was declared. -/
theorem form_seenFrom {own output home : String} (h : home = if own = output then "" else own)
    (final : ImportTable) (name : DeclaredName) :
    (name.seenFrom own).form home final = name.formIn own output final := by
  have empty := home_isEmpty_iff h
  cases name with
  | foreign name => rfl
  | declared name package? =>
    by_cases inside : package? = some own ∨ package? = none
    · -- a name of the package itself is seen bare, so its alias comes from the interface
      have seen : (DeclaredName.declared name package?).seenFrom own = .named name none := by
        rcases inside with rfl | rfl <;> simp [DeclaredName.seenFrom]
      have path : package?.getD own = own := by
        rcases inside with rfl | rfl <;> rfl
      rw [seen, WrittenName.form, DeclaredName.formIn, path]
      -- bare inside of its own package and if predeclared, and else behind the alias of the package
      by_cases bare : own = "" ∨ (own = own ∧ (own = output ∨ isPredeclared name = true))
      · have e : (isPredeclared name || home.isEmpty) = true := by
          rw [Bool.or_eq_true, empty]
          tauto
        rw [if_pos e, if_pos bare]
      · have e : ¬ (isPredeclared name || home.isEmpty) = true := by
          rw [Bool.or_eq_true, empty]
          tauto
        have outside : home = own := by
          rw [h, if_neg fun same => bare (.inr ⟨rfl, .inl same⟩)]
        rw [if_neg e, if_neg bare, outside]
    -- a name of another package has its path, from wherever it is seen
    · obtain ⟨path, rfl⟩ : ∃ path, package? = some path :=
        Option.ne_none_iff_exists'.1 fun e => inside (.inr e)
      have other : path ≠ own := fun e => inside (.inl (by rw [e]))
      have seen : (DeclaredName.declared name (some path)).seenFrom own
          = .named name (some path) := by
        simp [DeclaredName.seenFrom, other]
      rw [seen, WrittenName.form, DeclaredName.formIn]
      simp [other]

theorem spelled_seenFrom {own output home : String} (h : home = if own = output then "" else own)
    (final : ImportTable) (m : Method DeclaredName) :
    (m.seenFrom own).spelled home final = m.spelledIn own output final := by
  have names : WrittenName.form home final ∘ DeclaredName.seenFrom own
      = DeclaredName.formIn own output final := funext (form_seenFrom h final)
  have types : ∀ ts : List DeclaredType,
      (ts.map (·.mapNames (DeclaredName.seenFrom own))).map
          (·.mapNames (WrittenName.form home final))
        = ts.map (·.mapNames (DeclaredName.formIn own output final)) := by
    intro ts
    rw [List.map_map, ← names]
    exact List.map_congr_left fun t _ => TypeForm.mapNames_mapNames _ _ t
  rw [Method.spelled, Method.spelledIn, Method.seenFrom, Signature.mapNames, Signature.mapNames,
    Signature.mapNames, types, types]

/-! ### Declarations -/

theorem mem_putByName {i j : Interface} {sorted : List Interface} (h : i ∈ putByName j sorted) :
    i = j ∨ i ∈ sorted := by
  induction sorted with
  | nil => exact .inl (List.mem_singleton.1 h)
  | cons k rest ih =>
    rw [putByName] at h
    split at h
    · exact (List.mem_cons.1 h).imp_right (List.mem_cons_of_mem k)
    · split at h
      · exact List.mem_cons.1 h
      · rcases List.mem_cons.1 h with rfl | mem
        · exact .inr List.mem_cons_self
        · exact (ih mem).imp_right (List.mem_cons_of_mem k)

theorem mem_foldl_putByName {i : Interface} {interfaces sorted : List Interface}
    (h : i ∈ interfaces.foldl (fun sorted j => putByName j sorted) sorted) :
    i ∈ interfaces ∨ i ∈ sorted := by
  induction interfaces generalizing sorted with
  | nil => exact .inr h
  | cons j rest ih =>
    rcases ih h with mem | mem
    · exact .inl (List.mem_cons_of_mem j mem)
    · rcases mem_putByName mem with rfl | mem
      · exact .inl List.mem_cons_self
      · exact .inr mem

/-- Sorting methods does not look at how names are seen. -/
theorem sortMethods_seenFrom (own : String) (methods : List (Method DeclaredName)) :
    sortMethods (methods.map (Method.seenFrom own))
      = (sortMethods methods).map (Method.seenFrom own) := by
  have kept : ∀ a ∈ methods, ∀ b ∈ methods, (!decide (b.name < a.name))
      = !decide ((b.seenFrom own).name < (a.seenFrom own).name) := fun _ _ _ _ => rfl
  exact (List.map_mergeSort kept).symm

/-- The declaration of an interface of a package. -/
theorem exists_declaration_of_mem {p : CheckedPackage} {i : Interface}
    (h : i ∈ p.toPackage.interfaces) :
    ∃ d ∈ p.declarations, ∃ methods, d.kind = .interface methods ∧ isExported d.name = true
      ∧ i = ⟨d.name, p.importPath, (sortMethods methods).map (Method.seenFrom p.importPath)⟩ := by
  rcases mem_foldl_putByName h with mem | mem
  · obtain ⟨d, hd, given⟩ := List.mem_filterMap.1 mem
    rw [exportedInterface?] at given
    split at given
    · next methods kind =>
      split at given
      · next exported =>
        rw [Bool.and_eq_true] at exported
        rw [sortMethods_seenFrom] at given
        exact ⟨d, hd, methods, kind, exported.1, (Option.some.inj given).symm⟩
      · cases given
    · cases given
  · cases mem

theorem not_isExported_of_mem_predeclaredTypes :
    ∀ name ∈ predeclaredTypes, isExported name = false := by
  decide

/-- No exported name is predeclared. -/
theorem isPredeclared_of_isExported {name : String} (h : isExported name = true) :
    isPredeclared name = false := by
  cases predeclared : isPredeclared name with
  | false => rfl
  | true =>
    rw [not_isExported_of_mem_predeclaredTypes name (List.contains_iff_mem.1 predeclared)] at h
    cases h

/-! ### Imports -/

/-- A name occurs in the parameters or results of some methods, at any depth. -/
def Occurs {ν : Type} (methods : List (Method ν)) (name : ν) : Prop :=
  ∃ m ∈ methods, .named name
    ∈ TypeForm.partsOfAll m.signature.params ++ TypeForm.partsOfAll m.signature.results

theorem mem_parts_iff_occurs {i : Interface} {name : WrittenName} :
    .named name ∈ i.parts ↔ Occurs i.methods name := List.mem_flatMap

theorem named_mem_partsOfAll_map {ν μ : Type} {f : ν → μ} {types : List (TypeForm ν)} {name : μ} :
    .named name ∈ TypeForm.partsOfAll (types.map (·.mapNames f))
      ↔ ∃ declared, .named declared ∈ TypeForm.partsOfAll types ∧ f declared = name := by
  rw [TypeForm.partsOfAll_eq_flatMap, TypeForm.flatMap_parts_map fun t _ =>
    TypeForm.parts_mapNames f t, ← TypeForm.partsOfAll_eq_flatMap, List.mem_map]
  constructor
  · rintro ⟨part, mem, e⟩
    cases part with
    | named declared => exact ⟨declared, mem, TypeForm.named.inj e⟩
    | _ => cases e
  · rintro ⟨declared, mem, rfl⟩
    exact ⟨.named declared, mem, rfl⟩

theorem occurs_seenFrom {own : String} {methods : List (Method DeclaredName)} {name : WrittenName} :
    Occurs (methods.map (Method.seenFrom own)) name
      ↔ ∃ declared, Occurs methods declared ∧ declared.seenFrom own = name := by
  constructor
  · rintro ⟨_, seen, mem⟩
    obtain ⟨m, hm, rfl⟩ := List.mem_map.1 seen
    rcases List.mem_append.1 mem with mem | mem
    · obtain ⟨declared, mem, e⟩ := named_mem_partsOfAll_map.1 mem
      exact ⟨declared, ⟨m, hm, List.mem_append_left _ mem⟩, e⟩
    · obtain ⟨declared, mem, e⟩ := named_mem_partsOfAll_map.1 mem
      exact ⟨declared, ⟨m, hm, List.mem_append_right _ mem⟩, e⟩
  · rintro ⟨declared, ⟨m, hm, mem⟩, e⟩
    refine ⟨m.seenFrom own, List.mem_map_of_mem hm, ?_⟩
    rcases List.mem_append.1 mem with mem | mem
    · exact List.mem_append_left _ (named_mem_partsOfAll_map.2 ⟨declared, mem, e⟩)
    · exact List.mem_append_right _ (named_mem_partsOfAll_map.2 ⟨declared, mem, e⟩)

theorem seenFrom_eq_named_some {own name path : String} {declared : DeclaredName} :
    declared.seenFrom own = .named name (some path)
      ↔ declared = .declared name (some path) ∧ path ≠ own := by
  cases declared with
  | foreign other => simp [DeclaredName.seenFrom]
  | declared other package? =>
    rw [DeclaredName.seenFrom]
    split
    · next e => simp [e, eq_comm]
    · next e =>
      simp only [WrittenName.named.injEq, DeclaredName.declared.injEq]
      constructor
      · rintro ⟨rfl, rfl⟩
        exact ⟨⟨rfl, rfl⟩, fun same => e (by rw [same])⟩
      · rintro ⟨both, -⟩
        exact both

theorem seenFrom_eq_selected {own name : String} {declared : DeclaredName} :
    declared.seenFrom own = .selected foreignQualifier name ↔ declared = .foreign name := by
  cases declared with
  | foreign other => simp [DeclaredName.seenFrom]
  | declared other package? => simp [DeclaredName.seenFrom]

/-- The packages that the wrapper of an interface of package `own` needs in a file of package
`output`: its own, unless that is the one of the file; those of the names in its methods; and
foreign code, if the methods name some. -/
inductive NeedsImport (own output : String) (methods : List (Method DeclaredName)) :
    String → Prop
  /-- The package of the interface. -/
  | own : own ≠ output → own ≠ "" → NeedsImport own output methods own
  /-- Another package. -/
  | other {name path : String} : Occurs methods (.declared name (some path)) → path ≠ own →
      path ≠ "" → NeedsImport own output methods path
  /-- Foreign code. -/
  | foreign {name : String} : Occurs methods (.foreign name) →
      NeedsImport own output methods foreignQualifier

theorem exists_refers_iff_needsImport {own output path : String} {i : Interface}
    {methods : List (Method DeclaredName)} (home : i.importPath = own)
    (seen : i.methods = methods.map (Method.seenFrom own)) :
    (∃ member, Refers [i.elideFrom output] path member) ↔ NeedsImport own output methods path := by
  have here := importPath_elideFrom output i
  rw [home] at here
  -- the names in the interface are those of the methods, as they are seen from the package
  have occurs : ∀ {name : WrittenName}, .named name ∈ (i.elideFrom output).parts
      ↔ ∃ declared, Occurs methods declared ∧ declared.seenFrom own = name := by
    intro name
    rw [mem_parts_iff_occurs, methods_elideFrom, seen]
    exact occurs_seenFrom
  constructor
  -- the interface itself, its names and its foreign names are what may need an import
  · rintro ⟨member, refers⟩
    cases refers with
    | @interface j hj filled =>
      obtain rfl := List.mem_singleton.1 hj
      rw [here] at filled ⊢
      by_cases inside : own = output
      · exact absurd (if_pos inside) filled
      · rw [if_neg inside] at filled ⊢
        exact .own inside filled
    | @named j _ _ hj part filled =>
      obtain rfl := List.mem_singleton.1 hj
      obtain ⟨declared, mem, e⟩ := occurs.1 part
      obtain ⟨rfl, outside⟩ := seenFrom_eq_named_some.1 e
      exact .other mem outside filled
    | @foreign j _ hj part =>
      obtain rfl := List.mem_singleton.1 hj
      obtain ⟨declared, mem, e⟩ := occurs.1 part
      obtain rfl := seenFrom_eq_selected.1 e
      exact .foreign mem
  · intro needs
    cases needs with
    | own outside filled =>
      rw [if_neg outside] at here
      have refers : Refers [i.elideFrom output] (i.elideFrom output).importPath _ :=
        .interface List.mem_cons_self (by rw [here]; exact filled)
      rw [here] at refers
      exact ⟨_, refers⟩
    | @other name _ mem outside filled =>
      exact ⟨name, .named List.mem_cons_self
        (occurs.2 ⟨_, mem, seenFrom_eq_named_some.2 ⟨rfl, outside⟩⟩) filled⟩
    | @foreign name mem =>
      exact ⟨name, .foreign List.mem_cons_self (occurs.2 ⟨_, mem, seenFrom_eq_selected.2 rfl⟩)⟩

/-! ### Wrappers -/

section

variable {own output : String} {i : Interface} {methods : List (Method DeclaredName)}

theorem form_elideFrom (final : ImportTable) (home : i.importPath = own)
    (plain : isPredeclared i.name = false) :
    (i.elideFrom output).form final
      = (DeclaredName.declared i.name (some own)).formIn own output final := by
  have here := importPath_elideFrom output i
  rw [home] at here
  rw [Interface.form, WrittenName.form, name_elideFrom, here, DeclaredName.formIn]
  by_cases inside : own = output
  · simp [inside]
  · simp [inside, plain]

/-- The declarations of a wrapper, from the methods as they are declared. -/
theorem wrapperTexts_elideFrom (namePrefix : String) (final : ImportTable)
    (home : i.importPath = own) (plain : isPredeclared i.name = false)
    (seen : i.methods = methods.map (Method.seenFrom own)) :
    wrapperTexts namePrefix final (i.elideFrom output)
      = spelledWrapper (wrapperName namePrefix i)
        ((DeclaredName.declared i.name (some own)).formIn own output final)
        (methods.map (Method.spelledIn own output final)) := by
  have here := importPath_elideFrom output i
  rw [home] at here
  have spelled : (methods.map (Method.seenFrom own)).map
      (Method.spelled (i.elideFrom output).importPath final)
        = methods.map (Method.spelledIn own output final) := by
    rw [List.map_map]
    exact List.map_congr_left fun m _ => spelled_seenFrom here final m
  have name : wrapperName namePrefix (i.elideFrom output) = wrapperName namePrefix i := by
    rw [wrapperName, wrapperName, name_elideFrom]
  rw [wrapperTexts, methods_elideFrom, seen, spelled, form_elideFrom final home plain, name]

end

/-- The wrapper of an interface of a package, told from the declaration of the interface: its name
and all names in its methods, at any depth, stand bare where they belong to the package of the file,
and behind the alias of their package otherwise; and exactly those packages are imported that are
needed for that. -/
theorem ofWrappers_ownPackage {p : CheckedPackage} {i : Interface}
    (hi : i ∈ p.toPackage.interfaces) (output packageName namePrefix : String)
    (settled : ForeignSettled (interfaceMentions (i.elideFrom output))) :
    let own := p.importPath
    let file := Draft.ofWrappers packageName namePrefix [i.elideFrom output]
    ∃ d ∈ p.declarations, ∃ methods, d.kind = .interface methods ∧ d.name = i.name
      ∧ file.declarations = spelledWrapper (wrapperName namePrefix i)
        ((DeclaredName.declared i.name (some own)).formIn own output file.imports)
        ((sortMethods methods).map (Method.spelledIn own output file.imports))
      ∧ ∀ path, (file.imports.alias? path).isSome = true
        ↔ NeedsImport own output (sortMethods methods) path := by
  intro own file
  -- an interface of a package comes from a declaration, so its methods are seen from there
  obtain ⟨d, hd, methods, kind, exported, e⟩ := exists_declaration_of_mem hi
  have name : d.name = i.name := by rw [e]
  have home : i.importPath = own := by rw [e]
  have seen : i.methods = (sortMethods methods).map (Method.seenFrom own) := by rw [e]
  have plain : isPredeclared i.name = false := name ▸ isPredeclared_of_isExported exported
  refine ⟨d, hd, methods, kind, name, ?_, fun path => ?_⟩
  -- the draft is of one interface, so its mentions are those of that one
  · rw [← List.flatMap_singleton (f := interfaceMentions)] at settled
    have texts := Draft.declarations_ofWrappers_of_foreignSettled packageName namePrefix
      [i.elideFrom output] settled
    rw [List.flatMap_singleton] at texts
    exact texts.trans (wrapperTexts_elideFrom namePrefix file.imports home plain seen)
  · exact (Draft.isSome_alias?_ofWrappers packageName namePrefix [i.elideFrom output] path).trans
      (exists_refers_iff_needsImport home seen)

/-! ### Two packages -/

/-- A package with an interface whose method names types of its own, of another package, and of
none. -/
def sampleStore : CheckedPackage :=
  ⟨"store", "example.com/store",
    [⟨"Store", false, .interface
      [⟨"Find",
        ⟨[.named (.declared "Context" (some "context")),
            .slice (.named (.declared "Key" (some "example.com/store")))],
          [.map (.named (.declared "string" none))
              (.pointer (.named (.declared "Item" (some "example.com/store")))),
            .named (.declared "error" none)], true⟩⟩]⟩], []⟩

/-- The interface of `sampleStore`. -/
def sampleStoreInterface : Interface :=
  ⟨"Store", "example.com/store",
    [⟨"Find",
      ⟨[.named (.named "Context" (some "context")), .slice (.named (.named "Key" none))],
        [.map (.named (.named "string" none)) (.pointer (.named (.named "Item" none))),
          .named (.named "error" none)], true⟩⟩]⟩

theorem mem_interfaces_sampleStore :
    sampleStoreInterface ∈ sampleStore.toPackage.interfaces := by
  decide +kernel

theorem foreignSettled_sampleStore : ∀ output ∈ ["example.com/store", "example.com/mocks"],
    ForeignSettled (interfaceMentions (sampleStoreInterface.elideFrom output)) := by
  decide

/-- In its own package the store is written bare, and elsewhere behind its alias. -/
theorem ofWrappers_ownPackage_sampleStore :
    sampleStoreInterface ∈ sampleStore.toPackage.interfaces
      ∧ (∀ output ∈ ["example.com/store", "example.com/mocks"],
        ForeignSettled (interfaceMentions (sampleStoreInterface.elideFrom output)))
      ∧ (Draft.ofWrappers "store" ""
          [sampleStoreInterface.elideFrom "example.com/store"]).declarations
        = spelledWrapper "StoreWrapper" (.bare "Store")
          [(sampleStoreInterface.methods[0],
            ⟨[.named (.behind "context" "Context"), .slice (.named (.bare "Key"))],
              [.map (.named (.bare "string")) (.pointer (.named (.bare "Item"))),
                .named (.bare "error")], true⟩)]
      ∧ (Draft.ofWrappers "mocks" ""
          [sampleStoreInterface.elideFrom "example.com/mocks"]).declarations
        = spelledWrapper "StoreWrapper" (.behind "store" "Store")
          [(sampleStoreInterface.methods[0],
            ⟨[.named (.behind "context" "Context"), .slice (.named (.behind "store" "Key"))],
              [.map (.named (.bare "string")) (.pointer (.named (.behind "store" "Item"))),
                .named (.bare "error")], true⟩)] := by
  have name : wrapperName "" sampleStoreInterface = "StoreWrapper" := by decide
  refine ⟨mem_interfaces_sampleStore, foreignSettled_sampleStore, ?_, ?_⟩
  · obtain ⟨d, hd, methods, kind, -, texts, -⟩ := ofWrappers_ownPackage mem_interfaces_sampleStore
      "example.com/store" "store" "" (foreignSettled_sampleStore _ (by decide))
    obtain rfl := List.mem_singleton.1 hd
    obtain rfl := TypeKind.interface.inj kind
    rw [texts, name, Draft.imports_ofWrappers]
    exact congrArg₂ (spelledWrapper "StoreWrapper") (by decide) (by decide +kernel)
  · obtain ⟨d, hd, methods, kind, -, texts, -⟩ := ofWrappers_ownPackage mem_interfaces_sampleStore
      "example.com/mocks" "mocks" "" (foreignSettled_sampleStore _ (by decide))
    obtain rfl := List.mem_singleton.1 hd
    obtain rfl := TypeKind.interface.inj kind
    rw [texts, name, Draft.imports_ofWrappers]
    exact congrArg₂ (spelledWrapper "StoreWrapper") (by decide) (by decide +kernel)

/-- A package with an interface whose method names a type of another package called `C`, then one of
the package at the path of foreign code, and then one of foreign code. -/
def sampleCrossing : CheckedPackage :=
  ⟨"p", "example.com/p",
    [⟨"T", false, .interface
      [⟨"M",
        ⟨[.named (.declared "A" (some "example.com/C")), .named (.declared "B" (some "C")),
          .named (.foreign "int")], [], false⟩⟩]⟩], []⟩

/-- The interface of `sampleCrossing`. -/
def sampleCrossingInterface : Interface :=
  ⟨"T", "example.com/p",
    [⟨"M",
      ⟨[.named (.named "A" (some "example.com/C")), .named (.named "B" (some "C")),
        .named (.selected "C" "int")], [], false⟩⟩]⟩

/-- A type of the package at the path of foreign code is written behind an alias that the file does
not hold for that package. -/
theorem ofWrappers_sampleCrossing_other_alias :
    sampleCrossingInterface ∈ sampleCrossing.toPackage.interfaces
      ∧ (Draft.ofWrappers "mocks" "" [sampleCrossingInterface.elideFrom "mocks"]).imports.alias? "C"
        = some "C"
      ∧ (Draft.ofWrappers "mocks" "" [sampleCrossingInterface.elideFrom "mocks"]).declarations[2]?
        = some ("func (w *TWrapper) M(v0 C.A, v1 C1.B, v2 C.int) \x7b\n"
          ++ "\tw.inner.M(v0, v1, v2)\n\x7d") := by
  have outside : sampleCrossingInterface.elideFrom "mocks" = sampleCrossingInterface := by
    decide
  refine ⟨by decide +kernel, ?_, ?_⟩
  · rw [outside, Draft.imports_ofWrappers]
    decide
  · rw [outside]
    simp only [Draft.ofWrappers, writeWrappers, writeWrapper, sampleCrossingInterface, writeMethods,
      overridingMethod, namedParamTexts, methodParamTexts, paramTexts, lastParamText, typeText,
      methodResultTexts, typeTexts]
    decide

end WrapperGen
