import WrapperGen.Proofs.SettledAliases
import WrapperGen.Proofs.WholeWords

/-!
# The imports of wrappers

A file with wrappers imports the packages of their interfaces, and those that the types in their
methods name; and each import is used, for every name of these packages stands in some declaration
behind the alias of its package.

## Main definitions

* `Interface.isWellFormed`: foreign code is named in its own way, and nothing else is.
* `Refers`: the names of packages that some interfaces need.

## Main results

* `mem_interfaceMentions`: what the wrapper of an interface mentions.
* `exists_hasWord_wrapperTexts`: the declarations hold all names.
* `Draft.isSome_alias?_ofWrappers`: the packages that are imported.
* `Draft.declarations_ofWrappers_of_foreignSettled`: the declarations, from the aliases in the end.
* `ofWrappers_imports_exact`: no import is missing, and none is unused.
-/

namespace WrapperGen

open Source

/-! ### Interfaces -/

/-- Whether a name with a fixed qualifier belongs to foreign code, and no other name does. -/
def WrittenName.isWellFormed : WrittenName → Bool
  | .named _ (some path) => path != foreignQualifier
  | .named _ none => true
  | .selected qualifier _ => qualifier == foreignQualifier

/-- Whether a part of a type that is a name is well formed. -/
def partIsWellFormed : WrittenType → Bool
  | .named name => name.isWellFormed
  | _ => true

namespace Interface

/-- All types in the methods of an interface, and all types inside of them. -/
def parts (i : Interface) : List WrittenType :=
  i.methods.flatMap fun m =>
    TypeForm.partsOfAll m.signature.params ++ TypeForm.partsOfAll m.signature.results

/-- Whether only names with the qualifier of foreign code refer to that. -/
def isWellFormed (i : Interface) : Bool :=
  i.importPath != foreignQualifier && i.parts.all partIsWellFormed

end Interface

/-- Some interfaces need a name of a package: an interface is of that package, or a type in its
methods is, or it is foreign code. -/
inductive Refers (interfaces : List Interface) : String → String → Prop
  /-- The interface itself. -/
  | interface {i : Interface} : i ∈ interfaces → i.importPath ≠ "" →
      Refers interfaces i.importPath i.name
  /-- A type of another package. -/
  | named {i : Interface} {path name : String} : i ∈ interfaces →
      .named (.named name (some path)) ∈ i.parts → path ≠ "" → Refers interfaces path name
  /-- A type of foreign code. -/
  | foreign {i : Interface} {name : String} : i ∈ interfaces →
      .named (.selected foreignQualifier name) ∈ i.parts → Refers interfaces foreignQualifier name

/-! ### Mentions -/

theorem interfaceMentions_eq (i : Interface) : interfaceMentions i
    = (if i.importPath.isEmpty then [] else [.package i.importPath])
      ++ partMentions i.importPath i.parts := by
  rw [interfaceMentions, Interface.parts, partMentions, List.filterMap_flatMap]
  simp only [List.filterMap_append]
  rfl

/-- The wrapper of an interface mentions its package and what is named in its methods. -/
theorem mem_interfaceMentions {i : Interface} {m : Mention} :
    m ∈ interfaceMentions i ↔ (i.importPath ≠ "" ∧ m = .package i.importPath)
      ∨ ∃ name, .named name ∈ i.parts ∧ name.mention? i.importPath = some m := by
  have own : m ∈ (if i.importPath.isEmpty then [] else [Mention.package i.importPath])
      ↔ i.importPath ≠ "" ∧ m = .package i.importPath := by
    by_cases empty : i.importPath.isEmpty = true
    · have e : i.importPath = "" := by simpa using empty
      rw [if_pos empty]
      simp [e]
    · have ne : i.importPath ≠ "" := by simpa using empty
      rw [if_neg empty]
      simp [ne]
  have inside : m ∈ partMentions i.importPath i.parts
      ↔ ∃ name, .named name ∈ i.parts ∧ name.mention? i.importPath = some m := by
    rw [partMentions, List.mem_filterMap]
    constructor
    · rintro ⟨part, mem, mention⟩
      cases part with
      | named name => exact ⟨name, mem, mention⟩
      | _ => cases mention
    · rintro ⟨name, mem, mention⟩
      exact ⟨.named name, mem, mention⟩
  rw [interfaceMentions_eq, List.mem_append, own, inside]

theorem mention?_eq_some_package {name : WrittenName} {home path : String}
    (h : name.mention? home = some (.package path)) :
    path ≠ "" ∧ (path = home ∨ ∃ member, name = .named member (some path)) := by
  unfold WrittenName.mention? at h
  split at h
  · next member other =>
    split at h
    · cases h
    · next filled =>
      obtain rfl := Mention.package.inj (Option.some.inj h)
      exact ⟨by simpa using filled, .inr ⟨member, rfl⟩⟩
  · split at h
    · cases h
    · next filled =>
      obtain rfl := Mention.package.inj (Option.some.inj h)
      have ne : home.isEmpty = false := by simp at filled; simp [filled.2]
      exact ⟨by simpa using ne, .inl rfl⟩
  · split at h
    · cases h
    · cases h

theorem mention?_eq_some_foreign {name : WrittenName} {home : String}
    (h : name.mention? home = some .foreign) :
    ∃ member, name = .selected foreignQualifier member := by
  unfold WrittenName.mention? at h
  split at h
  · split at h <;> cases h
  · split at h <;> cases h
  · next qualifier member =>
    split at h
    · next own => exact ⟨member, by rw [own]⟩
    · cases h

theorem mention?_named {path member home : String} (h : path ≠ "") :
    (WrittenName.named member (some path)).mention? home = some (.package path) := by
  rw [WrittenName.mention?, if_neg (by simpa using h)]

theorem mention?_foreign {member home : String} :
    (WrittenName.selected foreignQualifier member).mention? home = some .foreign := by
  rw [WrittenName.mention?, if_pos rfl]

/-- Well-formed interfaces mention foreign code in its own way only. -/
theorem foreign_not_package {interfaces : List Interface}
    (h : ∀ i ∈ interfaces, i.isWellFormed = true) :
    .package foreignQualifier ∉ interfaces.flatMap interfaceMentions := by
  intro mem
  obtain ⟨i, hi, mem⟩ := List.mem_flatMap.1 mem
  have well := h i hi
  rw [Interface.isWellFormed, Bool.and_eq_true, bne_iff_ne, List.all_eq_true] at well
  rcases mem_interfaceMentions.1 mem with ⟨-, e⟩ | ⟨name, part, mention⟩
  · exact well.1 (Mention.package.inj e).symm
  · obtain ⟨-, own | ⟨member, rfl⟩⟩ := mention?_eq_some_package mention
    · exact well.1 own.symm
    · have := well.2 _ part
      simp [partIsWellFormed, WrittenName.isWellFormed] at this

/-- Those packages are imported that the interfaces refer to. -/
theorem imported_iff_refers (interfaces : List Interface) (path : String) :
    (.package path ∈ interfaces.flatMap interfaceMentions
        ∨ .foreign ∈ interfaces.flatMap interfaceMentions ∧ path = foreignQualifier)
      ↔ ∃ member, Refers interfaces path member := by
  constructor
  · rintro (mem | ⟨mem, rfl⟩)
    · obtain ⟨i, hi, mem⟩ := List.mem_flatMap.1 mem
      rcases mem_interfaceMentions.1 mem with ⟨ne, e⟩ | ⟨name, part, mention⟩
      · obtain rfl := Mention.package.inj e
        exact ⟨i.name, .interface hi ne⟩
      · obtain ⟨ne, rfl | ⟨member, rfl⟩⟩ := mention?_eq_some_package mention
        · exact ⟨i.name, .interface hi ne⟩
        · exact ⟨member, .named hi part ne⟩
    · obtain ⟨i, hi, mem⟩ := List.mem_flatMap.1 mem
      rcases mem_interfaceMentions.1 mem with ⟨-, e⟩ | ⟨name, part, mention⟩
      · cases e
      · obtain ⟨member, rfl⟩ := mention?_eq_some_foreign mention
        exact ⟨member, .foreign hi part⟩
  · rintro ⟨member, refers⟩
    cases refers with
    | interface hi ne =>
      exact .inl (List.mem_flatMap.2 ⟨_, hi, mem_interfaceMentions.2 (.inl ⟨ne, rfl⟩)⟩)
    | @named i _ _ hi part ne =>
      exact .inl (List.mem_flatMap.2
        ⟨i, hi, mem_interfaceMentions.2 (.inr ⟨_, part, mention?_named ne⟩)⟩)
    | @foreign i _ hi part =>
      exact .inr ⟨List.mem_flatMap.2
        ⟨i, hi, mem_interfaceMentions.2 (.inr ⟨_, part, mention?_foreign⟩)⟩, rfl⟩

/-! ### Declarations -/

/-- The declarations of a wrapper hold every name in the methods as a whole word. -/
theorem exists_hasWord_wrapperTexts (namePrefix : String) (final : ImportTable) {i : Interface}
    {name : WrittenName} (h : .named name ∈ i.parts) :
    ∃ text ∈ wrapperTexts namePrefix final i,
      HasWord text.toList (textOf (name.form i.importPath final).pieces) := by
  obtain ⟨m, hm, mem⟩ := List.mem_flatMap.1 h
  -- the name as it is written is a part of a type as it is written
  have spelled : ∀ {types : List WrittenType}, .named name ∈ TypeForm.partsOfAll types →
      ∃ t ∈ types.map (·.mapNames (WrittenName.form i.importPath final)),
        .named (name.form i.importPath final) ∈ t.parts := by
    intro types ht
    obtain ⟨t, mem, part⟩ := TypeForm.mem_partsOfAll.1 ht
    refine ⟨_, List.mem_map_of_mem mem, ?_⟩
    rw [TypeForm.parts_mapNames]
    exact List.mem_map.2 ⟨_, part, rfl⟩
  refine ⟨spelledMethod (wrapperName namePrefix i) m
    (m.signature.mapNames (WrittenName.form i.importPath final)), ?_, ?_⟩
  · refine List.mem_cons_of_mem _ (List.mem_cons_of_mem _ ?_)
    exact List.mem_map.2 ⟨_, List.mem_map_of_mem hm, rfl⟩
  · rcases List.mem_append.1 mem with mem | mem
    · obtain ⟨p, hp, part⟩ := spelled mem
      exact hasWord_spelledMethod_param _ m _ hp part
    · obtain ⟨r, hr, part⟩ := spelled mem
      exact hasWord_spelledMethod_result _ m _ hr part

/-- The declarations of the wrapper hold every name of a package that the interfaces refer to,
behind the alias of the package. -/
theorem exists_hasWord_of_refers {interfaces : List Interface} {path member name : String}
    (namePrefix : String) {final : ImportTable} (known : final.alias? path = some name)
    (foreign : .foreign ∈ interfaces.flatMap interfaceMentions →
      final.alias? foreignQualifier = some foreignQualifier)
    (h : Refers interfaces path member) :
    ∃ text ∈ interfaces.flatMap (wrapperTexts namePrefix final),
      HasWord text.toList (name ++ "." ++ member).toList := by
  have word : ∀ form : NameForm, form = .behind name member →
      textOf form.pieces = (name ++ "." ++ member).toList := by
    rintro form rfl
    rw [spelledText_behind, toList_spelledText]
  cases h with
  | @interface i hi ne =>
    have form : i.form final = .behind name i.name := by
      rw [Interface.form, WrittenName.form, if_neg (by simpa using ne), known]
      rfl
    have inside := hasWord_wrapperStruct (wrapperName namePrefix i)
      (spelledText (i.form final).pieces)
    rw [toList_spelledText, word _ form] at inside
    exact ⟨_, List.mem_flatMap.2 ⟨i, hi, List.mem_cons_self⟩, inside⟩
  | @named i _ _ hi part ne =>
    obtain ⟨text, mem, inside⟩ := exists_hasWord_wrapperTexts namePrefix final part
    have form : WrittenName.form i.importPath final (.named member (some path))
        = .behind name member := by
      rw [WrittenName.form, if_neg (by simpa using ne), known]
      rfl
    rw [word _ form] at inside
    exact ⟨text, List.mem_flatMap.2 ⟨i, hi, mem⟩, inside⟩
  | @foreign i _ hi part =>
    obtain ⟨text, mem, inside⟩ := exists_hasWord_wrapperTexts namePrefix final part
    have own := foreign (List.mem_flatMap.2
      ⟨i, hi, mem_interfaceMentions.2 (.inr ⟨_, part, mention?_foreign⟩)⟩)
    have form : WrittenName.form i.importPath final (.selected foreignQualifier member)
        = .behind name member := by
      rw [WrittenName.form, ← Option.some.inj (own.symm.trans known)]
    rw [word _ form] at inside
    exact ⟨text, List.mem_flatMap.2 ⟨i, hi, mem⟩, inside⟩

namespace Draft

variable (packageName namePrefix : String) (interfaces : List Interface)

/-- Those packages are imported that the interfaces refer to. -/
theorem isSome_alias?_ofWrappers (path : String) :
    ((ofWrappers packageName namePrefix interfaces).imports.alias? path).isSome = true
      ↔ ∃ member, Refers interfaces path member := by
  have none' : ¬ (ImportTable.empty.alias? path).isSome = true := nofun
  rw [imports_ofWrappers, ImportTable.isSome_alias?_noteAll, or_iff_left none']
  exact imported_iff_refers interfaces path

/-- The declarations hold the aliases that the file has in the end. -/
theorem declarations_ofWrappers_of_foreignSettled
    (h : ForeignSettled (interfaces.flatMap interfaceMentions)) :
    (ofWrappers packageName namePrefix interfaces).declarations
      = interfaces.flatMap
        (wrapperTexts namePrefix (ofWrappers packageName namePrefix interfaces).imports) := by
  rw [imports_ofWrappers]
  exact declarations_ofWrappers packageName namePrefix interfaces
    (ImportTable.settles_of_foreignSettled h)

end Draft

/-- A file with the wrappers of some well-formed interfaces imports exactly the packages that these
refer to; and every name of such a package stands in some declaration of the file, behind the alias
of the package, as a whole word. -/
theorem ofWrappers_imports_exact (packageName namePrefix : String) (interfaces : List Interface)
    (h : ∀ i ∈ interfaces, i.isWellFormed = true) :
    let d := Draft.ofWrappers packageName namePrefix interfaces
    (∀ path, (d.imports.alias? path).isSome = true ↔ ∃ member, Refers interfaces path member)
      ∧ ∀ path name member, d.imports.alias? path = some name → Refers interfaces path member →
        ∃ text ∈ d.declarations, HasWord text.toList (name ++ "." ++ member).toList := by
  intro d
  have settled := foreignSettled_of_not_mem (foreign_not_package h)
  have declarations : d.declarations = interfaces.flatMap (wrapperTexts namePrefix d.imports) :=
    Draft.declarations_ofWrappers_of_foreignSettled packageName namePrefix interfaces settled
  refine ⟨Draft.isSome_alias?_ofWrappers packageName namePrefix interfaces, ?_⟩
  intro path name member known refers
  rw [declarations]
  refine exists_hasWord_of_refers namePrefix known (fun mentioned => ?_) refers
  rw [show d.imports = _ from Draft.imports_ofWrappers packageName namePrefix interfaces]
  exact ImportTable.alias?_foreign_of_mem mentioned

/-! ### Two interfaces -/

/-- Two interfaces of one package, the second elided.  They name types of their own package, of two
packages with one name, and of foreign code. -/
def sampleInterfaces : List Interface :=
  [⟨"Store", "example.com/store",
    [⟨"Find",
      ⟨[.named (.named "Context" (some "context")), .slice (.named (.named "Key" none))],
        [.map (.named (.named "string" none)) (.pointer (.named (.named "Item" none))),
          .named (.named "error" none)], true⟩⟩]⟩,
    ⟨"Codec", "",
      [⟨"Encode", ⟨[.named (.named "Context" (some "other.com/context"))],
        [.channel .both (.channel .receive (.named (.selected "C" "long")))], false⟩⟩]⟩]

theorem isWellFormed_sampleInterfaces : ∀ i ∈ sampleInterfaces, i.isWellFormed = true := by
  decide

/-- The file imports four packages, and uses them all. -/
theorem ofWrappers_imports_sample :
    (∀ i ∈ sampleInterfaces, i.isWellFormed = true)
      ∧ (∀ path,
        ((Draft.ofWrappers "mocks" "Mock" sampleInterfaces).imports.alias? path).isSome = true
          ↔ ∃ member, Refers sampleInterfaces path member)
      ∧ ∃ text ∈ (Draft.ofWrappers "mocks" "Mock" sampleInterfaces).declarations,
        HasWord text.toList "context1.Context".toList := by
  have exact' := ofWrappers_imports_exact "mocks" "Mock" sampleInterfaces
    isWellFormed_sampleInterfaces
  refine ⟨isWellFormed_sampleInterfaces, exact'.1, ?_⟩
  have known : (Draft.ofWrappers "mocks" "Mock" sampleInterfaces).imports.alias? "other.com/context"
      = some "context1" := by
    rw [Draft.imports_ofWrappers]
    decide
  have refers : Refers sampleInterfaces "other.com/context" "Context" :=
    .named (List.mem_cons_of_mem _ List.mem_cons_self) (by decide) (by decide)
  have e : "context1" ++ "." ++ "Context" = "context1.Context" := by decide
  have used := exact'.2 _ _ _ known refers
  rw [e] at used
  exact used

end WrapperGen
