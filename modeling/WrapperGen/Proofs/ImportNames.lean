import Mathlib.Data.List.Induction
import WrapperGen.Proofs.Caching

/-!
# The names of imports

In a file, an import is known by the name that is written for it, or else by the name of its
package.  The checker does not look at the package first: it takes the name that the import path
suggests, and asks for the names of packages only where no import has a name that way.  So what is
imported is found under its name, as long as the path of no other import suggests that name
wrongly.

## Main definitions

* `Workspace.nameIn`: the name of a package, as far as a session can tell.
* `ImportSpec.effectiveName?`: the name that an import is known by.
* `ImportSpec.writtenName?`: the name that is looked up first.
* `ImportSpec.Misleads`, `ImportSpec.IsPlainly`: whether that name is wrong or right.
* `IsLastOf`: the last import of some kind.

## Main results

* `FileScope.run_importPath?`: what a name stands for.
* `importPath_effective`: where no import misleads, a name stands for the import that is known by
  it; and what it stands for where one does.
-/

namespace WrapperGen

open Source

/-! ### Names of packages -/

namespace Workspace

variable (w : Workspace) (s : Session)

/-- The name of the package of an import path: the one that the session remembers, or else the one
in the files. -/
def nameIn (importPath : String) : Option String :=
  match s.package? importPath with
  | some package => some package.name
  | none =>
      match s.names.lookup importPath with
      | some name? => name?
      | none => w.clause? importPath

variable {w s}

theorem nameIn_learnName {importPath : String} (unread : s.names.lookup importPath = none) :
    w.nameIn (s.learnName importPath (w.clause? importPath)) = w.nameIn s := by
  funext other
  unfold nameIn
  rw [Session.package?_learnName]
  cases held : s.package? other with
  | some package => rfl
  | none =>
    dsimp only
    unfold Session.learnName
    by_cases same : other = importPath
    · rw [same, List.lookup_cons_self, unread]
    · have differ : (other == importPath) = false := by simpa using same
      rw [List.lookup_cons, differ]

/-- Asking for the name of a package gives what the session can tell, and changes nothing about
that. -/
theorem exists_run_packageName? (w : Workspace) (s : Session) (importPath : String) :
    ∃ later, (w.packageName? importPath).run.run s = (.ok (w.nameIn s importPath), later)
      ∧ w.nameIn later = w.nameIn s := by
  rw [run_packageName?]
  unfold nameIn
  cases held : s.package? importPath with
  | some package => exact ⟨s, rfl, rfl⟩
  | none =>
    cases read : s.names.lookup importPath with
    | some name? => exact ⟨s, rfl, rfl⟩
    | none => exact ⟨_, rfl, nameIn_learnName read⟩

end Workspace

/-! ### Names of imports -/

namespace Source.ImportSpec

variable (nameOf : String → Option String) (name : String) (spec : ImportSpec)

/-- The name that an import is known by: the one that is written for it, or else the name of its
package.  Imports for bare names, for nothing and of foreign code have none. -/
def effectiveName? : Option String :=
  match spec.name with
  | .name text => some text
  | .own => if spec.path = foreignPath then none else nameOf spec.path
  | .dot | .blank => none

/-- The name that an import is looked up by first: the one that is written for it, or else the one
that its path suggests. -/
def writtenName? : Option String :=
  match spec.name with
  | .name text => some text
  | .own => if spec.path = foreignPath then none else some (guessPackageName spec.path)
  | .dot | .blank => none

/-- An import is looked up by a name that it is not known by. -/
def Misleads : Prop := spec.writtenName? = some name ∧ spec.effectiveName? nameOf ≠ some name

/-- An import is looked up by the name that it is known by. -/
def IsPlainly : Prop := spec.writtenName? = some name ∧ spec.effectiveName? nameOf = some name

/-- Whether an import is one of those that are looked up by the names of their packages in the
end. -/
def isUnnamed : Bool :=
  match spec.name with
  | .own => spec.path != foreignPath
  | _ => false

variable {nameOf name spec}

theorem effectiveName?_of_isUnnamed (h : spec.isUnnamed = true) :
    spec.effectiveName? nameOf = nameOf spec.path := by
  unfold isUnnamed at h
  unfold effectiveName?
  cases kind : spec.name with
  | own =>
    rw [kind] at h
    exact if_neg (by simpa using h)
  | dot | blank | name text =>
    rw [kind] at h
    cases h

/-- An import that is known by a name but not looked up by it is looked up in the end. -/
theorem isUnnamed_of_effectiveName? (known : spec.effectiveName? nameOf = some name)
    (other : spec.writtenName? ≠ some name) : spec.isUnnamed = true := by
  unfold effectiveName? at known
  unfold writtenName? at other
  unfold isUnnamed
  cases kind : spec.name with
  | name text =>
    rw [kind] at known other
    exact absurd known other
  | own =>
    rw [kind] at known
    by_cases foreign : spec.path = foreignPath
    · rw [if_pos foreign] at known
      cases known
    · simpa using foreign
  | dot | blank =>
    rw [kind] at known
    cases known

end Source.ImportSpec

/-- The last import of some kind. -/
def IsLastOf (kind : ImportSpec → Prop) (specs : List ImportSpec) (spec : ImportSpec) : Prop :=
  ∃ front back, specs = front ++ spec :: back ∧ kind spec ∧ ∀ other ∈ back, ¬ kind other

/-! ### The scope of a file -/

namespace FileScope

variable {specs : List ImportSpec} {name : String}

theorem ofImports_concat (specs : List ImportSpec) (spec : ImportSpec) :
    ofImports (specs ++ [spec]) = (ofImports specs).addImport spec := by
  unfold ofImports
  rw [List.foldl_append]
  rfl

theorem names_addImport (s : FileScope) (spec : ImportSpec) :
    (s.addImport spec).names
      = ((spec.writtenName?.map fun name => (name, spec.path)).toList) ++ s.names := by
  unfold addImport ImportSpec.writtenName?
  cases spec.name with
  | name text => rfl
  | dot | blank => rfl
  | own =>
    by_cases foreign : spec.path = foreignPath
    · simp [foreign]
    · simp [foreign]

theorem unnamed_addImport (s : FileScope) (spec : ImportSpec) :
    (s.addImport spec).unnamed
      = s.unnamed ++ ([spec].filter ImportSpec.isUnnamed).map ImportSpec.path := by
  unfold addImport ImportSpec.isUnnamed
  cases kind : spec.name with
  | name text => simp [kind]
  | dot | blank => simp [kind]
  | own =>
    by_cases foreign : spec.path = foreignPath
    · simp [kind, foreign]
    · simp [kind, foreign]

theorem unnamed_ofImports (specs : List ImportSpec) :
    (ofImports specs).unnamed = (specs.filter ImportSpec.isUnnamed).map ImportSpec.path := by
  induction specs using List.reverseRecOn with
  | nil => rfl
  | append_singleton specs spec ih =>
    rw [ofImports_concat, unnamed_addImport, ih, List.filter_append, List.map_append]

/-- The name of the last import counts. -/
theorem lookup_names_concat (specs : List ImportSpec) (spec : ImportSpec) (name : String) :
    (ofImports (specs ++ [spec])).names.lookup name
      = if spec.writtenName? = some name then some spec.path
        else (ofImports specs).names.lookup name := by
  rw [ofImports_concat, names_addImport]
  cases written : spec.writtenName? with
  | none => rfl
  | some text =>
    by_cases same : text = name
    · rw [if_pos (by rw [same]), same]
      exact List.lookup_cons_self
    · have differ : (name == text) = false := by simpa using Ne.symm same
      rw [if_neg (by simpa using same)]
      show List.lookup name ((text, spec.path) :: (ofImports specs).names) = _
      rw [List.lookup_cons, differ]

theorem lookup_names_eq_none (h : ∀ spec ∈ specs, spec.writtenName? ≠ some name) :
    (ofImports specs).names.lookup name = none := by
  induction specs using List.reverseRecOn with
  | nil => rfl
  | append_singleton specs spec ih =>
    rw [lookup_names_concat, if_neg (h spec (by simp))]
    exact ih fun other ho => h other (List.mem_append_left _ ho)

/-- A name is looked up in the last import that it is written for. -/
theorem lookup_names_of_isLastOf {spec : ImportSpec}
    (h : IsLastOf (fun spec => spec.writtenName? = some name) specs spec) :
    (ofImports specs).names.lookup name = some spec.path := by
  obtain ⟨front, back, rfl, here, behind⟩ := h
  induction back using List.reverseRecOn with
  | nil => rw [lookup_names_concat, if_pos here]
  | append_singleton back last ih =>
    have split : front ++ spec :: (back ++ [last]) = (front ++ spec :: back) ++ [last] := by simp
    rw [split, lookup_names_concat, if_neg (behind last (by simp))]
    exact ih fun other ho => behind other (List.mem_append_left _ ho)

/-- Either a name is written for some import, and for a last one, or it is written for none. -/
theorem exists_isLastOf_or (kind : ImportSpec → Prop) (specs : List ImportSpec) :
    (∃ spec, IsLastOf kind specs spec) ∨ ∀ spec ∈ specs, ¬ kind spec := by
  induction specs with
  | nil => exact .inr fun spec hs => by cases hs
  | cons first rest ih =>
    rcases ih with ⟨spec, front, back, rfl, here, behind⟩ | none'
    · exact .inl ⟨spec, first :: front, back, rfl, here, behind⟩
    · by_cases here : kind first
      · exact .inl ⟨first, [], rest, rfl, here, none'⟩
      · exact .inr (List.forall_mem_cons.2 ⟨here, none'⟩)

/-! ### What a name stands for -/

variable (w : Workspace) (load : String → Check CheckedPackage) (s : Session)

/-- The first of some packages that has a name, as far as the session can tell. -/
theorem run_firstNamed (name : String) (paths : List String) :
    ∃ later, (firstNamed ⟨load, w.packageName?⟩ name paths).run.run s
        = (.ok (paths.find? fun path => w.nameIn s path == some name), later)
      ∧ w.nameIn later = w.nameIn s := by
  induction paths generalizing s with
  | nil => exact ⟨s, rfl, rfl⟩
  | cons first rest ih =>
    obtain ⟨asked, found, kept⟩ := w.exists_run_packageName? s first
    unfold firstNamed
    rw [run_bind, found]
    by_cases here : w.nameIn s first = some name
    · refine ⟨asked, ?_, kept⟩
      rw [List.find?_cons_of_pos (by simpa using here)]
      dsimp only
      rw [if_pos here]
      rfl
    · obtain ⟨later, ran, kept'⟩ := ih asked
      refine ⟨later, ?_, kept'.trans kept⟩
      rw [List.find?_cons_of_neg (by simpa using here), ← kept]
      dsimp only
      rw [if_neg (kept ▸ here)]
      exact ran

/-- What a name stands for: the import that it is written for, or else the first one whose package
has that name. -/
theorem run_importPath? (specs : List ImportSpec) (name : String) :
    ∃ later, ((ofImports specs).importPath? ⟨load, w.packageName?⟩ name).run.run s
        = (.ok (((ofImports specs).names.lookup name).or
          (((specs.filter ImportSpec.isUnnamed).map ImportSpec.path).find? fun path =>
            w.nameIn s path == some name)), later)
      ∧ w.nameIn later = w.nameIn s := by
  unfold importPath?
  cases (ofImports specs).names.lookup name with
  | some path => exact ⟨s, rfl, rfl⟩
  | none =>
    rw [unnamed_ofImports]
    exact run_firstNamed w load s name _

end FileScope

/-! ### The import that is meant -/

section Meant

variable {nameOf : String → Option String} {specs : List ImportSpec} {name : String}

/-- No two imports are known by one name. -/
def DistinctNames (nameOf : String → Option String) (specs : List ImportSpec) : Prop :=
  (specs.filterMap (ImportSpec.effectiveName? nameOf)).Nodup

theorem DistinctNames.ne_behind {front back : List ImportSpec} {spec other : ImportSpec}
    (h : DistinctNames nameOf (front ++ spec :: back))
    (known : spec.effectiveName? nameOf = some name) (behind : other ∈ back) :
    other.effectiveName? nameOf ≠ some name := by
  intro same
  unfold DistinctNames at h
  rw [List.filterMap_append, List.filterMap_cons_some known] at h
  have here := (List.nodup_append.1 h).2.1
  exact (List.nodup_cons.1 here).1 (List.mem_filterMap.2 ⟨other, behind, same⟩)

theorem DistinctNames.eq {spec other : ImportSpec} (h : DistinctNames nameOf specs)
    (hs : spec ∈ specs) (ho : other ∈ specs) (known : spec.effectiveName? nameOf = some name)
    (same : other.effectiveName? nameOf = some name) : spec = other := by
  obtain ⟨front, back, rfl⟩ := List.mem_iff_append.1 hs
  rcases List.mem_append.1 ho with before | behind
  · obtain ⟨more, rest, rfl⟩ := List.mem_iff_append.1 before
    rw [List.append_assoc, List.cons_append] at h
    exact absurd known (h.ne_behind same (by simp))
  · rcases List.mem_cons.1 behind with rfl | behind
    · rfl
    · exact absurd same (h.ne_behind known behind)

/-- If no import is looked up by a name, the first package of that name is that of the import that
is known by it. -/
theorem DistinctNames.find?_unnamed (h : DistinctNames nameOf specs)
    (unwritten : ∀ spec ∈ specs, spec.writtenName? ≠ some name) {path : String} :
    ((specs.filter ImportSpec.isUnnamed).map ImportSpec.path).find?
        (fun path => nameOf path == some name) = some path
      ↔ ∃ spec ∈ specs, spec.effectiveName? nameOf = some name ∧ spec.path = path := by
  -- the imports among which the package is looked for
  have among : ∀ {other}, other ∈ (specs.filter ImportSpec.isUnnamed).map ImportSpec.path →
      nameOf other = some name →
        ∃ spec ∈ specs, spec.effectiveName? nameOf = some name ∧ spec.path = other := by
    intro other ho named
    obtain ⟨spec, hs, rfl⟩ := List.mem_map.1 ho
    obtain ⟨mem, unnamed⟩ := List.mem_filter.1 hs
    exact ⟨spec, mem, (ImportSpec.effectiveName?_of_isUnnamed unnamed).trans named, rfl⟩
  constructor
  · intro found
    exact among (List.mem_of_find?_eq_some found) (by simpa using List.find?_some found)
  · rintro ⟨spec, mem, known, rfl⟩
    have unnamed := ImportSpec.isUnnamed_of_effectiveName? known (unwritten spec mem)
    have listed : spec.path ∈ (specs.filter ImportSpec.isUnnamed).map ImportSpec.path :=
      List.mem_map.2 ⟨spec, List.mem_filter.2 ⟨mem, unnamed⟩, rfl⟩
    have named : nameOf spec.path = some name :=
      (ImportSpec.effectiveName?_of_isUnnamed unnamed).symm.trans known
    cases found : ((specs.filter ImportSpec.isUnnamed).map ImportSpec.path).find?
        fun path => nameOf path == some name with
    | none => exact absurd (by simpa using named) (List.find?_eq_none.1 found _ listed)
    | some other =>
      obtain ⟨meant, hm, knownToo, rfl⟩ :=
        among (List.mem_of_find?_eq_some found) (by simpa using List.find?_some found)
      rw [h.eq hm mem knownToo known]

end Meant

/-- What a name stands for in a file in which no two imports are known by one name.  If no import
is looked up by it wrongly, then it stands for the import that is known by it, and for nothing if
there is none.  An import that is rightly looked up by it is found in any case where none behind it
misleads; and where none is rightly looked up by it, the last one that misleads is found. -/
theorem importPath_effective (w : Workspace) (load : String → Check CheckedPackage) (s : Session)
    (specs : List ImportSpec) (name : String) (distinct : DistinctNames (w.nameIn s) specs) :
    ∃ answer later,
      ((FileScope.ofImports specs).importPath? ⟨load, w.packageName?⟩ name).run.run s
        = (.ok answer, later)
      ∧ w.nameIn later = w.nameIn s
      ∧ ((∀ spec ∈ specs, ¬ spec.Misleads (w.nameIn s) name) → ∀ path, answer = some path ↔
        ∃ spec ∈ specs, spec.effectiveName? (w.nameIn s) = some name ∧ spec.path = path)
      ∧ (∀ front spec back, specs = front ++ spec :: back → spec.IsPlainly (w.nameIn s) name →
        (∀ other ∈ back, ¬ other.Misleads (w.nameIn s) name) → answer = some spec.path)
      ∧ ((∀ spec ∈ specs, ¬ spec.IsPlainly (w.nameIn s) name) →
        ∀ spec, IsLastOf (ImportSpec.Misleads (w.nameIn s) name) specs spec →
          answer = some spec.path) := by
  obtain ⟨later, ran, kept⟩ := FileScope.run_importPath? w load s specs name
  -- the last import that is looked up by the name is found, if there is one
  have last : ∀ spec, IsLastOf (fun spec => spec.writtenName? = some name) specs spec →
      ((FileScope.ofImports specs).names.lookup name).or
        (((specs.filter ImportSpec.isUnnamed).map ImportSpec.path).find? fun path =>
          w.nameIn s path == some name) = some spec.path := by
    intro spec hs
    rw [FileScope.lookup_names_of_isLastOf hs, Option.some_or]
  refine ⟨_, later, ran, kept, ?_, ?_, ?_⟩
  · intro right path
    have known : ∀ spec ∈ specs, spec.writtenName? = some name →
        spec.effectiveName? (w.nameIn s) = some name := fun spec hs written =>
      not_not.1 fun other => right spec hs ⟨written, other⟩
    rcases FileScope.exists_isLastOf_or (fun spec => spec.writtenName? = some name) specs with
      ⟨spec, hl⟩ | unwritten
    · rw [last spec hl, Option.some.injEq]
      obtain ⟨front, back, e, written, -⟩ := hl
      have mem : spec ∈ specs := by rw [e]; simp
      constructor
      · rintro rfl
        exact ⟨spec, mem, known spec mem written, rfl⟩
      · rintro ⟨other, ho, knownToo, rfl⟩
        rw [distinct.eq mem ho (known spec mem written) knownToo]
    · rw [FileScope.lookup_names_eq_none unwritten, Option.none_or]
      exact distinct.find?_unnamed unwritten
  · intro front spec back e plainly right
    refine last spec ⟨front, back, e, plainly.1, fun other ho written => ?_⟩
    -- an import behind is not known by the same name, so it would mislead
    rw [e] at distinct
    exact right other ho ⟨written, distinct.ne_behind plainly.2 ho⟩
  · rintro none' spec ⟨front, back, e, misleads, behind⟩
    refine last spec ⟨front, back, e, misleads.1, fun other ho written => ?_⟩
    refine behind other ho ⟨written, fun known => none' other ?_ ⟨written, known⟩⟩
    rw [e]
    simp [ho]

/-! ### A decorated path -/

/-- A package whose path suggests another name than it has, and one more package. -/
def decorated : Workspace where
  tree :=
    ⟨[(["src"], .directory directoryMode),
      (["src", "example.com"], .directory directoryMode),
      (["src", "example.com", "go-widgets"], .directory directoryMode),
      (["src", "example.com", "go-widgets", "w.go"],
        .file (.text "package widget\ntype Part int\n") fileMode),
      (["src", "example.com", "other"], .directory directoryMode),
      (["src", "example.com", "other", "o.go"], .file (.text "package other\n") fileMode)]⟩
  context := ⟨⟨"/work"⟩, ⟨"/"⟩, none, hostPlatform⟩

/-- The import of the package with the decorated path. -/
def decoratedImport : ImportSpec := ⟨.own, "example.com/go-widgets"⟩

/-- The import of the other package, under the name that the decorated path suggests. -/
def aliasedImport : ImportSpec := ⟨.name "widgets", "example.com/other"⟩

theorem effectiveName?_decoratedImport :
    decoratedImport.effectiveName? (decorated.nameIn .empty) = some "widget" := by
  decide +kernel

theorem distinctNames_decorated :
    DistinctNames (decorated.nameIn .empty) [decoratedImport, aliasedImport] := by
  have alias' : aliasedImport.effectiveName? (decorated.nameIn .empty) = some "widgets" := rfl
  unfold DistinctNames
  rw [List.filterMap_cons_some effectiveName?_decoratedImport, List.filterMap_cons_some alias',
    List.filterMap_nil]
  decide

/-- In a file that imports both, the alias stands for the other package and the package name for
the one with the decorated path. -/
theorem importPath_effective_decorated :
    DistinctNames (decorated.nameIn .empty) [decoratedImport, aliasedImport]
      ∧ (∃ later, ((FileScope.ofImports [decoratedImport, aliasedImport]).importPath?
          decorated.importer "widgets").run.run .empty = (.ok (some "example.com/other"), later))
      ∧ ∃ later, ((FileScope.ofImports [decoratedImport, aliasedImport]).importPath?
          decorated.importer "widget").run.run .empty
            = (.ok (some "example.com/go-widgets"), later) := by
  refine ⟨distinctNames_decorated, ?_, ?_⟩
  · obtain ⟨answer, later, ran, -, -, plainly, -⟩ := importPath_effective decorated
      (decorated.loadPackage decorated.importBound) .empty [decoratedImport, aliasedImport]
      "widgets" distinctNames_decorated
    have meant := plainly [decoratedImport] aliasedImport [] rfl ⟨rfl, rfl⟩ fun _ hm => by cases hm
    exact ⟨later, meant ▸ ran⟩
  · obtain ⟨answer, later, ran, -, known, -, -⟩ := importPath_effective decorated
      (decorated.loadPackage decorated.importBound) .empty [decoratedImport, aliasedImport] "widget"
      distinctNames_decorated
    have right : ∀ spec ∈ [decoratedImport, aliasedImport],
        ¬ spec.Misleads (decorated.nameIn .empty) "widget" := by
      refine List.forall_mem_cons.2 ⟨fun h => h.2 effectiveName?_decoratedImport, ?_⟩
      exact List.forall_mem_singleton.2 fun h => absurd h.1 (by decide)
    have meant := (known right "example.com/go-widgets").2
      ⟨decoratedImport, by simp, effectiveName?_decoratedImport, rfl⟩
    exact ⟨later, meant ▸ ran⟩

/-- In a file that imports only the package with the decorated path, no import is known by the name
that the path suggests; and still that name stands for the package. -/
theorem suggested_name_is_found :
    DistinctNames (decorated.nameIn .empty) [decoratedImport]
      ∧ (∀ spec ∈ [decoratedImport],
        spec.effectiveName? (decorated.nameIn .empty) ≠ some "widgets")
      ∧ ((FileScope.ofImports [decoratedImport]).importPath? decorated.importer
          "widgets").run.run .empty = (.ok (some "example.com/go-widgets"), .empty) := by
  have suggested : (FileScope.ofImports [decoratedImport]).names.lookup "widgets"
      = some "example.com/go-widgets" := by decide
  refine ⟨?_, List.forall_mem_singleton.2 ?_, ?_⟩
  · unfold DistinctNames
    rw [List.filterMap_cons_some effectiveName?_decoratedImport, List.filterMap_nil]
    decide
  · rw [effectiveName?_decoratedImport]
    decide
  · unfold FileScope.importPath?
    rw [suggested]
    rfl

end WrapperGen
