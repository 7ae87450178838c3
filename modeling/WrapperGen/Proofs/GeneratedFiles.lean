import Mathlib.Data.List.Perm.Subperm
import WrapperGen.Proofs.AddedStructs
import WrapperGen.Proofs.Reordering

/-!
# Generated files in a package

Files of wrappers declare structures, and functions, which are not looked at.  Where such files are
added to a package, or replace others of their kind, the package declares what it declared, and
structures besides.  That takes three things.  The generated files may not declare a name that
another file of the package declares: of two declarations the first counts, and the files are read
in the order of their names.  They may not take away a structure that was there, since other files
may use it.  And their package clause has to be that of the other files, which are read with them.

## Main definitions

* `SourceFile.DeclaresStructs`: a file that declares nothing but structures.
* `AddsStructs`: the files of a package before and after some of them have been generated.

## Main results

* `filter_keepFirst`, `find?_filter_of_keptApart`: names that are declared twice, where some of the
  declarations are left out.
* `AddsStructs.extends_ofFiles`: such a package has more structures, and is as it was otherwise.
* `AddsStructs.run_checkFiles`: so its interfaces are the same.
-/

namespace WrapperGen

open FileTree Source

/-! ### Entries of some files -/

section

variable {α β : Type} {nameOf : α → String} {entries : List α} {keep : α → Bool} {name : String}

/-- No entry that is kept has the name of one that is left out. -/
def KeptApart (nameOf : α → String) (keep : α → Bool) (entries : List α) : Prop :=
  ∀ a ∈ entries, ∀ b ∈ entries, keep a = true → keep b = false → nameOf b ≠ nameOf a

/-- Which entry is the first of a name does not depend on entries that are left out. -/
theorem find?_filter_of_keptApart (apart : KeptApart nameOf keep entries) {a : α}
    (mem : a ∈ entries) (kept : keep a = true) :
    (entries.filter keep).find? (fun other => nameOf other == nameOf a)
      = entries.find? (fun other => nameOf other == nameOf a) := by
  rw [← List.head?_filter, ← List.head?_filter, List.filter_filter]
  refine congrArg List.head? (List.filter_congr fun other ho => ?_)
  cases left : keep other with
  | true => rw [Bool.and_true]
  | false => rw [Bool.and_false, beq_false_of_ne (apart a mem other ho kept left)]

/-- The first entries of their names, those that are left out apart. -/
theorem filter_keepFirst (apart : KeptApart nameOf keep entries) :
    (keepFirst nameOf entries).filter keep = keepFirst nameOf (entries.filter keep) := by
  induction entries using List.reverseRecOn with
  | nil => rfl
  | append_singleton entries last ih =>
    have before := ih fun a ha b hb =>
      apart a (List.mem_append_left _ ha) b (List.mem_append_left _ hb)
    have lastMem : last ∈ entries ++ [last] := List.mem_append_right _ List.mem_cons_self
    rw [keepFirst_concat, List.filter_append]
    cases kept : keep last with
    | true =>
      -- whether the name is taken already is decided by the entries that are kept
      have taken : (keepFirst nameOf entries).any (fun other => nameOf other == nameOf last)
          = (keepFirst nameOf (entries.filter keep)).any
              (fun other => nameOf other == nameOf last) := by
        rw [← before, List.any_filter, Bool.eq_iff_iff, List.any_eq_true, List.any_eq_true]
        refine exists_congr fun other => and_congr_right fun ho => ?_
        cases left : keep other with
        | true => rw [Bool.true_and]
        | false =>
          have differ := apart last lastMem other
            (List.mem_append_left _ (mem_of_mem_keepFirst ho)) kept left
          rw [Bool.false_and, beq_false_of_ne differ]
      rw [List.filter_cons_of_pos kept, List.filter_nil, keepFirst_concat, taken]
      split
      · exact before
      · rw [List.filter_append, before, List.filter_cons_of_pos kept, List.filter_nil]
    | false =>
      rw [List.filter_cons_of_neg (by simp [kept]), List.filter_nil, List.append_nil, ← before]
      split
      · rfl
      · rw [List.filter_append, List.filter_cons_of_neg (by simp [kept]), List.filter_nil,
          List.append_nil]

/-- Where it is decided for each list as a whole which of its members are kept, these are the
members of the lists that are kept. -/
theorem filter_flatMap_eq {f : β → List α} {keepAll : β → Bool} {l : List β}
    (h : ∀ b ∈ l, ∀ a ∈ f b, keep a = keepAll b) :
    (l.flatMap f).filter keep = (l.filter keepAll).flatMap f := by
  induction l with
  | nil => rfl
  | cons first rest ih =>
    rw [List.flatMap_cons, List.filter_append, ih fun b hb => h b (List.mem_cons_of_mem _ hb),
      List.filter_congr (h first List.mem_cons_self)]
    cases kept : keepAll first with
    | true => rw [List.filter_cons_of_pos kept, List.flatMap_cons, List.filter_true]
    | false => rw [List.filter_cons_of_neg (by simp [kept]), List.filter_false, List.nil_append]

end

/-! ### Files that declare structures only -/

namespace SourceFile

/-- The names of the types that a file declares. -/
def typeNames (file : SourceFile) : List String := file.types.map (·.spec.name)

/-- A file that declares no constants, and no types but structures, none of which has a predeclared
name. -/
structure DeclaresStructs (file : SourceFile) : Prop where
  /-- There are no constants. -/
  constants : file.content.constGroups.isEmpty = true
  /-- All types are structures. -/
  structs : ∀ spec ∈ file.content.typeSpecs, spec.isStruct = true ∧ isPredeclared spec.name = false

instance (file : SourceFile) : Decidable file.DeclaresStructs :=
  decidable_of_iff (_ ∧ _) ⟨fun h => ⟨h.1, h.2⟩, fun h => ⟨h.constants, h.structs⟩⟩

theorem file_of_mem_types {file : SourceFile} {entry : TypeEntry} (h : entry ∈ file.types) :
    entry.file = file := by
  obtain ⟨spec, -, rfl⟩ := List.mem_map.1 h
  rfl

namespace DeclaresStructs

variable {file : SourceFile}

theorem constants_eq (h : file.DeclaresStructs) : file.constants = [] := by
  rw [SourceFile.constants, List.isEmpty_iff.1 h.constants, List.flatMap_nil]

theorem of_mem_types (h : file.DeclaresStructs) {entry : TypeEntry} (mem : entry ∈ file.types) :
    entry.spec.isStruct = true ∧ isPredeclared entry.spec.name = false := by
  obtain ⟨spec, hs, rfl⟩ := List.mem_map.1 mem
  exact h.structs spec hs

end DeclaresStructs

end SourceFile

/-- A file declares as much as another one, and imports as much. -/
structure SourceFile.Covers (other file : SourceFile) : Prop where
  /-- It declares the types. -/
  types : ∀ name ∈ file.typeNames, name ∈ other.typeNames
  /-- It imports the packages. -/
  imports : ∀ path ∈ file.scope.paths, path ∈ other.scope.paths

instance (other file : SourceFile) : Decidable (other.Covers file) :=
  decidable_of_iff (_ ∧ _) ⟨fun h => ⟨h.1, h.2⟩, fun h => ⟨h.types, h.imports⟩⟩

/-- What the files that are `ours` declare, no other file declares. -/
def DeclareApart (ours : SourceFile → Bool) (files : List SourceFile) : Prop :=
  ∀ file ∈ files, ours file = true → ∀ other ∈ files, ours other = false →
    ∀ name ∈ file.typeNames, name ∉ other.typeNames

instance (ours : SourceFile → Bool) (files : List SourceFile) :
    Decidable (DeclareApart ours files) :=
  inferInstanceAs (Decidable (∀ file ∈ files, ours file = true → ∀ other ∈ files,
    ours other = false → ∀ name ∈ file.typeNames, name ∉ other.typeNames))

/-- The files `later` of a package that consisted of `files`: those that are `ours` declare
structures only, and no less than those of ours that stood there before. -/
structure AddsStructs (ours : SourceFile → Bool) (files later : List SourceFile) : Prop where
  /-- Our files declare structures only. -/
  structs : ∀ file ∈ files ++ later, ours file = true → file.DeclaresStructs
  /-- What they declare, no other file declares. -/
  apart : DeclareApart ours later
  /-- For one that stood there before there is one that declares and imports as much. -/
  kept : ∀ file ∈ files, ours file = true →
    ∃ other ∈ later, ours other = true ∧ other.Covers file
  /-- All files are of one package. -/
  clause : ∀ file ∈ files, ∀ other ∈ later,
    other.content.packageName? = file.content.packageName?

instance (ours : SourceFile → Bool) (files later : List SourceFile) :
    Decidable (AddsStructs ours files later) :=
  decidable_of_iff (_ ∧ _ ∧ _ ∧ _) ⟨fun h => ⟨h.1, h.2.1, h.2.2.1, h.2.2.2⟩,
    fun h => ⟨h.structs, h.apart, h.kept, h.clause⟩⟩

namespace AddsStructs

variable {ours : SourceFile → Bool} {files later : List SourceFile} {importPath name : String}
  {file : SourceFile} {entry : TypeEntry}

/-! ### Declarations -/

theorem mem_of_type? (found : (PackageScope.ofFiles importPath files).type? name = some entry) :
    entry.spec.name = name ∧ ∃ file ∈ files, entry ∈ file.types ∧ name ∈ file.typeNames := by
  obtain ⟨mem, rfl⟩ := PackageScope.mem_of_type? found
  obtain ⟨file, hf, he⟩ := List.mem_flatMap.1 (mem_of_mem_keepFirst mem)
  exact ⟨rfl, file, hf, he, List.mem_map_of_mem he⟩

theorem exists_type? (importPath : String) (hf : file ∈ files) (mem : name ∈ file.typeNames) :
    ∃ entry, (PackageScope.ofFiles importPath files).type? name = some entry := by
  obtain ⟨entry, he, rfl⟩ := List.mem_map.1 mem
  rw [← Option.isSome_iff_exists, PackageScope.type?, PackageScope.ofFiles, find?_keepFirst]
  exact List.find?_isSome.2 ⟨entry, List.mem_flatMap.2 ⟨file, hf, he⟩, beq_self_eq_true _⟩

/-- Constants are declared by other files only. -/
theorem constants_eq (structs : ∀ file ∈ files, ours file = true → file.DeclaresStructs) :
    files.flatMap SourceFile.constants
      = (files.filter fun file => !ours file).flatMap SourceFile.constants := by
  rw [← filter_flatMap_eq fun file hf entry he => ?_, List.filter_true]
  cases mine : ours file with
  | false => rfl
  | true =>
    rw [(structs file hf mine).constants_eq] at he
    cases he

/-- The types that other files declare. -/
theorem filter_types (files : List SourceFile) :
    ((files.flatMap SourceFile.types).filter fun entry => !ours entry.file)
      = (files.filter fun file => !ours file).flatMap SourceFile.types :=
  filter_flatMap_eq fun file _ entry he => by rw [SourceFile.file_of_mem_types he]

/-- Types of other files have other names. -/
theorem keptApart (apart : DeclareApart ours files) :
    KeptApart (·.spec.name) (fun entry => !ours entry.file) (files.flatMap SourceFile.types) := by
  intro a ha b hb foreign mine same
  dsimp only at foreign mine
  obtain ⟨other, ho, ha⟩ := List.mem_flatMap.1 ha
  obtain ⟨file, hf, hb⟩ := List.mem_flatMap.1 hb
  rw [SourceFile.file_of_mem_types ha] at foreign
  rw [SourceFile.file_of_mem_types hb] at mine
  refine apart file hf (by simpa using mine) other ho (by simpa using foreign) b.spec.name
    (List.mem_map_of_mem hb) ?_
  rw [show b.spec.name = a.spec.name from same]
  exact List.mem_map_of_mem ha

/-- All but the structures comes from other files. -/
theorem filter_ofFiles (structs : ∀ file ∈ files, ours file = true → file.DeclaresStructs)
    (apart : DeclareApart ours files) :
    ((PackageScope.ofFiles importPath files).types.filter fun entry => !entry.spec.isStruct)
      = (PackageScope.ofFiles importPath (files.filter fun file => !ours file)).types.filter
          fun entry => !entry.spec.isStruct := by
  have left : ∀ entry ∈ (PackageScope.ofFiles importPath files).types,
      (!entry.spec.isStruct) = (!entry.spec.isStruct && !ours entry.file) := by
    intro entry he
    obtain ⟨file, hf, he⟩ := List.mem_flatMap.1 (mem_of_mem_keepFirst he)
    cases mine : ours entry.file with
    | false => rw [Bool.not_false, Bool.and_true]
    | true =>
      have same : entry.file = file := SourceFile.file_of_mem_types he
      rw [((structs file hf (same ▸ mine)).of_mem_types he).1]
      rfl
  rw [List.filter_congr left, ← List.filter_filter]
  refine congrArg (List.filter _) ?_
  exact (filter_keepFirst (keptApart apart)).trans (congrArg _ (filter_types files))

/-- A type of another file is the one of its name, whatever our files declare. -/
theorem type?_eq (apart : DeclareApart ours files) (hf : file ∈ files) (foreign : ours file = false)
    (he : entry ∈ file.types) :
    (PackageScope.ofFiles importPath files).type? entry.spec.name
      = (PackageScope.ofFiles importPath (files.filter fun file => !ours file)).type?
          entry.spec.name := by
  have kept : (!ours entry.file) = true := by
    rw [SourceFile.file_of_mem_types he, foreign, Bool.not_false]
  have first := find?_filter_of_keptApart (keptApart apart) (List.mem_flatMap.2 ⟨file, hf, he⟩) kept
  rw [filter_types] at first
  exact ((find?_keepFirst _).trans first.symm).trans (find?_keepFirst _).symm

/-! ### Before and after -/

section

variable (others : (later.filter fun file => !ours file) = files.filter fun file => !ours file)

include others

/-- The other files stay. -/
theorem mem_iff_of_others (foreign : ours file = false) : file ∈ later ↔ file ∈ files := by
  have both := congrArg (file ∈ ·) others
  simpa [foreign, List.mem_filter] using both

variable (h : AddsStructs ours files later)

include h

/-- What was declared is declared still, by a file of ours if it was before. -/
theorem exists_declares (hf : file ∈ files) (mem : name ∈ file.typeNames) :
    ∃ other ∈ later, ours other = ours file ∧ name ∈ other.typeNames := by
  cases mine : ours file with
  | false => exact ⟨file, (mem_iff_of_others others mine).2 hf, mine, mem⟩
  | true =>
    obtain ⟨other, ho, mineToo, covers⟩ := h.kept file hf mine
    exact ⟨other, ho, mineToo, covers.types name mem⟩

/-- What our files declare, no other file declared before. -/
theorem apart_before : DeclareApart ours files := by
  intro file hf mine other ho foreign name mem
  obtain ⟨again, ha, mineToo, covers⟩ := h.kept file hf mine
  exact h.apart again ha mineToo other ((mem_iff_of_others others foreign).2 ho) foreign name
    (covers.types name mem)

/-- The files have the name in common that the files before had. -/
theorem commonName_eq {dir : Path} (common : Workspace.commonName dir files = .ok name) :
    Workspace.commonName dir later = .ok name := by
  obtain ⟨some, same⟩ := Workspace.commonName_eq_ok_iff.1 common
  obtain ⟨first, rest, rfl⟩ := List.exists_cons_of_ne_nil some
  have here := List.mem_cons_self (a := first) (l := rest)
  refine Workspace.commonName_eq_ok_iff.2 ⟨?_, fun other ho => ?_⟩
  · cases mine : ours first with
    | true =>
      obtain ⟨other, ho, -⟩ := h.kept first here mine
      exact List.ne_nil_of_mem ho
    | false => exact List.ne_nil_of_mem ((mem_iff_of_others others mine).2 here)
  · exact (h.clause first here other ho).trans (same first here)

/-- A type of the package stands for what it stood for, but that a structure may be another one. -/
theorem exists_standsFor (found : (PackageScope.ofFiles importPath files).type? name = some entry) :
    ∃ other, (PackageScope.ofFiles importPath later).type? name = some other
      ∧ other.StandsFor entry := by
  obtain ⟨rfl, file, hf, he, mem⟩ := mem_of_type? found
  cases mine : ours file with
  -- an entry of another file is the first of its name still
  | false =>
    refine ⟨entry, ?_, .inl rfl⟩
    rw [type?_eq h.apart ((mem_iff_of_others others mine).2 hf) mine he, others,
      ← type?_eq (h.apart_before others) hf mine he]
    exact found
  -- a structure of ours is declared once more, and no other file declares its name
  | true =>
    obtain ⟨again, ha, mineToo, memToo⟩ := h.exists_declares others hf mem
    obtain ⟨other, there⟩ := exists_type? importPath ha memToo
    obtain ⟨-, home, hh, ho, memHome⟩ := mem_of_type? there
    have struct := (h.structs file (List.mem_append_left _ hf) mine).of_mem_types he
    refine ⟨other, there, .inr ⟨?_, struct.1⟩⟩
    cases foreign : ours home with
    | true => exact ((h.structs home (List.mem_append_right _ hh) foreign).of_mem_types ho).1
    | false => exact absurd memHome (h.apart again ha (mineToo.trans mine) home hh foreign _ memToo)

/-- A name that stood for no type stands for none now if it is predeclared. -/
theorem type?_eq_none (missing : (PackageScope.ofFiles importPath files).type? name = none)
    (predeclared : isPredeclared name = true) :
    (PackageScope.ofFiles importPath later).type? name = none := by
  cases found : (PackageScope.ofFiles importPath later).type? name with
  | none => rfl
  | some other =>
    obtain ⟨rfl, home, hh, ho, mem⟩ := mem_of_type? found
    cases mine : ours home with
    | true =>
      have fresh := ((h.structs home (List.mem_append_right _ hh) mine).of_mem_types ho).2
      rw [fresh] at predeclared
      cases predeclared
    | false =>
      obtain ⟨entry, old⟩ :=
        exists_type? importPath ((mem_iff_of_others others mine).1 hh) mem
      cases missing.symm.trans old

/-- No fewer types are declared. -/
theorem length_types_le :
    (PackageScope.ofFiles importPath files).types.length
      ≤ (PackageScope.ofFiles importPath later).types.length := by
  have sub : (PackageScope.ofFiles importPath files).types.map (·.spec.name)
      ⊆ (PackageScope.ofFiles importPath later).types.map (·.spec.name) := by
    intro name mem
    obtain ⟨entry, he, rfl⟩ := List.mem_map.1 mem
    obtain ⟨file, hf, he⟩ := List.mem_flatMap.1 (mem_of_mem_keepFirst he)
    obtain ⟨other, ho, -, memToo⟩ := h.exists_declares others hf (List.mem_map_of_mem he)
    obtain ⟨kept, there⟩ := exists_type? importPath ho memToo
    obtain ⟨hk, same⟩ := PackageScope.mem_of_type? there
    exact List.mem_map.2 ⟨kept, hk, same⟩
  have few := (nodup_keepFirst.subperm sub).length_le
  rwa [List.length_map, List.length_map] at few

/-- So the package has more structures, and is as it was otherwise. -/
theorem extends_ofFiles (importPath : String) :
    (PackageScope.ofFiles importPath files).Extends (PackageScope.ofFiles importPath later) where
  importPath := rfl
  constants := by
    show keepFirst _ (later.flatMap SourceFile.constants)
      = keepFirst _ (files.flatMap SourceFile.constants)
    rw [constants_eq fun file hf => h.structs file (List.mem_append_right _ hf),
      constants_eq fun file hf => h.structs file (List.mem_append_left _ hf), others]
  kept := fun _ _ => h.exists_standsFor others
  fresh := fun _ => h.type?_eq_none others
  others := by
    rw [filter_ofFiles (fun file hf => h.structs file (List.mem_append_right _ hf)) h.apart,
      filter_ofFiles (fun file hf => h.structs file (List.mem_append_left _ hf))
        (h.apart_before others), others]
  room := h.length_types_le others

/-- The package is checked as before, and has the same interfaces. -/
theorem run_checkFiles {importer : Importer} {dir : Path} {s last : Session}
    {package : CheckedPackage}
    (ran : (Workspace.checkFiles importer dir importPath files).run.run s = (.ok package, last)) :
    ∃ again, (Workspace.checkFiles importer dir importPath later).run.run s = (.ok again, last)
      ∧ again.toPackage = package.toPackage := by
  have extend := h.extends_ofFiles others importPath
  unfold Workspace.checkFiles at ran ⊢
  obtain ⟨name, _, named, ran⟩ := exists_of_run_bind ran
  rw [run_liftM] at named
  obtain ⟨common, rfl⟩ := Prod.mk.inj named
  obtain ⟨declarations, between, declared, ran⟩ := exists_of_run_bind ran
  obtain ⟨constants, _, valued, ran⟩ := exists_of_run_bind ran
  cases ran
  obtain ⟨again, declaredToo, same⟩ := extend.declarations importPath declared
  refine ⟨⟨name, importPath, again, constants⟩, ?_, ?_⟩
  · rw [run_bind, run_liftM, h.commonName_eq others common]
    dsimp only
    rw [run_bind_of_ok declaredToo, extend.exportedConstants_eq, run_bind_of_ok valued]
    rfl
  · unfold CheckedPackage.toPackage
    dsimp only
    rw [same]

end

end AddsStructs

end WrapperGen
