import Mathlib.Data.List.Perm.Basic
import Mathlib.Data.List.Nodup
import WrapperGen.Proofs.CheckerAgreement
import WrapperGen.Proofs.Places

/-!
# Declarations in another order

The declarations of types and of constants stand in a file in some order.  Where their names are
distinct, what a name stands for does not depend on that order.  The places of declarations change
with it, so files are compared without them.

## Main definitions

* `SourceFile.Reorders`: a file holds what another one does, with its declarations in another order.
* `PackageScope.Reorders`: a package declares what another one does, in another order.
* `DistinctDeclarations`: the names that some files declare are distinct.

## Main results

* `reorders_ofFiles`: files whose declarations are in another order give such a package.
* `PackageScope.looksUp_unplaced`, `PackageScope.Reorders.looksUp`: names stand for the same in
  both.
-/

namespace WrapperGen

open Source

/-! ### Entries with distinct names -/

section

variable {α β : Type} {nameOf : α → String} {entries others : List α}

theorem keepFirst_eq_self (distinct : (entries.map nameOf).Nodup) :
    keepFirst nameOf entries = entries := by
  have all : ∀ entries kept : List α, ((kept.reverse ++ entries).map nameOf).Nodup →
      entries.foldl (fun kept entry =>
        if kept.any (fun other => nameOf other == nameOf entry) then kept else entry :: kept) kept
        = entries.reverse ++ kept := by
    intro entries
    induction entries with
    | nil => exact fun kept _ => rfl
    | cons first rest ih =>
      intro kept distinct
      have new : ¬ kept.any (fun other => nameOf other == nameOf first) = true := by
        rw [List.any_eq_true]
        rintro ⟨other, mem, same⟩
        rw [List.map_append, List.nodup_append] at distinct
        refine distinct.2.2 (nameOf other) ?_ (nameOf first) ?_ (beq_iff_eq.1 same)
        · exact List.mem_map.2 ⟨other, List.mem_reverse.2 mem, rfl⟩
        · exact List.mem_map.2 ⟨first, List.mem_cons_self, rfl⟩
      rw [List.foldl_cons, if_neg new, ih, List.reverse_cons, List.append_assoc]
      · rfl
      · rwa [List.reverse_cons, List.append_assoc]
  rw [keepFirst, all entries [] distinct, List.append_nil, List.reverse_reverse]

/-- Among entries with distinct names, the one of a name is the same in any order. -/
theorem find?_eq_of_perm (perm : entries.Perm others) (distinct : (entries.map nameOf).Nodup)
    (name : String) :
    entries.find? (fun entry => nameOf entry == name)
      = others.find? (fun entry => nameOf entry == name) := by
  induction perm with
  | nil => rfl
  | cons first _ ih => rw [List.find?_cons, List.find?_cons, ih distinct.of_cons]
  | swap first second rest =>
    have differ : nameOf second ≠ nameOf first := fun same =>
      (List.nodup_cons.1 distinct).1 (List.mem_cons.2 (.inl same))
    rw [List.find?_cons, List.find?_cons, List.find?_cons, List.find?_cons]
    by_cases here : (nameOf first == name) = true
    · have there : (nameOf second == name) = false := by
        rw [← beq_iff_eq.1 here]
        exact beq_false_of_ne differ
      rw [here, there]
    · rw [Bool.not_eq_true] at here
      rw [here]
  | trans first _ ih ih' =>
    exact (ih distinct).trans (ih' ((first.map nameOf).nodup_iff.1 distinct))

theorem perm_flatMap_of_forall₂ {R : α → α → Prop} {f : α → List β}
    (related : List.Forall₂ R entries others) (h : ∀ a b, R a b → (f a).Perm (f b)) :
    (entries.flatMap f).Perm (others.flatMap f) := by
  induction related with
  | nil => exact .nil
  | cons first _ ih => exact (h _ _ first).append ih

end

/-! ### Files -/

/-- A file holds what another one does, with its declarations of types and its groups of constants
in another order, and perhaps at other places. -/
structure SourceFile.Reorders (other file : SourceFile) : Prop where
  /-- The names for packages are the same. -/
  scope : other.scope = file.scope
  /-- So are the types. -/
  types : (other.content.typeSpecs.map TypeSpec.unplaced).Perm
    (file.content.typeSpecs.map TypeSpec.unplaced)
  /-- So are the groups of constants. -/
  constants : (other.content.constGroups.map fun group => group.map ConstSpec.unplaced).Perm
    (file.content.constGroups.map fun group => group.map ConstSpec.unplaced)

/-- The types that a file declares. -/
def SourceFile.types (file : SourceFile) : List TypeEntry :=
  file.content.typeSpecs.map fun spec => ⟨file, spec⟩

/-- The constants that a file declares. -/
def SourceFile.constants (file : SourceFile) : List ConstEntry :=
  file.content.constGroups.flatMap (groupEntries file 0 [])

/-- The names of types that some files declare are distinct, and so are those of constants. -/
structure DistinctDeclarations (files : List SourceFile) : Prop where
  /-- The names of types. -/
  types : ((files.flatMap SourceFile.types).map (·.spec.name)).Nodup
  /-- The names of constants. -/
  constants : ((files.flatMap SourceFile.constants).map (·.name)).Nodup

theorem map_groupEntries (file : SourceFile) (counter : Nat) (values : List Expr)
    (specs : List ConstSpec) :
    (groupEntries file counter values specs).map ConstEntry.unplaced
      = groupEntries file.unplaced counter (values.map Expr.unplaced)
          (specs.map ConstSpec.unplaced) := by
  induction specs generalizing counter values with
  | nil => rfl
  | cons spec rest ih =>
    have given : (spec.values?.getD values).map Expr.unplaced
        = spec.unplaced.values?.getD (values.map Expr.unplaced) := by
      unfold ConstSpec.unplaced
      cases spec.values? with
      | none => rfl
      | some here => rfl
    rw [groupEntries, List.map_append, ih, given, List.map_cons, groupEntries, List.map_filterMap]
    refine congrArg (· ++ _) (List.filterMap_congr fun ⟨name, position⟩ _ => ?_)
    dsimp only
    rw [← given, List.getElem?_map]
    by_cases blank : (name == "_") = true
    · rw [if_pos blank, if_pos blank]
      rfl
    · rw [if_neg blank, if_neg blank]
      rfl

theorem SourceFile.map_types (file : SourceFile) :
    file.types.map TypeEntry.unplaced
      = (file.content.typeSpecs.map TypeSpec.unplaced).map fun spec => ⟨file.unplaced, spec⟩ := by
  rw [types, List.map_map, List.map_map]
  rfl

theorem SourceFile.map_constants (file : SourceFile) :
    file.constants.map ConstEntry.unplaced
      = (file.content.constGroups.map fun group => group.map ConstSpec.unplaced).flatMap
          (groupEntries file.unplaced 0 []) := by
  rw [constants, List.map_flatMap, List.flatMap_map]
  exact List.flatMap_congr fun group _ => map_groupEntries file 0 [] group

namespace SourceFile.Reorders

variable {other file : SourceFile}

theorem unplaced_eq (h : other.Reorders file) : other.unplaced = file.unplaced := by
  unfold SourceFile.unplaced
  rw [h.scope]

theorem perm_types (h : other.Reorders file) :
    (other.types.map TypeEntry.unplaced).Perm (file.types.map TypeEntry.unplaced) := by
  rw [map_types, map_types, h.unplaced_eq]
  exact h.types.map _

theorem perm_constants (h : other.Reorders file) :
    (other.constants.map ConstEntry.unplaced).Perm (file.constants.map ConstEntry.unplaced) := by
  rw [map_constants, map_constants, h.unplaced_eq]
  exact h.constants.flatMap_right _

end SourceFile.Reorders

/-! ### Packages -/

namespace PackageScope

/-- What a package declares, without places. -/
def unplaced (scope : PackageScope) : PackageScope where
  importPath := scope.importPath
  types := scope.types.map TypeEntry.unplaced
  constants := scope.constants.map ConstEntry.unplaced

/-- A package declares what another one does, in another order and perhaps at other places; the
names of types are distinct, and so are those of constants. -/
structure Reorders (other scope : PackageScope) : Prop where
  /-- The import path is the same. -/
  importPath : other.importPath = scope.importPath
  /-- So are the types. -/
  types : (other.types.map TypeEntry.unplaced).Perm (scope.types.map TypeEntry.unplaced)
  /-- So are the constants. -/
  constants : (other.constants.map ConstEntry.unplaced).Perm
    (scope.constants.map ConstEntry.unplaced)
  /-- The names of the types are distinct. -/
  typeNames : (scope.types.map (·.spec.name)).Nodup
  /-- The names of the constants are distinct. -/
  constantNames : (scope.constants.map (·.name)).Nodup

variable {other scope : PackageScope}

theorem looksUp_unplaced (scope : PackageScope) : scope.unplaced.LooksUp scope where
  importPath := rfl
  type? := fun _ => List.find?_map
  constant? := fun _ => List.find?_map
  types := List.length_map _
  constants := List.length_map _

theorem map_unplaced_types (entries : List TypeEntry) :
    (entries.map TypeEntry.unplaced).map (·.spec.name) = entries.map (·.spec.name) :=
  List.map_map

theorem map_unplaced_constants (entries : List ConstEntry) :
    (entries.map ConstEntry.unplaced).map (·.name) = entries.map (·.name) :=
  List.map_map

/-- Names stand for the same where the declarations are in another order. -/
theorem Reorders.looksUp (h : other.Reorders scope) : scope.unplaced.LooksUp other := by
  have self := looksUp_unplaced other
  refine ⟨h.importPath.symm, fun name => ?_, fun name => ?_, ?_, ?_⟩
  · rw [← self.type? name]
    refine find?_eq_of_perm h.types.symm ?_ name
    rw [map_unplaced_types]
    exact h.typeNames
  · rw [← self.constant? name]
    refine find?_eq_of_perm h.constants.symm ?_ name
    rw [map_unplaced_constants]
    exact h.constantNames
  · rw [← self.types]
    exact h.types.length_eq.symm
  · rw [← self.constants]
    exact h.constants.length_eq.symm

end PackageScope

variable {files others : List SourceFile} {importPath : String}

theorem DistinctDeclarations.types_ofFiles (distinct : DistinctDeclarations files) :
    (PackageScope.ofFiles importPath files).types = files.flatMap SourceFile.types :=
  keepFirst_eq_self distinct.types

theorem DistinctDeclarations.constants_ofFiles (distinct : DistinctDeclarations files) :
    (PackageScope.ofFiles importPath files).constants = files.flatMap SourceFile.constants :=
  keepFirst_eq_self distinct.constants

theorem exists_of_mem_reordered (reordered : List.Forall₂ SourceFile.Reorders others files)
    {file : SourceFile} (hf : file ∈ others) : ∃ first ∈ files, file.Reorders first := by
  induction reordered with
  | nil => cases hf
  | cons here _ ih =>
    rcases List.mem_cons.1 hf with rfl | hf
    · exact ⟨_, List.mem_cons_self, here⟩
    · obtain ⟨first, mem, there⟩ := ih hf
      exact ⟨first, List.mem_cons_of_mem _ mem, there⟩

/-- Files whose declarations are in another order declare the same. -/
theorem reorders_ofFiles (reordered : List.Forall₂ SourceFile.Reorders others files)
    (distinct : DistinctDeclarations files) (importPath : String) :
    (PackageScope.ofFiles importPath others).Reorders (PackageScope.ofFiles importPath files) := by
  have types : ((others.flatMap SourceFile.types).map TypeEntry.unplaced).Perm
      ((files.flatMap SourceFile.types).map TypeEntry.unplaced) := by
    rw [List.map_flatMap, List.map_flatMap]
    exact perm_flatMap_of_forall₂ reordered fun _ _ => SourceFile.Reorders.perm_types
  have constants : ((others.flatMap SourceFile.constants).map ConstEntry.unplaced).Perm
      ((files.flatMap SourceFile.constants).map ConstEntry.unplaced) := by
    rw [List.map_flatMap, List.map_flatMap]
    exact perm_flatMap_of_forall₂ reordered fun _ _ => SourceFile.Reorders.perm_constants
  -- with the declarations, their names are the same, so none is left out here either
  have distinct' : DistinctDeclarations others := by
    constructor
    · have names := types.map (·.spec.name)
      rw [PackageScope.map_unplaced_types, PackageScope.map_unplaced_types] at names
      exact names.nodup_iff.2 distinct.types
    · have names := constants.map (·.name)
      rw [PackageScope.map_unplaced_constants, PackageScope.map_unplaced_constants] at names
      exact names.nodup_iff.2 distinct.constants
  constructor
  · rfl
  · rw [distinct'.types_ofFiles, distinct.types_ofFiles]
    exact types
  · rw [distinct'.constants_ofFiles, distinct.constants_ofFiles]
    exact constants
  · rw [distinct.types_ofFiles]
    exact distinct.types
  · rw [distinct.constants_ofFiles]
    exact distinct.constants

end WrapperGen
