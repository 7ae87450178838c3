import Mathlib.Data.List.Induction
import Mathlib.Logic.Relation
import WrapperGen.Check.Kinds

/-!
# What definitions refer to

The kind of a type depends on the types that its definition names, and the value of a constant on
the constants in its expression.  While one of them is being determined its name is pending.  The
names that are pending form a chain of references that leads to the name in question; so if that
is one of them, there is a cycle through it, and if not, the chain can grow only as long as there
are names.

## Main definitions

* `TypeExpr.kindNames`, `PackageScope.Embeds`: the references between types.
* `Expr.names`, `PackageScope.RefersTo`: the references between constants.
* `Fault.IsReal`: the cycle that a fault tells of is there.
* `Chain`: names that are pending.

## Main results

* `Chain.cycle`: a name that is pending already is part of a cycle.
* `Chain.length_lt`: a chain to another name is shorter than there are names.
-/

namespace WrapperGen

open Source

/-! ### References -/

mutual

/-- The names of types on which the kind of a type may depend. -/
def Source.TypeExpr.kindNames : TypeExpr → List String
  | .name _ text => [text]
  | .paren _ inner => inner.kindNames
  | .interface _ elements => embeddedNames elements
  | _ => []

/-- The names of types that are embedded by some elements of an interface. -/
def embeddedNames : List Element → List String
  | [] => []
  | .types (.mk _ [term]) :: rest =>
      if isEmbeddable term then term.kindNames ++ embeddedNames rest else embeddedNames rest
  | _ :: rest => embeddedNames rest

end

/-- The names of constants in an expression. -/
def Source.Expr.names : Expr → List String
  | .name _ text => [text]
  | .paren _ inner => inner.names
  | .unary _ _ operand => operand.names
  | .binary _ _ left right => left.names ++ right.names
  | _ => []

/-! ### Entries with distinct names -/

section

variable {α : Type} {nameOf : α → String} {entries : List α}

theorem keepFirst_concat (entries : List α) (last : α) :
    keepFirst nameOf (entries ++ [last])
      = if (keepFirst nameOf entries).any (fun other => nameOf other == nameOf last)
        then keepFirst nameOf entries else keepFirst nameOf entries ++ [last] := by
  rw [keepFirst, keepFirst, List.foldl_append, List.any_reverse]
  simp only [List.foldl_cons, List.foldl_nil]
  split
  · rfl
  · rw [List.reverse_cons]

/-- No two entries that are kept have one name. -/
theorem nodup_keepFirst : ((keepFirst nameOf entries).map nameOf).Nodup := by
  induction entries using List.reverseRecOn with
  | nil => exact List.nodup_nil
  | append_singleton entries last ih =>
    rw [keepFirst_concat]
    split
    · exact ih
    · rename_i new
      rw [List.map_append, List.nodup_append]
      refine ⟨ih, List.pairwise_singleton _ _, fun name old other here same => new ?_⟩
      obtain ⟨kept, hk, rfl⟩ := List.mem_map.1 old
      obtain rfl := List.mem_singleton.1 here
      exact List.any_eq_true.2 ⟨kept, hk, beq_iff_eq.2 same⟩

theorem mem_of_mem_keepFirst {entry : α} (h : entry ∈ keepFirst nameOf entries) :
    entry ∈ entries := by
  induction entries using List.reverseRecOn with
  | nil => cases h
  | append_singleton entries last ih =>
    rw [keepFirst_concat] at h
    split at h
    · exact List.mem_append_left _ (ih h)
    · exact (List.mem_append.1 h).elim (fun old => List.mem_append_left _ (ih old))
        (List.mem_append_right _)

theorem exists_mem_keepFirst {entry : α} (h : entry ∈ entries) :
    ∃ kept ∈ keepFirst nameOf entries, nameOf kept = nameOf entry := by
  induction entries using List.reverseRecOn with
  | nil => cases h
  | append_singleton entries last ih =>
    rw [keepFirst_concat]
    split
    · rename_i known
      rcases List.mem_append.1 h with old | new
      · exact ih old
      · obtain rfl := List.mem_singleton.1 new
        obtain ⟨kept, hk, same⟩ := List.any_eq_true.1 known
        exact ⟨kept, hk, beq_iff_eq.1 same⟩
    · rcases List.mem_append.1 h with old | new
      · obtain ⟨kept, hk, same⟩ := ih old
        exact ⟨kept, List.mem_append_left _ hk, same⟩
      · exact ⟨last, List.mem_append_right _ List.mem_cons_self,
          congrArg nameOf (List.mem_singleton.1 new).symm⟩

/-- The entry that is kept for a name is the first one that has it. -/
theorem find?_keepFirst (name : String) :
    (keepFirst nameOf entries).find? (fun other => nameOf other == name)
      = entries.find? (fun other => nameOf other == name) := by
  induction entries using List.reverseRecOn with
  | nil => rfl
  | append_singleton entries last ih =>
    rw [keepFirst_concat, List.find?_append, ← ih]
    split
    · rename_i known
      obtain ⟨kept, hk, same⟩ := List.any_eq_true.1 known
      cases found : (keepFirst nameOf entries).find? (fun other => nameOf other == name) with
      | some entry => rfl
      | none =>
        -- the name is not that of the last entry, which has the name of one that is kept
        have other : (nameOf last == name) = false := by
          have apart := List.find?_eq_none.1 found kept hk
          rwa [Bool.not_eq_true, beq_iff_eq.1 same] at apart
        rw [List.find?_cons, other]
        rfl
    · rw [List.find?_append]

variable (nameOf) in
/-- Entries that are sorted by their names are in the order of the names. -/
theorem pairwise_mergeSort (entries : List α) :
    (entries.mergeSort fun a b => !decide (nameOf b < nameOf a)).Pairwise
      fun a b => nameOf a ≤ nameOf b := by
  have sorted : (entries.mergeSort fun a b => !decide (nameOf b < nameOf a)).Pairwise
      fun a b => (!decide (nameOf b < nameOf a)) = true := by
    refine List.pairwise_mergeSort (fun a b c => ?_) (fun a b => ?_) entries
    · simp only [Bool.not_eq_true', decide_eq_false_iff_not, String.not_lt]
      exact String.le_trans
    · simp only [Bool.or_eq_true, Bool.not_eq_true', decide_eq_false_iff_not, String.not_lt]
      exact String.le_total _ _
  refine sorted.imp fun {a b} least => ?_
  simpa only [Bool.not_eq_true', decide_eq_false_iff_not, String.not_lt] using least

/-- Among entries with distinct names, each one is found by its name. -/
theorem find?_of_mem (distinct : (entries.map nameOf).Nodup) {entry : α} (h : entry ∈ entries) :
    entries.find? (fun other => nameOf other == nameOf entry) = some entry := by
  induction entries with
  | nil => cases h
  | cons first rest ih =>
    obtain ⟨new, distinct⟩ := List.nodup_cons.1 distinct
    rcases List.mem_cons.1 h with rfl | h
    · rw [List.find?_cons, beq_self_eq_true]
    · have differ : nameOf first ≠ nameOf entry := fun same =>
        new (List.mem_map.2 ⟨entry, h, same.symm⟩)
      rw [List.find?_cons, beq_false_of_ne differ]
      exact ih distinct h

end

/-! ### Names that a package declares -/

namespace PackageScope

theorem constant?_of_mem_ofFiles {importPath : String} {files : List SourceFile}
    {entry : ConstEntry} (h : entry ∈ (ofFiles importPath files).constants) :
    (ofFiles importPath files).constant? entry.name = some entry :=
  find?_of_mem nodup_keepFirst h

theorem mem_of_type? {s : PackageScope} {name : String} {entry : TypeEntry}
    (h : s.type? name = some entry) : entry ∈ s.types ∧ entry.spec.name = name :=
  ⟨List.mem_of_find?_eq_some h, by simpa using List.find?_some h⟩

theorem mem_of_constant? {s : PackageScope} {name : String} {entry : ConstEntry}
    (h : s.constant? name = some entry) : entry ∈ s.constants ∧ entry.name = name :=
  ⟨List.mem_of_find?_eq_some h, by simpa using List.find?_some h⟩

/-- The definition of the type `name` is the type `other`, or an interface that embeds it. -/
def Embeds (s : PackageScope) (name other : String) : Prop :=
  ∃ entry ∈ s.types, entry.spec.generic = false ∧ entry.spec.name = name
    ∧ other ∈ entry.spec.type.kindNames

/-- The value of the constant `name` is given by an expression in which `other` stands. -/
def RefersTo (s : PackageScope) (name other : String) : Prop :=
  ∃ entry ∈ s.constants, entry.name = name
    ∧ ∃ value, entry.value? = some value ∧ other ∈ value.names

end PackageScope

/-- The cycle that a fault tells of, if it tells of one, goes through the name that it gives. -/
def Fault.IsReal (s : PackageScope) : Fault → Prop
  | .recursiveType name => Relation.TransGen s.Embeds name name
  | .constantCycle name => Relation.TransGen s.RefersTo name name
  | _ => True

/-! ### Chains -/

/-- Different names, each `declared`, each of which comes to refer to one more name. -/
structure Chain (declared : String → Prop) (refers : String → String → Prop)
    (pending : List String) (name : String) : Prop where
  /-- They are different. -/
  nodup : pending.Nodup
  /-- They are declared. -/
  declared : ∀ other ∈ pending, declared other
  /-- They come to refer to the name. -/
  leads : ∀ other ∈ pending, Relation.TransGen refers other name

namespace Chain

variable {declared : String → Prop} {refers : String → String → Prop} {pending : List String}
  {name next : String}

theorem nil : Chain declared refers [] name :=
  ⟨List.nodup_nil, List.forall_mem_nil _, List.forall_mem_nil _⟩

/-- A name that is pending already is part of a cycle. -/
theorem cycle (h : Chain declared refers pending name) (old : name ∈ pending) :
    Relation.TransGen refers name name :=
  h.leads name old

theorem step (h : Chain declared refers pending name) (hn : declared name) (new : name ∉ pending)
    (r : refers name next) : Chain declared refers (name :: pending) next := by
  refine ⟨List.nodup_cons.2 ⟨new, h.nodup⟩, List.forall_mem_cons.2 ⟨hn, h.declared⟩, ?_⟩
  exact List.forall_mem_cons.2 ⟨.single r, fun other ho => (h.leads other ho).tail r⟩

/-- A chain to another name is shorter than there are names. -/
theorem length_lt {bound : Nat} (h : Chain declared refers pending name) (hn : declared name)
    (new : name ∉ pending) (bounded : ∀ names : List String, names.Nodup →
      (∀ other ∈ names, declared other) → names.length ≤ bound) : pending.length < bound :=
  bounded (name :: pending) (List.nodup_cons.2 ⟨new, h.nodup⟩)
    (List.forall_mem_cons.2 ⟨hn, h.declared⟩)

end Chain

end WrapperGen
