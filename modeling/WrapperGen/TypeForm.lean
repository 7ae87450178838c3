/-!
# Types

The type of a parameter or result is a tree whose leaves name declared types.  How a leaf names
a type depends on who looks: seen from everywhere, a name comes with the package that declares
it; seen from one package, the names of that package stand bare.  The shape above the leaves is
the same, so one tree serves both and `TypeForm.mapNames` goes from one view to the other.

## Main definitions

* `TypeForm`: types over a kind of names.
* `DeclaredName`, `DeclaredType`: the view in which every name has its package.
* `WrittenName`, `WrittenType`: the view from one package.
* `DeclaredType.seenFrom`: from the first view to the second.
* `Signature`, `Method`: parameters and results, and a name for them.

## Main results

* `TypeForm.same_iff`: the test for equal types decides equality.
-/

namespace WrapperGen

/-! ### Types over a kind of names -/

/-- Which way values may go through a channel. -/
inductive Direction
  /-- Both ways. -/
  | both
  /-- Only into it. -/
  | send
  /-- Only out of it. -/
  | receive
  deriving DecidableEq, Repr, Inhabited

/-- A type whose leaves are names of kind `ν`. -/
inductive TypeForm (ν : Type) where
  /-- A declared type. -/
  | named (name : ν)
  /-- A pointer. -/
  | pointer (element : TypeForm ν)
  /-- A slice. -/
  | slice (element : TypeForm ν)
  /-- An array of fixed length. -/
  | array (length : UInt64) (element : TypeForm ν)
  /-- A map. -/
  | map (key value : TypeForm ν)
  /-- A channel. -/
  | channel (direction : Direction) (element : TypeForm ν)
  /-- A function.  If it is variadic, its last parameter is the slice of the repeated type. -/
  | function (params results : List (TypeForm ν)) (variadic : Bool)
  /-- A generic type applied to types. -/
  | applied (base : TypeForm ν) (arguments : List (TypeForm ν))
  /-- The interface without methods. -/
  | emptyInterface
  /-- The structure without fields. -/
  | emptyStruct
  deriving Inhabited

namespace TypeForm

variable {ν μ : Type}

mutual

/-- The type with every name replaced. -/
def mapNames (f : ν → μ) : TypeForm ν → TypeForm μ
  | .named name => .named (f name)
  | .pointer element => .pointer (element.mapNames f)
  | .slice element => .slice (element.mapNames f)
  | .array length element => .array length (element.mapNames f)
  | .map key value => .map (key.mapNames f) (value.mapNames f)
  | .channel direction element => .channel direction (element.mapNames f)
  | .function params results variadic =>
      .function (mapNamesAll f params) (mapNamesAll f results) variadic
  | .applied base arguments => .applied (base.mapNames f) (mapNamesAll f arguments)
  | .emptyInterface => .emptyInterface
  | .emptyStruct => .emptyStruct

/-- The types with every name replaced. -/
def mapNamesAll (f : ν → μ) : List (TypeForm ν) → List (TypeForm μ)
  | [] => []
  | type :: rest => type.mapNames f :: mapNamesAll f rest

end

/-- Replacing names goes through a list type by type. -/
theorem mapNamesAll_eq_map (f : ν → μ) (types : List (TypeForm ν)) :
    mapNamesAll f types = types.map (mapNames f) := by
  induction types with
  | nil => rfl
  | cons type rest ih => simp [mapNamesAll, ih]

/-! ### Equality -/

variable [DecidableEq ν]

mutual

/-- Whether two types are the same. -/
def same : TypeForm ν → TypeForm ν → Bool
  | .named a, .named b => a = b
  | .pointer a, .pointer b => same a b
  | .slice a, .slice b => same a b
  | .array m a, .array n b => m = n && same a b
  | .map k v, .map k' v' => same k k' && same v v'
  | .channel d a, .channel e b => d = e && same a b
  | .function p r v, .function p' r' v' => sameAll p p' && sameAll r r' && v == v'
  | .applied b as, .applied b' as' => same b b' && sameAll as as'
  | .emptyInterface, .emptyInterface => true
  | .emptyStruct, .emptyStruct => true
  | _, _ => false

/-- Whether two lists hold the same types. -/
def sameAll : List (TypeForm ν) → List (TypeForm ν) → Bool
  | [], [] => true
  | a :: as, b :: bs => same a b && sameAll as bs
  | _, _ => false

end

mutual

/-- The test for equal types decides equality. -/
theorem same_iff : (a b : TypeForm ν) → (same a b = true ↔ a = b)
  | .named a, b => by cases b <;> simp [same]
  | .pointer a, b => by
      cases b <;> simp [same]
      exact same_iff a _
  | .slice a, b => by
      cases b <;> simp [same]
      exact same_iff a _
  | .array m a, b => by
      cases b <;> simp [same]
      intro _
      exact same_iff a _
  | .map k v, b => by
      cases b <;> simp [same]
      rw [same_iff k, same_iff v]
  | .channel d a, b => by
      cases b <;> simp [same]
      intro _
      exact same_iff a _
  | .function p r v, b => by
      cases b <;> simp [same]
      rw [sameAll_iff p, sameAll_iff r, and_assoc]
  | .applied c as, b => by
      cases b <;> simp [same]
      rw [same_iff c, sameAll_iff as]
  | .emptyInterface, b => by cases b <;> simp [same]
  | .emptyStruct, b => by cases b <;> simp [same]

/-- The test for equal lists of types decides equality. -/
theorem sameAll_iff : (as bs : List (TypeForm ν)) → (sameAll as bs = true ↔ as = bs)
  | [], bs => by cases bs <;> simp [sameAll]
  | a :: as, bs => by
      cases bs with
      | nil => simp [sameAll]
      | cons b bs => simp [sameAll, same_iff a b, sameAll_iff as bs]

end

instance : DecidableEq (TypeForm ν) := fun a b =>
  if h : same a b = true then isTrue ((same_iff a b).1 h)
  else isFalse fun e => h ((same_iff a b).2 e)

end TypeForm

/-! ### The two views -/

/-- A name as seen from everywhere. -/
inductive DeclaredName
  /-- A type with the import path of the package that declares it; a predeclared type has
  none. -/
  | declared (name : String) (package? : Option String)
  /-- A type of the foreign code that the pseudo package `C` gives access to. -/
  | foreign (name : String)
  deriving DecidableEq, Repr, Inhabited

/-- A name as seen from one package. -/
inductive WrittenName
  /-- A type that is named bare, or with the import path of another package. -/
  | named (name : String) (package? : Option String)
  /-- A type behind a fixed qualifier that stands for no import path. -/
  | selected (qualifier name : String)
  deriving DecidableEq, Repr, Inhabited

/-- A type in which every name has its package. -/
abbrev DeclaredType := TypeForm DeclaredName

/-- A type as seen from one package. -/
abbrev WrittenType := TypeForm WrittenName

/-- The qualifier of foreign types. -/
def foreignQualifier : String := "C"

/-- The name as seen from the package `own`: its own types stand bare. -/
def DeclaredName.seenFrom (own : String) : DeclaredName → WrittenName
  | .declared name package? => .named name (if package? = some own then none else package?)
  | .foreign name => .selected foreignQualifier name

/-- The type as seen from the package `own`. -/
def DeclaredType.seenFrom (own : String) (type : DeclaredType) : WrittenType :=
  type.mapNames (DeclaredName.seenFrom own)

/-! ### Signatures -/

/-- Parameters and results.  If the signature is variadic, its last parameter is the slice of
the repeated type. -/
structure Signature (ν : Type) where
  /-- The types of the parameters, in order. -/
  params : List (TypeForm ν)
  /-- The types of the results, in order. -/
  results : List (TypeForm ν)
  /-- Whether the last parameter may be given any number of times. -/
  variadic : Bool
  deriving DecidableEq, Inhabited

namespace Signature

variable {ν μ : Type}

/-- The signature with every name replaced. -/
def mapNames (f : ν → μ) (s : Signature ν) : Signature μ :=
  ⟨s.params.map (·.mapNames f), s.results.map (·.mapNames f), s.variadic⟩

/-- The position of the parameter that may be repeated. -/
def variadicIndex? (s : Signature ν) : Option Nat :=
  if s.variadic && !s.params.isEmpty then some (s.params.length - 1) else none

end Signature

/-- A method: a name and a signature. -/
structure Method (ν : Type) where
  /-- The name of the method. -/
  name : String
  /-- Its parameters and results. -/
  signature : Signature ν
  deriving DecidableEq, Inhabited

end WrapperGen
