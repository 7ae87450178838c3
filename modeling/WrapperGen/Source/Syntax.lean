import WrapperGen.Source.Token
import WrapperGen.TypeForm

/-!
# Syntax trees

What is kept of a source text: types in full, expressions as far as they may be integer
constants, and the declarations that name types, constants and imports.  Every node knows the
part of the text that it was read from.

## Main definitions

* `Expr`: expressions.
* `TypeExpr`, `TypeElem`, `Param`, `Element`: types, and what interfaces and parameter lists
  consist of.
* `Item`: what stands at the top level of a file.
-/

namespace WrapperGen.Source

/-! ### Expressions -/

/-- The operators between two operands. -/
inductive BinaryOp
  /-- Product. -/
  | mul
  /-- Quotient. -/
  | div
  /-- Remainder. -/
  | rem
  /-- Shift to the left. -/
  | shiftLeft
  /-- Shift to the right. -/
  | shiftRight
  /-- Bits in both. -/
  | and
  /-- Bits in the left but not in the right. -/
  | andNot
  /-- Sum. -/
  | add
  /-- Difference. -/
  | sub
  /-- Bits in either. -/
  | or
  /-- Bits in exactly one. -/
  | xor
  /-- A comparison. -/
  | compare
  /-- Both conditions. -/
  | both
  /-- Either condition. -/
  | either
  deriving DecidableEq, Repr, Inhabited

/-- How tightly an operator binds. -/
def BinaryOp.precedence : BinaryOp → Nat
  | .mul | .div | .rem | .shiftLeft | .shiftRight | .and | .andNot => 5
  | .add | .sub | .or | .xor => 4
  | .compare => 3
  | .both => 2
  | .either => 1

/-- The operators in front of one operand. -/
inductive UnaryOp
  /-- The operand itself. -/
  | plus
  /-- Its negative. -/
  | minus
  /-- Its complement. -/
  | complement
  /-- An operator that gives no number. -/
  | other
  deriving DecidableEq, Repr, Inhabited

/-- An expression.  What can never be an integer constant is kept as its place only. -/
inductive Expr where
  /-- An integer literal. -/
  | integer (span : Span) (text : String)
  /-- The counter of a group of constants. -/
  | counter (span : Span)
  /-- A name. -/
  | name (span : Span) (text : String)
  /-- A name behind an expression and a point. -/
  | selector (span : Span) (operand : Expr) (field : String)
  /-- An expression in parentheses. -/
  | paren (span : Span) (inner : Expr)
  /-- An operator in front of an expression. -/
  | unary (span : Span) (op : UnaryOp) (operand : Expr)
  /-- An operator between two expressions. -/
  | binary (span : Span) (op : BinaryOp) (left right : Expr)
  /-- Any other expression. -/
  | other (span : Span)
  deriving DecidableEq, Repr, Inhabited

/-- Where an expression stands. -/
def Expr.span : Expr → Span
  | .integer span _ => span
  | .counter span => span
  | .name span _ => span
  | .selector span _ _ => span
  | .paren span _ => span
  | .unary span _ _ => span
  | .binary span _ _ _ => span
  | .other span => span

/-! ### Types -/

mutual

/-- A type as it is written. -/
inductive TypeExpr where
  /-- A name. -/
  | name (span : Span) (text : String)
  /-- A name of another package. -/
  | qualified (span : Span) (qualifier name : String)
  /-- A generic type with arguments. -/
  | generic (span : Span) (base : TypeExpr) (arguments : List TypeElem)
  /-- A pointer. -/
  | pointer (span : Span) (element : TypeExpr)
  /-- An array. -/
  | array (span : Span) (length : Expr) (element : TypeExpr)
  /-- A slice. -/
  | slice (span : Span) (element : TypeExpr)
  /-- A map. -/
  | map (span : Span) (key value : TypeExpr)
  /-- A channel. -/
  | channel (span : Span) (direction : Direction) (element : TypeExpr)
  /-- A function. -/
  | function (span : Span) (params results : List Param)
  /-- A structure, which may have fields. -/
  | struct (span : Span) (hasFields : Bool)
  /-- An interface. -/
  | interface (span : Span) (elements : List Element)
  /-- A type in parentheses. -/
  | paren (span : Span) (inner : TypeExpr)
  /-- All types whose definition goes back to a type. -/
  | approximation (span : Span) (inner : TypeExpr)

/-- A union of types. -/
inductive TypeElem where
  /-- The union of some terms. -/
  | mk (span : Span) (terms : List TypeExpr)

/-- Parameters that are declared together. -/
inductive Param where
  /-- One parameter for each name, or a single one without a name. -/
  | mk (names : Nat) (type : TypeExpr) (variadic : Bool)

/-- What an interface consists of. -/
inductive Element where
  /-- A method. -/
  | method (span : Span) (name : String) (params results : List Param)
  /-- Types that are embedded, or that limit the interface. -/
  | types (elem : TypeElem)

end

instance : Inhabited TypeExpr := ⟨.name default ""⟩

instance : Inhabited TypeElem := ⟨.mk default []⟩

instance : Inhabited Param := ⟨.mk 0 default false⟩

instance : Inhabited Element := ⟨.types default⟩

/-- Where a type stands. -/
def TypeExpr.span : TypeExpr → Span
  | .name span _ => span
  | .qualified span _ _ => span
  | .generic span _ _ => span
  | .pointer span _ => span
  | .array span _ _ => span
  | .slice span _ => span
  | .map span _ _ => span
  | .channel span _ _ => span
  | .function span _ _ => span
  | .struct span _ => span
  | .interface span _ => span
  | .paren span _ => span
  | .approximation span _ => span

/-- Where a union stands. -/
def TypeElem.span : TypeElem → Span
  | .mk span _ => span

/-- The terms of a union. -/
def TypeElem.terms : TypeElem → List TypeExpr
  | .mk _ terms => terms

/-- Where an element of an interface stands. -/
def Element.span : Element → Span
  | .method span _ _ _ => span
  | .types elem => elem.span

/-! ### Declarations -/

/-- The name that an import gives to a package. -/
inductive ImportName
  /-- None: the package keeps its own. -/
  | own
  /-- A point: all names of the package stand bare. -/
  | dot
  /-- An underscore: the package is not referred to. -/
  | blank
  /-- Another name. -/
  | name (text : String)
  deriving DecidableEq, Repr, Inhabited

/-- One import. -/
structure ImportSpec where
  /-- The name for the package. -/
  name : ImportName
  /-- The import path. -/
  path : String
  deriving DecidableEq, Repr, Inhabited

/-- The declaration of a type. -/
structure TypeSpec where
  /-- The name. -/
  name : String
  /-- Whether the type has parameters. -/
  generic : Bool
  /-- What the name stands for. -/
  type : TypeExpr
  deriving Inhabited

/-- The declaration of some constants. -/
structure ConstSpec where
  /-- The names. -/
  names : List String
  /-- The values; none if those of an earlier declaration are repeated. -/
  values? : Option (List Expr)
  deriving DecidableEq, Repr, Inhabited

/-- What stands at the top level of a file. -/
inductive Item where
  /-- The name of the package. -/
  | package (name : String)
  /-- Imports. -/
  | imports (specs : List ImportSpec)
  /-- Types. -/
  | types (specs : List TypeSpec)
  /-- Constants that are declared together. -/
  | constants (specs : List ConstSpec)
  /-- Anything else. -/
  | other
  deriving Inhabited

end WrapperGen.Source
