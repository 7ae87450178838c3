import WrapperGen.Check.Scope

/-!
# Integer constants

Constants are computed with 128 bits.  A result that does not fit is no value at all, with one
exception: bits that are shifted out to the left are lost.

## Main definitions

* `numberBound`, `fits`: the numbers of 128 bits.
* `UnaryOp.apply?`, `BinaryOp.apply?`: what operators do with such numbers.
* `constantValue`: the value of an expression.
* `namedConstant`: the value of a constant of the package.
* `exportedConstants`: the constants that other packages may use.
-/

namespace WrapperGen

open Source

/-! ### Numbers -/

/-- How many bits a number has. -/
def constantBits : Nat := 128

/-- The least number that is too large. -/
def numberBound : Int := Int.ofNat (Nat.pow 2 (constantBits - 1))

/-- Whether a number fits. -/
def fits (n : Int) : Bool := decide (-numberBound ≤ n) && decide (n < numberBound)

/-- A number, if it fits. -/
def fitting? (n : Int) : Option Int := if fits n then some n else none

/-- What an operation on bits gives for two numbers. -/
def onBits (f : BitVec constantBits → BitVec constantBits → BitVec constantBits)
    (a b : Int) : Int :=
  (f (BitVec.ofInt constantBits a) (BitVec.ofInt constantBits b)).toInt

/-- A number as the distance of a shift, which is less than the number of bits. -/
def shiftDistance? (n : Int) : Option Nat :=
  if 0 ≤ n && n < constantBits then some n.toNat else none

/-- What an operator gives for a number. -/
def Source.UnaryOp.apply? (op : UnaryOp) (a : Int) : Option Int :=
  match op with
  | .plus => some a
  | .minus => fitting? (-a)
  | .complement => some (-a - 1)
  | .other => none

/-- What an operator gives for two numbers.  Division goes toward zero. -/
def Source.BinaryOp.apply? (op : BinaryOp) (a b : Int) : Option Int :=
  match op with
  | .add => fitting? (a + b)
  | .sub => fitting? (a - b)
  | .mul => fitting? (a * b)
  | .div => if b = 0 then none else fitting? (a.tdiv b)
  -- the remainder fails where the quotient does not fit, which it would not have to
  | .rem => if b = 0 then none else (fitting? (a.tdiv b)).map fun _ => a.tmod b
  -- only the distance is looked at, so bits are shifted out at the front without a failure
  | .shiftLeft =>
      (shiftDistance? b).map fun n => (BitVec.ofInt constantBits a <<< n).toInt
  | .shiftRight => (shiftDistance? b).map fun n => a.shiftRight n
  | .and => some (onBits (· &&& ·) a b)
  | .or => some (onBits (· ||| ·) a b)
  | .xor => some (onBits (· ^^^ ·) a b)
  | .andNot => some (onBits (fun x y => x &&& ~~~ y) a b)
  | .compare | .both | .either => none

/-! ### Expressions -/

/-- How the constants that an expression refers to get their values. -/
structure ConstantSource where
  /-- The value of a constant of the package. -/
  named : ConstEntry → Check Int
  /-- The value of a constant of another package; none if such constants are left out. -/
  imported? : Option (SourceFile → Span → Expr → String → Check Int)

/-- Fail because an expression has no integer value. -/
def failNotInteger {α : Type} (file : SourceFile) (span : Span) : Check α :=
  file.fail span (.notInteger (file.textAt span))

/-- The value of an expression in a file.  Inside of the declaration of constants, `counter?` is
the number of declarations of the group in front of that one. -/
def constantValue (scope : PackageScope) (source : ConstantSource) (file : SourceFile)
    (counter? : Option Nat) : Expr → Check Int
  | .integer span text =>
      match integerValue? text with
      | some n => pure n
      | none => file.fail span (.invalidInteger text)
  | .counter span =>
      match counter? with
      | some n => pure n
      | none => file.fail span .counterOutside
  | .name span text =>
      match scope.constant? text with
      | some entry => source.named entry
      | none => file.failUndefined span text
  | .selector span operand field =>
      match source.imported? with
      | some imported => imported file span operand field
      | none => failNotInteger file span
  | .paren _ inner => constantValue scope source file counter? inner
  | .unary span op operand => do
      let a ← constantValue scope source file counter? operand
      match op.apply? a with
      | some n => pure n
      | none => failNotInteger file span
  | .binary span op left right => do
      let a ← constantValue scope source file counter? left
      let b ← constantValue scope source file counter? right
      match op.apply? a b with
      | some n => pure n
      | none => failNotInteger file span
  | .other span => failNotInteger file span

/-- The value of a constant of another package, which an expression names by `operand` and
`field`. -/
def importedConstant (importer : Importer) (file : SourceFile) (span : Span) (operand : Expr)
    (field : String) : Check Int :=
  match operand with
  | .name operandSpan qualifier => do
      match ← file.scope.importPath? importer qualifier with
      | none => file.failUndefined operandSpan qualifier
      | some importPath =>
          let package ← tryCatch (importer.load importPath) fun cause =>
            throw (.importFailed file.shortName span.place importPath cause)
          match package.constant? field with
          | some n => pure n
          | none => file.failUndefined span (qualifier ++ "." ++ field)
  | _ => failNotInteger file span

/-- The value of a constant of the package.  `pending` holds the names of the constants whose
values are being computed, and at most `depth` more may be entered. -/
def namedConstant (scope : PackageScope)
    (imported? : Option (SourceFile → Span → Expr → String → Check Int)) :
    Nat → List String → ConstEntry → Check Int
  | depth, pending, entry =>
      match entry.value? with
      | none => throw (.missingValue entry.name)
      | some value =>
          match depth with
          -- no more constants can be pending than there are, so this is a cycle as well
          | 0 => entry.file.fail value.span (.constantCycle entry.name)
          | depth + 1 =>
              if pending.contains entry.name then
                entry.file.fail value.span (.constantCycle entry.name)
              else
                constantValue scope
                  ⟨namedConstant scope imported? depth (entry.name :: pending), imported?⟩
                  entry.file (some entry.counter) value

/-- The constants of the package: no more than all of them can be entered at once. -/
def PackageScope.constantSource (scope : PackageScope)
    (imported? : Option (SourceFile → Span → Expr → String → Check Int)) : ConstantSource :=
  ⟨namedConstant scope imported? scope.constants.length [], imported?⟩

/-- The value of an expression that is the length of an array. -/
def lengthValue (scope : PackageScope) (importer : Importer) (file : SourceFile) (length : Expr) :
    Check UInt64 := do
  let n ← constantValue scope (scope.constantSource (some (importedConstant importer))) file none
    length
  if 0 ≤ n && n.toNat < UInt64.size then pure (UInt64.ofNat n.toNat)
  else file.fail length.span (.invalidLength (file.textAt length.span))

/-- The constants with their values, those left out that have none. -/
def knownConstants (source : ConstantSource) :
    List ConstEntry → Check (List (String × Int))
  | [] => pure []
  | entry :: rest => do
      -- a constant without a value is no failure of the package: nobody may ever ask for it
      let value? ← tryCatch (do
        let n ← source.named entry
        pure (some n)) fun _ => pure none
      let more ← knownConstants source rest
      pure ((value?.map fun n => (entry.name, n)).toList ++ more)

/-- The exported constants of the package that have a value without any other package. -/
def exportedConstants (scope : PackageScope) : Check (List (String × Int)) :=
  knownConstants (scope.constantSource none)
    (scope.constants.filter fun entry => isExported entry.name)

end WrapperGen
