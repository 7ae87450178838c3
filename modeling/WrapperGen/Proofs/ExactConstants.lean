import WrapperGen.Proofs.PackageFacts
import WrapperGen.Proofs.WideArithmetic

/-!
# Exact constants

The number that an expression stands for is defined by arithmetic without bounds.  What a checker
computes for it is that number, or else some shift to the left has lost bits on the way; nothing
else is ever cut off.  That goes for constants of the package, for those of other packages, and for
the lengths of arrays.

## Main definitions

* `Readings`: what packages are read as.
* `FileScope.StandsFor`: the import path that a qualifier stands for.
* `PlacedExpr`: an expression where it stands.
* `PlacedExpr.Denotes`: the number that it stands for.
* `PlacedExpr.Shifts`: a shift that loses bits is part of its computation.
* `CheckedPackage.IsExact`: the constants of a package have the numbers that they stand for.

## Main results

* `FileScope.StandsFor.unique`, `PlacedExpr.Denotes.unique`: a qualifier stands for one import path,
  and an expression for one number, where packages are read once.
* `secures_constantValue`, `secures_namedConstant`: what is computed for expressions and constants.
* `constants_exact`: what is computed anywhere in a check.
* `shifted_out`: a constant that is computed wrongly.
-/

namespace WrapperGen

open Source

/-! ### What an expression stands for -/

/-- What packages are read as.  The files may change while a session goes on, so a package can have
been read as one thing and its name as another; where they do not change, each import path has one
reading. -/
structure Readings where
  /-- What the package of an import path declares. -/
  scope : String → PackageScope → Prop
  /-- The name that the package has, or that none can be read. -/
  name : String → Option String → Prop

/-- An import path that has one reading at most. -/
structure Readings.IsSingle (read : Readings) : Prop where
  /-- What the package declares. -/
  scope : ∀ path one other, read.scope path one → read.scope path other → one = other
  /-- The name of the package. -/
  name : ∀ path one other, read.name path one → read.name path other → one = other

/-- The import path that a qualifier stands for in a file.  It is the one that the file gives the
qualifier, be it only because the path suggests it; and else the first one without a name of its own
in the file whose package is read to be called so, where those in front of it are not. -/
inductive FileScope.StandsFor (name : String → Option String → Prop) (s : FileScope)
    (qualifier : String) : String → Prop
  /-- The file gives it. -/
  | given {path : String} : s.names.lookup qualifier = some path → StandsFor name s qualifier path
  /-- The package is called so. -/
  | called {front behind : List String} {path : String} : s.names.lookup qualifier = none →
      s.unnamed = front ++ path :: behind → name path (some qualifier) →
      (∀ other ∈ front, ∃ name?, name other name? ∧ name? ≠ some qualifier) →
      StandsFor name s qualifier path

/-- A qualifier stands for one import path, if each package is read to be called one thing. -/
theorem FileScope.StandsFor.unique {name : String → Option String → Prop} {s : FileScope}
    {qualifier path path' : String}
    (single : ∀ path one other, name path one → name path other → one = other)
    (h : s.StandsFor name qualifier path) (h' : s.StandsFor name qualifier path') :
    path = path' := by
  cases h with
  | given found =>
    cases h' with
    | given found' => exact Option.some.inj (found.symm.trans found')
    | called none' _ _ _ => cases found.symm.trans none'
  | @called front behind _ none' split named apart =>
    cases h' with
    | given found' => cases none'.symm.trans found'
    | @called front' behind' _ _ split' named' apart' =>
      -- of two different paths, the one in front of the other is not called so
      have inFront : ∀ {second : List String} {one : String}, one ∈ second →
          name one (some qualifier) →
          (∀ p ∈ second, ∃ name?, name p name? ∧ name? ≠ some qualifier) → False := by
        intro second one mem called differ
        obtain ⟨name?, read, other⟩ := differ one mem
        exact other (single one _ _ read called)
      -- both splits are of one list, so one path is in front of the other, or they are one
      rcases List.append_eq_append_iff.1 (split.symm.trans split') with
        ⟨between, rfl, e⟩ | ⟨between, rfl, e⟩
      · cases between with
        | nil => exact (List.cons.inj e).1
        | cons p rest =>
          obtain ⟨rfl, -⟩ := List.cons.inj e
          exact (inFront (by simp) named apart').elim
      · cases between with
        | nil => exact (List.cons.inj e).1.symm
        | cons p rest =>
          obtain ⟨rfl, -⟩ := List.cons.inj e
          exact (inFront (by simp) named' apart).elim

/-- An expression where it stands: in a file of a package, and maybe in a declaration of constants
that has so many others of its group in front. -/
structure PlacedExpr where
  /-- The package. -/
  scope : PackageScope
  /-- The file. -/
  file : SourceFile
  /-- The number of declarations in front. -/
  counter? : Option Nat
  /-- The expression. -/
  expr : Expr

/-- The expression that a constant is declared with. -/
def ConstEntry.placed? (scope : PackageScope) (entry : ConstEntry) : Option PlacedExpr :=
  entry.value?.map fun value => ⟨scope, entry.file, some entry.counter, value⟩

/-- Whether an expression has no shift to the left, and no name of a constant. -/
def Source.Expr.isUnshifted : Expr → Bool
  | .integer _ _ | .counter _ | .other _ => true
  | .name _ _ | .selector _ _ _ => false
  | .paren _ inner => inner.isUnshifted
  | .unary _ _ operand => operand.isUnshifted
  | .binary _ op left right => op != .shiftLeft && left.isUnshifted && right.isUnshifted

namespace PlacedExpr

/-- One expression stands for what another one stands for: the one in its parentheses, or the one
with which the constant that it names is declared.  Other packages are read as `read` says. -/
inductive HandsOn (read : Readings) : PlacedExpr → PlacedExpr → Prop
  /-- Parentheses. -/
  | paren {scope : PackageScope} {file : SourceFile} {counter? : Option Nat} {span : Span}
      {inner : Expr} :
      HandsOn read ⟨scope, file, counter?, .paren span inner⟩ ⟨scope, file, counter?, inner⟩
  /-- A constant of the package. -/
  | name {scope : PackageScope} {file : SourceFile} {counter? : Option Nat} {span : Span}
      {text : String} {entry : ConstEntry} {value : PlacedExpr} :
      scope.constant? text = some entry → entry.placed? scope = some value →
      HandsOn read ⟨scope, file, counter?, .name span text⟩ value
  /-- An exported constant of a package that the file imports. -/
  | imported {scope other : PackageScope} {file : SourceFile} {counter? : Option Nat}
      {span place : Span} {qualifier path field : String} {entry : ConstEntry}
      {value : PlacedExpr} :
      file.scope.StandsFor read.name qualifier path → read.scope path other →
      isExported field = true →
      other.constant? field = some entry → entry.placed? other = some value →
      HandsOn read ⟨scope, file, counter?, .selector span (.name place qualifier) field⟩ value

/-- The number that an expression stands for, by arithmetic without bounds.  All results on the way
are `within` some bounds; where these are no bounds at all, it is the number that the expression has
by itself.  Nothing is said here of the order in which a check computes, nor of the depth to which
it follows names. -/
inductive Denotes (read : Readings) (within : Int → Prop) :
    PlacedExpr → Int → Prop
  /-- An integer literal. -/
  | integer {scope : PackageScope} {file : SourceFile} {counter? : Option Nat} {span : Span}
      {text : String} {n : Nat} : plainValue? (text.toList.filter (· != '_')) = some n →
      Denotes read within ⟨scope, file, counter?, .integer span text⟩ n
  /-- The counter of a group of constants. -/
  | counter {scope : PackageScope} {file : SourceFile} {n : Nat} {span : Span} :
      Denotes read within ⟨scope, file, some n, .counter span⟩ n
  /-- What stands for the same as another expression. -/
  | handsOn {p value : PlacedExpr} {n : Int} : HandsOn read p value →
      Denotes read within value n → Denotes read within p n
  /-- An operator in front of an operand. -/
  | unary {scope : PackageScope} {file : SourceFile} {counter? : Option Nat} {span : Span}
      {op : UnaryOp} {operand : Expr} {a n : Int} :
      Denotes read within ⟨scope, file, counter?, operand⟩ a → op.unbounded? a = some n →
      within n →
      Denotes read within ⟨scope, file, counter?, .unary span op operand⟩ n
  /-- An operator between two operands. -/
  | binary {scope : PackageScope} {file : SourceFile} {counter? : Option Nat} {span : Span}
      {op : BinaryOp} {left right : Expr} {a b n : Int} :
      Denotes read within ⟨scope, file, counter?, left⟩ a →
      Denotes read within ⟨scope, file, counter?, right⟩ b → op.unbounded? a b = some n →
      within n →
      Denotes read within ⟨scope, file, counter?, .binary span op left right⟩ n

/-- To compute one expression, the other one is computed. -/
inductive Uses (read : Readings) : PlacedExpr → PlacedExpr → Prop
  /-- What stands for the same. -/
  | handsOn {p value : PlacedExpr} : HandsOn read p value → Uses read p value
  /-- The operand of an operator. -/
  | operand {scope : PackageScope} {file : SourceFile} {counter? : Option Nat} {span : Span}
      {op : UnaryOp} {operand : Expr} :
      Uses read ⟨scope, file, counter?, .unary span op operand⟩ ⟨scope, file, counter?, operand⟩
  /-- The left operand of an operator. -/
  | left {scope : PackageScope} {file : SourceFile} {counter? : Option Nat} {span : Span}
      {op : BinaryOp} {left right : Expr} :
      Uses read ⟨scope, file, counter?, .binary span op left right⟩ ⟨scope, file, counter?, left⟩
  /-- The right operand of an operator. -/
  | right {scope : PackageScope} {file : SourceFile} {counter? : Option Nat} {span : Span}
      {op : BinaryOp} {left right : Expr} :
      Uses read ⟨scope, file, counter?, .binary span op left right⟩ ⟨scope, file, counter?, right⟩

variable {read : Readings} {p q : PlacedExpr}

/-- Bits are shifted out at the front in the computation of an expression: there is a shift to the
left in it, or in what it uses, whose exact result does not fit.  The operands of that shift are
exact, so the first loss is meant, and not what comes of one. -/
def ShiftsOut (read : Readings) (p : PlacedExpr) : Prop :=
  ∃ scope file counter? span left right a b,
    Relation.ReflTransGen (Uses read) p ⟨scope, file, counter?, .binary span .shiftLeft left right⟩
      ∧ Denotes read (fits · = true) ⟨scope, file, counter?, left⟩ a
      ∧ Denotes read (fits · = true) ⟨scope, file, counter?, right⟩ b ∧ LosesBits a b

/-- A number that fits is the one that an expression stands for, with no result on the way that does
not fit; or else bits are shifted out.  This is what each step of the computation keeps: every
operator but the shift to the left gives its exact result or fails. -/
structure Computed (read : Readings) (p : PlacedExpr) (n : Int) : Prop where
  /-- The number fits. -/
  fit : fits n = true
  /-- It is exact, unless bits are shifted out. -/
  exact : p.Denotes read (fits · = true) n ∨ p.ShiftsOut read

/-- An expression hands on to no two others, if each import path has one reading.  A name is looked
up in one package, and a package has one entry of each name. -/
theorem HandsOn.unique (single : read.IsSingle) {r : PlacedExpr}
    (h : HandsOn read p q) (h' : HandsOn read p r) : q = r := by
  have placed : ∀ {scope : PackageScope} {entry entry' : ConstEntry} {text : String},
      scope.constant? text = some entry → scope.constant? text = some entry' →
      entry.placed? scope = some q → entry'.placed? scope = some r → q = r := by
    intro scope entry entry' text found found' e e'
    -- one entry is found for the name, and it has one value
    obtain rfl := Option.some.inj (found.symm.trans found')
    exact Option.some.inj (e.symm.trans e')
  cases h with
  | paren => cases h' with | paren => rfl
  | name found e => cases h' with | name found' e' => exact placed found found' e e'
  | imported means reads _ found e =>
    cases h' with
    | imported means' reads' _ found' e' =>
      obtain rfl := means.unique single.name means'
      obtain rfl := single.scope _ _ _ reads reads'
      exact placed found found' e e'

/-- No expression stands for two numbers, if each import path has one reading.  So it does not
matter by which rules a number has been found. -/
theorem Denotes.unique (single : read.IsSingle) {within : Int → Prop} {n m : Int}
    (h : p.Denotes read within n) (h' : p.Denotes read within m) : n = m := by
  -- by the rules: the expression tells which one it is, and only `handsOn` may be any of them
  induction h generalizing m with
  | integer known =>
    cases h' with
    | integer other => rw [Option.some.inj (known.symm.trans other)]
    | handsOn step _ => cases step
  | counter =>
    cases h' with
    | counter => rfl
    | handsOn step _ => cases step
  | handsOn step _ ih =>
    cases h' with
    | handsOn other denotes => exact ih (step.unique single other ▸ denotes)
    | integer _ | counter | unary _ _ _ | binary _ _ _ _ => cases step
  | unary _ exact _ ih =>
    cases h' with
    | unary denotes other _ =>
      obtain rfl := ih denotes
      exact Option.some.inj (exact.symm.trans other)
    | handsOn step _ => cases step
  | binary _ _ exact _ ihl ihr =>
    cases h' with
    | binary left right other _ =>
      obtain rfl := ihl left
      obtain rfl := ihr right
      exact Option.some.inj (exact.symm.trans other)
    | handsOn step _ => cases step

/-- What is shifted out of a part is shifted out of the whole. -/
theorem ShiftsOut.of_uses (uses : Uses read p q) (h : q.ShiftsOut read) : p.ShiftsOut read := by
  obtain ⟨scope, file, counter?, span, left, right, a, b, reaches, rest⟩ := h
  exact ⟨scope, file, counter?, span, left, right, a, b, .head uses reaches, rest⟩

/-- Bits are shifted out by the expression itself, or by one that it uses. -/
theorem ShiftsOut.cases (h : p.ShiftsOut read) :
    (∃ span left right, p.expr = .binary span .shiftLeft left right)
      ∨ ∃ q, Uses read p q ∧ q.ShiftsOut read := by
  obtain ⟨scope, file, counter?, span, left, right, a, b, reaches, rest⟩ := h
  rcases reaches.cases_head with rfl | ⟨q, uses, further⟩
  · exact .inl ⟨span, left, right, rfl⟩
  · exact .inr ⟨q, uses, scope, file, counter?, span, left, right, a, b, further, rest⟩

/-- Nothing is shifted out where there is no shift to the left and no other constant.  A constant
that is named could have such a shift in its own value. -/
theorem not_shiftsOut {scope : PackageScope} {file : SourceFile} {counter? : Option Nat} {e : Expr}
    (h : e.isUnshifted = true) : ¬ ShiftsOut read ⟨scope, file, counter?, e⟩ := by
  intro out
  -- by the cases of an expression: it is no such shift, and all that it uses is a part of it
  induction e with
  | integer span text =>
    rcases out.cases with ⟨_, _, _, shift⟩ | ⟨q, uses, -⟩
    · cases shift
    · cases uses with | handsOn step => cases step
  | counter span =>
    rcases out.cases with ⟨_, _, _, shift⟩ | ⟨q, uses, -⟩
    · cases shift
    · cases uses with | handsOn step => cases step
  | name span text => cases h
  | selector span operand field => cases h
  | paren span inner ih =>
    rcases out.cases with ⟨_, _, _, shift⟩ | ⟨q, uses, further⟩
    · cases shift
    · cases uses with | handsOn step => cases step with | paren => exact ih h further
  | unary span op operand ih =>
    rcases out.cases with ⟨_, _, _, shift⟩ | ⟨q, uses, further⟩
    · cases shift
    · cases uses with
      | handsOn step => cases step
      | operand => exact ih h further
  | binary span op left right ihl ihr =>
    simp only [Expr.isUnshifted, Bool.and_eq_true, bne_iff_ne] at h
    rcases out.cases with ⟨_, _, _, shift⟩ | ⟨q, uses, further⟩
    · cases shift
      exact h.1.1 rfl
    · cases uses with
      | handsOn step => cases step
      | left => exact ihl h.1.2 further
      | right => exact ihr h.2 further
  | other span =>
    rcases out.cases with ⟨_, _, _, shift⟩ | ⟨q, uses, -⟩
    · cases shift
    · cases uses with | handsOn step => cases step

namespace Computed

variable {scope : PackageScope} {file : SourceFile} {counter? : Option Nat} {a b n : Int}

/-- What is computed for one expression is computed for another one that hands on to it. -/
theorem handsOn (step : HandsOn read p q) (h : q.Computed read n) : p.Computed read n :=
  ⟨h.fit, h.exact.imp (.handsOn step) (.of_uses (.handsOn step))⟩

/-- What is computed by an operator in front of an operand. -/
theorem unary {span : Span} {op : UnaryOp} {operand : Expr}
    (h : Computed read ⟨scope, file, counter?, operand⟩ a) (came : op.apply? a = some n) :
    Computed read ⟨scope, file, counter?, .unary span op operand⟩ n := by
  obtain ⟨exact, fit⟩ := unbounded?_of_apply? h.fit came
  exact ⟨fit, h.exact.imp (fun denotes => .unary denotes exact fit) (.of_uses .operand)⟩

/-- What is computed by an operator between two operands.  If bits are shifted out here, then both
operands are exact, which `ShiftsOut` asks for. -/
theorem binary {span : Span} {op : BinaryOp} {left right : Expr}
    (hl : Computed read ⟨scope, file, counter?, left⟩ a)
    (hr : Computed read ⟨scope, file, counter?, right⟩ b) (came : op.apply? a b = some n) :
    Computed read ⟨scope, file, counter?, .binary span op left right⟩ n := by
  obtain ⟨fit, exact⟩ := unbounded?_or_of_apply? hl.fit hr.fit came
  refine ⟨fit, ?_⟩
  -- what is lost in an operand is lost in the whole; else only this operator can lose bits
  rcases hl.exact with leftDenotes | out
  · rcases hr.exact with rightDenotes | out
    · rcases exact with exact | ⟨rfl, loses⟩
      · exact .inl (.binary leftDenotes rightDenotes exact fit)
      · exact .inr ⟨_, _, _, _, _, _, a, b, .refl, leftDenotes, rightDenotes, loses⟩
    · exact .inr (out.of_uses .right)
  · exact .inr (out.of_uses .left)

end Computed

end PlacedExpr

/-! ### What is computed -/

/-- No counter is wider than a word. -/
def PackageScope.CountsInWord (scope : PackageScope) : Prop :=
  ∀ entry ∈ scope.constants, entry.counter < UInt64.size

/-- What is known of a package that was read under an import path: it has the name that was read,
and its constants have the numbers that they stand for. -/
def CheckedPackage.IsExact (read : Readings) (path : String) (package : CheckedPackage) : Prop :=
  package.importPath = path ∧ read.name path (some package.name)
    ∧ ∃ scope, read.scope path scope ∧ ∀ c ∈ package.constants,
      isExported c.1 = true ∧ ∃ entry value, scope.constant? c.1 = some entry
        ∧ entry.placed? scope = some value ∧ value.Computed read c.2

/-- What is known of packages in a session: their constants have the numbers that they stand for,
and their names are as they are read. -/
def Readings.fact (read : Readings) : PackageFact where
  package := CheckedPackage.IsExact read
  name := read.name
  named := fun exact => exact.2.1

/-- A constant has the number that it stands for. -/
def ConstEntry.Computed (read : Readings) (scope : PackageScope)
    (entry : ConstEntry) (n : Int) : Prop :=
  ∃ value, entry.placed? scope = some value ∧ value.Computed read n

section

variable {read : Readings} {known : Session → Prop} {importer : Importer}
  {scope : PackageScope} {file : SourceFile} {counter? : Option Nat}

/-- The numbers of a word are among the bounded ones. -/
theorem fits_of_lt_word {n : Nat} (h : n < UInt64.size) : fits n = true := by
  have size : UInt64.size = 2 ^ 64 := rfl
  exact fits_iff.2 ⟨by omega, by omega⟩

/-- The search for a package by its name ends at the first one that is called so.  The names of
those in front have been read, and are other ones or none. -/
theorem secures_firstNamed (h : importer.Keeps read.fact known) (name : String)
    (paths : List String) :
    Secures known (fun path? => ∀ path, path? = some path → ∃ front behind,
        paths = front ++ path :: behind ∧ read.name path (some name)
          ∧ ∀ other ∈ front, ∃ name?, read.name other name? ∧ name? ≠ some name)
      (FileScope.firstNamed importer name paths) := by
  induction paths with
  | nil => exact AlikeOn.pure nofun
  | cons first rest ih =>
    unfold FileScope.firstNamed
    refine (h.name? first).bind fun name? named => ?_
    split
    · rename_i here
      refine AlikeOn.pure fun path e => ?_
      obtain rfl := Option.some.inj e
      exact ⟨[], rest, rfl, here ▸ named, List.forall_mem_nil _⟩
    · rename_i differs
      refine ih.mono (fun path? found path e => ?_) fun _ => id
      obtain ⟨front, behind, rfl, called, apart⟩ := found path e
      exact ⟨first :: front, behind, rfl, called,
        List.forall_mem_cons.2 ⟨⟨name?, named, differs⟩, apart⟩⟩

/-- The path that comes out for a qualifier is the one that it stands for. -/
theorem secures_importPath? (h : importer.Keeps read.fact known) (qualifier : String) :
    Secures known
      (fun path? => ∀ path, path? = some path → file.scope.StandsFor read.name qualifier path)
      (file.scope.importPath? importer qualifier) := by
  unfold FileScope.importPath?
  cases found : file.scope.names.lookup qualifier with
  | some importPath =>
    refine AlikeOn.pure fun path e => ?_
    rw [← Option.some.inj e]
    exact .given found
  | none =>
    refine (secures_firstNamed h qualifier _).mono (fun path? search path e => ?_) fun _ => id
    obtain ⟨front, behind, split, called, apart⟩ := search path e
    exact .called found split called apart

/-- What is computed for a constant of another package.  The package comes from the session or has
just been loaded; in both cases its constants are known to be exact. -/
theorem secures_importedConstant (h : importer.Keeps read.fact known)
    (span : Span) (operand : Expr) (field : String) :
    Secures known (PlacedExpr.Computed read ⟨scope, file, counter?, .selector span operand field⟩)
      (importedConstant importer file span operand field) := by
  -- only a name can stand in front of the point
  unfold importedConstant
  split
  · refine (secures_importPath? h _).bind fun path? means => ?_
    cases path? with
    | none => exact secures_fail
    | some path =>
      refine AlikeOn.bind ((h.load path).tryCatch fun cause _ => AlikeOn.throw trivial)
        fun package exact => ?_
      cases found : package.constant? field with
      | none => exact secures_fail
      | some n =>
        -- the package that is loaded is exact, so this constant is, and here it is handed on
        obtain ⟨-, -, other, reads, each⟩ := exact
        obtain ⟨front, behind, constants, -⟩ := List.lookup_eq_some_iff.1 found
        obtain ⟨exported, entry, value, declared, placed, computed⟩ := each (field, n) (by
          rw [constants]
          exact List.mem_append_right _ List.mem_cons_self)
        exact AlikeOn.pure
          (computed.handsOn (.imported (means path rfl) reads exported declared placed))
  · exact secures_fail

/-- The constants that expressions refer to have the numbers that they stand for. -/
structure ConstantSource.IsExact (source : ConstantSource) (read : Readings)
    (known : Session → Prop) (scope : PackageScope) : Prop where
  /-- Constants of the package. -/
  named : ∀ entry ∈ scope.constants, Secures known (entry.Computed read scope) (source.named entry)
  /-- Constants of other packages. -/
  imported : ∀ f ∈ source.imported?, ∀ file counter? span operand field,
    Secures known
      (PlacedExpr.Computed read ⟨scope, file, counter?, .selector span operand field⟩)
      (f file span operand field)

/-- What is computed for an expression, if the constants that it names have the numbers that they
stand for.  A failure says nothing, so only the cases in which a number comes out are looked at. -/
theorem secures_constantValue {source : ConstantSource} (h : source.IsExact read known scope)
    (word : ∀ n ∈ counter?, n < UInt64.size) (e : Expr) :
    Secures known (PlacedExpr.Computed read ⟨scope, file, counter?, e⟩)
      (constantValue scope source file counter? e) := by
  -- each case computes what its rule of `Denotes` says, from parts that are computed already
  induction e with
  | integer span text =>
    unfold constantValue
    cases value : integerValue? text with
    | none => exact secures_fail
    | some n =>
      -- a literal has a value if its digits are read and it fits into a word
      unfold integerValue? at value
      split at value
      · cases value
      · rename_i plain
        split at value
        · obtain rfl := Option.some.inj value
          exact AlikeOn.pure ⟨fits_of_lt_word ‹_›, .inl (.integer plain)⟩
        · cases value
  | counter span =>
    unfold constantValue
    cases counter? with
    | none => exact secures_fail
    | some n => exact AlikeOn.pure ⟨fits_of_lt_word (word n rfl), .inl .counter⟩
  | name span text =>
    unfold constantValue
    cases found : scope.constant? text with
    | none => exact secures_fail
    | some entry =>
      refine (h.named entry (PackageScope.mem_of_constant? found).1).mono ?_ fun _ => id
      rintro n ⟨value, placed, computed⟩
      exact computed.handsOn (.name found placed)
  | selector span operand field =>
    unfold constantValue
    cases asked : source.imported? with
    | none => exact secures_fail
    | some f => exact h.imported f asked file counter? span operand field
  | paren span inner ih =>
    unfold constantValue
    exact ih.mono (fun n computed => computed.handsOn .paren) fun _ => id
  | unary span op operand ih =>
    unfold constantValue
    refine ih.bind fun a computed => ?_
    cases came : op.apply? a with
    | none => exact secures_fail
    | some n => exact AlikeOn.pure (computed.unary came)
  | binary span op left right ihl ihr =>
    unfold constantValue
    refine ihl.bind fun a computedLeft => ihr.bind fun b computedRight => ?_
    cases came : op.apply? a b with
    | none => exact secures_fail
    | some n => exact AlikeOn.pure (computedLeft.binary computedRight came)
  | other span => exact secures_fail

variable {imported? : Option (SourceFile → Span → Expr → String → Check Int)}

/-- What is computed for a constant of the package, however deep.  The depth only bounds how far
names are followed: where it ends, the constant is not computed, and nothing wrong is said of it. -/
theorem secures_namedConstant (counts : scope.CountsInWord)
    (h : ∀ f ∈ imported?, ∀ file counter? span operand field,
      Secures known
        (PlacedExpr.Computed read ⟨scope, file, counter?, .selector span operand field⟩)
        (f file span operand field))
    (depth : Nat) (pending : List String) {entry : ConstEntry} (he : entry ∈ scope.constants) :
    Secures known (entry.Computed read scope)
      (namedConstant scope imported? depth pending entry) := by
  -- on the depth: the constants that a value names are computed with one less
  induction depth generalizing pending entry with
  | zero =>
    unfold namedConstant
    split
    · exact AlikeOn.throw trivial
    · exact secures_fail
  | succ depth ih =>
    unfold namedConstant
    split
    · exact AlikeOn.throw trivial
    · rename_i value given
      dsimp only
      split
      · exact secures_fail
      · refine (secures_constantValue ⟨fun other ho => ih _ ho, h⟩ ?_ value).mono
          (fun n computed => ⟨_, congrArg (Option.map _) given, computed⟩) fun _ => id
        -- the counter of the group is what `iota` stands for in the value
        rintro _ ⟨⟩
        exact counts entry he

/-- The constants of other packages, if they are asked for at all. -/
theorem secures_imported? (h : importer.Keeps read.fact known)
    (asked : imported? = none ∨ imported? = some (importedConstant importer)) :
    ∀ f ∈ imported?, ∀ file counter? span operand field,
      Secures known
        (PlacedExpr.Computed read ⟨scope, file, counter?, .selector span operand field⟩)
        (f file span operand field) := by
  rintro f hf file counter? span operand field
  rcases asked with rfl | rfl
  · cases hf
  · obtain rfl := Option.some.inj hf
    exact secures_importedConstant h span operand field

/-- All constants that the expressions of a package refer to have the numbers that they stand for:
those of the package itself and those of the packages that its files import. -/
theorem isExact_constantSource (counts : scope.CountsInWord)
    (h : importer.Keeps read.fact known)
    (asked : imported? = none ∨ imported? = some (importedConstant importer)) :
    (scope.constantSource imported?).IsExact read known scope :=
  ⟨fun _ he => secures_namedConstant counts (secures_imported? h asked) _ _ he,
    secures_imported? h asked⟩

/-- What is computed for the length of an array.  A negative number, or one that is wider than a
word, is no length, so the number that a word holds is the computed one. -/
theorem secures_lengthValue (counts : scope.CountsInWord)
    (h : importer.Keeps read.fact known) (length : Expr) :
    Secures known (fun n => PlacedExpr.Computed read ⟨scope, file, none, length⟩ n.toNat)
      (lengthValue scope importer file length) := by
  unfold lengthValue
  refine (secures_constantValue (isExact_constantSource counts h (.inr rfl)) (by simp) length).bind
    fun n computed => ?_
  split
  -- a length is not negative and fits into a word, so both casts keep it
  · rename_i inside
    rw [Bool.and_eq_true, decide_eq_true_eq, decide_eq_true_eq] at inside
    have same : ((UInt64.ofNat n.toNat).toNat : Int) = n := by
      rw [UInt64.toNat_ofNat_of_lt' inside.2]
      exact Int.toNat_of_nonneg inside.1
    refine AlikeOn.pure ?_
    rw [same]
    exact computed
  · exact secures_fail

/-- The constants of a list that could be computed have the numbers that they stand for.  Those that
could not are left out, so the list may be shorter. -/
theorem secures_knownConstants {source : ConstantSource} (h : source.IsExact read known scope)
    {entries : List ConstEntry} (sub : entries ⊆ scope.constants) :
    Secures known (fun constants => ∀ c ∈ constants,
        ∃ entry ∈ entries, entry.name = c.1 ∧ entry.Computed read scope c.2)
      (knownConstants source entries) := by
  induction entries with
  | nil => exact AlikeOn.pure fun c hc => by cases hc
  | cons entry rest ih =>
    -- a constant that cannot be computed is left out, and that is no failure
    unfold knownConstants
    have value : Secures known (fun n? => ∀ n ∈ n?, entry.Computed read scope n)
        (tryCatch (do
          let n ← source.named entry
          pure (some n)) fun _ => pure none : Check (Option Int)) := by
      refine AlikeOn.tryCatch ((h.named entry (sub List.mem_cons_self)).bind fun n computed => ?_)
        fun _ _ => AlikeOn.pure fun n hn => by cases hn
      refine AlikeOn.pure fun m e => ?_
      rw [← Option.some.inj e]
      exact computed
    refine value.bind fun n? first =>
      (ih fun other ho => sub (List.mem_cons_of_mem entry ho)).bind fun more behind => ?_
    refine AlikeOn.pure fun c hc => ?_
    rcases List.mem_append.1 hc with here | there
    · obtain ⟨n, hn, rfl⟩ := Option.map_eq_some_iff.1 (Option.mem_toList.1 here)
      exact ⟨entry, List.mem_cons_self, rfl, first n hn⟩
    · obtain ⟨other, ho, computed⟩ := behind c there
      exact ⟨other, List.mem_cons_of_mem entry ho, computed⟩

/-- What is computed for the constants that a package exports.  A constant whose value needs another
package is left out, so nothing is imported for these. -/
theorem secures_exportedConstants (counts : scope.CountsInWord)
    (h : importer.Keeps read.fact known) :
    Secures known (fun constants => ∀ c ∈ constants, isExported c.1 = true
        ∧ ∃ entry ∈ scope.constants, entry.name = c.1 ∧ entry.Computed read scope c.2)
      (exportedConstants scope) := by
  unfold exportedConstants
  have sub : scope.constants.filter (fun entry => isExported entry.name) ⊆ scope.constants :=
    fun entry he => (List.mem_filter.1 he).1
  have all := secures_knownConstants (isExact_constantSource counts h (.inl rfl)) sub
  refine all.mono (fun constants each c hc => ?_) fun _ => id
  obtain ⟨entry, he, same, computed⟩ := each c hc
  obtain ⟨mem, exported⟩ := List.mem_filter.1 he
  exact ⟨same ▸ exported, entry, mem, same, computed⟩

end

/-! ### Counters -/

namespace Source

open Reading

/-- A part of a file declares no more constants together than that. -/
def Item.GroupsAtMost (n : Nat) (item : Item) : Prop :=
  ∀ specs, item = .constants specs → specs.length ≤ n

/-- A part of a file has no larger group of constants than the grammar allows. -/
theorem gives_groupsAtMost (g : Grammar) :
    Gives (Item.GroupsAtMost (g.limit + 1)) (readItem g) := by
  have other : ∀ {item : Item}, (∀ specs, item ≠ .constants specs) →
      Gives (Item.GroupsAtMost (g.limit + 1)) (pure item : Reader Item) := fun never =>
    gives_pure fun specs e => absurd e (never specs)
  refine gives_behind fun first => ?_
  split
  · exact gives_behind fun _ => gives_behind fun _ => other fun _ => by simp
  · exact gives_behind fun _ => gives_behind fun _ => other fun _ => by simp
  -- what begins with `func` is a function, a method or a statement: no group in any case
  · refine Gives.orElse ?_ (Gives.orElse ?_ ?_)
    · exact gives_behind fun _ => gives_behind fun _ => gives_behind fun _ =>
        gives_behind fun _ => other fun _ => by simp
    · exact gives_behind fun _ => gives_behind fun _ => gives_behind fun _ =>
        gives_behind fun _ => other fun _ => by simp
    · exact gives_behind fun _ => other fun _ => by simp
  · exact gives_behind fun _ => other fun _ => by simp
  · have group : Gives (fun specs => specs.length ≤ g.limit + 1) (readConstants g) :=
      gives_behind fun _ => gives_oneOrGroup _ _
    refine group.bind fun specs few => gives_pure ?_
    intro same e
    obtain rfl := Item.constants.inj e
    exact few
  · exact gives_behind fun _ => other fun _ => by simp

/-- A group of constants is not longer than its file.  This bounds `iota`, which counts them. -/
theorem File.length_le_of_mem_constGroups {text : String} {specs : List ConstSpec}
    (h : specs ∈ (File.ofText text).constGroups) : specs.length ≤ text.length + 2 := by
  have short : (tokens text.toList).length ≤ text.length := by
    rw [← String.length_toList]
    exact length_tokens_le text.toList
  -- a group has no more declarations than there are tokens, and these are no more than characters
  have each := forall_mem_readItems (gives_groupsAtMost (grammarFor (tokens text.toList)))
    ((tokens text.toList).length + 1) (tokens text.toList)
  obtain ⟨item, hi, found⟩ := List.mem_filterMap.1 h
  split at found
  · obtain rfl := Option.some.inj found
    refine Nat.le_trans (each _ hi _ rfl) ?_
    exact Nat.add_le_add_right (Nat.add_le_add_right short 1) 1
  · cases found

end Source

/-- No text is longer than a machine with words of 64 bits can hold. -/
def FileTree.IsHeld (tree : FileTree) : Prop :=
  ∀ text, FileTree.Holds tree.entries text → text.length < 2 ^ 63

/-- In the packages of a workspace that a machine can hold, no counter is wider than a word. -/
theorem Workspace.countsInWord_ofFiles {w : Workspace} (held : w.tree.IsHeld) {dir : Path}
    {files : List SourceFile} (found : w.filesIn dir = .ok files) (importPath : String) :
    (PackageScope.ofFiles importPath files).CountsInWord := by
  intro entry he
  obtain ⟨file, hf, he⟩ := List.mem_flatMap.1 (mem_of_mem_keepFirst he)
  obtain ⟨specs, hs, he⟩ := List.mem_flatMap.1 he
  obtain ⟨path, text, read, rfl⟩ := exists_readText_of_mem_filesIn found hf
  have few : specs.length ≤ text.length + 2 := Source.File.length_le_of_mem_constGroups hs
  have short := held text (FileTree.holds_of_readText read)
  have counter := (of_mem_groupEntries he).2
  have size : UInt64.size = 2 ^ 64 := rfl
  omega

/-! ### Packages -/

/-- The constants of a package that is read have the numbers that they stand for, if those of the
packages that are imported do. -/
theorem PackageRequest.grants_isExact {read : Readings} {r : PackageRequest}
    (held : r.workspace.tree.IsHeld)
    (reads : ∀ path scope, r.Reads path scope → read.scope path scope)
    (readsName : ∀ path name?, r.ReadsName path name? → read.name path name?) :
    r.Grants read.fact := by
  refine ⟨readsName, ?_⟩
  intro importer path dir keeps found foundName
  unfold Workspace.checkDirectory
  -- files and their common name come from the tree; of interest are only the constants
  refine (AlikeOn.lift fun _ _ => trivial).bind fun files ok => ?_
  refine (AlikeOn.lift fun _ _ => trivial).bind fun name common => ?_
  have counts := Workspace.countsInWord_ofFiles held ok path
  refine (alike_declarationsOf (admits_anything _) (keeps.scopeAlike _) fun entry he => he).bind
    fun declarations => ?_
  refine (secures_exportedConstants counts keeps).bind fun constants each => ?_
  -- the name that was read is that of the clause in the first file, which all files share
  have exact : CheckedPackage.IsExact read path ⟨name, path, declarations, constants⟩ := by
    rw [Workspace.clauseIn?_of_commonName ok common] at foundName
    refine ⟨rfl, readsName _ _ foundName, _, reads _ _ (found files ok), fun c hc => ?_⟩
    obtain ⟨exported, entry, he, same, value, placed, computed⟩ := each c hc
    exact ⟨exported, entry, value, same ▸ PackageScope.constant?_of_mem_ofFiles he, placed,
      computed⟩
  exact AlikeOn.pure exact

/-- What is computed from a session is exact, as far as no bits are shifted out. -/
structure ExactFrom (read : Readings) (importer : Importer) (s : Session)
    (scope : PackageScope) : Prop where
  /-- The value of a constant of the package, on the way to any other ones. -/
  named : ∀ imported?, imported? = none ∨ imported? = some (importedConstant importer) →
    ∀ depth pending, ∀ entry ∈ scope.constants, ∀ n,
      ((namedConstant scope imported? depth pending entry).run.run s).1 = .ok n →
      entry.Computed read scope n
  /-- The value of an expression. -/
  value : ∀ imported?, imported? = none ∨ imported? = some (importedConstant importer) →
    ∀ depth pending file counter?, (∀ n ∈ counter?, n < UInt64.size) → ∀ e n,
      ((constantValue scope ⟨namedConstant scope imported? depth pending, imported?⟩ file counter?
        e).run.run s).1 = .ok n →
      PlacedExpr.Computed read ⟨scope, file, counter?, e⟩ n
  /-- The constants that the package exports. -/
  exported : ∀ constants, ((exportedConstants scope).run.run s).1 = .ok constants →
    ∀ c ∈ constants, ∃ entry ∈ scope.constants, entry.name = c.1 ∧ entry.Computed read scope c.2
  /-- The length of an array. -/
  length : ∀ file e n, ((lengthValue scope importer file e).run.run s).1 = .ok n →
    PlacedExpr.Computed read ⟨scope, file, none, e⟩ n.toNat

/-- Whatever a check comes to for a constant, for an expression over constants, for the constants of
a package, and for the length of an array, it is the exact number, with no result on the way that
does not fit; or else bits are shifted out on the way. -/
theorem constants_exact {read : Readings} {r : PackageRequest}
    (held : r.workspace.tree.IsHeld)
    (reads : ∀ path scope, r.Reads path scope → read.scope path scope)
    (readsName : ∀ path name?, r.ReadsName path name? → read.name path name?)
    {s : Session} (known : s.Holds read.fact) :
    (∀ scope : PackageScope, scope.CountsInWord → ExactFrom read r.workspace.importer s scope)
      ∧ ((r.workspace.checkPackage r.dir r.importPath).run.run s).2.Holds read.fact := by
  have grants : r.Grants read.fact := PackageRequest.grants_isExact held reads readsName
  have keeps := grants.keeps_importer
  refine ⟨fun scope counts => ?_, grants.holds_checkPackage.known_run known⟩
  -- each part is read off what is secured, from a session that knows nothing wrong
  constructor
  · intro imported? asked depth pending entry he n came
    exact (secures_namedConstant counts (secures_imported? keeps asked) depth pending
      he).good_of_run known came
  · intro imported? asked depth pending file counter? word e n came
    have source : ConstantSource.IsExact ⟨namedConstant scope imported? depth pending, imported?⟩
        read (Session.Holds read.fact) scope :=
      ⟨fun entry he =>
          secures_namedConstant counts (secures_imported? keeps asked) depth pending he,
        secures_imported? keeps asked⟩
    exact (secures_constantValue source word e).good_of_run known came
  · intro constants came c hc
    exact ((secures_exportedConstants counts keeps).good_of_run known came c hc).2
  · intro file e n came
    exact (secures_lengthValue counts keeps e).good_of_run known came

/-- An expression that is the half of seven less than the counter. -/
def halfExpr : Expr :=
  .binary default .div (.paren default (.binary default .sub (.counter default)
    (.integer default "7"))) (.integer default "2")

/-- What packages are read as for a request. -/
def PackageRequest.readings (r : PackageRequest) : Readings := ⟨r.Reads, r.ReadsName⟩

/-- For one request, each import path has one reading, if the directory that is asked for is the one
that its import path leads to.  Then an expression stands for one number at most. -/
theorem PackageRequest.isSingle_readings {r : PackageRequest}
    (located : r.workspace.locate r.importPath = .ok r.dir) : r.readings.IsSingle := by
  -- what the request itself reads is what its import path leads to
  have scopes : ∀ path scope, r.Reads path scope → r.workspace.Reads path scope := by
    rintro path scope (read | ⟨rfl, files, found, rfl⟩)
    · exact read
    · exact ⟨r.dir, files, located, found, rfl⟩
  have names : ∀ path name?, r.ReadsName path name? → name? = r.workspace.clause? path := by
    rintro path name? (rfl | ⟨rfl, rfl⟩)
    · rfl
    · rw [Workspace.clause?, located]
  constructor
  · intro path one other first second
    obtain ⟨dir, files, leads, found, rfl⟩ := scopes path one first
    obtain ⟨dir', files', leads', found', rfl⟩ := scopes path other second
    obtain rfl := Except.ok.inj (leads.symm.trans leads')
    obtain rfl := Except.ok.inj (found.symm.trans found')
    rfl
  · intro path one other first second
    rw [names path one first, names path other second]

/-- The text of a file with that expression. -/
def halfText : String := "package p\nconst Half = (iota - 7) / 2\n"

/-- It is computed exactly: division goes toward zero.  And it stands for no other number. -/
theorem constants_exact_half :
    (requestFor halfText).workspace.tree.IsHeld
      ∧ ((constantValue default ⟨namedConstant default none 0 [], none⟩ default (some 0)
          halfExpr).run.run .empty).1 = .ok (-3)
      ∧ ∀ n, PlacedExpr.Denotes (requestFor halfText).readings (fits · = true)
          ⟨default, default, some 0, halfExpr⟩ n ↔ n = -3 := by
  have held : (requestFor halfText).workspace.tree.IsHeld := by
    rintro text ⟨place, mode, mem⟩
    simp only [requestFor, List.mem_cons, List.not_mem_nil, or_false, Prod.mk.injEq, reduceCtorEq,
      and_false, false_or, Entry.file.injEq, Content.text.injEq] at mem
    rw [mem.2.1]
    decide
  have came : ((constantValue default ⟨namedConstant default none 0 [], none⟩ default (some 0)
      halfExpr).run.run .empty).1 = .ok (-3) := by decide +kernel
  have reads : ∀ path scope, (requestFor halfText).Reads path scope →
      (requestFor halfText).readings.scope path scope := fun _ _ => id
  have exact := (constants_exact held reads (fun _ _ => id) (Session.holds_empty _)).1 default
    fun _ mem => by cases mem
  have computed := exact.value none (.inl rfl) 0 [] default (some 0) (by decide) halfExpr (-3) came
  -- there is no shift in the expression, so nothing can be lost
  have denotes := computed.exact.resolve_right (PlacedExpr.not_shiftsOut rfl)
  have single : (requestFor halfText).readings.IsSingle :=
    PackageRequest.isSingle_readings (by decide +kernel)
  refine ⟨held, came, fun n => ⟨fun other => other.unique single denotes, ?_⟩⟩
  rintro rfl
  exact denotes

/-- Nothing has been read. -/
def Readings.nothing : Readings := ⟨fun _ _ => False, fun _ _ => False⟩

/-- One with 126 zeros behind it, and two more. -/
def wideExpr : Expr :=
  .binary default .shiftLeft (.binary default .shiftLeft (.integer default "1")
    (.integer default "126")) (.integer default "2")

/-- Its only bit is shifted out: it is computed as zero, and the expression stands for another
number. -/
theorem shifted_out :
    ¬ ∀ (scope : PackageScope) (file : SourceFile) (e : Expr) (n : Int),
      ((constantValue scope (scope.constantSource none) file none e).run.run .empty).1 = .ok n →
      PlacedExpr.Denotes .nothing (fun _ => True) ⟨scope, file, none, e⟩ n := by
  intro exact
  have zero := exact default default wideExpr 0 (by decide +kernel)
  have wide : PlacedExpr.Denotes .nothing (fun _ => True)
      ⟨default, default, none, wideExpr⟩ (2 ^ 128) := by
    refine .binary (a := 2 ^ 126) (.binary (.integer (n := 1) ?_) (.integer (n := 126) ?_) ?_ ?_)
      (.integer (n := 2) ?_) ?_ trivial
    all_goals decide +kernel
  have same := zero.unique ⟨fun _ _ _ => False.elim, fun _ _ _ => False.elim⟩ wide
  omega

end WrapperGen
