import WrapperGen.Check.Kinds
import WrapperGen.Proofs.RunLogic

/-!
# Guards that are shared

What is being determined is guarded against cycles.  The checker hands the names of it down, so each
question has a guard of its own, and nothing of it is left when the answer is there.  One guard for
all questions does as well, if every name that is put into it is taken out again, also behind a
failure.  Here is a checker that has such a guard.

## Main definitions

* `Guarded`: computations with a session and with one guard.
* `Guarded.entering`: a computation during which a name is in the guard.
* `Guarded.Restores`: a computation leaves the guard as it was, and comes to what another one does
  that is handed the names in it.
* `guardedConstant`, `guardedKind`: constants and kinds with one guard.

## Main results

* `Guarded.Restores.bind`, `Guarded.restores_entering`: how such computations are put together.
* `restores_guardedConstant`, `restores_guardedKind`: nothing is left in the guard.
-/

namespace WrapperGen

open Source

/-! ### Computations with a guard -/

/-- A computation that may fail, and that uses a session and a guard: the names of what is being
determined. -/
abbrev Guarded (α : Type) := ExceptT CheckError (StateM (List String × Session)) α

namespace Guarded

variable {α β : Type}

/-- A computation that leaves the guard alone. -/
def ofCheck (m : Check α) : Guarded α := fun state =>
  ((m.run.run state.2).1, (state.1, (m.run.run state.2).2))

/-- A computation during which a name is in the guard, or another one if it is there already. -/
def entering (name : String) (enter again : Guarded α) : Guarded α := do
  let state ← get
  if state.1.contains name then again
  else
    modify fun state => (name :: state.1, state.2)
    let result ← ExceptT.lift enter.run
    modify fun state => (state.1.erase name, state.2)
    result

/-- From any guard, `m` comes to what `plain` does for the names in it, and the guard is the same
afterwards, whether that is a failure or not. -/
def Restores (m : Guarded α) (plain : List String → Check α) : Prop :=
  ∀ names s, m.run.run (names, s)
    = (((plain names).run.run s).1, (names, ((plain names).run.run s).2))

theorem restores_ofCheck (m : Check α) : Restores (ofCheck m) fun _ => m := fun _ _ => rfl

theorem restores_pure (value : α) : Restores (pure value) fun _ => pure value := fun _ _ => rfl

theorem Restores.bind {m : Guarded α} {plain : List String → Check α} {f : α → Guarded β}
    {f' : α → List String → Check β} (h : Restores m plain)
    (hf : ∀ value, Restores (f value) (f' value)) :
    Restores (m >>= f) fun names => plain names >>= fun value => f' value names := by
  intro names s
  rw [run_bind, run_bind, h names s]
  rcases (plain names).run.run s with ⟨result, last⟩
  cases result with
  | ok value => exact hf value names last
  | error cause => rfl

/-- What is put into the guard is taken out again. -/
theorem restores_entering {enter again : Guarded α} {plain plain' : List String → Check α}
    (name : String) (h : Restores enter plain) (h' : Restores again plain') :
    Restores (entering name enter again) fun names =>
      if names.contains name then plain' names else plain (name :: names) := by
  intro names s
  have asked : (entering name enter again).run.run (names, s)
      = if names.contains name then again.run.run (names, s)
        else ((enter.run.run (name :: names, s)).1,
          ((enter.run.run (name :: names, s)).2.1.erase name,
            (enter.run.run (name :: names, s)).2.2)) := by
    refine (run_get_bind _ _).trans ?_
    dsimp only
    by_cases old : names.contains name = true
    · rw [if_pos old, if_pos old]
    · rw [if_neg old, if_neg old]
      have parts : ∀ result : Except CheckError α, ∀ state : List String × Session,
          (liftM result : Guarded α).run.run state = (result, state) :=
        fun result state => run_liftM result state
      exact parts (enter.run.run (name :: names, s)).1 _
  rw [asked]
  by_cases old : names.contains name = true
  · simp only [if_pos old]
    exact h' names s
  · simp only [if_neg old, h (name :: names) s, List.erase_cons_head]

end Guarded

open Guarded

/-! ### Constants -/

/-- The value of an expression, as `constantValue` has it, with a guard. -/
def guardedValue (scope : PackageScope) (named : ConstEntry → Guarded Int)
    (imported? : Option (SourceFile → Span → Expr → String → Check Int)) (file : SourceFile)
    (counter? : Option Nat) : Expr → Guarded Int
  | .name span text =>
      match scope.constant? text with
      | some entry => named entry
      | none => ofCheck (file.failUndefined span text)
  | .paren _ inner => guardedValue scope named imported? file counter? inner
  | .unary span op operand => do
      let a ← guardedValue scope named imported? file counter? operand
      match op.apply? a with
      | some n => pure n
      | none => ofCheck (failNotInteger file span)
  | .binary span op left right => do
      let a ← guardedValue scope named imported? file counter? left
      let b ← guardedValue scope named imported? file counter? right
      match op.apply? a b with
      | some n => pure n
      | none => ofCheck (failNotInteger file span)
  | e => ofCheck (constantValue scope ⟨fun entry => throw (.missingValue entry.name), imported?⟩
      file counter? e)

/-- The value of a constant of the package, whose name is in the guard meanwhile.  At most `depth`
more constants may be entered. -/
def guardedConstant (scope : PackageScope)
    (imported? : Option (SourceFile → Span → Expr → String → Check Int)) :
    Nat → ConstEntry → Guarded Int
  | depth, entry =>
      match entry.value? with
      | none => ofCheck (throw (.missingValue entry.name))
      | some value =>
          let cycle : Check Int := entry.file.fail value.span (.constantCycle entry.name)
          match depth with
          | 0 => ofCheck cycle
          | depth + 1 =>
              entering entry.name
                (guardedValue scope (guardedConstant scope imported? depth) imported? entry.file
                  (some entry.counter) value)
                (ofCheck cycle)

theorem restores_guardedValue {scope : PackageScope} {named : ConstEntry → Guarded Int}
    {plain : ConstEntry → List String → Check Int}
    (h : ∀ entry, Restores (named entry) (plain entry))
    (imported? : Option (SourceFile → Span → Expr → String → Check Int)) (file : SourceFile)
    (counter? : Option Nat) (e : Expr) :
    Restores (guardedValue scope named imported? file counter? e) fun names =>
      constantValue scope ⟨fun entry => plain entry names, imported?⟩ file counter? e := by
  induction e with
  | name span text =>
    unfold guardedValue constantValue
    cases scope.constant? text with
    | some entry => exact h entry
    | none => exact restores_ofCheck _
  | paren span inner ih =>
    unfold guardedValue constantValue
    exact ih
  | unary span op operand ih =>
    unfold guardedValue constantValue
    refine ih.bind fun a => ?_
    cases op.apply? a with
    | some n => exact restores_pure n
    | none => exact restores_ofCheck _
  | binary span op left right ihl ihr =>
    unfold guardedValue constantValue
    refine ihl.bind fun a => ihr.bind fun b => ?_
    cases op.apply? a b with
    | some n => exact restores_pure n
    | none => exact restores_ofCheck _
  -- no constant of the package is named
  | integer | counter | selector | other =>
    unfold guardedValue
    exact restores_ofCheck _

/-- The value of a constant is the same with one guard, which is left as it was. -/
theorem restores_guardedConstant {scope : PackageScope}
    {imported? : Option (SourceFile → Span → Expr → String → Check Int)} (depth : Nat)
    (entry : ConstEntry) :
    Restores (guardedConstant scope imported? depth entry) fun names =>
      namedConstant scope imported? depth names entry := by
  induction depth generalizing entry with
  | zero =>
    unfold guardedConstant namedConstant
    cases entry.value? with
    | none => exact restores_ofCheck _
    | some value => exact restores_ofCheck _
  | succ depth ih =>
    unfold guardedConstant namedConstant
    cases entry.value? with
    | none => exact restores_ofCheck _
    | some value =>
      exact restores_entering entry.name (restores_guardedValue ih imported? _ _ value)
        (restores_ofCheck _)

/-! ### Kinds -/

variable (scope : PackageScope) (importer : Importer) (named : TypeEntry → Bool → Guarded TypeKind)
  (file : SourceFile)

mutual

/-- The kind of the type that an expression stands for, as `kindOf` has it, with a guard. -/
def guardedKindOf (strict : Bool) : TypeExpr → Guarded TypeKind
  | .interface _ elements => guardedInterfaceKind [] elements
  | .paren _ inner => guardedKindOf strict inner
  | .name span text =>
      match scope.type? text with
      | some entry => if entry.spec.generic then pure .other else named entry strict
      | none =>
          match predeclaredKind? text with
          | some kind => pure kind
          | none => ofCheck (file.failUndefined span text)
  | .qualified span qualifier name =>
      ofCheck (qualifiedKind importer file strict span qualifier name)
  | _ => pure .other

/-- The kind of an interface whose elements so far have the given methods, as `interfaceKind` has
it, with a guard. -/
def guardedInterfaceKind (methods : List (Method DeclaredName)) : List Element → Guarded TypeKind
  | [] => pure (.interface methods)
  | .method span name params results :: rest => do
      let signature ← ofCheck (declaredSignature scope importer file params results)
      let methods ← ofCheck (addMethods file span methods [⟨name, signature⟩])
      guardedInterfaceKind methods rest
  | .types (.mk span [term]) :: rest =>
      if isEmbeddable term then do
        match ← guardedKindOf true term with
        | .interface embedded =>
            let methods ← ofCheck (addMethods file span methods embedded)
            guardedInterfaceKind methods rest
        | _ => pure .constraint
      else pure .constraint
  | .types _ :: _ => pure .constraint

end

/-- The kind of a declared type, whose name is in the guard meanwhile.  At most `depth` more types
may be entered. -/
def guardedKind : Nat → TypeEntry → Bool → Guarded TypeKind
  | 0, entry, _ => ofCheck (entry.file.fail entry.spec.type.span (.recursiveType entry.spec.name))
  | depth + 1, entry, strict =>
      entering entry.spec.name
        (guardedKindOf scope importer (guardedKind depth) entry.file strict entry.spec.type)
        (ofCheck (entry.file.fail entry.spec.type.span (.recursiveType entry.spec.name)))

variable {scope importer named file}

mutual

theorem restores_guardedKindOf {plain : TypeEntry → Bool → List String → Check TypeKind}
    (h : ∀ entry strict, Restores (named entry strict) (plain entry strict)) (strict : Bool) :
    (e : TypeExpr) →
    Restores (guardedKindOf scope importer named file strict e) fun names =>
      kindOf ⟨scope, importer, fun entry strict => plain entry strict names⟩ file strict e
  | .interface _ elements => by
    unfold guardedKindOf kindOf
    exact restores_guardedInterfaceKind h [] elements
  | .paren _ inner => by
    unfold guardedKindOf kindOf
    exact restores_guardedKindOf h strict inner
  | .name span text => by
    unfold guardedKindOf kindOf
    dsimp only
    cases scope.type? text with
    | some entry =>
      dsimp only
      by_cases generic : entry.spec.generic = true
      · simp only [if_pos generic]
        exact restores_pure _
      · simp only [if_neg generic]
        exact h entry strict
    | none =>
      dsimp only
      cases predeclaredKind? text with
      | some kind => exact restores_pure kind
      | none => exact restores_ofCheck _
  | .qualified span qualifier name => by
    unfold guardedKindOf kindOf
    exact restores_ofCheck _
  | .generic _ _ _ => by unfold guardedKindOf kindOf; exact restores_pure _
  | .pointer _ _ => by unfold guardedKindOf kindOf; exact restores_pure _
  | .array _ _ _ => by unfold guardedKindOf kindOf; exact restores_pure _
  | .slice _ _ => by unfold guardedKindOf kindOf; exact restores_pure _
  | .map _ _ _ => by unfold guardedKindOf kindOf; exact restores_pure _
  | .channel _ _ _ => by unfold guardedKindOf kindOf; exact restores_pure _
  | .function _ _ _ => by unfold guardedKindOf kindOf; exact restores_pure _
  | .struct _ _ => by unfold guardedKindOf kindOf; exact restores_pure _
  | .approximation _ _ => by unfold guardedKindOf kindOf; exact restores_pure _

theorem restores_guardedInterfaceKind {plain : TypeEntry → Bool → List String → Check TypeKind}
    (h : ∀ entry strict, Restores (named entry strict) (plain entry strict))
    (methods : List (Method DeclaredName)) : (elements : List Element) →
    Restores (guardedInterfaceKind scope importer named file methods elements) fun names =>
      interfaceKind ⟨scope, importer, fun entry strict => plain entry strict names⟩ file methods
        elements
  | [] => by
    unfold guardedInterfaceKind interfaceKind
    exact restores_pure _
  | .method span name params results :: rest => by
    unfold guardedInterfaceKind interfaceKind
    exact (restores_ofCheck _).bind fun signature => (restores_ofCheck _).bind fun grown =>
      restores_guardedInterfaceKind h grown rest
  | .types (.mk span [term]) :: rest => by
    unfold guardedInterfaceKind interfaceKind
    by_cases embeddable : isEmbeddable term = true
    · simp only [if_pos embeddable]
      refine (restores_guardedKindOf h true term).bind fun kind => ?_
      cases kind with
      | interface embedded =>
        exact (restores_ofCheck _).bind fun grown => restores_guardedInterfaceKind h grown rest
      | constraint => exact restores_pure _
      | other => exact restores_pure _
    · simp only [if_neg embeddable]
      exact restores_pure _
  | .types (.mk _ []) :: _ => by
    unfold guardedInterfaceKind interfaceKind
    exact restores_pure _
  | .types (.mk _ (_ :: _ :: _)) :: _ => by
    unfold guardedInterfaceKind interfaceKind
    exact restores_pure _

end

/-- The kind of a type is the same with one guard, which is left as it was. -/
theorem restores_guardedKind (depth : Nat) (entry : TypeEntry) (strict : Bool) :
    Restores (guardedKind scope importer depth entry strict) fun names =>
      namedKind scope importer depth names entry strict := by
  induction depth generalizing entry strict with
  | zero =>
    unfold guardedKind namedKind
    exact restores_ofCheck _
  | succ depth ih =>
    unfold guardedKind namedKind
    exact restores_entering entry.spec.name (restores_guardedKindOf ih strict _)
      (restores_ofCheck _)

end WrapperGen
