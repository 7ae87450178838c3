import Mathlib.Data.List.Perm.Subperm
import Mathlib.Logic.Relation
import WrapperGen.Check.Constant
import WrapperGen.Proofs.References
import WrapperGen.Proofs.RunLogic

/-!
# The value of a constant

While the value of a constant is being computed its name is pending, and only so many constants may
be entered at once.  Neither is felt where a value comes out: then the references below the constant
end, so that none of them leads back to a pending name, and there are never more names pending than
there are constants.  So the value is that of the expression of its declaration, in which all other
names stand for their values.

## Main definitions

* `ConstEntry.Feeds`: one constant stands in the expression of another one.
* `PackageScope.declaredValue`: what the expression of a constant comes to.

## Main results

* `acc_of_run_named`: below a constant that has a value, the references end.
* `namedConstant_eq`: the value does not depend on what is pending.
* `run_named_eq_ok_iff`: a constant has the value of its expression.
-/

namespace WrapperGen

open Source Relation

/-! ### Expressions -/

section Expressions

variable {scope : PackageScope} {source other : ConstantSource} {file : SourceFile}
  {counter? : Option Nat}

/-- The value of an expression depends only on the constants in it. -/
theorem constantValue_congr (imports : source.imported? = other.imported?) (e : Expr)
    (same : ∀ name ∈ e.names, ∀ entry, scope.constant? name = some entry →
      source.named entry = other.named entry) :
    constantValue scope source file counter? e = constantValue scope other file counter? e := by
  -- only where an expression is a name does the source matter
  induction e with
  | integer span text => rfl
  | counter span => rfl
  | name span text =>
    unfold constantValue
    cases found : scope.constant? text with
    | none => rfl
    | some entry => exact same text (List.mem_singleton_self text) entry found
  | selector span operand field =>
    unfold constantValue
    rw [imports]
  | paren span inner ih =>
    unfold constantValue
    exact ih same
  | unary span op operand ih =>
    unfold constantValue
    rw [ih same]
  | binary span op left right ihl ihr =>
    unfold constantValue
    rw [ihl fun name hn => same name (List.mem_append_left _ hn),
      ihr fun name hn => same name (List.mem_append_right _ hn)]
  | other span => rfl

/-- Where an expression has a value, so do all constants in it. -/
theorem exists_run_named_of_run_constantValue {e : Expr} {n : Int} {s last : Session}
    (came : (constantValue scope source file counter? e).run.run s = (.ok n, last)) :
    ∀ name ∈ e.names, ∃ entry, scope.constant? name = some entry
      ∧ ∃ m before after, (source.named entry).run.run before = (.ok m, after) := by
  -- a computation that succeeds has computed all names on its way
  induction e generalizing n s last with
  | name span text =>
    intro name mem
    obtain rfl := List.mem_singleton.1 mem
    unfold constantValue at came
    cases found : scope.constant? name with
    | none =>
      rw [found] at came
      cases came
    | some entry =>
      rw [found] at came
      exact ⟨entry, rfl, n, s, last, came⟩
  | paren span inner ih =>
    unfold constantValue at came
    exact ih came
  | unary span op operand ih =>
    unfold constantValue at came
    obtain ⟨_, _, operandCame, -⟩ := exists_of_run_bind came
    exact ih operandCame
  | binary span op left right ihl ihr =>
    unfold constantValue at came
    obtain ⟨_, _, leftCame, came⟩ := exists_of_run_bind came
    obtain ⟨_, _, rightCame, -⟩ := exists_of_run_bind came
    exact List.forall_mem_append.2 ⟨ihl leftCame, ihr rightCame⟩
  | _ => exact fun name mem => absurd mem List.not_mem_nil

end Expressions

/-! ### References that end -/

section Ends

variable {scope : PackageScope} {entry : ConstEntry} {value : Expr}
  {imported? : Option (SourceFile → Span → Expr → String → Check Int)}

/-- The constant `other` stands in the expression that `entry` is declared with. -/
def ConstEntry.Feeds (scope : PackageScope) (other entry : ConstEntry) : Prop :=
  ∃ value, entry.value? = some value ∧ ∃ name ∈ value.names, scope.constant? name = some other

/-- What stands in an expression is a constant of the package. -/
theorem ConstEntry.Feeds.constant? {other : ConstEntry} (h : other.Feeds scope entry) :
    scope.constant? other.name = some other := by
  obtain ⟨_, _, name, -, found⟩ := h
  rwa [(PackageScope.mem_of_constant? found).2]

/-- References that end do not lead back. -/
theorem not_transGen_feeds (h : Acc (ConstEntry.Feeds scope) entry) :
    ¬ TransGen (ConstEntry.Feeds scope) entry entry := by
  induction h.transGen with
  | intro entry _ ih => exact fun back => ih entry back (h.inv_of_transGen back) back

theorem acc_of_names (given : entry.value? = some value)
    (below : ∀ name ∈ value.names, ∀ other, scope.constant? name = some other →
      Acc (ConstEntry.Feeds scope) other) : Acc (ConstEntry.Feeds scope) entry := by
  refine ⟨entry, fun other feeds => ?_⟩
  obtain ⟨_, same, name, mem, found⟩ := feeds
  obtain rfl := Option.some.inj (given.symm.trans same)
  exact below name mem other found

/-- Below a constant that has a value, the references end: each step leads to a constant that is
given a value in less depth. -/
theorem acc_of_run_named {depth : Nat} {pending : List String} {n : Int} {s last : Session}
    (came : (namedConstant scope imported? depth pending entry).run.run s = (.ok n, last)) :
    Acc (ConstEntry.Feeds scope) entry := by
  -- each name in the value has come out with one less, so the chain of names ends
  induction depth generalizing pending entry n s last with
  | zero =>
    unfold namedConstant at came
    split at came
    · cases came
    · cases came
  | succ depth ih =>
    unfold namedConstant at came
    split at came
    · cases came
    · next value given =>
      dsimp only at came
      split at came
      · cases came
      · refine acc_of_names given fun name mem other found => ?_
        obtain ⟨_, same, _, _, _, below⟩ :=
          exists_run_named_of_run_constantValue came name mem
        obtain rfl := Option.some.inj (found.symm.trans same)
        exact ih below

/-- A constant that is not pending is entered. -/
theorem namedConstant_succ (given : entry.value? = some value) (depth : Nat)
    {pending : List String} (new : entry.name ∉ pending) :
    namedConstant scope imported? (depth + 1) pending entry
      = constantValue scope ⟨namedConstant scope imported? depth (entry.name :: pending), imported?⟩
          entry.file (some entry.counter) value := by
  rw [namedConstant, given]
  dsimp only
  rw [if_neg (by simpa using new)]

/-- What the expression of a constant comes to, in its file and behind as many declarations as there
are in front of it.  All constants in it stand for their own values. -/
def PackageScope.declaredValue (scope : PackageScope)
    (imported? : Option (SourceFile → Span → Expr → String → Check Int)) (entry : ConstEntry) :
    Check Int :=
  match entry.value? with
  | none => throw (.missingValue entry.name)
  | some value =>
      constantValue scope (scope.constantSource imported?) entry.file (some entry.counter) value

/-- Where the references below a constant end and lead to no pending name, its value does not depend
on what is pending. -/
theorem namedConstant_eq (ends : Acc (ConstEntry.Feeds scope) entry)
    (declared : scope.constant? entry.name = some entry) {pending : List String}
    (nodup : pending.Nodup) (names : ∀ name ∈ pending, name ∈ scope.constants.map ConstEntry.name)
    (free : ∀ other, ReflTransGen (ConstEntry.Feeds scope) other entry → other.name ∉ pending) :
    namedConstant scope imported? (scope.constants.length - pending.length) pending entry
      = scope.declaredValue imported? entry := by
  -- on the constants that the value names; these end as well, and so the depth is enough
  induction ends generalizing pending with
  | intro entry below ih =>
    have ends : Acc (ConstEntry.Feeds scope) entry := ⟨entry, below⟩
    unfold PackageScope.declaredValue
    cases given : entry.value? with
    | none => rw [namedConstant, given]
    | some value =>
      have new : entry.name ∉ pending := free entry .refl
      have nodupToo : (entry.name :: pending).Nodup := List.nodup_cons.2 ⟨new, nodup⟩
      have namesToo : ∀ name ∈ entry.name :: pending, name ∈ scope.constants.map ConstEntry.name :=
        List.forall_mem_cons.2 ⟨List.mem_map.2
          ⟨entry, (PackageScope.mem_of_constant? declared).1, rfl⟩, names⟩
      -- the pending names are distinct names of constants, so one more of them fits
      have room : (entry.name :: pending).length ≤ scope.constants.length := by
        rw [← List.length_map (f := ConstEntry.name)]
        exact (List.subperm_of_subset nodupToo namesToo).length_le
      have depth : scope.constants.length - pending.length
          = scope.constants.length - (entry.name :: pending).length + 1 := by
        rw [List.length_cons] at room ⊢
        omega
      rw [depth, namedConstant_succ given _ new]
      dsimp only
      refine constantValue_congr (by rfl) value fun name mem other found => ?_
      have feeds : other.Feeds scope entry := ⟨value, given, name, mem, found⟩
      -- the values that are named do not depend on what is pending
      have alone := ih other feeds feeds.constant? List.nodup_nil (List.forall_mem_nil _)
        fun _ _ => List.not_mem_nil
      refine (ih other feeds feeds.constant? nodupToo namesToo fun more leads again => ?_).trans
        alone.symm
      rcases List.mem_cons.1 again with same | old
      · -- a reference back to the constant itself would never end
        have there : scope.constant? more.name = some more := by
          rcases leads.cases_head with rfl | ⟨_, first, -⟩
          · exact feeds.constant?
          · exact first.constant?
        obtain rfl := Option.some.inj (there.symm.trans (same ▸ declared))
        exact not_transGen_feeds ends (TransGen.tail' leads feeds)
      · exact free more (leads.tail feeds) old

/-- A constant has the value that its declaration gives it, if that gives it any. -/
theorem run_named_eq_ok_iff (declared : scope.constant? entry.name = some entry) {n : Int}
    {s last : Session} :
    ((scope.constantSource imported?).named entry).run.run s = (.ok n, last)
      ↔ (scope.declaredValue imported? entry).run.run s = (.ok n, last) := by
  -- where the names end, the depth that is given is enough
  have same (ends : Acc (ConstEntry.Feeds scope) entry) :
      (scope.constantSource imported?).named entry = scope.declaredValue imported? entry :=
    namedConstant_eq ends declared List.nodup_nil (List.forall_mem_nil _) fun _ _ =>
      List.not_mem_nil
  constructor
  · intro came
    rwa [same (acc_of_run_named came)] at came
  · intro came
    rwa [same]
    unfold PackageScope.declaredValue at came
    split at came
    · cases came
    · next value given =>
      refine acc_of_names given fun name mem other found => ?_
      obtain ⟨_, again, _, _, _, below⟩ := exists_run_named_of_run_constantValue came name mem
      obtain rfl := Option.some.inj (found.symm.trans again)
      exact acc_of_run_named below

/-- A constant without an expression has no value. -/
theorem run_named_missing (none' : entry.value? = none) (s : Session) :
    ((scope.constantSource imported?).named entry).run.run s
      = (.error (.missingValue entry.name), s) := by
  unfold PackageScope.constantSource namedConstant
  rw [none']
  rfl

end Ends

end WrapperGen
