import WrapperGen.Proofs.SearchOrder

/-!
# Where a path leads to

A walk along the steps of a path keeps the names that lead to where it is: a name comes on top of
the others, and `..` takes the last one away.  Where no name is left, a path from the top of the
tree stays there, and a relative one comes out above the place that it started from; the walk counts
these climbs.

Folding keeps the names of the walk, and so the place.  But it does not keep the climbs: a `..` that
could not be taken is folded away by the next one, as if it were a name.  So one climb is left of an
odd number of them, and none of an even one.  From the top of the tree a place has two folded paths
therefore, and a relative path that climbs twice comes out where it started from.

## Main definitions

* `LexicalWalk`: the names on the way, and the climbs.
* `Path.lexicalWalk`: the walk along a path.
* `LexicalWalk.kept`: the steps that folding leaves of a walk.

## Main results

* `Path.folded_eq_kept`: folding is told by the walk.
* `Path.normalize_keeps_place`: folding keeps the place.
* `Path.normalForm_iff`: when folded paths are normal forms.
* `Path.normalize_loses_climbs`: a path that climbs twice.
-/

namespace WrapperGen

open WrapperGen.Path (foldStep)

/-- The name of a step to a named entry. -/
def Component.name? : Component → Option String
  | .name text => some text
  | _ => none

/-! ### Walks -/

/-- Where some steps have led to, by their names alone. -/
structure LexicalWalk where
  /-- How many steps went up where no name was left. -/
  climbs : Nat
  /-- The names that lead to the place, the last one first. -/
  names : List String
  deriving DecidableEq, Repr

namespace LexicalWalk

/-- No step has been taken. -/
def start : LexicalWalk := ⟨0, []⟩

/-- One more step.  The top of the tree is where a path starts, and `.` is the place itself. -/
def after (walk : LexicalWalk) : Component → LexicalWalk
  | .root | .here => walk
  | .up =>
      match walk.names with
      | [] => { walk with climbs := walk.climbs + 1 }
      | _ :: above => { walk with names := above }
  | .name text => { walk with names := text :: walk.names }

@[simp] theorem after_root (walk : LexicalWalk) : walk.after .root = walk := rfl

@[simp] theorem after_here (walk : LexicalWalk) : walk.after .here = walk := rfl

@[simp] theorem after_name (walk : LexicalWalk) (text : String) :
    walk.after (.name text) = ⟨walk.climbs, text :: walk.names⟩ := rfl

@[simp] theorem after_up_nil (climbs : Nat) : after ⟨climbs, []⟩ .up = ⟨climbs + 1, []⟩ := rfl

@[simp] theorem after_up_cons (climbs : Nat) (text : String) (above : List String) :
    after ⟨climbs, text :: above⟩ .up = ⟨climbs, above⟩ := rfl

/-- Some more steps. -/
def along (walk : LexicalWalk) (steps : List Component) : LexicalWalk := steps.foldl after walk

@[simp] theorem along_nil (walk : LexicalWalk) : walk.along [] = walk := rfl

@[simp] theorem along_cons (walk : LexicalWalk) (step : Component) (rest : List Component) :
    walk.along (step :: rest) = (walk.after step).along rest := rfl

theorem along_append (walk : LexicalWalk) (steps more : List Component) :
    walk.along (steps ++ more) = (walk.along steps).along more :=
  List.foldl_append

/-! ### Folding along a walk -/

/-- The steps that folding leaves of a walk, the last one first: its names, behind one climb if
there was an odd number of them. -/
def kept (absolute : Bool) (walk : LexicalWalk) : List Component :=
  walk.names.map .name ++ (List.replicate (walk.climbs % 2) .up ++ Path.start absolute)

variable {absolute : Bool} {walk : LexicalWalk} {steps : List Component} {step : Component}

/-- The names of a walk are those among the steps that folding leaves. -/
theorem filterMap_kept (absolute : Bool) (walk : LexicalWalk) :
    (walk.kept absolute).filterMap Component.name? = walk.names := by
  have climb : (List.replicate (walk.climbs % 2) Component.up).filterMap Component.name? = [] := by
    rw [List.filterMap_eq_nil_iff]
    intro step hs
    rw [List.eq_of_mem_replicate hs]
    rfl
  have top : (Path.start absolute).filterMap Component.name? = [] := by
    cases absolute with
    | true => rfl
    | false => rfl
  rw [kept, List.filterMap_append, List.filterMap_append, climb, top, List.filterMap_map]
  simp [Function.comp_def, Component.name?]

/-- Folding takes a step as the walk does. -/
theorem kept_after (h : step ≠ .root) :
    (walk.after step).kept absolute = foldStep (walk.kept absolute) step := by
  cases step with
  | root => exact absurd rfl h
  | here => rfl
  | name text => rfl
  | up =>
    obtain ⟨climbs, names⟩ := walk
    cases names with
    | cons text above => rfl
    | nil =>
      -- a climb that was kept is taken for a name by the next one
      rcases Nat.mod_two_eq_zero_or_one climbs with even | odd
      · have next : (climbs + 1) % 2 = 1 := by omega
        cases absolute with
        | true => simp [kept, even, next, Path.start, foldStep]
        | false => simp [kept, even, next, Path.start, foldStep]
      · have next : (climbs + 1) % 2 = 0 := by omega
        cases absolute with
        | true => simp [kept, odd, next, Path.start, foldStep]
        | false => simp [kept, odd, next, Path.start, foldStep]

/-- Folding takes some steps as the walk does. -/
theorem kept_along (h : ∀ step ∈ steps, step ≠ .root) :
    (walk.along steps).kept absolute = steps.foldl foldStep (walk.kept absolute) := by
  induction steps generalizing walk with
  | nil => rfl
  | cons step rest ih =>
    rw [along_cons, List.foldl_cons, ih fun other ho => h other (List.mem_cons_of_mem step ho),
      kept_after (h step List.mem_cons_self)]

end LexicalWalk

namespace Path

/-- The walk along a path. -/
def lexicalWalk (p : Path) : LexicalWalk := LexicalWalk.start.along p.components

variable {p q base : Path}

/-- A walk goes from piece to piece; how a path starts makes no difference to it. -/
theorem along_components (walk : LexicalWalk) (p : Path) :
    walk.along p.components
      = walk.along ((List.splitOn '/' p.text.toList).filterMap Component.ofPiece?) := by
  obtain ⟨dot, idle, steps⟩ := exists_dot_components p
  have top : walk.along (start p.isAbsolute) = walk := by
    cases p.isAbsolute with
    | true => rfl
    | false => rfl
  rw [steps, LexicalWalk.along_append, LexicalWalk.along_append, top]
  rcases idle with rfl | rfl
  · rfl
  · rfl

/-- What folding leaves of a path is what it leaves of the walk. -/
theorem folded_eq_kept (p : Path) : p.folded = p.lexicalWalk.kept p.isAbsolute := by
  rw [folded_eq, lexicalWalk, along_components,
    LexicalWalk.kept_along fun step hs => (isWritten_of_mem_pieces hs).ne_root]
  rfl

theorem filterMap_folded (p : Path) :
    p.folded.filterMap Component.name? = p.lexicalWalk.names := by
  rw [folded_eq_kept, LexicalWalk.filterMap_kept]

/-! ### The place -/

theorem isAbsolute_normalize (p : Path) : p.normalize.isAbsolute = p.isAbsolute := by
  obtain ⟨inner, path, -, -, written⟩ := exists_inner_normalize p
  rw [path, isAbsolute_ofComponents _ written]

theorem isAbsolute_join (h : base.isAbsolute = true) : (base.join p).isAbsolute = true := by
  have slash : base.text.toList.head? = some '/' := by simpa [isAbsolute] using h
  unfold join
  by_cases absolute : p.isAbsolute = true
  · rw [if_pos absolute]
    exact absolute
  · rw [if_neg absolute]
    split
    · simp [isAbsolute, slash]
    · simp [isAbsolute, slash]

/-- Folding keeps the names of the walk. -/
theorem names_normalize (p : Path) : p.normalize.lexicalWalk.names = p.lexicalWalk.names := by
  rw [← filterMap_folded, folded_normalize, filterMap_folded]

/-- Behind a directory the walk goes on from there. -/
theorem names_join (base : Path) (relative : p.isAbsolute = false) :
    (base.join p).lexicalWalk.names = (base.lexicalWalk.along p.components).names := by
  rw [← filterMap_folded, folded_join _ _ relative, folded_eq_kept,
    ← LexicalWalk.kept_along fun step hs => (isWritten_of_mem_pieces hs).ne_root,
    LexicalWalk.filterMap_kept, along_components]

/-- Folding a path from the top of the tree gives one that leads to the same place; seen from a
directory, a relative path leads where its steps lead from there; and folding a second time changes
nothing. -/
theorem normalize_keeps_place :
    (∀ p : Path, p.isAbsolute = true →
        p.normalize.isAbsolute = true ∧ p.normalize.lexicalWalk.names = p.lexicalWalk.names)
      ∧ (∀ base p : Path, base.isAbsolute = true →
        (base.absolutize p).isAbsolute = true
          ∧ (base.absolutize p).lexicalWalk.names
            = if p.isAbsolute then p.lexicalWalk.names
              else (base.lexicalWalk.along p.components).names)
      ∧ ∀ p : Path, p.normalize.normalize = p.normalize := by
  refine ⟨fun p absolute => ?_, fun base p absolute => ?_, normalize_normalize⟩
  · exact ⟨(isAbsolute_normalize p).trans absolute, names_normalize p⟩
  · refine ⟨(isAbsolute_normalize _).trans (isAbsolute_join absolute), ?_⟩
    rw [absolutize, names_normalize]
    by_cases own : p.isAbsolute = true
    · rw [if_pos own, join, if_pos own]
    · rw [if_neg own, names_join base (by simpa using own)]

/-- From `/work`, `../../a/../b` leads to `/b`, although folding leaves a climb. -/
theorem normalize_keeps_place_work :
    (Path.mk "/work").isAbsolute = true
      ∧ ((Path.mk "/work").absolutize ⟨"../../a/../b"⟩).lexicalWalk.names = ["b"]
      ∧ (Path.mk "/work").absolutize ⟨"../../a/../b"⟩ = ⟨"/../b"⟩
      ∧ (Path.mk "/../b").normalize.lexicalWalk.names = ["b"] := by
  have absolute : (Path.mk "/work").isAbsolute = true := by decide +kernel
  have steps : (if (Path.mk "../../a/../b").isAbsolute
      then (Path.mk "../../a/../b").lexicalWalk.names
      else ((Path.mk "/work").lexicalWalk.along (Path.mk "../../a/../b").components).names)
      = ["b"] := by decide +kernel
  refine ⟨absolute, (normalize_keeps_place.2.1 ⟨"/work"⟩ ⟨"../../a/../b"⟩ absolute).2.trans steps,
    by decide +kernel, ?_⟩
  exact (normalize_keeps_place.1 ⟨"/../b"⟩ (by decide +kernel)).2.trans (by decide +kernel)

/-! ### Normal forms -/

/-- The steps of a folded path: one climb if the walk has an odd number of them, and the names. -/
theorem components_normalize_eq (p : Path) :
    p.normalize.components = start p.isAbsolute
      ++ (List.replicate (p.lexicalWalk.climbs % 2) .up
        ++ p.lexicalWalk.names.reverse.map .name) := by
  have alone : (start p.isAbsolute).reverse = start p.isAbsolute := by
    cases p.isAbsolute with
    | true => rfl
    | false => rfl
  rw [components_normalize, folded_eq_kept, LexicalWalk.kept, List.reverse_append,
    List.reverse_append, List.reverse_replicate, alone, ← List.map_reverse, List.append_assoc]

theorem up_mem_normalize_iff (p : Path) :
    .up ∈ p.normalize.components ↔ p.lexicalWalk.climbs % 2 = 1 := by
  have top : Component.up ∉ start p.isAbsolute := by
    cases p.isAbsolute with
    | true => decide
    | false => decide
  rw [components_normalize_eq]
  simp only [List.mem_append, top, List.mem_replicate, List.mem_map, reduceCtorEq, and_false,
    exists_false, or_false, false_or, and_true]
  omega

theorem here_not_mem_normalize (p : Path) : .here ∉ p.normalize.components := by
  have top : Component.here ∉ start p.isAbsolute := by
    cases p.isAbsolute with
    | true => decide
    | false => decide
  rw [components_normalize_eq]
  simp [top]

/-- Two paths that start alike fold to one path if they lead to one place, and if both numbers of
climbs are even or both are odd. -/
theorem normalize_eq_iff (start : p.isAbsolute = q.isAbsolute) :
    p.normalize = q.normalize ↔ p.lexicalWalk.climbs % 2 = q.lexicalWalk.climbs % 2
      ∧ p.lexicalWalk.names = q.lexicalWalk.names := by
  constructor
  · intro same
    constructor
    · have climb : (.up ∈ p.normalize.components ↔ .up ∈ q.normalize.components) := by rw [same]
      rw [up_mem_normalize_iff, up_mem_normalize_iff] at climb
      omega
    · rw [← names_normalize p, same, names_normalize]
  · rintro ⟨climbs, names⟩
    show ofComponents p.folded.reverse = ofComponents q.folded.reverse
    rw [folded_eq_kept, folded_eq_kept, LexicalWalk.kept, LexicalWalk.kept, start, climbs, names]

/-- Of two such paths that differ in nothing but the names, one folds to a path at or below the
other exactly if its names begin with those of the other. -/
theorem isAtOrBelow_normalize_iff (start : p.isAbsolute = base.isAbsolute)
    (climbs : p.lexicalWalk.climbs % 2 = base.lexicalWalk.climbs % 2) :
    p.normalize.isAtOrBelow base.normalize = true
      ↔ base.lexicalWalk.names <:+ p.lexicalWalk.names := by
  have front : p.normalize.isAtOrBelow base.normalize = true
      ↔ base.normalize.components <+: p.normalize.components := by
    rw [isAtOrBelow_iff]
    exact exists_congr fun steps => eq_comm
  have names : base.lexicalWalk.names.reverse.map Component.name
        <+: p.lexicalWalk.names.reverse.map Component.name
      ↔ base.lexicalWalk.names <:+ p.lexicalWalk.names := by
    rw [← List.reverse_prefix]
    constructor
    · intro h
      simpa [List.filterMap_map, Function.comp_def, Component.name?]
        using h.filterMap Component.name?
    · exact fun h => h.map Component.name
  rw [front, components_normalize_eq, components_normalize_eq, start, climbs,
    List.prefix_append_right_inj, List.prefix_append_right_inj, names]

/-- The climbs in front of some names are counted. -/
theorem count_climbs (climbs : Nat) (names : List String) :
    (List.replicate climbs Component.up ++ names.map Component.name).count .up = climbs := by
  have none' : (names.map Component.name).count .up = 0 := by
    rw [List.count_eq_zero]
    simp
  rw [List.count_append, List.count_replicate_self, none', Nat.add_zero]

/-- Folding leaves all climbs of a relative path exactly if there is at most one. -/
theorem climbs_kept_iff (relative : p.isAbsolute = false) :
    (∃ names : List String, p.normalize.components
        = List.replicate p.lexicalWalk.climbs .up ++ names.map .name)
      ↔ p.lexicalWalk.climbs ≤ 1 := by
  have steps : p.normalize.components = List.replicate (p.lexicalWalk.climbs % 2) .up
      ++ p.lexicalWalk.names.reverse.map .name := by
    rw [components_normalize_eq, relative]
    rfl
  constructor
  · rintro ⟨names, all⟩
    have counts := congrArg (List.count .up) (all.symm.trans steps)
    rw [count_climbs, count_climbs] at counts
    omega
  · intro few
    refine ⟨p.lexicalWalk.names.reverse, ?_⟩
    rw [steps, Nat.mod_eq_of_lt (by omega)]

/-- From the top of the tree, what folding leaves is free of `.` and `..` exactly if the number of
climbs is even; and of two paths to one place it makes the same path exactly if both numbers are
even or both are odd, so that paths can be compared by their first steps.  A relative path folds to
all its climbs with names behind them exactly if it climbs at most once. -/
theorem normalForm_iff (p : Path) :
    (p.isAbsolute = true →
        ((.here ∉ p.normalize.components ∧ .up ∉ p.normalize.components)
            ↔ p.lexicalWalk.climbs % 2 = 0)
          ∧ ∀ q : Path, q.isAbsolute = true →
            (q.lexicalWalk.names = p.lexicalWalk.names →
                (q.normalize = p.normalize
                  ↔ q.lexicalWalk.climbs % 2 = p.lexicalWalk.climbs % 2))
              ∧ (q.lexicalWalk.climbs % 2 = p.lexicalWalk.climbs % 2 →
                (q.normalize.isAtOrBelow p.normalize = true
                  ↔ p.lexicalWalk.names <:+ q.lexicalWalk.names)))
      ∧ (p.isAbsolute = false →
        ((∃ names : List String, p.normalize.components
            = List.replicate p.lexicalWalk.climbs .up ++ names.map .name)
          ↔ p.lexicalWalk.climbs ≤ 1)) := by
  refine ⟨fun absolute => ⟨?_, fun q top => ?_⟩, climbs_kept_iff⟩
  · rw [up_mem_normalize_iff]
    constructor
    · rintro ⟨-, noClimb⟩
      omega
    · exact fun even => ⟨here_not_mem_normalize p, by omega⟩
  · have alike : q.isAbsolute = p.isAbsolute := top.trans absolute.symm
    refine ⟨fun names => ?_, isAtOrBelow_normalize_iff alike⟩
    rw [normalize_eq_iff alike]
    exact and_iff_left names

/-- Two climbs from the top of the tree are folded away, and a relative path that climbs once keeps
its climb. -/
theorem normalForm_iff_store :
    (Path.mk "/../../store").isAbsolute = true
      ∧ (Path.mk "/../../store").normalize = (Path.mk "/store").normalize
      ∧ (.up ∉ (Path.mk "/../../store").normalize.components)
      ∧ (Path.mk "/store/a").normalize.isAtOrBelow (Path.mk "/../../store").normalize = true
      ∧ ∃ names : List String, (Path.mk "a/../../store").normalize.components
          = List.replicate (Path.mk "a/../../store").lexicalWalk.climbs .up ++ names.map .name := by
  have absolute : (Path.mk "/../../store").isAbsolute = true := by decide +kernel
  obtain ⟨free, same⟩ := (normalForm_iff ⟨"/../../store"⟩).1 absolute
  refine ⟨absolute, ?_, (free.2 (by decide +kernel)).2, ?_, ?_⟩
  · exact (((same ⟨"/store"⟩ (by decide +kernel)).1 (by decide +kernel)).2
      (by decide +kernel)).symm
  · exact ((same ⟨"/store/a"⟩ (by decide +kernel)).2 (by decide +kernel)).2 (by decide +kernel)
  · exact ((normalForm_iff ⟨"a/../../store"⟩).2 (by decide +kernel)).2 (by decide +kernel)

/-- The second climb folds the first one away: two climbs lead nowhere, and from the top of the tree
one climb is left. -/
theorem normalize_loses_climbs :
    (Path.mk "../..").lexicalWalk = ⟨2, []⟩ ∧ (Path.mk "../..").normalize = ⟨""⟩
      ∧ (Path.mk "/work/../..").lexicalWalk.names = (Path.mk "/").lexicalWalk.names
      ∧ (Path.mk "/work").absolutize ⟨"../.."⟩ = ⟨"/.."⟩
      ∧ (Path.mk "/").normalize = ⟨"/"⟩ := by
  decide +kernel

end Path

end WrapperGen
