import Mathlib.Data.List.Infix
import WrapperGen.Proofs.PathPieces

/-!
# Folded paths

Folding takes the steps of a path one after the other, and looks at nothing but the pieces between
its slashes.  What it leaves are names behind at most one climb that could not be taken.  All of
these are read back from their texts; so folding a second time changes nothing, and the directories
above a folded path are those that its first steps lead to.

## Main definitions

* `Component.IsWritten`: a step that is read back from its own text.
* `Path.start`: the steps that a path begins with before any piece is read.
* `Path.IsReduced`: the steps that folding leaves.
* `Path.enclosing`: the directories that the first steps of a path lead to.

## Main results

* `Path.components_ofComponents`: written steps come back from the path that they make.
* `Path.isReduced_folded`, `Path.folded_of_isReduced`: folding leaves reduced steps, and leaves them
  alone.
* `Path.normalize_normalize`, `Path.absolutize_normalize`: folding a second time changes nothing.
* `Path.ancestors_normalize`: the directories above a folded path.
-/

namespace WrapperGen

/-- A step that is read back from its own text. -/
def Component.IsWritten (step : Component) : Prop :=
  Component.ofPiece? step.text.toList = some step ∧ '/' ∉ step.text.toList

theorem Component.isWritten_up : Component.up.IsWritten := ⟨rfl, by decide⟩

/-- A step that is read from a piece is read back from its own text. -/
theorem Component.isWritten_of_piece {piece : List Char} {step : Component} (h : '/' ∉ piece)
    (hs : Component.ofPiece? piece = some step) : step.IsWritten := by
  have read := hs
  unfold Component.ofPiece? at hs
  split at hs
  · cases hs
  · cases hs
  · obtain rfl := Option.some.inj hs
    exact Component.isWritten_up
  · obtain rfl := Option.some.inj hs
    unfold Component.IsWritten Component.text
    rw [String.toList_ofList]
    exact ⟨read, h⟩

theorem Component.IsWritten.isStep {step : Component} (h : step.IsWritten) :
    IsStep step.text.toList := by
  obtain ⟨read, slash⟩ := h
  refine ⟨?_, ?_, slash⟩
  · intro e
    rw [e] at read
    cases read
  · intro e
    rw [e] at read
    cases read

theorem Component.IsWritten.ne_root {step : Component} (h : step.IsWritten) : step ≠ .root := by
  rintro rfl
  cases Option.some.inj h.1

namespace Path

/-! ### Written steps -/

/-- The steps that a path begins with before any piece is read. -/
def start (absolute : Bool) : List Component := if absolute then [.root] else []

section Written

variable {inner : List Component} {last : Component} (absolute : Bool)

/-- The path of written steps is that of their texts. -/
theorem ofComponents_start (h : ∀ step ∈ inner, step.IsWritten) :
    ofComponents (start absolute ++ inner) = ofPieces absolute (inner.map (·.text.toList)) := by
  cases absolute with
  | true =>
    show Path.mk _ = Path.mk _
    congr 1
    apply String.toList_injective
    simp [joinSlash, Function.comp_def]
  | false =>
    -- no written step is the top of the tree, so none is set apart
    have text : ofComponents inner = ⟨joinSlash (inner.map Component.text)⟩ := by
      cases inner with
      | nil => rfl
      | cons first rest =>
        have ne := (h first List.mem_cons_self).ne_root
        cases first with
        | root => exact absurd rfl ne
        | _ => rfl
    show ofComponents inner = _
    rw [text, ofPieces, joinSlash, List.map_map]
    rfl

theorem components_ofPieces {pieces : List (List Char)} (h : ∀ piece ∈ pieces, IsStep piece) :
    (ofPieces absolute pieces).components
      = start absolute ++ pieces.filterMap Component.ofPiece? := by
  have cut : (List.splitOn '/' (['/'].intercalate pieces)).filterMap Component.ofPiece?
      = pieces.filterMap Component.ofPiece? := by
    by_cases none' : pieces = []
    · rw [none']
      rfl
    · rw [List.splitOn_intercalate '/' (not_slash_of_steps h) none']
  unfold components
  rw [isAbsolute_ofPieces absolute h]
  cases absolute with
  | true =>
    have top := List.splitOn_append_cons_self (a := '/') [] (['/'].intercalate pieces)
    rw [List.nil_append] at top
    simp only [ofPieces, if_true, String.toList_ofList, top, List.splitOn_nil, List.cons_append,
      List.nil_append, start, cut]
  | false =>
    simp only [ofPieces, Bool.false_eq_true, if_false, String.toList_ofList, List.nil_append, start]
    cases pieces with
    | nil => rfl
    | cons first rest =>
      obtain ⟨-, noDot, -⟩ := h first List.mem_cons_self
      rw [List.splitOn_intercalate '/' (not_slash_of_steps h) (by simp)]
      dsimp only
      rw [if_neg (by simpa using noDot), List.filterMap_cons]
      cases Component.ofPiece? first with
      | none => rfl
      | some step => rfl

/-- Written steps come back from the path that they make. -/
theorem components_ofComponents (h : ∀ step ∈ inner, step.IsWritten) :
    (ofComponents (start absolute ++ inner)).components = start absolute ++ inner := by
  have steps : ∀ piece ∈ inner.map (·.text.toList), IsStep piece := by
    intro piece hp
    obtain ⟨step, hs, rfl⟩ := List.mem_map.1 hp
    exact (h step hs).isStep
  rw [ofComponents_start absolute h, components_ofPieces absolute steps, List.filterMap_map]
  congr 1
  calc inner.filterMap (Component.ofPiece? ∘ (·.text.toList))
      = inner.filterMap some := List.filterMap_congr fun step hs => (h step hs).1
    _ = inner := List.filterMap_some

theorem isAbsolute_ofComponents (h : ∀ step ∈ inner, step.IsWritten) :
    (ofComponents (start absolute ++ inner)).isAbsolute = absolute := by
  rw [ofComponents_start absolute h]
  refine isAbsolute_ofPieces absolute fun piece hp => ?_
  obtain ⟨step, hs, rfl⟩ := List.mem_map.1 hp
  exact (h step hs).isStep

theorem parent?_ofComponents_start : (ofComponents (start absolute)).parent? = none := by
  cases absolute with
  | true => rfl
  | false => rfl

/-- The parent of a path of written steps has all steps but the last. -/
theorem parent?_ofComponents (h : ∀ step ∈ inner ++ [last], step.IsWritten) :
    (ofComponents (start absolute ++ (inner ++ [last]))).parent?
      = some (ofComponents (start absolute ++ inner)) := by
  have steps : ∀ piece ∈ inner.map (·.text.toList) ++ [last.text.toList], IsStep piece := by
    intro piece hp
    rcases List.mem_append.1 hp with hp | hp
    · obtain ⟨step, hs, rfl⟩ := List.mem_map.1 hp
      exact (h step (List.mem_append_left _ hs)).isStep
    · rw [List.mem_singleton.1 hp]
      exact (h last (by simp)).isStep
  rw [ofComponents_start absolute h, List.map_append, List.map_singleton,
    parent?_ofPieces absolute steps,
    ofComponents_start absolute fun step hs => h step (List.mem_append_left _ hs)]

/-- A path of written steps is at least as long as there are steps. -/
theorem length_le_length_ofComponents (h : ∀ step ∈ inner, step.IsWritten) :
    inner.length ≤ (ofComponents (start absolute ++ inner)).text.length := by
  have long : ∀ pieces : List (List Char), (∀ piece ∈ pieces, piece ≠ []) →
      pieces.length ≤ (['/'].intercalate pieces).length := by
    intro pieces full
    induction pieces with
    | nil => exact Nat.zero_le _
    | cons first rest ih =>
      have one : 0 < first.length := List.length_pos_iff.2 (full first List.mem_cons_self)
      have more := ih fun piece hp => full piece (List.mem_cons_of_mem first hp)
      cases rest with
      | nil =>
        rw [List.intercalate_singleton]
        exact one
      | cons next others =>
        rw [List.intercalate_cons_cons, List.length_append, List.length_append,
          List.length_cons (a := first)]
        simp only [List.length_cons] at more ⊢
        omega
  have pieces := long (inner.map (·.text.toList)) fun piece hp => by
    obtain ⟨step, hs, rfl⟩ := List.mem_map.1 hp
    exact (h step hs).isStep.1
  rw [List.length_map] at pieces
  rw [ofComponents_start absolute h, ofPieces, String.length_ofList, List.length_append]
  omega

end Written

/-! ### Folding -/

/-- What folding leaves of the steps of a path, last one first. -/
abbrev folded (p : Path) : List Component := p.components.foldl foldStep []

/-- The steps that folding leaves, last one first: names behind at most one climb. -/
inductive IsReduced (absolute : Bool) : List Component → Prop
  /-- Nothing has been taken yet. -/
  | start : IsReduced absolute (start absolute)
  /-- A climb that could not be taken. -/
  | up : IsReduced absolute (.up :: Path.start absolute)
  /-- A name behind others. -/
  | name {steps : List Component} {text : String} (reduced : IsReduced absolute steps)
      (written : (Component.name text).IsWritten) : IsReduced absolute (.name text :: steps)

theorem IsReduced.exists_inner {absolute : Bool} {steps : List Component}
    (h : IsReduced absolute steps) :
    ∃ inner, steps.reverse = Path.start absolute ++ inner ∧ ∀ step ∈ inner, step.IsWritten := by
  have alone : (Path.start absolute).reverse = Path.start absolute := by
    cases absolute with
    | true => rfl
    | false => rfl
  induction h with
  | start => exact ⟨[], by rw [alone, List.append_nil], fun _ hm => by cases hm⟩
  | up =>
    refine ⟨[.up], by rw [List.reverse_cons, alone], fun step hm => ?_⟩
    rw [List.mem_singleton.1 hm]
    exact Component.isWritten_up
  | @name steps text _ written ih =>
    obtain ⟨inner, e, all⟩ := ih
    refine ⟨inner ++ [.name text], by rw [List.reverse_cons, e, List.append_assoc], ?_⟩
    intro step hm
    rcases List.mem_append.1 hm with hm | hm
    · exact all step hm
    · rw [List.mem_singleton.1 hm]
      exact written

theorem isReduced_foldStep {absolute : Bool} {steps : List Component} {step : Component}
    (h : IsReduced absolute steps) (hs : step.IsWritten) :
    IsReduced absolute (foldStep steps step) := by
  cases step with
  | root => exact absurd rfl hs.ne_root
  | here => exact h
  | name text => exact h.name hs
  | up =>
    cases h with
    | start =>
      -- there is nothing to climb out of, so the climb stays
      cases absolute with
      | true => exact .up
      | false => exact .up
    | up => exact .start
    | name reduced _ => exact reduced

theorem isReduced_foldl {absolute : Bool} {steps more : List Component}
    (h : IsReduced absolute steps) (hm : ∀ step ∈ more, step.IsWritten) :
    IsReduced absolute (more.foldl foldStep steps) := by
  induction more generalizing steps with
  | nil => exact h
  | cons step rest ih =>
    refine ih (isReduced_foldStep h (hm step List.mem_cons_self)) ?_
    exact fun other ho => hm other (List.mem_cons_of_mem step ho)

/-- The steps of a path are its start and those of its pieces, with at most a dot in between. -/
theorem exists_dot_components (p : Path) :
    ∃ dot, (dot = [] ∨ dot = [.here]) ∧ p.components = start p.isAbsolute
      ++ (dot ++ (List.splitOn '/' p.text.toList).filterMap Component.ofPiece?) := by
  unfold components
  cases hp : List.splitOn '/' p.text.toList with
  | nil => exact absurd hp (List.splitOn_ne_nil _ _)
  | cons first rest =>
    dsimp only
    by_cases absolute : p.isAbsolute = true
    · -- nothing stands in front of the slash at the top
      have top : first = [] := by
        have slash : p.text.toList.head? = some '/' := by simpa [isAbsolute] using absolute
        cases text : p.text.toList with
        | nil => rw [text] at slash; cases slash
        | cons c letters =>
          rw [text] at hp slash
          obtain rfl := Option.some.inj slash
          exact (List.cons.inj hp).1.symm
      rw [if_pos absolute, absolute, top]
      exact ⟨[], .inl rfl, rfl⟩
    · have relative : p.isAbsolute = false := by simpa using absolute
      rw [if_neg absolute, relative]
      -- only at the start of a relative path a dot is a step
      by_cases dot : (first == ['.']) = true
      · rw [if_pos dot, beq_iff_eq.1 dot]
        exact ⟨[.here], .inr rfl, rfl⟩
      · rw [if_neg dot, List.filterMap_cons]
        refine ⟨[], .inl rfl, ?_⟩
        cases Component.ofPiece? first with
        | none => rfl
        | some step => rfl

/-- Folding looks at nothing but the pieces of a path. -/
theorem folded_eq (p : Path) :
    p.folded = ((List.splitOn '/' p.text.toList).filterMap Component.ofPiece?).foldl foldStep
      (start p.isAbsolute) := by
  obtain ⟨dot, idle, steps⟩ := exists_dot_components p
  have top : (start p.isAbsolute).foldl foldStep [] = start p.isAbsolute := by
    cases p.isAbsolute with
    | true => rfl
    | false => rfl
  rw [folded, steps, List.foldl_append, List.foldl_append, top]
  rcases idle with rfl | rfl
  · rfl
  · rfl

/-- The steps that are read from the pieces of a text are written. -/
theorem isWritten_of_mem_pieces {text : List Char} {step : Component}
    (h : step ∈ (List.splitOn '/' text).filterMap Component.ofPiece?) : step.IsWritten := by
  obtain ⟨piece, hp, read⟩ := List.mem_filterMap.1 h
  exact Component.isWritten_of_piece (not_mem_of_mem_splitOn hp) read

/-- Folding leaves reduced steps. -/
theorem isReduced_folded (p : Path) : IsReduced p.isAbsolute p.folded := by
  rw [folded_eq]
  exact isReduced_foldl .start fun step hs => isWritten_of_mem_pieces hs

/-- Folding leaves reduced steps as they are. -/
theorem folded_of_isReduced {absolute : Bool} {steps : List Component}
    (h : IsReduced absolute steps) : steps.reverse.foldl foldStep [] = steps := by
  rw [List.foldl_reverse]
  induction h with
  | start =>
    cases absolute with
    | true => rfl
    | false => rfl
  | up =>
    cases absolute with
    | true => rfl
    | false => rfl
  | name _ _ ih => rw [List.foldr_cons, ih, foldStep_name]

/-- The steps of a folded path: they begin at the start, and all others are written. -/
theorem exists_inner_normalize (p : Path) :
    ∃ inner, p.normalize = ofComponents (start p.isAbsolute ++ inner)
      ∧ p.normalize.components = start p.isAbsolute ++ inner
      ∧ p.folded.reverse = start p.isAbsolute ++ inner ∧ ∀ step ∈ inner, step.IsWritten := by
  obtain ⟨inner, e, written⟩ := (isReduced_folded p).exists_inner
  have path : p.normalize = ofComponents (start p.isAbsolute ++ inner) := congrArg ofComponents e
  exact ⟨inner, path, path ▸ components_ofComponents p.isAbsolute written, e, written⟩

theorem components_normalize (p : Path) : p.normalize.components = p.folded.reverse := by
  obtain ⟨inner, -, components, e, -⟩ := exists_inner_normalize p
  rw [components, e]

theorem folded_normalize (p : Path) : p.normalize.folded = p.folded := by
  rw [folded, components_normalize, folded_of_isReduced (isReduced_folded p)]

/-- Folding a path a second time changes nothing. -/
theorem normalize_normalize (p : Path) : p.normalize.normalize = p.normalize := by
  show ofComponents p.normalize.folded.reverse = ofComponents p.folded.reverse
  rw [folded_normalize]

/-- Behind a directory, folding goes on from what it has made of the directory. -/
theorem folded_join (p q : Path) (relative : q.isAbsolute = false) :
    (p.join q).folded
      = ((List.splitOn '/' q.text.toList).filterMap Component.ofPiece?).foldl foldStep
        p.folded := by
  have glued : ∀ front : List Char,
      (List.splitOn '/' (front ++ '/' :: q.text.toList)).filterMap Component.ofPiece?
        = (List.splitOn '/' front).filterMap Component.ofPiece?
          ++ (List.splitOn '/' q.text.toList).filterMap Component.ofPiece? := by
    intro front
    rw [List.splitOn_append_cons_self, List.filterMap_append]
  rw [folded_eq, folded_eq p, ← List.foldl_append]
  unfold join
  rw [if_neg (by rw [relative]; exact Bool.false_ne_true)]
  by_cases empty : p.text.isEmpty = true
  · have nothing : p = ⟨""⟩ := by
      cases p
      simpa using empty
    rw [if_pos (by rw [empty]; rfl), nothing, String.empty_append]
    show List.foldl foldStep (start q.isAbsolute) _ = _
    rw [relative]
    rfl
  · have full : p.text.toList ≠ [] := by simpa using empty
    by_cases slash : p.text.toList.getLast? = some '/'
    · -- the slash at the end of the directory is the one between the two
      obtain ⟨front, text⟩ := List.getLast?_eq_some_iff.1 slash
      rw [if_pos (by simp [slash])]
      have whole : (p.text ++ q.text).toList = front ++ '/' :: q.text.toList := by simp [text]
      have alone : List.splitOn '/' (front ++ ['/']) = List.splitOn '/' front ++ [[]] :=
        List.splitOn_append_cons_self front []
      have same : Path.isAbsolute ⟨p.text ++ q.text⟩ = p.isAbsolute := by
        rw [isAbsolute, isAbsolute, String.toList_append, List.head?_append_of_ne_nil _ full]
      rw [same, whole, glued, text, alone, List.filterMap_append]
      rw [show ([[]] : List (List Char)).filterMap Component.ofPiece? = [] from rfl,
        List.append_nil]
    · have whole : (p.text ++ "/" ++ q.text).toList = p.text.toList ++ '/' :: q.text.toList := by
        simp
      have same : Path.isAbsolute ⟨p.text ++ "/" ++ q.text⟩ = p.isAbsolute := by
        rw [isAbsolute, isAbsolute, whole, List.head?_append_of_ne_nil _ full]
      rw [if_neg (by simpa [slash] using empty), same, whole, glued]

/-- It makes no difference whether a directory has been folded before. -/
theorem absolutize_normalize (p q : Path) : p.normalize.absolutize q = p.absolutize q := by
  unfold absolutize
  by_cases absolute : q.isAbsolute = true
  · rw [join, join, if_pos absolute, if_pos absolute]
  · have relative : q.isAbsolute = false := by simpa using absolute
    show ofComponents (p.normalize.join q).folded.reverse = ofComponents (p.join q).folded.reverse
    rw [folded_join _ _ relative, folded_join _ _ relative, folded_normalize]

theorem exists_ofPieces_absolutize (base q : Path) :
    ∃ absolute pieces, base.absolutize q = ofPieces absolute pieces
      ∧ ∀ piece ∈ pieces, IsStep piece := by
  obtain ⟨inner, path, -, -, written⟩ := exists_inner_normalize (base.join q)
  refine ⟨_, _, path.trans (ofComponents_start _ written), fun piece hp => ?_⟩
  obtain ⟨step, hs, rfl⟩ := List.mem_map.1 hp
  exact (written step hs).isStep

/-! ### The directories above a path -/

/-- The path and the directories above it, nearest first: those that its first steps lead to.  A
path from the top of the tree does not leave it. -/
def enclosing (p : Path) : List Path :=
  ((p.components.inits.filter fun front => !p.isAbsolute || !front.isEmpty).map
    ofComponents).reverse

theorem enclosing_ofComponents {inner : List Component} (absolute : Bool)
    (h : ∀ step ∈ inner, step.IsWritten) :
    (ofComponents (start absolute ++ inner)).enclosing
      = (inner.inits.map fun front => ofComponents (start absolute ++ front)).reverse := by
  unfold enclosing
  rw [components_ofComponents absolute h, isAbsolute_ofComponents absolute h]
  cases absolute with
  | true =>
    have kept : (inner.inits.map fun front => Component.root :: front).filter (!·.isEmpty)
        = inner.inits.map fun front => Component.root :: front := by
      rw [List.filter_eq_self]
      intro front hf
      obtain ⟨behind, -, rfl⟩ := List.mem_map.1 hf
      rfl
    simp only [start, if_true, List.singleton_append, List.inits_cons, Bool.not_true,
      Bool.false_or, List.filter_cons, List.isEmpty_nil, Bool.false_eq_true, if_false, kept,
      List.map_map]
    rfl
  | false =>
    simp [start]

theorem upwards_ofComponents {inner : List Component} (absolute : Bool) {steps : Nat}
    (h : ∀ step ∈ inner, step.IsWritten) (enough : inner.length ≤ steps) :
    upwards steps (ofComponents (start absolute ++ inner))
      = (inner.inits.map fun front => ofComponents (start absolute ++ front)).reverse := by
  induction inner using List.reverseRecOn generalizing steps with
  | nil =>
    have top := parent?_ofComponents_start absolute
    rw [List.append_nil]
    cases steps with
    | zero => simp [upwards]
    | succ steps => simp [upwards, top]
  | append_singleton front last ih =>
    have above : ∀ step ∈ front, step.IsWritten := fun step hs => h step (List.mem_append_left _ hs)
    rw [List.length_append, List.length_singleton] at enough
    cases steps with
    | zero => omega
    | succ steps =>
      rw [upwards, parent?_ofComponents absolute h]
      dsimp only
      rw [ih above (by omega), List.inits_append, List.map_append, List.reverse_append]
      rfl

/-- The directories above a path of written steps are those that its first steps lead to. -/
theorem ancestors_ofComponents {inner : List Component} (absolute : Bool)
    (h : ∀ step ∈ inner, step.IsWritten) :
    (ofComponents (start absolute ++ inner)).ancestors
      = (ofComponents (start absolute ++ inner)).enclosing := by
  rw [ancestors, upwards_ofComponents absolute h (length_le_length_ofComponents absolute h),
    enclosing_ofComponents absolute h]

theorem ancestors_normalize (p : Path) : p.normalize.ancestors = p.normalize.enclosing := by
  obtain ⟨inner, path, -, -, written⟩ := exists_inner_normalize p
  rw [path, ancestors_ofComponents p.isAbsolute written]

end Path

end WrapperGen
