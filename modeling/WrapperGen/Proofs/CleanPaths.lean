import WrapperGen.Proofs.SearchOrder

/-!
# Clean paths

An import path is clean if every piece between its slashes is a name.  Behind a directory whose
path is folded already, the segments of a clean path are names that are written one after the
other: the path that they make is folded as well, it lies below the directory, and the directories
on the way are those that its first names lead to.

## Main definitions

* `IsClean`: an import path of names.
* `Path.IsFolded`: the path of the steps that folding leaves.
* `Path.upTo`: the directories from one up to another.

## Main results

* `joinSlash_slashSegments`: a clean path is put together from its segments.
* `Path.IsFolded.joinAll`: names behind a folded path.
* `Path.IsFolded.enclosing_append`: the directories above such a path.
-/

namespace WrapperGen

/-! ### Names -/

/-- A piece that is a name in a path. -/
def IsNamePiece (piece : List Char) : Prop := piece ≠ [] ∧ piece ≠ ['.'] ∧ piece ≠ ['.', '.']

/-- An import path without empty segments, and without `.` and `..` as segments. -/
def IsClean (importPath : String) : Prop :=
  ∀ piece ∈ List.splitOn '/' importPath.toList, IsNamePiece piece

instance (piece : List Char) : Decidable (IsNamePiece piece) :=
  inferInstanceAs (Decidable (_ ∧ _ ∧ _))

instance (importPath : String) : Decidable (IsClean importPath) :=
  inferInstanceAs (Decidable (∀ piece ∈ _, _))

/-- The steps to names that are read back from their own texts. -/
theorem Component.isWritten_name_iff {name : String} :
    (Component.name name).IsWritten ↔ IsNamePiece name.toList ∧ '/' ∉ name.toList := by
  constructor
  · rintro ⟨read, whole⟩
    refine ⟨⟨?_, ?_, ?_⟩, whole⟩
    all_goals
      intro e
      rw [Component.text, e] at read
      cases read
  · rintro ⟨⟨some', notHere, notUp⟩, whole⟩
    refine ⟨?_, whole⟩
    unfold Component.text Component.ofPiece?
    split
    · next e => exact absurd e some'
    · next e => exact absurd e notHere
    · next e => exact absurd e notUp
    · rw [String.ofList_toList]

section Segments

variable {importPath name : String}

/-- No piece of a clean path is left out of its segments. -/
theorem IsClean.slashSegments_eq (h : IsClean importPath) :
    slashSegments importPath = (List.splitOn '/' importPath.toList).map String.ofList := by
  have full : (List.splitOn '/' importPath.toList).filter (!·.isEmpty)
      = List.splitOn '/' importPath.toList := by
    rw [List.filter_eq_self]
    intro piece hp
    simpa using (h piece hp).1
  rw [slashSegments, full]

/-- A clean path is put together from its segments. -/
theorem joinSlash_slashSegments (h : IsClean importPath) :
    joinSlash (slashSegments importPath) = importPath := by
  have letters : (slashSegments importPath).map String.toList
      = List.splitOn '/' importPath.toList := by
    rw [h.slashSegments_eq, List.map_map]
    exact (List.map_congr_left fun piece _ => String.toList_ofList).trans (List.map_id _)
  rw [joinSlash, letters, List.intercalate_splitOn, String.ofList_toList]

/-- The segments of a clean path are names. -/
theorem IsClean.isWritten (h : IsClean importPath) :
    ∀ name ∈ slashSegments importPath, (Component.name name).IsWritten := by
  intro name hn
  rw [h.slashSegments_eq] at hn
  obtain ⟨piece, hp, rfl⟩ := List.mem_map.1 hn
  refine Component.isWritten_name_iff.2 ⟨?_, ?_⟩
  · rw [String.toList_ofList]
    exact h piece hp
  · rw [String.toList_ofList]
    exact not_mem_of_mem_splitOn hp

theorem isClean_append_slash_iff {front behind : String} :
    IsClean (front ++ "/" ++ behind) ↔ IsClean front ∧ IsClean behind := by
  have text : (front ++ "/" ++ behind).toList = front.toList ++ '/' :: behind.toList := by simp
  unfold IsClean
  rw [text, List.splitOn_append_cons_self]
  exact List.forall_mem_append

/-- Names that are joined by slashes are a clean path. -/
theorem isClean_joinSlash {names : List String} (some' : names ≠ [])
    (h : ∀ name ∈ names, (Component.name name).IsWritten) : IsClean (joinSlash names) := by
  have whole : ∀ piece ∈ names.map String.toList, '/' ∉ piece := by
    intro piece hp
    obtain ⟨name, hn, rfl⟩ := List.mem_map.1 hp
    exact (h name hn).2
  intro piece hp
  rw [joinSlash, String.toList_ofList,
    List.splitOn_intercalate '/' whole (by simpa using some')] at hp
  obtain ⟨name, hn, rfl⟩ := List.mem_map.1 hp
  exact (Component.isWritten_name_iff.1 (h name hn)).1

end Segments

/-! ### Names behind a directory -/

/-- One more piece comes behind one more separator. -/
theorem intercalate_concat (sep : Char) {pieces : List (List Char)} (last : List Char)
    (some' : pieces ≠ []) :
    [sep].intercalate (pieces ++ [last]) = [sep].intercalate pieces ++ sep :: last := by
  induction pieces with
  | nil => exact absurd rfl some'
  | cons piece rest ih =>
    cases rest with
    | nil => simp [List.intercalate_cons_cons]
    | cons next others =>
      have behind := ih (by simp)
      rw [List.cons_append] at behind
      rw [List.cons_append, List.cons_append, List.intercalate_cons_cons, behind,
        List.intercalate_cons_cons, List.append_assoc, List.append_assoc, List.append_assoc]

namespace Path

/-- A name that is joined to a path of pieces is one more piece. -/
theorem join_ofPieces (absolute : Bool) {pieces : List (List Char)} {name : String}
    (h : ∀ piece ∈ pieces, IsStep piece) (hn : IsStep name.toList) :
    (ofPieces absolute pieces).join ⟨name⟩ = ofPieces absolute (pieces ++ [name.toList]) := by
  have relative : isAbsolute ⟨name⟩ = false := by
    have alone := isAbsolute_ofPieces false (List.forall_mem_singleton.2 hn)
    simpa [ofPieces] using alone
  unfold join
  rw [relative, if_neg Bool.false_ne_true]
  -- a path ends in a slash only if it has no pieces, and then a slash is not put in again
  rcases List.eq_nil_or_concat pieces with rfl | ⟨front, last, rfl⟩
  · -- nothing, or the slash at the top, stands in front of the name
    have bare : ((ofPieces absolute []).text.isEmpty
        || (ofPieces absolute []).text.toList.getLast? == some '/') = true := by
      cases absolute with
      | true => rfl
      | false => rfl
    rw [if_pos bare]
    congr 1
    apply String.toList_injective
    simp [ofPieces]
  · rw [List.concat_eq_append] at h ⊢
    have ends := getLast?_ofPieces absolute h
    obtain ⟨some', -, whole⟩ := h last (by simp)
    have noSlash : (ofPieces absolute (front ++ [last])).text.toList.getLast? ≠ some '/' := by
      rw [ends]
      exact fun e => whole (List.mem_of_getLast? e)
    -- a path with pieces is not empty, because it ends as its last piece does
    have filled : (ofPieces absolute (front ++ [last])).text.isEmpty = false := by
      rw [Bool.eq_false_iff]
      intro empty
      have nothing : (ofPieces absolute (front ++ [last])).text = "" := by simpa using empty
      rw [nothing] at ends
      exact some' (List.getLast?_eq_none_iff.1 ends.symm)
    rw [if_neg (by simp [filled, noSlash])]
    congr 1
    apply String.toList_injective
    have some' : front ++ [last] ≠ [] := by simp
    have more := intercalate_concat '/' name.toList some'
    unfold ofPieces
    rw [more]
    simp

/-- The directories from a path up to another one, which is left out, the nearest one first. -/
def upTo (p base : Path) : List Path := p.enclosing.takeWhile fun dir => !dir.sameSteps base

theorem mem_enclosing_of_mem_upTo {p base dir : Path} (h : dir ∈ p.upTo base) :
    dir ∈ p.enclosing := by
  rw [upTo] at h
  exact List.takeWhile_subset _ h

/-- The path of the steps that folding leaves: those of `inner`, from the top of the tree or from
wherever one is. -/
structure IsFolded (p : Path) (absolute : Bool) (inner : List Component) : Prop where
  /-- The path is that of the steps. -/
  path : p = ofComponents (start absolute ++ inner)
  /-- The steps are read back from their texts. -/
  written : ∀ step ∈ inner, step.IsWritten
  /-- Nothing in them can be folded. -/
  reduced : IsReduced absolute (start absolute ++ inner).reverse

theorem exists_isFolded_normalize (p : Path) :
    ∃ inner, p.normalize.IsFolded p.isAbsolute inner := by
  obtain ⟨inner, path, -, steps, written⟩ := exists_inner_normalize p
  refine ⟨inner, path, written, ?_⟩
  rw [← steps, List.reverse_reverse]
  exact isReduced_folded p

/-- Reduced steps without the last one are reduced. -/
theorem IsReduced.tail {absolute : Bool} {step : Component} {steps : List Component}
    (h : IsReduced absolute (step :: steps)) (hs : step.IsWritten) : IsReduced absolute steps := by
  generalize e : step :: steps = all at h
  cases h with
  | start =>
    cases absolute with
    | true => exact absurd (List.cons.inj e).1 hs.ne_root
    | false => cases e
  | up =>
    rw [(List.cons.inj e).2]
    exact .start
  | name reduced _ =>
    rw [(List.cons.inj e).2]
    exact reduced

namespace IsFolded

variable {p : Path} {absolute : Bool} {inner front rest : List Component} {names : List String}

theorem components (h : p.IsFolded absolute inner) :
    p.components = Path.start absolute ++ inner := by
  rw [h.path, components_ofComponents absolute h.written]

/-- Folding leaves the path as it is. -/
theorem normalize (h : p.IsFolded absolute inner) : p.normalize = p := by
  have steps : p.folded = (Path.start absolute ++ inner).reverse := by
    rw [folded, h.components]
    have again := folded_of_isReduced h.reduced
    rwa [List.reverse_reverse] at again
  show ofComponents p.folded.reverse = p
  rw [steps, List.reverse_reverse]
  exact h.path.symm

/-- The first steps of a folded path lead to a folded path. -/
theorem of_append (h : p.IsFolded absolute (front ++ rest)) :
    (ofComponents (Path.start absolute ++ front)).IsFolded absolute front := by
  refine ⟨rfl, fun step hs => h.written step (List.mem_append_left _ hs), ?_⟩
  obtain ⟨-, written, reduced⟩ := h
  induction rest using List.reverseRecOn with
  | nil => rwa [List.append_nil] at reduced
  | append_singleton rest last ih =>
    refine ih (fun step hs => written step ?_) ?_
    · rw [← List.append_assoc]
      exact List.mem_append_left _ hs
    · rw [← List.append_assoc, ← List.append_assoc, List.reverse_append, List.reverse_singleton,
        List.singleton_append, List.append_assoc] at reduced
      exact reduced.tail (written last (by simp))

/-- Names behind a folded path. -/
theorem joinAll (h : p.IsFolded absolute inner)
    (named : ∀ name ∈ names, (Component.name name).IsWritten) :
    (p.joinAll names).IsFolded absolute (inner ++ names.map .name) := by
  -- each name is one more component, and the path stays folded
  induction names generalizing p inner with
  | nil =>
    rw [List.map_nil, List.append_nil]
    exact h
  | cons name rest ih =>
    have first := named name List.mem_cons_self
    have step : IsStep name.toList := first.isStep
    have steps : ∀ piece ∈ inner.map (·.text.toList), IsStep piece := by
      intro piece hp
      obtain ⟨step, hs, rfl⟩ := List.mem_map.1 hp
      exact (h.written step hs).isStep
    have one : (p.join ⟨name⟩).IsFolded absolute (inner ++ [.name name]) := by
      have written : ∀ step ∈ inner ++ [.name name], step.IsWritten :=
        List.forall_mem_append.2 ⟨h.written, by simpa using first⟩
      refine ⟨?_, written, ?_⟩
      · rw [h.path, ofComponents_start absolute h.written, ofComponents_start absolute written,
          join_ofPieces absolute steps step, List.map_append]
        rfl
      · rw [← List.append_assoc, List.reverse_append]
        exact h.reduced.name first
    have all := ih one fun other ho => named other (List.mem_cons_of_mem name ho)
    rwa [List.append_assoc] at all

/-! ### The directories on the way -/

theorem enclosing (h : p.IsFolded absolute inner) :
    p.enclosing
      = (inner.inits.map fun front => ofComponents (Path.start absolute ++ front)).reverse := by
  rw [h.path, enclosing_ofComponents absolute h.written]

/-- The directories above a folded path are folded paths. -/
theorem exists_of_mem_enclosing (h : p.IsFolded absolute inner) {dir : Path}
    (mem : dir ∈ p.enclosing) :
    ∃ front rest, inner = front ++ rest ∧ dir.IsFolded absolute front := by
  rw [h.enclosing] at mem
  obtain ⟨front, hf, rfl⟩ := List.mem_map.1 (List.mem_reverse.1 mem)
  obtain ⟨rest, rfl⟩ := (List.mem_inits front inner).1 hf
  exact ⟨front, rest, rfl, h.of_append⟩

section

variable {q : Path} {steps : List Component}

/-- Above a path are the directories on the way from another one, and those above that. -/
theorem enclosing_append (h : p.IsFolded absolute inner)
    (below : q.IsFolded absolute (inner ++ steps)) :
    q.enclosing = p.downFrom steps ++ p.enclosing := by
  rw [below.enclosing, h.enclosing, List.inits_append, List.map_append, List.reverse_append,
    downFrom, h.components, List.map_map]
  congr 2
  refine List.map_congr_left fun front _ => ?_
  rw [List.append_assoc]
  rfl

theorem isAtOrBelow (h : p.IsFolded absolute inner)
    (below : q.IsFolded absolute (inner ++ steps)) : q.isAtOrBelow p = true := by
  refine isAtOrBelow_iff.2 ⟨steps, ?_⟩
  rw [below.components, h.components, List.append_assoc]

/-- Up to a directory are those on the way from there. -/
theorem upTo_append (h : p.IsFolded absolute inner)
    (below : q.IsFolded absolute (inner ++ steps)) : q.upTo p = p.downFrom steps := by
  rw [upTo, below.path]
  refine takeWhile_enclosing absolute below.written ?_
  rw [h.components, List.append_assoc]

end

end IsFolded

theorem slashNames_map_name (names : List String) :
    slashNames (names.map .name) = joinSlash names := by
  rw [slashNames, List.filterMap_map]
  congr 1
  exact List.filterMap_some

end Path

end WrapperGen
