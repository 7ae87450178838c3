import Mathlib.Data.List.Basic
import WrapperGen.Path

/-!
# Paths by their pieces

Paths are cut at their slashes.  Where a path is put together from pieces that are steps of their
own, cutting it gives those pieces back, its parent is the path of all pieces but the last, and a
name joined to a directory is one more piece.

## Main definitions

* `IsStep`: a piece that is a step wherever it stands.
* `Path.ofPieces`: the path of some pieces.

## Main results

* `not_mem_of_mem_splitOn`: no piece contains the separator.
* `slashSegments_join`: the segments of a name in a directory.
* `Path.slashSegments_ofPieces`, `Path.parent?_ofPieces`: cutting a path of pieces.
-/

namespace WrapperGen

/-! ### Cutting -/

/-- A character that is no separator belongs to the first piece of what is behind it. -/
theorem splitOn_cons_of_ne {sep c : Char} {s first : List Char} {rest : List (List Char)}
    (other : c ≠ sep) (cut : List.splitOn sep s = first :: rest) :
    List.splitOn sep (c :: s) = (c :: first) :: rest := by
  rw [List.splitOn_cons_eq_if_modifyHead, if_neg (by simpa using other), cut]
  rfl

/-- No piece contains the separator. -/
theorem not_mem_of_mem_splitOn {sep : Char} {s piece : List Char}
    (h : piece ∈ List.splitOn sep s) : sep ∉ piece := by
  induction s generalizing piece with
  | nil =>
    rw [List.splitOn_nil, List.mem_singleton] at h
    rw [h]
    exact List.not_mem_nil
  | cons c rest ih =>
    by_cases same : c = sep
    · rw [same, ← List.nil_append (sep :: rest), List.splitOn_append_cons_self] at h
      rcases List.mem_cons.1 h with rfl | h
      · exact List.not_mem_nil
      · exact ih h
    · obtain ⟨first, more, cut⟩ := List.exists_cons_of_ne_nil (List.splitOn_ne_nil sep rest)
      rw [splitOn_cons_of_ne same cut] at h
      rw [cut] at ih
      rcases List.mem_cons.1 h with rfl | h
      · rintro mem
        rcases List.mem_cons.1 mem with e | mem
        · exact same e.symm
        · exact ih List.mem_cons_self mem
      · exact ih (List.mem_cons_of_mem first h)

/-! ### Segments -/

/-- A piece that is a step wherever it stands in a path. -/
def IsStep (piece : List Char) : Prop := piece ≠ [] ∧ piece ≠ ['.'] ∧ '/' ∉ piece

theorem slashSegments_append_slash (a b : String) :
    slashSegments (a ++ "/" ++ b) = slashSegments a ++ slashSegments b := by
  have text : (a ++ "/" ++ b).toList = a.toList ++ '/' :: b.toList := by simp
  rw [slashSegments, text, List.splitOn_append_cons_self, List.filter_append, List.map_append]
  rfl

theorem slashSegments_of_not_mem {name : String} (some' : name.toList ≠ [])
    (h : '/' ∉ name.toList) : slashSegments name = [name] := by
  have full : [name.toList].filter (!·.isEmpty) = [name.toList] := by simpa using some'
  rw [slashSegments, List.splitOn_eq_singleton h, full, List.map_singleton, String.ofList_toList]

theorem slashSegments_append_of_slash {a : String} (h : a.toList.getLast? = some '/')
    (b : String) : slashSegments (a ++ b) = slashSegments a ++ slashSegments b := by
  obtain ⟨front, hf⟩ := List.getLast?_eq_some_iff.1 h
  -- the slash at the end is taken for one in front of nothing
  have ha : a = String.ofList front ++ "/" ++ "" := by
    apply String.toList_injective
    simp [hf]
  rw [ha, String.append_empty, slashSegments_append_slash,
    ← String.append_empty (s := String.ofList front ++ "/"), slashSegments_append_slash]
  have none' : slashSegments "" = [] := rfl
  rw [none', List.append_nil]

/-- A name that is joined to a directory is one more segment. -/
theorem slashSegments_join (dir : Path) {name : String} (some' : name.toList ≠ [])
    (h : '/' ∉ name.toList) :
    slashSegments (dir.join ⟨name⟩).text = slashSegments dir.text ++ [name] := by
  have relative : Path.isAbsolute ⟨name⟩ = false := by
    cases hn : name.toList with
    | nil => exact absurd hn some'
    | cons c rest =>
      have hc : c ≠ '/' := fun e => h (by rw [hn, e]; exact List.mem_cons_self)
      simp [Path.isAbsolute, hn, hc]
  have single := slashSegments_of_not_mem some' h
  rw [Path.join, relative, if_neg Bool.false_ne_true]
  -- the slash between the two is left out where the directory is empty or brings its own
  by_cases empty : dir.text.isEmpty = true
  · rw [if_pos (by rw [empty]; rfl)]
    have nothing : dir.text = "" := by simpa using empty
    show slashSegments (dir.text ++ name) = _
    rw [nothing, String.empty_append, single]
    rfl
  · by_cases slash : dir.text.toList.getLast? = some '/'
    · rw [if_pos (by simp [slash])]
      show slashSegments (dir.text ++ name) = _
      rw [slashSegments_append_of_slash slash, single]
    · rw [if_neg (by simpa [slash] using empty)]
      show slashSegments (dir.text ++ "/" ++ name) = _
      rw [slashSegments_append_slash, single]

namespace Path

/-! ### Paths of pieces -/

/-- The path of some pieces, from the top of the tree or from wherever one is. -/
def ofPieces (absolute : Bool) (pieces : List (List Char)) : Path :=
  ⟨String.ofList ((if absolute then ['/'] else []) ++ ['/'].intercalate pieces)⟩

section Pieces

variable {pieces : List (List Char)} {piece : List Char} (absolute : Bool)

theorem not_slash_of_steps (h : ∀ p ∈ pieces, IsStep p) : ∀ p ∈ pieces, '/' ∉ p :=
  fun p hp => (h p hp).2.2

theorem isAbsolute_ofPieces (h : ∀ p ∈ pieces, IsStep p) :
    (ofPieces absolute pieces).isAbsolute = absolute := by
  cases absolute with
  | true => simp [isAbsolute, ofPieces]
  | false =>
    cases pieces with
    | nil => rfl
    | cons first rest =>
      obtain ⟨some', -, slash⟩ := h first List.mem_cons_self
      cases first with
      | nil => exact absurd rfl some'
      | cons c letters =>
        have hc : c ≠ '/' := fun e => slash (e ▸ List.mem_cons_self)
        cases rest with
        | nil => simp [isAbsolute, ofPieces, hc]
        | cons next more => simp [isAbsolute, ofPieces, List.intercalate_cons_cons, hc]

/-- What comes behind the slash at the top. -/
theorem drop_splitOn_ofPieces (some' : pieces ≠ []) (h : ∀ p ∈ pieces, IsStep p) :
    (let all := List.splitOn '/' (ofPieces absolute pieces).text.toList
      if absolute then all.drop 1 else all) = pieces := by
  have cut := List.splitOn_intercalate '/' (not_slash_of_steps h) some'
  cases absolute with
  | true =>
    have top := List.splitOn_append_cons_self (a := '/') [] (['/'].intercalate pieces)
    simp only [ofPieces, if_true, String.toList_ofList]
    rw [List.nil_append] at top
    rw [List.singleton_append, top, cut]
    rfl
  | false => simpa [ofPieces] using cut

theorem slashSegments_ofPieces (h : ∀ p ∈ pieces, IsStep p) :
    slashSegments (ofPieces absolute pieces).text = pieces.map String.ofList := by
  have full : pieces.filter (!·.isEmpty) = pieces := by
    rw [List.filter_eq_self]
    intro p hp
    simpa using (h p hp).1
  have relative : slashSegments (String.ofList (['/'].intercalate pieces))
      = pieces.map String.ofList := by
    by_cases none' : pieces = []
    · rw [none']
      rfl
    · rw [slashSegments, String.toList_ofList,
        List.splitOn_intercalate '/' (not_slash_of_steps h) none', full]
  cases absolute with
  | false => exact relative
  | true =>
    have text : (ofPieces true pieces).text
        = "" ++ "/" ++ String.ofList (['/'].intercalate pieces) := by
      apply String.toList_injective
      simp [ofPieces]
    rw [text, slashSegments_append_slash, relative]
    rfl

theorem dropIdle_of_steps (relative : Bool) (h : ∀ p ∈ pieces, IsStep p) :
    dropIdle relative pieces = pieces := by
  cases pieces with
  | nil => rfl
  | cons first rest =>
    obtain ⟨some', noDot, -⟩ := h first List.mem_cons_self
    have busy : isIdlePiece first = false := by simp [isIdlePiece, some', noDot]
    rw [dropIdle, busy, if_neg Bool.false_ne_true]
    rintro rfl rfl
    exact noDot rfl

theorem parent?_ofPieces_nil : (ofPieces absolute []).parent? = none := by
  cases absolute with
  | true => rfl
  | false => rfl

/-- The parent of a path of pieces has all pieces but the last. -/
theorem parent?_ofPieces (h : ∀ p ∈ pieces ++ [piece], IsStep p) :
    (ofPieces absolute (pieces ++ [piece])).parent? = some (ofPieces absolute pieces) := by
  -- cutting the path gives its pieces, the slash at the top apart; none of them is idle, so the
  -- parent is what stands in front of the last one
  have body := drop_splitOn_ofPieces absolute (by simp) h
  have behind : ∀ p ∈ pieces.reverse, IsStep p :=
    fun p hp => h p (List.mem_append_left _ (List.mem_reverse.1 hp))
  have last : ∀ p ∈ piece :: pieces.reverse, IsStep p := by
    intro p hp
    rcases List.mem_cons.1 hp with rfl | hp
    · exact h p (by simp)
    · exact behind p hp
  unfold parent?
  rw [isAbsolute_ofPieces absolute h]
  dsimp only at body ⊢
  rw [body, List.reverse_append, List.reverse_singleton, List.singleton_append,
    dropIdle_of_steps _ last]
  dsimp only
  rw [dropIdle_of_steps _ behind, List.reverse_reverse, ofPieces]
  cases absolute with
  | true => rfl
  | false => rfl

theorem getLast?_ofPieces (h : ∀ p ∈ pieces ++ [piece], IsStep p) :
    (ofPieces absolute (pieces ++ [piece])).text.toList.getLast? = piece.getLast? := by
  obtain ⟨some', -, -⟩ := h piece (by simp)
  have last : ∀ front : List (List Char),
      (['/'].intercalate (front ++ [piece])).getLast? = piece.getLast? := by
    intro front
    induction front with
    | nil => rw [List.nil_append, List.intercalate_singleton]
    | cons first rest ih =>
      have more : rest ++ [piece] ≠ [] := by simp
      have full : ['/'].intercalate (rest ++ [piece]) ≠ [] := by
        intro e
        rw [e] at ih
        exact some' (List.getLast?_eq_none_iff.1 ih.symm)
      rw [List.cons_append, List.intercalate_cons_of_ne_nil more,
        List.getLast?_append_of_ne_nil _ full, ih]
  have full : ['/'].intercalate (pieces ++ [piece]) ≠ [] := by
    intro e
    have := last pieces
    rw [e] at this
    exact some' (List.getLast?_eq_none_iff.1 this.symm)
  rw [ofPieces, String.toList_ofList, List.getLast?_append_of_ne_nil _ full, last]

end Pieces

end Path

end WrapperGen
