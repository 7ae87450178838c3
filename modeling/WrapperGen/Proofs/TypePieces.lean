import WrapperGen.Output.TypeText
import WrapperGen.Proofs.Spelling
import WrapperGen.Proofs.TypeParts

/-!
# The pieces of a type

The text of a type is put together from pieces: words, operators, the lengths of arrays, and
blanks.  They depend on the type and on how its names are written, but not on the imports of the
file that the type is written to.

## Main definitions

* `isFreeName`: the identifiers that are no reserved words.
* `NameForm`: a name as it is written.
* `TypeForm.pieces`: the pieces of a type.
* `Piece.beginsType`: the pieces that a type may begin with.

## Main results

* `TypeForm.pieces_cons`: how a type begins.
* `TypeForm.fits_pieces`: no piece of a type runs into the next one.
-/

namespace WrapperGen

open Source

/-- Whether a text is an identifier and no reserved word. -/
def isFreeName (text : String) : Bool := isIdentifier text && !isKeyword text

theorem isIdentifier_of_isFreeName {text : String} (h : isFreeName text = true) :
    isIdentifier text = true := ((Bool.and_eq_true _ _).mp h).1

/-- A name as it is written. -/
inductive NameForm
  /-- A name alone. -/
  | bare (name : String)
  /-- A name behind a qualifier. -/
  | behind (qualifier name : String)
  deriving DecidableEq, Repr, Inhabited

namespace NameForm

/-- The pieces of a name. -/
def pieces : NameForm → List Piece
  | .bare name => [.word name]
  | .behind qualifier name => [.word qualifier, .operator '.' [], .word name]

/-- Whether a name consists of identifiers that are no reserved words. -/
def isPlain : NameForm → Bool
  | .bare name => isFreeName name
  | .behind qualifier name => isFreeName qualifier && isFreeName name

end NameForm

/-! ### Pieces -/

/-- The text of some pieces. -/
def spelledText (ps : List Piece) : String := String.ofList (textOf ps)

/-- Pieces with commas between them. -/
def commaPieces : List (List Piece) → List Piece
  | [] => []
  | [ps] => ps
  | ps :: qs :: rest => ps ++ .operator ',' [] :: .blank :: commaPieces (qs :: rest)

/-- Pieces in parentheses. -/
def parenPieces (ps : List Piece) : List Piece := .operator '(' [] :: (ps ++ [.operator ')' []])

/-- The pieces of results, from the pieces of each. -/
def resultsPieces : List (List Piece) → List Piece
  | [] => []
  | [single] =>
      .blank :: if startsWithFunc (spelledText single) then parenPieces single else single
  | results => .blank :: parenPieces (commaPieces results)

namespace TypeForm

/-- The pieces of a channel, from those of its element. -/
def channelPieces (direction : Direction) (element : TypeForm NameForm) (ps : List Piece) :
    List Piece :=
  match direction, element with
  | .both, .channel .receive _ => .word "chan" :: .blank :: parenPieces ps
  | .both, _ => .word "chan" :: .blank :: ps
  | .send, _ => .word "chan" :: .operator '<' ['-'] :: .blank :: ps
  | .receive, _ => .operator '<' ['-'] :: .word "chan" :: .blank :: ps

mutual

/-- The pieces of a type. -/
def pieces : TypeForm NameForm → List Piece
  | .named name => name.pieces
  | .pointer element => .operator '*' [] :: element.pieces
  | .slice element => .operator '[' [']'] :: element.pieces
  | .array length element =>
      .operator '[' [] :: .integer length.toNat :: .operator ']' [] :: element.pieces
  | .map key value =>
      .word "map" :: .operator '[' [] :: (key.pieces ++ .operator ']' [] :: value.pieces)
  | .channel direction element => channelPieces direction element element.pieces
  | .function params results variadic =>
      .word "func" ::
        (parenPieces (commaPieces (paramPieces variadic params))
          ++ resultsPieces (piecesOfAll results))
  | .applied base arguments =>
      base.pieces
        ++ .operator '[' [] :: (commaPieces (piecesOfAll arguments) ++ [.operator ']' []])
  | .emptyInterface => [.word "interface", .operator '{' ['}']]
  | .emptyStruct => [.word "struct", .operator '{' ['}']]

/-- The pieces of each of some types. -/
def piecesOfAll : List (TypeForm NameForm) → List (List Piece)
  | [] => []
  | type :: rest => type.pieces :: piecesOfAll rest

/-- The pieces of the last parameter, where `dots` asks for a slice to be written as a repeated
parameter. -/
def lastPieces (dots : Bool) : TypeForm NameForm → List Piece
  | .slice element =>
      (if dots then .operator '.' ['.', '.'] else .operator '[' [']']) :: element.pieces
  | type => type.pieces

/-- The pieces of each of some parameters, where `dots` asks for the last one to be written as a
repeated parameter if it is a slice. -/
def paramPieces (dots : Bool) : List (TypeForm NameForm) → List (List Piece)
  | [] => []
  | [last] => [lastPieces dots last]
  | type :: next :: rest => type.pieces :: paramPieces dots (next :: rest)

end

theorem piecesOfAll_eq_map (types : List (TypeForm NameForm)) :
    piecesOfAll types = types.map pieces := by
  induction types with
  | nil => simp [piecesOfAll]
  | cons type rest ih => simp [piecesOfAll, ih]

theorem pieces_mem_piecesOfAll {t : TypeForm NameForm} {types : List (TypeForm NameForm)}
    (h : t ∈ types) : t.pieces ∈ piecesOfAll types := by
  rw [piecesOfAll_eq_map]
  exact List.mem_map_of_mem h

end TypeForm

/-! ### How types begin -/

/-- The characters of operators that a type may begin with. -/
def typeStarts : List Char := ['*', '[', '<']

/-- Whether a piece may be the first one of a type. -/
def Source.Piece.beginsType : Piece → Bool
  | .word text => isIdentifier text
  | .operator first _ => typeStarts.contains first
  | _ => false

theorem isIdentifier_words :
    ∀ text ∈ ["chan", "map", "func", "interface", "struct"], isIdentifier text = true := by
  decide

namespace NameForm

theorem isIdentifier_of_bare {name : String} (h : (bare name).isPlain = true) :
    isIdentifier name = true := isIdentifier_of_isFreeName h

theorem isIdentifier_of_behind {qualifier name : String}
    (h : (behind qualifier name).isPlain = true) :
    isIdentifier qualifier = true ∧ isIdentifier name = true := by
  rw [isPlain, Bool.and_eq_true] at h
  exact ⟨isIdentifier_of_isFreeName h.1, isIdentifier_of_isFreeName h.2⟩

end NameForm

namespace TypeForm

/-- All names of a type are plain. -/
def Plain (t : TypeForm NameForm) : Prop :=
  ∀ name, .named name ∈ t.parts → name.isPlain = true

theorem channelPieces_of_receive (inner : TypeForm NameForm) (ps : List Piece) :
    channelPieces .both (.channel .receive inner) ps
      = .word "chan" :: .blank :: parenPieces ps := rfl

theorem channelPieces_of_ne {element : TypeForm NameForm}
    (h : ∀ inner, element ≠ .channel .receive inner) (ps : List Piece) :
    channelPieces .both element ps = .word "chan" :: .blank :: ps := by
  rw [channelPieces]
  exact h

theorem channelPieces_cons (direction : Direction) (element : TypeForm NameForm)
    (ps : List Piece) :
    (∃ qs, channelPieces direction element ps = .word "chan" :: qs)
      ∨ ∃ qs, channelPieces direction element ps = .operator '<' ['-'] :: qs := by
  cases direction with
  | both =>
      left
      by_cases h : ∃ inner, element = .channel .receive inner
      · obtain ⟨inner, rfl⟩ := h
        exact ⟨_, channelPieces_of_receive inner ps⟩
      · exact ⟨_, channelPieces_of_ne (fun inner e => h ⟨inner, e⟩) ps⟩
  | send => exact Or.inl ⟨_, rfl⟩
  | receive => exact Or.inr ⟨_, rfl⟩

/-- A type begins with a word or with one of a few operators. -/
theorem pieces_cons (t : TypeForm NameForm) (h : t.Plain) :
    ∃ p ps, t.pieces = p :: ps ∧ p.beginsType = true := by
  have word : ∀ text ∈ ["chan", "map", "func", "interface", "struct"],
      (Piece.word text).beginsType = true := isIdentifier_words
  induction t using TypeForm.induction with
  | named name =>
      have plain := h name (mem_parts_self _)
      rw [pieces]
      cases name with
      | bare name => exact ⟨_, _, rfl, NameForm.isIdentifier_of_bare plain⟩
      | behind qualifier name => exact ⟨_, _, rfl, (NameForm.isIdentifier_of_behind plain).1⟩
  | pointer element _ => exact ⟨_, _, by rw [pieces], by decide⟩
  | slice element _ => exact ⟨_, _, by rw [pieces], by decide⟩
  | array length element _ => exact ⟨_, _, by rw [pieces], by decide⟩
  | map key value _ _ => exact ⟨_, _, by rw [pieces], word "map" (by decide)⟩
  | channel direction element _ =>
      rw [pieces]
      rcases channelPieces_cons direction element element.pieces with ⟨qs, e⟩ | ⟨qs, e⟩
      · exact ⟨_, qs, e, word "chan" (by decide)⟩
      · exact ⟨_, qs, e, by decide⟩
  | function params results variadic _ _ _ =>
      exact ⟨_, _, by rw [pieces], word "func" (by decide)⟩
  | applied base arguments ihb _ =>
      obtain ⟨p, ps, hb, begins⟩ := ihb fun name hm => h name (by simp [parts, hm])
      exact ⟨p, _, by rw [pieces, hb, List.cons_append], begins⟩
  | emptyInterface => exact ⟨_, _, by rw [pieces], word "interface" (by decide)⟩
  | emptyStruct => exact ⟨_, _, by rw [pieces], word "struct" (by decide)⟩

end TypeForm

/-! ### Spacing -/

/-- Pieces may stand directly behind a type. -/
def EndsType (rest : List Piece) : Prop :=
  Spaced rest ∧ StartsApart isIdentRest (textOf rest)

/-- Pieces run into nothing that may stand behind a type. -/
def Fits (ps : List Piece) : Prop := ∀ rest, EndsType rest → Spaced (ps ++ rest)

theorem spaced_operator {first : Char} {more : List Char} {rest : List Piece}
    (hs : (first :: more).Forall (· ∈ typeSymbols)) (hd : '.' ∉ first :: more)
    (hr : Spaced rest) : Spaced (.operator first more :: rest) :=
  ⟨List.forall_iff_forall_mem.1 hs, fun h => absurd h hd, hr⟩

theorem endsType_operator {first : Char} {more : List Char} {rest : List Piece}
    (hs : (first :: more).Forall (· ∈ typeSymbols)) (hd : '.' ∉ first :: more)
    (hr : Spaced rest) : EndsType (.operator first more :: rest) := by
  refine ⟨spaced_operator hs hd hr, ?_⟩
  intro c e
  rw [← Option.some.inj e]
  exact isIdentRest_of_mem first (List.forall_iff_forall_mem.1 hs first List.mem_cons_self)

theorem endsType_blank {rest : List Piece} (hr : Spaced rest) : EndsType (.blank :: rest) := by
  refine ⟨hr, ?_⟩
  intro c e
  rw [← Option.some.inj e]
  decide

theorem endsType_nil : EndsType [] := ⟨trivial, fun _ e => by cases e⟩

theorem spaced_word {text : String} {rest : List Piece} (ht : isIdentifier text = true)
    (hr : EndsType rest) : Spaced (.word text :: rest) := ⟨ht, hr.2, hr.1⟩

theorem startsApart_isDigit {p : Piece} (h : p.beginsType = true) (ps : List Piece) :
    StartsApart Char.isDigit (textOf (p :: ps)) := by
  intro c e
  cases p with
  | word text =>
      obtain ⟨d, letters, ht, hd, -⟩ := cons_of_isIdentifier h
      rw [textOf_cons, Piece.chars, ht] at e
      rw [← Option.some.inj e]
      -- no letter is a digit
      by_contra digit
      rw [Bool.not_eq_false] at digit
      rw [isIdentStart_of_isDigit digit] at hd
      cases hd
  | operator first more =>
      have starts : ∀ c ∈ typeStarts, c.isDigit = false :=
        List.forall_iff_forall_mem.1 (by decide)
      rw [← Option.some.inj e]
      exact starts first (List.contains_iff_mem.1 h)
  | integer n => cases h
  | blank => cases h

theorem Fits.comma {pss : List (List Piece)} (h : ∀ ps ∈ pss, Fits ps) :
    Fits (commaPieces pss) := by
  induction pss with
  | nil => exact fun rest hr => hr.1
  | cons ps pss ih =>
      have here := h ps List.mem_cons_self
      have there := ih fun qs hq => h qs (List.mem_cons_of_mem ps hq)
      cases pss with
      | nil => exact here
      | cons qs pss =>
          intro rest hr
          rw [commaPieces, List.append_assoc, List.cons_append, List.cons_append]
          exact here _ (endsType_operator (by decide) (by decide) (there rest hr))

theorem Fits.paren {ps : List Piece} (h : Fits ps) : Fits (parenPieces ps) := by
  intro rest hr
  rw [parenPieces, List.cons_append, List.append_assoc, List.singleton_append]
  refine spaced_operator (by decide) (by decide) (h _ ?_)
  exact endsType_operator (by decide) (by decide) hr.1

theorem Fits.endsType_paren {ps : List Piece} (h : Fits ps) {rest : List Piece}
    (hr : EndsType rest) : EndsType (parenPieces ps ++ rest) := by
  refine ⟨h.paren rest hr, ?_⟩
  intro c e
  rw [← Option.some.inj e]
  exact isIdentRest_of_mem '(' (by decide)

theorem Fits.results {pss : List (List Piece)} (h : ∀ ps ∈ pss, Fits ps) {rest : List Piece}
    (hr : EndsType rest) : EndsType (resultsPieces pss ++ rest) := by
  match pss, h with
  | [], _ => exact hr
  | [single], h =>
      have fits := h single List.mem_cons_self
      rw [resultsPieces, List.cons_append]
      split
      · exact endsType_blank (fits.paren rest hr)
      · exact endsType_blank (fits rest hr)
  | ps :: qs :: pss, h => exact endsType_blank ((Fits.comma h).paren rest hr)

namespace NameForm

theorem fits_pieces {name : NameForm} (h : name.isPlain = true) : Fits name.pieces := by
  intro rest hr
  cases name with
  | bare name => exact spaced_word (isIdentifier_of_bare h) hr
  | behind qualifier name =>
      obtain ⟨hq, hn⟩ := isIdentifier_of_behind h
      have named : Spaced (.word name :: rest) := spaced_word hn hr
      -- the point is apart from the qualifier, and no digit is behind it
      have point : EndsType (.operator '.' [] :: .word name :: rest) := by
        refine ⟨⟨List.forall_iff_forall_mem.1 (by decide),
        fun _ => startsApart_isDigit (p := .word name) hn rest, named⟩, ?_⟩
        intro c e
        rw [← Option.some.inj e]
        exact isIdentRest_of_mem '.' (by decide)
      exact spaced_word hq point

end NameForm

namespace TypeForm

/-- What holds of all parameters, and of the last one with dots, holds of what is written. -/
theorem forall_mem_paramPieces {P : List Piece → Prop} {dots : Bool}
    {params : List (TypeForm NameForm)} (hp : ∀ p ∈ params, P p.pieces)
    (hd : ∀ element, .slice element ∈ params →
      P (.operator '.' ['.', '.'] :: element.pieces)) :
    ∀ ps ∈ paramPieces dots params, P ps := by
  induction params with
  | nil => simp [paramPieces]
  | cons type rest ih =>
      have here := hp type List.mem_cons_self
      have there := ih (fun p hm => hp p (List.mem_cons_of_mem type hm))
        fun element hm => hd element (List.mem_cons_of_mem type hm)
      cases rest with
      | nil =>
          rw [paramPieces, List.forall_mem_singleton]
          -- the last parameter is written in its own way, but only if it is a slice
          by_cases hs : ∃ element, type = .slice element
          · obtain ⟨element, rfl⟩ := hs
            rw [lastPieces]
            split
            · exact hd element List.mem_cons_self
            · rw [pieces] at here
              exact here
          · rw [lastPieces]
            · exact here
            · exact fun element e => hs ⟨element, e⟩
      | cons next rest =>
          rw [paramPieces, List.forall_mem_cons]
          exact ⟨here, there⟩

theorem fits_dots {element : TypeForm NameForm} (plain : element.Plain)
    (h : Fits element.pieces) : Fits (.operator '.' ['.', '.'] :: element.pieces) := by
  intro rest hr
  refine ⟨List.forall_iff_forall_mem.1 (by decide), fun _ => ?_, h rest hr⟩
  obtain ⟨p, ps, e, begins⟩ := pieces_cons element plain
  rw [e]
  exact startsApart_isDigit begins (ps ++ rest)

/-- No piece of a type runs into the next one, nor into what may stand behind the type. -/
theorem fits_pieces (t : TypeForm NameForm) (h : t.Plain) : Fits t.pieces := by
  have word : ∀ text ∈ ["chan", "map", "func", "interface", "struct"],
      isIdentifier text = true := isIdentifier_words
  induction t using TypeForm.induction with
  | named name =>
      rw [pieces]
      exact NameForm.fits_pieces (h name (mem_parts_self _))
  | pointer element ih =>
      intro rest hr
      rw [pieces]
      refine spaced_operator (by decide) (by decide) (ih ?_ rest hr)
      exact fun name hm => h name (by simp [parts, hm])
  | slice element ih =>
      intro rest hr
      rw [pieces]
      refine spaced_operator (by decide) (by decide) (ih ?_ rest hr)
      exact fun name hm => h name (by simp [parts, hm])
  | array length element ih =>
      intro rest hr
      rw [pieces]
      refine spaced_operator (by decide) (by decide) ⟨rfl, ?_⟩
      refine spaced_operator (by decide) (by decide) (ih ?_ rest hr)
      exact fun name hm => h name (by simp [parts, hm])
  | map key value ihk ihv =>
      intro rest hr
      have plainKey : key.Plain := fun name hm => h name (by simp [parts, hm])
      have plainValue : value.Plain := fun name hm => h name (by simp [parts, hm])
      rw [pieces, List.cons_append, List.cons_append, List.append_assoc, List.cons_append]
      refine spaced_word (word "map" (by decide)) (endsType_operator (by decide) (by decide) ?_)
      exact ihk plainKey _ (endsType_operator (by decide) (by decide) (ihv plainValue rest hr))
  | channel direction element ih =>
      intro rest hr
      have fits : Fits element.pieces := ih fun name hm => h name (by simp [parts, hm])
      have chan := word "chan" (by decide)
      rw [pieces]
      cases direction with
      | both =>
          -- parentheses keep the word apart from an arrow that belongs to the element
          by_cases hc : ∃ inner, element = .channel .receive inner
          · obtain ⟨inner, rfl⟩ := hc
            rw [channelPieces_of_receive]
            exact spaced_word chan (endsType_blank (fits.paren rest hr))
          · rw [channelPieces_of_ne fun inner e => hc ⟨inner, e⟩]
            exact spaced_word chan (endsType_blank (fits rest hr))
      | send => exact spaced_word chan (endsType_operator (by decide) (by decide) (fits rest hr))
      | receive =>
          refine spaced_operator (by decide) (by decide) (spaced_word chan ?_)
          exact endsType_blank (fits rest hr)
  | function params results variadic ihp ihs ihr =>
      intro rest hr
      have fitParams : ∀ ps ∈ paramPieces variadic params, Fits ps := by
        refine forall_mem_paramPieces (fun p hp => ?_) fun element he => ?_
        · exact ihp p hp fun name hm => h name (mem_parts_of_param hp hm)
        · have plain : element.Plain := fun name hm => h name (mem_parts_of_slice_param he hm)
          exact fits_dots plain (ihs element he plain)
      have fitResults : ∀ ps ∈ piecesOfAll results, Fits ps := by
        rw [piecesOfAll_eq_map, List.forall_mem_map]
        exact fun r hm => ihr r hm fun name hn => h name (mem_parts_of_result hm hn)
      rw [pieces, List.cons_append, List.append_assoc]
      refine spaced_word (word "func" (by decide)) ?_
      exact (Fits.comma fitParams).endsType_paren (Fits.results fitResults hr)
  | applied base arguments ihb iha =>
      intro rest hr
      have fitBase := ihb fun name hm => h name (mem_parts_of_base hm)
      have fitArguments : ∀ ps ∈ piecesOfAll arguments, Fits ps := by
        rw [piecesOfAll_eq_map, List.forall_mem_map]
        exact fun a hm => iha a hm fun name hn => h name (mem_parts_of_argument hm hn)
      rw [pieces, List.append_assoc, List.cons_append, List.append_assoc]
      refine fitBase _ (endsType_operator (by decide) (by decide) (Fits.comma fitArguments _ ?_))
      exact endsType_operator (by decide) (by decide) hr.1
  | emptyInterface =>
      intro rest hr
      rw [pieces]
      refine spaced_word (word "interface" (by decide)) ?_
      exact endsType_operator (by decide) (by decide) hr.1
  | emptyStruct =>
      intro rest hr
      rw [pieces]
      refine spaced_word (word "struct" (by decide)) ?_
      exact endsType_operator (by decide) (by decide) hr.1

end TypeForm

end WrapperGen
