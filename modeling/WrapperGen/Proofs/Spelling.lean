import Mathlib.Data.List.Forall2
import WrapperGen.Proofs.Numeral
import WrapperGen.Source.Token

/-!
# From pieces of text to tokens

A text that is put together from words, numbers, operators and blanks is cut into these pieces
again, provided that no piece runs into the next one.

## Main definitions

* `Piece`: a word, a number, an operator or a blank.
* `textOf`, `marksOf`: the characters of some pieces, and the tokens that are expected of them.
* `Spaced`: no piece runs into the next one.
* `Spelled`: tokens are as expected.

## Main results

* `spelled_tokens`: the tokens of well-spaced pieces are as expected.
-/

namespace WrapperGen.Source

/-! ### Characters -/

/-- The characters of the operators and brackets that types consist of. -/
def typeSymbols : List Char := ['*', '[', ']', '(', ')', ',', '.', '<', '-', '{', '}']

theorem isIdentStart_of_mem : ∀ c ∈ typeSymbols, isIdentStart c = false :=
  List.forall_iff_forall_mem.1 (by decide)

theorem isIdentRest_of_mem : ∀ c ∈ typeSymbols, isIdentRest c = false :=
  List.forall_iff_forall_mem.1 (by decide)

theorem isBlank_of_mem : ∀ c ∈ typeSymbols, isBlank c = false :=
  List.forall_iff_forall_mem.1 (by decide)

theorem isDigit_of_mem : ∀ c ∈ typeSymbols, c.isDigit = false :=
  List.forall_iff_forall_mem.1 (by decide)

theorem symbolChars_of_mem : ∀ c ∈ typeSymbols, c ∈ symbolChars :=
  List.forall_iff_forall_mem.1 (by decide)

theorem ne_slash_of_mem : ∀ c ∈ typeSymbols, c ≠ '/' :=
  List.forall_iff_forall_mem.1 (by decide)

theorem ne_quotes_of_mem : ∀ c ∈ typeSymbols, c ≠ '"' ∧ c ≠ '\x60' ∧ c ≠ '\'' :=
  List.forall_iff_forall_mem.1 (by decide)

/-- The codes in some ranges. -/
def codesIn (ranges : List (Nat × Nat)) : List Nat :=
  ranges.flatMap fun range => List.range' range.1 (range.2 + 1 - range.1)

theorem mem_codesIn {n : Nat} {ranges : List (Nat × Nat)} (h : inRanges n ranges = true) :
    n ∈ codesIn ranges := by
  induction ranges with
  | nil => exact absurd h (by simp)
  | cons range ranges ih =>
      rw [codesIn, List.flatMap_cons, List.mem_append]
      rw [inRanges] at h
      split at h
      · exact absurd h (by decide)
      · rw [Bool.or_eq_true] at h
        rcases h with here | there
        · left
          have := of_decide_eq_true here
          rw [List.mem_range'_1]
          omega
        · exact Or.inr (ih there)

theorem isIdentStart_eq (c : Char) :
    isIdentStart c = (c.toNat == 95 || inRanges c.toNat wordStartRanges) := by
  rw [isIdentStart]
  congr 1
  rw [Bool.eq_iff_iff, beq_iff_eq, beq_iff_eq]
  exact ⟨fun e => e ▸ rfl, fun e => Char.toNat_inj.1 e⟩

theorem isBlank_of_isIdentStart {c : Char} (h : isIdentStart c = true) : isBlank c = false := by
  -- there are few blanks, so each of them is looked up among the letters
  have all : ∀ n ∈ codesIn blankRanges, (n == 95 || inRanges n wordStartRanges) = false := by
    decide +kernel
  by_contra blank
  rw [Bool.not_eq_false] at blank
  rw [isIdentStart_eq, all c.toNat (mem_codesIn blank)] at h
  exact absurd h (by decide)

theorem ne_slash_of_isIdentStart {c : Char} (h : isIdentStart c = true) : c ≠ '/' := by
  rintro rfl
  exact absurd h (by decide)

theorem mem_digitCodes {c : Char} (h : c.isDigit = true) : c.toNat ∈ List.range' 48 10 := by
  rw [Char.isDigit_iff_toNat] at h
  rw [List.mem_range'_1]
  exact ⟨h.1, Nat.lt_succ_of_le h.2⟩

theorem isIdentStart_of_isDigit {c : Char} (h : c.isDigit = true) : isIdentStart c = false := by
  have all : ∀ n ∈ List.range' 48 10, (n == 95 || inRanges n wordStartRanges) = false := by
    decide
  rw [isIdentStart_eq]
  exact all c.toNat (mem_digitCodes h)

theorem isBlank_of_isDigit {c : Char} (h : c.isDigit = true) : isBlank c = false := by
  have all : ∀ n ∈ List.range' 48 10, inRanges n blankRanges = false := by decide
  exact all c.toNat (mem_digitCodes h)

/-! ### Pieces -/

/-- Whether a text is an identifier. -/
def isIdentifier (text : String) : Bool :=
  match text.toList with
  | [] => false
  | c :: rest => isIdentStart c && rest.all isIdentRest

theorem cons_of_isIdentifier {text : String} (h : isIdentifier text = true) :
    ∃ c letters, text.toList = c :: letters ∧ isIdentStart c = true
      ∧ ∀ d ∈ letters, isIdentRest d = true := by
  rw [isIdentifier] at h
  cases ht : text.toList with
  | nil => simp [ht] at h
  | cons c letters =>
      simp only [ht, Bool.and_eq_true, List.all_eq_true] at h
      exact ⟨c, letters, rfl, h.1, h.2⟩

/-- A part of a text. -/
inductive Piece
  /-- An identifier or a reserved word. -/
  | word (text : String)
  /-- A number in decimal. -/
  | integer (n : Nat)
  /-- The characters of an operator, or a bracket. -/
  | operator (first : Char) (more : List Char)
  /-- A blank. -/
  | blank
  deriving DecidableEq, Repr, Inhabited

/-- What is expected of a token: what it is, and whether it has to touch the one before. -/
abbrev Mark := Lexeme × Bool

namespace Piece

/-- How a piece is written. -/
def chars : Piece → List Char
  | .word text => text.toList
  | .integer n => Nat.toDigits 10 n
  | .operator first more => first :: more
  | .blank => [' ']

/-- The tokens that are expected of a piece. -/
def marks : Piece → List Mark
  | .word text => [(.word text, false)]
  | .integer n => [(.integer (toString n), false)]
  | .operator first more => (.symbol first, false) :: more.map fun c => (.symbol c, true)
  | .blank => []

end Piece

/-- The characters of some pieces. -/
def textOf (pieces : List Piece) : List Char := pieces.flatMap Piece.chars

/-- The tokens that are expected of some pieces. -/
def marksOf (pieces : List Piece) : List Mark := pieces.flatMap Piece.marks

@[simp] theorem textOf_nil : textOf [] = [] := rfl

@[simp] theorem textOf_cons (p : Piece) (ps : List Piece) :
    textOf (p :: ps) = p.chars ++ textOf ps := rfl

@[simp] theorem textOf_append (ps qs : List Piece) :
    textOf (ps ++ qs) = textOf ps ++ textOf qs := List.flatMap_append

@[simp] theorem marksOf_nil : marksOf [] = [] := rfl

@[simp] theorem marksOf_cons (p : Piece) (ps : List Piece) :
    marksOf (p :: ps) = p.marks ++ marksOf ps := rfl

@[simp] theorem marksOf_append (ps qs : List Piece) :
    marksOf (ps ++ qs) = marksOf ps ++ marksOf qs := List.flatMap_append

/-- No character of some pieces runs into what stands in front of them. -/
def StartsApart (isRest : Char → Bool) (s : List Char) : Prop :=
  ∀ c ∈ s.head?, isRest c = false

/-- No piece runs into the next one. -/
def Spaced : List Piece → Prop
  | [] => True
  | .word text :: rest =>
      isIdentifier text = true ∧ StartsApart isIdentRest (textOf rest) ∧ Spaced rest
  | .integer _ :: rest => (textOf rest).head? = some ']' ∧ Spaced rest
  | .operator first more :: rest =>
      (∀ c ∈ first :: more, c ∈ typeSymbols) ∧
        ('.' ∈ first :: more → StartsApart Char.isDigit (textOf rest)) ∧ Spaced rest
  | .blank :: rest => Spaced rest

/-- A token is as expected, and on the line of the one before. -/
def Spells (mark : Mark) (t : Token) : Prop :=
  t.lexeme = mark.1 ∧ t.onNewLine = false ∧ (mark.2 = true → t.joined = true)

/-- Tokens are as expected. -/
abbrev Spelled (marks : List Mark) (ts : List Token) : Prop := List.Forall₂ Spells marks ts

/-! ### Single tokens -/

theorem blankLength?_of_not {c : Char} (rest : List Char) (hb : isBlank c = false)
    (hs : c ≠ '/') : blankLength? c rest = none := by
  simp [blankLength?, hb, hs]

theorem lexemeAt_identifier {text : String} {c : Char} {letters rest : List Char}
    (ht : text.toList = c :: letters) (hc : isIdentStart c = true)
    (hl : ∀ d ∈ letters, isIdentRest d = true) (hr : StartsApart isIdentRest rest) :
    lexemeAt c (letters ++ rest) = (.word text, letters.length) := by
  have tail : (letters ++ rest).takeWhile isIdentRest = letters := by
    rw [List.takeWhile_append_of_pos hl]
    cases rest with
    | nil => simp
    | cons d rest =>
        have hd : isIdentRest d = false := hr d rfl
        rw [List.takeWhile_cons, hd]
        simp
  rw [lexemeAt, if_pos hc, tail]
  show (Lexeme.word (String.ofList (c :: letters)), letters.length) = _
  rw [← ht, String.ofList_toList]

theorem lexemeAt_symbol {c : Char} (hc : c ∈ typeSymbols) {rest : List Char}
    (hr : c = '.' → StartsApart Char.isDigit rest) : lexemeAt c rest = (.symbol c, 0) := by
  obtain ⟨h1, h2, h3⟩ := ne_quotes_of_mem c hc
  have point : (c == '.' && rest.head?.any Char.isDigit) = false := by
    by_cases h : c = '.'
    · cases rest with
      | nil => simp
      | cons d rest => simp [hr h d rfl]
    · simp [h]
  simp [lexemeAt, isIdentStart_of_mem c hc, isDigit_of_mem c hc, point, ne_slash_of_mem c hc, h1,
    h2, h3, symbolChars_of_mem c hc]

theorem startsApart_of_symbols {more behind : List Char} (hc : ∀ c ∈ more, c ∈ typeSymbols)
    (hd : StartsApart Char.isDigit behind) : StartsApart Char.isDigit (more ++ behind) := by
  cases more with
  | nil => exact hd
  | cons c more =>
      intro d e
      rw [← Option.some.inj e]
      exact isDigit_of_mem c (hc c List.mem_cons_self)

theorem lexemeAt_integer {n : Nat} {d : Char} {digits : List Char}
    (hn : Nat.toDigits 10 n = d :: digits) (rest : List Char) :
    lexemeAt d (digits ++ ']' :: rest) = (.integer (toString n), digits.length) := by
  have hd : d.isDigit = true := isDigit_of_mem_toDigits (n := n) d (by simp [hn])
  have number := numberAt_toDigits n rest
  rw [hn, List.cons_append] at number
  rw [lexemeAt, isIdentStart_of_isDigit hd, hd]
  simp only [number]
  rw [Nat.toString_eq_ofList_toDigits, hn, ← List.cons_append, List.take_left]
  rfl

/-! ### All tokens -/

/-- A token that is as expected stands in front of others that are. -/
theorem Spelled.step {mark : Mark} {ms : List Mark} {c : Char} {tail behind : List Char}
    {joined : Bool} (hb : blankLength? c (tail ++ behind) = none)
    (hl : lexemeAt c (tail ++ behind) = (mark.1, tail.length))
    (hj : mark.2 = true → joined = true)
    (h : ∀ offset place, Spelled ms (tokensFrom offset place false true behind))
    (offset : Nat) (place : Place) :
    Spelled (mark :: ms) (tokensFrom offset place false joined (c :: (tail ++ behind))) := by
  rw [tokensFrom, hb, hl]
  refine List.Forall₂.cons ⟨rfl, rfl, hj⟩ ?_
  show Spelled ms (tokensFrom _ _ false true ((tail ++ behind).drop tail.length))
  rw [List.drop_left]
  exact h _ _

theorem Spelled.symbol {c : Char} {ms : List Mark} {behind : List Char} {needs joined : Bool}
    (hc : c ∈ typeSymbols) (hd : c = '.' → StartsApart Char.isDigit behind)
    (hj : needs = true → joined = true)
    (h : ∀ offset place, Spelled ms (tokensFrom offset place false true behind))
    (offset : Nat) (place : Place) :
    Spelled ((.symbol c, needs) :: ms) (tokensFrom offset place false joined (c :: behind)) :=
  @Spelled.step (.symbol c, needs) ms c [] behind joined
    (blankLength?_of_not _ (isBlank_of_mem c hc) (ne_slash_of_mem c hc)) (lexemeAt_symbol hc hd) hj
    h offset place

/-- The further characters of an operator touch the ones before. -/
theorem Spelled.symbols {more : List Char} {ms : List Mark} {behind : List Char}
    (hc : ∀ c ∈ more, c ∈ typeSymbols) (hd : '.' ∈ more → StartsApart Char.isDigit behind)
    (h : ∀ offset place, Spelled ms (tokensFrom offset place false true behind))
    (offset : Nat) (place : Place) :
    Spelled (more.map (fun c => (.symbol c, true)) ++ ms)
      (tokensFrom offset place false true (more ++ behind)) := by
  induction more generalizing offset place with
  | nil => exact h offset place
  | cons c more ih =>
      have rest := ih (fun d hm => hc d (List.mem_cons_of_mem c hm))
        fun hm => hd (List.mem_cons_of_mem c hm)
      refine Spelled.symbol (hc c List.mem_cons_self) ?_ (fun _ => rfl) rest offset place
      intro e
      exact startsApart_of_symbols (fun d hm => hc d (List.mem_cons_of_mem c hm))
        (hd (e ▸ List.mem_cons_self))

/-- The tokens of well-spaced pieces are as expected, wherever the pieces stand in a line. -/
theorem spelled_tokensFrom {ps : List Piece} (h : Spaced ps) (joined : Bool) (offset : Nat)
    (place : Place) : Spelled (marksOf ps) (tokensFrom offset place false joined (textOf ps)) := by
  induction ps generalizing joined offset place with
  | nil =>
      rw [textOf_nil, tokensFrom]
      exact List.Forall₂.nil
  | cons p ps ih =>
      cases p with
      | word text =>
          obtain ⟨identifier, apart, spaced⟩ := h
          obtain ⟨c, letters, ht, hc, hl⟩ := cons_of_isIdentifier identifier
          rw [textOf_cons, Piece.chars, ht]
          exact Spelled.step
            (blankLength?_of_not _ (isBlank_of_isIdentStart hc) (ne_slash_of_isIdentStart hc))
            (lexemeAt_identifier ht hc hl apart) (fun e => Bool.noConfusion e)
            (fun offset place => ih spaced true offset place) offset place
      | integer n =>
          obtain ⟨bracket, spaced⟩ := h
          obtain ⟨d, digits, hn⟩ :=
            List.exists_cons_of_ne_nil (Nat.toDigits_ne_nil (n := n) (b := 10))
          have hd : d.isDigit = true := isDigit_of_mem_toDigits (n := n) d (by simp [hn])
          obtain ⟨behind, hb⟩ := List.head?_eq_some_iff.1 bracket
          rw [textOf_cons, Piece.chars, hn]
          refine Spelled.step (blankLength?_of_not _ (isBlank_of_isDigit hd) ?_) ?_
            (fun e => Bool.noConfusion e) (fun offset place => ih spaced true offset place) offset
            place
          · rintro rfl
            exact absurd hd (by decide)
          · rw [hb]
            exact lexemeAt_integer hn behind
      | operator first more =>
          obtain ⟨symbols, apart, spaced⟩ := h
          -- an operator is read one character at a time, and only its first may stand apart
          have rest := @Spelled.symbols more (marksOf ps) (textOf ps)
            (fun c hc => symbols c (List.mem_cons_of_mem first hc))
            (fun hc => apart (List.mem_cons_of_mem first hc))
            (fun offset place => ih spaced true offset place)
          refine Spelled.symbol (symbols first List.mem_cons_self) ?_
            (fun e => absurd e (by decide)) rest offset place
          intro e
          exact startsApart_of_symbols (fun c hc => symbols c (List.mem_cons_of_mem first hc))
            (apart (e ▸ List.mem_cons_self))
      | blank =>
          show Spelled (marksOf ps) (tokensFrom offset place false joined (' ' :: textOf ps))
          -- behind a blank the next token is not joined, which no piece asks of its first one
          have hb : blankLength? ' ' (textOf ps) = some 0 := if_pos (by decide)
          rw [tokensFrom, hb]
          exact ih h false _ _

/-- No piece begins with the byte order mark. -/
theorem head?_textOf_ne_mark {ps : List Piece} (h : Spaced ps) :
    (textOf ps).head? ≠ some '\ufeff' := by
  intro e
  cases ps with
  | nil => exact absurd e (by simp)
  | cons p ps =>
      cases p with
      | word text =>
          obtain ⟨c, letters, ht, hc, -⟩ := cons_of_isIdentifier h.1
          rw [textOf_cons, Piece.chars, ht] at e
          rw [Option.some.inj e] at hc
          exact absurd hc (by decide +kernel)
      | integer n =>
          obtain ⟨d, digits, hn⟩ :=
            List.exists_cons_of_ne_nil (Nat.toDigits_ne_nil (n := n) (b := 10))
          have hd : d.isDigit = true := isDigit_of_mem_toDigits (n := n) d (by simp [hn])
          rw [textOf_cons, Piece.chars, hn] at e
          rw [Option.some.inj e] at hd
          exact absurd hd (by decide)
      | operator first more =>
          have symbol := h.1 first List.mem_cons_self
          rw [Option.some.inj e] at symbol
          exact absurd symbol (by decide)
      | blank => exact absurd (Option.some.inj e) (by decide)

/-- The tokens of well-spaced pieces are as expected. -/
theorem spelled_tokens {ps : List Piece} (h : Spaced ps) :
    Spelled (marksOf ps) (tokens (textOf ps)) := by
  rw [tokens]
  · exact spelled_tokensFrom h false 0 Place.start
  · intro rest e
    exact head?_textOf_ne_mark h (by rw [e]; rfl)

end WrapperGen.Source
