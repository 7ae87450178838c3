import WrapperGen.Proofs.SignatureReading
import WrapperGen.Source.File

/-!
# Reading the text of a type

The readers of the grammar are nested to a depth that no text of that length exceeds, so they read
every type from its pieces.  What they read differs from the type in one respect: an arrow that
is written in front of a two-way channel goes to that channel.

## Main definitions

* `ReadablePart`, `Readable`: the types whose names can be read again.
* `ReadsBack`: what the grammar makes of the tokens of a type, alone and behind an arrow.

## Main results

* `level_grammar`: the grammar is a level at every depth but zero.
* `readsBack`: a type is read with its arrows regrouped.
-/

namespace WrapperGen

open Source Reading

/-! ### The grammar -/

theorem stops_grammar (limit depth : Nat) (endsLine : Bool) :
    Fails Closing ((grammar limit depth).type endsLine) [] := by
  intro ts rest hts hr
  rw [List.forall₂_nil_left_iff.1 hts, List.nil_append]
  cases depth with
  | zero => rfl
  | succ depth =>
      show readType (grammar limit depth) endsLine rest = none
      cases rest with
      | nil => rfl
      | cons t more =>
          obtain ⟨c, hc, hl⟩ := hr t rfl
          rw [readType, bind_of_some (peek_cons t more), hl]
          rcases List.mem_cons.1 hc with rfl | hc
          · rfl
          · rcases List.mem_cons.1 hc with rfl | hc
            · rfl
            · rcases List.mem_cons.1 hc with rfl | hc
              · rfl
              · rw [List.mem_singleton.1 hc]
                rfl

theorem readInfix_of_bracket {startsStatement endsLine : Bool} {t : Token} (rest : List Token)
    (h : t.lexeme = .symbol ']') {table : List (List Char × Option BinaryOp)}
    (ht : ∀ entry ∈ table, entry.1.head? ≠ some ']') :
    readInfix startsStatement endsLine table (t :: rest) = none := by
  induction table with
  | nil => rfl
  | cons entry table ih =>
      have more := ih fun other ho => ht other (List.mem_cons_of_mem entry ho)
      have here := ht entry List.mem_cons_self
      obtain ⟨chars, op?⟩ := entry
      have noOperator : operator endsLine chars (t :: rest) = none := by
        cases chars with
        | nil => rfl
        | cons c chars =>
            refine operator_of_ne ?_ rest
            rw [h, ne_eq, Lexeme.symbol.injEq]
            rintro rfl
            exact here rfl
      cases op? with
      | none =>
          simp only [readInfix, noOperator]
          simpa using more
      | some op => simp only [readInfix, noOperator, more]

theorem reads_integer_grammar (limit depth : Nat) (text : String) :
    Reads (Shut ']') ((grammar limit (depth + 1)).expr Mode.inner) [(.integer text, false)]
      fun o => o.isExpr = true ∧ ∃ span, o.expr = .integer span text := by
  intro ts rest hts hr
  obtain ⟨t, us, ht, hu, rfl⟩ := List.forall₂_cons_left_iff.1 hts
  rw [List.forall₂_nil_left_iff.1 hu]
  obtain ⟨-, s, hs, hc⟩ := hr
  obtain ⟨more, rfl⟩ := List.head?_eq_some_iff.1 hs
  -- the literal is an operand, nothing is behind it that would go on with it, and no operator is
  -- behind it either
  have operand : readOperand (grammar limit depth) (t :: s :: more)
      = some (valueOperand (.integer t.span text), s :: more) := by
    rw [readOperand, bind_of_some (peek_cons t _), ht.1]
    rfl
  have alone : readPostfix (grammar limit depth) Mode.inner (valueOperand (.integer t.span text))
      (s :: more) = none := by
    rw [readPostfix]
    refine (bind_of_some (peek_cons s more)).trans ?_
    rw [hc]
    rfl
  have unary : readUnary (grammar limit depth) Mode.inner (t :: s :: more)
      = some (valueOperand (.integer t.span text), s :: more) := by
    rw [readUnary, bind_of_some (peek_cons t _), ht.1]
    exact (bind_of_some operand).trans (repeatStep_of_none alone _)
  have tail : readTail (grammar limit depth) Mode.inner (s :: more) = none :=
    bind_of_none (readInfix_of_bracket more hc (by decide))
  refine ⟨valueOperand (.integer t.span text), ?_, rfl, t.span, rfl⟩
  show readExpr (grammar limit depth) Mode.inner (t :: s :: more) = _
  rw [readExpr, bind_of_some unary]
  exact bind_of_some (many_of_none tail _)

theorem level_grammar (limit depth : Nat) : Level (grammar limit (depth + 1)) :=
  ⟨stops_grammar limit (depth + 1), reads_integer_grammar limit depth⟩

theorem limit_grammar (limit depth : Nat) : (grammar limit depth).limit = limit := by
  cases depth <;> rfl

/-! ### Lists -/

theorem marksOf_commaPieces (pss : List (List Piece)) :
    marksOf (commaPieces pss) = commaMarks (pss.map marksOf) := by
  induction pss with
  | nil => rfl
  | cons ps pss ih =>
      cases pss with
      | nil => simp [commaPieces, commaMarks, tailMarks]
      | cons qs pss => simp [commaPieces, commaMarks, tailMarks, ih, Piece.marks]

theorem length_le_tailMarks (mss : List (List Mark)) :
    mss.length ≤ (tailMarks mss).length ∧ ∀ ms ∈ mss, ms.length ≤ (tailMarks mss).length := by
  induction mss with
  | nil => simp [tailMarks]
  | cons ms mss ih =>
      have split : (tailMarks (ms :: mss)).length = ms.length + 1 + (tailMarks mss).length := by
        simp [tailMarks]
        omega
      rw [split, List.length_cons]
      refine ⟨by omega, ?_⟩
      intro ns hn
      rcases List.mem_cons.1 hn with rfl | hn
      · omega
      · have := ih.2 ns hn
        omega

/-- A list has no more values than tokens, apart from the first, and no value has more tokens than
the list. -/
theorem length_le_commaMarks (mss : List (List Mark)) :
    mss.length ≤ (commaMarks mss).length + 1 ∧ ∀ ms ∈ mss, ms.length ≤ (commaMarks mss).length := by
  cases mss with
  | nil => simp [commaMarks]
  | cons ms mss =>
      obtain ⟨tail, inside⟩ := length_le_tailMarks mss
      rw [commaMarks, List.length_append, List.length_cons]
      refine ⟨by omega, ?_⟩
      intro ns hn
      rcases List.mem_cons.1 hn with rfl | hn
      · omega
      · have := inside ns hn
        omega

/-! ### Types that can be read -/

variable (scope : PackageScope) (importer : Importer) (file : SourceFile)
  (spell : DeclaredName → NameForm) (means : DeclaredName → DeclaredName)

/-- What a part of a type needs in order to be read again, where `spell` says how names are written
and `means` what they stand for then. -/
def ReadablePart : DeclaredType → Prop
  | .named name =>
      (spell name).isPlain = true ∧ NameDenotes scope importer file (means name) (spell name)
  | .function params _ variadic =>
      variadic = true → ∃ element, params.getLast? = some (.slice element)
  | .applied base arguments => (∃ name, base = .named name) ∧ arguments ≠ []
  | _ => True

/-- All parts of a type can be read again. -/
def Readable (t : DeclaredType) : Prop :=
  ∀ p ∈ t.parts, ReadablePart scope importer file spell means p

/-- The tokens of a type. -/
def typeMarks (t : DeclaredType) : List Mark := marksOf (t.mapNames spell).pieces

/-- The type that is read. -/
def reread (t : DeclaredType) : DeclaredType := (t.mapNames means).regroup

/-- What is read from the tokens of a type with an arrow in front of them: the arrow makes a
two-way channel one to receive from, and fits in front of nothing else. -/
structure ReadsArrow (p : Reader TypeExpr) (ms : List Mark) (u : DeclaredType) : Prop where
  /-- The arrow goes to a two-way channel. -/
  takes : ∀ inner, u = .channel .both inner →
    Reads Closing p (arrowMarks ++ ms) (Denotes scope importer file (.channel .receive inner))
  /-- It goes to no other type. -/
  refuses : (∀ inner, u ≠ .channel .both inner) → Fails Closing p (arrowMarks ++ ms)

/-- A type is read from its tokens, alone and behind an arrow, by all grammars that are nested
deeply enough. -/
def ReadsBack (t : DeclaredType) : Prop :=
  ∀ limit depth endsLine, (typeMarks spell t).length ≤ limit → (typeMarks spell t).length ≤ depth →
    Reads Closing ((grammar limit depth).type endsLine) (typeMarks spell t)
        (Denotes scope importer file (reread means t))
      ∧ ReadsArrow scope importer file ((grammar limit depth).type endsLine) (typeMarks spell t)
        (reread means t)

variable {scope importer file spell means}

/-- A type that needs a level of nesting is read where one level is there. -/
theorem readsBack_of_level {t : DeclaredType} {m : Mark} {ms : List Mark}
    (hm : typeMarks spell t = m :: ms)
    (h : ∀ limit depth endsLine, (m :: ms).length ≤ limit → (m :: ms).length ≤ depth + 1 →
      Reads Closing (readType (grammar limit depth) endsLine) (m :: ms)
          (Denotes scope importer file (reread means t))
        ∧ ReadsArrow scope importer file (readType (grammar limit depth) endsLine) (m :: ms)
          (reread means t)) : ReadsBack scope importer file spell means t := by
  intro limit depth endsLine hl hd
  rw [hm] at hl hd ⊢
  cases depth with
  | zero => exact absurd hd (by simp)
  | succ depth => exact h limit depth endsLine hl hd

/-- Behind an arrow comes a channel or nothing. -/
theorem readsArrow_of_ne {g : Grammar} {endsLine : Bool} {m : Mark} {ms : List Mark}
    {u : DeclaredType} (hm : m.1 ≠ .word "chan") (hu : ∀ inner, u ≠ .channel .both inner) :
    ReadsArrow scope importer file (readType g endsLine) (m :: ms) u :=
  ⟨fun inner e => absurd e (hu inner), fun _ => fails_arrow hm⟩

theorem marksOf_name {name : NameForm} (h : name.isPlain = true) :
    ∃ m ms, marksOf name.pieces = m :: ms ∧ m.1 ≠ .word "chan" := by
  have apart : ∀ text, isFreeName text = true → Lexeme.word text ≠ .word "chan" := by
    intro text ht e
    exact ne_typeWord ht "chan" (by decide) (Lexeme.word.inj e)
  cases name with
  | bare name => exact ⟨_, _, rfl, apart name h⟩
  | behind qualifier name => exact ⟨_, _, rfl, apart qualifier ((Bool.and_eq_true _ _).mp h).1⟩

theorem readsBack_named {name : DeclaredName}
    (h : ReadablePart scope importer file spell means (.named name)) :
    ReadsBack scope importer file spell means (.named name) := by
  obtain ⟨plain, denotes⟩ := h
  have marks : typeMarks spell (.named name) = marksOf (spell name).pieces := by
    show marksOf (TypeForm.pieces (.named (spell name))) = _
    rw [TypeForm.pieces]
  obtain ⟨m, ms, hm, hne⟩ := marksOf_name plain
  refine readsBack_of_level (marks.trans hm) fun limit depth endsLine _ _ => ⟨?_, ?_⟩
  · rw [← hm]
    exact reads_plain plain denotes
  · exact readsArrow_of_ne hne fun inner e => by cases e

theorem readsBack_pointer {element : DeclaredType}
    (h : ReadsBack scope importer file spell means element) :
    ReadsBack scope importer file spell means (.pointer element) := by
  have marks : typeMarks spell (.pointer element)
      = (.symbol '*', false) :: typeMarks spell element := by
    show marksOf (TypeForm.pieces (.pointer (element.mapNames spell))) = _
    rw [TypeForm.pieces]
    rfl
  refine readsBack_of_level marks fun limit depth endsLine hl hd => ⟨?_, ?_⟩
  · simp only [List.length_cons] at hl hd
    exact reads_pointer (h limit depth endsLine (by omega) (by omega)).1
  · exact readsArrow_of_ne (by decide) fun inner e => by cases e

theorem readsBack_slice {element : DeclaredType}
    (h : ReadsBack scope importer file spell means element) :
    ReadsBack scope importer file spell means (.slice element) := by
  have marks : typeMarks spell (.slice element)
      = (.symbol '[', false) :: (.symbol ']', true) :: typeMarks spell element := by
    show marksOf (TypeForm.pieces (.slice (element.mapNames spell))) = _
    rw [TypeForm.pieces]
    rfl
  refine readsBack_of_level marks fun limit depth endsLine hl hd => ⟨?_, ?_⟩
  · simp only [List.length_cons] at hl hd
    exact reads_slice (h limit depth endsLine (by omega) (by omega)).1
  · exact readsArrow_of_ne (by decide) fun inner e => by cases e

theorem readsBack_array {length : UInt64} {element : DeclaredType}
    (h : ReadsBack scope importer file spell means element) :
    ReadsBack scope importer file spell means (.array length element) := by
  have marks : typeMarks spell (.array length element)
      = (.symbol '[', false) :: (.integer (toString length.toNat), false)
        :: (.symbol ']', false) :: typeMarks spell element := by
    show marksOf (TypeForm.pieces (.array length (element.mapNames spell))) = _
    rw [TypeForm.pieces]
    rfl
  refine readsBack_of_level marks fun limit depth endsLine hl hd => ⟨?_, ?_⟩
  · simp only [List.length_cons] at hl hd
    -- the brackets take one level, which the grammar has left because the type has further tokens
    obtain ⟨depth, rfl⟩ : ∃ n, depth = n + 1 := ⟨depth - 1, by omega⟩
    exact reads_array (level_grammar limit depth) length
      (h limit (depth + 1) endsLine (by omega) (by omega)).1
  · exact readsArrow_of_ne (by decide) fun inner e => by cases e

theorem readsBack_map {key value : DeclaredType}
    (hk : ReadsBack scope importer file spell means key)
    (hv : ReadsBack scope importer file spell means value) :
    ReadsBack scope importer file spell means (.map key value) := by
  have marks : typeMarks spell (.map key value)
      = (.word "map", false) :: (.symbol '[', false)
        :: (typeMarks spell key ++ (.symbol ']', false) :: typeMarks spell value) := by
    show marksOf (TypeForm.pieces (.map (key.mapNames spell) (value.mapNames spell))) = _
    rw [TypeForm.pieces, marksOf_cons, marksOf_cons, marksOf_append, marksOf_cons]
    rfl
  refine readsBack_of_level marks fun limit depth endsLine hl hd => ⟨?_, ?_⟩
  · simp only [List.length_cons, List.length_append] at hl hd
    have readsKey := (hk limit depth false (by omega) (by omega)).1
    have readsValue := (hv limit depth endsLine (by omega) (by omega)).1
    exact reads_map (readsKey.weaken fun rest hr => hr.between.closing) readsValue
  · exact readsArrow_of_ne (by decide) fun inner e => by cases e

theorem readsBack_emptyInterface :
    ReadsBack scope importer file spell means .emptyInterface := by
  have marks : typeMarks spell .emptyInterface
      = [(.word "interface", false), (.symbol '{', false), (.symbol '}', true)] := by
    show marksOf (TypeForm.pieces .emptyInterface) = _
    rw [TypeForm.pieces]
    rfl
  refine readsBack_of_level marks fun limit depth endsLine hl hd => ⟨?_, ?_⟩
  · simp only [List.length_cons, List.length_nil] at hl hd
    obtain ⟨depth, rfl⟩ : ∃ n, depth = n + 1 := ⟨depth - 1, by omega⟩
    exact reads_emptyInterface (level_grammar limit depth)
  · exact readsArrow_of_ne (by decide) fun inner e => by cases e

theorem readsBack_emptyStruct : ReadsBack scope importer file spell means .emptyStruct := by
  have marks : typeMarks spell .emptyStruct
      = [(.word "struct", false), (.symbol '{', false), (.symbol '}', true)] := by
    show marksOf (TypeForm.pieces .emptyStruct) = _
    rw [TypeForm.pieces]
    rfl
  refine readsBack_of_level marks fun limit depth endsLine _ _ => ⟨reads_emptyStruct, ?_⟩
  exact readsArrow_of_ne (by decide) fun inner e => by cases e

/-! ### Channels -/

/-- A two-way channel takes an arrow in front of it. -/
theorem readsArrow_both {g : Grammar} {endsLine : Bool} {ms : List Mark} {u : DeclaredType}
    (h : Reads Closing (g.type endsLine) ms (Denotes scope importer file u)) :
    ReadsArrow scope importer file (readType g endsLine) ((.word "chan", false) :: ms)
      (.channel .both u) := by
  constructor
  · intro inner e
    cases e
    exact reads_receiver h
  · intro ne
    exact absurd rfl (ne u)

theorem readsBack_both {element : DeclaredType}
    (h : ReadsBack scope importer file spell means element) :
    ReadsBack scope importer file spell means (.channel .both element) := by
  -- only in front of a channel to receive from there are parentheses
  by_cases hr : ∃ inner, element.mapNames spell = .channel .receive inner
  · obtain ⟨inner, hr⟩ := hr
    have marks : typeMarks spell (.channel .both element)
        = (.word "chan", false) :: parenMarks (typeMarks spell element) := by
      show marksOf (TypeForm.pieces (.channel .both (element.mapNames spell))) = _
      rw [TypeForm.pieces, typeMarks, hr, TypeForm.channelPieces_of_receive]
      simp [parenPieces, parenMarks, Piece.marks]
    refine readsBack_of_level marks fun limit depth endsLine hl hd => ?_
    simp only [List.length_cons, parenMarks, List.length_append] at hl hd
    obtain ⟨depth, rfl⟩ : ∃ n, depth = n + 1 := ⟨depth - 1, by omega⟩
    have inside := (h limit depth false (by omega) (by omega)).1
    have paren : Reads Closing ((grammar limit (depth + 1)).type endsLine)
        (parenMarks (typeMarks spell element))
        (Denotes scope importer file (reread means element)) :=
      reads_paren (inside.weaken fun rest hr => hr.between.closing)
    exact ⟨reads_chan paren, readsArrow_both paren⟩
  · have marks : typeMarks spell (.channel .both element)
        = (.word "chan", false) :: typeMarks spell element := by
      show marksOf (TypeForm.pieces (.channel .both (element.mapNames spell))) = _
      rw [TypeForm.pieces, TypeForm.channelPieces_of_ne fun inner e => hr ⟨inner, e⟩]
      rfl
    refine readsBack_of_level marks fun limit depth endsLine hl hd => ?_
    simp only [List.length_cons] at hl hd
    have inside := (h limit depth endsLine (by omega) (by omega)).1
    exact ⟨reads_chan inside, readsArrow_both inside⟩

theorem readsBack_send {element : DeclaredType}
    (h : ReadsBack scope importer file spell means element) :
    ReadsBack scope importer file spell means (.channel .send element) := by
  have marks : typeMarks spell (.channel .send element)
      = (.word "chan", false) :: (arrowMarks ++ typeMarks spell element) := by
    show marksOf (TypeForm.pieces (.channel .send (element.mapNames spell))) = _
    rw [TypeForm.pieces]
    rfl
  have reads : reread means (.channel .send element) = (reread means element).sendInto := rfl
  refine readsBack_of_level marks fun limit depth endsLine hl hd => ?_
  simp only [List.length_cons, List.length_append] at hl hd
  obtain ⟨alone, arrow⟩ := h limit depth endsLine (by omega) (by omega)
  rw [reads]
  by_cases hb : ∃ inner, reread means element = .channel .both inner
  · obtain ⟨inner, hb⟩ := hb
    rw [hb, TypeForm.sendInto]
    exact ⟨reads_chan (arrow.takes inner hb), readsArrow_both (arrow.takes inner hb)⟩
  · have apart : ∀ inner, reread means element ≠ .channel .both inner :=
      fun inner e => hb ⟨inner, e⟩
    rw [TypeForm.sendInto_of_ne apart]
    refine ⟨reads_chan_arrow (arrow.refuses apart) alone, ?_⟩
    exact ⟨fun inner e => (by cases e), fun _ => fails_receiver (arrow.refuses apart)⟩

theorem readsBack_receive {element : DeclaredType}
    (h : ReadsBack scope importer file spell means element) :
    ReadsBack scope importer file spell means (.channel .receive element) := by
  have marks : typeMarks spell (.channel .receive element)
      = (.symbol '<', false) :: (.symbol '-', true) :: (.word "chan", false)
        :: typeMarks spell element := by
    show marksOf (TypeForm.pieces (.channel .receive (element.mapNames spell))) = _
    rw [TypeForm.pieces]
    rfl
  refine readsBack_of_level marks fun limit depth endsLine hl hd => ⟨?_, ?_⟩
  · simp only [List.length_cons] at hl hd
    exact reads_receiver (h limit depth endsLine (by omega) (by omega)).1
  · exact readsArrow_of_ne (by decide) fun inner e => by cases e

/-! ### Applied types -/

variable (spell) in
theorem typeMarks_applied (name : DeclaredName) (arguments : List DeclaredType) :
    typeMarks spell (.applied (.named name) arguments)
      = marksOf (spell name).pieces
        ++ (.symbol '[', false)
          :: (commaMarks (arguments.map (typeMarks spell)) ++ [(.symbol ']', false)]) := by
  show marksOf (TypeForm.pieces
    (.applied (.named (spell name)) (TypeForm.mapNamesAll spell arguments))) = _
  rw [TypeForm.pieces, TypeForm.pieces, TypeForm.mapNamesAll_eq_map,
    TypeForm.piecesOfAll_eq_map, marksOf_append, marksOf_cons, marksOf_append,
    marksOf_commaPieces, List.map_map, List.map_map]
  rfl

theorem readsBack_applied {name : DeclaredName} {arguments : List DeclaredType}
    (hn : ReadablePart scope importer file spell means (.named name)) (some' : arguments ≠ [])
    (h : ∀ a ∈ arguments, ReadsBack scope importer file spell means a) :
    ReadsBack scope importer file spell means (.applied (.named name) arguments) := by
  obtain ⟨plain, denotes⟩ := hn
  obtain ⟨m, ms, hm, hne⟩ := marksOf_name plain
  have reads : reread means (.applied (.named name) arguments)
      = .applied (.named (means name)) (arguments.map (reread means)) := by
    show TypeForm.applied (.named (means name))
      (TypeForm.regroupAll (TypeForm.mapNamesAll means arguments)) = _
    rw [TypeForm.regroupAll_eq_map, TypeForm.mapNamesAll_eq_map, List.map_map]
    rfl
  have marks := typeMarks_applied spell name arguments
  rw [hm, List.cons_append] at marks
  refine readsBack_of_level marks fun limit depth endsLine hl hd => ⟨?_, ?_⟩
  · simp only [List.length_cons, List.length_append, List.length_nil] at hl hd
    obtain ⟨count, inside⟩ := length_le_commaMarks (arguments.map (typeMarks spell))
    have readArguments : List.Forall₂ (fun ms u => Reads (Between ']')
        ((grammar limit depth).type false) ms (Denotes scope importer file u))
        (arguments.map (typeMarks spell)) (arguments.map (reread means)) := by
      rw [List.forall₂_map_left_iff, List.forall₂_map_right_iff, List.forall₂_same]
      intro a ha
      have short := inside _ (List.mem_map_of_mem ha)
      exact (h a ha limit depth false (by omega) (by omega)).1.weaken fun _ hr => hr.closing
    rw [reads, ← List.cons_append, ← hm]
    exact reads_applied plain denotes readArguments (by simpa using some')
      (by rw [limit_grammar]; omega)
  · exact readsArrow_of_ne hne fun inner e => by rw [reads] at e; cases e

/-! ### Functions -/

/-- A type is a name alone, or begins with something else. -/
theorem bare_or_compound {t : DeclaredType} (h : Readable scope importer file spell means t) :
    (∃ name text, t = .named name ∧ spell name = .bare text) ∨ Compound (typeMarks spell t) := by
  have free : ∀ {text : String}, isFreeName text = true → text ∉ typeWords :=
    fun ht hw => ne_typeWord ht _ hw rfl
  cases t with
  | named name =>
      obtain ⟨plain, -⟩ := h _ (TypeForm.mem_parts_self _)
      cases hs : spell name with
      | bare text => exact Or.inl ⟨name, text, rfl, hs⟩
      | behind qualifier text =>
          right
          rw [hs] at plain
          show Compound (marksOf (TypeForm.pieces (.named (spell name))))
          rw [TypeForm.pieces, hs]
          exact Compound.qualified (free ((Bool.and_eq_true _ _).mp plain).1)
  | pointer element =>
      right
      show Compound (marksOf (TypeForm.pieces (.pointer (element.mapNames spell))))
      rw [TypeForm.pieces]
      exact Compound.operator (by decide)
  | slice element =>
      right
      show Compound (marksOf (TypeForm.pieces (.slice (element.mapNames spell))))
      rw [TypeForm.pieces]
      exact Compound.operator (by decide)
  | array length element =>
      right
      show Compound (marksOf (TypeForm.pieces (.array length (element.mapNames spell))))
      rw [TypeForm.pieces]
      exact Compound.operator (by decide)
  | map key value =>
      right
      show Compound (marksOf (TypeForm.pieces (.map (key.mapNames spell) (value.mapNames spell))))
      rw [TypeForm.pieces]
      exact Compound.typeWord (by decide)
  | channel direction element =>
      right
      show Compound (marksOf (TypeForm.pieces (.channel direction (element.mapNames spell))))
      rw [TypeForm.pieces]
      rcases TypeForm.channelPieces_cons direction (element.mapNames spell)
        (element.mapNames spell).pieces with ⟨ps, e⟩ | ⟨ps, e⟩
      · rw [e]
        exact Compound.typeWord (by decide)
      · rw [e]
        exact Compound.operator (by decide)
  | function params results variadic =>
      right
      show Compound (marksOf (TypeForm.pieces (.function _ _ variadic)))
      rw [TypeForm.pieces]
      exact Compound.typeWord (by decide)
  | applied base arguments =>
      right
      obtain ⟨⟨name, rfl⟩, -⟩ := h _ (TypeForm.mem_parts_self _)
      have inside : TypeForm.named name ∈ (TypeForm.applied (.named name) arguments).parts :=
        TypeForm.mem_parts_of_base (TypeForm.mem_parts_self _)
      obtain ⟨plain, -⟩ := h _ inside
      rw [typeMarks_applied]
      cases hs : spell name with
      | bare text =>
          rw [hs] at plain
          exact Compound.applied (free plain)
      | behind qualifier text =>
          rw [hs] at plain
          exact Compound.qualified (free ((Bool.and_eq_true _ _).mp plain).1)
  | emptyInterface =>
      right
      show Compound (marksOf (TypeForm.pieces .emptyInterface))
      rw [TypeForm.pieces]
      exact Compound.typeWord (by decide)
  | emptyStruct =>
      right
      show Compound (marksOf (TypeForm.pieces .emptyStruct))
      rw [TypeForm.pieces]
      exact Compound.typeWord (by decide)

/-- A type is read as an entry of a parameter list. -/
theorem entry_of_readsBack {t : DeclaredType} (h : Readable scope importer file spell means t)
    (hr : ReadsBack scope importer file spell means t) {limit depth : Nat}
    (hl : (typeMarks spell t).length ≤ limit) (hd : (typeMarks spell t).length ≤ depth) :
    Reads (Between ')') (readParamEntry (grammar limit depth)) (typeMarks spell t)
      (EntryDenotes scope importer file (reread means t, false)) := by
  -- a name alone could be that of a parameter, and is known for a type by what is behind it
  rcases bare_or_compound h with ⟨name, text, rfl, hs⟩ | compound
  · obtain ⟨plain, denotes⟩ := h _ (TypeForm.mem_parts_self _)
    have marks : typeMarks spell (.named name) = [(.word text, false)] := by
      show marksOf (TypeForm.pieces (.named (spell name))) = _
      rw [TypeForm.pieces, hs]
      rfl
    rw [hs] at plain denotes
    rw [marks]
    refine entry_bare plain fun span => ?_
    rw [Denotes, declaredType]
    exact denotes span
  · exact entry_unnamed compound ((hr limit depth false hl hd).1.weaken fun _ hr => hr.closing)

variable (spell) in
/-- The tokens of each of the parameters of a function. -/
def paramMarks (dots : Bool) (params : List DeclaredType) : List (List Mark) :=
  (TypeForm.paramPieces dots (params.map (·.mapNames spell))).map marksOf

theorem paramMarks_cons (dots : Bool) (p next : DeclaredType) (rest : List DeclaredType) :
    paramMarks spell dots (p :: next :: rest)
      = typeMarks spell p :: paramMarks spell dots (next :: rest) := by
  show (TypeForm.paramPieces dots
    (p.mapNames spell :: next.mapNames spell :: rest.map (·.mapNames spell))).map marksOf = _
  rw [TypeForm.paramPieces, List.map_cons]
  rfl

theorem paramMarks_dots (element : DeclaredType) :
    paramMarks spell true [.slice element] = [dotsMarks ++ typeMarks spell element] := by
  show (TypeForm.paramPieces true [.slice (element.mapNames spell)]).map marksOf = _
  rw [TypeForm.paramPieces, TypeForm.lastPieces]
  rfl

theorem paramMarks_last (p : DeclaredType) :
    paramMarks spell false [p] = [typeMarks spell p] := by
  show (TypeForm.paramPieces false [p.mapNames spell]).map marksOf = [marksOf _]
  rw [TypeForm.paramPieces]
  by_cases hs : ∃ element, p.mapNames spell = .slice element
  · obtain ⟨element, hs⟩ := hs
    rw [hs, TypeForm.lastPieces, TypeForm.pieces]
    rfl
  · rw [TypeForm.lastPieces]
    · rfl
    · exact fun element e => hs ⟨element, e⟩

/-- Parameters are read as entries, the last one as a repeated one if dots are in front of it. -/
theorem entries_params {g : Grammar} {dots : Bool} {params : List DeclaredType} {bound : Nat}
    (hl : dots = true → ∃ element, params.getLast? = some (.slice element))
    (hb : ∀ ms ∈ paramMarks spell dots params, ms.length ≤ bound)
    (hp : ∀ p ∈ params, (typeMarks spell p).length ≤ bound →
      Reads (Between ')') (readParamEntry g) (typeMarks spell p)
        (EntryDenotes scope importer file (reread means p, false)))
    (hs : ∀ element, .slice element ∈ params → (typeMarks spell element).length ≤ bound →
      Reads (Between ')') (readParamEntry g) (dotsMarks ++ typeMarks spell element)
        (EntryDenotes scope importer file (reread means element, true))) :
    ∃ us, Entries scope importer file g (paramMarks spell dots params) us
      ∧ us.map paramType = params.map (reread means) ∧ us.any (·.2) = dots := by
  induction params with
  | nil =>
      -- without parameters there is none that could have dots
      have plain : dots = false := by
        cases dots with
        | false => rfl
        | true =>
            obtain ⟨element, e⟩ := hl rfl
            cases e
      refine ⟨[], ?_, rfl, plain.symm⟩
      rw [paramMarks, List.map_nil, TypeForm.paramPieces]
      exact List.Forall₂.nil
  | cons p rest ih =>
      cases rest with
      | nil =>
          cases dots with
          | false =>
              rw [paramMarks_last] at hb ⊢
              have read := hp p List.mem_cons_self (hb _ List.mem_cons_self)
              exact ⟨[(reread means p, false)], List.Forall₂.cons read List.Forall₂.nil, rfl, rfl⟩
          | true =>
              obtain ⟨element, e⟩ := hl rfl
              obtain rfl : p = .slice element := Option.some.inj e
              rw [paramMarks_dots] at hb ⊢
              have short := hb _ List.mem_cons_self
              rw [List.length_append] at short
              have read := hs element List.mem_cons_self (by omega)
              exact ⟨[(reread means element, true)], List.Forall₂.cons read List.Forall₂.nil, rfl,
                rfl⟩
      | cons next rest =>
          rw [paramMarks_cons] at hb ⊢
          have read := hp p List.mem_cons_self (hb _ List.mem_cons_self)
          obtain ⟨us, entries, types, any⟩ := ih
            (fun h => by rw [← List.getLast?_cons_cons (a := p)]; exact hl h)
            (fun ms hm => hb ms (List.mem_cons_of_mem _ hm))
            (fun q hq => hp q (List.mem_cons_of_mem p hq))
            fun element he => hs element (List.mem_cons_of_mem p he)
          refine ⟨(reread means p, false) :: us, List.Forall₂.cons read entries, ?_, ?_⟩
          · rw [List.map_cons, types]
            rfl
          · rw [List.any_cons, any]
            rfl

theorem marksOf_parenPieces (ps : List Piece) :
    marksOf (parenPieces ps) = parenMarks (marksOf ps) := by
  simp [parenPieces, parenMarks, Piece.marks]

variable (spell) in
/-- The tokens of the results of a function. -/
def resultMarks (results : List DeclaredType) : List Mark :=
  marksOf (resultsPieces (results.map fun r => (r.mapNames spell).pieces))

variable (spell) in
/-- Results in parentheses are written as a list of types. -/
theorem resultMarks_cases (results : List DeclaredType) :
    (∃ r, results = [r] ∧ resultMarks spell results = typeMarks spell r) ∨ results = []
      ∨ resultMarks spell results = parenMarks (commaMarks (results.map (typeMarks spell))) := by
  match results with
  | [] => exact Or.inr (Or.inl rfl)
  | [r] =>
      rw [resultMarks, List.map_cons, List.map_nil, resultsPieces, marksOf_cons]
      split
      · right
        right
        rw [marksOf_parenPieces, List.map_cons, List.map_nil, commaMarks, tailMarks,
          List.flatMap_nil, List.append_nil]
        rfl
      · exact Or.inl ⟨r, rfl, rfl⟩
  | r :: s :: rest =>
      right
      right
      have several : resultsPieces ((r :: s :: rest).map fun r => (r.mapNames spell).pieces)
          = .blank :: parenPieces
            (commaPieces ((r :: s :: rest).map fun r => (r.mapNames spell).pieces)) := rfl
      rw [resultMarks, several, marksOf_cons, marksOf_parenPieces, marksOf_commaPieces,
        List.map_map]
      rfl

theorem typeMarks_ne_paren {t : DeclaredType} (h : Readable scope importer file spell means t) :
    ∃ m ms, typeMarks spell t = m :: ms ∧ m.1 ≠ .symbol '(' := by
  rcases bare_or_compound h with ⟨name, text, rfl, hs⟩ | compound
  · refine ⟨(.word text, false), [], ?_, by simp⟩
    show marksOf (TypeForm.pieces (.named (spell name))) = _
    rw [TypeForm.pieces, hs]
    rfl
  · generalize typeMarks spell t = ms at compound
    cases compound with
    | operator hc =>
        refine ⟨_, _, rfl, ?_⟩
        rw [ne_eq, Lexeme.symbol.injEq]
        rintro rfl
        exact absurd hc (by decide)
    | typeWord _ => exact ⟨_, _, rfl, by simp⟩
    | applied _ => exact ⟨_, _, rfl, by simp⟩
    | qualified _ => exact ⟨_, _, rfl, by simp⟩

theorem reads_results (limit depth : Nat) (endsLine : Bool) {results : List DeclaredType}
    (h : ∀ r ∈ results, Readable scope importer file spell means r)
    (hr : ∀ r ∈ results, ReadsBack scope importer file spell means r)
    (hl : (resultMarks spell results).length ≤ limit)
    (hd : (resultMarks spell results).length ≤ depth + 1) :
    Reads Closing (readResults (grammar limit (depth + 1)) endsLine) (resultMarks spell results)
      (ResultsDenote scope importer file (results.map (reread means))) := by
  rcases resultMarks_cases spell results with ⟨r, rfl, marks⟩ | rfl | marks
  · rw [marks] at hl hd ⊢
    obtain ⟨m, ms, hm, ne⟩ := typeMarks_ne_paren (h r List.mem_cons_self)
    have read := (hr r List.mem_cons_self limit (depth + 1) endsLine hl hd).1
    rw [hm] at read ⊢
    exact reads_results_single ne read
  · exact reads_results_nil (level_grammar limit depth)
  · rw [marks] at hl hd ⊢
    rw [parenMarks, List.length_cons, List.length_append, List.length_singleton] at hl hd
    obtain ⟨count, inside⟩ := length_le_commaMarks (results.map (typeMarks spell))
    have entries : Entries scope importer file (grammar limit (depth + 1))
        (results.map (typeMarks spell)) (results.map fun r => (reread means r, false)) := by
      rw [Entries, List.forall₂_map_left_iff, List.forall₂_map_right_iff, List.forall₂_same]
      intro r hm
      have short := inside _ (List.mem_map_of_mem hm)
      exact entry_of_readsBack (h r hm) (hr r hm) (by omega) (by omega)
    have read := reads_results_paren endsLine (level_grammar limit depth) entries
      (by rw [limit_grammar]; omega)
    rw [List.map_map] at read
    exact read

theorem typeMarks_function (params results : List DeclaredType) (variadic : Bool) :
    typeMarks spell (.function params results variadic)
      = (.word "func", false) :: (parenMarks (commaMarks (paramMarks spell variadic params))
        ++ resultMarks spell results) := by
  show marksOf (TypeForm.pieces (.function (TypeForm.mapNamesAll spell params)
    (TypeForm.mapNamesAll spell results) variadic)) = _
  rw [TypeForm.pieces, TypeForm.mapNamesAll_eq_map, TypeForm.mapNamesAll_eq_map,
    TypeForm.piecesOfAll_eq_map, List.map_map, marksOf_cons, marksOf_append,
    marksOf_parenPieces, marksOf_commaPieces]
  rfl

theorem readsBack_function {params results : List DeclaredType} {variadic : Bool}
    (h : Readable scope importer file spell means (.function params results variadic))
    (hp : ∀ p ∈ params, ReadsBack scope importer file spell means p)
    (hs : ∀ element, .slice element ∈ params → ReadsBack scope importer file spell means element)
    (hr : ∀ r ∈ results, ReadsBack scope importer file spell means r) :
    ReadsBack scope importer file spell means (.function params results variadic) := by
  -- regrouping and renaming go through parameters and results
  have reads : reread means (.function params results variadic)
      = .function (params.map (reread means)) (results.map (reread means)) variadic := by
    show TypeForm.function (TypeForm.regroupAll (TypeForm.mapNamesAll means params))
      (TypeForm.regroupAll (TypeForm.mapNamesAll means results)) variadic = _
    rw [TypeForm.regroupAll_eq_map, TypeForm.mapNamesAll_eq_map, List.map_map,
      TypeForm.regroupAll_eq_map, TypeForm.mapNamesAll_eq_map, List.map_map]
    rfl
  refine readsBack_of_level (typeMarks_function params results variadic)
    fun limit depth endsLine hl hd => ⟨?_, ?_⟩
  · simp only [List.length_cons, List.length_append, parenMarks, List.length_nil] at hl hd
    obtain ⟨depth, rfl⟩ : ∃ n, depth = n + 1 := ⟨depth - 1, by omega⟩
    obtain ⟨count, inside⟩ := length_le_commaMarks (paramMarks spell variadic params)
    -- each parameter is no longer than the whole list, which bounds the nesting it needs
    obtain ⟨us, entries, types, any⟩ := entries_params (g := grammar limit (depth + 1))
      (h _ (TypeForm.mem_parts_self _)) inside
      (fun p hm short => entry_of_readsBack
        (fun q hq => h q (TypeForm.mem_parts_of_param hm hq)) (hp p hm) (by omega) (by omega))
      fun element hm short => entry_repeated
        ((hs element hm limit (depth + 1) false (by omega) (by omega)).1.weaken
          fun _ hr => hr.closing)
    have readResults := reads_results limit depth endsLine
      (fun r hm q hq => h q (TypeForm.mem_parts_of_result hm hq)) hr (by omega) (by omega)
    have read := reads_function endsLine (level_grammar limit depth) entries
      (by rw [limit_grammar]; omega) readResults
    rw [types, any] at read
    rw [reads]
    exact read
  · exact readsArrow_of_ne (by decide) fun inner e => by rw [reads] at e; cases e

/-! ### All types -/

/-- A type is read with its arrows regrouped and its names replaced by what they stand for. -/
theorem readsBack {t : DeclaredType} (h : Readable scope importer file spell means t) :
    ReadsBack scope importer file spell means t := by
  induction t using TypeForm.induction with
  | named name => exact readsBack_named (h _ (TypeForm.mem_parts_self _))
  | pointer element ih =>
      exact readsBack_pointer (ih fun p hp => h p (by simp [TypeForm.parts, hp]))
  | slice element ih =>
      exact readsBack_slice (ih fun p hp => h p (by simp [TypeForm.parts, hp]))
  | array length element ih =>
      exact readsBack_array (ih fun p hp => h p (by simp [TypeForm.parts, hp]))
  | map key value ihk ihv =>
      exact readsBack_map (ihk fun p hp => h p (by simp [TypeForm.parts, hp]))
        (ihv fun p hp => h p (by simp [TypeForm.parts, hp]))
  | channel direction element ih =>
      have inside := ih fun p hp => h p (by simp [TypeForm.parts, hp])
      cases direction with
      | both => exact readsBack_both inside
      | send => exact readsBack_send inside
      | receive => exact readsBack_receive inside
  | function params results variadic ihp ihs ihr =>
      exact readsBack_function h
        (fun p hp => ihp p hp fun q hq => h q (TypeForm.mem_parts_of_param hp hq))
        (fun e he => ihs e he fun q hq => h q (TypeForm.mem_parts_of_slice_param he hq))
        fun r hr => ihr r hr fun q hq => h q (TypeForm.mem_parts_of_result hr hq)
  | applied base arguments ihb iha =>
      obtain ⟨⟨name, rfl⟩, some'⟩ := h _ (TypeForm.mem_parts_self _)
      have named := h _ (TypeForm.mem_parts_of_base (TypeForm.mem_parts_self _))
      exact readsBack_applied named some'
        fun a ha => iha a ha fun q hq => h q (TypeForm.mem_parts_of_argument ha hq)
  | emptyInterface => exact readsBack_emptyInterface
  | emptyStruct => exact readsBack_emptyStruct

end WrapperGen
