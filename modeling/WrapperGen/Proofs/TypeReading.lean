import WrapperGen.Check.Types
import WrapperGen.Proofs.TokenReading
import WrapperGen.Proofs.TypePieces

/-!
# Reading types

What the grammar makes of the tokens of a type, one constructor at a time.  Each lemma takes what
the readers of the next level of nesting do with the parts and says what the reader of this level
does with the whole.

## Main definitions

* `Denotes`: an expression stands for a type.
* `Level`: what all readers of nested constructs have in common.
* `NameDenotes`: a name as it is written stands for a declared one.

## Main results

* `reads_pointer`, `reads_slice`, `reads_array`, `reads_map`, `reads_chan`, `reads_applied`, …:
  the constructors.
* `reads_chan_arrow`, `reads_receiver`, `fails_arrow`: to which channel an arrow belongs.
-/

namespace WrapperGen

open Source Reading

variable (scope : PackageScope) (importer : Importer) (file : SourceFile)

/-- An expression stands for a type. -/
def Denotes (type : DeclaredType) (e : TypeExpr) : Prop :=
  declaredType scope importer file e = pure type

variable {scope importer file}

/-! ### One level of nesting -/

/-- What the readers of nested constructs have in common: a type needs a token to begin with, and
an integer in front of a bracket is a length. -/
structure Level (g : Grammar) : Prop where
  /-- No type begins where something is closed. -/
  stops : ∀ endsLine, Fails Closing (g.type endsLine) []
  /-- An integer in brackets is read as the expression that it is. -/
  reads_integer : ∀ text, Reads (Shut ']') (g.expr Mode.inner) [(.integer text, false)]
    fun o => o.isExpr = true ∧ ∃ span, o.expr = .integer span text

variable {α β : Type} {g : Grammar} {endsLine : Bool} {ms ns : List Mark} {u v : DeclaredType}

theorem peek_cons (t : Token) (rest : List Token) : peek false (t :: rest) = some (t, t :: rest) :=
  rfl

/-! ### Prefixes -/

theorem readType_of_star {t : Token} (h : t.lexeme = .symbol '*') (rest : List Token) :
    readType g endsLine (t :: rest) = (do
      let start ← symbol false '*'
      let element ← g.type endsLine
      pure (.pointer (start.upTo element.span) element) : Reader TypeExpr) (t :: rest) := by
  rw [readType, bind_of_some (peek_cons t rest), h]
  rfl

theorem readType_of_paren {t : Token} (h : t.lexeme = .symbol '(') (rest : List Token) :
    readType g endsLine (t :: rest) = (do
      let start ← symbol false '('
      let inner ← g.type false
      let close ← symbol false ')'
      pure (.paren (start.upTo close) inner) : Reader TypeExpr) (t :: rest) := by
  rw [readType, bind_of_some (peek_cons t rest), h]
  rfl

theorem readType_of_bracket {t : Token} (h : t.lexeme = .symbol '[') (rest : List Token) :
    readType g endsLine (t :: rest) = readBracketType g endsLine (t :: rest) := by
  rw [readType, bind_of_some (peek_cons t rest), h]
  rfl

theorem readType_of_less {t : Token} (h : t.lexeme = .symbol '<') (rest : List Token) :
    readType g endsLine (t :: rest) = readReceiver g endsLine (t :: rest) := by
  rw [readType, bind_of_some (peek_cons t rest), h]
  rfl

theorem readType_of_word {t : Token} {text : String} (h : t.lexeme = .word text)
    (rest : List Token) :
    readType g endsLine (t :: rest) = readWordType g endsLine (t :: rest) := by
  rw [readType, bind_of_some (peek_cons t rest), h]

theorem reads_pointer (h : Reads Closing (g.type endsLine) ms (Denotes scope importer file u)) :
    Reads Closing (readType g endsLine) ((.symbol '*', false) :: ms)
      (Denotes scope importer file (.pointer u)) := by
  refine Reads.byLexeme (fun t rest ht => readType_of_star ht rest) ?_
  refine (reads_symbol false '*' false).andThen fun start _ => h.finish fun e he => ?_
  rw [Denotes, declaredType, he]
  rfl

theorem reads_paren (h : Reads (Shut ')') (g.type false) ms (Denotes scope importer file u)) :
    Reads Closing (readType g endsLine)
      ((.symbol '(', false) :: (ms ++ [(.symbol ')', false)]))
      (Denotes scope importer file u) := by
  refine Reads.byLexeme (fun t rest ht => readType_of_paren ht rest) ?_
  refine (reads_symbol false '(' false).andThen fun start _ => h.bind (fun e he => ?_) ?_
  · refine ((reads_symbol false ')' false).weaken fun _ _ => trivial).finish fun close _ => ?_
    rw [Denotes, declaredType]
    exact he
  · exact fun ts rest hts _ => shut_of_spelled (by decide) hts

theorem reads_slice (h : Reads Closing (g.type endsLine) ms (Denotes scope importer file u)) :
    Reads Closing (readType g endsLine) ((.symbol '[', false) :: (.symbol ']', true) :: ms)
      (Denotes scope importer file (.slice u)) := by
  refine Reads.byLexeme (fun t rest ht => readType_of_bracket ht rest) ?_
  refine (reads_symbol false '[' false).andThen fun start _ => Reads.orElse_left ?_
  refine (reads_symbol false ']' true).andThen fun _ _ => h.finish fun e he => ?_
  rw [Denotes, declaredType, he]
  rfl

theorem lengthValue_toString (span : Span) (n : UInt64) :
    lengthValue scope importer file (.integer span (toString n.toNat)) = pure n := by
  have value : integerValue? (toString n.toNat) = some n.toNat := integerValue?_toString n.toNat_lt
  rw [lengthValue, constantValue, value]
  show (if _ then _ else _ : Check UInt64) = _
  rw [if_pos (by simpa using n.toNat_lt)]
  simp

theorem reads_array (level : Level g) (n : UInt64)
    (h : Reads Closing (g.type endsLine) ms (Denotes scope importer file u)) :
    Reads Closing (readType g endsLine)
      ((.symbol '[', false) :: (.integer (toString n.toNat), false) :: (.symbol ']', false) :: ms)
      (Denotes scope importer file (.array n u)) := by
  refine Reads.byLexeme (fun t rest ht => readType_of_bracket ht rest) ?_
  -- slices are tried first, and need the closing bracket at once
  refine (reads_symbol false '[' false).andThen fun start _ => Reads.orElse_right ?_ ?_
  · refine Fails.bind_left (Fails.ofLexeme fun t rest ht => symbol_of_ne ?_ rest)
    rw [ht]
    exact fun e => by cases e
  · refine (level.reads_integer _).bind_cons (fun o ho => ?_) ?_
    · obtain ⟨isExpr, span, expr⟩ := ho
      intro ts rest hts hr
      rw [bind_of_some (require_of_true isExpr (ts ++ rest)), expr]
      refine Reads.andThen (reads_symbol false ']' false) (fun _ _ => h.finish fun e he => ?_)
        ts rest hts hr
      rw [Denotes, declaredType, lengthValue_toString, he]
      rfl
    · exact fun ts rest hts _ => shut_of_spelled (by decide) hts

/-! ### Words -/

/-- A type that begins with a word is read behind the word, by the reader for that word. -/
theorem reads_byWord {text : String} {p : Span → Reader TypeExpr} {good : TypeExpr → Prop}
    (hp : ∀ span, Reads Closing (p span) ms good)
    (h : ∀ span, (if text == "struct" then readStruct g span
      else if text == "interface" then readInterface g span
      else if text == "map" then readMap g endsLine span
      else if text == "chan" then readChannel g endsLine span
      else if text == "func" then readFunctionType g endsLine span
      else readNamed g endsLine text span) = p span) :
    Reads Closing (readType g endsLine) ((.word text, false) :: ms) good := by
  refine Reads.byLexeme (fun t rest ht => readType_of_word ht rest) ?_
  refine (reads_word false text).andThen ?_
  rintro ⟨found, span⟩ rfl
  show Reads Closing (if found == "struct" then readStruct g span
      else if found == "interface" then readInterface g span
      else if found == "map" then readMap g endsLine span
      else if found == "chan" then readChannel g endsLine span
      else if found == "func" then readFunctionType g endsLine span
      else readNamed g endsLine found span) ms good
  rw [h span]
  exact hp span

theorem reads_map {mv : List Mark}
    (hk : Reads (Shut ']') (g.type false) ms (Denotes scope importer file u))
    (hv : Reads Closing (g.type endsLine) mv (Denotes scope importer file v)) :
    Reads Closing (readType g endsLine)
      ((.word "map", false) :: (.symbol '[', false) :: (ms ++ (.symbol ']', false) :: mv))
      (Denotes scope importer file (.map u v)) := by
  refine reads_byWord (p := readMap g endsLine) (fun span => ?_) fun span => rfl
  refine (reads_symbol false '[' false).andThen fun _ _ => hk.bind (fun key hkey => ?_) ?_
  · refine (reads_symbol false ']' false).andThen fun _ _ => hv.finish fun value hvalue => ?_
    rw [Denotes, declaredType, hkey, hvalue]
    rfl
  · exact fun ts rest hts _ => shut_of_spelled (by decide) hts

theorem plainWord_of_closing (endsLine : Bool) {rest : List Token} (h : Closing rest) :
    plainWord endsLine rest = none := bind_of_none (word_of_closing h)

/-- Empty braces are read as such, whatever else may stand between braces. -/
theorem reads_braces {p : Reader α} {limit : Nat} (hp : Fails Closing p []) {good : β → Prop}
    {f : Span → List α → Span → β} (h : ∀ start close, good (f start [] close)) :
    Reads Closing (do
      let start ← symbol false '{'
      let values ← terminatedList limit p
      let close ← symbol false '}'
      pure (f start values close)) [(.symbol '{', false), (.symbol '}', true)] good := by
  refine (reads_symbol false '{' false).andThen fun start _ => ?_
  refine (reads_terminatedList_nil hp).bind (fun values none' => ?_) ?_
  · refine ((reads_symbol false '}' true).weaken fun _ _ => trivial).finish fun close _ => ?_
    rw [none']
    exact h start close
  · intro ts rest hts _
    obtain ⟨t, us, ht, -, rfl⟩ := List.forall₂_cons_left_iff.1 hts
    intro u hu
    rw [← Option.some.inj hu]
    exact ⟨'}', by decide, ht.1⟩

theorem reads_emptyInterface (level : Level g) :
    Reads Closing (readType g endsLine)
      [(.word "interface", false), (.symbol '{', false), (.symbol '}', true)]
      (Denotes scope importer file .emptyInterface) := by
  refine reads_byWord (p := readInterface g) (fun span => ?_) fun span => rfl
  refine reads_braces (f := fun _ elements close => TypeExpr.interface (span.upTo close) elements)
    (Fails.orElse ?_ (Fails.bind_left (level.stops true).bind_left)) fun _ _ => ?_
  · intro ts rest hts hr
    rw [List.forall₂_nil_left_iff.1 hts]
    exact bind_of_none (plainWord_of_closing _ hr)
  · rw [Denotes, declaredType]
    rfl

theorem reads_emptyStruct :
    Reads Closing (readType g endsLine)
      [(.word "struct", false), (.symbol '{', false), (.symbol '}', true)]
      (Denotes scope importer file .emptyStruct) := by
  refine reads_byWord (p := readStruct g) (fun span => ?_) fun span => rfl
  refine reads_braces (f := fun _ fields close => TypeExpr.struct (span.upTo close) !fields.isEmpty)
    (Fails.bind_left ?_) fun _ _ => ?_
  · intro ts rest hts hr
    rw [List.forall₂_nil_left_iff.1 hts]
    refine (orElse_of_none (bind_of_none (symbol_of_closing hr (by decide)))).trans ?_
    refine (orElse_of_none (bind_of_none (bind_of_none (word_of_closing hr)))).trans ?_
    exact bind_of_none (word_of_closing hr)
  · rw [Denotes, declaredType]
    rfl

/-! ### Channels -/

/-- The tokens of an arrow. -/
def arrowMarks : List Mark := [(.symbol '<', false), (.symbol '-', true)]

theorem reads_arrow : Reads Anything (operator endsLine ['<', '-']) arrowMarks fun _ => True :=
  reads_operator endsLine '<' ['-']

/-- Behind its word, a channel has what follows as its element if that can be read as a type. -/
theorem reads_chan (h : Reads Closing (g.type endsLine) ms (Denotes scope importer file u)) :
    Reads Closing (readType g endsLine) ((.word "chan", false) :: ms)
      (Denotes scope importer file (.channel .both u)) := by
  refine reads_byWord (p := readChannel g endsLine) (fun span => ?_) fun span => rfl
  -- the element is tried before the arrow, so an arrow goes to the element if it can
  refine Reads.orElse_left (h.finish fun e he => ?_)
  rw [Denotes, declaredType, he]
  rfl

/-- An arrow behind the word belongs to the channel if it cannot belong to the element. -/
theorem reads_chan_arrow (hf : Fails Closing (g.type endsLine) (arrowMarks ++ ms))
    (h : Reads Closing (g.type endsLine) ms (Denotes scope importer file u)) :
    Reads Closing (readType g endsLine) ((.word "chan", false) :: (arrowMarks ++ ms))
      (Denotes scope importer file (.channel .send u)) := by
  refine reads_byWord (p := readChannel g endsLine) (fun span => ?_) fun span => rfl
  -- only where no element can be read from the arrow on is it taken off first
  refine Reads.orElse_right hf.bind_left (reads_arrow.andThen fun _ _ => h.finish fun e he => ?_)
  rw [Denotes, declaredType, he]
  rfl

theorem reads_receiver (h : Reads Closing (g.type endsLine) ms (Denotes scope importer file u)) :
    Reads Closing (readType g endsLine) (arrowMarks ++ (.word "chan", false) :: ms)
      (Denotes scope importer file (.channel .receive u)) := by
  refine Reads.byLexeme (fun t rest ht => readType_of_less ht rest) ?_
  refine reads_arrow.andThen fun start _ => (reads_keyword false "chan").andThen fun _ _ => ?_
  refine h.finish fun e he => ?_
  rw [Denotes, declaredType, he]
  rfl

theorem fails_receiver (h : Fails Closing (g.type endsLine) ms) :
    Fails Closing (readType g endsLine) (arrowMarks ++ (.word "chan", false) :: ms) := by
  refine Fails.byLexeme (fun t rest ht => readType_of_less ht rest) ?_
  refine Fails.andThen reads_arrow fun start _ => ?_
  exact Fails.andThen (reads_keyword false "chan") fun _ _ => h.bind_left

/-- An arrow needs the word for channels behind it. -/
theorem fails_arrow {m : Mark} (h : m.1 ≠ .word "chan") :
    Fails Closing (readType g endsLine) (arrowMarks ++ m :: ms) := by
  refine Fails.byLexeme (fun t rest ht => readType_of_less ht rest) ?_
  refine Fails.andThen reads_arrow fun start _ => Fails.bind_left ?_
  exact Fails.ofLexeme fun t rest ht => keyword_of_ne (by rwa [ht]) rest

/-! ### Names -/

variable (scope importer file) in
/-- A name as it is written stands for a declared one. -/
def NameDenotes (type : DeclaredName) : NameForm → Prop
  | .bare name => ∀ span, bareName scope file span name = pure (.named type)
  | .behind qualifier name =>
      ∀ span, qualifiedTypeName importer file span qualifier name = pure (.named type)

theorem ne_typeWord {text : String} (h : isFreeName text = true) :
    ∀ w ∈ typeWords, text ≠ w := by
  have reserved : ∀ w ∈ typeWords, isFreeName w = false := by decide
  rintro w hw rfl
  rw [reserved text hw] at h
  cases h

theorem byWord_of_isFreeName {text : String} (h : isFreeName text = true) (span : Span) :
    (if text == "struct" then readStruct g span
      else if text == "interface" then readInterface g span
      else if text == "map" then readMap g endsLine span
      else if text == "chan" then readChannel g endsLine span
      else if text == "func" then readFunctionType g endsLine span
      else readNamed g endsLine text span) = readNamed g endsLine text span := by
  have ne := ne_typeWord h
  have h1 := ne "struct" (by decide)
  have h2 := ne "interface" (by decide)
  have h3 := ne "map" (by decide)
  have h4 := ne "chan" (by decide)
  have h5 := ne "func" (by decide)
  simp [h1, h2, h3, h4, h5]

/-- A name is read up to where its arguments may begin. -/
theorem reads_name {name : NameForm} {type : DeclaredName} {good : TypeExpr → Prop}
    (hn : name.isPlain = true) (hd : NameDenotes scope importer file type name)
    (apart : Fails Closing (readMember endsLine) ms)
    (h : ∀ base, Denotes scope importer file (.named type) base →
      Reads Closing (readApplied g endsLine base) ms good) :
    Reads Closing (readType g endsLine) (marksOf name.pieces ++ ms) good := by
  cases name with
  | bare name =>
      refine reads_byWord (p := readNamed g endsLine name) (fun span => ?_)
        (byWord_of_isFreeName hn)
      intro ts rest hts hr
      rw [readNamed, bind_of_some (maybe_of_none (apart ts rest hts hr))]
      refine h (.name span name) ?_ ts rest hts hr
      rw [Denotes, declaredType]
      exact hd span
  | behind qualifier name =>
      have free : isFreeName qualifier = true := ((Bool.and_eq_true _ _).mp hn).1
      show Reads Closing (readType g endsLine)
        ((.word qualifier, false) :: (.symbol '.', false) :: (.word name, false) :: ms) good
      refine reads_byWord (p := readNamed g endsLine qualifier) (fun span => ?_)
        (byWord_of_isFreeName free)
      -- the point and the name behind it are one member, read before any arguments
      have member : Reads Anything (readMember endsLine)
          [(.symbol '.', false), (.word name, false)] fun found => found.1 = name :=
        (reads_symbol endsLine '.' false).andThen fun _ _ => reads_word false name
      refine member.maybe.andThen ?_
      rintro found ⟨⟨text, stop⟩, rfl, rfl⟩
      refine h (.qualified (span.upTo stop) qualifier text) ?_
      rw [Denotes, declaredType]
      exact hd _

theorem fails_member_nil : Fails Closing (readMember endsLine) [] := by
  intro ts rest hts hr
  rw [List.forall₂_nil_left_iff.1 hts]
  exact bind_of_none (symbol_of_closing hr (by decide))

theorem reads_plain {name : NameForm} {type : DeclaredName} (hn : name.isPlain = true)
    (hd : NameDenotes scope importer file type name) :
    Reads Closing (readType g endsLine) (marksOf name.pieces)
      (Denotes scope importer file (.named type)) := by
  rw [← List.append_nil (marksOf name.pieces)]
  refine reads_name hn hd fails_member_nil fun base hb => ?_
  intro ts rest hts hr
  rw [List.forall₂_nil_left_iff.1 hts]
  have none' : readTypeArguments g endsLine rest = none :=
    bind_of_none (symbol_of_closing hr (by decide))
  refine ⟨base, ?_, hb⟩
  show readApplied g endsLine base rest = _
  rw [readApplied, bind_of_some (maybe_of_none none')]
  rfl

/-! ### Arguments -/

/-- A type alone is read as a union of one term. -/
theorem reads_union {c : Char}
    (h : Reads (Between c) (g.type false) ms (Denotes scope importer file u)) :
    Reads (Between c) (readUnion g false) ms
      fun elem => declaredArgument scope importer file elem = pure u := by
  intro ts rest hts hr
  obtain ⟨e, he, denotes⟩ := h ts rest hts hr
  have none' : (do
      let _ ← symbol false '|'
      g.type false : Reader TypeExpr) rest = none :=
    bind_of_none (symbol_of_closing hr.closing (by decide))
  refine ⟨.mk (e.span.upTo e.span) [e], ?_, ?_⟩
  · rw [readUnion, bind_of_some he, bind_of_some (many_of_none none' g.limit)]
    rfl
  · show declaredArgument scope importer file (.mk _ [e]) = _
    rw [declaredArgument]
    exact denotes

theorem declaredArguments_of_forall₂ {us : List DeclaredType} {elems : List TypeElem}
    (h : List.Forall₂ (fun u elem => declaredArgument scope importer file elem = pure u) us elems) :
    declaredArguments scope importer file elems = pure us := by
  induction h with
  | nil => rw [declaredArguments]
  | cons here _ ih =>
      rw [declaredArguments, here, ih]
      rfl

section Lists

variable {mss : List (List Mark)} {us : List DeclaredType}

theorem reads_typeArguments
    (h : List.Forall₂ (fun ms u =>
      Reads (Between ']') (g.type false) ms (Denotes scope importer file u)) mss us)
    (some' : mss ≠ []) (hl : mss.length ≤ g.limit) :
    Reads Closing (readTypeArguments g endsLine)
      ((.symbol '[', false) :: (commaMarks mss ++ [(.symbol ']', false)]))
      fun found => declaredArguments scope importer file found.1 = pure us := by
  have unions := List.Forall₂.imp (fun ms u hu => reads_union hu) h
  refine (reads_symbol endsLine '[' false).andThen fun _ _ => ?_
  cases unions with
  | nil => exact absurd rfl some'
  | cons here there =>
      have list := reads_commaList false here there (Nat.le_of_succ_le hl)
      refine list.bind (fun elems helems => ?_) fun ts rest hts _ => shut_of_spelled (by decide) hts
      refine (reads_noComma (c := ']')).bind_nil (fun _ _ => ?_)
        fun ts rest hts _ => shut_of_spelled (by decide) hts
      refine ((reads_symbol false ']' false).weaken fun _ _ => trivial).finish fun close _ => ?_
      exact declaredArguments_of_forall₂ helems

theorem reads_applied {name : NameForm} {type : DeclaredName} (hn : name.isPlain = true)
    (hd : NameDenotes scope importer file type name)
    (h : List.Forall₂ (fun ms u =>
      Reads (Between ']') (g.type false) ms (Denotes scope importer file u)) mss us)
    (some' : mss ≠ []) (hl : mss.length ≤ g.limit) :
    Reads Closing (readType g endsLine)
      (marksOf name.pieces ++ (.symbol '[', false) :: (commaMarks mss ++ [(.symbol ']', false)]))
      (Denotes scope importer file (.applied (.named type) us)) := by
  refine reads_name hn hd ?_ fun base hb => ?_
  · refine Fails.bind_left (Fails.ofLexeme fun t rest ht => symbol_of_ne ?_ rest)
    rw [ht]
    exact fun e => by cases e
  · intro ts rest hts hr
    obtain ⟨found, hf, arguments⟩ := reads_typeArguments h some' hl ts rest hts hr
    refine ⟨.generic (base.span.upTo found.2) base found.1, ?_, ?_⟩
    · rw [readApplied, bind_of_some (maybe_of_some hf)]
      rfl
    · rw [Denotes, declaredType, hb, arguments]
      rfl

end Lists

end WrapperGen
