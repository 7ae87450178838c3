import WrapperGen.Proofs.TypeReading

/-!
# Reading signatures

Parameters may have names, so a name in a parameter list is a type only if no type follows it.
The generated code names no parameter of a function type: each entry is a type, and the last one
may have dots in front.

## Main definitions

* `EntryDenotes`: an entry of a parameter list stands for a type, which may be repeated.
* `Compound`: the tokens of a type that is no name alone.
* `Entries`: the tokens of all entries of a parameter list.

## Main results

* `entry_bare`, `entry_unnamed`, `entry_repeated`: single entries.
* `reads_params`, `reads_results_nil`, `reads_results_single`, `reads_results_paren`: the parts of
  a signature.
* `reads_function`: function types.
-/

namespace WrapperGen

open Source Reading

variable {scope : PackageScope} {importer : Importer} {file : SourceFile} {g : Grammar}
  {endsLine : Bool} {ms ns : List Mark} {u : DeclaredType}

/-! ### Parameters -/

variable (scope importer file) in
/-- An entry of a parameter list stands for a type and says whether it is repeated. -/
def EntryDenotes (u : DeclaredType × Bool) : ParamEntry → Prop
  | .bare span name => u.2 = false ∧ Denotes scope importer file u.1 (.name span name)
  | .named _ => False
  | .unnamed type => u.2 = false ∧ Denotes scope importer file u.1 type
  | .repeated type => u.2 = true ∧ Denotes scope importer file u.1 type

/-- The type of a parameter, inside of the function. -/
def paramType (u : DeclaredType × Bool) : DeclaredType := if u.2 then .slice u.1 else u.1

theorem declaredParams_bareParams {pending : List (Span × String)} {ps : List DeclaredType}
    (h : List.Forall₂ (fun u (p : Span × String) =>
      Denotes scope importer file u (.name p.1 p.2)) ps pending)
    {params : List Param} {us : List DeclaredType} {variadic : Bool}
    (hr : declaredParams scope importer file params = pure (us, variadic)) :
    declaredParams scope importer file (pending.map bareParam ++ params)
      = pure (ps ++ us, variadic) := by
  induction h with
  | nil => exact hr
  | cons here _ ih =>
      rw [List.map_cons, List.cons_append, bareParam, declaredParams, here, ih]
      rfl

/-- Without named entries, each entry of a list is a parameter of its own. -/
theorem declaredParams_groupParams {us : List (DeclaredType × Bool)} {entries : List ParamEntry}
    (h : List.Forall₂ (EntryDenotes scope importer file) us entries)
    {pending : List (Span × String)} {ps : List DeclaredType}
    (hp : List.Forall₂ (fun u (p : Span × String) =>
      Denotes scope importer file u (.name p.1 p.2)) ps pending) :
    declaredParams scope importer file (groupParams pending entries)
      = pure (ps ++ us.map paramType, us.any (·.2)) := by
  induction h generalizing pending ps with
  | nil =>
      have none' : declaredParams scope importer file [] = pure ([], false) := by
        rw [declaredParams]
      have := declaredParams_bareParams hp none'
      rwa [List.append_nil] at this
  | @cons u entry us entries here _ ih =>
      obtain ⟨type, dots⟩ := u
      cases entry with
      | bare span name =>
          obtain ⟨rfl, denotes⟩ := here
          -- a bare name waits for what comes behind it: it may turn out to be a parameter name
          have more : List.Forall₂ (fun u (p : Span × String) =>
              Denotes scope importer file u (.name p.1 p.2))
              (ps ++ [type]) (pending ++ [(span, name)]) :=
            List.rel_append hp (List.Forall₂.cons denotes List.Forall₂.nil)
          rw [groupParams, ih more]
          simp [paramType]
      | named e => exact here.elim
      | unnamed e =>
          obtain ⟨rfl, denotes⟩ := here
          have rest := ih List.Forall₂.nil
          rw [groupParams]
          have last : declaredParams scope importer file (.mk 0 e false :: groupParams [] entries)
              = pure (type :: us.map paramType, us.any (·.2)) := by
            rw [declaredParams, denotes, rest]
            rfl
          rw [declaredParams_bareParams hp last]
          simp [paramType]
      | repeated e =>
          obtain ⟨rfl, denotes⟩ := here
          have rest := ih List.Forall₂.nil
          rw [groupParams]
          have last : declaredParams scope importer file (.mk 0 e true :: groupParams [] entries)
              = pure (.slice type :: us.map paramType, true) := by
            rw [declaredParams, denotes, rest]
            rfl
          rw [declaredParams_bareParams hp last]
          simp [paramType]

/-- The tokens of a type that is no name alone. -/
inductive Compound : List Mark → Prop
  /-- It begins with an operator. -/
  | operator {c : Char} {joined : Bool} {ms : List Mark} (h : c ∈ typeStarts) :
      Compound ((.symbol c, joined) :: ms)
  /-- It begins with a word for types. -/
  | typeWord {text : String} {ms : List Mark} (h : text ∈ typeWords) :
      Compound ((.word text, false) :: ms)
  /-- It begins with a name that has arguments. -/
  | applied {text : String} {ms : List Mark} (h : text ∉ typeWords) :
      Compound ((.word text, false) :: (.symbol '[', false) :: ms)
  /-- It begins with a name behind a qualifier. -/
  | qualified {text name : String} {ms : List Mark} (h : text ∉ typeWords) :
      Compound ((.word text, false) :: (.symbol '.', false) :: (.word name, false) :: ms)

theorem plainWord_of_symbol (endsLine : Bool) {t : Token} {c : Char} (h : t.lexeme = .symbol c)
    (rest : List Token) : plainWord endsLine (t :: rest) = none :=
  bind_of_none (word_of_ne (fun text e => by rw [h] at e; cases e) rest)

theorem plainWord_of_typeWord (endsLine : Bool) {t : Token} {text : String}
    (h : t.lexeme = .word text) (hw : text ∈ typeWords) (rest : List Token) :
    plainWord endsLine (t :: rest) = none := by
  rw [plainWord]
  rcases token_eq_or endsLine t rest with ht | ht
  · exact bind_of_none (bind_of_none ht)
  · have read : word endsLine (t :: rest) = some ((text, t.span), rest) := by
      rw [word, bind_of_some ht, h]
      rfl
    exact (bind_of_some read).trans (bind_of_none (require_of_false (by simpa using hw) rest))

theorem reads_plainWord (endsLine : Bool) {text : String} (h : text ∉ typeWords) :
    Reads Anything (plainWord endsLine) [(.word text, false)] fun found => found.1 = text := by
  have both : Reads Anything (plainWord endsLine) ([(.word text, false)] ++ [])
      fun found => found.1 = text := by
    refine (reads_word endsLine text).andThen ?_
    rintro ⟨found, span⟩ rfl
    intro ts rest hts _
    rw [List.forall₂_nil_left_iff.1 hts]
    exact ⟨(found, span), bind_of_some (require_of_true (by simpa using h) rest), rfl⟩
  exact both

/-- Behind a name alone, in a parameter list, comes a comma or the end of the list. -/
theorem follows_entryEnd {rest : List Token} (h : Between ')' rest) :
    follows entryEnd rest = some ((), rest) := by
  obtain ⟨-, t, ht, hc⟩ := h
  obtain ⟨more, rfl⟩ := List.head?_eq_some_iff.1 ht
  have found : token false (t :: more) = some (t, more) := rfl
  have ends : entryEnd (t :: more) = some ((), more) := by
    rw [entryEnd, bind_of_some found]
    exact require_of_true (by simpa using hc) more
  exact follows_of_some ends

theorem follows_entryEnd_of_symbol {t : Token} {c : Char} (h : t.lexeme = .symbol c)
    (hc : c ≠ ',') (hp : c ≠ ')') (rest : List Token) :
    follows entryEnd (t :: rest) = none := by
  have found : token false (t :: rest) = some (t, rest) := rfl
  refine follows_of_none ?_
  rw [entryEnd, bind_of_some found]
  exact require_of_false (by simp [h, hc, hp]) rest

/-- The dots of a repeated parameter. -/
def dotsMarks : List Mark := [(.symbol '.', false), (.symbol '.', true), (.symbol '.', true)]

theorem entry_repeated
    (h : Reads (Between ')') (g.type false) ms (Denotes scope importer file u)) :
    Reads (Between ')') (readParamEntry g) (dotsMarks ++ ms)
      (EntryDenotes scope importer file (u, true)) := by
  refine Reads.orElse_left ?_
  intro ts rest hts hr
  have noWord : plainWord false (ts ++ rest) = none := by
    obtain ⟨t, us, ht, -, rfl⟩ := List.forall₂_cons_left_iff.1 hts
    exact plainWord_of_symbol false ht.1 (us ++ rest)
  rw [readRepeated, bind_of_some (maybe_of_none noWord)]
  refine Reads.andThen (reads_operator false '.' ['.', '.']) (fun _ _ => h.finish fun e he => ?_)
    ts rest hts hr
  exact ⟨rfl, he⟩

theorem operator_dots_of_qualified {t s : Token} (hs : s.lexeme ≠ .symbol '.')
    (rest : List Token) : operator false ['.', '.', '.'] (t :: s :: rest) = none := by
  -- dots have to follow each other, so the second token settles it
  by_cases ht : t.lexeme = .symbol '.'
  · have first : symbol false '.' (t :: s :: rest) = some (t.span, s :: rest) := by
      have found : token false (t :: s :: rest) = some (t, s :: rest) := rfl
      rw [symbol, bind_of_some found, bind_of_some (require_of_true (by simpa using ht) _)]
      rfl
    have second : token false (s :: rest) = some (s, rest) := rfl
    refine (bind_of_some first).trans (bind_of_none ?_)
    rw [joinedSymbols, bind_of_some second]
    exact bind_of_none (require_of_false (by simp [hs]) rest)
  · exact operator_of_ne ht (s :: rest)

/-- A name is the type of a parameter where it stands alone. -/
theorem entry_bare {name : String} (hn : isFreeName name = true)
    (h : ∀ span, Denotes scope importer file u (.name span name)) :
    Reads (Between ')') (readParamEntry g) [(.word name, false)]
      (EntryDenotes scope importer file (u, false)) := by
  have free : name ∉ typeWords := fun hw => ne_typeWord hn name hw rfl
  intro ts rest hts hr
  obtain ⟨⟨text, span⟩, found, rfl⟩ := reads_plainWord false free ts rest hts trivial
  have noDots : readRepeated g (ts ++ rest) = none := by
    rw [readRepeated, bind_of_some (maybe_of_some found)]
    exact bind_of_none (bind_of_none (symbol_of_closing hr.closing (by decide)))
  have bare : readBare (ts ++ rest) = some (.bare span text, rest) := by
    rw [readBare, bind_of_some found]
    exact bind_of_some (follows_entryEnd hr)
  refine ⟨.bare span text, ?_, rfl, h span⟩
  exact (orElse_of_none noDots).trans (orElse_of_some bare)

theorem fails_repeated_of_compound (h : Compound ms) :
    Fails (Between ')') (readRepeated g) ms := by
  intro ts rest hts _
  cases h with
  | @operator c joined ms hc =>
      obtain ⟨t, us, ht, -, rfl⟩ := List.forall₂_cons_left_iff.1 hts
      have noWord := plainWord_of_symbol false ht.1 (us ++ rest)
      refine (bind_of_some (maybe_of_none noWord)).trans (bind_of_none (operator_of_ne ?_ _))
      rw [ht.1, ne_eq, Lexeme.symbol.injEq]
      rintro rfl
      exact absurd hc (by decide)
  | @typeWord text ms hw =>
      obtain ⟨t, us, ht, -, rfl⟩ := List.forall₂_cons_left_iff.1 hts
      have noWord := plainWord_of_typeWord false ht.1 hw (us ++ rest)
      refine (bind_of_some (maybe_of_none noWord)).trans (bind_of_none (operator_of_ne ?_ _))
      rw [ht.1]
      exact fun e => by cases e
  | @applied text ms hw =>
      obtain ⟨first, behind, rfl, hf, hb⟩ := spelled_cons hts
      obtain ⟨found, word, -⟩ :=
        reads_plainWord false hw first (behind ++ rest) hf trivial
      obtain ⟨s, us, hs, -, rfl⟩ := List.forall₂_cons_left_iff.1 hb
      rw [List.append_assoc, readRepeated, bind_of_some (maybe_of_some word)]
      refine bind_of_none (operator_of_ne ?_ _)
      rw [hs.1]
      exact fun e => by cases e
  | @qualified text name ms hw =>
      obtain ⟨first, behind, rfl, hf, hb⟩ := spelled_cons hts
      obtain ⟨found, word, -⟩ :=
        reads_plainWord false hw first (behind ++ rest) hf trivial
      obtain ⟨d, us, -, hu, rfl⟩ := List.forall₂_cons_left_iff.1 hb
      obtain ⟨n, vs, hn, -, rfl⟩ := List.forall₂_cons_left_iff.1 hu
      rw [List.append_assoc, readRepeated, bind_of_some (maybe_of_some word)]
      refine bind_of_none (operator_dots_of_qualified ?_ _)
      rw [hn.1]
      exact fun e => by cases e

theorem fails_bare_of_compound (h : Compound ms) : Fails (Between ')') readBare ms := by
  intro ts rest hts _
  -- a name is bare only if the list goes on or ends behind it
  have behindName : ∀ {text : String} {c : Char} {ns : List Mark}, text ∉ typeWords → c ≠ ',' →
      c ≠ ')' → Spelled ((.word text, false) :: (.symbol c, false) :: ns) ts →
      readBare (ts ++ rest) = none := by
    intro text c ns hw hc hp hts
    obtain ⟨first, behind, rfl, hf, hb⟩ := spelled_cons hts
    obtain ⟨found, word, -⟩ :=
      reads_plainWord false hw first (behind ++ rest) hf trivial
    obtain ⟨s, us, hs, -, rfl⟩ := List.forall₂_cons_left_iff.1 hb
    rw [List.append_assoc, readBare, bind_of_some word]
    exact bind_of_none (follows_entryEnd_of_symbol hs.1 hc hp _)
  cases h with
  | operator hc =>
      obtain ⟨t, us, ht, -, rfl⟩ := List.forall₂_cons_left_iff.1 hts
      exact bind_of_none (plainWord_of_symbol false ht.1 _)
  | typeWord hw =>
      obtain ⟨t, us, ht, -, rfl⟩ := List.forall₂_cons_left_iff.1 hts
      exact bind_of_none (plainWord_of_typeWord false ht.1 hw _)
  | applied hw => exact behindName hw (by decide) (by decide) hts
  | qualified hw => exact behindName hw (by decide) (by decide) hts

/-- Any other type is the type of a parameter. -/
theorem entry_unnamed (hc : Compound ms)
    (h : Reads (Between ')') (g.type false) ms (Denotes scope importer file u)) :
    Reads (Between ')') (readParamEntry g) ms (EntryDenotes scope importer file (u, false)) := by
  -- the kinds of entries are tried in turn, and the first two turn the type down
  refine Reads.orElse_right (fails_repeated_of_compound hc) ?_
  refine Reads.orElse_right (fails_bare_of_compound hc) (Reads.orElse_left ?_)
  intro ts rest hts hr
  obtain ⟨e, he, denotes⟩ := h ts rest hts hr
  refine ⟨.unnamed e, ?_, rfl, denotes⟩
  rw [readUnnamed, bind_of_some he, bind_of_some (follows_entryEnd hr)]
  rfl

theorem fails_entry_nil (level : Level g) : Fails (Between ')') (readParamEntry g) [] := by
  intro ts rest hts hr
  rw [List.forall₂_nil_left_iff.1 hts]
  have closing := hr.closing
  have noWord := plainWord_of_closing false closing
  have noType := level.stops false [] rest List.Forall₂.nil closing
  have noDots : readRepeated g rest = none := by
    rw [readRepeated, bind_of_some (maybe_of_none noWord)]
    exact bind_of_none (bind_of_none (symbol_of_closing closing (by decide)))
  refine (orElse_of_none noDots).trans ((orElse_of_none (bind_of_none noWord)).trans ?_)
  exact (orElse_of_none (bind_of_none noType)).trans (bind_of_none noWord)

section Signatures

variable {mss nss : List (List Mark)} {us vs : List (DeclaredType × Bool)}

variable (scope importer file) in
/-- The tokens of entries of a parameter list, with what the entries stand for. -/
abbrev Entries (g : Grammar) (mss : List (List Mark)) (us : List (DeclaredType × Bool)) : Prop :=
  List.Forall₂ (fun ms u =>
    Reads (Between ')') (readParamEntry g) ms (EntryDenotes scope importer file u)) mss us

/-- The tokens of a list in parentheses. -/
def parenMarks (ms : List Mark) : List Mark :=
  (.symbol '(', false) :: (ms ++ [(.symbol ')', false)])

theorem reads_params (endsLine : Bool) (level : Level g) (h : Entries scope importer file g mss us)
    (hl : mss.length ≤ g.limit) :
    Reads Anything (readParams g endsLine) (parenMarks (commaMarks mss)) fun found =>
      declaredParams scope importer file found.1 = pure (us.map paramType, us.any (·.2)) := by
  refine (reads_symbol endsLine '(' false).andThen fun _ _ => ?_
  refine (reads_bracketList (fails_entry_nil level) h hl).bind (fun entries he => ?_)
    fun ts rest hts _ => shut_of_spelled (by decide) hts
  refine (reads_symbol false ')' false).finish fun close _ => ?_
  exact declaredParams_groupParams he List.Forall₂.nil

variable (scope importer file) in
/-- Results stand for types. -/
def ResultsDenote (types : List DeclaredType) (found : List Param × Option Span) : Prop :=
  ∃ variadic, declaredParams scope importer file found.1 = pure (types, variadic)

theorem readResults_of_not_paren {t : Token} {rest : List Token} (ht : t.lexeme ≠ .symbol '(')
    (hp : peek endsLine (t :: rest) = some (t, t :: rest)) :
    readResults g endsLine (t :: rest) = (do
      match ← maybe (g.type endsLine) with
      | some type => pure ([.mk 0 type false], some type.span)
      | none => pure ([], none) : Reader (List Param × Option Span)) (t :: rest) := by
  rw [readResults, bind_of_some (maybe_of_some hp)]
  have : (t.lexeme == .symbol '(') = false := by simpa using ht
  simp only [this]
  rfl

theorem peek_of_not {t : Token} (h : t.onNewLine = false) (rest : List Token) :
    peek endsLine (t :: rest) = some (t, t :: rest) := by
  rw [peek, token_of_not h]

theorem reads_results_nil (level : Level g) :
    Reads Closing (readResults g endsLine) [] (ResultsDenote scope importer file []) := by
  intro ts rest hts hr
  rw [List.forall₂_nil_left_iff.1 hts, List.nil_append]
  have noType : g.type endsLine rest = none := level.stops endsLine [] rest List.Forall₂.nil hr
  refine ⟨([], none), ?_, false, by rw [declaredParams]⟩
  -- a new line may be ahead, and then nothing is looked at at all
  cases rest with
  | nil => rfl
  | cons t more =>
      rcases token_eq_or endsLine t more with ht | ht
      · have noPeek : peek endsLine (t :: more) = none := by rw [peek, ht]
        rw [readResults, bind_of_some (maybe_of_none noPeek)]
        rfl
      · have found : peek endsLine (t :: more) = some (t, t :: more) := by rw [peek, ht]
        obtain ⟨c, hc, hl⟩ := hr t rfl
        rw [readResults_of_not_paren ?_ found, bind_of_some (maybe_of_none noType)]
        · rfl
        · rw [hl, ne_eq, Lexeme.symbol.injEq]
          rintro rfl
          exact absurd hc (by decide)

theorem reads_results_single {m : Mark} (hm : m.1 ≠ .symbol '(')
    (h : Reads Closing (g.type endsLine) (m :: ms) (Denotes scope importer file u)) :
    Reads Closing (readResults g endsLine) (m :: ms) (ResultsDenote scope importer file [u]) := by
  intro ts rest hts hr
  obtain ⟨e, he, denotes⟩ := h ts rest hts hr
  obtain ⟨t, us, ht, -, rfl⟩ := List.forall₂_cons_left_iff.1 hts
  rw [List.cons_append] at he
  refine ⟨([.mk 0 e false], some e.span), ?_, false, ?_⟩
  · rw [List.cons_append, readResults_of_not_paren (by rwa [ht.1]) (peek_of_not ht.2.1 _),
      bind_of_some (maybe_of_some he)]
    rfl
  · show declaredParams scope importer file [.mk 0 e false] = _
    rw [declaredParams, denotes, declaredParams]
    rfl

theorem reads_results_paren (endsLine : Bool) (level : Level g)
    (h : Entries scope importer file g mss us) (hl : mss.length ≤ g.limit) :
    Reads Closing (readResults g endsLine) (parenMarks (commaMarks mss))
      (ResultsDenote scope importer file (us.map paramType)) := by
  intro ts rest hts hr
  obtain ⟨found, hf, denotes⟩ := reads_params endsLine level h hl ts rest hts trivial
  obtain ⟨t, more, ht, -, rfl⟩ := List.forall₂_cons_left_iff.1 hts
  refine ⟨(found.1, some found.2), ?_, _, denotes⟩
  have paren : (t.lexeme == .symbol '(') = true := by simp [ht.1]
  rw [List.cons_append, readResults, bind_of_some (maybe_of_some (peek_of_not ht.2.1 _))]
  simp only [paren, if_true]
  rw [List.cons_append] at hf
  rw [bind_of_some hf]
  rfl

theorem reads_function (endsLine : Bool) (level : Level g)
    (h : Entries scope importer file g mss us) (hl : mss.length ≤ g.limit)
    {types : List DeclaredType}
    (hr : Reads Closing (readResults g endsLine) ns (ResultsDenote scope importer file types)) :
    Reads Closing (readType g endsLine)
      ((.word "func", false) :: (parenMarks (commaMarks mss) ++ ns))
      (Denotes scope importer file (.function (us.map paramType) types (us.any (·.2)))) := by
  refine reads_byWord (p := readFunctionType g endsLine) (fun span => ?_) fun span => rfl
  refine (reads_params _ level h hl).andThen
    fun params hp => hr.finish fun results hres => ?_
  obtain ⟨variadic, hres⟩ := hres
  rw [Denotes, declaredType, hp, hres]
  rfl

end Signatures

end WrapperGen
