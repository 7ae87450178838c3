import WrapperGen.Proofs.Reading
import WrapperGen.Proofs.Spelling
import WrapperGen.Source.Reader.Basic

/-!
# Reading spelled tokens

A reader is described by the tokens that it takes: whatever tokens are spelled as expected, and
whatever stands behind them, it reads these and leaves the rest.  Such descriptions are put
together in the same way as the readers.

## Main definitions

* `Reads`, `Fails`: what a reader does with spelled tokens in front of a given kind of rest.
* `Closing`, `Between`, `Shut`: what may follow a type, a value of a list, and a list.

## Main results

* `Reads.bind`, `Reads.orElse_left`, `Reads.orElse_right`: sequence and choice.
* `reads_symbol`, `reads_word`, `reads_arrow`: single tokens.
* `reads_commaList`, `reads_bracketList`: lists.
-/

namespace WrapperGen.Source

open Reading

variable {α β γ : Type}

/-! ### Descriptions of readers -/

/-- A reader takes tokens that are spelled as expected, in front of any rest of the given kind,
and gives a good answer. -/
def Reads (rest? : List Token → Prop) (p : Reader α) (ms : List Mark) (good : α → Prop) : Prop :=
  ∀ ts rest, Spelled ms ts → rest? rest → ∃ a, p (ts ++ rest) = some (a, rest) ∧ good a

/-- A reader takes nothing where tokens are spelled as expected, in front of any rest of the given
kind. -/
def Fails (rest? : List Token → Prop) (p : Reader α) (ms : List Mark) : Prop :=
  ∀ ts rest, Spelled ms ts → rest? rest → p (ts ++ rest) = none

/-- Anything may follow. -/
def Anything : List Token → Prop := fun _ => True

/-- Commas and closing brackets. -/
def closers : List Char := [',', ')', ']', '}']

/-- Nothing follows, or a comma or a closing bracket. -/
def Closing (rest : List Token) : Prop :=
  ∀ t ∈ rest.head?, ∃ c ∈ closers, t.lexeme = .symbol c

/-- A given closing bracket follows. -/
def Shut (c : Char) (rest : List Token) : Prop :=
  c ∈ [')', ']'] ∧ ∃ t ∈ rest.head?, t.lexeme = .symbol c

/-- A comma or a given closing bracket follows. -/
def Between (c : Char) (rest : List Token) : Prop :=
  c ∈ [')', ']'] ∧ ∃ t ∈ rest.head?, t.lexeme = .symbol ',' ∨ t.lexeme = .symbol c

theorem Shut.between {c : Char} {rest : List Token} (h : Shut c rest) : Between c rest := by
  obtain ⟨hc, t, ht, ho⟩ := h
  exact ⟨hc, t, ht, Or.inr ho⟩

theorem Between.closing {c : Char} {rest : List Token} (h : Between c rest) : Closing rest := by
  obtain ⟨hc, t, ht, ho⟩ := h
  intro u hu
  cases Option.mem_unique ht hu
  rcases ho with ho | ho
  · exact ⟨',', by decide, ho⟩
  · have inside : ∀ c ∈ [')', ']'], c ∈ closers := List.forall_iff_forall_mem.1 (by decide)
    exact ⟨c, inside c hc, ho⟩

theorem shut_of_spelled {c : Char} {joined : Bool} {ms : List Mark} {ts rest : List Token}
    (hc : c ∈ [')', ']']) (hts : Spelled ((.symbol c, joined) :: ms) ts) :
    Shut c (ts ++ rest) := by
  obtain ⟨t, us, ht, -, rfl⟩ := List.forall₂_cons_left_iff.1 hts
  exact ⟨hc, t, rfl, ht.1⟩

/-- What matches a list with another one behind it consists of what matches these. -/
theorem exists_append_of_forall₂ {μ τ : Type} {R : μ → τ → Prop} {ms ns : List μ} {ts : List τ}
    (h : List.Forall₂ R (ms ++ ns) ts) :
    ∃ us vs, ts = us ++ vs ∧ List.Forall₂ R ms us ∧ List.Forall₂ R ns vs := by
  induction ms generalizing ts with
  | nil => exact ⟨[], ts, rfl, List.Forall₂.nil, h⟩
  | cons m ms ih =>
      obtain ⟨t, rest, ht, hr, rfl⟩ := List.forall₂_cons_left_iff.1 h
      obtain ⟨us, vs, rfl, hu, hv⟩ := ih hr
      exact ⟨t :: us, vs, rfl, List.Forall₂.cons ht hu, hv⟩

theorem spelled_append {ms ns : List Mark} {ts : List Token} (h : Spelled (ms ++ ns) ts) :
    ∃ us vs, ts = us ++ vs ∧ Spelled ms us ∧ Spelled ns vs := exists_append_of_forall₂ h

theorem spelled_cons {m : Mark} {ms : List Mark} {ts : List Token} (h : Spelled (m :: ms) ts) :
    ∃ us vs, ts = us ++ vs ∧ Spelled [m] us ∧ Spelled ms vs := @spelled_append [m] ms ts h

namespace Reads

variable {rest? between : List Token → Prop} {p : Reader α} {ms ns : List Mark}
  {good first : α → Prop}

theorem pure {a : α} (h : good a) : Reads rest? (Pure.pure a) [] good := by
  intro ts rest hts _
  rw [List.forall₂_nil_left_iff.1 hts]
  exact ⟨a, rfl, h⟩

theorem bind {f : α → Reader β} {good : β → Prop} (hp : Reads between p ms first)
    (hf : ∀ a, first a → Reads rest? (f a) ns good)
    (hb : ∀ ts rest, Spelled ns ts → rest? rest → between (ts ++ rest)) :
    Reads rest? (p >>= f) (ms ++ ns) good := by
  intro ts rest hts hr
  obtain ⟨us, vs, rfl, hu, hv⟩ := spelled_append hts
  obtain ⟨a, ha, good_a⟩ := hp us (vs ++ rest) hu (hb vs rest hv hr)
  rw [List.append_assoc, bind_of_some ha]
  exact hf a good_a vs rest hv hr

/-- A first part of one token. -/
theorem bind_cons {m : Mark} {f : α → Reader β} {good : β → Prop} (hp : Reads between p [m] first)
    (hf : ∀ a, first a → Reads rest? (f a) ms good)
    (hb : ∀ ts rest, Spelled ms ts → rest? rest → between (ts ++ rest)) :
    Reads rest? (p >>= f) (m :: ms) good := hp.bind hf hb

/-- A first part without tokens. -/
theorem bind_nil {f : α → Reader β} {good : β → Prop} (hp : Reads between p [] first)
    (hf : ∀ a, first a → Reads rest? (f a) ms good)
    (hb : ∀ ts rest, Spelled ms ts → rest? rest → between (ts ++ rest)) :
    Reads rest? (p >>= f) ms good := hp.bind hf hb

/-- A first part that does not look at what follows it. -/
theorem andThen {f : α → Reader β} {good : β → Prop} (hp : Reads Anything p ms first)
    (hf : ∀ a, first a → Reads rest? (f a) ns good) : Reads rest? (p >>= f) (ms ++ ns) good :=
  hp.bind hf fun _ _ _ _ => trivial

/-- A last part, behind which only the answer is put together. -/
theorem finish {f : α → β} {good : β → Prop} (hp : Reads rest? p ms first)
    (h : ∀ a, first a → good (f a)) :
    Reads rest? (p >>= fun a => Pure.pure (f a)) ms good := by
  have both : Reads rest? (p >>= fun a => Pure.pure (f a)) (ms ++ []) good :=
    hp.bind (fun a ha => Reads.pure (h a ha)) fun ts rest hts hr => by
      rw [List.forall₂_nil_left_iff.1 hts]
      exact hr
  rwa [List.append_nil] at both

theorem orElse_left {q : Reader α} (hp : Reads rest? p ms good) :
    Reads rest? (p <|> q) ms good := by
  intro ts rest hts hr
  obtain ⟨a, ha, good_a⟩ := hp ts rest hts hr
  exact ⟨a, orElse_of_some ha, good_a⟩

theorem orElse_right {q : Reader α} (hp : Fails rest? p ms) (hq : Reads rest? q ms good) :
    Reads rest? (p <|> q) ms good := by
  intro ts rest hts hr
  rw [orElse_of_none (hp ts rest hts hr)]
  exact hq ts rest hts hr

theorem maybe (hp : Reads rest? p ms good) :
    Reads rest? (maybe p) ms fun a? => ∃ a, a? = some a ∧ good a := by
  intro ts rest hts hr
  obtain ⟨a, ha, good_a⟩ := hp ts rest hts hr
  exact ⟨some a, maybe_of_some ha, a, rfl, good_a⟩

theorem mono {better : α → Prop} (hp : Reads rest? p ms better) (h : ∀ a, better a → good a) :
    Reads rest? p ms good := by
  intro ts rest hts hr
  obtain ⟨a, ha, good_a⟩ := hp ts rest hts hr
  exact ⟨a, ha, h a good_a⟩

theorem weaken {more? : List Token → Prop} (hp : Reads more? p ms good)
    (h : ∀ rest, rest? rest → more? rest) : Reads rest? p ms good :=
  fun ts rest hts hr => hp ts rest hts (h rest hr)

/-- A reader that goes on by the first token. -/
theorem byLexeme {q : Reader α} {m : Mark}
    (h : ∀ t rest, t.lexeme = m.1 → p (t :: rest) = q (t :: rest))
    (hq : Reads rest? q (m :: ms) good) : Reads rest? p (m :: ms) good := by
  intro ts rest hts hr
  obtain ⟨t, us, ht, -, rfl⟩ := List.forall₂_cons_left_iff.1 hts
  rw [List.cons_append, h t (us ++ rest) ht.1]
  exact hq (t :: us) rest hts hr

end Reads

namespace Fails

variable {rest? between : List Token → Prop} {p : Reader α} {ms ns : List Mark}

theorem bind_left {f : α → Reader β} (hp : Fails rest? p ms) : Fails rest? (p >>= f) ms :=
  fun ts rest hts hr => bind_of_none (hp ts rest hts hr)

theorem bind_right {f : α → Reader β} {first : α → Prop} (hp : Reads between p ms first)
    (hf : ∀ a, first a → Fails rest? (f a) ns)
    (hb : ∀ ts rest, Spelled ns ts → rest? rest → between (ts ++ rest)) :
    Fails rest? (p >>= f) (ms ++ ns) := by
  intro ts rest hts hr
  obtain ⟨us, vs, rfl, hu, hv⟩ := spelled_append hts
  obtain ⟨a, ha, good_a⟩ := hp us (vs ++ rest) hu (hb vs rest hv hr)
  rw [List.append_assoc, bind_of_some ha]
  exact hf a good_a vs rest hv hr

theorem andThen {f : α → Reader β} {first : α → Prop} (hp : Reads Anything p ms first)
    (hf : ∀ a, first a → Fails rest? (f a) ns) : Fails rest? (p >>= f) (ms ++ ns) :=
  bind_right hp hf fun _ _ _ _ => trivial

theorem orElse {q : Reader α} (hp : Fails rest? p ms) (hq : Fails rest? q ms) :
    Fails rest? (p <|> q) ms := by
  intro ts rest hts hr
  rw [orElse_of_none (hp ts rest hts hr)]
  exact hq ts rest hts hr

theorem maybe (hp : Fails rest? p ms) (hm : ms = []) :
    Reads rest? (maybe p) ms fun a? => a? = none := by
  intro ts rest hts hr
  subst hm
  have h := hp ts rest hts hr
  rw [List.forall₂_nil_left_iff.1 hts] at h ⊢
  exact ⟨none, maybe_of_none h, rfl⟩

theorem byLexeme {q : Reader α} {m : Mark}
    (h : ∀ t rest, t.lexeme = m.1 → p (t :: rest) = q (t :: rest))
    (hq : Fails rest? q (m :: ms)) : Fails rest? p (m :: ms) := by
  intro ts rest hts hr
  obtain ⟨t, us, ht, -, rfl⟩ := List.forall₂_cons_left_iff.1 hts
  rw [List.cons_append, h t (us ++ rest) ht.1]
  exact hq (t :: us) rest hts hr

/-- A reader that takes nothing because of the first token. -/
theorem ofLexeme {m : Mark} (h : ∀ t rest, t.lexeme = m.1 → p (t :: rest) = none) :
    Fails rest? p (m :: ms) := by
  intro ts rest hts _
  obtain ⟨t, us, ht, -, rfl⟩ := List.forall₂_cons_left_iff.1 hts
  exact h t (us ++ rest) ht.1

end Fails

/-! ### Single tokens -/

theorem token_of_not {endsLine : Bool} {t : Token} (h : t.onNewLine = false) (rest : List Token) :
    token endsLine (t :: rest) = some (t, rest) := by
  rw [token, h, Bool.and_false]
  rfl

theorem token_eq_or (endsLine : Bool) (t : Token) (rest : List Token) :
    token endsLine (t :: rest) = none ∨ token endsLine (t :: rest) = some (t, rest) := by
  rw [token]
  split
  · exact Or.inl rfl
  · exact Or.inr rfl

theorem symbol_of_ne {endsLine : Bool} {c : Char} {t : Token} (h : t.lexeme ≠ .symbol c)
    (rest : List Token) : symbol endsLine c (t :: rest) = none := by
  rw [symbol]
  rcases token_eq_or endsLine t rest with ht | ht
  · exact bind_of_none ht
  · rw [bind_of_some ht]
    exact bind_of_none (require_of_false (by simpa using h) rest)

theorem word_of_ne {endsLine : Bool} {t : Token} (h : ∀ text, t.lexeme ≠ .word text)
    (rest : List Token) : word endsLine (t :: rest) = none := by
  rw [word]
  rcases token_eq_or endsLine t rest with ht | ht
  · exact bind_of_none ht
  · rw [bind_of_some ht]
    cases hl : t.lexeme with
    | word text => exact absurd hl (h text)
    | _ => rfl

theorem operator_of_ne {endsLine : Bool} {c : Char} {more : List Char} {t : Token}
    (h : t.lexeme ≠ .symbol c) (rest : List Token) :
    operator endsLine (c :: more) (t :: rest) = none := bind_of_none (symbol_of_ne h rest)

theorem symbol_of_closing {endsLine : Bool} {c : Char} {rest : List Token} (h : Closing rest)
    (hc : c ∉ closers) : symbol endsLine c rest = none := by
  cases rest with
  | nil => rfl
  | cons t rest =>
      obtain ⟨d, hd, ht⟩ := h t rfl
      refine symbol_of_ne ?_ rest
      intro e
      rw [ht, Lexeme.symbol.injEq] at e
      exact hc (e ▸ hd)

theorem word_of_closing {endsLine : Bool} {rest : List Token} (h : Closing rest) :
    word endsLine rest = none := by
  cases rest with
  | nil => rfl
  | cons t rest =>
      obtain ⟨d, -, ht⟩ := h t rfl
      exact word_of_ne (fun text e => by rw [ht] at e; cases e) rest

theorem symbol_of_shut {endsLine : Bool} {c d : Char} {rest : List Token} (h : Shut c rest)
    (hd : d ≠ c) : symbol endsLine d rest = none := by
  obtain ⟨-, t, ht, hc⟩ := h
  obtain ⟨more, rfl⟩ := List.head?_eq_some_iff.1 ht
  refine symbol_of_ne ?_ more
  intro e
  rw [hc, Lexeme.symbol.injEq] at e
  exact hd e.symm

theorem keyword_of_ne {endsLine : Bool} {text : String} {t : Token}
    (h : t.lexeme ≠ .word text) (rest : List Token) : keyword endsLine text (t :: rest) = none := by
  by_cases hw : ∃ found, t.lexeme = .word found
  -- another word is read first and turned down then
  · obtain ⟨found, hw⟩ := hw
    rw [keyword, word]
    rcases token_eq_or endsLine t rest with ht | ht
    · exact bind_of_none (bind_of_none ht)
    · have read : word endsLine (t :: rest) = some ((found, t.span), rest) := by
        rw [word, bind_of_some ht, hw]
        rfl
      refine (bind_of_some read).trans (bind_of_none (require_of_false ?_ rest))
      rw [hw, ne_eq, Lexeme.word.injEq] at h
      simpa using h
  · exact bind_of_none (word_of_ne (fun found e => hw ⟨found, e⟩) rest)

theorem reads_symbol (endsLine : Bool) (c : Char) (joined : Bool) :
    Reads Anything (symbol endsLine c) [(.symbol c, joined)] fun _ => True := by
  intro ts rest hts _
  obtain ⟨t, us, ht, hu, rfl⟩ := List.forall₂_cons_left_iff.1 hts
  rw [List.forall₂_nil_left_iff.1 hu]
  refine ⟨t.span, ?_, trivial⟩
  show symbol endsLine c (t :: rest) = _
  rw [symbol, bind_of_some (token_of_not ht.2.1 rest),
    bind_of_some (require_of_true (by simp [ht.1]) rest)]
  rfl

theorem reads_word (endsLine : Bool) (text : String) :
    Reads Anything (word endsLine) [(.word text, false)] fun found => found.1 = text := by
  intro ts rest hts _
  obtain ⟨t, us, ht, hu, rfl⟩ := List.forall₂_cons_left_iff.1 hts
  rw [List.forall₂_nil_left_iff.1 hu]
  refine ⟨(text, t.span), ?_, rfl⟩
  show word endsLine (t :: rest) = _
  rw [word, bind_of_some (token_of_not ht.2.1 rest), ht.1]
  rfl

theorem reads_keyword (endsLine : Bool) (text : String) :
    Reads Anything (keyword endsLine text) [(.word text, false)] fun _ => True := by
  have both : Reads Anything (keyword endsLine text) ([(.word text, false)] ++ [])
      fun _ => True := by
    refine (reads_word endsLine text).andThen ?_
    rintro ⟨found, span⟩ rfl
    intro ts rest hts _
    rw [List.forall₂_nil_left_iff.1 hts]
    exact ⟨span, bind_of_some (require_of_true (by simp) rest), trivial⟩
  exact both

theorem reads_joinedSymbols (last : Span) (more : List Char) :
    Reads Anything (joinedSymbols last more) (more.map fun c => (.symbol c, true))
      fun _ => True := by
  induction more generalizing last with
  | nil => exact Reads.pure trivial
  | cons c more ih =>
      intro ts rest hts _
      obtain ⟨t, us, ht, hu, rfl⟩ := List.forall₂_cons_left_iff.1 hts
      rw [List.cons_append, joinedSymbols, bind_of_some (token_of_not ht.2.1 (us ++ rest)),
        bind_of_some (require_of_true (by simp [ht.1, ht.2.2]) (us ++ rest))]
      exact ih t.span us rest hu trivial

theorem reads_operator (endsLine : Bool) (first : Char) (more : List Char) :
    Reads Anything (operator endsLine (first :: more)) (Piece.operator first more).marks
      fun _ => True := by
  refine (reads_symbol endsLine first false).andThen fun span _ => ?_
  exact (reads_joinedSymbols span more).finish fun _ _ => trivial

/-! ### Lists -/

/-- The tokens of further values of a list. -/
def tailMarks (mss : List (List Mark)) : List Mark :=
  mss.flatMap fun ms => (.symbol ',', false) :: ms

/-- The tokens of a list. -/
def commaMarks : List (List Mark) → List Mark
  | [] => []
  | ms :: mss => ms ++ tailMarks mss

theorem between_tailMarks {c : Char} {mss : List (List Mark)} {ts rest : List Token}
    (hts : Spelled (tailMarks mss) ts) (hr : Shut c rest) : Between c (ts ++ rest) := by
  cases mss with
  | nil =>
      rw [List.forall₂_nil_left_iff.1 hts]
      exact hr.between
  | cons ms mss =>
      obtain ⟨t, us, ht, -, rfl⟩ := List.forall₂_cons_left_iff.1 hts
      exact ⟨hr.1, t, rfl, Or.inl ht.1⟩

section Lists

variable {p : Reader α} {R : β → α → Prop} {mss : List (List Mark)} {us : List β} {c : Char}

theorem Shut.ne_comma {rest : List Token} (h : Shut c rest) : ',' ≠ c := by
  rintro rfl
  exact absurd h.1 (by decide)

theorem reads_noComma {endsLine : Bool} :
    Reads (Shut c) (maybe (symbol endsLine ',')) [] fun _ => True := by
  intro ts rest hts hr
  rw [List.forall₂_nil_left_iff.1 hts]
  exact ⟨none, maybe_of_none (symbol_of_shut hr hr.ne_comma), trivial⟩

theorem reads_repeatStep {endsLine : Bool}
    (h : List.Forall₂ (fun ms u => Reads (Between c) p ms (R u)) mss us) {limit : Nat}
    (hl : mss.length ≤ limit) (values : List α) :
    Reads (Shut c)
      (repeatStep (fun values => do
        let value ← (do
          let _ ← symbol endsLine ','
          p)
        pure (value :: values)) limit values)
      (tailMarks mss) fun all => ∃ more, all = more.reverse ++ values ∧ List.Forall₂ R us more := by
  induction h generalizing limit values with
  | nil =>
      intro ts rest hts hr
      rw [List.forall₂_nil_left_iff.1 hts]
      refine ⟨values, repeatStep_of_none ?_ limit, [], rfl, List.Forall₂.nil⟩
      exact bind_of_none (bind_of_none (symbol_of_shut hr hr.ne_comma))
  | @cons ms u mss us here there ih =>
      intro ts rest hts hr
      -- there is a value to read, so the limit is not used up yet
      obtain ⟨limit, rfl⟩ : ∃ n, limit = n + 1 :=
        Nat.exists_eq_succ_of_ne_zero (by simp at hl; omega)
      obtain ⟨first, behind, rfl, hf, hb⟩ : ∃ first behind, ts = first ++ behind
          ∧ Spelled ((.symbol ',', false) :: ms) first ∧ Spelled (tailMarks mss) behind :=
        spelled_append hts
      have one : Reads (Between c) (do
          let _ ← symbol endsLine ','
          p) ((.symbol ',', false) :: ms) (R u) :=
        (reads_symbol endsLine ',' false).andThen fun _ _ => here
      obtain ⟨value, hv, good⟩ := one first (behind ++ rest) hf (between_tailMarks hb hr)
      obtain ⟨all, ha, more, rfl, goods⟩ :=
        ih (by simpa using hl) (value :: values) behind rest hb hr
      refine ⟨more.reverse ++ value :: values, ?_, value :: more, by simp,
        List.Forall₂.cons good goods⟩
      rw [List.append_assoc, repeatStep_of_some (bind_of_some hv)]
      exact ha

theorem reads_many {endsLine : Bool}
    (h : List.Forall₂ (fun ms u => Reads (Between c) p ms (R u)) mss us) {limit : Nat}
    (hl : mss.length ≤ limit) :
    Reads (Shut c)
      (many limit (do
        let _ ← symbol endsLine ','
        p)) (tailMarks mss) (List.Forall₂ R us) := by
  refine (reads_repeatStep h hl []).finish ?_
  rintro all ⟨more, rfl, goods⟩
  simpa using goods

theorem reads_commaList (endsLine : Bool) {ms : List Mark} {u : β}
    (here : Reads (Between c) p ms (R u))
    (there : List.Forall₂ (fun ms u => Reads (Between c) p ms (R u)) mss us) {limit : Nat}
    (hl : mss.length ≤ limit) :
    Reads (Shut c) (commaList limit endsLine p) (commaMarks (ms :: mss))
      (List.Forall₂ R (u :: us)) := by
  refine here.bind (fun value good => ?_) fun ts rest hts hr => between_tailMarks hts hr
  exact (reads_many there hl).finish fun more goods => List.Forall₂.cons good goods

theorem reads_bracketList (hp : Fails (Between c) p [])
    (h : List.Forall₂ (fun ms u => Reads (Between c) p ms (R u)) mss us) {limit : Nat}
    (hl : mss.length ≤ limit) :
    Reads (Shut c) (bracketList limit p) (commaMarks mss) (List.Forall₂ R us) := by
  -- there are no values at all, or a list of them; a comma stands behind neither
  have values : Reads (Shut c) (maybe (commaList limit false p)) (commaMarks mss)
      fun values? => List.Forall₂ R us (values?.getD []) := by
    cases h with
    | nil =>
        intro ts rest hts hr
        have none' := hp ts rest hts hr.between
        rw [List.forall₂_nil_left_iff.1 hts] at none' ⊢
        exact ⟨none, maybe_of_none (bind_of_none none'), List.Forall₂.nil⟩
    | cons here there =>
        have limit' := Nat.le_of_succ_le hl
        refine (reads_commaList false here there limit').maybe.mono ?_
        rintro values? ⟨values, rfl, goods⟩
        exact goods
  have both : Reads (Shut c) (bracketList limit p) (commaMarks mss ++ []) (List.Forall₂ R us) := by
    refine values.bind (fun values? goods => reads_noComma.finish fun _ _ => goods) ?_
    intro ts rest hts hr
    rw [List.forall₂_nil_left_iff.1 hts]
    exact hr
  rwa [List.append_nil] at both

end Lists

/-- A list between terminators is empty where no value can be read. -/
theorem reads_terminatedList_nil {rest? : List Token → Prop} {p : Reader α} {limit : Nat}
    (hp : Fails rest? p []) :
    Reads rest? (terminatedList limit p) [] fun values => values = [] := by
  refine (hp.maybe rfl).bind_nil (fun value? none' => ?_) ?_
  · rw [none']
    exact Reads.pure rfl
  · intro ts rest hts hr
    rw [List.forall₂_nil_left_iff.1 hts]
    exact hr

end WrapperGen.Source
