import WrapperGen.Output.Draft
import WrapperGen.Proofs.TypeText

/-!
# Reading the imports of a generated file

The imports of a generated file stand one on a line, between parentheses.  Read as source text,
these lines give every import path back, and the alias wherever one is written.

## Main definitions

* `Lies`, `Laid`: tokens are as expected, and begin lines where that is expected.
* `Draft.importSpec`: the import that a line is read as.
* `Draft.Readable`: imports that can be read.

## Main results

* `Draft.laid_importsText`: the tokens of the lines.
* `Draft.items_importsText`, `Draft.items_assemble`: what is read.
-/

namespace WrapperGen

namespace Source

open Reading

/-! ### Tokens and lines -/

/-- What is expected of a token: what it is, and whether a line ends in front of it. -/
abbrev LineMark := Lexeme × Bool

/-- A token is as expected. -/
def Lies (mark : LineMark) (t : Token) : Prop := t.lexeme = mark.1 ∧ t.onNewLine = mark.2

/-- The tokens of a text are as expected, wherever the text stands.  The flag says whether a line
has ended since the token in front of it. -/
def Laid (newLine : Bool) (marks : List LineMark) (s : List Char) : Prop :=
  ∀ offset place joined, List.Forall₂ Lies marks (tokensFrom offset place newLine joined s)

/-- Whether a character may stand for itself between the quotes of a string literal. -/
def isQuotable (c : Char) : Bool := c != '"' && c != '\\' && c != '\n' && c != '\x00'

theorem stringLength?_quotable {s : List Char} (h : ∀ c ∈ s, isQuotable c = true)
    (rest : List Char) : stringLength? 0 (s ++ '"' :: rest) = some (s.length + 1) := by
  induction s with
  | nil => rfl
  | cons c s ih =>
    have here := h c List.mem_cons_self
    simp only [isQuotable, Bool.and_eq_true, bne_iff_ne] at here
    obtain ⟨⟨⟨quote, escape⟩, line⟩, null⟩ := here
    have there := ih fun d hd => h d (List.mem_cons_of_mem c hd)
    rw [List.cons_append, stringLength?, if_neg (by simpa using quote),
      if_neg (by simp [line, null]), if_neg (by simpa using escape), there]
    rfl

/-- A text in quotes, as it is written. -/
def inQuotes (text : String) : String := "\"" ++ text ++ "\""

theorem unquoted_inQuotes (text : String) : unquoted (inQuotes text) = text := by
  simp [unquoted, inQuotes]

theorem lexemeAt_quote {s : List Char} (h : ∀ c ∈ s, isQuotable c = true) (rest : List Char) :
    lexemeAt '"' (s ++ '"' :: rest) = (.string (inQuotes (String.ofList s)), s.length + 1) := by
  have start : isIdentStart '"' = false := by decide
  have point : ('"'.isDigit || ('"' == '.' && (s ++ '"' :: rest).head?.any Char.isDigit)) = false :=
    rfl
  have taken : (s ++ '"' :: rest).take (s.length + 1) = s ++ ['"'] := by
    rw [List.take_append, List.take_of_length_le (Nat.le_succ _)]
    simp
  rw [lexemeAt, start, point, stringLength?_quotable h]
  simp only [Bool.false_eq_true, if_false, beq_self_eq_true, if_true, quotedLexeme, taken]
  congr 2
  apply String.toList_injective
  simp [inQuotes]

namespace Laid

variable {newLine : Bool} {ms : List LineMark} {rest : List Char}

theorem nil : Laid newLine [] [] := by
  intro offset place joined
  rw [tokensFrom]
  exact List.Forall₂.nil

theorem blank {c : Char} (hc : isBlank c = true) (h : Laid (newLine || c == '\n') ms rest) :
    Laid newLine ms (c :: rest) := by
  intro offset place joined
  have found : blankLength? c rest = some 0 := if_pos hc
  rw [tokensFrom, found]
  exact h _ _ _

/-- Behind a token that is as expected there are others that are. -/
theorem step {lexeme : Lexeme} {c : Char} {tail behind : List Char}
    (hb : blankLength? c (tail ++ behind) = none)
    (hl : lexemeAt c (tail ++ behind) = (lexeme, tail.length)) (h : Laid false ms behind) :
    Laid newLine ((lexeme, newLine) :: ms) (c :: (tail ++ behind)) := by
  intro offset place joined
  rw [tokensFrom, hb, hl]
  refine List.Forall₂.cons ⟨rfl, rfl⟩ ?_
  show List.Forall₂ Lies ms (tokensFrom _ _ false true ((tail ++ behind).drop tail.length))
  rw [List.drop_left]
  exact h _ _ _

theorem word {text : String} (ht : isIdentifier text = true)
    (apart : StartsApart isIdentRest rest) (h : Laid false ms rest) :
    Laid newLine ((.word text, newLine) :: ms) (text.toList ++ rest) := by
  obtain ⟨c, letters, e, hc, hl⟩ := cons_of_isIdentifier ht
  rw [e]
  exact step (blankLength?_of_not _ (isBlank_of_isIdentStart hc) (ne_slash_of_isIdentStart hc))
    (lexemeAt_identifier e hc hl apart) h

theorem symbol {c : Char} (hc : c ∈ typeSymbols) (point : c ≠ '.') (h : Laid false ms rest) :
    Laid newLine ((.symbol c, newLine) :: ms) (c :: rest) :=
  @step newLine ms (.symbol c) c [] rest
    (blankLength?_of_not _ (isBlank_of_mem c hc) (ne_slash_of_mem c hc))
    (lexemeAt_symbol hc fun e => absurd e point) h

theorem quoted {text : String} (ht : ∀ c ∈ text.toList, isQuotable c = true)
    (h : Laid false ms rest) :
    Laid newLine ((.string (inQuotes text), newLine) :: ms)
      ('"' :: (text.toList ++ '"' :: rest)) := by
  have found := lexemeAt_quote ht rest
  rw [String.ofList_toList] at found
  have split : text.toList ++ '"' :: rest = (text.toList ++ ['"']) ++ rest := by simp
  have length : text.toList.length + 1 = (text.toList ++ ['"']).length := by simp
  rw [split, length] at found
  rw [split]
  exact step (blankLength?_of_not _ (by decide) (by decide)) found h

end Laid

/-! ### Single tokens -/

section SingleTokens

variable {t : Token}

theorem token_cons (t : Token) (rest : List Token) : token false (t :: rest) = some (t, rest) := rfl

theorem symbol_of_eq {c : Char} (h : t.lexeme = .symbol c) (rest : List Token) :
    symbol false c (t :: rest) = some (t.span, rest) := by
  rw [symbol, bind_of_some (token_cons t rest), bind_of_some (require_of_true (by simp [h]) rest)]
  rfl

theorem word_of_eq {text : String} (h : t.lexeme = .word text) (rest : List Token) :
    word false (t :: rest) = some ((text, t.span), rest) := by
  rw [word, bind_of_some (token_cons t rest), h]
  rfl

theorem keyword_of_eq {text : String} (h : t.lexeme = .word text) (rest : List Token) :
    keyword false text (t :: rest) = some (t.span, rest) := by
  rw [keyword, bind_of_some (word_of_eq h rest)]
  exact bind_of_some (require_of_true (by simp) rest)

theorem stringLiteral_of_eq {text : String} (h : t.lexeme = .string text) (rest : List Token) :
    stringLiteral false (t :: rest) = some (text, rest) := by
  rw [stringLiteral, bind_of_some (token_cons t rest), h]
  rfl

theorem terminator_of_newLine (h : t.onNewLine = true) (rest : List Token) :
    terminator (t :: rest) = some ((), { t with onNewLine := false } :: rest) := by
  rw [terminator, h]
  rfl

end SingleTokens

end Source

namespace Draft

open Source Reading

/-! ### Lines -/

/-- What the line of an import is read as. -/
def importSpec (entry : String × String) : ImportSpec :=
  ⟨if lastSegment entry.1 == entry.2 then .own else .name entry.2, entry.1⟩

/-- The tokens that are expected of the line of an import. -/
def importMarks (entry : String × String) : List LineMark :=
  if lastSegment entry.1 == entry.2 then [(.string (inQuotes entry.1), true)]
  else [(.word entry.2, true), (.string (inQuotes entry.1), false)]

/-- The imports have paths that can be quoted, and identifiers for their aliases, none of which is
the underscore. -/
def Readable (entries : List (String × String)) : Prop :=
  ∀ entry ∈ entries, (∀ c ∈ entry.1.toList, isQuotable c = true)
    ∧ isIdentifier entry.2 = true ∧ entry.2 ≠ "_"

/-- The characters of the line of an import. -/
def lineChars (entry : String × String) : List Char := (importLine entry.1 entry.2).toList

variable {entries : List (String × String)} {marks : List LineMark} {rest : List Char}

theorem laid_line {entry : String × String} (quotable : ∀ c ∈ entry.1.toList, isQuotable c = true)
    (identifier : isIdentifier entry.2 = true) (h : Laid true marks rest) :
    Laid true (importMarks entry ++ marks) (lineChars entry ++ rest) := by
  -- behind a name of its own the path is on the line that the word has begun, else it begins it
  have path : ∀ newLine, Laid newLine ((.string (inQuotes entry.1), newLine) :: marks)
      ('"' :: (entry.1.toList ++ '"' :: '\n' :: rest)) := fun newLine =>
    Laid.quoted quotable (Laid.blank (by decide) h)
  rw [importMarks, lineChars, importLine]
  -- a package that is named as its path suggests stands without a word
  split
  · have chars : ("\t\"" ++ entry.1 ++ "\"\n").toList ++ rest
        = '\t' :: '"' :: (entry.1.toList ++ '"' :: '\n' :: rest) := by simp
    rw [chars]
    exact Laid.blank (by decide) (path true)
  · have chars : ("\t" ++ entry.2 ++ " \"" ++ entry.1 ++ "\"\n").toList ++ rest
        = '\t' :: (entry.2.toList ++ ' ' :: '"' :: (entry.1.toList ++ '"' :: '\n' :: rest)) := by
      simp
    rw [chars]
    refine Laid.blank (by decide) (Laid.word identifier ?_ (Laid.blank (by decide) (path false)))
    intro c hc
    rw [← Option.some.inj hc]
    decide

theorem laid_lines (h : Readable entries) (behind : Laid true marks rest) :
    Laid true (entries.flatMap importMarks ++ marks) (entries.flatMap lineChars ++ rest) := by
  induction entries with
  | nil => exact behind
  | cons entry entries ih =>
    obtain ⟨quotable, identifier, -⟩ := h entry List.mem_cons_self
    have there := ih fun other ho => h other (List.mem_cons_of_mem entry ho)
    rw [List.flatMap_cons, List.flatMap_cons, List.append_assoc, List.append_assoc]
    exact laid_line quotable identifier there

/-! ### Reading a line -/

/-- Without a name, the package keeps its own. -/
theorem readImportName_own {t : Token} (point : t.lexeme ≠ .symbol '.')
    (noWord : ∀ text, t.lexeme ≠ .word text) (rest : List Token) :
    readImportName (t :: rest) = some (.own, t :: rest) :=
  (orElse_of_none (bind_of_none (symbol_of_ne point rest))).trans
    (orElse_of_none (bind_of_none (word_of_ne noWord rest)))

/-- The import is read from the tokens of its line, wherever lines end. -/
theorem readImportSpec_line {entry : String × String} (named : entry.2 ≠ "_") {ts : List Token}
    (h : ts.map Token.lexeme = (importMarks entry).map Prod.fst) (rest : List Token) :
    readImportSpec (ts ++ rest) = some (importSpec entry, rest) := by
  rw [importMarks] at h
  rw [importSpec]
  split at h
  · -- there is no word, so the package keeps its own name
    rename_i own
    obtain ⟨t, rfl, ht⟩ := List.map_eq_singleton_iff.1 h
    have name := readImportName_own (by rw [ht]; nofun) (by rw [ht]; nofun) rest
    rw [if_pos own, List.singleton_append, readImportSpec, bind_of_some name,
      bind_of_some (stringLiteral_of_eq ht rest), unquoted_inQuotes]
    rfl
  · rename_i other
    obtain ⟨t, us, rfl, ht, hus⟩ := List.map_eq_cons_iff.1 h
    obtain ⟨u, rfl, hu⟩ := List.map_eq_singleton_iff.1 hus
    -- a word is no point, so the second way of reading a name is taken
    have point : symbol false '.' (t :: u :: rest) = none :=
      symbol_of_ne (by rw [ht]; nofun) (u :: rest)
    have name : readImportName (t :: u :: rest) = some (.name entry.2, u :: rest) := by
      refine (orElse_of_none (bind_of_none point)).trans (orElse_of_some ?_)
      rw [bind_of_some (word_of_eq ht (u :: rest))]
      show (pure (if (entry.2 == "_") = true then ImportName.blank else .name entry.2)
        : Reader ImportName) (u :: rest) = _
      rw [if_neg (by simpa using named)]
      rfl
    rw [if_neg other, List.cons_append, List.singleton_append, readImportSpec, bind_of_some name,
      bind_of_some (stringLiteral_of_eq hu rest), unquoted_inQuotes]
    rfl

theorem map_lexeme_of_lies {ts : List Token} (h : List.Forall₂ Lies marks ts) :
    ts.map Token.lexeme = marks.map Prod.fst := by
  induction h with
  | nil => rfl
  | cons here _ ih => rw [List.map_cons, List.map_cons, here.1, ih]

theorem exists_importMarks (entry : String × String) :
    ∃ lexeme marks, importMarks entry = (lexeme, true) :: marks := by
  unfold importMarks
  split
  · exact ⟨_, _, rfl⟩
  · exact ⟨_, _, rfl⟩

/-- A line that stands behind another one. -/
theorem nextLine {entry : String × String} (named : entry.2 ≠ "_") {ts : List Token}
    (h : List.Forall₂ Lies (importMarks entry) ts) (rest : List Token) :
    (do
      terminator
      readImportSpec : Reader ImportSpec) (ts ++ rest) = some (importSpec entry, rest) := by
  obtain ⟨lexeme, marks, e⟩ := exists_importMarks entry
  have lexemes := map_lexeme_of_lies h
  rw [e] at h
  obtain ⟨t, us, ht, -, rfl⟩ := List.forall₂_cons_left_iff.1 h
  have joined : ({ t with onNewLine := false } :: us).map Token.lexeme
      = (importMarks entry).map Prod.fst := lexemes
  rw [List.cons_append, bind_of_some (terminator_of_newLine ht.2 _)]
  exact readImportSpec_line named joined rest

/-! ### Reading the lines -/

theorem readImportSpec_of_paren {t : Token} (h : t.lexeme = .symbol ')') (rest : List Token) :
    readImportSpec (t :: rest) = none := by
  have name := readImportName_own (by rw [h]; decide) (by rw [h]; nofun) rest
  have path : stringLiteral false (t :: rest) = none := by
    rw [stringLiteral, bind_of_some (token_cons t rest), h]
    rfl
  rw [readImportSpec, bind_of_some name, bind_of_none path]

/-- The import of every line is read, up to the line of the closing parenthesis. -/
theorem repeat_lines (h : Readable entries) {limit : Nat} (enough : entries.length ≤ limit)
    {ts : List Token} (hts : List.Forall₂ Lies (entries.flatMap importMarks) ts)
    {close : Token} (hc : Lies (.symbol ')', true) close) (values : List ImportSpec)
    (behind : List Token) :
    repeatStep (fun values => do
      let value ← (do
        terminator
        readImportSpec)
      pure (value :: values)) limit values (ts ++ close :: behind)
      = some ((entries.map importSpec).reverse ++ values, close :: behind) := by
  -- one step for each entry, and the closing bracket is what no step can read
  induction entries generalizing limit values ts with
  | nil =>
    rw [List.forall₂_nil_left_iff.1 hts]
    refine repeatStep_of_none (bind_of_none ?_) limit
    rw [List.nil_append, bind_of_some (terminator_of_newLine hc.2 behind)]
    exact readImportSpec_of_paren (t := { close with onNewLine := false }) hc.1 behind
  | cons entry entries ih =>
    have some' : limit ≠ 0 := by
      rintro rfl
      exact absurd enough (Nat.not_succ_le_zero _)
    obtain ⟨limit, rfl⟩ := Nat.exists_eq_succ_of_ne_zero some'
    -- the tokens of the first line, and then those of the others
    obtain ⟨-, -, named⟩ := h entry List.mem_cons_self
    rw [List.flatMap_cons] at hts
    obtain ⟨us, vs, rfl, hu, hv⟩ := exists_append_of_forall₂ hts
    have line := nextLine named hu (vs ++ close :: behind)
    have more := ih (fun other ho => h other (List.mem_cons_of_mem entry ho))
      (Nat.le_of_succ_le_succ enough) hv (importSpec entry :: values)
    rw [List.append_assoc, repeatStep_of_some (bind_of_some line), more]
    simp

theorem length_le_flatMap_importMarks (entries : List (String × String)) :
    entries.length ≤ (entries.flatMap importMarks).length := by
  induction entries with
  | nil => exact Nat.le_refl 0
  | cons entry entries ih =>
    obtain ⟨lexeme, marks, e⟩ := exists_importMarks entry
    rw [List.flatMap_cons, e, List.length_append, List.length_cons, List.length_cons]
    omega

/-- The tokens of all imports, the parentheses included. -/
def blockMarks (newLine : Bool) (entries : List (String × String)) : List LineMark :=
  (.word "import", newLine) :: (.symbol '(', false)
    :: (entries.flatMap importMarks ++ [(.symbol ')', true)])

/-- The lines in the parentheses are read as one list. -/
theorem terminatedList_lines (h : Readable entries) (filled : entries ≠ []) {limit : Nat}
    (enough : entries.length ≤ limit) {ts : List Token}
    (hts : List.Forall₂ Lies (entries.flatMap importMarks) ts) {close : Token}
    (hc : Lies (.symbol ')', true) close) (behind : List Token) :
    terminatedList limit readImportSpec (ts ++ close :: behind)
      = some (entries.map importSpec, { close with onNewLine := false } :: behind) := by
  obtain ⟨first, entries, rfl⟩ := List.exists_cons_of_ne_nil filled
  rw [List.flatMap_cons] at hts
  obtain ⟨us, vs, rfl, hu, hv⟩ := exists_append_of_forall₂ hts
  have firstLine := readImportSpec_line (h first List.mem_cons_self).2.2 (map_lexeme_of_lies hu)
    (vs ++ close :: behind)
  have others := repeat_lines (fun other ho => h other (List.mem_cons_of_mem first ho))
    (Nat.le_of_succ_le enough) hv hc [] behind
  rw [List.append_nil] at others
  -- the values are put in front one by one, and turned around in the end
  have more : many limit (do
      terminator
      readImportSpec) (vs ++ close :: behind)
        = some (entries.map importSpec, close :: behind) := by
    rw [many, bind_of_some others]
    show some ((entries.map importSpec).reverse.reverse, close :: behind) = _
    rw [List.reverse_reverse]
  rw [List.append_assoc, terminatedList, bind_of_some (maybe_of_some firstLine)]
  show (many limit _ >>= _) _ = _
  rw [bind_of_some more, bind_of_some (maybe_of_some (terminator_of_newLine hc.2 behind))]
  rfl

/-- The imports are read from the tokens of their lines, whatever stands behind. -/
theorem readItem_block (h : Readable entries) (filled : entries ≠ []) {newLine : Bool}
    {ts : List Token} (hts : List.Forall₂ Lies (blockMarks newLine entries) ts) {g : Grammar}
    (enough : ts.length ≤ g.limit) (behind : List Token) :
    readItem g (ts ++ behind) = some (.imports (entries.map importSpec), behind) := by
  obtain ⟨clause, inside, hw, hi₁, rfl⟩ := List.forall₂_cons_left_iff.1 hts
  obtain ⟨opening, inside₂, ho, hi₂, rfl⟩ := List.forall₂_cons_left_iff.1 hi₁
  obtain ⟨us, last, rfl, hu, hl⟩ := exists_append_of_forall₂ hi₂
  obtain ⟨close, none', hc, hn, rfl⟩ := List.forall₂_cons_left_iff.1 hl
  rw [List.forall₂_nil_left_iff.1 hn] at enough ⊢
  -- each line has a token at least, so there are no more lines than the limit of the grammar
  have few : entries.length ≤ g.limit := by
    have marks := length_le_flatMap_importMarks entries
    have tokens := hu.length_eq
    simp only [List.length_cons, List.length_append] at enough
    omega
  have lines := terminatedList_lines h filled few hu hc behind
  have split : clause :: opening :: (us ++ [close]) ++ behind
      = clause :: opening :: (us ++ close :: behind) := by simp
  have group : oneOrGroup g.limit readImportSpec (opening :: (us ++ close :: behind))
      = some (entries.map importSpec, behind) := by
    refine orElse_of_some ?_
    rw [bind_of_some (symbol_of_eq ho.1 _), bind_of_some lines,
      bind_of_some (symbol_of_eq (t := { close with onNewLine := false }) hc.1 behind)]
    rfl
  rw [split, readItem, bind_of_some (show peek false _ = some (clause, _) from rfl), hw.1]
  show readImports g _ = _
  rw [readImports, bind_of_some (keyword_of_eq hw.1 _), bind_of_some group]
  rfl

/-! ### Reading the text -/

/-- The tokens of the text of the imports: none if there are no imports. -/
def textMarks (newLine : Bool) (entries : List (String × String)) : List LineMark :=
  if entries.isEmpty then [] else blockMarks newLine entries

/-- What the text of the imports is read as. -/
def importItems (entries : List (String × String)) : List Item :=
  if entries.isEmpty then [] else [.imports (entries.map importSpec)]

theorem laid_importsText {table : ImportTable} (h : Readable table.entries) (newLine : Bool) :
    Laid newLine (textMarks true table.entries) (importsText table).toList := by
  rw [importsText, textMarks]
  split
  · exact Laid.nil
  · have lines : (String.join (table.entries.map fun entry => importLine entry.1 entry.2)).toList
        = table.entries.flatMap lineChars := by
      rw [String.toList_join, List.flatMap_map]
      rfl
    have chars : ("\nimport (\n" ++ String.join (table.entries.map fun entry =>
          importLine entry.1 entry.2) ++ ")\n").toList
        = '\n' :: ("import".toList
          ++ ' ' :: '(' :: '\n' :: (table.entries.flatMap lineChars ++ [')', '\n'])) := by
      rw [String.toList_append, String.toList_append, lines]
      simp
    -- the word, the brackets and the lines between them, one after the other
    rw [chars]
    refine Laid.blank (by decide) ?_
    rw [show (newLine || '\n' == '\n') = true by simp]
    refine Laid.word (by decide) ?_ ?_
    · intro c hc
      rw [← Option.some.inj hc]
      decide
    · refine Laid.blank (by decide) (Laid.symbol (by decide) (by decide) ?_)
      refine Laid.blank (by decide) (laid_lines h (Laid.symbol (by decide) (by decide) ?_))
      exact Laid.blank (by decide) Laid.nil

theorem lies_tokens {s : List Char} (h : Laid false marks s)
    (mark : s.head? ≠ some '\ufeff') : List.Forall₂ Lies marks (tokens s) := by
  rw [tokens]
  · exact h 0 Place.start false
  · intro rest e
    exact mark (by rw [e]; rfl)

theorem readItems_nil (g : Grammar) (steps : Nat) : readItems g steps [] = ([], true) := by
  cases steps with
  | zero => rfl
  | succ steps => rfl

/-- The imports are read to the end of the tokens. -/
theorem readItems_imports (h : Readable entries) {newLine : Bool} {ts : List Token}
    (hts : List.Forall₂ Lies (textMarks newLine entries) ts) {g : Grammar}
    (enough : ts.length ≤ g.limit) (steps : Nat) :
    readItems g (steps + 1) ts = (importItems entries, true) := by
  rw [textMarks] at hts
  rw [importItems]
  split at hts
  · rename_i none'
    rw [List.forall₂_nil_left_iff.1 hts, if_pos none']
    rfl
  · rename_i filled
    have read := readItem_block h (by simpa using filled) hts enough []
    obtain ⟨t, us, -, -, rfl⟩ := List.forall₂_cons_left_iff.1 hts
    rw [List.append_nil] at read
    rw [if_neg filled, readItems, read]
    show (let more := readItems g steps []
      (Item.imports (entries.map importSpec) :: more.1, more.2)) = _
    rw [readItems_nil]

theorem terminator_imports {ts : List Token}
    (hts : List.Forall₂ Lies (textMarks true entries) ts) :
    ∃ next, terminator ts = some ((), next) ∧ next.length = ts.length
      ∧ List.Forall₂ Lies (textMarks false entries) next := by
  unfold textMarks at hts ⊢
  by_cases none' : entries.isEmpty = true
  · rw [if_pos none'] at hts ⊢
    rw [List.forall₂_nil_left_iff.1 hts]
    exact ⟨[], rfl, rfl, List.Forall₂.nil⟩
  · rw [if_neg none'] at hts ⊢
    obtain ⟨t, us, ht, hu, rfl⟩ := List.forall₂_cons_left_iff.1 hts
    exact ⟨_, terminator_of_newLine ht.2 us, rfl, List.Forall₂.cons ⟨ht.1, rfl⟩ hu⟩

/-- The package clause is read in front of the imports. -/
theorem readItems_clause (h : Readable entries) {packageName : String} {ts : List Token}
    (hts : List.Forall₂ Lies ((.word "package", false) :: (.word packageName, false)
      :: textMarks true entries) ts) {g : Grammar} (enough : ts.length ≤ g.limit) :
    readItems g (ts.length + 1) ts = (.package packageName :: importItems entries, true) := by
  obtain ⟨clause, more₁, hc, hm₁, rfl⟩ := List.forall₂_cons_left_iff.1 hts
  obtain ⟨name, more₂, hn, hm₂, rfl⟩ := List.forall₂_cons_left_iff.1 hm₁
  obtain ⟨next, ended, length, hm⟩ := terminator_imports hm₂
  have read : readItem g (clause :: name :: more₂) = some (.package packageName, more₂) := by
    rw [readItem, bind_of_some (show peek false _ = some (clause, _) from rfl), hc.1]
    show readPackage _ = _
    rw [readPackage, bind_of_some (keyword_of_eq hc.1 _), bind_of_some (word_of_eq hn.1 more₂)]
    rfl
  -- the clause has been read, so the block of imports is all that is left
  have imports := readItems_imports h hm (g := g) (by
    simp only [List.length_cons] at enough
    omega) (more₂.length + 1)
  rw [readItems, read]
  dsimp only
  rw [ended]
  show (let more := readItems g (more₂.length + 1 + 1) next; (_ :: more.1, more.2)) = _
  rw [imports]

/-- The imports are read back from their text. -/
theorem ofText_importsText {table : ImportTable} (h : Readable table.entries) :
    File.ofText (importsText table) = ⟨importItems table.entries, true⟩ := by
  have start : (importsText table).toList.head? ≠ some '\ufeff' := by
    rw [importsText]
    split
    · decide
    · simp
  have lies := lies_tokens (laid_importsText h false) start
  have read := readItems_imports h lies (g := grammarFor (tokens (importsText table).toList))
    (by rw [grammarFor, limit_grammar]; exact Nat.le_succ _)
    (tokens (importsText table).toList).length
  rw [File.ofText, File.ofTokens, read]

/-- The package clause and the imports are read back from a file without declarations. -/
theorem ofText_assemble {packageName : String} (named : isIdentifier packageName = true)
    {table : ImportTable} (h : Readable table.entries) :
    File.ofText (assemble ⟨packageName, [], table, []⟩)
      = ⟨.package packageName :: importItems table.entries, true⟩ := by
  have chars : (assemble ⟨packageName, [], table, []⟩).toList
      = "package".toList ++ ' ' :: (packageName.toList ++ '\n' :: (importsText table).toList) := by
    simp [assemble, headerText]
  have laid : Laid false ((.word "package", false) :: (.word packageName, false)
      :: textMarks true table.entries) (assemble ⟨packageName, [], table, []⟩).toList := by
    rw [chars]
    refine Laid.word (by decide) ?_ (Laid.blank (by decide) (Laid.word named ?_ ?_))
    · intro c hc
      rw [← Option.some.inj hc]
      decide
    · intro c hc
      rw [← Option.some.inj hc]
      decide
    · exact Laid.blank (by decide) (laid_importsText h true)
  -- the tokens lie as the text is laid, and the grammar is as large as there are tokens
  have lies := lies_tokens laid (by rw [chars]; simp)
  have read := readItems_clause h (lies_tokens laid (by rw [chars]; simp))
    (g := grammarFor (tokens (assemble ⟨packageName, [], table, []⟩).toList))
    (by rw [grammarFor, limit_grammar]; exact Nat.le_succ _)
  rw [File.ofText, File.ofTokens, read]

end Draft

end WrapperGen
