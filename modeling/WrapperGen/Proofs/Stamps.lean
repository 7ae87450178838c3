import WrapperGen.Calendar
import WrapperGen.Output.Emission
import WrapperGen.Output.Wrapper
import WrapperGen.Proofs.EmitRules
import WrapperGen.Proofs.Numeral

/-!
# The time in generated files

A generated file names the time at which it was made in the third line of the comment at the top.
The wrappers do not look at that comment, so that the rest of the text is the same at any time.  And
whether the text is well formed does not depend on the time either: to the reader of a file the
comment is blank, and a time of the same length moves nothing.

## Main definitions

* `FitsLine`: a text that ends no comment.
* `stampedText`: the text of a generated file, from the time and what stands behind it.
* `StampsAlike`: two times that may stand for each other.
* `OffHeader`: a computation that does not look at the comment at the top.
* `Emitter.body`, `Emitter.text`: what the text of a file is made from, and the text.
* `Emitter.restamped`: the same with another clock.

## Main results

* `tokens_stampedText`: where the tokens of a generated file begin.
* `isWellFormed_stampedText`: a file is well formed at any time.
* `stampsAlike_timestampText`: any two moments before the year 10000 may stand for each other.
* `Emitter.fileText_restamped`, `Emitter.planTexts_restamped`: the texts at another time.
-/

namespace WrapperGen

open Source

/-! ### Comments -/

/-- A text that ends no comment in whose line it stands. -/
def FitsLine (text : String) : Prop := ∀ c ∈ text.toList, isLineCommentChar c = true

theorem FitsLine.append {first second : String} (h : FitsLine first) (h' : FitsLine second) :
    FitsLine (first ++ second) := by
  intro c hc
  rw [String.toList_append, List.mem_append] at hc
  exact hc.elim (h c) (h' c)

theorem line_after {line : List Char} (fits : ∀ c ∈ line, isLineCommentChar c = true)
    (place : Place) : (place.after line).line = place.line := by
  induction line generalizing place with
  | nil => rfl
  | cons c rest ih =>
    have noEnd : (c == '\n') = false := by
      have here := fits c List.mem_cons_self
      simp only [isLineCommentChar, Bool.and_eq_true, bne_iff_ne] at here
      simpa using here.1
    have behind := ih (fun d hd => fits d (List.mem_cons_of_mem c hd)) (place.step c)
    rw [Place.after, List.foldl_cons]
    refine behind.trans ?_
    rw [Place.step, noEnd]
    rfl

/-- Reading goes on behind a comment of one line. -/
theorem tokensFrom_comment {line : List Char} (fits : ∀ c ∈ line, isLineCommentChar c = true)
    (offset : Nat) (place : Place) (onNewLine joined : Bool) (rest : List Char) :
    tokensFrom offset place onNewLine joined ('/' :: '/' :: (line ++ '\n' :: rest))
      = tokensFrom (offset + line.length + 3) ⟨place.line + 1, 1⟩ true false rest := by
  have stop : isLineCommentChar '\n' = false := by decide
  -- a comment reaches to the end of its line, and that ends the blank in front of what follows
  have comment : blankLength? '/' ('/' :: (line ++ '\n' :: rest)) = some (line.length + 1) := by
    have letters : (line ++ '\n' :: rest).takeWhile isLineCommentChar = line := by
      rw [List.takeWhile_append_of_pos fits, List.takeWhile_cons_of_neg (by simp [stop]),
        List.append_nil]
    rw [blankLength?, if_neg (by decide), if_pos (by decide)]
    simp only [letters]
  have ending : blankLength? '\n' rest = some 0 := by
    unfold blankLength?
    exact if_pos (by decide)
  have behind : ((place.after ('/' :: '/' :: line)).after ['\n']) = ⟨place.line + 1, 1⟩ := by
    -- a comment has no end of line in it, so it moves the place only along its line
    have slashes : ∀ c ∈ '/' :: '/' :: line, isLineCommentChar c = true := by
      intro c hc
      rcases List.mem_cons.1 hc with rfl | hc
      · decide
      · rcases List.mem_cons.1 hc with rfl | hc
        · decide
        · exact fits c hc
    show Place.step _ '\n' = _
    rw [Place.step, if_pos (by decide), line_after slashes]
  rw [tokensFrom, comment]
  simp only [List.drop_succ_cons, List.drop_left, List.take_succ_cons, List.take_left]
  rw [tokensFrom, ending]
  simp only [List.take_zero, List.drop_zero, behind]
  rw [show offset + (line.length + 1) + 1 + 0 + 1 = offset + line.length + 3 by omega]
  simp

/-! ### The comment at the top -/

/-- A line of the comment. -/
def commentLine (line : String) : String := "// " ++ line ++ "\n"

/-- The text of a generated file, from the time that it names and what stands behind that. -/
def stampedText (tool : Tool) (stamp rest : String) : String :=
  commentLine ("Code generated by " ++ tool.name ++ " " ++ tool.version ++ "; DO NOT EDIT.")
    ++ commentLine "This file was generated by robots at" ++ commentLine stamp ++ rest

theorem toList_commentLine (line : String) (rest : List Char) :
    (commentLine line).toList ++ rest = '/' :: '/' :: ((" " ++ line).toList ++ '\n' :: rest) := by
  simp [commentLine]

/-- Two times that may stand for each other in the files of a program. -/
structure StampsAlike (tool : Tool) (stamp other : String) : Prop where
  /-- The name of the program fits into a line. -/
  name : FitsLine tool.name
  /-- So does its version. -/
  version : FitsLine tool.version
  /-- So does the one time. -/
  one : FitsLine stamp
  /-- So does the other. -/
  another : FitsLine other
  /-- They are equally long. -/
  length : stamp.length = other.length

/-- The tokens of a generated file are those behind the time, which stands in the third line. -/
theorem tokens_stampedText {tool : Tool} {stamp : String} (name : FitsLine tool.name)
    (version : FitsLine tool.version) (fits : FitsLine stamp) (rest : String) :
    tokens (stampedText tool stamp rest).toList
      = tokensFrom (tool.name.length + tool.version.length + stamp.length + 81) ⟨4, 1⟩ true false
          rest.toList := by
  have blank : FitsLine " " := List.all_eq_true.1 (by decide)
  have start : FitsLine "Code generated by " := List.all_eq_true.1 (by decide)
  have ending : FitsLine "; DO NOT EDIT." := List.all_eq_true.1 (by decide)
  have robots : FitsLine "This file was generated by robots at" :=
    List.all_eq_true.1 (by decide)
  -- three comment lines, of which only the last one holds the time
  have first := blank.append ((((start.append name).append blank).append version).append ending)
  unfold stampedText
  rw [String.toList_append, String.toList_append, String.toList_append, List.append_assoc,
    List.append_assoc, toList_commentLine, tokens, tokensFrom_comment first, toList_commentLine,
    tokensFrom_comment (blank.append robots), toList_commentLine,
    tokensFrom_comment (blank.append fits)]
  -- the offset counts the characters of these lines with their slashes and ends
  · have lengths : " ".length = 1 ∧ "Code generated by ".length = 18 ∧ "; DO NOT EDIT.".length = 14
        ∧ "This file was generated by robots at".length = 36 := by decide
    congr 1
    simp only [String.length_toList, String.length_append]
    omega
  · simp

/-- Whether a generated file is well formed does not depend on the time that it names. -/
theorem isWellFormed_stampedText {tool : Tool} {stamp other : String}
    (h : StampsAlike tool stamp other) (rest : String) :
    isWellFormed (stampedText tool stamp rest) = isWellFormed (stampedText tool other rest) := by
  unfold isWellFormed File.ofText
  rw [tokens_stampedText h.name h.version h.one, tokens_stampedText h.name h.version h.another,
    h.length]

/-! ### Moments -/

theorem isLineCommentChar_of_isDigit {c : Char} (h : c.isDigit = true) :
    isLineCommentChar c = true := by
  have ne : ∀ d : Char, d.isDigit = false → (c != d) = true := by
    rintro d other
    exact bne_iff_ne.2 fun e => by simp [e, other] at h
  exact Bool.and_eq_true_iff.2 ⟨ne _ (by decide), ne _ (by decide)⟩

theorem fitsLine_padNumber (width n : Nat) : FitsLine (padNumber width n) := by
  refine FitsLine.append (fun c hc => ?_) fun c hc => ?_
  · rw [String.toList_ofList] at hc
    rw [List.eq_of_mem_replicate hc]
    decide
  · rw [Nat.toString_eq_repr, Nat.repr, String.toList_ofList] at hc
    exact isLineCommentChar_of_isDigit (isDigit_of_mem_toDigits c hc)

theorem length_padNumber {width n : Nat} (pos : 0 < width) (h : n < Nat.pow 10 width) :
    (padNumber width n).length = width := by
  have digits : (toString n).length ≤ width := by
    rw [Nat.toString_eq_repr, Nat.repr, String.length_ofList]
    exact (Nat.length_toDigits_le_iff (by decide) pos).2 h
  unfold padNumber
  dsimp only
  rw [String.length_append, String.length_ofList, List.length_replicate]
  omega

theorem daysInMonth_le (year month : Nat) : daysInMonth year month ≤ 31 := by
  unfold daysInMonth
  split
  · split <;> omega
  · split <;> omega

theorem dateInMonths_le {year days : Nat} {months : List Nat} (h : ∀ month ∈ months, month ≤ 12) :
    (dateInMonths year days months).month ≤ 12 ∧ (dateInMonths year days months).day ≤ 31 := by
  induction months generalizing days with
  | nil => exact ⟨Nat.le_refl _, Nat.le_refl _⟩
  | cons month rest ih =>
    unfold dateInMonths
    by_cases here : days < daysInMonth year month
    · rw [if_pos here]
      exact ⟨h month List.mem_cons_self, Nat.le_trans here (daysInMonth_le year month)⟩
    · rw [if_neg here]
      exact ih fun m hm => h m (List.mem_cons_of_mem month hm)

theorem dateInYears_le (year days : Nat) :
    (dateInYears year days).month ≤ 12 ∧ (dateInYears year days).day ≤ 31 := by
  fun_induction dateInYears year days with
  | case1 year days _ => exact dateInMonths_le (by decide)
  | case2 year days _ ih => exact ih

theorem dateOfDay_le (days : Nat) : (dateOfDay days).month ≤ 12 ∧ (dateOfDay days).day ≤ 31 :=
  dateInYears_le 1970 days

/-- A moment is written in one line. -/
theorem fitsLine_timestampText (seconds : Nat) : FitsLine (timestampText seconds) := by
  have number := fitsLine_padNumber
  have dash : FitsLine "-" := List.all_eq_true.1 (by decide)
  have colon : FitsLine ":" := List.all_eq_true.1 (by decide)
  have between : FitsLine "T" := List.all_eq_true.1 (by decide)
  have zone : FitsLine "Z" := List.all_eq_true.1 (by decide)
  have date (year month day : Nat) :=
    ((((number 4 year).append dash).append (number 2 month)).append dash).append (number 2 day)
  exact (((((((date _ _ _).append between).append (number 2 _)).append colon).append
    (number 2 _)).append colon).append (number 2 _)).append zone

/-- A moment before the year 10000 is written in one line of a fixed length. -/
theorem timestampText_fits {seconds : Nat} (h : (dateOfDay (seconds / 86400)).year < 10000) :
    FitsLine (timestampText seconds) ∧ (timestampText seconds).length = 20 := by
  refine ⟨fitsLine_timestampText seconds, ?_⟩
  have pair {n : Nat} (small : n < 100) : (padNumber 2 n).length = 2 :=
    length_padNumber (by decide) small
  obtain ⟨month, day⟩ := dateOfDay_le (seconds / 86400)
  have signs : "-".length = 1 ∧ ":".length = 1 ∧ "T".length = 1 ∧ "Z".length = 1 := by decide
  unfold timestampText
  simp only [String.length_append, signs]
  rw [length_padNumber (by decide) h, pair (Nat.lt_of_le_of_lt month (by decide)),
    pair (Nat.lt_of_le_of_lt day (by decide)), pair (by omega), pair (by omega), pair (by omega)]

/-- Two moments before the year 10000 may stand for each other. -/
theorem stampsAlike_timestampText {tool : Tool} {seconds later : Nat} (name : FitsLine tool.name)
    (version : FitsLine tool.version) (h : (dateOfDay (seconds / 86400)).year < 10000)
    (h' : (dateOfDay (later / 86400)).year < 10000) :
    StampsAlike tool (timestampText seconds) (timestampText later) where
  name := name
  version := version
  one := (timestampText_fits h).1
  another := (timestampText_fits h').1
  length := (timestampText_fits h).2.trans (timestampText_fits h').2.symm

/-! ### Writing without looking at the comment -/

/-- A computation that neither looks at the comment at the top of a file nor changes it. -/
def OffHeader (m : StateM Draft Unit) : Prop :=
  ∀ (d : Draft) (header : List String),
    (m.run { d with header := header }).2 = { (m.run d).2 with header := header }

namespace OffHeader

variable {m k : StateM Draft Unit}

theorem pure : OffHeader (Pure.pure ()) := fun _ _ => rfl

theorem declaration (text : String) : OffHeader (modify (Draft.addDeclaration text)) :=
  fun _ _ => rfl

theorem andThen (hm : OffHeader m) (hk : OffHeader k) : OffHeader (do m; k) := by
  intro d header
  show (k.run (m.run { d with header := header }).2).2 = _
  rw [hm]
  exact hk _ header

theorem naming {α : Type} {step : StateM ImportTable α} {rest : α → StateM Draft Unit}
    (h : ∀ a, OffHeader (rest a)) : OffHeader (Draft.naming step >>= rest) :=
  fun d header => h (step.run d.imports).1 { d with imports := (step.run d.imports).2 } header

end OffHeader

theorem offHeader_writeMethods (name home : String) (methods : List (Method WrittenName)) :
    OffHeader (writeMethods name home methods) := by
  induction methods with
  | nil => exact OffHeader.pure
  | cons m rest ih =>
    exact OffHeader.naming fun method => (OffHeader.declaration method.text).andThen ih

theorem offHeader_writeWrapper (namePrefix : String) (i : Interface) :
    OffHeader (writeWrapper namePrefix i) :=
  OffHeader.naming fun type =>
    (OffHeader.declaration (wrapperStruct (wrapperName namePrefix i) type).text).andThen
      ((OffHeader.declaration (wrapperConstructor (wrapperName namePrefix i) type).text).andThen
        (offHeader_writeMethods _ _ _))

/-! ### Emitting at another time -/

namespace Emitter

variable {e : Emitter} {clock : Clock} {look : Nat} {interfaces : List Interface}

/-- The lines of the comment at the top that stand behind the time. -/
def linesBehindStamp (e : Emitter) : List String :=
  ["using the command", "$ " ++ " ".intercalate e.tool.command]

/-- What the text of a file is made from, the time apart. -/
def body (e : Emitter) (interfaces : List Interface) : String :=
  ((e.generateAll interfaces).run
    ⟨e.settings.packageName, e.linesBehindStamp, .empty, []⟩).2.assemble

/-- The text that is made from a body at a look at the clock. -/
def text (e : Emitter) (made : Nat × String) : String :=
  stampedText e.tool (e.clock.shows made.1) made.2

/-- The same emitter with another clock. -/
def restamped (e : Emitter) (clock : Clock) : Emitter := { e with clock := clock }

theorem generateAll_restamped :
    (e.restamped clock).generateAll interfaces = e.generateAll interfaces := by
  induction interfaces with
  | nil => rfl
  | cons i rest ih =>
    rw [generateAll, generateAll, ih]
    rfl

theorem body_restamped : (e.restamped clock).body interfaces = e.body interfaces := by
  rw [body, body, generateAll_restamped]
  rfl

theorem offHeader_generateAll (wrappers : e.generate = writeWrapper) :
    OffHeader (e.generateAll interfaces) := by
  induction interfaces with
  | nil => exact OffHeader.pure
  | cons i rest ih =>
    have first : OffHeader (e.generate e.settings.namePrefix i) :=
      wrappers ▸ offHeader_writeWrapper _ _
    exact first.andThen ih

/-- What a file consists of. -/
theorem assemble_draft (wrappers : e.generate = writeWrapper) :
    (e.draft look interfaces).assemble = e.text (look, e.body interfaces) := by
  have off : OffHeader (e.generateAll interfaces) := offHeader_generateAll wrappers
  have whole := off ⟨e.settings.packageName, e.linesBehindStamp, .empty, []⟩
    (headerLines e.tool (e.clock.shows look))
  have same := off ⟨e.settings.packageName, e.linesBehindStamp, .empty, []⟩ e.linesBehindStamp
  have header := congrArg Draft.header same
  unfold draft text body
  rw [show Draft.withHeader e.settings.packageName e.tool (e.clock.shows look)
    = { (⟨e.settings.packageName, e.linesBehindStamp, .empty, []⟩ : Draft) with
        header := headerLines e.tool (e.clock.shows look) } from rfl, whole]
  generalize ((e.generateAll interfaces).run
    ⟨e.settings.packageName, e.linesBehindStamp, .empty, []⟩).2 = d at header ⊢
  simp only [Draft.assemble, Draft.headerText, header, headerLines, linesBehindStamp, stampedText,
    commentLine, List.isEmpty_cons, Bool.false_eq_true, if_false, List.map_cons, List.map_nil,
    String.join_cons, String.join_nil, String.append_assoc, String.append_empty]

/-- The text of a file at another time. -/
theorem fileText_restamped (wrappers : e.generate = writeWrapper)
    (alike : ∀ look, StampsAlike e.tool (e.clock.shows look) (clock.shows look)) {text : String}
    (h : e.fileText look interfaces = .ok text) :
    text = e.text (look, e.body interfaces)
      ∧ (e.restamped clock).fileText look interfaces
        = .ok ((e.restamped clock).text (look, e.body interfaces)) := by
  unfold fileText Draft.text? at h ⊢
  rw [assemble_draft wrappers] at h
  rw [assemble_draft (e := e.restamped clock) wrappers, body_restamped]
  have same : isWellFormed (e.text (look, e.body interfaces))
      = isWellFormed ((e.restamped clock).text (look, e.body interfaces)) :=
    isWellFormed_stampedText (alike look) _
  rw [← same]
  by_cases sound : isWellFormed (e.text (look, e.body interfaces)) = true
  · rw [if_pos sound] at h ⊢
    exact ⟨(Except.ok.inj h).symm, rfl⟩
  · rw [if_neg sound] at h
    cases h

/-- The texts of planned files at another time. -/
theorem planTexts_restamped (wrappers : e.generate = writeWrapper)
    (alike : ∀ look, StampsAlike e.tool (e.clock.shows look) (clock.shows look))
    {planned : List (Interface × Path)} {files : List (Path × String)}
    (h : e.planTexts look planned = .ok files) :
    ∃ made : List (Path × (Nat × String)),
      files = made.map (fun file => (file.1, e.text file.2))
      ∧ (e.restamped clock).planTexts look planned
        = .ok (made.map fun file => (file.1, (e.restamped clock).text file.2)) := by
  induction planned generalizing look files with
  | nil =>
    obtain rfl := Except.ok.inj h
    exact ⟨[], rfl, rfl⟩
  | cons entry rest ih =>
    obtain ⟨i, path⟩ := entry
    obtain ⟨text, more, first, behind, rfl⟩ := exists_of_planTexts_cons h
    obtain ⟨rfl, again⟩ := fileText_restamped wrappers alike first
    obtain ⟨made, rfl, againToo⟩ := ih behind
    exact ⟨(path, look, e.body [i]) :: made, rfl, planTexts_cons again againToo⟩

end Emitter

end WrapperGen
