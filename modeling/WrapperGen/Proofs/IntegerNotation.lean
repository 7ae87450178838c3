import Mathlib.Data.List.Basic
import Mathlib.Data.Nat.Init
import WrapperGen.Output.TypeText
import WrapperGen.Source.Literal

/-!
# Notations of integers

An integer literal is a decimal numeral, or a zero that announces another base: with a letter behind
it the base sixteen, two or eight, and without a letter the base eight.  An underscore may stand
between two digits, and between the announcement and the first digit.  Letters are of either case.

The notation is stated here by the values of the digits, from the first one on, and apart from the
reader, which drops the underscores and looks at the second character to find the base.

## Main definitions

* `Digits`: digits of a base, with the number that they stand for.
* `IntegerLiteral`: a text is an integer literal for a number.

## Main results

* `plainValue?_of_literal`: the reader finds the number that a literal stands for.
* `integerLiteral_toString`: a decimal numeral is a literal for its number.
* `exists_literal_of_numberAt`: what the scanner takes for an integer is a literal for some number.
* `integerValue?_literals`: literals are read at their values, as far as these fit into 64 bits.
-/

namespace WrapperGen.Source

/-! ### The notation -/

/-- A character is a digit of a base, with a value.  Behind the nine, digits are letters. -/
def IsDigitOf (base : Nat) (c : Char) (value : Nat) : Prop :=
  value < base ∧ (c = Nat.digitChar value ∨ c = (Nat.digitChar value).toUpper)

instance (base : Nat) (c : Char) (value : Nat) : Decidable (IsDigitOf base c value) :=
  inferInstanceAs (Decidable (_ ∧ _))

/-- What may stand in front of a digit: nothing, or one underscore. -/
def gaps : List (List Char) := [[], ['_']]

/-- Digits of a base, and the number that they stand for. -/
inductive Digits (base : Nat) : List Char → Nat → Prop
  /-- A single digit. -/
  | first {c value} : IsDigitOf base c value → Digits base [c] value
  /-- Another digit behind them. -/
  | next {s n gap c value} : Digits base s n → gap ∈ gaps → IsDigitOf base c value →
      Digits base (s ++ gap ++ [c]) (n * base + value)

/-- What stands behind a zero that announces a base. -/
def baseMarks : List (List Char × Nat) :=
  [([], 8), (['x'], 16), (['X'], 16), (['b'], 2), (['B'], 2), (['o'], 8), (['O'], 8)]

/-- A text is an integer literal for a number. -/
inductive IntegerLiteral : List Char → Nat → Prop
  /-- The zero alone. -/
  | zero : IntegerLiteral ['0'] 0
  /-- A decimal numeral, which does not begin with a zero. -/
  | decimal {s n} : Digits 10 s n → s.head? ≠ some '0' → IntegerLiteral s n
  /-- A zero, the announcement of a base and digits of it. -/
  | based {mark base gap s n} : (mark, base) ∈ baseMarks → gap ∈ gaps → Digits base s n →
      IntegerLiteral ('0' :: (mark ++ gap ++ s)) n

/-! ### Digits -/

/-- The characters that are read as digits of a base. -/
def digitClass : Nat → Char → Bool
  | 2 => isBinaryDigit
  | 8 => isOctalDigit
  | 16 => isHexDigit
  | _ => Char.isDigit

/-- The bases in which integers are written. -/
def bases : List Nat := [2, 8, 10, 16]

theorem isHexDigit_of_digitClass {base : Nat} {c : Char} (h : digitClass base c = true) :
    isHexDigit c = true := by
  unfold digitClass at h
  split at h
  · rw [isBinaryDigit, Bool.or_eq_true, beq_iff_eq, beq_iff_eq] at h
    rcases h with rfl | rfl <;> decide
  · rw [isOctalDigit, Bool.and_eq_true, decide_eq_true_eq, decide_eq_true_eq] at h
    have digit : c.isDigit = true := by
      rw [Char.isDigit_iff_toNat]
      exact ⟨h.1, Nat.le_trans h.2 (by decide)⟩
    rw [isHexDigit, digit, Bool.true_or, Bool.true_or]
  · exact h
  · rw [isHexDigit, h, Bool.true_or, Bool.true_or]

/-- The codes of the characters that are digits of some base. -/
def digitCodes : List Nat := List.range' 48 10 ++ List.range' 97 6 ++ List.range' 65 6

theorem mem_digitCodes_of_isHexDigit {c : Char} (h : isHexDigit c = true) :
    c.toNat ∈ digitCodes := by
  simp only [isHexDigit, Bool.or_eq_true, Bool.and_eq_true, decide_eq_true_eq,
    Char.isDigit_iff_toNat] at h
  simp only [digitCodes, List.mem_append, List.mem_range'_1]
  rcases h with (digit | lower) | upper
  · have low : 48 ≤ c.toNat := digit.1
    have high : c.toNat ≤ 57 := digit.2
    omega
  · have low : 97 ≤ c.toNat := lower.1
    have high : c.toNat ≤ 102 := lower.2
    omega
  · have low : 65 ≤ c.toNat := upper.1
    have high : c.toNat ≤ 70 := upper.2
    omega

/-- A character has the value of a digit exactly if it is read as one with that value. -/
theorem isDigitOf_iff {base : Nat} (hb : base ∈ bases) {c : Char} {value : Nat} :
    IsDigitOf base c value ↔ digitClass base c = true ∧ digitValue c = value := by
  constructor
  · rintro ⟨small, letter⟩
    have all : ∀ base ∈ bases, ∀ value < base,
        (digitClass base (Nat.digitChar value) = true ∧ digitValue (Nat.digitChar value) = value)
          ∧ digitClass base (Nat.digitChar value).toUpper = true
            ∧ digitValue (Nat.digitChar value).toUpper = value := by decide
    rcases letter with rfl | rfl
    · exact (all base hb value small).1
    · exact (all base hb value small).2
  · rintro ⟨digit, rfl⟩
    have all : ∀ base ∈ bases, ∀ code ∈ digitCodes, digitClass base (Char.ofNat code) = true →
        IsDigitOf base (Char.ofNat code) (digitValue (Char.ofNat code)) := by decide
    have code := mem_digitCodes_of_isHexDigit (isHexDigit_of_digitClass digit)
    have here := all base hb c.toNat code
    rw [Char.ofNat_toNat] at here
    exact here digit

theorem digitClass_underscore {base : Nat} (hb : base ∈ bases) :
    digitClass base '_' = false := by
  have all : ∀ base ∈ bases, digitClass base '_' = false := by decide
  exact all base hb

theorem ne_underscore_of_isDigitOf {base : Nat} (hb : base ∈ bases) {c : Char} {value : Nat}
    (h : IsDigitOf base c value) : c ≠ '_' := by
  rintro rfl
  have digit := ((isDigitOf_iff hb).1 h).1
  rw [digitClass_underscore hb] at digit
  cases digit

/-! ### Values -/

/-- A text without its underscores, as it is read. -/
def withoutGaps (s : List Char) : List Char := s.filter (· != '_')

theorem nil_mem_gaps : [] ∈ gaps := List.mem_cons_self

theorem underscore_mem_gaps : ['_'] ∈ gaps := by decide

theorem withoutGaps_of_mem_gaps {gap : List Char} (h : gap ∈ gaps) : withoutGaps gap = [] := by
  have all : ∀ gap ∈ gaps, withoutGaps gap = [] := by decide
  exact all gap h

theorem valueOfDigits?_concat {base n : Nat} {isDigit : Char → Bool} {digits : List Char} {c : Char}
    (h : valueOfDigits? base isDigit digits = some n) (hc : isDigit c = true) :
    valueOfDigits? base isDigit (digits ++ [c]) = some (n * base + digitValue c) := by
  unfold valueOfDigits? at h ⊢
  split at h
  · cases h
  · next known =>
    obtain rfl := Option.some.inj h
    have all : digits.all isDigit = true := by
      simp only [Bool.or_eq_true, not_or, Bool.not_eq_true, Bool.not_eq_false'] at known
      exact known.2
    rw [if_neg (by simp [all, hc]), List.foldl_append, List.foldl_cons, List.foldl_nil]

theorem withoutGaps_digit {base value : Nat} (hb : base ∈ bases) {c : Char}
    (digit : IsDigitOf base c value) : withoutGaps [c] = [c] := by
  simpa [withoutGaps] using ne_underscore_of_isDigitOf hb digit

theorem withoutGaps_append (s t : List Char) :
    withoutGaps (s ++ t) = withoutGaps s ++ withoutGaps t := List.filter_append s t

/-- Digits have the value that is read when the underscores are dropped. -/
theorem Digits.valueOfDigits? {base n : Nat} {s : List Char} (hb : base ∈ bases)
    (h : Digits base s n) :
    valueOfDigits? base (digitClass base) (withoutGaps s) = some n := by
  induction h with
  | first digit =>
    rw [withoutGaps_digit hb digit]
    obtain ⟨isDigit, rfl⟩ := (isDigitOf_iff hb).1 digit
    rw [Source.valueOfDigits?, if_neg (by simp [isDigit])]
    simp
  | next _ hg digit ih =>
    rw [withoutGaps_append, withoutGaps_append, withoutGaps_of_mem_gaps hg,
      withoutGaps_digit hb digit, List.append_nil]
    obtain ⟨isDigit, rfl⟩ := (isDigitOf_iff hb).1 digit
    exact valueOfDigits?_concat ih isDigit

/-- Digits begin with a digit. -/
theorem Digits.exists_cons {base n : Nat} {s : List Char} (h : Digits base s n) :
    ∃ c rest value, s = c :: rest ∧ IsDigitOf base c value := by
  induction h with
  | first digit => exact ⟨_, [], _, rfl, digit⟩
  | next _ _ _ ih =>
    obtain ⟨c, rest, value, rfl, digit⟩ := ih
    exact ⟨c, _, value, by rw [List.cons_append, List.cons_append], digit⟩

theorem Digits.head_withoutGaps {base n : Nat} {s : List Char} (hb : base ∈ bases)
    (h : Digits base s n) : ∃ c rest, digitClass base c = true ∧ s.head? = some c
      ∧ withoutGaps s = c :: rest := by
  obtain ⟨c, rest, value, rfl, digit⟩ := h.exists_cons
  have kept : (c != '_') = true := by simpa using ne_underscore_of_isDigitOf hb digit
  refine ⟨c, withoutGaps rest, ((isDigitOf_iff hb).1 digit).1, rfl, ?_⟩
  rw [withoutGaps, List.filter_cons, if_pos kept]
  rfl

/-! ### Announcements -/

theorem mem_bases_of_mark {mark : List Char} {base : Nat} (h : (mark, base) ∈ baseMarks) :
    base ∈ bases := by
  have all : ∀ entry ∈ baseMarks, entry.2 ∈ bases := by decide
  exact all _ h

theorem withoutGaps_of_mark {mark : List Char} {base : Nat} (h : (mark, base) ∈ baseMarks) :
    withoutGaps mark = mark := by
  have all : ∀ entry ∈ baseMarks, withoutGaps entry.1 = entry.1 := by decide
  exact all _ h

/-- A character that announces no base is none of the letters that the reader looks for. -/
theorem ne_letters_of_not_mark {c : Char} (h : ∀ base, ([c], base) ∉ baseMarks) :
    c ≠ 'x' ∧ c ≠ 'X' ∧ c ≠ 'b' ∧ c ≠ 'B' ∧ c ≠ 'o' ∧ c ≠ 'O' := by
  have ne : ∀ letter base, ([letter], base) ∈ baseMarks → c ≠ letter := by
    rintro letter base known rfl
    exact h base known
  exact ⟨ne 'x' 16 (by decide), ne 'X' 16 (by decide), ne 'b' 2 (by decide), ne 'B' 2 (by decide),
    ne 'o' 8 (by decide), ne 'O' 8 (by decide)⟩

theorem not_mark_of_octal {c : Char} (h : digitClass 8 c = true) (base : Nat) :
    ([c], base) ∉ baseMarks := by
  intro known
  have all : ∀ entry ∈ baseMarks, entry.1.any (digitClass 8) = false := by decide
  have none' := all _ known
  rw [List.any_cons, h] at none'
  cases none'

/-- Behind the announcement of a base, digits are read in that base. -/
theorem plainValue?_of_mark {mark digits : List Char} {base : Nat} (h : (mark, base) ∈ baseMarks)
    {c : Char} (digit : digitClass base c = true) :
    plainValue? ('0' :: (mark ++ c :: digits))
      = valueOfDigits? base (digitClass base) (c :: digits) := by
  simp only [baseMarks, List.mem_cons, List.not_mem_nil, or_false, Prod.mk.injEq] at h
  rcases h with ⟨rfl, rfl⟩ | lettered
  · obtain ⟨x, X, b, B, o, O⟩ := ne_letters_of_not_mark (not_mark_of_octal digit)
    simp [plainValue?, x, X, b, B, o, O, digitClass]
  · rcases lettered with ⟨rfl, rfl⟩ | ⟨rfl, rfl⟩ | ⟨rfl, rfl⟩ | ⟨rfl, rfl⟩ | ⟨rfl, rfl⟩ | ⟨rfl, rfl⟩
      <;> rfl

/-- The reader finds the number that a literal stands for. -/
theorem plainValue?_of_literal {s : List Char} {n : Nat} (h : IntegerLiteral s n) :
    plainValue? (withoutGaps s) = some n := by
  cases h with
  | zero => rfl
  | decimal digits nonzero =>
    have ten : 10 ∈ bases := by decide
    obtain ⟨c, rest, -, first, kept⟩ := digits.head_withoutGaps ten
    rw [first] at nonzero
    have value := digits.valueOfDigits? ten
    rw [kept] at value ⊢
    rw [plainValue?]
    · exact value
    · rintro d more e
      exact nonzero (congrArg some (List.cons.inj e).1)
  | @based mark base gap digits n known hg spelled =>
    have hb := mem_bases_of_mark known
    obtain ⟨c, rest, digit, -, kept⟩ := spelled.head_withoutGaps hb
    -- without its gaps, the literal is the mark with the first digit and the rest behind it
    have text : withoutGaps ('0' :: (mark ++ gap ++ digits)) = '0' :: (mark ++ c :: rest) := by
      have front : withoutGaps ['0'] = ['0'] := rfl
      rw [← List.singleton_append, withoutGaps_append, withoutGaps_append, withoutGaps_append,
        front, withoutGaps_of_mark known, withoutGaps_of_mem_gaps hg, kept, List.append_nil]
      rfl
    rw [text, plainValue?_of_mark known digit, ← kept]
    exact spelled.valueOfDigits? hb

/-! ### Decimal numerals -/

theorem head?_toDigits_ne_zero {n : Nat} (h : n ≠ 0) : (Nat.toDigits 10 n).head? ≠ some '0' := by
  induction n using Nat.strong_induction_on with
  | _ n ih =>
    rw [Nat.toDigits_eq_if (by decide)]
    split
    · rename_i hn
      have small : ∀ m < 10, m ≠ 0 → [Nat.digitChar m].head? ≠ some '0' := by decide
      exact small n hn h
    · rw [List.head?_append_of_ne_nil _ Nat.toDigits_ne_nil]
      exact ih (n / 10) (by omega) (by omega)

theorem digits_toDigits (n : Nat) : Digits 10 (Nat.toDigits 10 n) n := by
  induction n using Nat.strong_induction_on with
  | _ n ih =>
    rw [Nat.toDigits_eq_if (by decide)]
    split
    · next small => exact .first ⟨small, .inl rfl⟩
    · next large =>
      have front := ih (n / 10) (by omega)
      have last : IsDigitOf 10 (Nat.digitChar (n % 10)) (n % 10) :=
        ⟨Nat.mod_lt n (by decide), .inl rfl⟩
      have both := front.next nil_mem_gaps last
      rwa [List.append_nil, Nat.div_add_mod'] at both

/-- A decimal numeral is a literal for its number. -/
theorem integerLiteral_toString (n : Nat) : IntegerLiteral (toString n).toList n := by
  rw [Nat.toString_eq_ofList_toDigits, String.toList_ofList]
  by_cases h : n = 0
  · rw [h]
    exact .zero
  · exact .decimal (digits_toDigits n) (head?_toDigits_ne_zero h)

/-! ### What the scanner takes for an integer -/

theorem exists_isDigitOf {base : Nat} (hb : base ∈ bases) {c : Char}
    (h : digitClass base c = true) : ∃ value, IsDigitOf base c value :=
  ⟨digitValue c, (isDigitOf_iff hb).2 ⟨h, rfl⟩⟩

/-- Digits go on for as long as the scanner finds more of them. -/
theorem Digits.exists_tail {base n : Nat} (hb : base ∈ bases) {front : List Char}
    (h : Digits base front n) (s : List Char) :
    ∃ m, Digits base (front ++ s.take (digitTail (digitClass base) s)) m := by
  fun_induction digitTail (digitClass base) s generalizing front n with
  | case1 => exact ⟨n, by simpa using h⟩
  | case2 c rest digit ih =>
    obtain ⟨value, digit⟩ := exists_isDigitOf hb digit
    obtain ⟨m, more⟩ := ih (h.next underscore_mem_gaps digit)
    exact ⟨m, by simpa using more⟩
  | case3 c rest other => exact ⟨n, by simpa using h⟩
  | case4 c rest _ digit ih =>
    obtain ⟨value, digit⟩ := exists_isDigitOf hb digit
    obtain ⟨m, more⟩ := ih (h.next nil_mem_gaps digit)
    exact ⟨m, by simpa using more⟩
  | case5 c rest _ other => exact ⟨n, by simpa using h⟩

theorem exists_digits_of_digitRun {base : Nat} (hb : base ∈ bases) {s : List Char}
    (h : digitRun (digitClass base) s ≠ 0) :
    ∃ n, Digits base (s.take (digitRun (digitClass base) s)) n := by
  cases s with
  | nil => exact absurd rfl h
  | cons c rest =>
    rw [digitRun] at h ⊢
    split at h
    · next digit =>
      obtain ⟨value, first⟩ := exists_isDigitOf hb digit
      rw [if_pos digit, List.take_succ_cons]
      exact (Digits.first first).exists_tail hb rest
    · exact absurd rfl h

theorem exists_digits_of_prefixedRun {base : Nat} (hb : base ∈ bases) {s : List Char}
    (h : prefixedRun (digitClass base) s ≠ 0) :
    ∃ gap ∈ gaps, ∃ digits n,
      s.take (prefixedRun (digitClass base) s) = gap ++ digits ∧ Digits base digits n := by
  unfold prefixedRun at h ⊢
  split at h
  · next rest =>
    split at h
    · exact absurd rfl h
    · next found =>
      obtain ⟨n, digits⟩ := exists_digits_of_digitRun hb found
      rw [if_neg found, List.take_succ_cons]
      exact ⟨['_'], underscore_mem_gaps, _, n, rfl, digits⟩
  · obtain ⟨n, digits⟩ := exists_digits_of_digitRun hb h
    exact ⟨[], nil_mem_gaps, _, n, rfl, digits⟩

/-- A zero with the announcement of a base and digits of it behind is a literal, and without such
digits the zero is one. -/
theorem exists_literal_of_mark {mark : List Char} {base : Nat} (h : (mark, base) ∈ baseMarks)
    (rest : List Char) :
    ∃ n, IntegerLiteral (('0' :: (mark ++ rest)).take
      (max 1 (extend (mark.length + 1) (prefixedRun (digitClass base) rest)))) n := by
  by_cases none' : prefixedRun (digitClass base) rest = 0
  · rw [none']
    exact ⟨0, .zero⟩
  · obtain ⟨gap, hg, digits, n, taken, spelled⟩ :=
      exists_digits_of_prefixedRun (mem_bases_of_mark h) none'
    refine ⟨n, ?_⟩
    rw [extend, if_neg none', Nat.max_eq_right (by omega), Nat.add_right_comm, List.take_succ_cons,
      List.take_length_add_append, taken, ← List.append_assoc]
    exact .based h hg spelled

theorem integerLength_of_letter {c : Char} {base : Nat} (h : ([c], base) ∈ baseMarks)
    (rest : List Char) :
    integerLength ('0' :: c :: rest)
      = max 1 (extend 2 (prefixedRun (digitClass base) rest)) := by
  -- the letter is no octal digit, so there is no octal literal without a letter
  have octal : ∀ n, max 1 (max n (extend 1 0)) = max 1 n := fun n => congrArg (max 1) n.max_zero
  simp only [baseMarks, List.mem_cons, List.not_mem_nil, or_false, Prod.mk.injEq, List.cons.injEq,
    and_true, reduceCtorEq, false_and, false_or] at h
  rcases h with ⟨rfl, rfl⟩ | ⟨rfl, rfl⟩ | ⟨rfl, rfl⟩ | ⟨rfl, rfl⟩ | ⟨rfl, rfl⟩ | ⟨rfl, rfl⟩
    <;> exact octal _

theorem integerLength_of_no_letter {rest : List Char}
    (h : ¬ ∃ c more base, rest = c :: more ∧ ([c], base) ∈ baseMarks) :
    integerLength ('0' :: rest) = max 1 (extend 1 (prefixedRun (digitClass 8) rest)) := by
  cases rest with
  | nil => rfl
  | cons c more =>
    obtain ⟨x, X, b, B, o, O⟩ := ne_letters_of_not_mark fun base known =>
      h ⟨c, more, base, rfl, known⟩
    simp [integerLength, x, X, b, B, o, O, digitClass]

/-- What the scanner takes for an integer is a literal for some number. -/
theorem exists_literal_of_integerLength {s : List Char} (h : integerLength s ≠ 0) :
    ∃ n, IntegerLiteral (s.take (integerLength s)) n := by
  cases s with
  | nil => exact absurd rfl h
  | cons d rest =>
    by_cases zero : d = '0'
    · subst zero
      -- a zero is followed by a letter for the base, or it is the mark of an octal number itself
      by_cases letter : ∃ c more base, rest = c :: more ∧ ([c], base) ∈ baseMarks
      · obtain ⟨c, more, base, rfl, known⟩ := letter
        rw [integerLength_of_letter known]
        exact exists_literal_of_mark known more
      · rw [integerLength_of_no_letter letter]
        have octal : ([], 8) ∈ baseMarks := List.mem_cons_self
        exact exists_literal_of_mark octal rest
    · have decimal : integerLength (d :: rest) = digitRun (digitClass 10) (d :: rest) := by
        rw [integerLength]
        · rfl
        · rintro more e
          exact zero (List.cons.inj e).1
      rw [decimal] at h ⊢
      obtain ⟨n, digits⟩ := exists_digits_of_digitRun (by decide) h
      refine ⟨n, .decimal digits ?_⟩
      obtain ⟨k, count⟩ := Nat.exists_eq_succ_of_ne_zero h
      rw [count]
      simpa using zero

theorem exists_literal_of_numberAt {s : List Char} {k : Nat} (h : numberAt s = (.integer, k))
    (some' : k ≠ 0) : ∃ n, IntegerLiteral (s.take k) n := by
  unfold numberAt at h
  dsimp only at h
  split at h
  · cases h
  · split at h
    · cases h
    · obtain rfl := (Prod.mk.inj h).2
      exact exists_literal_of_integerLength some'

/-! ### Literals -/

theorem integerValue?_of_literal {literal : String} {n : Nat}
    (h : IntegerLiteral literal.toList n) :
    integerValue? literal = if n < UInt64.size then some n else none := by
  have value : plainValue? (literal.toList.filter (· != '_')) = some n := plainValue?_of_literal h
  rw [integerValue?, value]

/-- A decimal numeral stands for its number. -/
theorem integerValue?_toString {n : Nat} (h : n < UInt64.size) :
    integerValue? (toString n) = some n := by
  rw [integerValue?_of_literal (integerLiteral_toString n), if_pos h]

/-- An integer literal is read at its value if that fits into 64 bits, and has no value if it does
not.  The length in the text of an array type is such a literal, and is read as that length.  All
that the scanner takes for integers in a source file are such literals. -/
theorem integerValue?_literals :
    (∀ literal n, IntegerLiteral literal.toList n →
        integerValue? literal = if n < UInt64.size then some n else none)
      ∧ (∀ home length element imports,
        ((typeText home (.array length element)).run imports).1
            = "[" ++ toString length.toNat ++ "]" ++ ((typeText home element).run imports).1
          ∧ IntegerLiteral (toString length.toNat).toList length.toNat
          ∧ integerValue? (toString length.toNat) = some length.toNat)
      ∧ ∀ s k, numberAt s = (.integer, k) → k ≠ 0 → ∃ n, IntegerLiteral (s.take k) n := by
  refine ⟨fun literal n h => integerValue?_of_literal h, fun home length element imports => ?_,
    fun s k h some' => exists_literal_of_numberAt h some'⟩
  refine ⟨?_, integerLiteral_toString _, integerValue?_toString length.toNat_lt⟩
  rw [typeText]
  rfl

/-- An octal literal without a letter, the least number that is too large, and an integer in front
of other text. -/
theorem integerValue?_literals_limits :
    IntegerLiteral "0_52".toList 42 ∧ integerValue? "0_52" = some 42
      ∧ IntegerLiteral (toString UInt64.size).toList UInt64.size
      ∧ integerValue? (toString UInt64.size) = none
      ∧ numberAt "0X_fFg".toList = (.integer, 5) ∧ ∃ n, IntegerLiteral "0X_fF".toList n := by
  have five : IsDigitOf 8 '5' 5 := by decide
  have two : IsDigitOf 8 '2' 2 := by decide
  have mark : ([], 8) ∈ baseMarks := List.mem_cons_self
  have digits : Digits 8 ['5', '2'] 42 := (Digits.first five).next nil_mem_gaps two
  have octal : IntegerLiteral "0_52".toList 42 := .based mark underscore_mem_gaps digits
  have large := integerLiteral_toString UInt64.size
  have found : numberAt "0X_fFg".toList = (.integer, 5) := by decide
  have read := integerValue?_literals
  exact ⟨octal, read.1 _ _ octal, large, read.1 _ _ large, found, read.2.2 _ _ found (by decide)⟩

end WrapperGen.Source
