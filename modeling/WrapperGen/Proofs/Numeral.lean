import WrapperGen.Proofs.IntegerNotation

/-!
# Decimal numerals

The lengths of arrays are written in decimal.  Such a numeral is read as one integer literal.

## Main results

* `numberAt_toDigits`: a numeral in front of a closing bracket is one literal.
-/

namespace WrapperGen.Source

/-! ### Digits -/

/-- A numeral is the digit zero, or it begins with another digit. -/
theorem toDigits_cases (n : Nat) :
    Nat.toDigits 10 n = ['0'] ∨ ∃ d ds, Nat.toDigits 10 n = d :: ds ∧ d ≠ '0' := by
  by_cases hn : n = 0
  · left
    rw [hn]
    rfl
  · right
    obtain ⟨d, ds, h⟩ := List.exists_cons_of_ne_nil (Nat.toDigits_ne_nil (n := n) (b := 10))
    refine ⟨d, ds, h, ?_⟩
    have := head?_toDigits_ne_zero hn
    rw [h] at this
    simpa using this

theorem isDigit_of_mem_toDigits {n : Nat} : ∀ d ∈ Nat.toDigits 10 n, d.isDigit = true :=
  fun _ hd => Nat.isDigit_of_mem_toDigits (by decide) (by decide) hd

theorem ne_underscore_of_isDigit {d : Char} (h : d.isDigit = true) : d ≠ '_' := by
  rintro rfl
  exact absurd h (by decide)

theorem digitTail_of_digits {digits : List Char} (h : ∀ d ∈ digits, d.isDigit = true)
    (rest : List Char) : digitTail Char.isDigit (digits ++ ']' :: rest) = digits.length := by
  induction digits with
  | nil =>
      rw [List.nil_append, digitTail]
      · rfl
      · intro c more e
        exact absurd e (by decide)
  | cons d ds ih =>
      have hd := h d List.mem_cons_self
      rw [List.cons_append, digitTail, if_pos hd, ih fun e he => h e (List.mem_cons_of_mem d he),
        List.length_cons]
      intro c more e
      exact absurd e (ne_underscore_of_isDigit hd)

theorem digitRun_of_digits {digits : List Char} (h : ∀ d ∈ digits, d.isDigit = true)
    (rest : List Char) : digitRun Char.isDigit (digits ++ ']' :: rest) = digits.length := by
  cases digits with
  | nil => rfl
  | cons d ds =>
      have hd := h d List.mem_cons_self
      rw [List.cons_append, digitRun, if_pos hd,
        digitTail_of_digits fun e he => h e (List.mem_cons_of_mem d he)]
      rfl

/-! ### Literals -/

theorem exponentLength_bracket (lower upper : Char) (rest : List Char)
    (hl : (']' == lower) = false) (hu : (']' == upper) = false) :
    exponentLength lower upper (']' :: rest) = 0 := by
  cases rest with
  | nil => rfl
  | cons sign more => simp [exponentLength, hl, hu]

/-- A numeral in front of a closing bracket is read as an integer literal of its length. -/
theorem numberAt_toDigits (n : Nat) (rest : List Char) :
    numberAt (Nat.toDigits 10 n ++ ']' :: rest)
      = (.integer, (Nat.toDigits 10 n).length) := by
  have run := digitRun_of_digits (isDigit_of_mem_toDigits (n := n)) rest
  have behind : (Nat.toDigits 10 n ++ ']' :: rest).drop (Nat.toDigits 10 n).length
      = ']' :: rest := List.drop_left
  have whole : integerLength (Nat.toDigits 10 n ++ ']' :: rest)
      = (Nat.toDigits 10 n).length := by
    rcases toDigits_cases n with h | ⟨d, ds, h, hd⟩
    · rw [h]
      rfl
    · rw [h] at run ⊢
      rw [List.cons_append] at run ⊢
      rw [integerLength, run]
      intro more e
      exact hd (List.cons.inj e).1
  -- no other kind of literal is as long: there is no point, no exponent and no unit behind the
  -- digits, and a numeral that begins with a zero is that zero
  have decimal : decimalFloatLength (Nat.toDigits 10 n ++ ']' :: rest) = 0 := by
    simp only [decimalFloatLength, run, behind]
    show (if _ = 0 then 0 else extend _ (exponentLength 'e' 'E' (']' :: rest))) = 0
    rw [exponentLength_bracket 'e' 'E' rest (by decide) (by decide)]
    simp [extend]
  have hex : hexFloatLength (Nat.toDigits 10 n ++ ']' :: rest) = 0 := by
    rcases toDigits_cases n with h | ⟨d, ds, h, hd⟩
    · rw [h]
      rfl
    · rw [h, List.cons_append, hexFloatLength]
      intro c more e
      exact absurd (List.cons.inj e).1 hd
  have imaginary : imaginaryLength (Nat.toDigits 10 n ++ ']' :: rest)
      (Nat.toDigits 10 n).length = 0 := by
    rw [imaginaryLength, behind]
    simp
  have missing : imaginaryLength (Nat.toDigits 10 n ++ ']' :: rest) 0 = 0 := by
    simp [imaginaryLength]
  simp only [numberAt, run, whole, decimal, hex, imaginary, Nat.max_self, missing]
  simp

end WrapperGen.Source
