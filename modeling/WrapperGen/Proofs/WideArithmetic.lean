import Mathlib.Data.Int.Bitwise
import WrapperGen.Check.Constant

/-!
# Arithmetic without bounds

Constants are computed with 128 bits.  Here each operator is given beside that as it is for all
numbers: nothing is cut off, division goes toward zero, and a number has infinitely many bits, those
in front of it being all alike.  What an operator comes to with 128 bits is the exact result, and it
fits, except that a shift to the left may lose bits.

## Main definitions

* `UnaryOp.unbounded?`, `BinaryOp.unbounded?`: the operators on all numbers.

## Main results

* `toInt_bitwise`: operations on bits, on all numbers and with a given width.
* `unbounded?_of_apply?`, `unbounded?_or_of_apply?`: what is computed is exact.
* `apply?_shiftLeft_ne`: a shift that loses bits is not.
-/

namespace WrapperGen

open Source

/-! ### Bits -/

/-- Numbers with the same bits are equal. -/
theorem eq_of_testBit_eq {a b : Int} (h : ∀ i, a.testBit i = b.testBit i) : a = b := by
  -- far enough in front, the bits of a number tell its sign
  have apart : ∀ m n : Nat, ¬ ∀ i, (Int.ofNat m).testBit i = (Int.negSucc n).testBit i := by
    intro m n same
    have left : m.testBit (m + n) = false :=
      Nat.testBit_lt_two_pow (Nat.lt_of_le_of_lt (Nat.le_add_right m n) Nat.lt_two_pow_self)
    have right : n.testBit (m + n) = false :=
      Nat.testBit_lt_two_pow (Nat.lt_of_le_of_lt (Nat.le_add_left n m) Nat.lt_two_pow_self)
    have far := same (m + n)
    simp only [Int.testBit, left, right] at far
    cases far
  cases a with
  | ofNat m =>
    cases b with
    | ofNat n => exact congrArg Int.ofNat (Nat.eq_of_testBit_eq h)
    | negSucc n => exact absurd h (apart m n)
  | negSucc m =>
    cases b with
    | ofNat n => exact absurd (fun i => (h i).symm) (apart n m)
    | negSucc n =>
      refine congrArg Int.negSucc (Nat.eq_of_testBit_eq fun i => ?_)
      simpa only [Int.testBit, Bool.not_inj_iff] using h i

section

variable {w : Nat}

/-- The bits of a signed number of a given width: in front of it, its sign goes on. -/
theorem testBit_toInt (x : BitVec w) (i : Nat) :
    x.toInt.testBit i = if i < w then x.getLsbD i else x.msb := by
  rw [BitVec.toInt_eq_msb_cond]
  cases negative : x.msb with
  | false =>
    have bits : Int.testBit (x.toNat : Int) i = x.getLsbD i := rfl
    rw [if_neg (by decide), bits]
    split
    · rfl
    · exact BitVec.getLsbD_of_ge x i (by omega)
  | true =>
    have less := x.isLt
    have number : (x.toNat : Int) - (2 ^ w : Nat) = Int.negSucc (2 ^ w - 1 - x.toNat) := by omega
    rw [if_pos rfl, number, ← BitVec.toNat_not]
    show (!(~~~x).getLsbD i) = _
    rw [BitVec.getLsbD_not]
    by_cases inside : i < w <;> simp [inside]

/-- An operation that goes bit by bit is the same on all numbers and with a given width. -/
theorem toInt_bitwise {f : BitVec w → BitVec w → BitVec w} {g : Bool → Bool → Bool} (hw : 0 < w)
    (h : ∀ x y i, i < w → (f x y).getLsbD i = g (x.getLsbD i) (y.getLsbD i)) (x y : BitVec w) :
    (f x y).toInt = Int.bitwise g x.toInt y.toInt := by
  have first : ∀ z : BitVec w, z.msb = z.getLsbD (w - 1) := BitVec.msb_eq_getLsbD_last
  refine eq_of_testBit_eq fun i => ?_
  rw [Int.testBit_bitwise, testBit_toInt, testBit_toInt, testBit_toInt]
  split
  · exact h x y i ‹i < w›
  · rw [first, first, first]
    exact h x y (w - 1) (by omega)

end

/-! ### Numbers that fit -/

theorem fits_iff {n : Int} : fits n = true ↔ -2 ^ 127 ≤ n ∧ n < 2 ^ 127 := by
  have bound : numberBound = 2 ^ 127 := by decide
  rw [fits, bound, Bool.and_eq_true, decide_eq_true_eq, decide_eq_true_eq]

theorem fits_toInt (x : BitVec constantBits) : fits x.toInt = true :=
  fits_iff.2 ⟨BitVec.le_toInt x, BitVec.toInt_lt⟩

theorem toInt_ofInt_of_fits {n : Int} (h : fits n = true) :
    (BitVec.ofInt constantBits n).toInt = n := by
  obtain ⟨low, high⟩ := fits_iff.1 h
  exact BitVec.toInt_ofInt_eq_self (by decide) low high

theorem fitting?_eq_some_iff {n v : Int} : fitting? n = some v ↔ n = v ∧ fits v = true := by
  unfold fitting?
  constructor
  · intro h
    split at h
    · obtain rfl := Option.some.inj h
      exact ⟨rfl, ‹_›⟩
    · cases h
  · rintro ⟨rfl, h⟩
    rw [if_pos h]

/-- Halves of a number that fits do fit. -/
theorem fits_shiftRight {n : Int} (h : fits n = true) (k : Nat) : fits (n >>> k) = true := by
  obtain ⟨low, high⟩ := fits_iff.1 h
  rcases Int.le_total 0 n with pos | neg
  · have up := Int.shiftRight_le_of_nonneg (s := k) pos
    have down := Int.le_shiftRight_of_nonneg (s := k) pos
    exact fits_iff.2 ⟨by omega, by omega⟩
  · have up := Int.shiftRight_le_of_nonpos (s := k) neg
    have down := Int.le_shiftRight_of_nonpos (s := k) neg
    exact fits_iff.2 ⟨by omega, by omega⟩

/-- The remainder is no farther from zero than the number itself. -/
theorem fits_tmod {a : Int} (h : fits a = true) (b : Int) : fits (a.tmod b) = true := by
  obtain ⟨low, high⟩ := fits_iff.1 h
  have less : (a.tmod b).natAbs ≤ a.natAbs := by
    rw [Int.natAbs_tmod]
    exact Nat.mod_le _ _
  have sign : 0 ≤ a → 0 ≤ a.tmod b := Int.tmod_nonneg b
  have other : a ≤ 0 → a.tmod b ≤ 0 := fun neg => by
    have := Int.tmod_nonneg (a := -a) b (by omega)
    rw [Int.neg_tmod] at this
    omega
  exact fits_iff.2 ⟨by omega, by omega⟩

theorem shiftDistance?_eq_some_iff {n : Int} {k : Nat} :
    shiftDistance? n = some k ↔ (0 ≤ n ∧ n < constantBits) ∧ n.toNat = k := by
  unfold shiftDistance?
  rw [← Bool.decide_and]
  by_cases within : 0 ≤ n ∧ n < constantBits
  · simp [within]
  · simp [within]

/-! ### The operators on all numbers -/

/-- What an operator gives for a number, however large. -/
def Source.UnaryOp.unbounded? (op : UnaryOp) (a : Int) : Option Int :=
  match op with
  | .plus => some a
  | .minus => some (-a)
  | .complement => some (Int.lnot a)
  | .other => none

/-- What an operator gives for two numbers, however large.  There is no quotient by zero, and no
shift by a negative number. -/
def Source.BinaryOp.unbounded? (op : BinaryOp) (a b : Int) : Option Int :=
  match op with
  | .add => some (a + b)
  | .sub => some (a - b)
  | .mul => some (a * b)
  | .div => if b = 0 then none else some (a.tdiv b)
  | .rem => if b = 0 then none else some (a.tmod b)
  | .shiftLeft => if b < 0 then none else some (a * 2 ^ b.toNat)
  | .shiftRight => if b < 0 then none else some (a / 2 ^ b.toNat)
  | .and => some (Int.land a b)
  | .or => some (Int.lor a b)
  | .xor => some (Int.xor a b)
  | .andNot => some (Int.ldiff a b)
  | .compare | .both | .either => none

/-- A shift to the left pushes bits out at the front. -/
structure LosesBits (a b : Int) : Prop where
  /-- The distance is one that is allowed. -/
  distance : 0 ≤ b ∧ b < constantBits
  /-- The exact result does not fit. -/
  wide : fits (a * 2 ^ b.toNat) = false

theorem unbounded?_of_apply? {op : UnaryOp} {a v : Int} (ha : fits a = true)
    (h : op.apply? a = some v) : op.unbounded? a = some v ∧ fits v = true := by
  cases op with
  | plus =>
    obtain rfl := Option.some.inj h
    exact ⟨rfl, ha⟩
  | minus =>
    obtain ⟨rfl, fit⟩ := fitting?_eq_some_iff.1 h
    exact ⟨rfl, fit⟩
  | complement =>
    obtain rfl := Option.some.inj h
    have complement : Int.lnot a = -a - 1 := by
      cases a with
      | ofNat m =>
        show Int.negSucc m = -(m : Int) - 1
        omega
      | negSucc m =>
        show (m : Int) = -Int.negSucc m - 1
        omega
    obtain ⟨low, high⟩ := fits_iff.1 ha
    exact ⟨congrArg some complement, fits_iff.2 ⟨by omega, by omega⟩⟩
  | other => cases h

/-- An operation that goes bit by bit comes to the exact result. -/
theorem bitwise_of_onBits {f : BitVec constantBits → BitVec constantBits → BitVec constantBits}
    {g : Bool → Bool → Bool}
    (h : ∀ x y i, i < constantBits → (f x y).getLsbD i = g (x.getLsbD i) (y.getLsbD i))
    {a b v : Int} (ha : fits a = true) (hb : fits b = true) (came : some (onBits f a b) = some v) :
    fits v = true ∧ some (Int.bitwise g a b) = some v := by
  have exact : onBits f a b = Int.bitwise g a b := by
    rw [onBits, toInt_bitwise (by decide) h, toInt_ofInt_of_fits ha, toInt_ofInt_of_fits hb]
  refine ⟨?_, exact ▸ came⟩
  rw [← Option.some.inj came]
  exact fits_toInt _

/-- With 128 bits, a shift to the left gives the exact result if that fits. -/
theorem toInt_shiftLeft_of_fits {a : Int} (k : Nat) (h : fits (a * 2 ^ k) = true) :
    (BitVec.ofInt constantBits a <<< k).toInt = a * 2 ^ k := by
  have product : BitVec.ofInt constantBits a <<< k = BitVec.ofInt constantBits (a * 2 ^ k) := by
    have power : BitVec.twoPow constantBits k
        = BitVec.ofInt constantBits ((2 ^ k : Nat) : Int) := by
      rw [BitVec.ofInt_natCast]
      exact BitVec.eq_of_toNat_eq (by rw [BitVec.toNat_twoPow, BitVec.toNat_ofNat])
    rw [BitVec.shiftLeft_eq_mul_twoPow, power, BitVec.ofInt_mul, Nat.cast_pow, Nat.cast_ofNat]
  rw [product, toInt_ofInt_of_fits h]

/-- A shift to the left comes to the exact result, or it loses bits. -/
theorem shiftLeft_unbounded_or {a b v : Int} (h : BinaryOp.shiftLeft.apply? a b = some v) :
    fits v = true ∧ (BinaryOp.shiftLeft.unbounded? a b = some v ∨ LosesBits a b) := by
  obtain ⟨k, distance, rfl⟩ := Option.map_eq_some_iff.1 h
  obtain ⟨within, rfl⟩ := shiftDistance?_eq_some_iff.1 distance
  refine ⟨fits_toInt _, ?_⟩
  cases fit : fits (a * 2 ^ b.toNat) with
  | true =>
    rw [BinaryOp.unbounded?, if_neg (Int.not_lt.2 within.1), toInt_shiftLeft_of_fits _ fit]
    exact .inl rfl
  | false => exact .inr ⟨within, fit⟩

theorem shiftRight_unbounded {a b v : Int} (ha : fits a = true)
    (h : BinaryOp.shiftRight.apply? a b = some v) :
    fits v = true ∧ BinaryOp.shiftRight.unbounded? a b = some v := by
  obtain ⟨k, distance, rfl⟩ := Option.map_eq_some_iff.1 h
  obtain ⟨within, rfl⟩ := shiftDistance?_eq_some_iff.1 distance
  have quotient : a / 2 ^ b.toNat = a.shiftRight b.toNat := by
    have := Int.shiftRight_eq_div_pow a b.toNat
    rw [Nat.cast_pow, Nat.cast_ofNat] at this
    exact this.symm
  rw [BinaryOp.unbounded?, if_neg (Int.not_lt.2 within.1), quotient]
  exact ⟨fits_shiftRight ha _, rfl⟩

/-- What an operator comes to is exact and fits, or it is a shift that loses bits. -/
theorem unbounded?_or_of_apply? {op : BinaryOp} {a b v : Int} (ha : fits a = true)
    (hb : fits b = true) (h : op.apply? a b = some v) :
    fits v = true ∧ (op.unbounded? a b = some v ∨ op = .shiftLeft ∧ LosesBits a b) := by
  have fitted : ∀ {n : Int}, fitting? n = some v → fits v = true ∧ some n = some v := fun e => by
    obtain ⟨rfl, fit⟩ := fitting?_eq_some_iff.1 e
    exact ⟨fit, rfl⟩
  cases op with
  | add => exact (fitted h).imp_right .inl
  | sub => exact (fitted h).imp_right .inl
  | mul => exact (fitted h).imp_right .inl
  | div =>
    have quotient : (if b = 0 then none else fitting? (a.tdiv b)) = some v := h
    by_cases zero : b = 0
    · rw [if_pos zero] at quotient
      cases quotient
    · rw [if_neg zero] at quotient
      rw [BinaryOp.unbounded?, if_neg zero]
      exact (fitted quotient).imp_right .inl
  | rem =>
    have remainder :
        (if b = 0 then none else (fitting? (a.tdiv b)).map fun _ => a.tmod b) = some v := h
    by_cases zero : b = 0
    · rw [if_pos zero] at remainder
      cases remainder
    · rw [if_neg zero] at remainder
      obtain ⟨-, -, rfl⟩ := Option.map_eq_some_iff.1 remainder
      rw [BinaryOp.unbounded?, if_neg zero]
      exact ⟨fits_tmod ha b, .inl rfl⟩
  | shiftLeft => exact (shiftLeft_unbounded_or h).imp_right (Or.imp_right fun lost => ⟨rfl, lost⟩)
  | shiftRight => exact (shiftRight_unbounded ha h).imp_right .inl
  | and =>
    rw [BinaryOp.unbounded?, ← Int.bitwise_and]
    exact (bitwise_of_onBits (fun x y i _ => BitVec.getLsbD_and) ha hb h).imp_right .inl
  | or =>
    rw [BinaryOp.unbounded?, ← Int.bitwise_or]
    exact (bitwise_of_onBits (fun x y i _ => BitVec.getLsbD_or) ha hb h).imp_right .inl
  | xor =>
    rw [BinaryOp.unbounded?, ← Int.bitwise_xor]
    exact (bitwise_of_onBits (fun x y i _ => BitVec.getLsbD_xor) ha hb h).imp_right .inl
  | andNot =>
    rw [BinaryOp.unbounded?, ← Int.bitwise_diff]
    exact (bitwise_of_onBits (fun x y i inside => by simp [inside]) ha hb h).imp_right .inl
  | compare => cases h
  | both => cases h
  | either => cases h

/-- A shift that loses bits is not exact. -/
theorem apply?_shiftLeft_ne {a b : Int} (h : LosesBits a b) :
    BinaryOp.shiftLeft.apply? a b ≠ BinaryOp.shiftLeft.unbounded? a b := by
  intro same
  rw [BinaryOp.unbounded?, if_neg (Int.not_lt.2 h.distance.1)] at same
  obtain ⟨k, -, product⟩ := Option.map_eq_some_iff.1 same
  have fit := fits_toInt (BitVec.ofInt constantBits a <<< k)
  rw [product, h.wide] at fit
  cases fit

end WrapperGen
