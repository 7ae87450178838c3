import WrapperGen.Calendar
import WrapperGen.Toml.Text

/-!
# Numbers, dates and truth values in TOML

These are only recognised; what they stand for is not kept.

## Main definitions

* `integer`, `float`: numbers that can be represented.
* `dateTime`: dates and times of day that exist.
* `scalar`: any value that is not a text and has no parts.
-/

namespace WrapperGen.Toml

open Reading

/-! ### Digits -/

/-- More digits, each with or without an underscore in front. -/
def moreDigits (isDigit : Char → Bool) : Scanner (List Char) :=
  readAll (charWhere isDigit <|> (do
    let _ ← char '_'
    charWhere isDigit))

/-- Digits with single underscores between them. -/
def digits (isDigit : Char → Bool) : Scanner (List Char) := do
  let first ← charWhere isDigit
  let more ← moreDigits isDigit
  pure (first :: more)

/-- A sign, and whether it is a minus. -/
def sign : Scanner Bool := do
  let c ← charWhere fun c => c == '+' || c == '-'
  pure (c == '-')

/-- A whole number in base ten without needless zeros in front: whether it has a minus, and its
digits. -/
def wholeNumber : Scanner (Bool × List Char) := do
  let negative ← maybe sign
  let found ← (do
    let first ← charWhere fun c => c.isDigit && c != '0'
    let more ← moreDigits Char.isDigit
    pure (first :: more)) <|> single (charWhere Char.isDigit)
  pure (negative.getD false, found)

/-- The number that digits stand for. -/
def numberOf (base : Nat) (found : List Char) : Nat :=
  found.foldl (fun n c => n * base + (hexValue? c).getD 0) 0

/-! ### Integers -/

/-- How many integers there are that are not negative. -/
def integerBound : Nat := Nat.pow 2 63

/-- An integer in a base that the letter behind its first zero names. -/
def basedInteger (letter : Char) (base : Nat) (isDigit : Char → Bool) : Scanner Unit := do
  chars ['0', letter]
  let found ← digits isDigit
  require (numberOf base found < integerBound)

/-- An integer of 64 bits. -/
def integer : Scanner Unit :=
  basedInteger 'x' 16 (fun c => (hexValue? c).isSome)
    <|> basedInteger 'o' 8 (fun c => '0' ≤ c && c ≤ '7')
    <|> basedInteger 'b' 2 (fun c => c == '0' || c == '1')
    <|> (do
      let (negative, found) ← wholeNumber
      let n := numberOf 10 found
      require (n < integerBound || (negative && n == integerBound)))

/-! ### Floating-point numbers -/

/-- The least number that is too large for a double: half a step above the largest one. -/
def doubleBound : Nat := Nat.pow 2 1024 - Nat.pow 2 970

/-- Whether a number, given by its digits and a power of ten, is too large for a double. -/
def exceedsDouble (found : List Char) (exponent : Int) : Bool :=
  let n := numberOf 10 found
  let size := (Nat.toDigits 10 n).length + exponent
  if n = 0 || size < 300 then false
  else if 320 < size then true
  else if 0 ≤ exponent then doubleBound ≤ n * Nat.pow 10 exponent.toNat
  else doubleBound * Nat.pow 10 (-exponent).toNat ≤ n

/-- The power of ten behind a number. -/
def exponentPart : Scanner Int := do
  let _ ← charWhere fun c => c == 'e' || c == 'E'
  let negative ← maybe sign
  let found ← digits Char.isDigit
  let n : Int := numberOf 10 found
  pure (if negative.getD false then -n else n)

/-- The digits behind the point, and the power of ten behind them. -/
def fractionPart : Scanner (List Char × Int) := do
  let _ ← char '.'
  let found ← digits Char.isDigit
  let exponent ← maybe exponentPart
  pure (found, exponent.getD 0)

/-- A floating-point number.  It must not be too large; below zero every number is allowed. -/
def float : Scanner Unit :=
  (do
    let (negative, whole) ← wholeNumber
    let (fraction, exponent) ← (do
      let exponent ← exponentPart
      pure ([], exponent)) <|> fractionPart
    require (negative || !exceedsDouble (whole ++ fraction) (exponent - fraction.length)))
    <|> (do
      let _ ← maybe sign
      chars ['i', 'n', 'f'] <|> chars ['n', 'a', 'n'])

/-! ### Dates and times -/

/-- The number that exactly `count` digits stand for, behind `value`. -/
def fixedDigits : Nat → Nat → Scanner Nat
  | 0, value => pure value
  | count + 1, value => do
      let c ← charWhere Char.isDigit
      fixedDigits count (value * 10 + (hexValue? c).getD 0)

/-- A number of two digits within bounds. -/
def twoDigits (least most : Nat) : Scanner Nat := do
  let n ← fixedDigits 2 0
  require (least ≤ n && n ≤ most)
  pure n

/-- A date. -/
def date : Scanner Unit := do
  let year ← fixedDigits 4 0
  let _ ← char '-'
  let month ← twoDigits 1 12
  let _ ← char '-'
  let day ← twoDigits 1 31
  require (day ≤ daysInMonth year month)

/-- A time of day. -/
def time : Scanner Unit := do
  let _ ← twoDigits 0 23
  let _ ← char ':'
  let _ ← twoDigits 0 59
  let _ ← char ':'
  let _ ← twoDigits 0 60
  let _ ← maybe (do
    let _ ← char '.'
    let _ ← charWhere Char.isDigit
    charsWhile Char.isDigit)
  pure ()

/-- How far a time is from that of the zero meridian. -/
def zone : Scanner Unit :=
  (do
    let _ ← charWhere fun c => c == 'Z' || c == 'z'
    pure ()) <|> (do
    let _ ← sign
    let _ ← twoDigits 0 23
    let _ ← char ':'
    let _ ← twoDigits 0 59
    pure ())

/-- A date, a time of day, or both. -/
def dateTime : Scanner Unit :=
  (do
    date
    let _ ← maybe (do
      let _ ← charWhere fun c => c == 'T' || c == 't' || c == ' '
      time
      maybe zone)
    pure ()) <|> time

/-! ### All of them -/

/-- A number, a date or a truth value. -/
def scalar : Scanner Unit :=
  dateTime <|> float <|> integer <|> chars ['t', 'r', 'u', 'e'] <|> chars ['f', 'a', 'l', 's', 'e']

end WrapperGen.Toml
