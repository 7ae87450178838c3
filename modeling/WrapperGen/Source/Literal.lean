import WrapperGen.Text.Pieces

/-!
# Literals

How long a literal at the start of a text is, and which number an integer literal stands for.

## Main definitions

* `digitRun`: digits with single underscores between them.
* `NumberKind`, `numberAt`: the longest number literal at the start of a text.
* `stringLength?`, `rawStringLength?`, `runeLength?`: quoted literals.
* `integerValue?`: the number that an integer literal stands for, if it fits into 64 bits.
-/

namespace WrapperGen.Source

/-! ### Digits -/

/-- Whether a character is a digit of base sixteen. -/
def isHexDigit (c : Char) : Bool :=
  c.isDigit || ('a' ≤ c && c ≤ 'f') || ('A' ≤ c && c ≤ 'F')

/-- Whether a character is a digit of base eight. -/
def isOctalDigit (c : Char) : Bool := '0' ≤ c && c ≤ '7'

/-- Whether a character is a digit of base two. -/
def isBinaryDigit (c : Char) : Bool := c == '0' || c == '1'

/-- How far digits go on behind a digit: each may have one underscore in front. -/
def digitTail (isDigit : Char → Bool) : List Char → Nat
  | [] => 0
  | '_' :: c :: rest => if isDigit c then digitTail isDigit rest + 2 else 0
  | c :: rest => if isDigit c then digitTail isDigit rest + 1 else 0

/-- The length of the digits at the start of a text, single underscores between them included;
zero if there are none. -/
def digitRun (isDigit : Char → Bool) : List Char → Nat
  | [] => 0
  | c :: rest => if isDigit c then digitTail isDigit rest + 1 else 0

/-- The length of digits with or without an underscore in front of them; zero if there are
none. -/
def prefixedRun (isDigit : Char → Bool) : List Char → Nat
  | '_' :: rest => if digitRun isDigit rest = 0 then 0 else digitRun isDigit rest + 1
  | s => digitRun isDigit s

/-! ### Numbers -/

/-- The length of an exponent that begins with one of the given letters; zero if there is
none. -/
def exponentLength (lower upper : Char) : List Char → Nat
  | e :: sign :: rest =>
      if e == lower || e == upper then
        if sign == '+' || sign == '-' then
          if digitRun Char.isDigit rest = 0 then 0 else digitRun Char.isDigit rest + 2
        else if digitRun Char.isDigit (sign :: rest) = 0 then 0
        else digitRun Char.isDigit (sign :: rest) + 1
      else 0
  | _ => 0

/-- `start` with the length of the text behind it, if there is any. -/
def extend (start more : Nat) : Nat := if more = 0 then 0 else start + more

/-- The length of the longest integer literal at the start of a text. -/
def integerLength (s : List Char) : Nat :=
  match s with
  | '0' :: rest =>
      let based := match rest with
        | c :: more =>
            if c == 'x' || c == 'X' then extend 2 (prefixedRun isHexDigit more)
            else if c == 'b' || c == 'B' then extend 2 (prefixedRun isBinaryDigit more)
            else if c == 'o' || c == 'O' then extend 2 (prefixedRun isOctalDigit more)
            else 0
        | [] => 0
      max 1 (max based (extend 1 (prefixedRun isOctalDigit rest)))
  | _ => digitRun Char.isDigit s

/-- The length of the longest decimal floating-point literal at the start of a text. -/
def decimalFloatLength (s : List Char) : Nat :=
  let whole := digitRun Char.isDigit s
  match s.drop whole with
  | '.' :: rest =>
      let fraction := digitRun Char.isDigit rest
      if whole = 0 && fraction = 0 then 0
      else whole + 1 + fraction + exponentLength 'e' 'E' (rest.drop fraction)
  | rest => if whole = 0 then 0 else extend whole (exponentLength 'e' 'E' rest)

/-- The length of the longest mantissa of base sixteen at the start of a text. -/
def hexMantissaLength (s : List Char) : Nat :=
  let whole := prefixedRun isHexDigit s
  match s.drop whole with
  | '.' :: rest =>
      let fraction := digitRun isHexDigit rest
      if whole = 0 && fraction = 0 then 0 else whole + 1 + fraction
  | _ => whole

/-- The length of the longest floating-point literal of base sixteen at the start of a text. -/
def hexFloatLength (s : List Char) : Nat :=
  match s with
  | '0' :: c :: rest =>
      if c == 'x' || c == 'X' then
        let mantissa := hexMantissaLength rest
        if mantissa = 0 then 0
        else extend (mantissa + 2) (exponentLength 'p' 'P' (rest.drop mantissa))
      else 0
  | _ => 0

/-- The kinds of number literals. -/
inductive NumberKind
  /-- An integer. -/
  | integer
  /-- A number with a fraction or an exponent. -/
  | float
  /-- A multiple of the imaginary unit. -/
  | imaginary
  deriving DecidableEq, Repr, Inhabited

/-- `n` with the letter of the imaginary unit behind it; zero if it is not there. -/
def imaginaryLength (s : List Char) (n : Nat) : Nat :=
  if n ≠ 0 && (s.drop n).head? == some 'i' then n + 1 else 0

/-- The kind and length of the longest number literal at the start of a text that begins with a
digit or with a point and a digit. -/
def numberAt (s : List Char) : NumberKind × Nat :=
  let integer := integerLength s
  let float := max (decimalFloatLength s) (hexFloatLength s)
  let digits := digitRun Char.isDigit s
  let imaginary :=
    max (imaginaryLength s digits) (max (imaginaryLength s integer) (imaginaryLength s float))
  if integer < imaginary && float < imaginary then (.imaginary, imaginary)
  else if integer < float then (.float, float)
  else (.integer, integer)

/-! ### Quoted literals -/

/-- How many characters an escape takes behind its backslash; none if it is no escape. -/
def escapeLength? : List Char → Option Nat
  | [] => none
  | 'x' :: rest => if 2 ≤ (rest.takeWhile isHexDigit).length then some 3 else none
  | 'u' :: rest => if 4 ≤ (rest.takeWhile isHexDigit).length then some 5 else none
  | 'U' :: rest => if 8 ≤ (rest.takeWhile isHexDigit).length then some 9 else none
  | '\x00' :: _ => none
  | _ :: _ => some 1

/-- The length of a string literal behind its opening quote, the closing quote included.  The
first argument counts the characters that belong to an escape. -/
def stringLength? : Nat → List Char → Option Nat
  | _, [] => none
  | skip + 1, _ :: rest => (stringLength? skip rest).map (· + 1)
  | 0, c :: rest =>
      if c == '"' then some 1
      else if c == '\n' || c == '\x00' then none
      else if c == '\\' then
        match escapeLength? rest with
        | none => none
        | some n => (stringLength? n rest).map (· + 1)
      else (stringLength? 0 rest).map (· + 1)

/-- The length of a raw string literal behind its opening quote, the closing quote included. -/
def rawStringLength? : List Char → Option Nat
  | [] => none
  | c :: rest =>
      if c == '\x60' then some 1
      else if c == '\x00' then none
      else (rawStringLength? rest).map (· + 1)

/-- Whether a character behind a backslash stands for one character in a rune literal. -/
def isSimpleEscape (c : Char) : Bool :=
  ['a', 'b', 'f', 'n', 'r', 't', 'v', '\\', '\'', '"'].contains c

/-- How many characters the escape of a rune literal takes behind its backslash; none if it is
no escape. -/
def runeEscapeLength? : List Char → Option Nat
  | [] => none
  | 'x' :: rest => if 2 ≤ ((rest.take 2).takeWhile isHexDigit).length then some 3 else none
  | 'u' :: rest => if 4 ≤ ((rest.take 4).takeWhile isHexDigit).length then some 5 else none
  | 'U' :: rest => if 8 ≤ ((rest.take 8).takeWhile isHexDigit).length then some 9 else none
  | c :: rest =>
      if isSimpleEscape c then some 1
      else if isOctalDigit c && 2 ≤ ((rest.take 2).takeWhile isOctalDigit).length then some 3
      else none

/-- The length of a rune literal behind its opening quote, the closing quote included. -/
def runeLength? (s : List Char) : Option Nat :=
  let inner := match s with
    | [] => none
    | '\\' :: rest => (runeEscapeLength? rest).map (· + 1)
    | c :: _ => if c == '\'' || c == '\x00' then none else some 1
  match inner with
  | none => none
  | some n => if (s.drop n).head? == some '\'' then some (n + 1) else none

/-! ### The value of an integer literal -/

/-- The value of a digit. -/
def digitValue (c : Char) : Nat :=
  if c.isDigit then c.toNat - '0'.toNat else c.toLower.toNat - 'a'.toNat + 10

/-- The number that digits of a base stand for; none if there are no digits or others. -/
def valueOfDigits? (base : Nat) (isDigit : Char → Bool) (digits : List Char) : Option Nat :=
  if digits.isEmpty || !digits.all isDigit then none
  else some (digits.foldl (fun n c => n * base + digitValue c) 0)

/-- The number that an integer literal without underscores stands for. -/
def plainValue? (s : List Char) : Option Nat :=
  match s with
  | '0' :: c :: rest =>
      if c == 'x' || c == 'X' then valueOfDigits? 16 isHexDigit rest
      else if c == 'b' || c == 'B' then valueOfDigits? 2 isBinaryDigit rest
      else if c == 'o' || c == 'O' then valueOfDigits? 8 isOctalDigit rest
      else valueOfDigits? 8 isOctalDigit (c :: rest)
  | digits => valueOfDigits? 10 Char.isDigit digits

/-- The number that an integer literal stands for, if it is less than 2 to the power of 64. -/
def integerValue? (literal : String) : Option Nat :=
  match plainValue? (literal.toList.filter (· != '_')) with
  | none => none
  | some n => if n < UInt64.size then some n else none

end WrapperGen.Source
