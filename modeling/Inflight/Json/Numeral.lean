/-!
# Numerals

A number of a document is kept as it was spelled.  Spelled without fraction and
exponent it is an integer when a word can hold it: an unsigned word without a
minus sign, a signed word with one.  Every other numeral is a binary
floating-point number, and some are too large for one.
-/

namespace Inflight.Json

set_option autoImplicit false

/-- A number as it was spelled. -/
structure Numeral where
  /-- Whether a minus sign stands first. -/
  negative : Bool
  /-- The digits before the point. -/
  whole : List Char
  /-- The digits after the point; none when there is no point. -/
  fraction : List Char := []
  /-- Whether the exponent is negative, and its digits. -/
  exponent : Option (Bool × List Char) := none
deriving DecidableEq, Repr

namespace Numeral

/-- The number that a row of decimal digits denotes. -/
abbrev valueOf (digits : List Char) : Nat :=
  Nat.ofDigitChars 10 digits 0

/-- A natural number in its shortest spelling. -/
def ofNat (n : Nat) : Numeral :=
  { negative := false, whole := Nat.toDigits 10 n }

/-! ## Integers -/

/-- The number of unsigned words, which is the first number that none of them holds. -/
def wordCount : Nat := 18446744073709551616

/-- The number of negative signed words, the last of which is the least one. -/
def negativeCount : Nat := 9223372036854775808

/-- The integer that the numeral spells, when a word can hold it. -/
def integer? (numeral : Numeral) : Option Int :=
  if numeral.fraction = [] ∧ numeral.exponent = none then
    let value := valueOf numeral.whole
    if numeral.negative then
      if 0 < value ∧ value ≤ negativeCount then some (-(value : Int)) else none
    else if value < wordCount then some value else none
  else none

/-! ## The range of binary floating point -/

/-- Reads digits into a word as long as they fit; gives the word and the number of digits
that are left. -/
def fillWord (word : Nat) : List Char → Nat × Nat
  | [] => (word, 0)
  | digit :: rest =>
    let next := valueOf [digit] + 10 * word
    if next < wordCount then fillWord next rest else (word, rest.length + 1)

/-- The nearest number with at most fifty-three significant bits; of two nearest ones, the
one whose last bit is zero. -/
def roundToDouble (n : Nat) : Nat :=
  let shift := n.log2 - 52
  let kept := n >>> shift
  let step := 1 <<< shift
  let lost := n % step
  let roundsUp := step < 2 * lost ∨ (2 * lost = step ∧ kept % 2 = 1)
  (if roundsUp then kept + 1 else kept) * step

/-- The least product that rounds above the largest double: that double and half a step. -/
def firstBeyondDouble : Nat := 1 <<< 1024 - 1 <<< 970

/-- A numeral is too large when the digits that fit a word, scaled by a rounded power of ten,
round beyond the largest double.  Digits of the fraction that do not fit are dropped. -/
def tooLarge (numeral : Numeral) : Bool :=
  let (head, dropped) := fillWord 0 numeral.whole
  let (word, unread) := fillWord head numeral.fraction
  let shift : Int :=
    match numeral.exponent with
    | none => 0
    | some (true, digits) => -(valueOf digits : Int)
    | some (false, digits) => valueOf digits
  let scale : Int := shift + dropped - (numeral.fraction.length - unread : Nat)
  word ≠ 0 && 0 ≤ scale &&
    (308 < scale || firstBeyondDouble ≤ roundToDouble word * roundToDouble (Nat.pow 10 scale.toNat))

/-- A natural number spelled and read back is the same, as long as a word can hold it. -/
theorem integer?_ofNat {n : Nat} (fits : n < wordCount) : (ofNat n).integer? = some (n : Int) := by
  simp only [ofNat, integer?, valueOf, Nat.ofDigitChars_ten_toDigits, and_self, if_true,
    Bool.false_eq_true, if_false, fits]

/-- The largest double can be spelled with many digits, and the next step cannot be spelled. -/
example : ¬ tooLarge ⟨false, ['1'], [], some (false, ['3', '0', '8'])⟩ ∧
    tooLarge ⟨false, ['2'], [], some (false, ['3', '0', '8'])⟩ := by decide +kernel

/-! ## Spelling -/

/-- The digits at the front of a text, and what follows them. -/
def spanDigits (cs : List Char) : List Char × List Char :=
  (cs.takeWhile Char.isDigit, cs.dropWhile Char.isDigit)

/-- Reads the digits before the point: a single zero, or digits that start with another one. -/
def readWhole (cs : List Char) : Option (List Char × List Char) :=
  match spanDigits cs with
  | ([], _) => none
  | ('0' :: _ :: _, _) => none
  | (digits, rest) => some (digits, rest)

/-- Reads a point with the digits after it, where there is a point. -/
def readFraction : List Char → Option (List Char × List Char)
  | '.' :: rest =>
    match spanDigits rest with
    | ([], _) => none
    | (digits, rest) => some (digits, rest)
  | rest => some ([], rest)

/-- Reads the sign of an exponent. -/
def readExponentSign : List Char → Bool × List Char
  | '-' :: rest => (true, rest)
  | '+' :: rest => (false, rest)
  | rest => (false, rest)

/-- Reads the digits of an exponent after its sign. -/
def readExponentDigits (cs : List Char) : Option (Option (Bool × List Char) × List Char) :=
  match readExponentSign cs with
  | (negative, rest) =>
    match spanDigits rest with
    | ([], _) => none
    | (digits, rest) => some (some (negative, digits), rest)

/-- Reads an exponent, where there is one. -/
def readExponent : List Char → Option (Option (Bool × List Char) × List Char)
  | 'e' :: rest => readExponentDigits rest
  | 'E' :: rest => readExponentDigits rest
  | rest => some (none, rest)

/-- Reads what follows the sign of a number. -/
def readUnsigned (negative : Bool) (cs : List Char) : Option (Numeral × List Char) := do
  let (whole, rest) ← readWhole cs
  let (fraction, rest) ← readFraction rest
  let (exponent, rest) ← readExponent rest
  return ({ negative, whole, fraction, exponent }, rest)

/-- Reads a number at the front of a text; gives it with what follows. -/
def read : List Char → Option (Numeral × List Char)
  | '-' :: rest => readUnsigned true rest
  | rest => readUnsigned false rest

end Numeral

end Inflight.Json
