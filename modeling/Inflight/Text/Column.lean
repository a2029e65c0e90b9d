/-!
# Numerals and columns

Counts are written in decimal and addresses in lower-case hexadecimal.  In a
record most numerals stand in a left-justified column: spaces follow until the
column is full, and a numeral wider than its column keeps all its digits.
-/

namespace Inflight.Text

set_option autoImplicit false

/-- The decimal digits of a number, without leading zeros. -/
def decimal (n : Nat) : String :=
  String.ofList (Nat.toDigits 10 n)

/-- The lower-case hexadecimal digits of a number, without leading zeros. -/
def hexadecimal (n : Nat) : String :=
  String.ofList (Nat.toDigits 16 n)

/-- A text followed by the spaces that fill a column of the given width. -/
def leftJustify (width : Nat) (text : String) : String :=
  text ++ String.ofList (List.replicate (width - text.length) ' ')

/-- A number in a left-justified column. -/
def column (width n : Nat) : String :=
  leftJustify width (decimal n)

/-- A numeral wider than its column keeps all its digits. -/
example : column 4 3 = "3   " ∧ column 3 12345 = "12345" := by decide

/-- A text preceded by the zeros that bring it to the given width. -/
def zeroFill (width : Nat) (text : String) : String :=
  String.ofList (List.replicate (width - text.length) '0') ++ text

end Inflight.Text
