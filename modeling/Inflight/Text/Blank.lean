/-!
# Blank characters

Command lines are cut at blank characters, and paths are trimmed of them.  Blank
means the Unicode property White_Space, so a no-break space and an ideographic
space separate words just as a tab does.  This module holds the property as a
table, the trimming of both ends of a text, and the cut of a text at its first
blank.
-/

namespace Inflight.Text

set_option autoImplicit false

/-! ## The property -/

/-- The code points with the property White_Space, as ranges with both ends included. -/
def blankRanges : List (Nat × Nat) :=
  [(0x09, 0x0D), (0x20, 0x20), (0x85, 0x85), (0xA0, 0xA0), (0x1680, 0x1680),
   (0x2000, 0x200A), (0x2028, 0x2029), (0x202F, 0x202F), (0x205F, 0x205F), (0x3000, 0x3000)]

/-- A character is blank when some range of the table holds its code point. -/
def isBlank (c : Char) : Bool :=
  blankRanges.any fun range => range.1 ≤ c.toNat && c.toNat ≤ range.2

/-- The property White_Space has twenty-five code points. -/
example : (blankRanges.map fun range => range.2 - range.1 + 1).sum = 25 := by decide

/-! ## Trimming and cutting -/

/-- The characters without the blanks at either end. -/
def trimChars (cs : List Char) : List Char :=
  ((cs.dropWhile isBlank).reverse.dropWhile isBlank).reverse

/-- The text without the blanks at either end. -/
def trim (text : String) : String :=
  String.ofList (trimChars text.toList)

/-- The characters before the first blank, and those after it when there is one. -/
def cutAtBlank (cs : List Char) : List Char × Option (List Char) :=
  (cs.takeWhile fun c => !isBlank c, (cs.dropWhile fun c => !isBlank c).tail?)

end Inflight.Text
