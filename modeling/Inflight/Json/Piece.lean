/-!
# Texts between double quotes

Inside quotes a character stands for itself or is escaped.  An escape by four
hexadecimal digits names a sixteen-bit unit, and a character above the first
plane is named by two units, a high and a low surrogate.  A text is therefore
read in two steps: into its pieces, which settles where it ends, and from the
pieces into its characters, which fails when a surrogate stands alone.
-/

namespace Inflight.Json

set_option autoImplicit false

/-- One spelled part of a text. -/
inductive Piece where
  /-- A character, spelled as itself or by a short escape. -/
  | literal (c : Char)
  /-- A sixteen-bit unit, spelled by four hexadecimal digits. -/
  | unit (code : Nat)
deriving DecidableEq, Repr

namespace Piece

/-! ## From the text to pieces -/

/-- The value of a hexadecimal digit. -/
def hexDigit? (c : Char) : Option Nat :=
  if '0' ≤ c ∧ c ≤ '9' then some (c.toNat - '0'.toNat)
  else if 'a' ≤ c ∧ c ≤ 'f' then some (c.toNat - 'a'.toNat + 10)
  else if 'A' ≤ c ∧ c ≤ 'F' then some (c.toNat - 'A'.toNat + 10)
  else none

/-- The unit that four hexadecimal digits name. -/
def unit? (a b c d : Char) : Option Piece := do
  let a ← hexDigit? a
  let b ← hexDigit? b
  let c ← hexDigit? c
  let d ← hexDigit? d
  return .unit (((a * 16 + b) * 16 + c) * 16 + d)

/-- The character that a short escape names. -/
def shortEscape? : Char → Option Char
  | '"' => some '"'
  | '\\' => some '\\'
  | '/' => some '/'
  | 'b' => some '\x08'
  | 'f' => some '\x0c'
  | 'n' => some '\n'
  | 'r' => some '\r'
  | 't' => some '\t'
  | _ => none

/-- Puts a piece in front of the pieces read after it. -/
def cons? (piece : Option Piece) (read : Option (List Piece × List Char)) :
    Option (List Piece × List Char) := do
  let piece ← piece
  let (pieces, rest) ← read
  return (piece :: pieces, rest)

/-- Reads the pieces up to the closing quote; gives them with what follows the quote. -/
def readAll : List Char → Option (List Piece × List Char)
  | [] => none
  | '"' :: rest => some ([], rest)
  | '\\' :: 'u' :: a :: b :: c :: d :: rest => cons? (unit? a b c d) (readAll rest)
  | '\\' :: c :: rest => cons? ((shortEscape? c).map .literal) (readAll rest)
  | c :: rest =>
    if c = '\\' ∨ c.toNat < 0x20 then none else cons? (some (.literal c)) (readAll rest)

/-! ## From pieces to characters -/

/-- The units that open a pair. -/
def isHigh (code : Nat) : Bool := 0xD800 ≤ code && code < 0xDC00

/-- The units that close a pair. -/
def isLow (code : Nat) : Bool := 0xDC00 ≤ code && code < 0xE000

/-- The character that a pair of units names. -/
def ofPair (high low : Nat) : Char :=
  Char.ofNat (0x10000 + (high - 0xD800) * 0x400 + (low - 0xDC00))

/-- The characters of a text; none when a surrogate stands alone. -/
def assemble : List Piece → Option (List Char)
  | [] => some []
  | .literal c :: rest => (assemble rest).map (c :: ·)
  | .unit high :: .unit low :: rest =>
    if isHigh high then
      if isLow low then (assemble rest).map (ofPair high low :: ·) else none
    else if isLow high then none
    else (assemble (.unit low :: rest)).map (Char.ofNat high :: ·)
  | .unit code :: rest =>
    if isHigh code || isLow code then none
    else (assemble rest).map (Char.ofNat code :: ·)

/-- A pair of units names a character above the first plane. -/
example : assemble [.unit 0xD83D, .unit 0xDE00] = some ['😀'] ∧ assemble [.unit 0xD83D] = none ∧
    assemble [.unit 0xDE00, .unit 0xD83D] = none := by decide

end Piece

/-- Reads a text after its opening quote.  The outer option tells whether the text is well
formed, the inner one whether it can be represented. -/
def readText (cs : List Char) : Option (Option String × List Char) := do
  let (pieces, rest) ← Piece.readAll cs
  return ((Piece.assemble pieces).map String.ofList, rest)

end Inflight.Json
