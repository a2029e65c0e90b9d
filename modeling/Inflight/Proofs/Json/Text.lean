import Inflight.Json.Piece
import Inflight.Json.Value
import Mathlib.Tactic.SplitIfs

/-!
# Texts in quotes read back

A character is written inside quotes as itself, by a short escape, or as a unit,
and each of these is one piece when it is read.  The units that are written name
control characters and no surrogates, so every piece stands for its character
alone, and a text in quotes reads back as it was written, whatever characters it
holds (`Json.readText_quote`).
-/

namespace Inflight.Json

set_option autoImplicit false

/-- The piece as which a character is written. -/
def pieceOf (c : Char) : Piece :=
  if c.toNat < 0x20 ∧ c ∉ ['\x08', '\x0c', '\n', '\r', '\t'] then .unit c.toNat else .literal c

/-! ## From the text to pieces -/

namespace Piece

/-- A control character is written by two zeros and the two digits of its code point. -/
theorem hexadecimal_control : ∀ n < 0x20, (Text.zeroFill 2 (Text.hexadecimal n)).toList =
    [Nat.digitChar (n / 16), Nat.digitChar (n % 16)] := by
  decide

/-- These four digits name the control character. -/
theorem unit?_control : ∀ n < 0x20,
    unit? '0' '0' (Nat.digitChar (n / 16)) (Nat.digitChar (n % 16)) = some (.unit n) := by
  decide

theorem readAll_unitEscape {c : Char} (control : c.toNat < 0x20) (rest : List Char) :
    readAll (Value.unitEscape c ++ rest) = cons? (some (.unit c.toNat)) (readAll rest) := by
  simp only [Value.unitEscape, hexadecimal_control c.toNat control, List.cons_append,
    List.nil_append, readAll, unit?_control c.toNat control]

theorem readAll_literal {c : Char} (unquoted : c ≠ '"') (plain : c ≠ '\\')
    (visible : ¬c.toNat < 0x20) (rest : List Char) :
    readAll (c :: rest) = cons? (some (.literal c)) (readAll rest) := by
  rw [readAll]
  · rw [if_neg (by simp [plain, visible])]
  · exact fun same => unquoted same
  · exact fun _ _ _ _ _ same _ => plain same
  · exact fun _ _ same _ => plain same

/-- A written character is read as one piece. -/
theorem readAll_escapeChar (c : Char) (rest : List Char) :
    readAll (Value.escapeChar c ++ rest) = cons? (some (pieceOf c)) (readAll rest) := by
  unfold Value.escapeChar
  split_ifs with quote backslash backspace formFeed lineEnd carriage tab control
  · subst quote; rfl
  · subst backslash; rfl
  · subst backspace; rfl
  · subst formFeed; rfl
  · subst lineEnd; rfl
  · subst carriage; rfl
  · subst tab; rfl
  · have piece : pieceOf c = .unit c.toNat :=
      if_pos ⟨control, by simp [backspace, formFeed, lineEnd, carriage, tab]⟩
    rw [readAll_unitEscape control, piece]
  · have piece : pieceOf c = .literal c := if_neg fun both => control both.1
    rw [List.singleton_append, readAll_literal quote backslash control, piece]

theorem readAll_escaped (cs rest : List Char) :
    readAll (cs.flatMap Value.escapeChar ++ '"' :: rest) = some (cs.map pieceOf, rest) := by
  induction cs with
  | nil => simp [readAll]
  | cons c cs ih =>
    rw [List.flatMap_cons, List.append_assoc, readAll_escapeChar, ih]
    rfl

/-! ## From pieces to characters -/

/-- A written character stands for itself, whatever pieces follow it. -/
theorem assemble_pieceOf (c : Char) (rest : List Piece) :
    assemble (pieceOf c :: rest) = (assemble rest).map (c :: ·) := by
  unfold pieceOf
  split_ifs with control
  · have low : c.toNat < 0x20 := control.1
    have notHigh : isHigh c.toNat = false := by simp [isHigh]; omega
    have notLow : isLow c.toNat = false := by simp [isLow]; omega
    match rest with
    | [] => simp [assemble, notHigh, notLow]
    | .literal next :: rest => simp [assemble, notHigh, notLow]
    | .unit next :: rest => simp [assemble, notHigh, notLow]
  · rfl

theorem assemble_map_pieceOf (cs : List Char) : assemble (cs.map pieceOf) = some cs := by
  induction cs with
  | nil => rfl
  | cons c cs ih => rw [List.map_cons, assemble_pieceOf, ih, Option.map_some]

end Piece

/-- **A text in quotes reads back**, with whatever follows it. -/
theorem readText_quote (text : String) (rest : List Char) :
    readText (text.toList.flatMap Value.escapeChar ++ '"' :: rest) = some (some text, rest) := by
  unfold readText
  rw [Piece.readAll_escaped]
  simp [Piece.assemble_map_pieceOf]

end Inflight.Json
