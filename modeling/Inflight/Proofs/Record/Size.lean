import Inflight.Log.Sink
import Inflight.Record

/-!
# The size of a record

The layout of a record has literals of a fixed length, and its numerals are as
long as their numbers ask for.  A number that fits a word of 64 bits has at most
twenty decimal digits, and an address at most sixteen hexadecimal ones.  So there
is a greatest length of a record, whatever it tells (`Record.length_text_le`),
and it is far below what the buffer of a log takes
(`Record.utf8ByteSize_text_lt`).  Lengths are counted in characters.
-/

namespace Inflight

set_option autoImplicit false

/-! ## Numerals -/

namespace Text

/-- No character takes more than four bytes. -/
theorem utf8ByteSize_le (text : String) : text.utf8ByteSize ≤ 4 * text.toList.length := by
  have each : ∀ chars : List Char, (String.ofList chars).utf8ByteSize ≤ 4 * chars.length := by
    intro chars
    induction chars with
    | nil => exact Nat.le_refl 0
    | cons c rest ih =>
      have first := c.utf8Size_le_four
      rw [String.ofList_cons, String.utf8ByteSize_append, String.utf8ByteSize_singleton,
        List.length_cons]
      omega
  have whole := each text.toList
  rwa [String.ofList_toList] at whole

theorem length_decimal_le {n : Nat} (fits : n < UInt64.size) : (decimal n).toList.length ≤ 20 := by
  rw [decimal, String.toList_ofList]
  exact (Nat.length_toDigits_le_iff (by decide) (by decide)).mpr (Nat.lt_trans fits (by decide))

/-- A column that is not wider than twenty stays so with every word. -/
theorem length_column_le {n : Nat} (width : Nat) (fits : n < UInt64.size) (narrow : width ≤ 20) :
    (column width n).toList.length ≤ 20 := by
  have numeral := length_decimal_le fits
  simp only [column, leftJustify, String.toList_append, String.toList_ofList, List.length_append,
    List.length_replicate, ← String.length_toList]
  omega

/-- A column of width three with a count of 32 bits. -/
theorem length_column_three_le {count : Nat} (fits : count < UInt32.size) :
    (column 3 count).toList.length ≤ 20 :=
  length_column_le 3 (Nat.lt_trans fits (by decide)) (by decide)

end Text

theorem Address.length_text_le (address : Address) : address.text.toList.length ≤ 18 := by
  have digits : (Text.hexadecimal address.word.toNat).toList.length ≤ 16 := by
    rw [Text.hexadecimal, String.toList_ofList]
    exact (Nat.length_toDigits_le_iff (by decide) (by decide)).mpr address.word.toNat_lt_size
  rw [text, Address.digits, String.toList_append, List.length_append]
  exact Nat.add_le_add (Nat.le_refl 2) digits

/-! ## Lines -/

/-- The numbers of a record fit the words that count them: 64 bits for the ordinal and 32 for each
count of the census. -/
structure Record.Fits (record : Record) : Prop where
  ordinal : record.ordinal < UInt64.size
  committedBefore : record.census.committedBefore < UInt32.size
  pendingBefore : record.census.pendingBefore < UInt32.size
  committedAfter : record.census.committedAfter < UInt32.size
  pendingAfter : record.census.pendingAfter < UInt32.size
  rsOnPath : record.census.rsOnPath < UInt32.size
  rsOffPath : record.census.rsOffPath < UInt32.size
  missOnPath : record.census.missOnPath < UInt32.size
  missOffPath : record.census.missOffPath < UInt32.size

theorem OracleColumns.length_text_le (columns : OracleColumns) :
    columns.text.toList.length ≤ 101 := by
  have tag : columns.oracle.prediction.tag.toList.length = 4 := by
    cases columns.oracle.prediction <;> rfl
  have predConf := Text.length_decimal_le columns.oracle.predConf.toNat_lt_size
  have confCounter := Text.length_decimal_le columns.confCounter.toNat_lt_size
  have target := columns.oracle.target.length_text_le
  unfold text
  simp only [String.toList_append, List.length_append, String.reduceToList, List.length_cons,
    List.length_nil]
  omega

namespace Record

variable {record : Record}

theorem length_headLine_le (fits : record.Fits) : record.headLine.toList.length ≤ 234 := by
  have tag : record.trigger.tag.toList.length ≤ 12 := by
    cases record.trigger <;> simp [Trigger.tag]
  have addr := record.addr.length_text_le
  have ordinal := Text.length_column_le 4 fits.ordinal (by decide)
  have cycle := Text.length_column_le 10 record.cycle.toNat_lt_size (by decide)
  have opNum := Text.length_column_le 10 record.opNum.toNat_lt_size (by decide)
  have offPath : (if record.offPath then "1" else "0").toList.length = 1 := by
    cases record.offPath <;> rfl
  have oracle : (record.oracle.elim "" OracleColumns.text).toList.length ≤ 101 := by
    cases record.oracle with
    | none => exact Nat.zero_le _
    | some columns => exact columns.length_text_le
  unfold headLine
  simp only [String.toList_append, List.length_append, String.reduceToList, List.length_cons,
    List.length_nil]
  omega

theorem length_fetchLine_le (record : Record) : record.fetchLine.toList.length ≤ 84 := by
  have fetchAddr := record.fetchAddr.length_text_le
  unfold fetchLine
  cases record.trigger with
  | mispredict recoveryCycle =>
    have cycle := Text.length_column_le 10 recoveryCycle.toNat_lt_size (by decide)
    simp only [String.toList_append, List.length_append, String.reduceToList, List.length_cons,
      List.length_nil]
    omega
  | recoveryEnd =>
    simp only [String.toList_append, List.length_append, String.reduceToList, List.length_cons,
      List.length_nil]
    omega

theorem length_missText_le (fits : record.Fits) : record.missText.toList.length ≤ 60 := by
  have off := Text.length_column_three_le fits.missOffPath
  have on := Text.length_column_three_le fits.missOnPath
  unfold missText
  simp only [String.toList_append, List.length_append, String.reduceToList, List.length_cons,
    List.length_nil]
  omega

theorem length_windowLine_le (fits : record.Fits) : record.windowLine.toList.length ≤ 240 := by
  have committedBefore := Text.length_column_three_le fits.committedBefore
  have pendingBefore := Text.length_column_three_le fits.pendingBefore
  have committedAfter := Text.length_column_three_le fits.committedAfter
  have pendingAfter := Text.length_column_three_le fits.pendingAfter
  have total := Text.length_column_le 3 record.windowTotal.toNat_lt_size (by decide)
  have miss : (if record.missColumn then record.missText else "").toList.length ≤ 60 := by
    cases record.missColumn with
    | true => exact length_missText_le fits
    | false => exact Nat.zero_le _
  unfold windowLine
  simp only [String.toList_append, List.length_append, String.reduceToList, List.length_cons,
    List.length_nil]
  omega

theorem length_rsLine_le (fits : record.Fits) : record.rsLine.toList.length ≤ 127 := by
  have off := Text.length_column_three_le fits.rsOffPath
  have on := Text.length_column_three_le fits.rsOnPath
  have total := Text.length_column_le 3 record.rsTotal.toNat_lt_size (by decide)
  unfold rsLine
  simp only [String.toList_append, List.length_append, String.reduceToList, List.length_cons,
    List.length_nil]
  omega

/-! ## The whole record -/

/-- No record is longer than this. -/
theorem length_text_le (fits : record.Fits) : record.text.toList.length ≤ 685 := by
  have head := length_headLine_le fits
  have fetch := record.length_fetchLine_le
  have window := length_windowLine_le fits
  have rs := length_rsLine_le fits
  simp only [text, String.toList_append, List.length_append]
  omega

/-- The empty buffer of a log takes every record. -/
theorem utf8ByteSize_text_lt (fits : record.Fits) :
    record.text.utf8ByteSize < Log.Sink.capacity := by
  calc record.text.utf8ByteSize
      ≤ 4 * record.text.toList.length := Text.utf8ByteSize_le _
    _ ≤ 4 * 685 := Nat.mul_le_mul_left 4 (length_text_le fits)
    _ < Log.Sink.capacity := by decide

end Record

end Inflight
