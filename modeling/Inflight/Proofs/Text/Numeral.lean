import Inflight.Address
import Inflight.Text.Dotted

/-!
# Reading numerals back

A numeral has no mark at its end, and a column only pads it with spaces, so a
numeral is read back from what follows it.  Where that does not begin with a
digit, the numeral ends there: two texts that are equal, and that begin with
numerals before such a stop, have the same number and go on in the same way
(`Text.toDigits_append_inj`).  This does not depend on the width of a column, so
it holds as well where a numeral is wider than its column (`Text.column_cut`).
-/

namespace Inflight

set_option autoImplicit false

namespace Text

/-! ## Digits -/

/-- Whether a character is a digit of some base up to sixteen. -/
def isNumeric (c : Char) : Bool :=
  c.isDigit || ('a' ≤ c && c ≤ 'f')

/-- Whether a text begins with a character that ends a numeral. -/
def stops (rest : List Char) : Bool :=
  rest.head?.any (!isNumeric ·)

section Digits

variable {base : Nat}

theorem isNumeric_digitChar : ∀ digit < 16, isNumeric (Nat.digitChar digit) = true := by
  decide

theorem digitChar_inj : ∀ first < 16, ∀ second < 16,
    Nat.digitChar first = Nat.digitChar second → first = second := by
  decide

/-- A numeral is the digit of the remainder, behind the numeral of the quotient if there is
one. -/
theorem toDigits_eq_concat (large : 1 < base) (n : Nat) :
    Nat.toDigits base n =
      (if n < base then [] else Nat.toDigits base (n / base)) ++ [Nat.digitChar (n % base)] := by
  rw [Nat.toDigits_eq_if large]
  split
  · next single => rw [List.nil_append, Nat.mod_eq_of_lt single]
  · rfl

theorem isNumeric_of_mem_toDigits (large : 1 < base) (small : base ≤ 16) (n : Nat) :
    ∀ c ∈ Nat.toDigits base n, isNumeric c = true := by
  induction n using Nat.strongRecOn with
  | ind n ih =>
    intro c member
    rw [toDigits_eq_concat large, List.mem_append, List.mem_singleton] at member
    rcases member with front | rfl
    · split at front
      · cases front
      · next long => exact ih (n / base) (Nat.div_lt_self (by omega) large) c front
    · have digit : n % base < base := Nat.mod_lt n (by omega)
      exact isNumeric_digitChar _ (Nat.lt_of_lt_of_le digit small)

/-- A number is determined by its numeral. -/
theorem toDigits_inj (large : 1 < base) (small : base ≤ 16) (n : Nat) :
    ∀ m, Nat.toDigits base n = Nat.toDigits base m → n = m := by
  induction n using Nat.strongRecOn with
  | ind n ih =>
    intro m same
    rw [toDigits_eq_concat large n, toDigits_eq_concat large m] at same
    obtain ⟨fronts, lasts⟩ := List.append_inj' same rfl
    have below : ∀ k, k % base < 16 := fun k =>
      Nat.lt_of_lt_of_le (Nat.mod_lt k (by omega)) small
    have remainders : n % base = m % base :=
      digitChar_inj _ (below n) _ (below m) (List.singleton_inj.mp lasts)
    -- The quotients have the same numeral, or both numbers have a single digit.
    have quotients : n / base = m / base := by
      by_cases single : n < base <;> by_cases otherSingle : m < base
      · rw [Nat.div_eq_of_lt single, Nat.div_eq_of_lt otherSingle]
      · rw [if_pos single, if_neg otherSingle] at fronts
        exact absurd fronts.symm Nat.toDigits_ne_nil
      · rw [if_neg single, if_pos otherSingle] at fronts
        exact absurd fronts Nat.toDigits_ne_nil
      · rw [if_neg single, if_neg otherSingle] at fronts
        exact ih (n / base) (Nat.div_lt_self (by omega) large) _ fronts
    rw [← Nat.div_add_mod n base, ← Nat.div_add_mod m base, quotients, remainders]

/-- Before a stop a numeral ends where its digits do. -/
theorem takeWhile_toDigits_append (large : 1 < base) (small : base ≤ 16) (n : Nat)
    {rest : List Char} (stop : stops rest = true) :
    (Nat.toDigits base n ++ rest).takeWhile isNumeric = Nat.toDigits base n := by
  rw [List.takeWhile_append_of_pos (isNumeric_of_mem_toDigits large small n)]
  cases rest with
  | nil => cases stop
  | cons c rest =>
    have ends : isNumeric c = false := by simpa [stops] using stop
    rw [List.takeWhile_cons_of_neg (by simp [ends]), List.append_nil]

/-- Numerals before stops are told from what follows them. -/
theorem toDigits_append_inj (large : 1 < base) (small : base ≤ 16) {n m : Nat}
    {rest other : List Char} (stop : stops rest = true) (otherStop : stops other = true)
    (same : Nat.toDigits base n ++ rest = Nat.toDigits base m ++ other) :
    n = m ∧ rest = other := by
  have digits : Nat.toDigits base n = Nat.toDigits base m := by
    rw [← takeWhile_toDigits_append large small n stop, same,
      takeWhile_toDigits_append large small m otherStop]
  obtain rfl := toDigits_inj large small n m digits
  exact ⟨rfl, List.append_cancel_left same⟩

theorem decimal_inj {n m : Nat} (same : decimal n = decimal m) : n = m :=
  toDigits_inj (by decide) (by decide) n m (String.ofList_inj.mp same)

/-- A decimal numeral is a path of one segment. -/
theorem segments_decimal (n : Nat) : segments (decimal n) = [decimal n] := by
  have undotted : '.' ∉ (decimal n).toList := by
    intro dot
    rw [decimal, String.toList_ofList] at dot
    exact absurd (isNumeric_of_mem_toDigits (by decide) (by decide) n _ dot) (by decide)
  rw [segments, List.splitOn_eq_singleton undotted, List.map_singleton, String.ofList_toList]

end Digits

/-! ## Numerals before a literal -/

/-- A literal that begins with a stop is one, whatever follows it. -/
theorem stops_append {literal : List Char} (stop : stops literal = true) (rest : List Char) :
    stops (literal ++ rest) = true := by
  cases literal with
  | nil => cases stop
  | cons c literal => exact stop

section Cuts

variable {n m width : Nat} {rest other : List Char}

theorem decimal_append_inj (stop : stops rest = true) (otherStop : stops other = true)
    (same : (decimal n).toList ++ rest = (decimal m).toList ++ other) : n = m ∧ rest = other := by
  rw [decimal, decimal, String.toList_ofList, String.toList_ofList] at same
  exact toDigits_append_inj (by decide) (by decide) stop otherStop same

/-- A column ends where its numeral does and the padding after that. -/
theorem column_append_inj (stop : stops rest = true) (otherStop : stops other = true)
    (same : (column width n).toList ++ rest = (column width m).toList ++ other) :
    n = m ∧ rest = other := by
  have padded : ∀ (fill : Nat) (text : List Char), stops text = true →
      stops (List.replicate fill ' ' ++ text) = true := by
    intro fill text stop
    cases fill with
    | zero => exact stop
    | succ fill => rfl
  simp only [column, leftJustify, String.toList_append, String.toList_ofList,
    List.append_assoc] at same
  obtain ⟨rfl, padding⟩ := decimal_append_inj (padded _ _ stop) (padded _ _ otherStop) same
  exact ⟨rfl, List.append_cancel_left padding⟩

variable {literal : String}

theorem decimal_cut
    (same : (decimal n).toList ++ (literal.toList ++ rest) =
      (decimal m).toList ++ (literal.toList ++ other))
    (stop : stops literal.toList = true := by decide) : n = m ∧ rest = other := by
  obtain ⟨number, rest⟩ :=
    decimal_append_inj (stops_append stop _) (stops_append stop _) same
  exact ⟨number, List.append_cancel_left rest⟩

theorem column_cut
    (same : (column width n).toList ++ (literal.toList ++ rest) =
      (column width m).toList ++ (literal.toList ++ other))
    (stop : stops literal.toList = true := by decide) : n = m ∧ rest = other := by
  obtain ⟨number, rest⟩ :=
    column_append_inj (stops_append stop _) (stops_append stop _) same
  exact ⟨number, List.append_cancel_left rest⟩

theorem word_cut {word otherWord : UInt64}
    (same : (column width word.toNat).toList ++ (literal.toList ++ rest) =
      (column width otherWord.toNat).toList ++ (literal.toList ++ other))
    (stop : stops literal.toList = true := by decide) : word = otherWord ∧ rest = other := by
  obtain ⟨number, rest⟩ := column_cut same stop
  exact ⟨UInt64.toNat_inj.mp number, rest⟩

end Cuts

/-! ## Numerals within a line -/

/-- No numeral breaks a line. -/
theorem newline_notMem_toDigits {base : Nat} (large : 1 < base) (small : base ≤ 16) (n : Nat) :
    '\n' ∉ Nat.toDigits base n := fun member =>
  absurd (isNumeric_of_mem_toDigits large small n _ member) (by decide)

@[simp]
theorem newline_notMem_decimal (n : Nat) : '\n' ∉ (decimal n).toList := by
  rw [decimal, String.toList_ofList]
  exact newline_notMem_toDigits (by decide) (by decide) n

@[simp]
theorem newline_notMem_column (width n : Nat) : '\n' ∉ (column width n).toList := by
  simp [column, leftJustify]

end Text

/-- An address before a literal that begins with a stop is told from what follows it. -/
theorem Address.text_cut {address otherAddress : Address} {rest other : List Char}
    {literal : String}
    (same : address.text.toList ++ (literal.toList ++ rest) =
      otherAddress.text.toList ++ (literal.toList ++ other))
    (stop : Text.stops literal.toList = true := by decide) :
    address = otherAddress ∧ rest = other := by
  simp only [text, digits, Text.hexadecimal, String.toList_append, String.toList_ofList,
    List.append_assoc, -String.reduceToList] at same
  obtain ⟨number, onward⟩ := Text.toDigits_append_inj (by decide) (by decide)
    (Text.stops_append stop _) (Text.stops_append stop _) (List.append_cancel_left same)
  obtain ⟨word⟩ := address
  obtain ⟨otherWord⟩ := otherAddress
  obtain rfl := UInt64.toNat_inj.mp number
  exact ⟨rfl, List.append_cancel_left onward⟩

@[simp]
theorem Address.newline_notMem_text (address : Address) : '\n' ∉ address.text.toList := by
  simp [text, digits, Text.hexadecimal, Text.newline_notMem_toDigits]

end Inflight
