import Inflight.Json.Numeral
import Inflight.Proofs.Text.Numeral

/-!
# Natural numbers read back

A natural number is written in its shortest spelling, which has no zero in front
of other digits.  It is read back as it was spelled, unless what follows goes on
with it (`Json.Numeral.read_toDigits`).  A number that a word can hold is far
below the range in which a document is refused for its size
(`Json.Numeral.tooLarge_ofNat`).
-/

namespace Inflight.Json

set_option autoImplicit false

/-- Whether a character after a number goes on with it. -/
def continues (c : Char) : Bool :=
  c.isDigit || c == '.' || c == 'e' || c == 'E'

/-- A text that ends the number before it. -/
def Stops (rest : List Char) : Prop :=
  ∀ c ∈ rest.head?, continues c = false

theorem Stops.nil : Stops [] := fun _ absent => nomatch absent

theorem Stops.cons {c : Char} (other : continues c = false) (rest : List Char) :
    Stops (c :: rest) := by
  intro first here
  obtain rfl : c = first := Option.some.inj here
  exact other

namespace Numeral

/-! ## Spelling -/

theorem isDigit_of_mem_toDigits {n : Nat} {c : Char} (member : c ∈ Nat.toDigits 10 n) :
    c.isDigit = true :=
  Nat.isDigit_of_mem_toDigits (by decide) (by decide) member

/-- A positive number is spelled without zeros in front. -/
theorem toDigits_of_pos (n : Nat) (positive : 0 < n) :
    ∃ c cs, Nat.toDigits 10 n = c :: cs ∧ c ≠ '0' := by
  induction n using Nat.strongRecOn with
  | ind n ih =>
    rw [Text.toDigits_eq_concat (by decide)]
    split
    · next single =>
      refine ⟨Nat.digitChar (n % 10), [], rfl, fun zero => ?_⟩
      have none : n % 10 = 0 :=
        Text.digitChar_inj _ (by omega) 0 (by decide) zero
      omega
    · next long =>
      obtain ⟨c, cs, digits, front⟩ := ih (n / 10) (by omega) (by omega)
      exact ⟨c, cs ++ [Nat.digitChar (n % 10)], by rw [digits, List.cons_append], front⟩

section Reading

variable {rest : List Char}

theorem spanDigits_append {digits : List Char} (all : ∀ c ∈ digits, c.isDigit = true)
    (stops : Stops rest) : spanDigits (digits ++ rest) = (digits, rest) := by
  have ends : rest.takeWhile Char.isDigit = [] ∧ rest.dropWhile Char.isDigit = rest := by
    cases rest with
    | nil => exact ⟨rfl, rfl⟩
    | cons c rest =>
      have other : continues c = false := stops c rfl
      have noDigit : ¬c.isDigit = true := by
        simp only [continues, Bool.or_eq_false_iff] at other
        simp [other.1.1.1]
      exact ⟨List.takeWhile_cons_of_neg noDigit, List.dropWhile_cons_of_neg noDigit⟩
  rw [spanDigits, List.takeWhile_append_of_pos all, List.dropWhile_append_of_pos all, ends.1,
    ends.2, List.append_nil]

theorem readWhole_toDigits (n : Nat) (stops : Stops rest) :
    readWhole (Nat.toDigits 10 n ++ rest) = some (Nat.toDigits 10 n, rest) := by
  rw [readWhole, spanDigits_append (fun _ => isDigit_of_mem_toDigits) stops]
  rcases Nat.eq_zero_or_pos n with rfl | positive
  · rfl
  · obtain ⟨c, cs, digits, front⟩ := toDigits_of_pos n positive
    rw [digits]
    split
    · next none => cases none
    · next padded => exact absurd (List.cons.inj (Prod.mk.inj padded).1).1 front
    · next plain =>
      obtain ⟨rfl, rfl⟩ := Prod.mk.inj plain
      rfl

theorem readFraction_of_stops (stops : Stops rest) : readFraction rest = some ([], rest) := by
  unfold readFraction
  split
  · exact absurd (stops '.' rfl) (by decide)
  · rfl

theorem readExponent_of_stops (stops : Stops rest) : readExponent rest = some (none, rest) := by
  unfold readExponent
  split
  · exact absurd (stops 'e' rfl) (by decide)
  · exact absurd (stops 'E' rfl) (by decide)
  · rfl

/-- **A natural number reads back**, when what follows does not go on with it. -/
theorem read_toDigits (n : Nat) (stops : Stops rest) :
    read (Nat.toDigits 10 n ++ rest) = some (ofNat n, rest) := by
  have unsigned : readUnsigned false (Nat.toDigits 10 n ++ rest) = some (ofNat n, rest) := by
    simp only [readUnsigned, readWhole_toDigits n stops, readFraction_of_stops stops,
      readExponent_of_stops stops, Option.bind_eq_bind, Option.bind_some]
    rfl
  unfold read
  split
  · next minus =>
    have first : '-' ∈ Nat.toDigits 10 n := by
      cases digits : Nat.toDigits 10 n with
      | nil => exact absurd digits Nat.toDigits_ne_nil
      | cons c cs =>
        rw [digits] at minus
        exact (List.cons.inj minus).1 ▸ List.mem_cons_self
    exact absurd (isDigit_of_mem_toDigits first) (by decide)
  · exact unsigned

end Reading

/-! ## Size -/

theorem le_ofDigitChars (digits : List Char) (word : Nat) :
    word ≤ Nat.ofDigitChars 10 digits word := by
  induction digits generalizing word with
  | nil => exact Nat.le_refl _
  | cons digit digits ih =>
    rw [Nat.ofDigitChars_cons]
    have later := ih (10 * word + (digit.toNat - '0'.toNat))
    omega

/-- Digits that fit a word are all read into it. -/
theorem fillWord_of_fits (digits : List Char) (word : Nat)
    (fits : Nat.ofDigitChars 10 digits word < wordCount) :
    fillWord word digits = (Nat.ofDigitChars 10 digits word, 0) := by
  induction digits generalizing word with
  | nil => rfl
  | cons digit digits ih =>
    rw [Nat.ofDigitChars_cons] at fits ⊢
    have next : valueOf [digit] + 10 * word = 10 * word + (digit.toNat - '0'.toNat) := by
      rw [valueOf, Nat.ofDigitChars_cons, Nat.ofDigitChars_nil]
      omega
    have below := Nat.lt_of_le_of_lt (le_ofDigitChars digits _) fits
    rw [fillWord, next]
    simp only [below, if_true]
    exact ih _ fits

/-- Rounding at most doubles a number. -/
theorem roundToDouble_le {n : Nat} (positive : 0 < n) : roundToDouble n ≤ 2 * n := by
  have step : 1 <<< (n.log2 - 52) ≤ n := by
    rw [Nat.shiftLeft_eq, Nat.one_mul]
    exact Nat.le_trans (Nat.pow_le_pow_right (by decide) (Nat.sub_le _ _))
      (Nat.log2_self_le (by omega))
  have kept : (n >>> (n.log2 - 52)) * 1 <<< (n.log2 - 52) ≤ n := by
    rw [Nat.shiftRight_eq_div_pow, Nat.shiftLeft_eq, Nat.one_mul]
    exact Nat.div_mul_le_self _ _
  unfold roundToDouble
  simp only
  split
  · rw [Nat.succ_mul]
    omega
  · omega

/-- A number that a word can hold is not too large for a document. -/
theorem tooLarge_ofNat {n : Nat} (fits : n < wordCount) : (ofNat n).tooLarge = false := by
  have whole : fillWord 0 (Nat.toDigits 10 n) = (n, 0) := by
    rw [fillWord_of_fits] <;> rw [Nat.ofDigitChars_ten_toDigits]
    exact fits
  rcases Nat.eq_zero_or_pos n with rfl | positive
  · rfl
  · have unit : roundToDouble (Nat.pow 10 0) = 1 := by decide +kernel
    have range : 2 * wordCount ≤ firstBeyondDouble := by decide +kernel
    have rounded := roundToDouble_le positive
    have below : roundToDouble n * roundToDouble (Nat.pow 10 0) < firstBeyondDouble := by
      rw [unit]
      omega
    simp only [tooLarge, ofNat, whole, fillWord]
    change (decide (n ≠ 0) && decide ((0 : Int) ≤ 0) && (decide ((308 : Int) < 0) ||
      decide (firstBeyondDouble ≤ roundToDouble n * roundToDouble (Nat.pow 10 0)))) = false
    rw [decide_eq_false (Nat.not_le.mpr below), Bool.or_false]
    exact Bool.and_false _

end Numeral

end Inflight.Json
