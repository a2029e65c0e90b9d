import Inflight.Text.Blank
import Mathlib.Data.List.DropRight

/-!
# Blanks at the ends of a text

Every text is blanks, then a text without blanks at its ends, then blanks
(`Text.exists_trimmed`).  The one in the middle is determined by the whole, and
trimming gives it (`Text.trimChars_eq`); so trimming what is trimmed already
changes nothing.  A word is told from what follows it in the same way, by the
first blank (`Text.cutAtBlank_eq`).
-/

namespace Inflight.Text

set_option autoImplicit false

/-- Blanks only. -/
def Blank (cs : List Char) : Prop :=
  ∀ c ∈ cs, isBlank c = true

/-- No blank at all. -/
def Word (cs : List Char) : Prop :=
  ∀ c ∈ cs, isBlank c = false

instance (cs : List Char) : Decidable (Blank cs) :=
  List.decidableBAll (fun c => isBlank c = true) cs

instance (cs : List Char) : Decidable (Word cs) :=
  List.decidableBAll (fun c => isBlank c = false) cs

/-- No blank at either end. -/
structure Trimmed (cs : List Char) : Prop where
  first : ∀ c ∈ cs.head?, isBlank c = false
  last : ∀ c ∈ cs.getLast?, isBlank c = false

variable {lead cs trail : List Char}

instance (cs : List Char) : Decidable (Trimmed cs) :=
  decidable_of_iff (Word cs.head?.toList ∧ Word cs.getLast?.toList)
    ⟨fun ends => ⟨fun c member => ends.1 c (Option.mem_toList.mpr member),
        fun c member => ends.2 c (Option.mem_toList.mpr member)⟩,
      fun trimmed => ⟨fun c member => trimmed.first c (Option.mem_toList.mp member),
        fun c member => trimmed.last c (Option.mem_toList.mp member)⟩⟩

theorem Trimmed.nil : Trimmed [] := ⟨by simp, by simp⟩

theorem Trimmed.reverse (trimmed : Trimmed cs) : Trimmed cs.reverse := by
  refine ⟨?_, ?_⟩
  · rw [List.head?_reverse]
    exact trimmed.last
  · rw [List.getLast?_reverse]
    exact trimmed.first

theorem blank_nil : Blank [] := fun _ member => absurd member List.not_mem_nil

theorem Blank.reverse (blank : Blank cs) : Blank cs.reverse := by
  intro c member
  exact blank c (List.mem_reverse.mp member)

theorem Blank.append (blank : Blank lead) (later : Blank trail) : Blank (lead ++ trail) := by
  intro c member
  rcases List.mem_append.mp member with here | there
  · exact blank c here
  · exact later c there

/-- A word has no blank at its ends. -/
theorem Word.trimmed (word : Word cs) : Trimmed cs := by
  refine ⟨?_, ?_⟩
  · intro c first
    exact word c (List.mem_of_mem_head? first)
  · intro c last
    exact word c (List.mem_of_mem_getLast? last)

/-- What begins with a word and ends without a blank has no blank at its ends. -/
theorem Word.trimmed_append {word body : List Char} (isWord : Word word) (named : word ≠ [])
    (trimmed : Trimmed body) (given : body ≠ []) (gap : List Char) :
    Trimmed (word ++ gap ++ body) := by
  refine ⟨?_, ?_⟩
  · intro c first
    rw [List.append_assoc, List.head?_append_of_ne_nil _ named] at first
    exact isWord c (List.mem_of_mem_head? first)
  · intro c last
    rw [List.getLast?_append_of_ne_nil _ given] at last
    exact trimmed.last c last

/-! ## Trimming -/

/-- Blanks are dropped up to a character that is none. -/
theorem dropWhile_blank_append (blank : Blank lead) (visible : ∀ c ∈ cs.head?, isBlank c = false) :
    (lead ++ cs).dropWhile isBlank = cs := by
  rw [List.dropWhile_append_of_pos blank]
  cases cs with
  | nil => rfl
  | cons c cs =>
    have here : isBlank c = false := visible c rfl
    exact List.dropWhile_cons_of_neg (by simp [here])

/-- A text without blanks at its ends is what is left when the blanks around it are trimmed. -/
theorem trimChars_eq (before : Blank lead) (trimmed : Trimmed cs) (after : Blank trail) :
    trimChars (lead ++ cs ++ trail) = cs := by
  unfold trimChars
  by_cases empty : cs = []
  · subst empty
    have all : Blank (lead ++ [] ++ trail) := by
      rw [List.append_nil]
      exact before.append after
    rw [List.dropWhile_eq_nil_iff.mpr all]
    rfl
  · have front : ∀ c ∈ (cs ++ trail).head?, isBlank c = false := by
      rw [List.head?_append_of_ne_nil _ empty]
      exact trimmed.first
    rw [List.append_assoc, dropWhile_blank_append before front, List.reverse_append,
      dropWhile_blank_append after.reverse trimmed.reverse.first, List.reverse_reverse]

theorem trimChars_of_trimmed (trimmed : Trimmed cs) : trimChars cs = cs := by
  have same := trimChars_eq blank_nil trimmed blank_nil
  rwa [List.nil_append, List.append_nil] at same

/-- A text without blanks at its ends is not changed by trimming. -/
theorem trim_of_trimmed {text : String} (trimmed : Trimmed text.toList) : trim text = text := by
  rw [trim, trimChars_of_trimmed trimmed, String.ofList_toList]

theorem blank_takeWhile (cs : List Char) : Blank (cs.takeWhile isBlank) :=
  fun _ member => List.mem_takeWhile_imp member

theorem head?_dropWhile_blank (cs : List Char) :
    ∀ c ∈ (cs.dropWhile isBlank).head?, isBlank c = false := by
  intro c first
  have stops := List.head?_dropWhile_not isBlank cs
  rw [Option.mem_def.mp first] at stops
  simpa using stops

/-- Every text has blanks around a text without blanks at its ends. -/
theorem exists_trimmed (cs : List Char) :
    ∃ lead body trail, Blank lead ∧ Trimmed body ∧ Blank trail ∧ cs = lead ++ body ++ trail := by
  let rest := cs.dropWhile isBlank
  have whole : cs = cs.takeWhile isBlank ++ rest := List.takeWhile_append_dropWhile.symm
  have turned : rest.reverse = rest.reverse.takeWhile isBlank ++ rest.reverse.dropWhile isBlank :=
    List.takeWhile_append_dropWhile.symm
  have parts : rest =
      (rest.reverse.dropWhile isBlank).reverse ++ (rest.reverse.takeWhile isBlank).reverse := by
    rw [← List.reverse_append, ← turned, List.reverse_reverse]
  refine ⟨cs.takeWhile isBlank, (rest.reverse.dropWhile isBlank).reverse,
    (rest.reverse.takeWhile isBlank).reverse, blank_takeWhile cs, ⟨?_, ?_⟩,
    (blank_takeWhile _).reverse, ?_⟩
  · intro c first
    -- The first character that is kept is the first one after the blanks in front.
    have visible := head?_dropWhile_blank cs
    refine visible c ?_
    show c ∈ rest.head?
    rw [parts]
    exact List.mem_head?_append_of_mem_head? first
  · intro c last
    rw [List.getLast?_reverse] at last
    exact head?_dropWhile_blank rest.reverse c last
  · rw [List.append_assoc, ← parts]
    exact whole

/-- Nothing is left of a text when it is trimmed just where the text is blank. -/
theorem trim_eq_empty_iff {text : String} : trim text = "" ↔ Blank text.toList := by
  obtain ⟨lead, body, trail, before, trimmed, after, whole⟩ := exists_trimmed text.toList
  have left : trim text = String.ofList body := by
    rw [trim, whole, trimChars_eq before trimmed after]
  rw [left, whole, String.ofList_eq_empty_iff]
  constructor
  · rintro rfl
    rw [List.append_nil]
    exact before.append after
  · intro blank
    have nothing := trimChars_eq blank .nil blank_nil
    rw [List.append_nil, List.append_nil, trimChars_eq before trimmed after] at nothing
    exact nothing

/-! ## The first word -/

/-- The first blank after a word ends it. -/
theorem cutAtBlank_cons {c : Char} {rest : List Char} (word : Word cs) (blank : isBlank c = true) :
    cutAtBlank (cs ++ c :: rest) = (cs, some rest) := by
  have inside : ∀ c ∈ cs, (!isBlank c) = true := by
    intro c member
    rw [word c member]
    rfl
  have ends : ¬(!isBlank c) = true := by simp [blank]
  rw [cutAtBlank, List.takeWhile_append_of_pos inside, List.dropWhile_append_of_pos inside,
    List.takeWhile_cons_of_neg (p := fun c => !isBlank c) ends,
    List.dropWhile_cons_of_neg (p := fun c => !isBlank c) ends, List.append_nil]
  rfl

/-- A word with nothing behind it is not cut. -/
theorem cutAtBlank_of_word (word : Word cs) : cutAtBlank cs = (cs, none) := by
  have inside : ∀ c ∈ cs, (!isBlank c) = true := by
    intro c member
    rw [word c member]
    rfl
  have all : cs.takeWhile (fun c => !isBlank c) = cs :=
    List.takeWhile_eq_self_iff.mpr inside
  have none : cs.dropWhile (fun c => !isBlank c) = [] :=
    List.dropWhile_eq_nil_iff.mpr inside
  rw [cutAtBlank, all, none]
  rfl

end Inflight.Text
