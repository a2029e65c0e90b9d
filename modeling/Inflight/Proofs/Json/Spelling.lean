import Inflight.Json.Reader
import Inflight.Proofs.Json.Numeral
import Inflight.Proofs.Json.Text
import Mathlib.Data.List.DropRight

/-!
# Written values read back

A text spells a value when the reader gives that value for it, whatever follows,
as long as that does not go on with a number (`Json.Spells`).  Spellings are put
together as values are: with space in front, with items between brackets, with
members between braces.  The compact and the pretty form of a value are both put
together in this way, so both spell the tree of the value (`Json.spells_compact`,
`Json.spells_pretty`).  A typed reader therefore gets from either form what it
gets from the tree (`Json.Reader.ofText_compact`, `Json.Reader.ofText_pretty`).
-/

namespace Inflight.Json

set_option autoImplicit false

/-! ## The tree of a value -/

mutual

/-- The tree of a written value. -/
def Value.node : Value → Node
  | .null => .null
  | .boolean value => .boolean value
  | .natural n => .number (.ofNat n)
  | .text value => .text (some value)
  | .array items => .array (Value.rowOf items)
  | .object members => .object (Value.membersOf members)

/-- The items of a written array. -/
def Value.rowOf : List Value → Items
  | [] => .closed
  | item :: rest => .cons item.node (Value.rowOf rest)

/-- The members of a written object. -/
def Value.membersOf : List (String × Value) → Members
  | [] => .closed
  | (key, value) :: rest => .cons (some key) value.node (Value.membersOf rest)

end

/-! ## Space -/

section Space

variable {space cs : List Char}

/-- Space at the front is passed over. -/
theorem skipSpace_append (blank : ∀ c ∈ space, isSpace c = true) (cs : List Char) :
    skipSpace (space ++ cs) = skipSpace cs :=
  List.dropWhile_append_of_pos blank

theorem skipSpace_cons_of_not {c : Char} (visible : isSpace c = false) (cs : List Char) :
    skipSpace (c :: cs) = c :: cs :=
  List.dropWhile_cons_of_neg (by simp [visible])

/-- What is left after space goes on after what follows it. -/
theorem skipSpace_append_of_cons {c : Char} {left : List Char} (skipped : skipSpace cs = c :: left)
    (rest : List Char) : skipSpace (cs ++ rest) = c :: left ++ rest := by
  induction cs with
  | nil => cases skipped
  | cons first cs ih =>
    by_cases blank : isSpace first = true
    · have later : skipSpace cs = c :: left := by
        rw [← skipped]
        exact (List.dropWhile_cons_of_pos blank).symm
      rw [← ih later, List.cons_append]
      exact List.dropWhile_cons_of_pos blank
    · have here : skipSpace (first :: cs) = first :: cs := List.dropWhile_cons_of_neg blank
      rw [← skipped, here, List.cons_append]
      exact List.dropWhile_cons_of_neg blank

theorem skipSpace_idem (cs : List Char) : skipSpace (skipSpace cs) = skipSpace cs :=
  List.dropWhile_idempotent _ cs

/-- A value is read after the space in front of it. -/
theorem readValue_skipSpace (fuel : Nat) (cs : List Char) :
    readValue fuel (skipSpace cs) = readValue fuel cs := by
  cases fuel with
  | zero => rw [readValue, readValue]
  | succ fuel => rw [readValue, readValue, skipSpace_idem]

theorem readItems_skipSpace (fuel : Nat) (cs : List Char) :
    readItems fuel (skipSpace cs) = readItems fuel cs := by
  cases fuel with
  | zero => rw [readItems, readItems]
  | succ fuel => rw [readItems, readItems, readValue_skipSpace]

theorem readMembers_skipSpace (fuel : Nat) (cs : List Char) :
    readMembers fuel (skipSpace cs) = readMembers fuel cs := by
  cases fuel with
  | zero => rw [readMembers, readMembers]
  | succ fuel => rw [readMembers, readMembers, skipSpace_idem]

/-- No number goes on with space. -/
theorem continues_of_isSpace {c : Char} (blank : isSpace c = true) : continues c = false := by
  simp only [isSpace, Bool.or_eq_true, beq_iff_eq] at blank
  rcases blank with ((rfl | rfl) | rfl) | rfl <;> decide

theorem Stops.blank_append (blank : ∀ c ∈ space, isSpace c = true) {rest : List Char}
    (stops : Stops rest) : Stops (space ++ rest) := by
  cases space with
  | nil => exact stops
  | cons c space => exact .cons (continues_of_isSpace (blank c List.mem_cons_self)) _

/-- After a visible character nothing is passed over. -/
theorem skipSpace_blank_cons {c : Char} (blank : ∀ c ∈ space, isSpace c = true)
    (visible : isSpace c = false) (cs : List Char) : skipSpace (space ++ c :: cs) = c :: cs := by
  rw [skipSpace_append blank, skipSpace_cons_of_not visible]

end Space

/-! ## Spellings -/

/-- The text spells a value: the reader gives it, whatever follows that does not go on with a
number.  It takes at most two steps for each character. -/
structure Spells (text : List Char) (node : Node) : Prop where
  begins : ∃ c cs, skipSpace text = c :: cs ∧ c ≠ ']'
  reads : ∀ {fuel : Nat} {rest : List Char}, 2 * text.length ≤ fuel → Stops rest →
    readValue fuel (text ++ rest) = (node, rest)

/-- The text spells the items of an array that has some, with its closing bracket. -/
structure SpellsItems (text : List Char) (items : Items) : Prop where
  begins : ∃ c cs, skipSpace text = c :: cs ∧ c ≠ ']'
  reads : ∀ {fuel : Nat} {rest : List Char}, 2 * text.length ≤ fuel →
    readItems fuel (text ++ rest) = (items, rest)

/-- The text spells the members of an object that has some, with its closing brace. -/
structure SpellsMembers (text : List Char) (members : Members) : Prop where
  begins : ∃ cs, skipSpace text = '"' :: cs
  reads : ∀ {fuel : Nat} {rest : List Char}, 2 * text.length ≤ fuel →
    readMembers fuel (text ++ rest) = (members, rest)

/-- The text spells the items after one that is already spelled. -/
def EndsItems (text : List Char) (items : Items) : Prop :=
  ∀ {first : List Char} {item : Node}, Spells first item →
    SpellsItems (first ++ text) (.cons item items)

/-- The text spells the members after one that is already spelled. -/
def EndsMembers (text : List Char) (members : Members) : Prop :=
  ∀ (key : String) {first : List Char} {value : Node}, Spells first value →
    SpellsMembers (Value.quote key ++ ':' :: first ++ text) (.cons (some key) value members)

section Scalars

/-- A value that begins with a visible character is spelled when the reader gives it from
there. -/
theorem Spells.of_cons {c : Char} {cs : List Char} {node : Node} (visible : isSpace c = false)
    (inside : c ≠ ']')
    (reads : ∀ {fuel : Nat} {rest : List Char}, 2 * cs.length < fuel → Stops rest →
      readValue (fuel + 1) (c :: cs ++ rest) = (node, rest)) : Spells (c :: cs) node where
  begins := ⟨c, cs, skipSpace_cons_of_not visible cs, inside⟩
  reads := by
    intro fuel rest steps stops
    rw [List.length_cons] at steps
    obtain ⟨fuel, rfl⟩ : ∃ less, fuel = less + 1 := ⟨fuel - 1, by omega⟩
    exact reads (by omega) stops

theorem Spells.null : Spells ['n', 'u', 'l', 'l'] .null :=
  .of_cons rfl (by decide) fun _ _ => rfl

theorem Spells.boolean (value : Bool) :
    Spells (Value.boolean value).scalarText (.boolean value) := by
  cases value
  · exact .of_cons rfl (by decide) fun _ _ => rfl
  · exact .of_cons rfl (by decide) fun _ _ => rfl

theorem Spells.quote (text : String) : Spells (Value.quote text) (.text (some text)) :=
  .of_cons rfl (by decide) fun {fuel rest} _ _ => by
    have inside := readText_quote text rest
    have split : '"' :: (text.toList.flatMap Value.escapeChar).append ['"'] ++ rest =
        '"' :: (text.toList.flatMap Value.escapeChar ++ '"' :: rest) := by
      simp
    rw [split, readValue, skipSpace_cons_of_not rfl]
    simp only [inside]

section Digits

variable {c : Char} (digit : c.isDigit = true)

include digit

theorem ne_of_isDigit (other : Char) (noDigit : other.isDigit = false := by decide) :
    c ≠ other := by
  rintro rfl
  rw [digit] at noDigit
  cases noDigit

theorem isSpace_of_isDigit : isSpace c = false := by
  simp [isSpace, ne_of_isDigit digit ' ', ne_of_isDigit digit '\n', ne_of_isDigit digit '\t',
    ne_of_isDigit digit '\r']

/-- A digit begins a number. -/
theorem readValue_of_isDigit (fuel : Nat) (cs : List Char) :
    readValue (fuel + 1) (c :: cs) = readNumber (c :: cs) := by
  rw [readValue, skipSpace_cons_of_not (isSpace_of_isDigit digit)]
  -- Every other value begins with a mark that is no digit.
  split <;> first | rfl | exact absurd (List.cons.inj ‹_›).1 (ne_of_isDigit digit _)

end Digits

theorem Spells.natural (n : Nat) : Spells (Nat.toDigits 10 n) (.number (.ofNat n)) := by
  cases digits : Nat.toDigits 10 n with
  | nil => exact absurd digits Nat.toDigits_ne_nil
  | cons c cs =>
    have digit : c.isDigit = true :=
      Numeral.isDigit_of_mem_toDigits (digits ▸ List.mem_cons_self)
    refine .of_cons (isSpace_of_isDigit digit) (ne_of_isDigit digit ']') fun _ stops => ?_
    rw [List.cons_append, readValue_of_isDigit digit, ← List.cons_append, ← digits, readNumber,
      Numeral.read_toDigits n stops]

end Scalars

section Composites

variable {text first space : List Char}

/-- Space may stand in front of a value. -/
theorem Spells.spaced {node : Node} (spells : Spells text node)
    (blank : ∀ c ∈ space, isSpace c = true) : Spells (space ++ text) node where
  begins := by
    rw [skipSpace_append blank]
    exact spells.begins
  reads := by
    intro fuel rest steps stops
    rw [List.length_append] at steps
    rw [← readValue_skipSpace, List.append_assoc, skipSpace_append blank, readValue_skipSpace]
    exact spells.reads (by omega) stops

theorem SpellsMembers.spaced {members : Members} (spells : SpellsMembers text members)
    (blank : ∀ c ∈ space, isSpace c = true) : SpellsMembers (space ++ text) members where
  begins := by
    rw [skipSpace_append blank]
    exact spells.begins
  reads := by
    intro fuel rest steps
    rw [List.length_append] at steps
    rw [← readMembers_skipSpace, List.append_assoc, skipSpace_append blank,
      readMembers_skipSpace]
    exact spells.reads (by omega)

/-! ### Arrays -/

theorem Spells.closedArray : Spells ['[', ']'] (.array .closed) :=
  .of_cons rfl (by decide) fun _ _ => rfl

theorem Spells.array {items : Items} (spells : SpellsItems text items) :
    Spells ('[' :: text) (.array items) :=
  .of_cons rfl (by decide) fun {fuel rest} steps _ => by
    obtain ⟨c, cs, begins, inside⟩ := spells.begins
    have inner : readItems fuel (text ++ rest) = (items, rest) := spells.reads (Nat.le_of_lt steps)
    rw [← readItems_skipSpace, skipSpace_append_of_cons begins rest] at inner
    rw [List.cons_append, readValue, skipSpace_cons_of_not rfl]
    simp only [skipSpace_append_of_cons begins rest]
    split
    · next closes => exact absurd (List.cons.inj closes).1 inside
    · rw [inner]

/-- Items begin with an item. -/
theorem SpellsItems.begin {item : Node} {items : Items} (spells : Spells first item)
    (reads : ∀ {fuel : Nat} {rest : List Char}, 2 * (first ++ text).length ≤ fuel + 1 →
      readItems (fuel + 1) (first ++ text ++ rest) = (.cons item items, rest)) :
    SpellsItems (first ++ text) (.cons item items) where
  begins := by
    obtain ⟨c, cs, begins, inside⟩ := spells.begins
    exact ⟨c, cs ++ text, skipSpace_append_of_cons begins text, inside⟩
  reads := by
    intro fuel rest steps
    have filled : first ≠ [] := by
      rintro rfl
      obtain ⟨c, cs, begins, -⟩ := spells.begins
      cases begins
    have long := List.length_pos_of_ne_nil filled
    obtain ⟨fuel, rfl⟩ : ∃ less, fuel = less + 1 :=
      ⟨fuel - 1, by rw [List.length_append] at steps; omega⟩
    exact reads steps

/-- A bracket closes the array after an item. -/
theorem EndsItems.last (blank : ∀ c ∈ space, isSpace c = true) :
    EndsItems (space ++ [']']) .closed := by
  intro first item spells
  refine .begin spells fun {fuel rest} steps => ?_
  simp only [List.length_append, List.length_singleton] at steps
  have stops : Stops (space ++ ']' :: rest) :=
    .blank_append blank (.cons (by decide : continues ']' = false) rest)
  have value : readValue fuel (first ++ (space ++ ']' :: rest)) = (item, space ++ ']' :: rest) :=
    spells.reads (by omega) stops
  simp only [List.append_assoc, List.singleton_append]
  rw [readItems]
  simp only [value, skipSpace_blank_cons blank (by decide : isSpace ']' = false)]

/-- A comma and further items follow an item. -/
theorem EndsItems.cons {items : Items} (spelled : SpellsItems text items) :
    EndsItems (',' :: text) items := by
  intro first item spells
  refine .begin spells fun {fuel rest} steps => ?_
  simp only [List.length_append, List.length_cons] at steps
  have stops : Stops (',' :: (text ++ rest)) := .cons (by decide : continues ',' = false) _
  have value : readValue fuel (first ++ ',' :: (text ++ rest)) = (item, ',' :: (text ++ rest)) :=
    spells.reads (by omega) stops
  rw [List.append_assoc, List.cons_append, readItems]
  simp only [value, skipSpace_cons_of_not (by decide : isSpace ',' = false)]
  rw [spelled.reads (by omega)]

/-! ### Objects -/

theorem Spells.closedObject : Spells ['\x7b', '\x7d'] (.object .closed) :=
  .of_cons rfl (by decide) fun _ _ => rfl

theorem Spells.object {members : Members} (spells : SpellsMembers text members) :
    Spells ('\x7b' :: text) (.object members) :=
  .of_cons rfl (by decide) fun {fuel rest} steps _ => by
    obtain ⟨cs, begins⟩ := spells.begins
    have inner : readMembers fuel (text ++ rest) = (members, rest) :=
      spells.reads (Nat.le_of_lt steps)
    rw [← readMembers_skipSpace, skipSpace_append_of_cons begins rest] at inner
    rw [List.cons_append, readValue, skipSpace_cons_of_not rfl]
    simp only [skipSpace_append_of_cons begins rest]
    split
    · next closes => exact absurd (List.cons.inj closes).1 (by decide)
    · rw [inner]

/-- A member is read up to the end of its value. -/
theorem readMembers_member (key : String) {value : Node} (spells : Spells first value)
    {fuel : Nat} {rest : List Char} (steps : 2 * first.length ≤ fuel) (stops : Stops rest) :
    readMembers (fuel + 1) (Value.quote key ++ ':' :: first ++ rest) =
      match skipSpace rest with
      | ',' :: rest =>
        match readMembers fuel rest with
        | (members, rest) => (.cons (some key) value members, rest)
      | '\x7d' :: rest => (.cons (some key) value .closed, rest)
      | _ => (.cons (some key) value .broken, []) := by
  have split : Value.quote key ++ ':' :: first ++ rest =
      '"' :: (key.toList.flatMap Value.escapeChar ++ '"' :: (':' :: (first ++ rest))) := by
    simp [Value.quote]
  have value := spells.reads steps stops
  rw [split, readMembers, skipSpace_cons_of_not rfl]
  simp only [readText_quote, skipSpace_cons_of_not (by decide : isSpace ':' = false)]
  generalize readValue fuel (first ++ rest) = result at value
  subst value
  rfl

/-- Members begin with a member. -/
theorem SpellsMembers.begin (key : String) {value : Node} {members : Members}
    (reads : ∀ {fuel : Nat} {rest : List Char}, 2 * (first.length + text.length + 2) ≤ fuel →
      readMembers (fuel + 1) (Value.quote key ++ ':' :: first ++ (text ++ rest)) =
        (.cons (some key) value members, rest)) :
    SpellsMembers (Value.quote key ++ ':' :: first ++ text) (.cons (some key) value members) where
  begins := ⟨_, skipSpace_cons_of_not rfl _⟩
  reads := by
    intro fuel rest steps
    simp only [Value.quote, List.length_append, List.length_cons] at steps
    obtain ⟨fuel, rfl⟩ : ∃ less, fuel = less + 1 := ⟨fuel - 1, by omega⟩
    rw [List.append_assoc]
    exact reads (by omega)

/-- A brace closes the object after a member. -/
theorem EndsMembers.last (blank : ∀ c ∈ space, isSpace c = true) :
    EndsMembers (space ++ ['\x7d']) .closed := by
  intro key first value spells
  refine .begin key fun {fuel rest} steps => ?_
  rw [List.append_assoc space, List.singleton_append,
    readMembers_member key spells (by omega)
      (.blank_append blank (.cons (by decide : continues '\x7d' = false) rest)),
    skipSpace_blank_cons blank (by decide : isSpace '\x7d' = false)]
  rfl

/-- A comma and further members follow a member. -/
theorem EndsMembers.cons {members : Members} (spelled : SpellsMembers text members) :
    EndsMembers (',' :: text) members := by
  intro key first value spells
  refine .begin key fun {fuel rest} steps => ?_
  rw [List.length_cons] at steps
  rw [List.cons_append,
    readMembers_member key spells (by omega)
      (.cons (by decide : continues ',' = false) (text ++ rest)),
    skipSpace_cons_of_not (by decide : isSpace ',' = false)]
  have later : readMembers fuel (text ++ rest) = (members, rest) := spelled.reads (by omega)
  simp only [later]

end Composites

/-! ## The forms of a value -/

mutual

/-- The compact form of a value spells its tree. -/
theorem spells_compact : ∀ value : Value, Spells value.compactChars value.node
  | .null => .null
  | .boolean value => .boolean value
  | .natural n => .natural n
  | .text value => .quote value
  | .array [] => .closedArray
  | .array (item :: items) => .array (endsItems_compact items (spells_compact item))
  | .object [] => .closedObject
  | .object ((key, value) :: members) =>
    .object (endsMembers_compact members key (spells_compact value))

theorem endsItems_compact : ∀ items : List Value,
    EndsItems (Value.compactItems items) (Value.rowOf items)
  | [] => EndsItems.last (List.forall_mem_nil _)
  | item :: items => EndsItems.cons (endsItems_compact items (spells_compact item))

theorem endsMembers_compact : ∀ members : List (String × Value),
    EndsMembers (Value.compactMembers members) (Value.membersOf members)
  | [] => EndsMembers.last (List.forall_mem_nil _)
  | (key, value) :: members =>
    EndsMembers.cons (endsMembers_compact members key (spells_compact value))

end

/-- A new line is space. -/
theorem isSpace_of_mem_newLine (level : Nat) : ∀ c ∈ Value.newLine level, isSpace c = true := by
  intro c member
  rcases List.mem_cons.mp member with rfl | indented
  · rfl
  · rw [List.eq_of_mem_replicate indented]
    rfl

mutual

/-- The pretty form of a value spells its tree, at any level. -/
theorem spells_pretty (level : Nat) : ∀ value : Value, Spells (value.prettyChars level) value.node
  | .null => .null
  | .boolean value => .boolean value
  | .natural n => .natural n
  | .text value => .quote value
  | .array [] => .closedArray
  | .array (item :: items) =>
    .array (endsItems_pretty level items
      ((spells_pretty (level + 1) item).spaced (isSpace_of_mem_newLine _)))
  | .object [] => .closedObject
  | .object ((key, value) :: members) => by
    have blank : ∀ c ∈ [' '], isSpace c = true := List.forall_mem_singleton.mpr rfl
    have members := endsMembers_pretty level members key
      ((spells_pretty (level + 1) value).spaced blank)
    have spelled := Spells.object (members.spaced (isSpace_of_mem_newLine (level + 1)))
    simpa [Value.prettyChars, Value.node, Value.membersOf] using spelled

theorem endsItems_pretty (level : Nat) : ∀ items : List Value,
    EndsItems (Value.prettyItems level items) (Value.rowOf items)
  | [] => EndsItems.last (isSpace_of_mem_newLine level)
  | item :: items =>
    EndsItems.cons (endsItems_pretty level items
      ((spells_pretty (level + 1) item).spaced (isSpace_of_mem_newLine _)))

theorem endsMembers_pretty (level : Nat) : ∀ members : List (String × Value),
    EndsMembers (Value.prettyMembers level members) (Value.membersOf members)
  | [] => EndsMembers.last (isSpace_of_mem_newLine level)
  | (key, value) :: members => by
    have blank : ∀ c ∈ [' '], isSpace c = true := List.forall_mem_singleton.mpr rfl
    have members := endsMembers_pretty level members key
      ((spells_pretty (level + 1) value).spaced blank)
    have spelled := EndsMembers.cons (members.spaced (isSpace_of_mem_newLine (level + 1)))
    simpa [Value.prettyMembers, Value.membersOf] using spelled

end

/-! ## Documents -/

/-- **A document reads as the tree that it spells**, with space after it or without. -/
theorem Document.ofText_of_spells {text after : List Char} {node : Node}
    (spells : Spells text node) (blank : ∀ c ∈ after, isSpace c = true) :
    Document.ofText (String.ofList (text ++ after)) = { root := node, complete := true } := by
  have ends : skipSpace after = [] := List.dropWhile_eq_nil_iff.mpr blank
  have stops : Stops after := by
    simpa using Stops.blank_append blank .nil
  have steps : 2 * text.length ≤ 2 * (text ++ after).length + 1 := by
    rw [List.length_append]
    omega
  rw [Document.ofText, String.toList_ofList]
  simp only [spells.reads steps stops, ends, List.isEmpty_nil]

section Readers

variable {α : Type} (reader : Reader α)

theorem Reader.ofText_of_spells {text after : List Char} {node : Node} (spells : Spells text node)
    (blank : ∀ c ∈ after, isSpace c = true) :
    Reader.ofText reader (String.ofList (text ++ after)) = reader maxLevels node := by
  rw [Reader.ofText, Document.ofText_of_spells spells blank]
  cases reader maxLevels node <;> rfl

/-- A reader gets from the compact form of a value what it gets from its tree. -/
theorem Reader.ofText_compact (value : Value) :
    Reader.ofText reader value.compact = reader maxLevels value.node := by
  have read : Reader.ofText reader (String.ofList (value.compactChars ++ [])) =
      reader maxLevels value.node :=
    reader.ofText_of_spells (spells_compact value) (by simp)
  rwa [List.append_nil] at read

/-- A reader gets from the pretty form of a value, with space after it or without, what it
gets from its tree. -/
theorem Reader.ofText_pretty (value : Value) {after : String}
    (blank : ∀ c ∈ after.toList, isSpace c = true) :
    Reader.ofText reader (value.pretty ++ after) = reader maxLevels value.node := by
  have read := reader.ofText_of_spells (spells_pretty 0 value) blank
  rwa [String.ofList_append, String.ofList_toList] at read

end Readers

end Inflight.Json
