import Inflight.Json.Reader
import Mathlib.Tactic.SplitIfs

/-!
# Members by name

An object whose keys can all be represented, and that is closed, is a list of
keys and values (`Json.Members.ofList`).  A value inside it is told by the keys
that lead there (`Json.Node.at?`); of a key that is given several times the first
value counts, and an array has no keys.
-/

namespace Inflight.Json

set_option autoImplicit false

deriving instance DecidableEq for Node, Items, Members
deriving instance DecidableEq for Document

/-! ## Rows -/

/-- The members with the given keys and values, and the closing brace. -/
def Members.ofList : List (String × Node) → Members
  | [] => .closed
  | (key, value) :: rest => .cons (some key) value (Members.ofList rest)

/-- The given items, and the closing bracket. -/
def Items.ofList : List Node → Items
  | [] => .closed
  | item :: rest => .cons item (Items.ofList rest)

/-! ## Values by their keys -/

/-- The first value of a key. -/
def Members.get? (key : String) : Members → Option Node
  | .closed => none
  | .broken => none
  | .cons (some name) value rest => if key = name then some value else rest.get? key
  | .cons none _ rest => rest.get? key

/-- What a row of keys leads to. -/
def Node.at? : Node → List String → Option Node
  | node, [] => some node
  | .object members, key :: keys => (members.get? key).bind fun value => value.at? keys
  | _, _ :: _ => none

theorem Members.get?_ofList (key : String) (entries : List (String × Node)) :
    (Members.ofList entries).get? key = entries.lookup key := by
  induction entries with
  | nil => rfl
  | cons entry rest ih =>
    obtain ⟨name, value⟩ := entry
    rw [Members.ofList, Members.get?, lookup_cons_ite, ih]

theorem Node.at?_ofList (entries : List (String × Node)) (key : String) :
    (Node.object (.ofList entries)).at? [key] = entries.lookup key := by
  rw [Node.at?, Members.get?_ofList]
  cases entries.lookup key <;> rfl

/-- Where a key is given once its value is the first. -/
theorem lookup_of_mem {key : String} {value : Node} {entries : List (String × Node)}
    (once : entries.Pairwise fun early late => early.1 = key → early.1 ≠ late.1)
    (given : (key, value) ∈ entries) : entries.lookup key = some value := by
  induction entries with
  | nil => cases given
  | cons entry rest ih =>
    obtain ⟨name, other⟩ := entry
    obtain ⟨apart, later⟩ := List.pairwise_cons.mp once
    rw [lookup_cons_ite]
    rcases List.mem_cons.mp given with same | member
    · cases same
      rw [if_pos rfl]
    · have differ : key ≠ name := fun same => apart _ member same.symm same.symm
      rw [if_neg differ, ih later member]

/-- A row of keys is followed key by key. -/
theorem Node.at?_cons (node : Node) (key next : String) (keys : List String) :
    node.at? (key :: next :: keys) =
      (node.at? [key]).bind fun value => value.at? (next :: keys) := by
  cases node with
  | object members =>
    rw [Node.at?, Node.at?]
    cases members.get? key <;> rfl
  | malformed | null | boolean _ | number _ | text _ | array _ => rfl

/-- Where nothing follows the value of a text, the text is read as that value is. -/
theorem Reader.ofText_of_document {α : Type} {reader : Reader α} {text : String} {root : Node}
    (document : Document.ofText text = ⟨root, true⟩) :
    reader.ofText text = reader maxLevels root := by
  simp only [Reader.ofText, document, if_true]
  cases reader maxLevels root <;> rfl

/-! ## Values that are no rows -/

/-- A numeral is a natural number when it has digits alone and a word holds them. -/
theorem Numeral.integer?_eq_ofNat_iff {numeral : Numeral} {n : Nat} :
    numeral.integer? = some (.ofNat n) ↔
      numeral = ⟨false, numeral.whole, [], none⟩ ∧ Numeral.valueOf numeral.whole = n ∧
        n < Numeral.wordCount := by
  obtain ⟨negative, whole, fraction, exponent⟩ := numeral
  simp only [Numeral.integer?]
  split_ifs <;> simp_all
  -- What a minus sign spells is below zero, and what a word does not hold is not `n`.
  all_goals omega

namespace Node

/-- The word that a number spells with digits alone: without sign, point or exponent. -/
def word? : Node → Option UInt64
  | .number ⟨false, whole, [], none⟩ =>
    if Numeral.valueOf whole < Numeral.wordCount then some (UInt64.ofNat (Numeral.valueOf whole))
    else none
  | _ => none

/-- A word is read as the natural number that its digits spell. -/
theorem word?_eq_some_iff {numeral : Numeral} {word : UInt64} :
    (Node.number numeral).word? = some word ↔ numeral.integer? = some (.ofNat word.toNat) := by
  rw [Numeral.integer?_eq_ofNat_iff]
  obtain ⟨negative, whole, fraction, exponent⟩ := numeral
  constructor
  · intro spelled
    unfold word? at spelled
    split at spelled
    · next digits same =>
      cases same
      split at spelled
      · next fits =>
        cases spelled
        exact ⟨rfl, (UInt64.toNat_ofNat_of_lt fits).symm, UInt64.toNat_lt _⟩
      · cases spelled
    · cases spelled
  · rintro ⟨plain, value, fits⟩
    cases plain
    simp only [word?, value, if_pos fits, UInt64.ofNat_toNat]

/-- A word, or none for null. -/
def limit? : Node → Option (Option UInt64)
  | .null => some none
  | node => node.word?.map some

/-- A text that can be represented. -/
def text? : Node → Option String
  | .text value => value
  | _ => none

/-- A truth value. -/
def boolean? : Node → Option Bool
  | .boolean value => some value
  | _ => none

end Node

end Inflight.Json
