import Inflight.Json.Numeral
import Inflight.Json.Problem

/-!
# Trees of documents

Any text reads into a tree.  Where the text stops being well formed the tree
says so at that place, and holds nothing of the text after it: a value may be
malformed, and a row of items or members may break off instead of being closed.
A program that walks the tree from left to right therefore meets the problems of
a document in the order of the text.

Objects keep their members in the order of the text, repeated keys included.
-/

namespace Inflight.Json

set_option autoImplicit false

/-! ## Trees -/

mutual

/-- What is read where a value is due. -/
inductive Node where
  /-- No value could be read here. -/
  | malformed
  | null
  | boolean (value : Bool)
  /-- A number, as spelled. -/
  | number (numeral : Numeral)
  /-- A text; none when it cannot be represented. -/
  | text (value : Option String)
  | array (items : Items)
  | object (members : Members)

/-- The items of an array from some place on. -/
inductive Items where
  /-- The closing bracket. -/
  | closed
  /-- Something other than what may stand here. -/
  | broken
  | cons (item : Node) (rest : Items)

/-- The members of an object from some place on. -/
inductive Members where
  /-- The closing brace. -/
  | closed
  /-- Something other than what may stand here. -/
  | broken
  /-- A member and those after it; no key when it cannot be represented. -/
  | cons (key : Option String) (value : Node) (rest : Members)

end

/-! ## Well-formedness -/

mutual

/-- Whether the value is well formed throughout; its numbers and texts need not be
representable. -/
def Node.wellFormed : Node → Bool
  | .malformed => false
  | .null => true
  | .boolean _ => true
  | .number _ => true
  | .text _ => true
  | .array items => items.wellFormed
  | .object members => members.wellFormed

/-- Whether the items are well formed and closed. -/
def Items.wellFormed : Items → Bool
  | .closed => true
  | .broken => false
  | .cons item rest => item.wellFormed && rest.wellFormed

/-- Whether the members are well formed and closed. -/
def Members.wellFormed : Members → Bool
  | .closed => true
  | .broken => false
  | .cons _ value rest => value.wellFormed && rest.wellFormed

end

mutual

/-- Whether the value is well formed, holds no more than the given levels of nesting, and
every number and text in it can be represented. -/
def Node.representable : Nat → Node → Bool
  | _, .malformed => false
  | _, .null => true
  | _, .boolean _ => true
  | _, .number numeral => !numeral.tooLarge
  | _, .text value => value.isSome
  | 0, .array _ => false
  | levels + 1, .array items => items.representable levels
  | 0, .object _ => false
  | levels + 1, .object members => members.representable levels

/-- Whether the items are closed and representable. -/
def Items.representable : Nat → Items → Bool
  | _, .closed => true
  | _, .broken => false
  | levels, .cons item rest => item.representable levels && rest.representable levels

/-- Whether the members are closed and representable. -/
def Members.representable : Nat → Members → Bool
  | _, .closed => true
  | _, .broken => false
  | levels, .cons key value rest =>
    key.isSome && value.representable levels && rest.representable levels

end

/-! ## Kinds -/

/-- What is found where another kind of value is wanted.  Arrays and objects are not looked
into. -/
def Node.found : Node → Except Problem Found
  | .malformed => .error .malformed
  | .null => .ok .null
  | .boolean value => .ok (.boolean value)
  | .number numeral =>
    match numeral.integer? with
    | some value => .ok (.integer value)
    | none => if numeral.tooLarge then .error .malformed else .ok .floating
  | .text none => .error .malformed
  | .text (some value) => .ok (.text value)
  | .array _ => .ok .sequence
  | .object _ => .ok .map

/-- The problem of a value whose kind is not the wanted one. -/
def Node.mismatch (node : Node) (wanted : String) : Problem :=
  match node.found with
  | .error problem => problem
  | .ok found => .wrongKind found wanted

end Inflight.Json
