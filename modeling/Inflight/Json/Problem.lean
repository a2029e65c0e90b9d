import Inflight.Text.Column
import Inflight.Text.Quoted

/-!
# Problems of a document

A document is refused either because its text is not well formed or because a
part of it is not what its place asks for.  The second kind is told with the
kind of value that was found and the one that was wanted.
-/

namespace Inflight.Json

set_option autoImplicit false

/-- The kind of value met where another was wanted. -/
inductive Found where
  | null
  | boolean (value : Bool)
  /-- A number without fraction and exponent that fits a signed or an unsigned word. -/
  | integer (value : Int)
  /-- Any other number. -/
  | floating
  | text (value : String)
  | sequence
  | map
deriving DecidableEq, Repr

/-- An integer in decimal, with its sign when negative. -/
def signedDecimal : Int → String
  | .ofNat n => Text.decimal n
  | .negSucc n => "-" ++ Text.decimal (n + 1)

/-- How a found value is named in a message. -/
def Found.describe : Found → String
  | .null => "null"
  | .boolean value => "boolean `" ++ (if value then "true" else "false") ++ "`"
  | .integer value => "integer `" ++ signedDecimal value ++ "`"
  | .floating => "floating point"
  | .text value => "string " ++ Text.quoted value
  | .sequence => "sequence"
  | .map => "map"

/-- Why a document was refused. -/
inductive Problem where
  /-- The text is not well formed, ends early, goes on after its value, nests too deep,
  or holds a number or a text that cannot be represented. -/
  | malformed
  /-- A value of one kind stands where another kind is wanted. -/
  | wrongKind (found : Found) (wanted : String)
  /-- A value of the right kind lies outside the wanted range. -/
  | wrongValue (found : Found) (wanted : String)
  /-- A field of a record is given twice. -/
  | duplicateField (name : String)
  /-- A field that has no default is not given. -/
  | missingField (name : String)
  /-- A record written as an array stops before a field that has no default. -/
  | tooShort (count : Nat) (wanted : String)
  /-- A value of a snapshot has none of the shapes that a slot can have. -/
  | noSlot
deriving DecidableEq, Repr

/-- The wording of a problem. -/
def Problem.message : Problem → String
  | .malformed => "malformed text"
  | .wrongKind found wanted => "invalid type: " ++ found.describe ++ ", expected " ++ wanted
  | .wrongValue found wanted => "invalid value: " ++ found.describe ++ ", expected " ++ wanted
  | .duplicateField name => "duplicate field `" ++ name ++ "`"
  | .missingField name => "missing field `" ++ name ++ "`"
  | .tooShort count wanted =>
    "invalid length " ++ Text.decimal count ++ ", expected " ++ wanted
  | .noSlot => "data did not match any variant of untagged enum Slot"

end Inflight.Json
