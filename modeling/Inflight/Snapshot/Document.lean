import Inflight.Json.Reader
import Inflight.Json.Value
import Inflight.Snapshot.Basic

/-!
# Snapshot documents

A snapshot is written as an object with its globals and its row of objects.  A
slot is told by its shape alone: a number, a truth value, null, or an object
whose one member `ref` holds the number of a handle.  Members beside `ref` are
passed over, and nothing else is a slot.
-/

namespace Inflight

set_option autoImplicit false

open Json (Field Items Members Node Reader Shape)

/-! ## Reading -/

/-- The values that an object gives to a key, in order. -/
def Json.Members.valuesOf (key : String) : Members → List Node
  | .closed => []
  | .broken => []
  | .cons (some name) value rest =>
    if name = key then value :: rest.valuesOf key else rest.valuesOf key
  | .cons none _ rest => rest.valuesOf key

namespace Slot

/-- The number that a value spells, when it is an unsigned word. -/
def word? : Node → Option Nat
  | .number numeral =>
    match numeral.integer? with
    | some (.ofNat n) => some n
    | _ => none
  | _ => none

/-- The slot that a value has the shape of. -/
def ofNode? : Node → Option Slot
  | .null => some .null
  | .boolean value => some (.flag value)
  | node@(.number _) => (word? node).map fun n => .scalar (UInt64.ofNat n)
  | .object members =>
    match members.valuesOf "ref" with
    | [target] => (word? target).map fun n => .ref ⟨n⟩
    | _ => none
  | _ => none

/-- Reads a slot.  The whole value has to be representable before its shape is looked at. -/
def reader : Reader Slot := fun levels node =>
  if node.representable levels then
    match ofNode? node with
    | some slot => .ok slot
    | none => .error .noSlot
  else .error .malformed

end Slot

/-- The shape of a snapshot. -/
def Snapshot.shape : Shape Snapshot where
  title := "struct HeapSnapshot"
  blank := {}
  fields :=
    [.defaulted "globals" Slot.reader.table fun globals snapshot => { snapshot with globals },
     .defaulted "objects" Slot.reader.table.list
       fun objects snapshot => { snapshot with objects := objects.toArray }]

/-- Reads a snapshot from the text of a document. -/
def Snapshot.ofText (text : String) : Except Fault Snapshot :=
  (Reader.ofText Snapshot.shape.read text).mapError .document

/-! ## Writing -/

/-- The document of a slot. -/
def Slot.document : Slot → Json.Value
  | .scalar word => .natural word.toNat
  | .flag value => .boolean value
  | .ref target => .object [("ref", .natural target.index)]
  | .null => .null

/-- The document of the fields of an object. -/
def Fields.document (fields : Fields) : Json.Value :=
  .object (fields.entries.map fun entry => (entry.1, entry.2.document))

/-- The document of a snapshot. -/
def Snapshot.document (snapshot : Snapshot) : Json.Value :=
  .object
    [("globals", Fields.document snapshot.globals),
     ("objects", .array (snapshot.objects.toList.map Fields.document))]

end Inflight
