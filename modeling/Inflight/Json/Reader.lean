import Inflight.Json.Document
import Inflight.Table

/-!
# Typed readers

A reader turns a tree into a typed value or tells the first problem it meets.
It is given the number of levels that may still nest below the value it reads;
a document as a whole has 127 of them.

Records are read by shape: a row of fields, each with a reader of its own and
with or without a default.  A record may be written as an object, in any order
and with unknown members between, or as an array of its fields in order.
-/

namespace Inflight.Json

set_option autoImplicit false

universe u

/-- Reads a value below which the given number of levels may nest. -/
abbrev Reader (α : Type u) := Nat → Node → Except Problem α

/-- How deep arrays and objects may nest in a document. -/
def maxLevels : Nat := 127

/-- Reads a whole text.  A problem of the value comes before one of the text after it. -/
def Reader.ofText {α : Type} (reader : Reader α) (text : String) : Except Problem α :=
  let document := Document.ofText text
  match reader maxLevels document.root with
  | .error problem => .error problem
  | .ok value => if document.complete then .ok value else .error .malformed

/-! ## Scalars -/

/-- Reads an unsigned word; `wanted` names it in messages. -/
def Reader.word (wanted : String) : Reader UInt64 := fun _ node =>
  match node with
  | .number numeral =>
    match numeral.integer? with
    | some (.ofNat n) => .ok (UInt64.ofNat n)
    | some value => .error (.wrongValue (.integer value) wanted)
    | none => .error (node.mismatch wanted)
  | _ => .error (node.mismatch wanted)

/-- Reads a truth value. -/
def Reader.boolean : Reader Bool := fun _ node =>
  match node with
  | .boolean value => .ok value
  | _ => .error (node.mismatch "a boolean")

/-- Reads a text. -/
def Reader.text : Reader String := fun _ node =>
  match node with
  | .text (some value) => .ok value
  | _ => .error (node.mismatch "a string")

/-- Reads a value that may be null. -/
def Reader.optional {α : Type} (reader : Reader α) : Reader (Option α) := fun levels node =>
  match node with
  | .null => .ok none
  | _ => (reader levels node).map some

/-! ## Rows and tables -/

/-- Reads the items of an array one after the other. -/
def Reader.items {α : Type} (reader : Reader α) (levels : Nat) : Items → Except Problem (List α)
  | .closed => .ok []
  | .broken => .error .malformed
  | .cons item rest =>
    match reader levels item with
    | .error problem => .error problem
    | .ok value => (Reader.items reader levels rest).map (value :: ·)

/-- Reads an array whose items are of one kind. -/
def Reader.list {α : Type} (reader : Reader α) : Reader (List α) := fun levels node =>
  match node, levels with
  | .array _, 0 => .error .malformed
  | .array items, levels + 1 => reader.items levels items
  | _, _ => .error (node.mismatch "a sequence")

/-- Reads the members of an object into a table; of several values of a key the last stays. -/
def Reader.members {α : Type} (reader : Reader α) (levels : Nat) :
    Table α → Members → Except Problem (Table α)
  | table, .closed => .ok table
  | _, .broken => .error .malformed
  | _, .cons none _ _ => .error .malformed
  | table, .cons (some key) value rest =>
    match reader levels value with
    | .error problem => .error problem
    | .ok value => Reader.members reader levels (table.insert key value) rest

/-- Reads an object whose members are of one kind. -/
def Reader.table {α : Type} (reader : Reader α) : Reader (Table α) := fun levels node =>
  match node, levels with
  | .object _, 0 => .error .malformed
  | .object members, levels + 1 => reader.members levels Table.empty members
  | _, _ => .error (node.mismatch "a map")

/-! ## Records -/

/-- A field of a record: its name, whether it must be given, and how its value is read and
stored. -/
structure Field (α : Type) where
  /-- The key of the field. -/
  name : String
  /-- Whether a record without it is refused. -/
  required : Bool
  /-- Reads a value; gives the change that stores it. -/
  read : Reader (α → α)

/-- A field that takes its default when it is not given. -/
def Field.defaulted {α β : Type} (name : String) (reader : Reader β) (store : β → α → α) :
    Field α :=
  { name, required := false, read := fun levels node => (reader levels node).map store }

/-- A field that must be given. -/
def Field.needed {α β : Type} (name : String) (reader : Reader β) (store : β → α → α) :
    Field α :=
  { name, required := true, read := fun levels node => (reader levels node).map store }

/-- The shape of a record. -/
structure Shape (α : Type) where
  /-- The name of the record in messages. -/
  title : String
  /-- The record in which every field has its default. -/
  blank : α
  fields : List (Field α)

namespace Shape

variable {α : Type} (shape : Shape α)

/-- The field of a given name. -/
def field? (name : String) : Option (Field α) :=
  shape.fields.find? fun field => field.name == name

/-- The first field that must be given and is not among those seen. -/
def missing? (seen : List String) : Option (Field α) :=
  shape.fields.find? fun field => field.required && !seen.contains field.name

/-- Reads the members of an object in their order.  Members that are no fields only have to be
well formed. -/
def readMembers (levels : Nat) : List String → α → Members → Except Problem α
  | seen, record, .closed =>
    match shape.missing? seen with
    | some field => .error (.missingField field.name)
    | none => .ok record
  | _, _, .broken => .error .malformed
  | _, _, .cons none _ _ => .error .malformed
  | seen, record, .cons (some key) value rest =>
    match shape.field? key with
    | none =>
      if value.wellFormed then readMembers levels seen record rest else .error .malformed
    | some field =>
      if seen.contains key then .error (.duplicateField key)
      else
        match field.read levels value with
        | .error problem => .error problem
        | .ok store => readMembers levels (key :: seen) (store record) rest

/-- The record's title with its number of fields. -/
def describe : String :=
  shape.title ++ " with " ++ Text.decimal shape.fields.length ++
    (if shape.fields.length = 1 then " element" else " elements")

/-- Reads the items of an array as the remaining fields, `position` of which came before. -/
def readItems (levels : Nat) : Nat → List (Field α) → α → Items → Except Problem α
  | _, [], record, .closed => .ok record
  | _, [], _, _ => .error .malformed
  | position, fields@(_ :: _), record, .closed =>
    match fields.findIdx? fun field => field.required with
    | some index => .error (.tooShort (position + index) shape.describe)
    | none => .ok record
  | _, _ :: _, _, .broken => .error .malformed
  | position, field :: fields, record, .cons item rest =>
    match field.read levels item with
    | .error problem => .error problem
    | .ok store => readItems levels (position + 1) fields (store record) rest

/-- Reads a record. -/
def read : Reader α := fun levels node =>
  match node, levels with
  | .object _, 0 => .error .malformed
  | .array _, 0 => .error .malformed
  | .object members, levels + 1 => shape.readMembers levels [] shape.blank members
  | .array items, levels + 1 => shape.readItems levels 0 shape.fields shape.blank items
  | _, _ => .error (node.mismatch shape.title)

end Shape

end Inflight.Json
