import Inflight.Text.Column

/-!
# Writing a document

The values that documents are written from, and their two forms: compact, with
no space at all, and pretty, with two spaces for each level.
-/

namespace Inflight.Json

set_option autoImplicit false

/-- A value to be written. -/
inductive Value where
  | null
  | boolean (value : Bool)
  | natural (n : Nat)
  | text (value : String)
  | array (items : List Value)
  /-- An object; its members are written in the given order. -/
  | object (members : List (String × Value))

namespace Value

/-! ## Texts -/

/-- A control character by its code point, in four hexadecimal digits. -/
def unitEscape (c : Char) : List Char :=
  ['\\', 'u', '0', '0'] ++ (Text.zeroFill 2 (Text.hexadecimal c.toNat)).toList

/-- How a character is written inside quotes. -/
def escapeChar (c : Char) : List Char :=
  if c = '"' then ['\\', '"']
  else if c = '\\' then ['\\', '\\']
  else if c = '\x08' then ['\\', 'b']
  else if c = '\x0c' then ['\\', 'f']
  else if c = '\n' then ['\\', 'n']
  else if c = '\r' then ['\\', 'r']
  else if c = '\t' then ['\\', 't']
  else if c.toNat < 0x20 then unitEscape c
  else [c]

/-- A text between quotes. -/
def quote (text : String) : List Char :=
  '"' :: text.toList.flatMap escapeChar ++ ['"']

/-- A value that has no parts. -/
def scalarText : Value → List Char
  | .boolean true => ['t', 'r', 'u', 'e']
  | .boolean false => ['f', 'a', 'l', 's', 'e']
  | .natural n => Nat.toDigits 10 n
  | .text value => quote value
  | _ => ['n', 'u', 'l', 'l']

/-! ## The compact form -/

mutual

/-- The compact form of a value. -/
def compactChars : Value → List Char
  | .array [] => ['[', ']']
  | .array (item :: items) => '[' :: compactChars item ++ compactItems items
  | .object [] => ['\x7b', '\x7d']
  | .object ((key, value) :: members) =>
    '\x7b' :: quote key ++ ':' :: compactChars value ++ compactMembers members
  | value => scalarText value

/-- The compact form of the items after the first, with the closing bracket. -/
def compactItems : List Value → List Char
  | [] => [']']
  | item :: items => ',' :: compactChars item ++ compactItems items

/-- The compact form of the members after the first, with the closing brace. -/
def compactMembers : List (String × Value) → List Char
  | [] => ['\x7d']
  | (key, value) :: members =>
    ',' :: quote key ++ ':' :: compactChars value ++ compactMembers members

end

/-- The compact form of a value. -/
def compact (value : Value) : String :=
  String.ofList value.compactChars

/-! ## The pretty form -/

/-- A new line at the given level. -/
def newLine (level : Nat) : List Char :=
  '\n' :: List.replicate (2 * level) ' '

mutual

/-- The pretty form of a value that stands at the given level. -/
def prettyChars (level : Nat) : Value → List Char
  | .array [] => ['[', ']']
  | .array (item :: items) =>
    '[' :: newLine (level + 1) ++ prettyChars (level + 1) item ++ prettyItems level items
  | .object [] => ['\x7b', '\x7d']
  | .object ((key, value) :: members) =>
    '\x7b' :: newLine (level + 1) ++ quote key ++ ':' :: ' ' :: prettyChars (level + 1) value ++
      prettyMembers level members
  | value => scalarText value

/-- The pretty form of the items after the first, with the closing bracket. -/
def prettyItems (level : Nat) : List Value → List Char
  | [] => newLine level ++ [']']
  | item :: items =>
    ',' :: newLine (level + 1) ++ prettyChars (level + 1) item ++ prettyItems level items

/-- The pretty form of the members after the first, with the closing brace. -/
def prettyMembers (level : Nat) : List (String × Value) → List Char
  | [] => newLine level ++ ['\x7d']
  | (key, value) :: members =>
    ',' :: newLine (level + 1) ++ quote key ++ ':' :: ' ' :: prettyChars (level + 1) value ++
      prettyMembers level members

end

/-- The pretty form of a value. -/
def pretty (value : Value) : String :=
  String.ofList (value.prettyChars 0)

/-- A line end inside a text is escaped in both forms. -/
example : (object [("a", array [natural 1, text "\n"])]).compact = "\x7b\"a\":[1,\"\\n\"]\x7d" := by
  decide +kernel

/-- Parts stand on lines of their own, except where there are none. -/
example : (array [array [], boolean true]).pretty = "[\n  [],\n  true\n]" := by decide +kernel

end Value

end Inflight.Json
