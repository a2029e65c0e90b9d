import Inflight.Json.Node
import Inflight.Json.Piece

/-!
# Reading a document

A document is read from left to right in one pass.  A value that cannot be read
ends the reading: nothing after it is looked at, and every row that it stands in
breaks off.
-/

namespace Inflight.Json

set_option autoImplicit false

/-- The four characters that may stand between the parts of a document. -/
def isSpace (c : Char) : Bool :=
  c == ' ' || c == '\n' || c == '\t' || c == '\r'

/-- What is left after the space at the front. -/
def skipSpace (cs : List Char) : List Char :=
  cs.dropWhile isSpace

/-- Reads a number. -/
def readNumber (cs : List Char) : Node × List Char :=
  match Numeral.read cs with
  | some (numeral, rest) => (.number numeral, rest)
  | none => (.malformed, [])

mutual

/-- Reads a value; gives it with what follows. -/
def readValue : Nat → List Char → Node × List Char
  | 0, _ => (.malformed, [])
  | fuel + 1, cs =>
    match skipSpace cs with
    | 'n' :: 'u' :: 'l' :: 'l' :: rest => (.null, rest)
    | 't' :: 'r' :: 'u' :: 'e' :: rest => (.boolean true, rest)
    | 'f' :: 'a' :: 'l' :: 's' :: 'e' :: rest => (.boolean false, rest)
    | '"' :: rest =>
      match readText rest with
      | some (value, rest) => (.text value, rest)
      | none => (.malformed, [])
    | '[' :: rest =>
      match skipSpace rest with
      | ']' :: rest => (.array .closed, rest)
      | rest =>
        match readItems fuel rest with
        | (items, rest) => (.array items, rest)
    | '\x7b' :: rest =>
      match skipSpace rest with
      | '\x7d' :: rest => (.object .closed, rest)
      | rest =>
        match readMembers fuel rest with
        | (members, rest) => (.object members, rest)
    | rest => readNumber rest

/-- Reads the items of an array from the next item on. -/
def readItems : Nat → List Char → Items × List Char
  | 0, _ => (.broken, [])
  | fuel + 1, cs =>
    match readValue fuel cs with
    | (item, rest) =>
      match skipSpace rest with
      | ',' :: rest =>
        match readItems fuel rest with
        | (items, rest) => (.cons item items, rest)
      | ']' :: rest => (.cons item .closed, rest)
      | _ => (.cons item .broken, [])

/-- Reads the members of an object from the next key on. -/
def readMembers : Nat → List Char → Members × List Char
  | 0, _ => (.broken, [])
  | fuel + 1, cs =>
    match skipSpace cs with
    | '"' :: rest =>
      match readText rest with
      | none => (.broken, [])
      | some (key, rest) =>
        match skipSpace rest with
        | ':' :: rest =>
          match readValue fuel rest with
          | (value, rest) =>
            match skipSpace rest with
            | ',' :: rest =>
              match readMembers fuel rest with
              | (members, rest) => (.cons key value members, rest)
            | '\x7d' :: rest => (.cons key value .closed, rest)
            | _ => (.cons key value .broken, [])
        | _ => (.cons key .malformed .broken, [])
    | _ => (.broken, [])

end

/-- A document: its value, and whether nothing but space follows it. -/
structure Document where
  root : Node
  /-- Whether the text ends after it. -/
  complete : Bool

/-- Reads a document.  Each level of nesting and each item takes a character and at most two
steps, so the steps do not run out before the text does. -/
def Document.ofText (text : String) : Document :=
  let cs := text.toList
  match readValue (2 * cs.length + 1) cs with
  | (root, rest) => { root, complete := (skipSpace rest).isEmpty }

end Inflight.Json
