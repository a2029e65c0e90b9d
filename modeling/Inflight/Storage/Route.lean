import Inflight.Storage.Fault

/-!
# Routes

A path is a row of components with slashes between them.  It starts at the root
when a slash stands first, and at the working folder otherwise.  Its last
component names a file or a folder, unless it is a dot or two dots, which only
name a folder.
-/

namespace Inflight.Storage

set_option autoImplicit false

/-- A path taken apart. -/
structure Route where
  /-- The folder in which the path starts, by its components from the root. -/
  start : List String
  /-- The components that lead to the folder in which the last one stands. -/
  parents : List String
  /-- The last component; none when the path only names a folder. -/
  leaf : Option String
  /-- Whether a slash follows the last component. -/
  trailingSlash : Bool

namespace Route

/-- The folder in which relative paths start, by the components that lead there from the root.
Components between slashes are not empty, so no path spells its name. -/
def workingFolder : List String := ["tmp", ""]

/-- The greatest number of bytes in a component. -/
def maxComponent : Nat := 255

/-- The greatest number of bytes in a path. -/
def maxPath : Nat := 4095

/-- Takes a path apart.  Repeated slashes count once. -/
def ofPath (path : String) : Route :=
  let parts := (path.toList.splitOn '/').map String.ofList
  let components := parts.filter fun part => part ≠ ""
  let start := if parts.length ≠ 1 ∧ parts.head? = some "" then [] else workingFolder
  let trailingSlash := parts.getLast? = some ""
  match components.getLast? with
  | none => { start, parents := [], leaf := none, trailingSlash }
  | some leaf =>
    if leaf = "." ∨ leaf = ".." then
      { start, parents := components, leaf := none, trailingSlash }
    else { start, parents := components.dropLast, leaf := some leaf, trailingSlash }

/-- The folder above a folder.  Above the root there is the root. -/
def above (here : List String) : List String := here.dropLast

/-- Checks that a path may be followed at all. -/
def checkPath (path : String) : Except Fault Unit :=
  if '\x00' ∈ path.toList then .error .nulInPath
  else if path = "" then .error .notFound
  else if maxPath < path.utf8ByteSize then .error .nameTooLong
  else .ok ()

end Route

end Inflight.Storage
