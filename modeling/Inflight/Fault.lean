import Inflight.Json.Problem
import Inflight.Live.Value
import Inflight.Storage.Fault

/-!
# Faults

Everything that can go wrong while live state is read or a session is driven.
No fault ends a session: each is reported and the session goes on.
-/

namespace Inflight

set_option autoImplicit false

/-- Why a read, a command or a document failed. -/
inductive Fault where
  /-- No live value has this name in the current context. -/
  | unresolvedSymbol (name : String)
  /-- The structure has no such field. -/
  | missingField (handle : Handle) (field : String)
  /-- A word was wanted under this name or path, and a pointer was found. -/
  | expectedScalar (path : String)
  /-- A structure was wanted under this name or path, and something else was found. -/
  | expectedStructure (path : String)
  /-- No live structure has this handle. -/
  | danglingHandle (handle : Handle)
  /-- No scheduling state has this encoding. -/
  | unknownState (encoding : UInt64)
  /-- A walk met more entries than its bound allows. -/
  | windowOverrun (limit : Nat)
  /-- A command lacks its argument; the usage shows it. -/
  | missingArgument (usage : String)
  /-- No command has this name. -/
  | unknownCommand (name : String)
  /-- The log file could not be opened. -/
  | logNotOpened (path : String) (cause : Storage.Fault)
  /-- A file or the console failed. -/
  | storage (cause : Storage.Fault)
  | document (problem : Json.Problem)
deriving DecidableEq, Repr

/-- The wording of a fault. -/
def Fault.message : Fault → String
  | .unresolvedSymbol name => "symbol `" ++ name ++ "` is not resolvable in the current context"
  | .missingField handle field => "value " ++ handle.text ++ " has no field `" ++ field ++ "`"
  | .expectedScalar path => "`" ++ path ++ "` is not a scalar"
  | .expectedStructure path => "`" ++ path ++ "` is not a structure"
  | .danglingHandle handle => "handle " ++ handle.text ++ " does not refer to a live object"
  | .unknownState encoding => "unknown op state encoding " ++ Text.decimal encoding.toNat
  | .windowOverrun limit =>
    "window walk exceeded " ++ Text.decimal limit ++
      " entries; the in-flight list is likely cyclic"
  | .missingArgument usage => "Usage: " ++ usage
  | .unknownCommand name => "unknown command `" ++ name ++ "`"
  | .logNotOpened path cause => "Error opening file " ++ path ++ ": " ++ cause.message
  | .storage cause => "write failed: " ++ cause.message
  | .document problem => "invalid JSON document: " ++ problem.message

end Inflight
