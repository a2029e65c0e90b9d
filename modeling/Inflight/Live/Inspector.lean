import Inflight.Fault
import Inflight.Text.Dotted

/-!
# Inspectors

An inspector is all that is known of a live simulator: what each name holds and
what each field of each structure holds.  Everything else is derived from these
two reads.  A dotted path is followed segment by segment; when it has to go on
below a value that is not a structure, the fault names the part of the path that
led to that value.
-/

namespace Inflight

set_option autoImplicit false

/-! ## Kinds of values -/

namespace Value

/-- The word that a value holds; `name` is what the value was found under. -/
def asScalar (name : String) : Value → Except Fault UInt64
  | .scalar word => .ok word
  | _ => .error (.expectedScalar name)

/-- The structure that a value points to; `name` is what the value was found under. -/
def asObject (name : String) : Value → Except Fault Handle
  | .object handle => .ok handle
  | _ => .error (.expectedStructure name)

/-- The structure that a value points to, or none for a null pointer. -/
def asLink (name : String) : Value → Except Fault (Option Handle)
  | .object handle => .ok (some handle)
  | .null => .ok none
  | .scalar _ => .error (.expectedStructure name)

end Value

/-! ## The two reads, and what is derived from them -/

/-- Read access to named live state. -/
structure Inspector where
  /-- What a name holds in the current context. -/
  resolve : String → Except Fault Value
  /-- What a field of a structure holds. -/
  field : Handle → String → Except Fault Value

namespace Inspector

variable (live : Inspector)

/-- Goes on from a value along the given segments; `behind` are those that led to it. -/
def follow (behind : List String) : Value → List String → Except Fault Value
  | value, [] => .ok value
  | .object handle, segment :: rest =>
    match live.field handle segment with
    | .ok value => follow (behind ++ [segment]) value rest
    | .error fault => .error fault
  | _, _ :: _ => .error (.expectedStructure (Text.joinDots behind))

/-- What the dotted path below a structure holds. -/
def path (handle : Handle) (dotted : String) : Except Fault Value :=
  live.follow [] (.object handle) (Text.segments dotted)

/-- The word that a name holds. -/
def resolveScalar (name : String) : Except Fault UInt64 :=
  live.resolve name >>= Value.asScalar name

/-- The structure that a name points to. -/
def resolveObject (name : String) : Except Fault Handle :=
  live.resolve name >>= Value.asObject name

/-- The word at a dotted path below a structure. -/
def scalarAt (handle : Handle) (dotted : String) : Except Fault UInt64 :=
  live.path handle dotted >>= Value.asScalar dotted

/-- The structure at a dotted path below a structure. -/
def objectAt (handle : Handle) (dotted : String) : Except Fault Handle :=
  live.path handle dotted >>= Value.asObject dotted

/-- The structure that a possibly null pointer at a dotted path leads to. -/
def linkAt (handle : Handle) (dotted : String) : Except Fault (Option Handle) :=
  live.path handle dotted >>= Value.asLink dotted

end Inspector

end Inflight
