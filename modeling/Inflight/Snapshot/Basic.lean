import Inflight.Live.Inspector
import Inflight.Table

/-!
# Snapshots

A snapshot is a frozen copy of the structures of a simulator that are ever read.
Its objects stand in a row and a handle is a place in that row, so a handle
beyond the row's end is dangling.  A snapshot is an inspector.

Objects are written along dotted paths.  A parent that does not exist yet is
made; an existing parent has to be a reference.
-/

namespace Inflight

set_option autoImplicit false

/-- What a global or a field of a snapshot holds. -/
inductive Slot where
  /-- A number or the encoding of a state. -/
  | scalar (word : UInt64)
  /-- A truth value, which reads as one or zero. -/
  | flag (value : Bool)
  | ref (target : Handle)
  | null
deriving DecidableEq, Repr

namespace Slot

/-- The live value that a slot stands for. -/
def value : Slot → Value
  | .scalar word => .scalar word
  | .flag value => .scalar (if value then 1 else 0)
  | .ref target => .object target
  | .null => .null

/-- A reference to an object, or a null pointer. -/
def link : Option Handle → Slot
  | some handle => .ref handle
  | none => .null

end Slot

/-- The fields of an object. -/
abbrev Fields := Table Slot

/-- Named globals, and objects in a row. -/
structure Snapshot where
  /-- The values of global names. -/
  globals : Table Slot := Table.empty
  /-- The objects; a handle is a place in this row. -/
  objects : Array Fields := #[]
deriving DecidableEq

namespace Snapshot

instance : Inhabited Snapshot := ⟨{}⟩

variable (snapshot : Snapshot)

/-- The number of objects. -/
def size : Nat := snapshot.objects.size

/-- The object behind a handle. -/
def object (handle : Handle) : Except Fault Fields :=
  match snapshot.objects[handle.index]? with
  | some fields => .ok fields
  | none => .error (.danglingHandle handle)

/-! ## Reading -/

/-- What a global name holds. -/
def resolve (name : String) : Except Fault Value :=
  match snapshot.globals.get? name with
  | some slot => .ok slot.value
  | none => .error (.unresolvedSymbol name)

/-- What a field of an object holds. -/
def field (handle : Handle) (name : String) : Except Fault Value :=
  match snapshot.object handle with
  | .error fault => .error fault
  | .ok fields =>
    match fields.get? name with
    | some slot => .ok slot.value
    | none => .error (.missingField handle name)

/-- The snapshot as live state. -/
def inspector : Inspector where
  resolve := snapshot.resolve
  field := snapshot.field

/-! ## Writing -/

/-- Gives a global name a value. -/
def setGlobal (name : String) (slot : Slot) : Snapshot :=
  { snapshot with globals := snapshot.globals.insert name slot }

/-- Takes a global name away, as when the frame that defined it is left. -/
def unsetGlobal (name : String) : Snapshot :=
  { snapshot with globals := snapshot.globals.erase name }

/-- Puts an object at the end of the row; gives its handle. -/
def alloc (fields : Fields) : Handle × Snapshot :=
  (⟨snapshot.objects.size⟩, { snapshot with objects := snapshot.objects.push fields })

/-- Gives a field of an object a value.  Nothing changes behind a dangling handle. -/
def setField (handle : Handle) (name : String) (slot : Slot) : Snapshot :=
  { snapshot with objects := snapshot.objects.modify handle.index (·.insert name slot) }

/-- Follows references along the given segments, making an object for each that is missing;
gives the last object. -/
def descend : Snapshot → Handle → List String → Except Fault Handle × Snapshot
  | snapshot, handle, [] => (.ok handle, snapshot)
  | snapshot, handle, segment :: rest =>
    match snapshot.object handle with
    | .error fault => (.error fault, snapshot)
    | .ok fields =>
      match fields.get? segment with
      | some (.ref target) => descend snapshot target rest
      | some _ => (.error (.expectedStructure segment), snapshot)
      | none =>
        let (child, grown) := snapshot.alloc Table.empty
        descend (grown.setField handle segment (.ref child)) child rest

/-- Gives the field at a dotted path a value. -/
def setPath (handle : Handle) (dotted : String) (slot : Slot) : Except Fault Unit × Snapshot :=
  let segments := Text.segments dotted
  match snapshot.descend handle segments.dropLast with
  | (.error fault, snapshot) => (.error fault, snapshot)
  | (.ok owner, snapshot) =>
    match snapshot.object owner with
    | .error fault => (.error fault, snapshot)
    | .ok _ => (.ok (), snapshot.setField owner (segments.getLast?.getD "") slot)

/-- Gives the fields at several paths their values, one after the other, up to the first that
fails. -/
def setPaths : Snapshot → List (Handle × String × Slot) → Except Fault Unit × Snapshot
  | snapshot, [] => (.ok (), snapshot)
  | snapshot, (handle, dotted, slot) :: rest =>
    match snapshot.setPath handle dotted slot with
    | (.error fault, snapshot) => (.error fault, snapshot)
    | (.ok (), snapshot) => setPaths snapshot rest

end Snapshot

end Inflight
