import Inflight.Text.Column

/-!
# Live values

The simulator under inspection is seen as structures with named fields.  A
structure is known only by its handle; two handles are equal exactly when they
stand for the same structure, whatever its fields hold.
-/

namespace Inflight

set_option autoImplicit false

/-- The identity of a live structure. -/
structure Handle where
  /-- The number that tells this structure from every other. -/
  index : Nat
deriving DecidableEq, Repr

/-- A handle is written as its number after an at sign. -/
def Handle.text (handle : Handle) : String :=
  "@" ++ Text.decimal handle.index

/-- What a name or a field holds: a word, a structure, or no structure. -/
inductive Value where
  /-- A number, a flag or the encoding of a state. -/
  | scalar (word : UInt64)
  | object (handle : Handle)
  | null
deriving DecidableEq, Repr

end Inflight
