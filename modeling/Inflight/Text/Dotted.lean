/-!
# Dotted paths

A field below a structure is named by a path: segments with dots between them.
Every text is a path, and it has one segment more than it has dots, so a segment
may be empty.
-/

namespace Inflight.Text

set_option autoImplicit false

/-- The segments of a dotted path. -/
def segments (path : String) : List String :=
  (path.toList.splitOn '.').map String.ofList

/-- The dotted path with the given segments. -/
def joinDots (segments : List String) : String :=
  ".".intercalate segments

/-- A dot at the end opens an empty segment, and the empty path has one empty segment. -/
example : segments "inst_info.addr" = ["inst_info", "addr"] ∧ segments "a." = ["a", ""] ∧
    segments "" = [""] := by decide

end Inflight.Text
