import Inflight.Proofs.Snapshot.RoundTrip
import Inflight.Replay

/-!
# Scripts read back

A script is written with the snapshots of its stops inside it, and each of them
is read there as it is read alone, only with fewer levels left for it.  The
command lines are texts, so they come back whatever characters they hold.  So
every script whose snapshots can be written has a document that gives it back
(`Script.ofText_compact`), with any command lines at any of its stops.
-/

namespace Inflight

set_option autoImplicit false

open Json (Reader Shape maxLevels)

/-! ## Stops -/

/-- The document of a stop.  A label that was left out is null. -/
def Stop.document (stop : Stop) : Json.Value :=
  .object
    [("label", stop.label.elim .null .text),
     ("commands", .array (stop.commands.map .text)),
     ("state", stop.state.document)]

theorem Stop.read_document (levels : Nat) {stop : Stop} (worded : stop.state.Worded) :
    Stop.shape.read (levels + 5) stop.document.node = .ok stop := by
  have label : Reader.text.optional (levels + 4)
      (stop.label.elim Json.Value.null Json.Value.text).node = .ok stop.label := by
    cases stop.label <;> rfl
  have commands : Reader.text.list (levels + 4)
      (Json.Value.array (stop.commands.map Json.Value.text)).node = .ok stop.commands :=
    Reader.list_document fun _ _ => rfl
  have state := Snapshot.read_document levels worded
  rw [document, Shape.read_inOrder (by decide) rfl, Shape.read_array]
  refine (Shape.readItems_defaulted label).trans ?_
  exact (Shape.readItems_needed commands).trans (Shape.readItems_needed state)

/-! ## Scripts -/

/-- The references in the snapshots of a script are numbered by words. -/
def Script.Worded (script : Script) : Prop :=
  ∀ stop ∈ script.stops, stop.state.Worded

/-- The document of a script. -/
def Script.document (script : Script) : Json.Value :=
  .object [("stops", .array (script.stops.map Stop.document))]

namespace Script

theorem read_document {script : Script} (worded : script.Worded) :
    Script.shape.read maxLevels script.document.node = .ok script := by
  have stops : Stop.shape.read.list 126
      (Json.Value.array (script.stops.map Stop.document)).node = .ok script.stops :=
    Reader.list_document fun stop member => Stop.read_document 120 (worded stop member)
  have levels : maxLevels = 126 + 1 := rfl
  rw [document, Shape.read_inOrder (by decide) rfl, levels, Shape.read_array]
  exact Shape.readItems_needed stops

/-- A script comes back from the compact form of its document. -/
theorem ofText_compact {script : Script} (worded : script.Worded) :
    ofText script.document.compact = .ok script := by
  rw [ofText, Reader.ofText_compact, read_document worded]
  rfl

end Script

end Inflight
