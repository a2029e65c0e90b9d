import Inflight.Proofs.Json.Reader
import Inflight.Snapshot.Document

/-!
# Snapshots read back

A slot is written without a mark of its kind, and is told by its shape alone.
The four shapes exclude each other: a number, a truth value, null, and an object
whose member `ref` is a number.  So a slot comes back as the kind it was, and
with it the globals and the objects in which it stands, whatever their names
are: what is escaped in a name is read as it was, and the name `ref` is a mark
only inside a slot (`Snapshot.compact_readsBack`).  Only words can be read, so
this is about snapshots whose references are numbered by words
(`Snapshot.Worded`).
-/

namespace Inflight

set_option autoImplicit false

open Json (Reader Shape maxLevels)
open Json.Numeral (wordCount)

/-! ## Slots -/

/-- The number of the structure that a slot refers to is a word. -/
def Slot.Worded : Slot → Prop
  | .ref target => target.index < wordCount
  | _ => True

instance : DecidablePred Slot.Worded
  | .ref target => inferInstanceAs (Decidable (target.index < wordCount))
  | .scalar _ => .isTrue trivial
  | .flag _ => .isTrue trivial
  | .null => .isTrue trivial

namespace Slot

/-- The number of a word is found in its document. -/
theorem word?_ofNat {n : Nat} (word : n < wordCount) :
    word? (.number (.ofNat n)) = some n := by
  simp [word?, Json.Numeral.integer?_ofNat word]

theorem reader_of_ofNode? {levels : Nat} {node : Json.Node} {slot : Slot}
    (representable : node.representable levels = true) (shape : ofNode? node = some slot) :
    reader levels node = .ok slot := by
  rw [reader, if_pos representable, shape]

/-- A slot comes back as the kind it was. -/
theorem read_document (levels : Nat) {slot : Slot} (worded : slot.Worded) :
    reader (levels + 1) slot.document.node = .ok slot := by
  cases slot with
  | scalar word =>
    have small : word.toNat < wordCount := word.toNat_lt
    rw [document, Json.Value.node]
    refine reader_of_ofNode? ?_ ?_
    · simp [Json.Node.representable, Json.Numeral.tooLarge_ofNat small]
    · rw [ofNode?, word?_ofNat small, Option.map_some, UInt64.ofNat_toNat]
  | flag value => rfl
  | ref target =>
    have small : target.index < wordCount := worded
    have member : (document (.ref target)).node =
        .object (.cons (some "ref") (.number (.ofNat target.index)) .closed) := by
      simp only [document, Json.Value.node, Json.Value.membersOf]
    rw [member]
    refine reader_of_ofNode? ?_ ?_
    · simp [Json.Node.representable, Json.Members.representable,
        Json.Numeral.tooLarge_ofNat small]
    · simp [ofNode?, Json.Members.valuesOf, word?_ofNat small]
  | null => rfl

end Slot

/-! ## Objects and snapshots -/

/-- The references among the fields of an object are numbered by words. -/
abbrev Fields.Worded (fields : Fields) : Prop :=
  ∀ entry ∈ fields.entries, entry.2.Worded

theorem Fields.read_document (levels : Nat) {fields : Fields} (worded : fields.Worded) :
    Slot.reader.table (levels + 2) fields.document.node = .ok fields :=
  Reader.table_document fun entry member => Slot.read_document levels (worded entry member)

/-- The references of a snapshot are numbered by words. -/
structure Snapshot.Worded (snapshot : Snapshot) : Prop where
  globals : Fields.Worded snapshot.globals
  objects : ∀ fields ∈ snapshot.objects.toList, Fields.Worded fields

namespace Snapshot

theorem read_document (levels : Nat) {snapshot : Snapshot} (worded : snapshot.Worded) :
    Snapshot.shape.read (levels + 4) snapshot.document.node = .ok snapshot := by
  have globals := Fields.read_document (levels + 1) worded.globals
  have objects : Slot.reader.table.list (levels + 3)
      (Json.Value.array (snapshot.objects.toList.map Fields.document)).node =
        .ok snapshot.objects.toList :=
    Reader.list_document fun fields member =>
      Fields.read_document levels (worded.objects fields member)
  rw [document, Shape.read_inOrder (by decide) rfl, Shape.read_array]
  exact (Shape.readItems_defaulted globals).trans (Shape.readItems_defaulted objects)

theorem ofText_compact {snapshot : Snapshot} (worded : snapshot.Worded) :
    ofText snapshot.document.compact = .ok snapshot := by
  have levels : maxLevels = 123 + 4 := rfl
  rw [ofText, Reader.ofText_compact, levels, read_document 123 worded]
  rfl

/-- **A snapshot comes back from the compact form of its document**, and so no other snapshot
has the same one. -/
theorem compact_readsBack (snapshot : Snapshot) (worded : snapshot.Worded) :
    ofText snapshot.document.compact = .ok snapshot ∧
      ∀ other : Snapshot, other.Worded →
        other.document.compact = snapshot.document.compact → other = snapshot := by
  refine ⟨ofText_compact worded, fun other otherWorded same => ?_⟩
  have back := ofText_compact otherWorded
  rw [same, ofText_compact worded] at back
  exact (Except.ok.inj back).symm

/-- Slots of all kinds, under names that are empty, escaped, or the mark of a reference. -/
def oddNames : Snapshot where
  globals := Table.ofList
    [("", .scalar 18446744073709551615), ("ref", .ref ⟨18446744073709551615⟩),
      ("\"\\/\n\x01", .null)]
  objects := #[Table.empty, Table.ofList [("ref", .flag false), ("😀", .ref ⟨0⟩)]]

/-- The same under other names is another document. -/
theorem compact_readsBack_oddNames :
    oddNames.Worded ∧ ofText oddNames.document.compact = .ok oddNames ∧
      (oddNames.setGlobal "ref" .null).document.compact ≠ oddNames.document.compact := by
  have worded : oddNames.Worded := ⟨by decide +kernel, by decide +kernel⟩
  have otherWorded : (oddNames.setGlobal "ref" .null).Worded :=
    ⟨by decide +kernel, by decide +kernel⟩
  obtain ⟨back, injective⟩ := compact_readsBack oddNames worded
  have differ : oddNames.setGlobal "ref" .null ≠ oddNames := by decide +kernel
  exact ⟨worded, back, fun same => differ (injective _ otherWorded same)⟩

end Snapshot

end Inflight
