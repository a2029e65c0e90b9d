import Inflight.Proofs.Snapshot.Decoding

/-!
# Every snapshot document is laid out as one

A snapshot may be given by name or by place (`Snapshot.Laid`), and there is no other way
to give one.  A slot that is read fits a variant (`Slot.fits_of_reader`), a table of slots
is the document of values that fit (`Fields.exists_fit_of_reader`), and so on up to the
whole: a text is read as a snapshot exactly when it is laid out as one, and each of its
values can be represented and fits a variant (`Snapshot.ofText_isOk_iff`).
-/

namespace Inflight

set_option autoImplicit false

open Json (Document Field Items Members Node Problem Reader Shape maxLevels)

/-! ## What a snapshot is read from -/

theorem Slot.fits_of_reader {levels : Nat} {node : Node} {slot : Slot}
    (read : reader levels node = .ok slot) :
    node.representable levels = true ∧ ∃ variant, Fits variant node slot := by
  rw [reader] at read
  by_cases representable : node.representable levels = true
  · rw [if_pos representable] at read
    cases found : ofNode? node with
    | none =>
      rw [found] at read
      cases read
    | some given =>
      rw [found] at read
      cases read
      obtain ⟨variant, decoded⟩ := ofNode?_eq_some_iff.mp found
      exact ⟨representable, variant, fits_of_decode? representable decoded⟩
  · rw [if_neg representable] at read
    cases read

namespace Fields

/-- The values can be represented, and each fits a variant of the slot. -/
def Fit (levels : Nat) (entries : List (String × Node)) : Prop :=
  Within levels entries ∧ ∃ slots, Decode entries slots

theorem Fit.nil (levels : Nat) : Fit levels [] :=
  ⟨fun _ member => absurd member List.not_mem_nil, [], .nil⟩

/-- What is read as a table of slots is the document of values that fit. -/
theorem exists_fit_of_reader {levels : Nat} {node : Node} {fields : Table Slot}
    (read : Slot.reader.table (levels + 1) node = .ok fields) :
    ∃ entries, node = Fields.node entries ∧ Fit levels entries := by
  obtain ⟨entries, rfl, each⟩ := Reader.table_eq_ok read
  refine ⟨entries, rfl, fun entry member => ?_, ?_⟩
  · obtain ⟨slot, read⟩ := each entry member
    exact (Slot.fits_of_reader read).1
  · refine (decode_or_misfits entries).resolve_right fun misfits => ?_
    obtain ⟨entry, member, misfits⟩ := misfits
    obtain ⟨slot, read⟩ := each entry member
    obtain ⟨_, variant, fits⟩ := Slot.fits_of_reader read
    exact misfits variant slot fits

end Fields

namespace Snapshot

variable {levels : Nat}

theorem exists_rows_of_reader {node : Node} {objects : List (Table Slot)}
    (read : Slot.reader.table.list (levels + 2) node = .ok objects) :
    ∃ rest, node = rows rest ∧ ∀ fields ∈ rest, Fields.Fit levels fields := by
  obtain ⟨nodes, rfl, each⟩ := Reader.list_eq_ok read
  clear read
  induction nodes with
  | nil => exact ⟨[], rfl, fun _ member => absurd member List.not_mem_nil⟩
  | cons node later ih =>
    obtain ⟨⟨_, here⟩, others⟩ := List.forall_mem_cons.mp each
    obtain ⟨entries, rfl, fit⟩ := Fields.exists_fit_of_reader here
    obtain ⟨rest, same, restFit⟩ := ih others
    have sameRow : Items.ofList later = .ofList (rest.map Fields.node) := Node.array.inj same
    refine ⟨entries :: rest, ?_, List.forall_mem_cons.mpr ⟨fit, restFit⟩⟩
    rw [rows, Items.ofList, sameRow]
    rfl

/-- A part that is left out is empty. -/
theorem exists_stands {β : Type} {document : List β → Node} {holds : List β → Prop}
    {value? : Option Node} (empty : holds [])
    (given : ∀ value, value? = some value → ∃ row, value = document row ∧ holds row) :
    ∃ row, Stands document row value? ∧ holds row := by
  cases value? with
  | none => exact ⟨[], rfl, empty⟩
  | some value => exact given value rfl

/-- What is read as a snapshot is laid out as one, and its values fit. -/
theorem exists_laid_of_read {root : Node} {snapshot : Snapshot}
    (read : shape.read (levels + 3) root = .ok snapshot) :
    ∃ globals objects, Laid globals objects root ∧ Fields.Fit (levels + 1) globals ∧
      ∀ fields ∈ objects, Fields.Fit levels fields := by
  cases root with
  | object members =>
    obtain ⟨entries, rfl, once, others, fields⟩ := Shape.readMembers_eq_ok read
    have readOf : ∀ {name : String} {value : Node}, entries.lookup name = some value →
        ∀ field, shape.field? name = some field →
          ∃ store, field.read (levels + 2) value = .ok store := by
      intro name value found field isField
      obtain ⟨before, after, rfl, _⟩ := List.lookup_eq_some_iff.mp found
      exact (fields (name, value) (by simp) field isField).2
    obtain ⟨globals, standsGlobals, globalsFit⟩ :
        ∃ globals, Stands Fields.node globals (entries.lookup "globals") ∧
          Fields.Fit (levels + 1) globals := by
      refine exists_stands (Fields.Fit.nil _) fun value found => ?_
      obtain ⟨_, read⟩ := readOf found _ rfl
      obtain ⟨_, read⟩ := Json.exists_of_map_eq_ok read
      exact Fields.exists_fit_of_reader read
    obtain ⟨objects, standsObjects, objectsFit⟩ :
        ∃ objects, Stands rows objects (entries.lookup "objects") ∧
          ∀ fields ∈ objects, Fields.Fit levels fields := by
      refine exists_stands (fun _ member => absurd member List.not_mem_nil) fun value found => ?_
      obtain ⟨_, read⟩ := readOf found _ rfl
      obtain ⟨_, read⟩ := Json.exists_of_map_eq_ok read
      exact exists_rows_of_reader read
    refine ⟨globals, objects, .named ?_ ?_ standsGlobals standsObjects, globalsFit, objectsFit⟩
    · refine once.imp fun {early late} apart known => ?_
      obtain ⟨field, found⟩ := exists_field?_iff.mpr known
      exact apart field found
    · intro entry member unknown
      refine others entry member (Option.eq_none_iff_forall_ne_some.mpr fun field found => ?_)
      exact unknown (exists_field?_iff.mp ⟨field, found⟩)
  | array items =>
    obtain ⟨nodes, rfl, short, each⟩ := Shape.readItems_eq_ok read
    obtain ⟨globals, standsGlobals, globalsFit⟩ :
        ∃ globals, Stands Fields.node globals nodes[0]? ∧ Fields.Fit (levels + 1) globals := by
      refine exists_stands (Fields.Fit.nil _) fun value found => ?_
      obtain ⟨_, read⟩ := each 0 _ value rfl found
      obtain ⟨_, read⟩ := Json.exists_of_map_eq_ok read
      exact Fields.exists_fit_of_reader read
    obtain ⟨objects, standsObjects, objectsFit⟩ :
        ∃ objects, Stands rows objects nodes[1]? ∧
          ∀ fields ∈ objects, Fields.Fit levels fields := by
      refine exists_stands (fun _ member => absurd member List.not_mem_nil) fun value found => ?_
      obtain ⟨_, read⟩ := each 1 _ value rfl found
      obtain ⟨_, read⟩ := Json.exists_of_map_eq_ok read
      exact exists_rows_of_reader read
    exact ⟨globals, objects, .placed short standsGlobals standsObjects, globalsFit, objectsFit⟩
  | malformed | null | boolean _ | number _ | text _ => cases read

/-- **A text is read as a snapshot exactly when it is laid out as one** and each of its values
can be represented and fits a variant of the slot. -/
theorem ofText_isOk_iff {text : String} : (∃ snapshot, ofText text = .ok snapshot) ↔
    ∃ root globals objects, Document.ofText text = ⟨root, true⟩ ∧ Laid globals objects root ∧
      Fields.Fit (maxLevels - 2) globals ∧
      ∀ fields ∈ objects, Fields.Fit (maxLevels - 3) fields := by
  constructor
  · rintro ⟨snapshot, read⟩
    rw [ofText] at read
    cases inner : Reader.ofText shape.read text with
    | error problem =>
      rw [inner] at read
      cases read
    | ok given =>
      obtain ⟨root, document, rootRead⟩ := Reader.ofText_eq_ok inner
      obtain ⟨globals, objects, laid, fit⟩ := exists_laid_of_read rootRead
      exact ⟨root, globals, objects, document, laid, fit⟩
  · rintro ⟨root, globals, objects, document, laid, ⟨globalsWithin, slots, decodeGlobals⟩, fit⟩
    obtain ⟨fields, decodeObjects⟩ : ∃ fields, List.Forall₂ Fields.Decode objects fields := by
      refine (forall₂_or_unrelated Fields.Decode objects).resolve_right ?_
      rintro ⟨entries, member, lone⟩
      obtain ⟨_, slots, decode⟩ := fit entries member
      exact lone slots decode
    have read : shape.read maxLevels root =
        .ok { globals := .ofList slots, objects := (fields.map Table.ofList).toArray } :=
      read_of_decode laid globalsWithin (fun fields member => (fit fields member).1)
        decodeGlobals decodeObjects
    refine ⟨{ globals := .ofList slots, objects := (fields.map Table.ofList).toArray }, ?_⟩
    rw [ofText, Reader.ofText_of_document document, read]
    rfl

end Snapshot

end Inflight
