import Inflight.Proofs.Json.Rows
import Inflight.Proofs.Snapshot.Slots

/-!
# Snapshots read from documents

A document gives the globals and the objects of a snapshot by name or by place
(`Snapshot.Laid`), each of them as an object of values.  Where the values are slots the
snapshot holds these slots under the same names (`Snapshot.read_of_decode`), and where
one of them is not the document is refused for that, wherever it stands
(`Snapshot.read_of_misfits`).  For a text that is so laid out this says which slot a value
becomes, and that it does not matter which variant of a slot is tried first
(`Snapshot.ofText_slots`).
-/

namespace Inflight

set_option autoImplicit false

open Json (Document Field Items Kind Members Node Problem Reader Shape maxLevels)

/-! ## Parts that may be left out -/

/-- The value is the document of the row; an empty row may be left out. -/
def Stands {α : Type} (document : List α → Node) (row : List α) (value? : Option Node) : Prop :=
  value?.elim (row = []) (· = document row)

namespace Stands

variable {α β : Type} {document : List α → Node} {row : List α} {value? : Option Node}
  {reader : Reader β} {levels : Nat}

theorem eq_of_some {value : Node} (stands : Stands document row value?)
    (given : value? = some value) : value = document row := by
  rw [given] at stands
  exact stands

theorem getD_read {empty result : β} (stands : Stands document row value?)
    (read : reader levels (document row) = .ok result) (blank : row = [] → result = empty) :
    (value?.bind fun node => (reader levels node).toOption).getD empty = result := by
  cases value? with
  | none => exact (blank stands).symm
  | some value =>
    rw [stands.eq_of_some rfl, Option.bind_some, read]
    rfl

/-- A row that is refused is not left out. -/
theorem eq_some_of_refused {problem : Problem} {empty : β} (stands : Stands document row value?)
    (blank : reader levels (document []) = .ok empty)
    (refused : reader levels (document row) = .error problem) :
    value? = some (document row) := by
  cases value? with
  | none =>
    rw [Stands, Option.elim_none] at stands
    rw [stands, blank] at refused
    cases refused
  | some value => rw [stands.eq_of_some rfl]

end Stands

/-! ## Slots in their places -/

namespace Slot

variable {levels : Nat} {node : Node}

theorem reader_of_fits {variant : Variant} {slot : Slot}
    (representable : node.representable levels = true) (fits : Fits variant node slot) :
    reader levels node = .ok slot := by
  have decoded := (decode?_eq_some_iff representable).mpr fits
  exact reader_of_ofNode? representable (ofNode?_eq_some_iff.mpr ⟨variant, decoded⟩)

/-- A value that fits no variant is refused. -/
theorem reader_of_misfits (representable : node.representable levels = true)
    (misfits : ∀ variant slot, ¬Fits variant node slot) :
    reader levels node = .error .noSlot := by
  have noSlot : ofNode? node = none := by
    refine Option.eq_none_iff_forall_ne_some.mpr fun slot found => ?_
    obtain ⟨variant, decoded⟩ := ofNode?_eq_some_iff.mp found
    exact misfits variant slot ((decode?_eq_some_iff representable).mp decoded)
  rw [reader, if_pos representable, noSlot]

theorem reader_settles (representable : node.representable levels = true) :
    reader.Settles levels .noSlot node := by
  rw [Reader.Settles, reader, if_pos representable]
  cases ofNode? node with
  | none => exact .inr rfl
  | some slot => exact .inl ⟨slot, rfl⟩

end Slot

namespace Fields

/-- The document of a table with the given values. -/
def node (entries : List (String × Node)) : Node :=
  .object (.ofList entries)

/-- Each value fits a variant of the slot that stands for it, under the same name. -/
def Decode (entries : List (String × Node)) (slots : List (String × Slot)) : Prop :=
  List.Forall₂ (fun entry slot => entry.1 = slot.1 ∧
    ∃ variant, Slot.Fits variant entry.2 slot.2) entries slots

/-- Each value can be represented below the given number of levels. -/
abbrev Within (levels : Nat) (entries : List (String × Node)) : Prop :=
  ∀ entry ∈ entries, entry.2.representable levels = true

variable {levels : Nat} {entries : List (String × Node)}

theorem decode_or_misfits (entries : List (String × Node)) :
    (∃ slots, Decode entries slots) ∨
      ∃ entry ∈ entries, ∀ variant slot, ¬Slot.Fits variant entry.2 slot := by
  rcases forall₂_or_unrelated _ entries with decode | ⟨entry, member, unrelated⟩
  · exact .inl decode
  · refine .inr ⟨entry, member, fun variant slot fits => ?_⟩
    exact unrelated (entry.1, slot) ⟨rfl, variant, fits⟩

variable (within : Within levels entries)
include within

theorem read_node {slots : List (String × Slot)} (decode : Decode entries slots) :
    Slot.reader.table (levels + 1) (node entries) = .ok (Table.ofList slots) := by
  refine Reader.members_of_forall₂ ?_ Table.empty
  induction decode with
  | nil => exact .nil
  | cons first _ ih =>
    obtain ⟨here, later⟩ := List.forall_mem_cons.mp within
    obtain ⟨same, _, fits⟩ := first
    exact .cons ⟨same, Slot.reader_of_fits here fits⟩ (ih later)

theorem read_node_of_misfits
    (misfits : ∃ entry ∈ entries, ∀ variant slot, ¬Slot.Fits variant entry.2 slot) :
    Slot.reader.table (levels + 1) (node entries) = .error .noSlot := by
  refine Reader.members_of_refused (fun entry member => ?_) ?_ Table.empty
  · exact Slot.reader_settles (within entry member)
  · obtain ⟨entry, member, misfits⟩ := misfits
    exact ⟨entry, member, Slot.reader_of_misfits (within entry member) misfits⟩

theorem settles_node : Slot.reader.table.Settles (levels + 1) .noSlot (node entries) := by
  rcases decode_or_misfits entries with ⟨slots, decode⟩ | misfits
  · exact .inl ⟨_, read_node within decode⟩
  · exact .inr (read_node_of_misfits within misfits)

end Fields

namespace Snapshot

/-- The document of a row of objects. -/
def rows (objects : List (List (String × Node))) : Node :=
  .array (.ofList (objects.map Fields.node))

/-- The document gives the globals and the objects of a snapshot as these rows of values.  What
is left out is empty.  No other document is read as a snapshot (`Snapshot.ofText_isOk_iff`). -/
inductive Laid (globals : List (String × Node)) (objects : List (List (String × Node))) :
    Node → Prop where
  /-- By name, in any order, at most once each and with other members between. -/
  | named {entries : List (String × Node)} :
      entries.Pairwise (fun early late => early.1 ∈ ["globals", "objects"] → early.1 ≠ late.1) →
      (∀ entry ∈ entries, entry.1 ∉ ["globals", "objects"] → entry.2.wellFormed = true) →
      Stands Fields.node globals (entries.lookup "globals") →
      Stands rows objects (entries.lookup "objects") →
        Laid globals objects (.object (.ofList entries))
  /-- By place. -/
  | placed {items : List Node} :
      items.length ≤ 2 →
      Stands Fields.node globals items[0]? →
      Stands rows objects items[1]? →
        Laid globals objects (.array (.ofList items))

/-! ### Rows of objects -/

section Rows

variable {levels : Nat} {objects : List (List (String × Node))}
  (within : ∀ fields ∈ objects, Fields.Within levels fields)
include within

theorem read_rows {slots : List (List (String × Slot))}
    (decode : List.Forall₂ Fields.Decode objects slots) :
    Slot.reader.table.list (levels + 2) (rows objects) = .ok (slots.map Table.ofList) := by
  refine Reader.items_of_forall₂ ?_
  rw [List.forall₂_map_left_iff, List.forall₂_map_right_iff]
  induction decode with
  | nil => exact .nil
  | cons first _ ih =>
    obtain ⟨here, later⟩ := List.forall_mem_cons.mp within
    exact .cons (Fields.read_node here first) (ih later)

theorem read_rows_of_misfits
    (misfits : ∃ fields ∈ objects, ∃ entry ∈ fields, ∀ variant slot,
      ¬Slot.Fits variant entry.2 slot) :
    Slot.reader.table.list (levels + 2) (rows objects) = .error .noSlot := by
  refine Reader.items_of_refused ?_ ?_
  · rw [List.forall_mem_map]
    exact fun fields member => Fields.settles_node (within fields member)
  · obtain ⟨fields, member, misfits⟩ := misfits
    exact ⟨_, List.mem_map_of_mem member,
      Fields.read_node_of_misfits (within fields member) misfits⟩

theorem settles_rows : Slot.reader.table.list.Settles (levels + 2) .noSlot (rows objects) := by
  rcases forall₂_or_unrelated Fields.Decode objects with ⟨slots, decode⟩ | ⟨fields, member, lone⟩
  · exact .inl ⟨_, read_rows within decode⟩
  · have misfits := (Fields.decode_or_misfits fields).resolve_left fun ⟨slots, decode⟩ =>
      lone slots decode
    exact .inr (read_rows_of_misfits within ⟨fields, member, misfits⟩)

end Rows

/-! ### Whole snapshots -/

/-- A snapshot with the globals and objects that are given and can be read. -/
def given (levels : Nat) (snapshot : Snapshot) (value? : String → Option Node) : Snapshot where
  globals := ((value? "globals").bind fun node =>
    (Slot.reader.table levels node).toOption).getD snapshot.globals
  objects := (((value? "objects").bind fun node =>
    (Slot.reader.table.list levels node).toOption).getD snapshot.objects.toList).toArray

/-- Globals and objects that can be read. -/
def kinds (levels : Nat) : List (String × Kind) :=
  [("globals", .such fun node => ∃ globals, Slot.reader.table levels node = .ok globals),
    ("objects", .such fun node => ∃ objects, Slot.reader.table.list levels node = .ok objects)]

theorem takes (levels : Nat) : shape.Takes levels (kinds levels) (given levels) where
  nothing := fun _ => rfl
  alike := by
    intro snapshot value? other? same
    simp only [shape, List.forall_mem_cons, Field.defaulted] at same
    simp only [given, same]
  fields := by
    refine .cons (.defaulted ?_) (.cons (.defaulted ?_) .nil)
    all_goals
      intro node admitted
      cases admitted with
      | such reads =>
        obtain ⟨value, read⟩ := reads
        refine ⟨value, read, fun {snapshot value?} absent => ?_⟩
        simp [given, read, absent, Except.toOption]

theorem exists_field?_iff {name : String} :
    (∃ field, shape.field? name = some field) ↔ name ∈ ["globals", "objects"] := by
  constructor
  · rintro ⟨field, found⟩
    obtain ⟨member, rfl⟩ := Shape.of_field? found
    exact List.mem_map_of_mem (f := Field.name) member
  · intro known
    rw [← Option.isSome_iff_exists, Option.isSome_iff_ne_none]
    intro unknown
    obtain ⟨field, listed, same⟩ := List.mem_map.mp
      (show name ∈ shape.fields.map Field.name from known)
    exact Shape.ne_of_field?_eq_none unknown field listed same

theorem lookup_of_named {entries : List (String × Node)}
    (once : entries.Pairwise fun early late =>
      early.1 ∈ ["globals", "objects"] → early.1 ≠ late.1)
    {name : String} {value : Node} (known : name ∈ ["globals", "objects"])
    (given : (name, value) ∈ entries) : entries.lookup name = some value := by
  refine Json.lookup_of_mem (once.imp fun {early late} apart same => ?_) given
  exact apart (same ▸ known)

/-- A document in which every value fits a variant is read as the snapshot of its slots. -/
theorem read_of_decode {levels : Nat} {globals : List (String × Node)}
    {objects : List (List (String × Node))} {root : Node} (laid : Laid globals objects root)
    (globalsWithin : Fields.Within (levels + 1) globals)
    (objectsWithin : ∀ fields ∈ objects, Fields.Within levels fields)
    {slots : List (String × Slot)} {fields : List (List (String × Slot))}
    (decodeGlobals : Fields.Decode globals slots)
    (decodeObjects : List.Forall₂ Fields.Decode objects fields) :
    shape.read (levels + 3) root =
      .ok { globals := .ofList slots, objects := (fields.map Table.ofList).toArray } := by
  have readGlobals := Fields.read_node globalsWithin decodeGlobals
  have readObjects := read_rows objectsWithin decodeObjects
  cases laid with
  | @named entries once others isGlobals isObjects =>
    have admitted : (Kind.record (kinds (levels + 2))).Admits (.object (.ofList entries)) := by
      refine .record once ?_ fun name value given => others (name, value) given
      intro name kind value ofKind given
      have known : name ∈ ["globals", "objects"] :=
        List.mem_map_of_mem (f := Prod.fst) ofKind
      have found := lookup_of_named once known given
      simp only [kinds, List.mem_cons, Prod.mk.injEq, List.not_mem_nil, or_false] at ofKind
      rcases ofKind with ⟨rfl, rfl⟩ | ⟨rfl, rfl⟩
      · exact .such ⟨_, isGlobals.eq_of_some found ▸ readGlobals⟩
      · exact .such ⟨_, isObjects.eq_of_some found ▸ readObjects⟩
    have theirGlobals := isGlobals.getD_read readGlobals fun empty => by
      cases empty
      cases decodeGlobals
      rfl
    have theirObjects := isObjects.getD_read readObjects fun empty => by
      cases empty
      cases decodeObjects
      rfl
    rw [(takes (levels + 2)).read admitted]
    simp only [given, Node.at?_ofList, ← theirGlobals, ← theirObjects]
    rfl
  | @placed items few isGlobals isObjects =>
    match items with
    | [] =>
      cases isGlobals
      cases isObjects
      cases decodeGlobals
      cases decodeObjects
      rfl
    | [first] =>
      cases isGlobals
      cases isObjects
      cases decodeObjects
      exact Shape.readItems_of_read readGlobals
    | [first, second] =>
      cases isGlobals
      cases isObjects
      exact (Shape.readItems_of_read readGlobals).trans (Shape.readItems_of_read readObjects)

/-- A document in which a value fits no variant is refused for it. -/
theorem read_of_misfits {levels : Nat} {globals : List (String × Node)}
    {objects : List (List (String × Node))} {root : Node} (laid : Laid globals objects root)
    (globalsWithin : Fields.Within (levels + 1) globals)
    (objectsWithin : ∀ fields ∈ objects, Fields.Within levels fields)
    (misfits : ∃ entry ∈ globals ++ objects.flatten, ∀ variant slot,
      ¬Slot.Fits variant entry.2 slot) :
    shape.read (levels + 3) root = .error .noSlot := by
  have settledGlobals := Fields.settles_node globalsWithin
  have settledObjects := settles_rows objectsWithin
  have refused : Slot.reader.table (levels + 2) (Fields.node globals) = .error .noSlot ∨
      Slot.reader.table.list (levels + 2) (rows objects) = .error .noSlot := by
    obtain ⟨entry, member, lone⟩ := misfits
    rcases List.mem_append.mp member with ofGlobals | ofObjects
    · exact .inl (Fields.read_node_of_misfits globalsWithin ⟨entry, ofGlobals, lone⟩)
    · obtain ⟨fields, listed, ofFields⟩ := List.mem_flatten.mp ofObjects
      exact .inr (read_rows_of_misfits objectsWithin ⟨fields, listed, entry, ofFields, lone⟩)
  cases laid with
  | @named entries once others isGlobals isObjects =>
    refine Shape.readMembers_of_refused (fun _ _ _ _ => List.not_mem_nil)
      (once.imp fun apart field found => apart (exists_field?_iff.mp ⟨field, found⟩)) ?_ ?_ ?_
    · intro entry member unknown
      refine others entry member fun known => ?_
      obtain ⟨field, found⟩ := exists_field?_iff.mpr known
      cases unknown.symm.trans found
    · intro entry member field found
      have first := lookup_of_named once (exists_field?_iff.mp ⟨field, found⟩) member
      obtain ⟨listed, same⟩ := Shape.of_field? found
      simp only [shape, List.mem_cons, List.not_mem_nil, or_false] at listed
      rcases listed with rfl | rfl
      · rw [← same] at first
        exact (isGlobals.eq_of_some first ▸ settledGlobals).map _
      · rw [← same] at first
        exact (isObjects.eq_of_some first ▸ settledObjects).map _
    · rcases refused with error | error
      · have given := isGlobals.eq_some_of_refused rfl error
        obtain ⟨before, after, rfl, _⟩ := List.lookup_eq_some_iff.mp given
        refine ⟨("globals", Fields.node globals), by simp, _, rfl, ?_⟩
        exact congrArg (Except.map _) error
      · have given := isObjects.eq_some_of_refused rfl error
        obtain ⟨before, after, rfl, _⟩ := List.lookup_eq_some_iff.mp given
        refine ⟨("objects", rows objects), by simp, _, rfl, ?_⟩
        exact congrArg (Except.map _) error
  | @placed items few isGlobals isObjects =>
    match items with
    | [] =>
      cases isGlobals
      cases isObjects
      simp at misfits
    | [first] =>
      cases isGlobals
      cases isObjects
      rcases refused with refused | refused
      · exact Shape.readItems_of_refused refused
      · cases refused
    | [first, second] =>
      cases isGlobals
      cases isObjects
      rcases settledGlobals with ⟨given, read⟩ | refusedGlobals
      · have refusedObjects := refused.resolve_left fun error => by cases read.symm.trans error
        exact (Shape.readItems_of_read read).trans (Shape.readItems_of_refused refusedObjects)
      · exact Shape.readItems_of_refused refusedGlobals

/-- **Slots are told by their shape.**  In a document that is laid out as a snapshot, each value
stands for the slot of the variant that it fits, whichever variant is tried first, and no value
fits two.  A value that fits none is refused. -/
theorem ofText_slots {text : String} {root : Node} {globals : List (String × Node)}
    {objects : List (List (String × Node))} (document : Document.ofText text = ⟨root, true⟩)
    (laid : Laid globals objects root)
    (globalsWithin : Fields.Within (maxLevels - 2) globals)
    (objectsWithin : ∀ fields ∈ objects, Fields.Within (maxLevels - 3) fields) :
    (∀ {slots : List (String × Slot)} {fields : List (List (String × Slot))},
      Fields.Decode globals slots → List.Forall₂ Fields.Decode objects fields →
        ofText text =
          .ok { globals := .ofList slots, objects := (fields.map Table.ofList).toArray }) ∧
      ((∃ entry ∈ globals ++ objects.flatten, ∀ variant slot, ¬Slot.Fits variant entry.2 slot) →
        ofText text = .error (.document .noSlot)) ∧
      ∀ entry ∈ globals ++ objects.flatten,
        (∀ {first second : Slot.Variant} {one other : Slot}, Slot.Fits first entry.2 one →
          Slot.Fits second entry.2 other → first = second ∧ one = other) ∧
        ∀ {order : List Slot.Variant}, order.Perm Slot.Variant.all → ∀ {slot : Slot},
          order.findSome? (fun variant => variant.decode? entry.2) = some slot ↔
            ∃ variant, Slot.Fits variant entry.2 slot := by
  have levels : maxLevels = 124 + 3 := rfl
  refine ⟨fun decodeGlobals decodeObjects => ?_, fun misfits => ?_, fun entry member => ?_⟩
  · rw [ofText, Reader.ofText_of_document document, levels,
      read_of_decode laid globalsWithin objectsWithin decodeGlobals decodeObjects]
    rfl
  · rw [ofText, Reader.ofText_of_document document, levels,
      read_of_misfits laid globalsWithin objectsWithin misfits]
    rfl
  · refine ⟨fun fits also => fits.unique also, fun {order} all {slot} => ?_⟩
    have representable : ∃ levels, entry.2.representable levels = true := by
      rcases List.mem_append.mp member with ofGlobals | ofObjects
      · exact ⟨_, globalsWithin entry ofGlobals⟩
      · obtain ⟨fields, listed, ofFields⟩ := List.mem_flatten.mp ofObjects
        exact ⟨_, objectsWithin fields listed entry ofFields⟩
    obtain ⟨_, representable⟩ := representable
    rw [Slot.findSome?_decode? all, Slot.ofNode?_eq_some_iff]
    exact exists_congr fun variant => Slot.decode?_eq_some_iff representable

namespace Mixed

/-- A reference, with a member before its mark, and the greatest number. -/
def globals : List (String × Node) :=
  [("r", .object (.ofList
      ([("k", .array .closed)] ++ ("ref", .number { negative := false, whole := ['0'] }) :: []))),
    ("n", .number { negative := false, whole := "18446744073709551615".toList })]

/-- One object, with a truth value and null. -/
def objects : List (List (String × Node)) :=
  [[("a", .boolean true), ("b", .null)]]

/-- The objects before the globals, and a member between that is no part of a snapshot. -/
def root : Node :=
  .object (.ofList
    [("objects", rows objects), ("x", .number { negative := true, whole := ['0'] }),
      ("globals", Fields.node globals)])

theorem decode_globals :
    Fields.Decode globals [("r", .ref ⟨0⟩), ("n", .scalar 18446744073709551615)] := by
  have zero : Node.word? (.number { negative := false, whole := ['0'] }) = some 0 := by decide
  have greatest :
      Node.word? (.number { negative := false, whole := "18446744073709551615".toList }) =
        some 18446744073709551615 := by decide
  exact .cons ⟨rfl, .ref, .ref (by simp) zero⟩ (.cons ⟨rfl, .scalar, .scalar greatest⟩ .nil)

theorem decode_objects :
    List.Forall₂ Fields.Decode objects [[("a", .flag true), ("b", .null)]] :=
  .cons (.cons ⟨rfl, .flag, .flag true⟩ (.cons ⟨rfl, .null, .null⟩ .nil)) .nil

theorem root_laid : Laid globals objects root :=
  .named (by simp) (by simp [Node.wellFormed]) rfl rfl

end Mixed

/-- All four variants, and the order in which a snapshot is not written. -/
theorem ofText_slots_mixed :
    ofText ("\x7b\"objects\":[\x7b\"a\":true,\"b\":null\x7d],\"x\":-0," ++
        "\"globals\":\x7b\"r\":\x7b\"k\":[],\"ref\":0\x7d,\"n\":18446744073709551615\x7d\x7d") =
      .ok
        { globals := .ofList [("r", .ref ⟨0⟩), ("n", .scalar 18446744073709551615)]
          objects := #[.ofList [("a", .flag true), ("b", .null)]] } :=
  (@ofText_slots _ Mixed.root _ _ (by decide +kernel) Mixed.root_laid (by decide) (by decide)).1
    Mixed.decode_globals Mixed.decode_objects

/-- An array with a number in it is no slot, where the number alone is one. -/
theorem ofText_array :
    ofText "\x7b\"globals\":\x7b\"a\":[5]\x7d,\"objects\":[\x7b\"a\":7\x7d]\x7d" =
        .error (.document .noSlot) ∧
      ofText "\x7b\"globals\":\x7b\"a\":5\x7d,\"objects\":[\x7b\"a\":7\x7d]\x7d" =
        .ok
          { globals := .ofList [("a", .scalar 5)]
            objects := #[.ofList [("a", .scalar 7)]] } := by
  constructor
  · decide +kernel
  · decide +kernel

end Snapshot

end Inflight
