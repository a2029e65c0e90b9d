import Inflight.Proofs.Json.Spelling

/-!
# Typed values read back

What a typed reader gets from the tree of a document is told by what the reader
of each part gets from the tree of that part.  A word comes back as it was
written (`Json.Reader.word_document`).  A row comes back when each of its items
does, and so does a table: its entries were written in the order of their names,
so none of them takes the room of another (`Json.Reader.table_document`).  A
record that is written as an object, with all its fields in their order, is read
as if it were written as an array (`Json.Shape.read_inOrder`), and an array one
field after the other (`Json.Shape.readItems_defaulted`).
-/

namespace Inflight

set_option autoImplicit false

/-! ## Tables from their entries -/

namespace Table

variable {α : Type}

/-- An entry whose name comes after all others goes to the end. -/
theorem insertEntry_of_last {name : String} (value : α) {entries : List (String × α)}
    (last : ∀ entry ∈ entries, entry.1 < name) :
    insertEntry name value entries = entries ++ [(name, value)] := by
  induction entries with
  | nil => rfl
  | cons head rest ih =>
    have before : head.1 < name := last head List.mem_cons_self
    have notAfter : ¬name < head.1 := String.lt_asymm before
    have differ : name ≠ head.1 := fun same => String.lt_irrefl name (same ▸ before)
    rw [insertEntry, if_neg notAfter, if_neg differ,
      ih fun entry member => last entry (List.mem_cons_of_mem _ member), List.cons_append]

theorem entries_insert_of_last {table : Table α} {name : String} (value : α)
    (last : ∀ entry ∈ table.entries, entry.1 < name) :
    (table.insert name value).entries = table.entries ++ [(name, value)] :=
  insertEntry_of_last value last

end Table

namespace Json

variable {α : Type}

/-! ## Scalars -/

namespace Reader

theorem word_document (wanted : String) (levels : Nat) (word : UInt64) :
    Reader.word wanted levels (Value.natural word.toNat).node = .ok word := by
  have small : word.toNat < Numeral.wordCount := word.toNat_lt
  simp [Reader.word, Value.node, Numeral.integer?_ofNat small]

theorem boolean_document (levels : Nat) (value : Bool) :
    Reader.boolean levels (Value.boolean value).node = .ok value := rfl

theorem optionalWord_document (wanted : String) (levels : Nat) (value : Option UInt64) :
    (Reader.word wanted).optional levels
      (value.elim Value.null fun word => .natural word.toNat).node = .ok value := by
  cases value with
  | none => rfl
  | some word =>
    have read := word_document wanted levels word
    simp only [Value.node] at read
    simp [Reader.optional, Value.node, read, Except.map]

/-! ## Rows and tables -/

variable {reader : Reader α} {document : α → Value} {levels : Nat}

theorem items_document {items : List α}
    (reads : ∀ item ∈ items, reader levels (document item).node = .ok item) :
    reader.items levels (Value.rowOf (items.map document)) = .ok items := by
  induction items with
  | nil => rfl
  | cons item items ih =>
    have here := reads item List.mem_cons_self
    have later := ih fun other member => reads other (List.mem_cons_of_mem _ member)
    rw [List.map_cons, Value.rowOf, Reader.items]
    simp only [here, later]
    rfl

/-- A row comes back when each of its items does. -/
theorem list_document {items : List α}
    (reads : ∀ item ∈ items, reader levels (document item).node = .ok item) :
    reader.list (levels + 1) (Value.array (items.map document)).node = .ok items := by
  rw [Value.node]
  exact items_document reads

/-- Entries that come after those of a table are put behind them. -/
theorem members_document {entries : List (String × α)} :
    ∀ {table whole : Table α}, whole.entries = table.entries ++ entries →
      (∀ entry ∈ entries, reader levels (document entry.2).node = .ok entry.2) →
      reader.members levels table
        (Value.membersOf (entries.map fun entry => (entry.1, document entry.2))) = .ok whole := by
  induction entries with
  | nil =>
    intro table whole parts _
    rw [List.append_nil] at parts
    rw [Table.ext parts]
    rfl
  | cons entry entries ih =>
    intro table whole parts reads
    obtain ⟨name, value⟩ := entry
    have sorted := parts ▸ whole.sorted
    have last : ∀ entry ∈ table.entries, entry.1 < name := fun entry member =>
      (List.pairwise_append.mp sorted).2.2 entry member (name, value) List.mem_cons_self
    have parts : whole.entries = (table.insert name value).entries ++ entries := by
      rw [parts, Table.entries_insert_of_last value last, List.append_assoc,
        List.singleton_append]
    have here := reads (name, value) List.mem_cons_self
    rw [List.map_cons, Value.membersOf, Reader.members]
    simp only [here]
    exact ih parts fun other member => reads other (List.mem_cons_of_mem _ member)

/-- A table comes back when each of its values does. -/
theorem table_document {table : Table α}
    (reads : ∀ entry ∈ table.entries, reader levels (document entry.2).node = .ok entry.2) :
    reader.table (levels + 1)
      (Value.object (table.entries.map fun entry => (entry.1, document entry.2))).node =
        .ok table := by
  rw [Value.node]
  exact members_document rfl reads

end Reader

/-! ## Records -/

namespace Shape

variable {shape : Shape α} {levels : Nat}

section Distinct

variable {front fields : List (Field α)} {field : Field α}

theorem name_notMem_front (distinct : (shape.fields.map Field.name).Nodup)
    (parts : shape.fields = front ++ field :: fields) : field.name ∉ front.map Field.name := by
  intro earlier
  rw [parts, List.map_append] at distinct
  exact (List.nodup_append.mp distinct).2.2 _ earlier _ List.mem_cons_self rfl

/-- A field is found by its name when no other field has it. -/
theorem field?_of_distinct (distinct : (shape.fields.map Field.name).Nodup)
    (parts : shape.fields = front ++ field :: fields) : shape.field? field.name = some field := by
  have others : ∀ other ∈ front, ¬(other.name == field.name) = true := by
    intro other member same
    exact name_notMem_front distinct parts (beq_iff_eq.mp same ▸ List.mem_map_of_mem member)
  rw [field?, parts, List.find?_append, List.find?_eq_none.mpr others, Option.none_or]
  exact List.find?_cons_of_pos (beq_self_eq_true _)

end Distinct

/-- Members that give the remaining fields in their order are read as items. -/
theorem readMembers_inOrder (distinct : (shape.fields.map Field.name).Nodup)
    {fields : List (Field α)} :
    ∀ {front : List (Field α)} {members : List (String × Value)} {seen : List String}
      {position : Nat} {record : α},
      shape.fields = front ++ fields → (∀ name, name ∈ seen ↔ name ∈ front.map Field.name) →
      members.map Prod.fst = fields.map Field.name →
      shape.readMembers levels seen record (Value.membersOf members) =
        shape.readItems levels position fields record (Value.rowOf (members.map Prod.snd)) := by
  induction fields with
  | nil =>
    intro front members seen position record parts given inOrder
    obtain rfl : members = [] := List.map_eq_nil_iff.mp inOrder
    have complete : shape.missing? seen = none := by
      refine List.find?_eq_none.mpr fun field member => ?_
      rw [parts, List.append_nil] at member
      have here : field.name ∈ seen := (given _).mpr (List.mem_map_of_mem member)
      simp [here]
    rw [List.map_nil, Value.membersOf, Value.rowOf, readMembers, readItems, complete]
  | cons field fields ih =>
    intro front members seen position record parts given inOrder
    obtain ⟨⟨key, value⟩, members, rfl, rfl, later⟩ := List.map_eq_cons_iff.mp inOrder
    have known := field?_of_distinct distinct parts
    have unseen : seen.contains field.name = false := by
      have fresh := name_notMem_front distinct parts
      rw [← given] at fresh
      simpa using fresh
    rw [List.map_cons, Value.membersOf, Value.rowOf, readMembers, readItems]
    simp only [known, unseen, Bool.false_eq_true, if_false]
    cases field.read levels value.node with
    | error problem => rfl
    | ok store =>
      have onward : shape.fields = (front ++ [field]) ++ fields := by
        rw [parts, List.append_assoc, List.singleton_append]
      refine ih onward ?_ later
      intro name
      rw [List.map_append, List.mem_append, List.mem_cons, given, or_comm, List.map_singleton,
        List.mem_singleton]

/-- A record that is written as an object, with all its fields in their order, is read as if it
were written as an array. -/
theorem read_inOrder (distinct : (shape.fields.map Field.name).Nodup)
    {members : List (String × Value)}
    (inOrder : members.map Prod.fst = shape.fields.map Field.name) :
    shape.read levels (Value.object members).node =
      shape.read levels (Value.array (members.map Prod.snd)).node := by
  rw [Value.node, Value.node]
  cases levels with
  | zero => rfl
  | succ levels =>
    have parts : shape.fields = [] ++ shape.fields := rfl
    exact readMembers_inOrder distinct parts (by simp) inOrder

theorem read_array (items : List Value) :
    shape.read (levels + 1) (Value.array items).node =
      shape.readItems levels 0 shape.fields shape.blank (Value.rowOf items) := by
  rw [Value.node, read]

/-- A value that its field takes is stored in the record. -/
theorem readItems_cons {position : Nat} {field : Field α} {fields : List (Field α)} {record : α}
    {value : Value} {rest : List Value} {store : α → α}
    (taken : field.read levels value.node = .ok store) :
    shape.readItems levels position (field :: fields) record (Value.rowOf (value :: rest)) =
      shape.readItems levels (position + 1) fields (store record) (Value.rowOf rest) := by
  rw [Value.rowOf, readItems, taken]

section Typed

variable {β : Type} {name : String} {reader : Reader β} {store : β → α → α} {position : Nat}
  {fields : List (Field α)} {record : α} {value : Value} {rest : List Value} {given : β}

/-- What its reader gets back of a value is stored, whether the field has a default or not. -/
theorem readItems_defaulted (read : reader levels value.node = .ok given) :
    shape.readItems levels position (.defaulted name reader store :: fields) record
        (Value.rowOf (value :: rest)) =
      shape.readItems levels (position + 1) fields (store given record) (Value.rowOf rest) := by
  apply readItems_cons
  simp only [Field.defaulted, read, Except.map]

theorem readItems_needed (read : reader levels value.node = .ok given) :
    shape.readItems levels position (.needed name reader store :: fields) record
        (Value.rowOf (value :: rest)) =
      shape.readItems levels (position + 1) fields (store given record) (Value.rowOf rest) := by
  apply readItems_cons
  simp only [Field.needed, read, Except.map]

end Typed

end Shape

end Json

end Inflight
