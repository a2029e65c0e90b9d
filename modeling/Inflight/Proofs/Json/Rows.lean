import Inflight.Proofs.Json.Schema

/-!
# Rows whose values are read or refused alike

A row is read when each of its items is, and a table when each of its values is
(`Json.Reader.items_of_forall₂`, `Json.Reader.members_of_forall₂`).  Where all that can
go wrong with a value is one and the same problem (`Json.Reader.Settles`), a row with a
value that is refused is refused for that problem, whatever stands before it.

In turn, what a reader takes says what it was given.  A row or a table that is read was
closed, and each of its values was read (`Json.Reader.items_eq_ok`,
`Json.Reader.members_eq_ok`); a record that is read gives no field twice, and each that
it gives was read (`Json.Shape.readMembers_eq_ok`, `Json.Shape.readItems_eq_ok`).
-/

namespace Inflight

set_option autoImplicit false

/-- A row is related to another item by item, or one of its items is related to nothing. -/
theorem forall₂_or_unrelated {α β : Type} (related : α → β → Prop) (items : List α) :
    (∃ others, List.Forall₂ related items others) ∨
      ∃ item ∈ items, ∀ other, ¬related item other := by
  induction items with
  | nil => exact .inl ⟨[], .nil⟩
  | cons item rest ih =>
    by_cases here : ∃ other, related item other
    · obtain ⟨other, here⟩ := here
      rcases ih with ⟨others, later⟩ | ⟨lone, member, unrelated⟩
      · exact .inl ⟨other :: others, .cons here later⟩
      · exact .inr ⟨lone, List.mem_cons_of_mem _ member, unrelated⟩
    · exact .inr ⟨item, List.mem_cons_self, not_exists.mp here⟩

/-! ## Rows and tables -/

namespace Json

namespace Reader

variable {α : Type} {reader : Reader α} {levels : Nat} {problem : Problem}

/-- The value is read, or refused with the one problem. -/
def Settles (reader : Reader α) (levels : Nat) (problem : Problem) (node : Node) : Prop :=
  (∃ value, reader levels node = .ok value) ∨ reader levels node = .error problem

theorem Settles.map {β : Type} {node : Node} (settles : reader.Settles levels problem node)
    (store : α → β) : (∃ stored, (reader levels node).map store = .ok stored) ∨
      (reader levels node).map store = .error problem := by
  rcases settles with ⟨value, read⟩ | refused
  · rw [read]
    exact .inl ⟨store value, rfl⟩
  · rw [refused]
    exact .inr rfl

theorem items_of_forall₂ {items : List Node} {values : List α}
    (read : List.Forall₂ (fun item value => reader levels item = .ok value) items values) :
    reader.items levels (.ofList items) = .ok values := by
  induction read with
  | nil => rfl
  | cons first _ ih =>
    rw [Items.ofList, Reader.items, first]
    exact congrArg (Except.map _) ih

/-- A row is refused with one of its items. -/
theorem items_of_refused {items : List Node}
    (settled : ∀ item ∈ items, reader.Settles levels problem item)
    (refused : ∃ item ∈ items, reader levels item = .error problem) :
    reader.items levels (.ofList items) = .error problem := by
  induction items with
  | nil => simp at refused
  | cons item rest ih =>
    rw [Items.ofList, Reader.items]
    rcases settled item List.mem_cons_self with ⟨value, read⟩ | here
    · have later : ∃ item ∈ rest, reader levels item = .error problem := by
        simpa [read] using refused
      have ahead := ih (fun item member => settled item (List.mem_cons_of_mem _ member)) later
      rw [read]
      exact congrArg (Except.map _) ahead
    · rw [here]

theorem members_of_forall₂ {entries : List (String × Node)} {stored : List (String × α)}
    (read : List.Forall₂ (fun entry value => entry.1 = value.1 ∧
      reader levels entry.2 = .ok value.2) entries stored) :
    ∀ table : Table α, reader.members levels table (.ofList entries) =
      .ok (stored.foldl (fun table entry => table.insert entry.1 entry.2) table) := by
  induction read with
  | nil => exact fun _ => rfl
  | @cons entry value _ _ first _ ih =>
    intro table
    obtain ⟨name, node⟩ := entry
    obtain ⟨rfl, read⟩ := first
    rw [Members.ofList, Reader.members]
    simp only [read]
    exact ih (table.insert value.1 value.2)

/-- A table is refused with one of its values. -/
theorem members_of_refused {entries : List (String × Node)}
    (settled : ∀ entry ∈ entries, reader.Settles levels problem entry.2)
    (refused : ∃ entry ∈ entries, reader levels entry.2 = .error problem) :
    ∀ table : Table α, reader.members levels table (.ofList entries) = .error problem := by
  induction entries with
  | nil => simp at refused
  | cons entry rest ih =>
    intro table
    obtain ⟨name, node⟩ := entry
    rw [Members.ofList, Reader.members]
    rcases settled (name, node) List.mem_cons_self with ⟨value, read⟩ | here
    · have later : ∃ entry ∈ rest, reader levels entry.2 = .error problem := by
        simpa [read] using refused
      have ahead := ih (fun entry member => settled entry (List.mem_cons_of_mem _ member)) later
      simp only [read]
      exact ahead (table.insert name value)
    · simp only [here]

end Reader

/-! ## What readers take -/

section Taken

variable {α : Type} {levels : Nat}

theorem exists_of_map_eq_ok {β : Type} {outcome : Except Problem α} {store : α → β} {stored : β}
    (read : outcome.map store = .ok stored) : ∃ value, outcome = .ok value := by
  cases outcome with
  | error problem => cases read
  | ok value => exact ⟨value, rfl⟩

theorem Reader.ofText_eq_ok {reader : Reader α} {text : String} {value : α}
    (read : reader.ofText text = .ok value) :
    ∃ root, Document.ofText text = ⟨root, true⟩ ∧ reader maxLevels root = .ok value := by
  simp only [Reader.ofText] at read
  cases rootRead : reader maxLevels (Document.ofText text).root with
  | error problem =>
    rw [rootRead] at read
    cases read
  | ok given =>
    rw [rootRead] at read
    cases complete : (Document.ofText text).complete with
    | false =>
      rw [complete] at read
      cases read
    | true =>
      rw [complete] at read
      cases read
      refine ⟨_, ?_, rootRead⟩
      rw [← complete]

theorem Reader.items_eq_ok {reader : Reader α} : ∀ {items : Items} {values : List α},
    reader.items levels items = .ok values →
      ∃ nodes, items = .ofList nodes ∧ ∀ node ∈ nodes, ∃ value, reader levels node = .ok value
  | .closed, _, _ => ⟨[], rfl, fun _ member => absurd member List.not_mem_nil⟩
  | .cons item rest, values, read => by
    rw [Reader.items] at read
    cases first : reader levels item with
    | error problem =>
      rw [first] at read
      cases read
    | ok value =>
      rw [first] at read
      obtain ⟨others, later⟩ := exists_of_map_eq_ok read
      obtain ⟨nodes, rfl, each⟩ := Reader.items_eq_ok later
      exact ⟨item :: nodes, rfl, List.forall_mem_cons.mpr ⟨⟨value, first⟩, each⟩⟩

theorem Reader.members_eq_ok {reader : Reader α} : ∀ {members : Members} {table result : Table α},
    reader.members levels table members = .ok result →
      ∃ entries, members = .ofList entries ∧
        ∀ entry ∈ entries, ∃ value, reader levels entry.2 = .ok value
  | .closed, _, _, _ => ⟨[], rfl, fun _ member => absurd member List.not_mem_nil⟩
  | .cons (some key) item rest, table, result, read => by
    rw [Reader.members] at read
    cases first : reader levels item with
    | error problem =>
      rw [first] at read
      cases read
    | ok value =>
      rw [first] at read
      obtain ⟨entries, rfl, each⟩ := Reader.members_eq_ok read
      exact ⟨(key, item) :: entries, rfl, List.forall_mem_cons.mpr ⟨⟨value, first⟩, each⟩⟩

theorem Reader.table_eq_ok {reader : Reader α} {node : Node} {result : Table α}
    (read : reader.table (levels + 1) node = .ok result) :
    ∃ entries, node = .object (.ofList entries) ∧
      ∀ entry ∈ entries, ∃ value, reader levels entry.2 = .ok value := by
  cases node with
  | object members =>
    obtain ⟨entries, rfl, each⟩ := Reader.members_eq_ok read
    exact ⟨entries, rfl, each⟩
  | malformed | null | boolean _ | number _ | text _ | array _ => cases read

theorem Reader.list_eq_ok {reader : Reader α} {node : Node} {result : List α}
    (read : reader.list (levels + 1) node = .ok result) :
    ∃ nodes, node = .array (.ofList nodes) ∧
      ∀ node ∈ nodes, ∃ value, reader levels node = .ok value := by
  cases node with
  | array items =>
    obtain ⟨nodes, rfl, each⟩ := Reader.items_eq_ok read
    exact ⟨nodes, rfl, each⟩
  | malformed | null | boolean _ | number _ | text _ | object _ => cases read

/-- The members that a record takes: each of its fields at most once, and read. -/
theorem Shape.readMembers_eq_ok {shape : Shape α} : ∀ {members : Members} {seen : List String}
    {record result : α}, shape.readMembers levels seen record members = .ok result →
      ∃ entries, members = .ofList entries ∧
        entries.Pairwise (fun early late => ∀ field, shape.field? early.1 = some field →
          early.1 ≠ late.1) ∧
        (∀ entry ∈ entries, shape.field? entry.1 = none → entry.2.wellFormed = true) ∧
        ∀ entry ∈ entries, ∀ field, shape.field? entry.1 = some field →
          entry.1 ∉ seen ∧ ∃ store, field.read levels entry.2 = .ok store
  | .closed, _, _, _, _ =>
    ⟨[], rfl, .nil, fun _ member => absurd member List.not_mem_nil,
      fun _ member => absurd member List.not_mem_nil⟩
  | .cons (some key) value rest, seen, record, result, read => by
    rw [Shape.readMembers] at read
    cases found : shape.field? key with
    | none =>
      rw [found] at read
      by_cases formed : value.wellFormed = true
      · simp only [if_pos formed] at read
        obtain ⟨entries, rfl, once, others, fields⟩ := Shape.readMembers_eq_ok read
        refine ⟨(key, value) :: entries, rfl, .cons ?_ once, ?_, ?_⟩
        · intro entry _ field given
          cases found.symm.trans given
        · exact List.forall_mem_cons.mpr ⟨fun _ => formed, others⟩
        · refine List.forall_mem_cons.mpr ⟨fun field given => ?_, fields⟩
          cases found.symm.trans given
      · simp only [if_neg formed] at read
        cases read
    | some field =>
      rw [found] at read
      by_cases known : seen.contains key = true
      · simp only [if_pos known] at read
        cases read
      · simp only [if_neg known] at read
        cases stored : field.read levels value with
        | error problem =>
          rw [stored] at read
          cases read
        | ok store =>
          rw [stored] at read
          obtain ⟨entries, rfl, once, others, fields⟩ := Shape.readMembers_eq_ok read
          refine ⟨(key, value) :: entries, rfl, .cons ?_ once, ?_, ?_⟩
          · intro entry member other _ same
            have sameKey : key = entry.1 := same
            have fresh := (fields entry member field (sameKey ▸ found)).1
            exact fresh (sameKey ▸ List.mem_cons_self)
          · refine List.forall_mem_cons.mpr ⟨fun unknown => ?_, others⟩
            cases found.symm.trans unknown
          · refine List.forall_mem_cons.mpr
              ⟨fun other given => ?_, fun entry member other given => ?_⟩
            · cases found.symm.trans given
              exact ⟨by simpa using known, store, stored⟩
            · obtain ⟨fresh, read⟩ := fields entry member other given
              exact ⟨fun before => fresh (List.mem_cons_of_mem _ before), read⟩

/-- The items that a record takes: no more than it has fields, each read in its place. -/
theorem Shape.readItems_eq_ok {shape : Shape α} : ∀ {fields : List (Field α)} {position : Nat}
    {record result : α} {items : Items},
    shape.readItems levels position fields record items = .ok result →
      ∃ nodes, items = .ofList nodes ∧ nodes.length ≤ fields.length ∧
        ∀ (place : Nat) (field : Field α) (node : Node), fields[place]? = some field →
          nodes[place]? = some node → ∃ store, field.read levels node = .ok store
  | _, _, _, _, .closed, _ => ⟨[], rfl, Nat.zero_le _, by simp⟩
  | [], _, _, _, .broken, read => by cases read
  | [], _, _, _, .cons _ _, read => by cases read
  | field :: fields, position, record, result, .cons item rest, read => by
    rw [Shape.readItems] at read
    cases stored : field.read levels item with
    | error problem =>
      rw [stored] at read
      cases read
    | ok store =>
      rw [stored] at read
      obtain ⟨nodes, rfl, short, each⟩ := Shape.readItems_eq_ok read
      refine ⟨item :: nodes, rfl, Nat.succ_le_succ short, fun place other node isField given => ?_⟩
      cases place with
      | zero =>
        cases isField
        cases given
        exact ⟨store, stored⟩
      | succ place => exact each place other node isField given

end Taken

end Json

end Inflight
