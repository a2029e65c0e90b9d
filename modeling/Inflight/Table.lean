import Inflight.Association

/-!
# Tables

A table gives values to finitely many names.  Its entries stand in strict
alphabetical order of their names, by code point, so a name occurs at most once
and two tables with the same entries are the same table.
-/

namespace Inflight

set_option autoImplicit false

universe u

/-- Strictly increasing names. -/
abbrev Table.Sorted {α : Type u} (entries : List (String × α)) : Prop :=
  entries.Pairwise fun first second => first.1 < second.1

/-- Finitely many named values in alphabetical order. -/
structure Table (α : Type u) where
  entries : List (String × α)
  sorted : Table.Sorted entries

namespace Table

variable {α : Type u}

@[ext]
theorem ext {first second : Table α} (same : first.entries = second.entries) : first = second := by
  cases first
  cases second
  cases same
  rfl

instance [DecidableEq α] : DecidableEq (Table α) := fun first second =>
  decidable_of_iff (first.entries = second.entries) ⟨ext, fun same => by rw [same]⟩

/-- The table without names. -/
def empty : Table α := ⟨[], List.Pairwise.nil⟩

instance : Inhabited (Table α) := ⟨empty⟩

/-- The value of a name. -/
def get? (table : Table α) (name : String) : Option α :=
  table.entries.lookup name

@[simp]
theorem get?_empty (name : String) : (empty : Table α).get? name = none := rfl

/-- The names, in order. -/
def names (table : Table α) : List String :=
  table.entries.map Prod.fst

/-! ## Insertion -/

/-- Puts an entry in its place, in the room of an entry of the same name. -/
def insertEntry (name : String) (value : α) : List (String × α) → List (String × α)
  | [] => [(name, value)]
  | entry :: rest =>
    if name < entry.1 then (name, value) :: entry :: rest
    else if name = entry.1 then (name, value) :: rest
    else entry :: insertEntry name value rest

theorem mem_insertEntry {name : String} {value : α} {entries : List (String × α)}
    {entry : String × α} (member : entry ∈ insertEntry name value entries) :
    entry = (name, value) ∨ entry ∈ entries := by
  induction entries with
  | nil => simpa [insertEntry] using member
  | cons head rest ih =>
    unfold insertEntry at member
    split at member
    · simpa using member
    · split at member
      · rcases List.mem_cons.mp member with same | later
        · exact .inl same
        · exact .inr (List.mem_cons_of_mem _ later)
      · rcases List.mem_cons.mp member with same | later
        · exact .inr (same ▸ List.mem_cons_self)
        · exact (ih later).imp_right (List.mem_cons_of_mem _)

theorem sorted_insertEntry (name : String) (value : α) {entries : List (String × α)}
    (sorted : Sorted entries) : Sorted (insertEntry name value entries) := by
  induction entries with
  | nil => simp [insertEntry]
  | cons head rest ih =>
    have below : ∀ entry ∈ rest, head.1 < entry.1 := fun _ => List.rel_of_pairwise_cons sorted
    have tail := List.Pairwise.of_cons sorted
    unfold insertEntry
    split
    · next less =>
      refine List.Pairwise.cons ?_ sorted
      intro entry member
      rcases List.mem_cons.mp member with same | later
      · exact same ▸ less
      · exact String.lt_trans less (below _ later)
    · next notLess =>
      split
      · next same =>
        exact List.Pairwise.cons (fun entry later => same ▸ below _ later) tail
      · next differ =>
        refine List.Pairwise.cons ?_ (ih tail)
        intro entry member
        rcases mem_insertEntry member with same | later
        · rw [same]
          exact String.not_le.mp fun atMost =>
            differ (String.le_antisymm atMost (String.not_lt.mp notLess))
        · exact below _ later

/-- The table in which a name has the given value. -/
def insert (table : Table α) (name : String) (value : α) : Table α :=
  ⟨insertEntry name value table.entries, sorted_insertEntry name value table.sorted⟩

theorem lookup_insertEntry (name other : String) (value : α) (entries : List (String × α)) :
    (insertEntry name value entries).lookup other =
      if other = name then some value else entries.lookup other := by
  induction entries with
  | nil => simp only [insertEntry, lookup_cons_ite]
  | cons head rest ih =>
    obtain ⟨key, old⟩ := head
    unfold insertEntry
    split
    · simp only [lookup_cons_ite]
    · split
      · next here =>
        have keyEq : name = key := here
        subst keyEq
        simp only [lookup_cons_ite]
        by_cases same : other = name <;> simp [same]
      · next apart =>
        have differ : name ≠ key := apart
        simp only [lookup_cons_ite, ih]
        by_cases there : other = key
        · simp [there, differ.symm]
        · simp [there]

/-- After an insertion a name has the new value, and every other name the value it had. -/
theorem get?_insert (table : Table α) (name other : String) (value : α) :
    (table.insert name value).get? other = if other = name then some value else table.get? other :=
  lookup_insertEntry name other value table.entries

/-- The table with the given entries; of several values of a name the last stays. -/
def ofList (entries : List (String × α)) : Table α :=
  entries.foldl (fun table entry => table.insert entry.1 entry.2) empty

/-! ## Removal -/

/-- The table in which a name has no value. -/
def erase (table : Table α) (name : String) : Table α :=
  ⟨table.entries.filter fun entry => entry.1 != name,
    table.sorted.sublist List.filter_sublist⟩

theorem lookup_filter_ne (name other : String) (entries : List (String × α)) :
    (entries.filter fun entry => entry.1 != name).lookup other =
      if other = name then none else entries.lookup other := by
  induction entries with
  | nil => simp
  | cons head rest ih =>
    obtain ⟨key, old⟩ := head
    by_cases removed : key = name
    · subst removed
      rw [List.filter_cons_of_neg (by simp), ih, lookup_cons_ite]
      by_cases same : other = key <;> simp only [same, if_true, if_false]
    · rw [List.filter_cons_of_pos (by simpa using removed), lookup_cons_ite, lookup_cons_ite, ih]
      by_cases there : other = key
      · simp [there, removed]
      · simp [there]

/-- After a removal the name has no value, and every other name the value it had. -/
theorem get?_erase (table : Table α) (name other : String) :
    (table.erase name).get? other = if other = name then none else table.get? other :=
  lookup_filter_ne name other table.entries

end Table

end Inflight
