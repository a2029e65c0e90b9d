import Inflight.Proofs.Live.Renaming
import Mathlib.Logic.Equiv.Basic

/-!
# Moving the objects of a snapshot

A handle is a place in the row of objects.  When the objects are put in another
order and every reference is changed to the new place of its object, the
snapshot is read as before, each object now under its new handle
(`Snapshot.renames_moved`).  A reference beyond the row's end is kept, and
dangles as it did.
-/

namespace Inflight

set_option autoImplicit false

universe u v

/-! ## Tables -/

namespace Table

variable {α : Type u} {β : Type v}

/-- The table with each of its values changed. -/
def map (change : α → β) (table : Table α) : Table β where
  entries := table.entries.map fun entry => (entry.1, change entry.2)
  sorted := List.pairwise_map.mpr table.sorted

theorem get?_map (change : α → β) (table : Table α) (name : String) :
    (table.map change).get? name = (table.get? name).map change := by
  have found : ∀ entries : List (String × α),
      (entries.map fun entry => (entry.1, change entry.2)).lookup name =
        (entries.lookup name).map change := by
    intro entries
    induction entries with
    | nil => rfl
    | cons entry rest ih =>
      rw [List.map_cons, lookup_cons_ite, lookup_cons_ite, ih]
      split <;> rfl
  exact found table.entries

end Table

/-! ## Places -/

namespace Handle

variable {n : Nat} (places : Equiv.Perm (Fin n))

/-- The handle of an object after the objects of a row are moved.  A handle beyond the row's end
is kept. -/
def moved (handle : Handle) : Handle :=
  if inside : handle.index < n then ⟨places ⟨handle.index, inside⟩⟩ else handle

theorem moved_of_lt {handle : Handle} (inside : handle.index < n) :
    handle.moved places = ⟨places ⟨handle.index, inside⟩⟩ :=
  dif_pos inside

theorem moved_of_ge {handle : Handle} (beyond : n ≤ handle.index) :
    handle.moved places = handle :=
  dif_neg (Nat.not_lt.mpr beyond)

/-- Moving the objects back brings every handle back. -/
theorem moved_moved_symm (handle : Handle) : (handle.moved places).moved places.symm = handle := by
  rcases Nat.lt_or_ge handle.index n with inside | beyond
  · rw [moved_of_lt places inside, moved_of_lt places.symm (places _).isLt]
    simp
  · rw [moved_of_ge places beyond, moved_of_ge places.symm beyond]

theorem moved_injective : Function.Injective (moved places) :=
  Function.LeftInverse.injective (g := moved places.symm) (moved_moved_symm places)

end Handle

/-! ## Snapshots -/

/-- A slot with its reference changed. -/
def Slot.rename (change : Handle → Handle) : Slot → Slot
  | .ref target => .ref (change target)
  | .scalar word => .scalar word
  | .flag value => .flag value
  | .null => .null

theorem Slot.value_rename (change : Handle → Handle) (slot : Slot) :
    (slot.rename change).value = slot.value.rename change := by
  cases slot <;> rfl

namespace Snapshot

variable (snapshot : Snapshot) (places : Equiv.Perm (Fin snapshot.objects.size))

/-- The snapshot in which every object stands in its new place, and every reference leads to the
new place of its object. -/
def moved : Snapshot where
  globals := snapshot.globals.map (Slot.rename (Handle.moved places))
  objects := Array.ofFn fun place =>
    (snapshot.objects[places.symm place]).map (Slot.rename (Handle.moved places))

/-- An object stands under its new handle, with its references changed. -/
theorem getElem?_moved (handle : Handle) :
    (snapshot.moved places).objects[(handle.moved places).index]? =
      snapshot.objects[handle.index]?.map (Table.map (Slot.rename (Handle.moved places))) := by
  rcases Nat.lt_or_ge handle.index snapshot.objects.size with inside | beyond
  · rw [Handle.moved_of_lt places inside, Array.getElem?_eq_getElem inside]
    simp [moved]
  · rw [Handle.moved_of_ge places beyond, Array.getElem?_eq_none beyond]
    simp [moved, beyond]

theorem resolve_moved (name : String) :
    (snapshot.moved places).resolve name =
      carry (Handle.moved places) (Value.rename (Handle.moved places)) (snapshot.resolve name) := by
  have got : (snapshot.moved places).globals.get? name =
      (snapshot.globals.get? name).map (Slot.rename (Handle.moved places)) :=
    Table.get?_map ..
  unfold resolve
  rw [got]
  cases snapshot.globals.get? name with
  | none => rfl
  | some slot => exact congrArg Except.ok (slot.value_rename _)

theorem field_moved (handle : Handle) (name : String) :
    (snapshot.moved places).field (handle.moved places) name =
      carry (Handle.moved places) (Value.rename (Handle.moved places))
        (snapshot.field handle name) := by
  unfold field object
  rw [getElem?_moved]
  cases snapshot.objects[handle.index]? with
  | none => rfl
  | some fields =>
    dsimp only [Option.map_some]
    rw [Table.get?_map]
    cases fields.get? name with
    | none => rfl
    | some slot => exact congrArg Except.ok (slot.value_rename _)

/-- **A snapshot does not depend on the places of its objects**: under their new handles it holds
what it held under the old ones. -/
theorem renames_moved :
    Inspector.Renames (Handle.moved places) snapshot.inspector
      (snapshot.moved places).inspector where
  injective := Handle.moved_injective places
  resolve := snapshot.resolve_moved places
  field := snapshot.field_moved places

end Snapshot

end Inflight
