import Inflight.Proofs.Live.Reading

/-!
# What an object holds at a path

A path below an object leads through references to the object that owns its last
field (`Snapshot.Leads`), and what that field holds is what the object holds at
the path (`Snapshot.Holds`).  A read along the path gives just that.  New
objects and new fields leave all that was held before.
-/

namespace Inflight

set_option autoImplicit false

namespace Snapshot

/-- What a field of an object holds. -/
def slot? (snapshot : Snapshot) (handle : Handle) (name : String) : Option Slot :=
  snapshot.objects[handle.index]?.bind fun fields => fields.get? name

/-- References lead from one object to another along the given fields. -/
inductive Leads (snapshot : Snapshot) : Handle → List String → Handle → Prop where
  | here (handle : Handle) : Leads snapshot handle [] handle
  | next {handle target owner : Handle} {segment : String} {rest : List String} :
      snapshot.slot? handle segment = some (.ref target) → Leads snapshot target rest owner →
        Leads snapshot handle (segment :: rest) owner

/-- What an object holds at a path. -/
def Holds (snapshot : Snapshot) (handle : Handle) (path : List String) (slot : Slot) : Prop :=
  ∃ front leaf owner, path = front ++ [leaf] ∧ snapshot.Leads handle front owner ∧
    snapshot.slot? owner leaf = some slot

/-- Every field that holds something still holds it. -/
def Grows (before after : Snapshot) : Prop :=
  ∀ handle name slot, before.slot? handle name = some slot → after.slot? handle name = some slot

variable {snapshot : Snapshot} {handle : Handle}

/-! ## Reading -/

theorem field_of_slot? {name : String} {slot : Slot}
    (held : snapshot.slot? handle name = some slot) :
    snapshot.inspector.field handle name = .ok slot.value := by
  obtain ⟨fields, stands, got⟩ := Option.bind_eq_some_iff.mp held
  simp only [inspector, field, object, stands, got]

theorem Leads.follow {front : List String} {owner : Handle}
    (leads : snapshot.Leads handle front owner) (behind rest : List String) :
    snapshot.inspector.follow behind (.object handle) (front ++ rest) =
      snapshot.inspector.follow (behind ++ front) (.object owner) rest := by
  induction leads generalizing behind with
  | here handle => rw [List.nil_append, List.append_nil]
  | @next handle target owner segment front held _ ih =>
    have read := field_of_slot? held
    have along : behind ++ segment :: front = behind ++ [segment] ++ front := List.append_cons ..
    rw [List.cons_append, Inspector.follow, read, along]
    exact ih (behind ++ [segment])

/-- A read along a path gives what is held there. -/
theorem Holds.path {dotted : String} {slot : Slot}
    (held : snapshot.Holds handle (Text.segments dotted) slot) :
    snapshot.inspector.path handle dotted = .ok slot.value := by
  obtain ⟨front, leaf, owner, same, leads, got⟩ := held
  have read := field_of_slot? got
  rw [Inspector.path, same, leads.follow, Inspector.follow, read]
  rfl

theorem Holds.scalarAt {dotted : String} {word : UInt64}
    (held : snapshot.Holds handle (Text.segments dotted) (.scalar word)) :
    snapshot.inspector.scalarAt handle dotted = .ok word := by
  rw [Inspector.scalarAt, held.path]
  rfl

theorem Holds.flagAt {dotted : String} {flag : Bool}
    (held : snapshot.Holds handle (Text.segments dotted) (.flag flag)) :
    snapshot.inspector.scalarAt handle dotted = .ok (if flag then 1 else 0) := by
  rw [Inspector.scalarAt, held.path]
  rfl

theorem Holds.linkAt {dotted : String} {target : Option Handle}
    (held : snapshot.Holds handle (Text.segments dotted) (.link target)) :
    snapshot.inspector.linkAt handle dotted = .ok target := by
  rw [Inspector.linkAt, held.path]
  cases target <;> rfl

theorem holds_singleton_iff {leaf : String} {slot : Slot} :
    snapshot.Holds handle [leaf] slot ↔ snapshot.slot? handle leaf = some slot := by
  constructor
  · rintro ⟨front, last, owner, same, leads, got⟩
    obtain ⟨rfl, rfl⟩ : front = [] ∧ last = leaf := by
      cases front with
      | nil => exact ⟨rfl, (List.cons.inj same).1.symm⟩
      | cons _ _ => simp at same
    cases leads
    exact got
  · intro got
    exact ⟨[], leaf, handle, rfl, .here handle, got⟩

/-! ## Where nothing is held -/

theorem exists_slot_of_field {name : String} {value : Value}
    (read : snapshot.inspector.field handle name = .ok value) :
    ∃ slot, snapshot.slot? handle name = some slot ∧ slot.value = value := by
  simp only [inspector, field, object] at read
  cases stands : snapshot.objects[handle.index]? with
  | none =>
    rw [stands] at read
    cases read
  | some fields =>
    simp only [stands] at read
    cases got : fields.get? name with
    | none =>
      rw [got] at read
      cases read
    | some slot =>
      simp only [got, Except.ok.injEq] at read
      exact ⟨slot, by rw [slot?, stands, Option.bind_some, got], read⟩

/-- A read along a path gives only what is held there. -/
theorem exists_holds_of_follow {segments : List String} (some_ : segments ≠ []) {value : Value}
    {behind : List String}
    (read : snapshot.inspector.follow behind (.object handle) segments = .ok value) :
    ∃ slot, snapshot.Holds handle segments slot := by
  induction segments generalizing handle behind with
  | nil => exact absurd rfl some_
  | cons segment rest ih =>
    rw [Inspector.follow] at read
    cases first : snapshot.inspector.field handle segment with
    | error fault =>
      rw [first] at read
      cases read
    | ok onward =>
      obtain ⟨slot, held, isOnward⟩ := exists_slot_of_field first
      cases rest with
      | nil => exact ⟨slot, [], segment, handle, rfl, .here handle, held⟩
      | cons next more =>
        simp only [first] at read
        cases slot with
        | ref target =>
          subst isOnward
          obtain ⟨last, front, leaf, owner, same, leads, got⟩ :=
            ih (List.cons_ne_nil _ _) read
          exact ⟨last, segment :: front, leaf, owner, by rw [same, List.cons_append],
            .next held leads, got⟩
        | scalar word =>
          subst isOnward
          cases read
        | flag flag =>
          subst isOnward
          cases read
        | null =>
          subst isOnward
          cases read

/-- Where nothing is held there is nothing to read. -/
theorem exists_scalarAt_eq_error {dotted : String}
    (bare : ∀ slot, ¬snapshot.Holds handle (Text.segments dotted) slot) :
    ∃ fault, snapshot.inspector.scalarAt handle dotted = .error fault := by
  cases read : snapshot.inspector.path handle dotted with
  | error fault => exact ⟨fault, by rw [Inspector.scalarAt, read]; rfl⟩
  | ok value =>
    obtain ⟨slot, held⟩ := exists_holds_of_follow (Text.segments_ne_nil dotted) read
    exact absurd held (bare slot)

theorem not_holds_of_empty (empty : ∀ name, snapshot.slot? handle name = none)
    (path : List String) (slot : Slot) : ¬snapshot.Holds handle path slot := by
  rintro ⟨front, leaf, owner, -, leads, got⟩
  cases leads with
  | here =>
    rw [empty] at got
    cases got
  | next held _ =>
    rw [empty] at held
    cases held

/-! ## Growing -/

namespace Grows

variable {before after last : Snapshot}

theorem refl (snapshot : Snapshot) : Grows snapshot snapshot := fun _ _ _ held => held

theorem trans (early : Grows before after) (late : Grows after last) : Grows before last :=
  fun handle name slot held => late handle name slot (early handle name slot held)

theorem leads (grows : Grows before after) {front : List String} {owner : Handle}
    (leads : before.Leads handle front owner) : after.Leads handle front owner := by
  induction leads with
  | here handle => exact .here handle
  | next held _ ih => exact .next (grows _ _ _ held) ih

theorem holds (grows : Grows before after) {path : List String} {slot : Slot}
    (held : before.Holds handle path slot) : after.Holds handle path slot := by
  obtain ⟨front, leaf, owner, same, leads, got⟩ := held
  exact ⟨front, leaf, owner, same, grows.leads leads, grows _ _ _ got⟩

end Grows

/-! ## One change -/

/-- Only objects of the row hold anything. -/
theorem index_lt_of_slot? {name : String} {slot : Slot}
    (held : snapshot.slot? handle name = some slot) : handle.index < snapshot.size := by
  obtain ⟨fields, stands, -⟩ := Option.bind_eq_some_iff.mp held
  exact (Array.getElem?_eq_some_iff.mp stands).1

theorem slot?_alloc (snapshot : Snapshot) (fields : Fields) (handle : Handle) (name : String) :
    (snapshot.alloc fields).2.slot? handle name =
      if handle.index = snapshot.size then fields.get? name else snapshot.slot? handle name := by
  unfold slot? alloc size
  rw [Array.getElem?_push]
  split <;> rfl

theorem slot?_setField {owner : Handle} (inside : owner.index < snapshot.size)
    (leaf : String) (slot : Slot) (handle : Handle) (name : String) :
    (snapshot.setField owner leaf slot).slot? handle name =
      if handle = owner ∧ name = leaf then some slot else snapshot.slot? handle name := by
  obtain ⟨fields, stands⟩ : ∃ fields, snapshot.objects[owner.index]? = some fields :=
    ⟨_, Array.getElem?_eq_getElem inside⟩
  simp only [slot?, setField, Array.getElem?_modify]
  by_cases same : handle = owner
  · subst same
    simp only [stands, if_true, Option.map_some, Option.bind_some, Table.get?_insert, true_and]
  · have apart : owner.index ≠ handle.index := by
      intro own
      cases handle
      cases owner
      exact same (congrArg Handle.mk own.symm)
    simp only [apart, same, if_false, false_and]

theorem grows_alloc (snapshot : Snapshot) (fields : Fields) :
    Grows snapshot (snapshot.alloc fields).2 := by
  intro handle name slot held
  have older := Nat.ne_of_lt (index_lt_of_slot? held)
  rw [slot?_alloc, if_neg older]
  exact held

/-- A field that held nothing disturbs none that did. -/
theorem grows_setField {owner : Handle} {leaf : String} (inside : owner.index < snapshot.size)
    (absent : snapshot.slot? owner leaf = none) (slot : Slot) :
    Grows snapshot (snapshot.setField owner leaf slot) := by
  intro handle name old held
  rw [slot?_setField inside, if_neg]
  · exact held
  · rintro ⟨rfl, rfl⟩
    rw [absent] at held
    cases held

end Snapshot

end Inflight
