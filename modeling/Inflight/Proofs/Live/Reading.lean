import Inflight.Snapshot.Basic
import Inflight.Window.Op

/-!
# What reading live state can fail with

A read goes wrong in one of six ways: a name has no value, a structure has no
such field, a handle is dangling, a pointer stands where a word is wanted, a
word where a structure is wanted, or a state has no such encoding.  The two
reads of a snapshot fail only so, and what is derived from two reads that fail
only so fails only so as well.  In particular no read of a snapshot fails the
way a walk does that goes beyond its bound.
-/

namespace Inflight

set_option autoImplicit false

universe u

/-! ## Steps of a computation that may fail -/

section Steps

variable {α β : Type u} {first : Except Fault α} {next : α → Except Fault β}

/-- A computation in two steps succeeds when both succeed. -/
theorem bind_eq_ok {result : β} :
    first >>= next = .ok result ↔ ∃ middle, first = .ok middle ∧ next middle = .ok result := by
  cases first with
  | error fault => simp [bind, Except.bind]
  | ok middle => simp [bind, Except.bind]

/-- A computation in two steps fails when the first fails, or else the second. -/
theorem bind_eq_error {fault : Fault} :
    first >>= next = .error fault ↔
      first = .error fault ∨ ∃ middle, first = .ok middle ∧ next middle = .error fault := by
  cases first with
  | error other => simp [bind, Except.bind]
  | ok middle => simp [bind, Except.bind]

end Steps

/-! ## Faults of reading -/

/-- The faults that are met while live state is read. -/
def Fault.OfReading : Fault → Prop
  | .unresolvedSymbol _ => True
  | .missingField _ _ => True
  | .expectedScalar _ => True
  | .expectedStructure _ => True
  | .danglingHandle _ => True
  | .unknownState _ => True
  | _ => False

/-- Whatever a result fails with is allowed. -/
def FailsWithin {α : Type u} (allowed : Fault → Prop) (result : Except Fault α) : Prop :=
  ∀ fault, result = .error fault → allowed fault

namespace FailsWithin

variable {α β : Type u} {allowed : Fault → Prop}

theorem ok (value : α) : FailsWithin allowed (.ok value) := by
  intro fault failed
  cases failed

theorem bind {first : Except Fault α} {next : α → Except Fault β}
    (firstFails : FailsWithin allowed first)
    (nextFails : ∀ middle, FailsWithin allowed (next middle)) :
    FailsWithin allowed (first >>= next) := by
  intro fault failed
  rcases bind_eq_error.mp failed with early | ⟨middle, -, late⟩
  · exact firstFails fault early
  · exact nextFails middle fault late

theorem map {first : Except Fault α} (firstFails : FailsWithin allowed first) (change : α → β) :
    FailsWithin allowed (first.map change) := by
  cases first with
  | error fault =>
    rintro _ ⟨⟩
    exact firstFails fault rfl
  | ok value => exact .ok (change value)

end FailsWithin

/-- Whatever a result fails with, it is a fault of reading. -/
def FailsInReading {α : Type u} (result : Except Fault α) : Prop :=
  ∀ fault, result = .error fault → fault.OfReading

namespace Value

theorem asScalar_failsInReading (value : Value) (name : String) :
    FailsInReading (value.asScalar name) := by
  intro fault failed
  cases value <;> cases failed <;> trivial

theorem asObject_failsInReading (value : Value) (name : String) :
    FailsInReading (value.asObject name) := by
  intro fault failed
  cases value <;> cases failed <;> trivial

theorem asLink_failsInReading (value : Value) (name : String) :
    FailsInReading (value.asLink name) := by
  intro fault failed
  cases value <;> cases failed
  trivial

end Value

theorem State.decode_failsInReading (encoding : UInt64) :
    FailsInReading (State.decode encoding) := by
  intro fault failed
  unfold State.decode at failed
  split at failed <;> cases failed
  trivial

/-! ## Derived reads -/

/-- Every path has a segment. -/
theorem Text.segments_ne_nil (dotted : String) : Text.segments dotted ≠ [] := by
  simp [Text.segments, List.splitOn_ne_nil]

namespace Inspector

/-- An inspector whose field read fails only with faults of reading. -/
def FieldsFailInReading (live : Inspector) : Prop :=
  ∀ handle name, FailsInReading (live.field handle name)

variable {live : Inspector} {allowed : Fault → Prop}

/-- What is read along a path fails in reading or as the fields of the inspector do. -/
theorem follow_failsWithin (reading : ∀ fault, fault.OfReading → allowed fault)
    (fields : ∀ handle name, FailsWithin allowed (live.field handle name))
    (segments : List String) :
    ∀ (behind : List String) (value : Value),
      FailsWithin allowed (live.follow behind value segments) := by
  induction segments with
  | nil =>
    intro behind value
    unfold follow
    exact .ok value
  | cons segment rest ih =>
    intro behind value fault failed
    cases value with
    | object handle =>
      unfold follow at failed
      split at failed
      · exact ih _ _ fault failed
      · next other read =>
        cases failed
        exact fields handle segment _ read
    | scalar word =>
      simp only [follow, Except.error.injEq] at failed
      exact reading _ (failed ▸ trivial)
    | null =>
      simp only [follow, Except.error.injEq] at failed
      exact reading _ (failed ▸ trivial)

theorem scalarAt_failsWithin (reading : ∀ fault, fault.OfReading → allowed fault)
    (fields : ∀ handle name, FailsWithin allowed (live.field handle name)) (handle : Handle)
    (dotted : String) : FailsWithin allowed (live.scalarAt handle dotted) :=
  .bind (follow_failsWithin reading fields _ _ _) fun value fault failed =>
    reading fault (value.asScalar_failsInReading dotted fault failed)

theorem objectAt_failsWithin (reading : ∀ fault, fault.OfReading → allowed fault)
    (fields : ∀ handle name, FailsWithin allowed (live.field handle name)) (handle : Handle)
    (dotted : String) : FailsWithin allowed (live.objectAt handle dotted) :=
  .bind (follow_failsWithin reading fields _ _ _) fun value fault failed =>
    reading fault (value.asObject_failsInReading dotted fault failed)

theorem linkAt_failsWithin (reading : ∀ fault, fault.OfReading → allowed fault)
    (fields : ∀ handle name, FailsWithin allowed (live.field handle name)) (handle : Handle)
    (dotted : String) : FailsWithin allowed (live.linkAt handle dotted) :=
  .bind (follow_failsWithin reading fields _ _ _) fun value fault failed =>
    reading fault (value.asLink_failsInReading dotted fault failed)

/-- A pointer that is not null leads to a structure. -/
theorem objectAt_of_linkAt {handle target : Handle} {dotted : String}
    (linked : live.linkAt handle dotted = .ok (some target)) :
    live.objectAt handle dotted = .ok target := by
  obtain ⟨value, found, isTarget⟩ := bind_eq_ok.mp linked
  rw [objectAt, found]
  cases value with
  | object other => cases isTarget; rfl
  | scalar word => cases isTarget
  | null => cases isTarget

/-- A path that leads somewhere begins at a field of its structure. -/
theorem field_of_path {handle : Handle} {dotted : String} {value : Value}
    (found : live.path handle dotted = .ok value) :
    ∃ name first, live.field handle name = .ok first := by
  unfold path at found
  cases segments : Text.segments dotted with
  | nil => exact absurd segments (Text.segments_ne_nil dotted)
  | cons segment rest =>
    rw [segments] at found
    unfold follow at found
    split at found
    · next first read => exact ⟨segment, first, read⟩
    · cases found

end Inspector

namespace Op

variable {live : Inspector} {names : Names} {handle : Handle}

theorem read_failsWithin {allowed : Fault → Prop}
    (reading : ∀ fault, fault.OfReading → allowed fault)
    (fields : ∀ handle name, FailsWithin allowed (live.field handle name)) :
    FailsWithin allowed (read live names handle) := by
  have scalar := Inspector.scalarAt_failsWithin reading fields handle
  refine .bind (scalar names.opAddr) fun _ => ?_
  refine .bind (scalar names.opNum) fun _ => ?_
  refine .bind (scalar names.opOffPath) fun _ => ?_
  refine .bind (scalar names.opState) fun encoding => ?_
  refine .bind (fun fault failed =>
    reading fault (State.decode_failsInReading encoding fault failed)) fun _ => ?_
  refine .bind (scalar names.opDoneCycle) fun _ => ?_
  refine .bind (Inspector.linkAt_failsWithin reading fields handle names.opNext) fun _ => ?_
  exact .ok _

/-- An op that cannot be read tells of a fault of reading. -/
theorem read_failsInReading (fields : live.FieldsFailInReading) :
    FailsInReading (read live names handle) :=
  read_failsWithin (fun _ reading => reading) fields

/-- An op that was read remembers where it was read. -/
theorem handle_of_read {op : Op} (readable : read live names handle = .ok op) :
    op.handle = handle := by
  simp only [read, bind_eq_ok] at readable
  obtain ⟨_, -, _, -, _, -, _, -, _, -, _, -, _, -, done⟩ := readable
  cases done
  rfl

end Op

/-! ## Snapshots -/

namespace Snapshot

variable (snapshot : Snapshot)

theorem resolve_failsInReading (name : String) :
    FailsInReading (snapshot.inspector.resolve name) := by
  intro fault failed
  simp only [inspector, resolve] at failed
  split at failed <;> cases failed
  trivial

theorem field_failsInReading : snapshot.inspector.FieldsFailInReading := by
  intro handle name fault failed
  simp only [inspector, field, object] at failed
  split at failed
  · next other missing =>
    split at missing <;> cases missing
    cases failed
    trivial
  · split at failed <;> cases failed
    trivial

/-- Only an object of the row has fields. -/
theorem index_lt_of_field {handle : Handle} {name : String} {value : Value}
    (found : snapshot.field handle name = .ok value) : handle.index < snapshot.size := by
  rcases Nat.lt_or_ge handle.index snapshot.size with inside | beyond
  · exact inside
  · have absent : snapshot.objects[handle.index]? = none := Array.getElem?_eq_none beyond
    simp only [field, object, absent] at found
    cases found

/-- An op that can be read is an object of the row. -/
theorem index_lt_of_read {names : Names} {handle : Handle} {op : Op}
    (readable : Op.read snapshot.inspector names handle = .ok op) :
    handle.index < snapshot.size := by
  simp only [Op.read, Inspector.scalarAt, bind_eq_ok] at readable
  obtain ⟨_, ⟨value, found, -⟩, -⟩ := readable
  obtain ⟨_, _, first⟩ := Inspector.field_of_path found
  exact snapshot.index_lt_of_field first

end Snapshot

end Inflight
