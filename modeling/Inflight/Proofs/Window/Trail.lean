import Inflight.Proofs.Live.Reading

/-!
# Trails through a window

The ops of a window are a list only through their links: a place is a pointer
that may be null, and a readable op at a place leads to the place behind it.  A
trail is a row of ops read in this way, one after the other, from one place to
another.  Nothing bounds a trail, so trails say what a walk without a bound
meets, however it is computed.

Reads are fixed, so a trail from a place is determined by its length: of two
trails the longer one continues the shorter (`Trail.continues`).  A trail is
stuck at a null pointer and at an op that cannot be read.  From this come the
two facts about handles.  Before a stuck place no handle occurs twice
(`Trail.nodup_of_stuck`), since a trail that came back to a handle could go on
from there as it did before.  And a trail in which a handle occurs twice runs
into a loop (`Trail.loops_of_not_nodup`), from which no stuck place is reached
(`Loops.not_stuck`).
-/

namespace Inflight

set_option autoImplicit false

/-- The ops read one after the other from a place of the list to another place. -/
inductive Trail (live : Inspector) (names : Names) :
    Option Handle → List Op → Option Handle → Prop where
  | here (place : Option Handle) : Trail live names place [] place
  | next {handle : Handle} {op : Op} {ops : List Op} {place : Option Handle} :
      Op.read live names handle = .ok op → Trail live names op.next ops place →
        Trail live names (some handle) (op :: ops) place

/-- A place from which nothing can be read: the list ends, or its next op is unreadable. -/
def Stuck (live : Inspector) (names : Names) (place : Option Handle) : Prop :=
  ∀ handle op, place = some handle → Op.read live names handle ≠ .ok op

/-- The links run into a circle of readable ops. -/
def Loops (live : Inspector) (names : Names) (head : Option Handle) : Prop :=
  ∃ approach handle loop, Trail live names head approach (some handle) ∧ loop ≠ [] ∧
    Trail live names (some handle) loop (some handle)

variable {live : Inspector} {names : Names}

theorem stuck_none : Stuck live names none := by
  intro handle op isSome
  cases isSome

theorem stuck_of_fault {handle : Handle} {fault : Fault}
    (unreadable : Op.read live names handle = .error fault) :
    Stuck live names (some handle) := by
  intro other op same readable
  cases same
  rw [unreadable] at readable
  cases readable

namespace Trail

variable {head place far : Option Handle} {ops more longer : List Op}

/-! ## Putting trails together and taking them apart -/

theorem append (first : Trail live names head ops place)
    (second : Trail live names place more far) : Trail live names head (ops ++ more) far := by
  induction first with
  | here => exact second
  | next readable _ ih => exact .next readable (ih second)

/-- A trail to a readable op goes one op further. -/
theorem concat {handle : Handle} {op : Op} (trail : Trail live names head ops (some handle))
    (readable : Op.read live names handle = .ok op) :
    Trail live names head (ops ++ [op]) op.next :=
  trail.append (.next readable (.here _))

/-- A trail of at least one op begins at that op. -/
theorem uncons {op : Op} (trail : Trail live names head (op :: ops) place) :
    head = some op.handle ∧ Op.read live names op.handle = .ok op ∧
      Trail live names op.next ops place := by
  cases trail with
  | next readable rest =>
    have here := Op.handle_of_read readable
    subst here
    exact ⟨rfl, readable, rest⟩

/-- A trail passes through a place wherever its ops are parted. -/
theorem split (trail : Trail live names head (ops ++ more) place) :
    ∃ middle, Trail live names head ops middle ∧ Trail live names middle more place := by
  induction ops generalizing head with
  | nil => exact ⟨head, .here head, trail⟩
  | cons op rest ih =>
    obtain ⟨rfl, readable, onward⟩ := trail.uncons
    obtain ⟨middle, first, second⟩ := ih onward
    exact ⟨middle, .next readable first, second⟩

/-- Of two trails from one place the longer continues the shorter. -/
theorem continues (short : Trail live names head ops place)
    (long : Trail live names head longer far) (shorter : ops.length ≤ longer.length) :
    ∃ more, longer = ops ++ more ∧ Trail live names place more far := by
  induction short generalizing longer with
  | here => exact ⟨longer, rfl, long⟩
  | next readable _ ih =>
    cases long with
    | here => exact absurd shorter (by simp)
    | next again rest =>
      rw [readable] at again
      cases again
      obtain ⟨more, same, onward⟩ := ih rest (by simpa using shorter)
      exact ⟨more, by rw [same, List.cons_append], onward⟩

/-! ## Trails that come to a stuck place -/

theorem nil_of_stuck (stuck : Stuck live names head) (trail : Trail live names head ops place) :
    ops = [] ∧ place = head := by
  cases trail with
  | here => exact ⟨rfl, rfl⟩
  | next readable _ => exact absurd readable (stuck _ _ rfl)

/-- No trail goes on beyond a stuck place. -/
theorem length_le_of_stuck (trail : Trail live names head ops place)
    (stuck : Stuck live names place) (other : Trail live names head longer far) :
    longer.length ≤ ops.length := by
  rcases Nat.le_total longer.length ops.length with within | beyond
  · exact within
  · obtain ⟨more, rfl, onward⟩ := trail.continues other beyond
    obtain ⟨rfl, -⟩ := nil_of_stuck stuck onward
    simp

/-- A handle that occurs in a trail is a place that the trail passes. -/
theorem exists_suffix_of_mem {handle : Handle} (trail : Trail live names head ops place)
    (occurs : handle ∈ ops.map Op.handle) :
    ∃ front back, ops = front ++ back ∧ back ≠ [] ∧ Trail live names head front (some handle) ∧
      Trail live names (some handle) back place := by
  obtain ⟨op, member, rfl⟩ := List.mem_map.mp occurs
  obtain ⟨front, back, rfl⟩ := List.append_of_mem member
  obtain ⟨middle, first, second⟩ := trail.split
  obtain ⟨rfl, -⟩ := second.uncons
  exact ⟨front, op :: back, rfl, by simp, first, second⟩

/-- Every handle that occurs in a trail is that of a readable op. -/
theorem readable_of_mem {handle : Handle} (trail : Trail live names head ops place)
    (occurs : handle ∈ ops.map Op.handle) : ∃ op, Op.read live names handle = .ok op := by
  obtain ⟨front, back, -, nonempty, -, onward⟩ := trail.exists_suffix_of_mem occurs
  cases onward with
  | here => exact absurd rfl nonempty
  | next readable _ => exact ⟨_, readable⟩

/-- **Before a stuck place no handle occurs twice.** -/
theorem nodup_of_stuck (trail : Trail live names head ops place)
    (stuck : Stuck live names place) : (ops.map Op.handle).Nodup := by
  induction trail with
  | here => exact List.nodup_nil
  | @next handle op ops place readable rest ih =>
    have here := Op.handle_of_read readable
    refine List.nodup_cons.mpr ⟨fun again => ?_, ih stuck⟩
    obtain ⟨front, back, rfl, -, -, again⟩ := rest.exists_suffix_of_mem again
    rw [here] at again
    -- From the second visit the stuck place is reached, so no trail from this handle is longer
    -- than that one; but the whole trail is.
    have bounded := again.length_le_of_stuck stuck (.next readable rest)
    simp only [List.length_cons, List.length_append] at bounded
    omega

/-- A trail in which a handle occurs twice runs into a loop. -/
theorem loops_of_not_nodup (trail : Trail live names head ops place)
    (repeated : ¬(ops.map Op.handle).Nodup) : Loops live names head := by
  induction trail with
  | here => exact absurd List.nodup_nil repeated
  | @next handle op ops place readable rest ih =>
    have here := Op.handle_of_read readable
    by_cases again : op.handle ∈ ops.map Op.handle
    · obtain ⟨front, _, _, -, around, -⟩ := rest.exists_suffix_of_mem again
      rw [here] at around
      exact ⟨[], handle, op :: front, .here _, by simp, .next readable around⟩
    · obtain ⟨approach, meeting, loop, approaching, nonempty, looping⟩ :=
        ih fun distinct => repeated (List.nodup_cons.mpr ⟨again, distinct⟩)
      exact ⟨op :: approach, meeting, loop, .next readable approaching, nonempty, looping⟩

end Trail

/-! ## Loops -/

namespace Loops

variable {head : Option Handle}

/-- Around a loop there are trails of any length. -/
theorem exists_long (loops : Loops live names head) (length : Nat) :
    ∃ ops place, length ≤ ops.length ∧ Trail live names head ops place := by
  obtain ⟨approach, handle, loop, approaching, nonempty, looping⟩ := loops
  have around : ∃ ops, length ≤ ops.length ∧
      Trail live names head ops (some handle) := by
    induction length with
    | zero => exact ⟨approach, Nat.zero_le _, approaching⟩
    | succ length ih =>
      obtain ⟨ops, long, trail⟩ := ih
      refine ⟨ops ++ loop, ?_, trail.append looping⟩
      have := List.length_pos_iff.mpr nonempty
      rw [List.length_append]
      omega
  obtain ⟨ops, long, trail⟩ := around
  exact ⟨ops, some handle, long, trail⟩

/-- From a loop no stuck place is reached. -/
theorem not_stuck (loops : Loops live names head) {ops : List Op} {place : Option Handle}
    (trail : Trail live names head ops place) : ¬Stuck live names place := by
  intro stuck
  obtain ⟨longer, far, long, other⟩ := loops.exists_long (ops.length + 1)
  have bounded := trail.length_le_of_stuck stuck other
  omega

end Loops

/-- From every place there is a trail of a given length to another op, or a shorter one to a
stuck place. -/
theorem exists_trail_or_stuck (live : Inspector) (names : Names) (head : Option Handle)
    (length : Nat) :
    (∃ ops handle, ops.length = length ∧ Trail live names head ops (some handle)) ∨
      ∃ ops place, Trail live names head ops place ∧
        (place = none ∧ ops.length ≤ length ∨
          ∃ handle fault, place = some handle ∧ Op.read live names handle = .error fault ∧
            ops.length < length) := by
  induction length with
  | zero =>
    cases head with
    | none => exact .inr ⟨[], none, .here _, .inl ⟨rfl, Nat.le_refl _⟩⟩
    | some handle => exact .inl ⟨[], handle, rfl, .here _⟩
  | succ length ih =>
    rcases ih with ⟨ops, handle, reached, trail⟩ | ⟨ops, place, trail, ended⟩
    · cases readable : Op.read live names handle with
      | error fault =>
        exact .inr ⟨ops, _, trail, .inr ⟨handle, fault, rfl, readable, by omega⟩⟩
      | ok op =>
        have further := trail.concat readable
        have counted : (ops ++ [op]).length = length + 1 := by simp [reached]
        cases next : op.next with
        | none => exact .inr ⟨_, none, next ▸ further, .inl ⟨rfl, Nat.le_of_eq counted⟩⟩
        | some handle => exact .inl ⟨_, handle, counted, next ▸ further⟩
    · refine .inr ⟨ops, place, trail, ?_⟩
      rcases ended with ⟨atEnd, within⟩ | ⟨handle, fault, there, unreadable, within⟩
      · exact .inl ⟨atEnd, Nat.le_succ_of_le within⟩
      · exact .inr ⟨handle, fault, there, unreadable, Nat.lt_succ_of_lt within⟩

end Inflight
