import Inflight.Proofs.Window.Classification

/-!
# The limit of a walk

Without a limit a walk ends at a null pointer or at an op that cannot be read,
or it never ends.  `Ends` says how it ends, by the trail it follows and apart
from any computation; a walk without a limit has just that result, and none when
it never ends (`Walker.survey_eq_some_iff`).  A walk with a limit either comes to
that end or is over its limit: the limit is tested before an entry is read, so an
unreadable entry counts as one that is taken.

In a snapshot the handles of readable ops are places in the row of objects, and
before an end no handle repeats.  So an end is reached after as many entries as
there are objects, and perhaps one more that is dangling; a greater limit is
exceeded only by walks that run into a loop (`Snapshot.classify_bound_exact`).
-/

namespace Inflight

set_option autoImplicit false

/-! ## How a walk ends -/

/-- How a walk without a limit ends: after how many entries, counting one that cannot be read,
and with which result. -/
inductive Ends (live : Inspector) (names : Names) (head : Option Handle) (pivot : Handle)
    (cycle : UInt64) : Nat → Except Fault Census → Prop where
  | finished {ops : List Op} :
      Trail live names head ops none →
        Ends live names head pivot cycle ops.length (.ok (Census.observeAll pivot cycle {} ops))
  | faulted {ops : List Op} {handle : Handle} {fault : Fault} :
      Trail live names head ops (some handle) → Op.read live names handle = .error fault →
        Ends live names head pivot cycle (ops.length + 1) (.error fault)

section Endings

variable {live : Inspector} {names : Names} {head : Option Handle} {pivot : Handle}
variable {cycle : UInt64} {taken : Nat} {result : Except Fault Census}

/-- A walk ends where its trail is stuck. -/
theorem Ends.exists_stuck (ends : Ends live names head pivot cycle taken result) :
    ∃ ops place, Trail live names head ops place ∧ Stuck live names place := by
  cases ends with
  | finished trail => exact ⟨_, _, trail, stuck_none⟩
  | faulted trail unreadable => exact ⟨_, _, trail, stuck_of_fault unreadable⟩

/-- A walk that does not end within a number of entries follows a trail of that length to
another entry. -/
theorem exists_trail_of_not_ends (length : Nat)
    (endless : ¬∃ taken result, Ends live names head pivot cycle taken result ∧ taken ≤ length) :
    ∃ ops handle, ops.length = length ∧ Trail live names head ops (some handle) := by
  rcases exists_trail_or_stuck live names head length with
    trail | ⟨ops, place, trail, ⟨rfl, within⟩ | ⟨handle, fault, rfl, unreadable, within⟩⟩
  · exact trail
  · exact absurd ⟨_, _, .finished trail, within⟩ endless
  · exact absurd ⟨_, _, .faulted trail unreadable, within⟩ endless

end Endings

namespace Walker

variable (walker : Walker) {head : Option Handle} {pivot : Handle} {cycle : UInt64}
  {taken : Nat} {result : Except Fault Census}

/-! ## Walks without a limit -/

/-- A walk that ends has its result. -/
theorem survey_of_ends (ends : Ends walker.live walker.names head pivot cycle taken result) :
    walker.survey pivot cycle head {} = some result := by
  cases ends with
  | finished trail => exact (survey_of_trail walker trail {}).trans (survey_none walker _)
  | faulted trail unreadable =>
    exact (survey_of_trail walker trail {}).trans (survey_unreadable walker unreadable _)

/-- A result comes of a trail that is at an end: of the counts along it, or of the fault there. -/
theorem exists_trail_of_survey {census : Census}
    (surveyed : walker.survey pivot cycle head census = some result) :
    ∃ ops place, Trail walker.live walker.names head ops place ∧
      (place = none ∧ result = .ok (census.observeAll pivot cycle ops) ∨
        ∃ handle fault, place = some handle ∧ result = .error fault ∧
          Op.read walker.live walker.names handle = .error fault) := by
  refine survey.partial_correctness walker pivot cycle
    (fun head census result => ∃ ops place, Trail walker.live walker.names head ops place ∧
      (place = none ∧ result = .ok (census.observeAll pivot cycle ops) ∨
        ∃ handle fault, place = some handle ∧ result = .error fault ∧
          Op.read walker.live walker.names handle = .error fault))
    ?_ head census result surveyed
  intro onward ih head census result surveyed
  cases head with
  | none => exact ⟨[], none, .here none, .inl ⟨rfl, (Option.some.inj surveyed).symm⟩⟩
  | some handle =>
    cases readable : Op.read walker.live walker.names handle with
    | error fault =>
      simp only [readable, Option.some.injEq] at surveyed
      exact ⟨[], _, .here _, .inr ⟨handle, fault, rfl, surveyed.symm, readable⟩⟩
    | ok op =>
      simp only [readable] at surveyed
      obtain ⟨ops, place, trail, ended⟩ := ih _ _ _ surveyed
      exact ⟨op :: ops, place, .next readable trail, ended⟩

/-- **A walk without a limit has the result that it ends with, and none when it never ends.** -/
theorem survey_eq_some_iff :
    walker.survey pivot cycle head {} = some result ↔
      ∃ taken, Ends walker.live walker.names head pivot cycle taken result := by
  constructor
  · intro surveyed
    obtain ⟨ops, place, trail, ⟨rfl, rfl⟩ | ⟨handle, fault, rfl, rfl, unreadable⟩⟩ :=
      exists_trail_of_survey walker surveyed
    · exact ⟨_, .finished trail⟩
    · exact ⟨_, .faulted trail unreadable⟩
  · rintro ⟨taken, ends⟩
    exact survey_of_ends walker ends

/-! ## Walks with a limit -/

/-- Within its limit a walk has the result that it has without one. -/
theorem classify_of_ends (ends : Ends walker.live walker.names head pivot cycle taken result)
    (within : ∀ limit, walker.limit = some limit → taken ≤ limit) :
    walker.classify head pivot cycle = some result := by
  unfold classify
  cases limited : walker.limit with
  | none => exact survey_of_ends walker ends
  | some limit =>
    apply congrArg some
    obtain ⟨left, enough⟩ := Nat.exists_eq_add_of_le (within limit limited)
    cases ends with
    | finished trail => rw [enough, surveyWithin_of_trail walker trail, surveyWithin_none]
    | faulted trail unreadable =>
      rw [enough, Nat.add_assoc, Nat.add_comm 1, surveyWithin_of_trail walker trail]
      exact surveyWithin_unreadable walker unreadable _ left _

/-- A walk that has not ended when its limit is used up is over it. -/
theorem classify_of_not_ends {limit : Nat} (limited : walker.limit = some limit)
    (endless : ¬∃ taken result,
      Ends walker.live walker.names head pivot cycle taken result ∧ taken ≤ limit) :
    walker.classify head pivot cycle = some (.error (.windowOverrun limit)) := by
  -- The limit is used up before the next entry is read, so it does not matter whether that entry
  -- could be read.
  obtain ⟨ops, handle, used, trail⟩ := exists_trail_of_not_ends limit endless
  have walked : walker.surveyWithin pivot cycle limit (ops.length + 0) head {} =
      .error (.windowOverrun limit) :=
    (surveyWithin_of_trail walker trail limit 0 {}).trans
      (surveyWithin_beyond walker limit handle _)
  rw [Nat.add_zero, used] at walked
  unfold classify
  rw [limited]
  exact congrArg some walked

/-- A walk comes back unless it has no limit and never ends. -/
theorem classify_eq_none_iff :
    walker.classify head pivot cycle = none ↔
      walker.limit = none ∧
        ¬∃ taken result, Ends walker.live walker.names head pivot cycle taken result := by
  unfold classify
  cases limited : walker.limit with
  | none =>
    rw [Option.eq_none_iff_forall_ne_some]
    simp only [ne_eq, survey_eq_some_iff, not_exists, true_and]
    exact forall_comm
  | some limit => simp

/-- The result of a walk is the one that it ends with, or that it is over its limit. -/
theorem ends_or_overrun (classified : walker.classify head pivot cycle = some result) :
    (∃ taken, Ends walker.live walker.names head pivot cycle taken result) ∨
      ∃ limit, result = .error (.windowOverrun limit) := by
  cases limited : walker.limit with
  | none =>
    rw [classify, limited] at classified
    exact .inl ((survey_eq_some_iff walker).mp classified)
  | some limit =>
    by_cases ended : ∃ taken result,
        Ends walker.live walker.names head pivot cycle taken result ∧ taken ≤ limit
    · obtain ⟨taken, other, ends, within⟩ := ended
      have same : some other = some result := by
        rw [← classified]
        refine (classify_of_ends walker ends fun bound is => ?_).symm
        rw [limited] at is
        cases is
        exact within
      cases same
      exact .inl ⟨taken, ends⟩
    · rw [classify_of_not_ends walker limited ended, Option.some.injEq] at classified
      exact .inr ⟨limit, classified.symm⟩

/-- A census is that of a walk that finished. -/
theorem ends_of_classify {census : Census}
    (classified : walker.classify head pivot cycle = some (.ok census)) :
    ∃ taken, Ends walker.live walker.names head pivot cycle taken (.ok census) := by
  rcases ends_or_overrun walker classified with ended | ⟨limit, overrun⟩
  · exact ended
  · cases overrun

/-- A walk fails at an op that cannot be read, or beyond its limit. -/
theorem fault_of_classify {fault : Fault}
    (classified : walker.classify head pivot cycle = some (.error fault)) :
    (∃ limit, fault = .windowOverrun limit) ∨
      ∃ handle, Op.read walker.live walker.names handle = .error fault := by
  rcases ends_or_overrun walker classified with ⟨taken, ends⟩ | ⟨limit, overrun⟩
  · cases ends with
    | faulted trail unreadable => exact .inr ⟨_, unreadable⟩
  · cases overrun
    exact .inl ⟨limit, rfl⟩

/-! ## The entries of a walk -/

/-- The entries of a walk are ops, as many as there is room for, and a fault at most at the
end. -/
theorem exists_entriesFrom_eq (limit count : Nat) :
    ∀ (room : Nat) (place : Option Handle), ∃ (ops : List Op) (ending : List (Except Fault Op)),
      walker.entriesFrom limit count room place = ops.map .ok ++ ending ∧ ops.length ≤ room ∧
        (ending = [] ∨ ∃ fault, ending = [.error fault]) := by
  induction count with
  | zero => exact fun room place => ⟨[], [], rfl, Nat.zero_le _, .inl rfl⟩
  | succ count ih =>
    intro room place
    cases place with
    | none => exact ⟨[], [], by cases room <;> rfl, Nat.zero_le _, .inl rfl⟩
    | some handle =>
      cases room with
      | zero => exact ⟨[], _, rfl, Nat.le_refl _, .inr ⟨_, rfl⟩⟩
      | succ room =>
        cases readable : Op.read walker.live walker.names handle with
        | error fault =>
          exact ⟨[], [.error fault], by simp [entriesFrom, readable], Nat.zero_le _,
            .inr ⟨fault, rfl⟩⟩
        | ok op =>
          obtain ⟨ops, ending, same, within, last⟩ := ih room op.next
          exact ⟨op :: ops, ending, by simp [entriesFrom, readable, same],
            Nat.succ_le_succ within, last⟩

/-- A walk has at most one entry more than there is room for. -/
theorem length_entriesFrom_le (limit count room : Nat) (head : Option Handle) :
    (walker.entriesFrom limit count room head).length ≤ room + 1 := by
  obtain ⟨ops, ending, same, few, last⟩ := walker.exists_entriesFrom_eq limit count room head
  have single : ending.length ≤ 1 := by
    rcases last with rfl | ⟨fault, rfl⟩
    · exact Nat.zero_le 1
    · exact Nat.le_refl 1
  rw [same, List.length_append, List.length_map]
  exact Nat.add_le_add few single

/-- A walk observes its entries, the first fault among them being its result. -/
theorem surveyWithin_eq_foldlM_entriesFrom (limit room : Nat) :
    ∀ (count : Nat) (place : Option Handle) (census : Census), room < count →
      walker.surveyWithin pivot cycle limit room place census =
        (walker.entriesFrom limit count room place).foldlM
          (fun census item => item.map fun op => census.observe op pivot cycle) census := by
  induction room with
  | zero =>
    intro count place census enough
    obtain ⟨count, rfl⟩ := Nat.exists_eq_succ_of_ne_zero (Nat.ne_of_gt enough)
    cases place <;> rfl
  | succ room ih =>
    intro count place census enough
    obtain ⟨count, rfl⟩ := Nat.exists_eq_succ_of_ne_zero (Nat.ne_of_gt (Nat.zero_lt_of_lt enough))
    cases place with
    | none => rfl
    | some handle =>
      cases readable : Op.read walker.live walker.names handle with
      | error fault =>
        rw [surveyWithin_unreadable walker readable]
        simp [entriesFrom, readable, Except.map, bind, Except.bind]
      | ok op =>
        rw [surveyWithin_readable walker readable, ih count _ _ (Nat.lt_of_succ_lt_succ enough)]
        simp [entriesFrom, readable, Except.map, bind, Except.bind]

end Walker

/-! ## Walks over a snapshot -/

namespace Snapshot

variable (snapshot : Snapshot) {names : Names} {head place : Option Handle} {ops : List Op}
variable {pivot : Handle} {cycle : UInt64}

/-- A trail without a repeated handle is no longer than the row of objects. -/
theorem length_le_size (trail : Trail snapshot.inspector names head ops place)
    (distinct : (ops.map Op.handle).Nodup) : ops.length ≤ snapshot.size := by
  have places : (ops.map Op.handle).map Handle.index ⊆ List.range snapshot.size := by
    intro index member
    obtain ⟨handle, occurs, rfl⟩ := List.mem_map.mp member
    obtain ⟨op, readable⟩ := trail.readable_of_mem occurs
    exact List.mem_range.mpr (snapshot.index_lt_of_read readable)
  have apart : ((ops.map Op.handle).map Handle.index).Nodup :=
    List.pairwise_map.mpr (distinct.imp fun different same => different (congrArg Handle.mk same))
  simpa using apart.length_le_of_subset places

/-- A walk over a snapshot that ends takes as many entries as there are objects, and perhaps one
that cannot be read. -/
theorem taken_le {taken : Nat} {result : Except Fault Census}
    (ends : Ends snapshot.inspector names head pivot cycle taken result) :
    taken ≤ snapshot.size + 1 := by
  cases ends with
  | finished trail =>
    have := snapshot.length_le_size trail (trail.nodup_of_stuck stuck_none)
    omega
  | faulted trail unreadable =>
    have := snapshot.length_le_size trail (trail.nodup_of_stuck (stuck_of_fault unreadable))
    omega

/-- A census of a snapshot counts at most its objects. -/
theorem visited_le {taken : Nat} {census : Census}
    (ends : Ends snapshot.inspector names head pivot cycle taken (.ok census)) :
    census.visited ≤ snapshot.size := by
  cases ends with
  | @finished ops trail =>
    have bounded := snapshot.length_le_size trail (trail.nodup_of_stuck stuck_none)
    rw [Census.observeAll_eq]
    simpa [Census.plusOps] using bounded

/-- No walk over a snapshot ends in the fault of a walk beyond its limit. -/
theorem ends_ne_overrun {taken : Nat} {result : Except Fault Census}
    (ends : Ends snapshot.inspector names head pivot cycle taken result) (limit : Nat) :
    result ≠ .error (.windowOverrun limit) := by
  intro overrun
  cases ends with
  | finished _ => cases overrun
  | faulted _ unreadable =>
    cases overrun
    exact Op.read_failsInReading snapshot.field_failsInReading _ unreadable

/-- **A walk over a snapshot never ends exactly when the links run into a loop of readable
ops.** -/
theorem not_ends_iff_loops (names : Names) (head : Option Handle) (pivot : Handle)
    (cycle : UInt64) :
    (¬∃ taken result, Ends snapshot.inspector names head pivot cycle taken result) ↔
      Loops snapshot.inspector names head := by
  constructor
  · intro endless
    have unbounded : ¬∃ taken result, Ends snapshot.inspector names head pivot cycle taken result ∧
        taken ≤ snapshot.size + 1 :=
      fun ⟨taken, result, ends, _⟩ => endless ⟨taken, result, ends⟩
    obtain ⟨ops, handle, long, trail⟩ := exists_trail_of_not_ends (snapshot.size + 1) unbounded
    refine trail.loops_of_not_nodup fun distinct => ?_
    have bounded := snapshot.length_le_size trail distinct
    omega
  · rintro loops ⟨taken, result, ends⟩
    obtain ⟨ops, place, trail, stuck⟩ := ends.exists_stuck
    exact loops.not_stuck trail stuck

/-- The walk over a snapshot under given names, with a limit or without one. -/
def walker (names : Names) (limit : Option Nat) : Walker where
  live := snapshot.inspector
  names
  limit

/-- What a limit makes of the walks over a snapshot. -/
structure LimitExact (names : Names) (head : Option Handle) (pivot : Handle) (cycle : UInt64)
    (limit : Nat) : Prop where
  /-- A walk that ends having taken no more entries than the limit, the unreadable one included,
  has the result that it has without one. -/
  within : ∀ taken result, Ends snapshot.inspector names head pivot cycle taken result →
    taken ≤ limit → (snapshot.walker names (some limit)).classify head pivot cycle = some result
  /-- In every other case it is over the limit. -/
  beyond : (∀ taken result, Ends snapshot.inspector names head pivot cycle taken result →
      limit < taken) →
    (snapshot.walker names (some limit)).classify head pivot cycle =
      some (.error (.windowOverrun limit))
  /-- Without a limit a walk has the result that it ends with. -/
  unlimited : ∀ result, (snapshot.walker names none).classify head pivot cycle = some result ↔
    ∃ taken, Ends snapshot.inspector names head pivot cycle taken result
  /-- A census counts at most as many entries as there are objects, under any limit or none. -/
  visited : ∀ limit census,
    (snapshot.walker names limit).classify head pivot cycle = some (.ok census) →
      census.visited ≤ snapshot.size
  /-- A walk never ends exactly when the links run into a loop of readable ops. -/
  loops : (¬∃ taken result, Ends snapshot.inspector names head pivot cycle taken result) ↔
    Loops snapshot.inspector names head
  /-- A walk without a limit that never ends does not come back. -/
  endless : (snapshot.walker names none).classify head pivot cycle = none ↔
    Loops snapshot.inspector names head
  /-- A limit above the number of objects is exceeded by the walks that never end, and only by
  these. -/
  decides : snapshot.size < limit →
    ((snapshot.walker names (some limit)).classify head pivot cycle =
        some (.error (.windowOverrun limit)) ↔
      ¬∃ taken result, Ends snapshot.inspector names head pivot cycle taken result)
  /-- Under such a limit all others have the result that they have without one. -/
  agrees : snapshot.size < limit → ∀ result,
    (snapshot.walker names none).classify head pivot cycle = some result →
      (snapshot.walker names (some limit)).classify head pivot cycle = some result
  /-- The entries of a walk are at most as many ops as its limit, with a fault at most after
  them. -/
  entries : ∀ count, ((snapshot.walker names (some limit)).entries count head).length ≤ limit + 1 ∧
    ∃ (ops : List Op) (ending : List (Except Fault Op)),
      (snapshot.walker names (some limit)).entries count head = ops.map .ok ++ ending ∧
        ops.length ≤ limit ∧ (ending = [] ∨ ∃ fault, ending = [.error fault])
  /-- Classifying is observing the entries. -/
  observed : ∀ count, limit < count →
    (snapshot.walker names (some limit)).classify head pivot cycle =
      some (((snapshot.walker names (some limit)).entries count head).foldlM
        (fun census item => item.map fun op => census.observe op pivot cycle) {})

/-- **The limit of a walk is exact, and a limit above the number of objects decides whether the
list is cyclic.** -/
theorem classify_bound_exact (names : Names) (head : Option Handle) (pivot : Handle)
    (cycle : UInt64) (limit : Nat) : snapshot.LimitExact names head pivot cycle limit := by
  have within : ∀ taken result, Ends snapshot.inspector names head pivot cycle taken result →
      taken ≤ limit →
        (snapshot.walker names (some limit)).classify head pivot cycle = some result := by
    intro taken result ended early
    apply Walker.classify_of_ends _ ended
    rintro _ ⟨⟩
    exact early
  have late : (∀ taken result, Ends snapshot.inspector names head pivot cycle taken result →
      limit < taken) →
        (snapshot.walker names (some limit)).classify head pivot cycle =
          some (.error (.windowOverrun limit)) := by
    intro late
    apply Walker.classify_of_not_ends _ rfl
    rintro ⟨taken, result, ended, early⟩
    exact absurd early (Nat.not_le_of_lt (late taken result ended))
  have unlimited : ∀ result,
      (snapshot.walker names none).classify head pivot cycle = some result ↔
        ∃ taken, Ends snapshot.inspector names head pivot cycle taken result :=
    fun result => Walker.survey_eq_some_iff _
  have above : snapshot.size < limit → ∀ taken result,
      Ends snapshot.inspector names head pivot cycle taken result →
        (snapshot.walker names (some limit)).classify head pivot cycle = some result :=
    fun great taken result ended =>
      within taken result ended (Nat.le_trans (snapshot.taken_le ended) great)
  have loops := snapshot.not_ends_iff_loops names head pivot cycle
  refine
    { within, beyond := late, unlimited, loops, visited := ?visited, endless := ?endless,
      decides := ?decides, agrees := ?agrees, entries := ?entries, observed := ?observed }
  case visited =>
    intro limit census classified
    obtain ⟨taken, ended⟩ := Walker.ends_of_classify _ classified
    exact snapshot.visited_le ended
  case endless =>
    rw [Walker.classify_eq_none_iff, ← loops]
    exact and_iff_right rfl
  case decides =>
    intro great
    constructor
    · rintro overrun ⟨taken, result, ended⟩
      rw [above great taken result ended, Option.some.injEq] at overrun
      exact snapshot.ends_ne_overrun ended limit overrun
    · intro endless
      exact late fun taken result ended => absurd ⟨taken, result, ended⟩ endless
  case agrees =>
    intro great result classified
    obtain ⟨taken, ended⟩ := (unlimited result).mp classified
    exact above great taken result ended
  case entries =>
    intro count
    exact ⟨Walker.length_entriesFrom_le _ limit count limit head,
      Walker.exists_entriesFrom_eq _ limit count limit head⟩
  case observed =>
    intro count enough
    exact congrArg some
      (Walker.surveyWithin_eq_foldlM_entriesFrom _ limit limit count head {} enough)

end Snapshot

end Inflight
