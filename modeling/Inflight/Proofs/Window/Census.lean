import Inflight.Window.Census

/-!
# The census of a list of ops

A census is taken one op at a time, with a flag that tells whether the pivot has
been met.  Here it is said of a list of ops as a whole: how many ops stand
before the first occurrence of the pivot and how many after it, and how many in
the list wait in the scheduling window or on a cache miss.  Observing the ops of
a list one after the other, from any census on, adds just these numbers
(`Census.observeAll_eq`), so each op but the pivot becomes a sibling once and
each op that waits is counted once (`Census.gains_observeAll`).  The pivot's
handle may occur any number of times; where it occurs once, the list has its ops
before the pivot, the pivot, and its ops after the pivot.
-/

namespace Inflight

set_option autoImplicit false

/-! ## What is counted -/

/-- Whether an op is in a given state on a given path. -/
def Op.waitsIn (state : State) (offPath : Bool) (op : Op) : Bool :=
  op.state = state && op.offPath = offPath

/-- An op is completed by a cycle when it has a completion cycle and that is no later. -/
theorem Op.committedBy_eq (cycle : UInt64) : (fun op : Op => op.committedBy cycle) =
    fun op => decide (1 ≤ op.doneCycle ∧ op.doneCycle ≤ cycle) := by
  funext op
  exact (Bool.decide_and _ _).symm

theorem Op.not_committedBy_eq (cycle : UInt64) : (fun op : Op => !op.committedBy cycle) =
    fun op => decide (¬(1 ≤ op.doneCycle ∧ op.doneCycle ≤ cycle)) := by
  funext op
  rw [decide_not, ← congrFun (Op.committedBy_eq cycle) op]

/-- The ops of a list before the first op with the pivot's handle. -/
def opsBefore (pivot : Handle) (ops : List Op) : List Op :=
  ops.takeWhile (·.handle ≠ pivot)

/-- The ops of a list after the first op with the pivot's handle. -/
def opsAfter (pivot : Handle) (ops : List Op) : List Op :=
  (ops.dropWhile (·.handle ≠ pivot)).tail

/-- The census of a list of ops around a pivot. -/
def Census.ofOps (pivot : Handle) (cycle : UInt64) (ops : List Op) : Census where
  committedBefore := (opsBefore pivot ops).countP fun op => 1 ≤ op.doneCycle ∧ op.doneCycle ≤ cycle
  pendingBefore :=
    (opsBefore pivot ops).countP fun op => ¬(1 ≤ op.doneCycle ∧ op.doneCycle ≤ cycle)
  committedAfter := (opsAfter pivot ops).countP fun op => 1 ≤ op.doneCycle ∧ op.doneCycle ≤ cycle
  pendingAfter := (opsAfter pivot ops).countP fun op => ¬(1 ≤ op.doneCycle ∧ op.doneCycle ≤ cycle)
  rsOnPath := ops.countP (Op.waitsIn .inRs false)
  rsOffPath := ops.countP (Op.waitsIn .inRs true)
  missOnPath := ops.countP (Op.waitsIn .miss false)
  missOffPath := ops.countP (Op.waitsIn .miss true)
  pivotFound := pivot ∈ ops.map Op.handle
  visited := ops.length

namespace Census

variable {pivot : Handle} {cycle : UInt64}

/-! ## Observing one op -/

/-- An op is counted by its path when it waits in the scheduling window or on a cache miss. -/
theorem countWaiting_eq (census : Census) (op : Op) :
    census.countWaiting op =
      { census with
        rsOnPath := census.rsOnPath + if op.waitsIn .inRs false then 1 else 0
        rsOffPath := census.rsOffPath + if op.waitsIn .inRs true then 1 else 0
        missOnPath := census.missOnPath + if op.waitsIn .miss false then 1 else 0
        missOffPath := census.missOffPath + if op.waitsIn .miss true then 1 else 0 } := by
  obtain ⟨_, _, _, offPath, state, _, _⟩ := op
  cases state <;> cases offPath <;> rfl

/-- An op other than the pivot is counted once, by its side and by whether it is committed. -/
theorem countSide_eq (census : Census) (committed : Bool) :
    census.countSide committed =
      { census with
        committedBefore := census.committedBefore + (!census.pivotFound && committed).toNat
        pendingBefore := census.pendingBefore + (!census.pivotFound && !committed).toNat
        committedAfter := census.committedAfter + (census.pivotFound && committed).toNat
        pendingAfter := census.pendingAfter + (census.pivotFound && !committed).toNat } := by
  obtain ⟨_, _, _, _, _, _, _, _, found, _⟩ := census
  cases found <;> cases committed <;> rfl

/-- The pivot raises the flag and is counted on no side. -/
theorem observe_pivot (census : Census) {op : Op} (isPivot : op.handle = pivot) :
    census.observe op pivot cycle =
      { ({ census with visited := census.visited + 1 } : Census).countWaiting op with
        pivotFound := true } := by
  simp only [observe, if_pos isPivot]

/-- An op other than the pivot leaves the flag. -/
theorem observe_other (census : Census) {op : Op} (notPivot : op.handle ≠ pivot) :
    census.observe op pivot cycle =
      (({ census with visited := census.visited + 1 } : Census).countWaiting op).countSide
        (op.committedBy cycle) := by
  simp only [observe, if_neg notPivot]

end Census

/-! ## Observing a list of ops -/

/-- The ops of a list that count as standing before the pivot, when it may have been met before
the list begins. -/
def countedBefore (found : Bool) (pivot : Handle) (ops : List Op) : List Op :=
  if found then [] else opsBefore pivot ops

/-- The ops of a list that count as standing after the pivot, when it may have been met before
the list begins. -/
def countedAfter (found : Bool) (pivot : Handle) (ops : List Op) : List Op :=
  (if found then ops else opsAfter pivot ops).filter (·.handle ≠ pivot)

section Counted

variable {pivot : Handle} {op : Op} {ops : List Op}

theorem opsBefore_pivot (isPivot : op.handle = pivot) : opsBefore pivot (op :: ops) = [] := by
  simp [opsBefore, isPivot]

theorem opsBefore_other (notPivot : op.handle ≠ pivot) :
    opsBefore pivot (op :: ops) = op :: opsBefore pivot ops := by
  simp [opsBefore, notPivot]

theorem opsAfter_pivot (isPivot : op.handle = pivot) : opsAfter pivot (op :: ops) = ops := by
  simp [opsAfter, isPivot]

theorem opsAfter_other (notPivot : op.handle ≠ pivot) :
    opsAfter pivot (op :: ops) = opsAfter pivot ops := by
  simp [opsAfter, notPivot]

/-- A list is its ops before the pivot, the pivot if it is there, and its ops after the pivot. -/
theorem length_opsBefore_add_length_opsAfter (pivot : Handle) (ops : List Op) :
    (opsBefore pivot ops).length + (opsAfter pivot ops).length +
      (if pivot ∈ ops.map Op.handle then 1 else 0) = ops.length := by
  induction ops with
  | nil => rfl
  | cons op rest ih =>
    by_cases isPivot : op.handle = pivot
    · rw [opsBefore_pivot isPivot, opsAfter_pivot isPivot,
        if_pos (List.mem_map.mpr ⟨op, List.mem_cons_self, isPivot⟩)]
      simp
    · have same : pivot ∈ (op :: rest).map Op.handle ↔ pivot ∈ rest.map Op.handle := by
        rw [List.map_cons, List.mem_cons]
        exact or_iff_right (Ne.symm isPivot)
      rw [opsBefore_other isPivot, opsAfter_other isPivot]
      simp only [same, List.length_cons]
      omega

/-- Every op that is not the pivot counts on one side, in the order of the list. -/
theorem countedBefore_append_countedAfter (found : Bool) (pivot : Handle) (ops : List Op) :
    countedBefore found pivot ops ++ countedAfter found pivot ops =
      ops.filter (·.handle ≠ pivot) := by
  cases found with
  | true => rfl
  | false =>
    induction ops with
    | nil => rfl
    | cons op rest ih =>
      simp only [countedBefore, countedAfter, Bool.false_eq_true, if_false] at ih ⊢
      by_cases isPivot : op.handle = pivot
      · rw [opsBefore_pivot isPivot, opsAfter_pivot isPivot, List.nil_append,
          List.filter_cons_of_neg (by simpa using isPivot)]
      · rw [opsBefore_other isPivot, opsAfter_other isPivot, List.cons_append, ih,
          List.filter_cons_of_pos (by simpa using isPivot)]

/-- Where no two ops have one handle, the pivot does not occur after itself. -/
theorem handle_ne_of_mem_opsAfter (distinct : (ops.map Op.handle).Nodup) :
    ∀ other ∈ opsAfter pivot ops, other.handle ≠ pivot := by
  induction ops with
  | nil =>
    intro other member
    cases member
  | cons op rest ih =>
    intro other member
    obtain ⟨fresh, distinctRest⟩ := List.nodup_cons.mp distinct
    by_cases isPivot : op.handle = pivot
    · rw [opsAfter_pivot isPivot] at member
      intro again
      exact fresh (List.mem_map.mpr ⟨other, member, again.trans isPivot.symm⟩)
    · rw [opsAfter_other isPivot] at member
      exact ih distinctRest other member

/-- Where no two ops have one handle, the pivot parts them at its place. -/
theorem opsBefore_and_opsAfter_eq (distinct : (ops.map Op.handle).Nodup)
    {place : Nat} (here : (ops.map Op.handle)[place]? = some pivot) :
    opsBefore pivot ops = ops.take place ∧ opsAfter pivot ops = ops.drop (place + 1) := by
  induction ops generalizing place with
  | nil => cases here
  | cons op rest ih =>
    obtain ⟨fresh, others⟩ := List.nodup_cons.mp distinct
    cases place with
    | zero =>
      have isPivot : op.handle = pivot := Option.some.inj here
      exact ⟨opsBefore_pivot isPivot, opsAfter_pivot isPivot⟩
    | succ place =>
      have later : (rest.map Op.handle)[place]? = some pivot := here
      have notPivot : op.handle ≠ pivot := by
        rintro rfl
        exact fresh (List.mem_of_getElem? later)
      obtain ⟨before, after⟩ := ih others later
      rw [opsBefore_other notPivot, opsAfter_other notPivot, before, after]
      exact ⟨rfl, rfl⟩

end Counted

namespace Census

/-- The census after the ops of a list were observed one after the other. -/
def observeAll (pivot : Handle) (cycle : UInt64) (census : Census) (ops : List Op) : Census :=
  ops.foldl (fun census op => census.observe op pivot cycle) census

/-- The census with the numbers of a list of ops added to it. -/
def plusOps (pivot : Handle) (cycle : UInt64) (census : Census) (ops : List Op) : Census where
  committedBefore := census.committedBefore +
    (countedBefore census.pivotFound pivot ops).countP (·.committedBy cycle)
  pendingBefore := census.pendingBefore +
    (countedBefore census.pivotFound pivot ops).countP (!·.committedBy cycle)
  committedAfter := census.committedAfter +
    (countedAfter census.pivotFound pivot ops).countP (·.committedBy cycle)
  pendingAfter := census.pendingAfter +
    (countedAfter census.pivotFound pivot ops).countP (!·.committedBy cycle)
  rsOnPath := census.rsOnPath + ops.countP (Op.waitsIn .inRs false)
  rsOffPath := census.rsOffPath + ops.countP (Op.waitsIn .inRs true)
  missOnPath := census.missOnPath + ops.countP (Op.waitsIn .miss false)
  missOffPath := census.missOffPath + ops.countP (Op.waitsIn .miss true)
  pivotFound := census.pivotFound || pivot ∈ ops.map Op.handle
  visited := census.visited + ops.length

variable {pivot : Handle} {cycle : UInt64}

/-- The numbers of a list are those of its first op, which is observed, and those of the rest. -/
theorem plusOps_cons (census : Census) (op : Op) (rest : List Op) :
    plusOps pivot cycle census (op :: rest) =
      plusOps pivot cycle (census.observe op pivot cycle) rest := by
  -- The first pivot turns the side of all that follows; any other op is counted on the side that
  -- the flag tells, whatever the rest of the list holds.
  by_cases isPivot : op.handle = pivot
  · rw [observe_pivot census isPivot, countWaiting_eq]
    cases found : census.pivotFound <;>
      simp [plusOps, found, countedBefore, countedAfter, opsBefore_pivot, opsAfter_pivot,
        isPivot, List.countP_cons] <;>
      omega
  · rw [observe_other census isPivot, countWaiting_eq, countSide_eq]
    cases found : census.pivotFound <;> cases committed : op.committedBy cycle <;>
      simp [plusOps, found, committed, countedBefore, countedAfter, opsBefore_other,
        opsAfter_other, isPivot, Ne.symm isPivot, List.countP_cons] <;>
      omega

/-- **Observing a list of ops adds its numbers to the census.** -/
theorem observeAll_eq (ops : List Op) :
    ∀ census : Census, observeAll pivot cycle census ops = plusOps pivot cycle census ops := by
  induction ops with
  | nil =>
    intro census
    simp [observeAll, plusOps, countedBefore, countedAfter, opsBefore, opsAfter]
  | cons op rest ih =>
    intro census
    calc observeAll pivot cycle census (op :: rest)
        = observeAll pivot cycle (census.observe op pivot cycle) rest := rfl
      _ = plusOps pivot cycle (census.observe op pivot cycle) rest := ih _
      _ = plusOps pivot cycle census (op :: rest) := (plusOps_cons census op rest).symm

/-- What a census gains by a list of ops, of which any number may be the pivot.  The ops before
the first of them count on one side and those after it on the other, unless the pivot was found
earlier; in the scheduling window and on a cache miss all count, the pivot as well. -/
structure Gains (pivot : Handle) (cycle : UInt64) (ops : List Op) (before after : Census) :
    Prop where
  visited : after.visited = before.visited + ops.length
  siblings : after.siblings = before.siblings + (ops.filter (·.handle ≠ pivot)).length
  committedBefore : after.committedBefore = before.committedBefore +
    (countedBefore before.pivotFound pivot ops).countP fun op =>
      1 ≤ op.doneCycle ∧ op.doneCycle ≤ cycle
  pendingBefore : after.pendingBefore = before.pendingBefore +
    (countedBefore before.pivotFound pivot ops).countP fun op =>
      ¬(1 ≤ op.doneCycle ∧ op.doneCycle ≤ cycle)
  committedAfter : after.committedAfter = before.committedAfter +
    (countedAfter before.pivotFound pivot ops).countP fun op =>
      1 ≤ op.doneCycle ∧ op.doneCycle ≤ cycle
  pendingAfter : after.pendingAfter = before.pendingAfter +
    (countedAfter before.pivotFound pivot ops).countP fun op =>
      ¬(1 ≤ op.doneCycle ∧ op.doneCycle ≤ cycle)
  rsOnPath : after.rsOnPath = before.rsOnPath + ops.countP (Op.waitsIn .inRs false)
  rsOffPath : after.rsOffPath = before.rsOffPath + ops.countP (Op.waitsIn .inRs true)
  missOnPath : after.missOnPath = before.missOnPath + ops.countP (Op.waitsIn .miss false)
  missOffPath : after.missOffPath = before.missOffPath + ops.countP (Op.waitsIn .miss true)
  pivotFound : after.pivotFound = true ↔
    before.pivotFound = true ∨ ∃ op ∈ ops, op.handle = pivot

/-- With the numbers of a list each op but the pivot is added on one side. -/
theorem siblings_plusOps (census : Census) (ops : List Op) :
    (plusOps pivot cycle census ops).siblings =
      census.siblings + (ops.filter (·.handle ≠ pivot)).length := by
  have parts := congrArg List.length
    (countedBefore_append_countedAfter census.pivotFound pivot ops)
  have early := List.length_eq_countP_add_countP (fun op : Op => op.committedBy cycle)
    (l := countedBefore census.pivotFound pivot ops)
  have late := List.length_eq_countP_add_countP (fun op : Op => op.committedBy cycle)
    (l := countedAfter census.pivotFound pivot ops)
  rw [List.length_append] at parts
  simp only [Bool.not_eq_true, Bool.decide_eq_false] at early late
  simp only [siblings, Census.before, Census.after, plusOps]
  omega

/-- **Each op of a list is counted once, from any census on.**  All ops are visited, and those that
wait are counted by path; every op but the pivot is a sibling, committed or pending, before the
first pivot or after it. -/
theorem gains_observeAll (pivot : Handle) (cycle : UInt64) (census : Census) (ops : List Op) :
    Gains pivot cycle ops census (observeAll pivot cycle census ops) := by
  rw [observeAll_eq]
  constructor
  case visited => rfl
  case siblings => exact siblings_plusOps census ops
  case committedBefore => rw [plusOps, Op.committedBy_eq]
  case pendingBefore => rw [plusOps, Op.not_committedBy_eq]
  case committedAfter => rw [plusOps, Op.committedBy_eq]
  case pendingAfter => rw [plusOps, Op.not_committedBy_eq]
  case rsOnPath => rfl
  case rsOffPath => rfl
  case missOnPath => rfl
  case missOffPath => rfl
  case pivotFound => simp [plusOps]

/-! ## Lists in which every op has a handle of its own -/

/-- The census of ops with handles of their own, taken one by one from nothing, is the census
of their list. -/
theorem observeAll_of_nodup {ops : List Op} (distinct : (ops.map Op.handle).Nodup) :
    observeAll pivot cycle {} ops = ofOps pivot cycle ops := by
  have after : (opsAfter pivot ops).filter (·.handle ≠ pivot) = opsAfter pivot ops :=
    List.filter_eq_self.mpr fun other member => by
      simpa using handle_ne_of_mem_opsAfter distinct other member
  rw [observeAll_eq]
  simp only [plusOps, ofOps, countedBefore, countedAfter, Bool.false_eq_true, if_false, after,
    Op.committedBy_eq, Op.not_committedBy_eq, Nat.zero_add, Bool.false_or]

/-- In the census of a list every op but the pivot stands on one side. -/
theorem siblings_ofOps (pivot : Handle) (cycle : UInt64) (ops : List Op) :
    (ofOps pivot cycle ops).siblings + (if (ofOps pivot cycle ops).pivotFound then 1 else 0) =
      (ofOps pivot cycle ops).visited := by
  have split := length_opsBefore_add_length_opsAfter pivot ops
  have before := List.length_eq_countP_add_countP
    (fun op : Op => decide (1 ≤ op.doneCycle ∧ op.doneCycle ≤ cycle)) (l := opsBefore pivot ops)
  have after := List.length_eq_countP_add_countP
    (fun op : Op => decide (1 ≤ op.doneCycle ∧ op.doneCycle ≤ cycle)) (l := opsAfter pivot ops)
  simp only [decide_eq_true_eq] at before after
  simp only [siblings, Census.before, Census.after, ofOps, decide_eq_true_eq]
  omega

end Census

end Inflight
