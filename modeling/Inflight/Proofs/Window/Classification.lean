import Inflight.Proofs.Window.Census
import Inflight.Proofs.Window.Trail
import Inflight.Window.Walk

/-!
# Classifying a window

A walk visits the ops of a trail one after the other and observes each, as long
as its limit allows (`Walker.surveyWithin_of_trail`, `Walker.survey_of_trail`).
So the census of a window whose list ends is the census of the list of its ops
(`Walker.classify_eq_ofOps`): the handles of such a list are distinct, the pivot
is met at most once, and every other op stands on one side of it.
-/

namespace Inflight

set_option autoImplicit false

namespace Walker

variable (walker : Walker) {pivot : Handle} {cycle : UInt64} {head place : Option Handle}
  {ops : List Op}

/-! ## The cases of a walk with a limit -/

theorem surveyWithin_none (limit room : Nat) (census : Census) :
    walker.surveyWithin pivot cycle limit room none census = .ok census := by
  cases room <;> rfl

theorem surveyWithin_beyond (limit : Nat) (handle : Handle) (census : Census) :
    walker.surveyWithin pivot cycle limit 0 (some handle) census =
      .error (.windowOverrun limit) :=
  rfl

theorem surveyWithin_unreadable {handle : Handle} {fault : Fault}
    (unreadable : Op.read walker.live walker.names handle = .error fault) (limit room : Nat)
    (census : Census) :
    walker.surveyWithin pivot cycle limit (room + 1) (some handle) census = .error fault := by
  simp only [surveyWithin, unreadable]

theorem surveyWithin_readable {handle : Handle} {op : Op}
    (readable : Op.read walker.live walker.names handle = .ok op) (limit room : Nat)
    (census : Census) :
    walker.surveyWithin pivot cycle limit (room + 1) (some handle) census =
      walker.surveyWithin pivot cycle limit room op.next (census.observe op pivot cycle) := by
  simp only [surveyWithin, readable]

/-- A walk with room for a trail observes its ops and goes on from its end. -/
theorem surveyWithin_of_trail (trail : Trail walker.live walker.names head ops place)
    (limit room : Nat) (census : Census) :
    walker.surveyWithin pivot cycle limit (ops.length + room) head census =
      walker.surveyWithin pivot cycle limit room place (census.observeAll pivot cycle ops) := by
  induction trail generalizing census with
  | here => rw [List.length_nil, Nat.zero_add]; rfl
  | @next handle op ops place readable _ ih =>
    rw [List.length_cons, Nat.add_right_comm, surveyWithin_readable walker readable, ih]
    rfl

/-! ## The cases of a walk without a limit -/

theorem survey_none (census : Census) :
    walker.survey pivot cycle none census = some (.ok census) := by
  rw [survey]

theorem survey_unreadable {handle : Handle} {fault : Fault}
    (unreadable : Op.read walker.live walker.names handle = .error fault) (census : Census) :
    walker.survey pivot cycle (some handle) census = some (.error fault) := by
  rw [survey, unreadable]

theorem survey_readable {handle : Handle} {op : Op}
    (readable : Op.read walker.live walker.names handle = .ok op) (census : Census) :
    walker.survey pivot cycle (some handle) census =
      walker.survey pivot cycle op.next (census.observe op pivot cycle) := by
  rw [survey, readable]

/-- A walk observes the ops of a trail and goes on from its end. -/
theorem survey_of_trail (trail : Trail walker.live walker.names head ops place)
    (census : Census) :
    walker.survey pivot cycle head census =
      walker.survey pivot cycle place (census.observeAll pivot cycle ops) := by
  induction trail generalizing census with
  | here => rfl
  | next readable _ ih =>
    rw [survey_readable walker readable, ih]
    rfl

/-! ## Windows whose list ends -/

/-- A list that ends within the limit, if there is one, is observed to its end. -/
theorem classify_of_chain (chain : Trail walker.live walker.names head ops none)
    (bounded : ∀ limit, walker.limit = some limit → ops.length ≤ limit) :
    walker.classify head pivot cycle = some (.ok (Census.observeAll pivot cycle {} ops)) := by
  unfold classify
  cases limited : walker.limit with
  | none => exact (survey_of_trail walker chain {}).trans (survey_none walker _)
  | some limit =>
    obtain ⟨left, enough⟩ := Nat.exists_eq_add_of_le (bounded limit limited)
    apply congrArg some
    rw [enough, surveyWithin_of_trail walker chain, surveyWithin_none]

/-- **The classification of a window is the census of the list of its ops.**  Along any chain of
readable ops that ends in a null pointer, within the limit of the walk if it has one: each count
of the census is the count of the list, by the position of the pivot and over the whole list;
no handle occurs twice, so the pivot is met at most once; and every entry but the pivot stands
on one side of it. -/
theorem classify_eq_ofOps (head : Option Handle) (ops : List Op) (pivot : Handle)
    (cycle : UInt64) (chain : Trail walker.live walker.names head ops none)
    (bounded : ∀ limit, walker.limit = some limit → ops.length ≤ limit) :
    let census := Census.ofOps pivot cycle ops
    walker.classify head pivot cycle = some (.ok census) ∧
      (ops.map Op.handle).Nodup ∧ (ops.map Op.handle).count pivot ≤ 1 ∧
      census.siblings + (if census.pivotFound then 1 else 0) = census.visited := by
  have distinct := chain.nodup_of_stuck stuck_none
  refine ⟨?_, distinct, List.nodup_iff_count.mp distinct pivot,
    Census.siblings_ofOps pivot cycle ops⟩
  rw [classify_of_chain walker chain bounded, Census.observeAll_of_nodup distinct]

/-- Three ops in a row: one that is done, one in the scheduling window, and one on a wrong path
that waits on a cache miss. -/
def threeOps : Snapshot where
  objects := #[
    .ofList [("pc", .scalar 16), ("seq", .scalar 1), ("off", .flag false), ("state", .scalar 12),
      ("done", .scalar 3), ("next", .ref ⟨1⟩)],
    .ofList [("pc", .scalar 20), ("seq", .scalar 2), ("off", .flag false), ("state", .scalar 2),
      ("done", .scalar 0), ("next", .ref ⟨2⟩)],
    .ofList [("pc", .scalar 24), ("seq", .scalar 3), ("off", .flag true), ("state", .scalar 9),
      ("done", .scalar 9), ("next", .null)]]

/-- A walk over the three ops that may visit just as many. -/
def threeOpsWalker : Walker where
  live := threeOps.inspector
  names := { opAddr := "pc", opNum := "seq", opOffPath := "off", opState := "state",
             opDoneCycle := "done", opNext := "next" }
  limit := some 3

/-- Around the second of the three ops at cycle 5, a committed op stands before and a pending one
after. -/
theorem classify_threeOps :
    (∃ ops, Trail threeOpsWalker.live threeOpsWalker.names (some ⟨0⟩) ops none ∧
      ∀ limit, threeOpsWalker.limit = some limit → ops.length ≤ limit) ∧
    threeOpsWalker.classify (some ⟨0⟩) ⟨1⟩ 5 =
      some (.ok { committedBefore := 1, pendingAfter := 1, rsOnPath := 1, missOffPath := 1,
                  pivotFound := true, visited := 3 }) := by
  have chain : Trail threeOpsWalker.live threeOpsWalker.names (some ⟨0⟩)
      [⟨⟨0⟩, ⟨16⟩, 1, false, .done, 3, some ⟨1⟩⟩, ⟨⟨1⟩, ⟨20⟩, 2, false, .inRs, 0, some ⟨2⟩⟩,
        ⟨⟨2⟩, ⟨24⟩, 3, true, .miss, 9, none⟩] none :=
    .next rfl (.next rfl (.next rfl (.here none)))
  have bounded : ∀ limit, threeOpsWalker.limit = some limit → 3 ≤ limit := by
    intro limit limited
    cases limited
    exact Nat.le_refl 3
  exact ⟨⟨_, chain, bounded⟩,
    (classify_eq_ofOps threeOpsWalker (some ⟨0⟩) _ ⟨1⟩ 5 chain bounded).1⟩

end Walker

end Inflight
