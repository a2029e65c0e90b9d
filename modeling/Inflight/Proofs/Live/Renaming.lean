import Inflight.Proofs.Event
import Mathlib.Logic.Function.Basic

/-!
# Reading under other handles

A handle is an identity and nothing else: it is passed on to further reads, it
is compared with the pivot's, and a fault may name it, but no handle is ever
taken apart, put in an order or shown in a record.  So when one inspector holds
under changed handles what another holds under the handles themselves
(`Inspector.Renames`), every read of an event gives the same through both, up to
that change (`Inspector.Renames.sight`).  The change has to keep handles apart,
because the pivot is found by its handle.
-/

namespace Inflight

set_option autoImplicit false

/-! ## Changing handles -/

section Changes

variable (change : Handle → Handle)

/-- A value with its handle changed. -/
def Value.rename : Value → Value
  | .object handle => .object (change handle)
  | .scalar word => .scalar word
  | .null => .null

/-- A fault with the handle that it names changed. -/
def Fault.rename : Fault → Fault
  | .missingField handle field => .missingField (change handle) field
  | .danglingHandle handle => .danglingHandle (change handle)
  | fault => fault

/-- An op with its own handle and that of the next op changed. -/
def Op.rename (op : Op) : Op :=
  { op with handle := change op.handle, next := op.next.map change }

/-- A capture with the handles of its pivot changed. -/
def Capture.rename (capture : Capture) : Capture :=
  { capture with pivot := capture.pivot.rename change }

/-- What an event shows, with handles changed. -/
def Sighting.rename : Sighting → Sighting
  | .outside cycle => .outside cycle
  | .captured capture => .captured (capture.rename change)
  | .endless => .endless

/-- The result of a read with handles changed: in its value by the given function, and in its
fault. -/
def carry {α β : Type} (convert : α → β) : Except Fault α → Except Fault β
  | .ok value => .ok (convert value)
  | .error fault => .error (fault.rename change)

end Changes

variable {change : Handle → Handle}

/-- Two reads one after the other are carried when each is. -/
theorem carry_bind {α β γ δ : Type} {convert : α → β} {finish : γ → δ} {first : Except Fault α}
    {other : Except Fault β} {next : α → Except Fault γ} {onward : β → Except Fault δ}
    (same : other = carry change convert first)
    (later : ∀ value, onward (convert value) = carry change finish (next value)) :
    other >>= onward = carry change finish (first >>= next) := by
  subst same
  cases first with
  | error fault => rfl
  | ok value => exact later value

/-- A walk that comes back is carried, and one that does not stays away. -/
theorem carry_sequence {α : Type} (walk : Option (Except Fault α)) :
    (walk.map (carry change id)).sequence = carry change (Option.map id) walk.sequence := by
  rcases walk with _ | (fault | value) <;> rfl

namespace Value

variable (name : String) (value : Value)

theorem asScalar_rename :
    (value.rename change).asScalar name = carry change id (value.asScalar name) := by
  cases value <;> rfl

theorem asObject_rename :
    (value.rename change).asObject name = carry change change (value.asObject name) := by
  cases value <;> rfl

theorem asLink_rename :
    (value.rename change).asLink name = carry change (Option.map change) (value.asLink name) := by
  cases value <;> rfl

end Value

/-- No encoding of a state holds a handle. -/
theorem State.decode_rename (encoding : UInt64) :
    State.decode encoding = carry change id (State.decode encoding) := by
  unfold State.decode
  split <;> rfl

/-! ## Inspectors -/

/-- Under changed handles one inspector holds what the other holds under the handles, and
different handles stay different. -/
structure Inspector.Renames (change : Handle → Handle) (live moved : Inspector) : Prop where
  injective : Function.Injective change
  resolve : ∀ name, moved.resolve name = carry change (Value.rename change) (live.resolve name)
  field : ∀ handle name,
    moved.field (change handle) name = carry change (Value.rename change) (live.field handle name)

namespace Inspector.Renames

variable {live moved : Inspector}

theorem follow (renames : Renames change live moved) (segments : List String) :
    ∀ (behind : List String) (value : Value),
      moved.follow behind (value.rename change) segments =
        carry change (Value.rename change) (live.follow behind value segments) := by
  induction segments with
  | nil =>
    intro behind value
    rw [Inspector.follow, Inspector.follow]
    rfl
  | cons segment rest ih =>
    intro behind value
    cases value with
    | scalar word => rfl
    | null => rfl
    | object handle =>
      have first := renames.field handle segment
      cases read : live.field handle segment with
      | error fault =>
        rw [read] at first
        simp only [Inspector.follow, Value.rename, first, read, carry]
      | ok value =>
        rw [read] at first
        simp only [Inspector.follow, Value.rename, first, read, carry]
        exact ih _ value

section Derived

variable (renames : Renames change live moved)

include renames

theorem path (handle : Handle) (dotted : String) :
    moved.path (change handle) dotted =
      carry change (Value.rename change) (live.path handle dotted) :=
  renames.follow _ [] (.object handle)

theorem resolveScalar (name : String) :
    moved.resolveScalar name = carry change id (live.resolveScalar name) :=
  carry_bind (renames.resolve name) (Value.asScalar_rename name)

theorem resolveObject (name : String) :
    moved.resolveObject name = carry change change (live.resolveObject name) :=
  carry_bind (renames.resolve name) (Value.asObject_rename name)

theorem scalarAt (handle : Handle) (dotted : String) :
    moved.scalarAt (change handle) dotted = carry change id (live.scalarAt handle dotted) :=
  carry_bind (renames.path handle dotted) (Value.asScalar_rename dotted)

theorem objectAt (handle : Handle) (dotted : String) :
    moved.objectAt (change handle) dotted = carry change change (live.objectAt handle dotted) :=
  carry_bind (renames.path handle dotted) (Value.asObject_rename dotted)

theorem linkAt (handle : Handle) (dotted : String) :
    moved.linkAt (change handle) dotted =
      carry change (Option.map change) (live.linkAt handle dotted) :=
  carry_bind (renames.path handle dotted) (Value.asLink_rename dotted)

/-! ## What a record is made of -/

variable (names : Names) (handle : Handle)

theorem readOp :
    Op.read moved names (change handle) =
      carry change (Op.rename change) (Op.read live names handle) := by
  have scalar := renames.scalarAt handle
  refine carry_bind (scalar names.opAddr) fun addr => ?_
  refine carry_bind (scalar names.opNum) fun opNum => ?_
  refine carry_bind (scalar names.opOffPath) fun offPath => ?_
  refine carry_bind (scalar names.opState) fun encoding => ?_
  refine carry_bind (State.decode_rename encoding) fun state => ?_
  refine carry_bind (scalar names.opDoneCycle) fun doneCycle => ?_
  exact carry_bind (renames.linkAt handle names.opNext) fun next => rfl

theorem readPrediction :
    Oracle.readPrediction moved names (change handle) =
      carry change id (Oracle.readPrediction live names handle) := by
  refine carry_bind (renames.scalarAt handle names.opMispred) fun mispred => ?_
  dsimp only [id_eq]
  split
  · rfl
  · refine carry_bind (renames.scalarAt handle names.opMisfetch) fun misfetch => ?_
    dsimp only [id_eq]
    split <;> rfl

theorem readOracle :
    Oracle.read moved names (change handle) =
      carry change id (Oracle.read live names handle) := by
  have scalar := renames.scalarAt handle
  refine carry_bind (renames.readPrediction names handle) fun prediction => ?_
  refine carry_bind (scalar names.opPredConf) fun predConf => ?_
  refine carry_bind (scalar names.opPredConfIndex) fun confIndex => ?_
  exact carry_bind (scalar names.opNpc) fun target => rfl

theorem confCounter (oracle : Oracle) :
    oracle.confCounter moved names = carry change id (oracle.confCounter live names) :=
  carry_bind (renames.resolveObject names.confCounters) fun table => renames.scalarAt table _

theorem readColumns :
    OracleColumns.read moved names (change handle) =
      carry change id (OracleColumns.read live names handle) :=
  carry_bind (renames.readOracle names handle) fun oracle =>
    carry_bind (renames.confCounter names oracle) fun _ => rfl

end Derived

end Inspector.Renames

/-! ## Walks -/

/-- An op is the pivot under its changed handle exactly when it is under its own. -/
theorem Census.observe_rename (apart : Function.Injective change) (census : Census) (op : Op)
    (pivot : Handle) (cycle : UInt64) :
    census.observe (op.rename change) (change pivot) cycle = census.observe op pivot cycle := by
  have same : (op.rename change).handle = change pivot ↔ op.handle = pivot := apart.eq_iff
  unfold observe
  simp only [same]
  rfl

namespace Inspector.Renames

variable {live moved : Inspector} (renames : Renames change live moved)

include renames

theorem surveyWithin (names : Names) (bound : Option Nat) (pivot : Handle) (cycle : UInt64)
    (limit room : Nat) : ∀ (head : Option Handle) (census : Census),
      Walker.surveyWithin ⟨moved, names, bound⟩ (change pivot) cycle limit room
          (head.map change) census =
        carry change id
          (Walker.surveyWithin ⟨live, names, bound⟩ pivot cycle limit room head census) := by
  induction room with
  | zero =>
    intro head census
    cases head <;> rfl
  | succ room ih =>
    intro head census
    cases head with
    | none => rfl
    | some handle =>
      have read := renames.readOp names handle
      rw [Option.map_some, Walker.surveyWithin, Walker.surveyWithin, read]
      cases Op.read live names handle with
      | error fault => rfl
      | ok op =>
        have counted := census.observe_rename renames.injective op pivot cycle
        simp only [carry]
        rw [counted]
        exact ih op.next _

/-- A walk that comes back does so under the changed handles. -/
theorem survey_eq_some {names : Names} {bound : Option Nat} {pivot : Handle} {cycle : UInt64}
    {head : Option Handle} {census : Census} {result : Except Fault Census}
    (surveyed : Walker.survey ⟨live, names, bound⟩ pivot cycle head census = some result) :
    Walker.survey ⟨moved, names, bound⟩ (change pivot) cycle (head.map change) census =
      some (carry change id result) := by
  refine Walker.survey.partial_correctness ⟨live, names, bound⟩ pivot cycle
    (fun head census result =>
      Walker.survey ⟨moved, names, bound⟩ (change pivot) cycle (head.map change) census =
        some (carry change id result))
    ?_ head census result surveyed
  intro onward ih head census result surveyed
  cases head with
  | none =>
    obtain rfl := Option.some.inj surveyed
    exact Walker.survey_none _ census
  | some handle =>
    have read := renames.readOp names handle
    dsimp only at surveyed
    rw [Option.map_some, Walker.survey]
    dsimp only
    rw [read]
    cases readable : Op.read live names handle with
    | error fault =>
      rw [readable] at surveyed
      obtain rfl := Option.some.inj surveyed
      rfl
    | ok op =>
      rw [readable] at surveyed
      simp only [carry, census.observe_rename renames.injective op pivot cycle]
      exact ih _ _ _ surveyed

/-- A walk that comes back under the changed handles does so under the handles. -/
theorem exists_survey_eq_some {names : Names} {bound : Option Nat} {pivot : Handle}
    {cycle : UInt64} {head : Option Handle} {census : Census} {result : Except Fault Census}
    (surveyed : Walker.survey ⟨moved, names, bound⟩ (change pivot) cycle (head.map change) census =
      some result) :
    ∃ own, Walker.survey ⟨live, names, bound⟩ pivot cycle head census = some own := by
  generalize place : head.map change = other at surveyed
  refine Walker.survey.partial_correctness ⟨moved, names, bound⟩ (change pivot) cycle
    (fun other census _ => ∀ head : Option Handle, head.map change = other →
      ∃ own, Walker.survey ⟨live, names, bound⟩ pivot cycle head census = some own)
    ?_ other census result surveyed head place
  rintro onward ih _ census result surveyed head rfl
  cases head with
  | none => exact ⟨_, Walker.survey_none _ census⟩
  | some handle =>
    have read := renames.readOp names handle
    dsimp only [Option.map_some] at surveyed
    rw [Walker.survey]
    dsimp only
    cases readable : Op.read live names handle with
    | error fault => exact ⟨_, rfl⟩
    | ok op =>
      rw [read, readable] at surveyed
      simp only [carry, census.observe_rename renames.injective op pivot cycle] at surveyed
      exact ih _ _ _ surveyed op.next rfl

/-- Walks come back alike, or neither does. -/
theorem survey (names : Names) (bound : Option Nat) (pivot : Handle) (cycle : UInt64)
    (head : Option Handle) (census : Census) :
    Walker.survey ⟨moved, names, bound⟩ (change pivot) cycle (head.map change) census =
      (Walker.survey ⟨live, names, bound⟩ pivot cycle head census).map (carry change id) := by
  cases own : Walker.survey ⟨live, names, bound⟩ pivot cycle head census with
  | some result => exact renames.survey_eq_some own
  | none =>
    rw [Option.map_none, Option.eq_none_iff_forall_ne_some]
    intro result surveyed
    obtain ⟨found, comesBack⟩ := renames.exists_survey_eq_some surveyed
    rw [own] at comesBack
    cases comesBack

theorem classifyWindow (config : Config) (window pivot : Handle) (cycle : UInt64) :
    (config.walker moved).classifyWindow (change window) (change pivot) cycle =
      ((config.walker live).classifyWindow window pivot cycle).map (carry change id) := by
  have link := renames.linkAt window config.names.windowHead
  unfold Walker.classifyWindow Config.walker
  dsimp only
  rw [link]
  cases live.linkAt window config.names.windowHead with
  | error fault => rfl
  | ok head =>
    dsimp only [carry, Walker.classify]
    cases config.general.maxWalk with
    | none => exact renames.survey config.names none pivot cycle head {}
    | some limit => exact congrArg some (renames.surveyWithin config.names _ pivot cycle _ _ head {})

/-! ## Events -/

theorem readCapture (config : Config) (trigger : Trigger) (op window recovery : Handle)
    (cycle : UInt64) :
    Capture.read config moved trigger (change op) (change window) (change recovery) cycle =
      carry change (Option.map (Capture.rename change))
        (Capture.read config live trigger op window recovery cycle) := by
  have oracle : ∀ pivot, Capture.readOracle config moved (change pivot) =
      carry change id (Capture.readOracle config live pivot) := by
    intro pivot
    unfold Capture.readOracle
    split
    · rw [renames.readColumns]
      cases OracleColumns.read live config.names pivot <;> rfl
    · rfl
  rw [Capture.read_eq, Capture.read_eq]
  refine carry_bind (renames.readOp config.names op) fun pivot => ?_
  refine carry_bind (renames.scalarAt recovery _) fun fetchAddr => ?_
  refine carry_bind (renames.scalarAt window _) fun windowTotal => ?_
  refine carry_bind (renames.scalarAt window _) fun rsTotal => ?_
  refine carry_bind (oracle pivot.handle) fun columns => ?_
  have walked := congrArg Option.sequence
    (renames.classifyWindow config window pivot.handle cycle)
  refine carry_bind (walked.trans (carry_sequence _)) fun census => ?_
  cases census <;> rfl

theorem look (event : Event) (config : Config) (op window recovery : Handle) (cycle : UInt64) :
    event.look config moved (change op) (change window) (change recovery) cycle =
      carry change (Sighting.rename change)
        (event.look config live op window recovery cycle) := by
  have trigger : event.readTrigger moved config.names (change recovery) =
      carry change id (event.readTrigger live config.names recovery) := by
    cases event with
    | recoveryEnd => rfl
    | mispredict =>
      unfold Event.readTrigger
      rw [renames.scalarAt]
      cases live.scalarAt recovery config.names.recoveryCycle <;> rfl
  unfold Event.look
  split
  · refine carry_bind trigger fun trigger => ?_
    refine carry_bind (renames.readCapture config trigger op window recovery cycle) fun captured => ?_
    cases captured <;> rfl
  · rfl

/-- **Handles are identities.**  An event is sighted alike through both inspectors, up to the
change of handles. -/
theorem sight (event : Event) (config : Config) :
    event.sight config moved = carry change (Sighting.rename change) (event.sight config live) := by
  have object := renames.resolveObject
  have cycles := renames.resolveScalar config.names.cycleCount
  cases event with
  | mispredict =>
    rw [Event.sight_mispredict, Event.sight_mispredict]
    refine carry_bind (object _) fun op => carry_bind (object _) fun window => ?_
    refine carry_bind cycles fun cycle => carry_bind (object _) fun recovery => ?_
    exact renames.look _ config op window recovery cycle
  | recoveryEnd =>
    rw [Event.sight_recoveryEnd, Event.sight_recoveryEnd]
    refine carry_bind (object _) fun recovery => ?_
    refine carry_bind (renames.objectAt recovery _) fun op => ?_
    refine carry_bind (object _) fun window => carry_bind cycles fun cycle => ?_
    exact renames.look _ config op window recovery cycle

end Inspector.Renames

end Inflight
