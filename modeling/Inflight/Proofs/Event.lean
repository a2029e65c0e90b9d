import Inflight.Event
import Inflight.Proofs.Window.Bound

/-!
# What events read

An event is sighted by reading: the structures that it is about and the cycle,
and then, when the cycle is one that is recorded, all that a record shows.  Here
the reads of an event are listed as equations between the live state and what
was captured, and an event is sighted exactly when all of these hold
(`Event.sight_eq_ok_iff`).  So a record can only come of an event none of whose
reads failed, and an event is passed over exactly when the reads before the gate
succeed and the cycle is outside.  An event is endless exactly when all that is
read ahead of the walk can be read, and the walk has neither a limit nor an end
(`Event.sight_eq_endless_iff`).
-/

namespace Inflight

set_option autoImplicit false

/-- Reads the oracle's columns of an op when they are to be told. -/
def Capture.readOracle (config : Config) (live : Inspector) (op : Handle) :
    Except Fault (Option OracleColumns) :=
  if config.columns.oracle then (OracleColumns.read live config.names op).map some
  else pure none

/-- The reads of a record before the window is walked: the pivot, the redirect, the totals, and the
oracle's columns when they are to be told. -/
structure Capture.ReadsAhead (config : Config) (live : Inspector) (op window recovery : Handle)
    (capture : Capture) : Prop where
  pivot : Op.read live config.names op = .ok capture.pivot
  fetchAddr :
    live.scalarAt recovery config.names.recoveryFetchAddr = .ok capture.fetchAddr.word
  windowTotal : live.scalarAt window config.names.windowCount = .ok capture.windowTotal
  rsTotal : live.scalarAt window config.names.rsCount = .ok capture.rsTotal
  oracle : Capture.readOracle config live op = .ok capture.oracle

/-- The reads of a record: those before the walk, and every entry of the window. -/
structure Capture.Reads (config : Config) (live : Inspector) (op window recovery : Handle)
    (capture : Capture) : Prop extends capture.ReadsAhead config live op window recovery where
  census :
    (config.walker live).classifyWindow window op capture.cycle = some (.ok capture.census)

/-- Whether the oracle is asked does not change what is read after it. -/
theorem Capture.read_eq (config : Config) (live : Inspector) (trigger : Trigger)
    (op window recovery : Handle) (cycle : UInt64) :
    Capture.read config live trigger op window recovery cycle = (do
      let pivot ← Op.read live config.names op
      let fetchAddr ← live.scalarAt recovery config.names.recoveryFetchAddr
      let windowTotal ← live.scalarAt window config.names.windowCount
      let rsTotal ← live.scalarAt window config.names.rsCount
      let oracle ← Capture.readOracle config live pivot.handle
      let census ← ((config.walker live).classifyWindow window pivot.handle cycle).sequence
      return census.map fun census =>
        { trigger, pivot, cycle, fetchAddr := ⟨fetchAddr⟩, windowTotal, rsTotal, oracle,
          census }) := by
  unfold Capture.read Capture.readOracle
  cases config.columns.oracle <;> rfl

/-- A walk that comes back without a fault gives its census, and one that never comes back gives
nothing. -/
theorem sequence_eq_ok_iff {α : Type} {walk : Option (Except Fault α)} {found : Option α} :
    walk.sequence = .ok found ↔ walk = found.map .ok := by
  rcases walk with _ | (fault | census) <;> cases found <;>
    simp [Option.sequence, Functor.map, Except.map, pure, Except.pure]

theorem sequence_eq_error_iff {α : Type} {walk : Option (Except Fault α)} {fault : Fault} :
    walk.sequence = .error fault ↔ walk = some (.error fault) := by
  rcases walk with _ | (other | census) <;>
    simp [Option.sequence, Functor.map, Except.map, pure, Except.pure]

/-- The window is walked once its head is found. -/
theorem Walker.sequence_classifyWindow (walker : Walker) (window pivot : Handle)
    (cycle : UInt64) :
    (walker.classifyWindow window pivot cycle).sequence = (do
      let head ← walker.live.linkAt window walker.names.windowHead
      (walker.classify head pivot cycle).sequence) := by
  unfold classifyWindow
  cases walker.live.linkAt window walker.names.windowHead <;> rfl

/-- What is captured, and that nothing is, tells of every read up to the walk and of the walk. -/
theorem Capture.read_eq_ok {config : Config} {live : Inspector} {trigger : Trigger}
    {op window recovery : Handle} {cycle : UInt64} {captured : Option Capture} :
    Capture.read config live trigger op window recovery cycle = .ok captured ↔
      ∃ ahead : Capture, ahead.trigger = trigger ∧ ahead.cycle = cycle ∧
        ahead.ReadsAhead config live op window recovery ∧
        ∃ census, (config.walker live).classifyWindow window op cycle =
          Option.map .ok census ∧ captured = census.map fun census => { ahead with census } := by
  simp only [Capture.read_eq, bind_eq_ok, sequence_eq_ok_iff]
  constructor
  · rintro ⟨pivot, pivotRead, fetchAddr, fetchAddrRead, windowTotal, windowTotalRead, rsTotal,
      rsTotalRead, oracle, oracleRead, census, walked, done⟩
    obtain rfl := Op.handle_of_read pivotRead
    cases done
    exact ⟨{ trigger, pivot, cycle, fetchAddr := ⟨fetchAddr⟩, windowTotal, rsTotal, oracle,
             census := {} },
      rfl, rfl, ⟨pivotRead, fetchAddrRead, windowTotalRead, rsTotalRead, oracleRead⟩, census,
      walked, rfl⟩
  · rintro ⟨ahead, rfl, rfl, reads, census, walked, rfl⟩
    obtain rfl := Op.handle_of_read reads.pivot
    exact ⟨_, reads.pivot, _, reads.fetchAddr, _, reads.windowTotal, _, reads.rsTotal, _,
      reads.oracle, _, walked, rfl⟩

/-- A capture succeeds exactly when every read of it does. -/
theorem Capture.read_eq_ok_iff {config : Config} {live : Inspector} {trigger : Trigger}
    {op window recovery : Handle} {cycle : UInt64} {capture : Capture} :
    Capture.read config live trigger op window recovery cycle = .ok (some capture) ↔
      capture.trigger = trigger ∧ capture.cycle = cycle ∧
        capture.Reads config live op window recovery := by
  rw [read_eq_ok]
  constructor
  · rintro ⟨ahead, rfl, rfl, reads, census, walked, done⟩
    obtain ⟨census, rfl, rfl⟩ := Option.map_eq_some_iff.mp done.symm
    exact ⟨rfl, rfl, ⟨reads.pivot, reads.fetchAddr, reads.windowTotal, reads.rsTotal,
      reads.oracle⟩, walked⟩
  · rintro ⟨rfl, rfl, reads⟩
    exact ⟨capture, rfl, rfl, reads.toReadsAhead, some capture.census, reads.census, rfl⟩

/-- Nothing is captured exactly when all else could be read and the walk never comes back. -/
theorem Capture.read_eq_none_iff {config : Config} {live : Inspector} {trigger : Trigger}
    {op window recovery : Handle} {cycle : UInt64} :
    Capture.read config live trigger op window recovery cycle = .ok none ↔
      (∃ ahead : Capture, ahead.ReadsAhead config live op window recovery) ∧
        (config.walker live).classifyWindow window op cycle = none := by
  rw [read_eq_ok]
  constructor
  · rintro ⟨ahead, -, -, reads, census, walked, done⟩
    obtain rfl := Option.map_eq_none_iff.mp done.symm
    exact ⟨⟨ahead, reads⟩, walked⟩
  · rintro ⟨⟨ahead, reads⟩, walked⟩
    exact ⟨{ ahead with trigger, cycle }, rfl, rfl,
      ⟨reads.pivot, reads.fetchAddr, reads.windowTotal, reads.rsTotal, reads.oracle⟩, none,
      walked, rfl⟩

namespace Event

/-- The op at which an event is taken: the current one at a detection, and the recovered one at
the end of a recovery. -/
def findOp (event : Event) (live : Inspector) (names : Names) (recovery : Handle) :
    Except Fault Handle :=
  match event with
  | .mispredict => live.resolveObject names.currentOp
  | .recoveryEnd => live.objectAt recovery names.recoveryOp

/-- The reads of an event before its cycle is looked at. -/
structure Finds (event : Event) (config : Config) (live : Inspector)
    (op window recovery : Handle) (cycle : UInt64) : Prop where
  recoveryFound : live.resolveObject config.names.recoveryInfo = .ok recovery
  opFound : event.findOp live config.names recovery = .ok op
  windowFound : live.resolveObject config.names.window = .ok window
  cycleFound : live.resolveScalar config.names.cycleCount = .ok cycle

/-- Reads the trigger of an event, which at a detection tells the cycle at which the recovery
ends. -/
def readTrigger (event : Event) (live : Inspector) (names : Names) (recovery : Handle) :
    Except Fault Trigger :=
  match event with
  | .mispredict => (live.scalarAt recovery names.recoveryCycle).map .mispredict
  | .recoveryEnd => .ok .recoveryEnd

/-- Reads what an event shows once its structures and its cycle are known. -/
def look (event : Event) (config : Config) (live : Inspector) (op window recovery : Handle)
    (cycle : UInt64) : Except Fault Sighting :=
  if config.general.cycleWindow.contains cycle then do
    let trigger ← event.readTrigger live config.names recovery
    let capture ← Capture.read config live trigger op window recovery cycle
    return .ofCapture? capture
  else return .outside cycle

/-- What an event shows when these reads succeed. -/
def Shows (event : Event) (config : Config) (live : Inspector) (op window recovery : Handle)
    (cycle : UInt64) : Sighting → Prop
  | .outside other => other = cycle ∧ config.general.cycleWindow.contains cycle = false
  | .captured capture =>
    capture.cycle = cycle ∧ config.general.cycleWindow.contains cycle = true ∧
      event.readTrigger live config.names recovery = .ok capture.trigger ∧
      capture.Reads config live op window recovery
  | .endless =>
    config.general.cycleWindow.contains cycle = true ∧
      (∃ trigger, event.readTrigger live config.names recovery = .ok trigger) ∧
      (∃ ahead : Capture, ahead.ReadsAhead config live op window recovery) ∧
      (config.walker live).classifyWindow window op cycle = none

variable {event : Event} {config : Config} {live : Inspector}

theorem look_eq_ok_iff {op window recovery : Handle} {cycle : UInt64} {sighting : Sighting} :
    event.look config live op window recovery cycle = .ok sighting ↔
      event.Shows config live op window recovery cycle sighting := by
  unfold look
  split
  · next inside =>
    simp only [bind_eq_ok]
    constructor
    · rintro ⟨trigger, triggerRead, captured, read, done⟩
      cases done
      cases captured with
      | none => exact ⟨inside, ⟨trigger, triggerRead⟩, Capture.read_eq_none_iff.mp read⟩
      | some capture =>
        obtain ⟨rfl, rfl, reads⟩ := Capture.read_eq_ok_iff.mp read
        exact ⟨rfl, inside, triggerRead, reads⟩
    · intro shown
      cases sighting with
      | outside other => exact absurd inside (by simp [shown.2])
      | captured capture =>
        obtain ⟨rfl, -, triggerRead, reads⟩ := shown
        exact ⟨_, triggerRead, some capture, Capture.read_eq_ok_iff.mpr ⟨rfl, rfl, reads⟩, rfl⟩
      | endless =>
        obtain ⟨-, ⟨trigger, triggerRead⟩, strays⟩ := shown
        exact ⟨trigger, triggerRead, none, Capture.read_eq_none_iff.mpr strays, rfl⟩
  · next outside =>
    constructor
    · intro done
      cases done
      exact ⟨rfl, Bool.eq_false_iff.mpr outside⟩
    · intro shown
      cases sighting with
      | outside other => rw [shown.1]; rfl
      | captured capture => exact absurd shown.2.1 outside
      | endless => exact absurd shown.1 outside

theorem sight_mispredict :
    Event.mispredict.sight config live = (do
      let op ← live.resolveObject config.names.currentOp
      let window ← live.resolveObject config.names.window
      let cycle ← live.resolveScalar config.names.cycleCount
      let recovery ← live.resolveObject config.names.recoveryInfo
      Event.mispredict.look config live op window recovery cycle) := by
  have looked : ∀ op window recovery cycle,
      Event.mispredict.look config live op window recovery cycle =
        if config.general.cycleWindow.contains cycle then do
          let recoveryCycle ← live.scalarAt recovery config.names.recoveryCycle
          let capture ←
            Capture.read config live (.mispredict recoveryCycle) op window recovery cycle
          return .ofCapture? capture
        else return .outside cycle := by
    intro op window recovery cycle
    unfold look readTrigger
    cases live.scalarAt recovery config.names.recoveryCycle <;> rfl
  simp only [looked]
  rfl

theorem sight_recoveryEnd :
    Event.recoveryEnd.sight config live = (do
      let recovery ← live.resolveObject config.names.recoveryInfo
      let op ← live.objectAt recovery config.names.recoveryOp
      let window ← live.resolveObject config.names.window
      let cycle ← live.resolveScalar config.names.cycleCount
      Event.recoveryEnd.look config live op window recovery cycle) :=
  rfl

/-- **An event is sighted exactly when its reads succeed.** -/
theorem sight_eq_ok_iff {sighting : Sighting} :
    event.sight config live = .ok sighting ↔
      ∃ op window recovery cycle, event.Finds config live op window recovery cycle ∧
        event.Shows config live op window recovery cycle sighting := by
  -- The two events read the same things in different orders.
  cases event with
  | mispredict =>
    simp only [sight_mispredict, bind_eq_ok, look_eq_ok_iff]
    constructor
    · rintro ⟨op, opFound, window, windowFound, cycle, cycleFound, recovery, recoveryFound, shown⟩
      exact ⟨op, window, recovery, cycle,
        ⟨recoveryFound, opFound, windowFound, cycleFound⟩, shown⟩
    · rintro ⟨op, window, recovery, cycle, found, shown⟩
      exact ⟨op, found.opFound, window, found.windowFound, cycle, found.cycleFound, recovery,
        found.recoveryFound, shown⟩
  | recoveryEnd =>
    simp only [sight_recoveryEnd, bind_eq_ok, look_eq_ok_iff]
    constructor
    · rintro ⟨recovery, recoveryFound, op, opFound, window, windowFound, cycle, cycleFound, shown⟩
      exact ⟨op, window, recovery, cycle,
        ⟨recoveryFound, opFound, windowFound, cycleFound⟩, shown⟩
    · rintro ⟨op, window, recovery, cycle, found, shown⟩
      exact ⟨recovery, found.recoveryFound, op, found.opFound, window, found.windowFound, cycle,
        found.cycleFound, shown⟩

/-- The walk over a window never comes back exactly when it is begun without a limit and has no
end. -/
theorem classifyWindow_eq_none_iff {window pivot : Handle} {cycle : UInt64} :
    (config.walker live).classifyWindow window pivot cycle = none ↔
      config.general.maxWalk = none ∧
        ∃ head, live.linkAt window config.names.windowHead = .ok head ∧
          ¬∃ taken result, Ends live config.names head pivot cycle taken result := by
  have unlimited : (config.walker live).limit = none ↔ config.general.maxWalk = none :=
    Option.map_eq_none_iff
  have read : (config.walker live).live.linkAt window (config.walker live).names.windowHead =
      live.linkAt window config.names.windowHead := rfl
  unfold Walker.classifyWindow
  rw [read]
  cases live.linkAt window config.names.windowHead with
  | error fault => simp
  | ok head =>
    simp only [Walker.classify_eq_none_iff, unlimited, Except.ok.injEq, exists_eq_left']
    rfl

/-- An event is begun whose walk has neither a limit nor an end: its cycle is one that is
recorded, and all that is read ahead of the walk can be read. -/
structure Wanders (event : Event) (config : Config) (live : Inspector) : Prop where
  unlimited : config.general.maxWalk = none
  begun : ∃ op window recovery cycle head, event.Finds config live op window recovery cycle ∧
    config.general.cycleWindow.contains cycle = true ∧
    (∃ trigger, event.readTrigger live config.names recovery = .ok trigger) ∧
    (∃ ahead : Capture, ahead.ReadsAhead config live op window recovery) ∧
    live.linkAt window config.names.windowHead = .ok head ∧
    ¬∃ taken result, Ends live config.names head op cycle taken result

/-- **An event never comes to an end exactly when its walk wanders.** -/
theorem sight_eq_endless_iff :
    event.sight config live = .ok .endless ↔ event.Wanders config live := by
  rw [sight_eq_ok_iff]
  constructor
  · rintro ⟨op, window, recovery, cycle, found, inside, trigger, ahead, lost⟩
    obtain ⟨unlimited, head, headFound, unending⟩ := classifyWindow_eq_none_iff.mp lost
    exact ⟨unlimited, op, window, recovery, cycle, head, found, inside, trigger, ahead, headFound,
      unending⟩
  · rintro ⟨unlimited, op, window, recovery, cycle, head, found, inside, trigger, ahead,
      headFound, unending⟩
    exact ⟨op, window, recovery, cycle, found, inside, trigger, ahead,
      classifyWindow_eq_none_iff.mpr ⟨unlimited, head, headFound, unending⟩⟩

/-- With a limit every walk comes back. -/
theorem not_wanders_of_limit {limit : UInt64} (limited : config.general.maxWalk = some limit) :
    ¬event.Wanders config live := by
  intro wanders
  have unlimited := wanders.unlimited
  rw [limited] at unlimited
  cases unlimited

end Event

/-! ## What an event fails with -/

section Faults

variable {allowed : Fault → Prop} {live : Inspector}

theorem Inspector.resolveScalar_failsWithin (reading : ∀ fault, fault.OfReading → allowed fault)
    (symbols : ∀ name, FailsWithin allowed (live.resolve name)) (name : String) :
    FailsWithin allowed (live.resolveScalar name) :=
  .bind (symbols name) fun value fault failed =>
    reading fault (value.asScalar_failsInReading name fault failed)

theorem Inspector.resolveObject_failsWithin (reading : ∀ fault, fault.OfReading → allowed fault)
    (symbols : ∀ name, FailsWithin allowed (live.resolve name)) (name : String) :
    FailsWithin allowed (live.resolveObject name) :=
  .bind (symbols name) fun value fault failed =>
    reading fault (value.asObject_failsInReading name fault failed)

theorem OracleColumns.read_failsWithin {names : Names} {op : Handle}
    (reading : ∀ fault, fault.OfReading → allowed fault)
    (symbols : ∀ name, FailsWithin allowed (live.resolve name))
    (fields : ∀ handle name, FailsWithin allowed (live.field handle name)) :
    FailsWithin allowed (OracleColumns.read live names op) := by
  have scalar := fun handle => Inspector.scalarAt_failsWithin reading fields handle
  have prediction : FailsWithin allowed (Oracle.readPrediction live names op) := by
    refine .bind (scalar op names.opMispred) fun mispred => ?_
    split
    · exact .ok _
    · exact .bind (scalar op names.opMisfetch) fun _ => .ok _
  have oracle : FailsWithin allowed (Oracle.read live names op) := by
    refine .bind prediction fun _ => ?_
    refine .bind (scalar op names.opPredConf) fun _ => ?_
    refine .bind (scalar op names.opPredConfIndex) fun _ => ?_
    exact .bind (scalar op names.opNpc) fun _ => .ok _
  refine .bind oracle fun found => .bind ?_ fun _ => .ok _
  exact .bind (Inspector.resolveObject_failsWithin reading symbols names.confCounters) fun table =>
    scalar table _

theorem Walker.classify_failsWithin {walker : Walker}
    (reading : ∀ fault, fault.OfReading → allowed fault)
    (beyond : ∀ limit, allowed (.windowOverrun limit))
    (fields : ∀ handle name, FailsWithin allowed (walker.live.field handle name))
    (head : Option Handle) (pivot : Handle) (cycle : UInt64) :
    FailsWithin allowed (walker.classify head pivot cycle).sequence := by
  intro fault failed
  have classified := sequence_eq_error_iff.mp failed
  rcases fault_of_classify walker classified with ⟨limit, rfl⟩ | ⟨handle, unreadable⟩
  · exact beyond limit
  · exact Op.read_failsWithin reading fields fault unreadable

theorem Capture.read_failsWithin {config : Config} {trigger : Trigger}
    {op window recovery : Handle} {cycle : UInt64}
    (reading : ∀ fault, fault.OfReading → allowed fault)
    (beyond : ∀ limit, allowed (.windowOverrun limit))
    (symbols : ∀ name, FailsWithin allowed (live.resolve name))
    (fields : ∀ handle name, FailsWithin allowed (live.field handle name)) :
    FailsWithin allowed (Capture.read config live trigger op window recovery cycle) := by
  have scalar := fun handle => Inspector.scalarAt_failsWithin reading fields handle
  have oracle : ∀ pivot, FailsWithin allowed (Capture.readOracle config live pivot) := by
    intro pivot
    unfold Capture.readOracle
    split
    · exact (OracleColumns.read_failsWithin reading symbols fields).map some
    · exact .ok none
  rw [Capture.read_eq]
  refine .bind (Op.read_failsWithin reading fields) fun pivot => ?_
  refine .bind (scalar recovery config.names.recoveryFetchAddr) fun _ => ?_
  refine .bind (scalar window config.names.windowCount) fun _ => ?_
  refine .bind (scalar window config.names.rsCount) fun _ => ?_
  refine .bind (oracle pivot.handle) fun _ => .bind ?_ fun _ => .ok _
  rw [Walker.sequence_classifyWindow]
  refine .bind (Inspector.linkAt_failsWithin reading fields window _) fun head => ?_
  exact Walker.classify_failsWithin reading beyond fields head pivot.handle cycle

namespace Event

variable {event : Event} {config : Config}

theorem look_failsWithin {op window recovery : Handle} {cycle : UInt64}
    (reading : ∀ fault, fault.OfReading → allowed fault)
    (beyond : ∀ limit, allowed (.windowOverrun limit))
    (symbols : ∀ name, FailsWithin allowed (live.resolve name))
    (fields : ∀ handle name, FailsWithin allowed (live.field handle name)) :
    FailsWithin allowed (event.look config live op window recovery cycle) := by
  have trigger : FailsWithin allowed (event.readTrigger live config.names recovery) := by
    cases event with
    | mispredict => exact (Inspector.scalarAt_failsWithin reading fields _ _).map _
    | recoveryEnd => exact .ok _
  unfold look
  split
  · refine .bind trigger fun _ => .bind ?_ fun _ => .ok _
    exact Capture.read_failsWithin reading beyond symbols fields
  · exact .ok _

theorem sight_failsWithin (reading : ∀ fault, fault.OfReading → allowed fault)
    (beyond : ∀ limit, allowed (.windowOverrun limit))
    (symbols : ∀ name, FailsWithin allowed (live.resolve name))
    (fields : ∀ handle name, FailsWithin allowed (live.field handle name)) :
    FailsWithin allowed (event.sight config live) := by
  have object := Inspector.resolveObject_failsWithin reading symbols
  have cycles := Inspector.resolveScalar_failsWithin reading symbols config.names.cycleCount
  cases event with
  | mispredict =>
    rw [sight_mispredict]
    refine .bind (object _) fun _ => .bind (object _) fun _ => .bind cycles fun _ => ?_
    exact .bind (object _) fun _ => look_failsWithin reading beyond symbols fields
  | recoveryEnd =>
    rw [sight_recoveryEnd]
    refine .bind (object _) fun recovery => ?_
    refine .bind (Inspector.objectAt_failsWithin reading fields recovery _) fun _ => ?_
    refine .bind (object _) fun _ => .bind cycles fun _ => ?_
    exact look_failsWithin reading beyond symbols fields

end Event

/-- One of the two reads of an inspector fails with the fault. -/
def Inspector.Raises (live : Inspector) (fault : Fault) : Prop :=
  (∃ name, live.resolve name = .error fault) ∨
    ∃ handle name, live.field handle name = .error fault

/-- An event that cannot be sighted tells of a fault of reading, of a walk beyond its bound, or
of what the inspector itself failed with. -/
theorem Event.fault_of_sight {event : Event} {config : Config} {fault : Fault}
    (unseen : event.sight config live = .error fault) :
    fault.OfReading ∨ (∃ limit, fault = .windowOverrun limit) ∨ live.Raises fault := by
  have within : FailsWithin
      (fun fault => fault.OfReading ∨ (∃ limit, fault = .windowOverrun limit) ∨ live.Raises fault)
      (event.sight config live) :=
    sight_failsWithin (fun _ reading => .inl reading) (fun limit => .inr (.inl ⟨limit, rfl⟩))
      (fun name _ failed => .inr (.inr (.inl ⟨name, failed⟩)))
      (fun handle name _ failed => .inr (.inr (.inr ⟨handle, name, failed⟩)))
  exact within fault unseen

end Faults

end Inflight
