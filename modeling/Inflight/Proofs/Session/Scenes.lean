import Inflight.Proofs.Layout.Reading
import Inflight.Proofs.Session.Recording
import Inflight.Proofs.Window.Classification
import Mathlib.Data.List.ReduceOption

/-!
# Recording a laid out window

A scene is a window, a place in it at which an event is taken, and what stands
in the recovery and in the confidence table.  It is laid out by calls, and the
snapshot that they build shows it.  Then both events are recorded, and the
record says of the window what the specs of the scene say
(`Session.runLine_scene`): the specs before the pivot and those after it, each
counted by whether it has completed, and all of them by where they wait.
-/

namespace Inflight

set_option autoImplicit false

/-- The trigger that a record of an event tells of. -/
def Event.trigger (event : Event) (recoveryCycle : UInt64) : Trigger :=
  match event with
  | .mispredict => .mispredict recoveryCycle
  | .recoveryEnd => .recoveryEnd

/-! ## Scenes -/

/-- A window with an event at one of its ops. -/
structure Scene where
  /-- The ops of the window, oldest first. -/
  specs : List OpSpec
  /-- Which of the ops is the pivot. -/
  place : Nat
  cycle : UInt64
  fetchAddr : Address
  recoveryCycle : UInt64
  /-- The size of the scheduling window, when it is not to be counted. -/
  rsCount : Option UInt64 := none
  /-- The counters of the confidence table, when there is one. -/
  counters : Option (List UInt64) := none

namespace Scene

variable (scene : Scene)

/-- What is asked of a layout of the scene, when the handle of the pivot is known. -/
def plan (pivot : Handle) : Layout.Plan where
  specs := scene.specs
  cycle := scene.cycle
  currentOp := some pivot
  redirect := some ⟨some pivot, scene.fetchAddr, scene.recoveryCycle⟩
  rsCount := scene.rsCount
  counters := scene.counters

/-- A snapshot is built by calls, in whatever order, that ask for a scene, and the pivot has the
handle that the push of its spec returned. -/
def LaidOut (names : Names) (pivot : Handle) (snapshot : Snapshot) : Prop :=
  ∃ (calls : List Layout.Call) (fresh : Layout) (results : List (Option Handle)) (after : Layout),
    Layout.Plan.ofCalls calls = scene.plan pivot ∧
    Layout.new names = .ok fresh ∧ fresh.run calls = (results.map .ok, after) ∧
    results.reduceOption[scene.place]? = some pivot ∧ after.build = .ok snapshot

/-! ## What is recorded of a scene -/

/-- The counts of a scene. -/
def census : Census where
  committedBefore := (scene.specs.take scene.place).countP fun spec =>
    1 ≤ spec.doneCycle ∧ spec.doneCycle ≤ scene.cycle
  pendingBefore := (scene.specs.take scene.place).countP fun spec =>
    ¬(1 ≤ spec.doneCycle ∧ spec.doneCycle ≤ scene.cycle)
  committedAfter := (scene.specs.drop (scene.place + 1)).countP fun spec =>
    1 ≤ spec.doneCycle ∧ spec.doneCycle ≤ scene.cycle
  pendingAfter := (scene.specs.drop (scene.place + 1)).countP fun spec =>
    ¬(1 ≤ spec.doneCycle ∧ spec.doneCycle ≤ scene.cycle)
  rsOnPath := scene.specs.countP fun spec => spec.state = .inRs ∧ spec.offPath = false
  rsOffPath := scene.specs.countP fun spec => spec.state = .inRs ∧ spec.offPath = true
  missOnPath := scene.specs.countP fun spec => spec.state = .miss ∧ spec.offPath = false
  missOffPath := scene.specs.countP fun spec => spec.state = .miss ∧ spec.offPath = true
  pivotFound := true
  visited := scene.specs.length

/-- What the oracle knows of an op of a scene, with its counter. -/
def columns (spec : OpSpec) : Option OracleColumns := do
  let oracle ← spec.oracle
  let counters ← scene.counters
  let confCounter ← counters[oracle.confIndex.toNat]?
  return { oracle, confCounter }

/-- The record of an event at the pivot of a scene. -/
def record (event : Event) (columns : Columns) (pivot : OpSpec) (ordinal : Nat) : Record where
  trigger := event.trigger scene.recoveryCycle
  addr := pivot.addr
  ordinal
  cycle := scene.cycle
  opNum := pivot.opNum
  offPath := pivot.offPath
  fetchAddr := scene.fetchAddr
  census := scene.census
  windowTotal := UInt64.ofNat scene.specs.length
  rsTotal := scene.rsCount.getD (UInt64.ofNat scene.census.rsSeen)
  missColumn := columns.miss
  oracle := if columns.oracle then scene.columns pivot else none

variable {scene}

theorem exists_columns {spec : OpSpec} {oracle : Oracle} {counters : List UInt64}
    (known : spec.oracle = some oracle) (table : scene.counters = some counters)
    (within : oracle.confIndex.toNat < counters.length) :
    ∃ columns, scene.columns spec = some columns :=
  ⟨⟨oracle, counters[oracle.confIndex.toNat]⟩, by simp [columns, known, table, within]⟩

/-! ## Counting specs -/

theorem before_census (inside : scene.place < scene.specs.length) :
    scene.census.before = scene.place := by
  have split := List.length_eq_countP_add_countP (fun spec : OpSpec =>
    decide (1 ≤ spec.doneCycle ∧ spec.doneCycle ≤ scene.cycle)) (l := scene.specs.take scene.place)
  simp only [decide_eq_true_eq, List.length_take] at split
  simp only [Census.before, census]
  omega

theorem after_census : scene.census.after = scene.specs.length - 1 - scene.place := by
  have split := List.length_eq_countP_add_countP (fun spec : OpSpec =>
    decide (1 ≤ spec.doneCycle ∧ spec.doneCycle ≤ scene.cycle))
    (l := scene.specs.drop (scene.place + 1))
  simp only [decide_eq_true_eq, List.length_drop] at split
  simp only [Census.after, census]
  omega

/-- Every op in the scheduling window is on one of the two paths. -/
theorem rsSeen_census : scene.census.rsSeen = scene.specs.countP (·.state = .inRs) := by
  simp only [Census.rsSeen, census]
  induction scene.specs with
  | nil => rfl
  | cons spec rest ih =>
    simp only [List.countP_cons]
    rw [← ih]
    cases spec.offPath <;> by_cases waits : spec.state = .inRs <;> simp [waits] <;> omega

/-! ## Counting the ops that are read -/

open Layout (opsOf)

/-- Rows that agree element by element on a question agree on the number of its answers. -/
theorem countP_eq_of_map_eq {α β : Type} {first : List α} {second : List β} {ask : α → Bool}
    {other : β → Bool} (same : first.map ask = second.map other) :
    first.countP ask = second.countP other := by
  have counted := congrArg (List.countP id) same
  simpa only [List.countP_map, Function.id_comp] using counted

/-- The ops that are read of a scene are counted as its specs are. -/
theorem ofOps_opsOf {ops : List (Handle × OpSpec)} {pivot : Handle}
    (specs : scene.specs = ops.map Prod.snd) (distinct : (ops.map Prod.fst).Nodup)
    (here : (ops.map Prod.fst)[scene.place]? = some pivot) :
    Census.ofOps pivot scene.cycle (opsOf ops) = scene.census := by
  rw [← Layout.map_handle_opsOf] at distinct here
  obtain ⟨before, after⟩ := opsBefore_and_opsAfter_eq distinct here
  have agree {ask : Op → Bool} {other : OpSpec → Bool}
      (same : ∀ spec handle next, ask (OpSpec.op spec handle next) = other spec) :
      (opsOf ops).map ask = scene.specs.map other := by
    rw [specs]
    exact Layout.map_opsOf same ops
  have older {ask : Op → Bool} {other : OpSpec → Bool}
      (same : ∀ spec handle next, ask (OpSpec.op spec handle next) = other spec) :
      ((opsOf ops).take scene.place).countP ask = (scene.specs.take scene.place).countP other :=
    countP_eq_of_map_eq (by rw [List.map_take, List.map_take, agree same])
  have younger {ask : Op → Bool} {other : OpSpec → Bool}
      (same : ∀ spec handle next, ask (OpSpec.op spec handle next) = other spec) :
      ((opsOf ops).drop (scene.place + 1)).countP ask =
        (scene.specs.drop (scene.place + 1)).countP other :=
    countP_eq_of_map_eq (by rw [List.map_drop, List.map_drop, agree same])
  have waiting (state : State) (offPath : Bool) :
      (opsOf ops).countP (Op.waitsIn state offPath) =
        scene.specs.countP fun spec => spec.state = state ∧ spec.offPath = offPath :=
    countP_eq_of_map_eq (agree fun _ _ _ => (Bool.decide_and _ _).symm)
  have found : pivot ∈ (opsOf ops).map Op.handle := List.mem_of_getElem? here
  have visited : (opsOf ops).length = scene.specs.length := by
    rw [Layout.length_opsOf, specs, List.length_map]
  simp only [Census.ofOps, census, before, after, waiting, found, visited, decide_true,
    Census.mk.injEq, and_true]
  exact ⟨older fun _ _ _ => rfl, older fun _ _ _ => rfl, younger fun _ _ _ => rfl,
    younger fun _ _ _ => rfl⟩

/-! ## Laying a scene out -/

/-- The calls behind the pushes of the ops. -/
def settings (scene : Scene) (pivot : Handle) : List Layout.Call :=
  [.cycle scene.cycle, .currentOp pivot,
    .recovery ⟨some pivot, scene.fetchAddr, scene.recoveryCycle⟩] ++
  ((scene.rsCount.map .rsCount).toList ++ (scene.counters.map .confCounters).toList)

theorem ofCalls_settings (pivot : Handle) :
    Layout.Plan.ofCalls (scene.specs.map .push ++ scene.settings pivot) = scene.plan pivot := by
  rw [Layout.Plan.ofCalls, List.foldl_append, Layout.Plan.foldl_push, settings,
    List.foldl_append, List.foldl_append]
  cases rsCount : scene.rsCount <;> cases counters : scene.counters <;>
    simp [Layout.Plan.add, plan, rsCount, counters]

variable {names : Names} {pivot : Handle} {snapshot : Snapshot}

/-- Under separated names every scene can be laid out. -/
theorem exists_laidOut (separated : names.Separated) (inside : scene.place < scene.specs.length) :
    ∃ pivot snapshot, scene.LaidOut names pivot snapshot := by
  obtain ⟨fresh, places, made, empty⟩ := Layout.exists_new separated
  obtain ⟨handles, pushed, _, ops, ran, built, -, returned⟩ :=
    empty.run separated (scene.specs.map .push)
  have length : handles.reduceOption.length = scene.specs.length := by
    have specs := built.specs
    rw [Layout.Plan.foldl_push] at specs
    have same : scene.specs = ops.map Prod.snd := specs
    rw [← returned, same, List.length_map, List.length_map]
  have reached : scene.place < handles.reduceOption.length := length ▸ inside
  let pivot := handles.reduceOption[scene.place]
  obtain ⟨results, after, _, _, ranOn, settled, -, -⟩ :=
    built.run separated (scene.settings pivot)
  obtain ⟨snapshot, finished, -⟩ := settled.build separated
  refine ⟨pivot, snapshot, scene.specs.map .push ++ scene.settings pivot, fresh,
    handles ++ results, after, ofCalls_settings pivot, made, ?_, ?_, finished⟩
  · rw [Layout.run_append, ran, ranOn, List.map_append]
  · rw [List.reduceOption_append, List.getElem?_append_left reached,
      List.getElem?_eq_getElem reached]

/-- A snapshot of a scene reads it back, and the pivot's spec stands under the pivot's handle. -/
theorem LaidOut.readsBack (separated : names.Separated)
    (laidOut : scene.LaidOut names pivot snapshot) {spec : OpSpec}
    (here : scene.specs[scene.place]? = some spec) :
    ∃ window recovery ops, ops[scene.place]? = some (pivot, spec) ∧
      Layout.ReadsBack names (scene.plan pivot) ops window recovery snapshot.inspector := by
  obtain ⟨calls, fresh, results, after, asked, made, ran, isPivot, finished⟩ := laidOut
  obtain ⟨window, recovery, ops, handles, reads⟩ :=
    Layout.readsBack_of_run separated made ran finished
  rw [asked] at reads
  have specs : scene.specs = ops.map Prod.snd := reads.specs
  rw [specs, List.getElem?_map] at here
  rw [← handles, List.getElem?_map] at isPivot
  obtain ⟨op, stands, rfl⟩ := Option.map_eq_some_iff.mp here
  rw [stands] at isPivot
  obtain rfl := Option.some.inj isPivot
  exact ⟨window, recovery, ops, stands, reads⟩

/-! ## What an event shows of a scene -/

section Reads

variable {config : Config} {live : Inspector} {window recovery : Handle}
  {ops : List (Handle × OpSpec)} {spec : OpSpec}
  (reads : Layout.ReadsBack config.names (scene.plan pivot) ops window recovery live)
  (stands : ops[scene.place]? = some (pivot, spec))

include reads

/-- Both events find the pivot. -/
theorem finds (event : Event) :
    event.Finds config live pivot window recovery scene.cycle where
  recoveryFound := reads.recoveryFound
  opFound := by
    cases event with
    | mispredict => exact (reads.opFound pivot).mpr rfl
    | recoveryEnd => exact Inspector.objectAt_of_linkAt reads.recoveryOp
  windowFound := reads.windowFound
  cycleFound := reads.cycleFound

include stands

/-- A walk that may visit the whole window takes the census of the scene. -/
theorem classifyWindow_eq (room : ∀ limit, config.general.maxWalk = some limit →
      scene.specs.length ≤ limit.toNat) :
    (config.walker live).classifyWindow window pivot scene.cycle = some (.ok scene.census) := by
  have specs : scene.specs = ops.map Prod.snd := reads.specs
  have distinct : ((opsOf ops).map Op.handle).Nodup := reads.chain.nodup_of_stuck stuck_none
  have enough : ∀ limit, (config.walker live).limit = some limit →
      (opsOf ops).length ≤ limit := by
    intro limit limited
    obtain ⟨word, set, rfl⟩ := Option.map_eq_some_iff.mp limited
    have fits := room word set
    rw [specs, List.length_map] at fits
    rwa [Layout.length_opsOf]
  have here : (ops.map Prod.fst)[scene.place]? = some pivot := by
    rw [List.getElem?_map, stands]
    rfl
  rw [Layout.map_handle_opsOf] at distinct
  have head : (config.walker live).live.linkAt window (config.walker live).names.windowHead =
      .ok (ops.map Prod.fst).head? := reads.head
  rw [Walker.classifyWindow, head]
  dsimp only
  rw [Walker.classify_of_chain _ reads.chain enough,
    Census.observeAll_of_nodup (Layout.map_handle_opsOf ops ▸ distinct),
    ofOps_opsOf specs distinct here]

/-- What the oracle knows of the pivot is read when it is to be told. -/
theorem readOracle_eq
    (known : config.columns.oracle = true → ∃ columns, scene.columns spec = some columns) :
    Capture.readOracle config live pivot =
      .ok (if config.columns.oracle then scene.columns spec else none) := by
  have mem := List.mem_of_getElem? stands
  unfold Capture.readOracle
  split
  · next asked =>
    obtain ⟨columns, shown⟩ := known asked
    have parts := shown
    simp only [Scene.columns, Option.bind_eq_bind, Option.bind_eq_some_iff] at parts
    obtain ⟨oracle, ofSpec, counters, table, word, counter, done⟩ := parts
    obtain rfl := Option.some.inj done
    have oracleRead := (reads.oracle _ mem oracle).mpr ofSpec
    have counterRead := (reads.counter oracle word).mpr
      (Option.bind_eq_some_iff.mpr ⟨counters, table, counter⟩)
    rw [shown, OracleColumns.read, oracleRead]
    simp only [bind, Except.bind, counterRead]
    rfl
  · rfl

/-- **An event inside the recorded cycles shows the record of the scene.** -/
theorem exists_sight_eq (event : Event) (inside : config.general.cycleWindow.contains scene.cycle)
    (room : ∀ limit, config.general.maxWalk = some limit → scene.specs.length ≤ limit.toNat)
    (known : config.columns.oracle = true → ∃ columns, scene.columns spec = some columns) :
    ∃ capture, event.sight config live = .ok (.captured capture) ∧
      capture.pivot.addr = spec.addr ∧
      ∀ ordinal, capture.record ordinal config.columns.miss =
        scene.record event config.columns spec ordinal := by
  let capture : Capture :=
    { trigger := event.trigger scene.recoveryCycle
      pivot := spec.op pivot (ops.map Prod.fst)[scene.place + 1]?
      cycle := scene.cycle
      fetchAddr := scene.fetchAddr
      windowTotal := UInt64.ofNat scene.specs.length
      rsTotal := (scene.plan pivot).rsTotal
      oracle := if config.columns.oracle then scene.columns spec else none
      census := scene.census }
  have captured : capture.Reads config live pivot window recovery :=
    { pivot := reads.read scene.place (pivot, spec) stands
      fetchAddr := (reads.fetchAddr _).mpr rfl
      windowTotal := reads.windowCount
      rsTotal := reads.rsCount
      oracle := readOracle_eq reads stands known
      census := classifyWindow_eq reads stands room }
  have trigger : event.readTrigger live config.names recovery = .ok capture.trigger := by
    cases event with
    | mispredict =>
      rw [Event.readTrigger, (reads.recoveryCycle scene.recoveryCycle).mpr rfl]
      rfl
    | recoveryEnd => rfl
  refine ⟨capture, ?_, rfl, ?_⟩
  · exact Event.sight_eq_ok_iff.mpr
      ⟨pivot, window, recovery, scene.cycle, finds reads event, rfl, inside, trigger, captured⟩
  · intro ordinal
    have total : (scene.plan pivot).rsTotal =
        scene.rsCount.getD (UInt64.ofNat scene.census.rsSeen) := by
      rw [rsSeen_census]
      rfl
    simp only [Capture.record, Scene.record, capture, total]
    rfl

end Reads

end Scene

namespace Session

open Storage (FileSystem)

variable {σ φ : Type} [FileSystem σ φ] (session : Session σ φ) {line : String} {event : Event}

/-- **A laid out window is recorded as its specs say.**  Under separated names every scene can be
laid out, and in whatever state a session with a working console is, each of the two commands
records the event at the pivot, if its cycle is one that is recorded, the walk may go on to the
end of the window, and the oracle's columns, when they are to be told, have a counter.  The
record shows the pivot's spec and the scene, and counts all specs before the pivot and all
behind it. -/
theorem runLine_scene (works : session.console.mode = .works)
    (parsed : Command.ofLine line = .ok (.record event))
    (separated : session.config.names.Separated) (scene : Scene) (pivot : OpSpec)
    (here : scene.specs[scene.place]? = some pivot) (small : scene.specs.length < UInt32.size)
    (inside : session.config.general.cycleWindow.contains scene.cycle)
    (walked : ∀ limit, session.config.general.maxWalk = some limit →
      scene.specs.length ≤ limit.toNat)
    (known : session.config.columns.oracle = true → ∃ oracle counters,
      pivot.oracle = some oracle ∧ scene.counters = some counters ∧
        oracle.confIndex.toNat < counters.length) :
    (∃ handle snapshot, scene.LaidOut session.config.names handle snapshot) ∧
    ∀ handle snapshot, scene.LaidOut session.config.names handle snapshot → ∃ after,
      let ordinal := (event.count session.counters pivot.addr).1
      let record := scene.record event session.config.columns pivot ordinal
      session.runLine line snapshot.inspector = (.recorded record, after) ∧
      Writing session record.text after ∧
      record.census.before = scene.place ∧
      record.census.after = scene.specs.length - 1 - scene.place ∧
      record.windowTotal.toNat = scene.specs.length := by
  have placed : scene.place < scene.specs.length := (List.getElem?_eq_some_iff.mp here).1
  refine ⟨Scene.exists_laidOut separated placed, ?_⟩
  intro handle snapshot laidOut
  obtain ⟨window, recovery, ops, stands, reads⟩ := laidOut.readsBack separated here
  have told : session.config.columns.oracle = true →
      ∃ columns, scene.columns pivot = some columns := by
    intro asked
    obtain ⟨oracle, counters, ofPivot, table, within⟩ := known asked
    exact Scene.exists_columns ofPivot table within
  obtain ⟨capture, seen, addr, recorded⟩ :=
    Scene.exists_sight_eq reads stands event inside walked told
  obtain ⟨record, after, isRecord, ran, writing, -⟩ := runLine_of_captured works parsed seen rfl
  rw [addr, recorded] at isRecord
  subst isRecord
  refine ⟨after, ran, writing, Scene.before_census placed, Scene.after_census, ?_⟩
  have fits : scene.specs.length < UInt64.size := Nat.lt_trans small (by decide)
  exact UInt64.toNat_ofNat_of_lt fits

/-- A mispredicted branch between an op that is done and one on a wrong path. -/
def branchScene : Scene where
  specs := [
    { addr := ⟨16⟩, opNum := 1, state := .done, doneCycle := 3 },
    { addr := ⟨20⟩, opNum := 2, state := .inRs, oracle := some ⟨.mispredict, 6, 1, ⟨64⟩⟩ },
    { addr := ⟨24⟩, opNum := 3, offPath := true, state := .miss, doneCycle := 9 }]
  place := 1
  cycle := 8
  fetchAddr := ⟨64⟩
  recoveryCycle := 11
  counters := some [3, 5]

/-- A session that tells what the oracle knows, and whose walks may visit three entries. -/
def oracleSession : Session Storage.Directory Storage.OpenFile where
  config := { general := { maxWalk := some 3 }, columns := { oracle := true } }
  around := { files := {} }

/-- The branch is recorded as mispredicted with the second counter of the table, one op done
before it and one pending after it. -/
theorem runLine_branchScene :
    oracleSession.console.mode = .works ∧
      Command.ofLine "log_mispred" = .ok (.record .mispredict) ∧
      ∃ handle snapshot after, branchScene.LaidOut {} handle snapshot ∧
        oracleSession.runLine "log_mispred" snapshot.inspector = (.recorded
          { trigger := .mispredict 11, addr := ⟨20⟩, ordinal := 1, cycle := 8, opNum := 2,
            offPath := false, fetchAddr := ⟨64⟩, windowTotal := 3, rsTotal := 1,
            missColumn := false,
            census := { committedBefore := 1, pendingAfter := 1, rsOnPath := 1, missOffPath := 1,
                        pivotFound := true, visited := 3 }
            oracle := some ⟨⟨.mispredict, 6, 1, ⟨64⟩⟩, 5⟩ }, after) := by
  have parsed : Command.ofLine "log_mispred" = .ok (.record .mispredict) := by decide +kernel
  have walked : ∀ limit, oracleSession.config.general.maxWalk = some limit →
      branchScene.specs.length ≤ limit.toNat := by
    rintro _ ⟨⟩
    decide
  obtain ⟨⟨handle, snapshot, laidOut⟩, recorded⟩ :=
    runLine_scene oracleSession rfl parsed Names.separated_stock branchScene _ rfl
      (by decide) (by decide) walked fun _ => ⟨_, [3, 5], rfl, rfl, by decide⟩
  obtain ⟨after, ran, -⟩ := recorded handle snapshot laidOut
  refine ⟨rfl, parsed, handle, snapshot, after, laidOut, ran.trans ?_⟩
  exact congrArg (fun record => (Outcome.recorded record, after)) (by decide +kernel)

end Session

end Inflight
