import Inflight.Proofs.Layout.Calls
import Inflight.Proofs.Window.Trail
import Inflight.Window.Walk

/-!
# Reading a layout back

A finished layout reads back what its calls asked for: the ops in the order of
the pushes, each with the fields of its spec and linked to the next, and beside
them the totals, the cycle, the current op, the recovery, what the oracle knows
and the confidence table (`Layout.ReadsBack`, `Layout.readsBack_new_run_build`).
It reads back no more than that: no oracle of an op without one, no address of a
recovery that was not filled, and no counter beyond the table.
-/

namespace Inflight

set_option autoImplicit false

open Snapshot (Place Housed Edited Admits keyOf)

/-- A read gives a value that may be absent: it succeeds just where there is one, and with it. -/
def Gives {α : Type} (read : Except Fault α) (value : Option α) : Prop :=
  ∀ result, read = .ok result ↔ value = some result

theorem gives_some {α : Type} {read : Except Fault α} {value : α} (done : read = .ok value) :
    Gives read (some value) := by
  intro result
  rw [done, Except.ok.injEq, Option.some.injEq]

theorem gives_none {α : Type} {read : Except Fault α} (failed : ∃ fault, read = .error fault) :
    Gives read none := by
  obtain ⟨fault, rfl⟩ := failed
  simp [Gives]

/-! ## Walks along a list that ends -/

/-- Of a list that ends, the ops that there is room for are met one after the other. -/
theorem Walker.entriesFrom_of_chain (walker : Walker) {head : Option Handle} {ops : List Op}
    (chain : Trail walker.live walker.names head ops none) (limit : Nat) {count room : Nat}
    (enough : ops.length ≤ room ∨ count ≤ room) :
    walker.entriesFrom limit count room head = (ops.take count).map .ok := by
  generalize ended : (none : Option Handle) = last at chain
  induction chain generalizing room count with
  | here place =>
    subst ended
    cases count <;> cases room <;> rfl
  | @next handle op ops place readable _ ih =>
    cases count with
    | zero => rfl
    | succ count =>
      obtain ⟨left, rfl⟩ : ∃ left, room = left + 1 :=
        ⟨room - 1, by simp only [List.length_cons] at enough; omega⟩
      have shorter : ops.length ≤ left ∨ count ≤ left := by simpa using enough
      simp only [entriesFrom, readable, ih shorter ended, List.take_succ_cons, List.map_cons]

/-- The entries of a list that ends within the limit of a walk, if it has one, are its ops. -/
theorem Walker.entries_of_chain (walker : Walker) {head : Option Handle} {ops : List Op}
    (chain : Trail walker.live walker.names head ops none)
    (enough : ∀ limit, walker.limit = some limit → ops.length ≤ limit) (count : Nat) :
    walker.entries count head = (ops.take count).map .ok := by
  apply walker.entriesFrom_of_chain chain
  cases limited : walker.limit with
  | none => exact .inr (Nat.le_refl count)
  | some limit => exact .inl (enough limit limited)

/-! ## The ops of a list -/

/-- The op that is read where a spec was pushed. -/
def OpSpec.op (spec : OpSpec) (handle : Handle) (next : Option Handle) : Op where
  handle
  addr := spec.addr
  opNum := spec.opNum
  offPath := spec.offPath
  state := spec.state
  doneCycle := spec.doneCycle
  next

namespace Layout

/-- The ops that are read where specs were pushed one after the other: each is linked to the next,
and the last to none. -/
def opsOf : List (Handle × OpSpec) → List Op
  | [] => []
  | (handle, spec) :: rest => spec.op handle (rest.map Prod.fst).head? :: opsOf rest

theorem length_opsOf (ops : List (Handle × OpSpec)) : (opsOf ops).length = ops.length := by
  induction ops with
  | nil => rfl
  | cons op rest ih => rw [opsOf, List.length_cons, List.length_cons, ih]

/-- What is asked of an op without its handle and its link can be asked of its spec. -/
theorem map_opsOf {ask : Op → Bool} {other : OpSpec → Bool}
    (same : ∀ spec handle next, ask (OpSpec.op spec handle next) = other spec)
    (ops : List (Handle × OpSpec)) : (opsOf ops).map ask = (ops.map Prod.snd).map other := by
  induction ops with
  | nil => rfl
  | cons op rest ih => rw [opsOf, List.map_cons, List.map_cons, List.map_cons, same, ih]

theorem map_handle_opsOf (ops : List (Handle × OpSpec)) :
    (opsOf ops).map Op.handle = ops.map Prod.fst := by
  induction ops with
  | nil => rfl
  | cons op rest ih =>
    rw [opsOf, List.map_cons, ih]
    rfl

section Held

variable {names : Names} {snapshot : Snapshot} {places : List Place} {window recovery : Handle}
  {ops : List (Handle × OpSpec)} {redirect : Option Redirect}
  (held : ListHeld names window ops snapshot places)

include held

theorem ListHeld.scalarAt {op : Handle × OpSpec} (mem : op ∈ ops) (name : String) (word : UInt64)
    (listed : (name, .scalar word) ∈ fieldsOf op.2 names) :
    snapshot.inspector.scalarAt op.1 name = .ok word :=
  (held.fields op mem (name, .scalar word) listed).scalarAt

theorem ListHeld.flagAt {op : Handle × OpSpec} (mem : op ∈ ops) (name : String) (flag : Bool)
    (listed : (name, .flag flag) ∈ fieldsOf op.2 names) :
    snapshot.inspector.scalarAt op.1 name = .ok (if flag then 1 else 0) :=
  (held.fields op mem (name, .flag flag) listed).flagAt

/-- An op of the list is read as its spec says, with a link to the next op. -/
theorem ListHeld.read {place : Nat} {op : Handle × OpSpec} (here : ops[place]? = some op) :
    Op.read snapshot.inspector names op.1 =
      .ok (op.2.op op.1 (ops.map Prod.fst)[place + 1]?) := by
  have mem := List.mem_of_getElem? here
  have addr := held.scalarAt mem names.opAddr op.2.addr.word (by simp [fieldsOf])
  have opNum := held.scalarAt mem names.opNum op.2.opNum (by simp [fieldsOf])
  have offPath := held.flagAt mem names.opOffPath op.2.offPath (by simp [fieldsOf])
  have state := held.scalarAt mem names.opState op.2.state.encoding (by simp [fieldsOf])
  have doneCycle := held.scalarAt mem names.opDoneCycle op.2.doneCycle (by simp [fieldsOf])
  have linked : (ops.map Prod.fst)[place]? = some op.1 := by rw [List.getElem?_map, here]; rfl
  have next := (held.links place op.1 linked).linkAt
  have flag : ((if op.2.offPath then 1 else 0 : UInt64) != 0) = op.2.offPath := by
    cases op.2.offPath <;> rfl
  simp only [Op.read, addr, opNum, offPath, state, State.decode_encoding, doneCycle, next, flag,
    bind, Except.bind]
  rfl

/-- The ops of the list are read one after the other. -/
theorem ListHeld.trail :
    Trail snapshot.inspector names (ops.map Prod.fst).head? (opsOf ops) none := by
  -- By induction on the ops that are still to be read, behind those that were.
  have onward : ∀ back front, ops = front ++ back →
      Trail snapshot.inspector names (back.map Prod.fst).head? (opsOf back) none := by
    intro back
    induction back with
    | nil => intro front _; exact .here none
    | cons op rest ih =>
      intro front parted
      have here : ops[front.length]? = some op := by
        rw [parted, List.getElem?_append_right (Nat.le_refl _), Nat.sub_self]
        rfl
      have next : (ops.map Prod.fst)[front.length + 1]? = (rest.map Prod.fst).head? := by
        rw [parted, List.map_append, List.getElem?_append_right (by simp)]
        simp [List.head?_eq_getElem?]
      have readable := held.read here
      rw [next] at readable
      exact .next readable (ih (front ++ [op]) (by simp [parted]))
  exact onward ops [] rfl

theorem ListHeld.oracle {op : Handle × OpSpec} (mem : op ∈ ops) {oracle : Oracle}
    (known : op.2.oracle = some oracle) :
    Oracle.read snapshot.inspector names op.1 = .ok oracle := by
  have mispred := held.flagAt mem names.opMispred (oracle.prediction == .mispredict)
    (by simp [fieldsOf, known])
  have misfetch := held.flagAt mem names.opMisfetch (oracle.prediction == .misfetch)
    (by simp [fieldsOf, known])
  have predConf := held.scalarAt mem names.opPredConf oracle.predConf (by simp [fieldsOf, known])
  have confIndex := held.scalarAt mem names.opPredConfIndex oracle.confIndex
    (by simp [fieldsOf, known])
  have target := held.scalarAt mem names.opNpc oracle.target.word (by simp [fieldsOf, known])
  have prediction : Oracle.readPrediction snapshot.inspector names op.1 =
      .ok oracle.prediction := by
    rw [Oracle.readPrediction, mispred, misfetch]
    cases oracle.prediction <;> rfl
  rw [Oracle.read, prediction, predConf, confIndex, target]
  rfl

/-- Of an op without an oracle's fields none are read. -/
theorem ListHeld.noOracle {op : Handle × OpSpec} (mem : op ∈ ops)
    (without : op.2.oracle = none) :
    ∃ fault, Oracle.read snapshot.inspector names op.1 = .error fault := by
  obtain ⟨fault, unread⟩ := Snapshot.exists_scalarAt_eq_error
    (held.bare op mem without names.opMispred List.mem_cons_self)
  refine ⟨fault, ?_⟩
  rw [Oracle.read, Oracle.readPrediction, unread]
  rfl

/-- What the oracle knows of an op is read back. -/
theorem ListHeld.gives_oracle {op : Handle × OpSpec} (mem : op ∈ ops) :
    Gives (Oracle.read snapshot.inspector names op.1) op.2.oracle := by
  cases known : op.2.oracle with
  | some oracle => exact gives_some (held.oracle mem known)
  | none => exact gives_none (held.noOracle mem known)

end Held

/-! ## Finishing a layout -/

/-- The size of the scheduling window that a plan asks for. -/
def Plan.rsTotal (plan : Plan) : UInt64 :=
  plan.rsCount.getD (UInt64.ofNat (plan.specs.countP (·.state = .inRs)))

/-- Live state in which a plan is read back, with the specs under the handles of their pushes. -/
structure ReadsBack (names : Names) (plan : Plan) (ops : List (Handle × OpSpec))
    (window recovery : Handle) (live : Inspector) : Prop where
  specs : plan.specs = ops.map Prod.snd
  windowFound : live.resolveObject names.window = .ok window
  recoveryFound : live.resolveObject names.recoveryInfo = .ok recovery
  cycleFound : live.resolveScalar names.cycleCount = .ok plan.cycle
  opFound : Gives (live.resolveObject names.currentOp) plan.currentOp
  head : live.linkAt window names.windowHead = .ok (ops.map Prod.fst).head?
  read : ∀ (place : Nat) op, ops[place]? = some op →
    Op.read live names op.1 = .ok (op.2.op op.1 (ops.map Prod.fst)[place + 1]?)
  chain : Trail live names (ops.map Prod.fst).head? (opsOf ops) none
  windowCount : live.scalarAt window names.windowCount = .ok (UInt64.ofNat plan.specs.length)
  rsCount : live.scalarAt window names.rsCount = .ok plan.rsTotal
  recoveryOp : live.linkAt recovery names.recoveryOp = .ok (plan.redirect.bind Redirect.op)
  fetchAddr : Gives (live.scalarAt recovery names.recoveryFetchAddr)
    (plan.redirect.map fun filled => filled.fetchAddr.word)
  recoveryCycle : Gives (live.scalarAt recovery names.recoveryCycle)
    (plan.redirect.map Redirect.cycle)
  oracle : ∀ op ∈ ops, Gives (Oracle.read live names op.1) op.2.oracle
  counter : ∀ oracle : Oracle, Gives (oracle.confCounter live names)
    (plan.counters.bind fun counters => counters[oracle.confIndex.toNat]?)

section Built

variable {names : Names} {plan : Plan} {ops : List (Handle × OpSpec)} {layout : Layout}
  {places : List Place}

/-- The ops in the scheduling window are counted as their specs say. -/
theorem countInRs_eq (ops : List (Handle × OpSpec))
    (states : ∀ op ∈ ops, layout.snapshot.inspector.scalarAt op.1 layout.names.opState =
      .ok op.2.state.encoding) :
    layout.countInRs (ops.map Prod.fst) = .ok ((ops.map Prod.snd).countP (·.state = .inRs)) := by
  induction ops with
  | nil => rfl
  | cons op rest ih =>
    have first := states op List.mem_cons_self
    have others := ih fun op mem => states op (List.mem_cons_of_mem _ mem)
    simp only [List.map_cons, countInRs, first, others, State.decode_encoding, bind, Except.bind,
      List.countP_cons, decide_eq_true_eq]
    split <;> rfl

theorem Built.rsTotal_eq (built : Built names plan ops layout places) :
    layout.rsTotal = .ok plan.rsTotal := by
  obtain ⟨rfl, handles, specs, override, -, list, -, -⟩ := built
  have counted : layout.countInRs layout.ops = .ok (plan.specs.countP (·.state = .inRs)) := by
    rw [handles, specs]
    exact countInRs_eq ops fun op mem =>
      list.scalarAt mem layout.names.opState _ (by simp [fieldsOf])
  rw [rsTotal, override, counted, Plan.rsTotal]
  cases plan.rsCount <;> rfl

/-- The writes that finish a layout. -/
def totalWrites (names : Names) (window : Handle) (count rsTotal : UInt64) :
    List (Handle × String × Slot) :=
  [(window, names.windowCount, .scalar count), (window, names.rsCount, .scalar rsTotal)]

theorem along_totalWrites (window : Handle) (count rsTotal : UInt64) :
    Along names .window window (totalWrites names window count rsTotal) := by
  simp [Along, totalWrites, keyOf, Names.paths, Names.dotted]

/-- The head of the window is not among its totals. -/
theorem head_notMem_totalWrites (separated : names.Separated) (window : Handle)
    (count rsTotal : UInt64) :
    (window, Text.segments names.windowHead) ∉
      (totalWrites names window count rsTotal).map keyOf := by
  have distinct := nodup_paths separated .window
  simp only [Names.paths, Names.dotted, List.map_cons, List.nodup_cons] at distinct
  simpa [totalWrites, keyOf] using distinct.1

theorem resolveObject_eq_error {snapshot : Snapshot} {name : String}
    (unnamed : snapshot.globals.get? name = none) :
    snapshot.inspector.resolveObject name = .error (.unresolvedSymbol name) := by
  simp only [Inspector.resolveObject, Snapshot.inspector, Snapshot.resolve, unnamed]
  rfl

theorem resolveObject_eq_ok {snapshot : Snapshot} {name : String} {target : Handle}
    (named : snapshot.globals.get? name = some (.ref target)) :
    snapshot.inspector.resolveObject name = .ok target := by
  simp only [Inspector.resolveObject, Snapshot.inspector, Snapshot.resolve, named]
  rfl

section Held

variable {snapshot : Snapshot} {window recovery : Handle} {redirect : Option Redirect}
  {cycle : UInt64} {currentOp : Option Handle} {counters : Option (List UInt64)}

theorem RecoveryHeld.gives_fetchAddr
    (held : RecoveryHeld names recovery redirect snapshot places) :
    Gives (snapshot.inspector.scalarAt recovery names.recoveryFetchAddr)
      (redirect.map fun filled => filled.fetchAddr.word) := by
  cases asked : redirect with
  | some filled => exact gives_some (held.fetchAddr filled asked).scalarAt
  | none => exact gives_none (Snapshot.exists_scalarAt_eq_error
      (held.unfilled asked names.recoveryFetchAddr (by simp)))

theorem RecoveryHeld.gives_cycle (held : RecoveryHeld names recovery redirect snapshot places) :
    Gives (snapshot.inspector.scalarAt recovery names.recoveryCycle)
      (redirect.map Redirect.cycle) := by
  cases asked : redirect with
  | some filled => exact gives_some (held.cycle filled asked).scalarAt
  | none => exact gives_none (Snapshot.exists_scalarAt_eq_error
      (held.unfilled asked names.recoveryCycle (by simp)))

variable (held : GlobalsHeld names window recovery cycle currentOp counters snapshot places)

include held

theorem GlobalsHeld.gives_currentOp :
    Gives (snapshot.inspector.resolveObject names.currentOp) currentOp := by
  have named := held.currentOp
  cases currentOp with
  | some op => exact gives_some (resolveObject_eq_ok named)
  | none => exact gives_none ⟨_, resolveObject_eq_error named⟩

/-- The counters of the table are read back, and none beyond them. -/
theorem GlobalsHeld.gives_counter (oracle : Oracle) :
    Gives (oracle.confCounter snapshot.inspector names)
      (counters.bind fun counters => counters[oracle.confIndex.toNat]?) := by
  cases asked : counters with
  | none =>
    refine gives_none ⟨.unresolvedSymbol names.confCounters, ?_⟩
    rw [Oracle.confCounter, resolveObject_eq_error (held.noTable asked)]
    rfl
  | some filled =>
    obtain ⟨table, named, -, fields⟩ := held.table filled asked
    have read : oracle.confCounter snapshot.inspector names =
        snapshot.inspector.scalarAt table (Text.decimal oracle.confIndex.toNat) := by
      rw [Oracle.confCounter, resolveObject_eq_ok named]
      rfl
    rw [read, Option.bind_some]
    have field := fields oracle.confIndex.toNat
    cases here : filled[oracle.confIndex.toNat]? with
    | some word =>
      rw [here] at field
      have stands : snapshot.Holds table (Text.segments (Text.decimal oracle.confIndex.toNat))
          (.scalar word) := by
        rw [Text.segments_decimal, Snapshot.holds_singleton_iff]
        exact field
      exact gives_some stands.scalarAt
    | none =>
      rw [here] at field
      refine gives_none (Snapshot.exists_scalarAt_eq_error ?_)
      intro slot stands
      rw [Text.segments_decimal, Snapshot.holds_singleton_iff, field] at stands
      cases stands

end Held

/-- What a structure that was finished holds is read back. -/
theorem readsBack_of_held {snapshot : Snapshot} {window recovery : Handle}
    (specs : plan.specs = ops.map Prod.snd) (list : ListHeld names window ops snapshot places)
    (held : RecoveryHeld names recovery plan.redirect snapshot places)
    (globals : GlobalsHeld names window recovery plan.cycle plan.currentOp plan.counters snapshot
      places)
    (windowCount : snapshot.Holds window (Text.segments names.windowCount)
      (.scalar (UInt64.ofNat plan.specs.length)))
    (rsCount : snapshot.Holds window (Text.segments names.rsCount) (.scalar plan.rsTotal)) :
    ReadsBack names plan ops window recovery snapshot.inspector where
  specs := specs
  windowFound := resolveObject_eq_ok globals.window
  recoveryFound := resolveObject_eq_ok globals.recovery
  cycleFound := by
    simp only [Inspector.resolveScalar, Snapshot.inspector, Snapshot.resolve, globals.cycle]
    rfl
  opFound := globals.gives_currentOp
  head := list.head.linkAt
  read _ _ here := list.read here
  chain := list.trail
  windowCount := windowCount.scalarAt
  rsCount := rsCount.scalarAt
  recoveryOp := held.op.linkAt
  fetchAddr := held.gives_fetchAddr
  recoveryCycle := held.gives_cycle
  oracle _ mem := list.gives_oracle mem
  counter := globals.gives_counter

/-- **A layout can be finished, and then it reads back what its calls asked for.** -/
theorem Built.build (separated : names.Separated) (built : Built names plan ops layout places) :
    ∃ snapshot, layout.build = .ok snapshot ∧
      ReadsBack names plan ops layout.window layout.recovery snapshot.inspector := by
  have total := built.rsTotal_eq
  obtain ⟨rfl, handles, specs, override, housed, list, recovery, globals⟩ := built
  have count : layout.ops.length = plan.specs.length := by rw [handles, specs]; simp
  have along : Along layout.names .window layout.window
      (totalWrites layout.names layout.window (UInt64.ofNat plan.specs.length) plan.rsTotal) :=
    along_totalWrites ..
  obtain ⟨snapshot, later, done, edited, same, written⟩ :=
    housed.setPaths separated (along.admits list.home) (along.nodup separated)
  have finished : layout.build = .ok snapshot := by
    unfold totalWrites at done
    rw [Layout.build, total, count]
    simp only [bind, Except.bind, done]
  have apart {handle : Handle} {part : Part}
      (home : places[handle.index]? = some ⟨part, handle, []⟩) (differ : part ≠ .window)
      (path : List String) : (handle, path) ∉ (totalWrites layout.names layout.window
        (UInt64.ofNat plan.specs.length) plan.rsTotal).map keyOf := by
    intro mem
    obtain ⟨_, -, same⟩ := along.exists_path mem
    exact ne_of_homes home list.home differ (Prod.mk.inj same).1
  have headApart := head_notMem_totalWrites separated layout.window
    (UInt64.ofNat plan.specs.length) plan.rsTotal
  have listStill := list.edit edited headApart fun op mem =>
    apart (list.opHomes op mem) (by simp)
  have recoveryStill := recovery.edit edited (apart recovery.home (by simp))
  refine ⟨snapshot, finished, readsBack_of_held specs listStill recoveryStill
    (globals.edit edited same) ?_ ?_⟩
  · exact written (layout.window, layout.names.windowCount, _) (by simp [totalWrites])
  · exact written (layout.window, layout.names.rsCount, _) (by simp [totalWrites])

/-! ## From the first call to the last -/

/-- What a layout is finished to reads back the calls that were made. -/
theorem readsBack_of_run (separated : names.Separated) {calls : List Call} {fresh after : Layout}
    {results : List (Option Handle)} {snapshot : Snapshot} (made : Layout.new names = .ok fresh)
    (ran : fresh.run calls = (results.map .ok, after)) (finished : after.build = .ok snapshot) :
    ∃ window recovery ops, ops.map Prod.fst = results.reduceOption ∧
      ReadsBack names (Plan.ofCalls calls) ops window recovery snapshot.inspector := by
  obtain ⟨_, places, again, empty⟩ := exists_new separated
  obtain rfl := Except.ok.inj (made.symm.trans again)
  obtain ⟨_, _, later, ops, ranSo, built, -, handles⟩ := empty.run separated calls
  obtain ⟨sameResults, rfl⟩ := Prod.mk.inj (ran.symm.trans ranSo)
  obtain rfl := List.map_injective_iff.mpr (fun _ _ => Except.ok.inj) sameResults
  obtain ⟨_, finishedSo, reads⟩ := built.build separated
  obtain rfl := Except.ok.inj (finished.symm.trans finishedSo)
  exact ⟨_, _, ops, handles, reads⟩

/-- **A layout reads back just what its calls asked for.**  Under separated names no call fails,
whatever the calls and their order; each push, and no other call, returns a handle; and in the
finished snapshot the list of the window has one op for each push, in the order of the pushes and
under the handles that they returned.  A walk meets these ops, without a limit and under any that
is not below their number. -/
theorem readsBack_new_run_build (separated : names.Separated) (calls : List Call) :
    ∃ (fresh : Layout) (results : List (Option Handle)) (after : Layout) (snapshot : Snapshot)
      (window recovery : Handle) (ops : List (Handle × OpSpec)),
      Layout.new names = .ok fresh ∧ fresh.run calls = (results.map .ok, after) ∧
      after.build = .ok snapshot ∧
      results.map Option.isSome = calls.map Call.isPush ∧
      ops.map Prod.fst = results.reduceOption ∧
      ReadsBack names (Plan.ofCalls calls) ops window recovery snapshot.inspector ∧
      ∀ limit, let walker : Walker := ⟨snapshot.inspector, names, limit⟩
        (∀ most, limit = some most → ops.length ≤ most) → ∀ count,
          walker.entries count (ops.map Prod.fst).head? = ((opsOf ops).take count).map .ok := by
  obtain ⟨fresh, places, made, empty⟩ := exists_new separated
  obtain ⟨results, after, later, added, ran, built, pushes, handles⟩ := empty.run separated calls
  obtain ⟨snapshot, finished, reads⟩ := built.build separated
  refine ⟨fresh, results, after, snapshot, after.window, after.recovery, added, made, ran, finished,
    pushes, handles, reads, ?_⟩
  intro limit walker room count
  rw [← length_opsOf] at room
  exact walker.entries_of_chain reads.chain room count

end Built

/-- Two pushes, the second of an op in the scheduling window, with other calls between them. -/
def twoPushes : List Call :=
  [.push { addr := ⟨16⟩, opNum := 4 }, .cycle 5, .rsCount 9, .push { opNum := 6, state := .inRs },
    .cycle 7, .currentOp ⟨2⟩, .recovery ⟨some ⟨40⟩, ⟨64⟩, 9⟩, .confCounters [3, 1]]

/-- Under the stock names the last of two cycles is read back, and the given size of the
scheduling window and not the counted one. -/
theorem readsBack_twoPushes :
    Names.Separated {} ∧
      ∃ (fresh : Layout) (snapshot : Snapshot) (window : Handle),
        Layout.new {} = .ok fresh ∧ (fresh.run twoPushes).2.build = .ok snapshot ∧
        snapshot.inspector.resolveScalar "cycle_count" = .ok 7 ∧
        snapshot.inspector.resolveObject "node" = .ok window ∧
        snapshot.inspector.scalarAt window "node_count" = .ok 2 ∧
        snapshot.inspector.scalarAt window "rs.rs_op_count" = .ok 9 := by
  obtain ⟨fresh, results, after, snapshot, window, _, _, made, ran, finished, -, -, reads, -⟩ :=
    readsBack_new_run_build Names.separated_stock twoPushes
  have ended : (fresh.run twoPushes).2 = after := congrArg Prod.snd ran
  exact ⟨Names.separated_stock, fresh, snapshot, window, made, ended ▸ finished, reads.cycleFound,
    reads.windowFound, reads.windowCount, reads.rsCount⟩

end Layout
end Inflight
