import Inflight.Proofs.Layout.Structures

/-!
# Calls to a layout

A layout is made and then changed by a row of calls.  What the calls ask for is
a plan: the ops in the order in which they are pushed, and the last value that
each of the other calls gave.  Under separated names no call fails, and after
every call the layout holds just what the plan says (`Layout.Built.run`).
-/

namespace Inflight

set_option autoImplicit false

open Snapshot (Place Housed Edited Admits keyOf)

namespace Layout

/-! ## Calls and plans -/

/-- A call that changes a layout. -/
inductive Call where
  | push (spec : OpSpec)
  | cycle (cycle : UInt64)
  | currentOp (op : Handle)
  | recovery (redirect : Redirect)
  | rsCount (count : UInt64)
  | confCounters (counters : List UInt64)
deriving DecidableEq

/-- Whether a call is to push an op. -/
def Call.isPush : Call → Bool
  | .push _ => true
  | _ => false

/-- Makes a call; gives the handle that a push returns. -/
def call (layout : Layout) : Call → Except Fault (Option Handle) × Layout
  | .push spec =>
    let (result, layout) := layout.push spec
    (result.map some, layout)
  | .cycle cycle => (.ok none, layout.setCycle cycle)
  | .currentOp op => (.ok none, layout.setCurrentOp op)
  | .recovery redirect =>
    let (result, layout) := layout.setRecovery redirect.op redirect.fetchAddr redirect.cycle
    (result.map fun _ => none, layout)
  | .rsCount count => (.ok none, layout.setRsCount count)
  | .confCounters counters => (.ok none, layout.setConfCounters counters)

/-- Makes calls one after the other; gives what each returns. -/
def run : Layout → List Call → List (Except Fault (Option Handle)) × Layout
  | layout, [] => ([], layout)
  | layout, call :: rest =>
    let (result, layout) := layout.call call
    let (results, layout) := run layout rest
    (result :: results, layout)

/-- What a row of calls asks for. -/
structure Plan where
  /-- The ops, oldest first. -/
  specs : List OpSpec := []
  cycle : UInt64 := 0
  currentOp : Option Handle := none
  redirect : Option Redirect := none
  rsCount : Option UInt64 := none
  counters : Option (List UInt64) := none
deriving DecidableEq

/-- Takes one more call into a plan: a push adds an op, and any other call replaces what a call of
its kind gave before. -/
def Plan.add (plan : Plan) : Call → Plan
  | .push spec => { plan with specs := plan.specs ++ [spec] }
  | .cycle cycle => { plan with cycle }
  | .currentOp op => { plan with currentOp := some op }
  | .recovery redirect => { plan with redirect := some redirect }
  | .rsCount count => { plan with rsCount := some count }
  | .confCounters counters => { plan with counters := some counters }

/-- The plan of a row of calls. -/
def Plan.ofCalls (calls : List Call) : Plan :=
  calls.foldl Plan.add {}

theorem run_append (layout : Layout) (first second : List Call) :
    layout.run (first ++ second) =
      ((layout.run first).1 ++ ((layout.run first).2.run second).1,
        ((layout.run first).2.run second).2) := by
  induction first generalizing layout with
  | nil => rfl
  | cons call rest ih => simp only [List.cons_append, run, ih]

theorem Plan.foldl_push (plan : Plan) (specs : List OpSpec) :
    (specs.map .push).foldl add plan = { plan with specs := plan.specs ++ specs } := by
  induction specs generalizing plan with
  | nil => simp
  | cons spec rest ih =>
    rw [List.map_cons, List.foldl_cons, ih]
    simp [add]

/-! ## A layout after some calls -/

/-- A layout holds just what a plan says. -/
structure Built (names : Names) (plan : Plan) (ops : List (Handle × OpSpec)) (layout : Layout)
    (places : List Place) : Prop where
  under : layout.names = names
  handles : layout.ops = ops.map Prod.fst
  specs : plan.specs = ops.map Prod.snd
  override : layout.rsCount = plan.rsCount
  housed : Housed names layout.snapshot places
  list : ListHeld names layout.window ops layout.snapshot places
  recovery : RecoveryHeld names layout.recovery plan.redirect layout.snapshot places
  globals : GlobalsHeld names layout.window layout.recovery plan.cycle plan.currentOp plan.counters
    layout.snapshot places

section Built

variable {names : Names} {plan : Plan} {ops : List (Handle × OpSpec)} {layout : Layout}
  {places : List Place}

/-! ## One call -/

theorem linkWrite_eq (layout : Layout) (op : Handle) :
    layout.linkWrite op = linkTo layout.names layout.window op layout.ops.getLast? := by
  unfold linkWrite tail linkTo
  cases layout.ops.getLast? <;> rfl

theorem Built.setCycle (separated : names.Separated) (built : Built names plan ops layout places)
    (cycle : UInt64) :
    Built names (plan.add (.cycle cycle)) ops (layout.setCycle cycle) places := by
  obtain ⟨rfl, handles, specs, override, housed, list, recovery, globals⟩ := built
  have edited := edited_setGlobal housed layout.names.cycleCount (.scalar cycle)
  exact ⟨rfl, handles, specs, override, edited.housed, list.edit edited (by simp) (by simp),
    recovery.edit edited (by simp), globals.setCycle separated housed cycle⟩

theorem Built.setCurrentOp (separated : names.Separated)
    (built : Built names plan ops layout places) (op : Handle) :
    Built names (plan.add (.currentOp op)) ops (layout.setCurrentOp op) places := by
  obtain ⟨rfl, handles, specs, override, housed, list, recovery, globals⟩ := built
  have edited := edited_setGlobal housed layout.names.currentOp (.ref op)
  exact ⟨rfl, handles, specs, override, edited.housed, list.edit edited (by simp) (by simp),
    recovery.edit edited (by simp), globals.setCurrentOp separated housed op⟩

theorem Built.setRsCount (built : Built names plan ops layout places) (count : UInt64) :
    Built names (plan.add (.rsCount count)) ops (layout.setRsCount count) places := by
  obtain ⟨rfl, handles, specs, override, housed, list, recovery, globals⟩ := built
  exact ⟨rfl, handles, specs, rfl, housed, list, recovery, globals⟩

theorem Built.setConfCounters (separated : names.Separated)
    (built : Built names plan ops layout places) (counters : List UInt64) :
    ∃ later, Built names (plan.add (.confCounters counters)) ops
      (layout.setConfCounters counters) later := by
  obtain ⟨rfl, handles, specs, override, housed, list, recovery, globals⟩ := built
  let table : Handle := ⟨layout.snapshot.size⟩
  let grown := places ++ [⟨.table, table, []⟩]
  have made : Edited layout.names layout.snapshot places []
      (layout.snapshot.alloc (confTable counters)).2 grown :=
    housed.edited_alloc separated fun _ _ _ listed => by cases listed
  have fields : TableHeld counters table (layout.snapshot.alloc (confTable counters)).2 grown := by
    refine ⟨⟨⟨.table, table, []⟩, ?_, rfl⟩, ?_⟩
    · show grown[layout.snapshot.size]? = _
      rw [← housed.size, List.getElem?_concat_length]
    · intro place
      rw [Snapshot.slot?_alloc, if_pos rfl, get?_confTable]
  have edited := edited_setGlobal made.housed layout.names.confCounters (.ref table)
  refine ⟨grown, rfl, handles, specs, override, edited.housed, ?_, ?_, ?_⟩
  · exact (list.edit made (by simp) (by simp)).edit edited (by simp) (by simp)
  · exact (recovery.edit made (by simp)).edit edited (by simp)
  · exact (globals.edit made rfl).setTable separated made.housed fields

theorem Built.setRecovery (separated : names.Separated)
    (built : Built names plan ops layout places) (filled : Redirect) :
    ∃ after later,
      layout.setRecovery filled.op filled.fetchAddr filled.cycle = (.ok (), after) ∧
        Built names (plan.add (.recovery filled)) ops after later := by
  obtain ⟨rfl, handles, specs, override, housed, list, recovery, globals⟩ := built
  obtain ⟨after, later, keys, done, same, edited, held, only⟩ :=
    recovery.fill separated housed filled
  have apart : ∀ {handle part}, places[handle.index]? = some ⟨part, handle, []⟩ →
      part ≠ .recovery → ∀ path, (handle, path) ∉ keys := by
    intro handle part home differ path mem
    exact ne_of_homes home recovery.home differ (only _ mem)
  refine ⟨{ layout with snapshot := after }, later, ?_, rfl, handles, specs, override,
    edited.housed, ?_, held, globals.edit edited same⟩
  · unfold redirectWrites at done
    simp only [setRecovery, done]
  · exact list.edit edited (apart list.home nofun _) fun op mem =>
      apart (list.opHomes op mem) nofun

theorem Built.push (separated : names.Separated) (built : Built names plan ops layout places)
    (spec : OpSpec) :
    ∃ op after later, layout.push spec = (.ok op, after) ∧
      Built names (plan.add (.push spec)) (ops ++ [(op, spec)]) after later := by
  obtain ⟨rfl, handles, specs, override, housed, list, recovery, globals⟩ := built
  obtain ⟨after, later, keys, done, same, edited, listed, only⟩ :=
    list.push separated housed spec
  have apart : ∀ path, (layout.recovery, path) ∉ keys := by
    intro path mem
    rcases only _ mem with fresh | isWindow | isOp
    · have inside := housed.inside recovery.home
      rw [show layout.recovery = _ from fresh] at inside
      exact Nat.lt_irrefl _ inside
    · exact ne_of_homes recovery.home list.home nofun isWindow
    · exact ne_of_homes recovery.home (list.opHomes _ isOp) nofun rfl
  have pushed : layout.push spec = (.ok ⟨layout.snapshot.size⟩,
      { layout with snapshot := after, ops := layout.ops ++ [⟨layout.snapshot.size⟩] }) := by
    rw [pushWrites, ← handles, ← linkWrite_eq] at done
    unfold Layout.push
    rw [show (layout.snapshot.alloc Table.empty) =
      (⟨layout.snapshot.size⟩, (layout.snapshot.alloc Table.empty).2) from rfl]
    simp only [done]
  refine ⟨_, _, later, pushed, rfl, ?_, ?_, override, edited.housed, listed,
    recovery.edit edited apart, globals.edit edited same⟩
  · rw [handles, List.map_append]
    rfl
  · show plan.specs ++ [spec] = _
    rw [specs, List.map_append]
    rfl

/-- A call succeeds, and the layout holds what the call asks for besides what was asked for
before. -/
theorem Built.call (separated : names.Separated) (built : Built names plan ops layout places)
    (call : Call) :
    ∃ result after later added, layout.call call = (.ok result, after) ∧
      Built names (plan.add call) (ops ++ added) after later ∧
      result.isSome = call.isPush ∧ added.map Prod.fst = result.toList := by
  cases call with
  | push spec =>
    obtain ⟨op, after, later, pushed, built⟩ := built.push separated spec
    refine ⟨some op, after, later, [(op, spec)], ?_, built, rfl, rfl⟩
    simp only [Layout.call, pushed]
    rfl
  | cycle cycle =>
    refine ⟨none, _, places, [], rfl, ?_, rfl, rfl⟩
    rw [List.append_nil]
    exact built.setCycle separated cycle
  | currentOp op =>
    refine ⟨none, _, places, [], rfl, ?_, rfl, rfl⟩
    rw [List.append_nil]
    exact built.setCurrentOp separated op
  | recovery filled =>
    obtain ⟨after, later, done, built⟩ := built.setRecovery separated filled
    refine ⟨none, after, later, [], ?_, ?_, rfl, rfl⟩
    · simp only [Layout.call, done]
      rfl
    · rw [List.append_nil]
      exact built
  | rsCount count =>
    refine ⟨none, _, places, [], rfl, ?_, rfl, rfl⟩
    rw [List.append_nil]
    exact built.setRsCount count
  | confCounters counters =>
    obtain ⟨later, built⟩ := built.setConfCounters separated counters
    refine ⟨none, _, later, [], rfl, ?_, rfl, rfl⟩
    rw [List.append_nil]
    exact built

/-- **A row of calls succeeds, and the layout holds just what the calls ask for.** -/
theorem Built.run (separated : names.Separated) (built : Built names plan ops layout places)
    (calls : List Call) :
    ∃ (results : List (Option Handle)) (after : Layout) (later : List Place)
      (added : List (Handle × OpSpec)), layout.run calls = (results.map .ok, after) ∧
      Built names (calls.foldl Plan.add plan) (ops ++ added) after later ∧
      results.map Option.isSome = calls.map Call.isPush ∧
      added.map Prod.fst = results.reduceOption := by
  induction calls generalizing plan ops layout places with
  | nil =>
    refine ⟨[], layout, places, [], rfl, ?_, rfl, rfl⟩
    rw [List.append_nil]
    exact built
  | cons call rest ih =>
    obtain ⟨result, middle, grown, early, called, builtOn, isPush, first⟩ :=
      built.call separated call
    obtain ⟨results, after, later, late, ran, finished, pushes, others⟩ := ih builtOn
    refine ⟨result :: results, after, later, early ++ late, ?_, ?_, ?_, ?_⟩
    · simp only [Layout.run, called, ran, List.map_cons]
    · rw [← List.append_assoc]
      exact finished
    · rw [List.map_cons, List.map_cons, isPush, pushes]
    · rw [List.map_append, first, others]
      cases result <;> rfl

/-! ## A new layout -/

/-- The places of the window and of the recovery, which are made first. -/
def firstPlaces : List Place := [⟨.window, ⟨0⟩, []⟩, ⟨.recovery, ⟨1⟩, []⟩]

theorem housed_foundation (names : Names) :
    Housed names (foundation names).2.2 firstPlaces := by
  have empty : Housed names {} [] := ⟨rfl, nofun⟩
  have window : Housed names (Snapshot.alloc {} Table.empty).2 [⟨.window, ⟨0⟩, []⟩] :=
    empty.alloc fun _ _ _ _ => Table.get?_empty _
  have recovery : Housed names ((Snapshot.alloc {} Table.empty).2.alloc Table.empty).2
      firstPlaces :=
    window.alloc fun _ _ _ _ => Table.get?_empty _
  exact ⟨recovery.size, recovery.inner⟩

theorem globalsHeld_foundation (separated : names.Separated) :
    GlobalsHeld names ⟨0⟩ ⟨1⟩ 0 none none (foundation names).2.2 firstPlaces := by
  let made : Snapshot := ((Snapshot.alloc {} Table.empty).2.alloc Table.empty).2
  let named := made.setGlobal names.window (.ref ⟨0⟩)
  let both := named.setGlobal names.recoveryInfo (.ref ⟨1⟩)
  have window := get?_setGlobal separated made (.ref ⟨0⟩) .window
  have recovery := get?_setGlobal separated named (.ref ⟨1⟩) .recoveryInfo
  have cycle := get?_setGlobal separated both (.scalar 0) .cycleCount
  have absent (name : String) : made.globals.get? name = none := Table.get?_empty name
  constructor
  · exact (cycle .window).trans ((recovery .window).trans (window .window))
  · exact (cycle .recoveryInfo).trans (recovery .recoveryInfo)
  · exact cycle .cycleCount
  · exact (cycle .currentOp).trans
      ((recovery .currentOp).trans ((window .currentOp).trans (absent _)))
  · intro _
    exact (cycle .confCounters).trans
      ((recovery .confCounters).trans ((window .confCounters).trans (absent _)))
  · nofun

/-- A layout can be made, and it holds what no call has asked for yet. -/
theorem exists_new (separated : names.Separated) :
    ∃ layout places, Layout.new names = .ok layout ∧ Built names {} [] layout places := by
  have housed := housed_foundation names
  have globals := globalsHeld_foundation separated
  let writes : List (Handle × String × Slot) :=
    [(⟨0⟩, names.windowHead, .null), (⟨1⟩, names.recoveryOp, .null)]
  have admits : ∀ write ∈ writes, Admits names firstPlaces (keyOf write) := by
    intro write mem
    simp only [writes, List.mem_cons, List.not_mem_nil, or_false] at mem
    rcases mem with rfl | rfl
    · exact admits_of_home rfl (by simp [Names.dotted])
    · exact admits_of_home rfl (by simp [Names.dotted])
  have distinct : (writes.map keyOf).Nodup := by simp [writes, keyOf]
  obtain ⟨after, later, done, edited, same, written⟩ := housed.setPaths separated admits distinct
  have home {handle : Handle} {place : Place} (stands : firstPlaces[handle.index]? = some place) :
      later[handle.index]? = some place :=
    Snapshot.getElem?_mono edited.grows stands
  have made : Layout.new names = .ok ⟨names, after, ⟨0⟩, ⟨1⟩, [], none⟩ := by
    simp only [writes] at done
    unfold Layout.new
    rw [show foundation names = (⟨0⟩, ⟨1⟩, (foundation names).2.2) from rfl]
    simp only [done]
  have head := written (⟨0⟩, names.windowHead, .null) (by simp [writes])
  have op := written (⟨1⟩, names.recoveryOp, .null) (by simp [writes])
  refine ⟨_, later, made, rfl, rfl, rfl, rfl, edited.housed, ?_, ?_, globals.edit edited same⟩
  · exact ⟨home rfl, by simp, List.nodup_nil, head, by simp, by simp, by simp⟩
  · refine ⟨home rfl, op, by simp, by simp, ?_⟩
    intro _ dotted listed slot
    have place : firstPlaces[1]? = some ⟨.recovery, ⟨1⟩, []⟩ := rfl
    have empty (name : String) : (foundation names).2.2.slot? ⟨1⟩ name = none :=
      Table.get?_empty name
    have apart : ((⟨1⟩ : Handle), Text.segments dotted) ∉ writes.map keyOf := by
      have fresh := (List.nodup_cons.mp (nodup_paths separated .recovery)).1
      have differ : Text.segments dotted ≠ Text.segments names.recoveryOp := fun same =>
        fresh (same ▸ List.mem_map_of_mem listed)
      simpa [writes, keyOf] using differ
    rw [holds_iff_of_edited edited place (List.mem_cons_of_mem _ listed) apart]
    exact Snapshot.not_holds_of_empty empty _ slot

end Built

end Layout
end Inflight
