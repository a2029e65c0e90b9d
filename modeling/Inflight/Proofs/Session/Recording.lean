import Inflight.Proofs.Counters
import Inflight.Proofs.Event
import Inflight.Proofs.Session.Effects
import Inflight.Storage.Directory

/-!
# Recording is all or nothing

An event that is to be recorded is read before anything is counted or written.
So on a console that works there are three ends of it.  When a read fails, the
failure is one message on the console and nothing else; when the cycle lies
outside, nothing changes but for a notice; and otherwise the record is counted,
shown and written, and no later step can take it back
(`Session.runLine_all_or_nothing`).

Two things stand in the way of these ends.  A walk that has neither a limit nor an
end never comes back (`Session.runLine_of_wanders`), and a console that shows the
record and then fails to flush makes a failed command of an event that has been
counted (`Session.runLine_unended`).
-/

namespace Inflight

set_option autoImplicit false

open Storage (FileSystem)

/-! ## Counting -/

/-- How the counters take a recorded event.  A detection adds one at its address, where the
record's number is the new count.  The end of a recovery changes nothing, and its number is the
count as it stands, which is zero where there was no detection. -/
def Event.Counted (event : Event) (before : Counters) (addr : Address) (ordinal : Nat)
    (after : Counters) : Prop :=
  match event with
  | .mispredict =>
    (∀ other, after.count other = before.count other + if other = addr then 1 else 0) ∧
      (∀ other, other ∈ after.addresses ↔ other = addr ∨ other ∈ before.addresses) ∧
      ordinal = after.count addr
  | .recoveryEnd =>
    after = before ∧ ordinal = before.count addr ∧ (addr ∉ before.addresses → ordinal = 0)

theorem Event.counted_count (event : Event) (counters : Counters) (addr : Address) :
    event.Counted counters addr (event.count counters addr).1 (event.count counters addr).2 := by
  cases event with
  | mispredict =>
    exact ⟨counters.count_record addr, counters.mem_addresses_record addr, rfl⟩
  | recoveryEnd => exact ⟨rfl, rfl, counters.count_eq_zero addr⟩

namespace Session

variable {σ φ : Type} [FileSystem σ φ] {session : Session σ φ} {line : String} {event : Event}
  {live : Inspector}

/-! ## What becomes of an event -/

/-- An event one of whose reads fails is a failed command. -/
theorem runLine_of_error {fault : Fault} (parsed : Command.ofLine line = .ok (.record event))
    (unseen : event.sight session.config live = .error fault) :
    session.runLine line live = session.fail (Command.record event).name fault := by
  simp only [runLine, parsed, execute, handle, unseen]

/-- An event outside the recorded cycles is passed over. -/
theorem runLine_of_outside {cycle : UInt64}
    (parsed : Command.ofLine line = .ok (.record event))
    (seen : event.sight session.config live = .ok (.outside cycle)) :
    session.runLine line live =
      (.skipped, session.note
        (.outsideCycleWindow event.name cycle session.config.general.cycleWindow)) := by
  simp only [runLine, parsed, execute, handle, seen]

/-- An event whose walk has neither a limit nor an end never comes to an end of its own, and it
has changed nothing. -/
theorem runLine_of_wanders (parsed : Command.ofLine line = .ok (.record event))
    (wanders : event.Wanders session.config live) :
    session.runLine line live = (.endless, session) := by
  simp only [runLine, parsed, execute, handle, Event.sight_eq_endless_iff.mpr wanders]

/-- An event all of whose reads succeed is counted and written. -/
theorem runLine_of_captured {capture : Capture} {ordinal : Nat} {counters : Counters}
    (works : session.console.mode = .works)
    (parsed : Command.ofLine line = .ok (.record event))
    (seen : event.sight session.config live = .ok (.captured capture))
    (counted : event.count session.counters capture.pivot.addr = (ordinal, counters)) :
    ∃ record after, record = capture.record ordinal session.config.columns.miss ∧
      session.runLine line live = (.recorded record, after) ∧
        Writing session record.text after ∧ Steady { session with counters } after := by
  let record := capture.record ordinal session.config.columns.miss
  let notices := session.around.notices ++
    capture.census.notices capture.pivot.handle capture.cycle
  let noted : Session σ φ :=
    { session with counters, around := { session.around with notices } }
  -- The notices of the walk come first, and they are nothing to the writing of the record.
  obtain ⟨after, emitted, writing, steady⟩ := noted.emit_of_works works record.text
  refine ⟨record, after, rfl, ?_, writing.congr rfl rfl rfl, steady.config, steady.counters,
    steady.mode⟩
  simp only [runLine, parsed, execute, handle, seen, foldl_note, counted]
  rw [emitted]

/-! ## All or nothing -/

/-- Neither the log nor its files nor what is counted has changed. -/
structure Untouched (before after : Session σ φ) : Prop where
  config : after.config = before.config
  counters : after.counters = before.counters
  sink : after.sink = before.sink
  files : after.around.files = before.around.files

/-- A record of an event was counted and written, and it shows what was read. -/
structure Recording (before : Session σ φ) (event : Event) (live : Inspector) (record : Record)
    (after : Session σ φ) : Prop where
  read : ∃ op window recovery capture,
    event.Finds before.config live op window recovery capture.cycle ∧
      event.Shows before.config live op window recovery capture.cycle (.captured capture) ∧
      record = capture.record record.ordinal before.config.columns.miss
  counted : event.Counted before.counters record.addr record.ordinal after.counters
  written : Writing before record.text after
  config : after.config = before.config

/-- An event was passed over: what is read before the cycle is known could be read, and the
cycle lies outside. -/
structure Passing (before : Session σ φ) (event : Event) (live : Inspector)
    (after : Session σ φ) : Prop where
  read : ∃ op window recovery cycle, event.Finds before.config live op window recovery cycle ∧
    before.config.general.cycleWindow.contains cycle = false
  untouched : Untouched before after
  console : after.console = before.console

/-- An event was given up because not all of its reads succeed, and nothing is left of it but the
message that says why. -/
structure Refusal (before : Session σ φ) (event : Event) (live : Inspector) (fault : Fault)
    (after : Session σ φ) : Prop where
  unread : ¬∃ op window recovery cycle sighting,
    event.Finds before.config live op window recovery cycle ∧
      event.Shows before.config live op window recovery cycle sighting
  told : event.sight before.config live = .error fault
  untouched : Untouched before after
  console : after.console = before.console.showing (fault.report ++ "\n")

/-- The ways in which an event ends on a console that works: with the outcome and the session
that the command leaves. -/
inductive Ending (before : Session σ φ) (event : Event) (live : Inspector) :
    Outcome → Session σ φ → Prop where
  | recorded {record : Record} {after : Session σ φ} :
      Recording before event live record after → Ending before event live (.recorded record) after
  | skipped {after : Session σ φ} :
      Passing before event live after → Ending before event live .skipped after
  | failed {fault : Fault} {after : Session σ φ} :
      Refusal before event live fault after → Ending before event live (.failed fault) after

/-- **Recording is all or nothing.**  On a console that works, the command for an event ends in
one of three ways unless its walk has neither a limit nor an end.  Either every read succeeded,
and the record is counted and written; or the cycle lies outside, and nothing has changed; or a
read failed, and one message is all that was added. -/
theorem runLine_all_or_nothing (live : Inspector) (works : session.console.mode = .works)
    (parsed : Command.ofLine line = .ok (.record event))
    (comesBack : ¬event.Wanders session.config live) :
    Ending session event live (session.runLine line live).1 (session.runLine line live).2 := by
  cases seen : event.sight session.config live with
  | error fault =>
    have unread : ¬∃ op window recovery cycle sighting,
        event.Finds session.config live op window recovery cycle ∧
          event.Shows session.config live op window recovery cycle sighting := by
      rintro ⟨op, window, recovery, cycle, sighting, found, shown⟩
      have sighted := Event.sight_eq_ok_iff.mpr ⟨op, window, recovery, cycle, found, shown⟩
      rw [seen] at sighted
      cases sighted
    rw [runLine_of_error parsed seen, fail, report_of_works]
    · exact .failed ⟨unread, seen, ⟨rfl, rfl, rfl, rfl⟩, rfl⟩
    · exact works
  | ok sighting =>
    obtain ⟨op, window, recovery, cycle, found, shown⟩ := Event.sight_eq_ok_iff.mp seen
    cases sighting with
    | outside other =>
      rw [runLine_of_outside parsed seen]
      exact .skipped
        ⟨⟨op, window, recovery, cycle, found, shown.2⟩, ⟨rfl, rfl, rfl, rfl⟩, rfl⟩
    | captured capture =>
      obtain rfl := shown.1
      have counted := event.counted_count session.counters capture.pivot.addr
      obtain ⟨record, after, rfl, ran, written, steady⟩ :=
        runLine_of_captured works parsed seen rfl
      rw [ran]
      refine .recorded
        ⟨⟨op, window, recovery, capture, found, shown, rfl⟩, ?_, written, steady.config⟩
      rw [steady.counters]
      exact counted
    | endless => exact absurd (Event.sight_eq_endless_iff.mp seen) comesBack

/-- A window whose only op is the pivot of both events. -/
def oneOp : Snapshot where
  globals := .ofList [("op", .ref ⟨0⟩), ("node", .ref ⟨1⟩), ("cycle_count", .scalar 7),
    ("bp_recovery_info", .ref ⟨2⟩)]
  objects := #[
    .ofList [("addr", .scalar 16), ("op_num", .scalar 4), ("off_path", .flag false),
      ("state", .scalar 2), ("done_cycle", .scalar 0), ("next_node", .null)],
    .ofList [("node_head", .ref ⟨0⟩), ("node_count", .scalar 1), ("rs_count", .scalar 1)],
    .ofList [("recovery_cycle", .scalar 9), ("recovery_fetch_addr", .scalar 64),
      ("recovery_op", .ref ⟨0⟩)]]

/-- A session without a log that has one detection at the address of the op.  Its walks may visit
four entries. -/
def oneDetection : Session Storage.Directory Storage.OpenFile where
  config := { names := { opAddr := "addr", rsCount := "rs_count" }, general.maxWalk := some 4 }
  counters := { entries := [(⟨16⟩, 1)] }
  around := { files := {} }

/-- What is recorded of the detection at the only op, the second one at its address. -/
def oneOpRecord : Record where
  trigger := .mispredict 9
  addr := ⟨16⟩
  ordinal := 2
  cycle := 7
  opNum := 4
  offPath := false
  fetchAddr := ⟨64⟩
  census := { rsOnPath := 1, pivotFound := true, visited := 1 }
  windowTotal := 1
  rsTotal := 1
  missColumn := false
  oracle := none

/-- The detection at the only op is recorded as the second one at its address. -/
theorem runLine_oneOp :
    oneDetection.console.mode = .works ∧
      Command.ofLine "log_mispred" = .ok (.record .mispredict) ∧
      ¬Event.mispredict.Wanders oneDetection.config oneOp.inspector ∧
      (oneDetection.runLine "log_mispred" oneOp.inspector).1 = .recorded oneOpRecord ∧
      Ending oneDetection .mispredict oneOp.inspector
        (oneDetection.runLine "log_mispred" oneOp.inspector).1
        (oneDetection.runLine "log_mispred" oneOp.inspector).2 := by
  have parsed : Command.ofLine "log_mispred" = .ok (.record .mispredict) := by decide +kernel
  have comesBack : ¬Event.mispredict.Wanders oneDetection.config oneOp.inspector :=
    Event.not_wanders_of_limit rfl
  exact ⟨rfl, parsed, comesBack, by decide +kernel,
    runLine_all_or_nothing oneOp.inspector rfl parsed comesBack⟩

/-! ## Where there is no such end -/

/-- A window whose only op is followed by itself. -/
def oneOpRing : Snapshot where
  globals := oneOp.globals
  objects := oneOp.objects.set! 0
    (.ofList [("addr", .scalar 16), ("op_num", .scalar 4), ("off_path", .flag false),
      ("state", .scalar 2), ("done_cycle", .scalar 0), ("next_node", .ref ⟨0⟩)])

/-- The session with one detection, its walks without a limit. -/
def unlimitedDetection : Session Storage.Directory Storage.OpenFile :=
  { oneDetection with config := { oneDetection.config with general := {} } }

/-- The session with one detection, on a console that shows every text and fails to flush. -/
def unflushedDetection : Session Storage.Directory Storage.OpenFile :=
  { oneDetection with console := { mode := .flushFails } }

/-- The walk over the op that is followed by itself has no end. -/
theorem wanders_oneOpRing :
    Event.mispredict.Wanders unlimitedDetection.config oneOpRing.inspector := by
  let op : Op := ⟨⟨0⟩, ⟨16⟩, 4, false, .inRs, 0, some ⟨0⟩⟩
  have pivot : Op.read oneOpRing.inspector unlimitedDetection.config.names ⟨0⟩ = .ok op := rfl
  have loops : Loops oneOpRing.inspector unlimitedDetection.config.names (some ⟨0⟩) :=
    ⟨[], ⟨0⟩, [op], .here _, List.cons_ne_nil op [], .next pivot (.here _)⟩
  exact
    { unlimited := rfl
      begun := ⟨⟨0⟩, ⟨1⟩, ⟨2⟩, 7, some ⟨0⟩, ⟨rfl, rfl, rfl, rfl⟩, rfl, ⟨.mispredict 9, rfl⟩,
        ⟨{ trigger := .mispredict 9, pivot := op, cycle := 7, fetchAddr := ⟨64⟩,
           windowTotal := 1, rsTotal := 1, oracle := none, census := {} },
          ⟨pivot, rfl, rfl, rfl, rfl⟩⟩,
        rfl, (oneOpRing.not_ends_iff_loops _ _ _ _).mpr loops⟩ }

/-- A detection without one of the three ends: its walk never comes back, though the console
works; or the console shows the record and fails to flush, and the event fails when it has been
counted. -/
theorem runLine_unended :
    (unlimitedDetection.console.mode = .works ∧
      unlimitedDetection.runLine "log_mispred" oneOpRing.inspector =
        (.endless, unlimitedDetection) ∧
      ¬Ending unlimitedDetection .mispredict oneOpRing.inspector
        (unlimitedDetection.runLine "log_mispred" oneOpRing.inspector).1
        (unlimitedDetection.runLine "log_mispred" oneOpRing.inspector).2) ∧
    ((∀ text, (unflushedDetection.console.write text).2.shown =
        unflushedDetection.console.shown ++ text) ∧
      (unflushedDetection.runLine "log_mispred" oneOp.inspector).1 =
        .failed (.storage .consoleFlush) ∧
      (unflushedDetection.runLine "log_mispred" oneOp.inspector).2.console.shown =
        oneOpRecord.text ++ "Error writing log: write failed: console flush refused\n" ∧
      unflushedDetection.counters.count ⟨16⟩ = 1 ∧
      (unflushedDetection.runLine "log_mispred" oneOp.inspector).2.counters.count ⟨16⟩ = 2 ∧
      ¬Ending unflushedDetection .mispredict oneOp.inspector
        (unflushedDetection.runLine "log_mispred" oneOp.inspector).1
        (unflushedDetection.runLine "log_mispred" oneOp.inspector).2) := by
  have parsed : Command.ofLine "log_mispred" = .ok (.record .mispredict) := by decide +kernel
  have endless := runLine_of_wanders parsed wanders_oneOpRing
  have failed : (unflushedDetection.runLine "log_mispred" oneOp.inspector).1 =
      .failed (.storage .consoleFlush) := by
    decide +kernel
  have counted :
      (unflushedDetection.runLine "log_mispred" oneOp.inspector).2.counters.count ⟨16⟩ = 2 := by
    decide +kernel
  refine ⟨⟨rfl, endless, ?_⟩, fun text => rfl, failed, by decide +kernel, by decide +kernel,
    counted, ?_⟩
  · rw [endless]
    rintro ⟨⟩
  · intro ended
    rw [failed] at ended
    cases ended with
    | failed refusal =>
      rw [refusal.untouched.counters] at counted
      exact absurd counted (by decide +kernel)

end Session

end Inflight
