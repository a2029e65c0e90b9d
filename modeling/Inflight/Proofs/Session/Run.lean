import Inflight.Proofs.Session.Recording

/-!
# Runs of commands

A run is stepped through from its front.  Each command either records an event,
which counts it, or leaves the configuration, the counters and the console's way
of taking texts as they were, and it does so whichever command it is and however
it fails (`Session.runLine_stepping`).  The outcome at a place of a run is that
of the command there in the session that the commands before it leave
(`Session.getElem?_runLines`), so what one command preserves holds after every
part of a run.
-/

namespace Inflight

set_option autoImplicit false

open Storage (FileSystem)

/-- The record of a command that wrote one. -/
def Outcome.record? : Outcome → Option Record
  | .recorded record => some record
  | _ => none

namespace Session

variable {σ φ : Type}

/-! ## One command -/

/-- What a command does to the counters: a record counts its event and bears the number that
this gives, and with every other outcome the counters stay. -/
inductive Stepping (before : Session σ φ) (line : String) : Outcome → Session σ φ → Prop where
  | recorded {event : Event} {record : Record} {counters : Counters} {after : Session σ φ} :
      Command.ofLine line = .ok (.record event) →
        event.count before.counters record.addr = (record.ordinal, counters) →
        Steady { before with counters } after → Stepping before line (.recorded record) after
  | quiet {outcome : Outcome} {after : Session σ φ} :
      outcome.record? = none → Steady before after → Stepping before line outcome after

theorem Stepping.mode {session after : Session σ φ} {line : String} {outcome : Outcome}
    (stepping : Stepping session line outcome after) :
    after.console.mode = session.console.mode := by
  cases stepping with
  | recorded parsed counted steady => exact steady.mode
  | quiet unrecorded steady => exact steady.mode

theorem Stepping.config {session after : Session σ φ} {line : String} {outcome : Outcome}
    (stepping : Stepping session line outcome after) : after.config = session.config := by
  cases stepping with
  | recorded parsed counted steady => exact steady.config
  | quiet unrecorded steady => exact steady.config

variable [FileSystem σ φ] (session : Session σ φ) (line : String) (live : Inspector)

theorem execute_startLog_quiet (path : Option String) :
    ∃ outcome after, session.execute (.startLog path) live = (outcome, after) ∧
      outcome.record? = none ∧ Steady session after := by
  have started := session.startLog_steady path
  simp only [execute]
  cases start : session.startLog path with
  | mk result after =>
    rw [start] at started
    cases result with
    | error fault => exact ⟨_, _, rfl, rfl, started.trans (after.fail_steady _ fault)⟩
    | ok opened => exact ⟨_, _, rfl, rfl, started.trans (after.report_steady _)⟩

theorem execute_stopLog_quiet :
    ∃ outcome after, session.execute .stopLog live = (outcome, after) ∧
      outcome.record? = none ∧ Steady session after := by
  have stopped := session.stopLog_steady
  simp only [execute]
  cases stop : session.stopLog with
  | mk result after =>
    rw [stop] at stopped
    cases result with
    | error fault => exact ⟨_, _, rfl, rfl, stopped.trans (after.fail_steady _ fault)⟩
    | ok closed =>
      cases closed with
      | none => exact ⟨_, _, rfl, rfl, stopped.trans (after.report_steady _)⟩
      | some path => exact ⟨_, _, rfl, rfl, stopped.trans (after.report_steady _)⟩

/-- On a console that works every command counts its record, or leaves the counters. -/
theorem runLine_stepping (works : session.console.mode = .works) :
    Stepping session line (session.runLine line live).1 (session.runLine line live).2 := by
  -- Of all ways through a command only that of a captured event ends in a record.
  cases parsed : Command.ofLine line with
  | error fault =>
    simp only [runLine, parsed]
    exact .quiet rfl (session.fail_steady _ fault)
  | ok command =>
    cases command with
    | startLog path =>
      obtain ⟨outcome, after, executed, unrecorded, steady⟩ :=
        session.execute_startLog_quiet live path
      simp only [runLine, parsed, executed]
      exact .quiet unrecorded steady
    | stopLog =>
      obtain ⟨outcome, after, executed, unrecorded, steady⟩ := session.execute_stopLog_quiet live
      simp only [runLine, parsed, executed]
      exact .quiet unrecorded steady
    | record event =>
      cases seen : event.sight session.config live with
      | error fault =>
        rw [runLine_of_error parsed seen]
        exact .quiet rfl (session.fail_steady _ fault)
      | ok sighting =>
        cases sighting with
        | outside cycle =>
          rw [runLine_of_outside parsed seen]
          exact .quiet rfl (session.note_steady _)
        | captured capture =>
          obtain ⟨record, after, rfl, ran, written, steady⟩ :=
            runLine_of_captured works parsed seen rfl
          rw [ran]
          exact .recorded parsed rfl steady
        | endless =>
          rw [runLine_of_wanders parsed (Event.sight_eq_endless_iff.mp seen)]
          exact .quiet rfl (.refl session)

/-! ## Runs -/

theorem runLines_cons (rest : List (String × Inspector)) :
    session.runLines ((line, live) :: rest) =
      ((session.runLine line live).1 :: ((session.runLine line live).2.runLines rest).1,
        ((session.runLine line live).2.runLines rest).2) := by
  rw [runLines]

theorem length_runLines (steps : List (String × Inspector)) :
    (session.runLines steps).1.length = steps.length := by
  induction steps generalizing session with
  | nil => rfl
  | cons step rest ih =>
    obtain ⟨line, live⟩ := step
    rw [runLines_cons, List.length_cons, List.length_cons, ih]

/-- The outcome at a place is that of the command there, run where those before it lead. -/
theorem getElem?_runLines (steps : List (String × Inspector)) (place : Nat) :
    (session.runLines steps).1[place]? = steps[place]?.map fun step =>
      ((session.runLines (steps.take place)).2.runLine step.1 step.2).1 := by
  induction steps generalizing session place with
  | nil => rfl
  | cons step rest ih =>
    obtain ⟨line, live⟩ := step
    rw [runLines_cons]
    cases place with
    | zero =>
      rw [List.getElem?_cons_zero, List.getElem?_cons_zero, List.take_zero, runLines,
        Option.map_some]
    | succ place =>
      rw [List.getElem?_cons_succ, List.getElem?_cons_succ, List.take_succ_cons, runLines_cons]
      exact ih _ place

/-- The first commands of a run have the outcomes that they have alone. -/
theorem runLines_take (steps : List (String × Inspector)) (place : Nat) :
    (session.runLines (steps.take place)).1 = (session.runLines steps).1.take place := by
  induction steps generalizing session place with
  | nil => rw [List.take_nil, runLines, List.take_nil]
  | cons step rest ih =>
    obtain ⟨line, live⟩ := step
    cases place with
    | zero => rw [List.take_zero, List.take_zero, runLines]
    | succ place =>
      rw [List.take_succ_cons, runLines_cons, runLines_cons, List.take_succ_cons, ih]

/-- The first commands of a run with their outcomes there are a run of their own. -/
theorem zip_runLines_take (steps : List (String × Inspector)) (place : Nat) :
    (steps.take place).zip (session.runLines (steps.take place)).1 =
      (steps.zip (session.runLines steps).1).take place := by
  rw [runLines_take, List.zip_eq_zipWith, List.zip_eq_zipWith, List.take_zipWith]

/-- The last commands of a run are run where the first ones lead. -/
theorem runLines_append (early late : List (String × Inspector)) :
    session.runLines (early ++ late) =
      ((session.runLines early).1 ++ ((session.runLines early).2.runLines late).1,
        ((session.runLines early).2.runLines late).2) := by
  induction early generalizing session with
  | nil => rfl
  | cons step rest ih =>
    obtain ⟨line, live⟩ := step
    rw [List.cons_append, runLines_cons, runLines_cons, ih, List.cons_append]

theorem mode_runLines (works : session.console.mode = .works)
    (steps : List (String × Inspector)) :
    (session.runLines steps).2.console.mode = .works := by
  induction steps generalizing session with
  | nil => exact works
  | cons step rest ih =>
    obtain ⟨line, live⟩ := step
    rw [runLines_cons]
    exact ih _ ((session.runLine_stepping line live works).mode.trans works)

end Session

end Inflight
