import Inflight.Proofs.Session.Run

/-!
# Records do not depend on the log

What an event comes to is settled by the configuration, the counters and the
live state (`Event.result`).  The log and its files are not looked at before the
record is made, and a log that fails is given up without taking the record back.
So two sessions that are alike in their configuration and their counters stay
alike, over whatever files they run, and also where only one of them is told to
start or to stop a log (`Session.Alike`).  All their records are the same, and so
is every failure to make one (`Session.runLines_independent_of_log`).
-/

namespace Inflight

set_option autoImplicit false

open Log (Surroundings)
open Storage (FileSystem)

/-- A command line that starts a log, or tries to, or stops it. -/
def Command.AboutLog (line : String) : Prop :=
  ofLine line = .ok .stopLog ∨ ∃ path, ofLine line = .ok (.startLog path)

theorem Command.AboutLog.not_record {line : String} (about : AboutLog line) (event : Event) :
    ofLine line ≠ .ok (.record event) := by
  rcases about with stop | ⟨path, start⟩
  · simp [stop]
  · simp [start]

/-- What an event comes to on a console that works, and the counters after it. -/
def Event.result (event : Event) (config : Config) (counters : Counters) (live : Inspector) :
    Outcome × Counters :=
  match event.sight config live with
  | .error fault => (.failed fault, counters)
  | .ok (.outside _) => (.skipped, counters)
  | .ok .endless => (.endless, counters)
  | .ok (.captured capture) =>
    let (ordinal, counters) := event.count counters capture.pivot.addr
    (.recorded (capture.record ordinal config.columns.miss), counters)

namespace Session

/-! ## One command -/

section Command

variable {σ φ : Type} [FileSystem σ φ] {session : Session σ φ} {line : String}
  (live : Inspector)

/-- The log has no part in what an event comes to. -/
theorem runLine_eq_result {event : Event} (works : session.console.mode = .works)
    (parsed : Command.ofLine line = .ok (.record event)) :
    ((session.runLine line live).1, (session.runLine line live).2.counters) =
      event.result session.config session.counters live := by
  unfold Event.result
  cases seen : event.sight session.config live with
  | error fault =>
    rw [runLine_of_error parsed seen]
    exact congrArg (Prod.mk _) (session.fail_steady _ fault).counters
  | ok sighting =>
    cases sighting with
    | outside cycle => rw [runLine_of_outside parsed seen]; rfl
    | captured capture =>
      obtain ⟨record, after, rfl, ran, -, steady⟩ := runLine_of_captured works parsed seen rfl
      rw [ran]
      exact congrArg (Prod.mk _) steady.counters
    | endless => rw [runLine_of_wanders parsed (Event.sight_eq_endless_iff.mp seen)]

/-- A command that is no event changes neither the configuration nor the counters. -/
theorem runLine_steady (works : session.console.mode = .works)
    (other : ∀ event, Command.ofLine line ≠ .ok (.record event)) :
    Steady session (session.runLine line live).2 := by
  generalize ran : session.runLine line live = result
  have stepping := session.runLine_stepping line live works
  rw [ran] at stepping
  cases result with
  | mk outcome after =>
    cases stepping with
    | recorded parsed counted steady => exact absurd parsed (other _)
    | quiet unrecorded steady => exact steady

end Command

/-! ## Two sessions side by side -/

variable {σ φ τ ψ : Type} {first : Session σ φ} {second : Session τ ψ}

/-- Two sessions, over different files and with or without a log, are configured alike and have
counted the same, on consoles that work. -/
structure Alike (first : Session σ φ) (second : Session τ ψ) : Prop where
  config : first.config = second.config
  counters : first.counters = second.counters
  firstWorks : first.console.mode = .works
  secondWorks : second.console.mode = .works

variable [FileSystem σ φ]

/-- A command about the log that only one of them is given leaves them alike. -/
theorem Alike.step_left (alike : Alike first second) {line : String} (live : Inspector)
    (about : Command.AboutLog line) : Alike (first.runLine line live).2 second := by
  have steady := runLine_steady live alike.firstWorks about.not_record
  exact ⟨steady.config.trans alike.config, steady.counters.trans alike.counters,
    steady.mode.trans alike.firstWorks, alike.secondWorks⟩

variable [FileSystem τ ψ]

/-- An event comes to the same in both sessions. -/
theorem Alike.outcome (alike : Alike first second) {line : String} {event : Event}
    (live : Inspector) (parsed : Command.ofLine line = .ok (.record event)) :
    (first.runLine line live).1 = (second.runLine line live).1 ∧
      (first.runLine line live).2.counters = (second.runLine line live).2.counters := by
  rw [← Prod.mk.injEq, runLine_eq_result live alike.firstWorks parsed,
    runLine_eq_result live alike.secondWorks parsed, alike.config, alike.counters]

/-- A command that both are given leaves them alike. -/
theorem Alike.step (alike : Alike first second) (line : String) (live : Inspector) :
    Alike (first.runLine line live).2 (second.runLine line live).2 := by
  have here := first.runLine_stepping line live alike.firstWorks
  have there := second.runLine_stepping line live alike.secondWorks
  refine ⟨here.config.trans (alike.config.trans there.config.symm), ?_,
    here.mode.trans alike.firstWorks, there.mode.trans alike.secondWorks⟩
  by_cases other : ∀ event, Command.ofLine line ≠ .ok (.record event)
  · rw [(runLine_steady live alike.firstWorks other).counters,
      (runLine_steady live alike.secondWorks other).counters, alike.counters]
  · push Not at other
    obtain ⟨event, parsed⟩ := other
    exact (alike.outcome live parsed).2

/-! ## Two runs side by side -/

/-- The marked commands of a row. -/
def marked (steps : List ((String × Inspector) × Bool)) : List (String × Inspector) :=
  (steps.filter Prod.snd).map Prod.fst

theorem marked_cons (step : (String × Inspector) × Bool)
    (rest : List ((String × Inspector) × Bool)) :
    marked (step :: rest) = if step.2 then step.1 :: marked rest else marked rest := by
  unfold marked
  cases here : step.2 <;> simp [here]

theorem marked_append (early late : List ((String × Inspector) × Bool)) :
    marked (early ++ late) = marked early ++ marked late := by
  simp [marked]

theorem Alike.run (alike : Alike first second) {steps : List ((String × Inspector) × Bool)}
    (about : ∀ step ∈ steps, step.2 = false → Command.AboutLog step.1.1) :
    Alike (first.runLines (steps.map Prod.fst)).2 (second.runLines (marked steps)).2 := by
  induction steps generalizing first second with
  | nil => exact alike
  | cons step rest ih =>
    obtain ⟨⟨line, live⟩, mark⟩ := step
    have later : ∀ step ∈ rest, step.2 = false → Command.AboutLog step.1.1 :=
      fun step mem => about step (List.mem_cons_of_mem _ mem)
    cases mark with
    | true =>
      simp only [List.map_cons, marked_cons, if_true, runLines_cons]
      exact ih (alike.step line live) later
    | false =>
      have left : Command.AboutLog line := about ((line, live), false) List.mem_cons_self rfl
      simp only [List.map_cons, marked_cons, Bool.false_eq_true, if_false, runLines_cons]
      exact ih (alike.step_left live left) later

/-- **Records do not depend on the log.**  Take two runs from sessions without a detection that
are configured alike, over any files and with any failures of opening and writing them, on
consoles that work.  The second run is given the marked commands of the first, and only commands
about the log are not marked.  After each command of the first run, and those of them that the
second was given, the counters are the same; and every event has the same outcome in both. -/
theorem runLines_independent_of_log (config : Config) (shown displayed : String)
    (around : Surroundings σ) (elsewhere : Surroundings τ)
    (steps : List ((String × Inspector) × Bool))
    (about : ∀ step ∈ steps, step.2 = false → Command.AboutLog step.1.1) :
    let first : Session σ φ := { config, console := { shown }, around }
    let second : Session τ ψ := { config, console := { shown := displayed }, around := elsewhere }
    ∀ place,
      (first.runLines ((steps.take place).map Prod.fst)).2.counters =
        (second.runLines (marked (steps.take place))).2.counters ∧
      ∀ line live event mark, steps[place]? = some ((line, live), mark) →
        Command.ofLine line = .ok (.record event) →
        ∃ outcome, (first.runLines (steps.map Prod.fst)).1[place]? = some outcome ∧
          (second.runLines (marked steps)).1[(marked (steps.take place)).length]? =
            some outcome := by
  intro first second place
  have before : ∀ step ∈ steps.take place, step.2 = false → Command.AboutLog step.1.1 :=
    fun step mem => about step (List.mem_of_mem_take mem)
  have fresh : Alike first second := ⟨rfl, rfl, rfl, rfl⟩
  have alike := fresh.run before
  refine ⟨alike.counters, ?_⟩
  intro line live event mark here parsed
  obtain ⟨inside, same⟩ := List.getElem?_eq_some_iff.mp here
  -- An event is no command about the log, so the second run is given it too.
  have given : mark = true := by
    by_contra unmarked
    have left := about _ (List.mem_of_getElem? here) (by simpa using unmarked)
    exact left.not_record event parsed
  have split : marked steps =
      marked (steps.take place) ++ (line, live) :: marked (steps.drop (place + 1)) := by
    conv_lhs => rw [← List.take_append_drop place steps, List.drop_eq_getElem_cons inside, same]
    rw [marked_append, marked_cons, given, if_pos rfl]
  refine ⟨((first.runLines ((steps.take place).map Prod.fst)).2.runLine line live).1, ?_, ?_⟩
  · rw [getElem?_runLines, List.getElem?_map, here, ← List.map_take]
    rfl
  · rw [getElem?_runLines, split, List.getElem?_append_right (Nat.le_refl _), Nat.sub_self,
      List.take_left, List.getElem?_cons_zero, Option.map_some]
    exact congrArg some (alike.outcome live parsed).1.symm

/-- Detections and the end of a recovery, with a log between them that breaks at the first one. -/
def brokenLog : List ((String × Inspector) × Bool) :=
  [("start_log /dev/full", false), ("log_mispred", true), ("stop_log", false),
    ("log_mispred", true), ("log_recovery_end", true)].map fun step =>
      ((step.1, oneOp.inspector), step.2)

/-- Without the log the same records are made, with the same numbers. -/
theorem runLines_brokenLog :
    let first : Session Storage.Directory Storage.OpenFile :=
      { config := oneDetection.config, around := oneDetection.around }
    (∀ step ∈ brokenLog, step.2 = false → Command.AboutLog step.1.1) ∧
      ((first.runLines (brokenLog.map Prod.fst)).1.filterMap Outcome.record?).map Record.ordinal =
        [1, 2, 2] ∧
      ∀ place, (first.runLines ((brokenLog.take place).map Prod.fst)).2.counters =
        (first.runLines (marked (brokenLog.take place))).2.counters := by
  have about : ∀ step ∈ brokenLog, step.2 = false → Command.AboutLog step.1.1 := by
    have start : Command.ofLine "start_log /dev/full" = .ok (.startLog (some "/dev/full")) := by
      decide +kernel
    have stop : Command.ofLine "stop_log" = .ok .stopLog := by decide +kernel
    simp only [brokenLog, List.map_cons, List.map_nil, List.forall_mem_cons]
    exact ⟨fun _ => .inr ⟨_, start⟩, nofun, fun _ => .inl stop, nofun, nofun, nofun⟩
  refine ⟨about, by decide +kernel, fun place => ?_⟩
  exact (runLines_independent_of_log oneDetection.config "" "" oneDetection.around
    oneDetection.around brokenLog about place).1

end Session

end Inflight
