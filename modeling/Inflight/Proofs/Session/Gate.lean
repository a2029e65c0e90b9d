import Inflight.Proofs.Session.Level

/-!
# The gate by cycle

An event outside the cycles that are recorded is passed over.  That is all the
gate does: it stands between reads that do not look at it, so an event that goes
through it is read, fails or is recorded just as it would be without a gate, and
one that does not go through leaves nothing but a notice.  A run behind a gate
is therefore the run without one of the commands that were not skipped
(`Session.runLines_ungated`).
-/

namespace Inflight

set_option autoImplicit false

open Storage (FileSystem)

/-! ## Configurations without a gate -/

/-- The configuration under which events at all cycles are recorded. -/
def Config.ungated (config : Config) : Config :=
  { config with general := { config.general with cycleWindow := {} } }

namespace CycleWindow

/-- No cycle lies outside the range that is used where none is configured. -/
theorem contains_default (cycle : UInt64) : contains {} cycle = true := by
  have upper : cycle.toNat ≤ 18446744073709551615 := by
    have := cycle.toNat_lt
    omega
  simp only [contains, Bool.and_eq_true, decide_eq_true_eq, UInt64.le_iff_toNat_le]
  exact ⟨Nat.zero_le _, upper⟩

/-- No cycle lies in a range that starts after its end. -/
theorem contains_eq_false {window : CycleWindow} (reversed : window.stop < window.start)
    (cycle : UInt64) : window.contains cycle = false := by
  rw [Bool.eq_false_iff]
  intro inside
  simp only [contains, Bool.and_eq_true, decide_eq_true_eq] at inside
  exact absurd (UInt64.le_trans inside.1 inside.2) (UInt64.not_le.mpr reversed)

end CycleWindow

/-! ## What the gate changes -/

/-- What is sighted without the gate is what is sighted behind it, unless the gate holds the
event back. -/
def SameUnlessOutside (free gated : Except Fault Sighting) : Prop :=
  free = gated ∨ ∃ cycle, gated = .ok (.outside cycle)

theorem SameUnlessOutside.bind {α : Type} {first : Except Fault α}
    {free gated : α → Except Fault Sighting}
    (onward : ∀ middle, SameUnlessOutside (free middle) (gated middle)) :
    SameUnlessOutside (first >>= free) (first >>= gated) := by
  cases first with
  | error fault => exact .inl rfl
  | ok middle => exact onward middle

namespace Event

variable (event : Event) (config : Config) (live : Inspector)

theorem look_ungated (op window recovery : Handle) (cycle : UInt64) :
    SameUnlessOutside (event.look config.ungated live op window recovery cycle)
      (event.look config live op window recovery cycle) := by
  by_cases inside : config.general.cycleWindow.contains cycle = true
  · left
    have free : config.ungated.general.cycleWindow.contains cycle = true :=
      CycleWindow.contains_default cycle
    rw [look, look, if_pos inside, if_pos free]
    rfl
  · right
    exact ⟨cycle, by rw [look, if_neg inside]; rfl⟩

theorem sight_ungated :
    SameUnlessOutside (event.sight config.ungated live) (event.sight config live) := by
  cases event with
  | mispredict =>
    rw [sight_mispredict, sight_mispredict]
    refine .bind fun op => .bind fun window => .bind fun cycle => .bind fun recovery => ?_
    exact look_ungated _ config live op window recovery cycle
  | recoveryEnd =>
    rw [sight_recoveryEnd, sight_recoveryEnd]
    refine .bind fun recovery => .bind fun op => .bind fun window => .bind fun cycle => ?_
    exact look_ungated _ config live op window recovery cycle

variable {event config live}

/-- An event is sighted outside only where the gate shuts its cycle out. -/
theorem contains_of_outside {cycle : UInt64} (seen : event.sight config live = .ok (.outside cycle)) :
    config.general.cycleWindow.contains cycle = false := by
  obtain ⟨_, _, _, _, -, rfl, shut⟩ := sight_eq_ok_iff.mp seen
  exact shut

theorem contains_of_captured {capture : Capture}
    (seen : event.sight config live = .ok (.captured capture)) :
    config.general.cycleWindow.contains capture.cycle = true := by
  obtain ⟨_, _, _, _, -, rfl, inside, -⟩ := sight_eq_ok_iff.mp seen
  exact inside

end Event

namespace Session

variable {σ φ : Type} [FileSystem σ φ]

/-! ## One command -/

/-- Without a gate no command is skipped. -/
theorem runLine_ne_skipped {session : Session σ φ} (free : session.config.general.cycleWindow = {})
    (line : String) (live : Inspector) : (session.runLine line live).1 ≠ .skipped := by
  intro skipped
  obtain ⟨event, cycle, -, seen⟩ := exists_outside_of_skipped skipped
  have shut := Event.contains_of_outside seen
  rw [free, CycleWindow.contains_default] at shut
  cases shut

/-- Behind a gate that is shut to all cycles no command makes a record. -/
theorem runLine_ne_recorded {session : Session σ φ}
    (shut : session.config.general.cycleWindow.stop < session.config.general.cycleWindow.start)
    (line : String) (live : Inspector) (record : Record) :
    (session.runLine line live).1 ≠ .recorded record := by
  intro recorded
  obtain ⟨event, capture, -, seen, -⟩ := exists_captured_of_recorded recorded
  have inside := Event.contains_of_captured seen
  rw [CycleWindow.contains_eq_false shut] at inside
  cases inside

variable {early late : String} {gated free : Session σ φ}

/-- A command behind the gate is skipped and leaves nothing, or comes to the same as without the
gate. -/
theorem Level.runLine_ungated (level : Level early late gated free)
    (config : free.config = gated.config.ungated) (line : String) (live : Inspector) :
    (gated.runLine line live).1 = .skipped ∧ Level early late (gated.runLine line live).2 free ∨
      (gated.runLine line live).1 ≠ .skipped ∧
        Agree (Level early late) (gated.runLine line live) (free.runLine line live) := by
  have never : (free.runLine line live).1 ≠ .skipped :=
    runLine_ne_skipped (by rw [config]; rfl) line live
  by_cases unrecorded : ∀ event, Command.ofLine line ≠ .ok (.record event)
  · have agree := level.runLine_of_not_record live live unrecorded
    exact .inr ⟨fun skipped => never (agree.1.symm.trans skipped), agree⟩
  · push Not at unrecorded
    obtain ⟨event, parsed⟩ := unrecorded
    rcases event.sight_ungated gated.config live with same | ⟨cycle, seen⟩
    · have agree : Agree (Level early late) (gated.runLine line live)
          (free.runLine line live) := by
        rw [runLine_eq_settle gated live parsed, runLine_eq_settle free live parsed, config, same]
        exact level.settle (by rw [config]; rfl) event _
      exact .inr ⟨fun skipped => never (agree.1.symm.trans skipped), agree⟩
    · rw [runLine_of_outside parsed seen]
      exact .inl ⟨rfl, level.counters, level.sink, level.files, level.console⟩

/-! ## Runs -/

/-- The commands of a run that were not skipped. -/
def unskipped (run : List ((String × Inspector) × Outcome)) : List (String × Inspector) :=
  (run.filter fun command => command.2 ≠ .skipped).map Prod.fst

theorem unskipped_cons (command : (String × Inspector) × Outcome)
    (rest : List ((String × Inspector) × Outcome)) :
    unskipped (command :: rest) =
      if command.2 = .skipped then unskipped rest else command.1 :: unskipped rest := by
  by_cases skipped : command.2 = .skipped <;> simp [unskipped, skipped]

/-- The commands that a gate lets through run as they do without it. -/
theorem Level.runLines_unskipped (level : Level early late gated free)
    (config : free.config = gated.config.ungated) (steps : List (String × Inspector)) :
    (free.runLines (unskipped (steps.zip (gated.runLines steps).1))).1 =
        (gated.runLines steps).1.filter (· ≠ .skipped) ∧
      Level early late (gated.runLines steps).2
        (free.runLines (unskipped (steps.zip (gated.runLines steps).1))).2 := by
  induction steps generalizing gated free with
  | nil => exact ⟨rfl, level⟩
  | cons step rest ih =>
    obtain ⟨line, live⟩ := step
    rw [runLines_cons, List.zip_cons_cons, unskipped_cons]
    rcases level.runLine_ungated config line live with ⟨skipped, kept⟩ | ⟨through, same, kept⟩
    · rw [if_pos skipped, List.filter_cons_of_neg (by simpa using skipped)]
      exact ih kept (by rw [config_runLine, config])
    · obtain ⟨outcomes, ran⟩ := ih kept (by rw [config_runLine, config_runLine, config])
      rw [if_neg through, List.filter_cons_of_pos (by simpa using through), runLines_cons, outcomes,
        same]
      exact ⟨rfl, ran⟩

/-- Two sessions differ in their configuration and their notices at most. -/
structure Twins (first second : Session σ φ) : Prop where
  console : first.console = second.console
  counters : first.counters = second.counters
  logPath : first.logPath = second.logPath
  files : first.around.files = second.around.files

/-- **A gate only deletes events.**  Take a run from any session, and the run of the commands in it
that were not skipped from the same session without a gate.  After each part of the first run,
and the commands of it that were not skipped, the two have the same outcomes, skipped ones left
out, and the same console, counters, log and files.  No command of the second run is skipped;
and a gate that starts after its end lets no record through. -/
theorem runLines_ungated (gated : Session σ φ) (steps : List (String × Inspector)) :
    let free : Session σ φ := { gated with config := gated.config.ungated }
    let outcomes := (gated.runLines steps).1
    let kept := fun place => unskipped ((steps.zip outcomes).take place)
    (∀ place,
      (free.runLines (kept place)).1 = (outcomes.take place).filter (· ≠ .skipped) ∧
        Twins (gated.runLines (steps.take place)).2 (free.runLines (kept place)).2) ∧
      .skipped ∉ (free.runLines (kept steps.length)).1 ∧
      (gated.config.general.cycleWindow.stop < gated.config.general.cycleWindow.start →
        ∀ record, .recorded record ∉ outcomes) := by
  intro free outcomes kept
  have level : Level gated.console.shown gated.console.shown gated free :=
    ⟨rfl, rfl, rfl, .start rfl⟩
  have each : ∀ place,
      (free.runLines (kept place)).1 = (outcomes.take place).filter (· ≠ .skipped) ∧
        Twins (gated.runLines (steps.take place)).2 (free.runLines (kept place)).2 := by
    intro place
    obtain ⟨same, ran⟩ := level.runLines_unskipped rfl (steps.take place)
    rw [zip_runLines_take] at same ran
    rw [← runLines_take]
    exact ⟨same, ran.console.eq, ran.counters, ran.logPath, ran.files⟩
  refine ⟨each, ?_, ?_⟩
  · rw [(each steps.length).1]
    simp
  · intro shut record recorded
    obtain ⟨place, there⟩ := List.getElem?_of_mem recorded
    rw [getElem?_runLines] at there
    obtain ⟨step, -, outcome⟩ := Option.map_eq_some_iff.mp there
    refine runLine_ne_recorded ?_ step.1 step.2 record outcome
    rw [config_runLines]
    exact shut

end Session

end Inflight
