import Inflight.Proofs.Session.Level
import Inflight.Proofs.Session.Lifecycle
import Inflight.Proofs.Snapshot.Moving

/-!
# Records do not depend on where objects stand

The commands of a session read a snapshot through its handles, and nothing that
they do depends on which handle an object has.  So a command on a snapshot whose
objects have been moved makes the same record, is skipped alike, or fails with
the same fault, in which a handle is named by its new place; and it leaves the
same counters, log and files (`Session.runLine_moved`).  What the console shows
is the same too, but for a fault that names another handle.  Over a run each
command may be given its snapshot in an order of its own
(`Session.runLines_moved`).
-/

namespace Inflight

set_option autoImplicit false

open Storage (FileSystem)

/-- An outcome with the handle that its fault names changed.  Nothing else in an outcome is a
handle. -/
def Outcome.rename (change : Handle → Handle) : Outcome → Outcome
  | .failed fault => .failed (fault.rename change)
  | outcome => outcome

namespace Session

variable {σ φ : Type} [FileSystem σ φ] {change : Handle → Handle}

/-! ## Faults without a handle -/

section Unnamed

variable {session after : Session σ φ} {fault : Fault}

/-- Stopping a log fails only because of its file. -/
theorem fault_of_stopLog (failed : session.stopLog = (.error fault, after)) :
    ∃ cause, fault = .storage cause := by
  unfold stopLog at failed
  split at failed
  · cases failed
  · next sink opened =>
    split at failed
    · cases failed
    · next other around unclosed =>
      cases failed
      unfold Log.Sink.close at unclosed
      split at unclosed <;> cases unclosed
      exact ⟨_, rfl⟩

/-- Writing a record fails only because of the console. -/
theorem fault_of_emit {text : String} (failed : session.emit text = (.error fault, after)) :
    ∃ cause, fault = .storage cause := by
  unfold emit at failed
  split at failed <;> cases failed
  exact ⟨_, rfl⟩

/-- No outcome of a command that is no event names a handle. -/
theorem rename_of_not_record {line : String} (live : Inspector)
    (unrecorded : ∀ event, Command.ofLine line ≠ .ok (.record event)) :
    (session.runLine line live).1.rename change = (session.runLine line live).1 := by
  cases parsed : Command.ofLine line with
  | error fault =>
    obtain ⟨name, rfl⟩ := Command.fault_of_ofLine parsed
    simp only [runLine, parsed]
    rfl
  | ok command =>
    cases command with
    | record event => exact absurd parsed (unrecorded event)
    | startLog path =>
      simp only [runLine, parsed, execute]
      split
      · rfl
      · next failed => rcases fault_of_startLog failed with rfl | ⟨_, _, rfl⟩ <;> rfl
    | stopLog =>
      simp only [runLine, parsed, execute]
      split
      · rfl
      · rfl
      · next failed =>
        obtain ⟨_, rfl⟩ := fault_of_stopLog failed
        rfl

/-- Once an event is captured its outcome names no handle. -/
theorem rename_settle_captured (event : Event) (capture : Capture) :
    (session.settle event (.ok (.captured capture))).1.rename change =
      (session.settle event (.ok (.captured capture))).1 := by
  simp only [settle]
  split
  · next failed =>
    obtain ⟨_, rfl⟩ := fault_of_emit failed
    rfl
  · rfl

end Unnamed

/-! ## One command -/

/-- Two commands come to the same up to a change of handles.  Their sessions stay on a level, and
where they come to the very same the consoles have shown the same since the given texts. -/
structure SameUpTo (change : Handle → Handle) (early late : String)
    (first second : Outcome × Session σ φ) : Prop where
  outcome : second.1 = first.1.rename change
  level : ∃ before beside, Level before beside first.2 second.2
  console : second.1 = first.1 → Console.Level early late first.2.console second.2.console

section Side

variable {early late : String} {first second : Session σ φ}

omit [FileSystem σ φ] in
theorem SameUpTo.of_agree {ended other : Outcome × Session σ φ}
    (agree : Agree (Level early late) ended other) (unnamed : ended.1.rename change = ended.1) :
    SameUpTo change early late ended other :=
  ⟨agree.1.symm.trans unnamed.symm, ⟨early, late, agree.2⟩, fun _ => agree.2.console⟩

omit [FileSystem σ φ] in
theorem Level.fail_renamed (level : Level early late first second) (command : String)
    (fault : Fault) :
    SameUpTo change early late (first.fail command fault)
      (second.fail command (fault.rename change)) := by
  have here := first.fail_steady command fault
  have there := second.fail_steady command (fault.rename change)
  have log := first.fail_sameLog command fault
  have otherLog := second.fail_sameLog command (fault.rename change)
  refine ⟨rfl, ⟨_, _, ?_, ?_, ?_, .start ?_⟩, fun same => ?_⟩
  · exact here.counters.trans (level.counters.trans there.counters.symm)
  · exact log.sink.trans (level.sink.trans otherLog.sink.symm)
  · exact log.files.trans (level.files.trans otherLog.files.symm)
  · exact here.mode.trans (level.console.mode.trans there.mode.symm)
  · have unnamed : fault.rename change = fault := Outcome.failed.inj same
    rw [unnamed]
    exact (level.fail command fault).2.console

/-- What was sighted under changed handles ends as it does under the handles. -/
theorem Level.settle_renamed (level : Level early late first second)
    (columns : first.config.columns = second.config.columns) (event : Event)
    (sighted : Except Fault Sighting) :
    SameUpTo change early late (first.settle event sighted)
      (second.settle event (carry change (Sighting.rename change) sighted)) := by
  cases sighted with
  | error fault => exact level.fail_renamed _ fault
  | ok sighting =>
    cases sighting with
    | outside cycle => exact .of_agree ⟨rfl, level.note _ _⟩ rfl
    | endless => exact .of_agree ⟨rfl, level⟩ rfl
    | captured capture =>
      refine .of_agree (level.settle_captured event rfl ?_) (rename_settle_captured event capture)
      rw [recordOf, recordOf, level.counters, columns]
      rfl

theorem Level.runLine_renamed (level : Level early late first second)
    (config : first.config = second.config) {live moved : Inspector}
    (renames : Inspector.Renames change live moved) (line : String) :
    SameUpTo change early late (first.runLine line live) (second.runLine line moved) := by
  by_cases unrecorded : ∀ event, Command.ofLine line ≠ .ok (.record event)
  · exact .of_agree (level.runLine_of_not_record live moved unrecorded)
      (rename_of_not_record live unrecorded)
  · push Not at unrecorded
    obtain ⟨event, parsed⟩ := unrecorded
    rw [runLine_eq_settle first live parsed, runLine_eq_settle second moved parsed,
      renames.sight, config]
    exact level.settle_renamed (congrArg Config.columns config) event _

end Side

/-- **A command does not depend on where objects stand.**  On a snapshot whose objects are moved
it has the same outcome, with the handle in a fault changed to its new place, and it leaves the
same counters, log and files.  The console too is the same where the outcome is. -/
theorem runLine_moved (session : Session σ φ) (line : String) (snapshot : Snapshot)
    (places : Equiv.Perm (Fin snapshot.objects.size)) :
    let here := session.runLine line snapshot.inspector
    let there := session.runLine line (snapshot.moved places).inspector
    there.1 = here.1.rename (Handle.moved places) ∧
      there.2.counters = here.2.counters ∧ there.2.logPath = here.2.logPath ∧
      there.2.around.files = here.2.around.files ∧
      (there.1 = here.1 → there.2.console = here.2.console) := by
  have same := (Level.refl session).runLine_renamed rfl (snapshot.renames_moved places) line
  obtain ⟨_, _, after⟩ := same.level
  refine ⟨same.outcome, after.counters.symm, after.logPath.symm, after.files.symm, fun alike => ?_⟩
  exact (same.console alike).eq.symm

/-! ## Runs -/

/-- A command line with its snapshot, and new places for the objects of that snapshot. -/
structure Move where
  line : String
  snapshot : Snapshot
  places : Equiv.Perm (Fin snapshot.objects.size)

/-- The command as it is, and the command with the objects moved. -/
def Move.plain (move : Move) : String × Inspector := (move.line, move.snapshot.inspector)

@[inherit_doc Move.plain]
def Move.moved (move : Move) : String × Inspector :=
  (move.line, (move.snapshot.moved move.places).inspector)

/-- A run does not depend on where the objects of its snapshots stand, even where each snapshot is
moved in a way of its own. -/
theorem runLines_moved (session : Session σ φ) (moves : List Move) :
    let here := session.runLines (moves.map Move.plain)
    let there := session.runLines (moves.map Move.moved)
    there.1 = List.zipWith (fun move outcome => outcome.rename (Handle.moved move.places)) moves
        here.1 ∧
      there.2.counters = here.2.counters ∧ there.2.logPath = here.2.logPath ∧
      there.2.around.files = here.2.around.files := by
  -- After a fault the two consoles differ, so the runs are compared on a level only.
  have ran : ∀ {early late : String} {first second : Session σ φ}, Level early late first second →
      first.config = second.config →
      (second.runLines (moves.map Move.moved)).1 =
          List.zipWith (fun move outcome => outcome.rename (Handle.moved move.places)) moves
            (first.runLines (moves.map Move.plain)).1 ∧
        ∃ before beside, Level before beside (first.runLines (moves.map Move.plain)).2
          (second.runLines (moves.map Move.moved)).2 := by
    induction moves with
    | nil => exact fun level _ => ⟨rfl, _, _, level⟩
    | cons move rest ih =>
      intro early late first second level config
      have same := level.runLine_renamed config (move.snapshot.renames_moved move.places) move.line
      obtain ⟨_, _, stepped⟩ := same.level
      obtain ⟨outcomes, after⟩ := ih stepped (by rw [config_runLine, config_runLine, config])
      rw [List.map_cons, List.map_cons, Move.plain, Move.moved, runLines_cons, runLines_cons,
        List.zipWith_cons_cons, outcomes, same.outcome]
      exact ⟨rfl, after⟩
  obtain ⟨outcomes, _, _, after⟩ := ran (Level.refl session) rfl
  exact ⟨outcomes, after.counters.symm, after.logPath.symm, after.files.symm⟩

end Session

end Inflight
