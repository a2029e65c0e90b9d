import Inflight.Proofs.Session.Run

/-!
# Records are numbered by detection

The number of a record is that of the detections at its address.  Over a run of
commands the records of detections are kept as a history, and the counters tell
of that history and of nothing else: with each such record the counters and the
history grow together, and no other command changes either (`Session.Numbers`).
So whatever else a run does, and whatever fails in it, the records of detections
at an address are numbered from one without a gap, and the record of a recovery
bears the number of the detections before it (`Session.runLines_ordinals`).
-/

namespace Inflight

set_option autoImplicit false

open Log (Surroundings)
open Storage (FileSystem)

namespace Session

/-! ## The history of detections -/

/-- The record of a detection, when that is what a command wrote. -/
def detection? (line : String) (outcome : Outcome) : Option Record :=
  if Command.ofLine line = .ok (.record .mispredict) then outcome.record? else none

/-- The records of detections in a run, in order. -/
def detections (run : List ((String × Inspector) × Outcome)) : List Record :=
  run.filterMap fun command => detection? command.1.1 command.2

theorem detections_cons (command : (String × Inspector) × Outcome)
    (rest : List ((String × Inspector) × Outcome)) :
    detections (command :: rest) =
      (detection? command.1.1 command.2).toList ++ detections rest := by
  cases told : detection? command.1.1 command.2 <;> simp [detections, told]

/-- The numbers of the records at an address, in order. -/
def ordinalsAt (records : List Record) (addr : Address) : List Nat :=
  (records.filter fun record => record.addr = addr).map Record.ordinal

/-- The counters tell of the detections in a history of records, and at each address the records
are numbered from one. -/
structure Numbers (counters : Counters) (history : List Record) : Prop where
  tallies : counters.Tallies (history.map Record.addr)
  ordinals : ∀ addr, ordinalsAt history addr = List.range' 1 (counters.count addr)

theorem numbers_nil : Numbers {} [] where
  tallies := Counters.tallies_nil
  ordinals _ := rfl

/-- A record with the next number at its address makes the history longer. -/
theorem Numbers.record {counters : Counters} {history : List Record}
    (numbers : Numbers counters history) {record : Record}
    (next : record.ordinal = counters.count record.addr + 1) :
    Numbers (counters.record record.addr) (history ++ [record]) := by
  constructor
  · rw [List.map_append]
    exact numbers.tallies.record record.addr
  · intro addr
    have before := numbers.ordinals addr
    rw [Counters.count_record, ordinalsAt, List.filter_append, List.map_append]
    -- At its own address the new record follows on those before it; the others do not see it.
    by_cases here : record.addr = addr
    · subst here
      have number : [record.ordinal] = [1 + counters.count record.addr] := by
        rw [next, Nat.add_comm]
      rw [ordinalsAt] at before
      rw [if_pos rfl, List.range'_1_concat, before]
      simpa using number
    · have apart : addr ≠ record.addr := Ne.symm here
      rw [ordinalsAt] at before
      simpa [here, apart] using before

variable {σ φ : Type}

/-- A command keeps the counters in step with the history. -/
theorem Stepping.numbers {session after : Session σ φ} {line : String} {outcome : Outcome}
    {history : List Record} (stepping : Stepping session line outcome after)
    (numbers : Numbers session.counters history) :
    Numbers after.counters (history ++ (detection? line outcome).toList) := by
  cases stepping with
  | @recorded event record counters after parsed counted steady =>
    rw [steady.counters]
    cases event with
    | mispredict =>
      obtain ⟨next, rfl⟩ := Prod.mk.inj counted
      have told : detection? line (.recorded record) = some record := if_pos parsed
      rw [Counters.count_record, if_pos rfl] at next
      rw [told]
      exact numbers.record next.symm
    | recoveryEnd =>
      obtain ⟨_, rfl⟩ := Prod.mk.inj counted
      have told : detection? line (.recorded record) = none := by
        simp [detection?, parsed]
      rw [told]
      simpa using numbers
  | quiet unrecorded steady =>
    have told : detection? line outcome = none := by rw [detection?, unrecorded, ite_self]
    rw [steady.counters, told]
    simpa using numbers

/-- The record of a recovery bears the count at its address. -/
theorem Stepping.ordinal_recoveryEnd {session after : Session σ φ} {line : String}
    {record : Record} (stepping : Stepping session line (.recorded record) after)
    (parsed : Command.ofLine line = .ok (.record .recoveryEnd)) :
    record.ordinal = session.counters.count record.addr := by
  cases stepping with
  | recorded read counted steady =>
    rw [parsed] at read
    cases read
    exact (Prod.mk.inj counted).1.symm
  | quiet unrecorded steady => cases unrecorded

/-! ## Runs -/

variable [FileSystem σ φ]

/-- A run keeps the counters in step with the history. -/
theorem runLines_numbers {session : Session σ φ} (works : session.console.mode = .works)
    {history : List Record} (numbers : Numbers session.counters history)
    (steps : List (String × Inspector)) :
    Numbers (session.runLines steps).2.counters
      (history ++ detections (steps.zip (session.runLines steps).1)) := by
  -- The history before the run is kept general: each command adds its record at the end of it.
  induction steps generalizing session history with
  | nil => simpa [runLines, detections] using numbers
  | cons step rest ih =>
    obtain ⟨line, live⟩ := step
    have stepping := session.runLine_stepping line live works
    have later := ih (stepping.mode.trans works) (stepping.numbers numbers)
    rw [runLines_cons, List.zip_cons_cons, detections_cons, ← List.append_assoc]
    exact later

/-- **Records are numbered by detection.**  Take a run from a session without a detection or a
log.  After each part of it the counters tell of the records of detections so far: how many there
are at each address and in all, and at how many addresses; and at each address these records are
numbered from one.  The record of a recovery bears the number of those before it at its
address. -/
theorem runLines_ordinals (config : Config) (shown : String) (around : Surroundings σ)
    (steps : List (String × Inspector)) :
    let fresh : Session σ φ := { config, console := { shown }, around }
    let outcomes := (fresh.runLines steps).1
    let history := fun place => detections ((steps.zip outcomes).take place)
    outcomes.length = steps.length ∧ ∀ place,
      (fresh.runLines (steps.take place)).1 = outcomes.take place ∧
      Numbers (fresh.runLines (steps.take place)).2.counters (history place) ∧
      ∀ line live record, steps[place]? = some (line, live) →
        outcomes[place]? = some (.recorded record) →
        Command.ofLine line = .ok (.record .recoveryEnd) →
        record.ordinal = ((history place).map Record.addr).count record.addr := by
  intro fresh outcomes history
  have works : fresh.console.mode = .works := rfl
  refine ⟨fresh.length_runLines steps, fun place => ?_⟩
  have first : (fresh.runLines (steps.take place)).1 = outcomes.take place :=
    fresh.runLines_take steps place
  have numbers : Numbers (fresh.runLines (steps.take place)).2.counters (history place) := by
    have told := runLines_numbers works numbers_nil (steps.take place)
    rw [first, List.nil_append, List.zip_eq_zipWith, ← List.take_zipWith] at told
    exact told
  refine ⟨first, numbers, ?_⟩
  intro line live record here recorded parsed
  have stepping := runLine_stepping (fresh.runLines (steps.take place)).2 line live
    (fresh.mode_runLines works (steps.take place))
  have outcome : outcomes[place]? =
      some ((fresh.runLines (steps.take place)).2.runLine line live).1 := by
    rw [getElem?_runLines, here, Option.map_some]
  rw [Option.some.inj (outcome.symm.trans recorded)] at stepping
  rw [← numbers.tallies.count]
  exact stepping.ordinal_recoveryEnd parsed

end Session

end Inflight
