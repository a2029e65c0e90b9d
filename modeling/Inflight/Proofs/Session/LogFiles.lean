import Inflight.Proofs.Session.Logging
import Inflight.Proofs.Storage.Directory
import Mathlib.Data.List.DropRight

/-!
# What the log files hold

A log file holds the records written while it was open, and nothing else.  The
history of a run says which these are: those after the last time the log was
opened under the path, up to the first command that ends it
(`Session.loggedAt`).  Each command keeps the files in step with the history
(`Session.Filed`), so they are in step after every command and not only when a
log is closed (`Session.runLines_log_files`).
-/

namespace Inflight

set_option autoImplicit false

open Log (Sink Surroundings)
open Storage (FileSystem Filing)

namespace Session

/-! ## The history of a log -/

section History

/-- A last element adds nothing to the front part of a row that something already cuts off. -/
theorem takeWhile_concat_of_exists {α : Type} {keep : α → Bool} {row : List α} {last : α}
    (cut : ∃ element ∈ row ++ [last], ¬keep element = true) :
    (row ++ [last]).takeWhile keep = row.takeWhile keep := by
  induction row with
  | nil => simpa using cut
  | cons first rest ih =>
    by_cases kept : keep first = true
    · have later : ∃ element ∈ rest ++ [last], ¬keep element = true := by simpa [kept] using cut
      rw [List.cons_append, List.takeWhile_cons_of_pos kept, List.takeWhile_cons_of_pos kept,
        ih later]
    · rw [List.cons_append, List.takeWhile_cons_of_neg kept, List.takeWhile_cons_of_neg kept]

variable (path : String) (history : List ((String × Inspector) × Outcome))

/-- A log was opened under the path at some time. -/
def Opened : Prop :=
  ∃ command ∈ history, command.2 = .logging path

/-- What was done since a log was last opened under the path. -/
def sinceOpened : List ((String × Inspector) × Outcome) :=
  history.rtakeWhile fun command => command.2 ≠ .logging path

/-- The records written while the log that was last opened under the path was open. -/
def loggedAt : List Record :=
  ((sinceOpened path history).takeWhile fun command => !Command.endsLog command.1.1).filterMap
    fun command => command.2.record?

/-- The log that was last opened under the path has not been ended. -/
def StillOpen : Prop :=
  Opened path history ∧ ∀ command ∈ sinceOpened path history, Command.endsLog command.1.1 = false

variable {path history} {line : String} {live : Inspector} {outcome : Outcome}

theorem opened_concat :
    Opened path (history ++ [((line, live), outcome)]) ↔
      Opened path history ∨ outcome = .logging path := by
  simp [Opened, or_and_right, exists_or]

theorem sinceOpened_concat (other : outcome ≠ .logging path) :
    sinceOpened path (history ++ [((line, live), outcome)]) =
      sinceOpened path history ++ [((line, live), outcome)] :=
  List.rtakeWhile_concat_pos _ _ _ (decide_eq_true other)

theorem sinceOpened_concat_logging (opened : outcome = .logging path) :
    sinceOpened path (history ++ [((line, live), outcome)]) = [] :=
  List.rtakeWhile_concat_neg _ _ _ (by simpa using opened)

theorem loggedAt_concat_logging (opened : outcome = .logging path) :
    loggedAt path (history ++ [((line, live), outcome)]) = [] := by
  rw [loggedAt, sinceOpened_concat_logging opened]
  rfl

theorem stillOpen_concat_logging (opened : outcome = .logging path) :
    StillOpen path (history ++ [((line, live), outcome)]) := by
  refine ⟨opened_concat.mpr (.inr opened), ?_⟩
  rw [sinceOpened_concat_logging opened]
  nofun

/-- A command that does not open the log under the path leaves it open when it ends none. -/
theorem stillOpen_concat (other : outcome ≠ .logging path) :
    StillOpen path (history ++ [((line, live), outcome)]) ↔
      StillOpen path history ∧ Command.endsLog line = false := by
  simp [StillOpen, opened_concat, sinceOpened_concat other, other, or_imp, forall_and, and_assoc]

/-- While the log under a path is open, it takes the record of each command. -/
theorem loggedAt_concat_of_stillOpen (other : outcome ≠ .logging path)
    (still : StillOpen path (history ++ [((line, live), outcome)])) :
    loggedAt path (history ++ [((line, live), outcome)]) =
      loggedAt path history ++ outcome.record?.toList := by
  obtain ⟨before, going⟩ := (stillOpen_concat other).mp still
  have unended : ∀ earlier ∈ sinceOpened path history,
      (!Command.endsLog earlier.1.1) = true := fun earlier mem => by simp [before.2 earlier mem]
  rw [loggedAt, loggedAt, sinceOpened_concat other, List.takeWhile_append_of_pos unended,
    List.takeWhile_eq_self_iff.mpr unended, List.filterMap_append]
  cases written : outcome.record? <;> simp [going, written]

/-- When it is not, it takes none. -/
theorem loggedAt_concat_of_not_stillOpen (other : outcome ≠ .logging path)
    (opened : Opened path history)
    (ended : ¬StillOpen path (history ++ [((line, live), outcome)])) :
    loggedAt path (history ++ [((line, live), outcome)]) = loggedAt path history := by
  have some_ends : ∃ ender ∈ sinceOpened path history ++ [((line, live), outcome)],
      ¬(!Command.endsLog ender.1.1) = true := by
    rw [stillOpen_concat other, StillOpen, and_iff_right opened] at ended
    by_contra unended
    push Not at unended
    simp only [List.mem_append, List.mem_singleton, Bool.not_eq_true'] at unended
    have going : Command.endsLog line = false := unended ((line, live), outcome) (.inr rfl)
    exact ended ⟨fun earlier mem => unended earlier (.inl mem), going⟩
  rw [loggedAt, loggedAt, sinceOpened_concat other, takeWhile_concat_of_exists some_ends]

theorem loggedAt_concat_quiet (other : outcome ≠ .logging path)
    (opened : Opened path history) (quiet : outcome.record? = none) :
    loggedAt path (history ++ [((line, live), outcome)]) = loggedAt path history := by
  by_cases still : StillOpen path (history ++ [((line, live), outcome)])
  · rw [loggedAt_concat_of_stillOpen other still, quiet, Option.toList_none, List.append_nil]
  · exact loggedAt_concat_of_not_stillOpen other opened still

end History

/-! ## Files in step with the history -/

variable {σ φ : Type} [FileSystem σ φ] {named : String → Prop}

/-- The files hold what the history says, and the log of the session is the one it says is open. -/
structure Filed (filing : Filing σ φ named) (history : List ((String × Inspector) × Outcome))
    (session : Session σ φ) : Prop where
  sound : filing.sound session.around.files
  named : ∀ path, Opened path history → named path
  settled : ∀ sink, session.sink = some sink → sink.pending = ""
  attached : ∀ sink, session.sink = some sink →
    StillOpen sink.path history ∧ filing.appends session.around.files sink.file sink.path
  held : ∀ path, StillOpen path history → session.logPath = some path
  contents : ∀ path, Opened path history → FileSystem.read path session.around.files =
    .ok (String.join ((loggedAt path history).map Record.text))

section Step

variable {filing : Filing σ φ named} {history : List ((String × Inspector) × Outcome)}
  {session after : Session σ φ} {line : String} (live : Inspector) {outcome : Outcome}

/-- A command that opens no log and ends none keeps the log of the session. -/
theorem Filed.quiet (filed : Filed filing history session) (other : ∀ path, outcome ≠ .logging path)
    (going : Command.endsLog line = false) (unrecorded : outcome.record? = none)
    (same : SameLog session after) : Filed filing (history ++ [((line, live), outcome)]) after := by
  have opened : ∀ path, Opened path (history ++ [((line, live), outcome)]) ↔
      Opened path history := fun path => by simp [opened_concat, other path]
  have still : ∀ path, StillOpen path (history ++ [((line, live), outcome)]) ↔
      StillOpen path history := fun path => by simp [stillOpen_concat (other path), going]
  constructor
  · rw [same.files]
    exact filed.sound
  · intro path now
    exact filed.named path ((opened path).mp now)
  · rw [same.sink]
    exact filed.settled
  · rw [same.sink, same.files]
    exact fun sink here => (filed.attached sink here).imp_left (still _).mpr
  · intro path now
    rw [logPath, same.sink]
    exact filed.held path ((still path).mp now)
  · intro path now
    rw [loggedAt_concat_quiet (other path) ((opened path).mp now) unrecorded, same.files]
    exact filed.contents path ((opened path).mp now)

/-- After a command that ends the log there is none, and no file has changed. -/
theorem Filed.ended (filed : Filed filing history session) (other : ∀ path, outcome ≠ .logging path)
    (ending : Command.endsLog line = true) (unrecorded : outcome.record? = none)
    (closed : after.sink = none) (sound : filing.sound after.around.files)
    (same : ∀ path, named path →
      FileSystem.read path after.around.files = FileSystem.read path session.around.files) :
    Filed filing (history ++ [((line, live), outcome)]) after := by
  have opened : ∀ path, Opened path (history ++ [((line, live), outcome)]) ↔
      Opened path history := fun path => by simp [opened_concat, other path]
  constructor
  · exact sound
  · intro path now
    exact filed.named path ((opened path).mp now)
  · simp [closed]
  · simp [closed]
  · intro path still
    rw [stillOpen_concat (other path), ending] at still
    cases still.2
  · intro path now
    have earlier := (opened path).mp now
    rw [loggedAt_concat_quiet (other path) earlier unrecorded, same path (filed.named path earlier)]
    exact filed.contents path earlier

/-- A command that opens the file under a path empties it, and ends the log before. -/
theorem Filed.started (filed : Filed filing history session) {path : String} {file : φ}
    (nameable : named path) (ending : Command.endsLog line = true)
    (created : FileSystem.create path session.around.files = (.ok file, after.around.files))
    (opened : after.sink = some { path, file }) :
    Filed filing (history ++ [((line, live), .logging path)]) after := by
  obtain ⟨sound, appends, emptied, apart⟩ := filing.create_ok nameable filed.sound created
  have other : ∀ {another}, another ≠ path → Outcome.logging path ≠ .logging another :=
    fun differs same => differs (Outcome.logging.inj same).symm
  have before : ∀ {another}, another ≠ path →
      Opened another (history ++ [((line, live), .logging path)]) → Opened another history :=
    fun differs now => (opened_concat.mp now).resolve_right (other differs)
  constructor
  · exact sound
  · intro another now
    by_cases here : another = path
    · exact here ▸ nameable
    · exact filed.named another (before here now)
  · rw [opened]
    rintro sink ⟨⟩
    rfl
  · rw [opened]
    rintro sink ⟨⟩
    exact ⟨stillOpen_concat_logging rfl, appends⟩
  · intro another still
    by_cases here : another = path
    · rw [logPath, opened, here]
      rfl
    · rw [stillOpen_concat (other here), ending] at still
      cases still.2
  · intro another now
    by_cases here : another = path
    · subst here
      rw [loggedAt_concat_logging rfl]
      exact emptied
    · have earlier := before here now
      rw [loggedAt_concat_of_not_stillOpen (other here) earlier,
        apart another (filed.named another earlier) here]
      · exact filed.contents another earlier
      · rw [stillOpen_concat (other here), ending]
        nofun

/-- The open log takes a record, which goes to the end of its file and to no other file. -/
theorem Filed.write (filed : Filed filing history session) {sink : Sink φ}
    (here : session.sink = some sink) (record : Record) :
    ∃ later, sink.write record.text session.around.files = (.ok (), sink, later) ∧
      filing.sound later ∧ filing.appends later sink.file sink.path ∧
      FileSystem.read sink.path later =
        .ok (String.join ((loggedAt sink.path history ++ [record]).map Record.text)) ∧
      ∀ other, named other → other ≠ sink.path →
        FileSystem.read other later = FileSystem.read other session.around.files := by
  obtain ⟨stillOpen, appends⟩ := filed.attached sink here
  obtain ⟨later, done, sound, goes, longer, apart⟩ :=
    filing.write_ok (filed.named _ stillOpen.1) filed.sound appends
      (filed.contents sink.path stillOpen.1) record.text_ne_empty
  refine ⟨later, Sink.write_of_settled (filed.settled sink here) record.text_ne_empty done, sound,
    goes, ?_, apart⟩
  rw [longer, List.map_append, String.join_append]
  simp [String.join_cons]

/-- The file of a log that is not open does not see a record. -/
theorem Filed.contents_apart (filed : Filed filing history session) {path : String}
    {record : Record} (opened : Opened path history) (apart : session.logPath ≠ some path)
    (same : FileSystem.read path after.around.files =
      FileSystem.read path session.around.files) :
    FileSystem.read path after.around.files = .ok (String.join
      ((loggedAt path (history ++ [((line, live), .recorded record)])).map Record.text)) := by
  have other : Outcome.recorded record ≠ .logging path := nofun
  have ended : ¬StillOpen path (history ++ [((line, live), .recorded record)]) := fun still =>
    apart (filed.held path ((stillOpen_concat other).mp still).1)
  rw [loggedAt_concat_of_not_stillOpen other opened ended, same]
  exact filed.contents path opened

theorem Filed.recorded (filed : Filed filing history session) {record : Record}
    (going : Command.endsLog line = false) (writing : Writing session record.text after) :
    Filed filing (history ++ [((line, live), .recorded record)]) after := by
  have opened : ∀ path, Opened path (history ++ [((line, live), .recorded record)]) ↔
      Opened path history := fun path => by simp [opened_concat]
  have still : ∀ path, StillOpen path (history ++ [((line, live), .recorded record)]) ↔
      StillOpen path history := fun path => by simp [stillOpen_concat, going]
  have nameable : ∀ path, Opened path (history ++ [((line, live), .recorded record)]) →
      named path := fun path now => filed.named path ((opened path).mp now)
  cases writing with
  | unlogged closed stays same shown =>
    have unlogged : ∀ path, session.logPath ≠ some path := by simp [logPath, closed]
    refine ⟨same ▸ filed.sound, nameable, by simp [stays], by simp [stays], ?_, ?_⟩
    · intro path now
      exact absurd (filed.held path ((still path).mp now)) (unlogged path)
    · intro path now
      exact filed.contents_apart live ((opened path).mp now) (unlogged path) (by rw [same])
  | @logged sink _ _ here write stays same shown =>
    obtain ⟨later, done, sound, goes, longer, apart⟩ := filed.write here record
    rw [done] at write
    cases write
    obtain ⟨stillOpen, appends⟩ := filed.attached sink here
    refine ⟨same ▸ sound, nameable, ?_, ?_, ?_, ?_⟩
    · rw [stays, ← here]
      exact filed.settled
    · rw [stays, same]
      rintro _ ⟨⟩
      exact ⟨(still sink.path).mpr stillOpen, goes⟩
    · intro path now
      rw [logPath, stays, ← here]
      exact filed.held path ((still path).mp now)
    · intro path now
      by_cases own : path = sink.path
      · subst own
        have other : Outcome.recorded record ≠ .logging sink.path := nofun
        rw [loggedAt_concat_of_stillOpen other ((still _).mpr stillOpen), same]
        exact longer
      · refine filed.contents_apart live ((opened path).mp now) ?_ ?_
        · rw [logPath, here]
          exact fun open_here => own (Option.some.inj open_here).symm
        · rw [same]
          exact apart path (nameable path now) own
  | broken here write lost same shown =>
    obtain ⟨later, done, _⟩ := filed.write here record
    rw [done] at write
    cases write

/-- A command keeps the files in step with the history. -/
theorem Filed.step (filed : Filed filing history session)
    (logging : Logging session line outcome after)
    (nameable : ∀ path, outcome = .logging path → named path) :
    Filed filing (history ++ [((line, live), outcome)]) after := by
  cases logging with
  | kept going other quiet same => exact filed.quiet live other going quiet same
  | stopped ending other quiet closed same =>
    exact filed.ended live other ending quiet closed (same ▸ filed.sound) fun _ _ => by rw [same]
  | refused starting refused closed =>
    have ending : Command.endsLog line = true := by simp [Command.endsLog, starting]
    obtain ⟨sound, same⟩ := filing.create_error filed.sound refused
    exact filed.ended live (by simp) ending rfl closed sound same
  | started starting created opened =>
    have ending : Command.endsLog line = true := by simp [Command.endsLog, starting]
    exact filed.started live (nameable _ rfl) ending created opened
  | recorded going writing => exact filed.recorded live going writing

/-- The console shows what the log takes. -/
theorem Filed.shown (filed : Filed filing history session) {record : Record}
    (logging : Logging session line (.recorded record) after) :
    after.console.shown = session.console.shown ++ record.text := by
  cases logging with
  | kept going other quiet same => cases quiet
  | stopped ending other quiet closed same => cases quiet
  | recorded going writing =>
    cases writing with
    | unlogged closed stays same shown => exact congrArg Console.shown shown
    | logged here write stays same shown => exact congrArg Console.shown shown
    | broken here write lost same shown =>
      obtain ⟨later, done, _⟩ := filed.write here record
      rw [done] at write
      cases write

end Step

/-! ## Runs -/

/-- Where no log is open, an empty history tells of all files. -/
theorem Filed.fresh (filing : Filing σ φ named) {session : Session σ φ}
    (unlogged : session.sink = none) (sound : filing.sound session.around.files) :
    Filed filing [] session where
  sound := sound
  named := by simp [Opened]
  settled := by simp [unlogged]
  attached := by simp [unlogged]
  held := by simp [StillOpen, Opened]
  contents := by simp [Opened]

/-- A run keeps the files in step with the history. -/
theorem Filed.run {filing : Filing σ φ named} {history : List ((String × Inspector) × Outcome)}
    {session : Session σ φ} (filed : Filed filing history session)
    (steps : List (String × Inspector))
    (nameable : ∀ path, .logging path ∈ (session.runLines steps).1 → named path) :
    Filed filing (history ++ steps.zip (session.runLines steps).1) (session.runLines steps).2 := by
  -- The history is kept general: each command is one more at the end of it.
  induction steps generalizing session history with
  | nil => simpa [runLines] using filed
  | cons step rest ih =>
    obtain ⟨line, live⟩ := step
    rw [runLines_cons] at nameable ⊢
    have stepped := filed.step live (session.runLine_logging line live filed.settled)
      fun path same => nameable path (by simp [same])
    have later := ih stepped fun path mem => nameable path (List.mem_cons_of_mem _ mem)
    rw [List.zip_cons_cons, List.append_cons]
    exact later

/-- **Each log file holds the records written while it was open.**  Take a run from a session
without a log, over files of which each path that is opened has its own and of which an open one
takes every write.  After each part of the run, the file under a path that was opened holds the
texts of the records written since it was last opened and before the next start of a log or the
next stop, one after the other and nothing else.  The console shows the same text when such a
record is written. -/
theorem runLines_log_files (filing : Filing σ φ named) (fresh : Session σ φ)
    (unlogged : fresh.sink = none) (sound : filing.sound fresh.around.files)
    (steps : List (String × Inspector))
    (nameable : ∀ path, .logging path ∈ (fresh.runLines steps).1 → named path) :
    ∀ place,
      let history := (steps.zip (fresh.runLines steps).1).take place
      let now := (fresh.runLines (steps.take place)).2
      (∀ path, Opened path history → FileSystem.read path now.around.files =
        .ok (String.join ((loggedAt path history).map Record.text))) ∧
      ∀ line live record, steps[place]? = some (line, live) →
        (fresh.runLines steps).1[place]? = some (.recorded record) →
          (now.runLine line live).2.console.shown = now.console.shown ++ record.text := by
  intro place history now
  have first : (fresh.runLines (steps.take place)).1 = (fresh.runLines steps).1.take place :=
    fresh.runLines_take steps place
  have filed : Filed filing history now := by
    have told := (Filed.fresh filing unlogged sound).run (steps.take place) fun path mem =>
      nameable path (List.mem_of_mem_take (first ▸ mem))
    rw [first, List.nil_append, List.zip_eq_zipWith, ← List.take_zipWith] at told
    exact told
  refine ⟨filed.contents, ?_⟩
  intro line live record here written
  have outcome : (now.runLine line live).1 = .recorded record := by
    rw [getElem?_runLines, here, Option.map_some] at written
    exact Option.some.inj written
  have logging := now.runLine_logging line live filed.settled
  rw [outcome] at logging
  exact filed.shown logging

/-- Two logs, a start without a path, which leaves the first one open, and a start that fails,
which ends the second. -/
def twoLogs : List (String × Inspector) :=
  ["start_log a.log", "log_mispred", "start_log", "log_recovery_end", "start_log b.log",
    "log_mispred", "start_log none/c.log", "log_mispred"].map fun line => (line, oneOp.inspector)

/-- Each of the two files holds its own records, and the last record is in neither. -/
theorem runLines_twoLogs :
    let history := twoLogs.zip (oneDetection.runLines twoLogs).1
    let files := (oneDetection.runLines twoLogs).2.around.files
    oneDetection.sink = none ∧ oneDetection.around.files.Apart ∧
      (∀ path, .logging path ∈ (oneDetection.runLines twoLogs).1 → Storage.Route.Plain path) ∧
      (loggedAt "a.log" history).map Record.ordinal = [2, 2] ∧
      (loggedAt "b.log" history).map Record.ordinal = [3] ∧
      ∀ path, Opened path history → FileSystem.read path files =
        .ok (String.join ((loggedAt path history).map Record.text)) := by
  intro history files
  have plain : ∀ path, .logging path ∈ (oneDetection.runLines twoLogs).1 →
      Storage.Route.Plain path := by
    have opened : (oneDetection.runLines twoLogs).1.all fun
        | .logging path => decide (Storage.Route.Plain path)
        | _ => true := by decide +kernel
    intro path mem
    exact of_decide_eq_true (List.all_eq_true.mp opened _ mem)
  have filed := runLines_log_files Storage.Directory.filing oneDetection rfl
    Storage.Directory.apart_empty twoLogs plain twoLogs.length
  have whole : history.take twoLogs.length = history := by
    refine List.take_of_length_le ?_
    rw [List.length_zip]
    exact Nat.min_le_left _ _
  rw [List.take_length, whole] at filed
  refine ⟨rfl, Storage.Directory.apart_empty, plain, by decide +kernel, by decide +kernel, ?_⟩
  exact filed.1

end Session

end Inflight
