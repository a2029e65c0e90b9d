import Inflight.Proofs.Session.Logging
import Inflight.Proofs.Text.Blank

/-!
# The grammar of command lines

A command line is a name between blanks, and behind it an argument that a blank
at least parts from the name, with blanks after it (`Command.Line`).  The name
has no blank in it and the argument none at its ends; inside the argument blanks
are as good as any character.  Every text is a command line in exactly one way,
and the reader looks at nothing but the name and the argument
(`Command.Line.splitLine`).  A line of blanks has the empty name, which is no
command.

So the argument of a start reaches the file system as it was typed.  To say which
files are asked for, a file system is put under watch (`Storage.Watched`): it does
what it did, and keeps a list of the paths under which files were to be opened.
A start asks for one file, and that is the one under its argument, whether a log
was open before or not (`Command.ofLine_grammar`).
-/

namespace Inflight

set_option autoImplicit false

open Log (Sink Surroundings)
open Storage (FileSystem)
open Text (Blank Trimmed Word)

/-! ## Lines -/

namespace Command

/-- The line is made of the name and the argument, with blanks around them.  Behind a name that is
empty there is no argument, and a blank parts an argument from its name. -/
structure Line (line name argument : String) : Prop where
  word : Word name.toList
  trimmed : Trimmed argument.toList
  parts : ∃ lead gap trail : String, Blank lead.toList ∧ Blank gap.toList ∧ Blank trail.toList ∧
    line = lead ++ name ++ gap ++ argument ++ trail ∧
    (argument ≠ "" → name ≠ "" ∧ gap ≠ "")

variable {line name argument : String}

/-- The reader takes a line apart as it is made. -/
theorem Line.splitLine (made : Line line name argument) :
    Command.splitLine line = (name, if argument = "" then none else some argument) := by
  obtain ⟨word, trimmed, lead, gap, trail, before, between, after, rfl, parted⟩ := made
  by_cases given : argument = ""
  · subst given
    have whole : (lead ++ name ++ gap ++ "" ++ trail).toList =
        lead.toList ++ name.toList ++ (gap.toList ++ trail.toList) := by simp
    have cut : Text.cutAtBlank (Text.trimChars (lead ++ name ++ gap ++ "" ++ trail).toList) =
        (name.toList, none) := by
      rw [whole, Text.trimChars_eq before word.trimmed (between.append after),
        Text.cutAtBlank_of_word word]
    rw [Command.splitLine, cut]
    simp [Text.trimChars]
  · obtain ⟨named, separate⟩ := parted given
    have filled : argument.toList ≠ [] := by simpa using given
    have some_ : name.toList ≠ [] := by simpa using named
    have whole : (lead ++ name ++ gap ++ argument ++ trail).toList =
        lead.toList ++ (name.toList ++ gap.toList ++ argument.toList) ++ trail.toList := by simp
    obtain ⟨first, rest, begins⟩ : ∃ first rest, gap.toList = first :: rest :=
      List.exists_cons_of_ne_nil (by simpa using separate)
    have blank : Text.isBlank first = true := between first (begins ▸ List.mem_cons_self)
    have restBlank : Blank rest := fun c member =>
      between c (begins ▸ List.mem_cons_of_mem _ member)
    have cut : Text.cutAtBlank
        (Text.trimChars (lead ++ name ++ gap ++ argument ++ trail).toList) =
          (name.toList, some (rest ++ argument.toList)) := by
      rw [whole,
        Text.trimChars_eq before (word.trimmed_append some_ trimmed filled gap.toList) after,
        List.append_assoc, begins, List.cons_append, Text.cutAtBlank_cons word blank]
    have kept : Text.trimChars (rest ++ argument.toList) = argument.toList := by
      have same := Text.trimChars_eq restBlank trimmed Text.blank_nil
      rwa [List.append_nil] at same
    rw [Command.splitLine, cut]
    simp [kept, filled, given]

/-- A name that a blank or the end follows, and what stands behind it, make a line. -/
theorem exists_line_of_trimmed {lead body trail : List Char} (before : Blank lead)
    (trimmed : Trimmed body) (after : Blank trail) :
    ∃ name argument, Line (String.ofList (lead ++ body ++ trail)) name argument := by
  let word := body.takeWhile fun c => !Text.isBlank c
  have isWord : Word word := by
    intro c member
    simpa using List.mem_takeWhile_imp member
  have whole : body = word ++ body.dropWhile fun c => !Text.isBlank c :=
    List.takeWhile_append_dropWhile.symm
  cases rest : body.dropWhile fun c => !Text.isBlank c with
  | nil =>
    rw [rest, List.append_nil] at whole
    refine ⟨String.ofList word, "", by simpa using isWord, .nil, String.ofList lead, "",
      String.ofList trail, by simpa using before, by simp [Blank], by simpa using after, ?_, ?_⟩
    · rw [whole]
      simp [String.append_assoc]
    · intro given
      exact absurd rfl given
  | cons first rest' =>
    have blank : Text.isBlank first = true := by
      have stops := List.head?_dropWhile_not (fun c => !Text.isBlank c) body
      rw [rest] at stops
      simpa using stops
    obtain ⟨gap, argument, more, gapBlank, argTrimmed, moreBlank, rfl⟩ :=
      Text.exists_trimmed rest'
    rw [rest] at whole
    refine ⟨String.ofList word, String.ofList argument, by simpa using isWord,
      by simpa using argTrimmed, String.ofList lead, String.ofList (first :: gap),
      String.ofList (more ++ trail), by simpa using before, ?_, ?_, ?_, ?_⟩
    · intro c member
      rw [String.toList_ofList] at member
      rcases List.mem_cons.mp member with rfl | later
      · exact blank
      · exact gapBlank c later
    · simpa using moreBlank.append after
    · rw [whole]
      simp [String.append_assoc]
    · -- The trimmed text does not begin with the blank that ends the name.
      intro _
      refine ⟨?_, by simp⟩
      intro empty
      have none : word = [] := by simpa using empty
      have visible := trimmed.first first (by rw [whole, none]; rfl)
      rw [blank] at visible
      cases visible

/-- Every text is a command line. -/
theorem exists_line (line : String) : ∃ name argument, Line line name argument := by
  obtain ⟨lead, body, trail, before, trimmed, after, whole⟩ := Text.exists_trimmed line.toList
  have made := exists_line_of_trimmed before trimmed after
  rwa [← whole, String.ofList_toList] at made

/-- A text is a command line in one way only. -/
theorem Line.unique {other rest : String} (made : Line line name argument)
    (again : Line line other rest) : other = name ∧ rest = argument := by
  have same := again.splitLine.symm.trans made.splitLine
  obtain ⟨rfl, sameArgument⟩ := Prod.mk.inj same
  refine ⟨rfl, ?_⟩
  by_cases none : rest = ""
  · by_cases also : argument = ""
    · rw [none, also]
    · simp [none, also] at sameArgument
  · by_cases also : argument = ""
    · simp [none, also] at sameArgument
    · simpa [none, also] using sameArgument

/-- The reader goes by the name and the argument of a line. -/
theorem Line.ofLine (made : Line line name argument) :
    Command.ofLine line = ofName (if argument = "" then none else some argument) name := by
  rw [Command.ofLine, made.splitLine]

theorem ofName_of_notMem {argument : Option String} (unknown : name ∉ names) :
    ofName argument name = .error (.unknownCommand name) := by
  simp only [names, List.mem_cons, List.not_mem_nil, or_false, not_or] at unknown
  unfold ofName
  split <;> simp_all

end Command

/-! ## File systems under watch -/

namespace Storage

/-- The state of a file system, and the paths under which files were to be opened in it. -/
structure Watched (σ : Type) where
  files : σ
  /-- The paths, in the order in which they were asked for. -/
  opened : List String := []

variable {σ φ : Type} [FileSystem σ φ]

/-- A file system under watch does what it did. -/
instance : FileSystem (Watched σ) φ where
  create path watched :=
    match FileSystem.create path watched.files with
    | (result, files) => (result, { files, opened := watched.opened ++ [path] })
  write file text watched :=
    match FileSystem.write file text watched.files with
    | (result, files) => (result, { watched with files })
  read path watched := FileSystem.read path watched.files

theorem opened_create (path : String) (watched : Watched σ) :
    (FileSystem.create path watched).2.opened = watched.opened ++ [path] := rfl

theorem opened_write (file : φ) (text : String) (watched : Watched σ) :
    (FileSystem.write file text watched).2.opened = watched.opened := rfl

end Storage

namespace Log.Sink

variable {σ φ : Type} [FileSystem σ φ]

/-- No file is opened while a log is closed. -/
theorem opened_close (sink : Sink φ) (around : Surroundings (Storage.Watched σ)) :
    (sink.close around).2.files.opened = around.files.opened := by
  unfold close flush
  by_cases empty : sink.pending = ""
  · rw [if_pos empty]
    rfl
  · rw [if_neg empty]
    have same := Storage.opened_write sink.file sink.pending around.files
    cases written : FileSystem.write sink.file sink.pending around.files with
    | mk result later =>
      rw [written] at same
      cases result with
      | error cause => exact same
      | ok done => exact same

end Log.Sink

namespace Session

variable {σ φ : Type} [FileSystem σ φ] {line path : String}

theorem opened_closePrevious (session : Session (Storage.Watched σ) φ) :
    session.closePrevious.around.files.opened = session.around.files.opened := by
  unfold closePrevious
  split
  · rfl
  · next sink opened =>
    have same := sink.opened_close session.around
    split
    · next closed =>
      rw [closed] at same
      exact same
    · next failed =>
      rw [failed] at same
      rw [(report_sameLog _ _).files]
      exact same

/-! ## Starting a log by a command line -/

/-- A start with an argument opens the file under it, where the log before it has left the
files. -/
theorem runLine_start (made : Command.Line line "start_log" path) (given : path ≠ "")
    (session : Session σ φ) (live : Inspector) :
    (session.runLine line live).1 =
        (match (FileSystem.create path session.closePrevious.around.files).1 with
          | .ok _ => .logging path
          | .error cause => .failed (.logNotOpened path cause)) ∧
      (session.runLine line live).2.around.files =
        (FileSystem.create path session.closePrevious.around.files).2 := by
  have start : session.startLog (some path) = session.openLog path := by
    simp [startLog, Text.trim_of_trimmed made.trimmed, given]
  rw [runLine, made.ofLine, if_neg given]
  simp only [Command.ofName, execute, start, openLog, Sink.openAt]
  cases created : FileSystem.create path session.closePrevious.around.files with
  | mk result later =>
    cases result with
    | error cause => exact ⟨rfl, (fail_sameLog _ _ _).files⟩
    | ok file => exact ⟨rfl, (report_sameLog _ _).files⟩

end Session

/-- **Command lines have one reading.**  Every text has one name and one argument; four names are
commands, of which one takes the argument, as it stands, and every other name is reported.  A start
with an argument asks the file system for the file under the argument and for no other. -/
theorem Command.ofLine_grammar (line : String) :
    (∃ name argument, Line line name argument ∧
      (∀ other rest, Line line other rest → other = name ∧ rest = argument) ∧
      (name = "start_log" →
        ofLine line = .ok (.startLog (if argument = "" then none else some argument))) ∧
      (name = "stop_log" → ofLine line = .ok .stopLog) ∧
      (name = "log_mispred" → ofLine line = .ok (.record .mispredict)) ∧
      (name = "log_recovery_end" → ofLine line = .ok (.record .recoveryEnd)) ∧
      (name ∉ names → ofLine line = .error (.unknownCommand name))) ∧
    ∀ lead gap path trail : String, Blank lead.toList → Blank gap.toList → Blank trail.toList →
      gap ≠ "" → path ≠ "" → Trimmed path.toList →
      line = lead ++ "start_log" ++ gap ++ path ++ trail →
      ∀ {σ φ : Type} [FileSystem σ φ] (live : Inspector),
        (∀ session : Session (Storage.Watched σ) φ,
          (session.runLine line live).2.around.files.opened =
            session.around.files.opened ++ [path]) ∧
        ∀ session : Session σ φ,
          (session.runLine line live).1 =
            match (FileSystem.create path session.closePrevious.around.files).1 with
            | .ok _ => .logging path
            | .error cause => .failed (.logNotOpened path cause) := by
  refine ⟨?_, ?_⟩
  · obtain ⟨name, argument, made⟩ := exists_line line
    have read := made.ofLine
    refine ⟨name, argument, made, fun _ _ again => made.unique again, ?_, ?_, ?_, ?_, ?_⟩
    · rintro rfl
      exact read
    · rintro rfl
      exact read
    · rintro rfl
      exact read
    · rintro rfl
      exact read
    · intro unknown
      rw [read, ofName_of_notMem unknown]
  · intro lead gap path trail before between after separate given trimmed split σ φ _ live
    have word : Word "start_log".toList := by decide
    have made : Line line "start_log" path :=
      ⟨word, trimmed, lead, gap, trail, before, between, after, split,
        fun _ => ⟨by decide, separate⟩⟩
    refine ⟨fun session => ?_, fun session => (Session.runLine_start made given session live).1⟩
    rw [(Session.runLine_start made given session live).2, Storage.opened_create,
      Session.opened_closePrevious]

/-- A session whose file system is under watch. -/
def Session.watched : Session (Storage.Watched Storage.Directory) Storage.OpenFile where
  config := {}
  around := { files := { files := {} } }

/-- A no-break blank, an ideographic one and a line end around a path with blanks inside it: that
path and no other is asked for. -/
theorem Command.ofLine_grammar_wideBlanks :
    let line := "\u3000start_log\u00a0 two  words.log\n"
    Blank "\u3000".toList ∧ Blank "\u00a0 ".toList ∧ Blank "\n".toList ∧
      Trimmed "two  words.log".toList ∧
      (Session.watched.runLine line (Snapshot.inspector {})).2.around.files.opened =
        ["two  words.log"] ∧
      (Session.oneDetection.runLine line (Snapshot.inspector {})).1 =
        .logging "two  words.log" := by
  intro line
  have before : Blank "\u3000".toList := by decide
  have between : Blank "\u00a0 ".toList := by decide
  have after : Blank "\n".toList := by decide
  have trimmed : Trimmed "two  words.log".toList := by decide
  have opened := ((ofLine_grammar line).2 "\u3000" "\u00a0 " "two  words.log" "\n" before between
    after (by decide) (by decide) trimmed (by decide) (Snapshot.inspector {})).1 Session.watched
  have outcome := ((ofLine_grammar line).2 "\u3000" "\u00a0 " "two  words.log" "\n" before between
    after (by decide) (by decide) trimmed (by decide) (Snapshot.inspector {})).2
    Session.oneDetection
  refine ⟨before, between, after, trimmed, opened, ?_⟩
  rw [outcome]
  rfl

end Inflight
