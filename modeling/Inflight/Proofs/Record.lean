import Inflight.Proofs.Text.Numeral
import Inflight.Record

/-!
# Reading records back

Records are written one behind the other, so a log is read back only if each
record can be told from what follows it.  The numerals of a record have any
width, two of its columns may be left out and its second line has two forms.
Still every numeral is followed by a literal that does not begin with a digit,
and where the layout varies the next literal tells which form it is.  So two
texts that are equal and begin with records show the same in these and go on in
the same way (`Record.text_append_inj`), line by line.  A log therefore
determines how many records it holds and all that each of them shows, and
nothing else of a record is in its text
(`Record.text_uniquely_decodable`).
-/

namespace Inflight

set_option autoImplicit false

/-! ## What a record shows -/

/-- What the first line shows of the oracle. -/
structure OracleColumns.Shown where
  prediction : Prediction
  predConf : UInt64
  confCounter : UInt64
  target : Address

/-- What the columns for the oracle show.  The place of the counter is not among it. -/
def OracleColumns.shown (columns : OracleColumns) : OracleColumns.Shown where
  prediction := columns.oracle.prediction
  predConf := columns.oracle.predConf
  confCounter := columns.confCounter
  target := columns.oracle.target

/-- What the four lines of a record show. -/
structure Record.Shown where
  trigger : Trigger
  addr : Address
  ordinal : Nat
  cycle : UInt64
  opNum : UInt64
  offPath : Bool
  /-- The columns for the oracle, when they are there. -/
  oracle : Option OracleColumns.Shown
  fetchAddr : Address
  committedBefore : Nat
  pendingBefore : Nat
  committedAfter : Nat
  pendingAfter : Nat
  /-- The ops on a cache miss, off the path and on it, when their column is there. -/
  miss : Option (Nat × Nat)
  windowTotal : UInt64
  rsOffPath : Nat
  rsOnPath : Nat
  rsTotal : UInt64

/-- What a record shows. -/
def Record.shown (record : Record) : Record.Shown where
  trigger := record.trigger
  addr := record.addr
  ordinal := record.ordinal
  cycle := record.cycle
  opNum := record.opNum
  offPath := record.offPath
  oracle := record.oracle.map OracleColumns.shown
  fetchAddr := record.fetchAddr
  committedBefore := record.census.committedBefore
  pendingBefore := record.census.pendingBefore
  committedAfter := record.census.committedAfter
  pendingAfter := record.census.pendingAfter
  miss :=
    if record.missColumn then some (record.census.missOffPath, record.census.missOnPath) else none
  windowTotal := record.windowTotal
  rsOffPath := record.census.rsOffPath
  rsOnPath := record.census.rsOnPath
  rsTotal := record.rsTotal

/-! ## Words that stand for a value -/

variable {rest otherRest : List Char}

theorem Trigger.tag_cut {trigger other : Trigger}
    (same : trigger.tag.toList ++ (" for PC ".toList ++ rest) =
      other.tag.toList ++ (" for PC ".toList ++ otherRest)) :
    trigger.tag = other.tag ∧ rest = otherRest := by
  cases trigger <;> cases other <;> simp_all [tag]

theorem Prediction.tag_cut {prediction other : Prediction}
    (same : prediction.tag.toList ++ rest = other.tag.toList ++ otherRest) :
    prediction = other ∧ rest = otherRest := by
  cases prediction <;> cases other <;> simp_all [tag]

/-! ## The first line -/

@[simp]
theorem OracleColumns.newline_notMem_text (columns : OracleColumns) :
    '\n' ∉ columns.text.toList := by
  unfold text
  cases columns.oracle.prediction <;> simp [Prediction.tag]

theorem OracleColumns.elim_eq_of_shown {columns other : Option OracleColumns}
    (same : columns.map shown = other.map shown) : columns.elim "" text = other.elim "" text := by
  cases columns <;> cases other
  · rfl
  · cases same
  · cases same
  · simp only [Option.map_some, Option.some.injEq, shown, Shown.mk.injEq] at same
    obtain ⟨prediction, predConf, confCounter, target⟩ := same
    simp only [Option.elim_some]
    unfold text
    rw [prediction, predConf, confCounter, target]

theorem OracleColumns.text_cut {columns other : OracleColumns}
    (same : columns.text.toList ++ ("\n".toList ++ rest) =
      other.text.toList ++ ("\n".toList ++ otherRest)) :
    columns.shown = other.shown ∧ rest = otherRest := by
  unfold text at same
  simp only [String.toList_append, List.append_assoc, -String.reduceToList] at same
  obtain ⟨prediction, same⟩ := Prediction.tag_cut (List.append_cancel_left same)
  obtain ⟨predConf, same⟩ := Text.decimal_cut (List.append_cancel_left same)
  obtain ⟨confCounter, same⟩ := Text.decimal_cut same
  obtain ⟨target, same⟩ := Address.text_cut same
  refine ⟨?_, same⟩
  simp only [shown, prediction, UInt64.toNat_inj.mp predConf, UInt64.toNat_inj.mp confCounter,
    target]

/-- What stands at the end of the first line tells whether the oracle's columns are there. -/
theorem OracleColumns.elim_cut {columns other : Option OracleColumns}
    (same : (columns.elim "" text).toList ++ ("\n".toList ++ rest) =
      (other.elim "" text).toList ++ ("\n".toList ++ otherRest)) :
    columns.map shown = other.map shown ∧ rest = otherRest := by
  cases columns <;> cases other
  · exact ⟨rfl, by simpa using same⟩
  · unfold text at same
    simp at same
  · unfold text at same
    simp at same
  · obtain ⟨shownSame, restSame⟩ := text_cut same
    exact ⟨congrArg some shownSame, restSame⟩

namespace Record

variable {record other : Record}

theorem headLine_cut
    (same : record.headLine.toList ++ rest = other.headLine.toList ++ otherRest) :
    record.trigger.tag = other.trigger.tag ∧ record.addr = other.addr ∧
      record.ordinal = other.ordinal ∧ record.cycle = other.cycle ∧ record.opNum = other.opNum ∧
      record.offPath = other.offPath ∧
      record.oracle.map OracleColumns.shown = other.oracle.map OracleColumns.shown ∧
      rest = otherRest := by
  unfold headLine at same
  simp only [String.toList_append, List.append_assoc, -String.reduceToList] at same
  obtain ⟨tag, same⟩ := Trigger.tag_cut (List.append_cancel_left same)
  obtain ⟨addr, same⟩ := Address.text_cut same
  obtain ⟨ordinal, same⟩ := Text.column_cut same
  obtain ⟨cycle, same⟩ := Text.word_cut same
  obtain ⟨opNum, same⟩ := Text.word_cut same
  have offPath : record.offPath = other.offPath := by
    cases here : record.offPath <;> cases there : other.offPath <;> simp [here, there] at same ⊢
  rw [offPath] at same
  have same := List.append_cancel_left (List.append_cancel_left same)
  obtain ⟨oracle, same⟩ := OracleColumns.elim_cut same
  exact ⟨tag, addr, ordinal, cycle, opNum, offPath, oracle, same⟩

/-! ## The other lines -/

theorem fetchLine_cut (tag : record.trigger.tag = other.trigger.tag)
    (same : record.fetchLine.toList ++ rest = other.fetchLine.toList ++ otherRest) :
    record.trigger = other.trigger ∧ record.fetchAddr = other.fetchAddr ∧ rest = otherRest := by
  unfold fetchLine at same
  cases here : record.trigger <;> cases there : other.trigger <;> rw [here, there] at tag same
  · simp only [String.toList_append, List.append_assoc, -String.reduceToList] at same
    obtain ⟨fetchAddr, same⟩ := Address.text_cut (List.append_cancel_left same)
    obtain ⟨recoveryCycle, same⟩ := Text.word_cut same
    exact ⟨congrArg _ recoveryCycle, fetchAddr, same⟩
  · exact absurd tag (by simp [Trigger.tag])
  · exact absurd tag (by simp [Trigger.tag])
  · simp only [String.toList_append, List.append_assoc, String.append_empty,
      -String.reduceToList] at same
    obtain ⟨fetchAddr, same⟩ := Address.text_cut (List.append_cancel_left same)
    exact ⟨rfl, fetchAddr, same⟩

/-- The third line from the column for the ops on a cache miss on, if that is there. -/
def fromMiss (record : Record) (rest : List Char) : List Char :=
  (if record.missColumn then record.missText else "").toList ++ (" | Total=".toList ++ rest)

theorem stops_fromMiss (record : Record) (rest : List Char) :
    Text.stops (record.fromMiss rest) = true := by
  cases here : record.missColumn
  · rw [fromMiss, here]
    rfl
  · rw [fromMiss, here]
    unfold missText
    simp only [if_true, String.toList_append, List.append_assoc, -String.reduceToList]
    exact Text.stops_append (by decide) _

/-- What follows the counts of the third line tells whether the ops on a cache miss are there. -/
theorem fromMiss_cut (same : record.fromMiss rest = other.fromMiss otherRest) :
    record.shown.miss = other.shown.miss ∧ rest = otherRest := by
  unfold fromMiss missText at same
  cases here : record.missColumn <;> cases there : other.missColumn <;>
    simp only [here, there, if_true, if_false, Bool.false_eq_true, String.toList_append,
      List.append_assoc, -String.reduceToList] at same
  · exact ⟨by simp [shown, here, there], by simpa using same⟩
  · simp at same
  · simp at same
  · obtain ⟨off, same⟩ := Text.column_cut (List.append_cancel_left same)
    obtain ⟨on, same⟩ := Text.column_cut same
    exact ⟨by simp [shown, here, there, off, on], List.append_cancel_left same⟩

theorem windowLine_cut
    (same : record.windowLine.toList ++ rest = other.windowLine.toList ++ otherRest) :
    record.census.committedBefore = other.census.committedBefore ∧
      record.census.pendingBefore = other.census.pendingBefore ∧
      record.census.committedAfter = other.census.committedAfter ∧
      record.census.pendingAfter = other.census.pendingAfter ∧
      record.shown.miss = other.shown.miss ∧ record.windowTotal = other.windowTotal ∧
      rest = otherRest := by
  unfold windowLine at same
  simp only [String.toList_append, List.append_assoc, -String.reduceToList] at same
  obtain ⟨committedBefore, same⟩ := Text.column_cut (List.append_cancel_left same)
  obtain ⟨pendingBefore, same⟩ := Text.column_cut same
  obtain ⟨committedAfter, same⟩ := Text.column_cut same
  obtain ⟨pendingAfter, same⟩ :=
    Text.column_append_inj (record.stops_fromMiss _) (other.stops_fromMiss _) same
  obtain ⟨miss, same⟩ := fromMiss_cut same
  obtain ⟨windowTotal, same⟩ := Text.word_cut same
  exact ⟨committedBefore, pendingBefore, committedAfter, pendingAfter, miss, windowTotal, same⟩

theorem rsLine_cut (same : record.rsLine.toList ++ rest = other.rsLine.toList ++ otherRest) :
    record.census.rsOffPath = other.census.rsOffPath ∧
      record.census.rsOnPath = other.census.rsOnPath ∧ record.rsTotal = other.rsTotal ∧
      rest = otherRest := by
  unfold rsLine at same
  simp only [String.toList_append, List.append_assoc, -String.reduceToList] at same
  obtain ⟨rsOffPath, same⟩ := Text.column_cut (List.append_cancel_left same)
  obtain ⟨rsOnPath, same⟩ := Text.column_cut same
  obtain ⟨rsTotal, same⟩ := Text.word_cut same
  exact ⟨rsOffPath, rsOnPath, rsTotal, same⟩

/-! ## Records -/

/-- **A record is told from what follows it.** -/
theorem text_append_inj
    (same : record.text.toList ++ rest = other.text.toList ++ otherRest) :
    record.shown = other.shown ∧ rest = otherRest := by
  unfold text at same
  simp only [String.toList_append, List.append_assoc] at same
  obtain ⟨tag, addr, ordinal, cycle, opNum, offPath, oracle, same⟩ := headLine_cut same
  obtain ⟨trigger, fetchAddr, same⟩ := fetchLine_cut tag same
  obtain ⟨committedBefore, pendingBefore, committedAfter, pendingAfter, miss, windowTotal, same⟩ :=
    windowLine_cut same
  obtain ⟨rsOffPath, rsOnPath, rsTotal, same⟩ := rsLine_cut same
  simp only [shown] at miss
  refine ⟨?_, same⟩
  simp only [shown, trigger, addr, ordinal, cycle, opNum, offPath, oracle, fetchAddr,
    committedBefore, pendingBefore, committedAfter, pendingAfter, miss, windowTotal, rsOffPath,
    rsOnPath, rsTotal]

/-- Nothing but what it shows is in the text of a record. -/
theorem text_eq_of_shown (same : record.shown = other.shown) : record.text = other.text := by
  simp only [shown, Shown.mk.injEq] at same
  obtain ⟨trigger, addr, ordinal, cycle, opNum, offPath, oracle, fetchAddr, committedBefore,
    pendingBefore, committedAfter, pendingAfter, miss, windowTotal, rsOffPath, rsOnPath,
    rsTotal⟩ := same
  have missColumn : (if record.missColumn then record.missText else "") =
      if other.missColumn then other.missText else "" := by
    unfold missText
    cases here : record.missColumn <;> cases there : other.missColumn <;>
      simp_all
  have head : record.headLine = other.headLine := by
    unfold headLine
    rw [trigger, addr, ordinal, cycle, opNum, offPath, OracleColumns.elim_eq_of_shown oracle]
  have fetch : record.fetchLine = other.fetchLine := by
    unfold fetchLine
    rw [trigger, fetchAddr]
  have window : record.windowLine = other.windowLine := by
    unfold windowLine
    rw [committedBefore, pendingBefore, committedAfter, pendingAfter, missColumn, windowTotal]
  have rs : record.rsLine = other.rsLine := by
    unfold rsLine
    rw [rsOffPath, rsOnPath, rsTotal]
  unfold text
  rw [head, fetch, window, rs]

/-! ## Four lines -/

theorem exists_headLine_eq (record : Record) :
    ∃ body, '\n' ∉ body.toList ∧ record.headLine = body ++ "\n" := by
  refine ⟨_, ?_, rfl⟩
  cases record.trigger <;> cases record.offPath <;> cases record.oracle <;>
    simp [Trigger.tag]

theorem exists_fetchLine_eq (record : Record) :
    ∃ body, '\n' ∉ body.toList ∧ record.fetchLine = body ++ "\n" := by
  refine ⟨_, ?_, rfl⟩
  cases record.trigger <;> simp

theorem exists_windowLine_eq (record : Record) :
    ∃ body, '\n' ∉ body.toList ∧ record.windowLine = body ++ "\n" := by
  refine ⟨_, ?_, rfl⟩
  unfold missText
  cases record.missColumn <;> simp

theorem exists_rsLine_eq (record : Record) :
    ∃ body, '\n' ∉ body.toList ∧ record.rsLine = body ++ "\n" := by
  refine ⟨_, ?_, rfl⟩
  simp

/-! ## Logs -/

theorem text_append_ne_nil (record : Record) (rest : List Char) :
    record.text.toList ++ rest ≠ [] := by
  unfold text headLine
  simp

theorem text_ne_empty (record : Record) : record.text ≠ "" := by
  intro empty
  have nothing : record.text.toList ++ [] = [] := by rw [empty]; rfl
  exact record.text_append_ne_nil [] nothing

/-- A log tells how many records it holds and what each of them shows, and it is told by that. -/
theorem join_text_eq_iff (records others : List Record) :
    String.join (records.map text) = String.join (others.map text) ↔
      records.map shown = others.map shown := by
  constructor
  · intro same
    have chars := congrArg String.toList same
    clear same
    induction records generalizing others with
    | nil =>
      cases others with
      | nil => rfl
      | cons other others =>
        rw [List.map_cons, String.join_cons, String.toList_append] at chars
        exact absurd chars.symm (other.text_append_ne_nil _)
    | cons record records ih =>
      cases others with
      | nil =>
        rw [List.map_cons, String.join_cons, String.toList_append] at chars
        exact absurd chars (record.text_append_ne_nil _)
      | cons other others =>
        rw [List.map_cons, List.map_cons, String.join_cons, String.join_cons,
          String.toList_append, String.toList_append] at chars
        obtain ⟨first, rest⟩ := text_append_inj chars
        rw [List.map_cons, List.map_cons, first, ih others rest]
  · intro same
    induction records generalizing others with
    | nil =>
      obtain rfl := List.map_eq_nil_iff.mp same.symm
      rfl
    | cons record records ih =>
      cases others with
      | nil => cases same
      | cons other others =>
        obtain ⟨first, rest⟩ := List.cons.inj same
        rw [List.map_cons, List.map_cons, String.join_cons, String.join_cons,
          text_eq_of_shown first, ih others rest]

/-- **The format of a log is uniquely decodable.**  A record is four lines, each with a line end
and no other.  Two rows of records have the same text exactly when they are of one length and
each record of the one shows what the record at its place in the other does: the trigger with the
cycle at which a recovery ends, every number and address of the four lines, whether the optional
columns are there, and what stands in them. -/
theorem text_uniquely_decodable :
    (∀ record : Record, ∃ first second third fourth : String,
      record.text = first ++ "\n" ++ (second ++ "\n") ++ (third ++ "\n") ++ (fourth ++ "\n") ∧
        ∀ line ∈ [first, second, third, fourth], '\n' ∉ line.toList) ∧
    ∀ records others : List Record,
      String.join (records.map text) = String.join (others.map text) ↔
        records.map shown = others.map shown := by
  refine ⟨fun record => ?_, join_text_eq_iff⟩
  obtain ⟨first, firstInline, head⟩ := record.exists_headLine_eq
  obtain ⟨second, secondInline, fetch⟩ := record.exists_fetchLine_eq
  obtain ⟨third, thirdInline, window⟩ := record.exists_windowLine_eq
  obtain ⟨fourth, fourthInline, rs⟩ := record.exists_rsLine_eq
  refine ⟨first, second, third, fourth, ?_, ?_⟩
  · unfold text
    rw [head, fetch, window, rs]
  · simp [firstInline, secondInline, thirdInline, fourthInline]

end Record

end Inflight
