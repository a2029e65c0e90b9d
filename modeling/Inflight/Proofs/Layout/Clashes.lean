import Inflight.Proofs.Snapshot.Writing
import Inflight.Window.Layout

/-!
# Pushing under clashing names

Nothing keeps the configured paths of an op apart: one may begin another, and a
write may then fail, or go through a field that an earlier one has written.  An
op is still written in objects of its own.  Its root is new, every object made
below it is new, and no field written there leads back, so the writes of an op
stay behind all that was there before them (`Snapshot.Beyond`).  Only the last
write, which links the op, touches an older object, and it happens as a whole or
not at all.  So a push that fails leaves the window as it was, whatever the names
(`Layout.push_spares_window`).
-/

namespace Inflight

set_option autoImplicit false

namespace Snapshot

/-- All objects of a snapshot stand unchanged at the front of another, and no object behind them
refers to one of them. -/
structure Beyond (before after : Snapshot) : Prop where
  globals : after.globals = before.globals
  size : before.size ≤ after.size
  kept : ∀ old : Handle, old.index < before.size →
    after.objects[old.index]? = before.objects[old.index]?
  closed : ∀ (new : Handle) name target, before.size ≤ new.index →
    after.slot? new name = some (.ref target) → before.size ≤ target.index

/-- An object on the way along parents: references lead to it along the first of them. -/
def OnWay (snapshot : Snapshot) (handle : Handle) (parents : List String) (object : Handle) :
    Prop :=
  ∃ front, front <+: parents ∧ snapshot.Leads handle front object

/-! ## Writing behind what is there -/

section Beyond

variable {before middle after : Snapshot} {handle : Handle}

theorem beyond_alloc (snapshot : Snapshot) :
    Beyond snapshot (snapshot.alloc Table.empty).2 where
  globals := rfl
  size := by simp [alloc, Snapshot.size]
  kept _ older := getElem?_alloc _ older
  closed new name target newer held := by
    rw [slot?_alloc, Table.get?_empty] at held
    split at held
    · cases held
    · exact absurd (index_lt_of_slot? held) (Nat.not_lt_of_le newer)

theorem Beyond.objects_prefix (beyond : Beyond before after) :
    before.objects.toList <+: after.objects.toList := by
  refine List.prefix_iff_getElem?.mpr fun index inside => ?_
  have same := beyond.kept ⟨index⟩ (by simpa [Snapshot.size] using inside)
  rw [← Array.getElem?_toList, ← Array.getElem?_toList] at same
  rw [same, List.getElem?_eq_getElem inside]

/-- References from behind lead only behind. -/
theorem Beyond.le_of_leads (beyond : Beyond before after) {front : List String} {last : Handle}
    (leads : after.Leads handle front last) (newer : before.size ≤ handle.index) :
    before.size ≤ last.index := by
  induction leads with
  | here handle => exact newer
  | next held _ ih => exact ih (beyond.closed _ _ _ newer held)

/-- A way to an older object goes through older objects only, and so it was there before. -/
theorem Beyond.leads_of_lt (beyond : Beyond before after) {front : List String} {last : Handle}
    (leads : after.Leads handle front last) (older : last.index < before.size) :
    before.Leads handle front last := by
  induction leads with
  | here handle => exact .here handle
  | @next handle target last segment front held leads ih =>
    have inside : handle.index < before.size := by
      refine Nat.lt_of_not_le fun newer => ?_
      exact Nat.not_lt_of_le (beyond.le_of_leads leads (beyond.closed _ _ _ newer held)) older
    refine .next ?_ (ih older)
    rw [slot?, ← beyond.kept handle inside]
    exact held

/-- A write from behind stays behind, unless what it writes leads to an older object. -/
theorem Beyond.setPath (beyond : Beyond before middle) (newer : before.size ≤ handle.index)
    (dotted : String) {slot : Slot}
    (onward : ∀ target, slot = .ref target → before.size ≤ target.index) :
    Beyond before (middle.setPath handle dotted slot).2 := by
  have ending := middle.setPath_pathWrite handle dotted slot
  generalize middle.setPath handle dotted slot = ended at ending
  cases ending with
  | refused _ => exact beyond
  | @done found missing leaf reached owner last parted reaches descended all =>
    have written := all.written reaches.stands leaf slot
    have reachedNew := beyond.le_of_leads reaches.leads newer
    refine ⟨written.globals.trans beyond.globals, ?_, fun old older => ?_, ?_⟩
    · rw [written.size]
      exact Nat.le_add_right_of_le beyond.size
    · rw [written.others old (Nat.lt_of_lt_of_le older beyond.size), beyond.kept old older]
      rintro rfl
      exact Nat.not_lt_of_le reachedNew older
    · intro new name target newNew held
      by_cases made : middle.size ≤ new.index
      · rcases written.fresh new name _ made held with isSlot | ⟨_, isRef, later⟩
        · exact onward target isSlot.symm
        · obtain rfl := Slot.ref.inj isRef
          exact Nat.le_trans beyond.size later
      · have inside := Nat.lt_of_not_le made
        by_cases here : new = reached
        · subst here
          rw [written.fields] at held
          split at held
          · split at held
            · exact onward target (Option.some.inj held)
            · obtain rfl := Slot.ref.inj (Option.some.inj held)
              exact beyond.size
          · exact beyond.closed new name target newNew held
        · rw [slot?, written.others new inside here] at held
          exact beyond.closed new name target newNew held

theorem Beyond.setPaths (beyond : Beyond before middle) {writes : List (Handle × String × Slot)}
    (newer : ∀ write ∈ writes, before.size ≤ write.1.index)
    (onward : ∀ write ∈ writes, ∀ target, write.2.2 = .ref target → before.size ≤ target.index) :
    Beyond before (middle.setPaths writes).2 := by
  induction writes generalizing middle with
  | nil => exact beyond
  | cons write rest ih =>
    obtain ⟨handle, dotted, slot⟩ := write
    have first := beyond.setPath (newer _ List.mem_cons_self) dotted
      (onward _ List.mem_cons_self)
    rw [Snapshot.setPaths]
    split
    · next failed => rwa [failed] at first
    · next done =>
      rw [done] at first
      exact ih first (fun write mem => newer write (List.mem_cons_of_mem _ mem))
        fun write mem => onward write (List.mem_cons_of_mem _ mem)

/-- A write from an older object changes, of the older objects, only one on its way. -/
theorem Beyond.onWay_of_changed (beyond : Beyond before middle) {dotted : String} {slot : Slot}
    (done : middle.setPath handle dotted slot = (.ok (), after)) {old : Handle}
    (older : old.index < before.size)
    (changed : after.objects[old.index]? ≠ before.objects[old.index]?) :
    before.OnWay handle (Text.segments dotted).dropLast old := by
  have ending := middle.setPath_pathWrite handle dotted slot
  rw [done] at ending
  cases ending with
  | @done found missing leaf reached owner last parted reaches descended all =>
    have written := all.written reaches.stands leaf slot
    by_cases here : old = reached
    · subst here
      refine ⟨found, ?_, beyond.leads_of_lt reaches.leads older⟩
      rw [parted, List.dropLast_concat]
      exact List.prefix_append found missing
    · refine absurd ?_ changed
      rw [← beyond.kept old older]
      exact written.others old (Nat.lt_of_lt_of_le older beyond.size) here

end Beyond

/-- The last writes are done where the first ones lead, and not at all where one of these
fails. -/
theorem setPaths_append (snapshot : Snapshot) (early late : List (Handle × String × Slot)) :
    snapshot.setPaths (early ++ late) =
      match snapshot.setPaths early with
      | (.error fault, snapshot) => (.error fault, snapshot)
      | (.ok (), snapshot) => snapshot.setPaths late := by
  induction early generalizing snapshot with
  | nil => rfl
  | cons write rest ih =>
    obtain ⟨handle, dotted, slot⟩ := write
    rw [List.cons_append, setPaths, setPaths]
    split
    · rfl
    · exact ih _

end Snapshot

open Snapshot (Beyond OnWay)

/-- All that is written into an op is written at its root, and no field of it leads anywhere. -/
theorem OpSpec.of_mem_writes {spec : OpSpec} {names : Names} {op : Handle}
    {write : Handle × String × Slot} (mem : write ∈ spec.writes names op) :
    write.1 = op ∧ ∀ target, write.2.2 ≠ .ref target := by
  have all : ∀ write ∈ spec.writes names op, write.1 = op ∧ ∀ target, write.2.2 ≠ .ref target := by
    unfold writes Oracle.writes
    cases spec.oracle <;> simp
  exact all write mem

namespace Layout

variable (layout : Layout) (spec : OpSpec)

/-- A push writes the new op behind all that was there before.  It fails there or at the link and
leaves no more than that, or else the link is written after it. -/
theorem push_failed_or_linked :
    ∃ middle, Beyond layout.snapshot middle ∧
      ((∃ fault, layout.push spec = (.error fault, { layout with snapshot := middle })) ∨
        ∃ op after, let link := layout.linkWrite op
          middle.setPath link.1 link.2.1 link.2.2 = (.ok (), after) ∧
          layout.push spec =
            (.ok op, { layout with snapshot := after, ops := layout.ops ++ [op] })) := by
  let op : Handle := ⟨layout.snapshot.size⟩
  let writes := spec.writes layout.names op
  have beyond : Beyond layout.snapshot
      ((layout.snapshot.alloc Table.empty).2.setPaths writes).2 := by
    refine (Snapshot.beyond_alloc layout.snapshot).setPaths (fun write mem => ?_)
      fun write mem target isRef => ?_
    · have atRoot : write.1 = op := (OpSpec.of_mem_writes mem).1
      exact Nat.le_of_eq (congrArg Handle.index atRoot).symm
    · exact absurd isRef ((OpSpec.of_mem_writes mem).2 target)
  have pushed : layout.push spec =
      match (layout.snapshot.alloc Table.empty).2.setPaths (writes ++ [layout.linkWrite op]) with
      | (.error fault, snapshot) => (.error fault, { layout with snapshot })
      | (.ok (), snapshot) => (.ok op, { layout with snapshot, ops := layout.ops ++ [op] }) := rfl
  rw [Snapshot.setPaths_append] at pushed
  cases ran : (layout.snapshot.alloc Table.empty).2.setPaths writes with
  | mk result middle =>
    rw [ran] at beyond
    refine ⟨middle, beyond, ?_⟩
    cases result with
    | error fault => exact .inl ⟨fault, by rw [pushed, ran]⟩
    | ok done =>
      -- The link is written as a whole or not at all.
      have ending := middle.setPath_pathWrite (layout.linkWrite op).1 (layout.linkWrite op).2.1
        (layout.linkWrite op).2.2
      cases linked : middle.setPath (layout.linkWrite op).1 (layout.linkWrite op).2.1
          (layout.linkWrite op).2.2 with
      | mk result after =>
        rw [linked] at ending
        cases ending with
        | @refused fault _ =>
          refine .inl ⟨fault, ?_⟩
          simp only [pushed, ran, Snapshot.setPaths, linked]
        | done _ _ _ _ =>
          refine .inr ⟨op, _, linked, ?_⟩
          simp only [pushed, ran, Snapshot.setPaths, linked]

/-- **A push that fails never touches the window.**  Under any names, and whatever was called
before: when a push fails, only objects behind the older ones are new, and the ops, the youngest of
them and the globals are those from before, so the next op is linked where this one would have
been.  When a push succeeds, of the older objects only those on the way to the link can have
changed: on the path of the next op from the youngest one, or on that of the head from an empty
window. -/
theorem push_spares_window :
    (∀ fault after, layout.push spec = (.error fault, after) →
      after.ops = layout.ops ∧ after.tail = layout.tail ∧
      (∀ op, after.linkWrite op = layout.linkWrite op) ∧
      after.snapshot.globals = layout.snapshot.globals ∧
      layout.snapshot.objects.toList <+: after.snapshot.objects.toList) ∧
    ∀ op after, layout.push spec = (.ok op, after) →
      let link := layout.linkWrite op
      ∀ old : Handle, old.index < layout.snapshot.size →
        after.snapshot.objects[old.index]? ≠ layout.snapshot.objects[old.index]? →
          OnWay layout.snapshot link.1 (Text.segments link.2.1).dropLast old := by
  obtain ⟨middle, beyond, ⟨fault, failed⟩ | ⟨op, after, linked, pushed⟩⟩ :=
    layout.push_failed_or_linked spec
  · refine ⟨fun other after same => ?_, fun op after same => ?_⟩
    · cases failed.symm.trans same
      exact ⟨rfl, rfl, fun _ => rfl, beyond.globals, beyond.objects_prefix⟩
    · cases failed.symm.trans same
  · refine ⟨fun other last same => ?_, fun other last same => ?_⟩
    · cases pushed.symm.trans same
    · cases pushed.symm.trans same
      intro link old older changed
      exact beyond.onWay_of_changed linked older changed

/-- A flag of the oracle cannot stand below the number that an address is, so the push of an op with
an oracle fails, and the op after it is linked behind the first. -/
example :
    let oracle : Oracle := ⟨.mispredict, 0, 0, ⟨0⟩⟩
    ∃ fresh first failed last,
      Layout.new { opAddr := "addr", opMispred := "addr.mispred" } = .ok fresh ∧
      fresh.push {} = (.ok ⟨2⟩, first) ∧
      first.push { oracle := some oracle } = (.error (.expectedStructure "addr"), failed) ∧
      failed.push {} = (.ok ⟨4⟩, last) ∧
      last.snapshot.slot? ⟨2⟩ "next_node" = some (.ref ⟨4⟩) :=
  ⟨_, _, _, _, rfl, rfl, rfl, rfl, rfl⟩

end Layout

end Inflight
