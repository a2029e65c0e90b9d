import Inflight.Proofs.Snapshot.Housing
import Inflight.Proofs.Text.Numeral
import Inflight.Window.Layout
import Mathlib.Data.List.Nodup

/-!
# What the structures of a layout hold

A layout is a window with its list of ops, a recovery, and symbols that name
these two, the cycle, the current op and a confidence table.  Here it is said
what each part holds after the calls so far, and that a write to one part leaves
the others: a structure is written along its own paths only, and an older op
along the path to its successor only.
-/

namespace Inflight

set_option autoImplicit false

open Snapshot (Place Housed Edited Admits keyOf)

namespace Layout

/-- What a recovery is filled with. -/
structure Redirect where
  op : Option Handle
  fetchAddr : Address
  cycle : UInt64
deriving DecidableEq

/-! ## Writes below one structure -/

/-- Writes below one structure, along some of its paths. -/
def Along (names : Names) (part : Part) (handle : Handle)
    (writes : List (Handle × String × Slot)) : Prop :=
  (writes.map keyOf).Sublist ((names.paths part).map fun path => (handle, path))

section Writes

variable {names : Names} {part : Part} {handle : Handle} {writes : List (Handle × String × Slot)}
  {places : List Place}

theorem nodup_paths (separated : names.Separated) (part : Part) : (names.paths part).Nodup := by
  refine (separated.paths part).imp fun apart same => apart.1 ?_
  exact same ▸ List.prefix_refl _

theorem Along.nodup (separated : names.Separated) (along : Along names part handle writes) :
    (writes.map keyOf).Nodup := by
  refine List.Sublist.nodup along ?_
  exact (nodup_paths separated part).map fun _ _ same => (Prod.mk.inj same).2

theorem Along.exists_path (along : Along names part handle writes)
    {key : Handle × List String} (mem : key ∈ writes.map keyOf) :
    ∃ path ∈ names.paths part, key = (handle, path) := by
  obtain ⟨path, listed, rfl⟩ := List.mem_map.mp (along.subset mem)
  exact ⟨path, listed, rfl⟩

theorem Along.admits (along : Along names part handle writes)
    (home : places[handle.index]? = some ⟨part, handle, []⟩) :
    ∀ write ∈ writes, Admits names places (keyOf write) := by
  intro write mem
  obtain ⟨path, listed, same⟩ := along.exists_path (List.mem_map_of_mem mem)
  exact same ▸ ⟨part, home, listed⟩

/-! ## Writes of an op -/

/-- The paths to what the oracle knows of an op. -/
def oracleNames (names : Names) : List String :=
  [names.opMispred, names.opMisfetch, names.opPredConf, names.opPredConfIndex, names.opNpc]

/-- The fields of an op that no later call changes. -/
def fieldsOf (spec : OpSpec) (names : Names) : List (String × Slot) :=
  [(names.opAddr, .scalar spec.addr.word),
   (names.opNum, .scalar spec.opNum),
   (names.opOffPath, .flag spec.offPath),
   (names.opState, .scalar spec.state.encoding),
   (names.opDoneCycle, .scalar spec.doneCycle)] ++
  spec.oracle.elim [] fun oracle =>
    [(names.opMispred, .flag (oracle.prediction == .mispredict)),
     (names.opMisfetch, .flag (oracle.prediction == .misfetch)),
     (names.opPredConf, .scalar oracle.predConf),
     (names.opPredConfIndex, .scalar oracle.confIndex),
     (names.opNpc, .scalar oracle.target.word)]

theorem next_mem_writes (spec : OpSpec) (op : Handle) :
    (op, names.opNext, .null) ∈ spec.writes names op := by
  simp [OpSpec.writes]

theorem mem_writes_of_mem_fieldsOf {spec : OpSpec} {field : String × Slot} (op : Handle)
    (mem : field ∈ fieldsOf spec names) : (op, field) ∈ spec.writes names op := by
  obtain ⟨addr, opNum, offPath, state, doneCycle, oracle⟩ := spec
  have split : (fieldsOf ⟨addr, opNum, offPath, state, doneCycle, oracle⟩ names).map (Prod.mk op) ⊆
      OpSpec.writes ⟨addr, opNum, offPath, state, doneCycle, oracle⟩ names op := by
    cases oracle <;> simp [fieldsOf, OpSpec.writes, Oracle.writes]
  exact split (List.mem_map_of_mem mem)

theorem along_writes (spec : OpSpec) (op : Handle) : Along names .op op (spec.writes names op) := by
  unfold Along OpSpec.writes Oracle.writes
  cases spec.oracle <;> simp [keyOf, Names.paths, Names.dotted]

/-- The paths to the fields that every op has, but for its pointer to the next one. -/
def ownNames (names : Names) : List String :=
  [names.opAddr, names.opNum, names.opOffPath, names.opState, names.opDoneCycle]

theorem dotted_op_eq : names.dotted .op = ownNames names ++ names.opNext :: oracleNames names :=
  rfl

theorem nodup_opPaths (separated : names.Separated) :
    ((ownNames names ++ names.opNext :: oracleNames names).map Text.segments).Nodup :=
  nodup_paths separated .op

theorem name_mem_of_mem_fieldsOf {spec : OpSpec} {field : String × Slot}
    (mem : field ∈ fieldsOf spec names) : field.1 ∈ ownNames names ++ oracleNames names := by
  have within : (fieldsOf spec names).map Prod.fst ⊆ ownNames names ++ oracleNames names := by
    unfold fieldsOf ownNames
    cases spec.oracle <;> simp [oracleNames]
  exact within (List.mem_map_of_mem mem)

/-- No field of an op is its pointer to the next one. -/
theorem next_notMem_fieldsOf (separated : names.Separated) (spec : OpSpec) :
    ∀ field ∈ fieldsOf spec names, Text.segments field.1 ≠ Text.segments names.opNext := by
  have parted := nodup_opPaths separated
  rw [List.map_append, List.map_cons, List.nodup_middle, ← List.map_append] at parted
  intro field mem same
  have other := List.mem_map_of_mem (f := Text.segments) (name_mem_of_mem_fieldsOf mem)
  exact (List.nodup_cons.mp parted).1 (same ▸ other)

/-- What the oracle knows is not its pointer to the next op either. -/
theorem next_notMem_oracleNames (separated : names.Separated) {dotted : String}
    (listed : dotted ∈ oracleNames names) : Text.segments dotted ≠ Text.segments names.opNext := by
  have parted := nodup_opPaths separated
  rw [List.map_append, List.map_cons] at parted
  intro same
  have fresh := (List.nodup_cons.mp (List.nodup_append.mp parted).2.1).1
  exact fresh (same ▸ List.mem_map_of_mem listed)

/-- An op without an oracle is written along none of the oracle's paths. -/
theorem oracle_notMem_writes (separated : names.Separated) {spec : OpSpec}
    (without : spec.oracle = none) (op : Handle) {dotted : String}
    (listed : dotted ∈ oracleNames names) :
    (op, Text.segments dotted) ∉ (spec.writes names op).map keyOf := by
  have parted := nodup_opPaths separated
  rw [List.append_cons, List.map_append] at parted
  have apart := (List.nodup_append.mp parted).2.2
  intro mem
  have written : Text.segments dotted ∈
      (ownNames names ++ [names.opNext]).map Text.segments := by
    simpa [OpSpec.writes, ownNames, without, keyOf] using mem
  exact apart _ written _ (List.mem_map_of_mem listed) rfl

end Writes

/-! ## What the structures hold -/

/-- The structure of the recovery holds what it was last filled with. -/
structure RecoveryHeld (names : Names) (recovery : Handle) (redirect : Option Redirect)
    (snapshot : Snapshot) (places : List Place) : Prop where
  home : places[recovery.index]? = some ⟨.recovery, recovery, []⟩
  op : snapshot.Holds recovery (Text.segments names.recoveryOp) (.link (redirect.bind Redirect.op))
  fetchAddr : ∀ filled, redirect = some filled →
    snapshot.Holds recovery (Text.segments names.recoveryFetchAddr) (.scalar filled.fetchAddr.word)
  cycle : ∀ filled, redirect = some filled →
    snapshot.Holds recovery (Text.segments names.recoveryCycle) (.scalar filled.cycle)
  unfilled : redirect = none → ∀ dotted ∈ [names.recoveryFetchAddr, names.recoveryCycle],
    ∀ slot, ¬snapshot.Holds recovery (Text.segments dotted) slot

/-- The window holds the list of the given ops. -/
structure ListHeld (names : Names) (window : Handle) (ops : List (Handle × OpSpec))
    (snapshot : Snapshot) (places : List Place) : Prop where
  home : places[window.index]? = some ⟨.window, window, []⟩
  opHomes : ∀ op ∈ ops.map Prod.fst, places[op.index]? = some ⟨.op, op, []⟩
  distinct : (ops.map Prod.fst).Nodup
  head : snapshot.Holds window (Text.segments names.windowHead) (.link (ops.map Prod.fst).head?)
  fields : ∀ op ∈ ops, ∀ field ∈ fieldsOf op.2 names,
    snapshot.Holds op.1 (Text.segments field.1) field.2
  bare : ∀ op ∈ ops, op.2.oracle = none → ∀ dotted ∈ oracleNames names, ∀ slot,
    ¬snapshot.Holds op.1 (Text.segments dotted) slot
  links : ∀ place op, (ops.map Prod.fst)[place]? = some op →
    snapshot.Holds op (Text.segments names.opNext) (.link (ops.map Prod.fst)[place + 1]?)

section Held

variable {names : Names} {snapshot after : Snapshot} {places later : List Place}
  {keys : List (Handle × List String)} {window recovery : Handle}
  {ops : List (Handle × OpSpec)} {redirect : Option Redirect}

theorem admits_of_home {handle : Handle} {part : Part} {dotted : String}
    (home : places[handle.index]? = some ⟨part, handle, []⟩) (listed : dotted ∈ names.dotted part) :
    Admits names places (handle, Text.segments dotted) :=
  ⟨part, home, List.mem_map_of_mem listed⟩

/-- What a structure holds at a path stays, unless it is written there. -/
theorem holds_iff_of_edited (edited : Edited names snapshot places keys after later)
    {handle : Handle} {part : Part} {dotted : String} {slot : Slot}
    (home : places[handle.index]? = some ⟨part, handle, []⟩) (listed : dotted ∈ names.dotted part)
    (apart : (handle, Text.segments dotted) ∉ keys) :
    after.Holds handle (Text.segments dotted) slot ↔
      snapshot.Holds handle (Text.segments dotted) slot :=
  edited.kept (admits_of_home home listed) apart

/-- Structures of different kinds are different. -/
theorem ne_of_homes {first second : Handle} {part other : Part}
    (home : places[first.index]? = some ⟨part, first, []⟩)
    (otherHome : places[second.index]? = some ⟨other, second, []⟩) (differ : part ≠ other) :
    first ≠ second := by
  rintro rfl
  rw [home] at otherHome
  exact differ (Place.mk.inj (Option.some.inj otherHome)).1

theorem RecoveryHeld.edit (held : RecoveryHeld names recovery redirect snapshot places)
    (edited : Edited names snapshot places keys after later)
    (apart : ∀ path, (recovery, path) ∉ keys) :
    RecoveryHeld names recovery redirect after later := by
  have kept {dotted : String} (listed : dotted ∈ names.dotted .recovery) {slot : Slot} :
      after.Holds recovery (Text.segments dotted) slot ↔
        snapshot.Holds recovery (Text.segments dotted) slot :=
    holds_iff_of_edited edited held.home listed (apart _)
  refine ⟨Snapshot.getElem?_mono edited.grows held.home, ?_, ?_, ?_, ?_⟩
  · exact (kept (by simp [Names.dotted])).mpr held.op
  · intro filled same
    exact (kept (by simp [Names.dotted])).mpr (held.fetchAddr filled same)
  · intro filled same
    exact (kept (by simp [Names.dotted])).mpr (held.cycle filled same)
  · intro none dotted listed slot
    rw [kept (List.mem_cons_of_mem _ listed)]
    exact held.unfilled none dotted listed slot

theorem ListHeld.opHome (held : ListHeld names window ops snapshot places)
    {op : Handle × OpSpec} (mem : op ∈ ops) : places[op.1.index]? = some ⟨.op, op.1, []⟩ :=
  held.opHomes op.1 (List.mem_map_of_mem mem)

theorem field_mem_dotted {spec : OpSpec} {field : String × Slot}
    (mem : field ∈ fieldsOf spec names) : field.1 ∈ names.dotted .op := by
  rw [dotted_op_eq, List.mem_append, List.mem_cons]
  rcases List.mem_append.mp (name_mem_of_mem_fieldsOf mem) with own | oracle
  · exact .inl own
  · exact .inr (.inr oracle)

theorem oracle_mem_dotted {dotted : String} (listed : dotted ∈ oracleNames names) :
    dotted ∈ names.dotted .op := by
  rw [dotted_op_eq]
  exact List.mem_append_right _ (List.mem_cons_of_mem _ listed)

theorem next_mem_dotted : names.opNext ∈ names.dotted .op := by
  rw [dotted_op_eq]
  exact List.mem_append_right _ List.mem_cons_self

theorem head_mem_dotted : names.windowHead ∈ names.dotted .window :=
  List.mem_cons_self

theorem ListHeld.edit (held : ListHeld names window ops snapshot places)
    (edited : Edited names snapshot places keys after later)
    (headApart : (window, Text.segments names.windowHead) ∉ keys)
    (apart : ∀ op ∈ ops.map Prod.fst, ∀ path, (op, path) ∉ keys) :
    ListHeld names window ops after later where
  home := Snapshot.getElem?_mono edited.grows held.home
  opHomes op mem := Snapshot.getElem?_mono edited.grows (held.opHomes op mem)
  distinct := held.distinct
  head := (holds_iff_of_edited edited held.home head_mem_dotted headApart).mpr held.head
  fields op mem field listed :=
    (holds_iff_of_edited edited (held.opHome mem) (field_mem_dotted listed)
      (apart op.1 (List.mem_map_of_mem mem) _)).mpr (held.fields op mem field listed)
  bare op mem without dotted listed slot := by
    rw [holds_iff_of_edited edited (held.opHome mem) (oracle_mem_dotted listed)
      (apart op.1 (List.mem_map_of_mem mem) _)]
    exact held.bare op mem without dotted listed slot
  links place op here := by
    have mem := List.mem_of_getElem? here
    exact (holds_iff_of_edited edited (held.opHomes op mem) next_mem_dotted
      (apart op mem _)).mpr (held.links place op here)

/-! ## Pushing an op -/

/-- The write that links an op behind the last of the given ones. -/
def linkTo (names : Names) (window op : Handle) : Option Handle → Handle × String × Slot
  | some youngest => (youngest, names.opNext, .ref op)
  | none => (window, names.windowHead, .ref op)

/-- The writes by which an op is pushed behind the given ones. -/
def pushWrites (names : Names) (window : Handle) (ops : List Handle) (op : Handle)
    (spec : OpSpec) : List (Handle × String × Slot) :=
  spec.writes names op ++ [linkTo names window op ops.getLast?]

/-- An older structure is written along one path at most, which is the one to the new op. -/
theorem eq_of_mem_pushWrites {spec : OpSpec} {op handle : Handle} {handles : List Handle}
    {path : List String} (older : handle ≠ op)
    (mem : (handle, path) ∈ (pushWrites names window handles op spec).map keyOf) :
    (handle, path) = keyOf (linkTo names window op handles.getLast?) := by
  rw [pushWrites, List.map_append, List.mem_append] at mem
  rcases mem with mem | mem
  · obtain ⟨_, -, same⟩ := (along_writes spec op).exists_path mem
    exact absurd (Prod.mk.inj same).1 older
  · simpa using mem

/-- The window is written only where it holds no op. -/
theorem ListHeld.getLast?_of_mem_window (held : ListHeld names window ops snapshot places)
    {spec : OpSpec} {op : Handle} {path : List String} (older : window ≠ op)
    (mem : (window, path) ∈ (pushWrites names window (ops.map Prod.fst) op spec).map keyOf) :
    (ops.map Prod.fst).getLast? = none := by
  have same := eq_of_mem_pushWrites older mem
  cases ends : (ops.map Prod.fst).getLast? with
  | none => rfl
  | some youngest =>
    rw [ends] at same
    have home := held.opHomes youngest (List.mem_of_getLast? ends)
    exact absurd (Prod.mk.inj same).1 (ne_of_homes held.home home (by simp))

/-- Of the older ops the youngest is written, and only its link. -/
theorem ListHeld.getLast?_of_mem_op (held : ListHeld names window ops snapshot places)
    {spec : OpSpec} {op handle : Handle} {path : List String} (older : handle ≠ op)
    (home : places[handle.index]? = some ⟨.op, handle, []⟩)
    (mem : (handle, path) ∈ (pushWrites names window (ops.map Prod.fst) op spec).map keyOf) :
    (ops.map Prod.fst).getLast? = some handle ∧ path = Text.segments names.opNext := by
  have same := eq_of_mem_pushWrites older mem
  cases ends : (ops.map Prod.fst).getLast? with
  | none =>
    rw [ends] at same
    exact absurd (Prod.mk.inj same).1 (ne_of_homes home held.home (by simp))
  | some youngest =>
    rw [ends] at same
    obtain ⟨rfl, link⟩ := Prod.mk.inj same
    exact ⟨rfl, link⟩

section Pushed

variable {spec : OpSpec} {op : Handle}
  (held : ListHeld names window ops snapshot places)
  (edited : Edited names snapshot places
    ((pushWrites names window (ops.map Prod.fst) op spec).map keyOf) after later)
  (written : ∀ write ∈ pushWrites names window (ops.map Prod.fst) op spec,
    after.Holds write.1 (Text.segments write.2.1) write.2.2)
  (older : ∀ {handle place}, places[handle.index]? = some place → handle ≠ op)

include held edited older

theorem ListHeld.bare_pushed (separated : names.Separated)
    (blank : spec.oracle = none → ∀ dotted ∈ oracleNames names, ∀ slot,
      ¬after.Holds op (Text.segments dotted) slot) :
    ∀ pushed ∈ ops ++ [(op, spec)], pushed.2.oracle = none → ∀ dotted ∈ oracleNames names,
      ∀ slot, ¬after.Holds pushed.1 (Text.segments dotted) slot := by
  intro pushed mem without dotted listed slot
  rcases List.mem_append.mp mem with mem | mem
  · have home := held.opHome mem
    have apart : (pushed.1, Text.segments dotted) ∉
        (pushWrites names window (ops.map Prod.fst) op spec).map keyOf := fun again =>
      next_notMem_oracleNames separated listed (held.getLast?_of_mem_op (older home) home again).2
    rw [holds_iff_of_edited edited home (oracle_mem_dotted listed) apart]
    exact held.bare pushed mem without dotted listed slot
  · obtain rfl := List.mem_singleton.mp mem
    exact blank without dotted listed slot

include written

theorem ListHeld.head_pushed : after.Holds window (Text.segments names.windowHead)
    (.link ((ops ++ [(op, spec)]).map Prod.fst).head?) := by
  have link := written (linkTo names window op (ops.map Prod.fst).getLast?) (by simp [pushWrites])
  cases ends : (ops.map Prod.fst).getLast? with
  | none =>
    obtain rfl : ops = [] := by simpa using ends
    exact link
  | some youngest =>
    have apart : (window, Text.segments names.windowHead) ∉
        (pushWrites names window (ops.map Prod.fst) op spec).map keyOf := by
      intro again
      rw [held.getLast?_of_mem_window (older held.home) again] at ends
      cases ends
    have nonempty : ops.map Prod.fst ≠ [] := List.ne_nil_of_mem (List.mem_of_getLast? ends)
    rw [List.map_append, List.head?_append_of_ne_nil _ nonempty]
    exact (holds_iff_of_edited edited held.home head_mem_dotted apart).mpr held.head

theorem ListHeld.fields_pushed (separated : names.Separated) :
    ∀ pushed ∈ ops ++ [(op, spec)], ∀ field ∈ fieldsOf pushed.2 names,
      after.Holds pushed.1 (Text.segments field.1) field.2 := by
  intro pushed mem field listed
  rcases List.mem_append.mp mem with mem | mem
  · have home := held.opHome mem
    refine (holds_iff_of_edited edited home (field_mem_dotted listed) ?_).mpr
      (held.fields pushed mem field listed)
    intro again
    exact next_notMem_fieldsOf separated pushed.2 field listed
      (held.getLast?_of_mem_op (older home) home again).2
  · obtain rfl := List.mem_singleton.mp mem
    exact written _ (List.mem_append_left _ (mem_writes_of_mem_fieldsOf op listed))

theorem ListHeld.links_pushed (place : Nat) (linked : Handle)
    (here : ((ops ++ [(op, spec)]).map Prod.fst)[place]? = some linked) :
    after.Holds linked (Text.segments names.opNext)
      (.link ((ops ++ [(op, spec)]).map Prod.fst)[place + 1]?) := by
  have link := written (linkTo names window op (ops.map Prod.fst).getLast?) (by simp [pushWrites])
  rw [List.map_append, List.map_singleton] at here ⊢
  rcases Nat.lt_trichotomy place (ops.map Prod.fst).length with inside | rfl | beyond
  · rw [List.getElem?_append_left inside] at here
    have home := held.opHomes linked (List.mem_of_getElem? here)
    by_cases last : place + 1 = (ops.map Prod.fst).length
    · -- The op that was the youngest is linked to the new one.
      have ends : (ops.map Prod.fst).getLast? = some linked := by
        rw [List.getLast?_eq_getElem?, ← last]
        exact here
      rw [ends] at link
      rw [last, List.getElem?_concat_length]
      exact link
    · have further : place + 1 < (ops.map Prod.fst).length := by omega
      rw [List.getElem?_append_left further]
      refine (holds_iff_of_edited edited home next_mem_dotted ?_).mpr
        (held.links place linked here)
      intro again
      have ends := (held.getLast?_of_mem_op (older home) home again).1
      rw [List.getLast?_eq_getElem?, ← here] at ends
      have same := (List.getElem?_inj (by omega) held.distinct).mp ends
      omega
  · rw [List.getElem?_concat_length] at here
    obtain rfl := Option.some.inj here
    rw [List.getElem?_eq_none (by simp)]
    exact written _ (List.mem_append_left _ (next_mem_writes spec op))
  · have past : (ops.map Prod.fst ++ [op]).length ≤ place := by
      rw [List.length_append, List.length_singleton]
      omega
    rw [List.getElem?_eq_none past] at here
    cases here

/-- The list goes on with the new op. -/
theorem ListHeld.pushed (separated : names.Separated)
    (home : later[op.index]? = some ⟨.op, op, []⟩)
    (blank : spec.oracle = none → ∀ dotted ∈ oracleNames names, ∀ slot,
      ¬after.Holds op (Text.segments dotted) slot) :
    ListHeld names window (ops ++ [(op, spec)]) after later where
  home := Snapshot.getElem?_mono edited.grows held.home
  opHomes other mem := by
    rw [List.map_append, List.mem_append] at mem
    rcases mem with mem | mem
    · exact Snapshot.getElem?_mono edited.grows (held.opHomes other mem)
    · obtain rfl := List.mem_singleton.mp mem
      exact home
  distinct := by
    rw [List.map_append, List.map_singleton, List.nodup_append]
    refine ⟨held.distinct, List.nodup_singleton _, ?_⟩
    intro other mem new newMem
    obtain rfl := List.mem_singleton.mp newMem
    exact older (held.opHomes other mem)
  head := held.head_pushed edited written older
  fields := held.fields_pushed edited written older separated
  bare := held.bare_pushed edited older separated blank
  links := held.links_pushed edited written older

end Pushed

/-- The link to a new op is written below the window or below an op of the list. -/
theorem ListHeld.admits_link (held : ListHeld names window ops snapshot places) (op : Handle) :
    let link := linkTo names window op (ops.map Prod.fst).getLast?
    Admits names places (keyOf link) ∧ (link.1 = window ∨ link.1 ∈ ops.map Prod.fst) := by
  cases ends : (ops.map Prod.fst).getLast? with
  | none => exact ⟨admits_of_home held.home (by simp [Names.dotted, linkTo]), .inl rfl⟩
  | some youngest =>
    have mem := List.mem_of_getLast? ends
    exact ⟨admits_of_home (held.opHomes youngest mem) (by simp [Names.dotted, linkTo]), .inr mem⟩

/-- The new op is written along its own paths, and one older structure along one path. -/
theorem ListHeld.admits_pushWrites (held : ListHeld names window ops snapshot places)
    {op : Handle} (home : places[op.index]? = some ⟨.op, op, []⟩) (spec : OpSpec) :
    ∀ write ∈ pushWrites names window (ops.map Prod.fst) op spec,
      Admits names places (keyOf write) := by
  intro write mem
  rcases List.mem_append.mp mem with own | link
  · exact (along_writes spec op).admits home write own
  · obtain rfl := List.mem_singleton.mp link
    exact (held.admits_link op).1

theorem nodup_pushWrites (separated : names.Separated) {op : Handle} {handles : List Handle}
    (fresh : (linkTo names window op handles.getLast?).1 ≠ op) (spec : OpSpec) :
    ((pushWrites names window handles op spec).map keyOf).Nodup := by
  rw [pushWrites, List.map_append, List.map_singleton, List.nodup_append]
  refine ⟨(along_writes spec op).nodup separated, List.nodup_singleton _, ?_⟩
  intro key mem other otherMem same
  obtain ⟨_, -, rfl⟩ := (along_writes spec op).exists_path mem
  obtain rfl := List.mem_singleton.mp otherMem
  exact fresh (congrArg Prod.fst same).symm

theorem oracle_notMem_pushWrites (separated : names.Separated) {spec : OpSpec}
    (without : spec.oracle = none) {op : Handle} {handles : List Handle}
    (fresh : (linkTo names window op handles.getLast?).1 ≠ op) {dotted : String}
    (listed : dotted ∈ oracleNames names) :
    (op, Text.segments dotted) ∉ (pushWrites names window handles op spec).map keyOf := by
  rw [pushWrites, List.map_append, List.map_singleton, List.mem_append, List.mem_singleton, not_or]
  refine ⟨oracle_notMem_writes separated without op listed, ?_⟩
  intro same
  exact fresh (congrArg Prod.fst same).symm

/-- A push writes below the new op, and below the window or an older op. -/
theorem ListHeld.of_mem_pushWrites (held : ListHeld names window ops snapshot places)
    {op : Handle} {spec : OpSpec} {key : Handle × List String}
    (mem : key ∈ (pushWrites names window (ops.map Prod.fst) op spec).map keyOf) :
    key.1 = op ∨ key.1 = window ∨ key.1 ∈ ops.map Prod.fst := by
  rw [pushWrites, List.map_append, List.mem_append] at mem
  rcases mem with own | link
  · obtain ⟨_, -, rfl⟩ := (along_writes spec op).exists_path own
    exact .inl rfl
  · obtain rfl := List.mem_singleton.mp link
    exact .inr (held.admits_link op).2

/-- An op that is pushed stands at the end of the list. -/
theorem ListHeld.push (separated : names.Separated) (housed : Housed names snapshot places)
    (held : ListHeld names window ops snapshot places) (spec : OpSpec) :
    ∃ after later keys,
      (snapshot.alloc Table.empty).2.setPaths
        (pushWrites names window (ops.map Prod.fst) ⟨snapshot.size⟩ spec) = (.ok (), after) ∧
      after.globals = snapshot.globals ∧ Edited names snapshot places keys after later ∧
      ListHeld names window (ops ++ [(⟨snapshot.size⟩, spec)]) after later ∧
      ∀ key ∈ keys, key.1 = ⟨snapshot.size⟩ ∨ key.1 = window ∨ key.1 ∈ ops.map Prod.fst := by
  generalize isFresh : (⟨snapshot.size⟩ : Handle) = op
  let grown := places ++ [⟨.op, op, []⟩]
  have made : Edited names snapshot places [] (snapshot.alloc Table.empty).2 grown :=
    housed.edited_alloc separated fun _ _ _ _ => Table.get?_empty _
  have heldStill : ListHeld names window ops (snapshot.alloc Table.empty).2 grown :=
    held.edit made (by simp) (by simp)
  have home : grown[op.index]? = some ⟨.op, op, []⟩ := by
    have last : op.index = places.length := by rw [housed.size, ← isFresh]
    rw [last, List.getElem?_concat_length]
  have empty : ∀ name, (snapshot.alloc Table.empty).2.slot? op name = none := by
    intro name
    rw [Snapshot.slot?_alloc, if_pos (congrArg Handle.index isFresh.symm), Table.get?_empty]
  have older : ∀ {handle place}, places[handle.index]? = some place → handle ≠ op := by
    rintro handle place stands rfl
    rw [← isFresh] at stands
    exact absurd (housed.inside stands) (Nat.lt_irrefl _)
  have apart : (linkTo names window op (ops.map Prod.fst).getLast?).1 ≠ op := by
    obtain ⟨_, stands, -⟩ := (held.admits_link op).1
    exact older stands
  obtain ⟨after, later, done, edited, globals, written⟩ := made.housed.setPaths separated
    (heldStill.admits_pushWrites home spec) (nodup_pushWrites separated apart spec)
  have blank : spec.oracle = none → ∀ dotted ∈ oracleNames names, ∀ slot,
      ¬after.Holds op (Text.segments dotted) slot := by
    intro without dotted listed slot
    rw [holds_iff_of_edited edited home (oracle_mem_dotted listed)
      (oracle_notMem_pushWrites separated without apart listed)]
    exact Snapshot.not_holds_of_empty empty _ slot
  have whole : Edited names snapshot places
      ((pushWrites names window (ops.map Prod.fst) op spec).map keyOf) after later :=
    made.trans edited
  have homeLater := Snapshot.getElem?_mono edited.grows home
  exact ⟨after, later, _, done, globals, whole,
    held.pushed whole written older separated homeLater blank, fun _ => held.of_mem_pushWrites⟩

/-! ## Filling the recovery -/

/-- The writes that fill the recovery. -/
def redirectWrites (names : Names) (recovery : Handle) (filled : Redirect) :
    List (Handle × String × Slot) :=
  [(recovery, names.recoveryOp, .link filled.op),
   (recovery, names.recoveryFetchAddr, .scalar filled.fetchAddr.word),
   (recovery, names.recoveryCycle, .scalar filled.cycle)]

theorem RecoveryHeld.fill (separated : names.Separated) (housed : Housed names snapshot places)
    (held : RecoveryHeld names recovery redirect snapshot places) (filled : Redirect) :
    ∃ after later keys,
      snapshot.setPaths (redirectWrites names recovery filled) = (.ok (), after) ∧
      after.globals = snapshot.globals ∧ Edited names snapshot places keys after later ∧
      RecoveryHeld names recovery (some filled) after later ∧ ∀ key ∈ keys, key.1 = recovery := by
  have along : Along names .recovery recovery (redirectWrites names recovery filled) :=
    List.Sublist.refl _
  obtain ⟨after, later, done, edited, globals, written⟩ :=
    housed.setPaths separated (along.admits held.home) (along.nodup separated)
  have op := written (recovery, names.recoveryOp, .link filled.op) (by simp [redirectWrites])
  have fetchAddr := written (recovery, names.recoveryFetchAddr, .scalar filled.fetchAddr.word)
    (by simp [redirectWrites])
  have cycle := written (recovery, names.recoveryCycle, .scalar filled.cycle)
    (by simp [redirectWrites])
  refine ⟨after, later, _, done, globals, edited, ?_, ?_⟩
  · refine ⟨Snapshot.getElem?_mono edited.grows held.home, op, ?_, ?_, by simp⟩
    · rintro _ ⟨⟩
      exact fetchAddr
    · rintro _ ⟨⟩
      exact cycle
  · intro key mem
    obtain ⟨_, -, rfl⟩ := along.exists_path mem
    rfl

/-! ## Globals and the confidence table -/

/-- The counters of a confidence table stand in its fields, each under its place. -/
def TableHeld (counters : List UInt64) (table : Handle) (snapshot : Snapshot)
    (places : List Place) : Prop :=
  (∃ place, places[table.index]? = some place ∧ place.part = .table) ∧
    ∀ place, snapshot.slot? table (Text.decimal place) = counters[place]?.map .scalar

/-- The symbols name the structures and hold what was last asked for. -/
structure GlobalsHeld (names : Names) (window recovery : Handle) (cycle : UInt64)
    (currentOp : Option Handle) (counters : Option (List UInt64)) (snapshot : Snapshot)
    (places : List Place) : Prop where
  window : snapshot.globals.get? names.window = some (.ref window)
  recovery : snapshot.globals.get? names.recoveryInfo = some (.ref recovery)
  cycle : snapshot.globals.get? names.cycleCount = some (.scalar cycle)
  currentOp : snapshot.globals.get? names.currentOp = currentOp.map .ref
  noTable : counters = none → snapshot.globals.get? names.confCounters = none
  table : ∀ filled, counters = some filled → ∃ table,
    snapshot.globals.get? names.confCounters = some (.ref table) ∧
      TableHeld filled table snapshot places

theorem TableHeld.edit {counters : List UInt64} {table : Handle}
    (held : TableHeld counters table snapshot places)
    (edited : Edited names snapshot places keys after later) :
    TableHeld counters table after later := by
  obtain ⟨⟨place, stands, isTable⟩, fields⟩ := held
  refine ⟨⟨place, Snapshot.getElem?_mono edited.grows stands, isTable⟩, ?_⟩
  intro index
  rw [edited.tables stands isTable, fields]

theorem GlobalsHeld.edit {cycle : UInt64} {currentOp : Option Handle}
    {counters : Option (List UInt64)}
    (held : GlobalsHeld names window recovery cycle currentOp counters snapshot places)
    (edited : Edited names snapshot places keys after later)
    (same : after.globals = snapshot.globals) :
    GlobalsHeld names window recovery cycle currentOp counters after later := by
  obtain ⟨window, recovery, cycle, currentOp, noTable, table⟩ := held
  rw [← same] at window recovery cycle currentOp noTable table
  refine ⟨window, recovery, cycle, currentOp, noTable, ?_⟩
  intro filled asked
  obtain ⟨handle, named, held⟩ := table filled asked
  exact ⟨handle, named, held.edit edited⟩

theorem get?_foldl_insert_of_notMem {entries : List (String × Slot)} {name : String}
    (absent : name ∉ entries.map Prod.fst) (table : Fields) :
    (entries.foldl (fun table entry => table.insert entry.1 entry.2) table).get? name =
      table.get? name := by
  induction entries generalizing table with
  | nil => rfl
  | cons entry rest ih =>
    rw [List.map_cons, List.mem_cons, not_or] at absent
    rw [List.foldl_cons, ih absent.2, Table.get?_insert, if_neg absent.1]

/-- Of entries with distinct names each is in the table. -/
theorem get?_foldl_insert_of_mem {entries : List (String × Slot)}
    (distinct : (entries.map Prod.fst).Nodup) {entry : String × Slot} (mem : entry ∈ entries)
    (table : Fields) :
    (entries.foldl (fun table entry => table.insert entry.1 entry.2) table).get? entry.1 =
      some entry.2 := by
  induction entries generalizing table with
  | nil => cases mem
  | cons first rest ih =>
    obtain ⟨apart, others⟩ := List.nodup_cons.mp distinct
    rw [List.foldl_cons]
    rcases List.mem_cons.mp mem with rfl | later
    · rw [get?_foldl_insert_of_notMem apart, Table.get?_insert, if_pos rfl]
    · exact ih others later _

theorem get?_confTable (counters : List UInt64) (place : Nat) :
    (confTable counters).get? (Text.decimal place) = counters[place]?.map .scalar := by
  have names : (counters.zipIdx.map fun entry => (Text.decimal entry.2, Slot.scalar entry.1)).map
      Prod.fst = (List.range' 0 counters.length).map Text.decimal := by
    rw [List.map_map, ← List.zipIdx_map_snd 0 counters, List.map_map]
    rfl
  cases here : counters[place]? with
  | some word =>
    have places : (List.range' 0 counters.length).Nodup := List.nodup_range' 1
    have distinct : ((List.range' 0 counters.length).map Text.decimal).Nodup :=
      places.map fun _ _ => Text.decimal_inj
    have mem : (word, place) ∈ counters.zipIdx := List.mem_zipIdx_iff_getElem?.mpr here
    rw [← names] at distinct
    exact get?_foldl_insert_of_mem distinct (List.mem_map_of_mem mem) Table.empty
  | none =>
    have beyond : counters.length ≤ place := List.getElem?_eq_none_iff.mp here
    have absent : Text.decimal place ∉ (List.range' 0 counters.length).map Text.decimal := by
      intro mem
      obtain ⟨other, within, same⟩ := List.mem_map.mp mem
      obtain rfl := Text.decimal_inj same
      rw [List.mem_range'_1] at within
      omega
    rw [← names] at absent
    exact (get?_foldl_insert_of_notMem absent Table.empty).trans (Table.get?_empty _)

end Held

/-! ## Setting a symbol -/

section Symbols

variable {names : Names} {places : List Place}

/-- A new global leaves the objects as they are. -/
theorem edited_setGlobal {snapshot : Snapshot} (housed : Housed names snapshot places)
    (name : String) (slot : Slot) :
    Edited names snapshot places [] (snapshot.setGlobal name slot) places := by
  have grows : Snapshot.Grows snapshot (snapshot.setGlobal name slot) := fun _ _ _ held => held
  have shrinks : Snapshot.Grows (snapshot.setGlobal name slot) snapshot := fun _ _ _ held => held
  exact ⟨⟨housed.size, housed.inner⟩, List.prefix_refl _,
    fun _ _ => ⟨shrinks.holds, grows.holds⟩, fun _ _ _ => rfl⟩

/-- The symbols that a layout sets. -/
inductive Symbol where
  | currentOp
  | window
  | cycleCount
  | recoveryInfo
  | confCounters
deriving DecidableEq

/-- The name of a symbol. -/
def Symbol.name (names : Names) : Symbol → String
  | .currentOp => names.currentOp
  | .window => names.window
  | .cycleCount => names.cycleCount
  | .recoveryInfo => names.recoveryInfo
  | .confCounters => names.confCounters

theorem Symbol.name_inj (separated : names.Separated) {symbol other : Symbol}
    (same : symbol.name names = other.name names) : symbol = other := by
  let place : Symbol → Nat := fun symbol =>
    match symbol with
    | .currentOp => 0
    | .window => 1
    | .cycleCount => 2
    | .recoveryInfo => 3
    | .confCounters => 4
  have stands : ∀ symbol, names.symbols[place symbol]? = some (symbol.name names) := by
    intro symbol
    cases symbol <;> rfl
  have inside := (List.getElem?_eq_some_iff.mp (stands symbol)).1
  have same_place : place symbol = place other := by
    refine (List.getElem?_inj inside separated.symbols).mp ?_
    rw [stands, stands, same]
  cases symbol <;> cases other <;> first | rfl | cases same_place

/-- A symbol is given a value without a change to the other symbols. -/
theorem get?_setGlobal (separated : names.Separated) (snapshot : Snapshot) (slot : Slot)
    (symbol other : Symbol) :
    (snapshot.setGlobal (symbol.name names) slot).globals.get? (other.name names) =
      if other = symbol then some slot else snapshot.globals.get? (other.name names) := by
  rw [Snapshot.setGlobal, Table.get?_insert]
  by_cases same : other = symbol
  · rw [same, if_pos rfl, if_pos rfl]
  · rw [if_neg same, if_neg fun again => same (Symbol.name_inj separated again)]

section Globals

variable {snapshot : Snapshot} {window recovery : Handle} {cycle : UInt64}
  {currentOp : Option Handle} {counters : Option (List UInt64)} (separated : names.Separated)
  (housed : Housed names snapshot places)
  (held : GlobalsHeld names window recovery cycle currentOp counters snapshot places)

include separated housed held

theorem GlobalsHeld.setCycle (cycle : UInt64) :
    GlobalsHeld names window recovery cycle currentOp counters
      (snapshot.setGlobal names.cycleCount (.scalar cycle)) places := by
  have got := get?_setGlobal separated snapshot (.scalar cycle) .cycleCount
  refine ⟨(got .window).trans held.window, (got .recoveryInfo).trans held.recovery,
    got .cycleCount, (got .currentOp).trans held.currentOp, ?_, ?_⟩
  · intro none
    exact (got .confCounters).trans (held.noTable none)
  · intro filled asked
    obtain ⟨table, named, fields⟩ := held.table filled asked
    exact ⟨table, (got .confCounters).trans named, fields.edit (edited_setGlobal housed _ _)⟩

theorem GlobalsHeld.setCurrentOp (op : Handle) :
    GlobalsHeld names window recovery cycle (some op) counters
      (snapshot.setGlobal names.currentOp (.ref op)) places := by
  have got := get?_setGlobal separated snapshot (.ref op) .currentOp
  refine ⟨(got .window).trans held.window, (got .recoveryInfo).trans held.recovery,
    (got .cycleCount).trans held.cycle, got .currentOp, ?_, ?_⟩
  · intro none
    exact (got .confCounters).trans (held.noTable none)
  · intro filled asked
    obtain ⟨table, named, fields⟩ := held.table filled asked
    exact ⟨table, (got .confCounters).trans named, fields.edit (edited_setGlobal housed _ _)⟩

theorem GlobalsHeld.setTable {table : Handle} {filled : List UInt64}
    (fields : TableHeld filled table snapshot places) :
    GlobalsHeld names window recovery cycle currentOp (some filled)
      (snapshot.setGlobal names.confCounters (.ref table)) places := by
  have got := get?_setGlobal separated snapshot (.ref table) .confCounters
  refine ⟨(got .window).trans held.window, (got .recoveryInfo).trans held.recovery,
    (got .cycleCount).trans held.cycle, (got .currentOp).trans held.currentOp, nofun, ?_⟩
  rintro _ ⟨⟩
  exact ⟨table, got .confCounters, fields.edit (edited_setGlobal housed _ _)⟩

end Globals

end Symbols

end Layout
end Inflight
