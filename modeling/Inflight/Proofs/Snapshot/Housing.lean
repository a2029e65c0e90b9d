import Inflight.Config
import Inflight.Proofs.Snapshot.Holding

/-!
# Objects that belong to one tree each

A layout writes three kinds of structures: the window, the recovery and ops.
Below each of them the configured paths spread out a tree of objects, and a
write along one path makes the objects that it needs.  Each object is given a
place, which says below which structure it stands and behind which segments, and
every reference that some path goes on from leads to the place behind it
(`Snapshot.Housed`).  The places exist for proofs only.

When no path of a structure is a part of another, such a path always ends in a
field that none goes on from.  So a write never fails, is read back, and leaves
all other paths with what they hold, or with nothing
(`Snapshot.Housed.setPaths`), even where paths share objects on their way.
-/

namespace Inflight

set_option autoImplicit false

/-! ## Separated names -/

/-- The kinds of structures that are written field by field.  The fields of a table are given
when it is made. -/
inductive Part where
  | window
  | recovery
  | op
  | table
deriving DecidableEq

namespace Names

variable (names : Names)

/-- The names that are looked up without a structure. -/
def symbols : List String :=
  [names.currentOp, names.window, names.cycleCount, names.recoveryInfo, names.confCounters]

/-- The dotted paths below a structure. -/
def dotted : Part → List String
  | .window => [names.windowHead, names.windowCount, names.rsCount]
  | .recovery => [names.recoveryOp, names.recoveryFetchAddr, names.recoveryCycle]
  | .op => [names.opAddr, names.opNum, names.opOffPath, names.opState, names.opDoneCycle,
      names.opNext, names.opMispred, names.opMisfetch, names.opPredConf, names.opPredConfIndex,
      names.opNpc]
  | .table => []

/-- The paths below a structure, by their segments. -/
def paths (part : Part) : List (List String) :=
  (names.dotted part).map Text.segments

/-- The symbols are distinct, and below each structure no path is equal to another or begins
it. -/
structure Separated : Prop where
  symbols : names.symbols.Nodup
  paths : ∀ part, (names.paths part).Pairwise fun first second =>
    ¬first <+: second ∧ ¬second <+: first

/-- The stock names are separated, though the oracle's fields share an object. -/
theorem separated_stock : Separated {} := by
  refine ⟨by decide +kernel, ?_⟩
  intro part
  cases part <;> decide +kernel

variable {names} {part : Part}

theorem Separated.eq_of_begins (separated : names.Separated) {first second : List String}
    (firstPath : first ∈ names.paths part) (secondPath : second ∈ names.paths part)
    (begins : first <+: second) : first = second := by
  have apart := separated.paths part
  have forward : (names.paths part).Pairwise fun path other => path <+: other → path = other :=
    apart.imp fun differ begins => absurd begins differ.1
  have backward : (names.paths part).Pairwise fun path other => other <+: path → other = path :=
    apart.imp fun differ begins => absurd begins differ.2
  exact forward.forall_of_forall_of_flip (fun _ _ _ => rfl) backward firstPath secondPath begins

/-- No path goes on from the end of another. -/
theorem Separated.not_mem_append (separated : names.Separated) {path rest : List String}
    (listed : path ∈ names.paths part) (more : rest ≠ []) : path ++ rest ∉ names.paths part := by
  intro longer
  have same := separated.eq_of_begins listed longer (List.prefix_append path rest)
  exact more (List.self_eq_append_right.mp same)

end Names

namespace Snapshot

/-! ## Places -/

/-- Where an object stands: below which structure, and behind which segments. -/
structure Place where
  part : Part
  root : Handle
  behind : List String

/-- Each object has a place, and a reference that some path goes on from leads to the place
behind it. -/
structure Housed (names : Names) (snapshot : Snapshot) (places : List Place) : Prop where
  size : places.length = snapshot.size
  inner : ∀ {handle : Handle} {place : Place} {segment : String} {rest : List String} {slot : Slot},
    places[handle.index]? = some place → rest ≠ [] →
      place.behind ++ segment :: rest ∈ names.paths place.part →
        snapshot.slot? handle segment = some slot →
          ∃ target, slot = .ref target ∧
            places[target.index]? = some { place with behind := place.behind ++ [segment] }

section Housed

variable {names : Names} {snapshot : Snapshot} {places : List Place}

theorem Housed.inside (housed : Housed names snapshot places) {handle : Handle} {place : Place}
    (stands : places[handle.index]? = some place) : handle.index < snapshot.size := by
  rw [← housed.size]
  exact (List.getElem?_eq_some_iff.mp stands).1

/-- References along a path lead to the place behind them. -/
theorem Housed.place_of_leads (housed : Housed names snapshot places) {handle owner : Handle}
    {place : Place} {front rest : List String} (leads : snapshot.Leads handle front owner)
    (stands : places[handle.index]? = some place) (more : rest ≠ [])
    (listed : place.behind ++ (front ++ rest) ∈ names.paths place.part) :
    places[owner.index]? = some { place with behind := place.behind ++ front } := by
  induction leads generalizing place with
  | here handle => simpa using stands
  | @next handle target owner segment front held _ ih =>
    obtain ⟨_, same, behind⟩ := housed.inner stands (by simp [more]) listed held
    obtain rfl := Slot.ref.inj same
    have later := ih behind (by simpa using listed)
    simpa using later

/-! ### New objects and new fields -/

theorem getElem?_mono {α : Type} {early late : List α} (grows : early <+: late) {index : Nat}
    {element : α} (stands : early[index]? = some element) : late[index]? = some element := by
  obtain ⟨added, rfl⟩ := grows
  rw [List.getElem?_append_left (List.getElem?_eq_some_iff.mp stands).1]
  exact stands

/-- A new object may stand anywhere, as long as no path goes on from one of its fields. -/
theorem Housed.alloc (housed : Housed names snapshot places) {fields : Fields} {place : Place}
    (free : ∀ segment rest, rest ≠ [] → place.behind ++ segment :: rest ∈ names.paths place.part →
      fields.get? segment = none) :
    Housed names (snapshot.alloc fields).2 (places ++ [place]) where
  size := by
    have size := housed.size
    simp only [Snapshot.size] at size
    simp [Snapshot.alloc, Snapshot.size, size]
  inner := by
    intro handle stood segment rest slot stands more listed held
    rw [slot?_alloc] at held
    split at held
    · next fresh =>
      rw [fresh, ← housed.size, List.getElem?_concat_length] at stands
      obtain rfl := Option.some.inj stands
      rw [free segment rest more listed] at held
      cases held
    · have older := index_lt_of_slot? held
      rw [← housed.size] at older
      rw [List.getElem?_append_left older] at stands
      obtain ⟨target, same, behind⟩ := housed.inner stands more listed held
      exact ⟨target, same, getElem?_mono (List.prefix_append _ _) behind⟩

/-- A field may be given a value when it is a reference to the place behind it, or when no path
goes on from it. -/
theorem Housed.setField (housed : Housed names snapshot places) {owner : Handle} {place : Place}
    {leaf : String} {slot : Slot} (stands : places[owner.index]? = some place)
    (fits : ∀ rest, rest ≠ [] → place.behind ++ leaf :: rest ∈ names.paths place.part →
      ∃ target, slot = .ref target ∧
        places[target.index]? = some { place with behind := place.behind ++ [leaf] }) :
    Housed names (snapshot.setField owner leaf slot) places where
  size := by simpa [Snapshot.setField, Snapshot.size] using housed.size
  inner := by
    intro handle stood segment rest old standsThere more listed held
    rw [slot?_setField (housed.inside stands)] at held
    split at held
    · next here =>
      obtain ⟨rfl, rfl⟩ := here
      rw [stands] at standsThere
      obtain rfl := Option.some.inj standsThere
      obtain rfl := Option.some.inj held
      exact fits rest more listed
    · exact housed.inner standsThere more listed held

/-! ### What writes leave -/

/-- A write may go along a path below a structure. -/
def Admits (names : Names) (places : List Place) (key : Handle × List String) : Prop :=
  ∃ part, places[key.1.index]? = some ⟨part, key.1, []⟩ ∧ key.2 ∈ names.paths part

/-- What writes along some paths leave: what is held at the other paths, and every table. -/
structure Edited (names : Names) (before : Snapshot) (places : List Place)
    (keys : List (Handle × List String)) (after : Snapshot) (later : List Place) : Prop where
  housed : Housed names after later
  grows : places <+: later
  kept : ∀ {key slot}, Admits names places key → key ∉ keys →
    (after.Holds key.1 key.2 slot ↔ before.Holds key.1 key.2 slot)
  tables : ∀ {handle place}, places[handle.index]? = some place → place.part = .table →
    ∀ name, after.slot? handle name = before.slot? handle name

theorem Admits.mono {later : List Place} {key : Handle × List String}
    (admits : Admits names places key) (grows : places <+: later) : Admits names later key := by
  obtain ⟨part, stands, listed⟩ := admits
  exact ⟨part, getElem?_mono grows stands, listed⟩

theorem Edited.refl (housed : Housed names snapshot places) :
    Edited names snapshot places [] snapshot places :=
  ⟨housed, List.prefix_refl _, fun _ _ => Iff.rfl, fun _ _ _ => rfl⟩

theorem Edited.trans {after last : Snapshot} {later final : List Place}
    {keys more : List (Handle × List String)}
    (early : Edited names snapshot places keys after later)
    (late : Edited names after later more last final) :
    Edited names snapshot places (keys ++ more) last final where
  housed := late.housed
  grows := early.grows.trans late.grows
  tables stands isTable name := by
    rw [late.tables (getElem?_mono early.grows stands) isTable, early.tables stands isTable]
  kept := by
    intro key slot admits apart
    rw [List.mem_append, not_or] at apart
    rw [late.kept (admits.mono early.grows) apart.2, early.kept admits apart.1]

/-- A field that is new in an older object refers to a new object without fields, and a path goes
on from it. -/
def Sprouts (names : Names) (before : Snapshot) (places : List Place) (after : Snapshot) : Prop :=
  ∀ {handle : Handle} {place : Place} {name : String} {slot : Slot},
    places[handle.index]? = some place → after.slot? handle name = some slot →
      before.slot? handle name = some slot ∨
        ∃ child rest, slot = .ref child ∧ (∀ name, after.slot? child name = none) ∧ rest ≠ [] ∧
          place.behind ++ name :: rest ∈ names.paths place.part

/-- At the end of a path nothing sprouts. -/
theorem Housed.holds_of_sprouts (separated : names.Separated)
    (housed : Housed names snapshot places) {after : Snapshot}
    (sprouts : Sprouts names snapshot places after) {handle owner : Handle} {place : Place}
    {front : List String} {leaf : String} {slot : Slot} (leads : after.Leads handle front owner)
    (stands : places[handle.index]? = some place)
    (listed : place.behind ++ (front ++ [leaf]) ∈ names.paths place.part)
    (held : after.slot? owner leaf = some slot) :
    snapshot.Leads handle front owner ∧ snapshot.slot? owner leaf = some slot := by
  induction leads generalizing place with
  | here handle =>
    rcases sprouts stands held with old | ⟨_, rest, -, -, more, longer⟩
    · exact ⟨.here handle, old⟩
    · rw [List.append_cons] at longer
      exact absurd longer (separated.not_mem_append listed more)
  | @next handle target owner segment front step leads ih =>
    rcases sprouts stands step with old | ⟨child, _, same, empty, -, -⟩
    · obtain ⟨_, same, behind⟩ := housed.inner stands (by simp) listed old
      obtain rfl := Slot.ref.inj same
      obtain ⟨before, got⟩ := ih behind (by simpa using listed) held
      exact ⟨.next old before, got⟩
    · obtain rfl := Slot.ref.inj same
      exact absurd ⟨front, leaf, owner, rfl, leads, held⟩ (not_holds_of_empty empty _ slot)

/-- New objects change nothing that a path leads to. -/
theorem Edited.of_sprouts (separated : names.Separated) (housed : Housed names snapshot places)
    {after : Snapshot} {later : List Place} (grown : Housed names after later)
    (longer : places <+: later) (grows : Grows snapshot after)
    (sprouts : Sprouts names snapshot places after) :
    Edited names snapshot places [] after later where
  housed := grown
  grows := longer
  kept := by
    rintro ⟨handle, path⟩ slot ⟨part, home, listed⟩ -
    refine ⟨?_, grows.holds⟩
    rintro ⟨front, leaf, owner, rfl, leads, held⟩
    obtain ⟨before, got⟩ := housed.holds_of_sprouts separated sprouts leads home listed held
    exact ⟨front, leaf, owner, rfl, before, got⟩
  tables := by
    intro handle place stands isTable name
    cases held : after.slot? handle name with
    | some slot =>
      rcases sprouts stands held with old | ⟨_, _, -, -, -, listed⟩
      · exact old.symm
      · rw [isTable] at listed
        cases listed
    | none =>
      cases old : snapshot.slot? handle name with
      | none => rfl
      | some slot =>
        rw [grows handle name slot old] at held
        cases held

theorem Housed.edited_alloc (separated : names.Separated) (housed : Housed names snapshot places)
    {fields : Fields} {place : Place}
    (free : ∀ segment rest, rest ≠ [] → place.behind ++ segment :: rest ∈ names.paths place.part →
      fields.get? segment = none) :
    Edited names snapshot places [] (snapshot.alloc fields).2 (places ++ [place]) := by
  refine .of_sprouts separated housed (housed.alloc free) (List.prefix_append _ _)
    (grows_alloc _ _) ?_
  intro handle place name slot stands held
  rw [slot?_alloc, if_neg (Nat.ne_of_lt (housed.inside stands))] at held
  exact .inl held

/-! ### Following a path -/

/-- A segment behind which a path goes on may be given an object where it has none. -/
theorem Housed.edited_sprout (separated : names.Separated) (housed : Housed names snapshot places)
    {handle : Handle} {place : Place} {segment : String} {rest : List String}
    (stands : places[handle.index]? = some place) (more : rest ≠ [])
    (listed : place.behind ++ segment :: rest ∈ names.paths place.part)
    (absent : snapshot.slot? handle segment = none) :
    let child : Handle := ⟨snapshot.size⟩
    let made := (snapshot.alloc Table.empty).2.setField handle segment (.ref child)
    let grown := places ++ [{ place with behind := place.behind ++ [segment] }]
    Edited names snapshot places [] made grown ∧ Grows snapshot made ∧
      made.slot? handle segment = some (.ref child) ∧
      grown[child.index]? = some { place with behind := place.behind ++ [segment] } := by
  intro child made grown
  have inside := housed.inside stands
  have allocated : Housed names (snapshot.alloc Table.empty).2 grown :=
    housed.alloc fun _ _ _ _ => Table.get?_empty _
  have standsStill : grown[handle.index]? = some place :=
    getElem?_mono (List.prefix_append _ _) stands
  have childStands : grown[child.index]? =
      some { place with behind := place.behind ++ [segment] } := by
    show grown[snapshot.size]? = _
    rw [← housed.size, List.getElem?_concat_length]
  have insideStill := allocated.inside standsStill
  have slot (other : Handle) (name : String) : made.slot? other name =
      if other = handle ∧ name = segment then some (.ref child) else
        if other.index = snapshot.size then none else snapshot.slot? other name := by
    rw [slot?_setField insideStill, slot?_alloc, Table.get?_empty]
  have grows : Grows snapshot made := by
    refine (grows_alloc snapshot _).trans (grows_setField insideStill ?_ _)
    rw [slot?_alloc, if_neg (Nat.ne_of_lt inside)]
    exact absent
  have empty : ∀ name, made.slot? child name = none := by
    intro name
    rw [slot, if_neg, if_pos rfl]
    rintro ⟨rfl, -⟩
    exact Nat.lt_irrefl _ inside
  refine ⟨.of_sprouts separated housed ?_ (List.prefix_append _ _) grows ?_, grows, ?_,
    childStands⟩
  · exact allocated.setField standsStill fun _ _ _ => ⟨_, rfl, childStands⟩
  · intro other otherPlace name old standsThere held
    rw [slot] at held
    split at held
    · next here =>
      obtain ⟨rfl, rfl⟩ := here
      obtain rfl := Option.some.inj held
      rw [stands] at standsThere
      obtain rfl := Option.some.inj standsThere
      exact .inr ⟨child, rest, rfl, empty, more, listed⟩
    · rw [if_neg (Nat.ne_of_lt (housed.inside standsThere))] at held
      exact .inl held
  · rw [slot, if_pos ⟨rfl, rfl⟩]

/-- A path can be followed, and where an object is missing it is made. -/
theorem Housed.descend (separated : names.Separated) {handle : Handle} {place : Place}
    {segments rest : List String} (housed : Housed names snapshot places)
    (stands : places[handle.index]? = some place) (more : rest ≠ [])
    (listed : place.behind ++ (segments ++ rest) ∈ names.paths place.part) :
    ∃ owner later grown, snapshot.descend handle segments = (.ok owner, later) ∧
      Edited names snapshot places [] later grown ∧ Grows snapshot later ∧
      later.globals = snapshot.globals ∧ later.Leads handle segments owner := by
  induction segments generalizing snapshot places handle place with
  | nil => exact ⟨handle, snapshot, places, rfl, .refl housed, .refl snapshot, rfl, .here handle⟩
  | cons segment front ih =>
    obtain ⟨fields, object⟩ : ∃ fields, snapshot.objects[handle.index]? = some fields :=
      ⟨_, Array.getElem?_eq_getElem (housed.inside stands)⟩
    have listedOn : (place.behind ++ [segment]) ++ (front ++ rest) ∈ names.paths place.part := by
      simpa using listed
    have onward : front ++ rest ≠ [] := by simp [more]
    have holds : snapshot.slot? handle segment = fields.get? segment := by
      rw [slot?, object, Option.bind_some]
    simp only [Snapshot.descend, Snapshot.object, object]
    cases got : fields.get? segment with
    | some slot =>
      have held := holds.trans got
      obtain ⟨target, rfl, behind⟩ := housed.inner stands onward listed held
      obtain ⟨owner, later, grown, done, edited, grows, globals, leads⟩ :=
        ih housed behind listedOn
      exact ⟨owner, later, grown, done, edited, grows, globals, .next (grows _ _ _ held) leads⟩
    | none =>
      -- The new object stands behind the segment, and the reference to it is set after that.
      obtain ⟨early, growsMade, held, behind⟩ :=
        housed.edited_sprout separated stands onward listed (holds.trans got)
      obtain ⟨owner, later, grown, done, edited, grows, globals, leads⟩ :=
        ih early.housed behind listedOn
      exact ⟨owner, later, grown, done, early.trans edited, growsMade.trans grows, globals,
        .next (grows _ _ _ held) leads⟩

/-! ### Writing along paths -/

section End

variable (separated : names.Separated) (housed : Housed names snapshot places) {owner : Handle}
  {place : Place} {leaf : String} (slot : Slot) (stands : places[owner.index]? = some place)
  (listed : place.behind ++ [leaf] ∈ names.paths place.part)

include separated housed stands listed

/-- A field at the end of a path is not one that a path goes on from. -/
theorem Housed.slot?_setField_of_onward {handle : Handle} {from_ : Place} {segment : String}
    {rest : List String} (standsThere : places[handle.index]? = some from_) (more : rest ≠ [])
    (listedThere : from_.behind ++ segment :: rest ∈ names.paths from_.part) :
    (snapshot.setField owner leaf slot).slot? handle segment = snapshot.slot? handle segment := by
  rw [slot?_setField (housed.inside stands), if_neg]
  rintro ⟨rfl, rfl⟩
  rw [stands] at standsThere
  obtain rfl := Option.some.inj standsThere
  rw [List.append_cons] at listedThere
  exact separated.not_mem_append listed more listedThere

/-- A field at the end of a path is not on the way of any other. -/
theorem Housed.leads_setField_iff {handle last : Handle} {from_ : Place} {front rest : List String}
    (standsThere : places[handle.index]? = some from_) (more : rest ≠ [])
    (listedThere : from_.behind ++ (front ++ rest) ∈ names.paths from_.part) :
    (snapshot.setField owner leaf slot).Leads handle front last ↔
      snapshot.Leads handle front last := by
  induction front generalizing handle from_ with
  | nil =>
    constructor
    · rintro ⟨⟩
      exact .here _
    · rintro ⟨⟩
      exact .here _
  | cons segment front ih =>
    have onward : front ++ rest ≠ [] := by simp [more]
    have listedOn : (from_.behind ++ [segment]) ++ (front ++ rest) ∈ names.paths from_.part := by
      simpa using listedThere
    have same := housed.slot?_setField_of_onward separated slot stands listed standsThere onward
      listedThere
    constructor
    · rintro (_ | ⟨held, leads⟩)
      rw [same] at held
      obtain ⟨_, isTarget, behind⟩ := housed.inner standsThere onward listedThere held
      obtain rfl := Slot.ref.inj isTarget
      exact .next held ((ih behind listedOn).mp leads)
    · rintro (_ | ⟨held, leads⟩)
      obtain ⟨_, isTarget, behind⟩ := housed.inner standsThere onward listedThere held
      obtain rfl := Slot.ref.inj isTarget
      exact .next (same.trans held) ((ih behind listedOn).mpr leads)

end End

/-- A field at the end of a path holds what is written, and no other path goes through it. -/
theorem Housed.edited_setField (separated : names.Separated) (housed : Housed names snapshot places)
    {part : Part} {root owner : Handle} {front : List String} {leaf : String} (slot : Slot)
    (home : places[root.index]? = some ⟨part, root, []⟩)
    (listed : front ++ [leaf] ∈ names.paths part) (leads : snapshot.Leads root front owner) :
    Edited names snapshot places [(root, front ++ [leaf])]
        (snapshot.setField owner leaf slot) places ∧
      (snapshot.setField owner leaf slot).Holds root (front ++ [leaf]) slot := by
  have more : [leaf] ≠ [] := List.cons_ne_nil _ _
  have stands : places[owner.index]? = some ⟨part, root, front⟩ := by
    simpa using housed.place_of_leads leads home more listed
  have inside := housed.inside stands
  -- The field written is the end of its own path and of no other.
  have ends {handle keeper : Handle} {other : Part} {way : List String} {last : String}
      (homeThere : places[handle.index]? = some ⟨other, handle, []⟩)
      (listedThere : way ++ [last] ∈ names.paths other)
      (apart : (handle, way ++ [last]) ≠ (root, front ++ [leaf]))
      (leadsThere : snapshot.Leads handle way keeper) :
      (snapshot.setField owner leaf slot).slot? keeper last = snapshot.slot? keeper last := by
    have standsThere := housed.place_of_leads leadsThere homeThere (List.cons_ne_nil last [])
      listedThere
    rw [slot?_setField inside, if_neg]
    rintro ⟨rfl, rfl⟩
    rw [stands] at standsThere
    obtain ⟨-, rfl, rfl⟩ := Place.mk.inj (Option.some.inj standsThere)
    exact apart rfl
  have leadsIff {handle keeper : Handle} {other : Part} {way : List String} {last : String}
      (homeThere : places[handle.index]? = some ⟨other, handle, []⟩)
      (listedThere : way ++ [last] ∈ names.paths other) :
      (snapshot.setField owner leaf slot).Leads handle way keeper ↔
        snapshot.Leads handle way keeper :=
    housed.leads_setField_iff separated slot stands listed homeThere (List.cons_ne_nil last [])
      listedThere
  refine ⟨⟨housed.setField stands ?_, List.prefix_refl _, ?_, ?_⟩, ?_⟩
  · intro rest onward longer
    rw [List.append_cons] at longer
    exact absurd longer (separated.not_mem_append listed onward)
  · rintro ⟨handle, path⟩ old ⟨other, homeThere, listedThere⟩ apart
    rw [List.mem_singleton] at apart
    constructor
    · rintro ⟨way, last, keeper, rfl, leadsThere, got⟩
      rw [leadsIff homeThere listedThere] at leadsThere
      rw [ends homeThere listedThere apart leadsThere] at got
      exact ⟨way, last, keeper, rfl, leadsThere, got⟩
    · rintro ⟨way, last, keeper, rfl, leadsThere, got⟩
      rw [← ends homeThere listedThere apart leadsThere] at got
      exact ⟨way, last, keeper, rfl, (leadsIff homeThere listedThere).mpr leadsThere, got⟩
  · intro handle place standsThere isTable name
    rw [slot?_setField inside, if_neg]
    rintro ⟨rfl, -⟩
    rw [stands] at standsThere
    obtain rfl := Option.some.inj standsThere
    obtain rfl : part = .table := isTable
    cases listed
  · refine ⟨front, leaf, owner, rfl, (leadsIff home listed).mpr leads, ?_⟩
    rw [slot?_setField inside, if_pos ⟨rfl, rfl⟩]

/-- **A write along a path succeeds.**  What it writes is held there, and the other paths hold what
they held. -/
theorem Housed.setPath (separated : names.Separated) (housed : Housed names snapshot places)
    {handle : Handle} {dotted : String} (slot : Slot)
    (admits : Admits names places (handle, Text.segments dotted)) :
    ∃ after later, snapshot.setPath handle dotted slot = (.ok (), after) ∧
      Edited names snapshot places [(handle, Text.segments dotted)] after later ∧
      after.globals = snapshot.globals ∧ after.Holds handle (Text.segments dotted) slot := by
  obtain ⟨part, home, listed⟩ := admits
  obtain ⟨front, leaf, parted⟩ := (Text.segments dotted).eq_nil_or_concat.resolve_left
    (Text.segments_ne_nil dotted)
  rw [List.concat_eq_append] at parted
  rw [parted] at listed
  obtain ⟨owner, made, grown, done, early, -, globals, leads⟩ :=
    housed.descend separated home (List.cons_ne_nil leaf []) listed
  have homeStill := getElem?_mono early.grows home
  obtain ⟨late, held⟩ := early.housed.edited_setField separated slot homeStill listed leads
  have stands := early.housed.place_of_leads leads homeStill (List.cons_ne_nil leaf []) listed
  obtain ⟨fields, object⟩ : ∃ fields, made.objects[owner.index]? = some fields :=
    ⟨_, Array.getElem?_eq_getElem (early.housed.inside stands)⟩
  refine ⟨made.setField owner leaf slot, grown, ?_, ?_, globals, ?_⟩
  · simp [Snapshot.setPath, parted, done, Snapshot.object, object]
  · rw [parted]
    exact early.trans late
  · rw [parted]
    exact held

/-- The path that a write goes along. -/
def keyOf (write : Handle × String × Slot) : Handle × List String :=
  (write.1, Text.segments write.2.1)

/-- **Writes along distinct paths succeed together.** -/
theorem Housed.setPaths (separated : names.Separated) (housed : Housed names snapshot places)
    {writes : List (Handle × String × Slot)}
    (admits : ∀ write ∈ writes, Admits names places (keyOf write))
    (distinct : (writes.map keyOf).Nodup) :
    ∃ after later, snapshot.setPaths writes = (.ok (), after) ∧
      Edited names snapshot places (writes.map keyOf) after later ∧
      after.globals = snapshot.globals ∧
      ∀ write ∈ writes, after.Holds write.1 (Text.segments write.2.1) write.2.2 := by
  induction writes generalizing snapshot places with
  | nil =>
    exact ⟨snapshot, places, rfl, .refl housed, rfl, by simp⟩
  | cons write rest ih =>
    obtain ⟨handle, dotted, slot⟩ := write
    obtain ⟨first, others⟩ := List.nodup_cons.mp distinct
    have here := admits _ List.mem_cons_self
    obtain ⟨made, grown, done, edited, globals, held⟩ := housed.setPath separated slot here
    obtain ⟨after, later, finished, editedOn, globalsOn, heldOn⟩ := ih edited.housed
      (fun write mem => (admits write (List.mem_cons_of_mem _ mem)).mono edited.grows) others
    refine ⟨after, later, ?_, edited.trans editedOn, globalsOn.trans globals, ?_⟩
    · simp only [Snapshot.setPaths, done]
      exact finished
    · intro write mem
      rcases List.mem_cons.mp mem with rfl | mem
      · exact (editedOn.kept (here.mono edited.grows) first).mpr held
      · exact heldOn write mem

end Housed

end Snapshot

end Inflight
