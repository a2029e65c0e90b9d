import Inflight.Proofs.Live.Reading

/-!
# Paths put together

A dot joins two paths: the segments of the whole are those of the one and then
those of the other (`Text.segments_dot`).  So the whole is followed by following
the first path and then, from where it leads, the second
(`Inspector.path_dot`).  Where the first path cannot be followed, neither can the
whole, and for the same reason; where it leads to a value that is no structure,
that is what the whole fails with.

Below a structure the whole path does what the second one does on its own, except
that the parts of it have longer names.  A path halts at a part that leads to a
value without fields (`Inspector.Halts`).  There is at most one such part, every
shorter part leads to a structure (`Inspector.HaltsFirst`), and the fault names
it.

A field read may fail with the same kind of fault for reasons of its own.  That
fault is handed on as it is, so it does not name a part of the whole
(`Inspector.path_dot_strayFault`).  When no field read fails so, the fault alone
tells (`Inspector.path_dot_eq`), and in every case the whole path is told by the
first one and by where the second one halts (`Inspector.path_composes`).
-/

namespace Inflight

set_option autoImplicit false

/-! ## Segments -/

namespace Text

/-- A dot parts the segments before it from those after it. -/
theorem segments_dot (front back : String) :
    segments (front ++ "." ++ back) = segments front ++ segments back := by
  have chars : (front ++ "." ++ back).toList = front.toList ++ '.' :: back.toList := by simp
  rw [segments, chars, List.splitOn_append_cons_self, List.map_append]
  rfl

/-- A path is its segments with dots between them. -/
theorem joinDots_segments (path : String) : joinDots (segments path) = path := by
  apply String.toList_injective
  have pieces : (segments path).map String.toList = path.toList.splitOn '.' := by
    simp [segments, Function.comp_def]
  rw [joinDots, String.toList_intercalate, pieces]
  exact List.intercalate_splitOn '.'

theorem joinDots_append {front back : List String} (before : front ≠ []) (after : back ≠ []) :
    joinDots (front ++ back) = joinDots front ++ "." ++ joinDots back :=
  String.intercalate_append_of_ne_nil before after

theorem notMem_of_mem_splitOn {mark : Char} {cs piece : List Char}
    (member : piece ∈ cs.splitOn mark) : mark ∉ piece := by
  induction cs generalizing piece with
  | nil =>
    rw [List.splitOn_nil, List.mem_singleton] at member
    simp [member]
  | cons c cs ih =>
    rw [List.splitOn_cons_eq_if_modifyHead] at member
    split at member
    · rcases List.mem_cons.mp member with rfl | later
      · exact List.not_mem_nil
      · exact ih later
    · next differ =>
      cases pieces : cs.splitOn mark with
      | nil => exact absurd pieces (List.splitOn_ne_nil mark cs)
      | cons first rest =>
        rw [pieces, List.modifyHead_cons] at member
        rcases List.mem_cons.mp member with rfl | later
        · have here : mark ∉ first := ih (pieces ▸ List.mem_cons_self)
          have apart : mark ≠ c := fun same => differ (beq_iff_eq.mpr same.symm)
          exact List.not_mem_cons_of_ne_of_not_mem apart here
        · exact ih (pieces ▸ List.mem_cons_of_mem _ later)

/-- What stands before a segment of a path is a path with the segments before it. -/
theorem segments_joinDots_of_append {path : String} {front back : List String}
    (parts : segments path = front ++ back) (before : front ≠ []) :
    segments (joinDots front) = front := by
  have undotted : ∀ piece ∈ front.map String.toList, '.' ∉ piece := by
    intro piece member
    obtain ⟨segment, inFront, rfl⟩ := List.mem_map.mp member
    have inPath : segment ∈ segments path := parts ▸ List.mem_append_left _ inFront
    obtain ⟨chars, split, rfl⟩ := List.mem_map.mp inPath
    rw [String.toList_ofList]
    exact notMem_of_mem_splitOn split
  have filled : front.map String.toList ≠ [] := by simp [before]
  have chars : (joinDots front).toList = ['.'].intercalate (front.map String.toList) :=
    String.toList_intercalate
  rw [segments, chars, List.splitOn_intercalate '.' undotted filled]
  simp [Function.comp_def]

end Text

/-- A value that is no structure, so that there is no field to go on to. -/
def Value.Bare : Value → Prop
  | .object _ => False
  | _ => True

namespace Inspector

variable {live : Inspector}

/-! ## Following segments -/

/-- Segments are followed one part after the other. -/
theorem follow_append (front back : List String) :
    ∀ (behind : List String) (value : Value),
      live.follow behind value (front ++ back) =
        live.follow behind value front >>= fun last => live.follow (behind ++ front) last back := by
  induction front with
  | nil =>
    intro behind value
    rw [List.nil_append, List.append_nil, follow]
    rfl
  | cons segment front ih =>
    intro behind value
    cases value with
    | object handle =>
      rw [List.cons_append, follow, follow]
      cases live.field handle segment with
      | error fault => rfl
      | ok next =>
        have along := ih (behind ++ [segment]) next
        rwa [List.append_assoc, List.singleton_append] at along
    | scalar word => rfl
    | null => rfl

/-- Where segments lead does not depend on what is said to lie behind. -/
theorem follow_behind {segments behind : List String} {value last : Value}
    (leads : live.follow behind value segments = .ok last) (other : List String) :
    live.follow other value segments = .ok last := by
  induction segments generalizing behind other value with
  | nil =>
    rw [follow] at leads ⊢
    exact leads
  | cons segment rest ih =>
    cases value with
    | object handle =>
      rw [follow] at leads ⊢
      cases read : live.field handle segment with
      | error fault =>
        rw [read] at leads
        cases leads
      | ok next =>
        rw [read] at leads
        exact ih leads _
    | scalar word => cases leads
    | null => cases leads

/-- Below a value that is no structure nothing is followed. -/
theorem follow_of_bare {value : Value} (bare : value.Bare) {segments : List String}
    (more : segments ≠ []) (behind : List String) :
    live.follow behind value segments = .error (.expectedStructure (Text.joinDots behind)) := by
  cases segments with
  | nil => exact absurd rfl more
  | cons segment rest =>
    cases value with
    | object handle => exact bare.elim
    | scalar word => rfl
    | null => rfl

/-- From the value on the segments meet a structure wherever there are more of them to come. -/
def Open (live : Inspector) (value : Value) (segments : List String) : Prop :=
  ∀ front back last, segments = front ++ back → back ≠ [] →
    live.follow [] value front = .ok last → ¬last.Bare

section Open

variable {value middle : Value} {segment : String} {rest segments : List String}

theorem Open.exists_object (opens : live.Open value (segment :: rest)) :
    ∃ handle, value = .object handle := by
  have structured : ¬value.Bare := opens [] _ value rfl (List.cons_ne_nil _ _) rfl
  cases value with
  | object handle => exact ⟨handle, rfl⟩
  | scalar word => exact absurd trivial structured
  | null => exact absurd trivial structured

theorem Open.tail {handle : Handle} (opens : live.Open (.object handle) (segment :: rest))
    (read : live.field handle segment = .ok middle) : live.Open middle rest := by
  rintro front back last rfl more leads
  refine opens (segment :: front) back last rfl more ?_
  rw [follow, read]
  exact follow_behind leads _

/-- Segments that meet structures all along are followed alike, whatever lies behind. -/
theorem Open.follow_eq (opens : live.Open value segments) (behind other : List String) :
    live.follow behind value segments = live.follow other value segments := by
  induction segments generalizing value behind other with
  | nil => rw [follow, follow]
  | cons segment rest ih =>
    obtain ⟨handle, rfl⟩ := opens.exists_object
    rw [follow, follow]
    cases read : live.field handle segment with
    | error fault => rfl
    | ok next => exact ih (opens.tail read) _ _

/-- Segments that meet structures all along fail only as a field read does. -/
theorem Open.field_of_error (opens : live.Open value segments) {behind : List String}
    {fault : Fault} (failed : live.follow behind value segments = .error fault) :
    ∃ owner name, live.field owner name = .error fault := by
  induction segments generalizing value behind with
  | nil =>
    rw [follow] at failed
    cases failed
  | cons segment rest ih =>
    obtain ⟨handle, rfl⟩ := opens.exists_object
    rw [follow] at failed
    cases read : live.field handle segment with
    | error other =>
      rw [read] at failed
      cases failed
      exact ⟨handle, segment, read⟩
    | ok next =>
      rw [read] at failed
      exact ih (opens.tail read) failed

end Open

/-! ## Following paths -/

variable {handle inner : Handle} {p q part : String}

/-- A path is followed up to a dot, and from there on. -/
theorem path_dot (handle : Handle) (p q : String) :
    live.path handle (p ++ "." ++ q) =
      live.path handle p >>= fun value =>
        live.follow (Text.segments p) value (Text.segments q) := by
  rw [path, path, Text.segments_dot, follow_append, List.nil_append]

theorem path_dot_of_error {fault : Fault} (failed : live.path handle p = .error fault) :
    live.path handle (p ++ "." ++ q) = .error fault := by
  rw [path_dot, failed]
  rfl

theorem path_dot_of_bare {value : Value} (leads : live.path handle p = .ok value)
    (bare : value.Bare) : live.path handle (p ++ "." ++ q) = .error (.expectedStructure p) := by
  have stops : live.follow (Text.segments p) value (Text.segments q) =
      .error (.expectedStructure (Text.joinDots (Text.segments p))) :=
    follow_of_bare bare (Text.segments_ne_nil q) (Text.segments p)
  rw [Text.joinDots_segments] at stops
  rw [path_dot, leads]
  exact stops

theorem path_dot_of_object (leads : live.path handle p = .ok (.object inner)) :
    live.path handle (p ++ "." ++ q) =
      live.follow (Text.segments p) (.object inner) (Text.segments q) := by
  rw [path_dot, leads]
  rfl

/-- Where a path leads below a structure, the whole path leads. -/
theorem path_dot_of_ok {value : Value} (leads : live.path handle p = .ok (.object inner))
    (onward : live.path inner q = .ok value) : live.path handle (p ++ "." ++ q) = .ok value := by
  rw [path_dot_of_object leads]
  exact follow_behind onward _

/-! ## Where a path halts -/

/-- A path halts at a part of it that leads to a value without fields. -/
structure Halts (live : Inspector) (handle : Handle) (dotted part : String) : Prop where
  part_of : ∃ rest, dotted = part ++ "." ++ rest
  bare : ∃ value, live.path handle part = .ok value ∧ value.Bare

/-- A path halts at a part of it, and all parts that are shorter lead to structures. -/
structure HaltsFirst (live : Inspector) (handle : Handle) (dotted part : String) : Prop
    extends live.Halts handle dotted part where
  shorter : ∀ front rest, part = front ++ "." ++ rest →
    ∃ target, live.path handle front = .ok (.object target)

/-- A path that halts fails, and the fault names the part at which it does. -/
theorem Halts.path {dotted : String} (halts : live.Halts handle dotted part) :
    live.path handle dotted = .error (.expectedStructure part) := by
  obtain ⟨⟨rest, rfl⟩, value, leads, bare⟩ := halts
  exact path_dot_of_bare leads bare

/-- Every part that is shorter leads to a structure. -/
theorem Halts.first {dotted : String} (halts : live.Halts handle dotted part) :
    live.HaltsFirst handle dotted part := by
  refine { halts with shorter := ?_ }
  obtain ⟨-, value, leads, -⟩ := halts
  rintro front rest rfl
  cases first : live.path handle front with
  | error fault =>
    rw [path_dot_of_error first] at leads
    cases leads
  | ok middle =>
    cases middle with
    | object target => exact ⟨target, rfl⟩
    | scalar word =>
      rw [path_dot_of_bare first trivial] at leads
      cases leads
    | null =>
      rw [path_dot_of_bare first trivial] at leads
      cases leads

/-- A path below a structure halts where the whole path halts. -/
theorem Halts.dot (leads : live.path handle p = .ok (.object inner))
    (halts : live.Halts inner q part) :
    live.Halts handle (p ++ "." ++ q) (p ++ "." ++ part) := by
  obtain ⟨⟨rest, rfl⟩, value, onward, bare⟩ := halts
  refine ⟨⟨rest, ?_⟩, value, path_dot_of_ok leads onward, bare⟩
  simp only [String.append_assoc]

/-- A path that does not halt meets structures all along. -/
theorem open_of_not_halts (free : ∀ part, ¬live.Halts handle q part) :
    live.Open (.object handle) (Text.segments q) := by
  intro front back last parts more leads bare
  by_cases before : front = []
  · subst before
    rw [follow, Except.ok.injEq] at leads
    subst leads
    exact bare
  · have whole : q = Text.joinDots front ++ "." ++ Text.joinDots back := by
      rw [← Text.joinDots_append before more, ← parts, Text.joinDots_segments]
    refine free (Text.joinDots front) ⟨⟨_, whole⟩, last, ?_, bare⟩
    rw [path, Text.segments_joinDots_of_append parts before]
    exact leads

/-- A path that does not halt below a structure does the same as part of a longer one. -/
theorem path_dot_of_not_halts (leads : live.path handle p = .ok (.object inner))
    (free : ∀ part, ¬live.Halts inner q part) :
    live.path handle (p ++ "." ++ q) = live.path inner q := by
  rw [path_dot_of_object leads]
  exact (open_of_not_halts free).follow_eq _ _

/-- A path that fails halts, or hands on what a field read failed with. -/
theorem halts_or_field_of_path {dotted : String} {fault : Fault}
    (failed : live.path handle dotted = .error fault) :
    (∃ part, live.Halts handle dotted part ∧ fault = .expectedStructure part) ∨
      ∃ owner name, live.field owner name = .error fault := by
  by_cases halting : ∃ part, live.Halts handle dotted part
  · obtain ⟨part, halts⟩ := halting
    rw [halts.path, Except.error.injEq] at failed
    exact .inl ⟨part, halts, failed.symm⟩
  · exact .inr ((open_of_not_halts (not_exists.mp halting)).field_of_error failed)

/-- No field read fails the way that a path does which halts. -/
def FieldsNeverHalt (live : Inspector) : Prop :=
  ∀ owner name part, live.field owner name ≠ .error (.expectedStructure part)

end Inspector

/-- What a path fails with, as told of a longer path that begins with another one. -/
def Fault.below (front : String) : Fault → Fault
  | .expectedStructure part => .expectedStructure (front ++ "." ++ part)
  | fault => fault

theorem Fault.below_of_ne {front : String} {fault : Fault}
    (other : ∀ part, fault ≠ .expectedStructure part) : fault.below front = fault := by
  cases fault with
  | expectedStructure part => exact absurd rfl (other part)
  | _ => rfl

namespace Inspector

variable {live : Inspector}

section Laws

variable (live : Inspector) (handle : Handle) (p q : String)

/-- A fault of the kind that a path fails with when it halts names the shortest part that leads to
no structure, unless it is that of a field read. -/
theorem field_or_haltsFirst_of_path {dotted part : String}
    (failed : live.path handle dotted = .error (.expectedStructure part)) :
    (∃ owner name, live.field owner name = .error (.expectedStructure part)) ∨
      live.HaltsFirst handle dotted part := by
  obtain ⟨other, halts, same⟩ | field := halts_or_field_of_path failed
  · cases same
    exact .inr halts.first
  · exact .inl field

variable {live}

/-- Below a structure, when no field read fails the way that a path does which halts, the fault of
the second path alone tells whether it is about a part of that path. -/
theorem path_dot_of_fieldsNeverHalt (never : live.FieldsNeverHalt) {inner : Handle}
    (leads : live.path handle p = .ok (.object inner)) :
    live.path handle (p ++ "." ++ q) = (live.path inner q).mapError (Fault.below p) := by
  by_cases halting : ∃ part, live.Halts inner q part
  · obtain ⟨part, halts⟩ := halting
    rw [(halts.dot leads).path, halts.path]
    rfl
  · have free := not_exists.mp halting
    rw [path_dot_of_not_halts leads free]
    cases onward : live.path inner q with
    | ok value => rfl
    | error fault =>
      have other : ∀ part, fault ≠ .expectedStructure part := by
        rintro part rfl
        obtain ⟨owner, name, read⟩ | first := live.field_or_haltsFirst_of_path inner onward
        · exact never owner name part read
        · exact free part first.toHalts
      exact congrArg Except.error (Fault.below_of_ne other).symm

/-- **Dotted paths compose**, for an inspector whose own field reads never fail the way that a path
does which halts. -/
theorem path_dot_eq (never : live.FieldsNeverHalt) :
    live.path handle (p ++ "." ++ q) =
      match live.path handle p with
      | .error fault => .error fault
      | .ok (.object inner) => (live.path inner q).mapError (Fault.below p)
      | .ok _ => .error (.expectedStructure p) := by
  cases leads : live.path handle p with
  | error fault => exact path_dot_of_error leads
  | ok value =>
    cases value with
    | object inner => exact path_dot_of_fieldsNeverHalt handle p q never leads
    | scalar word => exact path_dot_of_bare leads trivial
    | null => exact path_dot_of_bare leads trivial

variable (live)

/-- What a path put together of two does, as told by the two. -/
structure Composes : Prop where
  /-- The whole fails as the first path does. -/
  failed : ∀ fault, live.path handle p = .error fault →
    live.path handle (p ++ "." ++ q) = .error fault
  /-- It fails for the first path when that leads to a value without fields. -/
  bare : ∀ value, live.path handle p = .ok value → value.Bare →
    live.path handle (p ++ "." ++ q) = .error (.expectedStructure p)
  /-- Below a structure it halts where the second path does, at a part with a longer name. -/
  halting : ∀ inner part, live.path handle p = .ok (.object inner) → live.Halts inner q part →
    live.path inner q = .error (.expectedStructure part) ∧
      live.path handle (p ++ "." ++ q) = .error (.expectedStructure (p ++ "." ++ part))
  /-- Where the second path does not halt, the whole does the same as that path. -/
  onward : ∀ inner, live.path handle p = .ok (.object inner) →
    (∀ part, ¬live.Halts inner q part) → live.path handle (p ++ "." ++ q) = live.path inner q
  /-- A part that is named is the shortest one that leads to no structure, unless a field read
  named it. -/
  shortest : ∀ part, live.path handle (p ++ "." ++ q) = .error (.expectedStructure part) →
    (∃ owner name, live.field owner name = .error (.expectedStructure part)) ∨
      live.HaltsFirst handle (p ++ "." ++ q) part
  /-- When no field read fails so, the fault alone tells whether it is about a part of the second
  path. -/
  equation : live.FieldsNeverHalt → live.path handle (p ++ "." ++ q) =
    match live.path handle p with
    | .error fault => .error fault
    | .ok (.object inner) => (live.path inner q).mapError (Fault.below p)
    | .ok _ => .error (.expectedStructure p)

/-- **Dotted paths compose, whatever the inspector.** -/
theorem path_composes : live.Composes handle p q where
  failed _ failed := path_dot_of_error failed
  bare _ leads bare := path_dot_of_bare leads bare
  halting _ _ leads halts := ⟨halts.path, (halts.dot leads).path⟩
  onward _ leads free := path_dot_of_not_halts leads free
  shortest _ failed := live.field_or_haltsFirst_of_path handle failed
  equation never := path_dot_eq handle p q never

end Laws

end Inspector

/-! ## Paths in a snapshot -/

namespace Snapshot

theorem fieldsNeverHalt (snapshot : Snapshot) : snapshot.inspector.FieldsNeverHalt := by
  intro owner name part failed
  simp only [inspector, field, object] at failed
  split at failed
  · next missing =>
    split at missing <;> cases missing
    cases failed
  · split at failed <;> cases failed

/-- An op whose address stands in a structure of its own, with an empty name on the way. -/
def nestedOp : Snapshot where
  objects := #[
    .ofList [("inst", .ref ⟨1⟩)],
    .ofList [("", .ref ⟨2⟩)],
    .ofList [("addr", .scalar 4195792), ("next", .null)]]

/-- The whole path names the part at which the second one halts, with the first one before it. -/
theorem path_dot_nestedOp :
    nestedOp.inspector.FieldsNeverHalt ∧
      nestedOp.inspector.path ⟨1⟩ ".next.addr" = .error (.expectedStructure ".next") ∧
      nestedOp.inspector.path ⟨0⟩ ("inst" ++ "." ++ ".next.addr") =
        .error (.expectedStructure "inst..next") := by
  have leads : nestedOp.inspector.path ⟨0⟩ "inst" = .ok (.object ⟨1⟩) := rfl
  have halts : nestedOp.inspector.path ⟨1⟩ ".next.addr" = .error (.expectedStructure ".next") :=
    rfl
  have composed := (nestedOp.inspector.path_composes ⟨0⟩ "inst" ".next.addr").equation
    nestedOp.fieldsNeverHalt
  rw [leads] at composed
  simp only [halts] at composed
  exact ⟨nestedOp.fieldsNeverHalt, halts, composed⟩

end Snapshot

/-! ## Where the law does not hold -/

/-- An inspector with a field that leads from each structure to the next one.  Any other field read
fails with a fault of its own. -/
def Inspector.strayFault : Inspector where
  resolve name := .error (.unresolvedSymbol name)
  field handle name :=
    if name = "a" then .ok (.object ⟨handle.index + 1⟩) else .error (.expectedStructure "z")

/-- A structure with two fields, the name of one of which begins the name of the other. -/
def Snapshot.twoWords : Snapshot where
  objects := #[.ofList [("x", .scalar 1), ("xy", .scalar 2)]]

/-- The fault of a field read is handed on without the path that led to it.  And a part that is
named is made of whole segments: a text that only begins a segment may lead to no structure
either. -/
theorem Inspector.path_dot_strayFault :
    (strayFault.path ⟨0⟩ "a" = .ok (.object ⟨1⟩) ∧
      strayFault.path ⟨1⟩ "b" = .error (.expectedStructure "z") ∧
      strayFault.path ⟨0⟩ ("a" ++ "." ++ "b") = .error (.expectedStructure "z") ∧
      strayFault.path ⟨0⟩ ("a" ++ "." ++ "b") ≠
        .error (.expectedStructure ("a" ++ "." ++ "z"))) ∧
    (Snapshot.twoWords.inspector.path ⟨0⟩ "x" = .ok (.scalar 1) ∧
      Snapshot.twoWords.inspector.path ⟨0⟩ ("x" ++ "y.z") =
        .error (.expectedStructure "xy")) := by
  have handedOn : strayFault.path ⟨0⟩ ("a" ++ "." ++ "b") = .error (.expectedStructure "z") := rfl
  refine ⟨⟨rfl, rfl, handedOn, ?_⟩, rfl, rfl⟩
  rw [handedOn]
  simp

end Inflight
