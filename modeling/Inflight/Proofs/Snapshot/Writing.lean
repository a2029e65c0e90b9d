import Inflight.Proofs.Snapshot.Holding

/-!
# Writing along a path

A write along a dotted path follows references for as long as its parents are
there, makes an object for each parent after that, and writes one field.  Nothing
is asked of the snapshot here: a reference may lead back to an object on the way,
and it may lead to no object.

There are two cases.  Either the references lead to an object that exists, and
the first parent after that is none of its fields (`Snapshot.Reaches`), or
something stands in the way (`Snapshot.Blocked`).  In the second case the
snapshot stays as it was (`Snapshot.setPath_atomic`).  In the first case the
write succeeds, because an object that was just made has no field to stand in
the way of the next; one field of one older object changes, and all else is in
new objects (`Snapshot.setPath_writes_one_field`).
-/

namespace Inflight

set_option autoImplicit false

namespace Snapshot

variable {snapshot : Snapshot} {handle : Handle}

/-! ## The way to a field -/

/-- How far references lead along parents: along those that are found to an object that exists,
and the first of the missing ones is no field of it. -/
structure Reaches (snapshot : Snapshot) (handle : Handle) (found missing : List String)
    (reached : Handle) : Prop where
  leads : snapshot.Leads handle found reached
  stands : reached.index < snapshot.size
  absent : ∀ segment ∈ missing.head?, snapshot.slot? reached segment = none

/-- What stands in the way along parents, with the fault that tells of it. -/
inductive Blocked (snapshot : Snapshot) (handle : Handle) (parents : List String) :
    Fault → Prop where
  /-- References lead to no object. -/
  | dangling (front : List String) {rest : List String} {reached : Handle} :
      parents = front ++ rest → snapshot.Leads handle front reached →
        snapshot.size ≤ reached.index → Blocked snapshot handle parents (.danglingHandle reached)
  /-- References lead to an object that holds something else under the next parent. -/
  | noReference (front : List String) {rest : List String} {segment : String} {owner : Handle}
      {slot : Slot} :
      parents = front ++ segment :: rest → snapshot.Leads handle front owner →
        snapshot.slot? owner segment = some slot → (∀ target, slot ≠ .ref target) →
        Blocked snapshot handle parents (.expectedStructure segment)

/-- A field that is followed along parents: references lead to its object along those before
it. -/
def Passes (snapshot : Snapshot) (handle : Handle) (parents : List String) (owner : Handle)
    (field : String) : Prop :=
  ∃ front rest, parents = front ++ field :: rest ∧ snapshot.Leads handle front owner

theorem Reaches.cons {found missing : List String} {segment : String} {target reached : Handle}
    (held : snapshot.slot? handle segment = some (.ref target))
    (reaches : snapshot.Reaches target found missing reached) :
    snapshot.Reaches handle (segment :: found) missing reached :=
  ⟨.next held reaches.leads, reaches.stands, reaches.absent⟩

theorem Blocked.cons {parents : List String} {segment : String} {target : Handle} {fault : Fault}
    (held : snapshot.slot? handle segment = some (.ref target))
    (blocked : snapshot.Blocked target parents fault) :
    snapshot.Blocked handle (segment :: parents) fault := by
  cases blocked with
  | @dangling front rest reached same leads beyond =>
    exact .dangling (segment :: front) (by rw [same, List.cons_append])
      (.next held leads) beyond
  | @noReference front rest last owner slot same leads got other =>
    exact .noReference (segment :: front) (by rw [same, List.cons_append])
      (.next held leads) got other

/-- The way is free as far as references lead, or it is blocked. -/
theorem exists_reaches_or_blocked (snapshot : Snapshot) (handle : Handle)
    (parents : List String) :
    (∃ found missing reached, parents = found ++ missing ∧
      snapshot.Reaches handle found missing reached) ∨
    ∃ fault, snapshot.Blocked handle parents fault := by
  induction parents generalizing handle with
  | nil =>
    by_cases stands : handle.index < snapshot.size
    · exact .inl ⟨[], [], handle, rfl, .here handle, stands, nofun⟩
    · exact .inr ⟨_, .dangling [] rfl (.here handle) (Nat.le_of_not_lt stands)⟩
  | cons segment rest ih =>
    by_cases stands : handle.index < snapshot.size
    · cases held : snapshot.slot? handle segment with
      | none =>
        refine .inl ⟨[], segment :: rest, handle, rfl, .here handle, stands, ?_⟩
        rintro _ ⟨⟩
        exact held
      | some slot =>
        by_cases isRef : ∃ target, slot = .ref target
        · obtain ⟨target, rfl⟩ := isRef
          rcases ih target with ⟨found, missing, reached, rfl, reaches⟩ | ⟨fault, blocked⟩
          · exact .inl ⟨segment :: found, missing, reached, rfl, reaches.cons held⟩
          · exact .inr ⟨fault, blocked.cons held⟩
        · have other : ∀ target, slot ≠ .ref target := fun target same => isRef ⟨target, same⟩
          exact .inr ⟨_, .noReference [] rfl (.here handle) held other⟩
    · exact .inr ⟨_, .dangling [] rfl (.here handle) (Nat.le_of_not_lt stands)⟩

/-! ## The steps along parents -/

theorem object_of_lt (stands : handle.index < snapshot.size) :
    ∃ fields, snapshot.object handle = .ok fields ∧
      ∀ name, fields.get? name = snapshot.slot? handle name := by
  obtain ⟨fields, here⟩ : ∃ fields, snapshot.objects[handle.index]? = some fields :=
    ⟨_, Array.getElem?_eq_getElem stands⟩
  refine ⟨fields, by rw [object, here], fun name => ?_⟩
  rw [slot?, here, Option.bind_some]

theorem object_of_ge (beyond : snapshot.size ≤ handle.index) :
    snapshot.object handle = .error (.danglingHandle handle) := by
  rw [object, Array.getElem?_eq_none beyond]

/-- The snapshot in which a new object without fields stands behind a field of another. -/
def sprout (snapshot : Snapshot) (owner : Handle) (field : String) : Snapshot :=
  (snapshot.alloc Table.empty).2.setField owner field (.ref ⟨snapshot.size⟩)

section Step

variable {segment : String} (rest : List String)

theorem descend_of_dangling (beyond : snapshot.size ≤ handle.index) :
    snapshot.descend handle (segment :: rest) = (.error (.danglingHandle handle), snapshot) := by
  simp only [descend, object_of_ge beyond]

theorem descend_of_ref {target : Handle}
    (held : snapshot.slot? handle segment = some (.ref target)) :
    snapshot.descend handle (segment :: rest) = snapshot.descend target rest := by
  obtain ⟨fields, here, slots⟩ := object_of_lt (index_lt_of_slot? held)
  simp only [descend, here, slots, held]

theorem descend_of_noReference {slot : Slot}
    (held : snapshot.slot? handle segment = some slot) (other : ∀ target, slot ≠ .ref target) :
    snapshot.descend handle (segment :: rest) = (.error (.expectedStructure segment), snapshot) := by
  obtain ⟨fields, here, slots⟩ := object_of_lt (index_lt_of_slot? held)
  cases slot with
  | ref target => exact absurd rfl (other target)
  | scalar word => simp only [descend, here, slots, held]
  | flag value => simp only [descend, here, slots, held]
  | null => simp only [descend, here, slots, held]

theorem descend_of_absent (stands : handle.index < snapshot.size)
    (absent : snapshot.slot? handle segment = none) :
    snapshot.descend handle (segment :: rest) =
      (snapshot.sprout handle segment).descend ⟨snapshot.size⟩ rest := by
  obtain ⟨fields, here, slots⟩ := object_of_lt stands
  simp only [descend, here, slots, absent]
  rfl

end Step

theorem descend_append {front : List String} {reached : Handle}
    (leads : snapshot.Leads handle front reached) (rest : List String) :
    snapshot.descend handle (front ++ rest) = snapshot.descend reached rest := by
  induction leads with
  | here handle => rfl
  | next held _ ih => rw [List.cons_append, descend_of_ref _ held, ih]

/-- Where the way is blocked nothing is made and nothing is written. -/
theorem setPath_of_blocked {dotted : String} {fault : Fault} (slot : Slot)
    (blocked : snapshot.Blocked handle (Text.segments dotted).dropLast fault) :
    snapshot.setPath handle dotted slot = (.error fault, snapshot) := by
  unfold setPath
  dsimp only
  cases blocked with
  | @dangling front rest reached same leads beyond =>
    rw [same, descend_append leads]
    cases rest with
    | nil => simp only [descend, object_of_ge beyond]
    | cons segment rest => simp only [descend_of_dangling rest beyond]
  | @noReference front rest segment owner held same leads got other =>
    rw [same, descend_append leads, descend_of_noReference rest got other]

/-! ## Parents that are made -/

theorem eq_of_index_eq {first second : Handle} (same : first.index = second.index) :
    first = second := by
  cases first
  cases second
  exact congrArg Handle.mk same

section Sprout

variable {owner : Handle} {field : String}

theorem size_sprout : (snapshot.sprout owner field).size = snapshot.size + 1 := by
  simp [sprout, size, setField, alloc]

theorem slot?_sprout (stands : owner.index < snapshot.size) (other : Handle) (name : String) :
    (snapshot.sprout owner field).slot? other name =
      if other = owner ∧ name = field then some (.ref ⟨snapshot.size⟩)
      else if other.index = snapshot.size then none else snapshot.slot? other name := by
  have inside : owner.index < (snapshot.alloc Table.empty).2.size := by
    simp only [size, alloc, Array.size_push]
    exact Nat.lt_succ_of_lt stands
  rw [sprout, slot?_setField inside, slot?_alloc, Table.get?_empty]

/-- The new object has no fields. -/
theorem slot?_sprout_new (stands : owner.index < snapshot.size) (name : String) :
    (snapshot.sprout owner field).slot? ⟨snapshot.size⟩ name = none := by
  rw [slot?_sprout stands, if_neg, if_pos rfl]
  rintro ⟨rfl, -⟩
  exact Nat.lt_irrefl _ stands

theorem getElem?_setField (slot : Slot) {other : Handle} (apart : other ≠ owner) :
    (snapshot.setField owner field slot).objects[other.index]? =
      snapshot.objects[other.index]? := by
  have differ : owner.index ≠ other.index := fun same => apart (eq_of_index_eq same.symm)
  simp only [setField, Array.getElem?_modify, if_neg differ]

theorem getElem?_alloc (fields : Fields) {other : Handle} (older : other.index < snapshot.size) :
    (snapshot.alloc fields).2.objects[other.index]? = snapshot.objects[other.index]? := by
  simp only [alloc]
  rw [Array.getElem?_push, if_neg]
  exact Nat.ne_of_lt older

end Sprout

/-- What the making of missing parents below an object leaves, and the object at which they
end. -/
structure Made (before : Snapshot) (reached : Handle) (missing : List String) (owner : Handle)
    (after : Snapshot) : Prop where
  globals : after.globals = before.globals
  size : after.size = before.size + missing.length
  others : ∀ old : Handle, old.index < before.size → old ≠ reached →
    after.objects[old.index]? = before.objects[old.index]?
  fields : ∀ name, after.slot? reached name =
    if missing.head? = some name then some (.ref ⟨before.size⟩) else before.slot? reached name
  /-- New objects hold only references to new objects. -/
  fresh : ∀ (new : Handle) name slot, before.size ≤ new.index →
    after.slot? new name = some slot → ∃ target, slot = .ref target ∧ before.size ≤ target.index
  leads : after.Leads reached missing owner
  stands : owner.index < after.size
  here : missing = [] → owner = reached ∧ after = before
  last : missing ≠ [] → before.size ≤ owner.index ∧ ∀ name, after.slot? owner name = none

section Made

variable {reached owner : Handle} {after : Snapshot}

theorem Made.nil (stands : reached.index < snapshot.size) :
    Made snapshot reached [] reached snapshot where
  globals := rfl
  size := rfl
  others _ _ _ := rfl
  fields _ := rfl
  fresh _ _ _ beyond held := absurd (index_lt_of_slot? held) (Nat.not_lt_of_le beyond)
  leads := .here reached
  stands := stands
  here _ := ⟨rfl, rfl⟩
  last more := absurd rfl more

/-- The first missing parent is a new object, and the others are made below that. -/
theorem Made.cons {first : String} {rest : List String} (stands : reached.index < snapshot.size)
    (made : Made (snapshot.sprout reached first) ⟨snapshot.size⟩ rest owner after) :
    Made snapshot reached (first :: rest) owner after := by
  have newer : snapshot.size < (snapshot.sprout reached first).size := by
    rw [size_sprout]
    exact Nat.lt_succ_self _
  have apart {old : Handle} (older : old.index < snapshot.size) : old ≠ ⟨snapshot.size⟩ := by
    rintro rfl
    exact Nat.lt_irrefl _ older
  have fields : ∀ name, after.slot? reached name =
      if (first :: rest).head? = some name then some (.ref ⟨snapshot.size⟩)
      else snapshot.slot? reached name := by
    intro name
    rw [slot?, made.others reached (Nat.lt_trans stands newer) (apart stands), ← slot?,
      slot?_sprout stands, if_neg (Nat.ne_of_lt stands)]
    simp [eq_comm]
  have more : first :: rest ≠ [] := List.cons_ne_nil _ _
  refine ⟨made.globals, ?_, ?_, fields, ?_, ?_, made.stands, fun none => absurd none more,
    fun _ => ?_⟩
  · rw [made.size, size_sprout, List.length_cons]
    omega
  · intro old older differ
    rw [made.others old (Nat.lt_trans older newer) (apart older), sprout,
      getElem?_setField _ differ, getElem?_alloc _ older]
  · intro new name slot beyond held
    rcases Nat.eq_or_lt_of_le beyond with same | later
    · -- The object that was made first holds at most the reference to the next.
      obtain rfl : (⟨snapshot.size⟩ : Handle) = new := eq_of_index_eq same
      rw [made.fields, slot?_sprout_new stands] at held
      split at held
      · obtain rfl := Option.some.inj held
        exact ⟨_, rfl, Nat.le_of_lt newer⟩
      · cases held
    · obtain ⟨target, isRef, beyondBoth⟩ :=
        made.fresh new name slot (by rw [size_sprout]; exact later) held
      exact ⟨target, isRef, Nat.le_trans (Nat.le_of_lt newer) beyondBoth⟩
  · refine .next ?_ made.leads
    rw [fields, List.head?_cons, if_pos rfl]
  · cases rest with
    | nil =>
      obtain ⟨rfl, rfl⟩ := made.here rfl
      exact ⟨Nat.le_refl _, slot?_sprout_new stands⟩
    | cons second rest =>
      obtain ⟨beyond, bare⟩ := made.last (List.cons_ne_nil _ _)
      exact ⟨Nat.le_trans (Nat.le_of_lt newer) beyond, bare⟩

/-- Parents below an object that has no field for the first of them can be made. -/
theorem exists_made (missing : List String) (stands : reached.index < snapshot.size)
    (absent : ∀ segment ∈ missing.head?, snapshot.slot? reached segment = none) :
    ∃ owner after, snapshot.descend reached missing = (.ok owner, after) ∧
      Made snapshot reached missing owner after := by
  induction missing generalizing snapshot reached with
  | nil => exact ⟨reached, snapshot, rfl, .nil stands⟩
  | cons first rest ih =>
    -- The new object has no fields, so nothing stands in the way of the parents after it.
    have childStands : snapshot.size < (snapshot.sprout reached first).size := by
      rw [size_sprout]
      exact Nat.lt_succ_self _
    have childBare : ∀ segment ∈ rest.head?,
        (snapshot.sprout reached first).slot? ⟨snapshot.size⟩ segment = none :=
      fun segment _ => slot?_sprout_new stands segment
    obtain ⟨owner, after, done, made⟩ := ih childStands childBare
    refine ⟨owner, after, ?_, made.cons stands⟩
    rw [descend_of_absent rest stands (absent first rfl)]
    exact done

theorem Made.grows {missing : List String} (made : Made snapshot reached missing owner after)
    (absent : ∀ segment ∈ missing.head?, snapshot.slot? reached segment = none) :
    Grows snapshot after := by
  intro handle name slot held
  by_cases here : handle = reached
  · subst here
    rw [made.fields, if_neg]
    · exact held
    · intro first
      rw [absent name first] at held
      cases held
  · rw [slot?, made.others handle (index_lt_of_slot? held) here]
    exact held

end Made

/-! ## The field that is written -/

/-- A field that is not followed along a way may be written without leading it elsewhere. -/
theorem Leads.setField {front : List String} {owner last : Handle} {leaf : String}
    (leads : snapshot.Leads handle front last) (stands : owner.index < snapshot.size)
    (apart : ¬snapshot.Passes handle front owner leaf) (slot : Slot) :
    (snapshot.setField owner leaf slot).Leads handle front last := by
  induction leads with
  | here handle => exact .here handle
  | @next handle target last segment rest held leads ih =>
    refine .next ?_ (ih ?_)
    · rw [slot?_setField stands, if_neg]
      · exact held
      · rintro ⟨rfl, rfl⟩
        exact apart ⟨[], rest, rfl, .here handle⟩
    · rintro ⟨front, more, same, there⟩
      exact apart ⟨segment :: front, more, by rw [same, List.cons_append], .next held there⟩

theorem Leads.append {front rest : List String} {middle last : Handle}
    (early : snapshot.Leads handle front middle) (late : snapshot.Leads middle rest last) :
    snapshot.Leads handle (front ++ rest) last := by
  induction early with
  | here handle => exact late
  | next held _ ih => exact .next held (ih late)

/-- What a write below an object leaves: the one field of it that is written is the leaf, or
the first of the missing parents and then a reference to the first new object. -/
structure Written (before : Snapshot) (reached : Handle) (missing : List String) (leaf : String)
    (slot : Slot) (after : Snapshot) : Prop where
  globals : after.globals = before.globals
  size : after.size = before.size + missing.length
  others : ∀ old : Handle, old.index < before.size → old ≠ reached →
    after.objects[old.index]? = before.objects[old.index]?
  fields : ∀ name, after.slot? reached name =
    if name = missing.headD leaf then some (if missing = [] then slot else .ref ⟨before.size⟩)
    else before.slot? reached name
  /-- New objects hold only what is written and references to new objects. -/
  fresh : ∀ (new : Handle) name held, before.size ≤ new.index →
    after.slot? new name = some held →
      held = slot ∨ ∃ target, held = .ref target ∧ before.size ≤ target.index

/-- Only one of the older objects may be changed below the parents. -/
theorem Made.ne_owner {missing : List String} {reached owner old : Handle} {after : Snapshot}
    (made : Made snapshot reached missing owner after) (older : old.index < snapshot.size)
    (differ : old ≠ reached) : old ≠ owner := by
  rintro rfl
  cases missing with
  | nil => exact differ (made.here rfl).1
  | cons first rest =>
    exact Nat.not_lt_of_le (made.last (List.cons_ne_nil _ _)).1 older

theorem Made.written {missing : List String} {reached owner : Handle} {after : Snapshot}
    (made : Made snapshot reached missing owner after) (stands : reached.index < snapshot.size)
    (leaf : String) (slot : Slot) :
    Written snapshot reached missing leaf slot (after.setField owner leaf slot) := by
  have slots := slot?_setField made.stands leaf slot
  refine ⟨made.globals, ?_, ?_, ?_, ?_⟩
  · rw [← made.size]
    simp [setField, Snapshot.size]
  · intro old older differ
    rw [getElem?_setField slot (made.ne_owner older differ), made.others old older differ]
  · intro name
    rw [slots, made.fields]
    cases missing with
    | nil => simp [(made.here rfl).1]
    | cons first rest =>
      have apart : reached ≠ owner := by
        rintro rfl
        exact Nat.not_lt_of_le (made.last (List.cons_ne_nil _ _)).1 stands
      simp [apart, eq_comm]
  · intro new name held beyond got
    rw [slots] at got
    split at got
    · exact .inl (Option.some.inj got).symm
    · exact .inr (made.fresh new name held beyond got)

/-- Where the way is free the parents that are missing are made, and the leaf of the last is
written. -/
theorem setPath_of_reaches {dotted leaf : String} {found missing : List String} {reached : Handle}
    (parted : Text.segments dotted = found ++ missing ++ [leaf])
    (reaches : snapshot.Reaches handle found missing reached) (slot : Slot) :
    ∃ owner made, snapshot.descend handle (found ++ missing) = (.ok owner, made) ∧
      Made snapshot reached missing owner made ∧
      snapshot.setPath handle dotted slot = (.ok (), made.setField owner leaf slot) := by
  obtain ⟨owner, after, done, made⟩ := exists_made missing reaches.stands reaches.absent
  obtain ⟨fields, object, -⟩ := object_of_lt made.stands
  have descended : snapshot.descend handle (found ++ missing) = (.ok owner, after) := by
    rw [descend_append reaches.leads, done]
  refine ⟨owner, after, descended, made, ?_⟩
  simp only [setPath, parted, List.dropLast_concat, descended, object, List.getLast?_concat,
    Option.getD_some]

/-- What is written is held at its path, unless the path goes through the field that is
written. -/
theorem Made.holds {found missing : List String} {leaf : String} {reached owner : Handle}
    {after : Snapshot} (made : Made snapshot reached missing owner after)
    (reaches : snapshot.Reaches handle found missing reached)
    (apart : ¬snapshot.Passes handle (found ++ missing) owner leaf) (slot : Slot) :
    (after.setField owner leaf slot).Holds handle (found ++ missing ++ [leaf]) slot := by
  have leads := ((made.grows reaches.absent).leads reaches.leads).append made.leads
  refine ⟨found ++ missing, leaf, owner, rfl, ?_, ?_⟩
  · cases missing with
    | nil =>
      obtain ⟨rfl, rfl⟩ := made.here rfl
      exact leads.setField reaches.stands apart slot
    | cons first rest =>
      -- The object at the end is new and has no field that a way could go through.
      obtain ⟨-, bare⟩ := made.last (List.cons_ne_nil _ _)
      exact (grows_setField made.stands (bare leaf) slot).leads leads
  · rw [slot?_setField made.stands, if_pos ⟨rfl, rfl⟩]

/-! ## Writes that succeed, and writes that fail -/

/-- The ways in which a write along a path ends: with the result and the snapshot that it
leaves. -/
inductive PathWrite (snapshot : Snapshot) (handle : Handle) (dotted : String) (slot : Slot) :
    Except Fault Unit × Snapshot → Prop where
  /-- The way is blocked, and nothing is written. -/
  | refused {fault : Fault} :
      snapshot.Blocked handle (Text.segments dotted).dropLast fault →
        PathWrite snapshot handle dotted slot (.error fault, snapshot)
  /-- The missing parents are made, and the leaf below them is written. -/
  | done {found missing : List String} {leaf : String} {reached owner : Handle} {last : Snapshot} :
      Text.segments dotted = found ++ missing ++ [leaf] →
        snapshot.Reaches handle found missing reached →
        snapshot.descend handle (found ++ missing) = (.ok owner, last) →
        Made snapshot reached missing owner last →
        PathWrite snapshot handle dotted slot (.ok (), last.setField owner leaf slot)

theorem setPath_pathWrite (snapshot : Snapshot) (handle : Handle) (dotted : String)
    (slot : Slot) : PathWrite snapshot handle dotted slot (snapshot.setPath handle dotted slot) := by
  obtain ⟨parents, leaf, parted⟩ := (Text.segments dotted).eq_nil_or_concat.resolve_left
    (Text.segments_ne_nil dotted)
  rw [List.concat_eq_append] at parted
  rcases snapshot.exists_reaches_or_blocked handle parents with
    ⟨found, missing, reached, rfl, reaches⟩ | ⟨fault, blocked⟩
  · obtain ⟨owner, last, descended, made, done⟩ := setPath_of_reaches parted reaches slot
    rw [done]
    exact .done parted reaches descended made
  · have blocked : snapshot.Blocked handle (Text.segments dotted).dropLast fault := by
      rw [parted, List.dropLast_concat]
      exact blocked
    rw [setPath_of_blocked slot blocked]
    exact .refused blocked

/-- **A write along a path writes one field.**  When it succeeds, references lead along the parents
that are found to an object that exists, and the parents after that are missing.  The globals stay,
and there is a new object for each missing parent.  Of the older objects only the one that was
reached is changed, in one field: the leaf, or the first missing parent, which then refers to the
first new object.  At the end of the parents the leaf holds what was written; and a read along the
path gives it, unless the parents go through that field. -/
theorem setPath_writes_one_field {after : Snapshot} {dotted : String} {slot : Slot}
    (written : snapshot.setPath handle dotted slot = (.ok (), after)) :
    ∃ found missing leaf reached owner,
      Text.segments dotted = found ++ missing ++ [leaf] ∧
      snapshot.Reaches handle found missing reached ∧
      Written snapshot reached missing leaf slot after ∧
      (snapshot.descend handle (found ++ missing)).1 = .ok owner ∧
      after.slot? owner leaf = some slot ∧
      (¬snapshot.Passes handle (found ++ missing) owner leaf →
        after.inspector.path handle dotted = .ok slot.value) := by
  have ending := snapshot.setPath_pathWrite handle dotted slot
  rw [written] at ending
  cases ending with
  | @done found missing leaf reached owner last parted reaches descended made =>
    refine ⟨found, missing, leaf, reached, owner, parted, reaches,
      made.written reaches.stands leaf slot, by rw [descended], ?_, fun apart => ?_⟩
    · rw [slot?_setField made.stands, if_pos ⟨rfl, rfl⟩]
    · have held := made.holds reaches apart slot
      rw [← parted] at held
      exact held.path

/-- An object that refers to itself, and to no object. -/
def looped : Snapshot where
  objects := #[.ofList [("self", .ref ⟨0⟩), ("gone", .ref ⟨3⟩)], .empty]

/-- Around the loop there are two missing parents.  The second becomes the object that had been
missing behind the other reference, and still only one field of the looped object is new. -/
theorem setPath_looped :
    let after := (looped.setPath ⟨0⟩ "self.self.new.more.leaf" (.scalar 5)).2
    looped.setPath ⟨0⟩ "self.self.new.more.leaf" (.scalar 5) = (.ok (), after) ∧
      after.size = 4 ∧
      after.inspector.path ⟨0⟩ "self.self.new.more.leaf" = .ok (.scalar 5) ∧
      ∃ found missing leaf reached owner,
        Text.segments "self.self.new.more.leaf" = found ++ missing ++ [leaf] ∧
        looped.Reaches ⟨0⟩ found missing reached ∧
        Written looped reached missing leaf (.scalar 5) after ∧
        (looped.descend ⟨0⟩ (found ++ missing)).1 = .ok owner ∧
        after.slot? owner leaf = some (.scalar 5) ∧
        (¬looped.Passes ⟨0⟩ (found ++ missing) owner leaf →
          after.inspector.path ⟨0⟩ "self.self.new.more.leaf" = .ok (.scalar 5)) := by
  intro after
  have written : looped.setPath ⟨0⟩ "self.self.new.more.leaf" (.scalar 5) = (.ok (), after) :=
    rfl
  exact ⟨written, rfl, rfl, setPath_writes_one_field written⟩

/-- A path that goes through the field that it writes may lead elsewhere after the write. -/
example :
    let after := (looped.setPath ⟨0⟩ "self.self" (.scalar 5)).2
    after.inspector.path ⟨0⟩ "self" = .ok (.scalar 5) ∧
      after.inspector.path ⟨0⟩ "self.self" = .error (.expectedStructure "self") :=
  ⟨rfl, rfl⟩

/-- **A write along a path happens as a whole or not at all.**  When it fails the snapshot is as it
was before.  It fails with a fault just when the fault tells what stands in the way of the parents:
the first object that does not exist, or the first parent that holds something else than a
reference.  Where the way leads to a missing parent nothing can fail any more. -/
theorem setPath_atomic (snapshot : Snapshot) (handle : Handle) (dotted : String) (slot : Slot) :
    let parents := (Text.segments dotted).dropLast
    (∀ fault after, snapshot.setPath handle dotted slot = (.error fault, after) →
      after = snapshot) ∧
    (∀ fault, (snapshot.setPath handle dotted slot).1 = .error fault ↔
      snapshot.Blocked handle parents fault) ∧
    ∀ front segment rest owner, parents = front ++ segment :: rest →
      snapshot.Leads handle front owner → owner.index < snapshot.size →
        snapshot.slot? owner segment = none →
          (snapshot.setPath handle dotted slot).1 = .ok () := by
  intro parents
  have ending := snapshot.setPath_pathWrite handle dotted slot
  refine ⟨fun fault after failed => ?_, fun fault => ⟨fun failed => ?_, fun blocked => ?_⟩, ?_⟩
  · rw [failed] at ending
    cases ending with
    | refused _ => rfl
  · generalize snapshot.setPath handle dotted slot = ended at ending failed
    cases ending with
    | refused blocked =>
      obtain rfl := Except.error.inj failed
      exact blocked
    | done _ _ _ _ => cases failed
  · rw [setPath_of_blocked slot blocked]
  · intro front segment rest owner same leads stands absent
    have parted := List.dropLast_concat_getLast (Text.segments_ne_nil dotted)
    have reaches : snapshot.Reaches handle front (segment :: rest) owner := by
      refine ⟨leads, stands, ?_⟩
      rintro _ ⟨⟩
      exact absent
    rw [show (Text.segments dotted).dropLast = front ++ segment :: rest from same] at parted
    obtain ⟨_, _, -, -, done⟩ := setPath_of_reaches parted.symm reaches slot
    rw [done]

end Snapshot

end Inflight
